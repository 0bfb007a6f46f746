import ApiRoutes.Document.Upgrade
import ApiRoutes.Proofs.Data.Tables
import Mathlib.Data.List.Forall2

/-!
# Body parameters become request bodies

In an older document a body is sent as a parameter, which stands in the list of an operation or of
its path, or is referred to from there. Where no list has more than one such entry (`OneBodyEach`),
the upgrade takes it out of each list and leaves the others as they are (`takeBody_eq`). What it does
with the parameters taken out is told operation by operation (`BodyOf`): a body that the operation
has already stays; else its own parameter counts, and else that of the path.

`liftsBodies_upgrade` is about all documents of version 2 of that kind.
-/

namespace ApiRoutes

namespace Upgrade

/-! ## Body parameters -/

/-- The entry is a body parameter, or a reference whose chain ends in one. -/
def IsBody (components : Components) (entry : OrRef Parameter) : Prop :=
  ∃ param, parameterOf? components entry = some param ∧ param.location = some .body

/-- Among the entries is the parameter, or a reference to it, and it is sent as body. -/
def SendsBody (components : Components) (entries : List (OrRef Parameter)) (param : Parameter) :
    Prop :=
  ∃ entry ∈ entries, parameterOf? components entry = some param ∧ param.location = some .body

variable {components : Components}

theorem isAt_body_iff {entry : OrRef Parameter} :
    isAt components .body entry = true ↔ IsBody components entry := by
  unfold isAt IsBody
  cases parameterOf? components entry <;> simp

instance : DecidablePred (IsBody components) := fun _ => decidable_of_iff _ isAt_body_iff

theorem takeBody_of_none {entries : List (OrRef Parameter)}
    (h : ∀ entry ∈ entries, ¬ IsBody components entry) :
    takeBody components entries = (none, entries) := by
  induction entries with
  | nil => rfl
  | cons entry rest ih =>
      obtain ⟨hentry, hrest⟩ := List.forall_mem_cons.mp h
      rw [takeBody, if_neg (isAt_body_iff.not.mpr hentry), ih hrest]

/-- Taking the body parameter out of a list with at most one leaves the other entries, and no body
parameter. -/
theorem takeBody_eq {entries : List (OrRef Parameter)}
    (h : entries.countP (IsBody components ·) ≤ 1) :
    (takeBody components entries).2 = entries.filter (¬ IsBody components ·) := by
  induction entries with
  | nil => rfl
  | cons entry rest ih =>
      rw [List.countP_cons] at h
      rw [takeBody]
      by_cases hentry : IsBody components entry
      · have hrest : ∀ other ∈ rest, ¬ IsBody components other := by
          have hzero : rest.countP (IsBody components ·) = 0 := by
            simp only [hentry, decide_true, if_true] at h
            omega
          simpa using hzero
        rw [if_pos (isAt_body_iff.mpr hentry), List.filter_cons_of_neg (by simpa using hentry)]
        exact (List.filter_eq_self.mpr fun other hother => by simpa using hrest other hother).symm
      · rw [if_neg (isAt_body_iff.not.mpr hentry), List.filter_cons_of_pos (by simpa using hentry)]
        exact congrArg (entry :: ·) (ih (by omega))

theorem takeBody_of_sendsBody {entries : List (OrRef Parameter)} {param : Parameter}
    (hone : entries.countP (IsBody components ·) ≤ 1) (h : SendsBody components entries param) :
    (takeBody components entries).1 = some param := by
  obtain ⟨entry, hentry, hparam, hbody⟩ := h
  induction entries with
  | nil => exact nomatch hentry
  | cons first rest ih =>
      rw [List.countP_cons] at hone
      rw [takeBody]
      rcases List.mem_cons.mp hentry with rfl | hrest
      · rw [if_pos (isAt_body_iff.mpr ⟨param, hparam, hbody⟩)]
        exact hparam
      · -- the entry is in the rest, and so the first one cannot be a body parameter as well
        have hcount : 0 < rest.countP (IsBody components ·) :=
          List.countP_pos_iff.mpr ⟨entry, hrest, by simpa using ⟨param, hparam, hbody⟩⟩
        have hfirst : ¬ IsBody components first := by
          intro hfirst
          simp only [hfirst, decide_true, if_true] at hone
          omega
        rw [if_neg (isAt_body_iff.not.mpr hfirst)]
        exact ih (by omega) hrest

theorem takeBody_of_not_sendsBody {entries : List (OrRef Parameter)}
    (h : ¬ ∃ param, SendsBody components entries param) :
    (takeBody components entries).1 = none := by
  rw [takeBody_of_none fun entry hentry ⟨param, hparam, hbody⟩ =>
    h ⟨param, entry, hentry, hparam, hbody⟩]

/-! ## Lifted bodies -/

/-- The media types among several that are not for forms. -/
def plainTypes (consumes : List String) : List String :=
  consumes.filter fun type =>
    type ≠ "application/x-www-form-urlencoded" && type ≠ "multipart/form-data"

/-- The request body says what the body parameter says, under each media type that is not for forms,
or as JSON if there is none. -/
structure LiftedFrom (consumes : List String) (param : Parameter) (body : RequestBody) : Prop where
  required : body.required = some param.required
  description : body.description = param.description
  name : body.name = none
  mediaTypes : body.content.keys =
    if plainTypes consumes = [] then ["application/json"] else Text.distinct (plainTypes consumes)
  schema : ∀ media ∈ body.content.values,
    media = { schema := param.schema <|> param.keywordSchema.map .inline }

theorem keys_map_const {α : Type} (keys : List String) (value : α) :
    Entries.keys (keys.map fun key => (key, value)) = keys := by
  simp [Entries.keys, Function.comp_def]

theorem bodyMediaTypes_eq (consumes : List String) : bodyMediaTypes consumes =
    if plainTypes consumes = [] then ["application/json"] else plainTypes consumes := by
  have hplain : (consumes.filter fun t => t ≠ urlEncoded && t ≠ multipart) = plainTypes consumes :=
    rfl
  rw [bodyMediaTypes, hplain]
  cases plainTypes consumes <;> rfl

theorem liftedFrom_liftedBody (consumes : List String) (param : Parameter) :
    LiftedFrom consumes param (liftedBody consumes param) := by
  have hcontent : (liftedBody consumes param).content =
      (Text.distinct (bodyMediaTypes consumes)).map fun type =>
        (type, { schema := bodySchema param }) :=
    Entries.ofList_map_const _ _
  refine ⟨rfl, rfl, rfl, ?_, fun media hmedia => ?_⟩
  · rw [hcontent, keys_map_const, bodyMediaTypes_eq]
    split <;> rfl
  · rw [hcontent] at hmedia
    obtain ⟨⟨type, value⟩, hentry, rfl⟩ := List.mem_map.mp hmedia
    obtain ⟨kept, -, heq⟩ := List.mem_map.mp hentry
    exact (Prod.mk.inj heq).2.symm

/-! ## Operations -/

/-- The operation sends the body that the parameter describes. -/
def TakesBody (consumes : List String) (param : Parameter) (before after : Operation) : Prop :=
  (∃ body, after.requestBody = some (.inline body) ∧ LiftedFrom consumes param body)
    ∧ after.requestBodyName = (before.requestBodyName <|> param.name)

/-- The body of the operation is what it was. -/
def KeepsBody (before after : Operation) : Prop :=
  after.requestBody = before.requestBody ∧ after.requestBodyName = before.requestBodyName

/-- What the upgrade makes of the parameters and the body of an operation, whose path has the given
parameters. -/
structure BodyOf (components : Components) (consumes : List String)
    (shared : List (OrRef Parameter)) (before after : Operation) : Prop where
  parameters : after.parameters = before.parameters.filter (¬ IsBody components ·)
  given : before.requestBody.isSome → KeepsBody before after
  own : before.requestBody = none →
    ∀ param, SendsBody components before.parameters param → TakesBody consumes param before after
  inherited : before.requestBody = none → (¬ ∃ param, SendsBody components before.parameters param) →
    ∀ param, SendsBody components shared param → TakesBody consumes param before after
  absent : before.requestBody = none → (¬ ∃ param, SendsBody components before.parameters param) →
    (¬ ∃ param, SendsBody components shared param) → KeepsBody before after

theorem withBody_of_isSome {consumes : List String} {op : Operation}
    (h : op.requestBody.isSome) (body : Option Parameter) : withBody consumes op body = op := by
  cases body with
  | none => rfl
  | some body => exact if_pos h

theorem takesBody_withBody {op : Operation} (consumes : List String) (h : op.requestBody = none)
    (param : Parameter) : TakesBody consumes param op (withBody consumes op (some param)) := by
  have hlift : withBody consumes op (some param) =
      { op with
        requestBody := some (.inline (liftedBody consumes param))
        requestBodyName := op.requestBodyName <|> param.name } :=
    if_neg (by simp [h])
  rw [hlift]
  exact ⟨⟨_, rfl, liftedFrom_liftedBody consumes param⟩, rfl⟩

theorem withBody_parameters (consumes : List String) (op : Operation) (body : Option Parameter) :
    (withBody consumes op body).parameters = op.parameters := by
  cases body with
  | none => rfl
  | some body =>
      rw [withBody]
      split <;> rfl

/-- Form parameters only matter for the media types. -/
theorem withFormTypes_eq (components : Components) (consumes : List String)
    (shared : List (OrRef Parameter)) (op : Operation) :
    ∃ contentType, withFormTypes components consumes shared op = { op with contentType } := by
  unfold withFormTypes
  split
  · exact ⟨_, rfl⟩
  · split <;> exact ⟨_, rfl⟩

/-- What is left of an operation when its body parameter is taken out. -/
def drained (doc : Document) (op : Operation) : Operation :=
  { op with
    parameters := (takeBody (Upgrade.components doc) op.parameters).2
    consumes := none
    produces := none }

/-- An upgraded operation has the parameters that are left, and the body that it is given. -/
theorem operation_eq (doc : Document) (shared : List (OrRef Parameter))
    (sharedBody : Option Parameter) (op : Operation) :
    ∃ contentType responses, operation doc shared sharedBody op =
      { withBody (op.consumes.getD doc.consumes) (drained doc op)
          ((takeBody (Upgrade.components doc) op.parameters).1 <|> sharedBody) with
        contentType, responses } := by
  obtain ⟨contentType, hform⟩ := withFormTypes_eq (Upgrade.components doc)
    (op.consumes.getD doc.consumes) shared (withBody (op.consumes.getD doc.consumes)
      (drained doc op) ((takeBody (Upgrade.components doc) op.parameters).1 <|> sharedBody))
  have hop : operation doc shared sharedBody op =
      { withFormTypes (Upgrade.components doc) (op.consumes.getD doc.consumes) shared
          (withBody (op.consumes.getD doc.consumes) (drained doc op)
            ((takeBody (Upgrade.components doc) op.parameters).1 <|> sharedBody)) with
        responses := (operation doc shared sharedBody op).responses } :=
    rfl
  rw [hform] at hop
  exact ⟨contentType, (operation doc shared sharedBody op).responses, hop⟩

theorem bodyOf_operation {doc : Document} {shared : List (OrRef Parameter)} {op : Operation}
    (hshared : shared.countP (IsBody (Upgrade.components doc) ·) ≤ 1)
    (hown : op.parameters.countP (IsBody (Upgrade.components doc) ·) ≤ 1) :
    BodyOf (Upgrade.components doc) (op.consumes.getD doc.consumes) shared op
      (operation doc (takeBody (Upgrade.components doc) shared).2
        (takeBody (Upgrade.components doc) shared).1 op) := by
  obtain ⟨contentType, responses, hop⟩ := operation_eq doc
    (takeBody (Upgrade.components doc) shared).2 (takeBody (Upgrade.components doc) shared).1 op
  rw [hop]
  constructor
  case parameters =>
    show (withBody _ (drained doc op) _).parameters = _
    rw [withBody_parameters]
    exact takeBody_eq hown
  case given =>
    intro hgiven
    have hgiven' : (drained doc op).requestBody.isSome := hgiven
    rw [withBody_of_isSome hgiven']
    exact ⟨rfl, rfl⟩
  case own =>
    intro hnone param hparam
    rw [takeBody_of_sendsBody hown hparam]
    have hnone' : (drained doc op).requestBody = none := hnone
    exact takesBody_withBody _ hnone' param
  case inherited =>
    intro hnone habsent param hparam
    rw [takeBody_of_not_sendsBody habsent, takeBody_of_sendsBody hshared hparam]
    have hnone' : (drained doc op).requestBody = none := hnone
    exact takesBody_withBody _ hnone' param
  case absent =>
    intro hnone habsent habsent'
    rw [takeBody_of_not_sendsBody habsent, takeBody_of_not_sendsBody habsent']
    exact ⟨rfl, rfl⟩

end Upgrade

/-! ## Documents -/

/-- No list of parameters, of a path or of an operation, has more than one body parameter. -/
def Document.OneBodyEach (doc : Document) : Prop :=
  ∀ path ∈ doc.paths,
    path.2.parameters.countP (Upgrade.IsBody (Upgrade.components doc) ·) ≤ 1
      ∧ ∀ entry ∈ path.2.operations,
        entry.2.parameters.countP (Upgrade.IsBody (Upgrade.components doc) ·) ≤ 1

/-- The path after the upgrade has its parameters but for the body parameter, and its operations in
order, each with the body that it is to have. -/
structure PathItem.BodiesLifted (components : Components) (consumes : List String)
    (before after : PathItem) : Prop where
  parameters : after.parameters = before.parameters.filter (¬ Upgrade.IsBody components ·)
  operations : List.Forall₂ (fun entry entry' =>
    entry'.1 = entry.1 ∧ Upgrade.BodyOf components (entry.2.consumes.getD consumes)
      before.parameters entry.2 entry'.2) before.operations after.operations

theorem Upgrade.bodiesLifted_pathItem {doc : Document} {item : PathItem}
    (hshared : item.parameters.countP (Upgrade.IsBody (Upgrade.components doc) ·) ≤ 1)
    (hown : ∀ entry ∈ item.operations,
      entry.2.parameters.countP (Upgrade.IsBody (Upgrade.components doc) ·) ≤ 1) :
    item.BodiesLifted (Upgrade.components doc) doc.consumes (Upgrade.pathItem doc item) := by
  refine ⟨Upgrade.takeBody_eq hshared, ?_⟩
  refine List.forall₂_map_right_iff.mpr (List.forall₂_same.mpr fun entry hentry => ⟨rfl, ?_⟩)
  exact Upgrade.bodyOf_operation hshared (hown entry hentry)

/-- **Body parameters.** A document of version 2 without two body parameters in one list has a
current form, in which every path and every operation is in its place, and has its parameters in
order but for the body parameter, which is the operation's body where no other comes first. -/
theorem liftsBodies_upgrade {doc : Document} {version : String}
    (hversion : doc.swagger = some version) (hmajor : isMajor '2' version = true)
    (hone : doc.OneBodyEach) :
    ∃ current, doc.current = .ok current ∧ current.parts = Upgrade.components doc
      ∧ List.Forall₂ (fun path path' => path'.1 = path.1
        ∧ path.2.BodiesLifted current.parts doc.consumes path'.2) doc.paths current.paths := by
  refine ⟨doc.upgrade, Document.current_of_older hversion hmajor, rfl, ?_⟩
  refine List.forall₂_map_right_iff.mpr (List.forall₂_same.mpr fun path hpath => ⟨rfl, ?_⟩)
  obtain ⟨hshared, hown⟩ := hone path hpath
  exact Upgrade.bodiesLifted_pathItem hshared hown

/-- A store whose requests share a note, which they refer to by way of another reference. One sends a
pet of its own, and one has a body already. -/
def storeDocument : Document :=
  let body (name : String) (schema : OrRef Schema) : OrRef Parameter :=
    .inline { name := some name, location := some .body, required := true, schema := some schema }
  let limit : OrRef Parameter := .inline { name := some "limit", location := some .query }
  let trace : OrRef Parameter := .inline { name := some "trace", location := some .header }
  { swagger := some "2.0"
    info := { title := "Store", version := "1" }
    consumes := ["application/json", "multipart/form-data", "application/xml", "application/json"]
    parameters := [("Note", .ref "#/parameters/Text"), ("Text", body "text" (.inline .string))]
    paths := [("/pets", {
      parameters := [.ref "#/parameters/Note", limit]
      operations := [
        (.post, { parameters := [trace, body "pet" (.ref "#/definitions/Pet"), limit] }),
        (.put, { parameters := [trace], requestBodyName := some "note", consumes := some [] }),
        (.patch, { requestBody := some (.inline { content := [("text/plain", {})] }) })] })] }

/-- Each request of the store has its body: its own pet, the shared note as JSON under the name it
asked for, and the one it had. -/
theorem liftsBodies_store : ∃ current, storeDocument.current = .ok current
    ∧ List.Forall₂ (fun path path' => path'.1 = path.1
        ∧ path.2.BodiesLifted current.parts storeDocument.consumes path'.2)
      storeDocument.paths current.paths
    ∧ current.operations.map (fun entry => (entry.shared.length, entry.operation.parameters.length))
      = [(1, 2), (1, 1), (1, 0)]
    ∧ current.operations.map (fun entry => (entry.operation.requestBodyName,
        (entry.operation.requestBody.bind OrRef.value?).map fun body =>
          (body.required, body.content.keys)))
      = [(some "pet", some (some true, ["application/json", "application/xml"])),
        (some "note", some (some true, ["application/json"])), (none, some (none, ["text/plain"]))] := by
  obtain ⟨current, hcurrent, -, hpaths⟩ := @liftsBodies_upgrade storeDocument "2.0" rfl (by decide)
    (by unfold Document.OneBodyEach; decide +kernel)
  obtain rfl : storeDocument.upgrade = current := Except.ok.inj hcurrent
  exact ⟨_, hcurrent, hpaths, by decide +kernel, by decide +kernel⟩

end ApiRoutes
