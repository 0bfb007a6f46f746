import ApiRoutes.Proofs.Route.Positions
import ApiRoutes.Proofs.Run.Trace

/-!
# Routes without their types

What is left of a route without the types and schemas of its bodies, and without its responses, is
its skeleton (`Route.skeleton`). Of the registry an operation reads no more than goes into types and
schemas. So the skeleton of its route depends neither on the registry nor on what is extracted, and
in particular not on what earlier operations have put there.

Two runs that differ in what they extract are therefore alike: if one of them fails, so does the
other, with the same error (`Alike`), and they come to routes with the same skeletons
(`Progress.alike_advanceAll`). Grouping looks at nothing but skeletons
(`RouteGroups.ofRoutes_map_skeleton`).
-/

namespace ApiRoutes

/-! ## Computations that are alike -/

/-- Two computations that fail with the same error or give related values. -/
inductive Alike {ε α β : Type} (R : α → β → Prop) : Except ε α → Except ε β → Prop
  | error (e : ε) : Alike R (.error e) (.error e)
  | ok {a : α} {b : β} (h : R a b) : Alike R (.ok a) (.ok b)

namespace Alike

variable {ε ε' α β γ δ : Type} {R : α → β → Prop} {S : γ → δ → Prop}

theorem of_refl {R : α → α → Prop} (h : ∀ a, R a a) (x : Except ε α) : Alike R x x := by
  cases x with
  | error e => exact .error e
  | ok a => exact .ok (h a)

theorem bind {x : Except ε α} {y : Except ε β} {f : α → Except ε γ} {g : β → Except ε δ}
    (h : Alike R x y) (hnext : ∀ a b, R a b → Alike S (f a) (g b)) :
    Alike S (x >>= f) (y >>= g) := by
  cases h with
  | error e => exact .error e
  | ok h => exact hnext _ _ h

theorem mapError {x : Except ε α} {y : Except ε β} (h : Alike R x y) (f : ε → ε') :
    Alike R (x.mapError f) (y.mapError f) := by
  cases h with
  | error e => exact .error (f e)
  | ok h => exact .ok h

/-- What is related came out of the two computations. -/
theorem and_ok {x : Except ε α} {y : Except ε β} (h : Alike R x y) :
    Alike (fun a b => R a b ∧ x = .ok a ∧ y = .ok b) x y := by
  cases h with
  | error e => exact .error e
  | ok h => exact .ok ⟨h, rfl, rfl⟩

/-- Loops are alike if their steps are. -/
theorem foldlM {f : α → γ → Except ε α} {g : β → γ → Except ε β}
    (hstep : ∀ a b x, R a b → Alike R (f a x) (g b x)) (xs : List γ) {a : α} {b : β}
    (h : R a b) : Alike R (xs.foldlM f a) (xs.foldlM g b) := by
  induction xs generalizing a b with
  | nil => exact .ok h
  | cons x xs ih =>
      rw [List.foldlM_cons, List.foldlM_cons]
      exact (hstep a b x h).bind fun _ _ h => ih h

end Alike

/-! ## Skeletons -/

/-- A request body without its schema and content kind, and with nothing of its type but whether it
has one. -/
def RequestBodyInfo.skeleton (body : RequestBodyInfo) : RequestBodyInfo :=
  { body with contentKind := .other, schema := none, type := body.type.map fun _ => "" }

/-- An argument without its type. -/
def SpecificArg.skeleton (arg : SpecificArg) : SpecificArg := { arg with type := "" }

/-- The bundled arguments without the type of the body. -/
def SpecificArgs.skeleton (args : SpecificArgs) : SpecificArgs :=
  { args with body := args.body.map SpecificArg.skeleton }

/-- A route without the types and schemas of its bodies and of its object of parameters, and without
its responses. -/
def Route.skeleton (route : Route) : Route :=
  { route with
    requestBody := route.requestBody.skeleton
    requestParams := none
    responseBody := default
    specificArgs := route.specificArgs.skeleton }

/-! ## Bodies -/

section

variable (r : Resolver) (op : Operation) (params : RouteParams)

theorem Assembler.skeleton_requestBody (registry other : Registry) :
    (requestBody r registry op params).skeleton = (requestBody r other op params).skeleton := by
  cases hform : params.formData with
  | cons param rest => simp only [requestBody, hform]
  | nil =>
      simp only [requestBody, hform, RequestBodyInfo.skeleton]
      cases op.requestBody <;> rfl

theorem Assembler.isSome_type_of_isSome_schema {registry : Registry}
    (h : (requestBody r registry op params).schema.isSome = true) :
    (requestBody r registry op params).type.isSome = true := by
  cases hform : params.formData with
  | cons param rest => simp only [requestBody, hform, Option.isSome_some]
  | nil =>
      simp only [requestBody, hform] at h ⊢
      cases hbody : op.requestBody with
      | none => rw [hbody] at h; cases h
      | some entry => rfl

end

theorem skeleton_extractRequestBody (r : Resolver) (registry : Registry) (options : ExtractOptions)
    (usage : String) {body : RequestBodyInfo}
    (h : body.schema.isSome = true → body.type.isSome = true) :
    (extractRequestBody r registry options usage body).value.skeleton = body.skeleton := by
  unfold extractRequestBody
  split
  · rename_i schema _ hschema
    obtain ⟨type, htype⟩ := Option.isSome_iff_exists.mp (h (by rw [hschema]; rfl))
    simp only [RequestBodyInfo.skeleton, htype, Option.map_some]
  · rfl

/-! ## Arguments -/

namespace Assembler

theorem map_eq_map_cases {α β : Type} {f : α → β} {x y : Option α} (h : x.map f = y.map f) :
    (x = none ∧ y = none) ∨ ∃ a b, x = some a ∧ y = some b ∧ f a = f b := by
  cases x with
  | none => exact .inl ⟨rfl, Option.map_eq_none_iff.mp h.symm⟩
  | some a =>
      obtain ⟨b, hb, hab⟩ := Option.map_eq_some_iff.mp h.symm
      exact .inr ⟨a, b, rfl, hb, hab.symm⟩

theorem alike_bodyArg {body other : RequestBodyInfo} (h : body.skeleton = other.skeleton)
    (names : ArgNames) :
    Alike (fun x y => x.1.map SpecificArg.skeleton = y.1.map SpecificArg.skeleton ∧ x.2 = y.2)
      (bodyArg body names) (bodyArg other names) := by
  obtain ⟨hname, -, -, -, htype, hrequired, -⟩ := RequestBodyInfo.mk.inj h
  unfold bodyArg
  rcases map_eq_map_cases htype with ⟨hnone, hnone'⟩ | ⟨type, type', hsome, hsome', -⟩
  · rw [hnone, hnone']
    exact .ok ⟨rfl, rfl⟩
  · rw [hsome, hsome', hname, hrequired]
    refine (Alike.of_refl (fun _ => rfl) _).bind ?_
    rintro named _ rfl
    exact .ok ⟨rfl, rfl⟩

/-- The arguments are named alike, or fail alike, whatever the type of the body. -/
theorem alike_specificArgs (r : Resolver) (params : RouteParams) (pathArgs : List PathArg)
    {body other : RequestBodyInfo} (h : body.skeleton = other.skeleton) :
    Alike (fun args args' => args.skeleton = args'.skeleton)
      (specificArgs r params pathArgs body) (specificArgs r params pathArgs other) := by
  unfold specificArgs
  refine (Alike.of_refl (fun _ => rfl) _).bind ?_
  rintro ⟨query, names⟩ _ rfl
  refine (alike_bodyArg h names).bind ?_
  rintro ⟨bundled, names⟩ ⟨bundled', _⟩ ⟨hbody, rfl⟩
  refine (Alike.of_refl (fun _ => rfl) _).bind ?_
  rintro ⟨path, names⟩ _ rfl
  refine (Alike.of_refl (fun _ => rfl) _).bind ?_
  rintro ⟨headers, names⟩ _ rfl
  refine .ok ?_
  simp only [SpecificArgs.skeleton]
  rw [hbody]

theorem skeleton_renameBody {body other : RequestBodyInfo} {args args' : SpecificArgs}
    (hbody : body.skeleton = other.skeleton) (hargs : args.skeleton = args'.skeleton) :
    (renameBody body args).skeleton = (renameBody other args').skeleton := by
  obtain ⟨-, harg, -, -⟩ := SpecificArgs.mk.inj hargs
  unfold renameBody
  rcases map_eq_map_cases harg with ⟨hnone, hnone'⟩ | ⟨arg, arg', hsome, hsome', harg⟩
  · rw [hnone, hnone']
    exact hbody
  · obtain ⟨hname, -, -⟩ := SpecificArg.mk.inj harg
    rw [hsome, hsome']
    show { body.skeleton with name := arg.name } = { other.skeleton with name := arg'.name }
    rw [hbody, hname]

/-! ## Operations -/

/-- The same settings but for what is extracted. -/
def withExtract (a : Assembler) (extract : ExtractOptions) : Assembler :=
  { a with options := { a.options with extract } }

variable (a : Assembler) (entry : Document.Entry) (extract : ExtractOptions)

theorem skeleton_bodyOf (registry other : Registry) (usage usage' : String) :
    (a.bodyOf entry registry usage).value.skeleton
      = ((a.withExtract extract).bodyOf entry other usage').value.skeleton := by
  rw [bodyOf, bodyOf,
    skeleton_extractRequestBody _ _ _ _ (isSome_type_of_isSome_schema _ _ _),
    skeleton_extractRequestBody _ _ _ _ (isSome_type_of_isSome_schema _ _ _)]
  exact skeleton_requestBody _ _ _ _ _

theorem skeleton_routeOf {state other : RunState} (base : String) {args args' : SpecificArgs}
    (hnames : state.names = other.names) (hid : state.nextId = other.nextId)
    (hargs : args.skeleton = args'.skeleton) :
    (a.routeOf entry state base args).skeleton
      = ((a.withExtract extract).routeOf entry other base args').skeleton := by
  have hbody := skeleton_renameBody (a.skeleton_bodyOf entry extract state.registry other.registry
    (a.nameOf entry state.names base).1.usage (a.nameOf entry state.names base).1.usage) hargs
  simp only [Route.skeleton, routeOf]
  rw [hbody, hargs, hid, hnames]
  rfl

/-- The outcome for an operation has the same skeleton, and leaves the same names. -/
theorem alike_assemble (hhooks : a.hooks = .none) {state other : RunState}
    (hnames : state.names = other.names) (hid : state.nextId = other.nextId) :
    Alike (fun x y => x.route.toList.map Route.skeleton = y.route.toList.map Route.skeleton
        ∧ x.state.names = y.state.names ∧ x.state.nextId = y.state.nextId)
      (a.assemble state entry) ((a.withExtract extract).assemble other entry) := by
  obtain ⟨notes, hassemble⟩ := a.assemble_eq entry state
  obtain ⟨notes', hassemble'⟩ := (a.withExtract extract).assemble_eq entry other
  rw [hassemble, hassemble']
  refine (Alike.of_refl (fun _ => rfl) (a.askedName entry)).bind ?_
  rintro base _ rfl
  have hargs := alike_specificArgs a.resolver (a.paramsOf entry)
    (pathArgs a.resolver (a.paramsOf entry)) (a.skeleton_bodyOf entry extract state.registry
      other.registry (a.nameOf entry state.names base).1.usage
      (a.nameOf entry other.names base).1.usage)
  refine (hargs.mapError _).bind fun args args' hargs => .ok ⟨?_, ?_, ?_⟩
  · have hroute := a.skeleton_routeOf entry extract base hnames hid hargs
    have hhooks' : (a.withExtract extract).hooks = .none := hhooks
    rw [hhooks, hhooks']
    exact congrArg (fun route => [route]) hroute
  · show (a.nameOf entry state.names base).2 = (a.nameOf entry other.names base).2
    rw [hnames]
  · show state.nextId + 1 = other.nextId + 1
    rw [hid]

end Assembler

/-! ## Runs -/

namespace Progress

/-- Two runs have come to the same names, and to routes with the same skeletons. -/
structure SameSkeleton (p q : Progress) : Prop where
  routes : p.routes.map Route.skeleton = q.routes.map Route.skeleton
  names : p.state.names = q.state.names
  nextId : p.state.nextId = q.state.nextId

variable {a : Assembler} (hhooks : a.hooks = .none) (extract : ExtractOptions)
include hhooks

theorem alike_advance {p q : Progress} (entry : Document.Entry) (h : p.SameSkeleton q) :
    Alike SameSkeleton (p.advance a entry) (q.advance (a.withExtract extract) entry) := by
  refine (a.alike_assemble entry extract hhooks h.names h.nextId).bind ?_
  rintro x y ⟨hroute, hnames, hid⟩
  refine .ok ⟨?_, hnames, hid⟩
  rw [List.map_append, List.map_append, h.routes, hroute]

theorem alike_advanceAll (entries : List Document.Entry) :
    Alike SameSkeleton ((start a).advanceAll a entries)
      ((start (a.withExtract extract)).advanceAll (a.withExtract extract) entries) :=
  Alike.foldlM (fun _ _ entry h => alike_advance hhooks extract entry h) entries ⟨rfl, rfl, rfl⟩

end Progress

/-! ## Modules -/

namespace RouteGroups

variable (routes : List Route)

theorem insertByName_map_skeleton (index : Nat) (sorted : List Nat) :
    insertByName (routes.map Route.skeleton) index sorted = insertByName routes index sorted := by
  induction sorted with
  | nil => rfl
  | cons i rest ih =>
      simp only [insertByName, List.getElem?_map, Option.map_map, ih]
      rfl

/-- Grouping looks at nothing but skeletons. -/
theorem ofRoutes_map_skeleton (options : ModuleOptions) :
    ofRoutes options (routes.map Route.skeleton) = ofRoutes options routes := by
  simp only [ofRoutes, namespaces_map (f := Route.skeleton) (fun _ => rfl),
    positions_map (f := Route.skeleton) (fun _ => rfl), sortByName, insertByName_map_skeleton]

end RouteGroups

end ApiRoutes
