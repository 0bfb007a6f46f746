import ApiRoutes.Proofs.Route.ReferencedBodies
import ApiRoutes.Proofs.Route.ResponseViews
import Mathlib.Algebra.Order.BigOperators.Group.List

/-!
# Labels of an error component

The component for the errors of a route is labelled with the titles and descriptions of the schemas it
merges. A schema may be a reference, whose chain goes through the schemas of the document and, since
inline schemas are moved to components along the way, through the components made before
(`schemaTable`). The labels of such a schema are those of the inline schema in which its chain ends
(`chainEnd?`).

What is looked up is the entry of the document that the reference names, and nothing beyond it
(`labelledSchema?_eq_some_iff`). So labels are missing exactly when a chain with labels at its end has
more than one link or leaves the document (`ReachesLabels`). The texts that are found are always some
of those at the ends of the chains, in their order, and texts that are joined can be told from fewer
of them by their length (`joinLabels_eq_iff`).
-/

namespace ApiRoutes

/-! ## Joined texts -/

/-- Each of the joined texts brings a separator, with one to spare. -/
theorem Text.length_joinWith (separator : String) : ∀ {texts : List String}, texts ≠ [] →
    (joinWith separator texts).length + separator.length
      = (texts.map fun text => text.length + separator.length).sum
  | [], h => absurd rfl h
  | [text], _ => by simp [joinWith]
  | text :: next :: rest, _ => by
      have hrest := length_joinWith separator (List.cons_ne_nil next rest)
      simp only [joinWith, String.length_append, List.map_cons, List.sum_cons] at hrest ⊢
      omega

section

variable {α β : Type}

/-- A part of a list that leaves something out weighs less. -/
theorem eq_of_sublist_of_sum_eq {f : α → Nat} (hpos : ∀ x, 0 < f x) {xs ys : List α}
    (h : xs.Sublist ys) (hsum : (xs.map f).sum = (ys.map f).sum) : xs = ys := by
  induction h with
  | slnil => rfl
  | cons y h _ =>
      have hle : _ ≤ _ := (h.map f).sum_le_sum fun _ _ => Nat.zero_le _
      have hy := hpos y
      rw [List.map_cons, List.sum_cons] at hsum
      omega
  | cons_cons y _ ih =>
      simp only [List.map_cons, List.sum_cons] at hsum
      rw [ih (by omega)]

variable {g h : α → Option β} (hsome : ∀ x, g x = none ∨ g x = h x) (xs : List α)
include hsome

theorem filterMap_sublist_filterMap : (xs.filterMap g).Sublist (xs.filterMap h) := by
  induction xs with
  | nil => exact .slnil
  | cons x xs ih =>
      cases hx : h x with
      | none =>
          rw [List.filterMap_cons_none ((hsome x).elim id (·.trans hx)), List.filterMap_cons_none hx]
          exact ih
      | some y =>
          rw [List.filterMap_cons_some hx]
          rcases hsome x with hnone | heq
          · rw [List.filterMap_cons_none hnone]
            exact ih.cons y
          · rw [List.filterMap_cons_some (heq.trans hx)]
            exact ih.cons_cons y

theorem filterMap_eq_filterMap_iff :
    xs.filterMap g = xs.filterMap h ↔ ∀ x ∈ xs, g x = h x := by
  refine ⟨fun hall => ?_, List.filterMap_congr⟩
  induction xs with
  | nil => exact List.forall_mem_nil _
  | cons x xs ih =>
      rw [List.forall_mem_cons]
      cases hx : h x with
      | none =>
          have hnone : g x = none := (hsome x).elim id (·.trans hx)
          rw [List.filterMap_cons_none hnone, List.filterMap_cons_none hx] at hall
          exact ⟨hnone, ih hall⟩
      | some y =>
          rw [List.filterMap_cons_some hx] at hall
          rcases hsome x with hnone | heq
          · -- one less on the left
            rw [List.filterMap_cons_none hnone] at hall
            have hlength := (filterMap_sublist_filterMap hsome xs).length_le
            rw [hall, List.length_cons] at hlength
            omega
          · rw [List.filterMap_cons_some (heq.trans hx)] at hall
            exact ⟨heq.trans hx, ih (List.cons.inj hall).2⟩

end

/-- Joined labels are the same as those of a longer list only if nothing is left out. -/
theorem joinLabels_eq_iff {separator : String} (hseparator : separator ≠ "")
    {labels all : List String}
    (h : (labels.filter (· ≠ "")).Sublist (all.filter (· ≠ ""))) :
    joinLabels separator labels = joinLabels separator all ↔
      labels.filter (· ≠ "") = all.filter (· ≠ "") := by
  have hpos : 0 < separator.length :=
    Nat.pos_of_ne_zero fun hzero => hseparator (String.length_eq_zero_iff.mp hzero)
  unfold joinLabels
  generalize labels.filter (· ≠ "") = some at h ⊢
  generalize all.filter (· ≠ "") = every at h ⊢
  cases some with
  | nil => cases every <;> simp
  | cons x xs =>
      cases every with
      | nil => cases h
      | cons y ys =>
          refine ⟨fun heq => ?_, fun heq => by rw [heq]⟩
          refine eq_of_sublist_of_sum_eq (f := fun text => text.length + separator.length)
            (fun text => by omega) h ?_
          rw [← Text.length_joinWith separator (List.cons_ne_nil x xs),
            ← Text.length_joinWith separator (List.cons_ne_nil y ys), Option.some.inj heq]

/-! ## What a schema is labelled by -/

/-- The schemas that references may go through: those of the document, then the components made so
far, by the names in their paths. -/
def schemaTable (r : Resolver) (earlier : List Component) : Entries (OrRef Schema) :=
  r.components.schemas ++ earlier.filterMap fun component =>
    (referenceName component.path "schemas").toOption.map fun name => (name, component.schema)

/-- The inline schema in which the chain of a schema ends. -/
def chainEnd? (table : Entries (OrRef Schema)) : OrRef Schema → Option Schema
  | .inline schema => some schema
  | .ref path => (follow "schemas" table path).toOption

/-- A label of some schemas, each taken from the end of its chain. -/
def chainLabels (table : Entries (OrRef Schema)) (label : Schema → Option String)
    (schemas : List (OrRef Schema)) : List String :=
  (schemas.filterMap (chainEnd? table)).filterMap label

/-- No chain with a label at its end has more than one link or leaves the document. -/
def ReachesLabels (r : Resolver) (earlier : List Component) (label : Schema → Option String)
    (schemas : List (OrRef Schema)) : Prop :=
  ∀ schema ∈ schemas, ∀ paths ending text,
    Leads "schemas" (schemaTable r earlier) schema paths ending →
    label ending = some text → text ≠ "" →
    Leads "schemas" r.components.schemas schema paths ending ∧ paths.length ≤ 1

theorem chainEnd?_eq_some_iff {table : Entries (OrRef Schema)} {schema : OrRef Schema}
    {ending : Schema} : chainEnd? table schema = some ending ↔
      ∃ paths, Leads "schemas" table schema paths ending := by
  cases schema with
  | inline schema =>
      constructor
      · intro h
        obtain rfl := Option.some.inj h
        exact ⟨[], .inline schema⟩
      · rintro ⟨paths, h⟩
        cases h
        rfl
  | ref path =>
      have hfollow : chainEnd? table (.ref path) = some ending ↔
          follow "schemas" table path = .ok ending := by
        simp only [chainEnd?]
        cases follow "schemas" table path <;> simp [Except.toOption]
      rw [hfollow, follow_eq_ok_iff]
      constructor
      · rintro ⟨paths, h⟩
        exact ⟨_, h⟩
      · rintro ⟨paths, h⟩
        cases h with
        | ref hlinked h => exact ⟨_, .ref hlinked h⟩

/-- Chains stay when entries are added behind those that are there. -/
theorem Leads.append {α : Type} {sectionName : String} {table : Entries (OrRef α)} {entry : OrRef α}
    {paths : List String} {value : α} (h : Leads sectionName table entry paths value)
    (more : Entries (OrRef α)) : Leads sectionName (table ++ more) entry paths value := by
  induction h with
  | inline value => exact .inline value
  | ref hlinked _ ih =>
      obtain ⟨name, hsplit, hfind⟩ := linked_eq_ok_iff.mp hlinked
      refine .ref (linked_of_find? hsplit ?_) ih
      rw [Entries.find?] at hfind ⊢
      rw [List.lookup_append, hfind, Option.some_or]

/-! ## What is looked up -/

section

variable {r : Resolver}

theorem Resolver.target_eq_schema_iff {sectionName name path : String} {entry : OrRef Schema} :
    r.target sectionName name path = .ok (some (.schema entry)) ↔
      sectionName = "schemas" ∧ r.components.schemas.find? name = some entry := by
  unfold Resolver.target
  split
  · simp
  · cases r.components.responseAt path <;> simp [Except.map]
  · cases r.components.requestBodyAt path <;> simp [Except.map]
  · cases r.components.parameterAt path <;> simp [Except.map]
  · cases r.components.headerAt path <;> simp [Except.map]
  · rename_i hother _ _ _ _
    exact iff_of_false nofun fun h => hother h.1

/-- A reference resolves to a schema exactly if it names an entry of the document's schemas. -/
theorem Resolver.resolve?_schema_iff {path : String} {entry : OrRef Schema} :
    (∃ resolved, r.resolve? path = some resolved ∧ resolved.target = .schema entry) ↔
      linked "schemas" r.components.schemas path = .ok entry := by
  rw [linked_eq_ok_iff]
  cases hsplit : splitReference path with
  | error e =>
      have hnone : r.resolve? path = none := by
        unfold Resolver.resolve? Resolver.lookup
        rw [hsplit]
        rfl
      simp [hnone]
  | ok parts =>
      obtain ⟨sectionName, name⟩ := parts
      have htarget : (∃ resolved, r.resolve? path = some resolved ∧
          resolved.target = .schema entry) ↔
          r.target sectionName name path = .ok (some (.schema entry)) := by
        rw [Resolver.resolve?_of_split hsplit]
        rcases r.target sectionName name path with e | _ | target
        · simp [Except.toOption]
        · simp [Except.toOption]
        · simp [Except.toOption]
      rw [htarget, Resolver.target_eq_schema_iff]
      simp

/-- Looked up is the entry that a reference names, if that is no reference again. -/
theorem labelledSchema?_eq_some_iff {schema : OrRef Schema} {labelled : Schema} :
    labelledSchema? r schema = some labelled ↔
      ∃ paths, Leads "schemas" r.components.schemas schema paths labelled ∧ paths.length ≤ 1 := by
  cases schema with
  | inline schema =>
      constructor
      · intro h
        obtain rfl := Option.some.inj h
        exact ⟨[], .inline schema, Nat.zero_le _⟩
      · rintro ⟨paths, h, -⟩
        cases h
        rfl
  | ref path =>
      have hlinked : labelledSchema? r (.ref path) = some labelled ↔
          linked "schemas" r.components.schemas path = .ok (.inline labelled) := by
        rw [← Resolver.resolve?_schema_iff]
        simp only [labelledSchema?]
        rcases r.resolve? path with _ | ⟨name, typeName, category, target⟩
        · simp
        · rcases target with (_ | _) | _ | _ | _ | _ | _ <;> simp
      rw [hlinked]
      constructor
      · exact fun h => ⟨[path], .ref h (.inline labelled), Nat.le_refl _⟩
      · rintro ⟨paths, h, hlength⟩
        cases h with
        | ref hlinked h =>
            cases h with
            | inline => exact hlinked
            | ref _ _ => simp at hlength

end

/-! ## Labels that are found -/

/-- The label of what is found for a schema, unless that is empty. -/
def foundLabel (find? : OrRef Schema → Option Schema) (label : Schema → Option String)
    (schema : OrRef Schema) : Option String :=
  (find? schema).bind fun found => (label found).filter (· ≠ "")

section

variable {find? : OrRef Schema → Option Schema} {label : Schema → Option String}
  {schema : OrRef Schema} {r : Resolver} {earlier : List Component}

theorem foundLabel_eq_some_iff {text : String} : foundLabel find? label schema = some text ↔
    ∃ found, find? schema = some found ∧ label found = some text ∧ text ≠ "" := by
  simp [foundLabel, Option.bind_eq_some_iff, Option.filter_eq_some_iff]

theorem filter_labels (find? : OrRef Schema → Option Schema) (label : Schema → Option String)
    (schemas : List (OrRef Schema)) :
    ((schemas.filterMap find?).filterMap label).filter (· ≠ "") =
      schemas.filterMap (foundLabel find? label) := by
  rw [List.filterMap_filterMap, List.filter_filterMap]
  refine List.filterMap_congr fun schema _ => ?_
  unfold foundLabel
  cases find? schema <;> rfl

theorem chainEnd?_of_labelledSchema? (earlier : List Component) {labelled : Schema}
    (h : labelledSchema? r schema = some labelled) :
    chainEnd? (schemaTable r earlier) schema = some labelled := by
  obtain ⟨paths, hleads, -⟩ := labelledSchema?_eq_some_iff.mp h
  exact chainEnd?_eq_some_iff.mpr ⟨paths, hleads.append _⟩

/-- A label that is looked up is the one at the end of the chain. -/
theorem foundLabel_labelledSchema? (r : Resolver) (earlier : List Component)
    (label : Schema → Option String) (schema : OrRef Schema) :
    foundLabel (labelledSchema? r) label schema = none ∨
      foundLabel (labelledSchema? r) label schema =
        foundLabel (chainEnd? (schemaTable r earlier)) label schema := by
  cases h : labelledSchema? r schema with
  | none => exact .inl (by simp [foundLabel, h])
  | some labelled =>
      have hending := chainEnd?_of_labelledSchema? earlier h
      exact .inr (by simp [foundLabel, h, hending])

/-- The label at the end of a chain is found exactly if the lookup gets that far. -/
theorem foundLabel_eq_iff :
    foundLabel (labelledSchema? r) label schema =
        foundLabel (chainEnd? (schemaTable r earlier)) label schema ↔
      ∀ paths ending text, Leads "schemas" (schemaTable r earlier) schema paths ending →
        label ending = some text → text ≠ "" →
        Leads "schemas" r.components.schemas schema paths ending ∧ paths.length ≤ 1 := by
  constructor
  · intro heq paths ending text hleads hlabel hne
    have htext : foundLabel (labelledSchema? r) label schema = some text :=
      heq.trans (foundLabel_eq_some_iff.mpr
        ⟨ending, chainEnd?_eq_some_iff.mpr ⟨paths, hleads⟩, hlabel, hne⟩)
    obtain ⟨labelled, hlabelled, -⟩ := foundLabel_eq_some_iff.mp htext
    obtain ⟨near, hnear, hlength⟩ := labelledSchema?_eq_some_iff.mp hlabelled
    obtain ⟨rfl, rfl⟩ := (hnear.append _).unique hleads
    exact ⟨hnear, hlength⟩
  · intro h
    refine (foundLabel_labelledSchema? r earlier label schema).elim (fun hnone => ?_) id
    rw [hnone, eq_comm, Option.eq_none_iff_forall_ne_some]
    intro text htext
    obtain ⟨ending, hending, hlabel, hne⟩ := foundLabel_eq_some_iff.mp htext
    obtain ⟨paths, hleads⟩ := chainEnd?_eq_some_iff.mp hending
    have hlabelled := labelledSchema?_eq_some_iff.mpr ⟨paths, h paths ending text hleads hlabel hne⟩
    have hfound := foundLabel_eq_some_iff.mpr ⟨ending, hlabelled, hlabel, hne⟩
    exact absurd (hnone.symm.trans hfound) nofun

/-- Labels are joined from the ends of all chains exactly if they are found there. -/
theorem joinLabels_labelled_iff {separator : String} (hseparator : separator ≠ "")
    (schemas : List (OrRef Schema)) :
    joinLabels separator ((schemas.filterMap (labelledSchema? r)).filterMap label) =
        joinLabels separator (chainLabels (schemaTable r earlier) label schemas) ↔
      ReachesLabels r earlier label schemas := by
  have hfound := foundLabel_labelledSchema? r earlier label
  have hsublist := filterMap_sublist_filterMap hfound schemas
  rw [← filter_labels, ← filter_labels] at hsublist
  rw [chainLabels, joinLabels_eq_iff hseparator hsublist, filter_labels, filter_labels,
    filterMap_eq_filterMap_iff hfound]
  exact forall₂_congr fun schema _ => foundLabel_eq_iff

end

/-! ## Runs -/

/-- Both labels of an error component are joined from the ends of the chains of the merged schemas
exactly as far as the chains are short and stay in the document. -/
structure Schema.IsLabelled (r : Resolver) (earlier : List Component) (merged : Schema) : Prop where
  title_iff :
    merged.title = joinLabels " " (chainLabels (schemaTable r earlier) (·.title) merged.oneOf) ↔
      ReachesLabels r earlier (·.title) merged.oneOf
  description_iff :
    merged.description =
        joinLabels "\n" (chainLabels (schemaTable r earlier) (·.description) merged.oneOf) ↔
      ReachesLabels r earlier (·.description) merged.oneOf

theorem isLabelled_mergedError (r : Resolver) (earlier : List Component)
    (schemas : List (OrRef Schema)) : (mergedError r schemas).IsLabelled r earlier where
  title_iff := joinLabels_labelled_iff (by decide) schemas
  description_iff := joinLabels_labelled_iff (by decide) schemas

/-- The component that an operation's errors are merged into, and the components before it. -/
theorem Assembler.exists_of_component_mem_errorOf (a : Assembler) {entry : Document.Entry}
    {registry : Registry} (usage : String) {typeName path : String}
    (h : .component typeName path ∈ (a.errorOf entry registry usage).value.error.schemas) :
    ∃ earlier component,
      (a.errorOf entry registry usage).registry.created = earlier ++ [component]
        ∧ component.typeName = typeName ∧ component.path = path
        ∧ component.schema = .inline (mergedError a.resolver
          ((failures (a.errorOf entry registry usage).value.responses).filterMap (·.schema))) := by
  let success := a.successOf entry registry usage
  have hunmerged : success.value.Unmerged :=
    (current_extractResponseBody a.resolver (a.bodyOf entry registry usage).registry
      a.options.extract usage (current_ofOperation _ _ _ _) (unmerged_ofOperation _ _ _ _)).2
  have hresponses : (a.errorOf entry registry usage).value.responses = success.value.responses :=
    responses_extractResponseError _ _ _ _ _
  rw [hresponses, ← hunmerged.errorSchemas_eq]
  rcases extractResponseError_cases a.resolver success.registry a.options.extract usage
      success.value with ⟨hextract, hne⟩ | hsame
  · obtain ⟨created, hschema, hcreated, herror⟩ :=
      extractResponseError_of_schemas a.resolver success.registry usage hextract hne
    rw [errorOf, herror, List.mem_singleton] at h
    obtain ⟨hname, hpath⟩ := ErrorSchema.component.inj h
    exact ⟨_, created, hcreated, hname.symm, hpath.symm, hschema⟩
  · -- errors that are not merged are responses
    rw [errorOf, hsame, hunmerged.listsErrors.schemas_eq] at h
    obtain ⟨response, -, hresponse⟩ := List.mem_map.mp h
    cases hresponse

/-- **Labels of an error component.** In a successful run with default hooks, let the errors of a route
be merged into a component. It merges the schemas of the errors among the responses. Its title joins
the titles at the ends of their chains exactly if each of these titles is reached within the document
by one link at most, and so with its description. -/
theorem errorLabels_of_run {doc : Document} {options : RouteOptions} {result : RunResult}
    (h : run doc options = .ok result) : ∀ route ∈ result.routes.routes, ∀ typeName path,
      .component typeName path ∈ route.responseBody.error.schemas →
        ∃ earlier component later merged,
          result.routes.components = earlier ++ component :: later
            ∧ component.typeName = typeName ∧ component.path = path
            ∧ component.schema = .inline merged
            ∧ merged.oneOf = (failures route.responseBody.responses).filterMap (·.schema)
            ∧ merged.IsLabelled (.ofDocument doc options.affixes) earlier := by
  intro route hroute typeName path hmem
  obtain ⟨template, progress, -, hprogress, rfl⟩ := run_ok h
  rw [routes_finish rfl hprogress] at hroute
  obtain ⟨done, entry, m, base, args, hprefix, hm, hbase, -, rfl⟩ :=
    Progress.exists_step_of_mem_routes rfl hprogress route hroute
  let a := Assembler.plain doc options template
  let usage := (a.nameOf entry m.state.names base).1.usage
  obtain ⟨earlier, component, hcreated, hname, hpath, hschema⟩ :=
    a.exists_of_component_mem_errorOf usage hmem
  obtain ⟨later, hlater⟩ : (a.errorOf entry m.state.registry usage).registry.created
      <+: progress.state.registry.created :=
    ((a.hoists_requestParams _ usage (a.paramsOf entry)).trans
      (Progress.hoists_of_step rfl hprefix hm hbase hprogress)).prefix_created
  refine ⟨earlier, component, later, _, ?_, hname, hpath, hschema, rfl,
    isLabelled_mergedError _ earlier _⟩
  show progress.state.registry.created = _
  rw [← hlater, hcreated, List.append_assoc]
  rfl

/-- An error that is a reference to the problem of the document, and one that is a reference to such a
reference. -/
def problemsDocument : Document :=
  { openapi := "3.0.0"
    info := { title := "Pets", version := "1" }
    paths := [("/pets", { operations := [
      (.get, {
        operationId := some "getPet"
        responses := [
          ("400", jsonResponse (.inline { Schema.string with title := some "Bad request" })),
          ("404", jsonResponse (.ref "#/components/schemas/Problem"))] }),
      (.delete, {
        operationId := some "dropPet"
        responses := [("404", jsonResponse (.ref "#/components/schemas/Missing"))] })] })]
    components := some { schemas := [
      ("Missing", .ref "#/components/schemas/Problem"),
      ("Problem", .inline { messageSchema with title := some "Problem" })] } }

def ErrorSchema.isComponent : ErrorSchema → Bool
  | .component _ _ => true
  | .response _ _ _ => false

/-- The one component has the titles of both its schemas, the other lacks the title of its schema. -/
theorem errorLabels_of_problems : ∃ result,
    run problemsDocument { extract := { responseError := true } } = .ok result
      ∧ result.routes.components.map (fun component =>
          (component.typeName, component.schema.value?.bind (·.title)))
        = [("GetPetError", some "Bad request Problem"), ("DropPetError", none)]
      ∧ chainLabels (schemaTable (.ofDocument problemsDocument {}) []) (·.title)
          [.ref "#/components/schemas/Missing"] = ["Problem"]
      ∧ ∀ route ∈ result.routes.routes, ∃ typeName path earlier component later merged,
          .component typeName path ∈ route.responseBody.error.schemas
            ∧ result.routes.components = earlier ++ component :: later
            ∧ component.typeName = typeName ∧ component.path = path
            ∧ component.schema = .inline merged
            ∧ merged.oneOf = (failures route.responseBody.responses).filterMap (·.schema)
            ∧ merged.IsLabelled (.ofDocument problemsDocument {}) earlier := by
  obtain ⟨result, hrun, hmade⟩ := exists_ok_of_map
    (show (run problemsDocument { extract := { responseError := true } }).toOption.map
        (fun result =>
          (result.routes.components.map (fun component =>
            (component.typeName, component.schema.value?.bind (·.title))),
          result.routes.routes.all (·.responseBody.error.schemas.any ErrorSchema.isComponent)))
      = some ([("GetPetError", some "Bad request Problem"), ("DropPetError", none)], true) by
      decide +kernel)
  obtain ⟨htitles, hmerged⟩ := Prod.mk.inj hmade
  refine ⟨result, hrun, htitles, by decide +kernel, fun route hroute => ?_⟩
  obtain ⟨entry, hentry, hcomponent⟩ :=
    List.any_eq_true.mp (List.all_eq_true.mp hmerged route hroute)
  cases entry with
  | response => cases hcomponent
  | component typeName path =>
      obtain ⟨earlier, component, later, merged, hlabels⟩ :=
        errorLabels_of_run hrun route hroute typeName path hentry
      exact ⟨typeName, path, earlier, component, later, merged, hentry, hlabels⟩

end ApiRoutes
