import ApiRoutes.Document.Upgrade
import ApiRoutes.Proofs.Data.Tables
import ApiRoutes.Proofs.Document.Chains
import ApiRoutes.Proofs.Types.References

/-!
# Older roots of references

`#/definitions/Pet` and `#/components/schemas/Pet` are two spellings of one reference: both are split
into the section `schemas` and the name `Pet` (`splitReference_older`, `splitReference_components`).
Whatever is asked about a reference is answered from its section and name, or from its last segment,
so the spellings can be exchanged for each other everywhere (`Resolver.Alike`), also inside of
chains.

An older document declares the entries under its own roots. The upgrade writes them over entries of
the same names among the components, so a reference with an older root resolves to what was declared
(`Resolver.ResolvesDeclared`).
-/

namespace ApiRoutes

/-! ## Splitting -/

theorem Text.cut?_slash {before : List Char} (h : '/' ∉ before) (after : List Char) :
    cut? ['/'] (before ++ '/' :: after) = some (before, after) := by
  induction before with
  | nil => rfl
  | cons c before ih =>
      obtain ⟨hc, hbefore⟩ := not_or.mp (List.mem_cons.not.mp h)
      have hdrop : dropStart? ['/'] (c :: (before ++ '/' :: after)) = none := if_neg hc
      rw [List.cons_append, cut?, hdrop, ih hbefore]
      rfl

section

variable {name : String} (hname : name ≠ "") (hslash : '/' ∉ name.toList)
include hname hslash

theorem splitReference_of_splitOlder? {path sectionName : String}
    (h : splitOlder? path olderRoots = some (sectionName, name.toList)) :
    splitReference path = .ok (sectionName, name) := by
  have hgood : ¬ (name.toList.isEmpty || name.toList.contains '/') = true := by
    simp [hname, hslash]
  rw [splitReference, h]
  show (if _ then _ else _) = _
  rw [if_neg hgood, String.ofList_toList]

/-- After an older root stands a name in the section of the root. -/
theorem splitReference_older : ∀ root ∈ olderRoots,
    splitReference (root.1 ++ name) = .ok (root.2, name) := by
  intro root hroot
  refine splitReference_of_splitOlder? hname hslash ?_
  simp only [olderRoots, List.mem_cons, List.not_mem_nil, or_false] at hroot
  rcases hroot with rfl | rfl | rfl <;> simp [splitOlder?, olderRoots, Text.dropStart?]

omit hslash in
/-- Below `#/components/` stand section and name. -/
theorem splitReference_components {sectionName : String} (hsection : sectionName ≠ "")
    (hslash : '/' ∉ sectionName.toList) :
    splitReference ("#/components/" ++ sectionName ++ "/" ++ name) = .ok (sectionName, name) := by
  have holder : splitOlder? ("#/components/" ++ sectionName ++ "/" ++ name) olderRoots = none := by
    simp [splitOlder?, olderRoots, Text.dropStart?]
  have hrest : Text.dropStart? "#/components/".toList
      ("#/components/" ++ sectionName ++ "/" ++ name).toList
        = some (sectionName.toList ++ '/' :: name.toList) :=
    Text.dropStart?_eq_some_iff.mpr (by simp)
  have hgood : ¬ (sectionName.toList.isEmpty || name.toList.isEmpty) = true := by
    simp [hname, hsection]
  rw [splitReference, holder]
  simp only [hrest, Option.bind_some, Text.cut?_slash hslash]
  rw [if_neg hgood, String.ofList_toList, String.ofList_toList]

end

/-! ## What a reference points at -/

namespace Resolver

variable {r : Resolver} {path other sectionName name : String}

theorem resolve?_of_split (h : splitReference path = .ok (sectionName, name)) :
    r.resolve? path = (r.target sectionName name path).toOption.join.map fun target =>
      ⟨name, r.typeName name, .ofName sectionName, target⟩ := by
  unfold resolve? lookup
  rw [h]
  simp only [bind, Except.bind]
  cases r.target sectionName name path <;> rfl

/-- What is resolved goes by the name in its reference, and has the type name of that name. -/
theorem split_of_resolve? {resolved : Resolved} (h : r.resolve? path = some resolved) :
    (∃ sectionName, splitReference path = .ok (sectionName, resolved.name))
      ∧ resolved.typeName = r.typeName resolved.name := by
  cases hsplit : splitReference path with
  | error e =>
      unfold resolve? lookup at h
      rw [hsplit] at h
      cases h
  | ok parts =>
      rw [resolve?_of_split hsplit] at h
      obtain ⟨target, -, rfl⟩ := Option.map_eq_some_iff.mp h
      exact ⟨⟨parts.1, rfl⟩, rfl⟩

/-- What is resolved has the type name of its component. -/
theorem typeName_of_resolve? {resolved : Resolved} (h : r.resolve? path = some resolved) :
    resolved.typeName = r.typeName resolved.name :=
  (split_of_resolve? h).2

/-- An entry whose chain is followed resolves to the end of the chain. -/
theorem resolve?_eq_some_iff {α : Type} {found : Except ReferenceError α} {make : α → Target}
    (h : splitReference path = .ok (sectionName, name))
    (htarget : r.target sectionName name path = found.map fun value => some (make value))
    {resolved : Resolved} :
    r.resolve? path = some resolved ↔ ∃ value, found = .ok value
      ∧ resolved = ⟨name, r.typeName name, .ofName sectionName, make value⟩ := by
  rw [resolve?_of_split h, htarget]
  cases found with
  | error e => simp [Except.map, Except.toOption]
  | ok value => simp [Except.map, Except.toOption, eq_comm]

end Resolver

/-! ## Two spellings of a reference -/

section

variable {α : Type} {table : Entries (OrRef α)} {path other sectionName expected name : String}

theorem toOption_map {β : Type} (f : α → β) (x : Except ReferenceError α) :
    (x.map f).toOption = x.toOption.map f := by
  cases x <;> rfl

/-- References of one section and name go along one chain. -/
theorem toOption_follow_of_split (h : splitReference path = .ok (sectionName, name))
    (h' : splitReference other = .ok (sectionName, name)) :
    (follow expected table path).toOption = (follow expected table other).toOption := by
  refine toOption_follow_congr ?_
  unfold linked referenceName
  rw [h, h']
  by_cases hsection : sectionName = expected
  · simp only [bind, Except.bind, pure, Except.pure, if_pos hsection]
    cases table.find? name <;> rfl
  · simp only [bind, Except.bind, if_neg hsection]
    rfl

end

/-- The resolver makes no difference between two references, up to how errors are reported. -/
structure Resolver.Alike (r : Resolver) (first second : String) : Prop where
  resolve : r.resolve? first = r.resolve? second
  schema : (r.components.schemaAt first).toOption = (r.components.schemaAt second).toOption
  parameter : (r.components.parameterAt first).toOption
    = (r.components.parameterAt second).toOption
  requestBody : (r.components.requestBodyAt first).toOption
    = (r.components.requestBodyAt second).toOption
  response : (r.components.responseAt first).toOption = (r.components.responseAt second).toOption
  header : (r.components.headerAt first).toOption = (r.components.headerAt second).toOption
  typeExpr : r.typeExpr (.ref first) = r.typeExpr (.ref second)

theorem Resolver.alike_of_split {r : Resolver} {first second sectionName name : String}
    (h : splitReference first = .ok (sectionName, name))
    (h' : splitReference second = .ok (sectionName, name))
    (hlast : lastSegment first = lastSegment second) : r.Alike first second where
  resolve := by
    rw [resolve?_of_split h, resolve?_of_split h']
    have htarget : (r.target sectionName name first).toOption
        = (r.target sectionName name second).toOption := by
      unfold Resolver.target
      split
      · rfl
      · simp only [toOption_map, Components.responseAt, toOption_follow_of_split h h']
      · simp only [toOption_map, Components.requestBodyAt, toOption_follow_of_split h h']
      · simp only [toOption_map, Components.parameterAt, toOption_follow_of_split h h']
      · simp only [toOption_map, Components.headerAt, toOption_follow_of_split h h']
      · rfl
    rw [htarget]
  schema := toOption_follow_of_split h h'
  parameter := toOption_follow_of_split h h'
  requestBody := toOption_follow_of_split h h'
  response := toOption_follow_of_split h h'
  header := toOption_follow_of_split h h'
  typeExpr := congrArg (fun segment => (TypeTree.named (r.typeName segment)).render) hlast

/-- A name that ends a reference is its last segment. -/
theorem lastSegment_of_slash {name : String} (hslash : '/' ∉ name.toList) (before : String) :
    lastSegment (before ++ "/" ++ name) = name := by
  have hpath : before ++ "/" ++ name = String.ofList (before.toList ++ '/' :: name.toList) := by
    rw [← String.toList_inj]
    simp
  rw [hpath, lastSegment_append hslash, String.ofList_toList]

theorem Resolver.alike_roots (r : Resolver) {name : String} (hname : name ≠ "")
    (hslash : '/' ∉ name.toList) : ∀ root ∈ olderRoots,
      r.Alike (root.1 ++ name) ("#/components/" ++ root.2 ++ "/" ++ name) := by
  intro root hroot
  have holder := splitReference_older hname hslash root hroot
  have hlast : lastSegment (root.1 ++ name)
      = lastSegment ("#/components/" ++ root.2 ++ "/" ++ name) := by
    rw [lastSegment_of_slash hslash]
    simp only [olderRoots, List.mem_cons, List.not_mem_nil, or_false] at hroot
    rcases hroot with rfl | rfl | rfl
    · exact lastSegment_of_slash hslash "#/definitions"
    · exact lastSegment_of_slash hslash "#/parameters"
    · exact lastSegment_of_slash hslash "#/responses"
  refine alike_of_split holder (splitReference_components hname ?_ ?_) hlast
  · simp only [olderRoots, List.mem_cons, List.not_mem_nil, or_false] at hroot
    rcases hroot with rfl | rfl | rfl <;> decide
  · simp only [olderRoots, List.mem_cons, List.not_mem_nil, or_false] at hroot
    rcases hroot with rfl | rfl | rfl <;> decide

/-! ## Declared entries after the upgrade -/

/-- References with older roots resolve to what the older document declares under the name: a
definition as it is, a parameter or response at the end of its chain. -/
structure Resolver.ResolvesDeclared (r : Resolver) (doc : Document) (name : String) : Prop where
  definition : ∀ entry, doc.definitions.Declares name entry →
    r.resolve? ("#/definitions/" ++ name)
      = some ⟨name, r.typeName name, .schemas, .schema entry⟩
  parameter : ∀ entry, doc.parameters.Declares name entry → ∀ resolved,
    r.resolve? ("#/parameters/" ++ name) = some resolved ↔
      ∃ param paths, Leads "parameters" r.components.parameters entry paths param
        ∧ resolved = ⟨name, r.typeName name, .other "parameters", .parameter param⟩
  response : ∀ entry, doc.responses.Declares name entry → ∀ resolved,
    r.resolve? ("#/responses/" ++ name) = some resolved ↔
      ∃ response paths, Leads "responses" r.components.responses
          (Upgrade.liftResponseEntry doc.produces entry) paths response
        ∧ resolved = ⟨name, r.typeName name, .responses, .response response⟩

/-- A reference is followed to the end of the chain of the entry it names. -/
theorem follow_eq_ok_iff_of_find? {α : Type} {table : Entries (OrRef α)}
    {path sectionName name : String} {entry : OrRef α} {value : α}
    (h : splitReference path = .ok (sectionName, name)) (hfind : table.find? name = some entry) :
    follow sectionName table path = .ok value ↔
      ∃ paths, Leads sectionName table entry paths value := by
  have hlinked := linked_of_find? h hfind
  rw [follow_eq_ok_iff]
  refine exists_congr fun paths => ⟨fun hleads => ?_, fun hleads => .ref hlinked hleads⟩
  cases hleads with
  | ref hlinked' hleads =>
      cases hlinked.symm.trans hlinked'
      exact hleads

theorem Upgrade.resolvesDeclared (doc : Document) (affixes : Affixes) {name : String}
    (hname : name ≠ "") (hslash : '/' ∉ name.toList) :
    (Resolver.ofDocument doc.upgrade affixes).ResolvesDeclared doc name := by
  have hsplit := splitReference_older hname hslash
  have hparts : (Resolver.ofDocument doc.upgrade affixes).components = Upgrade.components doc := rfl
  constructor
  case definition =>
    intro entry hdeclared
    have hfind : (Upgrade.components doc).schemas.find? name = some entry :=
      Entries.find?_extend hdeclared _
    rw [Resolver.resolve?_of_split (hsplit ("#/definitions/", "schemas") (by decide))]
    show (Option.map Target.schema ((Upgrade.components doc).schemas.find? name)).map _ = _
    rw [hfind]
    rfl
  case parameter =>
    intro entry hdeclared resolved
    have hpath := hsplit ("#/parameters/", "parameters") (by decide)
    have hfind : (Upgrade.components doc).parameters.find? name = some entry :=
      Entries.find?_extend hdeclared _
    rw [Resolver.resolve?_eq_some_iff hpath rfl]
    simp only [hparts, Components.parameterAt, follow_eq_ok_iff_of_find? hpath hfind, exists_and_right]
    rfl
  case response =>
    intro entry hdeclared resolved
    have hpath := hsplit ("#/responses/", "responses") (by decide)
    have hfind : (Upgrade.components doc).responses.find? name
        = some (Upgrade.liftResponseEntry doc.produces entry) :=
      Entries.find?_extend (hdeclared.mapValues _) _
    rw [Resolver.resolve?_eq_some_iff hpath rfl]
    simp only [hparts, Components.responseAt, follow_eq_ok_iff_of_find? hpath hfind, exists_and_right]
    rfl

/-- **Roots.** For every name without slashes the two spellings of a reference are alike in every
document; and after the upgrade of a document of version 2 a reference with an older root resolves
to what the document declares under the name, whatever its components have there. -/
theorem roots_interchangeable {name : String} (hname : name ≠ "") (hslash : '/' ∉ name.toList) :
    (∀ (doc : Document) (affixes : Affixes), ∀ root ∈ olderRoots,
        (Resolver.ofDocument doc affixes).Alike (root.1 ++ name)
          ("#/components/" ++ root.2 ++ "/" ++ name))
      ∧ ∀ (doc : Document) (affixes : Affixes) (version : String), doc.swagger = some version →
        isMajor '2' version = true → ∃ current, doc.current = .ok current
          ∧ (Resolver.ofDocument current affixes).ResolvesDeclared doc name := by
  refine ⟨fun doc affixes => (Resolver.ofDocument doc affixes).alike_roots hname hslash, ?_⟩
  intro doc affixes version hversion hmajor
  exact ⟨doc.upgrade, Document.current_of_older hversion hmajor,
    Upgrade.resolvesDeclared doc affixes hname hslash⟩

/-- Pages, whose parameter comes from one root to the other until it ends. Among the components there
are other things called `Page`. -/
def pagedDocument : Document :=
  { swagger := some "2.0"
    info := { title := "Pages", version := "1" }
    definitions := [("Page", .inline (.object [("next", .ref "#/definitions/Page")] []))]
    parameters := [("Page", .ref "#/components/parameters/Size"), ("Size", .ref "#/parameters/Limit"),
      ("Limit", .inline { name := some "limit", location := some .query })]
    responses := [("Page", .inline { schema := some (.ref "#/definitions/Page") })]
    components := some
      { schemas := [("Page", .inline .string)]
        parameters := [("Page", .inline { name := some "page" })]
        responses := [("Page", .ref "#/responses/None")] } }

/-- The pages' references resolve to the definition, the limit, and the response with its schema as
JSON. -/
theorem roots_interchangeable_page : ∃ current, pagedDocument.current = .ok current
    ∧ (Resolver.ofDocument current {}).Alike "#/parameters/Page" "#/components/parameters/Page"
    ∧ (Resolver.ofDocument current {}).resolve? "#/definitions/Page"
      = some ⟨"Page", "Page", .schemas,
        .schema (.inline (.object [("next", .ref "#/definitions/Page")] []))⟩
    ∧ (Resolver.ofDocument current {}).resolve? "#/components/parameters/Page"
      = some ⟨"Page", "Page", .other "parameters",
        .parameter { name := some "limit", location := some .query }⟩
    ∧ (Resolver.ofDocument current {}).resolve? "#/components/responses/Page"
      = some ⟨"Page", "Page", .responses, .response
        { content := [("application/json", { schema := some (.ref "#/definitions/Page") })] }⟩ := by
  obtain ⟨halike, hdeclared⟩ := @roots_interchangeable "Page" (by decide) (by decide)
  obtain ⟨current, hcurrent, hresolves⟩ := hdeclared pagedDocument {} "2.0" rfl (by decide)
  obtain rfl : pagedDocument.upgrade = current := Except.ok.inj hcurrent
  have hparameters := halike pagedDocument.upgrade {} ("#/parameters/", "parameters") (by decide)
  have hresponses := halike pagedDocument.upgrade {} ("#/responses/", "responses") (by decide)
  have hnamed : (Resolver.ofDocument pagedDocument.upgrade {}).typeName "Page" = "Page" := by
    decide +kernel
  have hdefinition : pagedDocument.definitions.Declares "Page"
      (.inline (.object [("next", .ref "#/definitions/Page")] [])) := by
    simp [Entries.Declares, pagedDocument]
  have hparameter : pagedDocument.parameters.Declares "Page" (.ref "#/components/parameters/Size") := by
    simp [Entries.Declares, pagedDocument]
  have hresponse : pagedDocument.responses.Declares "Page"
      (.inline { schema := some (.ref "#/definitions/Page") }) := by
    simp [Entries.Declares, pagedDocument]
  have hatDefinition := hresolves.definition _ hdefinition
  have hatParameter := (hresolves.parameter _ hparameter _).mpr
    ⟨_, _, .ref rfl (.ref rfl (.inline _)), rfl⟩
  have hatResponse := (hresolves.response _ hresponse _).mpr ⟨_, _, .inline _, rfl⟩
  rw [hnamed] at hatDefinition hatParameter hatResponse
  exact ⟨_, hcurrent, hparameters, hatDefinition, hparameters.resolve.symm.trans hatParameter,
    hresponses.resolve.symm.trans hatResponse⟩

end ApiRoutes
