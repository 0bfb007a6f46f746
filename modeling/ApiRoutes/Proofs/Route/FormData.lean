import ApiRoutes.Proofs.Document.ReferenceRoots
import ApiRoutes.Proofs.Run.Extraction
import ApiRoutes.Proofs.Types.FileFields

/-!
# Bodies sent as form data

A body that is declared as JSON is sent as form data if it has a file in a field. That is decided by
looking for a mark in the text of its type (`hasFileField_iff`). The type is that of the schema the
body has, unless it is the name of a component or nothing is known about it
(`ResolvedBody.typedBy_ofNode`). So the tree of the schema tells whether there is a mark, and a mark
need not come from a file (`formData_iff`).
-/

namespace ApiRoutes

open Text (HasFileMark)

/-! ## Types of bodies -/

/-- The schema that is there for what a reference points at. -/
def Target.contentSchema? : Target → Option (OrRef Schema)
  | .schema declared => some declared
  | .response declared => firstSchema? declared.content
  | .requestBody declared => firstSchema? declared.content
  | .parameter declared => declared.schema
  | .header declared => declared.schema
  | .unknown => none

/-- The first content schema of a body, found where a reference points at. -/
def BodyNode.contentSchema? (r : Resolver) : BodyNode → Option (OrRef Schema)
  | .request (.inline declared) => ApiRoutes.firstSchema? declared.content
  | .response (.inline declared) => ApiRoutes.firstSchema? declared.content
  | .request (.ref path) => (r.resolve? path).bind (·.target.contentSchema?)
  | .response (.ref path) => (r.resolve? path).bind (·.target.contentSchema?)

/-- A text that names a component. -/
def IsTypeName (r : Resolver) (known : List NamedSchema) (type : String) : Prop :=
  (∃ schema ∈ known, schema.typeName = type) ∨ ∃ name, r.typeName name = type

/-- What the type of a body is, given the schema that is there for it. -/
inductive TypedBy (r : Resolver) (known : List NamedSchema) (schema? : Option (OrRef Schema)) :
    String → Prop
  | unknown : TypedBy r known schema? unknownType
  | name {type : String} (h : IsTypeName r known type) : TypedBy r known schema? type
  | schema {schema : OrRef Schema} (h : schema? = some schema) :
      TypedBy r known schema? (r.typeExpr schema)

namespace ResolvedBody

variable {r : Resolver} {known : List NamedSchema}

theorem typedBy_ofContent (content : Entries MediaType) :
    TypedBy r known (firstSchema? content) (ofContent r known none content).type := by
  unfold ofContent
  cases hschema : firstSchema? content with
  | none => exact .unknown
  | some schema =>
      cases hfound : Registry.findReusable known (r.typeExpr schema) with
      | none => simpa only [hfound] using .schema rfl
      | some found =>
          simpa only [hfound] using
            .name (.inl ⟨found, Registry.mem_of_findReusable hfound, rfl⟩)

theorem typedBy_ofResolved {resolved : Resolved}
    (hname : resolved.typeName = r.typeName resolved.name) :
    TypedBy r known resolved.target.contentSchema? (ofResolved r known none resolved).type := by
  obtain ⟨name, typeName, category, target⟩ := resolved
  cases category with
  | schemas => exact .name (.inr ⟨name, hname.symm⟩)
  | other _ =>
      cases target with
      | schema declared => exact .schema rfl
      | parameter declared | header declared =>
          unfold ofResolved
          dsimp only [Target.contentSchema?]
          cases declared.schema with
          | none => exact .unknown
          | some schema => exact .schema rfl
      | response _ | requestBody _ | unknown => exact .unknown
  | responses | requestBodies =>
      cases target with
      | response declared | requestBody declared => exact typedBy_ofContent declared.content
      | schema _ | parameter _ | header _ | unknown => exact .unknown

/-- The type of a body is that of its schema, the name of a component, or unknown. -/
theorem typedBy_ofNode (operationId : Option String) (node : BodyNode) :
    TypedBy r known (node.contentSchema? r) (ofNode r known operationId none node).type := by
  have hreference : ∀ path, TypedBy r known ((r.resolve? path).bind (·.target.contentSchema?))
      (ofReference r known operationId none path).type := by
    intro path
    unfold ofReference
    cases hresolve : r.resolve? path with
    | none => exact .unknown
    | some resolved =>
        cases hknown : knownName? r known operationId resolved with
        | none =>
            simp only [hknown, Option.bind_some]
            exact typedBy_ofResolved (Resolver.typeName_of_resolve? hresolve)
        | some name =>
            simp only [hknown]
            obtain ⟨-, hname⟩ := Option.ite_none_right_eq_some.mp hknown
            exact .name (.inr ⟨_, Option.some.inj hname⟩)
  rcases node with (path | declared) | (path | declared)
  · exact hreference path
  · exact typedBy_ofContent declared.content
  · exact hreference path
  · exact typedBy_ofContent declared.content

end ResolvedBody

/-! ## Looking for files -/

theorem hasFileField_iff (type : String) :
    Assembler.hasFileField type = true ↔ HasFileMark type.toList := by
  rw [Assembler.hasFileField, Bool.or_eq_true, Text.occurs_iff_isInfix, Text.occurs_iff_isInfix]
  simp [HasFileMark, Text.fileWords, Text.mark]

theorem hasFileMark_decorateNullable (nullable : Bool) (type : String) :
    HasFileMark (decorateNullable nullable type).toList ↔ HasFileMark type.toList := by
  rcases decorateNullable_cases nullable type with hkept | hadded
  · rw [hkept]
  · have hchars : (type ++ " | null").toList = type.toList ++ " | ".toList ++ "null".toList := by
      simp
    rw [hadded, hchars, Text.separates_bar]
    exact or_iff_left (by decide)

theorem Assembler.showsFile_iff (r : Resolver) (known : List NamedSchema) (op : Operation) :
    showsFile r known op = true ↔ ∃ entry, op.requestBody = some entry ∧
      HasFileMark (ResolvedBody.ofNode r known op.operationId none (.request entry)).type.toList := by
  rw [showsFile, declaredType]
  cases op.requestBody with
  | none => simp
  | some entry => simp [hasFileField_iff, hasFileMark_decorateNullable]

/-- **Form data.** An operation without form parameters whose body is declared as JSON sends it as form
data exactly when the tree of the body's first content schema looks like it has a file, unless that
schema is replaced by the name of a component; then the name has to. The tree looks so if it has a field
of files, or if another text in it reads like one. -/
theorem formData_iff (r : Resolver) (registry : Registry) (op : Operation) {params : RouteParams}
    (hform : params.formData = [])
    (hjson : ContentKind.classify (Assembler.requestBody r registry op params).contentTypes = .json) :
    ((Assembler.requestBody r registry op params).contentKind = .formData ↔
        ∃ entry, op.requestBody = some entry ∧
          let type := (ResolvedBody.ofNode r registry.known op.operationId none
            (.request entry)).type
          (∃ schema, (BodyNode.request entry).contentSchema? r = some schema
              ∧ type = r.typeExpr schema ∧ (r.tree schema).LooksLikeFile)
            ∨ (IsTypeName r registry.known type ∧ HasFileMark type.toList))
      ∧ ∀ schema, (r.tree schema).LooksLikeFile →
        (r.tree schema).HasFileField ∨ (r.tree schema).MentionsFile := by
  refine ⟨?_, fun schema h => h.imp_left TypeTree.ShowsFile.hasFileField⟩
  have hkind : (Assembler.requestBody r registry op params).contentKind = .formData
      ↔ Assembler.showsFile r registry.known op = true := by
    rw [Assembler.contentKind_of_body r registry op hform, hjson]
    cases Assembler.showsFile r registry.known op <;> simp
  rw [hkind, Assembler.showsFile_iff]
  refine exists_congr fun entry => and_congr_right fun _ => ?_
  have hmade : ∀ schema, (r.tree schema).Made r.typeName := TypeTree.made_ofSchemaOrRef
  have htyped : TypedBy r registry.known ((BodyNode.request entry).contentSchema? r)
      (ResolvedBody.ofNode r registry.known op.operationId none (.request entry)).type :=
    ResolvedBody.typedBy_ofNode op.operationId (.request entry)
  generalize (ResolvedBody.ofNode r registry.known op.operationId none (.request entry)).type = type
    at htyped ⊢
  constructor
  · intro hmark
    cases htyped with
    | unknown => exact absurd hmark (by decide)
    | name h => exact .inr ⟨h, hmark⟩
    | schema h => exact .inl ⟨_, h, rfl, (hmade _).hasFileMark_iff.mp hmark⟩
  · rintro (⟨schema, -, htype, hlooks⟩ | ⟨-, hmark⟩)
    · exact htype ▸ (hmade schema).hasFileMark_iff.mpr hlooks
    · exact hmark

/-- Information on a file, in the file's place. -/
def infoSchema : Schema := .object [("info", .ref "#/components/schemas/FileInfo")] ["info"]

/-- An operation whose JSON body has information on a file, and no file. -/
def infoOperation : Operation :=
  { operationId := some "createDocument"
    requestBody := some (.inline
      { content := [("application/json", { schema := some (.inline infoSchema) })] }) }

/-- A document with the schema that the body refers to. -/
def infoDocument : Document :=
  { openapi := "3.0.0"
    info := { title := "Documents", version := "1" }
    components := some
      { schemas := [("FileInfo", .inline (.object [("name", .inline .string)] []))] }
    paths := [("/documents", { operations := [(.post, infoOperation)] })] }

/-- The body is sent as form data for the name of a schema. -/
theorem formData_without_file :
    let r : Resolver := .ofDocument infoDocument {}
    let body := Assembler.requestBody r (Registry.ofResolver r) infoOperation {}
    ContentKind.classify body.contentTypes = .json
      ∧ body.type = some "\x7b info: FileInfo \x7d"
      ∧ body.contentKind = .formData
      ∧ ¬ (r.tree (.inline infoSchema)).HasFileField := by
  intro r body
  have hjson : ContentKind.classify body.contentTypes = .json := by decide +kernel
  have htype : body.type = some "\x7b info: FileInfo \x7d" := by decide +kernel
  let name : String := r.typeName (lastSegment "#/components/schemas/FileInfo")
  have htree : r.tree (.inline infoSchema) = .object [("info", .named name, true)] := rfl
  have hlooks : (r.tree (.inline infoSchema)).LooksLikeFile := by
    rw [htree]
    exact .inr (.fieldType ⟨_, List.mem_singleton_self _, .here⟩ .here (by decide +kernel))
  have hkind : body.contentKind = .formData := by
    refine (formData_iff r (Registry.ofResolver r) infoOperation rfl hjson).1.mpr ?_
    exact ⟨_, rfl, .inl ⟨_, rfl, by decide +kernel, hlooks⟩⟩
  refine ⟨hjson, htype, hkind, ?_⟩
  rw [htree]
  rintro ⟨field, ⟨fields, hmem, hoccurs⟩, hholds⟩
  cases hoccurs with
  | here =>
      rw [List.mem_singleton] at hmem
      subst hmem
      cases hholds
  | object hfield h =>
      rw [List.mem_singleton] at hfield
      subst hfield
      cases h

end ApiRoutes
