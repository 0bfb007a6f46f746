import ApiRoutes.Proofs.Document.ReferenceRoots
import ApiRoutes.Route.BodyType

/-!
# Referenced bodies

A request body or response may be a reference to one among the components, and this to the next one,
until the chain ends in a body that is declared in place (`BodyNode.EndsIn`). It is typed like that
body, except that it has no schema of its own (`BodyNode.EndsIn.resolve?`).

But the name of the component counts before its content. A document that was converted from an older
one may have a component for each body that is named after the schema of the body. So a component
whose type name is that of a named schema has the type of this schema, and does not allow null.
-/

namespace ApiRoutes

/-- The reference that stands in the place of a body. -/
def BodyNode.path? : BodyNode → Option String
  | .request declared => declared.path?
  | .response declared => declared.path?

/-- The chain of a reference into the request bodies or the responses ends in the given body. -/
inductive BodyNode.EndsIn (components : Components) (path : String) : BodyNode → Prop
  | requestBody {paths : List String} {body : RequestBody}
      (h : Leads "requestBodies" components.requestBodies (.ref path) paths body) :
      EndsIn components path (.request (.inline body))
  | response {paths : List String} {response : Response}
      (h : Leads "responses" components.responses (.ref path) paths response) :
      EndsIn components path (.response (.inline response))

/-! ## Resolving -/

section

variable {α : Type} {table : Entries (OrRef α)} {path sectionName : String}

theorem Leads.split_and_follow {paths : List String} {value : α}
    (h : Leads sectionName table (.ref path) paths value) :
    (∃ name, splitReference path = .ok (sectionName, name))
      ∧ follow sectionName table path = .ok value := by
  cases h with
  | ref hlinked h =>
      obtain ⟨name, hsplit, -⟩ := linked_eq_ok_iff.mp hlinked
      exact ⟨⟨name, hsplit⟩, follow_eq_ok_iff.mpr ⟨_, .ref hlinked h⟩⟩

end

variable {r : Resolver} {path : String} {target : BodyNode}

/-- A reference that ends in a body resolves to this body, in a section of bodies. -/
theorem BodyNode.EndsIn.resolve? (h : target.EndsIn r.components path) :
    ∃ sectionName name, splitReference path = .ok (sectionName, name)
      ∧ ∃ found, r.resolve? path = some ⟨name, r.typeName name, .ofName sectionName, found⟩
        ∧ ∀ known default, ResolvedBody.ofResolved r known default
            ⟨name, r.typeName name, .ofName sectionName, found⟩
          = { ResolvedBody.ofNode r known none default target with schema := none } := by
  cases h with
  | requestBody h =>
      obtain ⟨⟨name, hsplit⟩, hfollow⟩ := h.split_and_follow
      have hresolve := (Resolver.resolve?_eq_some_iff (r := r) hsplit rfl).mpr ⟨_, hfollow, rfl⟩
      exact ⟨_, name, hsplit, _, hresolve, fun _ _ => rfl⟩
  | response h =>
      obtain ⟨⟨name, hsplit⟩, hfollow⟩ := h.split_and_follow
      have hresolve := (Resolver.resolve?_eq_some_iff (r := r) hsplit rfl).mpr ⟨_, hfollow, rfl⟩
      exact ⟨_, name, hsplit, _, hresolve, fun _ _ => rfl⟩

namespace ResolvedBody

theorem ofNode_of_path? {node : BodyNode} (h : node.path? = some path)
    (known : List NamedSchema) (operationId default : Option String) :
    ofNode r known operationId default node = ofReference r known operationId default path := by
  rcases node with (_ | _) | (_ | _)
  · cases h; rfl
  · cases h
  · cases h; rfl
  · cases h

/-- Without an operation's id a component goes by its own name, if that is the name of a schema. -/
theorem ofReference_of_resolve? {resolved : Resolved} (h : r.resolve? path = some resolved)
    (known : List NamedSchema) (default : Option String) :
    ofReference r known none default path
      = if known.any (·.typeName = r.typeName resolved.name) then named (r.typeName resolved.name)
        else ofResolved r known default resolved := by
  have hname : knownName? r known none resolved
      = if known.any (·.typeName = r.typeName resolved.name) then some (r.typeName resolved.name)
        else none := rfl
  simp only [ofReference, h, hname]
  cases known.any (·.typeName = r.typeName resolved.name) <;> rfl

end ResolvedBody

/-- **Referenced bodies.** A reference that ends in a body gives, without an operation's id, the same
type as the body and allows null if the body does, unless the component that it names has the type
name of a named schema; then it gives this type name, and does not allow null. -/
theorem typed_like_end {node : BodyNode} (hnode : node.path? = some path)
    (htarget : target.EndsIn r.components path) :
    ∃ sectionName name, splitReference path = .ok (sectionName, name)
      ∧ ∀ (known : List NamedSchema) (default : Option String),
        let referenced := ResolvedBody.ofNode r known none default node
        let written := ResolvedBody.ofNode r known none default target
        ((∀ schema ∈ known, schema.typeName ≠ r.typeName name) →
            referenced.type = written.type ∧ referenced.nullable = written.nullable)
          ∧ ∀ schema ∈ known, schema.typeName = r.typeName name →
            referenced.type = schema.typeName ∧ referenced.nullable = false := by
  obtain ⟨sectionName, name, hsplit, found, hresolve, hwritten⟩ := htarget.resolve?
  refine ⟨sectionName, name, hsplit, fun known default => ?_⟩
  intro referenced written
  have hreferenced := ResolvedBody.ofReference_of_resolve? hresolve known default
  rw [← ResolvedBody.ofNode_of_path? hnode, hwritten] at hreferenced
  constructor
  · intro hfree
    have hany : known.any (·.typeName = r.typeName name) = false := by simpa using hfree
    rw [hany, if_neg (by decide)] at hreferenced
    exact ⟨congrArg (·.type) hreferenced, congrArg (·.nullable) hreferenced⟩
  · intro schema hschema hname
    have hany : known.any (·.typeName = r.typeName name) = true :=
      List.any_eq_true.mpr ⟨schema, hschema, by simpa using hname⟩
    rw [hany, if_pos rfl, ← hname] at hreferenced
    exact ⟨congrArg (·.type) hreferenced, congrArg (·.nullable) hreferenced⟩

/-- A response with a label, or with nothing. -/
def labelResponse : Response :=
  { content := [("text/plain", { schema := some (.inline
      { schemaType := some (.single .string), nullable := some true }) })] }

/-- A shop with a schema for pets. One of its responses has the name of the schema, and another one is
a reference. -/
def shopDocument : Document :=
  { openapi := "3.0.0"
    info := { title := "Shop", version := "1" }
    components := some
      { schemas := [("Pet", .inline (.object [("name", .inline .string)] []))]
        responses := [("Pet", .inline labelResponse), ("Found", .ref "#/components/responses/Label"),
          ("Label", .inline labelResponse)] } }

/-- Along two links the label is found. -/
theorem typed_like_end_found :
    BodyNode.EndsIn shopDocument.parts "#/components/responses/Found"
        (.response (.inline labelResponse))
      ∧ (ResolvedBody.ofNode (.ofDocument shopDocument {})
            (Registry.ofResolver (.ofDocument shopDocument {})).known none none
            (.response (.ref "#/components/responses/Found"))).type = "string | null"
      ∧ (ResolvedBody.ofNode (.ofDocument shopDocument {})
            (Registry.ofResolver (.ofDocument shopDocument {})).known none none
            (.response (.ref "#/components/responses/Found"))).nullable = true := by
  let r : Resolver := .ofDocument shopDocument {}
  let node : BodyNode := .response (.ref "#/components/responses/Found")
  have hends : BodyNode.EndsIn r.components "#/components/responses/Found"
      (.response (.inline labelResponse)) := .response (.ref rfl (.ref rfl (.inline _)))
  obtain ⟨sectionName, name, hsplit, hall⟩ := @typed_like_end r _ _ node rfl hends
  have hname : (sectionName, name) = ("responses", "Found") := by
    refine Except.ok.inj (hsplit.symm.trans ?_)
    decide +kernel
  cases hname
  obtain ⟨htype, hnullable⟩ := (hall (Registry.ofResolver r).known none).1 (by decide +kernel)
  exact ⟨hends, htype.trans (by decide +kernel), hnullable.trans (by decide +kernel)⟩

/-- A reference to the response that is named like the schema has the type of the schema. -/
theorem referenced_by_name :
    BodyNode.EndsIn shopDocument.parts "#/components/responses/Pet"
        (.response (.inline labelResponse))
      ∧ (ResolvedBody.ofNode (.ofDocument shopDocument {})
            (Registry.ofResolver (.ofDocument shopDocument {})).known none none
            (.response (.ref "#/components/responses/Pet"))).type = "Pet"
      ∧ (ResolvedBody.ofNode (.ofDocument shopDocument {})
            (Registry.ofResolver (.ofDocument shopDocument {})).known none none
            (.response (.inline labelResponse))).type = "string | null" :=
  ⟨.response (.ref rfl (.inline _)), by decide +kernel, by decide +kernel⟩

end ApiRoutes
