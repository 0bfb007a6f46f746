import ApiRoutes.Proofs.Document.SchemaRoundTrip
import ApiRoutes.Proofs.Json.Nodes

/-!
# Operations that are read back

Every part of an operation that was read is written and read again as the same part:
parameters (`Parameter.read_write`), headers, media types, request bodies and responses, whose
fields are read back one by one. An operation asks of its parts that they are read back, and of its
tables that they have no key twice (`Operation.Settled`).
-/

namespace ApiRoutes

open Content (present listValue tableValue ofFields)

/-! ## Locations and media types -/

theorem Location.name_ofName (text : String) : (ofName text).name = text := by
  unfold ofName
  split <;> rfl

theorem MediaTypeList.read_write (types : MediaTypeList) :
    MediaTypeList.read types.write = some types := by
  cases types with
  | one mediaType => rfl
  | many mediaTypes =>
      have hmap : (mediaTypes.map Content.text).mapM Content.text? = some mediaTypes :=
        mapM_map_of_forall fun _ _ => rfl
      show Option.map _ (Option.bind (some _) _) = _
      rw [Option.bind_some, hmap]
      rfl

/-! ## Parameters -/

namespace Parameter

def contents (p : Parameter) : Entries (Option Content) :=
  [("name", p.name.map Content.text), ("in", p.location.map fun l => .text l.name),
   ("description", p.description.map Content.text), ("required", some (.bool p.required)),
   ("deprecated", p.deprecated.map Content.bool), ("schema", p.schema.map Schema.writeOrRef),
   ("style", p.style.map Content.text), ("explode", p.explode.map Content.bool),
   ("example", p.exampleValue.map id), ("type", p.schemaType.map TypeSet.write),
   ("format", p.format.map Content.text), ("items", p.items.map Schema.writeOrRef),
   ("enum", listValue id p.enumValues), ("default", p.defaultValue.map id)]

theorem write_eq (p : Parameter) : p.write = ofFields (present p.contents) := by
  rw [write]
  simp only [Content.optionalField_eq_present, Content.listField_eq_present,
    Content.singleton_eq_present, ← Content.present_append, contents, List.cons_append,
    List.nil_append]

theorem referencePath?_write (p : Parameter) : referencePath? p.write = none := by
  rw [write_eq]
  exact referencePath?_present (by simp [contents, Entries.keys])

theorem read_write {c : Content} {p : Parameter} (hc : c.Finite) (h : Parameter.read c = some p) :
    Parameter.read p.write = some p := by
  obtain ⟨written, hwritten, hholds⟩ := @Content.exists_fields? fields p.contents rfl (by decide)
  obtain ⟨slots, hslots, h⟩ := exists_of_bind_eq_some h
  obtain ⟨name, -, h⟩ := exists_of_bind_eq_some h
  obtain ⟨location, hlocation, h⟩ := exists_of_bind_eq_some h
  obtain ⟨description, -, h⟩ := exists_of_bind_eq_some h
  obtain ⟨required, -, h⟩ := exists_of_bind_eq_some h
  obtain ⟨deprecated, -, h⟩ := exists_of_bind_eq_some h
  obtain ⟨schema, hschema, h⟩ := exists_of_bind_eq_some h
  obtain ⟨style, -, h⟩ := exists_of_bind_eq_some h
  obtain ⟨explode, -, h⟩ := exists_of_bind_eq_some h
  obtain ⟨exampleValue, hexample, h⟩ := exists_of_bind_eq_some h
  obtain ⟨schemaType, -, h⟩ := exists_of_bind_eq_some h
  obtain ⟨format, -, h⟩ := exists_of_bind_eq_some h
  obtain ⟨items, hitems, h⟩ := exists_of_bind_eq_some h
  obtain ⟨enumValues, henum, h⟩ := exists_of_bind_eq_some h
  obtain ⟨defaultValue, hdefault, h⟩ := exists_of_bind_eq_some h
  cases h
  have hfinite := Content.finite_of_fields? hc hslots
  have hlocation : ∀ l, location = some l → Location.ofName l.name = l := by
    intro l hl
    obtain ⟨v, -, -, hread⟩ := Slots.exists_of_optional hlocation hl
    obtain ⟨text, -, rfl⟩ := Option.map_eq_some_iff.mp hread
    rw [Location.name_ofName]
  rw [write_eq]
  refine bind_eq_of_eq_some hwritten ?_
  refine bind_eq_of_eq_some (hholds.text rfl) ?_
  refine bind_eq_of_eq_some (hholds.optional (fun v => v.text?.map Location.ofName)
    (fun l => .text l.name) rfl fun l hl => ⟨congrArg some (hlocation l hl), rfl⟩) ?_
  refine bind_eq_of_eq_some (hholds.text rfl) ?_
  refine bind_eq_of_eq_some (hholds.always Content.flag? .bool rfl rfl) ?_
  refine bind_eq_of_eq_some (hholds.flag rfl) ?_
  refine bind_eq_of_eq_some (hholds.schema rfl (Slots.returns_of_optional hfinite hschema)) ?_
  refine bind_eq_of_eq_some (hholds.text rfl) ?_
  refine bind_eq_of_eq_some (hholds.flag rfl) ?_
  refine bind_eq_of_eq_some (hholds.freeForm rfl (Slots.freeForm_of_optional hfinite hexample)) ?_
  refine bind_eq_of_eq_some (hholds.types rfl) ?_
  refine bind_eq_of_eq_some (hholds.text rfl) ?_
  refine bind_eq_of_eq_some (hholds.schema rfl (Slots.returns_of_optional hfinite hitems)) ?_
  refine bind_eq_of_eq_some (hholds.freeForms rfl (Slots.freeForms_of_withDefault henum)) ?_
  refine bind_eq_of_eq_some (hholds.freeForm rfl (Slots.freeForm_of_optional hfinite hdefault)) ?_
  rfl

end Parameter

/-! ## Headers, bodies and responses -/

namespace Header

def contents (h : Header) : Entries (Option Content) :=
  [("description", h.description.map Content.text), ("required", some (.bool h.required)),
   ("schema", h.schema.map Schema.writeOrRef), ("type", h.schemaType.map TypeSet.write),
   ("format", h.format.map Content.text), ("items", h.items.map Schema.writeOrRef)]

theorem write_eq (h : Header) : h.write = ofFields (present h.contents) := by
  rw [write]
  simp only [Content.optionalField_eq_present, Content.singleton_eq_present,
    ← Content.present_append, contents, List.cons_append, List.nil_append]

theorem referencePath?_write (h : Header) : referencePath? h.write = none := by
  rw [write_eq]
  exact referencePath?_present (by simp [contents, Entries.keys])

theorem read_write {c : Content} (hc : c.Finite) {header : Header}
    (h : Header.read c = some header) : Header.read header.write = some header := by
  obtain ⟨written, hwritten, hholds⟩ := @Content.exists_fields? fields header.contents rfl (by decide)
  obtain ⟨slots, hslots, h⟩ := exists_of_bind_eq_some h
  obtain ⟨description, -, h⟩ := exists_of_bind_eq_some h
  obtain ⟨required, -, h⟩ := exists_of_bind_eq_some h
  obtain ⟨schema, hschema, h⟩ := exists_of_bind_eq_some h
  obtain ⟨schemaType, -, h⟩ := exists_of_bind_eq_some h
  obtain ⟨format, -, h⟩ := exists_of_bind_eq_some h
  obtain ⟨items, hitems, h⟩ := exists_of_bind_eq_some h
  cases h
  have hfinite := Content.finite_of_fields? hc hslots
  rw [write_eq]
  refine bind_eq_of_eq_some hwritten ?_
  refine bind_eq_of_eq_some (hholds.text rfl) ?_
  refine bind_eq_of_eq_some (hholds.always Content.flag? .bool rfl rfl) ?_
  refine bind_eq_of_eq_some (hholds.schema rfl (Slots.returns_of_optional hfinite hschema)) ?_
  refine bind_eq_of_eq_some (hholds.types rfl) ?_
  refine bind_eq_of_eq_some (hholds.text rfl) ?_
  refine bind_eq_of_eq_some (hholds.schema rfl (Slots.returns_of_optional hfinite hitems)) ?_
  rfl

end Header

namespace MediaType

def contents (m : MediaType) : Entries (Option Content) :=
  [("schema", m.schema.map Schema.writeOrRef), ("example", m.exampleValue.map id),
   ("examples", tableValue id m.examples)]

theorem write_eq (m : MediaType) : m.write = ofFields (present m.contents) := by
  rw [write]
  simp only [Content.optionalField_eq_present, Content.tableField_eq_present,
    ← Content.present_append, contents, List.cons_append, List.nil_append]

theorem read_write {c : Content} (hc : c.Finite) {media : MediaType}
    (h : MediaType.read c = some media) : MediaType.read media.write = some media := by
  obtain ⟨written, hwritten, hholds⟩ := @Content.exists_fields? fields media.contents rfl (by decide)
  obtain ⟨slots, hslots, h⟩ := exists_of_bind_eq_some h
  obtain ⟨schema, hschema, h⟩ := exists_of_bind_eq_some h
  obtain ⟨exampleValue, hexample, h⟩ := exists_of_bind_eq_some h
  obtain ⟨examples, hexamples, h⟩ := exists_of_bind_eq_some h
  cases h
  have hfinite := Content.finite_of_fields? hc hslots
  have hexamples := @Slots.table_of_withDefault _ _ slots "examples" hfinite Content.freeForm? id
    (fun _ _ _ => Content.freeForm?_of_freeForm?) examples hexamples
  rw [write_eq]
  refine bind_eq_of_eq_some hwritten ?_
  refine bind_eq_of_eq_some (hholds.schema rfl (Slots.returns_of_optional hfinite hschema)) ?_
  refine bind_eq_of_eq_some
    (hholds.freeForm rfl (Slots.freeForm_of_optional hfinite hexample)) ?_
  refine bind_eq_of_eq_some
    (hholds.table (fun v => v.tableBelow? fun w => w.val.freeForm?) id rfl hexamples) ?_
  rfl

/-- The media types of a body are read back. -/
theorem readTable_write {c : Content} {slots : Slots c.Below} {name : String}
    (hfinite : ∀ v ∈ slots.values, v.val.Finite) {content : Entries MediaType}
    (h : slots.withDefault name [] (fun v => MediaType.readTable v.val) = some content) :
    MediaType.readTable (ofFields (content.map fun (k, m) => (k, m.write))) = some content :=
  @Slots.table_of_withDefault _ _ slots name hfinite MediaType.read MediaType.write
    (fun _ hw _ => read_write hw) content h

end MediaType

namespace RequestBody

def contents (b : RequestBody) : Entries (Option Content) :=
  [("description", b.description.map Content.text),
   ("content", some (ofFields (b.content.map fun (k, m) => (k, m.write)))),
   ("required", b.required.map Content.bool), ("x-name", b.name.map Content.text)]

theorem write_eq (b : RequestBody) : b.write = ofFields (present b.contents) := by
  rw [write]
  simp only [Content.optionalField_eq_present, Content.singleton_eq_present,
    ← Content.present_append, contents, List.cons_append, List.nil_append]

theorem referencePath?_write (b : RequestBody) : referencePath? b.write = none := by
  rw [write_eq]
  exact referencePath?_present (by simp [contents, Entries.keys])

theorem read_write {c : Content} (hc : c.Finite) {body : RequestBody}
    (h : RequestBody.read c = some body) : RequestBody.read body.write = some body := by
  obtain ⟨written, hwritten, hholds⟩ := @Content.exists_fields? fields body.contents rfl (by decide)
  obtain ⟨slots, hslots, h⟩ := exists_of_bind_eq_some h
  obtain ⟨description, -, h⟩ := exists_of_bind_eq_some h
  obtain ⟨content, hcontent, h⟩ := exists_of_bind_eq_some h
  obtain ⟨required, -, h⟩ := exists_of_bind_eq_some h
  obtain ⟨name, -, h⟩ := exists_of_bind_eq_some h
  cases h
  have hfinite := Content.finite_of_fields? hc hslots
  rw [write_eq]
  refine bind_eq_of_eq_some hwritten ?_
  refine bind_eq_of_eq_some (hholds.text rfl) ?_
  refine bind_eq_of_eq_some (hholds.always MediaType.readTable
    (fun content => ofFields (content.map fun (k, m) => (k, m.write))) rfl
    (MediaType.readTable_write hfinite hcontent)) ?_
  refine bind_eq_of_eq_some (hholds.flag rfl) ?_
  refine bind_eq_of_eq_some (hholds.text rfl) ?_
  rfl

end RequestBody

namespace Response

def contents (r : Response) : Entries (Option Content) :=
  [("description", some (.text r.description)), ("content", tableValue MediaType.write r.content),
   ("headers", tableValue (OrRef.write Header.write) r.headers),
   ("schema", r.schema.map Schema.writeOrRef)]

theorem write_eq (r : Response) : r.write = ofFields (present r.contents) := by
  rw [write]
  simp only [Content.optionalField_eq_present, Content.tableField_eq_present,
    Content.singleton_eq_present, ← Content.present_append, contents, List.cons_append,
    List.nil_append]

theorem referencePath?_write (r : Response) : referencePath? r.write = none := by
  rw [write_eq]
  exact referencePath?_present (by simp [contents, Entries.keys])

theorem read_write {c : Content} (hc : c.Finite) {response : Response}
    (h : Response.read c = some response) : Response.read response.write = some response := by
  obtain ⟨written, hwritten, hholds⟩ :=
    @Content.exists_fields? fields response.contents rfl (by decide)
  obtain ⟨slots, hslots, h⟩ := exists_of_bind_eq_some h
  obtain ⟨description, -, h⟩ := exists_of_bind_eq_some h
  obtain ⟨content, hcontent, h⟩ := exists_of_bind_eq_some h
  obtain ⟨headers, hheaders, h⟩ := exists_of_bind_eq_some h
  obtain ⟨schema, hschema, h⟩ := exists_of_bind_eq_some h
  cases h
  have hfinite := Content.finite_of_fields? hc hslots
  have hheaders := @Slots.table_of_withDefault _ _ slots "headers" hfinite (OrRef.read Header.read)
    (OrRef.write Header.write) (fun _ hw _ hread => OrRef.read_write hread
      (fun _ => Header.read_write hw) Header.referencePath?_write) headers hheaders
  rw [write_eq]
  refine bind_eq_of_eq_some hwritten ?_
  refine bind_eq_of_eq_some (hholds.always Content.text? .text rfl rfl) ?_
  refine bind_eq_of_eq_some (hholds.table MediaType.readTable MediaType.write rfl
    (MediaType.readTable_write hfinite hcontent)) ?_
  refine bind_eq_of_eq_some (hholds.table
    (fun v => v.tableBelow? fun w => OrRef.read Header.read w.val) (OrRef.write Header.write) rfl
    hheaders) ?_
  refine bind_eq_of_eq_some (hholds.schema rfl (Slots.returns_of_optional hfinite hschema)) ?_
  rfl

end Response

/-! ## Operations -/

namespace Operation

def contents (op : Operation) : Entries (Option Content) :=
  [("operationId", op.operationId.map Content.text), ("summary", op.summary.map Content.text),
   ("description", op.description.map Content.text), ("tags", listValue Content.text op.tags),
   ("parameters", listValue (OrRef.write Parameter.write) op.parameters),
   ("requestBody", op.requestBody.map (OrRef.write RequestBody.write)),
   ("responses", tableValue (OrRef.write Response.write) op.responses),
   ("deprecated", op.deprecated.map Content.bool),
   ("security", op.security.map fun rs => .list (rs.map SecurityRequirement.write)),
   ("x-codegen-request-body-name", op.requestBodyName.map Content.text),
   ("x-accepts", op.accepts.map MediaTypeList.write),
   ("x-contentType", op.contentType.map MediaTypeList.write),
   ("consumes", op.consumes.map Content.texts), ("produces", op.produces.map Content.texts)]

theorem write_eq (op : Operation) : op.write = ofFields (present op.contents) := by
  rw [write]
  simp only [Content.optionalField_eq_present, Content.listField_eq_present,
    Content.tableField_eq_present, ← Content.present_append, contents, List.cons_append,
    List.nil_append]

/-- What an operation has to be like to be read back. -/
structure Settled (op : Operation) : Prop where
  parameters : ∀ p ∈ op.parameters, OrRef.read Parameter.read (OrRef.write Parameter.write p) = some p
  requestBody : ∀ b, op.requestBody = some b →
    OrRef.read RequestBody.read (OrRef.write RequestBody.write b) = some b
  statuses : op.responses.keys.Nodup
  responses : ∀ entry ∈ op.responses,
    OrRef.read Response.read (OrRef.write Response.write entry.2) = some entry.2
  security : ∀ rs, op.security = some rs → ∀ r ∈ rs, (Entries.keys r).Nodup

theorem readTexts_write (texts : List String) : readTexts (Content.texts texts) = some texts :=
  Source.listOf_list fun _ _ => rfl

theorem readSecurity_write {requirements : List SecurityRequirement}
    (h : ∀ r ∈ requirements, (Entries.keys r).Nodup) :
    readSecurity (Content.list (requirements.map SecurityRequirement.write)) = some requirements :=
  Source.listOf_list fun r hr => Source.tableOf_ofFields (h r hr) fun entry _ => readTexts_write entry.2

theorem Settled.read_write {op : Operation} (h : op.Settled) : Operation.read op.write = some op := by
  have hfields := @Content.fields_ofFields fields op.contents rfl (by decide)
  have hnodup : op.contents.keys.Nodup := by
    show (fields.map (·.name)).Nodup
    decide
  have htext : ∀ {name : String} {x : Option String},
      op.contents.find? name = some (x.map Content.text) →
        Source.optionalField (present op.contents) name Source.text = some x :=
    fun hfind => Source.optionalField_present _ Content.text hnodup hfind fun _ _ => ⟨rfl, rfl⟩
  have htexts : ∀ {name : String} {x : Option (List String)},
      op.contents.find? name = some (x.map Content.texts) →
        Source.optionalField (present op.contents) name readTexts = some x :=
    fun hfind => Source.optionalField_present _ Content.texts hnodup hfind
      fun texts _ => ⟨readTexts_write texts, rfl⟩
  have htypes : ∀ {name : String} {x : Option MediaTypeList},
      op.contents.find? name = some (x.map MediaTypeList.write) →
        Source.optionalField (present op.contents) name (Source.typed MediaTypeList.read) = some x :=
    fun hfind => Source.optionalField_present _ MediaTypeList.write hnodup hfind
      fun types _ => ⟨(Source.typed_eq _ _).trans types.read_write, by cases types <;> rfl⟩
  rw [write_eq]
  refine bind_eq_of_eq_some hfields ?_
  refine bind_eq_of_eq_some (htext rfl) ?_
  refine bind_eq_of_eq_some (htext rfl) ?_
  refine bind_eq_of_eq_some (htext rfl) ?_
  refine bind_eq_of_eq_some (Source.withDefault_list hnodup rfl (readTexts_write op.tags)) ?_
  refine bind_eq_of_eq_some (Source.withDefault_list hnodup rfl (Source.listOf_list fun p hp =>
    (Source.typed_eq _ _).trans (h.parameters p hp))) ?_
  refine bind_eq_of_eq_some (Source.optionalField_present _ (OrRef.write RequestBody.write) hnodup rfl
    fun b hb => ⟨(Source.typed_eq _ _).trans (h.requestBody b hb), by cases b <;> rfl⟩) ?_
  refine bind_eq_of_eq_some (Source.withDefault_table hnodup rfl (Source.tableOf_ofFields h.statuses
    fun entry hentry => (Source.typed_eq _ _).trans (h.responses entry hentry))) ?_
  refine bind_eq_of_eq_some (Source.optionalField_present _ Content.bool hnodup rfl
    fun _ _ => ⟨rfl, rfl⟩) ?_
  refine bind_eq_of_eq_some (Source.optionalField_present _
    (fun rs => Content.list (rs.map SecurityRequirement.write)) hnodup rfl
    fun rs hrs => ⟨readSecurity_write (h.security rs hrs), rfl⟩) ?_
  refine bind_eq_of_eq_some (htext rfl) ?_
  refine bind_eq_of_eq_some (htypes rfl) ?_
  refine bind_eq_of_eq_some (htypes rfl) ?_
  refine bind_eq_of_eq_some (htexts rfl) ?_
  refine bind_eq_of_eq_some (htexts rfl) ?_
  rfl

/-- An operation that was read of a JSON node is settled: its parts were read of finite data. -/
theorem settled_of_read {node : JsonNode} {op : Operation} (h : Operation.read node = some op) :
    op.Settled := by
  obtain ⟨slots, -, h⟩ := exists_of_bind_eq_some h
  obtain ⟨operationId, -, h⟩ := exists_of_bind_eq_some h
  obtain ⟨summary, -, h⟩ := exists_of_bind_eq_some h
  obtain ⟨description, -, h⟩ := exists_of_bind_eq_some h
  obtain ⟨tags, -, h⟩ := exists_of_bind_eq_some h
  obtain ⟨parameters, hparameters, h⟩ := exists_of_bind_eq_some h
  obtain ⟨requestBody, hrequestBody, h⟩ := exists_of_bind_eq_some h
  obtain ⟨responses, hresponses, h⟩ := exists_of_bind_eq_some h
  obtain ⟨deprecated, -, h⟩ := exists_of_bind_eq_some h
  obtain ⟨security, hsecurity, h⟩ := exists_of_bind_eq_some h
  obtain ⟨requestBodyName, -, h⟩ := exists_of_bind_eq_some h
  obtain ⟨accepts, -, h⟩ := exists_of_bind_eq_some h
  obtain ⟨contentType, -, h⟩ := exists_of_bind_eq_some h
  obtain ⟨consumes, -, h⟩ := exists_of_bind_eq_some h
  obtain ⟨produces, -, h⟩ := exists_of_bind_eq_some h
  cases h
  have htable : (Entries.keys responses).Nodup ∧ ∀ entry ∈ responses,
      ∃ node : JsonNode, Source.typed (OrRef.read Response.read) node = some entry.2 := by
    rcases Source.exists_of_withDefault hresponses with rfl | ⟨node, hread⟩
    · exact ⟨List.nodup_nil, fun _ h => nomatch h⟩
    · exact Source.exists_of_tableOf hread
  constructor
  case parameters =>
    intro p hp
    rcases Source.exists_of_withDefault hparameters with rfl | ⟨node, hread⟩
    · exact nomatch hp
    · obtain ⟨n, hread⟩ := Source.exists_of_listOf hread p hp
      obtain ⟨c, hc, hread⟩ := JsonNode.exists_of_typed hread
      exact OrRef.read_write hread (fun _ => Parameter.read_write hc) Parameter.referencePath?_write
  case requestBody =>
    intro b hb
    obtain ⟨n, hread⟩ := Source.exists_of_optionalField hrequestBody hb
    obtain ⟨c, hc, hread⟩ := JsonNode.exists_of_typed hread
    exact OrRef.read_write hread (fun _ => RequestBody.read_write hc) RequestBody.referencePath?_write
  case statuses => exact htable.1
  case responses =>
    intro entry hentry
    obtain ⟨n, hread⟩ := htable.2 entry hentry
    obtain ⟨c, hc, hread⟩ := JsonNode.exists_of_typed hread
    exact OrRef.read_write hread (fun _ => Response.read_write hc) Response.referencePath?_write
  case security =>
    intro rs hrs r hr
    obtain ⟨n, hread⟩ := Source.exists_of_optionalField hsecurity hrs
    obtain ⟨m, hread⟩ := Source.exists_of_listOf hread r hr
    exact (Source.exists_of_tableOf hread).1

/-- A JSON node can be read in place of the data that it holds. -/
theorem agrees_read : JsonNode.Agrees Operation.read Operation.read := by
  intro node c op hholds hread
  obtain ⟨slots, hslots, hread⟩ := exists_of_bind_eq_some hread
  obtain ⟨slots', hslots', hentries⟩ := hholds.fields hslots
  refine bind_eq_of_eq_some hslots' ?_
  have htext := JsonNode.agrees_text
  have htexts := htext.listOf
  have htypes := JsonNode.agrees_typed MediaTypeList.read
  have hparameters := (JsonNode.agrees_typed (OrRef.read Parameter.read)).listOf
  have hresponses := (JsonNode.agrees_typed (OrRef.read Response.read)).tableOf
  revert hread
  refine bind_imp (fun _ => htext.optionalField hentries) fun operationId => ?_
  refine bind_imp (fun _ => htext.optionalField hentries) fun summary => ?_
  refine bind_imp (fun _ => htext.optionalField hentries) fun description => ?_
  refine bind_imp (fun _ => htexts.withDefault hentries) fun tags => ?_
  refine bind_imp (fun _ => hparameters.withDefault hentries) fun parameters => ?_
  refine bind_imp (fun _ => (JsonNode.agrees_typed _).optionalField hentries) fun requestBody => ?_
  refine bind_imp (fun _ => hresponses.withDefault hentries) fun responses => ?_
  refine bind_imp (fun _ => JsonNode.agrees_flag.optionalField hentries) fun deprecated => ?_
  refine bind_imp (fun _ => htexts.tableOf.listOf.optionalField hentries) fun security => ?_
  refine bind_imp (fun _ => htext.optionalField hentries) fun requestBodyName => ?_
  refine bind_imp (fun _ => htypes.optionalField hentries) fun accepts => ?_
  refine bind_imp (fun _ => htypes.optionalField hentries) fun contentType => ?_
  refine bind_imp (fun _ => htexts.optionalField hentries) fun consumes => ?_
  refine bind_imp (fun _ => htexts.optionalField hentries) fun produces => ?_
  exact id

end Operation

/-- **Round trip.** An operation that is read of a JSON value is read back of what is written for
it, be it of the data itself or of any JSON value that holds the data. -/
theorem read_write_operation {node : JsonNode} {op : Operation} (h : Operation.read node = some op) :
    Operation.read op.write = some op
      ∧ ∀ again : JsonNode, again.Holds op.write → Operation.read again = some op := by
  have hback : Operation.read op.write = some op := (Operation.settled_of_read h).read_write
  exact ⟨hback, fun again hholds => Operation.agrees_read hholds hback⟩

/-- An operation as a document may have it: a reference with something beside it, a location that is
not known, null where there is no value, a field of no model, and a free-form record out of order. -/
def addPetNode : JsonNode :=
  let text (s : String) : Json := .text (some s)
  let digit (n : Nat) : Json := .number ⟨false, [n], [], none, false⟩
  let record (entries : List (String × Json)) : Json :=
    .record (entries.map fun (k, v) => (some k, v))
  let petSchema := record [
    ("type", .list [text "object", text "null"]),
    ("properties", record [("name", record [("$ref", text "#/components/schemas/Name")]),
      ("tags", record [("items", record [("allOf", .list [record []])])])]),
    ("additionalProperties", .bool false),
    ("example", record [("tags", .list [.null]), ("name", digit 7)])]
  .root (record [
    ("summary", .null), ("x-owner", text "pets"), ("operationId", text "addPet"),
    ("parameters", .list [
      record [("description", text "dropped"), ("$ref", text "#/components/parameters/Limit")],
      record [("name", text "kind"), ("in", text "matrix"), ("enum", .list [text "cat", .null])]]),
    ("requestBody", record [("content", record [("application/json", record [("schema", petSchema)])])]),
    ("responses", record [("200", record []), ("404", record [("$ref", text "#/responses/Gone")])]),
    ("security", .list [record [("key", .list [])]]), ("x-accepts", text "application/json")])

/-- The operation is read, and read back. -/
theorem read_write_addPet : ∃ op, Operation.read addPetNode = some op
    ∧ op.operationId = some "addPet" ∧ op.parameters.length = 2
    ∧ op.responses.keys = ["200", "404"] ∧ Operation.read op.write = some op := by
  have hread : (Operation.read addPetNode).isSome = true := by decide +kernel
  have hparts : (Operation.read addPetNode).map
      (fun op => (op.operationId, op.parameters.length, op.responses.keys))
      = some (some "addPet", 2, ["200", "404"]) := by decide +kernel
  obtain ⟨op, hop⟩ := Option.isSome_iff_exists.mp hread
  rw [hop] at hparts
  obtain ⟨hid, hlength, hkeys⟩ : op.operationId = some "addPet" ∧ op.parameters.length = 2
      ∧ op.responses.keys = ["200", "404"] := by simpa using hparts
  exact ⟨op, hop, hid, hlength, hkeys, (read_write_operation hop).1⟩

end ApiRoutes
