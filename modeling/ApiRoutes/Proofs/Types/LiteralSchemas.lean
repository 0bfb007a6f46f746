import ApiRoutes.Proofs.Document.SchemaRoundTrip
import ApiRoutes.Proofs.Json.Nodes
import ApiRoutes.Types.Resolver

/-!
# One value as a constant and as an enumeration

A schema can say that there is only one value in two ways, as its `const` and as the one item of its
`enum`. A single literal is typed alike in both places (`TypeTree.ofEnum_singleton`), also where it
is a list or a record and has no literal form.

The two keywords are read differently, though. An optional field that is null is absent
(`Schema.readOrRef_const`), while the items of a list are read as they are
(`Schema.readOrRef_enum`). So a constant null is no constant at all, and its type is unknown in
place of null: the two schemas have one type expression for every value but null
(`const_like_enum_iff`).
-/

namespace ApiRoutes

/-! ## Free-form values of a JSON text -/

namespace Json

theorem entryContents?_cons {depth : Nat} {key : String} {value : Json}
    {rest : List (Option String × Json)} {v : Content} {vs : List (Key × Content)}
    (hv : content? depth value = some v) (hvs : entryContents? depth rest = some vs) :
    entryContents? depth ((some key, value) :: rest) = some ((.name key, v) :: vs) := by
  unfold entryContents?
  rw [hv, hvs]

mutual

/-- What is read within a depth is read within a larger one. -/
theorem content?_succ : ∀ {depth : Nat} {value : Json} {c : Content},
    content? depth value = some c → content? (depth + 1) value = some c
  | _, .null, _, h => h
  | _, .bool _, _, h => h
  | _, .number _, _, h => h
  | _, .text _, _, h => h
  | 0, .list _, _, h => nomatch h
  | 0, .record _, _, h => nomatch h
  | depth + 1, .list items, _, h => by
      obtain ⟨xs, hxs, rfl⟩ := Option.map_eq_some_iff.mp h
      exact Option.map_eq_some_iff.mpr ⟨xs, contents?_succ hxs, rfl⟩
  | depth + 1, .record entries, _, h => by
      obtain ⟨es, hes, rfl⟩ := Option.map_eq_some_iff.mp h
      exact Option.map_eq_some_iff.mpr ⟨es, entryContents?_succ hes, rfl⟩

theorem contents?_succ : ∀ {depth : Nat} {items : List Json} {xs : List Content},
    contents? depth items = some xs → contents? (depth + 1) items = some xs
  | _, [], _, h => h
  | depth, item :: items, _, h => by
      rw [contents?] at h
      split at h
      case h_1 x xs hx hxs =>
        cases h
        rw [contents?, content?_succ hx, contents?_succ hxs]
      case h_2 => cases h

theorem entryContents?_succ : ∀ {depth : Nat} {entries : List (Option String × Json)}
    {es : List (Key × Content)}, entryContents? depth entries = some es →
      entryContents? (depth + 1) entries = some es
  | _, [], _, h => h
  | _, (none, _) :: _, _, h => nomatch h
  | depth, (some key, value) :: rest, _, h => by
      unfold entryContents? at h
      split at h
      case h_1 k v vs hk hv hvs =>
        cases h
        cases hk
        exact entryContents?_cons (content?_succ hv) (entryContents?_succ hvs)
      case h_2 => cases h

end

mutual

/-- The keys of a JSON text are texts, so that what is read of it is a free-form value. -/
theorem exists_freeForm? : ∀ {depth : Nat} {value : Json} {c : Content},
    content? depth value = some c → ∃ w, c.freeForm? = some w
  | _, .null, _, h => by
      cases h
      exact ⟨_, rfl⟩
  | _, .bool _, _, h => by
      cases h
      exact ⟨_, rfl⟩
  | _, .number n, _, h => by
      obtain ⟨number, -, rfl⟩ := Option.map_eq_some_iff.mp h
      cases number <;> exact ⟨_, rfl⟩
  | _, .text s, _, h => by
      obtain ⟨text, -, rfl⟩ := Option.map_eq_some_iff.mp h
      exact ⟨_, rfl⟩
  | 0, .list _, _, h => nomatch h
  | 0, .record _, _, h => nomatch h
  | depth + 1, .list items, _, h => by
      obtain ⟨xs, hxs, rfl⟩ := Option.map_eq_some_iff.mp h
      obtain ⟨ws, hws⟩ := exists_freeFormItems? hxs
      exact ⟨_, Option.map_eq_some_iff.mpr ⟨ws, hws, rfl⟩⟩
  | depth + 1, .record entries, _, h => by
      obtain ⟨es, hes, rfl⟩ := Option.map_eq_some_iff.mp h
      obtain ⟨ws, hws⟩ := exists_freeFormEntries? hes
      exact ⟨_, Option.map_eq_some_iff.mpr ⟨ws, hws, rfl⟩⟩

theorem exists_freeFormItems? : ∀ {depth : Nat} {items : List Json} {xs : List Content},
    contents? depth items = some xs → ∃ ws, Content.freeFormItems? xs = some ws
  | _, [], _, rfl => ⟨[], rfl⟩
  | depth, item :: items, _, h => by
      rw [contents?] at h
      split at h
      case h_1 x xs hx hxs =>
        cases h
        obtain ⟨w, hw⟩ := exists_freeForm? hx
        obtain ⟨ws, hws⟩ := exists_freeFormItems? hxs
        exact ⟨w :: ws, by rw [Content.freeFormItems?, hw, hws]⟩
      case h_2 => cases h

theorem exists_freeFormEntries? : ∀ {depth : Nat} {entries : List (Option String × Json)}
    {es : List (Key × Content)}, entryContents? depth entries = some es →
      ∃ ws, Content.freeFormEntries? es = some ws
  | _, [], _, rfl => ⟨[], rfl⟩
  | _, (none, _) :: _, _, h => nomatch h
  | depth, (some key, value) :: rest, _, h => by
      unfold entryContents? at h
      split at h
      case h_1 k v vs hk hv hvs =>
        cases h
        obtain ⟨w, hw⟩ := exists_freeForm? hv
        obtain ⟨ws, hws⟩ := exists_freeFormEntries? hvs
        exact ⟨(k, w) :: ws, by rw [Content.freeFormEntries?, Content.keyName?, hw, hws]⟩
      case h_2 => cases h

end

theorem isNull_of_content? {depth : Nat} {value : Json} {c : Content}
    (h : content? depth value = some c) : c.isNull = true ↔ value = .null := by
  cases value with
  | null =>
      cases h
      exact iff_of_true rfl rfl
  | bool b =>
      cases h
      simp [Content.isNull]
  | number | text =>
      obtain ⟨_, -, rfl⟩ := Option.map_eq_some_iff.mp h
      simp [Content.isNull]
  | list | record =>
      cases depth with
      | zero => cases h
      | succ =>
          obtain ⟨_, -, rfl⟩ := Option.map_eq_some_iff.mp h
          simp [Content.isNull]

end Json

/-! ## Reading the two schemas -/

namespace Slots

variable {α : Type} {c : Content} {slots : Slots c.Below} {name : String}

theorem optional_of_not_mem (h : name ∉ slots.keys) (read : c.Below → Option α) :
    slots.optional name read = some none := by
  rw [optional, Entries.find?_eq_none_of_not_mem h]

theorem withDefault_of_not_mem (h : name ∉ slots.keys) (default : α)
    (read : c.Below → Option α) : slots.withDefault name default read = some default := by
  rw [withDefault, Entries.find?_eq_none_of_not_mem h]

end Slots

namespace Schema

/-- A schema of which only the literals are given has nothing else. -/
theorem read_of_literals {c : Content} {slots : Slots c.Below} {enumValues : List Content}
    {constValue : Option Content} (hslots : c.fields? Schema.fields = some slots)
    (hkeys : slots.keys ⊆ ["enum", "const"])
    (henum : slots.withDefault "enum" [] (fun v => v.val.items?.bind (·.mapM Content.freeForm?))
      = some enumValues)
    (hconst : slots.optional "const" (fun v => v.val.freeForm?) = some constValue) :
    Schema.read c = some { enumValues, constValue } := by
  have hoptional : ∀ {α : Type} {name : String} {read : c.Below → Option α},
      name ∉ ["enum", "const"] → slots.optional name read = some none :=
    fun h => Slots.optional_of_not_mem (mt (hkeys ·) h) _
  have hdefault : ∀ {α : Type} {name : String} {default : α} {read : c.Below → Option α},
      name ∉ ["enum", "const"] → slots.withDefault name default read = some default :=
    fun h => Slots.withDefault_of_not_mem (mt (hkeys ·) h) _ _
  rw [Schema.read]
  refine bind_eq_of_eq_some hslots ?_
  refine bind_eq_of_eq_some (hoptional (by decide)) ?_
  refine bind_eq_of_eq_some (hoptional (by decide)) ?_
  refine bind_eq_of_eq_some (hoptional (by decide)) ?_
  refine bind_eq_of_eq_some (hoptional (by decide)) ?_
  refine bind_eq_of_eq_some (hoptional (by decide)) ?_
  refine bind_eq_of_eq_some (hoptional (by decide)) ?_
  refine bind_eq_of_eq_some (hdefault (by decide)) ?_
  refine bind_eq_of_eq_some (hdefault (by decide)) ?_
  refine bind_eq_of_eq_some (hoptional (by decide)) ?_
  refine bind_eq_of_eq_some (hoptional (by decide)) ?_
  refine bind_eq_of_eq_some (hdefault (by decide)) ?_
  refine bind_eq_of_eq_some (hdefault (by decide)) ?_
  refine bind_eq_of_eq_some (hdefault (by decide)) ?_
  refine bind_eq_of_eq_some (hoptional (by decide)) ?_
  refine bind_eq_of_eq_some henum ?_
  refine bind_eq_of_eq_some hconst ?_
  refine bind_eq_of_eq_some (hoptional (by decide)) ?_
  refine bind_eq_of_eq_some (hoptional (by decide)) ?_
  refine bind_eq_of_eq_some (hoptional (by decide)) ?_
  rfl

theorem readOrRef_of_read {entries : Entries Content} {s : Schema} (href : "$ref" ∉ entries.keys)
    (h : Schema.read (.ofFields entries) = some s) :
    readOrRef (.ofFields entries) = some (.inline s) := by
  rw [readOrRef, OrRef.read, OrRef.choose, referencePath?_ofFields href, h]
  rfl

/-- A constant is kept, unless it is null. -/
theorem readOrRef_const {c w : Content} (h : c.freeForm? = some w) :
    readOrRef (.ofFields [("const", c)])
      = some (.inline { constValue := if c.isNull then none else some w }) := by
  refine readOrRef_of_read (by simp [Entries.keys]) (read_of_literals rfl ?_ rfl ?_)
  · show ["const"] ⊆ ["enum", "const"]
    decide
  · show (if c.isNull = true then some none else c.freeForm?.map some) = _
    rw [h]
    split <;> rfl

/-- The values of an enumeration are kept, null or not. -/
theorem readOrRef_enum {c w : Content} (h : c.freeForm? = some w) :
    readOrRef (.ofFields [("enum", .list [c])]) = some (.inline { enumValues := [w] }) := by
  refine readOrRef_of_read (by simp [Entries.keys]) (read_of_literals rfl ?_ ?_ rfl)
  · show ["enum"] ⊆ ["enum", "const"]
    decide
  · show [c].mapM Content.freeForm? = _
    rw [List.mapM_cons, h]
    rfl

end Schema

/-! ## The types of the two schemas -/

namespace TypeTree

/-- A single value is typed like a constant. -/
theorem ofEnum_singleton (v : Content) : ofEnum [v] = ofConst v := by
  unfold ofEnum ofConst
  rw [List.filterMap_cons]
  cases ofLiteral? v <;> rfl

end TypeTree

/-- A schema with `const` as its only keyword. -/
def Json.constSchema (v : Json) : Json := .record [(some "const", v)]

/-- A schema with `enum` as its only keyword, and one value in it. -/
def Json.enumSchema (v : Json) : Json := .record [(some "enum", .list [v])]

namespace JsonNode

variable {depth : Nat} {v : Json} {c w : Content}

theorem typed_constSchema (h : v.content? depth = some c) (hw : c.freeForm? = some w) :
    Source.typed Schema.readOrRef (⟨depth + 2, v.constSchema⟩ : JsonNode)
      = some (.inline { constValue := if c.isNull then none else some w }) := by
  have hholds : Holds ⟨depth + 2, v.constSchema⟩ (.ofFields [("const", c)]) := by
    have hentries : Json.entryContents? (depth + 1) [(some "const", v)]
        = some [(.name "const", c)] := Json.entryContents?_cons (Json.content?_succ h) rfl
    exact congrArg (Option.map Content.record) hentries
  exact agrees_typed Schema.readOrRef hholds
    ((Source.typed_eq _ _).trans (Schema.readOrRef_const hw))

theorem typed_enumSchema (h : v.content? depth = some c) (hw : c.freeForm? = some w) :
    Source.typed Schema.readOrRef (⟨depth + 2, v.enumSchema⟩ : JsonNode)
      = some (.inline { enumValues := [w] }) := by
  have hlist : (Json.list [v]).content? (depth + 1) = some (.list [c]) := by
    show Option.map _ (Json.contents? depth [v]) = _
    rw [Json.contents?, h]
    rfl
  have hholds : Holds ⟨depth + 2, v.enumSchema⟩ (.ofFields [("enum", .list [c])]) := by
    have hentries : Json.entryContents? (depth + 1) [(some "enum", .list [v])]
        = some [(.name "enum", .list [c])] := Json.entryContents?_cons hlist rfl
    exact congrArg (Option.map Content.record) hentries
  exact agrees_typed Schema.readOrRef hholds
    ((Source.typed_eq _ _).trans (Schema.readOrRef_enum hw))

end JsonNode

/-- **One value.** Wherever a value has a meaning two levels deeper, the schema with the value as its
constant and the schema with the value as the only one of its enumeration are both read, and they
have one type expression exactly if the value is not null. -/
theorem const_like_enum_iff (r : Resolver) {depth : Nat} {v : Json} {c : Content}
    (h : v.content? depth = some c) :
    ∃ s t : OrRef Schema,
      Source.typed Schema.readOrRef (⟨depth + 2, v.constSchema⟩ : JsonNode) = some s
        ∧ Source.typed Schema.readOrRef (⟨depth + 2, v.enumSchema⟩ : JsonNode) = some t
        ∧ (r.typeExpr s = r.typeExpr t ↔ v ≠ .null) := by
  obtain ⟨w, hw⟩ := Json.exists_freeForm? h
  refine ⟨_, _, JsonNode.typed_constSchema h hw, JsonNode.typed_enumSchema h hw, ?_⟩
  by_cases hnull : v = .null
  · subst hnull
    cases h
    cases hw
    refine iff_of_false (fun heq => ?_) (fun hne => hne rfl)
    exact absurd heq (show ¬ "unknown" = "null" by decide)
  · rw [if_neg (mt (Json.isNull_of_content? h).mp hnull)]
    refine iff_of_true ?_ hnull
    exact congrArg TypeTree.render (TypeTree.ofEnum_singleton w).symm

/-- In a JSON text null is one type as a constant and another one in an enumeration; a list, which
has no literal form either way, is one type in both. -/
theorem const_like_enum_null_list :
    (∃ s t : OrRef Schema,
      Source.typed Schema.readOrRef (JsonNode.root (Json.constSchema .null)) = some s
        ∧ Source.typed Schema.readOrRef (JsonNode.root (Json.enumSchema .null)) = some t
        ∧ (Resolver.mk {} {}).typeExpr s ≠ (Resolver.mk {} {}).typeExpr t)
    ∧ ∃ s t : OrRef Schema,
      Source.typed Schema.readOrRef (JsonNode.root (Json.constSchema (.list [.bool true]))) = some s
        ∧ Source.typed Schema.readOrRef (JsonNode.root (Json.enumSchema (.list [.bool true])))
          = some t
        ∧ (Resolver.mk {} {}).typeExpr s = (Resolver.mk {} {}).typeExpr t := by
  constructor
  · have hnull : Json.null.content? 125 = some .null := rfl
    obtain ⟨s, t, hs, ht, hiff⟩ := const_like_enum_iff ⟨{}, {}⟩ hnull
    exact ⟨s, t, hs, ht, fun heq => hiff.mp heq rfl⟩
  · have hlist : (Json.list [.bool true]).content? 125 = some (.list [.bool true]) := rfl
    obtain ⟨s, t, hs, ht, hiff⟩ := const_like_enum_iff ⟨{}, {}⟩ hlist
    exact ⟨s, t, hs, ht, hiff.mpr (by simp)⟩

end ApiRoutes
