import ApiRoutes.Json.Source
import ApiRoutes.Proofs.Data.Fields
import ApiRoutes.Proofs.Decimal.FiniteNumbers
import Mathlib.Data.List.Forall2

/-!
# JSON nodes and the data they hold

The data of a JSON node has finite numbers only (`JsonNode.Holds.finite`). A node can be read in place
of the data that it holds: each reader of nodes finds what the reader of data does
(`JsonNode.Agrees`), from texts and lists up to the fields of a model.
-/

namespace ApiRoutes

/-! ## Finite data -/

namespace Json

mutual

theorem finite_of_content? : ∀ {depth : Nat} {value : Json} {c : Content},
    content? depth value = some c → c.Finite
  | _, .null, _, h => by
      cases h
      exact .null
  | _, .bool _, _, h => by
      cases h
      exact .bool _
  | _, .number n, _, h => by
      obtain ⟨number, hn, rfl⟩ := Option.map_eq_some_iff.mp h
      cases number with
      | int k => exact .int k
      | float x => exact .float (Decimal.Numeral.isFinite_of_number? hn)
  | _, .text s, _, h => by
      obtain ⟨text, -, rfl⟩ := Option.map_eq_some_iff.mp h
      exact .text text
  | depth, .list items, c, h => by
      rw [content?] at h
      split at h
      · cases h
      · obtain ⟨xs, hxs, rfl⟩ := Option.map_eq_some_iff.mp h
        exact .list (finite_of_contents? hxs)
  | depth, .record entries, c, h => by
      rw [content?] at h
      split at h
      · cases h
      · obtain ⟨es, hes, rfl⟩ := Option.map_eq_some_iff.mp h
        exact .record (finite_of_entryContents? hes)

theorem finite_of_contents? : ∀ {depth : Nat} {items : List Json} {xs : List Content},
    contents? depth items = some xs → ∀ x ∈ xs, x.Finite
  | _, [], _, rfl => fun _ h => nomatch h
  | depth, item :: items, xs, h => by
      rw [contents?] at h
      split at h
      case h_1 y ys hy hys =>
        cases h
        intro x hx
        rcases List.mem_cons.mp hx with rfl | hrest
        · exact finite_of_content? hy
        · exact finite_of_contents? hys x hrest
      case h_2 => cases h

theorem finite_of_entryContents? : ∀ {depth : Nat} {entries : List (Option String × Json)}
    {es : List (Key × Content)}, entryContents? depth entries = some es → ∀ e ∈ es, e.2.Finite
  | _, [], _, rfl => fun _ h => nomatch h
  | _, (none, _) :: _, _, h => nomatch h
  | depth, (some k, value) :: rest, es, h => by
      unfold entryContents? at h
      split at h
      case h_1 k v vs _ hv hvs =>
        cases h
        intro e he
        rcases List.mem_cons.mp he with rfl | hrest
        · exact finite_of_content? hv
        · exact finite_of_entryContents? hvs e hrest
      case h_2 => cases h

end

end Json

namespace JsonNode

variable {α : Type}

/-- The node has a meaning, which is the data. -/
def Holds (node : JsonNode) (c : Content) : Prop := node.value.content? node.depth = some c

theorem Holds.finite {node : JsonNode} {c : Content} (h : node.Holds c) : c.Finite :=
  Json.finite_of_content? h

/-- What is read of a node is read of finite data. -/
theorem exists_of_typed {read : Content → Option α} {node : JsonNode} {a : α}
    (h : Source.typed read node = some a) : ∃ c : Content, c.Finite ∧ read c = some a := by
  obtain ⟨c, hc, h⟩ := Option.bind_eq_some_iff.mp h
  have hholds : node.Holds c := hc
  -- failures are reported alike for nodes and for data
  have hread : Source.typed read c = some a := h
  rw [Source.typed_eq] at hread
  exact ⟨c, hholds.finite, hread⟩

/-! ## Parts of nodes -/

theorem forall₂_of_contents? {depth : Nat} {items : List Json} {xs : List Content}
    (h : Json.contents? depth items = some xs) :
    List.Forall₂ Holds (items.map (⟨depth, ·⟩)) xs := by
  induction items generalizing xs with
  | nil =>
      cases h
      exact .nil
  | cons item items ih =>
      rw [Json.contents?] at h
      split at h
      case h_1 hy hys =>
        cases h
        exact .cons hy (ih hys)
      case h_2 => cases h

/-- Entries under one key, of a node and of the data that it holds. -/
def HoldsEntry (entry : String × JsonNode) (value : String × Content) : Prop :=
  entry.1 = value.1 ∧ entry.2.Holds value.2

theorem exists_of_entryContents? {depth : Nat} {entries : List (Option String × Json)}
    {keyed : List (Key × Content)} (h : Json.entryContents? depth entries = some keyed) :
    ∃ (nodes : List (String × JsonNode)) (named : List (String × Content)),
      entries.mapM (fun (key, value) => key.map (·, ⟨depth, value⟩)) = some nodes
        ∧ keyed = named.map (fun (k, v) => (.name k, v)) ∧ List.Forall₂ HoldsEntry nodes named := by
  induction entries generalizing keyed with
  | nil =>
      cases h
      exact ⟨[], [], rfl, rfl, .nil⟩
  | cons entry rest ih =>
      obtain ⟨_ | key, value⟩ := entry
      · exact nomatch h
      unfold Json.entryContents? at h
      split at h
      case h_1 k v vs hk hv hvs =>
        cases h
        cases hk
        obtain ⟨nodes, named, hnodes, rfl, hholds⟩ := ih hvs
        refine ⟨(key, ⟨depth, value⟩) :: nodes, (key, v) :: named, ?_, rfl, .cons ⟨rfl, hv⟩ hholds⟩
        rw [List.mapM_cons, hnodes]
        rfl
      case h_2 => cases h

theorem Holds.items {node : JsonNode} {items : List Content} (h : node.Holds (.list items)) :
    ∃ nodes, node.items? = some nodes ∧ List.Forall₂ Holds nodes items := by
  obtain ⟨depth, value⟩ := node
  cases value with
  | list values =>
      cases depth with
      | zero => exact nomatch h
      | succ depth =>
          obtain ⟨xs, hxs, heq⟩ := Option.map_eq_some_iff.mp h
          cases heq
          exact ⟨_, rfl, forall₂_of_contents? hxs⟩
  | _ => simp [Holds, Json.content?] at h

theorem Holds.entries {node : JsonNode} {keyed : List (Key × Content)}
    (h : node.Holds (.record keyed)) :
    ∃ (nodes : List (String × JsonNode)) (named : List (String × Content)),
      node.entries? = some nodes ∧ keyed = named.map (fun (k, v) => (.name k, v))
        ∧ List.Forall₂ HoldsEntry nodes named := by
  obtain ⟨depth, value⟩ := node
  cases value with
  | record entries =>
      cases depth with
      | zero => exact nomatch h
      | succ depth =>
          obtain ⟨es, hes, heq⟩ := Option.map_eq_some_iff.mp h
          cases heq
          exact exists_of_entryContents? hes
  | _ => simp [Holds, Json.content?] at h

/-! ## Fields -/

section

variable {nodes : List (String × JsonNode)} {named : List (String × Content)}

theorem keys_of_forall₂ (h : List.Forall₂ HoldsEntry nodes named) :
    Entries.keys nodes = Entries.keys named := by
  induction h with
  | nil => rfl
  | cons hentry _ ih => exact congrArg₂ List.cons hentry.1 ih

theorem find?_of_forall₂ (h : List.Forall₂ HoldsEntry nodes named) (name : String) :
    (Entries.find? nodes name = none ∧ Entries.find? named name = none)
      ∨ ∃ node c, Entries.find? nodes name = some node ∧ Entries.find? named name = some c
        ∧ node.Holds c := by
  induction h with
  | nil => exact .inl ⟨rfl, rfl⟩
  | @cons entry value _ _ hentry _ ih =>
      obtain ⟨k, node⟩ := entry
      obtain ⟨k', c⟩ := value
      obtain ⟨rfl, hholds⟩ : k = k' ∧ node.Holds c := hentry
      rw [Entries.find?_cons, Entries.find?_cons]
      by_cases heq : name = k
      · rw [if_pos heq, if_pos heq]
        exact .inr ⟨node, c, rfl, rfl, hholds⟩
      · rw [if_neg heq, if_neg heq]
        exact ih

theorem exists_ofEntries? {fields : List Field} (h : List.Forall₂ HoldsEntry nodes named)
    {slots : Slots Content}
    (hslots : Slots.ofEntries? fields (named.map fun (k, v) => (.name k, v)) = some slots) :
    ∃ slots', Slots.ofEntries? fields (nodes.map fun (k, n) => (.name k, n)) = some slots'
      ∧ List.Forall₂ HoldsEntry slots' slots := by
  induction h generalizing slots with
  | nil =>
      cases hslots
      exact ⟨[], rfl, .nil⟩
  | @cons entry value _ _ hentry _ ih =>
      obtain ⟨k, node⟩ := entry
      obtain ⟨k', c⟩ := value
      obtain ⟨rfl, hholds⟩ : k = k' ∧ node.Holds c := hentry
      rw [List.map_cons, Slots.ofEntries?_cons] at hslots ⊢
      split at hslots
      case h_1 rest hfield hrest =>
        cases hslots
        obtain ⟨rest', hrest', hslots'⟩ := ih hrest
        exact ⟨rest', by rw [hfield, hrest'], hslots'⟩
      case h_2 field rest hfield hrest =>
        obtain ⟨rest', hrest', hslots'⟩ := ih hrest
        split at hslots
        · cases hslots
        · rename_i hnew
          cases hslots
          refine ⟨(field.name, node) :: rest', ?_, .cons ⟨rfl, hholds⟩ hslots'⟩
          rw [hfield, hrest']
          rw [← keys_of_forall₂ hslots'] at hnew
          exact if_neg hnew
      case h_3 => cases hslots

theorem exists_ofList? {fields : List Field} {nodes : List JsonNode} {items : List Content}
    (h : List.Forall₂ Holds nodes items) {slots : Slots Content}
    (hslots : Slots.ofList? fields items = some slots) :
    ∃ slots', Slots.ofList? fields nodes = some slots' ∧ List.Forall₂ HoldsEntry slots' slots := by
  induction fields generalizing nodes items slots with
  | nil =>
      cases h with
      | nil =>
          cases hslots
          exact ⟨[], rfl, .nil⟩
      | cons => cases hslots
  | cons field fields ih =>
      cases h with
      | nil =>
          rw [Slots.ofList?] at hslots ⊢
          split at hslots
          case isTrue homit =>
            rw [if_pos homit]
            exact ih .nil hslots
          case isFalse => cases hslots
      | cons hhead hrest =>
          rw [Slots.ofList?] at hslots ⊢
          obtain ⟨rest, hread, rfl⟩ := Option.map_eq_some_iff.mp hslots
          obtain ⟨rest', hread', hslots'⟩ := ih hrest hread
          exact ⟨_, by rw [hread']; rfl, .cons ⟨rfl, hhead⟩ hslots'⟩

end

theorem fields_of_items? {node : JsonNode} {nodes : List JsonNode} (h : node.items? = some nodes)
    (fields : List Field) : Source.fields fields node = Slots.ofList? fields nodes := by
  have hbind : node.items?.bind (Slots.ofList? fields) = Slots.ofList? fields nodes := by
    rw [h]
    rfl
  obtain ⟨depth, value⟩ := node
  cases value with
  | list values => exact hbind
  | _ => cases depth <;> cases h

theorem fields_of_entries? {node : JsonNode} {nodes : List (String × JsonNode)}
    (h : node.entries? = some nodes) (fields : List Field) :
    Source.fields fields node = Slots.ofEntries? fields (nodes.map fun (k, n) => (.name k, n)) := by
  have hbind : (node.entries?.bind fun entries =>
      Slots.ofEntries? fields (entries.map fun (k, n) => (.name k, n)))
      = Slots.ofEntries? fields (nodes.map fun (k, n) => (.name k, n)) := by
    rw [h]
    rfl
  obtain ⟨depth, value⟩ := node
  cases value with
  | record entries => exact hbind
  | _ => cases depth <;> cases h

theorem Holds.fields {node : JsonNode} {c : Content} (h : node.Holds c) {fields : List Field}
    {slots : Slots Content} (hslots : Source.fields fields c = some slots) :
    ∃ slots' : Slots JsonNode, Source.fields fields node = some slots'
      ∧ List.Forall₂ HoldsEntry slots' slots := by
  cases c with
  | list items =>
      obtain ⟨nodes, hnodes, hholds⟩ := h.items
      obtain ⟨slots', hslots', hentries⟩ := exists_ofList? hholds hslots
      exact ⟨slots', (fields_of_items? hnodes fields).trans hslots', hentries⟩
  | record keyed =>
      obtain ⟨nodes, named, hnodes, rfl, hholds⟩ := h.entries
      obtain ⟨slots', hslots', hentries⟩ := exists_ofEntries? hholds hslots
      exact ⟨slots', (fields_of_entries? hnodes fields).trans hslots', hentries⟩
  | _ => cases hslots

/-! ## Readers -/

/-- What a reader of data finds in the data of a node, a reader of nodes finds in the node. -/
def Agrees (read : JsonNode → Option α) (read' : Content → Option α) : Prop :=
  ∀ ⦃node : JsonNode⦄ ⦃c : Content⦄ ⦃a : α⦄, node.Holds c → read' c = some a → read node = some a

theorem agrees_text : Agrees (Source.text : JsonNode → Option String) Content.text? := by
  intro node c a h hread
  cases c with
  | text s =>
      cases hread
      obtain ⟨depth, value⟩ := node
      cases value with
      | text t =>
          obtain ⟨s, rfl, heq⟩ := Option.map_eq_some_iff.mp h
          cases heq
          rfl
      | _ => simp [Holds, Json.content?] at h
  | _ => cases hread

theorem agrees_flag : Agrees (Source.flag : JsonNode → Option Bool) Content.flag? := by
  intro node c a h hread
  cases c with
  | bool b =>
      cases hread
      obtain ⟨depth, value⟩ := node
      cases value with
      | bool b =>
          cases h
          rfl
      | _ => simp [Holds, Json.content?] at h
  | _ => cases hread

theorem agrees_typed (read : Content → Option α) :
    Agrees (Source.typed read) (Source.typed read) := by
  intro node c a h hread
  rw [Source.typed_eq] at hread
  refine bind_eq_of_eq_some h ?_
  rw [hread]
  rfl

variable {read : JsonNode → Option α} {read' : Content → Option α}

theorem mapM_of_forall₂ {β γ δ : Type} {R : β → γ → Prop} {f : β → Option δ} {g : γ → Option δ}
    (hfg : ∀ b c d, R b c → g c = some d → f b = some d) {xs : List β} {ys : List γ} {zs : List δ}
    (h : List.Forall₂ R xs ys) (hread : ys.mapM g = some zs) : xs.mapM f = some zs := by
  induction h generalizing zs with
  | nil => exact hread
  | cons hhead _ ih =>
      rw [List.mapM_cons] at hread ⊢
      obtain ⟨z, hz, hread⟩ := Option.bind_eq_some_iff.mp hread
      obtain ⟨rest, hrest, hread⟩ := Option.bind_eq_some_iff.mp hread
      cases hread
      rw [hfg _ _ _ hhead hz, ih hrest]
      rfl

theorem Agrees.listOf (h : Agrees read read') : Agrees (Source.listOf read) (Source.listOf read') := by
  intro node c xs hholds hread
  cases c with
  | list items =>
      obtain ⟨nodes, hnodes, hitems⟩ := hholds.items
      have hread : items.mapM read' = some xs := hread
      refine bind_eq_of_eq_some hnodes (mapM_of_forall₂ ?_ hitems hread)
      exact fun _ _ _ hholds hitem => h hholds hitem
  | _ => cases hread

theorem Agrees.tableOf (h : Agrees read read') :
    Agrees (Source.tableOf read) (Source.tableOf read') := by
  intro node c table hholds hread
  cases c with
  | record keyed =>
      obtain ⟨nodes, named, hnodes, rfl, hentries⟩ := hholds.entries
      obtain ⟨named', hnamed, hread⟩ := Option.bind_eq_some_iff.mp hread
      obtain rfl : named = named' := by
        refine Option.some.inj (Eq.trans (Eq.symm ?_) hnamed)
        exact mapM_map_of_forall fun _ _ => rfl
      obtain ⟨entries, hentries', hread⟩ := Option.bind_eq_some_iff.mp hread
      refine bind_eq_of_eq_some hnodes (bind_eq_of_eq_some (mapM_of_forall₂ ?_ hentries hentries') hread)
      rintro ⟨k, n⟩ ⟨k', c⟩ entry ⟨rfl, hholds⟩ hentry
      obtain ⟨a, ha, hentry⟩ := Option.bind_eq_some_iff.mp hentry
      exact bind_eq_of_eq_some (h hholds ha) hentry
  | _ => cases hread

/-- Only null holds no value. -/
theorem Holds.optional {node : JsonNode} {c : Content} (h : node.Holds c) :
    Source.optional node = some (if c.isNull then none else some node) := by
  obtain ⟨depth, value⟩ := node
  cases value with
  | null | bool =>
      cases h
      rfl
  | number n =>
      obtain ⟨number, -, rfl⟩ := Option.map_eq_some_iff.mp h
      rfl
  | text s =>
      obtain ⟨text, -, rfl⟩ := Option.map_eq_some_iff.mp h
      rfl
  | list items =>
      cases depth with
      | zero => exact nomatch h
      | succ depth =>
          obtain ⟨xs, -, rfl⟩ := Option.map_eq_some_iff.mp h
          rfl
  | record entries =>
      cases depth with
      | zero => exact nomatch h
      | succ depth =>
          obtain ⟨es, -, rfl⟩ := Option.map_eq_some_iff.mp h
          rfl

theorem Agrees.nullable (h : Agrees read read') :
    Agrees (Source.nullable read) (Source.nullable read') := by
  intro node c x hholds hread
  rw [Source.nullable_eq] at hread
  refine bind_eq_of_eq_some hholds.optional ?_
  split at hread
  case isTrue hnull =>
    rw [if_pos hnull]
    exact hread
  case isFalse hnull =>
    rw [if_neg hnull]
    obtain ⟨a, ha, rfl⟩ := Option.map_eq_some_iff.mp hread
    show Option.map some (read node) = _
    rw [h hholds ha]
    rfl

variable {slots : Slots JsonNode} {slots' : Slots Content} {name : String}

theorem Agrees.optionalField (h : Agrees read read') (hslots : List.Forall₂ HoldsEntry slots slots')
    {x : Option α} (hread : Source.optionalField slots' name read' = some x) :
    Source.optionalField slots name read = some x := by
  unfold Source.optionalField at hread ⊢
  rcases find?_of_forall₂ hslots name with ⟨hnone, hnone'⟩ | ⟨node, c, hnode, hc, hholds⟩
  · rw [hnone'] at hread
    rwa [hnone]
  · rw [hc] at hread
    rw [hnode]
    exact h.nullable hholds hread

theorem Agrees.withDefault (h : Agrees read read') (hslots : List.Forall₂ HoldsEntry slots slots')
    {default x : α} (hread : Source.withDefault slots' name default read' = some x) :
    Source.withDefault slots name default read = some x := by
  unfold Source.withDefault at hread ⊢
  rcases find?_of_forall₂ hslots name with ⟨hnone, hnone'⟩ | ⟨node, c, hnode, hc, hholds⟩
  · rw [hnone'] at hread
    rwa [hnone]
  · rw [hc] at hread
    rw [hnode]
    exact h hholds hread

end JsonNode

end ApiRoutes
