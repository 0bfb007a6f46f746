import ApiRoutes.Yaml.Lexer

/-!
# The tree of a YAML text

`Document.ofText?` makes a tree of a text's tokens. An alias stays a leaf of the tree, which names
the node that it stands for by number, so that a tree is finite even where a node contains an alias
of itself.

Anchors are numbered by how many different names come before them. So an anchor with a name that was
used before shares its number with the next new name, and the later of the two nodes is the one that
the number leads to.
-/

namespace ApiRoutes.Yaml

/-- What is said of a node beside its value. -/
structure Properties where
  tag : Option Tag
  anchor : Option Nat
  deriving DecidableEq, Repr, Inhabited

inductive Node where
  | scalar (properties : Properties) (style : Style) (text : String)
  | list (properties : Properties) (items : List Node)
  | table (properties : Properties) (entries : List (Node × Node))
  | aliasOf (anchor : Nat)
  deriving Repr, Inhabited

namespace Node

/-- A node that is not written. -/
def empty : Node := scalar ⟨none, none⟩ .plain ""

def properties : Node → Properties
  | scalar p .. => p
  | list p _ => p
  | table p _ => p
  | aliasOf _ => ⟨none, none⟩

mutual

/-- The number of leaves and of starts and ends of collections. -/
def size : Node → Nat
  | scalar .. => 1
  | aliasOf _ => 1
  | list _ items => sizeItems items + 2
  | table _ entries => sizeEntries entries + 2

def sizeItems : List Node → Nat
  | [] => 0
  | item :: items => size item + sizeItems items

def sizeEntries : List (Node × Node) → Nat
  | [] => 0
  | (key, value) :: entries => size key + size value + sizeEntries entries

end

mutual

/-- The nodes with anchors, by number, the last one first. -/
def anchored (found : List (Nat × Node)) (node : Node) : List (Nat × Node) :=
  let found :=
    match node.properties.anchor with
    | some n => (n, node) :: found
    | none => found
  match node with
  | list _ items => anchoredItems found items
  | table _ entries => anchoredEntries found entries
  | _ => found

def anchoredItems (found : List (Nat × Node)) : List Node → List (Nat × Node)
  | [] => found
  | item :: items => anchoredItems (anchored found item) items

/-- The nodes with anchors among a table's entries. -/
def anchoredEntries (found : List (Nat × Node)) : List (Node × Node) → List (Nat × Node)
  | [] => found
  | (key, value) :: entries => anchoredEntries (anchored (anchored found key) value) entries

end

end Node

/-! ## From tokens to nodes -/

/-- The tokens that are left, and the numbers of the anchors by name. -/
structure Reading where
  tokens : List Token
  anchors : List (String × Nat)

namespace Reading

def skip (r : Reading) : Reading := { r with tokens := r.tokens.tail }

def at? (tokens : List Token) (r : Reading) : Bool := r.tokens.head?.any (tokens.contains ·)

def number (name : String) (r : Reading) : Nat × Reading :=
  let n := (r.anchors.filter fun (other, _) => other ≠ name).length
  let known := r.anchors.any fun (other, _) => other = name
  let n := if known then n + 1 else n
  (n, { r with anchors := (name, n) :: r.anchors.filter fun (other, _) => other ≠ name })

/-- The anchor and the tag before a node, in either order. -/
def properties (r : Reading) : Option String × Option Tag.Written × Reading :=
  match r.tokens with
  | .anchor name :: .tag tag :: rest => (some name, some tag, { r with tokens := rest })
  | .anchor name :: rest => (some name, none, { r with tokens := rest })
  | .tag tag :: .anchor name :: rest => (some name, some tag, { r with tokens := rest })
  | .tag tag :: rest => (none, some tag, { r with tokens := rest })
  | _ => (none, none, r)

end Reading

/-- Where a node stands: what may start there. -/
inductive Setting where
  /-- An item or the root of a document: every node. -/
  | block
  /-- A key or value of a block table, which may also be a list that is not indented. -/
  | entry
  /-- Between brackets: no block collection. -/
  | flow
  deriving DecidableEq

/-- The tag of a scalar. The mark alone only says that there is no other. -/
def scalarTag (tag : Option Tag) : Option Tag := tag.filter (·.octets ≠ Tag.octetsOf "!")

mutual

def readNode? (handles : Tag.Handles) : (fuel : Nat) → Setting → Reading → Option (Node × Reading)
  | 0, _, _ => none
  | fuel + 1, setting, r =>
    match r.tokens with
    | .aliasOf name :: _ => (r.anchors.lookup name).map fun n => (.aliasOf n, r.skip)
    | _ => do
      let (anchor, tag, r) := r.properties
      let tag ← match tag with
        | none => some none
        | some tag => (tag.resolve? handles).map some
      let (anchor, r) := match anchor with
        | none => (none, r)
        | some name =>
          let (n, r) := r.number name
          (some n, r)
      let properties : Properties := ⟨tag, anchor⟩
      match r.tokens with
      | .scalar style text :: _ => some (.scalar ⟨scalarTag tag, anchor⟩ style text, r.skip)
      | .flowListStart :: _ => do
        let (items, r) ← readFlowItems? handles fuel true r.skip
        return (.list properties items, r)
      | .flowTableStart :: _ => do
        let (entries, r) ← readFlowEntries? handles fuel true r.skip
        return (.table properties entries, r)
      | token :: _ =>
        if setting = .entry && token = .dash then do
          let (items, r) ← readDashes? handles fuel r
          return (.list properties items, r)
        else if setting ≠ .flow && token = .blockListStart then do
          let (items, r) ← readBlockItems? handles fuel r.skip
          return (.list properties items, r)
        else if setting ≠ .flow && token = .blockTableStart then do
          let (entries, r) ← readBlockEntries? handles fuel r.skip
          return (.table properties entries, r)
        else if tag.isSome || anchor.isSome then some (.scalar properties .plain "", r)
        else none
      | [] => if tag.isSome || anchor.isSome then some (.scalar properties .plain "", r) else none

def readBlockItems? (handles : Tag.Handles) : (fuel : Nat) → Reading → Option (List Node × Reading)
  | 0, _ => none
  | fuel + 1, r =>
    match r.tokens with
    | .dash :: _ => do
      let r := r.skip
      let (item, r) ←
        if r.at? [.dash, .blockEnd] then some (Node.empty, r)
        else readNode? handles fuel .block r
      let (items, r) ← readBlockItems? handles fuel r
      return (item :: items, r)
    | .blockEnd :: _ => some ([], r.skip)
    | _ => none

/-- The items of a list that is not indented. -/
def readDashes? (handles : Tag.Handles) : (fuel : Nat) → Reading → Option (List Node × Reading)
  | 0, _ => none
  | fuel + 1, r =>
    match r.tokens with
    | .dash :: _ => do
      let r := r.skip
      let (item, r) ←
        if r.at? [.dash, .key, .value, .blockEnd] then some (Node.empty, r)
        else readNode? handles fuel .block r
      let (items, r) ← readDashes? handles fuel r
      return (item :: items, r)
    | _ => some ([], r)

/-- The entries of a block table up to its end. -/
def readBlockEntries? (handles : Tag.Handles) :
    (fuel : Nat) → Reading → Option (List (Node × Node) × Reading)
  | 0, _ => none
  | fuel + 1, r =>
    match r.tokens with
    | .key :: _ => do
      let (key, r) ← readEntryPart? handles fuel r.skip
      let (value, r) ←
        if r.at? [.value] then readEntryPart? handles fuel r.skip else some (Node.empty, r)
      let (entries, r) ← readBlockEntries? handles fuel r
      return ((key, value) :: entries, r)
    | .blockEnd :: _ => some ([], r.skip)
    | _ => none

/-- The key or the value of a block table's entry, which may be left out. -/
def readEntryPart? (handles : Tag.Handles) : (fuel : Nat) → Reading → Option (Node × Reading)
  | 0, _ => none
  | fuel + 1, r =>
    if r.at? [.key, .value, .blockEnd] then some (Node.empty, r)
    else readNode? handles fuel .entry r

/-- The items of a list in brackets up to its end, the first one if `first`. -/
def readFlowItems? (handles : Tag.Handles) :
    (fuel : Nat) → (first : Bool) → Reading → Option (List Node × Reading)
  | 0, _, _ => none
  | fuel + 1, first, r =>
    if r.at? [.flowListEnd] then some ([], r.skip)
    else do
      let r ← if first then some r else if r.at? [.comma] then some r.skip else none
      if r.at? [.flowListEnd] then some ([], r.skip)
      else
        let (item, r) ←
          if r.at? [.key] then readPair? handles fuel r.skip else readNode? handles fuel .flow r
        let (items, r) ← readFlowItems? handles fuel false r
        return (item :: items, r)

/-- The only entry of a table that is written as an item of a list in brackets. Where its key is left
out, the token that stands there belongs to it. -/
def readPair? (handles : Tag.Handles) : (fuel : Nat) → Reading → Option (Node × Reading)
  | 0, _ => none
  | fuel + 1, r => do
    let (key, r) ←
      if r.at? [.value, .comma, .flowListEnd] then some (Node.empty, r.skip)
      else readNode? handles fuel .flow r
    let (value, r) ←
      if r.at? [.value] then
        if r.skip.at? [.comma, .flowListEnd] then some (Node.empty, r.skip)
        else readNode? handles fuel .flow r.skip
      else some (Node.empty, r)
    return (.table ⟨none, none⟩ [(key, value)], r)

/-- The entries of a table in brackets up to its end, the first one if `first`. -/
def readFlowEntries? (handles : Tag.Handles) :
    (fuel : Nat) → (first : Bool) → Reading → Option (List (Node × Node) × Reading)
  | 0, _, _ => none
  | fuel + 1, first, r =>
    if r.at? [.flowTableEnd] then some ([], r.skip)
    else do
      let r ← if first then some r else if r.at? [.comma] then some r.skip else none
      if r.at? [.flowTableEnd] then some ([], r.skip)
      else if r.at? [.key] then
        let (key, r) ←
          if r.skip.at? [.value, .comma, .flowTableEnd] then some (Node.empty, r.skip)
          else readNode? handles fuel .flow r.skip
        let (value, r) ←
          if r.at? [.value] then
            if r.skip.at? [.comma, .flowTableEnd] then some (Node.empty, r.skip)
            else readNode? handles fuel .flow r.skip
          else some (Node.empty, r)
        let (entries, r) ← readFlowEntries? handles fuel false r
        return ((key, value) :: entries, r)
      else
        let (key, r) ← readNode? handles fuel .flow r
        let (entries, r) ← readFlowEntries? handles fuel false r
        return ((key, Node.empty) :: entries, r)

end

/-! ## Documents -/

/-- Whether a document may ask for this version. -/
def isKnownVersion (major minor : Nat) : Bool := major = 1 && (minor = 1 || minor = 2)

/-- Reads the directives before a document: at most one version and no handle twice. The handles that
they define are given with the standard ones. -/
def readDirectives? (versioned : Bool) (handles : Tag.Handles) :
    List Token → Option (Tag.Handles × List Token)
  | .version major minor :: rest =>
    if versioned || !isKnownVersion major minor then none else readDirectives? true handles rest
  | .handle name start :: rest =>
    if (handles.lookup name).isSome then none
    else readDirectives? versioned (handles ++ [(name, start)]) rest
  | rest => some (handles ++ Tag.Handles.standard, rest)

/-- Whether a document starts without a mark before this token. -/
def startsBare : Token → Bool
  | .version .. => false
  | .handle .. => false
  | .documentStart => false
  | _ => true

/-- The tokens of a document's root with the handles for its tags. -/
def openDocument? (tokens : List Token) : Option (Tag.Handles × List Token) := do
  match tokens with
  | [] => none
  | token :: _ =>
    if startsBare token then some (Tag.Handles.standard, tokens)
    else
      let (handles, rest) ← readDirectives? false [] tokens
      if rest.head? = some .documentStart then some (handles, rest.tail) else none

/-- The root of the only document of a text; one without any is empty. Nothing but ends of documents
may follow it. -/
def root? (tokens : List Token) : Option Node :=
  if tokens.isEmpty then some .empty
  else do
    let bare := tokens.head?.all startsBare
    let (handles, rest) ← openDocument? tokens
    let (root, r) ←
      if !bare && rest.head?.all fun token => token = .documentEnd || !startsBare token then
        some (Node.empty, ⟨rest, []⟩)
      else readNode? handles (2 * rest.length + 2) .block ⟨rest, []⟩
    if r.tokens.all (· = .documentEnd) then some root else none

/-- A tree with what its aliases stand for. -/
structure Document where
  root : Node
  anchored : List (Nat × Node)

namespace Document

def ofRoot (root : Node) : Document := ⟨root, root.anchored []⟩

/-- The only document of a text. -/
def ofText? (text : String) : Option Document := ((tokens? text).bind root?).map ofRoot

/-- How many aliases may be followed while the document is read. -/
def aliasLimit (doc : Document) : Nat := doc.root.size * 100

end Document

end ApiRoutes.Yaml
