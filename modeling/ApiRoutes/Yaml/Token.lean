import ApiRoutes.Yaml.Tag
import ApiRoutes.Yaml.Text

/-!
# Tokens of a YAML text

The indicators, properties and scalars of a text in their order. The starts and ends of the
collections that are written by indentation are tokens as well, so that no later stage looks at
columns.
-/

namespace ApiRoutes.Yaml

/-- How a scalar is written. -/
inductive Style where
  | plain
  | quoted
  | literal
  | folded
  deriving DecidableEq, Repr, Inhabited

inductive Token where
  | version (major minor : Nat)
  | handle (name : String) (start : List UInt8)
  | documentStart
  | documentEnd
  | blockListStart
  | blockTableStart
  | blockEnd
  | flowListStart
  | flowListEnd
  | flowTableStart
  | flowTableEnd
  /-- The dash before an item. -/
  | dash
  /-- The comma between entries. -/
  | comma
  | key
  | value
  | aliasOf (name : String)
  | anchor (name : String)
  | tag (tag : Tag.Written)
  | scalar (style : Style) (text : String)
  deriving DecidableEq, Repr, Inhabited

/-! ## Directives -/

/-- A number of a version: up to nine digits. -/
def readVersionNumber? (c : Cursor) : Option (Nat × Cursor) :=
  let digits := c.rest.takeWhile Char.isDigit
  if digits.isEmpty || digits.length > 9 then none
  else some (digits.foldl (fun n d => n * 10 + (d.toNat - '0'.toNat)) 0, c.skip digits.length)

def readVersion? (c : Cursor) : Option (Token × Cursor) := do
  let (major, c) ← readVersionNumber? (c.skipWhile isSpace)
  let c ← if c.next? = some '.' then some (c.skip 1) else none
  let (minor, c) ← readVersionNumber? c
  return (.version major minor, c)

def readHandle? (c : Cursor) : Option (Token × Cursor) := do
  let (handle, c) ← Tag.readHandle? (c.skipWhile isSpace)
  let c ← if handle = ['!'] || (handle.length > 1 && handle.getLast? = some '!') then some c else none
  let c ← if c.at? isSpace then some (c.skipWhile isSpace) else none
  let (octets, c) ← Tag.readSuffix? true c
  if octets.isEmpty || !endsWord c.rest then none
  else some (.handle (String.ofList handle) octets, c)

/-- The directive at a place, up to the end of its line. -/
def readDirective? (c : Cursor) : Option (Token × Cursor) := do
  let name := (c.skip 1).rest.takeWhile isWord
  let c := c.skip (name.length + 1)
  let c ← if endsWord c.rest then some c else none
  let (token, c) ←
    if name = "YAML".toList then readVersion? c
    else if name = "TAG".toList then readHandle? c
    else none
  return (token, ← c.endLine?)

/-! ## Anchors -/

/-- The name after the mark of an anchor or an alias. -/
def readAnchor? (c : Cursor) : Option (String × Cursor) :=
  let name := (c.skip 1).rest.takeWhile isWord
  let after := c.skip (name.length + 1)
  if !name.isEmpty && (endsWord after.rest || after.at? ("?:,]\x7d%@\x60".toList.contains ·)) then
    some (String.ofList name, after)
  else none

end ApiRoutes.Yaml
