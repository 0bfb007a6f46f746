import ApiRoutes.Text.Digits
import ApiRoutes.Yaml.Cursor

/-!
# Tags

A tag says what kind of value a node holds. It is written with a handle, which a directive may
define, and a suffix whose escapes spell octets; `Tag` is the full tag that results.
-/

namespace ApiRoutes.Yaml

/-- A full tag. Its octets need not spell characters. -/
structure Tag where
  octets : List UInt8
  deriving DecidableEq, Repr

namespace Tag

def octetsOf (s : String) : List UInt8 := s.toUTF8.toList

/-- The text of octets, if they spell one. -/
def text? (tag : Tag) : Option String := String.fromUTF8? ⟨tag.octets.toArray⟩

def standardStart : String := "tag:yaml.org,2002:"

/-- Whether a tag asks for the standard kind with the given name. -/
def isStandard (name : String) (tag : Tag) : Bool := tag.octets = octetsOf (standardStart ++ name)

/-- The name in a tag that is local to a document: what follows its exclamation mark. -/
def localName? (tag : Tag) : Option String :=
  match tag.text?.map String.toList with
  | some ['!'] => some "!"
  | some ('!' :: name) => some (String.ofList name)
  | _ => none

/-- The characters of a suffix that stand for themselves, flow indicators apart. -/
def isSuffixChar (c : Char) : Bool := isWord c || ";/?:@&=+$.!~*'()".toList.contains c

/-- An octet that is written as a percent sign and two hexadecimal digits. -/
def escapedOctet? : List Char → Option (Nat × List Char)
  | '%' :: a :: b :: rest => (Text.number? 16 [a, b]).map (·, rest)
  | _ => none

/-- How many octets follow the first one of a character. -/
def followers? (octet : Nat) : Option Nat :=
  if octet < 0x80 then some 0
  else if octet / 0x20 = 0x6 then some 1
  else if octet / 0x10 = 0xE then some 2
  else if octet / 0x08 = 0x1E then some 3
  else none

/-- `count` octets that go on with a character. -/
def escapedFollowers? : (count : Nat) → List Char → Option (List UInt8 × List Char)
  | 0, cs => some ([], cs)
  | count + 1, cs =>
    match escapedOctet? cs with
    | none => none
    | some (octet, rest) =>
      if octet / 0x40 = 0x2 then
        (escapedFollowers? count rest).map fun (octets, rest) => (octet.toUInt8 :: octets, rest)
      else none

def escapedChar? (cs : List Char) : Option (List UInt8 × List Char) := do
  let (octet, rest) ← escapedOctet? cs
  let (octets, rest) ← escapedFollowers? (← followers? octet) rest
  return (octet.toUInt8 :: octets, rest)

/-- The octets of a suffix and what follows it. Flow indicators belong to it if `verbatim`. -/
def suffix? (verbatim : Bool) : (fuel : Nat) → List Char → Option (List UInt8 × List Char)
  | 0, _ => none
  | _ + 1, [] => some ([], [])
  | fuel + 1, c :: cs =>
    if c = '%' then
      match escapedChar? (c :: cs) with
      | none => none
      | some (octets, rest) =>
        (suffix? verbatim fuel rest).map fun (more, rest) => (octets ++ more, rest)
    else if isSuffixChar c || (verbatim && ",[]".toList.contains c) then
      (suffix? verbatim fuel cs).map fun (more, rest) => (c.toNat.toUInt8 :: more, rest)
    else some ([], c :: cs)

/-- The suffix at a place, and the place after it. -/
def readSuffix? (verbatim : Bool) (c : Cursor) : Option (List UInt8 × Cursor) :=
  (suffix? verbatim (c.rest.length + 1) c.rest).map fun (octets, rest) =>
    (octets, c.skip (c.rest.length - rest.length))

/-- A handle: an exclamation mark, perhaps with a name and a second one. The characters are given
even where the second mark is missing. -/
def readHandle? (c : Cursor) : Option (List Char × Cursor) :=
  if c.next? = some '!' then
    let name := (c.skip 1).rest.takeWhile isWord
    let after := c.skip (name.length + 1)
    if after.next? = some '!' then some ('!' :: name ++ ['!'], after.skip 1)
    else some ('!' :: name, after)
  else none

/-- A tag as it is written: the handle, empty if there is none, and the suffix. -/
structure Written where
  handle : String
  suffix : List UInt8
  deriving DecidableEq, Repr

/-- A tag without a handle, between angle brackets. -/
def readVerbatim? (c : Cursor) : Option (Written × Cursor) := do
  let (octets, c) ← readSuffix? true (c.skip 2)
  if octets.isEmpty || c.next? ≠ some '>' then none else some (⟨"", octets⟩, c.skip 1)

/-- A tag with a handle, or the mark alone. -/
def readShort? (c : Cursor) : Option (Written × Cursor) := do
  let (handle, c) ← readHandle? c
  let (octets, c) ← readSuffix? false c
  if handle.length > 1 && handle.getLast? = some '!' then
    if octets.isEmpty then none else some (⟨String.ofList handle, octets⟩, c)
  else
    let octets := octetsOf (String.ofList (handle.drop 1)) ++ octets
    if octets.isEmpty then some (⟨"", octetsOf "!"⟩, c) else some (⟨"!", octets⟩, c)

/-- The tag that starts at a place, and the place after it. A blank or a line's end follows it, or a
comma inside brackets. -/
def read? (inFlow : Bool) (c : Cursor) : Option (Written × Cursor) := do
  let (tag, c) ← if c.rest.drop 1 |>.head? |>.any (· = '<') then readVerbatim? c else readShort? c
  if (inFlow && c.next? = some ',') || endsWord c.rest then some (tag, c) else none

/-- What a handle stands for, by handle. -/
abbrev Handles := List (String × List UInt8)

/-- The handles that need no directive. -/
def Handles.standard : Handles := [("!", octetsOf "!"), ("!!", octetsOf standardStart)]

def Written.resolve? (handles : Handles) (tag : Written) : Option Tag :=
  if tag.handle = "" then some ⟨tag.suffix⟩
  else (handles.lookup tag.handle).map fun start => ⟨start ++ tag.suffix⟩

end Tag

end ApiRoutes.Yaml
