/-!
# Places in a YAML text

The classes of characters that YAML tells apart, and `Cursor`, a place in a text: the characters that
are left, with the line and the column that decide about indentation.
-/

namespace ApiRoutes.Yaml

/-- The characters that a text may hold. -/
def isPermitted (c : Char) : Bool :=
  let n := c.toNat
  n = 0x09 || n = 0x0A || n = 0x0D || (0x20 ≤ n && n ≤ 0x7E) || n = 0x85 ||
    (0xA0 ≤ n && n ≤ 0xD7FF) || (0xE000 ≤ n && n ≤ 0xFFFD) || 0x10000 ≤ n

def isBreak (c : Char) : Bool :=
  c = '\r' || c = '\n' || c = '\u0085' || c = '\u2028' || c = '\u2029'

def isSpace (c : Char) : Bool := c = ' ' || c = '\t'

/-- A blank or the end of a line. -/
def isGap (c : Char) : Bool := isSpace c || isBreak c

/-- A character of an anchor's or a directive's name. -/
def isWord (c : Char) : Bool := c.isAlphanum || c = '_' || c = '-'

/-- Whether a word ends here: at a blank, at a line's end, at the text's end. -/
def endsWord : List Char → Bool
  | [] => true
  | c :: _ => isGap c

/-- A line break as it counts in a scalar: every ordinary one is a line feed. -/
def breakText : List Char → List Char
  | [] => []
  | c :: _ => if c = '\u2028' || c = '\u2029' then [c] else ['\n']

/-- A place in a text. -/
structure Cursor where
  rest : List Char
  /-- How many characters lie before. -/
  index : Nat
  line : Nat
  column : Nat

namespace Cursor

def start (text : List Char) : Cursor := ⟨text, 0, 0, 0⟩

def next? (c : Cursor) : Option Char := c.rest.head?

def at? (p : Char → Bool) (c : Cursor) : Bool := c.rest.head?.any p

/-- The place `n` characters further in the line. -/
def skip (n : Nat) (c : Cursor) : Cursor :=
  ⟨c.rest.drop n, c.index + n, c.line, c.column + n⟩

def skipWhile (p : Char → Bool) (c : Cursor) : Cursor := c.skip (c.rest.takeWhile p).length

/-- The place after a line break, for which a carriage return and a line feed are one. -/
def skipBreak (c : Cursor) : Cursor :=
  match c.rest with
  | '\r' :: '\n' :: rest => ⟨rest, c.index + 2, c.line + 1, 0⟩
  | _ :: rest => ⟨rest, c.index + 1, c.line + 1, 0⟩
  | [] => c

def skipLine (c : Cursor) : Cursor := c.skipWhile (!isBreak ·)

/-- The place after a byte order mark, if a line starts with one. It says nothing but takes up a
column. -/
def skipByteOrderMark (c : Cursor) : Cursor :=
  if c.column = 0 && c.next? = some '\ufeff' then c.skip 1 else c

/-- The place after a comment, if one stands here. -/
def skipComment (c : Cursor) : Cursor := if c.next? = some '#' then c.skipLine else c

/-- The place at the start of the next line, if nothing but blanks and a comment is left of this
one. -/
def endLine? (c : Cursor) : Option Cursor :=
  let c := (c.skipWhile isSpace).skipComment
  match c.rest with
  | [] => some c
  | x :: _ => if isBreak x then some c.skipBreak else none

/-- Whether one of the marks between documents stands here, at the start of a line. -/
def atMark (mark : Char) (c : Cursor) : Bool :=
  c.column = 0 && c.rest.take 3 = [mark, mark, mark] && endsWord (c.rest.drop 3)

/-- Whether a document ends here because a mark between documents follows. -/
def atDocumentMark (c : Cursor) : Bool := c.atMark '-' || c.atMark '.'

end Cursor

end ApiRoutes.Yaml
