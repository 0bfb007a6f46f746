import ApiRoutes.Text.Digits
import ApiRoutes.Yaml.Cursor

/-!
# The texts of scalars

A scalar is written plainly, in quotes, or as a block of lines. Each reader here takes a `Cursor` at
the start of a scalar and gives its text with the place after it, or nothing if it is malformed.

Within plain and quoted scalars a line break is folded: alone it counts as a space, and of several
the first does not count. The readers' `fuel` bounds their steps; one more than the number of
characters that are left is enough.
-/

namespace ApiRoutes.Yaml

/-- The blanks and line breaks between two words. -/
structure Gap where
  /-- The blanks before the first line break. -/
  spaces : List Char
  /-- Whether the gap extends over several lines. -/
  broken : Bool
  /-- What the first line break counts as, unless it is escaped. -/
  first : List Char
  /-- What the other line breaks count as. -/
  others : List Char

namespace Gap

def none : Gap := ⟨[], false, [], []⟩

/-- A gap that starts after an escaped line break. -/
def escaped : Gap := ⟨[], true, [], []⟩

def text (gap : Gap) : List Char :=
  if !gap.broken then gap.spaces
  else if gap.first = ['\n'] then (if gap.others.isEmpty then [' '] else gap.others)
  else gap.first ++ gap.others

/-- Reads on to the end of a gap. In a new line no tab may stand left of column `margin`. -/
def read? (margin : Nat) : (fuel : Nat) → Gap → Cursor → Option (Gap × Cursor)
  | 0, _, _ => Option.none
  | fuel + 1, gap, c =>
    match c.rest with
    | [] => some (gap, c)
    | x :: _ =>
      if isSpace x then
        if gap.broken then
          if x = '\t' && c.column < margin then Option.none else read? margin fuel gap (c.skip 1)
        else read? margin fuel { gap with spaces := gap.spaces ++ [x] } (c.skip 1)
      else if isBreak x then
        let line := breakText c.rest
        if gap.broken then
          read? margin fuel { gap with others := gap.others ++ line } c.skipBreak
        else read? margin fuel ⟨[], true, line, []⟩ c.skipBreak
      else some (gap, c)

end Gap

/-! ## Plain scalars -/

/-- The characters up to the end of a word of a plain scalar. Inside brackets a colon must not stand
directly before one of their indicators. -/
def plainWord? (inFlow : Bool) : List Char → Option (List Char)
  | [] => some []
  | c :: cs =>
    if isGap c then some []
    else if inFlow && c = ':' && cs.head?.any (",?[]\x7b\x7d".toList.contains ·) then none
    else if c = ':' && endsWord cs then some []
    else if inFlow && ",[]\x7b\x7d".toList.contains c then some []
    else (plainWord? inFlow cs).map (c :: ·)

/-- The text of a plain scalar after `done`, the place after it, and whether a line break precedes
that place. Lines that go on with the scalar start at column `margin` or right of it, except inside
brackets. -/
def plainText? (inFlow : Bool) (margin : Nat) :
    (fuel : Nat) → List Char → Gap → Cursor → Option (List Char × Cursor × Bool)
  | 0, _, _, _ => none
  | fuel + 1, done, gap, c =>
    if c.atDocumentMark || c.next? = some '#' then some (done, c, gap.broken)
    else
      match plainWord? inFlow c.rest with
      | none => none
      | some word =>
        let after := c.skip word.length
        let done := if word.isEmpty then done else done ++ gap.text ++ word
        let broken := word.isEmpty && gap.broken
        if after.at? isGap then
          match Gap.none.read? margin (after.rest.length + 1) after with
          | none => none
          | some (gap, next) =>
            if !inFlow && next.column < margin then some (done, next, gap.broken)
            else plainText? inFlow margin fuel done gap next
        else some (done, after, broken)

/-! ## Quoted scalars -/

/-- The character whose number is written with `count` hexadecimal digits. -/
def numbered? (count : Nat) (cs : List Char) : Option Char := do
  let n ← if cs.length < count then none else Text.number? 16 (cs.take count)
  if h : n.isValidChar then some (Char.ofNatAux n h) else none

def shortEscape? : Char → Option Char
  | '0' => some '\x00'
  | 'a' => some '\x07'
  | 'b' => some '\x08'
  | 't' => some '\t'
  | '\t' => some '\t'
  | 'n' => some '\n'
  | 'v' => some '\x0b'
  | 'f' => some '\x0c'
  | 'r' => some '\r'
  | 'e' => some '\x1b'
  | ' ' => some ' '
  | '"' => some '"'
  | '/' => some '/'
  | '\\' => some '\\'
  | 'N' => some '\u0085'
  | '_' => some '\u00a0'
  | 'L' => some '\u2028'
  | 'P' => some '\u2029'
  | _ => none

/-- The character that an escape stands for, from what follows its backslash, and the number of
characters that the escape takes there. -/
def escape? : List Char → Option (Char × Nat)
  | [] => none
  | 'x' :: cs => (numbered? 2 cs).map (·, 3)
  | 'u' :: cs => (numbered? 4 cs).map (·, 5)
  | 'U' :: cs => (numbered? 8 cs).map (·, 9)
  | c :: _ => (shortEscape? c).map (·, 1)

inductive WordEnd where
  | closed
  | gap
  | escapedBreak
  deriving DecidableEq

/-- A word in double quotes with its escapes resolved, how it ends and the place where it does. -/
def doubleQuotedWord? : (fuel : Nat) → Cursor → Option (List Char × WordEnd × Cursor)
  | 0, _ => none
  | fuel + 1, c =>
    match c.rest with
    | [] => some ([], .gap, c)
    | '"' :: _ => some ([], .closed, c.skip 1)
    | '\\' :: cs =>
      if cs.head?.any isBreak then some ([], .escapedBreak, (c.skip 1).skipBreak)
      else
        match escape? cs with
        | none => none
        | some (x, length) =>
          (doubleQuotedWord? fuel (c.skip (length + 1))).map fun (word, rest) => (x :: word, rest)
    | x :: _ =>
      if isGap x then some ([], .gap, c)
      else (doubleQuotedWord? fuel (c.skip 1)).map fun (word, rest) => (x :: word, rest)

/-- A word in single quotes, in which a doubled quote stands for a quote. -/
def singleQuotedWord? : (fuel : Nat) → Cursor → Option (List Char × WordEnd × Cursor)
  | 0, _ => none
  | fuel + 1, c =>
    match c.rest with
    | [] => some ([], .gap, c)
    | '\'' :: '\'' :: _ =>
      (singleQuotedWord? fuel (c.skip 2)).map fun (word, rest) => ('\'' :: word, rest)
    | '\'' :: _ => some ([], .closed, c.skip 1)
    | x :: _ =>
      if isGap x then some ([], .gap, c)
      else (singleQuotedWord? fuel (c.skip 1)).map fun (word, rest) => (x :: word, rest)

/-- The text of a quoted scalar after `done`, and the place after its closing quote. -/
def quotedText? (double : Bool) :
    (fuel : Nat) → List Char → Cursor → Option (List Char × Cursor)
  | 0, _, _ => none
  | fuel + 1, done, c =>
    if c.atDocumentMark || c.rest.isEmpty then none
    else
      let steps := c.rest.length + 1
      match if double then doubleQuotedWord? steps c else singleQuotedWord? steps c with
      | none => none
      | some (word, .closed, after) => some (done ++ word, after)
      | some (word, wordEnd, after) =>
        if wordEnd = .escapedBreak && double && after.next? = some '"' then
          some (done ++ word, after.skip 1)
        else
          let start := if wordEnd = .escapedBreak then Gap.escaped else Gap.none
          match start.read? 0 steps after with
          | none => none
          | some (gap, next) => quotedText? double fuel (done ++ word ++ gap.text) next

/-! ## Blocks of lines -/

/-- What remains of the line breaks that end a block. -/
inductive Chomp where
  /-- None. -/
  | strip
  /-- The first. -/
  | clip
  | keep
  deriving DecidableEq

def Chomp.ofChar? : Char → Option Chomp
  | '+' => some .keep
  | '-' => some .strip
  | _ => none

/-- What an indicator of one digit adds to the indentation. -/
def increment? (c : Char) : Option Nat :=
  if '1' ≤ c && c ≤ '9' then some (c.toNat - '0'.toNat) else none

/-- The indicators after the first of a block, in either order, and the place after them. Without a
digit the indentation is found from the lines. -/
def blockHeader (c : Cursor) : Chomp × Option Nat × Cursor :=
  match c.next?.bind Chomp.ofChar? with
  | some chomp =>
    let c := c.skip 1
    match c.next?.bind increment? with
    | some n => (chomp, some n, c.skip 1)
    | none => (chomp, none, c)
  | none =>
    match c.next?.bind increment? with
    | some n =>
      let c := c.skip 1
      match c.next?.bind Chomp.ofChar? with
      | some chomp => (chomp, some n, c.skip 1)
      | none => (.clip, some n, c)
    | none => (.clip, none, c)

/-- Passes over empty lines and over the indentation of the next line. Without a given indentation
all spaces are passed over; `widest` is the greatest column so reached. A tab must not stand in the
indentation. -/
def blockBreaks? (indent : Option Nat) :
    (fuel : Nat) → (widest : Nat) → List Char → Cursor → Option (Nat × List Char × Cursor)
  | 0, _, _, _ => none
  | fuel + 1, widest, breaks, c =>
    let spaces := (c.rest.takeWhile (· = ' ')).length
    let passed := match indent with
      | some n => min spaces (n - c.column)
      | none => spaces
    let c := c.skip passed
    let widest := max widest c.column
    if c.next? = some '\t' && indent.all (c.column < ·) then none
    else if c.at? isBreak then
      blockBreaks? indent fuel widest (breaks ++ breakText c.rest) c.skipBreak
    else some (widest, breaks, c)

structure BlockLines where
  text : List Char
  last : List Char
  /-- The breaks of the empty lines after it. -/
  breaks : List Char
  spaced : Bool

/-- The text up to a new line, which starts with a blank if `spaced`. Where lines are folded, the
break between two lines that do not start with a blank is a space, or nothing before empty lines. -/
def BlockLines.join (folded spaced : Bool) (lines : BlockLines) : List Char :=
  if folded && lines.last = ['\n'] && !lines.spaced && !spaced then
    lines.text ++ (if lines.breaks.isEmpty then [' '] else lines.breaks)
  else lines.text ++ lines.last ++ lines.breaks

/-- The lines of a block with the given indentation, and the place after them. -/
def blockLines? (folded : Bool) (indent : Nat) :
    (fuel : Nat) → BlockLines → Cursor → Option (BlockLines × Cursor)
  | 0, _, _ => none
  | fuel + 1, lines, c =>
    if c.column = indent && !c.rest.isEmpty then
      let spaced := c.at? isSpace
      let line := c.rest.takeWhile (!isBreak ·)
      let after := c.skip line.length
      let text := lines.join folded spaced ++ line
      let last := breakText after.rest
      let next := after.skipBreak
      match blockBreaks? (some indent) (next.rest.length + 1) 0 [] next with
      | none => none
      | some (_, breaks, next) => blockLines? folded indent fuel ⟨text, last, breaks, spaced⟩ next
    else some (lines, c)

/-- The text of a block that follows its first indicator, and the place after it. The block stands
in a collection with indentation `parent - 1`. -/
def blockText? (folded : Bool) (parent : Nat) (c : Cursor) : Option (List Char × Cursor) := do
  let (chomp, increment, c) := blockHeader c
  let c ← c.endLine?
  let steps := c.rest.length + 1
  let given := increment.map fun n => (parent - 1) + n
  let (widest, breaks, c) ← blockBreaks? given steps 0 [] c
  let indent := given.getD (max widest (max parent 1))
  let (lines, c) ← blockLines? folded indent steps ⟨[], [], breaks, false⟩ c
  let text := match chomp with
    | .strip => lines.text
    | .clip => lines.text ++ lines.last
    | .keep => lines.text ++ lines.last ++ lines.breaks
  return (text, c)

end ApiRoutes.Yaml
