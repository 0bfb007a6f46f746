import ApiRoutes.Yaml.Token

/-!
# Reading tokens

`tokens?` reads a text token by token. A key is known as one only when its colon is reached: until
then the place where it would start is kept, one place for each level of brackets, and at the colon
the tokens for it are put in there. A line that starts left of open block collections ends them.
-/

namespace ApiRoutes.Yaml

/-- A place where a key may start. -/
structure KeyPlace where
  /-- The number of tokens before it. -/
  number : Nat
  /-- Whether nothing but a key can stand there. -/
  required : Bool
  index : Nat
  line : Nat
  column : Nat
  deriving Repr

/-- The greatest length of a key with its properties. -/
def keyLengthMax : Nat := 1024

/-- A text that is read in part. -/
structure Lexer where
  place : Cursor
  /-- The tokens so far, the last one first. -/
  tokens : List Token
  /-- The number of tokens so far. -/
  count : Nat
  /-- The columns of the open block collections, the innermost first. -/
  indents : List Nat
  keyAllowed : Bool
  /-- Where the key may have started at each level of brackets, the innermost first. -/
  keys : List (Option KeyPlace)

namespace Lexer

def start (text : List Char) : Lexer := ⟨.start text, [], 0, [], true, [none]⟩

/-- Whether brackets are open. -/
def inFlow (s : Lexer) : Bool := s.keys.length > 1

/-- The least column of lines that go on with what has been started. -/
def margin (s : Lexer) : Nat :=
  match s.indents with
  | [] => 0
  | column :: _ => column + 1

def emit (token : Token) (s : Lexer) : Lexer :=
  { s with tokens := token :: s.tokens, count := s.count + 1 }

/-- Adds a token after the first `number` ones. -/
def emitAt (number : Nat) (token : Token) (s : Lexer) : Lexer :=
  let later := s.count - number
  { s with tokens := s.tokens.take later ++ token :: s.tokens.drop later, count := s.count + 1 }

/-- Adds a token and goes to the place after it. -/
def emitTo (place : Cursor) (token : Token) (s : Lexer) : Lexer :=
  { s.emit token with place }

/-- Gives up the place of a key at the current level. -/
def dropKey? (s : Lexer) : Option Lexer :=
  match s.keys with
  | some key :: outer => if key.required then none else some { s with keys := none :: outer }
  | _ => some s

/-- Keeps this place as one where a key may start. -/
def keepKey? (s : Lexer) : Option Lexer :=
  if s.keyAllowed then
    s.dropKey?.map fun s =>
      -- at the column of the innermost collection a text can be nothing but a key
      let key : KeyPlace :=
        { number := s.count, required := !s.inFlow && s.indents.head? = some s.place.column
          index := s.place.index, line := s.place.line, column := s.place.column }
      { s with keys := some key :: s.keys.tail }
  else some s

/-- A key's place as long as its colon may still come: on the same line, not too far away. -/
def freshKey? (place : Cursor) : Option KeyPlace → Option (Option KeyPlace)
  | none => some none
  | some key =>
    if key.line < place.line || key.index + keyLengthMax < place.index then
      if key.required then none else some none
    else some (some key)

/-- Gives up the places of keys whose colon can no longer come. -/
def refreshKeys? (s : Lexer) : Option Lexer :=
  (s.keys.mapM (freshKey? s.place)).map fun keys => { s with keys }

/-- Opens a block collection at a column right of the open ones. Its start comes after the first
`number` tokens. -/
def openBlock (column number : Nat) (token : Token) (s : Lexer) : Lexer :=
  if !s.inFlow && s.margin ≤ column then
    { s.emitAt number token with indents := column :: s.indents }
  else s

/-- Closes the block collections whose column satisfies `p`, from the innermost on. -/
def closeBlocks (p : Nat → Bool) (s : Lexer) : Lexer :=
  if s.inFlow then s
  else
    let closed := s.indents.takeWhile p
    { s with
      tokens := List.replicate closed.length .blockEnd ++ s.tokens
      count := s.count + closed.length
      indents := s.indents.dropWhile p }

/-- Passes over blanks, comments and line breaks, and over a byte order mark that starts a line.
Outside brackets a tab is no blank where a key may start, and a key may start in each new line. -/
def skipGaps (inFlow : Bool) : (fuel : Nat) → Bool → Cursor → Bool × Cursor
  | 0, keyAllowed, c => (keyAllowed, c)
  | fuel + 1, keyAllowed, c =>
    let c := c.skipByteOrderMark
    let c := (c.skipWhile fun x => x = ' ' || (x = '\t' && (inFlow || !keyAllowed))).skipComment
    if c.at? isBreak then skipGaps inFlow fuel (keyAllowed || !inFlow) c.skipBreak
    else (keyAllowed, c)

/-- Goes to the next token's place. -/
def advance? (s : Lexer) : Option Lexer :=
  let (keyAllowed, place) := skipGaps s.inFlow (s.place.rest.length + 1) s.keyAllowed s.place
  ({ s with keyAllowed, place } : Lexer).refreshKeys?.map (·.closeBlocks (place.column < ·))

/-! ## The tokens -/

/-- Ends what is open before a directive or a mark between documents. -/
def endDocument? (s : Lexer) : Option Lexer :=
  (s.closeBlocks fun _ => true).dropKey?.map ({ · with keyAllowed := false })

def directive? (s : Lexer) : Option Lexer := do
  let s ← s.endDocument?
  let (token, place) ← readDirective? s.place
  return s.emitTo place token

def documentMark? (token : Token) (s : Lexer) : Option Lexer :=
  s.endDocument?.map fun s => s.emitTo (s.place.skip 3) token

def openFlow? (token : Token) (s : Lexer) : Option Lexer :=
  s.keepKey?.map fun s =>
    { s.emitTo (s.place.skip 1) token with keys := none :: s.keys, keyAllowed := true }

def closeFlow? (token : Token) (s : Lexer) : Option Lexer :=
  s.dropKey?.map fun s =>
    { s.emitTo (s.place.skip 1) token with
      keys := if s.inFlow then s.keys.tail else s.keys
      keyAllowed := false }

def comma? (s : Lexer) : Option Lexer :=
  s.dropKey?.map fun s => { s.emitTo (s.place.skip 1) .comma with keyAllowed := true }

def dash? (s : Lexer) : Option Lexer :=
  if !s.inFlow && !s.keyAllowed then none
  else
    (s.openBlock s.place.column s.count .blockListStart).dropKey?.map fun s =>
      { s.emitTo (s.place.skip 1) .dash with keyAllowed := true }

/-- The question mark before a key. -/
def key? (s : Lexer) : Option Lexer :=
  if !s.inFlow && !s.keyAllowed then none
  else
    (s.openBlock s.place.column s.count .blockTableStart).dropKey?.map fun s =>
      { s.emitTo (s.place.skip 1) .key with keyAllowed := !s.inFlow }

/-- The colon before a value. It makes a key of what starts at the place kept for one. -/
def value? (s : Lexer) : Option Lexer :=
  match s.keys with
  | some key :: outer =>
    -- a table that starts here starts with the key, left of the colon
    let s := (s.emitAt key.number .key).openBlock key.column key.number .blockTableStart
    some { s.emitTo (s.place.skip 1) .value with keys := none :: outer, keyAllowed := false }
  | _ =>
    if !s.inFlow && !s.keyAllowed then none
    else
      let s := s.openBlock s.place.column s.count .blockTableStart
      some { s.emitTo (s.place.skip 1) .value with keyAllowed := !s.inFlow }

/-- A token that may start a key. -/
def property? (read : Cursor → Option (Token × Cursor)) (s : Lexer) : Option Lexer := do
  let s ← s.keepKey?
  let (token, place) ← read s.place
  return { s.emitTo place token with keyAllowed := false }

def quoted? (double : Bool) : Lexer → Option Lexer :=
  property? fun c =>
    (quotedText? double (c.rest.length + 1) [] (c.skip 1)).map fun (text, place) =>
      (.scalar .quoted (String.ofList text), place)

def block? (folded : Bool) (s : Lexer) : Option Lexer := do
  let s ← s.dropKey?
  let (text, place) ← blockText? folded s.margin (s.place.skip 1)
  let style : Style := if folded then .folded else .literal
  return { s.emitTo place (.scalar style (String.ofList text)) with keyAllowed := true }

/-- A plain scalar. After a line break a key may start. -/
def plain? (s : Lexer) : Option Lexer := do
  let s ← s.keepKey?
  let (text, place, broken) ← plainText? s.inFlow s.margin (s.place.rest.length + 1) [] .none s.place
  return { s.emitTo place (.scalar .plain (String.ofList text)) with keyAllowed := broken }

def indicators : List Char := "-?:,[]\x7b\x7d#&*!|>'\"%@\x60".toList

/-- Whether a plain scalar starts with `c` before `rest`. -/
def startsPlain (inFlow : Bool) (c : Char) (rest : List Char) : Bool :=
  (!isGap c && !indicators.contains c) || (c = '-' && !rest.head?.any isSpace) ||
    (!inFlow && (c = '?' || c = ':') && !endsWord rest)

/-- Reads the token at this place. -/
def step? (s : Lexer) : Option Lexer :=
  match s.place.rest with
  | [] => none
  | c :: rest =>
    let inFlow := s.inFlow
    let ends := endsWord rest
    -- marks between documents start like a dash or a plain scalar, and come first
    if s.place.column = 0 && c = '%' then s.directive?
    else if s.place.atMark '-' then s.documentMark? .documentStart
    else if s.place.atMark '.' then s.documentMark? .documentEnd
    else if c = '[' then s.openFlow? .flowListStart
    else if c = '{' then s.openFlow? .flowTableStart
    else if c = ']' then s.closeFlow? .flowListEnd
    else if c = '}' then s.closeFlow? .flowTableEnd
    else if c = ',' then s.comma?
    else if c = '-' && ends then s.dash?
    else if c = '?' && (inFlow || ends) then s.key?
    else if c = ':' && (inFlow || ends) then s.value?
    else if c = '*' then s.property? fun c => (readAnchor? c).map fun (n, p) => (.aliasOf n, p)
    else if c = '&' then s.property? fun c => (readAnchor? c).map fun (n, p) => (.anchor n, p)
    else if c = '!' then s.property? fun c => (Tag.read? inFlow c).map fun (t, p) => (.tag t, p)
    else if c = '|' && !inFlow then s.block? false
    else if c = '>' && !inFlow then s.block? true
    else if c = '\'' then s.quoted? false
    else if c = '"' then s.quoted? true
    else if startsPlain inFlow c rest then s.plain?
    else none

/-- The tokens in order, once the text has ended. -/
def finish? (s : Lexer) : Option (List Token) :=
  (s.closeBlocks fun _ => true).dropKey?.map (·.tokens.reverse)

/-- Reads all tokens. Each takes at least one character. -/
def run? : (fuel : Nat) → Lexer → Option (List Token)
  | 0, _ => none
  | fuel + 1, s =>
    match s.advance? with
    | none => none
    | some s => if s.place.rest.isEmpty then s.finish? else s.step?.bind (run? fuel)

end Lexer

def tokens? (text : String) : Option (List Token) :=
  let cs := text.toList
  if cs.all isPermitted then (Lexer.start cs).run? (cs.length + 1) else none

end ApiRoutes.Yaml
