import ApiRoutes.Decimal.Numeral
import ApiRoutes.Template.Value
import ApiRoutes.Text.Digits

/-!
# Tokens of templates

A template is text with outputs `{{ … }}`, statements `{% … %}` and comments `{# … #}` in it. A hyphen
inside a marker removes the blanks beyond it; the line feed after a statement or comment is removed
unless a plus sign keeps it. What stands between `raw` and `endraw` is text. Where no token can be
read the tokens end with one that is broken, so that a template is refused for what comes first.
-/

namespace ApiRoutes.Template

inductive Token where
  | text (s : String)
  | outputStart
  | outputEnd
  | stmtStart
  | stmtEnd
  | ident (name : String)
  | string (s : String)
  | natural (n : Nat)
  | float (x : Float)
  | symbol (s : String)
  /-- What is no token, and why. -/
  | broken (error : Error)
  deriving Inhabited

/-- What happens to the blanks beyond a marker. -/
inductive Margin where
  | default
  | keep
  | remove
  deriving DecidableEq, Repr

def Margin.ofChar? : Option Char → Margin
  | some '-' => .remove
  | some '+' => .keep
  | _ => .default

namespace Token

/-- A character that may start an identifier. -/
def isIdentStart (c : Char) : Bool := c.isAlpha || c = '_'

def isIdentRest (c : Char) : Bool := c.isAlphanum || c = '_'

def isGap (c : Char) : Bool := c = ' ' || c = '\t' || c = '\n' || c = '\r' || c = '\x0c'

/-- A text without the line feed at its start. -/
def dropNewline (cs : List Char) : List Char :=
  let cs := match cs with
    | '\r' :: rest => rest
    | cs => cs
  match cs with
  | '\n' :: rest => rest
  | cs => cs

/-- What follows a marker that ends a statement or a comment. -/
def afterMarker (margin : Margin) (cs : List Char) : List Char :=
  match margin with
  | .default => dropNewline cs
  | .keep => cs
  | .remove => Text.trimStart cs

/-- The text before the next marker, and the text from the marker on. -/
def splitText : List Char → List Char × List Char
  | [] => ([], [])
  | '\x7b' :: c :: cs =>
    if c = '\x7b' || c = '%' || c = '#' then ([], '\x7b' :: c :: cs)
    else
      let (before, rest) := splitText (c :: cs)
      ('\x7b' :: before, rest)
  | c :: cs =>
    let (before, rest) := splitText cs
    (c :: before, rest)

/-- What follows a statement that is a single word, with the margin at its end. -/
def bareStatement? (word : List Char) (cs : List Char) : Option (Margin × List Char) := do
  let cs := match cs with
    | '-' :: rest => rest
    | '+' :: rest => rest
    | cs => cs
  let cs ← Text.dropStart? word (cs.dropWhile isGap)
  match cs.dropWhile isGap with
  | '-' :: '%' :: '\x7d' :: rest => return (.remove, rest)
  | '+' :: '%' :: '\x7d' :: rest => return (.keep, rest)
  | '%' :: '\x7d' :: rest => return (.default, rest)
  | _ => none

/-- The text up to the statement that ends a raw part, and what follows it. -/
def rawText? : List Char → Option (List Char × List Char)
  | [] => none
  | c :: cs =>
    let more := (rawText? cs).map fun (before, rest) => (c :: before, rest)
    match c, cs with
    | '\x7b', '%' :: inner =>
      match bareStatement? "endraw".toList inner with
      | some (margin, rest) =>
        some ([], afterMarker margin rest)
      | none => more
    | _, _ => more

/-- Whether the statement that ends a raw part removes the blanks before it. -/
def rawEndRemoves : List Char → Bool
  | [] => false
  | '\x7b' :: '%' :: cs =>
    if (bareStatement? "endraw".toList cs).isSome then cs.head? = some '-' else rawEndRemoves cs
  | _ :: cs => rawEndRemoves cs

/-- The text of a raw part, trimmed at its margins, and what follows its end. -/
def raw? (margin : Margin) (cs : List Char) : Option (List Char × List Char) := do
  let (inner, rest) ← rawText? cs
  let inner := match margin with
    | .default => dropNewline inner
    | .keep => inner
    | .remove => Text.trimStart inner
  return (if rawEndRemoves cs then Text.trimEnd inner else inner, rest)

/-! ## Numbers -/

/-- How far a number is read: its whole part, its digits in a base of its own, its fraction, the mark
of its exponent, or the exponent. -/
inductive NumberPart where
  | whole
  | digits
  | fraction
  | mark
  | exponent
  deriving DecidableEq, Repr

/-- The part of a number that a character goes on with. An underscore may stand anywhere. -/
def NumberPart.after? (base : Nat) (part : NumberPart) (c : Char) : Option NumberPart :=
  if c = '_' then some part
  else if c.isDigit then some (if part = .mark then .exponent else part)
  else
    match part with
    | .whole => if c = '.' then some .fraction else if isMark c then some .mark else none
    | .digits => if base = 16 && (Text.digit? 16 c).isSome then some .digits else none
    | .fraction => if isMark c then some .mark else none
    | .mark => if c = '+' || c = '-' then some .exponent else none
    | .exponent => none
where
  isMark (c : Char) : Bool := c = 'e' || c = 'E'

/-- The characters of a number, the part it ends in, and what follows it. -/
def numberText (base : Nat) (part : NumberPart) : List Char → List Char × NumberPart × List Char
  | [] => ([], part, [])
  | c :: cs =>
    match part.after? base c with
    | some next =>
      let (more, last, rest) := numberText base next cs
      (c :: more, last, rest)
    | none => ([], part, c :: cs)

def digitValues (cs : List Char) : List Nat := cs.filterMap (Text.digit? 10)

/-- The sign and the digits of an exponent after its mark; there has to be a digit. -/
def exponent? (cs : List Char) : Option (Bool × List Nat) :=
  let (negative, digits) := match cs with
    | '-' :: digits => (true, digits)
    | '+' :: digits => (false, digits)
    | digits => (false, digits)
  if digits.isEmpty then none else some (negative, digitValues digits)

/-- The floating-point number that the characters write. -/
def floatOf? (cs : List Char) : Option Float := do
  let whole := cs.takeWhile Char.isDigit
  let (fraction, rest) := match cs.dropWhile Char.isDigit with
    | '.' :: more => (more.takeWhile Char.isDigit, more.dropWhile Char.isDigit)
    | rest => ([], rest)
  let exponent ← match rest with
    | [] => some none
    | _ :: written => (exponent? written).map some
  let numeral : Decimal.Numeral :=
    ⟨false, digitValues whole, digitValues fraction, exponent, !fraction.isEmpty⟩
  return Float.ofBits numeral.exact.bits

/-- The number that a text in a base writes. Whole numbers have at most 128 bits. -/
def numberOf? (base : Nat) (part : NumberPart) (cs : List Char) : Option Token := do
  if cs.getLast? = some '_' then failure
  let cs := cs.filter (· ≠ '_')
  if part = .whole || part = .digits then
    let n ← Text.number? base cs
    if Decimal.fitsUnsigned 128 n then return .natural n else failure
  else return .float (← floatOf? cs)

/-- The base that a number is written in, the part that comes first, and the number without the mark
of the base. -/
def numberBase : List Char → Nat × NumberPart × List Char
  | '0' :: c :: cs =>
    if c = 'b' || c = 'B' then (2, .digits, cs)
    else if c = 'o' || c = 'O' then (8, .digits, cs)
    else if c = 'x' || c = 'X' then (16, .digits, cs)
    else (10, .whole, '0' :: c :: cs)
  | cs => (10, .whole, cs)

/-- A number: whole, or with a fraction or an exponent. -/
def number (cs : List Char) : Token × List Char :=
  let (base, part, cs) := numberBase cs
  let (written, last, rest) := numberText base part cs
  ((numberOf? base last written).getD (.broken .syntaxError), rest)

/-! ## Texts -/

/-- The characters between quotes as they are written, and what follows the closing quote. -/
def quotedBody? (quote : Char) : List Char → Option (List Char × List Char)
  | [] => none
  | '\\' :: c :: cs => (quotedBody? quote cs).map fun (body, rest) => ('\\' :: c :: body, rest)
  | c :: cs =>
    if c = quote then some ([], cs)
    else (quotedBody? quote cs).map fun (body, rest) => (c :: body, rest)

/-- A part of a quoted text: characters, or one of the two halves that make a character. -/
inductive Piece where
  | chars (cs : List Char)
  | half (n : Nat)

def escape? : Char → Option Char
  | '\\' => some '\\'
  | '/' => some '/'
  | '"' => some '"'
  | '\'' => some '\''
  | 'b' => some '\x08'
  | 'f' => some '\x0c'
  | 'n' => some '\n'
  | 'r' => some '\r'
  | 't' => some '\t'
  | _ => none

/-- The number that hexadecimal digits write, where a plus sign may come first. -/
def hexNumber? : List Char → Option Nat
  | '+' :: cs => Text.number? 16 cs
  | cs => Text.number? 16 cs

/-- The number that as many hexadecimal digits as told write, and what follows them. -/
def hexDigits? (count : Nat) (cs : List Char) : Option (Nat × List Char) :=
  if cs.length < count then none else (hexNumber? (cs.take count)).map (·, cs.drop count)

/-- The octal digits that come next, at most as many as told, and what follows them. -/
def octalDigits : (count : Nat) → List Char → List Char × List Char
  | count + 1, c :: cs =>
    if (Text.digit? 8 c).isSome then
      let (digits, rest) := octalDigits count cs
      (c :: digits, rest)
    else ([], c :: cs)
  | _, cs => ([], cs)

/-- What an escape after its backslash stands for, and what follows it. A character that is not
escaped by a backslash keeps it. -/
def escaped? : List Char → Option (Piece × List Char)
  | [] => none
  | 'u' :: cs => do
    let (n, rest) ← hexDigits? 4 cs
    return (if n.isValidChar then .chars [Char.ofNat n] else .half n, rest)
  | 'x' :: cs => do
    let (n, rest) ← hexDigits? 2 cs
    return (.chars [Char.ofNat n], rest)
  | c :: cs =>
    if (Text.digit? 8 c).isSome then do
      let (digits, rest) := octalDigits 3 (c :: cs)
      let n ← Text.number? 8 digits
      if n < 256 then return (.chars [Char.ofNat n], rest) else failure
    else
      match escape? c with
      | some e => some (.chars [e], cs)
      | none => some (.chars ['\\', c], cs)

/-- The parts of a quoted text. Each step takes at least one character. -/
def pieces? : (fuel : Nat) → List Char → Option (List Piece)
  | 0, _ => none
  | _ + 1, [] => some []
  | fuel + 1, '\\' :: cs => do
    let (piece, rest) ← escaped? cs
    return piece :: (← pieces? fuel rest)
  | fuel + 1, c :: cs => do return .chars [c] :: (← pieces? fuel cs)

def joinHalves? (high low : Nat) : Option Char :=
  if 0xD800 ≤ high && high < 0xDC00 && 0xDC00 ≤ low && low < 0xE000 then
    some (Char.ofNat (0x10000 + (high - 0xD800) * 0x400 + (low - 0xDC00)))
  else none

/-- The characters of a quoted text. A half is followed by the half that goes with it. -/
def joinPieces? : List Piece → Option (List Char)
  | [] => some []
  | .chars cs :: rest => do return cs ++ (← joinPieces? rest)
  | .half high :: .half low :: rest => do return (← joinHalves? high low) :: (← joinPieces? rest)
  | .half _ :: _ => none

/-- A quoted text after its opening quote. -/
def quoted (quote : Char) (cs : List Char) : Token × List Char :=
  match quotedBody? quote cs with
  | none => (.broken .syntaxError, [])
  | some (body, rest) =>
    match (pieces? (body.length + 1) body).bind joinPieces? with
    | some read => (.string (String.ofList read), rest)
    | none => (.broken .badEscape, rest)

/-! ## Symbols -/

def longSymbols : List String := ["//", "**", "==", "!=", ">=", "<="]

def shortSymbols : List Char :=
  ['+', '-', '*', '/', '%', '.', ',', ':', '~', '|', '(', ')', '[', ']', '\x7b', '\x7d', '=', '<', '>']

/-- A token inside an output or statement, and what follows it. -/
def inner : List Char → Token × List Char
  | [] => (.broken .syntaxError, [])
  | c :: rest =>
    let cs := c :: rest
    if isIdentStart c then
      (.ident (String.ofList (cs.takeWhile isIdentRest)), cs.dropWhile isIdentRest)
    else if c.isDigit then number cs
    else if c = '"' || c = '\'' then quoted c rest
    else
      let two := String.ofList (cs.take 2)
      if longSymbols.contains two then (.symbol two, cs.drop 2)
      else if shortSymbols.contains c then (.symbol (String.singleton c), rest)
      else (.broken .syntaxError, rest)

/-- How a symbol changes the number of open brackets. -/
def nesting : Token → Int
  | .symbol "(" => 1
  | .symbol "[" => 1
  | .symbol "\x7b" => 1
  | .symbol ")" => -1
  | .symbol "]" => -1
  | .symbol "\x7d" => -1
  | _ => 0

/-- Where the reader is: in the text, or in an output or statement with some brackets open. -/
inductive Place where
  | text
  | output (brackets : Int)
  | stmt (brackets : Int)

/-- What follows the marker that ends an output. -/
def outputEnd? : List Char → Option (List Char)
  | '-' :: '\x7d' :: '\x7d' :: rest => some (Text.trimStart rest)
  | '+' :: '\x7d' :: '\x7d' :: rest => some rest
  | '\x7d' :: '\x7d' :: rest => some rest
  | _ => none

def stmtEnd? : List Char → Option (List Char)
  | '-' :: '%' :: '\x7d' :: rest => some (afterMarker .remove rest)
  | '+' :: '%' :: '\x7d' :: rest => some (afterMarker .keep rest)
  | '%' :: '\x7d' :: rest => some (afterMarker .default rest)
  | _ => none

def textToken (cs : List Char) : List Token :=
  if cs.isEmpty then [] else [.text (String.ofList cs)]

/-- The text of a marker without the sign for its margin. -/
def dropSign : List Char → List Char
  | '-' :: rest => rest
  | '+' :: rest => rest
  | cs => cs

def afterComment? (cs : List Char) : Option (List Char) := do
  let (comment, rest) ← Text.cut? ['#', '\x7d'] (dropSign cs)
  return afterMarker (Margin.ofChar? comment.getLast?) rest

/-- The tokens of a template. Each step takes at least one character or leaves the text. -/
def scan : (fuel : Nat) → Place → List Char → List Token
  | 0, _, _ => [.broken .syntaxError]
  | _ + 1, _, [] => []
  | fuel + 1, .text, cs =>
    match splitText cs with
    | (before, '\x7b' :: marker :: rest) =>
      let before := if rest.head? = some '-' then Text.trimEnd before else before
      textToken before ++
        if marker = '#' then
          match afterComment? rest with
          | none => [.broken .syntaxError]
          | some rest => scan fuel .text rest
        else if marker = '\x7b' then .outputStart :: scan fuel (.output 0) (dropSign rest)
        else
          match bareStatement? "raw".toList rest with
          | some (margin, inner) =>
            match raw? margin inner with
            | none => [.broken .syntaxError]
            | some (inside, rest) => textToken inside ++ scan fuel .text rest
          | none => .stmtStart :: scan fuel (.stmt 0) (dropSign rest)
    | (before, rest) => textToken (before ++ rest)
  | fuel + 1, .output brackets, cs =>
    let cs := cs.dropWhile isGap
    match (if brackets = 0 then outputEnd? cs else none) with
    | some rest => .outputEnd :: scan fuel .text rest
    | none =>
      match inner cs with
      | (.broken error, _) => [.broken error]
      | (token, rest) => token :: scan fuel (.output (brackets + token.nesting)) rest
  | fuel + 1, .stmt brackets, cs =>
    let cs := cs.dropWhile isGap
    match (if brackets = 0 then stmtEnd? cs else none) with
    | some rest => .stmtEnd :: scan fuel .text rest
    | none =>
      match inner cs with
      | (.broken error, _) => [.broken error]
      | (token, rest) => token :: scan fuel (.stmt (brackets + token.nesting)) rest

/-- The tokens of a template; a line feed at its end does not belong to it. -/
def ofSource (source : String) : List Token :=
  let cs := source.toList
  let cs := match cs.reverse with
    | '\n' :: '\r' :: rest => rest.reverse
    | '\n' :: rest => rest.reverse
    | _ => cs
  scan (2 * cs.length + 2) .text cs

end Token

end ApiRoutes.Template
