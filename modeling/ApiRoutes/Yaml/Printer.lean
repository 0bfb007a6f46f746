import ApiRoutes.Decimal.Shortest
import ApiRoutes.Yaml.Scalar

/-!
# Writing YAML

Data as a YAML text: collections by indentation, two spaces for each level, a list in a record with
its dashes right below the key. A text is written plainly where it reads back as the same text, else
in single quotes, or as a literal block if it has several lines; what none of these can hold is
written in double quotes with escapes.
-/

namespace ApiRoutes.YamlText

open Decimal (FloatFormat Number)
open Yaml (isBreak isSpace isGap)

/-- Floating-point numbers: positional from `1e-5` up to `1e16`, else with an exponent. -/
def floats : FloatFormat := ⟨"", .toEven, fun power => -5 ≤ power && power < 16⟩

def number : Number → String
  | .int n => toString n
  | .float x =>
    if x.isFinite then floats.write x
    else if x.isNaN then ".nan"
    else if x.isNegative then "-.inf"
    else ".inf"

/-! ## The form of a text -/

/-- A character that may stand for itself. -/
def isPrintable (c : Char) : Bool :=
  let n := c.toNat
  n = 0x0A || (0x20 ≤ n && n ≤ 0x7E) || (0xA0 ≤ n && n ≤ 0xD7FF) ||
    (0xE000 ≤ n && n ≤ 0xFFFD && n ≠ 0xFEFF) || 0x10000 ≤ n

/-- A blank, a line break or a null character. -/
def isSeparator (c : Char) : Bool := isGap c || c = '\x00'

/-- Whether `p` holds of two neighbours. -/
def anyPair (p : Char → Char → Bool) : List Char → Bool
  | a :: b :: rest => p a b || anyPair p (b :: rest)
  | _ => false

def leadingIndicators : List Char := "#,[]\x7b\x7d&*!|>'\"%@\x60".toList

/-- Whether a text has indicators where it must not have them to be plain: at its start, a colon
before a blank, a number sign after one. -/
def hasIndicators (cs : List Char) : Bool :=
  cs.take 3 = ['-', '-', '-'] || cs.take 3 = ['.', '.', '.'] ||
    (match cs with
      | [] => false
      | c :: rest =>
        leadingIndicators.contains c ||
          ((c = '?' || c = ':' || c = '-') && !rest.head?.any (!isSeparator ·))) ||
    cs.getLast? = some ':' ||
    anyPair (fun a b => (a = ':' && isSeparator b) || (b = '#' && isSeparator a)) cs

def isEdge (c : Char) : Bool := c = ' ' || isBreak c

/-- Whether a text has a space directly before or after a line break. -/
def hasSpaceAtBreak (cs : List Char) : Bool :=
  anyPair (fun a b => (a = ' ' && isBreak b) || (isBreak a && b = ' ')) cs

def hasSpaceBeforeBreak (cs : List Char) : Bool := anyPair (fun a b => a = ' ' && isBreak b) cs

/-- Whether a text of one line can be written plainly. -/
def allowsPlain (cs : List Char) : Bool :=
  !cs.head?.any isEdge && !cs.getLast?.any isEdge && cs.all isPrintable && !cs.any isBreak &&
    !hasIndicators cs

def allowsSingle (cs : List Char) : Bool := cs.all isPrintable && !hasSpaceAtBreak cs

/-- Whether a text can be written as a literal block. -/
def allowsLiteral (cs : List Char) : Bool :=
  !cs.isEmpty && cs.getLast? ≠ some ' ' && cs.all isPrintable && !hasSpaceBeforeBreak cs

/-- Whether a plain scalar of this spelling would not be a text, or looks like a number. -/
def looksTyped (s : String) : Bool :=
  match Yaml.plainContent? s with
  | some (.text _) => Yaml.isPaddedNumber s.toList
  | _ => true

inductive Form where
  | plain
  | single
  | double
  | literal
  deriving DecidableEq

def Form.of (s : String) : Form :=
  let cs := s.toList
  if cs.contains '\n' then if allowsLiteral cs then .literal else .double
  else if !looksTyped s && allowsPlain cs then .plain
  else if allowsSingle cs then .single
  else .double

/-! ## Writing texts -/

def spaces (n : Nat) : List Char := List.replicate n ' '

/-- The characters of lines, each line that is not empty after `indent` spaces. The first line is
indented if `fresh`. -/
def indented (indent : Nat) : (fresh : Bool) → List Char → List Char
  | _, [] => []
  | fresh, c :: cs =>
    if isBreak c then c :: indented indent true cs
    else (if fresh then spaces indent else []) ++ c :: indented indent false cs

/-- A text of several lines in single quotes: an ordinary line break is doubled, and new lines are
indented. -/
def singleQuoted (indent : Nat) : (fresh : Bool) → List Char → List Char
  | fresh, [] => (if fresh then spaces indent else []) ++ ['\'']
  | fresh, c :: cs =>
    if isBreak c then
      (if !fresh && c = '\n' then ['\n'] else []) ++ c :: singleQuoted indent true cs
    else
      (if fresh then spaces indent else []) ++
        (if c = '\'' then ['\'', '\''] else [c]) ++ singleQuoted indent false cs

def hexDigits (n : Nat) : (count : Nat) → List Char
  | 0 => []
  | count + 1 => hexDigits (n / 16) count ++ ["0123456789ABCDEF".toList.getD (n % 16) '0']

def escape (c : Char) : List Char :=
  match c with
  | '\x00' => ['\\', '0']
  | '\x07' => ['\\', 'a']
  | '\x08' => ['\\', 'b']
  | '\t' => ['\\', 't']
  | '\n' => ['\\', 'n']
  | '\x0b' => ['\\', 'v']
  | '\x0c' => ['\\', 'f']
  | '\r' => ['\\', 'r']
  | '\x1b' => ['\\', 'e']
  | '"' => ['\\', '"']
  | '\\' => ['\\', '\\']
  | '\u0085' => ['\\', 'N']
  | '\u00a0' => ['\\', '_']
  | '\u2028' => ['\\', 'L']
  | '\u2029' => ['\\', 'P']
  | c =>
    let n := c.toNat
    if n ≤ 0xFF then '\\' :: 'x' :: hexDigits n 2
    else if n ≤ 0xFFFF then '\\' :: 'u' :: hexDigits n 4
    else '\\' :: 'U' :: hexDigits n 8

def doubleQuotedChar (c : Char) : List Char :=
  if !isPrintable c || isBreak c || c = '"' || c = '\\' then escape c else [c]

/-- What stands behind the mark of a literal block: the indentation if the lines do not show it, and
how the block ends. -/
def literalHints (cs : List Char) : List Char :=
  (if cs.head?.any isEdge then ['2'] else []) ++
    match cs.reverse with
    | [] => ['-']
    | [c] => if isBreak c then ['+'] else ['-']
    | c :: d :: _ => if !isBreak c then ['-'] else if isBreak d then ['+'] else []

/-- A text of one line, or one whose line breaks do not show. New lines are indented by `indent`
spaces. -/
def scalar (indent : Nat) (s : String) : String :=
  match Form.of s with
  | .plain => s
  | .single => String.ofList ('\'' :: singleQuoted indent false s.toList)
  | _ => String.ofList ('"' :: s.toList.flatMap doubleQuotedChar ++ ['"'])

/-- A literal block, whose lines are indented by `indent` spaces. -/
def literal (indent : Nat) (s : String) : String :=
  let cs := s.toList
  String.ofList ('|' :: literalHints cs ++ '\n' :: indented indent true cs) ++
    (if cs.getLast?.any isBreak then "" else "\n")

/-- A text up to the end of its last line. -/
def text (indent : Nat) (s : String) : String :=
  if Form.of s = .literal then literal indent s else scalar indent s ++ "\n"

/-! ## Writing data -/

def keyText : Key → String
  | .name s => s
  | .index n => toString n
  | .other => ""

/-- Whether a key stands before its colon on one line: it has one line and is not too long. -/
def isSimpleKey (s : String) : Bool := !s.toList.any isBreak && s.utf8ByteSize ≤ 128

/-- What stands before data: a dash or a mark, behind which a collection starts on the same line, or
the colon of a key, behind which it starts on a new line. -/
inductive Lead where
  | mark
  | colon
  deriving DecidableEq

/-- The indentation of a level, unless it stands on the line already. -/
def margin (indent : Nat) (fresh : Bool) : String :=
  if fresh then String.ofList (spaces indent) else ""

/-- The column of a list behind a mark or a key at column `indent`: below a key it is not
indented. -/
def Lead.listColumn (indent : Nat) : Lead → Nat
  | mark => indent + 2
  | colon => indent

/-- What separates a collection from what stands before it. -/
def Lead.separator : Lead → String
  | mark => " "
  | colon => "\n"

mutual

/-- Data behind a mark or a key at column `indent`. -/
def node (indent : Nat) (lead : Lead) : Content → String
  | .null => " null\n"
  | .bool b => if b then " true\n" else " false\n"
  | .number n => " " ++ number n ++ "\n"
  | .text s => " " ++ text (indent + 2) s
  | .list [] => " []\n"
  | .list (item :: items) =>
    lead.separator ++ itemLines (lead.listColumn indent) (lead = .colon) (item :: items)
  | .record [] => " \x7b\x7d\n"
  | .record (entry :: entries) =>
    lead.separator ++ entryLines (indent + 2) (lead = .colon) (entry :: entries)

/-- The items of a list at column `indent`. The first one starts a new line if `fresh`. -/
def itemLines (indent : Nat) (fresh : Bool) : List Content → String
  | [] => ""
  | item :: items =>
    margin indent fresh ++ "-" ++ node indent .mark item ++ itemLines indent true items

/-- The entries of a record at column `indent`. The first one starts a new line if `fresh`. A key
that is not simple has a mark of its own. -/
def entryLines (indent : Nat) (fresh : Bool) : List (Key × Content) → String
  | [] => ""
  | (key, value) :: entries =>
    let name := keyText key
    margin indent fresh ++
      (if isSimpleKey name then scalar (indent + 2) name ++ ":" ++ node indent .colon value
        else "? " ++ text (indent + 2) name ++ margin indent true ++ ":" ++ node indent .mark value) ++
      entryLines indent true entries

end

mutual

/-- The texts of data in the order in which they are written. -/
def texts : Content → List String
  | .text s => [s]
  | .list items => itemTexts items
  | .record entries => entryTexts entries
  | _ => []

def itemTexts : List Content → List String
  | [] => []
  | item :: items => texts item ++ itemTexts items

def entryTexts : List (Key × Content) → List String
  | [] => []
  | (key, value) :: entries => keyText key :: texts value ++ entryTexts entries

end

/-- Whether the last literal block keeps its line breaks, so that the end of the document has to be
marked. -/
def endsOpen (data : Content) : Bool :=
  ((texts data).reverse.find? (Form.of · = .literal)).any fun s =>
    (literalHints s.toList).contains '+'

def document (data : Content) : String :=
  let body := match data with
    | .list (item :: items) => itemLines 0 false (item :: items)
    | .record (entry :: entries) => entryLines 0 false (entry :: entries)
    | data => (node 0 .mark data).drop 1 |>.toString
  if endsOpen data then body ++ "...\n" else body

end ApiRoutes.YamlText
