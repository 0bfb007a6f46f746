import ApiRoutes.Template.Value
import ApiRoutes.Text.Cased
import ApiRoutes.Text.Casing

/-!
# Filters and tests

A filter makes a value from a value and arguments; a test asks something of a value. An argument that
is expected to be a text may be any value, which counts as it is shown. Arguments are read in order,
so of two faults the one further to the left is told.
-/

namespace ApiRoutes.Template

/-- An argument: a value, or all that is given by name. -/
inductive Argument where
  | value (value : Value)
  | named (entries : List (Value × Value))

namespace Argument

/-- The argument as a value; what is given by name makes a table. -/
def toValue : Argument → Value
  | value v => v
  | named entries => .ofEntries entries

def text : Argument → Except Error String
  | value v => .ok v.display
  | named _ => .error .invalidOperation

/-- The argument as a truth value, which it has to be. -/
def bool : Argument → Except Error Bool
  | value (.bool b) => .ok b
  | _ => .error .invalidOperation

def isMissing : Argument → Bool
  | value .undefined => true
  | value .none => true
  | _ => false

/-- Reads an argument that has to be there. -/
def next {α : Type} (read : Argument → Except Error α) :
    List Argument → Except Error (α × List Argument)
  | [] => .error .missingArgument
  | arg :: rest => (read arg).map (·, rest)

/-- Reads an argument that may be left out. -/
def next? {α : Type} (read : Argument → Except Error α) :
    List Argument → Except Error (Option α × List Argument)
  | [] => .ok (none, [])
  | arg :: rest => if arg.isMissing then .ok (none, rest) else (read arg).map (some ·, rest)

/-- The result of a filter, if no argument is left over. -/
def finish {α : Type} (args : List Argument) (result : Except Error α) : Except Error α :=
  if args.isEmpty then result else .error .tooManyArguments

end Argument

namespace Value

/-! ## Case -/

def lower (s : String) : String := String.ofList (Text.lowerFrom false s.toList)

def upper (s : String) : String := String.ofList (s.toList.flatMap Text.toUppercase)

/-- A text in lower case but for its first character. -/
def capitalize (s : String) : String :=
  match s.toList with
  | [] => ""
  | c :: cs => String.ofList (Text.toUppercase c ++ Text.lowerFrom false cs)

def isPunctuation (c : Char) : Bool := 0x20 < c.toNat && c.toNat < 0x7F && !c.isAlphanum

/-- A text with a capital at the start of each word. -/
def titleFrom (capital : Bool) : List Char → List Char
  | [] => []
  | c :: cs =>
    if isPunctuation c || Text.isBlank c then c :: titleFrom true cs
    else (if capital then Text.toUppercase c else Text.toLowercase c) ++ titleFrom false cs

/-- A text with words that start with a capital. -/
def title (s : String) : String := String.ofList (titleFrom true s.toList)

/-! ## Filters -/

/-- A text with every occurrence of a pattern replaced; the first `skip` characters belong to an
occurrence before. -/
def replaceFrom (pattern by_ : List Char) : (skip : Nat) → List Char → List Char
  | _, [] => []
  | skip + 1, _ :: cs => replaceFrom pattern by_ skip cs
  | 0, c :: cs =>
    if (Text.dropStart? pattern (c :: cs)).isSome then
      by_ ++ replaceFrom pattern by_ (pattern.length - 1) cs
    else c :: replaceFrom pattern by_ 0 cs

/-- A text with every occurrence of a pattern replaced. The empty pattern is before each character and
at the end. -/
def replace (s pattern by_ : String) : String :=
  if pattern.isEmpty then
    String.ofList (s.toList.flatMap (by_.toList ++ [·]) ++ by_.toList)
  else String.ofList (replaceFrom pattern.toList by_.toList 0 s.toList)

/-- How many characters or items a value has. -/
def length : Value → Except Error Value
  | text s => .ok (ofNat s.toList.length)
  | value =>
    match value.contents? with
    | some items => .ok (ofNat items.length)
    | Option.none => .error .invalidOperation

/-- The items of a value as texts one after the other, with a separator between each two. -/
def join (value : Value) (separator : String) : Except Error Value := do
  return text (Text.joinWith separator ((← value.iterate).map display))

def first : Value → Except Error Value
  | text s => .ok ((s.toList.head?.map fun c => text (String.singleton c)).getD undefined)
  | value =>
    match value.contents? with
    | some items => .ok (items.head?.getD undefined)
    | Option.none => .error .invalidOperation

def last : Value → Except Error Value
  | text s => .ok ((s.toList.getLast?.map fun c => text (String.singleton c)).getD undefined)
  | value =>
    match value.items? with
    | some items => .ok (items.getLast?.getD undefined)
    | Option.none => .error .invalidOperation

/-- A text without the given characters, or without blanks, at either end. -/
def trim (s : String) (chars : Option String) : String :=
  let drop (c : Char) : Bool :=
    match chars with
    | some chars => chars.toList.contains c
    | Option.none => Text.isBlank c
  String.ofList (Text.dropEndWhile drop (s.toList.dropWhile drop))

/-- What stands in for a value that is undefined, or with `lax` for one that does not count as true. -/
def orDefault (value other : Value) (lax : Bool) : Value :=
  match value with
  | undefined => other
  | value => if lax && !value.isTrue then other else value

/-- The text that a casing filter works on; none and undefined are empty. -/
def casingText : Value → String
  | none => ""
  | value => value.display

def textFilter? (name : String) (value : Value) : Option String :=
  match name with
  | "camel_case" => some (Text.lowerCamelCase value.casingText)
  | "pascal_case" => some (Text.pascalCase value.casingText)
  | "snake_case" => some (Text.snakeCase value.casingText)
  | "upper" => some (upper value.display)
  | "lower" => some (lower value.display)
  | "title" => some (title value.display)
  | "capitalize" => some (capitalize value.display)
  | _ => Option.none

def filter (name : String) (value : Value) (args : List Argument) : Except Error Value :=
  match textFilter? name value with
  | some s => Argument.finish args (.ok (text s))
  | Option.none =>
    match name with
    | "replace" => do
      let (pattern, args) ← Argument.next Argument.text args
      let (by_, args) ← Argument.next Argument.text args
      Argument.finish args (.ok (text (replace value.display pattern by_)))
    | "join" => do
      let (separator, args) ← Argument.next? Argument.text args
      Argument.finish args (value.join (separator.getD ""))
    | "default" => orDefaultOf args
    | "d" => orDefaultOf args
    | "first" => Argument.finish args value.first
    | "last" => Argument.finish args value.last
    | "length" => Argument.finish args value.length
    | "count" => Argument.finish args value.length
    | "trim" => do
      let (chars, args) ← Argument.next? Argument.text args
      Argument.finish args (.ok (text (trim value.display chars)))
    | _ => .error .unknownFilter
where
  orDefaultOf (args : List Argument) : Except Error Value := do
    let (other, args) ← Argument.next? (.ok ∘ Argument.toValue) args
    let (lax, args) ← Argument.next? Argument.bool args
    Argument.finish args (.ok (value.orDefault (other.getD (text "")) (lax.getD false)))

/-! ## Tests -/

def plainTest? (name : String) (value : Value) : Option Bool :=
  match name, value with
  | "defined", undefined => some false
  | "defined", _ => some true
  | "undefined", undefined => some true
  | "undefined", _ => some false
  | "none", none => some true
  | "none", _ => some false
  | "string", text _ => some true
  | "string", _ => some false
  | "number", number _ => some true
  | "number", _ => some false
  | "integer", value => some (isWhole value)
  | "int", value => some (isWhole value)
  | "float", number (.float _) => some true
  | "float", _ => some false
  | "boolean", bool _ => some true
  | "boolean", _ => some false
  | "true", bool true => some true
  | "true", _ => some false
  | "false", bool false => some true
  | "false", _ => some false
  | "sequence", list _ => some true
  | "sequence", _ => some false
  | "mapping", table _ => some true
  | "mapping", _ => some false
  | "iterable", value => some value.iterate.isOk
  | "odd", value => some (hasParity value 1)
  | "even", value => some (hasParity value 0)
  | _, _ => Option.none
where
  isWhole : Value → Bool
    | number (.float _) => false
    | number _ => true
    | _ => false
  hasParity (value : Value) (rest : Int) : Bool :=
    (value.number?.map (·.hasParity rest)).getD false

/-- The comparison behind a test with one argument. -/
def comparisonTest? : String → Option Comparison
  | "eq" => some .eq
  | "equalto" => some .eq
  | "==" => some .eq
  | "ne" => some .ne
  | "!=" => some .ne
  | "lt" => some .lt
  | "lessthan" => some .lt
  | "<" => some .lt
  | "le" => some .le
  | "<=" => some .le
  | "gt" => some .gt
  | "greaterthan" => some .gt
  | ">" => some .gt
  | "ge" => some .ge
  | ">=" => some .ge
  | "in" => some .contained
  | _ => Option.none

def test (name : String) (value : Value) (args : List Argument) : Except Error Bool :=
  match plainTest? name value, comparisonTest? name with
  | some answer, _ => Argument.finish args (.ok answer)
  | Option.none, some comparison => do
    let (other, args) ← Argument.next (.ok ∘ Argument.toValue) args
    Argument.finish args (value.compares comparison other)
  | Option.none, Option.none => .error .unknownTest

end Value

end ApiRoutes.Template
