import ApiRoutes.Decimal.Numeral
import ApiRoutes.Text.Digits

/-!
# JSON texts

`Json` is the tree of a JSON text as it is written: numbers are numerals and a text whose escapes
name half of a surrogate pair is kept as broken. So a value that nobody reads has to be well-formed
only; whether it has a meaning is asked when it is read.

`Json.parse?` reads a whole text. Each step of the reader takes at least one character, so the length
of the text bounds the steps.
-/

namespace ApiRoutes

open Decimal (Numeral)
open Text (hexFour?)

/-- The tree of a JSON text. A broken text is `none`. -/
inductive Json where
  | null
  | bool (b : Bool)
  | number (n : Numeral)
  | text (s : Option String)
  | list (items : List Json)
  | record (entries : List (Option String × Json))
  deriving Repr, Inhabited

namespace Json

/-- The blanks that may stand between tokens. -/
def isGap (c : Char) : Bool := c = ' ' || c = '\t' || c = '\n' || c = '\r'

/-- The characters with an escape of one letter. -/
def shortEscape? : Char → Option Char
  | '"' => some '"'
  | '\\' => some '\\'
  | '/' => some '/'
  | 'b' => some '\x08'
  | 'f' => some '\x0c'
  | 'n' => some '\n'
  | 'r' => some '\r'
  | 't' => some '\t'
  | _ => none

/-- The first half of a surrogate pair. -/
def isHighSurrogate (n : Nat) : Bool := 0xD800 ≤ n && n < 0xDC00

/-- The second half of a surrogate pair. -/
def isLowSurrogate (n : Nat) : Bool := 0xDC00 ≤ n && n < 0xE000

/-- The second half of a surrogate pair, if it comes next as an escape. -/
def lowSurrogate? : List Char → Option (Nat × List Char)
  | '\\' :: 'u' :: rest =>
    match hexFour? rest with
    | some (n, rest) => if isLowSurrogate n then some (n, rest) else none
    | none => none
  | _ => none

/-- The rest of a text after its opening quote, with what is read of it so far in reverse, or `none`
for that once it is broken. -/
def readText : (fuel : Nat) → Option (List Char) → List Char → Option (Option String × List Char)
  | 0, _, _ => none
  | _ + 1, _, [] => none
  | fuel + 1, done, c :: cs =>
    if c = '"' then some (done.map (String.ofList ·.reverse), cs)
    else if c.toNat < 0x20 then none
    else if c = '\\' then
      match cs with
      | 'u' :: cs =>
        match hexFour? cs with
        | none => none
        | some (n, rest) =>
          if isHighSurrogate n then
            match lowSurrogate? rest with
            | some (low, rest) =>
              readText fuel
                (done.map (Char.ofNat (0x10000 + (n - 0xD800) * 0x400 + (low - 0xDC00)) :: ·)) rest
            | none => readText fuel none rest
          else if isLowSurrogate n then readText fuel none rest
          else readText fuel (done.map (Char.ofNat n :: ·)) rest
      | e :: cs =>
        match shortEscape? e with
        | some c => readText fuel (done.map (c :: ·)) cs
        | none => none
      | [] => none
    else readText fuel (done.map (c :: ·)) cs

/-- The digits at the start of a text, as numbers. -/
def readDigits (cs : List Char) : List Nat × List Char :=
  ((cs.takeWhile Char.isDigit).map fun c => c.toNat - '0'.toNat, cs.dropWhile Char.isDigit)

/-- The digits before the point: a zero stands alone. -/
def readWhole? (cs : List Char) : Option (List Nat × List Char) :=
  match readDigits cs with
  | ([], _) => none
  | (0 :: _ :: _, _) => none
  | (digits, rest) => some (digits, rest)

/-- The digits after the point, of which there is at least one. -/
def readFraction? : List Char → Option (Option (List Nat) × List Char)
  | '.' :: cs =>
    match readDigits cs with
    | ([], _) => none
    | (digits, rest) => some (some digits, rest)
  | cs => some (none, cs)

/-- The sign and the digits of an exponent, of which there is at least one. -/
def readExponent? : List Char → Option (Option (Bool × List Nat) × List Char)
  | [] => some (none, [])
  | e :: cs =>
    if e = 'e' || e = 'E' then
      let (negative, cs) :=
        match cs with
        | '+' :: cs => (false, cs)
        | '-' :: cs => (true, cs)
        | cs => (false, cs)
      match readDigits cs with
      | ([], _) => none
      | (digits, rest) => some (some (negative, digits), rest)
    else some (none, e :: cs)

def readNumeral? (cs : List Char) : Option (Numeral × List Char) := do
  let (negative, cs) :=
    match cs with
    | '-' :: cs => (true, cs)
    | cs => (false, cs)
  let (whole, cs) ← readWhole? cs
  let (fraction, cs) ← readFraction? cs
  let (exponent, cs) ← readExponent? cs
  return (⟨negative, whole, fraction.getD [], exponent, fraction.isSome⟩, cs)

mutual

def readValue : (fuel : Nat) → List Char → Option (Json × List Char)
  | 0, _ => none
  | fuel + 1, cs =>
    match cs.dropWhile isGap with
    | 'n' :: 'u' :: 'l' :: 'l' :: rest => some (null, rest)
    | 't' :: 'r' :: 'u' :: 'e' :: rest => some (bool true, rest)
    | 'f' :: 'a' :: 'l' :: 's' :: 'e' :: rest => some (bool false, rest)
    | '"' :: rest => (readText (rest.length + 1) (some []) rest).map fun (s, rest) => (text s, rest)
    | '[' :: rest =>
      match rest.dropWhile isGap with
      | ']' :: rest => some (list [], rest)
      | rest => (readItems fuel rest).map fun (items, rest) => (list items, rest)
    | '{' :: rest =>
      match rest.dropWhile isGap with
      | '}' :: rest => some (record [], rest)
      | rest => (readEntries fuel rest).map fun (entries, rest) => (record entries, rest)
    | cs => (readNumeral? cs).map fun (n, rest) => (number n, rest)

/-- The items of a list that is not empty, up to its closing bracket. -/
def readItems : (fuel : Nat) → List Char → Option (List Json × List Char)
  | 0, _ => none
  | fuel + 1, cs =>
    match readValue fuel cs with
    | none => none
    | some (item, rest) =>
      match rest.dropWhile isGap with
      | ']' :: rest => some ([item], rest)
      | ',' :: rest => (readItems fuel rest).map fun (items, rest) => (item :: items, rest)
      | _ => none

/-- The entries of a record that is not empty, up to its closing brace. -/
def readEntries : (fuel : Nat) → List Char → Option (List (Option String × Json) × List Char)
  | 0, _ => none
  | fuel + 1, cs =>
    match cs.dropWhile isGap with
    | '"' :: rest =>
      match readText (rest.length + 1) (some []) rest with
      | none => none
      | some (key, rest) =>
        match rest.dropWhile isGap with
        | ':' :: rest =>
          match readValue fuel rest with
          | none => none
          | some (value, rest) =>
            match rest.dropWhile isGap with
            | '}' :: rest => some ([(key, value)], rest)
            | ',' :: rest =>
              (readEntries fuel rest).map fun (entries, rest) => ((key, value) :: entries, rest)
            | _ => none
        | _ => none
    | _ => none

end

/-- The tree of a JSON text. Only blanks may follow the value. -/
def parse? (s : String) : Option Json :=
  let cs := s.toList
  match readValue (cs.length + 1) cs with
  | some (value, rest) => if rest.all isGap then some value else none
  | none => none

end Json

end ApiRoutes
