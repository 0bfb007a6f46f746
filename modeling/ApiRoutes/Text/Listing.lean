import ApiRoutes.Text.Basic
import ApiRoutes.Text.Printable

/-!
# Listings of texts

A list of texts as a message shows it: each text in quotes, with escapes for quotes, backslashes and
what has no visible form, separated by commas and put in brackets.
-/

namespace ApiRoutes.Text

/-- A code point as an escape in braces, in lower case hexadecimal. -/
def escapeCodePoint (c : Char) : List Char :=
  '\\' :: 'u' :: '\x7b' :: (Nat.toDigits 16 c.toNat ++ ['\x7d'])

/-- A character as it stands in a listing. -/
def listedChar (c : Char) : List Char :=
  match c with
  | '\x00' => ['\\', '0']
  | '\t' => ['\\', 't']
  | '\r' => ['\\', 'r']
  | '\n' => ['\\', 'n']
  | '"' => ['\\', '"']
  | '\\' => ['\\', '\\']
  | c => if isPrintable c then [c] else escapeCodePoint c

def listed (s : String) : String := String.ofList ('"' :: s.toList.flatMap listedChar ++ ['"'])

/-- A list of texts in brackets. -/
def listing (items : List String) : String := "[" ++ joinWith ", " (items.map listed) ++ "]"

end ApiRoutes.Text
