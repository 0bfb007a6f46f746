import ApiRoutes.Text.Basic

/-!
# Descriptions

A description is tidied in one of two ways: all its lines on one line, or line by line.
-/

namespace ApiRoutes.Text

/-- The non-empty lines of a description, trimmed, on one line. -/
def singleLine (text : String) : String :=
  joinWith " " ((((lines text.toList).map trim).filter (!·.isEmpty)).map String.ofList)

/-- A description without blanks at the ends of its lines and without blank space around it. -/
def multiLine (text : String) : String :=
  trimmed (joinWith "\n" (((lines text.toList).map trimEnd).map String.ofList))

end ApiRoutes.Text
