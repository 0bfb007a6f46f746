/-!
# Names of files

A file is named by the folders on the way to it, with slashes between. These functions look at the
name alone.
-/

namespace ApiRoutes.Files

/-- A name, read backwards, without the slashes and the steps to the same folder at its end. -/
def trimBackwards : List Char → List Char
  | '/' :: c :: rest => trimBackwards (c :: rest)
  | '.' :: '/' :: rest => trimBackwards ('/' :: rest)
  | cs => cs

/-- A name without the slashes and the steps to the same folder at its end. -/
def trimmed (name : String) : List Char := (trimBackwards name.toList.reverse).reverse

def lastStep (name : String) : List Char := ((trimmed name).reverse.takeWhile (· ≠ '/')).reverse

/-- The folder that a file is in, if the name tells one; it is empty for the folder at hand. -/
def parent? (name : String) : Option String :=
  let cs := trimmed name
  if cs = [] || cs = ['/'] then none
  else some (String.ofList (trimBackwards (cs.reverse.dropWhile (· ≠ '/'))).reverse)

/-- What follows the last point in the last step of a name, unless nothing else precedes it. -/
def extension? (name : String) : Option String :=
  let step := lastStep name
  let ending := (step.reverse.takeWhile (· ≠ '.')).reverse
  let start := step.take (step.length - ending.length - 1)
  if step = ['.', '.'] || start = [] then none else some (String.ofList ending)

end ApiRoutes.Files
