import ApiRoutes.Text.Casing

/-!
# Names in every casing

A name of a document may hold any characters. Its casings are made from its alphanumeric runs; a name
without any goes by `unnamed`.
-/

namespace ApiRoutes

/-- The alphanumeric runs of a name joined by underscores. -/
def identifierWords (name : String) : String :=
  match Text.wordsBy (!Text.isAlphanumeric ·) name.toList with
  | [] => "unnamed"
  | words => Text.joinWith "_" (words.map String.ofList)

structure Casings where
  /-- The name as it is written. -/
  source : String
  pascal : String
  camel : String
  snake : String
  shouty : String
  deriving DecidableEq, Repr

def Casings.of (name : String) : Casings :=
  let words := identifierWords name
  { source := name
    pascal := Text.pascalCase words
    camel := Text.lowerCamelCase words
    snake := Text.snakeCase words
    shouty := Text.shoutyCase words }

/-- The lower camel casing of a name: `pet-id` is `petId`. -/
def camelName (name : String) : String := (Casings.of name).camel

end ApiRoutes
