import ApiRoutes.Text.Basic

/-!
# Media types

The media types of a body are collected from explicit lists and from the keys of its content; a set
of them has a coarse kind.
-/

namespace ApiRoutes

/-- What a set of media types amounts to. -/
inductive ContentKind where
  | json
  | urlEncoded
  | formData
  | image
  | other
  deriving DecidableEq, Repr, Inhabited

/-- A media type without parameters, in lower case. -/
def mediaEssence (mediaType : String) : String :=
  (Text.trimmed (String.ofList (Text.before [';'] mediaType.toList))).toLower

/-- The kind of a set of media types: JSON before URL-encoded forms, before form data, before images. -/
def ContentKind.classify (mediaTypes : List String) : ContentKind :=
  let essences := mediaTypes.map mediaEssence
  if essences.any fun t => t = "application/json" || (Text.dropEnd? "+json".toList t.toList).isSome then
    .json
  else if essences.contains "application/x-www-form-urlencoded" then .urlEncoded
  else if essences.contains "multipart/form-data" then .formData
  else if essences.any fun t => Text.occurs "image/".toList t.toList then .image
  else .other

/-- Explicit media types followed by the declared ones of each content, trimmed, each at its first
place, empty ones left out. -/
def contentTypes (explicit : List String) (contents : List (List String)) : List String :=
  Text.distinct (((explicit ++ contents.flatten).map Text.trimmed).filter (· ≠ ""))

end ApiRoutes
