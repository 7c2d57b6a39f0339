/-!
# Dotted paths

A path names a place in a document by the keys that lead to it, with dots
between them. Dots are not escaped, so a key that holds one reads as two keys.
The text always has at least one segment, which may be empty.
-/

namespace Trialbook.Path

/-- The pieces of a text between the separators. -/
def splitAt (separator : Char) : List Char → List (List Char)
  | [] => [[]]
  | c :: rest =>
    if c = separator then [] :: splitAt separator rest
    else match splitAt separator rest with
      | [] => [[c]]
      | piece :: pieces => (c :: piece) :: pieces

/-- The segments of a path. -/
def segments (path : String) : List String :=
  (splitAt '.' path.toList).map String.ofList

/-- The path of the given segments. -/
def ofSegments : List String → String
  | [] => ""
  | [segment] => segment
  | segment :: rest => segment ++ "." ++ ofSegments rest

/-- The path one key below another. The empty path leaves no dot behind. -/
def child (path key : String) : String :=
  if path.isEmpty then key else path ++ "." ++ key

end Trialbook.Path
