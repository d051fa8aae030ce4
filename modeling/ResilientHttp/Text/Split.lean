/-!
# Splitting and joining character lists

A list of characters is cut at every occurrence of a separator. The pieces are what stands between
two neighbouring separators, so there is always one piece more than there are separators.
-/

set_option autoImplicit false

namespace ResilientHttp.Text

/-- The pieces between the separators. -/
def split (separator : Char) : List Char → List (List Char)
  | [] => [[]]
  | character :: rest =>
    if character = separator then [] :: split separator rest
    else
      match split separator rest with
      | [] => [[character]]
      | piece :: pieces => (character :: piece) :: pieces

/-- The pieces with a separator between any two neighbours. -/
def join (separator : Char) : List (List Char) → List Char
  | [] => []
  | [piece] => piece
  | piece :: pieces => piece ++ separator :: join separator pieces

/-- What stands before the first character that satisfies a condition, and the rest from it on. -/
def breakAt (stop : Char → Bool) (characters : List Char) : List Char × List Char :=
  (characters.takeWhile (!stop ·), characters.dropWhile (!stop ·))

theorem append_breakAt (stop : Char → Bool) (characters : List Char) :
    (breakAt stop characters).1 ++ (breakAt stop characters).2 = characters :=
  List.takeWhile_append_dropWhile

end ResilientHttp.Text
