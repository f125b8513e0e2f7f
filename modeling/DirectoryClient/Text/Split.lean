/-!
# Cutting text

Cutting `a/b//c` at the slash gives four parts, the third of them empty. There
is always at least one part, and joining the parts with the separator gives the
text back.

A text can also be cut at an offset, which is counted in octets. Not every offset
is between two characters.
-/

namespace DirectoryClient.Text

/-- The parts of a text between the separators. -/
def split (separator : Char) : List Char → List (List Char)
  | [] => [[]]
  | c :: rest =>
      match split separator rest with
      | [] => [[c]]
      | part :: more => if c = separator then [] :: part :: more else (c :: part) :: more

/-- What stands before the first separator, and what after it, if there is one. -/
def splitFirst (separator : Char) (cs : List Char) : List Char × Option (List Char) :=
  match cs.dropWhile (· ≠ separator) with
  | [] => (cs, none)
  | _ :: rest => (cs.takeWhile (· ≠ separator), some rest)

/-- The parts of a text before and after an offset in octets. There are none if the
offset is inside a character, or after the end. -/
def splitAt? : Nat → List Char → Option (List Char × List Char)
  | 0, cs => some ([], cs)
  | _ + 1, [] => none
  | n + 1, c :: rest =>
      if c.utf8Size ≤ n + 1 then
        (splitAt? (n + 1 - c.utf8Size) rest).map fun (front, back) => (c :: front, back)
      else none

end DirectoryClient.Text
