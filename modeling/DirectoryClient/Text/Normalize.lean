import DirectoryClient.Text.CombiningClass
import DirectoryClient.Text.Composition

/-!
# Composed form

The same text can be written with composed characters or with their parts, and
with marks in different orders. To bring a text into its composed form, all
characters are taken apart, marks are sorted by their classes, and what belongs
together is joined.
-/

namespace DirectoryClient.Text

/-- Takes a character apart completely. No character has more than four layers. -/
def takeApart : (layers : Nat) → Char → List Char
  | 0, c => [c]
  | layers + 1, c =>
      match parts? c with
      | some (base, mark) => takeApart layers base ++ [mark]
      | none => [c]

/-- Puts a character in front of a sorted text: after the marks that go first. -/
def settle (c : Char) : List Char → List Char
  | [] => [c]
  | d :: rest =>
      if combiningClass d ≠ 0 ∧ combiningClass d < combiningClass c then d :: settle c rest
      else c :: d :: rest

/-- Joins what can be joined after the character `base`. `marks` are those after it
that could not be joined with it, the last one first. -/
def joinAfter (base : Char) (marks : List Char) : List Char → List Char
  | [] => base :: marks.reverse
  | c :: rest =>
      let isNext := match marks with
        | [] => true
        | last :: _ => combiningClass last < combiningClass c
      match if isNext then join? base c else none with
      | some whole => joinAfter whole marks rest
      | none =>
          if combiningClass c = 0 then base :: marks.reverse ++ joinAfter c [] rest
          else joinAfter base (c :: marks) rest

/-- Joins what can be joined in a sorted text. -/
def joinAll : List Char → List Char
  | [] => []
  | c :: rest => if combiningClass c = 0 then joinAfter c [] rest else c :: joinAll rest

/-- The composed form of a text. -/
def composed (cs : List Char) : List Char :=
  joinAll ((cs.flatMap (takeApart 4)).foldr settle [])

end DirectoryClient.Text
