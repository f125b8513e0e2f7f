import DirectoryClient.Text.Ascii
import DirectoryClient.Text.Split

/-!
# Sets of characters by ranges

Tables of a standard are long. They are written as text here, in hexadecimal:
`41-5a 5f` are the large letters and the underscore.
-/

namespace DirectoryClient.Text

/-- The value of a row of hexadecimal digits; other characters count as zero. -/
def hexValue (cs : List Char) : Nat :=
  cs.foldl (fun n c => n * 16 + (hexDigit? c).getD 0) 0

/-- The words of a text, between spaces and line ends. -/
def tableWords (text : String) : List (List Char) :=
  let words := text.toList.foldr (fun c words =>
    if c = ' ' ∨ c = '\n' then [] :: words
    else
      match words with
      | word :: more => (c :: word) :: more
      | [] => [[c]]) [[]]
  words.filter (! ·.isEmpty)

/-- A range of code points, both ends included. -/
structure CharRange where
  first : Nat
  last : Nat
  deriving DecidableEq

namespace CharRange

def contains (r : CharRange) (c : Char) : Bool := r.first ≤ c.toNat && c.toNat ≤ r.last

/-- The range that a word such as `41-5a` or `5f` stands for. -/
def ofWord (word : List Char) : CharRange :=
  match splitFirst '-' word with
  | (first, some last) => ⟨hexValue first, hexValue last⟩
  | (only, none) => ⟨hexValue only, hexValue only⟩

end CharRange

structure CharSet where
  ranges : List CharRange

namespace CharSet

def contains (s : CharSet) (c : Char) : Bool := s.ranges.any (·.contains c)

/-- The set that a text such as `41-5a 5f` stands for. -/
def ofText (text : String) : CharSet := ⟨(tableWords text).map CharRange.ofWord⟩

end CharSet

end DirectoryClient.Text
