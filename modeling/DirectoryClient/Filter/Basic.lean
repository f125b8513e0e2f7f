import DirectoryClient.Text.Ascii
import DirectoryClient.Text.Utf8

/-!
# Search filters

A filter says which entries a search is for. It is a tree: comparisons of an
attribute with a value at the leaves, and "all of", "any of" and "not" above
them. Values are octets, so a filter can ask for anything; in writing, the
octets with a meaning of their own and those outside of printable ASCII are
written as a backslash and two hexadecimal digits.
-/

namespace DirectoryClient

/-- How an attribute is compared with a value. -/
inductive Comparison
  | equal
  | atLeast
  | atMost
  | approximate
  deriving DecidableEq

/-- The sign of a comparison. -/
def Comparison.sign : Comparison → String
  | equal => "="
  | atLeast => ">="
  | atMost => "<="
  | approximate => "~="

/-- Which entries a search is for. Attribute names are kept as written. -/
inductive Filter
  | all (filters : List Filter)
  | any (filters : List Filter)
  | not (filter : Filter)
  | compare (name : Bytes) (comparison : Comparison) (value : Bytes)
  | present (name : Bytes)
  /-- The value starts with the first part, ends with the last, and has those in
  between in their order. -/
  | parts (name : Bytes) (first : Bytes) (middle : List Bytes) (last : Bytes)
  /-- A comparison by a named rule, possibly also with the parts of the name. -/
  | extensible (name : Option Bytes) (withDn : Bool) (rule : Option Bytes) (value : Bytes)

namespace Filter

/-- The octets of an ASCII text. -/
def ascii (s : String) : Bytes := Text.bytes s

/-- Whether an octet is written as it is. -/
def isPlain (b : UInt8) : Bool :=
  0x20 ≤ b && b ≤ 0x7E && b != 0x28 && b != 0x29 && b != 0x2A && b != 0x5C

/-- A value in writing. -/
def escape (value : Bytes) : Bytes :=
  value.flatMap fun b =>
    if isPlain b then [b] else 0x5C :: (Text.hexPair b).map fun c => UInt8.ofNat c.toNat

mutual

/-- A filter in writing. -/
def render : Filter → Bytes
  | all filters => ascii "(&" ++ renderList filters ++ ascii ")"
  | any filters => ascii "(|" ++ renderList filters ++ ascii ")"
  | not filter => ascii "(!" ++ render filter ++ ascii ")"
  | compare name comparison value =>
      ascii "(" ++ name ++ ascii comparison.sign ++ escape value ++ ascii ")"
  | present name => ascii "(" ++ name ++ ascii "=*)"
  | parts name first middle last =>
      ascii "(" ++ name ++ ascii "=" ++ escape first ++ ascii "*" ++
        middle.flatMap (fun part => escape part ++ ascii "*") ++ escape last ++ ascii ")"
  | extensible name withDn rule value =>
      ascii "(" ++ name.getD [] ++ (if withDn then ascii ":dn" else []) ++
        (rule.map (ascii ":" ++ ·)).getD [] ++ ascii ":=" ++ escape value ++ ascii ")"

def renderList : List Filter → Bytes
  | [] => []
  | filter :: rest => render filter ++ renderList rest

end

end Filter

end DirectoryClient
