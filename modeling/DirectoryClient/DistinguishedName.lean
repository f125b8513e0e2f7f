import DirectoryClient.Text.Ascii
import DirectoryClient.Text.Blank
import DirectoryClient.Text.Split

/-!
# Names below a base

A search names its entries relative to its base: of the distinguished name of an
entry below it, that is what stands before the comma in front of the base. Names
that are not below the base are kept whole.
-/

namespace DirectoryClient.DistinguishedName

/-- What stands before a tail that equals `base` up to the case of ASCII letters. A
tail has as many octets as `base`, and cannot begin inside a character. -/
def before? (base dn : String) : Option (List Char) :=
  if base.utf8ByteSize ≤ dn.utf8ByteSize then
    match Text.splitAt? (dn.utf8ByteSize - base.utf8ByteSize) dn.toList with
    | some (head, tail) => if Text.sameName (String.ofList tail) base then some head else none
    | none => none
  else none

def withoutComma? (cs : List Char) : Option (List Char) :=
  if cs.getLast? = some ',' then some cs.dropLast else none

/-- The name of an entry relative to a base; empty for the base itself. -/
def relative (dn base : String) : String :=
  if base.isEmpty then dn
  else if Text.sameName dn base then ""
  else
    match (before? base dn).bind (withoutComma? ∘ Text.trimEnd) with
    | some name => String.ofList (Text.trimEnd name)
    | none => dn

end DirectoryClient.DistinguishedName
