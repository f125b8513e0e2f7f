import DirectoryClient.Base64
import DirectoryClient.Error
import DirectoryClient.Ldif.Fold
import DirectoryClient.Record

/-!
# Writing records

A record becomes a list of lines, its name first and a blank line last. A value
is written as it is if nobody could mistake it: printable ASCII that neither
begins nor ends with a space and does not begin like base64 or an address. Any
other value is written as base64. Names are written as they are, and only lines
with values are folded.
-/

namespace DirectoryClient

namespace Ldif

/-- Whether a value may be written as it is. -/
def isSafe (text : List Char) : Bool :=
  text.all (fun c => ' ' ≤ c && c ≤ '~') &&
    text.head? != some ' ' && text.head? != some ':' && text.head? != some '<' &&
    text.getLast? != some ' '

/-- The logical line for a value. -/
def valueLine (name : String) (value : Bytes) : List Char :=
  let encoded := name.toList ++ ':' :: ':' :: ' ' :: Base64.encode value
  match Text.ofBytes? value with
  | some text =>
      if isSafe text.toList then name.toList ++ ':' :: ' ' :: text.toList else encoded
  | none => encoded

def valueLines (name : String) (value : Bytes) : List (List Char) :=
  fold (valueLine name value)

end Ldif

open Ldif

def EditKind.keyword : EditKind → String
  | add => "add"
  | replace => "replace"
  | remove => "delete"

/-- The lines for an edit, with the separator that ends it. -/
def Edit.lines (e : Edit) : List (List Char) :=
  (e.kind.keyword ++ ": " ++ e.name).toList ::
    e.values.flatMap (fun v => valueLines e.name v.bytes) ++ [['-']]

/-- The lines for an attribute, one or more for each value. -/
def Attribute.lines (a : Attribute) : List (List Char) :=
  a.values.flatMap fun v => valueLines a.name v.bytes

namespace Record

/-- The kind of change that is written: an entry shows none. -/
def writtenChange (r : Record) : Option ChangeKind := if r.isContent then none else r.change

/-- The lines after the name and the kind of change. -/
def bodyLines (r : Record) : List (List Char) :=
  match r.writtenChange with
  | none | some .add => r.attributes.flatMap Attribute.lines
  | some .modify => r.edits.flatMap Edit.lines
  | some .delete | some .rename => []

/-- All lines of a record, with the blank one that ends it. -/
def lines (r : Record) : List (List Char) :=
  let change := match r.writtenChange with
    | none => []
    | some kind => [("changetype: " ++ kind.keyword).toList]
  valueLines "dn" (Text.bytes r.dn) ++ change ++ r.bodyLines ++ [[]]

/-- A record in LDIF. A record without a name cannot be written. -/
def toLdif (r : Record) : Except Error String :=
  if r.dn.isEmpty then .error (.invalid .emptyDn)
  else .ok (String.ofList (r.lines.flatMap (· ++ ['\n'])))

end Record

end DirectoryClient
