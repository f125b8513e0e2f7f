import DirectoryClient.Text.Marks
import DirectoryClient.Text.Normalize
import DirectoryClient.Text.Split
import DirectoryClient.Text.Utf8
import DirectoryClient.Url.Fault
import DirectoryClient.Url.Idna.Direction
import DirectoryClient.Url.Idna.Joiner
import DirectoryClient.Url.Idna.Mapping
import DirectoryClient.Url.Punycode

/-!
# Domain names

A domain name consists of labels with dots between them. Each label has a form in
which people write it and one in ASCII letters, and either may be given; the second
is marked by its beginning. To get the second form, characters are replaced by what
they stand for, labels in the second form are read, all labels are checked, and
those that are not ASCII are written in the second form.
-/

namespace DirectoryClient.Url.Domain

/-- The characters that no domain name may have. -/
def isForbidden (c : Char) : Bool :=
  c ≤ ' ' || c = Char.ofNat 127 ||
    ['%', '#', '/', ':', '<', '>', '?', '@', '[', '\\', ']', '^', '|'].contains c

def isAscii (c : Char) : Bool := c.toNat < 128

/-! ## Labels -/

/-- The beginning of a label that is written in ASCII letters. -/
def asciiMark : List Char := ['x', 'n', '-', '-']

/-- Whether a label may be in a name: its characters stand for themselves, are in
composed form, and may stand where they do. -/
def isLabel (label : List Char) : Bool :=
  label.all Idna.isStable && Text.composed label = label && !label.any isForbidden &&
    !label.head?.any Text.marks.contains && Idna.joinersFit [] label

/-- Whether a text is one that needs to be written in ASCII letters, and can be. -/
def isEncodable (label : List Char) : Bool :=
  !label.all isAscii && !asciiMark.isPrefixOf label && !label.contains '.'

/-- The form of a label in which people write it. -/
def toUnicode? (label : List Char) : Option (List Char) :=
  if asciiMark.isPrefixOf label then
    match Punycode.decode? (label.drop asciiMark.length) with
    | some decoded => if isEncodable decoded && isLabel decoded then some decoded else none
    | none => none
  else if isLabel label then some label
  else none

/-- The form of a label in ASCII letters. -/
def ofUnicode (label : List Char) : List Char :=
  if label.all isAscii then label else asciiMark ++ Punycode.encode label

/-! ## Names -/

/-- The labels of a name, as people write them. -/
def labels? (name : List Char) : Option (List (List Char)) := do
  let plain ← Idna.replaceAll? name
  let labels ← (Text.split '.' (Text.composed plain)).mapM toUnicode?
  if Idna.areWhole labels then some labels else none

/-- The name in ASCII letters that a host stands for. -/
def toAscii (host : Bytes) : Except Fault (List Char) :=
  match (Text.ofBytes? host).bind fun text => labels? text.toList with
  | some labels => .ok (['.'].intercalate (labels.map ofUnicode))
  | none => .error .badDomain

end DirectoryClient.Url.Domain
