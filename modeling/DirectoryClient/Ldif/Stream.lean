import DirectoryClient.Files
import DirectoryClient.Ldif.Reader
import DirectoryClient.Text.Number

/-!
# An LDIF stream as a directory

A stream answers to the operations of a directory, but all it can do is to open
a file, which a search does with its base, and to hand out the records in it.
It is no more than an optional position in one input: an end or an error closes
the input, and whatever would write is refused and changes nothing.

Opening a directory in place of a file succeeds, and only reading from it fails.
-/

namespace DirectoryClient.Ldif

/-- A directory that reads records from an input. -/
structure Stream where
  input : Option Reader

namespace Stream

def empty : Stream := ⟨none⟩

/-- The stream at the start of a source. -/
def ofSource (s : Source) : Stream := ⟨some (Reader.new s)⟩

/-- The source that opening a path gives. -/
def openSource (files : Files) (path : String) : Except Error Source :=
  match files.node path with
  | .error kind => .error (.io kind)
  | .ok .directory => .ok ⟨[], some .isDirectory⟩
  | .ok (.file content) => .ok ⟨content, none⟩

/-- The stream at the start of the file at a path. -/
def openPath (files : Files) (path : String) : Except Error Stream :=
  (openSource files path).map ofSource

/-- Opens the file that the base names; filter and scope do not matter. -/
def search (files : Files) (_ : Stream) (base : String) : Except Error Bool × Stream :=
  match openPath files base with
  | .ok stream => (.ok true, stream)
  | .error e => (.error e, empty)

/-- Reads the next record. An end or an error closes the input. -/
def next (s : Stream) : Except Error (Option Record) × Stream :=
  match s.input with
  | none => (.error .noOpenSearch, s)
  | some reader =>
      match reader.next with
      | (.ok (some record), reader) => (.ok (some record), ⟨some reader⟩)
      | (result, _) => (result, empty)

/-- Starting anew needs nothing. -/
def reinit (s : Stream) : Except Error Unit × Stream := (.ok (), s)

def close (_ : Stream) : Stream := empty

def create (_ : Stream) (_ : Record) : Except Error Bool :=
  .error (.unsupported .streamCreate)

def replaceValues (_ : Stream) (_ _ : String) (_ : List Value) : Except Error Unit :=
  .error (.unsupported .streamReplace)

def replace (s : Stream) (dn name : String) (value : Value) : Except Error Unit :=
  s.replaceValues dn name [value]

def replaceValue (_ : Stream) (_ _ : String) (_ _ : Value) : Except Error Unit :=
  .error (.unsupported .streamReplace)

def modify (_ : Stream) (_ : String) (_ : List Edit) : Except Error Unit :=
  .error (.unsupported .streamModify)

def destroy (_ : Stream) (_ : String) : Except Error Unit :=
  .error (.unsupported .streamDestroy)

def describe (s : Stream) : String :=
  let line := match s.input with
    | some reader => "Some(" ++ toString reader.line ++ ")"
    | none => "None"
  "LdifDirectory \x7b open: " ++ Text.ofTruth s.input.isSome ++ ", line: " ++ line ++ " \x7d"

end Stream

end DirectoryClient.Ldif
