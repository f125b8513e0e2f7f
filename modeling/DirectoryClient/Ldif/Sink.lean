import DirectoryClient.Ldif.Writer
import DirectoryClient.Text.Utf8

/-!
# Writing into a sink of limited size

A sink may take only so many octets. What fits of a text is kept, also when the
rest does not, and then writing fails; so a full sink holds a beginning of all
that was written to it.

A record is written line by line, and each line and its line feed on their own.
Any of these writes may be the one that fails, and then what is left of the
record is not tried any more. The records behind it are.
-/

namespace DirectoryClient.Ldif

/-- What was written so far, and how much more there is room for. -/
structure Sink where
  written : Bytes
  /-- The octets that still fit; `none` for a sink without a limit. -/
  room : Option Nat

namespace Sink

def new (capacity : Option Nat) : Sink := ⟨[], capacity⟩

/-- Writes octets as far as they fit. -/
def put (s : Sink) (b : Bytes) : Except Error Unit × Sink :=
  match s.room with
  | none => (.ok (), { s with written := s.written ++ b })
  | some room =>
      let s := ⟨s.written ++ b.take room, some (room - b.length)⟩
      (if b.length ≤ room then .ok () else .error (.io .full), s)

end Sink

/-- Several writes into a sink, up to the first that fails. What was written stays. -/
abbrev Writing := ExceptT Error (StateM Sink)

namespace Writing

def put (b : Bytes) : Writing Unit := fun s => s.put b

def putLine (line : List Char) : Writing Unit := do
  put (Text.bytes (String.ofList line))
  put (Text.bytes "\n")

def putValue (name : String) (value : Bytes) : Writing Unit :=
  (valueLines name value).forM putLine

def putAttribute (a : Attribute) : Writing Unit :=
  a.values.forM fun v => putValue a.name v.bytes

def putEdit (e : Edit) : Writing Unit := do
  putLine (e.kind.keyword ++ ": " ++ e.name).toList
  e.values.forM fun v => putValue e.name v.bytes
  putLine ['-']

def putBody (r : Record) : Writing Unit :=
  match r.writtenChange with
  | none | some .add => r.attributes.forM putAttribute
  | some .modify => r.edits.forM putEdit
  | some .delete | some .rename => pure ()

def putRecord (r : Record) : Writing Unit :=
  if r.dn.isEmpty then throw (.invalid .emptyDn)
  else do
    putValue "dn" (Text.bytes r.dn)
    match r.writtenChange with
    | none => pure ()
    | some kind => putLine ("changetype: " ++ kind.keyword).toList
    putBody r
    putLine []

end Writing

namespace Sink

def putRecord (s : Sink) (r : Record) : Except Error Unit × Sink := (Writing.putRecord r).run.run s

/-- Writes records one after another, whether or not earlier ones fitted. -/
def putRecords (s : Sink) : List Record → List (Except Error Unit) × Sink
  | [] => ([], s)
  | r :: rest =>
      let (result, s) := s.putRecord r
      let (results, s) := putRecords s rest
      (result :: results, s)

/-- What was written, to be looked at. -/
def text (s : Sink) : String := Text.lossy s.written

end Sink

end DirectoryClient.Ldif
