import DirectoryClient.Ldif.Field
import DirectoryClient.Record

/-!
# Records in the making

A record is read line by line. A draft is what has been read of it, together
with the phase, which says what may come next: first an optional version, then
the name, then either attributes or a kind of change and what belongs to it.

Comments change nothing, wherever they stand. The version counts for the whole
stream, so a draft is told whether one was seen, and says so in turn.
-/

namespace DirectoryClient.Ldif

/-- What a record in the making waits for. -/
inductive Phase
  /-- A version or the name. -/
  | start
  /-- A kind of change or the first attribute. -/
  | named
  /-- Attributes. -/
  | content
  /-- Nothing: the entry is deleted. -/
  | deletion
  /-- Details of a new name, which are not read here. -/
  | renaming
  /-- The next edit. -/
  | modification
  /-- Values of an edit, or its separator. -/
  | edit (e : Edit)
  deriving DecidableEq

structure Draft where
  record : Record
  phase : Phase
  /-- Whether any line of the record has been read. -/
  begun : Bool
  deriving DecidableEq

namespace Draft

/-- The draft of which nothing has been read. -/
def empty : Draft := ⟨Record.new "", .start, false⟩

/-- The draft after a kind of change. -/
def changing (r : Record) (kind : String) : Except Complaint (Record × Phase) :=
  let keyword := Text.foldCase kind
  let become := fun (change : ChangeKind) (phase : Phase) =>
    .ok ({ r with isContent := false, change := some change }, phase)
  if keyword = "add" then become .add .content
  else if keyword = "delete" then become .delete .deletion
  else if keyword = "modify" then become .modify .modification
  else if keyword = "modrdn" ∨ keyword = "moddn" then become .rename .renaming
  else .error (.badChange kind)

/-- The edit that a field of a modification begins. -/
def openEdit (f : Field) : Except Complaint Edit :=
  match f.value with
  | .binary _ => .error .editNameNotText
  | .text name =>
      if f.name = "add" then .ok ⟨.add, name, []⟩
      else if f.name = "replace" then .ok ⟨.replace, name, []⟩
      else if f.name = "delete" then .ok ⟨.remove, name, []⟩
      else .error .badEdit

/-- Takes in a field other than the version. -/
def acceptField (r : Record) (f : Field) : Phase → Except Complaint (Record × Phase)
  | .start =>
      if f.name = "dn" then f.text.map fun dn => ({ r with dn }, .named)
      else .error .noDn
  | .named =>
      if f.name = "control" then .error .control
      else if f.name = "changetype" then f.text.bind (changing r)
      else .ok (r.addValue f.name f.value, .content)
  | .content => .ok (r.addValue f.name f.value, .content)
  | .deletion => .error .valuesInDelete
  | .renaming => .error .renameDetails
  | .modification => (openEdit f).map fun e => (r, .edit e)
  | .edit e =>
      if Text.sameName e.name f.name then
        .ok (r, .edit { e with values := e.values ++ [f.value] })
      else .error .editNameMismatch

def checkVersion (seen : Bool) (value : Value) : Except Complaint Unit :=
  if seen then .error .repeatedVersion
  else if value.text? = some "1" then .ok ()
  else .error .badVersion

/-- Takes in the separator that ends an edit. -/
def separate (d : Draft) : Except Complaint Draft :=
  match d.phase with
  | .edit e =>
      .ok { d with record.edits := d.record.edits ++ [e], phase := .modification }
  | _ => .error .looseSeparator

/-- Takes in a line that is not blank. The flag tells whether the stream has had
a version line before, and comes back updated. -/
def accept (seen : Bool) (line : List Char) (d : Draft) : Except Complaint (Draft × Bool) :=
  if line.head? = some '#' then .ok (d, seen)
  else if line = ['-'] then d.separate.map fun d => (d, seen)
  else do
    let f ← Field.parse line
    if f.name = "version" ∧ d.phase = .start then
      checkVersion seen f.value
      return (d, true)
    else
      let (record, phase) ← acceptField d.record f d.phase
      return (⟨record, phase, true⟩, seen)

/-- The record that a draft amounts to when no more lines follow. -/
def finish (d : Draft) : Except Complaint (Option Record) :=
  match d.phase with
  | .edit _ => .error .unfinishedEdit
  | _ => .ok (if d.begun then some d.record else none)

end Draft

end DirectoryClient.Ldif
