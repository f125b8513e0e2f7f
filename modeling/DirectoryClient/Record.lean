import DirectoryClient.Text.Ascii
import DirectoryClient.Value

/-!
# Records

A record is the entry of a directory as it is read or written: its
distinguished name and its attributes. Attributes keep the order in which they
were first supplied and the spelling of that time, and no two of them have
names that are equal up to ASCII case. All changes to a single attribute go
through `Attribute.update`, which walks the list to the attribute so named or
adds it at the end.

A record that was read as the description of a change also says of which kind
the change is, and a modification lists its edits.
-/

namespace DirectoryClient

/-- A named attribute with its values in the order of insertion. -/
structure Attribute where
  name : String
  values : List Value
  deriving DecidableEq

namespace Attribute

/-- Whether the attribute is called `name`, without regard to ASCII case. -/
def isNamed (a : Attribute) (name : String) : Bool := Text.sameName a.name name

/-- Changes the values of the attribute called `name`; an absent attribute is
added at the end, as if it had had no values. -/
def update (name : String) (f : List Value → List Value) : List Attribute → List Attribute
  | [] => [⟨name, f []⟩]
  | a :: rest =>
      if a.isNamed name then { a with values := f a.values } :: rest
      else a :: update name f rest

end Attribute

inductive ChangeKind
  | add
  | delete
  | modify
  | rename
  deriving DecidableEq

def ChangeKind.keyword : ChangeKind → String
  | add => "add"
  | delete => "delete"
  | modify => "modify"
  | rename => "moddn"

/-- What an edit does to an attribute. Removing no values at all removes the
attribute. -/
inductive EditKind
  | add
  | replace
  | remove
  deriving DecidableEq

/-- One change to one attribute of an entry. -/
structure Edit where
  kind : EditKind
  name : String
  values : List Value
  deriving DecidableEq

/-- An entry, or a change to one. -/
structure Record where
  dn : String
  /-- The name relative to the base of the search that found the entry. -/
  relativeName : Option String
  /-- Whether the record is an entry rather than a change to one. -/
  isContent : Bool
  /-- The kind of change, if the record describes one. -/
  change : Option ChangeKind
  edits : List Edit
  /-- The attributes, in the order in which they were first supplied. -/
  attributes : List Attribute
  deriving DecidableEq

namespace Record

/-- The entry called `dn` without attributes. -/
def new (dn : String) : Record := ⟨dn, none, true, none, [], []⟩

instance : Inhabited Record := ⟨new ""⟩

/-! ## Changing a record -/

/-- Appends several values to an attribute. -/
def addValues (r : Record) (name : String) (values : List Value) : Record :=
  { r with attributes := Attribute.update name (· ++ values) r.attributes }

def addValue (r : Record) (name : String) (value : Value) : Record :=
  r.addValues name [value]

def setValues (r : Record) (name : String) (values : List Value) : Record :=
  { r with attributes := Attribute.update name (fun _ => values) r.attributes }

def attribute? (r : Record) (name : String) : Option Attribute :=
  r.attributes.find? (·.isNamed name)

def erase (r : Record) (name : String) : Record :=
  { r with attributes := r.attributes.eraseP (·.isNamed name) }

/-- Takes out the attribute of a name, and hands it over if there was one. -/
def remove (r : Record) (name : String) : Option Attribute × Record :=
  match r.attributes.findIdx? (·.isNamed name) with
  | some i => (r.attributes[i]?, { r with attributes := r.attributes.eraseIdx i })
  | none => (none, r)

/-- Leaves nothing but the distinguished name. -/
def clear (r : Record) : Record := new r.dn

/-! ## Looking into a record -/

def isEmpty (r : Record) : Bool := r.attributes.isEmpty

/-- Whether an attribute has a value of the same octets. -/
def containsValue (r : Record) (name : String) (value : Value) : Bool :=
  match r.attribute? name with
  | some a => a.values.any (·.bytes == value.bytes)
  | none => false

def first? (r : Record) (name : String) : Option Value :=
  (r.attribute? name).bind (·.values.head?)

def firstText? (r : Record) (name : String) : Option String :=
  (r.first? name).bind Value.text?

def firstBytes? (r : Record) (name : String) : Option Bytes :=
  (r.first? name).map Value.bytes

theorem attribute?_addValues_ne {r : Record} {m n : String} {vs : List Value}
    (h : Text.sameName n m = false) :
    (r.addValues n vs).attribute? m = r.attribute? m := by
  unfold addValues attribute?
  simp only
  generalize r.attributes = attrs
  induction attrs with
  | nil => simp [Attribute.update, Attribute.isNamed, h]
  | cons a rest ih =>
      unfold Attribute.update
      split
      · next hn =>
          have ha : Text.foldCase a.name = Text.foldCase n := by
            simpa [Attribute.isNamed, Text.sameName] using hn
          have : a.isNamed m = false := by
            simpa [Attribute.isNamed, Text.sameName, ha] using h
          have hm : Attribute.isNamed { a with values := a.values ++ vs } m = false := this
          simp only [List.find?_cons, hm, this]
      · simp only [List.find?_cons, ih]

end Record

end DirectoryClient
