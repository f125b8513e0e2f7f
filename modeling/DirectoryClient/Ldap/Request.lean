import DirectoryClient.Filter.Basic
import DirectoryClient.Record
import DirectoryClient.Scope

/-!
# Requests

What a client asks of a server. The values of an attribute travel as a set: it
is kept here as a list without duplicates, sorted by octets, so that equal sets
are equal lists.
-/

namespace DirectoryClient.Ldap

/-! ## Sets of values -/

/-- A set of octet strings, as a list in order without duplicates. -/
abbrev ValueSet := List Bytes

namespace ValueSet

def insert (b : Bytes) : ValueSet → ValueSet
  | [] => [b]
  | c :: rest =>
      if b = c then c :: rest
      else if b < c then b :: c :: rest
      else c :: insert b rest

def ofValues (values : List Value) : ValueSet :=
  values.foldr (fun v set => insert v.bytes set) []

theorem mem_insert {a b : Bytes} {set : ValueSet} : a ∈ insert b set ↔ a = b ∨ a ∈ set := by
  induction set with
  | nil => simp [insert]
  | cons c rest ih =>
      unfold insert
      split
      · next h => subst h; simp
      · split
        · simp
        · rw [List.mem_cons, List.mem_cons, ih]
          exact or_left_comm

theorem mem_ofValues {b : Bytes} {values : List Value} :
    b ∈ ofValues values ↔ ∃ v ∈ values, v.bytes = b := by
  induction values with
  | nil => simp [ofValues]
  | cons v rest ih =>
      rw [ofValues, List.foldr_cons, mem_insert, ← ofValues, ih]
      simp [eq_comm]

end ValueSet

/-! ## Requests -/

/-- What is searched for, and where. -/
structure Query where
  base : String
  scope : Scope
  /-- How many entries the server should find at most; no limit if 0. -/
  sizeLimit : Nat
  filter : Filter

/-- One change of a modification. -/
structure Change where
  kind : EditKind
  name : String
  values : ValueSet

/-- A request to a server. -/
inductive Request
  /-- To be known under a name with a password. -/
  | bind (dn password : String)
  | search (query : Query)
  | add (dn : String) (attributes : List (String × ValueSet))
  | modify (dn : String) (changes : List Change)
  | delete (dn : String)
  /-- To stop working on an earlier request. -/
  | abandon (target : Nat)
  | unbind

/-- The number of a kind of change in a request. -/
def changeCode : EditKind → Nat
  | .add => 0
  | .remove => 1
  | .replace => 2

/-- The change that an edit asks for. -/
def Change.ofEdit (e : Edit) : Change := ⟨e.kind, e.name, ValueSet.ofValues e.values⟩

/-- The attributes of a record with their values as sets. -/
def attributeSets (r : Record) : List (String × ValueSet) :=
  r.attributes.map fun a => (a.name, ValueSet.ofValues a.values)

/-- The request to add a record, unless one of its attributes has no values. -/
def Request.ofRecord? (r : Record) : Option Request :=
  if r.attributes.any (·.values.isEmpty) then none
  else some (.add r.dn (attributeSets r))

/-- The request to edit an entry, unless one of the edits adds no values. -/
def Request.ofEdits? (dn : String) (edits : List Edit) : Option Request :=
  if edits.any fun e => e.kind = .add ∧ e.values.isEmpty then none
  else some (.modify dn (edits.map Change.ofEdit))

end DirectoryClient.Ldap
