import DirectoryClient.Record

/-!
# Entries found by a search

A server sends an entry as names with lists of octets. The client sorts the
attributes into two maps: one whose values are all text, and one for names with
at least one value that is not. In the second map the values that are not text
come first, and the text ones follow as octets.

The maps are lists of pairs here, and a record takes over the textual map before
the binary one; so a name that occurs in both, in whatever spelling, becomes one
attribute spelled as in the textual map, with the text values in front. In which order
a map is gone through is left open: it can be any (`Entry.Order`).
-/

namespace DirectoryClient

/-- An entry with its attributes sorted by whether all their values are text. -/
structure Entry where
  dn : String
  texts : List (String × List String)
  binaries : List (String × List Bytes)

namespace Entry

/-- Puts `value` under `key`, in the place of what was there. -/
def insert {α : Type} (key : String) (value : α) : List (String × α) → List (String × α)
  | [] => [(key, value)]
  | (k, v) :: rest =>
      if k = key then (k, value) :: rest else (k, v) :: insert key value rest

def append {α : Type} (key : String) (values : List α) :
    List (String × List α) → List (String × List α)
  | [] => [(key, values)]
  | (k, v) :: rest =>
      if k = key then (k, v ++ values) :: rest else (k, v) :: append key values rest

/-- Takes in one attribute as the server sent it. A textual attribute replaces
an earlier textual one of that name; binary values are added to earlier ones. -/
def addWire (e : Entry) (name : String) (values : List Bytes) : Entry :=
  let isText := fun b => (Text.ofBytes? b).isSome
  if values.all isText then
    { e with texts := insert name (values.filterMap Text.ofBytes?) e.texts }
  else
    let rest := values.filter isText
    { e with binaries := append name (values.filter (! isText ·) ++ rest) e.binaries }

/-- The entry that a server sent under `dn` with these attributes. -/
def ofWire (dn : String) (attrs : List (String × List Bytes)) : Entry :=
  attrs.foldl (fun e a => e.addWire a.1 a.2) ⟨dn, [], []⟩

/-- An order for each of the two maps. -/
structure Order where
  texts : List (String × List String) → List (String × List String)
  binaries : List (String × List Bytes) → List (String × List Bytes)
  texts_perm : ∀ named, (texts named).Perm named
  binaries_perm : ∀ named, (binaries named).Perm named

/-- The order in which the attributes came. -/
def Order.asSent : Order := ⟨id, id, fun _ => .rfl, fun _ => .rfl⟩

/-- The entry with its maps in an order. -/
def arrange (e : Entry) (o : Order) : Entry :=
  { e with texts := o.texts e.texts, binaries := o.binaries e.binaries }

/-- The record of an entry: textual attributes first, then binary ones. -/
def toRecord (e : Entry) : Record :=
  let withTexts := e.texts.foldl
    (fun r a => r.addValues a.1 (a.2.map Value.text)) (Record.new e.dn)
  e.binaries.foldl (fun r a => r.addValues a.1 (a.2.map Value.binary)) withTexts

end Entry

end DirectoryClient
