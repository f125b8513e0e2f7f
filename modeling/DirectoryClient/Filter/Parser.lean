import DirectoryClient.Filter.Basic

/-!
# Reading filters

A filter stands in parentheses; only a single comparison may do without. A
comparison never contains a parenthesis, so it is the text up to the next one,
and it is read as a whole.

Every step gives what is left of the text, with a proof that it is shorter; that
is why reading ends.
-/

namespace DirectoryClient.Filter

/-! ## Attribute descriptions -/

def isDigit (b : UInt8) : Bool := 0x30 ≤ b && b ≤ 0x39

def isLetter (b : UInt8) : Bool := (0x41 ≤ b && b ≤ 0x5A) || (0x61 ≤ b && b ≤ 0x7A)

/-- Whether an octet may stand within a name. -/
def isNameByte (b : UInt8) : Bool := isLetter b || isDigit b || b == 0x2D

/-- Reads a number without superfluous zeros. -/
def number? (s : Bytes) : Option (Bytes × Bytes) :=
  match s.takeWhile isDigit with
  | [] => none
  | [digit] => some ([digit], s.dropWhile isDigit)
  | first :: more =>
      if first = 0x30 then none else some (first :: more, s.dropWhile isDigit)

/-- Reads what `one` reads, over and over, each after a separator. `fuel` bounds
how often. -/
def repeated (separator : UInt8) (one : Bytes → Option (Bytes × Bytes)) :
    (fuel : Nat) → Bytes → Bytes × Bytes
  | 0, s => ([], s)
  | fuel + 1, s =>
      match s with
      | b :: rest =>
          if b = separator then
            match one rest with
            | some (item, after) =>
                let (more, last) := repeated separator one fuel after
                (separator :: item ++ more, last)
            | none => ([], s)
          else ([], s)
      | [] => ([], s)

/-- Reads the type of an attribute: numbers with dots, or a name. -/
def attributeType? (s : Bytes) : Option (Bytes × Bytes) :=
  match number? s with
  | some (first, rest) =>
      let (more, rest) := repeated 0x2E number? rest.length rest
      some (first ++ more, rest)
  | none =>
      match s with
      | b :: rest =>
          if isLetter b then some (b :: rest.takeWhile isNameByte, rest.dropWhile isNameByte)
          else none
      | [] => none

def option? (s : Bytes) : Option (Bytes × Bytes) :=
  match s.takeWhile isNameByte with
  | [] => none
  | name => some (name, s.dropWhile isNameByte)

def description? (s : Bytes) : Option (Bytes × Bytes) :=
  (attributeType? s).map fun (type, rest) =>
    let (options, rest) := repeated 0x3B option? rest.length rest
    (type ++ options, rest)

/-! ## Values -/

def hexValue? (b : UInt8) : Option Nat := Text.hexDigit? (Char.ofNat b.toNat)

/-- Reads a whole text as a value; stars have to be escaped, as well as a
backslash and the octet zero. -/
def unescape? : Bytes → Option Bytes
  | [] => some []
  | 0x5C :: a :: b :: rest => do
      let high ← hexValue? a
      let low ← hexValue? b
      (unescape? rest).map (UInt8.ofNat (high * 16 + low) :: ·)
  | b :: rest =>
      if b = 0x5C ∨ b = 0 ∨ b = 0x2A then none else (unescape? rest).map (b :: ·)

/-- The parts of a text between stars. -/
def splitStars : Bytes → List Bytes
  | [] => [[]]
  | b :: rest =>
      match splitStars rest with
      | [] => [[b]]
      | part :: more => if b = 0x2A then [] :: part :: more else (b :: part) :: more

/-- The comparison of an attribute with a value that may hold stars. Only at the
ends may there be nothing beside a star. -/
def pattern? (name text : Bytes) : Option Filter := do
  match ← (splitStars text).mapM unescape? with
  | [] => none
  | [value] => some (.compare name .equal value)
  | [[], []] => some (.present name)
  | first :: more =>
      let middle := more.dropLast
      if middle.any (·.isEmpty) then none
      else some (.parts name first middle (more.getLast?.getD []))

/-! ## Comparisons -/

/-- What `s` goes on with after `text`. -/
def after? (text : String) (s : Bytes) : Option Bytes :=
  let lead := ascii text
  if lead.isPrefixOf s then some (s.drop lead.length) else none

/-- Reads the end of a comparison by a rule: the parts of the name, the rule, and
the value. -/
def extensible? (name : Option Bytes) (s : Bytes) : Option Filter := do
  let (withDn, s) := match after? ":dn" s with
    | some rest => (true, rest)
    | none => (false, s)
  let (rule, s) := match (after? ":" s).bind attributeType? with
    | some (rule, rest) => (some rule, rest)
    | none => (none, s)
  if name.isNone ∧ rule.isNone then none
  let value ← (← after? ":=" s) |> unescape?
  return .extensible name withDn rule value

def comparison? (s : Bytes) : Option Filter :=
  match description? s with
  | none => extensible? none s
  | some (name, rest) =>
      match after? "=" rest, after? ">=" rest, after? "<=" rest, after? "~=" rest with
      | some text, _, _, _ => pattern? name text
      | _, some text, _, _ => (unescape? text).map (.compare name .atLeast)
      | _, _, some text, _ => (unescape? text).map (.compare name .atMost)
      | _, _, _, some text => (unescape? text).map (.compare name .approximate)
      | _, _, _, _ => extensible? (some name) rest

/-! ## Trees -/

def isInner (b : UInt8) : Bool := b != 0x28 && b != 0x29

theorem length_dropWhile_le (p : UInt8 → Bool) (s : Bytes) :
    (s.dropWhile p).length ≤ s.length :=
  (List.dropWhile_sublist p).length_le

/-- What follows a closing parenthesis. -/
def close? {n : Nat} :
    { rest : Bytes // rest.length ≤ n } → Option { rest : Bytes // rest.length < n }
  | ⟨0x29 :: rest, h⟩ => some ⟨rest, h⟩
  | _ => none

mutual

/-- Reads a filter in parentheses. -/
def tree? (s : Bytes) : Option (Filter × { rest : Bytes // rest.length < s.length }) :=
  match s with
  | 0x28 :: 0x26 :: inner =>
      match trees? inner with
      | some (filters, after) =>
          (close? after).map fun ⟨rest, h⟩ => (.all filters, ⟨rest, Nat.lt_add_right 2 h⟩)
      | none => none
  | 0x28 :: 0x7C :: inner =>
      match trees? inner with
      | some (filters, after) =>
          (close? after).map fun ⟨rest, h⟩ => (.any filters, ⟨rest, Nat.lt_add_right 2 h⟩)
      | none => none
  | 0x28 :: 0x21 :: inner =>
      match tree? inner with
      | some (filter, ⟨after, h⟩) =>
          (close? ⟨after, Nat.le_of_lt h⟩).map fun ⟨rest, h⟩ =>
            (.not filter, ⟨rest, Nat.lt_add_right 2 h⟩)
      | none => none
  | 0x28 :: inner =>
      let after : { rest : Bytes // rest.length ≤ inner.length } :=
        ⟨inner.dropWhile isInner, length_dropWhile_le isInner inner⟩
      match close? after with
      | some ⟨rest, h⟩ =>
          (comparison? (inner.takeWhile isInner)).map (·, ⟨rest, Nat.lt_add_right 1 h⟩)
      | none => none
  | _ => none
termination_by (s.length, 0)
decreasing_by
  all_goals
    exact Prod.Lex.left _ _ (by simp only [List.length_cons]; omega)

/-- Reads filters in parentheses as long as there are any. -/
def trees? (s : Bytes) : Option (List Filter × { rest : Bytes // rest.length ≤ s.length }) :=
  match s with
  | 0x28 :: inner =>
      match tree? (0x28 :: inner) with
      | none => none
      | some (filter, ⟨rest, h⟩) =>
          match trees? rest with
          | none => none
          | some (filters, ⟨last, h'⟩) => some (filter :: filters, ⟨last, by omega⟩)
  | s => some ([], ⟨s, Nat.le_refl _⟩)
termination_by (s.length, 1)
decreasing_by
  · exact Prod.Lex.right _ Nat.zero_lt_one
  · exact Prod.Lex.left _ _ h

end

def parse? (text : String) : Option Filter :=
  match Text.bytes text with
  | 0x28 :: inner =>
      match tree? (0x28 :: inner) with
      | some (filter, ⟨[], _⟩) => some filter
      | _ => none
  | s => comparison? s

end DirectoryClient.Filter
