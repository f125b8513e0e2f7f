import DirectoryClient.Ldif.Reader
import DirectoryClient.Text.Split

/-!
# Reading a whole text at once

What a stream of records means can be said without a reader that looks ahead:
cut the whole text into lines, join every run of lines that begin with a space
to the line before, cut what comes out at the blank lines, and read the blocks
in their order. From one block to the next nothing is carried but whether a
version was seen. The first block that cannot be read ends it all.

Lines carry the number of the physical line with which they begin, because a
refusal names the line it is about. An edit without a separator is only noticed
where its block ends, and is blamed on the blank line there, or on the last line
of all if the text ends first.
-/

namespace DirectoryClient.Ldif

/-! ## Lines -/

/-- A line with its number, counted from 1. A line that was joined from several
has the number of the first. -/
structure Line where
  number : Nat
  text : List Char

namespace Line

/-- Whether the line goes on with the one before. -/
def continues (l : Line) : Bool := l.text.head? == some ' '

/-- Whether nothing is on the line. -/
def isBlank (l : Line) : Bool := l.text.isEmpty

end Line

/-- The physical lines of a text, without what ends them: a line feed with up to
two carriage returns, or one carriage return at the end of the text. -/
def physicalLines (text : List Char) : List (List Char) :=
  let parts := Text.split '\n' text
  let last := parts.getLast?.getD []
  parts.dropLast.map (Source.dropReturn ∘ Source.dropReturn) ++
    if last.isEmpty then [] else [Source.dropReturn last]

/-- Numbers lines from `first` on. -/
def numbered (first : Nat) : List (List Char) → List Line
  | [] => []
  | text :: rest => ⟨first, text⟩ :: numbered (first + 1) rest

/-- The logical lines: every run of lines that begin with a space is joined to
the line before, without those spaces. Nothing is joined to a blank line. -/
def joined : List Line → List Line
  | [] => []
  | l :: rest =>
      if l.isBlank then l :: joined rest
      else
        ⟨l.number, l.text ++ (rest.takeWhile Line.continues).flatMap (·.text.tail)⟩ ::
          joined (rest.dropWhile Line.continues)
termination_by ls => ls.length
decreasing_by
  · simp
  · have := (List.dropWhile_sublist Line.continues (l := rest)).length_le
    simp only [List.length_cons]
    omega

/-! ## Blocks -/

/-- Lines up to a blank one or the end of the text. -/
structure Block where
  lines : List Line
  /-- The number of the blank line, unless the text ends first. -/
  stop : Option Nat

/-- Cuts lines at the blank ones. -/
def blocks : List Line → List Block
  | [] => []
  | l :: rest =>
      if l.isBlank then ⟨[], some l.number⟩ :: blocks rest
      else
        match blocks rest with
        | [] => [⟨[l], none⟩]
        | b :: more => { b with lines := l :: b.lines } :: more

/-- Why a block is refused, and at which line. -/
structure Refusal where
  line : Nat
  complaint : Complaint
  deriving DecidableEq

/-- Takes in the lines of a block one after another. A line that still begins
with a space has nothing to go on with. -/
def Draft.acceptLines (seen : Bool) (d : Draft) : List Line → Except Refusal (Draft × Bool)
  | [] => .ok (d, seen)
  | l :: rest =>
      if l.continues then .error ⟨l.number, .looseContinuation⟩
      else
        match d.accept seen l.text with
        | .error complaint => .error ⟨l.number, complaint⟩
        | .ok (d, seen) => acceptLines seen d rest

/-- Where it is noticed that a block ends. -/
def Block.endNumber (b : Block) : Nat :=
  b.stop.getD ((b.lines.getLast?.map Line.number).getD 0)

/-- The record in a block, if there is more than comments and a version, and
whether a version has been seen after it. -/
def Block.read (seen : Bool) (b : Block) : Except Refusal (Option Record × Bool) :=
  match Draft.empty.acceptLines seen b.lines with
  | .error refusal => .error refusal
  | .ok (d, seen) =>
      match d.finish with
      | .ok record => .ok (record, seen)
      | .error complaint => .error ⟨b.endNumber, complaint⟩

/-! ## Texts -/

/-- What is read of a whole text: its records, and why it was not read on. -/
structure Reading where
  records : List Record
  refusal : Option Refusal

/-- Reads blocks in their order, up to the first that is refused. -/
def readBlocks (seen : Bool) : List Block → Reading
  | [] => ⟨[], none⟩
  | b :: rest =>
      match b.read seen with
      | .error refusal => ⟨[], some refusal⟩
      | .ok (none, seen) => readBlocks seen rest
      | .ok (some record, seen) =>
          let more := readBlocks seen rest
          ⟨record :: more.records, more.refusal⟩

/-- Reads a whole text. -/
def readText (text : List Char) : Reading :=
  readBlocks false (blocks (joined (numbered 1 (physicalLines text))))

/-- What a reading amounts to when it is asked for one record after another,
counted from 0: its records, then its refusal once, and then nothing. -/
def Reading.answer (x : Reading) (n : Nat) : Except Error (Option Record) :=
  match x.records[n]?, x.refusal with
  | some record, _ => .ok (some record)
  | none, some refusal =>
      if n = x.records.length then .error (.ldif refusal.line refusal.complaint) else .ok none
  | none, none => .ok none

/-- The answer that a reader gives after it was asked `n` times before. -/
def Reader.answer (r : Reader) : Nat → Except Error (Option Record)
  | 0 => r.next.1
  | n + 1 => r.next.2.answer n

/-! ## Joining and cutting -/

theorem joined_blank {l : Line} {rest : List Line} (h : l.isBlank = true) :
    joined (l :: rest) = l :: joined rest := by
  rw [joined, if_pos h]

theorem joined_cons {l : Line} {rest : List Line} (h : l.isBlank = false) :
    joined (l :: rest) =
      ⟨l.number, l.text ++ (rest.takeWhile Line.continues).flatMap (·.text.tail)⟩ ::
        joined (rest.dropWhile Line.continues) := by
  rw [joined, if_neg (by simp [h])]

@[simp] theorem joined_eq_nil_iff {ls : List Line} : joined ls = [] ↔ ls = [] := by
  cases ls with
  | nil => simp [joined]
  | cons l rest =>
      rw [joined]
      split <;> simp

theorem Line.exists_of_continues {l : Line} (h : l.continues = true) :
    ∃ more, l.text = ' ' :: more :=
  List.head?_eq_some_iff.1 (beq_iff_eq.1 h)

/-- A line that was joined from several is blank, or goes on with the one before,
just as the first of them. -/
theorem continues_append {n : Nat} {text more : List Char} (h : text ≠ []) :
    (Line.mk n (text ++ more)).continues = (Line.mk n text).continues := by
  cases text with
  | nil => exact absurd rfl h
  | cons c rest => rfl

theorem blocks_blank {l : Line} {rest : List Line} (h : l.isBlank = true) :
    blocks (l :: rest) = ⟨[], some l.number⟩ :: blocks rest := by
  rw [blocks, if_pos h]

/-- The first block is made of the lines before the first blank one, and the
further blocks of those after it. -/
theorem blocks_eq_cons {ls : List Line} {b : Block} {more : List Block}
    (h : blocks ls = b :: more) :
    (∀ l ∈ b.lines, l.isBlank = false) ∧
      ((ls = b.lines ∧ b.stop = none ∧ b.lines ≠ [] ∧ more = []) ∨
        ∃ l rest, l.isBlank = true ∧ ls = b.lines ++ l :: rest ∧ b.stop = some l.number ∧
          blocks rest = more) := by
  induction ls generalizing b more with
  | nil => simp [blocks] at h
  | cons l rest ih =>
      rw [blocks] at h
      split at h
      · next hblank =>
          cases h
          exact ⟨by simp, Or.inr ⟨l, rest, hblank, rfl, rfl, rfl⟩⟩
      · next hblank =>
          have hl : l.isBlank = false := by simpa using hblank
          split at h
          · next hrest =>
              cases h
              have hnil : rest = [] := by
                cases rest with
                | nil => rfl
                | cons x xs =>
                    rw [blocks] at hrest
                    split at hrest
                    · cases hrest
                    · split at hrest <;> cases hrest
              subst hnil
              exact ⟨by simpa using hl, Or.inl ⟨rfl, rfl, by simp, rfl⟩⟩
          · next b' more' hrest =>
              cases h
              obtain ⟨hb, hcase⟩ := ih hrest
              refine ⟨by simpa using ⟨hl, hb⟩, ?_⟩
              rcases hcase with ⟨heq, hstop, -, hmore⟩ | ⟨x, xs, hx, heq, hstop, hmore⟩
              · exact Or.inl ⟨by rw [heq], hstop, by simp, hmore⟩
              · exact Or.inr ⟨x, xs, hx, by rw [heq]; rfl, hstop, hmore⟩

theorem blocks_append_blank {ls rest : List Line} {l : Line}
    (hls : ∀ x ∈ ls, x.isBlank = false) (hl : l.isBlank = true) :
    blocks (ls ++ l :: rest) = ⟨ls, some l.number⟩ :: blocks rest := by
  induction ls with
  | nil => exact blocks_blank hl
  | cons x xs ih =>
      have hx : x.isBlank = false := hls x (by simp)
      rw [List.cons_append, blocks, if_neg (by simp [hx]), ih fun y hy => hls y (by simp [hy])]

theorem blocks_of_notBlank {ls : List Line} (h : ∀ l ∈ ls, l.isBlank = false) (hne : ls ≠ []) :
    blocks ls = [⟨ls, none⟩] := by
  induction ls with
  | nil => exact absurd rfl hne
  | cons l rest ih =>
      obtain ⟨hl, hrest⟩ := List.forall_mem_cons.1 h
      rw [blocks, if_neg (by simp [hl])]
      cases rest with
      | nil => rfl
      | cons x xs => rw [ih hrest (by simp)]

@[simp] theorem blocks_eq_nil_iff {ls : List Line} : blocks ls = [] ↔ ls = [] := by
  cases ls with
  | nil => simp [blocks]
  | cons l rest =>
      rw [blocks]
      split
      · simp
      · split <;> simp

/-- Nothing is lost by cutting at blank lines. -/
theorem blocks_injective {ls ls' : List Line} (h : blocks ls = blocks ls') : ls = ls' := by
  generalize hbs : blocks ls = bs at h
  induction bs generalizing ls ls' with
  | nil => rw [blocks_eq_nil_iff.1 hbs, blocks_eq_nil_iff.1 h.symm]
  | cons b more ih =>
      obtain ⟨-, hcase⟩ := blocks_eq_cons hbs
      obtain ⟨-, hcase'⟩ := blocks_eq_cons h.symm
      rcases hcase with ⟨hls, hstop, -, -⟩ | ⟨⟨n, text⟩, rest, hblank, hls, hstop, hmore⟩
      · rcases hcase' with ⟨hls', -, -, -⟩ | ⟨l', rest', -, -, hstop', -⟩
        · rw [hls, hls']
        · rw [hstop] at hstop'
          cases hstop'
      · rcases hcase' with ⟨-, hstop', -, -⟩ | ⟨⟨n', text'⟩, rest', hblank', hls', hstop', hmore'⟩
        · rw [hstop] at hstop'
          cases hstop'
        · obtain rfl : text = [] := List.isEmpty_iff.1 hblank
          obtain rfl : text' = [] := List.isEmpty_iff.1 hblank'
          rw [hstop] at hstop'
          cases hstop'
          rw [hls, hls', ih hmore hmore'.symm]

end DirectoryClient.Ldif
