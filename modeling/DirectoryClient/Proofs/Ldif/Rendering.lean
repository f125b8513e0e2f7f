import DirectoryClient.Proofs.Base64
import DirectoryClient.Proofs.Ldif.Folding
import DirectoryClient.Proofs.Ldif.Grammar
import DirectoryClient.Proofs.Record.Names
import DirectoryClient.Proofs.Text.Blank

/-!
# What the lines of a writer say

The lines that are written for a value, an edit or a whole record, taken as the
items of the grammar that they will be read as. `Renders` brings together what
has to fit: the lines are a folding of logical lines, these split into the items,
and no line end slips in.

Names are written as they are, so all of this is about names that are `Plain`.
Values need no such condition, since what might be mistaken is written as base64.
-/

namespace DirectoryClient.Ldif

/-- A name that a line can begin with and be read as a field of this name, if the
line stays in one piece; and only allowed characters are in it. -/
structure FieldName (ok : Char → Prop) (name : String) : Prop where
  ne_nil : name.toList ≠ []
  colon : ':' ∉ name.toList
  space : name.toList.head? ≠ some ' '
  hash : name.toList.head? ≠ some '#'
  chars : ∀ c ∈ name.toList, ok c

/-- A name that a line can begin with and be read as a field of this name. -/
structure Plain (name : String) : Prop where
  ne_nil : name.toList ≠ []
  colon : ':' ∉ name.toList
  newline : '\n' ∉ name.toList
  carriageReturn : '\r' ∉ name.toList
  space : name.toList.head? ≠ some ' '
  hash : name.toList.head? ≠ some '#'

/-- A character that is no line end. -/
def NoLineEnd (c : Char) : Prop := c ≠ '\n' ∧ c ≠ '\r'

theorem Plain.fieldName {name : String} (h : Plain name) : FieldName NoLineEnd name where
  ne_nil := h.ne_nil
  colon := h.colon
  space := h.space
  hash := h.hash
  chars _ hc := ⟨fun heq => h.newline (heq ▸ hc), fun heq => h.carriageReturn (heq ▸ hc)⟩

/-- Everything from the space on is allowed, and so are all values as they are written. -/
def AllowsPrintable (ok : Char → Prop) : Prop := ∀ c : Char, 32 ≤ c.toNat → ok c

theorem allowsPrintable_noLineEnd : AllowsPrintable NoLineEnd := by
  intro c hc
  constructor
  · rintro rfl
    exact absurd hc (by decide)
  · rintro rfl
    exact absurd hc (by decide)

/-! ## Values -/

theorem denotes_encode (b : Bytes) :
    Denotes (':' :: ' ' :: Base64.encode b) (Value.ofBytes b) := by
  refine .base64 ?_
  rw [Text.trim_space_cons, Text.trim_of_notBlank]
  exact fun c hc => Text.isBlank_of_toNat (Base64.toNat_of_mem_encode hc)

theorem denotes_text {text : String} (h : text.toList.head? ≠ some ' ') :
    Denotes (' ' :: text.toList) (.text text) := by
  have hdrop : (' ' :: text.toList).dropWhile (fun c => decide (c = ' ')) = text.toList := by
    rw [List.dropWhile_cons_of_pos (by decide)]
    cases htext : text.toList with
    | nil => rfl
    | cons c rest =>
        refine List.dropWhile_cons_of_neg ?_
        rw [htext] at h
        simpa using h
  have hdenotes : Denotes (' ' :: text.toList) (.text _) := .plain (by simp) (by simp)
  rwa [hdrop, String.ofList_toList] at hdenotes

/-- What is safe to write needs no base64. -/
theorem isSafe_iff {text : List Char} :
    isSafe text = true ↔
      (∀ c ∈ text, ' ' ≤ c ∧ c ≤ '~') ∧ text.head? ≠ some ' ' ∧ text.head? ≠ some ':' ∧
        text.head? ≠ some '<' ∧ text.getLast? ≠ some ' ' := by
  simp [isSafe, and_assoc]

/-- The logical line for a value: the name, a colon, and what denotes the value. -/
theorem exists_valueLine_eq (name : String) (b : Bytes) :
    ∃ rest, valueLine name b = name.toList ++ ':' :: rest ∧ Denotes rest (Value.ofBytes b) ∧
      ∀ c ∈ rest, 32 ≤ c.toNat := by
  have hencoded : ∀ c ∈ ':' :: ' ' :: Base64.encode b, 32 ≤ c.toNat := by
    intro c hc
    simp only [List.mem_cons] at hc
    rcases hc with rfl | rfl | hc
    · decide
    · decide
    · have := Base64.toNat_of_mem_encode hc
      omega
  unfold valueLine
  cases htext : Text.ofBytes? b with
  | none => exact ⟨_, rfl, denotes_encode b, hencoded⟩
  | some text =>
      by_cases hsafe : isSafe text.toList = true
      · obtain ⟨hall, hspace, -⟩ := isSafe_iff.1 hsafe
        have hvalue : Value.ofBytes b = .text text := by rw [Value.ofBytes, htext]
        refine ⟨' ' :: text.toList, by simp only [if_pos hsafe], ?_, ?_⟩
        · rw [hvalue]
          exact denotes_text hspace
        · intro c hc
          rcases List.mem_cons.1 hc with rfl | hc
          · decide
          · exact (hall c hc).1
      · exact ⟨_, by simp only [if_neg hsafe], denotes_encode b, hencoded⟩

/-! ## Lines and their items -/

variable {ok : Char → Prop}

/-- The physical lines will be read as these items, and only allowed characters
are in them. -/
def Renders (ok : Char → Prop) (physical : List (List Char)) (items : List Item) : Prop :=
  ∃ logical, Folded physical logical ∧ Items logical items ∧ ∀ l ∈ logical, ∀ c ∈ l, ok c

theorem Items.append {lines more : List (List Char)} {items others : List Item}
    (h : Items lines items) (h' : Items more others) :
    Items (lines ++ more) (items ++ others) := by
  induction h with
  | nil => exact h'
  | comment hcomment _ ih => exact .comment hcomment ih
  | separator _ ih => exact .separator ih
  | field hcomment hseparator hf _ ih => exact .field hcomment hseparator hf ih

namespace Renders

theorem nil : Renders ok [] [] := ⟨[], .nil, .nil, by simp⟩

theorem append {physical more : List (List Char)} {items others : List Item}
    (h : Renders ok physical items) (h' : Renders ok more others) :
    Renders ok (physical ++ more) (items ++ others) := by
  obtain ⟨logical, hfolded, hitems, hchars⟩ := h
  obtain ⟨logical', hfolded', hitems', hchars'⟩ := h'
  refine ⟨logical ++ logical', hfolded.append hfolded', hitems.append hitems', ?_⟩
  intro l hl
  exact (List.mem_append.1 hl).elim (hchars l) (hchars' l)

theorem flatMap {α : Type} {xs : List α} {lines : α → List (List Char)} {items : α → List Item}
    (h : ∀ x ∈ xs, Renders ok (lines x) (items x)) :
    Renders ok (xs.flatMap lines) (xs.flatMap items) := by
  induction xs with
  | nil => exact nil
  | cons x rest ih =>
      obtain ⟨hx, hrest⟩ := List.forall_mem_cons.1 h
      rw [List.flatMap_cons, List.flatMap_cons]
      exact hx.append (ih hrest)

variable (hok : AllowsPrintable ok)

include hok

/-- Folding adds no characters but spaces. -/
theorem chars {physical : List (List Char)} {items : List Item} (h : Renders ok physical items) :
    ∀ l ∈ physical, ∀ c ∈ l, ok c := by
  obtain ⟨logical, hfolded, -, hchars⟩ := h
  intro l hl c hc
  by_cases hspace : c = ' '
  · exact hok c (by rw [hspace]; decide)
  · obtain ⟨line, hline, hmem⟩ := hfolded.mem hl hc hspace
    exact hchars line hline c hmem

theorem separator : Renders ok [['-']] [.separator] :=
  ⟨[['-']], .single (by simp) (by simp), .separator .nil, by simpa using hok '-' (by decide)⟩

end Renders

section

variable {name : String} (hok : AllowsPrintable ok) (hname : FieldName ok name)

include hok hname

/-- A line that begins with such a name and a colon is a field, folded or not. -/
theorem renders_of_folded {rest : List Char} {value : Value} {physical : List (List Char)}
    (hvalue : Denotes rest value) (hrest : ∀ c ∈ rest, ok c)
    (hfolded : Folded physical [name.toList ++ ':' :: rest]) :
    Renders ok physical [.field ⟨Text.foldCase name, value⟩] := by
  obtain ⟨c, cs, hcons⟩ := List.exists_cons_of_ne_nil hname.ne_nil
  refine ⟨[name.toList ++ ':' :: rest], hfolded, .field ?_ ?_ ?_ .nil, ?_⟩
  · have hhash := hname.hash
    rw [hcons] at hhash ⊢
    exact hhash
  · -- the separator has no colon
    intro heq
    have hmem : ':' ∈ name.toList ++ ':' :: rest := by simp
    rw [heq] at hmem
    simp at hmem
  · exact .mk hname.ne_nil hname.colon hvalue
  · refine List.forall_mem_singleton.2 (List.forall_mem_append.2 ⟨hname.chars, ?_⟩)
    exact List.forall_mem_cons.2 ⟨hok ':' (by decide), hrest⟩

omit hok in
theorem FieldName.head_append (rest : List Char) :
    name.toList ++ rest ≠ [] ∧ (name.toList ++ rest).head? ≠ some ' ' := by
  obtain ⟨c, cs, hcons⟩ := List.exists_cons_of_ne_nil hname.ne_nil
  have hspace := hname.space
  rw [hcons] at hspace ⊢
  exact ⟨by simp, hspace⟩

theorem renders_valueLines (b : Bytes) :
    Renders ok (valueLines name b) [.field ⟨Text.foldCase name, Value.ofBytes b⟩] := by
  obtain ⟨rest, hline, hvalue, hrest⟩ := exists_valueLine_eq name b
  obtain ⟨hne, hspace⟩ := hname.head_append (':' :: rest)
  rw [valueLines, hline]
  exact renders_of_folded hok hname hvalue (fun c hc => hok c (hrest c hc))
    (folded_fold hne hspace)

/-- A line that is never folded: a keyword and a name. -/
theorem renders_keyword {text : String} (hspace : text.toList.head? ≠ some ' ')
    (htext : ∀ c ∈ text.toList, ok c) :
    Renders ok [(name ++ ": " ++ text).toList] [.field ⟨Text.foldCase name, .text text⟩] := by
  have hline : (name ++ ": " ++ text).toList = name.toList ++ ':' :: ' ' :: text.toList := by
    simp [String.toList_append]
  obtain ⟨hne, hhead⟩ := hname.head_append (':' :: ' ' :: text.toList)
  rw [hline]
  exact renders_of_folded hok hname (denotes_text hspace)
    (List.forall_mem_cons.2 ⟨hok ' ' (by decide), htext⟩) (.single hne hhead)

end

end DirectoryClient.Ldif
