import DirectoryClient.Text.Blank
import Mathlib.Data.List.DropRight

/-!
# Trimming what is not blank

A text without blank characters is left as it is by trimming, and a space in
front of it is taken off. At the end, trimming takes off all that is blank and
nothing else.
-/

namespace DirectoryClient.Text

theorem dropWhile_isBlank_of_notBlank {cs : List Char} (h : ∀ c ∈ cs, isBlank c = false) :
    cs.dropWhile isBlank = cs := by
  cases cs with
  | nil => rfl
  | cons c rest => exact List.dropWhile_cons_of_neg (by simp [h c])

theorem trim_of_notBlank {cs : List Char} (h : ∀ c ∈ cs, isBlank c = false) : trim cs = cs := by
  have hrev : ∀ c ∈ cs.reverse, isBlank c = false := by simpa using h
  rw [trim, trimStart, dropWhile_isBlank_of_notBlank h, trimEnd,
    dropWhile_isBlank_of_notBlank hrev, List.reverse_reverse]

theorem trim_space_cons (cs : List Char) : trim (' ' :: cs) = trim cs := by
  rw [trim, trim, trimStart, trimStart, List.dropWhile_cons_of_pos (by decide)]

theorem isBlank_of_toNat {c : Char} (h : 33 ≤ c.toNat ∧ c.toNat ≤ 126) : isBlank c = false := by
  simp [isBlank]
  omega

/-! ## The end of a text -/

/-- Whether a text does not end in a blank character. -/
def EndsInPrint (cs : List Char) : Prop := ∀ c, cs.getLast? = some c → isBlank c = false

theorem trimEnd_eq_rdropWhile (cs : List Char) : trimEnd cs = cs.rdropWhile isBlank := rfl

theorem endsInPrint_concat {cs : List Char} {c : Char} (h : isBlank c = false) :
    EndsInPrint (cs ++ [c]) := by
  intro d hd
  rw [List.getLast?_concat] at hd
  cases hd
  exact h

theorem trimEnd_of_endsInPrint {cs : List Char} (h : EndsInPrint cs) : trimEnd cs = cs := by
  rw [trimEnd_eq_rdropWhile, List.rdropWhile_eq_self_iff]
  intro hne
  rw [h _ (List.getLast?_eq_some_getLast hne)]
  decide

theorem trimEnd_append {cs blanks : List Char} (h : ∀ c ∈ blanks, isBlank c = true) :
    trimEnd (cs ++ blanks) = trimEnd cs := by
  rw [trimEnd, List.reverse_append, List.dropWhile_append_of_pos, trimEnd]
  intro c hc
  exact h c (List.mem_reverse.1 hc)

theorem endsInPrint_trimEnd (cs : List Char) : EndsInPrint (trimEnd cs) := by
  intro c hc
  rw [trimEnd_eq_rdropWhile] at hc
  have hne : cs.rdropWhile isBlank ≠ [] := by
    intro hnil
    rw [hnil] at hc
    cases hc
  rw [List.getLast?_eq_some_getLast hne] at hc
  cases hc
  exact Bool.eq_false_iff.2 (List.rdropWhile_last_not isBlank cs hne)

/-- Nothing but blanks is taken off. -/
theorem exists_trimEnd_append (cs : List Char) :
    ∃ blanks, cs = trimEnd cs ++ blanks ∧ ∀ c ∈ blanks, isBlank c = true :=
  ⟨cs.rtakeWhile isBlank, List.rdropWhile_append_rtakeWhile.symm,
    fun _ hc => List.mem_rtakeWhile_imp hc⟩

theorem trimEnd_eq_iff {cs front : List Char} :
    trimEnd cs = front ↔
      EndsInPrint front ∧ ∃ blanks, cs = front ++ blanks ∧ ∀ c ∈ blanks, isBlank c = true := by
  constructor
  · rintro rfl
    exact ⟨endsInPrint_trimEnd cs, exists_trimEnd_append cs⟩
  · rintro ⟨hfront, blanks, rfl, hblanks⟩
    rw [trimEnd_append hblanks, trimEnd_of_endsInPrint hfront]

end DirectoryClient.Text
