import DirectoryClient.Proofs.Text.Blank
import DirectoryClient.Text.Number
import Mathlib.Algebra.Group.Nat.Defs
import Mathlib.Data.List.Induction

/-!
# Reading back what was written

A word is written with its decimal digits and nothing else, and a truth value with
small letters. So neither begins with a sign, neither has blanks that trimming could
take off, and both are read back as what they were.

Rows of digits that are equally long are in the order of their numbers.
-/

namespace DirectoryClient.Text

theorem toList_ofWord (w : UInt64) : (ofWord w).toList = Nat.toDigits 10 w.toNat := by
  rw [ofWord, Nat.toString_eq_ofList_toDigits, String.toList_ofList]

theorem digitsValue_toDigits (n : Nat) : digitsValue (Nat.toDigits 10 n) = n := by
  have hvalue : digitsValue (Nat.toDigits 10 n) = Nat.ofDigitChars 10 (Nat.toDigits 10 n) 0 := by
    rw [digitsValue, Nat.ofDigitChars]
    simp only [Nat.mul_comm]
  rw [hvalue, Nat.ofDigitChars_ten_toDigits]

theorem natural?_toDigits (n : Nat) : natural? (Nat.toDigits 10 n) = some n := by
  have hdigits : (Nat.toDigits 10 n).all Char.isDigit = true := by
    rw [List.all_eq_true]
    intro c hc
    exact Nat.isDigit_of_mem_toDigits (by decide) (by decide) hc
  rw [natural?, hdigits, List.isEmpty_eq_false_iff.2 Nat.toDigits_ne_nil, digitsValue_toDigits]
  rfl

theorem word?_ofWord (w : UInt64) : word? (ofWord w).toList = some w := by
  have hsign : ∀ rest, Nat.toDigits 10 w.toNat ≠ '+' :: rest := by
    intro rest heq
    have hplus : '+' ∈ Nat.toDigits 10 w.toNat := by
      rw [heq]
      exact List.mem_cons_self
    exact absurd (Nat.isDigit_of_mem_toDigits (by decide) (by decide) hplus) (by decide)
  rw [toList_ofWord, word?, natural?_toDigits, Option.bind_eq_bind, Option.bind_some,
    if_pos w.toNat_lt, UInt64.ofNat_toNat]
  exact hsign

theorem isBlank_of_isDigit {c : Char} (h : c.isDigit = true) : isBlank c = false := by
  obtain ⟨hle, hge⟩ := Char.isDigit_iff_toNat.1 h
  exact isBlank_of_toNat ⟨Nat.le_trans (by decide) hle, Nat.le_trans hge (by decide)⟩

theorem trim_ofWord (w : UInt64) : trim (ofWord w).toList = (ofWord w).toList := by
  refine trim_of_notBlank fun c hc => ?_
  rw [toList_ofWord] at hc
  exact isBlank_of_isDigit (Nat.isDigit_of_mem_toDigits (by decide) (by decide) hc)

theorem truth?_trim_ofTruth (b : Bool) : truth? (trim (ofTruth b).toList) = some b := by
  cases b <;> decide

/-! ## Rows of digits

The digits of a row count by their places, so of two rows that are equally long the one
with the greater number has the greater digit where they first differ. -/

/-- The number of a digit. -/
def digit (c : Char) : Nat := c.toNat - '0'.toNat

theorem digit_lt {c : Char} (h : c.isDigit = true) : digit c < 10 := by
  have hc : c.toNat ≤ 57 := (Char.isDigit_iff_toNat.1 h).2
  have hzero : '0'.toNat = 48 := rfl
  unfold digit
  omega

theorem digitsValue_append (as bs : List Char) :
    digitsValue (as ++ bs) = digitsValue as * 10 ^ bs.length + digitsValue bs := by
  induction bs using List.reverseRecOn with
  | nil => simp [digitsValue]
  | append_singleton init c ih =>
      have hlast : ∀ cs, digitsValue (cs ++ [c]) = digitsValue cs * 10 + digit c := by
        intro cs
        rw [digitsValue, List.foldl_append]
        rfl
      rw [← List.append_assoc, hlast, hlast, ih, List.length_append, List.length_singleton,
        Nat.pow_succ, Nat.add_mul, Nat.mul_assoc, Nat.add_assoc]

theorem digitsValue_cons (c : Char) (cs : List Char) :
    digitsValue (c :: cs) = digit c * 10 ^ cs.length + digitsValue cs := by
  have hone : digitsValue [c] = digit c := by simp [digitsValue, digit]
  rw [← List.singleton_append, digitsValue_append, hone]

theorem digitsValue_lt {cs : List Char} (h : ∀ c ∈ cs, c.isDigit = true) :
    digitsValue cs < 10 ^ cs.length := by
  induction cs with
  | nil => decide
  | cons c rest ih =>
      have hrest := ih fun d hd => h d (List.mem_cons_of_mem c hd)
      have hc := Nat.mul_le_mul_right (10 ^ rest.length)
        (Nat.le_of_lt_succ (digit_lt (h c List.mem_cons_self)))
      rw [digitsValue_cons, List.length_cons, Nat.pow_succ]
      omega

/-- The first digit decides, and the others only where it is the same. -/
theorem digitsValue_cons_lt_iff {a b : Char} {as bs : List Char} (hlength : as.length = bs.length)
    (has : ∀ c ∈ as, c.isDigit = true) (hbs : ∀ c ∈ bs, c.isDigit = true) :
    digitsValue (a :: as) < digitsValue (b :: bs) ↔
      digit a < digit b ∨ digit a = digit b ∧ digitsValue as < digitsValue bs := by
  have hltas := digitsValue_lt has
  have hltbs := digitsValue_lt hbs
  rw [digitsValue_cons, digitsValue_cons]
  rw [hlength] at hltas ⊢
  generalize 10 ^ bs.length = place at hltas hltbs
  rcases Nat.lt_trichotomy (digit a) (digit b) with h | h | h
  · have hplace := Nat.mul_le_mul_right place (Nat.succ_le_of_lt h)
    rw [Nat.succ_mul] at hplace
    omega
  · rw [h]
    omega
  · have hplace := Nat.mul_le_mul_right place (Nat.succ_le_of_lt h)
    rw [Nat.succ_mul] at hplace
    omega

end DirectoryClient.Text
