import DirectoryClient.DistinguishedName
import DirectoryClient.Proofs.Text.Blank
import DirectoryClient.Proofs.Text.Offsets

/-!
# Cutting a base off a name

To be below a base is to consist of a name, a comma and the base; blanks may stand
around the comma, and the base may be spelled in any case. `relative_cases` says that
the name relative to a base is that name and nothing else: it is empty for the base
itself, and what is neither the base nor below it is kept whole.

The offset at which the base has to begin is computed from sizes in octets, and may
turn out to be inside a character. There is no tail then, so nothing was below the
base either: a tail that is the base in another case would begin at that offset.
-/

namespace DirectoryClient.DistinguishedName

/-- Whether `dn` consists of a name and a base, with a comma between them. -/
def IsBelow (base name dn : String) : Prop :=
  ∃ blanks blanks' tail : String, dn = name ++ blanks ++ "," ++ blanks' ++ tail ∧
    Text.sameName tail base = true ∧
    (∀ c ∈ blanks.toList, Text.isBlank c = true) ∧
    (∀ c ∈ blanks'.toList, Text.isBlank c = true) ∧ Text.EndsInPrint name.toList

/-! ## The parts of the cut -/

theorem before?_eq_some_iff {base dn : String} {head : List Char} :
    before? base dn = some head ↔
      ∃ tail : String, dn = String.ofList head ++ tail ∧ Text.sameName tail base = true := by
  rw [before?]
  constructor
  · intro h
    split at h
    · split at h
      · next head' tail hsplit =>
          obtain ⟨happ, -⟩ := Text.splitAt?_eq_some_iff.1 hsplit
          split at h
          · next hsame =>
              cases h
              refine ⟨String.ofList tail, ?_, hsame⟩
              rw [← String.ofList_append, ← happ, String.ofList_toList]
          · cases h
      · cases h
    · cases h
  · rintro ⟨tail, rfl, hsame⟩
    have hsize := Text.utf8ByteSize_of_sameName hsame
    rw [String.utf8ByteSize_append, hsize, if_pos (Nat.le_add_left _ _), Nat.add_sub_cancel,
      String.toList_append, String.toList_ofList, Text.splitAt?_append]
    simp only [String.ofList_toList, hsame, if_true]

theorem withoutComma?_eq_some_iff {cs front : List Char} :
    withoutComma? cs = some front ↔ cs = front ++ [','] := by
  rw [withoutComma?]
  constructor
  · intro h
    split at h
    · next hlast =>
        obtain ⟨init, rfl⟩ := List.getLast?_eq_some_iff.1 hlast
        rw [List.dropLast_concat] at h
        cases h
        rfl
    · cases h
  · rintro rfl
    rw [if_pos List.getLast?_concat, List.dropLast_concat]

/-- A comma is found behind which there are only blanks. -/
theorem withoutComma?_trimEnd_eq_some_iff {cs front : List Char} :
    withoutComma? (Text.trimEnd cs) = some front ↔
      ∃ blanks, cs = front ++ ',' :: blanks ∧ ∀ c ∈ blanks, Text.isBlank c = true := by
  have hprint : Text.EndsInPrint (front ++ [',']) := Text.endsInPrint_concat (by decide)
  rw [withoutComma?_eq_some_iff, Text.trimEnd_eq_iff, and_iff_right hprint]
  simp only [List.append_assoc, List.singleton_append]

/-! ## The name -/

/-- The text in front of the comma, with the blanks that follow the name. -/
theorem bind_before?_eq_some_iff {base dn : String} {front : List Char} :
    (before? base dn).bind (withoutComma? ∘ Text.trimEnd) = some front ↔
      ∃ blanks tail : String, dn = String.ofList front ++ "," ++ blanks ++ tail ∧
        Text.sameName tail base = true ∧ ∀ c ∈ blanks.toList, Text.isBlank c = true := by
  rw [Option.bind_eq_some_iff]
  constructor
  · rintro ⟨head, hhead, hfront⟩
    obtain ⟨tail, rfl, hsame⟩ := before?_eq_some_iff.1 hhead
    obtain ⟨blanks, rfl, hblanks⟩ := withoutComma?_trimEnd_eq_some_iff.1 hfront
    refine ⟨String.ofList blanks, tail, ?_, hsame, by rwa [String.toList_ofList]⟩
    exact String.toList_inj.1 (by simp)
  · rintro ⟨blanks, tail, rfl, hsame, hblanks⟩
    refine ⟨front ++ ',' :: blanks.toList, before?_eq_some_iff.2 ⟨tail, ?_, hsame⟩,
      withoutComma?_trimEnd_eq_some_iff.2 ⟨_, rfl, hblanks⟩⟩
    exact String.toList_inj.1 (by simp)

theorem isBelow_iff {base name dn : String} :
    IsBelow base name dn ↔
      ∃ front, (before? base dn).bind (withoutComma? ∘ Text.trimEnd) = some front ∧
        Text.trimEnd front = name.toList := by
  simp only [bind_before?_eq_some_iff, Text.trimEnd_eq_iff]
  constructor
  · rintro ⟨blanks, blanks', tail, rfl, hsame, hblanks, hblanks', hprint⟩
    refine ⟨name.toList ++ blanks.toList, ⟨blanks', tail, ?_, hsame, hblanks'⟩,
      hprint, blanks.toList, rfl, hblanks⟩
    rw [String.ofList_append, String.ofList_toList, String.ofList_toList]
  · rintro ⟨front, ⟨blanks', tail, rfl, hsame, hblanks'⟩, hprint, blanks, rfl, hblanks⟩
    refine ⟨String.ofList blanks, blanks', tail, ?_, hsame, by rwa [String.toList_ofList],
      hblanks', hprint⟩
    rw [String.ofList_append, String.ofList_toList]

/-- What is below a base is longer than the base. -/
theorem IsBelow.sameName_eq_false {base name dn : String} (h : IsBelow base name dn) :
    Text.sameName dn base = false := by
  obtain ⟨blanks, blanks', tail, rfl, hsame, -⟩ := h
  refine Bool.eq_false_iff.2 fun hdn => ?_
  have hsize := Text.utf8ByteSize_of_sameName hdn
  rw [← Text.utf8ByteSize_of_sameName hsame] at hsize
  simp only [String.utf8ByteSize_append] at hsize
  have hcomma : (",").utf8ByteSize = 1 := rfl
  omega

theorem relative_of_ne {base : String} (hbase : base ≠ "") (dn : String) :
    relative dn base =
      if Text.sameName dn base then ""
      else
        match (before? base dn).bind (withoutComma? ∘ Text.trimEnd) with
        | some name => String.ofList (Text.trimEnd name)
        | none => dn := by
  have hne : ¬ base.isEmpty = true := by simpa using hbase
  exact if_neg hne

theorem relative_of_isBelow {base name dn : String} (hbase : base ≠ "")
    (h : IsBelow base name dn) : relative dn base = name := by
  obtain ⟨front, hfront, hname⟩ := isBelow_iff.1 h
  rw [relative_of_ne hbase, h.sameName_eq_false, if_neg Bool.false_ne_true, hfront]
  simp only [hname, String.ofList_toList]

theorem relative_of_sameName {base dn : String} (hbase : base ≠ "")
    (h : Text.sameName dn base = true) : relative dn base = "" := by
  rw [relative_of_ne hbase, if_pos h]

theorem relative_of_not_isBelow {base dn : String} (hbase : base ≠ "")
    (h : ∀ name, ¬ IsBelow base name dn) (hsame : Text.sameName dn base = false) :
    relative dn base = dn := by
  rw [relative_of_ne hbase, hsame, if_neg Bool.false_ne_true]
  cases hfront : (before? base dn).bind (withoutComma? ∘ Text.trimEnd) with
  | none => rfl
  | some front =>
      refine absurd (isBelow_iff.2 ⟨front, hfront, ?_⟩) (h (String.ofList (Text.trimEnd front)))
      rw [String.toList_ofList]

theorem relative_of_empty (dn : String) : relative dn "" = dn := rfl

/-- What a name is turned into is what stands at its beginning. -/
theorem exists_eq_relative_append (dn base : String) : ∃ rest, dn = relative dn base ++ rest := by
  by_cases hbase : base = ""
  · subst hbase
    exact ⟨"", (String.append_empty).symm⟩
  · by_cases hbelow : ∃ name, IsBelow base name dn
    · obtain ⟨name, hname⟩ := hbelow
      rw [relative_of_isBelow hbase hname]
      obtain ⟨blanks, blanks', tail, rfl, -⟩ := hname
      exact ⟨blanks ++ "," ++ blanks' ++ tail, by simp only [String.append_assoc]⟩
    · cases hsame : Text.sameName dn base with
      | true => exact ⟨dn, by rw [relative_of_sameName hbase hsame, String.empty_append]⟩
      | false =>
          refine ⟨"", ?_⟩
          rw [relative_of_not_isBelow hbase (not_exists.1 hbelow) hsame, String.append_empty]

/-- The name relative to a base undoes that a name was put in front of the base. Exactly
one of three cases applies: what is below the base gives the name that was put in front,
the base in any case gives nothing, and all else is kept. What comes out always stands
at the beginning, and the text is cut between two characters or not at all, whatever the
sizes of name and base. -/
theorem relative_cases (dn base : String) :
    (base = "" → relative dn base = dn) ∧
    (base ≠ "" →
      (∀ name, IsBelow base name dn → relative dn base = name) ∧
      (Text.sameName dn base = true → relative dn base = "") ∧
      ((∀ name, ¬ IsBelow base name dn) → Text.sameName dn base = false →
        relative dn base = dn) ∧
      ∀ name, ¬ (IsBelow base name dn ∧ Text.sameName dn base = true)) ∧
    (∃ rest, dn = relative dn base ++ rest) ∧
    ∀ head tail, Text.splitAt? (dn.utf8ByteSize - base.utf8ByteSize) dn.toList =
        some (head, tail) ↔
      dn = String.ofList head ++ String.ofList tail ∧
        (String.ofList head).utf8ByteSize = dn.utf8ByteSize - base.utf8ByteSize := by
  refine ⟨?_, fun hbase => ⟨?_, ?_, ?_, ?_⟩, exists_eq_relative_append dn base, ?_⟩
  · rintro rfl
    exact relative_of_empty dn
  · intro name hname
    exact relative_of_isBelow hbase hname
  · exact relative_of_sameName hbase
  · exact relative_of_not_isBelow hbase
  · rintro name ⟨hbelow, hsame⟩
    rw [hbelow.sameName_eq_false] at hsame
    cases hsame
  · intro head tail
    rw [Text.splitAt?_eq_some_iff, ← String.ofList_append, ← String.toList_inj,
      String.toList_ofList]

/-- Blanks of any kind may stand around the comma, and the case of other letters counts. -/
example :
    relative "cn=é\u00a0, DC=é" "dc=é" = "cn=é" ∧ relative "cn=a,dc=É" "dc=é" = "cn=a,dc=É" ∧
      relative "cn=€c=é" "dc=é" = "cn=€c=é" := by decide +kernel

end DirectoryClient.DistinguishedName
