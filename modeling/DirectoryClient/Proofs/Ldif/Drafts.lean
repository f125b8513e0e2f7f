import DirectoryClient.Ldif.Reader
import DirectoryClient.Proofs.Except
import DirectoryClient.Proofs.Record.Names

/-!
# What a draft takes in

All that a line can do to a draft is said once, by `Draft.accept_cases`: nothing
at all, to end an edit, to be the version, or to be a field that the phase lets
in. What holds of a draft however it came about is read off these four cases. A
draft has begun, or is the empty one; and no two attributes of its record have
the same name, so neither have two of any record that a reader hands out.
-/

namespace DirectoryClient

namespace Ldif

/-! ## One line -/

/-- What a draft is after a line that it takes in. -/
theorem Draft.accept_cases {seen seen' : Bool} {line : List Char} {d d' : Draft}
    (h : d.accept seen line = .ok (d', seen')) :
    (d' = d ∧ seen' = seen) ∨
      (∃ e, d.phase = .edit e ∧ seen' = seen ∧
        d' = { d with record.edits := d.record.edits ++ [e], phase := .modification }) ∨
      (∃ value, d.phase = .start ∧ checkVersion seen value = .ok () ∧ d' = d ∧ seen' = true) ∨
      (∃ f record phase, acceptField d.record f d.phase = .ok (record, phase) ∧
        d' = ⟨record, phase, true⟩ ∧ seen' = seen) := by
  rw [accept] at h
  split at h
  · cases h
    exact Or.inl ⟨rfl, rfl⟩
  · split at h
    · obtain ⟨d₁, hseparate, heq⟩ := Except.map_eq_ok_iff.1 h
      cases heq
      rw [separate] at hseparate
      split at hseparate
      · next e hphase =>
          cases hseparate
          exact Or.inr (Or.inl ⟨e, hphase, rfl, rfl⟩)
      · cases hseparate
    · obtain ⟨f, -, hfield⟩ := Except.bind_eq_ok_iff.1 h
      split at hfield
      · next hversion =>
          obtain ⟨u, hcheck, heq⟩ := Except.bind_eq_ok_iff.1 hfield
          cases heq
          exact Or.inr (Or.inr (Or.inl ⟨f.value, hversion.2, hcheck, rfl, rfl⟩))
      · obtain ⟨⟨record, phase⟩, haccept, heq⟩ := Except.bind_eq_ok_iff.1 hfield
        cases heq
        exact Or.inr (Or.inr (Or.inr ⟨f, record, phase, haccept, rfl, rfl⟩))

theorem Draft.accept_begun {seen seen' : Bool} {line : List Char} {d d' : Draft}
    (hd : d.begun = true) (h : d.accept seen line = .ok (d', seen')) : d'.begun = true := by
  rcases accept_cases h with ⟨rfl, -⟩ | ⟨e, -, -, rfl⟩ | ⟨value, -, -, rfl, -⟩ |
    ⟨f, record, phase, -, rfl, -⟩
  · exact hd
  · exact hd
  · exact hd
  · rfl

/-- A draft that has not begun is the empty one. -/
theorem Draft.accept_fresh {seen seen' : Bool} {line : List Char} {d d' : Draft}
    (hd : d.begun = true ∨ d = Draft.empty) (h : d.accept seen line = .ok (d', seen')) :
    d'.begun = true ∨ d' = Draft.empty := by
  rcases accept_cases h with ⟨rfl, -⟩ | ⟨e, hphase, -, rfl⟩ | ⟨value, -, -, rfl, -⟩ |
    ⟨f, record, phase, -, rfl, -⟩
  · exact hd
  · -- a separator needs an edit, and the empty draft has none
    rcases hd with hd | rfl
    · exact Or.inl hd
    · cases hphase
  · exact hd
  · exact Or.inl rfl

/-! ## Distinct names -/

theorem Draft.namesDistinct_changing {r r' : Record} {kind : String} {phase : Phase}
    (hr : r.NamesDistinct) (h : changing r kind = .ok (r', phase)) : r'.NamesDistinct := by
  simp only [changing] at h
  repeat' split at h
  all_goals cases h
  all_goals exact hr

theorem Draft.namesDistinct_acceptField {r r' : Record} {f : Field} {phase phase' : Phase}
    (hr : r.NamesDistinct) (h : acceptField r f phase = .ok (r', phase')) :
    r'.NamesDistinct := by
  match phase, h with
  | .start, h =>
      rw [acceptField] at h
      split at h
      · obtain ⟨dn, -, heq⟩ := Except.map_eq_ok_iff.1 h
        cases heq
        exact hr
      · cases h
  | .named, h =>
      rw [acceptField] at h
      split at h
      · cases h
      · split at h
        · obtain ⟨kind, -, hchange⟩ := Except.bind_eq_ok_iff.1 h
          exact namesDistinct_changing hr hchange
        · cases h
          exact hr.addValue f.name f.value
  | .content, h =>
      cases h
      exact hr.addValue f.name f.value
  | .deletion, h | .renaming, h => cases h
  | .modification, h =>
      obtain ⟨e, -, heq⟩ := Except.map_eq_ok_iff.1 h
      cases heq
      exact hr
  | .edit e, h =>
      rw [acceptField] at h
      split at h
      · cases h
        exact hr
      · cases h

theorem Draft.namesDistinct_accept {seen seen' : Bool} {line : List Char} {d d' : Draft}
    (hd : d.record.NamesDistinct) (h : d.accept seen line = .ok (d', seen')) :
    d'.record.NamesDistinct := by
  rcases accept_cases h with ⟨rfl, -⟩ | ⟨e, -, -, rfl⟩ | ⟨value, -, -, rfl, -⟩ |
    ⟨f, record, phase, hfield, rfl, -⟩
  · exact hd
  · exact hd
  · exact hd
  · exact namesDistinct_acceptField hd hfield

namespace Reader

theorem namesDistinct_of_finish {r r' : Reader} {d : Draft} {record : Record}
    (hd : d.record.NamesDistinct) (h : r.finish d = (.ok (some record), r')) :
    record.NamesDistinct := by
  rw [finish] at h
  split at h
  · next found hfin =>
      cases h
      rw [Draft.finish] at hfin
      split at hfin
      · cases hfin
      · split at hfin
        · cases hfin
          exact hd
        · cases hfin
  · cases h

/-- The induction is on the lines that the reader goes through; the draft carries
the names. -/
theorem namesDistinct_of_complete {r r' : Reader} {d : Draft} {record : Record}
    (hd : d.record.NamesDistinct) (h : r.complete d = (.ok (some record), r')) :
    record.NamesDistinct := by
  fun_induction complete r d with
  | case1 r d e r₁ hnext => cases h
  | case2 r d r₁ hnext => exact namesDistinct_of_finish hd h
  | case3 r d text r₁ hnext => exact namesDistinct_of_finish hd h
  | case4 r d text r₁ hnext _ _ _ ih => exact ih hd h
  | case5 => cases h
  | case6 r d text r₁ hnext _ _ d₁ seen hacc ih =>
      exact ih (Draft.namesDistinct_accept hd hacc) h

/-- No two attributes of a record that a reader hands out have the same name. -/
theorem namesDistinct_of_next {r r' : Reader} {record : Record}
    (h : r.next = (.ok (some record), r')) : record.NamesDistinct :=
  namesDistinct_of_complete (Record.namesDistinct_new "") h

end Reader

end Ldif

end DirectoryClient
