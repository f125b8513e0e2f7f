import DirectoryClient.Ldif.Fold
import DirectoryClient.Proofs.Ldif.Batch

/-!
# Folding and joining

Joining undoes folding, wherever the cuts are. `Folded` says that some physical
lines are a folding of some logical ones: the first piece of each is not blank
and does not begin with a space, and the further pieces, which may be blank,
follow a space each. `fold` is one way to do it, and leaving a line as it is
another.

Foldings are put one behind the other, so a text is known to be joined to the
lines that it was made of as soon as each part of it is.
-/

namespace DirectoryClient.Ldif

/-- The physical lines, first of the two, are a folding of the logical ones. -/
inductive Folded : List (List Char) → List (List Char) → Prop
  | nil : Folded [] []
  | cons {first : List Char} {pieces physical logical : List (List Char)} :
      first ≠ [] → first.head? ≠ some ' ' → Folded physical logical →
        Folded (first :: (pieces.map (' ' :: ·) ++ physical)) ((first ++ pieces.flatten) :: logical)

namespace Folded

theorem single {line : List Char} (hne : line ≠ []) (hspace : line.head? ≠ some ' ') :
    Folded [line] [line] := by
  have h := @cons line [] [] [] hne hspace nil
  simpa only [List.flatten_nil, List.append_nil, List.map_nil] using h

theorem append {ps qs ls ms : List (List Char)} (h : Folded ps ls) (h' : Folded qs ms) :
    Folded (ps ++ qs) (ls ++ ms) := by
  induction h with
  | nil => exact h'
  | cons hne hspace _ ih =>
      rw [List.cons_append, List.append_assoc]
      exact cons hne hspace ih

/-- Folding adds no characters but spaces. -/
theorem mem {ps ls : List (List Char)} (h : Folded ps ls) {p : List Char} (hp : p ∈ ps) {c : Char}
    (hc : c ∈ p) (hne : c ≠ ' ') : ∃ l ∈ ls, c ∈ l := by
  induction h with
  | nil => cases hp
  | @cons first pieces physical logical _ _ _ ih =>
      rcases List.mem_cons.1 hp with rfl | hp
      · exact ⟨_, List.mem_cons_self, List.mem_append_left _ hc⟩
      · rcases List.mem_append.1 hp with hpiece | hmore
        · obtain ⟨piece, hmem, rfl⟩ := List.mem_map.1 hpiece
          have hcpiece : c ∈ piece := (List.mem_cons.1 hc).resolve_left hne
          refine ⟨_, List.mem_cons_self, List.mem_append_right _ ?_⟩
          exact List.mem_flatten.2 ⟨piece, hmem, hcpiece⟩
        · obtain ⟨l, hl, hcl⟩ := ih hmore
          exact ⟨l, List.mem_cons_of_mem _ hl, hcl⟩

end Folded

/-! ## The writer's cuts -/

theorem pieces_flatten (cs : List Char) : (pieces cs).flatten = cs := by
  fun_induction pieces cs with
  | case1 => rfl
  | case2 c rest _ ih => rw [List.flatten_cons, ih, cutAt_append]

theorem folded_fold {line : List Char} (hne : line ≠ []) (hspace : line.head? ≠ some ' ') :
    Folded (fold line) [line] := by
  obtain ⟨c, rest, rfl⟩ := List.exists_cons_of_ne_nil hne
  have hwide : c.utf8Size ≤ lineWidth := Nat.le_trans c.utf8Size_le_four (by decide)
  have hfirst : (cutAt lineWidth (c :: rest)).1 =
      c :: (cutAt (lineWidth - c.utf8Size) rest).1 := by
    rw [cutAt, if_pos hwide]
  have hcut := cutAt_append lineWidth (c :: rest)
  have hfolded : Folded ((cutAt lineWidth (c :: rest)).1 ::
      ((pieces (cutAt lineWidth (c :: rest)).2).map (' ' :: ·) ++ []))
      [(cutAt lineWidth (c :: rest)).1 ++ (pieces (cutAt lineWidth (c :: rest)).2).flatten] := by
    refine .cons ?_ ?_ .nil
    · rw [hfirst]
      simp
    · rw [hfirst]
      exact hspace
  rwa [pieces_flatten, hcut, List.append_nil] at hfolded

/-! ## Joining -/

theorem numbered_append (n : Nat) (texts more : List (List Char)) :
    numbered n (texts ++ more) = numbered n texts ++ numbered (n + texts.length) more := by
  induction texts generalizing n with
  | nil => rfl
  | cons text rest ih =>
      rw [List.cons_append, numbered, numbered, ih, List.cons_append, List.length_cons]
      congr 3
      omega

theorem continues_of_mem_numbered (n : Nat) (pieces : List (List Char)) :
    ∀ l ∈ numbered n (pieces.map (' ' :: ·)), l.continues = true := by
  induction pieces generalizing n with
  | nil =>
      intro l hl
      cases hl
  | cons piece rest ih =>
      intro l hl
      rcases List.mem_cons.1 hl with rfl | hl
      · rfl
      · exact ih _ l hl

theorem flatMap_tail_numbered (n : Nat) (pieces : List (List Char)) :
    (numbered n (pieces.map (' ' :: ·))).flatMap (·.text.tail) = pieces.flatten := by
  induction pieces generalizing n with
  | nil => rfl
  | cons piece rest ih =>
      rw [List.map_cons, numbered, List.flatMap_cons, ih, List.flatten_cons]
      rfl

/-- No folding begins with a line that goes on with the one before. -/
theorem Folded.continues_head? {ps ls : List (List Char)} (h : Folded ps ls) (n : Nat)
    {rest : List Line} (hrest : ∀ l ∈ rest.head?, l.continues = false) :
    ∀ l ∈ (numbered n ps ++ rest).head?, l.continues = false := by
  cases h with
  | nil => exact hrest
  | cons _ hspace _ =>
      intro l hl
      cases hl
      simpa [Line.continues] using hspace

theorem takeWhile_continues {front back : List Line} (hfront : ∀ l ∈ front, l.continues = true)
    (hback : ∀ l ∈ back.head?, l.continues = false) :
    (front ++ back).takeWhile Line.continues = front ∧
      (front ++ back).dropWhile Line.continues = back := by
  rw [List.takeWhile_append_of_pos hfront, List.dropWhile_append_of_pos hfront]
  cases back with
  | nil => simp
  | cons l rest =>
      have hl : ¬ l.continues = true := by simp [hback l rfl]
      rw [List.takeWhile_cons_of_neg hl, List.dropWhile_cons_of_neg hl, List.append_nil]
      exact ⟨rfl, rfl⟩

/-- A folding is joined to what was folded, whatever follows it. -/
theorem Folded.joined_eq {ps ls : List (List Char)} (h : Folded ps ls) (n : Nat)
    {rest : List Line} (hrest : ∀ l ∈ rest.head?, l.continues = false) :
    ∃ block : List Line, joined (numbered n ps ++ rest) = block ++ joined rest ∧
      block.map Line.text = ls ∧ (∀ l ∈ block, l.isBlank = false) ∧
      ∀ l ∈ block, l.continues = false := by
  induction h generalizing n with
  | nil => exact ⟨[], rfl, rfl, by simp, by simp⟩
  | @cons first pieces physical logical hne hspace hmore ih =>
      have hblank : (Line.mk n first).isBlank = false := by simpa [Line.isBlank] using hne
      have hback := hmore.continues_head? (n + 1 + (pieces.map (' ' :: ·)).length) hrest
      obtain ⟨htake, hdrop⟩ :=
        takeWhile_continues (continues_of_mem_numbered (n + 1) pieces) hback
      obtain ⟨block, hjoined, htexts, hblanks, hcontinues⟩ :=
        ih (n + 1 + (pieces.map (' ' :: ·)).length)
      refine ⟨⟨n, first ++ pieces.flatten⟩ :: block, ?_, by rw [List.map_cons, htexts], ?_, ?_⟩
      · rw [numbered, numbered_append, List.cons_append, List.append_assoc, joined_cons hblank,
          htake, hdrop, flatMap_tail_numbered, hjoined, List.cons_append]
      · refine List.forall_mem_cons.2 ⟨?_, hblanks⟩
        simp [Line.isBlank, hne]
      · refine List.forall_mem_cons.2 ⟨?_, hcontinues⟩
        rw [continues_append hne]
        simpa [Line.continues] using hspace

end DirectoryClient.Ldif
