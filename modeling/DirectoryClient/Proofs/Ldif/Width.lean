import DirectoryClient.Proofs.Ldif.Rendering
import DirectoryClient.Proofs.Ldif.PhysicalLines

/-!
# What written lines look like

A record is written as lines with something on them and one blank line behind
them: `Record.split_toLdif`. Folding keeps every line for a value within
`lineWidth`, however long its name is, because it cuts names and values alike.

There is one kind of line that is not folded and has a part that may be long: the
heading of an edit, which names the attribute that the edit is about. So whether
all lines of a record keep within the width is a matter of its headings alone.
-/

namespace DirectoryClient

open Ldif

namespace Ldif

/-- The octets that a line takes. -/
def width (line : List Char) : Nat := (Text.bytes (String.ofList line)).length

@[simp] theorem width_nil : width [] = 0 := by
  rw [width, Text.bytes_ofList]
  rfl

@[simp] theorem width_cons (c : Char) (rest : List Char) :
    width (c :: rest) = c.utf8Size + width rest := by
  simp only [width, Text.bytes_ofList, List.flatMap_cons, List.length_append,
    String.length_utf8EncodeChar]

/-! ## Folding

The induction is on what is cut; the room that is left shrinks with each
character that is taken. -/

theorem width_cutAt_le (room : Nat) (cs : List Char) : width (cutAt room cs).1 ≤ room := by
  induction cs generalizing room with
  | nil => simp [cutAt]
  | cons c rest ih =>
      rw [cutAt]
      split
      · next hc =>
          have hrest := ih (room - c.utf8Size)
          rw [width_cons]
          omega
      · simp

/-- Where there is room for any character, something is cut off. -/
theorem cutAt_ne_nil {room : Nat} (hroom : 4 ≤ room) {cs : List Char} (hcs : cs ≠ []) :
    (cutAt room cs).1 ≠ [] := by
  obtain ⟨c, rest, rfl⟩ := List.exists_cons_of_ne_nil hcs
  rw [cutAt, if_pos (Nat.le_trans c.utf8Size_le_four hroom)]
  exact List.cons_ne_nil _ _

theorem pieces_fit (cs : List Char) :
    ∀ piece ∈ pieces cs, piece ≠ [] ∧ width piece ≤ lineWidth - 1 := by
  fun_induction pieces cs with
  | case1 => exact List.forall_mem_nil _
  | case2 c rest _ ih =>
      refine List.forall_mem_cons.2 ⟨⟨?_, width_cutAt_le _ _⟩, ih⟩
      exact cutAt_ne_nil (by decide) (List.cons_ne_nil c rest)

/-- A line with something on it, no line feed, and no more than there is room for. -/
structure Neat (line : List Char) : Prop where
  ne_nil : line ≠ []
  unbroken : '\n' ∉ line
  width_le : width line ≤ lineWidth

/-- Folding adds no characters but spaces. -/
theorem mem_of_mem_fold {line l : List Char} (hl : l ∈ fold line) {c : Char} (hc : c ∈ l)
    (hspace : c ≠ ' ') : c ∈ line := by
  rw [← cutAt_append lineWidth line]
  rcases List.mem_cons.1 hl with rfl | hl
  · exact List.mem_append_left _ hc
  · obtain ⟨piece, hpiece, rfl⟩ := List.mem_map.1 hl
    have hmem : c ∈ piece := (List.mem_cons.1 hc).resolve_left hspace
    refine List.mem_append_right _ ?_
    rw [← pieces_flatten (cutAt lineWidth line).2]
    exact List.mem_flatten.2 ⟨piece, hpiece, hmem⟩

theorem neat_fold {line : List Char} (hne : line ≠ []) (hn : '\n' ∉ line) :
    ∀ l ∈ fold line, Neat l := by
  intro l hl
  have hunbroken : '\n' ∉ l := fun hc => hn (mem_of_mem_fold hl hc (by decide))
  rcases List.mem_cons.1 hl with rfl | hl
  · exact ⟨cutAt_ne_nil (by decide) hne, hunbroken, width_cutAt_le _ _⟩
  · obtain ⟨piece, hpiece, rfl⟩ := List.mem_map.1 hl
    have hwidth := (pieces_fit _ piece hpiece).2
    have hspace : Char.utf8Size ' ' = 1 := by decide
    have hroom : lineWidth = 80 := rfl
    refine ⟨List.cons_ne_nil _ _, hunbroken, ?_⟩
    rw [width_cons, hspace]
    omega

/-- The lines for a value are neat, whatever the value is. -/
theorem neat_valueLines {name : String} (hname : '\n' ∉ name.toList) (value : Bytes) :
    ∀ l ∈ valueLines name value, Neat l := by
  obtain ⟨rest, hline, -, hrest⟩ := exists_valueLine_eq name value
  rw [valueLines, hline]
  refine neat_fold (by simp) fun hc => ?_
  rcases List.mem_append.1 hc with hc | hc
  · exact hname hc
  · have hrest' : '\n' ∉ rest := fun hmem => absurd (hrest _ hmem) (by decide)
    exact hrest' ((List.mem_cons.1 hc).resolve_left (by decide))

end Ldif

/-! ## The lines of a record -/

/-- The line that an edit begins with. -/
def Edit.heading (e : Edit) : List Char := (e.kind.keyword ++ ": " ++ e.name).toList

/-- The headings of the edits that are written. -/
def Record.headings (r : Record) : List (List Char) :=
  if r.writtenChange = some .modify then r.edits.map Edit.heading else []

theorem Attribute.neat_lines {a : Attribute} (h : '\n' ∉ a.name.toList) :
    ∀ l ∈ a.lines, Neat l := by
  intro l hl
  obtain ⟨v, -, hl⟩ := List.mem_flatMap.1 hl
  exact neat_valueLines h v.bytes l hl

theorem Edit.heading_ne_nil (e : Edit) : e.heading ≠ [] := by
  simp [heading, String.toList_append]

theorem Edit.newline_notMem_heading {e : Edit} (h : '\n' ∉ e.name.toList) : '\n' ∉ e.heading := by
  have hkeyword : '\n' ∉ (e.kind.keyword ++ ": ").toList := by
    cases e.kind <;> decide
  rw [heading, String.toList_append, List.mem_append, not_or]
  exact ⟨hkeyword, h⟩

theorem Edit.neat_lines {e : Edit} (h : '\n' ∉ e.name.toList) :
    ∀ l ∈ e.lines, l = e.heading ∨ Neat l := by
  intro l hl
  rcases List.mem_append.1 hl with hl | hl
  · rcases List.mem_cons.1 hl with rfl | hl
    · exact Or.inl rfl
    · obtain ⟨v, -, hl⟩ := List.mem_flatMap.1 hl
      exact Or.inr (neat_valueLines h v.bytes l hl)
  · obtain rfl := List.mem_singleton.1 hl
    exact Or.inr ⟨by decide, by decide, by decide⟩

theorem ChangeKind.neat_line (kind : ChangeKind) :
    Neat ("changetype: " ++ kind.keyword).toList := by
  cases kind <;> exact ⟨by decide, by decide, by decide⟩

namespace Record

/-- The lines in front of the blank one. -/
def writtenLines (r : Record) : List (List Char) :=
  valueLines "dn" (Text.bytes r.dn) ++
    (r.writtenChange.map fun kind => ("changetype: " ++ kind.keyword).toList).toList ++ r.bodyLines

theorem lines_eq (r : Record) : r.lines = r.writtenLines ++ [[]] := by
  unfold lines writtenLines
  cases r.writtenChange <;> rfl

theorem headings_subset (r : Record) : r.headings ⊆ r.writtenLines := by
  unfold headings
  split
  · next hchange =>
      intro l hl
      obtain ⟨e, he, rfl⟩ := List.mem_map.1 hl
      refine List.mem_append_right _ ?_
      simp only [bodyLines, hchange]
      exact List.mem_flatMap.2 ⟨e, he, List.mem_append_left _ List.mem_cons_self⟩
  · exact List.nil_subset _

section

variable {r : Record} (hattributes : ∀ a ∈ r.attributes, '\n' ∉ a.name.toList)
  (hedits : ∀ e ∈ r.edits, '\n' ∉ e.name.toList)

include hattributes hedits

theorem neat_bodyLines : ∀ l ∈ r.bodyLines, l ∈ r.headings ∨ Neat l := by
  have hcontent : ∀ l ∈ r.attributes.flatMap Attribute.lines, Neat l := by
    intro l hl
    obtain ⟨a, ha, hl⟩ := List.mem_flatMap.1 hl
    exact Attribute.neat_lines (hattributes a ha) l hl
  unfold bodyLines
  split
  · exact fun l hl => Or.inr (hcontent l hl)
  · exact fun l hl => Or.inr (hcontent l hl)
  · next hchange =>
      intro l hl
      obtain ⟨e, he, hl⟩ := List.mem_flatMap.1 hl
      rcases Edit.neat_lines (hedits e he) l hl with rfl | hneat
      · rw [headings, if_pos hchange]
        exact Or.inl (List.mem_map_of_mem he)
      · exact Or.inr hneat
  · nofun
  · nofun

/-- Every line in front of the blank one is neat, but for the headings of edits. -/
theorem neat_writtenLines : ∀ l ∈ r.writtenLines, l ∈ r.headings ∨ Neat l := by
  intro l hl
  rcases List.mem_append.1 hl with hl | hl
  · rcases List.mem_append.1 hl with hl | hl
    · exact Or.inr (neat_valueLines (by decide) _ l hl)
    · cases hchange : r.writtenChange with
      | none => simp [hchange] at hl
      | some kind =>
          rw [hchange] at hl
          obtain rfl := List.mem_singleton.1 hl
          exact Or.inr kind.neat_line
  · exact neat_bodyLines hattributes hedits l hl

theorem writtenLines_unbroken : ∀ l ∈ r.writtenLines, l ≠ [] ∧ '\n' ∉ l := by
  intro l hl
  rcases neat_writtenLines hattributes hedits l hl with hheading | hneat
  · rw [headings] at hheading
    split at hheading
    · obtain ⟨e, he, rfl⟩ := List.mem_map.1 hheading
      exact ⟨e.heading_ne_nil, Edit.newline_notMem_heading (hedits e he)⟩
    · cases hheading
  · exact ⟨hneat.ne_nil, hneat.unbroken⟩

/-- The lines are found again between the line feeds. -/
theorem split_lines :
    Text.split '\n' (String.ofList (r.lines.flatMap (· ++ ['\n']))).toList =
      r.writtenLines ++ [[], []] := by
  have hlines : ∀ l ∈ r.lines, '\n' ∉ l := by
    rw [lines_eq]
    refine List.forall_mem_append.2
      ⟨fun l hl => (writtenLines_unbroken hattributes hedits l hl).2, ?_⟩
    simp
  rw [String.toList_ofList, Text.split_terminated hlines, lines_eq, List.append_assoc]
  rfl

end

/-- A record that has a name, and no line feed in the names within, is written as
lines with something on them and then one blank line; nothing stands behind its
line feed. All lines but the headings of edits keep within the width, so all of
them do if and only if the headings do. -/
theorem split_toLdif {r : Record} (hdn : r.dn ≠ "")
    (hattributes : ∀ a ∈ r.attributes, '\n' ∉ a.name.toList)
    (hedits : ∀ e ∈ r.edits, '\n' ∉ e.name.toList) :
    ∃ written lines, r.toLdif = .ok written ∧
      Text.split '\n' written.toList = lines ++ [[], []] ∧ lines ≠ [] ∧
      (∀ l ∈ lines, l ≠ []) ∧
      (∀ l ∈ lines, width l ≤ lineWidth ∨ l ∈ r.headings) ∧
      ((∀ l ∈ lines, width l ≤ lineWidth) ↔ ∀ l ∈ r.headings, width l ≤ lineWidth) := by
  have hneat := neat_writtenLines hattributes hedits
  have hunbroken := writtenLines_unbroken hattributes hedits
  have hwidth : ∀ l ∈ r.writtenLines, width l ≤ lineWidth ∨ l ∈ r.headings := fun l hl =>
    (hneat l hl).symm.imp_left Neat.width_le
  refine ⟨_, r.writtenLines, by rw [toLdif, if_neg (by simpa using hdn)],
    split_lines hattributes hedits, ?_, fun l hl => (hunbroken l hl).1, hwidth,
    fun h l hl => h l (r.headings_subset hl), fun h l hl => (hwidth l hl).elim id (h l)⟩
  -- the first line is a piece of the name
  simp [writtenLines, valueLines, fold]

/-- A modification with a short name. -/
theorem split_toLdif_modify :
    let r : Record := { changeOf "cn=a" .modify with edits := [⟨.replace, "mail", [.text "b"]⟩] }
    (r.dn ≠ "" ∧ (∀ a ∈ r.attributes, '\n' ∉ a.name.toList) ∧
      ∀ e ∈ r.edits, '\n' ∉ e.name.toList) ∧
    ∃ written lines, r.toLdif = .ok written ∧
      Text.split '\n' written.toList = lines ++ [[], []] ∧ lines ≠ [] ∧
      (∀ l ∈ lines, l ≠ []) ∧ ∀ l ∈ lines, width l ≤ lineWidth := by
  intro r
  have hdn : r.dn ≠ "" := by decide
  have hattributes : ∀ a ∈ r.attributes, '\n' ∉ a.name.toList := by decide
  have hedits : ∀ e ∈ r.edits, '\n' ∉ e.name.toList := by decide
  obtain ⟨written, lines, hwritten, hsplit, hne, hlines, -, hwidth⟩ :=
    split_toLdif hdn hattributes hedits
  refine ⟨⟨hdn, hattributes, hedits⟩, written, lines, hwritten, hsplit, hne, hlines, ?_⟩
  exact hwidth.2 (by decide)

/-- The heading of an edit is not folded, so a name of 72 letters makes it too wide. -/
theorem split_toLdif_wide :
    let r : Record := { changeOf "cn=a" .modify with
      edits := [⟨.replace, String.ofList (List.replicate 72 'a'), []⟩] }
    (r.dn ≠ "" ∧ (∀ a ∈ r.attributes, '\n' ∉ a.name.toList) ∧
      ∀ e ∈ r.edits, '\n' ∉ e.name.toList) ∧
    ∃ written, r.toLdif = .ok written ∧
      ∃ l ∈ Text.split '\n' written.toList, lineWidth < width l := by
  intro r
  have hattributes : ∀ a ∈ r.attributes, '\n' ∉ a.name.toList := nofun
  have hedits : ∀ e ∈ r.edits, '\n' ∉ e.name.toList := by decide
  refine ⟨⟨by decide, hattributes, hedits⟩, _, by rw [toLdif, if_neg (by decide)], ?_⟩
  have hheading : Edit.heading ⟨.replace, String.ofList (List.replicate 72 'a'), []⟩ ∈ r.headings :=
    List.mem_singleton_self _
  rw [split_lines hattributes hedits]
  refine ⟨_, List.mem_append_left _ (r.headings_subset hheading), ?_⟩
  decide

end Record

end DirectoryClient
