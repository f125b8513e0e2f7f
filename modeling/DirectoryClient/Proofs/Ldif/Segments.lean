import DirectoryClient.Proofs.Ldif.Interruption
import DirectoryClient.Proofs.Ldif.Width
import DirectoryClient.Proofs.Text.Offsets

/-!
# The cutting of a line ends, and the reader undoes it

Cutting goes in passes. Each looks for the last offset within the room that is
between two characters, and cuts there: `CutsAt` says this in octets, and `Passes`
strings such cuts together until nothing is left, with one octet less of room after
the first.

An offset can be inside a character, but then the character begins at most three
octets in front of it. So a pass over a rest that is not used up takes all of the
room but three octets, wherever wide characters are (`CutsAt.progress`), and since
that is more than nothing, the passes end. What they come to is one list of pieces,
and it is `segments`.

The reader looks ahead for lines that begin with a space. The first piece does not,
if the line does not, every further one does, and the space is taken off again
whatever the piece begins with: `nextLine_valueLines`.
-/

namespace DirectoryClient.Ldif

/-! ## One pass -/

theorem width_eq (cs : List Char) : width cs = (String.ofList cs).utf8ByteSize := by
  induction cs with
  | nil => rw [width_nil]; rfl
  | cons c rest ih => rw [width_cons, Text.utf8ByteSize_ofList_cons, ih]

theorem width_append (as bs : List Char) : width (as ++ bs) = width as + width bs := by
  rw [width, Text.bytes_ofList_append, List.length_append]
  rfl

theorem width_pos {cs : List Char} (h : cs ≠ []) : 1 ≤ width cs := by
  obtain ⟨c, rest, rfl⟩ := List.exists_cons_of_ne_nil h
  have hpos := c.utf8Size_pos
  rw [width_cons]
  omega

/-- What is left begins with a character for which there was no room any more. -/
theorem lt_width_cutAt {room : Nat} {cs : List Char} {c : Char} {back : List Char}
    (h : (cutAt room cs).2 = c :: back) : room < width (cutAt room cs).1 + c.utf8Size := by
  induction cs generalizing room with
  | nil => cases h
  | cons d rest ih =>
      rw [cutAt] at h ⊢
      split at h
      · next hd =>
          have hrest := ih h
          rw [if_pos hd, width_cons]
          omega
      · next hd =>
          cases h
          rw [if_neg hd, width_nil]
          omega

/-- One pass: the rest is cut at the last offset within the room that is between two
characters. -/
structure CutsAt (room : Nat) (rest front back : List Char) : Prop where
  splitAt_eq : Text.splitAt? (width front) rest = some (front, back)
  width_le : width front ≤ room
  last : ∀ n, width front < n → n ≤ room → Text.splitAt? n rest = none

theorem cutsAt_cutAt (room : Nat) (rest : List Char) :
    CutsAt room rest (cutAt room rest).1 (cutAt room rest).2 := by
  have happ := cutAt_append room rest
  refine ⟨?_, width_cutAt_le room rest, ?_⟩
  · rw [Text.splitAt?_eq_some_iff, ← width_eq]
    exact ⟨happ.symm, rfl⟩
  · intro n hlt hle
    rw [Option.eq_none_iff_forall_ne_some]
    intro ⟨front, back⟩ hsplit
    obtain ⟨happ', hwidth⟩ := Text.splitAt?_eq_some_iff.1 hsplit
    rw [← width_eq] at hwidth
    -- a wider beginning takes at least the next character, which does not fit
    have hboth : (cutAt room rest).1 ++ (cutAt room rest).2 = front ++ back := happ.trans happ'
    obtain ⟨more, hfront, hback⟩ | ⟨more, hcut, -⟩ := List.append_eq_append_iff.1 hboth
    · cases more with
      | nil =>
          rw [hfront, List.append_nil] at hwidth
          omega
      | cons c more =>
          have hroom := lt_width_cutAt hback
          rw [hfront, width_append, width_cons] at hwidth
          omega
    · rw [hcut, width_append] at hlt
      omega

/-- Nothing wider could be cut off in the same pass. -/
theorem CutsAt.width_le_width {room : Nat} {rest front back front' back' : List Char}
    (h : CutsAt room rest front back) (h' : CutsAt room rest front' back') :
    width front' ≤ width front := by
  refine Nat.le_of_not_lt fun hlt => ?_
  have hnone := h.last _ hlt h'.width_le
  rw [h'.splitAt_eq] at hnone
  cases hnone

/-- A pass has only one outcome. -/
theorem CutsAt.unique {room : Nat} {rest front back front' back' : List Char}
    (h : CutsAt room rest front back) (h' : CutsAt room rest front' back') :
    front' = front ∧ back' = back := by
  have hwidth := Nat.le_antisymm (h'.width_le_width h) (h.width_le_width h')
  have hsplit := h.splitAt_eq
  rw [hwidth, h'.splitAt_eq] at hsplit
  cases hsplit
  exact ⟨rfl, rfl⟩

theorem CutsAt.append_eq {room : Nat} {rest front back : List Char}
    (h : CutsAt room rest front back) : front ++ back = rest :=
  (Text.splitAt?_eq_some_iff.1 h.splitAt_eq).1.symm

/-- A pass takes something, and unless it takes all there is, no more than three octets
of the room are left over. -/
theorem CutsAt.progress {room : Nat} {rest front back : List Char}
    (h : CutsAt room rest front back) (hrest : rest ≠ []) (hroom : 4 ≤ room) :
    front ≠ [] ∧ (back = [] ∨ room ≤ width front + 3) := by
  obtain ⟨rfl, rfl⟩ := (cutsAt_cutAt room rest).unique h
  refine ⟨cutAt_ne_nil hroom hrest, ?_⟩
  cases hback : (cutAt room rest).2 with
  | nil => exact Or.inl rfl
  | cons c back =>
      have hlt := lt_width_cutAt hback
      have hfour := c.utf8Size_le_four
      exact Or.inr (by omega)

/-! ## All passes -/

/-- What is cut off in one pass after another, until nothing is left. -/
inductive Passes : Nat → List Char → List (List Char) → Prop
  | done (room : Nat) : Passes room [] []
  | pass {room : Nat} {rest front back : List Char} {more : List (List Char)} :
      rest ≠ [] → CutsAt room rest front back → Passes (lineWidth - 1) back more →
        Passes room rest (front :: more)

/-- The pieces of a line, without the spaces that go in front of all but the first. -/
def segments (line : List Char) : List (List Char) :=
  (cutAt lineWidth line).1 :: pieces (cutAt lineWidth line).2

theorem passes_pieces (cs : List Char) : Passes (lineWidth - 1) cs (pieces cs) := by
  fun_induction pieces cs with
  | case1 => exact .done _
  | case2 c rest _ ih => exact .pass (List.cons_ne_nil c rest) (cutsAt_cutAt _ _) ih

theorem passes_segments {line : List Char} (hne : line ≠ []) :
    Passes lineWidth line (segments line) :=
  .pass hne (cutsAt_cutAt _ _) (passes_pieces _)

namespace Passes

theorem unique {room : Nat} {rest : List Char} {ps qs : List (List Char)}
    (h : Passes room rest ps) (h' : Passes room rest qs) : ps = qs := by
  induction h generalizing qs with
  | done room =>
      cases h' with
      | done => rfl
      | pass hne _ _ => exact absurd rfl hne
  | pass hne hcut _ ih =>
      cases h' with
      | done => exact absurd rfl hne
      | pass _ hcut' hmore' =>
          obtain ⟨rfl, rfl⟩ := hcut.unique hcut'
          rw [ih hmore']

theorem flatten_eq {room : Nat} {rest : List Char} {ps : List (List Char)}
    (h : Passes room rest ps) : ps.flatten = rest := by
  induction h with
  | done room => rfl
  | pass _ hcut _ ih => rw [List.flatten_cons, ih, hcut.append_eq]

theorem exists_of_mem {room : Nat} {rest : List Char} {ps : List (List Char)}
    (h : Passes room rest ps) (hroom : lineWidth - 1 ≤ room) :
    ∀ p ∈ ps, 1 ≤ width p ∧ width p ≤ room := by
  induction h with
  | done room => exact List.forall_mem_nil _
  | @pass room rest front back more hne hcut hmore ih =>
      have hfour : 4 ≤ room := Nat.le_trans (by decide) hroom
      have hfront := width_pos (hcut.progress hne hfour).1
      refine List.forall_mem_cons.2 ⟨⟨hfront, hcut.width_le⟩, ?_⟩
      intro p hp
      obtain ⟨hpos, hle⟩ := ih (Nat.le_refl _) p hp
      exact ⟨hpos, Nat.le_trans hle hroom⟩

/-- Only the last piece can be short. -/
theorem le_width {room : Nat} {rest : List Char} {ps : List (List Char)}
    (h : Passes room rest ps) (hroom : lineWidth - 1 ≤ room) :
    ∀ p ∈ ps.dropLast, lineWidth - 4 ≤ width p := by
  induction h with
  | done room => exact List.forall_mem_nil _
  | @pass room rest front back more hne hcut hmore ih =>
      cases hmore with
      | done => exact List.forall_mem_nil _
      | pass hback _ _ =>
          rw [List.dropLast_cons_of_ne_nil (List.cons_ne_nil _ _)]
          refine List.forall_mem_cons.2 ⟨?_, ih (Nat.le_refl _)⟩
          have hfour : 4 ≤ room := Nat.le_trans (by decide) hroom
          have hfront := (hcut.progress hne hfour).2.resolve_left hback
          omega

/-- So there are no more pieces than fit, each taken for so wide. -/
theorem length_le {room : Nat} {rest : List Char} {ps : List (List Char)}
    (h : Passes room rest ps) (hroom : lineWidth - 1 ≤ room) :
    (lineWidth - 4) * ps.length ≤ width rest + (lineWidth - 5) := by
  induction h with
  | done room => simp
  | @pass room rest front back more hne hcut hmore ih =>
      have hfour : 4 ≤ room := Nat.le_trans (by decide) hroom
      have hrest := width_append front back
      rw [hcut.append_eq] at hrest
      obtain ⟨hfront, hback⟩ := hcut.progress hne hfour
      have hpos := width_pos hfront
      have hmore' := ih (Nat.le_refl _)
      simp only [lineWidth, List.length_cons] at hroom hmore' ⊢
      rcases hback with hback | hwide
      · subst hback
        cases hmore with
        | done =>
            rw [List.length_nil]
            omega
        | pass hback' _ _ => exact absurd rfl hback'
      · omega

end Passes

/-- Folding is what the passes come to, with a space in front of all pieces but the first. -/
theorem passes_fold {line : List Char} (hne : line ≠ []) :
    ∃ first more, fold line = first :: more.map (' ' :: ·) ∧
      (∀ ps, Passes lineWidth line ps ↔ ps = first :: more) ∧
      (first ≠ [] ∧ width first ≤ lineWidth) ∧
      (∀ p ∈ more, 1 ≤ width p ∧ width p ≤ lineWidth - 1) ∧
      (∀ p ∈ (first :: more).dropLast, lineWidth - 4 ≤ width p) ∧
      (lineWidth - 4) * more.length < width line ∧ first ++ more.flatten = line := by
  have hpasses := passes_segments hne
  have hlength := hpasses.length_le (Nat.sub_le _ _)
  refine ⟨_, _, rfl, fun ps => ⟨fun hps => hps.unique hpasses, fun hps => hps ▸ hpasses⟩,
    ⟨cutAt_ne_nil (by decide) hne, width_cutAt_le _ _⟩,
    (passes_pieces _).exists_of_mem (Nat.le_refl _), hpasses.le_width (Nat.sub_le _ _), ?_,
    hpasses.flatten_eq⟩
  simp only [segments, lineWidth, List.length_cons] at hlength ⊢
  omega

/-! ## Reading the pieces -/

namespace Reader

/-- What a reader has still to look at, the look-ahead included. -/
def awaiting (r : Reader) : List Arrival :=
  (r.ahead.map fun a => Arrival.line a.2).toList ++ r.arrivals

/-- Whether a line is over in front of these arrivals: the input ends, or a line arrives
that does not go on with it. -/
def Closes (arrivals : List Arrival) : Prop :=
  ∀ a ∈ arrivals.head?, ∃ text, a = .line text ∧ text.head? ≠ some ' '

theorem awaiting_new (s : Source) : (new s).awaiting = s.arrivals := rfl

theorem closes_end : Closes (Source.mk [] none).arrivals := nofun

/-- Continuations are taken on up to the first line that is none. -/
theorem gather_continuations (r : Reader) {text : List Char} (htext : text ≠ [])
    (pieces : List (List Char)) {rest : List Arrival} (hrest : Closes rest) :
    ∃ r', gather r text ((pieces.map (' ' :: ·)).map .line ++ rest) =
        (.ok (text ++ pieces.flatten), r') ∧ r'.awaiting = rest := by
  obtain ⟨c, cs, rfl⟩ := List.exists_cons_of_ne_nil htext
  induction pieces generalizing r cs with
  | nil =>
      rw [List.flatten_nil, List.append_nil]
      cases rest with
      | nil => exact ⟨_, rfl, rfl⟩
      | cons a more =>
          obtain ⟨next, rfl, hnext⟩ := hrest a rfl
          refine ⟨{ r with
            read := r.read + 1, arrivals := more, ahead := some (r.read + 1, next) }, ?_, rfl⟩
          rw [List.map_nil, List.map_nil, List.nil_append]
          unfold gather
          split
          · simp at hnext
          · rfl
  | cons piece pieces ih =>
      obtain ⟨r', hr', hawaiting⟩ :=
        ih { r with read := r.read + 1 } (cs ++ piece) (List.cons_ne_nil _ _)
      refine ⟨r', ?_, hawaiting⟩
      rw [List.map_cons, List.map_cons, List.cons_append, gather, List.flatten_cons,
        ← List.append_assoc]
      exact hr'

/-- A line that was cut into pieces is put together again, whether its first piece was
looked at before or not. -/
theorem nextLine_of_awaiting {r : Reader} {first : List Char} (hfirst : first ≠ [])
    (hspace : first.head? ≠ some ' ') (pieces : List (List Char)) {rest : List Arrival}
    (hrest : Closes rest)
    (h : r.awaiting = .line first :: ((pieces.map (' ' :: ·)).map .line ++ rest)) :
    ∃ r', r.nextLine = (.ok (some (first ++ pieces.flatten)), r') ∧ r'.awaiting = rest := by
  cases hahead : r.ahead with
  | some a =>
      obtain ⟨number, text⟩ := a
      rw [awaiting, hahead] at h
      obtain ⟨htext, harrivals⟩ := List.cons.inj h
      cases htext
      obtain ⟨r', hr', hawaiting⟩ :=
        gather_continuations { r with line := number } hfirst pieces hrest
      refine ⟨r', ?_, hawaiting⟩
      rw [nextLine_of_ahead hahead, show r.arrivals = _ from harrivals]
      simp only [logical, if_neg hspace, hr']
      rfl
  | none =>
      rw [awaiting, hahead] at h
      obtain ⟨r', hr', hawaiting⟩ :=
        gather_continuations { r with read := r.read + 1, line := r.read + 1 } hfirst pieces hrest
      refine ⟨r', ?_, hawaiting⟩
      rw [nextLine_of_line hahead h]
      simp only [logical, if_neg hspace, hr']
      rfl

end Reader

/-- Lines as a text, with a line feed behind each of them. -/
def terminated (lines : List (List Char)) : String := String.ofList (lines.flatMap (· ++ ['\n']))

theorem valueLines_unbroken {name : String} (hname : ∀ c ∈ name.toList, NoLineEnd c)
    (value : Bytes) : ∀ l ∈ valueLines name value, '\n' ∉ l ∧ '\r' ∉ l := by
  obtain ⟨rest, hline, -, hrest⟩ := exists_valueLine_eq name value
  have hchars : ∀ c ∈ valueLine name value, NoLineEnd c := by
    rw [hline]
    intro c hc
    rcases List.mem_append.1 hc with hc | hc
    · exact hname c hc
    · refine allowsPrintable_noLineEnd c ?_
      rcases List.mem_cons.1 hc with rfl | hc
      · decide
      · exact hrest c hc
  intro l hl
  constructor
  · intro hc
    exact (hchars _ (mem_of_mem_fold hl hc (by decide))).1 rfl
  · intro hc
    exact (hchars _ (mem_of_mem_fold hl hc (by decide))).2 rfl

/-- The written lines arrive as they are, in front of whatever else is there. -/
theorem arrivals_valueLines {name : String} (hname : ∀ c ∈ name.toList, NoLineEnd c)
    (value more : Bytes) (failure : Option IoKind) :
    (Source.mk (Text.bytes (terminated (valueLines name value)) ++ more) failure).arrivals =
      (valueLines name value).map .line ++ (Source.mk more failure).arrivals := by
  have hlines := valueLines_unbroken hname value
  have hlast : (terminated (valueLines name value)).toList.getLast? = some '\n' := by
    have hne : valueLines name value ≠ [] := List.cons_ne_nil _ _
    rw [terminated, String.toList_ofList, ← List.dropLast_append_getLast hne,
      List.flatMap_append, List.flatMap_singleton, ← List.append_assoc, List.getLast?_concat]
  rw [Source.arrivals_append hlast, terminated, String.toList_ofList,
    physicalLines_terminated (fun l hl => (hlines l hl).1) fun l hl => (hlines l hl).2]

/-- The line for a value is cut in a number of passes that its size bounds, and in one
way only: each piece but the last takes all of the room up to three octets, no piece is
too wide or has nothing on it, and together they are the line. If the line does not begin
with a space, a reader that comes to the pieces puts them together to this line, and has
used nothing of what follows. -/
theorem nextLine_valueLines {name : String} (hname : ∀ c ∈ name.toList, NoLineEnd c)
    (value : Bytes) :
    ∃ first more, valueLines name value = first :: more.map (' ' :: ·) ∧
      (∀ ps, Passes lineWidth (valueLine name value) ps ↔ ps = first :: more) ∧
      (1 ≤ width first ∧ width first ≤ 80) ∧ (∀ p ∈ more, 1 ≤ width p ∧ width p ≤ 79) ∧
      (∀ p ∈ (first :: more).dropLast, 76 ≤ width p) ∧
      76 * more.length < width (valueLine name value) ∧
      first ++ more.flatten = valueLine name value ∧
      ((valueLine name value).head? ≠ some ' ' →
        ∀ (r : Reader) (after : Bytes) (failure : Option IoKind),
          r.awaiting = (Source.mk (Text.bytes (terminated (valueLines name value)) ++ after)
            failure).arrivals →
          Reader.Closes (Source.mk after failure).arrivals →
          ∃ r', r.nextLine = (.ok (some (valueLine name value)), r') ∧
            r'.awaiting = (Source.mk after failure).arrivals) := by
  have hne : valueLine name value ≠ [] := by
    obtain ⟨rest, hline, -⟩ := exists_valueLine_eq name value
    rw [hline]
    simp
  obtain ⟨first, more, hfold, hpasses, hfirst, hmore, hwide, hlength, hflat⟩ := passes_fold hne
  refine ⟨first, more, hfold, hpasses, ⟨width_pos hfirst.1, hfirst.2⟩, hmore, hwide, hlength,
    hflat, ?_⟩
  intro hspace r after failure hawaiting hcloses
  rw [arrivals_valueLines hname, show valueLines name value = _ from hfold] at hawaiting
  rw [← hflat] at hspace ⊢
  rw [List.head?_append_of_ne_nil _ hfirst.1] at hspace
  exact Reader.nextLine_of_awaiting hfirst.1 hspace more hcloses hawaiting

/-- A name of 79 letters and an `é`, whose two octets would take the 80th and the 81st place:
the first pass goes back to the 79th. -/
theorem nextLine_valueLines_straddling :
    let name := String.ofList (List.replicate 79 'a' ++ ['é'])
    (∀ c ∈ name.toList, NoLineEnd c) ∧
    ∃ (first : List Char) (more : List (List Char)),
      valueLines name [255] = first :: more.map (' ' :: ·) ∧ width first = 79 ∧
      ∃ r', (Reader.new (Source.mk (Text.bytes (terminated (valueLines name [255]))) none)).nextLine =
        (.ok (some (valueLine name [255])), r') := by
  intro name
  have hname : ∀ c ∈ name.toList, NoLineEnd c := by
    intro c hc
    rw [String.toList_ofList, List.mem_append, List.mem_replicate, List.mem_singleton] at hc
    rcases hc with ⟨-, rfl⟩ | rfl <;> exact ⟨by decide, by decide⟩
  obtain ⟨first, more, hlines, hpasses, -, -, -, -, -, hread⟩ := nextLine_valueLines hname [255]
  refine ⟨hname, first, more, hlines, ?_, ?_⟩
  · rw [← (List.cons.inj hlines).1]
    decide +kernel
  · have hspace : (valueLine name [255]).head? ≠ some ' ' := by
      obtain ⟨rest, hline, -⟩ := exists_valueLine_eq name [255]
      have hhead : name.toList = 'a' :: (List.replicate 78 'a' ++ ['é']) := String.toList_ofList
      rw [hline, hhead]
      simp
    obtain ⟨r', hr', -⟩ := hread hspace _ [] none (Reader.awaiting_new _) Reader.closes_end
    rw [List.append_nil] at hr'
    exact ⟨r', hr'⟩

end DirectoryClient.Ldif
