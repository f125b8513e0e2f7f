import DirectoryClient.Ldif.Sink
import DirectoryClient.Proofs.Text.Encoding

/-!
# One text in many writes

Where a text is cut into writes cannot be told from a sink. What fits of the parts is
what fits of the whole, and some part fails if and only if the whole does; so each piece
of a record is written as if its lines went into the sink in one write, and so is the
record (`Sink.putRecord_eq`).

A sink with a limit is then known by all that ever went to it: it holds a beginning of
that, and has room for what is left of its capacity. A record that does not fit fills it
up, and from then on no record fits, since every record has at least a line feed.
-/

namespace DirectoryClient.Ldif

/-- The octets of some lines, with a line feed behind each. -/
def octets (lines : List (List Char)) : Bytes :=
  Text.bytes (String.ofList (lines.flatMap (· ++ ['\n'])))

theorem octets_append (ls ms : List (List Char)) : octets (ls ++ ms) = octets ls ++ octets ms := by
  rw [octets, List.flatMap_append, Text.bytes_ofList_append, octets, octets]

theorem octets_singleton (l : List Char) :
    octets [l] = Text.bytes (String.ofList l) ++ Text.bytes "\n" := by
  rw [octets, List.flatMap_singleton, Text.bytes_ofList_append]

theorem flatMap_octets {α : Type} (f : α → List (List Char)) (l : List α) :
    (l.flatMap fun x => octets (f x)) = octets (l.flatMap f) := by
  induction l with
  | nil => rfl
  | cons x rest ih => rw [List.flatMap_cons, List.flatMap_cons, octets_append, ih]

theorem flatMap_octets_singleton (ls : List (List Char)) :
    (ls.flatMap fun l => octets [l]) = octets ls := by
  rw [flatMap_octets, List.flatMap_singleton']

/-! ## Writes as one -/

theorem Sink.put_append (s : Sink) (a b : Bytes) :
    s.put (a ++ b) = match s.put a with
      | (.ok (), s) => s.put b
      | (.error e, s) => (.error e, s) := by
  obtain ⟨written, _ | room⟩ := s
  · simp [put]
  · by_cases ha : a.length ≤ room
    · simp only [put, if_pos ha, List.take_append, List.take_of_length_le ha,
        List.append_assoc, List.length_append, Nat.sub_sub, Nat.le_sub_iff_add_le' ha]
    · -- the first part takes all the room that there is
      have hab : ¬ (a ++ b).length ≤ room := by
        rw [List.length_append]
        omega
      have hroom : room ≤ a.length := by omega
      have hnone : room - (a ++ b).length = room - a.length := by
        rw [List.length_append]
        omega
      simp only [put, if_neg ha, if_neg hab, List.take_append_of_le_length hroom, hnone]

namespace Writing

theorem put_nil : put [] = pure () := by
  funext s
  obtain ⟨written, _ | room⟩ := s
  · show (Except.ok (), Sink.mk (written ++ []) none) = _
    rw [List.append_nil]
    rfl
  · show (Except.ok (), Sink.mk (written ++ [].take room) (some room)) = _
    rw [List.take_nil, List.append_nil]
    rfl

theorem put_append (a b : Bytes) : put (a ++ b) = (do put a; put b) := by
  funext s
  show s.put (a ++ b) = StateT.bind (put a) (ExceptT.bindCont fun _ => put b) s
  rw [Sink.put_append]
  cases hput : s.put a with
  | mk result s' => cases result <;> simp [StateT.bind, ExceptT.bindCont, put, hput] <;> rfl

theorem forM_put {α : Type} (f : α → Bytes) (l : List α) :
    (l.forM fun x => put (f x)) = put (l.flatMap f) := by
  induction l with
  | nil => exact put_nil.symm
  | cons x rest ih =>
      rw [List.flatMap_cons, put_append, ← ih]
      rfl

theorem putLine_eq (line : List Char) : putLine line = put (octets [line]) := by
  rw [octets_singleton, put_append, putLine]

theorem putValue_eq (name : String) (value : Bytes) :
    putValue name value = put (octets (valueLines name value)) := by
  rw [putValue, funext putLine_eq, forM_put, flatMap_octets_singleton]

theorem putValues_eq (name : String) (values : List Value) :
    (values.forM fun v => putValue name v.bytes) =
      put (octets (values.flatMap fun v => valueLines name v.bytes)) := by
  rw [funext fun v : Value => putValue_eq name v.bytes, forM_put, flatMap_octets]

theorem putAttribute_eq (a : Attribute) : putAttribute a = put (octets a.lines) :=
  putValues_eq a.name a.values

theorem putEdit_eq (e : Edit) : putEdit e = put (octets e.lines) := by
  rw [putEdit, putValues_eq, putLine_eq, putLine_eq, ← put_append, ← put_append, ← octets_append,
    ← octets_append]
  rfl

theorem putBody_eq (r : Record) : putBody r = put (octets r.bodyLines) := by
  have hattributes : r.attributes.forM putAttribute =
      put (octets (r.attributes.flatMap Attribute.lines)) := by
    rw [funext putAttribute_eq, forM_put, flatMap_octets]
  have hedits : r.edits.forM putEdit = put (octets (r.edits.flatMap Edit.lines)) := by
    rw [funext putEdit_eq, forM_put, flatMap_octets]
  rw [putBody, Record.bodyLines]
  cases r.writtenChange with
  | none => exact hattributes
  | some kind =>
      cases kind with
      | add => exact hattributes
      | modify => exact hedits
      | delete => exact put_nil.symm
      | rename => exact put_nil.symm

theorem putRecord_eq {r : Record} (h : r.dn ≠ "") : putRecord r = put (octets r.lines) := by
  have hdn : ¬ r.dn.isEmpty = true := by simpa using h
  rw [putRecord, if_neg hdn, putValue_eq, putBody_eq, putLine_eq, Record.lines, octets_append,
    octets_append, octets_append, put_append, put_append, put_append]
  cases r.writtenChange with
  | none => simp [show put (octets []) = pure () from put_nil]
  | some kind => simp [putLine_eq]

end Writing

namespace Sink

/-- A record goes into a sink as the text that it is in LDIF. -/
theorem putRecord_eq (s : Sink) (r : Record) :
    s.putRecord r = match r.toLdif with
      | .ok text => s.put (Text.bytes text)
      | .error e => (.error e, s) := by
  by_cases h : r.dn = ""
  · have hdn : r.dn.isEmpty = true := by simpa using h
    rw [putRecord, Writing.putRecord, Record.toLdif, if_pos hdn, if_pos hdn]
    rfl
  · have hdn : ¬ r.dn.isEmpty = true := by simpa using h
    rw [putRecord, Writing.putRecord_eq h, Record.toLdif, if_neg hdn]
    rfl

/-! ## A sink with a limit -/

/-- What a record comes to where there is no limit. -/
def unlimited (r : Record) : Bytes := ((new none).putRecord r).2.written

/-- What the records that have a name come to, one behind the other. -/
def wanted (records : List Record) : Bytes := (records.filter (·.dn ≠ "")).flatMap unlimited

theorem unlimited_eq {r : Record} (h : r.dn ≠ "") : unlimited r = octets r.lines := by
  rw [unlimited, putRecord, Writing.putRecord_eq h]
  exact List.nil_append _

theorem unlimited_ne_nil {r : Record} (h : r.dn ≠ "") : unlimited r ≠ [] := by
  have hblank : octets [[]] = [10] := rfl
  rw [unlimited_eq h, Record.lines, octets_append, hblank]
  exact List.append_ne_nil_of_right_ne_nil _ (List.cons_ne_nil _ _)

theorem wanted_cons_of_named {r : Record} (h : r.dn ≠ "") (rest : List Record) :
    wanted (r :: rest) = unlimited r ++ wanted rest := by
  rw [wanted, List.filter_cons_of_pos (by simpa using h), List.flatMap_cons, ← wanted]

theorem wanted_cons_of_unnamed {r : Record} (h : r.dn = "") (rest : List Record) :
    wanted (r :: rest) = wanted rest := by
  rw [wanted, List.filter_cons_of_neg (by simpa using h), ← wanted]

/-- A sink of some capacity after all these octets went to it. -/
def after (capacity : Nat) (all : Bytes) : Sink :=
  ⟨all.take capacity, some (capacity - all.length)⟩

theorem after_nil (capacity : Nat) : after capacity [] = new (some capacity) := by
  rw [after, List.take_nil, List.length_nil, Nat.sub_zero, new]

theorem put_after (capacity : Nat) (all : Bytes) {b : Bytes} (hb : b ≠ []) :
    (after capacity all).put b =
      (if (all ++ b).length ≤ capacity then .ok () else .error (.io .full),
        after capacity (all ++ b)) := by
  have hpos : 0 < b.length := List.length_pos_iff.2 hb
  have hfits : b.length ≤ capacity - all.length ↔ (all ++ b).length ≤ capacity := by
    rw [List.length_append]
    omega
  simp only [put, after, List.take_append, hfits, List.length_append, Nat.sub_sub]

theorem putRecord_after (capacity : Nat) (all : Bytes) {r : Record} (h : r.dn ≠ "") :
    (after capacity all).putRecord r =
      (if (all ++ unlimited r).length ≤ capacity then .ok () else .error (.io .full),
        after capacity (all ++ unlimited r)) := by
  rw [putRecord, Writing.putRecord_eq h, ← unlimited_eq h]
  exact put_after capacity all (unlimited_ne_nil h)

theorem putRecord_of_unnamed {r : Record} (h : r.dn = "") (s : Sink) :
    s.putRecord r = (.error (.invalid .emptyDn), s) := by
  rw [putRecord_eq, Record.toLdif, if_pos (by simpa using h)]

/-- How writing a record ends, if it and those in front of it come to so many octets. -/
def outcome (capacity total : Nat) (r : Record) : Except Error Unit :=
  if r.dn = "" then .error (.invalid .emptyDn)
  else if total ≤ capacity then .ok ()
  else .error (.io .full)

theorem putRecords_after (capacity : Nat) (all : Bytes) (records : List Record) :
    (after capacity all).putRecords records =
      (records.mapIdx fun i r =>
          outcome capacity (all ++ wanted (records.take (i + 1))).length r,
        after capacity (all ++ wanted records)) := by
  induction records generalizing all with
  | nil =>
      rw [putRecords, show wanted [] = [] from rfl, List.append_nil]
      rfl
  | cons r rest ih =>
      rw [putRecords, List.mapIdx_cons]
      by_cases h : r.dn = ""
      · simp only [putRecord_of_unnamed h, ih, List.take_succ_cons, wanted_cons_of_unnamed h]
        rw [outcome, if_pos h]
      · have hfirst : wanted (List.take 0 rest) = [] := rfl
        simp only [putRecord_after capacity all h, ih, List.take_succ_cons,
          wanted_cons_of_named h, ← List.append_assoc, hfirst, List.append_nil]
        rw [outcome, if_neg h]

/-- Records go one after another into a sink that takes so many octets. It then holds the
beginning of what those with a name come to where there is no limit. One of them fits if
and only if it and what is in front of it do; another one is not written at all, into
whatever sink. -/
theorem putRecords_limited (capacity : Nat) (records : List Record) :
    let done := (new (some capacity)).putRecords records
    done.2.written = (wanted records).take capacity ∧
      (done.1.length = records.length ∧ ∀ i (hi : i < records.length),
        done.1[i]? = some (outcome capacity (wanted (records.take (i + 1))).length records[i])) ∧
      ∀ r : Record, r.dn = "" → ∀ s : Sink, s.putRecord r = (.error (.invalid .emptyDn), s) := by
  intro done
  have hdone := putRecords_after capacity [] records
  rw [after_nil] at hdone
  change done = _ at hdone
  refine ⟨?_, ⟨?_, fun i hi => ?_⟩, fun r h => putRecord_of_unnamed h⟩
  · rw [hdone, after, List.nil_append]
  · rw [hdone, List.length_mapIdx]
  · rw [hdone, List.getElem?_mapIdx, List.getElem?_eq_getElem hi]
    rfl

end Sink

end DirectoryClient.Ldif
