import DirectoryClient.Proofs.Ldif.Acceptance
import DirectoryClient.Proofs.Ldif.Progress
import DirectoryClient.Proofs.Ldif.Rereading

/-!
# What follows a text does not change what is read of it

Records that end before something goes wrong are handed out before it is noticed,
with one exception: `Reader.answer_append`. The two readers, of a text that ends with
a blank line and of the same text with anything behind it, go in lockstep.
`Reader.followedBy` puts into a reader what the other has behind, and as long as lines
of the text are to come, whatever is taken from the one is taken from the other.

They part at the blank line that the text ends with. It goes on with nothing, yet
before it is handed out the reader looks at what comes next, and if this is a failure,
the record that the blank line completes is lost with it. A line that arrives does no
harm, whatever is on it, nor does a further blank line of the text.
-/

namespace DirectoryClient.Ldif

/-- The last line of the text is blank, and its line end is there. -/
def EndsBlank (text : List Char) : Prop :=
  text.getLast? = some '\n' ∧ (physicalLines text).getLast? = some []

/-- An answer that is given, unless the first thing that arrives is a failure. -/
def unlessFailing {α : Type} (arrivals : List Arrival) (answer : α) : Except Error α :=
  match arrivals with
  | .failure kind :: _ => .error (.io kind)
  | _ => .ok answer

theorem map_unlessFailing {α β : Type} (f : α → β) (arrivals : List Arrival) (answer : α) :
    (unlessFailing arrivals answer).map f = unlessFailing arrivals (f answer) := by
  unfold unlessFailing
  split <;> rfl

theorem Reading.answer_of_records (records : List Record) (n : Nat) :
    (Reading.mk records none).answer n = .ok records[n]? := by
  unfold Reading.answer
  cases records[n]? <;> rfl

/-! ## Octets behind a text -/

theorem Source.cut_append_newline (a b : Bytes) :
    (cut (a ++ [10])).1 ≠ [] ∧
      cut (a ++ 10 :: b) = ((cut (a ++ [10])).1 ++ (cut b).1, (cut b).2) := by
  induction a with
  | nil =>
      rw [List.nil_append, List.nil_append, cut_newline, cut_newline]
      exact ⟨List.cons_ne_nil _ _, rfl⟩
  | cons x a ih =>
      obtain ⟨hne, hcut⟩ := ih
      rw [List.cons_append, List.cons_append, cut, cut, hcut]
      generalize cut (a ++ [10]) = front at hne
      obtain ⟨lines, tail⟩ := front
      obtain ⟨first, more, rfl⟩ := List.exists_cons_of_ne_nil hne
      by_cases hx : x = 10
      · simp [hx]
      · simp [hx]

/-- Behind the line end of a text begins what arrives of the rest. -/
theorem Source.arrivals_append {text : String} (h : text.toList.getLast? = some '\n')
    (rest : Bytes) (failure : Option IoKind) :
    (Source.mk (Text.bytes text ++ rest) failure).arrivals =
      (physicalLines text.toList).map .line ++ (Source.mk rest failure).arrivals := by
  obtain ⟨front, hfront⟩ := List.getLast?_eq_some_iff.1 h
  have hbytes : Text.bytes text = front.flatMap String.utf8EncodeChar ++ [10] := by
    rw [Text.bytes_eq_flatMap, hfront, List.flatMap_append, List.flatMap_singleton,
      Text.utf8EncodeChar_newline]
  generalize front.flatMap String.utf8EncodeChar = octets at hbytes
  have htail : (cut (octets ++ [10])).2 = [] :=
    congrArg Prod.snd (cut_append_newline octets []).2
  have hlines : (cut (octets ++ [10])).1.map (arrival (dropReturn ∘ dropReturn)) =
      (physicalLines text.toList).map .line := by
    rw [← arrivals_bytes, hbytes]
    simp [arrivals, lastArrivals, htail]
  rw [hbytes, List.append_assoc, List.singleton_append, ← hlines, arrivals,
    (cut_append_newline octets rest).2]
  simp only [List.map_append, List.append_assoc]
  rfl

namespace Reader

/-- The same reader, with something behind all that is still to arrive. -/
def followedBy (r : Reader) (more : List Arrival) : Reader :=
  { r with arrivals := r.arrivals ++ more }

/-- Lines are still to come, and the last of them is blank. -/
structure AwaitsBlank (r : Reader) : Prop where
  ended : r.ended = false
  lines : ∃ texts, r.arrivals = texts.map .line ∧
    ((r.ahead.map Prod.snd).toList ++ texts).getLast? = some []

theorem AwaitsBlank.isAtEnd {r : Reader} (h : r.AwaitsBlank) : r.isAtEnd = false := by
  simp [Reader.isAtEnd, h.ended]

/-! ## Lines -/

/-- As long as a blank line is to come, nothing behind it is looked at. -/
theorem gather_followedBy {r : Reader} (text : List Char) {texts : List (List Char)}
    (h : texts.getLast? = some []) (hended : r.ended = false) (more : List Arrival) :
    ∃ line r', gather r text (texts.map .line) = (.ok line, r') ∧ r'.AwaitsBlank ∧
      gather (r.followedBy more) text (texts.map .line ++ more) =
        (.ok line, r'.followedBy more) := by
  induction texts generalizing r text with
  | nil => cases h
  | cons next rest ih =>
      rw [List.map_cons, List.cons_append]
      unfold gather
      split
      · next c cs begun =>
          -- a line that begins with a space is not the blank one
          have hrest : rest.getLast? = some [] := by
            cases rest with
            | nil => cases h
            | cons x xs => simpa [List.getLast?_cons] using h
          exact @ih { r with read := r.read + 1 } (c :: cs ++ begun) hrest hended
      · exact ⟨_, _, rfl, ⟨hended, rest, rfl, h⟩, rfl⟩

/-- A blank line goes on with nothing, yet what comes next is looked at. -/
theorem gather_blank_fst (r : Reader) (more : List Arrival) :
    (gather r [] more).1 = unlessFailing more [] := by
  cases more with
  | nil => rfl
  | cons a rest => cases a <;> rfl

/-- A line, wherever it comes from, with those that follow it in the text: the same
line is made of it, and the same reader is left, unless it is the blank line at the
end. -/
theorem logical_followedBy {r r' : Reader} {number : Nat} {text line : List Char}
    {texts : List (List Char)} (h : (text :: texts).getLast? = some []) (hended : r.ended = false)
    (more : List Arrival) (hlogical : logical r number text (texts.map .line) = (.ok line, r')) :
    (r'.AwaitsBlank ∧ logical (r.followedBy more) number text (texts.map .line ++ more) =
        (.ok line, r'.followedBy more)) ∨
      (line = [] ∧ r'.isAtEnd = true ∧ r'.IsDrained ∧
        (logical (r.followedBy more) number text (texts.map .line ++ more)).1 =
          unlessFailing more []) := by
  unfold logical at hlogical ⊢
  split at hlogical
  · cases hlogical
  · next hspace =>
      rw [if_neg hspace]
      cases texts with
      | nil =>
          obtain rfl : text = [] := Option.some.inj h
          cases hlogical
          exact Or.inr ⟨rfl, rfl, ⟨rfl, rfl⟩, gather_blank_fst _ more⟩
      | cons next rest =>
          have hlast : (next :: rest).getLast? = some [] := by
            rwa [List.getLast?_cons_cons] at h
          obtain ⟨line', r'', hgather, hawaits, hfollowed⟩ :=
            @gather_followedBy { r with line := number } text _ hlast hended more
          rw [hgather] at hlogical
          cases hlogical
          exact Or.inl ⟨hawaits, hfollowed⟩

/-- The same with the line as taking the next line hands it out. -/
theorem map_logical_followedBy {r r' : Reader} {number : Nat} {text line : List Char}
    {texts : List (List Char)} (h : (text :: texts).getLast? = some []) (hended : r.ended = false)
    (more : List Arrival)
    (htaken : ((logical r number text (texts.map .line)).1.map some,
      (logical r number text (texts.map .line)).2) = (.ok (some line), r')) :
    (r'.AwaitsBlank ∧
        ((logical (r.followedBy more) number text (texts.map .line ++ more)).1.map some,
          (logical (r.followedBy more) number text (texts.map .line ++ more)).2) =
        (.ok (some line), r'.followedBy more)) ∨
      (line = [] ∧ r'.isAtEnd = true ∧ r'.IsDrained ∧
        (logical (r.followedBy more) number text (texts.map .line ++ more)).1.map some =
          unlessFailing more (some [])) := by
  obtain ⟨hline, hreader⟩ := Prod.mk.inj htaken
  obtain ⟨_, hline, heq⟩ := Except.map_eq_ok_iff.1 hline
  cases heq
  rcases logical_followedBy h hended more (Prod.ext hline hreader) with
    ⟨hawaits, hlogical⟩ | ⟨hblank, hend, hdrained, hlogical⟩
  · rw [hlogical]
    exact Or.inl ⟨hawaits, rfl⟩
  · refine Or.inr ⟨hblank, hend, hdrained, ?_⟩
    rw [hlogical, map_unlessFailing]

theorem nextLine_followedBy {r r' : Reader} {text : List Char} (h : r.AwaitsBlank)
    (more : List Arrival) (hnext : r.nextLine = (.ok (some text), r')) :
    (r'.AwaitsBlank ∧ (r.followedBy more).nextLine = (.ok (some text), r'.followedBy more)) ∨
      (text = [] ∧ r'.isAtEnd = true ∧ r'.IsDrained ∧
        (r.followedBy more).nextLine.1 = unlessFailing more (some [])) := by
  obtain ⟨texts, harr, hlast⟩ := h.lines
  have harr' : (r.followedBy more).arrivals = texts.map .line ++ more := congrArg (· ++ more) harr
  cases hahead : r.ahead with
  | some a =>
      obtain ⟨number, first⟩ := a
      rw [hahead] at hlast
      rw [nextLine_of_ahead hahead, harr] at hnext
      rw [nextLine_of_ahead (r := r.followedBy more) hahead, harr']
      exact map_logical_followedBy hlast h.ended more hnext
  | none =>
      rw [hahead] at hlast
      cases texts with
      | nil => cases hlast
      | cons first rest =>
          rw [nextLine_of_line hahead harr] at hnext
          rw [nextLine_of_line (r := r.followedBy more) hahead harr']
          exact @map_logical_followedBy { r with read := r.read + 1 } r' _ _ _ _ hlast h.ended more
            hnext

/-- A blank line or more is to come, so there is a line to take. -/
theorem AwaitsBlank.nextLine_ne_none {r : Reader} (h : r.AwaitsBlank) :
    r.nextLine.1 ≠ .ok none := by
  have hmap : ∀ result : Except Error (List Char), result.map some ≠ .ok none := by
    intro result hnone
    obtain ⟨line, -, heq⟩ := Except.map_eq_ok_iff.1 hnone
    cases heq
  obtain ⟨texts, harr, hlast⟩ := h.lines
  cases hahead : r.ahead with
  | some a =>
      obtain ⟨number, text⟩ := a
      rw [nextLine_of_ahead hahead]
      exact hmap _
  | none =>
      rw [hahead] at hlast
      cases texts with
      | nil => cases hlast
      | cons first rest =>
          rw [nextLine_of_line hahead harr]
          exact hmap _

/-! ## Records -/

theorem finish_eq_of_ok {r r' : Reader} {d : Draft} {record : Record}
    (h : r.finish d = (.ok (some record), r')) (s : Reader) :
    s.finish d = (.ok (some record), s) := by
  unfold finish at h ⊢
  split at h
  · cases h
    rfl
  · cases h

/-- The induction is on the lines that the reader of the text goes through. The other
one takes the same lines, until the blank line at the end completes the record. -/
theorem complete_followedBy {r r' : Reader} {d : Draft} {record : Record} (h : r.AwaitsBlank)
    (more : List Arrival) (hcomplete : r.complete d = (.ok (some record), r')) :
    (r'.AwaitsBlank ∧ (r.followedBy more).complete d = (.ok (some record), r'.followedBy more)) ∨
      (r'.isAtEnd = true ∧
        ((r.followedBy more).complete d).1 = unlessFailing more (some record)) := by
  fun_induction complete r d with
  | case1 r d e r₁ hnext => cases hcomplete
  | case2 r d r₁ hnext => exact absurd (congrArg Prod.fst hnext) h.nextLine_ne_none
  | case3 r d text r₁ hnext hlt hblank hbegun =>
      obtain rfl := List.isEmpty_iff.1 hblank
      obtain rfl := eq_of_finish_ok hcomplete
      rcases nextLine_followedBy h more hnext with ⟨hawaits, hfollowed⟩ | ⟨-, hend, -, hfollowed⟩
      · rw [complete_of_nextLine_blank hfollowed, if_pos hbegun, finish_eq_of_ok hcomplete]
        exact Or.inl ⟨hawaits, rfl⟩
      · refine Or.inr ⟨hend, ?_⟩
        unfold unlessFailing at hfollowed ⊢
        split at hfollowed
        · rw [complete_of_nextLine_error (Prod.ext hfollowed rfl)]
        · rw [complete_of_nextLine_blank (Prod.ext hfollowed rfl), if_pos hbegun,
            finish_eq_of_ok hcomplete]
  | case4 r d text r₁ hnext hlt hblank hbegun ih =>
      obtain rfl := List.isEmpty_iff.1 hblank
      rcases nextLine_followedBy h more hnext with ⟨hawaits, hfollowed⟩ | ⟨-, -, hdrained, -⟩
      · rw [complete_of_nextLine_blank hfollowed, if_neg hbegun]
        exact ih hawaits hcomplete
      · -- nothing was read of a record, and nothing is left to make one of
        rw [complete_of_isDrained hdrained] at hcomplete
        exact absurd (begun_of_finish (congrArg Prod.fst hcomplete)) hbegun
  | case5 r d text r₁ hnext hlt hblank complaint hacc => cases hcomplete
  | case6 r d text r₁ hnext hlt hblank d₁ seen hacc ih =>
      have htext : text ≠ [] := by simpa using hblank
      rcases nextLine_followedBy h more hnext with ⟨hawaits, hfollowed⟩ | ⟨hnil, -⟩
      · have hacc' : d.accept (r₁.followedBy more).versionSeen text = .ok (d₁, seen) := hacc
        rw [complete_of_nextLine hfollowed htext, hacc']
        exact ih ⟨hawaits.ended, hawaits.lines⟩ hcomplete
      · exact absurd hnil htext

/-! ## Call after call -/

theorem awaitsBlank_new {text : String} (h : EndsBlank text.toList) :
    (new ⟨Text.bytes text, none⟩).AwaitsBlank where
  ended := rfl
  lines := ⟨physicalLines text.toList, Source.arrivals_bytes text, h.2⟩

section

variable {text : String} (h : EndsBlank text.toList) (rest : Bytes) (failure : Option IoKind)

include h

theorem new_followedBy :
    new ⟨Text.bytes text ++ rest, failure⟩ =
      (new ⟨Text.bytes text, none⟩).followedBy (Source.mk rest failure).arrivals := by
  rw [new, Source.arrivals_append h.1, ← Source.arrivals_bytes]
  rfl

/-- After any number of records of the text the two readers are still in lockstep,
unless the reader of the text alone is at its end. -/
theorem after_followedBy {n : Nat}
    (hrecords : ∀ k < n, ∃ record, (new ⟨Text.bytes text, none⟩).answer k = .ok (some record)) :
    ((new ⟨Text.bytes text, none⟩).after n).isAtEnd = true ∨
      ((new ⟨Text.bytes text, none⟩).after n).AwaitsBlank ∧
        (new ⟨Text.bytes text ++ rest, failure⟩).after n =
          ((new ⟨Text.bytes text, none⟩).after n).followedBy
            (Source.mk rest failure).arrivals := by
  induction n with
  | zero => exact Or.inr ⟨awaitsBlank_new h, new_followedBy h rest failure⟩
  | succ n ih =>
      obtain ⟨record, hrecord⟩ := hrecords n (Nat.lt_succ_self n)
      have hnext := next_after (new ⟨Text.bytes text, none⟩) n
      rcases ih fun k hk => hrecords k (Nat.lt_succ_of_lt hk) with hend | ⟨hawaits, hafter⟩
      · rw [answer_of_isAtEnd hend] at hrecord
        cases hrecord
      · rw [hrecord] at hnext
        rcases complete_followedBy hawaits (Source.mk rest failure).arrivals hnext with
          ⟨hawaits', hfollowed⟩ | ⟨hend, -⟩
        · have hnext' := next_after (new ⟨Text.bytes text ++ rest, failure⟩) n
          rw [hafter, next, hfollowed] at hnext'
          exact Or.inr ⟨hawaits', (congrArg Prod.snd hnext').symm⟩
        · exact Or.inl hend

/-- A record of the text comes out whatever follows the text. Only where the reader of
the text alone is at its end with the record, it has to be known that what follows does
not begin with a failure. -/
theorem answer_followedBy {n : Nat} {record : Record}
    (hrecords : ∀ k ≤ n, ∃ record, (new ⟨Text.bytes text, none⟩).answer k = .ok (some record))
    (hrecord : (new ⟨Text.bytes text, none⟩).answer n = .ok (some record)) :
    (new ⟨Text.bytes text ++ rest, failure⟩).answer n =
      if ((new ⟨Text.bytes text, none⟩).after (n + 1)).isAtEnd then
        unlessFailing (Source.mk rest failure).arrivals (some record)
      else .ok (some record) := by
  have hnext := next_after (new ⟨Text.bytes text, none⟩) n
  have hnext' := next_after (new ⟨Text.bytes text ++ rest, failure⟩) n
  rw [hrecord] at hnext
  rcases after_followedBy h rest failure fun k hk => hrecords k (Nat.le_of_lt hk) with
    hend | ⟨hawaits, hafter⟩
  · rw [answer_of_isAtEnd hend] at hrecord
    cases hrecord
  · rw [hafter, next] at hnext'
    rcases complete_followedBy hawaits (Source.mk rest failure).arrivals hnext with
      ⟨hawaits', hfollowed⟩ | ⟨hend, hfollowed⟩
    · rw [hfollowed] at hnext'
      rw [hawaits'.isAtEnd, if_neg Bool.false_ne_true]
      exact (congrArg Prod.fst hnext').symm
    · rw [if_pos hend, ← hfollowed]
      exact (congrArg Prod.fst hnext').symm

end

/-- Records of a text that ends with a blank line, which reads without an error by
itself, are read of it whatever follows: all but the last of them, and the last as
well, unless the reader of the text alone is at its end with it and the first thing to
arrive behind the text is a failure. The failure is then given in its place. -/
theorem answer_append {text : String} {records : List Record} (hblank : EndsBlank text.toList)
    (hread : ∀ n, (new ⟨Text.bytes text, none⟩).answer n = .ok records[n]?) (rest : Bytes)
    (failure : Option IoKind) :
    (∀ n, n + 1 < records.length →
      (new ⟨Text.bytes text ++ rest, failure⟩).answer n = .ok records[n]?) ∧
    ∀ n, n + 1 = records.length →
      (new ⟨Text.bytes text ++ rest, failure⟩).answer n =
        if ((new ⟨Text.bytes text, none⟩).after (n + 1)).isAtEnd then
          unlessFailing (Source.mk rest failure).arrivals records[n]?
        else .ok records[n]? := by
  have hrecord : ∀ n, n < records.length →
      ∃ record, (new ⟨Text.bytes text, none⟩).answer n = .ok (some record) := fun n hn =>
    ⟨records[n], by rw [hread, List.getElem?_eq_getElem hn]⟩
  have hfollowed : ∀ n, n < records.length →
      (new ⟨Text.bytes text ++ rest, failure⟩).answer n =
        if ((new ⟨Text.bytes text, none⟩).after (n + 1)).isAtEnd then
          unlessFailing (Source.mk rest failure).arrivals records[n]?
        else .ok records[n]? := by
    intro n hn
    have hanswer := hread n
    rw [List.getElem?_eq_getElem hn] at hanswer ⊢
    exact answer_followedBy hblank rest failure
      (fun k hk => hrecord k (Nat.lt_of_le_of_lt hk hn)) hanswer
  refine ⟨fun n hn => ?_, fun n hn => hfollowed n (by omega)⟩
  rw [hfollowed n (by omega), if_neg]
  -- the next record is still to come
  intro hend
  obtain ⟨record, hnext⟩ := hrecord (n + 1) hn
  rw [answer_of_isAtEnd hend] at hnext
  cases hnext

/-- Two records and behind them a line that is not text. -/
theorem answer_append_notText :
    let text := "dn: a\n\ndn: b\n\n"
    (EndsBlank text.toList ∧
      ∀ n, (new ⟨Text.bytes text, none⟩).answer n = .ok [Record.new "a", Record.new "b"][n]?) ∧
    (new ⟨Text.bytes text ++ [0xFF, 10], none⟩).answer 0 = .ok (some (Record.new "a")) ∧
    (new ⟨Text.bytes text ++ [0xFF, 10], none⟩).answer 1 = .error (.io .invalidData) := by
  intro text
  have hblank : EndsBlank text.toList := ⟨by decide +kernel, by decide +kernel⟩
  have hread : ∀ n, (new ⟨Text.bytes text, none⟩).answer n =
      .ok [Record.new "a", Record.new "b"][n]? := fun n => by
    rw [@answer_of_physicalLines text ["dn: a".toList, [], "dn: b".toList, []]
      (by decide +kernel) (by decide)]
    exact Reading.answer_of_records _ n
  obtain ⟨hfirst, hlast⟩ := answer_append hblank hread [0xFF, 10] none
  refine ⟨⟨hblank, hread⟩, hfirst 0 (by decide), ?_⟩
  rw [hlast 1 rfl, if_pos (by decide +kernel)]
  decide +kernel

/-- A record is lost if the source fails right behind the blank line that completes
it. -/
theorem answer_append_broken :
    EndsBlank "dn: a\n\n".toList ∧
    (∀ n, (new ⟨Text.bytes "dn: a\n\n", none⟩).answer n = .ok [Record.new "a"][n]?) ∧
    (new ⟨Text.bytes "dn: a\n\n", some .broken⟩).answer 0 = .error (.io .broken) := by
  refine ⟨⟨by decide +kernel, by decide +kernel⟩, fun n => ?_, by decide +kernel⟩
  rw [@answer_of_physicalLines "dn: a\n\n" ["dn: a".toList, []] (by decide +kernel) (by decide)]
  exact Reading.answer_of_records _ n

end Reader

end DirectoryClient.Ldif
