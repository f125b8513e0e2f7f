import DirectoryClient.Proofs.Ldap.Calls

/-!
# What a search delivers

A search that found something owes its caller records: as many of its entries as
the configuration allows, in the order in which the server sent them, then word
of the end, once. What is owed at a moment can be read off the cursor, and every
call for the next record takes the first of it, while writes take nothing. So the
answers are known in advance, however the calls are mixed.

If there is a limit and it was reached, the end is a good one whatever the server
said last, because the server's last word is not waited for.
-/

namespace DirectoryClient.Ldap

/-! ## Deliveries -/

/-- Records that are to be handed out, and what is said when there are no more. -/
structure Delivery where
  records : List Record
  ending : Except Error Unit

namespace Delivery

/-- The answer to the call for a record that `n` others went before. After the end
there is nothing to take a record from. -/
def answer (d : Delivery) (n : Nat) : Except Error (Option Record) :=
  match d.records[n]? with
  | some record => .ok (some record)
  | none =>
      if n = d.records.length then d.ending.map fun _ => none
      else .error .noOpenSearch

/-- What is left of a delivery after `n` calls; nothing after its end. -/
def after (d : Delivery) (n : Nat) : Option Delivery :=
  if n ≤ d.records.length then some ⟨d.records.drop n, d.ending⟩ else none

theorem after_zero (d : Delivery) : d.after 0 = some d := by
  rw [after, if_pos (Nat.zero_le _), List.drop_zero]

end Delivery

/-- How many records a search may hand out. A limit of 0 is none. -/
def room? (config : Config) : Option Nat :=
  if config.sizeLimit = 0 then none else some config.sizeLimit.toNat

/-- Whether a search may end with the outcome: success, too many entries, or no
entry of the base's name. -/
def Outcome.isHarmless (o : Outcome) : Bool := o.code == 0 || o.code == 4 || o.code == 32

/-- What a search that found these entries delivers, with room for so many. The attributes
of a record are in the order in which the client finds them, whichever that is. -/
def delivery (room : Option Nat) (base : String) (entries : List Found) (outcome : Outcome) :
    Delivery where
  records :=
    (match room with
      | none => entries
      | some n => entries.take n).map fun e : Found =>
        { ((Entry.ofWire e.dn e.attributes).arrange e.order).toRecord with
          relativeName := some (DistinguishedName.relative e.dn base) }
  ending :=
    if room.any (· ≤ entries.length) || outcome.isHarmless then .ok ()
    else .error (.directory (.refused outcome))

theorem delivery_zero (base : String) (entries : List Found) (outcome : Outcome) :
    delivery (some 0) base entries outcome = ⟨[], .ok ()⟩ := by
  simp [delivery]

theorem delivery_nil {room : Option Nat} (h : room ≠ some 0) (base : String)
    (outcome : Outcome) :
    delivery room base [] outcome =
      ⟨[], if outcome.isHarmless then .ok () else .error (.directory (.refused outcome))⟩ := by
  cases room with
  | none => simp [delivery]
  | some n =>
      have hn : n ≠ 0 := by simpa using h
      simp [delivery, hn]

theorem delivery_cons {room : Option Nat} (h : room ≠ some 0) (base : String) (e : Found)
    (rest : List Found) (outcome : Outcome) :
    delivery room base (e :: rest) outcome =
      ⟨e.toRecord base :: (delivery (room.map (· - 1)) base rest outcome).records,
        (delivery (room.map (· - 1)) base rest outcome).ending⟩ := by
  cases room with
  | none => simp [delivery, Found.toRecord]
  | some n =>
      obtain ⟨k, rfl⟩ := Nat.exists_eq_succ_of_ne_zero (show n ≠ 0 by simpa using h)
      simp [delivery, Found.toRecord]

theorem checkSearch_eq (o : Outcome) :
    o.checkSearch = if o.isHarmless then .ok () else .error (.refused o) := by
  by_cases h : o.code = 0 ∨ o.code = 4 ∨ o.code = 32
  · have hharmless : o.isHarmless = true := by simpa [Outcome.isHarmless, or_assoc] using h
    rw [if_pos hharmless]
    exact if_pos h
  · have hharmless : ¬ o.isHarmless = true := by simpa [Outcome.isHarmless, or_assoc] using h
    rw [if_neg hharmless]
    exact if_neg h

theorem Server.nextReply_congr {s s' : Server} (h : s.replies = s'.replies) :
    s.nextReply.1 = s'.nextReply.1 := by
  unfold nextReply
  rw [h]
  split <;> rfl

theorem Connection.search_of_answer {c : Connection} {server : Server} {messages : List Message}
    {outcome : Outcome} (hopen : c.isOpen server = true)
    (hreply : server.nextReply.1 = .answer messages outcome true) (q : Query) :
    ∃ id server', c.search q server =
      (.ok ⟨id, messages.filterMap Message.entry?, some outcome⟩, server') := by
  have hnext : (c.send (.search q) server).2.nextReply.1 = .answer messages outcome true :=
    (Server.nextReply_congr (replies_send c _ server)).trans hreply
  simp only [send, if_pos hopen] at hnext
  simp only [search, send, if_pos hopen]
  split
  · next heq =>
      rw [heq] at hnext
      cases hnext
      exact ⟨_, _, rfl⟩
  · next heq =>
      rw [heq] at hnext
      cases hnext
  · next heq =>
      rw [heq] at hnext
      cases hnext

namespace Session

/-- What a session owes to whoever asks it for records. -/
def Owes (s : Session) : Option Delivery → Prop
  | none => s.cursor = none
  | some d => ∃ cursor outcome, s.cursor = some cursor ∧ cursor.outcome = some outcome ∧
      d = delivery ((room? s.config).map (· - cursor.produced)) cursor.base cursor.rest outcome

/-! ## One call -/

theorem isSpent_iff {config : Config} {cursor : Cursor} :
    isSpent config cursor = true ↔ (room? config).map (· - cursor.produced) = some 0 := by
  by_cases h : config.sizeLimit = 0
  · simp [isSpent, room?, h]
  · simp [isSpent, room?, h, Nat.sub_eq_zero_iff_le]

theorem next_of_owes_none {s : Session} (h : s.Owes none) :
    s.next = (.error .noOpenSearch, s) := by
  have hcursor : s.cursor = none := h
  rw [next, hcursor]

theorem next_of_owes_nil {s : Session} {ending : Except Error Unit}
    (h : s.Owes (some ⟨[], ending⟩)) :
    ∃ s', s.next = (ending.map fun _ => none, s') ∧ s'.Owes none := by
  obtain ⟨cursor, outcome, hcursor, houtcome, hd⟩ := h
  simp only [next, hcursor]
  by_cases hspent : isSpent s.config cursor = true
  · rw [isSpent_iff.1 hspent, delivery_zero] at hd
    cases hd
    rw [if_pos hspent]
    exact ⟨_, rfl, cursor_discard s⟩
  · rw [if_neg hspent]
    rw [isSpent_iff] at hspent
    cases hrest : cursor.rest with
    | cons e rest =>
        rw [hrest, delivery_cons hspent] at hd
        cases hd
    | nil =>
        rw [hrest, delivery_nil hspent] at hd
        cases hd
        refine ⟨{ s with
          cursor := none
          server := (cursor.connection.readEnd cursor.id cursor.outcome s.server).2 }, ?_, rfl⟩
        simp only [finish_eq, houtcome, Connection.readEnd, Except.bind, checkSearch_eq]
        split <;> rfl

theorem next_of_owes_cons {s : Session} {record : Record} {records : List Record}
    {ending : Except Error Unit} (h : s.Owes (some ⟨record :: records, ending⟩)) :
    ∃ s', s.next = (.ok (some record), s') ∧ s'.Owes (some ⟨records, ending⟩) := by
  obtain ⟨cursor, outcome, hcursor, houtcome, hd⟩ := h
  simp only [next, hcursor]
  by_cases hspent : isSpent s.config cursor = true
  · rw [isSpent_iff.1 hspent, delivery_zero] at hd
    cases hd
  · rw [if_neg hspent]
    rw [isSpent_iff] at hspent
    cases hrest : cursor.rest with
    | nil =>
        rw [hrest, delivery_nil hspent] at hd
        cases hd
    | cons e rest =>
        rw [hrest, delivery_cons hspent] at hd
        cases hd
        refine ⟨_, rfl, _, outcome, rfl, houtcome, ?_⟩
        simp [Option.map_map, Function.comp_def, Nat.sub_add_eq]

/-- A call for the next record takes the first of what is owed. -/
theorem next_of_owes {s : Session} {d : Delivery} {n : Nat} (h : s.Owes (d.after n)) :
    s.next.1 = d.answer n ∧ s.next.2.Owes (d.after (n + 1)) := by
  by_cases hle : n ≤ d.records.length
  · rw [Delivery.after, if_pos hle] at h
    cases hdrop : d.records.drop n with
    | nil =>
        have hn : n = d.records.length := by
          have := List.drop_eq_nil_iff.1 hdrop
          omega
        rw [hdrop] at h
        obtain ⟨s', hnext, hnone⟩ := next_of_owes_nil h
        rw [hnext, Delivery.after, if_neg (by omega)]
        refine ⟨?_, hnone⟩
        rw [Delivery.answer, List.getElem?_eq_none (by omega)]
        simp only [if_pos hn]
    | cons record rest =>
        have hlt : n < d.records.length := by
          have := congrArg List.length hdrop
          simp only [List.length_drop, List.length_cons] at this
          omega
        have hcons := List.drop_eq_getElem_cons hlt
        rw [hdrop] at hcons h
        obtain ⟨rfl, rfl⟩ := List.cons.inj hcons
        obtain ⟨s', hnext, howes⟩ := next_of_owes_cons h
        rw [hnext, Delivery.after, if_pos (by omega)]
        refine ⟨?_, howes⟩
        rw [Delivery.answer, List.getElem?_eq_getElem hlt]
  · rw [Delivery.after, if_neg hle] at h
    rw [next_of_owes_none h, Delivery.after, if_neg (by omega), Delivery.answer,
      List.getElem?_eq_none (by omega)]
    simp only [if_neg (show ¬ n = d.records.length by omega)]
    exact ⟨trivial, h⟩

theorem owes_of_frame {s s' : Session} {x : Option Delivery} (h : s.Owes x)
    (hcursor : s'.cursor = s.cursor) (hconfig : s'.config = s.config) : s'.Owes x := by
  cases x with
  | none => exact hcursor.trans h
  | some d =>
      obtain ⟨cursor, outcome, hs, houtcome, hd⟩ := h
      exact ⟨cursor, outcome, hcursor.trans hs, houtcome, by rw [hconfig]; exact hd⟩

/-! ## Any number of calls -/

/-- Calls for records, mixed with writes in any way, are answered with what is
owed, in order. The induction is on the calls: a record is taken by each that asks
for one, and nothing by the others. -/
theorem run_of_owes {calls : List Call} {s : Session} {d : Delivery} {n : Nat}
    (h : s.Owes (d.after n)) (hcalls : ∀ call ∈ calls, call = .next ∨ ∃ w, call = .write w) :
    s.nexts calls = (List.range' n (calls.countP Call.isNext)).map d.answer ∧
      (s.run calls).2.Owes (d.after (n + calls.countP Call.isNext)) := by
  induction calls generalizing s n with
  | nil => exact ⟨rfl, h⟩
  | cons call rest ih =>
      obtain ⟨hcall, hrest⟩ := List.forall_mem_cons.1 hcalls
      rcases hcall with rfl | ⟨w, rfl⟩
      · obtain ⟨hanswer, howes⟩ := next_of_owes h
        obtain ⟨hnexts, hafter⟩ := ih howes hrest
        rw [List.countP_cons_of_pos rfl, nexts_next, List.range'_succ, List.map_cons, hanswer,
          hnexts]
        refine ⟨rfl, ?_⟩
        rw [run_cons, Nat.add_comm (rest.countP Call.isNext), ← Nat.add_assoc]
        exact hafter
      · obtain ⟨hkeeps, hcursor⟩ := write_frame s w
        obtain ⟨hnexts, hafter⟩ := ih (owes_of_frame h hcursor hkeeps.config_eq) hrest
        rw [List.countP_cons_of_neg (by simp [Call.isNext]), nexts_write]
        exact ⟨hnexts, hafter⟩

/-- No record is to be had from the session until a search tells that it found
something. -/
def IsIdle (s : Session) : Prop :=
  ∀ calls, .searched (.ok true) ∉ (s.run calls).1 →
    ∀ answer ∈ s.nexts calls, answer = .error .noOpenSearch

theorem cursor_perform {s : Session} {call : Call} (h : s.cursor = none)
    (hsearch : (s.perform call).1 ≠ .searched (.ok true)) :
    (s.perform call).2.cursor = none := by
  cases call with
  | reinit files => exact cursor_reinit s files
  | close => exact cursor_close s
  | search base filter scope =>
      refine cursor_search ?_
      intro heq
      exact hsearch (congrArg Answer.searched heq)
  | next =>
      have hnext := next_of_owes_none (s := s) h
      rw [perform, hnext]
      exact h
  | write w => exact (write_frame s w).2.trans h

theorem isIdle_of_cursor {s : Session} (h : s.cursor = none) : s.IsIdle := by
  intro calls
  induction calls generalizing s with
  | nil =>
      intro _ answer hanswer
      cases hanswer
  | cons call rest ih =>
      intro hsearched answer hanswer
      rw [run_cons, List.mem_cons, not_or] at hsearched
      have hrest := ih (cursor_perform h (Ne.symm hsearched.1)) hsearched.2
      by_cases hcall : call = .next
      · subst hcall
        rw [nexts_next, List.mem_cons, next_of_owes_none h] at hanswer
        rcases hanswer with rfl | hanswer
        · rfl
        · refine hrest answer ?_
          rw [perform, next_of_owes_none h]
          exact hanswer
      · rw [nexts_of_next?_eq_none (next?_perform hcall)] at hanswer
        exact hrest answer hanswer

/-! ## Searching -/

section

variable {s : Session} {c : Connection} {messages : List Message} {outcome : Outcome}
  {filter : Option String} {f : Filter}

/-- Giving up the search before takes nothing from the answer to the next one. -/
theorem search_of_discard (hopen : c.isOpen s.server = true)
    (hreply : s.server.nextReply.1 = .answer messages outcome true) (q : Query) :
    ∃ id server, c.search q s.discard.server =
      (.ok ⟨id, messages.filterMap Message.entry?, some outcome⟩, server) :=
  Connection.search_of_answer ((isOpen_discard c s).trans hopen)
    ((Server.nextReply_congr (replies_discard s)).trans hreply) q

/-- A search that found nothing is over at once. -/
theorem search_of_empty (hconnection : s.connection = some c)
    (hopen : c.isOpen s.server = true)
    (hreply : s.server.nextReply.1 = .answer messages outcome true)
    (hfilter : Filter.parse? (filter.getD defaultFilter) = some f)
    (hentries : messages.filterMap Message.entry? = []) (base : String) (scope : Scope) :
    ∃ s', s.search base filter scope =
        (if outcome.isHarmless then .ok false else .error (.directory (.refused outcome)), s') ∧
      s'.cursor = none := by
  obtain ⟨id, server, hsearch⟩ := search_of_discard hopen hreply
    ⟨base, scope, min s.discard.config.sizeLimit.toNat largestSizeLimit, f⟩
  refine ⟨{ s.discard with cursor := none, server := (c.readEnd id (some outcome) server).2 },
    ?_, rfl⟩
  simp only [search, (keeps_discard s).connection_eq, hconnection, hfilter, hsearch, hentries,
    List.isEmpty_nil, ↓reduceIte, finish_eq, Connection.readEnd, Except.bind, checkSearch_eq]
  split <;> rfl

/-- A search that found entries owes them to its caller. -/
theorem search_of_entries (hconnection : s.connection = some c)
    (hopen : c.isOpen s.server = true)
    (hreply : s.server.nextReply.1 = .answer messages outcome true)
    (hfilter : Filter.parse? (filter.getD defaultFilter) = some f)
    (hentries : messages.filterMap Message.entry? ≠ []) (base : String) (scope : Scope) :
    ∃ s', s.search base filter scope = (.ok true, s') ∧
      s'.Owes (some (delivery (room? s.config) base (messages.filterMap Message.entry?)
        outcome)) := by
  obtain ⟨id, server, hsearch⟩ := search_of_discard hopen hreply
    ⟨base, scope, min s.discard.config.sizeLimit.toNat largestSizeLimit, f⟩
  have hne : ¬ (messages.filterMap Message.entry?).isEmpty = true := by simpa using hentries
  simp only [search, (keeps_discard s).connection_eq, hconnection, hfilter, hsearch, if_neg hne]
  refine ⟨_, rfl, _, outcome, rfl, rfl, ?_⟩
  simp [(keeps_discard s).config_eq]

end

/-- The records of a search, however the calls for them are mixed with writes. A
search that found nothing tells so, or fails if the server's last word is an error,
and opens nothing. Any other search delivers its entries, up to the limit, and then
its end, once; from then on no search is open until another one finds something. -/
theorem search_delivers {s : Session} {c : Connection} {messages : List Message}
    {outcome : Outcome} {filter : Option String} {f : Filter}
    (hconnection : s.connection = some c) (hopen : c.isOpen s.server = true)
    (hreply : s.server.nextReply.1 = .answer messages outcome true)
    (hfilter : Filter.parse? (filter.getD defaultFilter) = some f) (base : String)
    (scope : Scope) :
    (messages.filterMap Message.entry? = [] →
      (s.search base filter scope).1 =
        (if outcome.isHarmless then .ok false else .error (.directory (.refused outcome))) ∧
      (s.search base filter scope).2.IsIdle) ∧
    (messages.filterMap Message.entry? ≠ [] →
      (s.search base filter scope).1 = .ok true ∧
      ∀ calls : List Call, (∀ call ∈ calls, call = .next ∨ ∃ w, call = .write w) →
        (s.search base filter scope).2.nexts calls =
          (List.range (calls.countP Call.isNext)).map
            (delivery (room? s.config) base (messages.filterMap Message.entry?) outcome).answer ∧
        ((delivery (room? s.config) base (messages.filterMap Message.entry?)
              outcome).records.length < calls.countP Call.isNext →
          ((s.search base filter scope).2.run calls).2.IsIdle)) := by
  constructor
  · intro hentries
    obtain ⟨s', hsearch, hnone⟩ :=
      search_of_empty hconnection hopen hreply hfilter hentries base scope
    rw [hsearch]
    exact ⟨rfl, isIdle_of_cursor hnone⟩
  · intro hentries
    obtain ⟨s', hsearch, howes⟩ :=
      search_of_entries hconnection hopen hreply hfilter hentries base scope
    rw [hsearch]
    refine ⟨rfl, fun calls hcalls => ?_⟩
    rw [← Delivery.after_zero (delivery _ _ _ _)] at howes
    obtain ⟨hnexts, hafter⟩ := run_of_owes howes hcalls
    rw [Nat.zero_add] at hafter
    refine ⟨by rw [hnexts, List.range_eq_range'], fun hlt => ?_⟩
    rw [Delivery.after, if_neg (by omega)] at hafter
    exact isIdle_of_cursor hafter

/-- One of two entries is handed out, whatever is deleted meanwhile. Its attributes come
in another order than the one in which the server sent them. -/
theorem search_delivers_one :
    let url : Url := ⟨"ldap", none, .flat "", none, none⟩
    let backwards : Entry.Order :=
      ⟨List.reverse, List.reverse, List.reverse_perm, List.reverse_perm⟩
    let found : List Message :=
      [.entry ⟨"cn=a,o=b", [("sn", [[0x78]]), ("jpegPhoto", [[0xFF]]), ("mail", [[0x79], [0x7A]])],
          backwards⟩,
        .entry ⟨"cn=c,o=b", [("sn", [[0x78]])], .asSent⟩]
    let s := (connect ⟨"/", []⟩ { Config.new url with sizeLimit := 1 }
      (.new (.network url) [.answer found ⟨51, "", ""⟩ true])).2
    (s.search "o=b" (some "cn=*") .subtree).2.nexts
        [.next, .write (.destroy "cn=d"), .next, .next] =
      [.ok (some { Record.new "cn=a,o=b" with
          relativeName := some "cn=a"
          attributes := [⟨"mail", [.text "y", .text "z"]⟩, ⟨"sn", [.text "x"]⟩,
            ⟨"jpegPhoto", [.binary [0xFF]]⟩] }),
        .ok none, .error .noOpenSearch] := by
  intro url backwards found s
  refine Eq.trans (((@search_delivers s ⟨1⟩ found ⟨51, "", ""⟩ (some "cn=*")
    (.present (Filter.ascii "cn")) ?connection ?isOpen ?reply ?filter "o=b" .subtree).2
    ?entries).2 _ ?calls).1 ?_
  case connection | isOpen | reply | filter => rfl
  case entries | calls => simp [found, Message.entry?]
  dsimp only [found, backwards]
  rfl

end Session

end DirectoryClient.Ldap
