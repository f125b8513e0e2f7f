import DirectoryClient.Proofs.Ldap.Calls

/-!
# Orderly transcripts

A server works on a search until the client has read its end, has failed to, or
has told it to stop. Going through a transcript one knows at every event which
search is outstanding on a connection (`outstanding`), and so whether the event
is in order there (`Follows`): no search starts and no connection ends while a
search is outstanding, and only an outstanding search is read to its end or
stopped.

In an orderly transcript a search is settled exactly once, unless it is
outstanding (`Orderly.countP_settles`). Requests have numbers of their own, so
that no later search is taken for an earlier one.
-/

namespace DirectoryClient.Ldap

/-! ## Transcripts -/

namespace Event

def connection : Event → Nat
  | sent connection _ _ => connection
  | ended connection _ _ => connection

/-- Whether a request was sent over the connection. -/
def isSent (connection : Nat) : Event → Bool
  | sent c _ _ => c == connection
  | ended _ _ _ => false

/-- Whether the search of this number was sent over the connection. -/
def isSearch (connection id : Nat) : Event → Bool
  | sent c i (.search _) => c == connection && i == id
  | _ => false

/-- Whether a search is over: its end was read, or could not be, or the server was
told to stop. -/
def settles (connection id : Nat) : Event → Bool
  | sent c _ (.abandon target) => c == connection && target == id
  | ended c i _ => c == connection && i == id
  | _ => false

/-- Whether a connection turns to something else: to the next search, or to its
end. -/
def turns (connection : Nat) : Event → Bool
  | sent c _ (.search _) => c == connection
  | sent c _ .unbind => c == connection
  | _ => false

/-- The search that is outstanding on a connection after an event, given the one
before it. -/
def track (connection : Nat) (search : Option Nat) : Event → Option Nat
  | sent c id (.search _) => if c = connection then some id else search
  | sent c _ (.abandon _) => if c = connection then none else search
  | ended c _ _ => if c = connection then none else search
  | _ => search

end Event

/-- The search that is outstanding on a connection. -/
def outstanding (connection : Nat) (events : List Event) : Option Nat :=
  events.foldl (Event.track connection) none

/-- Requests are numbered by their connection. A search and the end of a connection
come when no search is outstanding; what is read or stopped is the outstanding
search. -/
def Follows (events : List Event) : Event → Prop
  | .sent c id r => id = events.countP (Event.isSent c) + 1 ∧
      match r with
      | .search _ | .unbind => outstanding c events = none
      | .abandon target => outstanding c events = some target
      | _ => True
  | .ended c id _ => outstanding c events = some id

/-- Every event follows those before it. -/
inductive Orderly : List Event → Prop
  | nil : Orderly []
  | snoc {events : List Event} {e : Event} : Orderly events → Follows events e →
      Orderly (events ++ [e])

theorem outstanding_snoc (connection : Nat) (events : List Event) (e : Event) :
    outstanding connection (events ++ [e]) =
      e.track connection (outstanding connection events) := by
  rw [outstanding, List.foldl_append]
  rfl

theorem Event.track_of_ne {n : Nat} {e : Event} (h : e.connection ≠ n) (search : Option Nat) :
    e.track n search = search := by
  cases e with
  | sent c id r => cases r <;> first | rfl | exact if_neg h
  | ended c id result => exact if_neg h

theorem Event.settles_of_ne {n : Nat} {e : Event} (h : e.connection ≠ n) (id : Nat) :
    e.settles n id = false ∧ e.isSearch n id = false := by
  cases e with
  | sent c i r =>
      have hc : (c == n) = false := beq_false_of_ne h
      cases r <;> simp [settles, isSearch, hc]
  | ended c i result =>
      have hc : (c == n) = false := beq_false_of_ne h
      simp [settles, isSearch, hc]

theorem Event.isSearch_iff {c id : Nat} {e : Event} :
    e.isSearch c id = true ↔ ∃ q, e = .sent c id (.search q) := by
  cases e with
  | sent c' id' r => cases r <;> simp [isSearch]
  | ended c' id' result => simp [isSearch]

theorem Event.eq_of_track {c id : Nat} {search : Option Nat} {e : Event}
    (h : e.track c search = some id) : search = some id ∨ ∃ q, e = .sent c id (.search q) := by
  cases e with
  | sent c' id' r =>
      cases r with
      | search q =>
          rw [track] at h
          split at h
          · next hc =>
              cases h
              exact Or.inr ⟨q, by rw [hc]⟩
          · exact Or.inl h
      | abandon target =>
          rw [track] at h
          split at h
          · cases h
          · exact Or.inl h
      | bind | add | modify | delete | unbind => exact Or.inl h
  | ended c' id' result =>
      rw [track] at h
      split at h
      · cases h
      · exact Or.inl h

theorem outstanding_of_notMem {n : Nat} {events : List Event}
    (h : ∀ e ∈ events, e.connection ≠ n) : outstanding n events = none := by
  unfold outstanding
  induction events with
  | nil => rfl
  | cons e rest ih =>
      obtain ⟨he, hrest⟩ := List.forall_mem_cons.1 h
      rw [List.foldl_cons, Event.track_of_ne he, ih hrest]

theorem countP_isSent_of_notMem {n : Nat} {events : List Event}
    (h : ∀ e ∈ events, e.connection ≠ n) : events.countP (Event.isSent n) = 0 := by
  rw [List.countP_eq_zero]
  intro e he
  have := h e he
  cases e with
  | sent c id r =>
      rw [Event.isSent, beq_iff_eq]
      exact this
  | ended c id result => simp [Event.isSent]

/-- An outstanding search was sent. -/
theorem exists_search_of_outstanding {events : List Event} {c id : Nat}
    (h : outstanding c events = some id) : ∃ q, .sent c id (.search q) ∈ events := by
  suffices hfold : ∀ search, events.foldl (Event.track c) search = some id →
      search = some id ∨ ∃ q, .sent c id (.search q) ∈ events by
    exact (hfold none h).resolve_left (by simp)
  clear h
  induction events with
  | nil => exact fun search h => Or.inl h
  | cons e rest ih =>
      intro search h
      rcases ih _ h with htrack | ⟨q, hmem⟩
      · rcases Event.eq_of_track htrack with rfl | ⟨q, rfl⟩
        · exact Or.inl rfl
        · exact Or.inr ⟨q, List.mem_cons_self⟩
      · exact Or.inr ⟨q, List.mem_cons_of_mem e hmem⟩

/-- What an event that is in order does to the searches of a connection: nothing; or it
is the next search, and none was outstanding; or it settles the outstanding one. -/
theorem Follows.cases {events : List Event} {e : Event} (h : Follows events e) (c : Nat) :
    (e.track c (outstanding c events) = outstanding c events ∧
      ∀ id, e.settles c id = false ∧ e.isSearch c id = false) ∨
    (∃ id q, e = .sent c id (.search q) ∧ outstanding c events = none ∧
      id = events.countP (Event.isSent c) + 1) ∨
    ∃ id, outstanding c events = some id ∧ e.track c (outstanding c events) = none ∧
      (∀ i, e.isSearch c i = false) ∧ ∀ i, e.settles c i = (id == i) := by
  by_cases hc : e.connection = c
  · subst hc
    cases e with
    | ended c id result =>
        refine Or.inr (Or.inr ⟨id, h, if_pos rfl, fun i => rfl, fun i => ?_⟩)
        simp [Event.settles, Event.connection]
    | sent c id r =>
        cases r with
        | search q => exact Or.inr (Or.inl ⟨id, q, rfl, h.2, h.1⟩)
        | abandon target =>
            refine Or.inr (Or.inr ⟨target, h.2, if_pos rfl, fun i => rfl, fun i => ?_⟩)
            simp [Event.settles, Event.connection]
        | bind | add | modify | delete | unbind => exact Or.inl ⟨rfl, fun _ => ⟨rfl, rfl⟩⟩
  · exact Or.inl ⟨Event.track_of_ne hc _, fun id => Event.settles_of_ne hc id⟩

namespace Orderly

/-- What comes first in an orderly transcript is orderly. -/
theorem of_eq_append {events before after : List Event} (h : Orderly events)
    (heq : events = before ++ after) : Orderly before := by
  induction h generalizing after with
  | nil =>
      obtain ⟨rfl, -⟩ := List.append_eq_nil_iff.1 heq.symm
      exact .nil
  | @snoc events e hevents hfollows ih =>
      rcases List.eq_nil_or_concat after with rfl | ⟨more, last, rfl⟩
      · rw [List.append_nil] at heq
        exact heq ▸ hevents.snoc hfollows
      · rw [List.concat_eq_append, ← List.append_assoc] at heq
        exact ih (List.append_inj' heq rfl).1

theorem follows {before after : List Event} {e : Event}
    (h : Orderly (before ++ e :: after)) : Follows before e := by
  have hall : Orderly (before ++ [e]) := by
    rw [← List.singleton_append, ← List.append_assoc] at h
    exact h.of_eq_append rfl
  generalize heq : before ++ [e] = all at hall
  cases hall with
  | nil => simp at heq
  | snoc _ hfollows =>
      obtain ⟨rfl, hlast⟩ := List.append_inj' heq rfl
      cases hlast
      exact hfollows

/-- The number of an earlier request is smaller. -/
theorem number_le {events : List Event} (h : Orderly events) {c id : Nat} {r : Request}
    (hmem : .sent c id r ∈ events) : id ≤ events.countP (Event.isSent c) := by
  induction h with
  | nil => cases hmem
  | @snoc events e hevents hfollows ih =>
      rw [List.countP_append]
      rcases List.mem_append.1 hmem with hmem | hmem
      · exact Nat.le_add_right_of_le (ih hmem)
      · obtain rfl := List.mem_singleton.1 hmem
        have hsent : Event.isSent c (.sent c id r) = true := by simp [Event.isSent]
        rw [List.countP_singleton, if_pos hsent]
        exact Nat.le_of_eq hfollows.1

/-- The number of the next request is that of no search yet. -/
theorem any_isSearch_next {events : List Event} (h : Orderly events) (c : Nat) :
    events.any (Event.isSearch c (events.countP (Event.isSent c) + 1)) = false := by
  rw [List.any_eq_false]
  intro e he hsearch
  obtain ⟨q, rfl⟩ := Event.isSearch_iff.1 hsearch
  exact absurd (h.number_le he) (Nat.not_succ_le_self _)

/-- Each search is settled once, unless it is outstanding, and nothing else is. The
induction is on the transcript: the end of a search is in order only while the search
is outstanding, and its number is not given again. -/
theorem countP_settles {events : List Event} (h : Orderly events) (c id : Nat) :
    events.countP (Event.settles c id) =
      if events.any (Event.isSearch c id) = true ∧ outstanding c events ≠ some id then 1
      else 0 := by
  induction h with
  | nil => rfl
  | @snoc events e hevents hfollows ih =>
      rw [List.countP_append, List.countP_singleton, List.any_append, List.any_cons, List.any_nil,
        Bool.or_false, outstanding_snoc, ih]
      rcases hfollows.cases c with ⟨htrack, hquiet⟩ | ⟨id', q, rfl, hnone, hid⟩ |
        ⟨id', hsome, htrack, hsearch, hsettles⟩
      · obtain ⟨hsettles, hsearch⟩ := hquiet id
        rw [htrack, hsettles, hsearch]
        simp
      · by_cases heq : id' = id
        · -- the number is new, so that the search was not settled before
          have hnew : events.any (Event.isSearch c id) = false := by
            rw [← heq, hid]
            exact hevents.any_isSearch_next c
          simp [hnew, heq, Event.track, Event.settles]
        · simp [Event.track, Event.settles, Event.isSearch, hnone, heq]
      · rw [htrack, hsearch, hsettles, hsome]
        by_cases heq : id' = id
        · subst heq
          obtain ⟨q, hmem⟩ := exists_search_of_outstanding hsome
          have hany : events.any (Event.isSearch c id') = true :=
            List.any_eq_true.2 ⟨_, hmem, Event.isSearch_iff.2 ⟨q, rfl⟩⟩
          simp [hany]
        · simp [heq]

end Orderly

/-! ## What it means that searches are settled -/

/-- Every search is settled once before its connection turns to something else: its end
was read, or could not be, or the server was told to stop it. None is settled twice, so
that a search that was read to its end is never stopped; and what is stopped is a
search of the same connection. -/
structure SettlesSearches (events : List Event) : Prop where
  countP_settles_eq : ∀ (before between after : List Event) (c id : Nat) (q : Query) (stop : Event),
    events = before ++ .sent c id (.search q) :: (between ++ stop :: after) →
      stop.turns c = true → between.countP (Event.settles c id) = 1
  countP_settles_le : ∀ c id, events.countP (Event.settles c id) ≤ 1
  exists_search : ∀ (before after : List Event) (c i target : Nat),
    events = before ++ .sent c i (.abandon target) :: after →
      ∃ q, .sent c target (.search q) ∈ before

namespace Orderly

/-- No search is outstanding where a connection turns to something else. -/
theorem outstanding_of_turns {events : List Event} {c : Nat} {stop : Event}
    (h : Follows events stop) (hstop : stop.turns c = true) : outstanding c events = none := by
  cases stop with
  | ended c' id result => cases hstop
  | sent c' id r =>
      cases r with
      | search q =>
          obtain rfl : c' = c := by simpa [Event.turns] using hstop
          exact h.2
      | unbind =>
          obtain rfl : c' = c := by simpa [Event.turns] using hstop
          exact h.2
      | bind | add | modify | delete | abandon => cases hstop

theorem settlesSearches {events : List Event} (h : Orderly events) : SettlesSearches events where
  countP_settles_eq := by
    intro before between after c id q stop heq hstop
    have hsearch : Follows before (.sent c id (.search q)) := (heq ▸ h).follows
    have hbefore : Orderly before := h.of_eq_append heq
    have hsplit : events = (before ++ .sent c id (.search q) :: between) ++ stop :: after := by
      simp [heq]
    have hpart := (h.of_eq_append hsplit).countP_settles c id
    have hnone := outstanding_of_turns (hsplit ▸ h).follows hstop
    -- before it was sent the search was not settled, so all of the count is after that
    have hnew : before.any (Event.isSearch c id) = false := by
      rw [hsearch.1]
      exact hbefore.any_isSearch_next c
    have hzero : before.countP (Event.settles c id) = 0 := by
      rw [hbefore.countP_settles, hnew]
      rfl
    have hsent : Event.isSearch c id (.sent c id (.search q)) = true :=
      Event.isSearch_iff.2 ⟨q, rfl⟩
    have hquiet : Event.settles c id (.sent c id (.search q)) = false := rfl
    rw [List.countP_append, List.countP_cons, hzero, hquiet, List.any_append, List.any_cons, hsent,
      hnone] at hpart
    simpa using hpart
  countP_settles_le := fun c id => by
    rw [h.countP_settles]
    split
    · exact Nat.le_refl 1
    · exact Nat.zero_le 1
  exists_search := by
    intro before after c i target heq
    have hstop : Follows before (.sent c i (.abandon target)) := (heq ▸ h).follows
    exact exists_search_of_outstanding hstop.2

end Orderly

end DirectoryClient.Ldap
