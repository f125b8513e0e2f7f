import DirectoryClient.Ldap.Session

/-!
# Calls on a session

A session is used by calling it, in any order: `Session.perform` makes one call
and `Session.run` makes one after another, keeping all answers. What the calls do
to the open search and to the connection is told here once for each of them. Writes
leave both alone; every call that connects, closes or searches gives the open search up;
and only `reinit` and `close` touch the connection.

A search has its own hold of the connection that it was started on, which is set at
another moment than the one of the session. That both are always the same is an invariant
of the calls (`Session.IsHeld`).
-/

namespace DirectoryClient.Ldap

/-- Whether a request has nothing to do with searches, nor ends the connection. -/
def Request.isPlain : Request → Bool
  | .search _ | .abandon _ | .unbind => false
  | .bind _ _ | .add _ _ | .modify _ _ | .delete _ => true

/-- A call that changes entries. -/
inductive Write
  | create (r : Record)
  | modify (dn : String) (edits : List Edit)
  | replaceValues (dn name : String) (values : List Value)
  | replace (dn name : String) (value : Value)
  | replaceValue (dn name : String) (old new : Value)
  | destroy (dn : String)

/-- A call on a session. -/
inductive Call
  | reinit (files : Files)
  | close
  | search (base : String) (filter : Option String) (scope : Scope)
  | next
  | write (w : Write)

/-- Whether a call asks for the next record. -/
def Call.isNext : Call → Bool
  | next => true
  | _ => false

/-- The answer to a call. -/
inductive Answer
  | connected (result : Except Error Unit)
  | closed
  | searched (result : Except Error Bool)
  | next (result : Except Error (Option Record))
  | created (result : Except Error Bool)
  | written (result : Except Error Unit)

/-- What a call for the next record was answered. -/
def Answer.next? : Answer → Option (Except Error (Option Record))
  | next result => some result
  | _ => none

theorem Connection.replies_send (c : Connection) (r : Request) (s : Server) :
    (c.send r s).2.replies = s.replies := by
  unfold send
  split <;> rfl

/-- Sending does not close any connection, nor open one. -/
theorem Connection.isOpen_send (c c' : Connection) (r : Request) (s : Server) :
    c'.isOpen (c.send r s).2 = c'.isOpen s := by
  unfold send
  split
  · next hopen =>
      unfold isOpen at hopen ⊢
      by_cases hnumber : c'.number = c.number
      · rw [hnumber, hopen]
        exact congrArg Line.isOpen (if_pos rfl)
      · exact congrArg Line.isOpen (if_neg hnumber)
  · rfl

namespace Session

/-- Makes a call that changes entries. -/
def write (s : Session) : Write → Answer × Session
  | .create r => (.created (s.create r).1, (s.create r).2)
  | .modify dn edits => (.written (s.modify dn edits).1, (s.modify dn edits).2)
  | .replaceValues dn name values =>
      (.written (s.replaceValues dn name values).1, (s.replaceValues dn name values).2)
  | .replace dn name value => (.written (s.replace dn name value).1, (s.replace dn name value).2)
  | .replaceValue dn name old new =>
      (.written (s.replaceValue dn name old new).1, (s.replaceValue dn name old new).2)
  | .destroy dn => (.written (s.destroy dn).1, (s.destroy dn).2)

/-- Makes a call. -/
def perform (s : Session) : Call → Answer × Session
  | .reinit files => (.connected (s.reinit files).1, (s.reinit files).2)
  | .close => (.closed, s.close)
  | .search base filter scope =>
      (.searched (s.search base filter scope).1, (s.search base filter scope).2)
  | .next => (.next s.next.1, s.next.2)
  | .write w => s.write w

/-- Makes calls one after another. -/
def run (s : Session) : List Call → List Answer × Session
  | [] => ([], s)
  | call :: rest =>
      let (answer, s) := s.perform call
      let (answers, s) := run s rest
      (answer :: answers, s)

/-- The answers to those among the calls that ask for the next record. -/
def nexts (s : Session) (calls : List Call) : List (Except Error (Option Record)) :=
  (s.run calls).1.filterMap Answer.next?

theorem run_cons (s : Session) (call : Call) (rest : List Call) :
    s.run (call :: rest) =
      ((s.perform call).1 :: ((s.perform call).2.run rest).1, ((s.perform call).2.run rest).2) :=
  rfl

theorem nexts_next (s : Session) (rest : List Call) :
    s.nexts (.next :: rest) = s.next.1 :: s.next.2.nexts rest := rfl

theorem nexts_of_next?_eq_none {s : Session} {call : Call} (h : (s.perform call).1.next? = none)
    (rest : List Call) : s.nexts (call :: rest) = (s.perform call).2.nexts rest := by
  rw [nexts, run_cons, List.filterMap_cons_none h, nexts]

theorem next?_perform {s : Session} {call : Call} (h : call ≠ .next) :
    (s.perform call).1.next? = none := by
  cases call with
  | next => exact absurd rfl h
  | write w => cases w <;> rfl
  | reinit | close | search => rfl

theorem nexts_write (s : Session) (w : Write) (rest : List Call) :
    s.nexts (.write w :: rest) = (s.write w).2.nexts rest :=
  nexts_of_next?_eq_none (next?_perform (by simp)) rest

/-! ## The open search -/

@[simp] theorem cursor_discard (s : Session) : s.discard.cursor = none := by
  unfold discard
  split
  · rfl
  · next h => exact h

theorem replies_discard (s : Session) : s.discard.server.replies = s.server.replies := by
  unfold discard
  split
  · exact Connection.replies_send _ _ _
  · rfl

theorem isOpen_discard (c : Connection) (s : Session) :
    c.isOpen s.discard.server = c.isOpen s.server := by
  unfold discard
  split
  · exact Connection.isOpen_send _ c _ _
  · rfl

theorem discard_of_cursor_none {s : Session} (h : s.cursor = none) : s.discard = s := by
  rw [discard, h]

@[simp] theorem cursor_close (s : Session) : s.close.cursor = none := by
  unfold close
  dsimp only
  split <;> exact cursor_discard s

@[simp] theorem connection_close (s : Session) : s.close.connection = none := by
  unfold close
  dsimp only
  split
  · rfl
  · next h => exact h

/-- At whatever stage a `reinit` fails, it leaves the session closed. -/
theorem reinit_cases (s : Session) (files : Files) :
    ∃ server, (∃ e, s.reinit files = (.error e, { s.close with server })) ∨
      ∃ c, s.reinit files = (.ok (), { s.close with connection := some c, server }) := by
  unfold reinit
  dsimp only
  split
  · next e _ => exact ⟨_, Or.inl ⟨e, rfl⟩⟩
  · split
    · next fault _ => exact ⟨_, Or.inl ⟨_, rfl⟩⟩
    · split
      · next fault server _ => exact ⟨server, Or.inl ⟨_, rfl⟩⟩
      · next server _ => exact ⟨server, Or.inr ⟨_, rfl⟩⟩

theorem cursor_reinit (s : Session) (files : Files) : (s.reinit files).2.cursor = none := by
  obtain ⟨server, ⟨e, heq⟩ | ⟨c, heq⟩⟩ := s.reinit_cases files
  · rw [heq]
    exact cursor_close s
  · rw [heq]
    exact cursor_close s

theorem finish_eq (s : Session) (c : Connection) (id : Nat) (outcome : Option Outcome) :
    s.finish c id outcome =
      (((c.readEnd id outcome s.server).1.bind Outcome.checkSearch).mapError .directory,
        { s with cursor := none, server := (c.readEnd id outcome s.server).2 }) := by
  unfold finish
  dsimp only
  cases (c.readEnd id outcome s.server).1.bind Outcome.checkSearch with
  | ok u => rfl
  | error fault => rfl

/-- What a search comes to after it has given up the one before. It sends nothing, or it
could not send, or what it sent found nothing and its end was read, or it is open now. -/
inductive Searched (s : Session) (base : String) (filter : Option String) (scope : Scope) :
    Except Error Bool × Session → Prop
  | notConnected (h : s.discard.connection = none) :
      Searched s base filter scope (.error (.connection .notConnected), s.discard)
  | badFilter {c : Connection} (hconnection : s.discard.connection = some c)
      (h : Filter.parse? (filter.getD defaultFilter) = none) :
      Searched s base filter scope (.error (.directory .badFilter), s.discard)
  | unsent {c : Connection} {q : Query} {fault : Fault} {server : Server}
      (hconnection : s.discard.connection = some c)
      (hsearch : c.search q s.discard.server = (.error fault, server)) :
      Searched s base filter scope (.error (.directory fault), { s.discard with server })
  | empty {c : Connection} {q : Query} {found : Findings} {server : Server}
      (hconnection : s.discard.connection = some c)
      (hsearch : c.search q s.discard.server = (.ok found, server)) (h : found.entries = []) :
      Searched s base filter scope
        ((((c.readEnd found.id found.outcome server).1.bind Outcome.checkSearch).mapError
          .directory).map fun _ => false,
          { s.discard with
            cursor := none, server := (c.readEnd found.id found.outcome server).2 })
  | opened {c : Connection} {q : Query} {found : Findings} {server : Server}
      (hconnection : s.discard.connection = some c)
      (hsearch : c.search q s.discard.server = (.ok found, server)) (h : found.entries ≠ []) :
      Searched s base filter scope (.ok true, { s.discard with
        cursor := some ⟨c, base, found.id, 0, found.entries, found.outcome⟩, server })

theorem searched (s : Session) (base : String) (filter : Option String) (scope : Scope) :
    Searched s base filter scope (s.search base filter scope) := by
  unfold search
  dsimp only
  split
  · next hconnection => exact .notConnected hconnection
  · next c hconnection =>
      split
      · next hfilter => exact .badFilter hconnection hfilter
      · split
        · next hsearch => exact .unsent hconnection hsearch
        · next found server hsearch =>
            split
            · next hempty =>
                rw [finish_eq]
                exact .empty hconnection hsearch (List.isEmpty_iff.1 hempty)
            · next hne =>
                exact .opened hconnection hsearch fun h => hne (List.isEmpty_iff.2 h)

/-- A search that does not announce anything leaves no search open. -/
theorem cursor_search {s : Session} {base : String} {filter : Option String} {scope : Scope}
    (h : (s.search base filter scope).1 ≠ .ok true) :
    (s.search base filter scope).2.cursor = none := by
  have hsearched := s.searched base filter scope
  generalize s.search base filter scope = result at h hsearched
  cases hsearched with
  | notConnected | badFilter | unsent => exact cursor_discard s
  | empty => rfl
  | opened => exact absurd rfl h

/-! ## Calls that keep the connection -/

/-- What most calls leave alone. -/
structure Keeps (s s' : Session) : Prop where
  config_eq : s'.config = s.config
  connection_eq : s'.connection = s.connection

theorem Keeps.refl (s : Session) : s.Keeps s := ⟨rfl, rfl⟩

theorem Keeps.trans {s s' s'' : Session} (h : s.Keeps s') (h' : s'.Keeps s'') : s.Keeps s'' where
  config_eq := h'.config_eq.trans h.config_eq
  connection_eq := h'.connection_eq.trans h.connection_eq

theorem keeps_discard (s : Session) : s.Keeps s.discard := by
  unfold discard
  split
  · exact ⟨rfl, rfl⟩
  · exact .refl s

theorem keeps_finish (s : Session) (c : Connection) (id : Nat) (outcome : Option Outcome) :
    s.Keeps (s.finish c id outcome).2 := by
  rw [finish_eq]
  exact ⟨rfl, rfl⟩

theorem keeps_search (s : Session) (base : String) (filter : Option String) (scope : Scope) :
    s.Keeps (s.search base filter scope).2 := by
  refine (keeps_discard s).trans ?_
  have hsearched := s.searched base filter scope
  generalize s.search base filter scope = result at hsearched
  cases hsearched with
  | notConnected | badFilter | unsent | empty | opened => exact ⟨rfl, rfl⟩

theorem keeps_next (s : Session) : s.Keeps s.next.2 := by
  unfold next
  split
  · exact .refl s
  · split
    · exact keeps_discard s
    · split
      · exact ⟨rfl, rfl⟩
      · exact keeps_finish _ _ _ _

/-- Asking leaves the open search alone as well. -/
theorem ask_frame (s : Session) (request : Option Request) :
    s.Keeps (s.ask request).2 ∧ (s.ask request).2.cursor = s.cursor := by
  unfold ask
  split
  · exact ⟨.refl s, rfl⟩
  · split
    · exact ⟨.refl s, rfl⟩
    · dsimp only
      split <;> exact ⟨⟨rfl, rfl⟩, rfl⟩

/-! ## Writes -/

theorem checked_snd (x : Except Error Outcome × Session) : (checked x).2 = x.2 := by
  unfold checked
  split
  · rfl
  · split <;> rfl

theorem create_snd (s : Session) (r : Record) :
    (s.create r).2 = (s.ask (Request.ofRecord? r)).2 := by
  unfold create
  split
  · next heq => rw [heq]
  · next heq =>
      rw [heq]
      split
      · rfl
      · split <;> rfl

/-- A write does nothing, or it sends one request that has nothing to do with
searches. -/
theorem write_cases (s : Session) (w : Write) :
    (s.write w).2 = s ∨
      ∃ request, (∀ r ∈ request, r.isPlain = true) ∧ (s.write w).2 = (s.ask request).2 := by
  have hedits : ∀ dn edits, ∀ r ∈ Request.ofEdits? dn edits, r.isPlain = true := by
    intro dn edits r hr
    rw [Request.ofEdits?] at hr
    split at hr
    · cases hr
    · cases hr
      rfl
  cases w with
  | create r =>
      refine Or.inr ⟨_, fun request hrequest => ?_, create_snd s r⟩
      rw [Request.ofRecord?] at hrequest
      split at hrequest
      · cases hrequest
      · cases hrequest
        rfl
  | modify dn edits => exact Or.inr ⟨_, hedits dn edits, checked_snd _⟩
  | replaceValues dn name values => exact Or.inr ⟨_, hedits dn _, checked_snd _⟩
  | replace dn name value => exact Or.inr ⟨_, hedits dn _, checked_snd _⟩
  | replaceValue dn name old new => exact Or.inl rfl
  | destroy dn =>
      refine Or.inr ⟨_, fun r hr => ?_, checked_snd _⟩
      cases hr
      rfl

/-- A write leaves the open search alone. -/
theorem write_frame (s : Session) (w : Write) :
    s.Keeps (s.write w).2 ∧ (s.write w).2.cursor = s.cursor := by
  rcases s.write_cases w with heq | ⟨request, -, heq⟩
  · rw [heq]
    exact ⟨.refl s, rfl⟩
  · rw [heq]
    exact ask_frame s request

/-! ## The connection of the open search -/

/-- An open search is on the connection that the session has. -/
def IsHeld (s : Session) : Prop :=
  ∀ cursor, s.cursor = some cursor → s.connection = some cursor.connection

theorem isHeld_of_cursor_none {s : Session} (h : s.cursor = none) : s.IsHeld := by
  intro cursor hcursor
  rw [h] at hcursor
  cases hcursor

theorem IsHeld.congr {s s' : Session} (h : s.IsHeld) (hcursor : s'.cursor = s.cursor)
    (hconnection : s'.connection = s.connection) : s'.IsHeld := by
  intro cursor heq
  rw [hconnection]
  exact h cursor (hcursor.symm.trans heq)

/-- Without a connection no search is open. -/
theorem IsHeld.cursor_eq_none {s : Session} (h : s.IsHeld) (hconnection : s.connection = none) :
    s.cursor = none := by
  cases hcursor : s.cursor with
  | none => rfl
  | some cursor =>
      have hheld := h cursor hcursor
      rw [hconnection] at hheld
      cases hheld

/-- Whatever was open before, a search opens one on the connection that it uses. -/
theorem isHeld_search (s : Session) (base : String) (filter : Option String) (scope : Scope) :
    (s.search base filter scope).2.IsHeld := by
  have hsearched := s.searched base filter scope
  generalize s.search base filter scope = result at hsearched
  cases hsearched with
  | notConnected | badFilter | unsent => exact isHeld_of_cursor_none (cursor_discard s)
  | empty => exact isHeld_of_cursor_none rfl
  | opened hconnection =>
      intro cursor hcursor
      cases hcursor
      exact hconnection

theorem IsHeld.next {s : Session} (h : s.IsHeld) : s.next.2.IsHeld := by
  unfold Session.next
  split
  · exact h
  · next cursor hcursor =>
      split
      · exact isHeld_of_cursor_none (cursor_discard s)
      · split
        · -- the search goes on over the connection that it was on
          intro cursor' hcursor'
          cases hcursor'
          exact h cursor hcursor
        · rw [finish_eq]
          exact isHeld_of_cursor_none rfl

theorem IsHeld.perform {s : Session} (h : s.IsHeld) (call : Call) : (s.perform call).2.IsHeld := by
  cases call with
  | reinit files => exact isHeld_of_cursor_none (cursor_reinit s files)
  | close => exact isHeld_of_cursor_none (cursor_close s)
  | search base filter scope => exact isHeld_search s base filter scope
  | next => exact h.next
  | write w =>
      obtain ⟨hkeeps, hcursor⟩ := write_frame s w
      exact h.congr hcursor hkeeps.connection_eq

theorem IsHeld.run {s : Session} (h : s.IsHeld) (calls : List Call) : (s.run calls).2.IsHeld := by
  induction calls generalizing s with
  | nil => exact h
  | cons call rest ih => exact ih (h.perform call)

end Session

end DirectoryClient.Ldap
