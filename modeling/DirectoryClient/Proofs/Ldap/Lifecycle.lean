import DirectoryClient.Proofs.Ldap.Delivery

/-!
# When a session is connected

Only two calls make or break a connection. Whatever became of the old one, `reinit`
gives it up before it does anything else, and so a failure at any stage leaves a
session as closing does; `close` always does. All other calls keep the connection that
there is, and do nothing but complain where there is none. So whether a session is
connected can be read off the answers: it is if the last of these two calls was a
`reinit` that succeeded.

A `reinit` succeeds under conditions that no earlier failure has a part in: the files
it needs can be read, the URL leads to the server, and the server, if it is asked to
know the client, agrees. It is asked exactly if the configuration has a name and a
password and wants them used. The world may be another one at every call: the server
may have moved, and answer in another way.

That no search is open without a connection is not said by what a session is made of: the
open search has a connection of its own. It is an invariant of the calls (`IsHeld`), in
whatever world they are made.
-/

namespace DirectoryClient

/-- Whether a configuration wants its name and its password used, and what they are. -/
def Config.Introduces (c : Config) (dn password : String) : Prop :=
  c.authentication = .simple ∧ c.principal = some dn ∧ c.credentials = some password

namespace Ldap

/-! ## Requests to be known -/

/-- The name and the password of a request to be known. -/
def Event.bind? : Event → Option (String × String)
  | sent _ _ (.bind dn password) => some (dn, password)
  | _ => none

/-- The requests to be known in a transcript. -/
def binds (events : List Event) : List (String × String) := events.filterMap Event.bind?

theorem binds_append (events more : List Event) :
    binds (events ++ more) = binds events ++ binds more := List.filterMap_append

/-- Whether a server stayed as it was, but for requests that it need not answer. -/
structure Server.Undisturbed (s s' : Server) : Prop where
  replies_eq : s'.replies = s.replies
  endpoint_eq : s'.endpoint = s.endpoint
  binds_eq : binds s'.transcript = binds s.transcript

theorem Server.Undisturbed.refl (s : Server) : s.Undisturbed s := ⟨rfl, rfl, rfl⟩

theorem Server.Undisturbed.trans {s s' s'' : Server} (h : s.Undisturbed s')
    (h' : s'.Undisturbed s'') : s.Undisturbed s'' where
  replies_eq := h'.replies_eq.trans h.replies_eq
  endpoint_eq := h'.endpoint_eq.trans h.endpoint_eq
  binds_eq := h'.binds_eq.trans h.binds_eq

theorem Connection.undisturbed_send {c : Connection} {s : Server} {r : Request}
    (h : ∀ id, Event.bind? (.sent c.number id r) = none) : s.Undisturbed (c.send r s).2 := by
  unfold send
  split
  · refine ⟨rfl, rfl, ?_⟩
    dsimp only
    rw [binds_append, binds, binds, List.filterMap_cons_none (h _), List.filterMap_nil,
      List.append_nil]
  · exact .refl s

theorem Connection.undisturbed_unbind (c : Connection) (s : Server) :
    s.Undisturbed (c.unbind s) := by
  have hsend : s.Undisturbed (c.send .unbind s).2 := undisturbed_send fun _ => rfl
  exact ⟨hsend.replies_eq, hsend.endpoint_eq, hsend.binds_eq⟩

/-- What comes of a request to which a server replies. -/
def Reply.result : Reply → Except Fault Outcome
  | answer _ outcome _ => .ok outcome
  | silence => .error .timeout
  | hangUp => .error .closedWaiting

/-- What comes of asking a server to know someone: success, or why not. -/
def Server.verdict (s : Server) : Except Fault Unit := s.nextReply.1.result.bind Outcome.check

theorem Server.Undisturbed.verdict_eq {s s' : Server} (h : s.Undisturbed s') :
    s'.verdict = s.verdict := by
  rw [verdict, verdict, nextReply_congr h.replies_eq]

theorem Server.replies_accept (s : Server) : s.accept.2.replies = s.replies := rfl

/-- A request over an open connection is sent, and the server's reply is what comes
of it. -/
theorem Connection.ask_of_isOpen {c : Connection} {s : Server} (h : c.isOpen s = true)
    (r : Request) :
    (c.ask r s).1 = s.nextReply.1.result ∧
      binds (c.ask r s).2.transcript =
        binds s.transcript ++ (Event.bind? (.sent c.number (c.lastId s + 1) r)).toList := by
  have hbinds : binds (s.transcript ++ [.sent c.number (c.lastId s + 1) r]) =
      binds s.transcript ++ (Event.bind? (.sent c.number (c.lastId s + 1) r)).toList := by
    rw [binds_append]
    cases r <;> rfl
  rw [ask, send, if_pos h]
  dsimp only [Server.nextReply, Server.setLine]
  cases s.replies with
  | nil => exact ⟨rfl, hbinds⟩
  | cons reply rest => cases reply <;> exact ⟨rfl, hbinds⟩

/-- What an answer tells about the connection: that there is one, or that there is none,
or nothing. -/
def Answer.link? : Answer → Option Bool
  | connected result => some result.isOk
  | closed => some false
  | _ => none

/-- What the server is like at a moment: where it listens, and what it will reply. -/
structure World where
  endpoint : Endpoint
  replies : List Reply

namespace Session

variable {s : Session}

/-! ## Giving up the connection -/

theorem undisturbed_discard (s : Session) : s.server.Undisturbed s.discard.server := by
  unfold discard
  split
  · exact Connection.undisturbed_send fun _ => rfl
  · exact .refl _

theorem undisturbed_close (s : Session) : s.server.Undisturbed s.close.server := by
  unfold close
  dsimp only
  split
  · exact (undisturbed_discard s).trans (Connection.undisturbed_unbind _ _)
  · exact undisturbed_discard s

@[simp] theorem config_close (s : Session) : s.close.config = s.config := by
  unfold close
  dsimp only
  split
  · exact (keeps_discard s).config_eq
  · exact (keeps_discard s).config_eq

/-- To close twice is to close once. -/
theorem close_of_none (hconnection : s.connection = none) (hcursor : s.cursor = none) :
    s.close = s := by
  rw [close, discard_of_cursor_none hcursor, hconnection]

/-! ## Making a connection -/

/-- Whether a connection comes about: the files that the configuration names are in
order, and the URL leads to the server. -/
def Reaches (s : Session) (files : Files) : Prop :=
  (∃ settings, s.config.connection.settings files = .ok settings) ∧
    Endpoint.ofUrl s.config.url = .ok s.server.endpoint

theorem connect_of_leads {server : Server} {url : Url}
    (h : Endpoint.ofUrl url = .ok server.endpoint) :
    server.connect url = .ok server.accept := by
  rw [Server.connect, h]
  exact if_pos rfl

theorem exists_connect_error {server : Server} {url : Url}
    (h : Endpoint.ofUrl url ≠ .ok server.endpoint) :
    ∃ fault, server.connect url = .error fault := by
  rw [Server.connect]
  split
  · exact ⟨_, rfl⟩
  · next endpoint heq =>
      rw [heq] at h
      exact ⟨_, if_neg fun hserver => h (congrArg Except.ok hserver)⟩

/-- A `reinit` that gets no connection does what closing does. -/
theorem reinit_of_not_reaches {files : Files} (h : ¬ s.Reaches files) :
    ∃ e, s.reinit files = (.error e, s.close) := by
  simp only [reinit, config_close]
  cases hsettings : s.config.connection.settings files with
  | error e => exact ⟨e, rfl⟩
  | ok settings =>
      have hleads : Endpoint.ofUrl s.config.url ≠ .ok s.close.server.endpoint := by
        rw [(undisturbed_close s).endpoint_eq]
        exact fun hserver => h ⟨⟨settings, hsettings⟩, hserver⟩
      obtain ⟨fault, hfault⟩ := exists_connect_error hleads
      simp only [hfault]
      exact ⟨_, rfl⟩

/-- What asking to be known comes to over a new connection: nothing if there is no name
and password to use, and otherwise one request with them and what the server says. -/
theorem bind_accept (config : Config) (server : Server) :
    binds (bind config server.accept.1 server.accept.2).2.transcript =
        binds server.transcript ++ (bindingOf? config).toList ∧
      (bind config server.accept.1 server.accept.2).1 =
        if (bindingOf? config).isSome then server.verdict else .ok () := by
  rw [bind]
  cases bindingOf? config with
  | none => exact ⟨(List.append_nil _).symm, rfl⟩
  | some b =>
      have hopen : server.accept.1.isOpen server.accept.2 = true :=
        congrArg Line.isOpen (if_pos rfl)
      obtain ⟨hresult, hbinds⟩ := Connection.ask_of_isOpen hopen (.bind b.1 b.2)
      rw [Server.nextReply_congr server.replies_accept] at hresult
      exact ⟨hbinds, congrArg (Except.bind · Outcome.check) hresult⟩

/-- A `reinit` that gets a connection asks to be known if there is a name and password
to use, and then comes to what the server says. -/
theorem reinit_of_reaches {files : Files} (h : s.Reaches files) :
    (s.reinit files).1 =
        (if (bindingOf? s.config).isSome then s.server.verdict else .ok ()).mapError
          (.connection ∘ .bind) ∧
      binds (s.reinit files).2.server.transcript =
        binds s.server.transcript ++ (bindingOf? s.config).toList := by
  obtain ⟨⟨settings, hsettings⟩, hleads⟩ := h
  -- closing the old connection takes no reply and asks for nothing
  have hclose := undisturbed_close s
  rw [← hclose.endpoint_eq] at hleads
  obtain ⟨hbinds, hresult⟩ := bind_accept s.config s.close.server
  rw [hclose.verdict_eq] at hresult
  rw [hclose.binds_eq] at hbinds
  rw [← hbinds, ← hresult]
  simp only [reinit, config_close, hsettings, connect_of_leads hleads]
  rcases bind s.config s.close.server.accept.1 s.close.server.accept.2 with
    ⟨fault | u, server⟩
  · exact ⟨rfl, rfl⟩
  · exact ⟨rfl, rfl⟩

theorem isConnected_reinit (s : Session) (files : Files) :
    (s.reinit files).2.isConnected = (s.reinit files).1.isOk := by
  obtain ⟨server, ⟨e, heq⟩ | ⟨c, heq⟩⟩ := s.reinit_cases files
  · rw [heq]
    exact congrArg Option.isSome (connection_close s)
  · rw [heq]
    rfl

theorem config_reinit (s : Session) (files : Files) : (s.reinit files).2.config = s.config := by
  obtain ⟨server, ⟨e, heq⟩ | ⟨c, heq⟩⟩ := s.reinit_cases files
  · rw [heq]
    exact config_close s
  · rw [heq]
    exact config_close s

/-- After a call a session is connected as the answer tells, and as before if it tells
nothing. -/
theorem perform_keeps (s : Session) (call : Call) :
    (s.perform call).2.isConnected = (s.perform call).1.link?.getD s.isConnected ∧
      (s.perform call).2.config = s.config := by
  cases call with
  | reinit files => exact ⟨isConnected_reinit s files, config_reinit s files⟩
  | close => exact ⟨congrArg Option.isSome (connection_close s), config_close s⟩
  | search base filter scope =>
      have hkeeps := keeps_search s base filter scope
      exact ⟨congrArg Option.isSome hkeeps.connection_eq, hkeeps.config_eq⟩
  | next =>
      have hkeeps := keeps_next s
      exact ⟨congrArg Option.isSome hkeeps.connection_eq, hkeeps.config_eq⟩
  | write w =>
      have hlink : (s.write w).1.link? = none := by cases w <;> rfl
      obtain ⟨hkeeps, -⟩ := write_frame s w
      rw [perform, hlink]
      exact ⟨congrArg Option.isSome hkeeps.connection_eq, hkeeps.config_eq⟩

/-! ## In a changing world -/

/-- The session when its server has become another one. -/
def meet (s : Session) (w : World) : Session :=
  { s with server := { s.server with endpoint := w.endpoint, replies := w.replies } }

/-- Makes calls one after another, each in a world of its own. -/
def runIn (s : Session) : List (World × Call) → List Answer × Session
  | [] => ([], s)
  | (world, call) :: rest =>
      let (answer, s) := (s.meet world).perform call
      let (answers, s) := runIn s rest
      (answer :: answers, s)

theorem runIn_cons (s : Session) (world : World) (call : Call) (rest : List (World × Call)) :
    s.runIn ((world, call) :: rest) =
      (((s.meet world).perform call).1 :: (((s.meet world).perform call).2.runIn rest).1,
        (((s.meet world).perform call).2.runIn rest).2) :=
  rfl

/-- The last answer that tells anything about the connection tells how it is. -/
theorem runIn_keeps (s : Session) (calls : List (World × Call)) :
    (s.runIn calls).2.isConnected =
        ((s.runIn calls).1.filterMap Answer.link?).getLast?.getD s.isConnected ∧
      (s.runIn calls).2.config = s.config := by
  induction calls generalizing s with
  | nil => exact ⟨rfl, rfl⟩
  | cons step rest ih =>
      obtain ⟨world, call⟩ := step
      obtain ⟨hconnected, hconfig⟩ := (s.meet world).perform_keeps call
      obtain ⟨hrest, hrestConfig⟩ := ih ((s.meet world).perform call).2
      rw [runIn_cons]
      refine ⟨?_, hrestConfig.trans hconfig⟩
      rw [hrest, hconnected]
      -- an answer that tells nothing leaves the word to the ones before it
      cases hlink : ((s.meet world).perform call).1.link? with
      | none =>
          rw [List.filterMap_cons_none hlink]
          rfl
      | some b =>
          rw [List.filterMap_cons_some hlink, List.getLast?_cons]
          rfl

/-- A change of the world leaves the search on its connection, and so does every call. -/
theorem IsHeld.runIn (h : s.IsHeld) (calls : List (World × Call)) : (s.runIn calls).2.IsHeld := by
  induction calls generalizing s with
  | nil => exact h
  | cons step rest ih =>
      obtain ⟨world, call⟩ := step
      have hmeet : (s.meet world).IsHeld := h.congr rfl rfl
      exact ih (hmeet.perform call)

/-! ## What can be relied on -/

/-- What is known of a `reinit`, whatever happened before. It succeeds if a connection
comes about and the server agrees to know the client, where it is asked to. It asks so
if a connection comes about and the configuration has a name and a password and wants
them used, and then once and with these; a refusal is an error of the connection. If it
fails, there is no connection and no open search. -/
structure Reconnects (s : Session) (files : Files) : Prop where
  eq_ok_iff : (s.reinit files).1 = .ok () ↔ s.Reaches files ∧
    ((∃ dn password, s.config.Introduces dn password) → s.server.verdict = .ok ())
  binds_of_introduces : ∀ dn password, s.Reaches files → s.config.Introduces dn password →
    binds (s.reinit files).2.server.transcript = binds s.server.transcript ++ [(dn, password)]
  binds_of_not : (¬ s.Reaches files ∨ ∀ dn password, ¬ s.config.Introduces dn password) →
    binds (s.reinit files).2.server.transcript = binds s.server.transcript
  refused : ∀ dn password messages outcome finishes, s.Reaches files →
    s.config.Introduces dn password →
      s.server.nextReply.1 = .answer messages outcome finishes → outcome.code ≠ 0 →
        (s.reinit files).1 = .error (.connection (.bind (.refused outcome)))
  failed : (s.reinit files).1 ≠ .ok () →
    (s.reinit files).2.isConnected = false ∧ (s.reinit files).2.cursor = none

/-- What is known of a session without a connection: nothing is sent and nothing
changes. -/
structure RefusesAll (s : Session) : Prop where
  search_eq : ∀ base filter scope,
    s.search base filter scope = (.error (.connection .notConnected), s)
  create_eq : ∀ r, s.create r = (.error (.connection .notConnected), s)
  replace_eq : ∀ dn name value,
    s.replace dn name value = (.error (.connection .notConnected), s)
  replaceValues_eq : ∀ dn name values,
    s.replaceValues dn name values = (.error (.connection .notConnected), s)
  modify_eq : ∀ dn edits, s.modify dn edits = (.error (.connection .notConnected), s)
  destroy_eq : ∀ dn, s.destroy dn = (.error (.connection .notConnected), s)
  next_eq : s.next = (.error .noOpenSearch, s)
  close_eq : s.close = s

theorem introduces_iff {config : Config} {dn password : String} :
    config.Introduces dn password ↔ bindingOf? config = some (dn, password) := by
  rw [Config.Introduces, bindingOf?]
  split
  · next hauthentication hprincipal hcredentials =>
      simp [hauthentication, hprincipal, hcredentials]
  · next hnone =>
      refine ⟨fun h => ?_, fun h => ?_⟩
      · exact absurd h.2.2 (hnone _ _ h.1 h.2.1)
      · cases h

theorem exists_introduces_iff {config : Config} :
    (∃ dn password, config.Introduces dn password) ↔ (bindingOf? config).isSome = true := by
  simp only [introduces_iff, Option.isSome_iff_exists, Prod.exists]

theorem bindingOf?_of_not_introduces {config : Config}
    (h : ∀ dn password, ¬ config.Introduces dn password) : bindingOf? config = none := by
  rw [Option.eq_none_iff_forall_not_mem]
  intro b hb
  exact h b.1 b.2 (introduces_iff.2 hb)

theorem reconnects (s : Session) (files : Files) : s.Reconnects files where
  eq_ok_iff := by
    by_cases hreaches : s.Reaches files
    · rw [(reinit_of_reaches hreaches).1, exists_introduces_iff]
      split
      · next hsome =>
          cases s.server.verdict with
          | ok u => exact iff_of_true rfl ⟨hreaches, fun _ => rfl⟩
          | error fault =>
              refine iff_of_false (fun h => ?_) fun h => ?_
              · cases h
              · cases h.2 hsome
      · next hnone => exact iff_of_true rfl ⟨hreaches, fun hsome => absurd hsome hnone⟩
    · obtain ⟨e, heq⟩ := reinit_of_not_reaches hreaches
      rw [heq]
      refine iff_of_false (fun h => ?_) fun h => hreaches h.1
      cases h
  binds_of_introduces := by
    intro dn password hreaches hintroduces
    rw [(reinit_of_reaches hreaches).2, introduces_iff.1 hintroduces]
    rfl
  binds_of_not := by
    intro hnot
    by_cases hreaches : s.Reaches files
    · have hnone := bindingOf?_of_not_introduces (hnot.resolve_left (not_not_intro hreaches))
      rw [(reinit_of_reaches hreaches).2, hnone]
      exact List.append_nil _
    · obtain ⟨e, heq⟩ := reinit_of_not_reaches hreaches
      rw [heq]
      exact (undisturbed_close s).binds_eq
  refused := by
    intro dn password messages outcome finishes hreaches hintroduces hreply hcode
    have hcheck : outcome.check = .error (.refused outcome) := if_neg hcode
    rw [(reinit_of_reaches hreaches).1, introduces_iff.1 hintroduces, Server.verdict, hreply]
    show ((outcome.check).mapError _) = _
    rw [hcheck]
    rfl
  failed := by
    intro hfailed
    refine ⟨?_, cursor_reinit s files⟩
    rw [isConnected_reinit]
    cases hresult : (s.reinit files).1 with
    | error e => rfl
    | ok u => exact absurd hresult hfailed

theorem refusesAll_of_none (h : s.connection = none) (hcursor : s.cursor = none) :
    s.RefusesAll := by
  have hask : ∀ request, s.ask request = (.error (.connection .notConnected), s) := by
    intro request
    rw [ask, h]
  have hmodify : ∀ dn edits, s.modify dn edits = (.error (.connection .notConnected), s) := by
    intro dn edits
    rw [modify, hask]
    rfl
  refine ⟨fun base filter scope => ?_, fun r => ?_, fun dn name value => hmodify dn _,
    fun dn name values => hmodify dn _, hmodify, fun dn => ?_, ?_, close_of_none h hcursor⟩
  · rw [search]
    dsimp only
    rw [discard_of_cursor_none hcursor, h]
  · rw [create, hask]
  · rw [destroy, hask]
    rfl
  · rw [next, hcursor]

/-- However a session is used, and whatever its server has become at each call, it is
connected if and only if the last answer that tells anything about the connection tells
of a `reinit` that succeeded. What a `reinit` needs to succeed, and what it does if it
fails, is the same in all these states; and without a connection every call is refused,
so that closing twice is the same as closing once. -/
theorem runIn_lifecycle (config : Config) (server : Server) (calls : List (World × Call)) :
    let r := (new config server).runIn calls
    (r.2.isConnected = true ↔ (r.1.filterMap Answer.link?).getLast? = some true) ∧
    r.2.config = config ∧
    (∀ world files, (r.2.meet world).Reconnects files) ∧
    (r.2.isConnected = false → ∀ world, (r.2.meet world).RefusesAll) ∧
    r.2.close.close = r.2.close := by
  intro r
  obtain ⟨hconnected, hconfig⟩ := (new config server).runIn_keeps calls
  have hheld : r.2.IsHeld := (isHeld_of_cursor_none rfl).runIn calls
  refine ⟨?_, hconfig, fun world files => reconnects _ files, fun hnone world => ?_,
    close_of_none (connection_close r.2) (cursor_close r.2)⟩
  · rw [hconnected]
    cases (r.1.filterMap Answer.link?).getLast? <;> simp [new, isConnected]
  · rw [isConnected, Option.isSome_eq_false_iff, Option.isNone_iff_eq_none] at hnone
    exact refusesAll_of_none hnone (hheld.cursor_eq_none hnone)

/-- The server is not there, then it does not know the client, and then it does: the
failed attempts leave nothing behind. After it was closed the session refuses everything. -/
theorem runIn_lifecycle_again :
    let url : Url := ⟨"ldap", none, .flat "", none, none⟩
    let config := { Config.new url with principal := some "cn=a", credentials := some "b" }
    let elsewhere : World := ⟨.socket "/s", []⟩
    let refusing : World := ⟨.network url, [.answer [] ⟨49, "", ""⟩ true]⟩
    let obliging : World := ⟨.network url, []⟩
    let connect : Call := .reinit ⟨"/", []⟩
    let steps := [(elsewhere, connect), (refusing, connect), (obliging, connect)]
    let server : Server := .new (.socket "") []
    let s := new config server
    (s.runIn steps).1.filterMap Answer.link? = [false, false, true] ∧
    (s.runIn steps).2.isConnected = true ∧
    binds (s.runIn steps).2.server.transcript = [("cn=a", "b"), ("cn=a", "b")] ∧
    ∀ world, ((s.runIn (steps ++ [(obliging, .close)])).2.meet world).RefusesAll := by
  intro url config elsewhere refusing obliging connect steps server s
  have hanswers : (s.runIn steps).1.filterMap Answer.link? = [false, false, true] := by
    decide +kernel
  have hclosed : (s.runIn (steps ++ [(obliging, .close)])).2.isConnected = false := by
    decide +kernel
  obtain ⟨hconnected, -⟩ := runIn_lifecycle config server steps
  obtain ⟨-, -, -, hrefuses, -⟩ := runIn_lifecycle config server (steps ++ [(obliging, .close)])
  exact ⟨hanswers, hconnected.2 (congrArg List.getLast? hanswers), by decide +kernel,
    hrefuses hclosed⟩

end Session

end Ldap

end DirectoryClient
