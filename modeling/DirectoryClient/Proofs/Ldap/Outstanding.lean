import DirectoryClient.Proofs.Ldap.Transcript

/-!
# The outstanding search of a session

A session remembers the search that it has open, and every call leaves a
transcript that agrees with what it remembers (`Connection.Fits`): each event that
a call appends is in order. The agreement is about the connection that the session
holds. So it takes the invariant that the open search is on this one and on no other
(`Session.IsHeld`), or else the search would be stopped where it is not outstanding.

A connection that the server has closed is the one exception to the agreement. Its
search cannot be stopped any more, and is forgotten although it was not settled; but
then nothing more is sent over the connection either.

So however a session is used, and whatever its server is, a search is settled once
before the next one starts on its connection or the connection is given up.
-/

namespace DirectoryClient.Ldap

/-! ## Connections -/

/-- The transcript of a server is orderly, and about connections that were made. -/
structure Server.IsSound (s : Server) : Prop where
  orderly : Orderly s.transcript
  connection_le : ∀ e ∈ s.transcript, e.connection ≤ s.connections

/-- What is known of a connection agrees with the transcript: the number of its last
request, and the search that is open on it. An unsettled search is not forgotten,
unless the connection was closed. -/
structure Connection.Fits (c : Connection) (search : Option Nat) (s : Server) : Prop where
  sound : s.IsSound
  number_le : c.number ≤ s.connections
  lastId_eq : c.lastId s = s.transcript.countP (Event.isSent c.number)
  outstanding_eq : search ≠ none ∨ c.isOpen s = true →
    outstanding c.number s.transcript = search

theorem Server.transcript_nextReply (s : Server) : s.nextReply.2.transcript = s.transcript := by
  unfold nextReply
  split <;> rfl

theorem Server.IsSound.snoc {s s' : Server} (h : s.IsSound) {e : Event}
    (hfollows : Follows s.transcript e) (he : e.connection ≤ s.connections)
    (htranscript : s'.transcript = s.transcript ++ [e])
    (hconnections : s'.connections = s.connections) : s'.IsSound where
  orderly := htranscript ▸ h.orderly.snoc hfollows
  connection_le := by
    rw [htranscript, hconnections]
    intro e' he'
    rcases List.mem_append.1 he' with he' | he'
    · exact h.connection_le e' he'
    · obtain rfl := List.mem_singleton.1 he'
      exact he

/-- Whether a request may be sent while a search is open, if it is. -/
def Request.Suits (search : Option Nat) : Request → Prop
  | .search _ | .unbind => search = none
  | .abandon target => search = some target
  | _ => True

/-- The search that is open after a request, which has a number. -/
def Request.opens (id : Nat) (search : Option Nat) : Request → Option Nat
  | .search _ => some id
  | .abandon _ => none
  | _ => search

theorem Request.suits_of_isPlain {r : Request} (h : r.isPlain = true) (current : Option Nat) :
    r.Suits current ∧ ∀ id, r.opens id current = current := by
  cases r with
  | search | abandon | unbind => cases h
  | bind | add | modify | delete => exact ⟨trivial, fun _ => rfl⟩

namespace Connection

variable {c : Connection} {current : Option Nat} {s : Server}

/-- Over a closed connection a search may be forgotten. -/
theorem Fits.forget (h : c.Fits current s) (hclosed : ¬ c.isOpen s = true) : c.Fits none s where
  sound := h.sound
  number_le := h.number_le
  lastId_eq := h.lastId_eq
  outstanding_eq := fun hknown => absurd (hknown.resolve_left (by simp)) hclosed

/-- A request that suits the open search is in order. -/
theorem Fits.follows (h : c.Fits current s) (hopen : c.isOpen s = true) {r : Request}
    (hr : r.Suits current) : Follows s.transcript (.sent c.number (c.lastId s + 1) r) := by
  have hsearch := h.outstanding_eq (Or.inr hopen)
  refine ⟨by rw [h.lastId_eq], ?_⟩
  cases r with
  | search q => exact hsearch.trans hr
  | unbind => exact hsearch.trans hr
  | abandon target => exact hsearch.trans hr
  | bind | add | modify | delete => trivial

/-- Over an open connection a request is sent, which gets the next number. -/
theorem Fits.send (h : c.Fits current s) (hopen : c.isOpen s = true) {r : Request}
    (hr : r.Suits current) :
    ∃ s', c.send r s = (.ok (c.lastId s + 1), s') ∧
      c.Fits (r.opens (c.lastId s + 1) current) s' := by
  refine ⟨_, if_pos hopen, h.sound.snoc (h.follows hopen hr) h.number_le rfl rfl, h.number_le, ?_,
    fun _ => ?_⟩
  · have hsent : Event.isSent c.number (.sent c.number (c.lastId s + 1) r) = true := by
      simp [Event.isSent]
    rw [List.countP_append, List.countP_singleton, if_pos hsent, ← h.lastId_eq]
    exact congrArg Line.lastId (if_pos rfl)
  · have hsearch := h.outstanding_eq (Or.inr hopen)
    rw [outstanding_snoc, hsearch]
    cases r with
    | search q => exact if_pos rfl
    | abandon target => exact if_pos rfl
    | bind | add | modify | delete | unbind => rfl

/-- Nothing is sent over a closed connection. -/
theorem send_of_closed (hclosed : ¬ c.isOpen s = true) (r : Request) :
    c.send r s = (.error .closedSending, s) := if_neg hclosed

theorem Fits.reply (h : c.Fits current s) {reply : Reply} {s' : Server}
    (heq : s.nextReply = (reply, s')) : c.Fits current s' := by
  unfold Server.nextReply at heq
  split at heq
  · cases heq
    exact h
  · cases heq
    exact ⟨⟨h.sound.orderly, h.sound.connection_le⟩, h.number_le, h.lastId_eq, h.outstanding_eq⟩

theorem Fits.shut (h : c.Fits current s) : c.Fits current (c.shut s) where
  sound := ⟨h.sound.orderly, h.sound.connection_le⟩
  number_le := h.number_le
  lastId_eq := (congrArg Line.lastId (if_pos rfl)).trans h.lastId_eq
  outstanding_eq := by
    have hclosed : c.isOpen (c.shut s) = false := congrArg Line.isOpen (if_pos rfl)
    rw [hclosed]
    exact fun hknown => h.outstanding_eq (Or.inl (hknown.resolve_right Bool.false_ne_true))

theorem Fits.ask (h : c.Fits current s) {r : Request} (hr : r.isPlain = true) :
    c.Fits current (c.ask r s).2 := by
  obtain ⟨hsuits, hopens⟩ := Request.suits_of_isPlain hr current
  unfold Connection.ask
  by_cases hopen : c.isOpen s = true
  · obtain ⟨s', hsend, hsent⟩ := h.send hopen hsuits
    rw [hopens] at hsent
    rw [hsend]
    dsimp only
    split
    · next heq => exact hsent.reply heq
    · next heq => exact hsent.reply heq
    · next heq => exact (hsent.reply heq).shut
  · rw [send_of_closed hopen]
    exact h

/-- After a search was sent it is open, and it is not if it could not be sent. -/
theorem Fits.search (h : c.Fits none s) (q : Query) :
    c.Fits ((c.search q s).1.toOption.map (·.id)) (c.search q s).2 := by
  unfold Connection.search
  by_cases hopen : c.isOpen s = true
  · obtain ⟨s', hsend, hsent⟩ := h.send hopen (r := .search q) rfl
    rw [hsend]
    dsimp only
    split
    · next heq => exact hsent.reply heq
    · next heq => exact hsent.reply heq
    · next heq => exact (hsent.reply heq).shut
  · rw [send_of_closed hopen]
    exact h

theorem Fits.readEnd {id : Nat} (h : c.Fits (some id) s) (outcome : Option Outcome) :
    c.Fits none (c.readEnd id outcome s).2 where
  sound := h.sound.snoc (e := .ended c.number id (c.readEnd id outcome s).1)
    (h.outstanding_eq (Or.inl (by simp))) h.number_le rfl rfl
  number_le := h.number_le
  lastId_eq := by
    simp only [Connection.readEnd]
    rw [List.countP_append, ← h.lastId_eq]
    rfl
  outstanding_eq := fun _ => by
    simp only [Connection.readEnd]
    rw [outstanding_snoc]
    exact if_pos rfl

/-- A search is stopped, or is forgotten if the connection is closed. -/
theorem Fits.abandon {id : Nat} (h : c.Fits (some id) s) :
    c.Fits none (c.send (.abandon id) s).2 := by
  by_cases hopen : c.isOpen s = true
  · obtain ⟨s', hsend, hsent⟩ := h.send hopen (r := .abandon id) rfl
    rw [hsend]
    exact hsent
  · rw [send_of_closed hopen]
    exact h.forget hopen

theorem Fits.unbind (h : c.Fits none s) : c.Fits none (c.unbind s) := by
  refine Fits.shut ?_
  by_cases hopen : c.isOpen s = true
  · obtain ⟨s', hsend, hsent⟩ := h.send hopen (r := .unbind) rfl
    rw [hsend]
    exact hsent
  · rw [send_of_closed hopen]
    exact h

/-- Nothing was sent over a new connection. -/
theorem fits_accept (h : s.IsSound) : s.accept.1.Fits none s.accept.2 := by
  have hnew : ∀ e ∈ s.transcript, e.connection ≠ s.connections + 1 := by
    intro e he
    have := h.connection_le e he
    omega
  refine ⟨⟨h.orderly, fun e he => Nat.le_succ_of_le (h.connection_le e he)⟩, Nat.le_refl _, ?_, ?_⟩
  · exact (congrArg Line.lastId (if_pos rfl)).trans (countP_isSent_of_notMem hnew).symm
  · exact fun _ => outstanding_of_notMem hnew

theorem prefix_search (c : Connection) (q : Query) (s : Server) :
    s.transcript <+: (c.search q s).2.transcript := by
  unfold search
  by_cases hopen : c.isOpen s = true
  · simp only [send, if_pos hopen]
    split
    all_goals
      next heq =>
        have hreply := congrArg (fun reply => reply.2.transcript) heq
        simp only [Server.transcript_nextReply] at hreply
        simp only [shut, Server.setLine, ← hreply]
        exact List.prefix_append _ _
  · simp only [send_of_closed hopen, List.prefix_refl]

end Connection

/-! ## Sessions -/

namespace Session

/-- What a session remembers agrees with the transcript of its server. -/
structure IsSound (s : Session) : Prop where
  server : s.server.IsSound
  fits : ∀ c, s.connection = some c → c.Fits (s.cursor.map (·.id)) s.server

variable {s : Session}

/-- Without a connection there is nothing to remember. -/
theorem IsSound.of_server (h : s.server.IsSound) (hconnection : s.connection = none) :
    s.IsSound where
  server := h
  fits := by
    intro c hc
    rw [hconnection] at hc
    cases hc

theorem IsSound.of_fits {c : Connection} (hconnection : s.connection = some c)
    (h : c.Fits (s.cursor.map (·.id)) s.server) : s.IsSound where
  server := h.sound
  fits := by
    intro c' hc'
    rw [hconnection] at hc'
    cases hc'
    exact h

/-- The open search is the one that is outstanding on the connection of the session. -/
theorem IsSound.fits_cursor (h : s.IsSound) (hheld : s.IsHeld) {cursor : Cursor}
    (hcursor : s.cursor = some cursor) : cursor.connection.Fits (some cursor.id) s.server := by
  have hfits := h.fits _ (hheld cursor hcursor)
  rwa [hcursor] at hfits

theorem IsSound.discard (h : s.IsSound) (hheld : s.IsHeld) : s.discard.IsSound := by
  unfold Session.discard
  split
  · next cursor hcursor =>
      exact .of_fits (hheld cursor hcursor) (h.fits_cursor hheld hcursor).abandon
  · exact h

/-- Nothing is open on a connection after the open search was given up. -/
theorem IsSound.fits_discard (h : s.IsSound) (hheld : s.IsHeld) {c : Connection}
    (hconnection : s.discard.connection = some c) : c.Fits none s.discard.server := by
  have hfits := (h.discard hheld).fits c hconnection
  rwa [cursor_discard] at hfits

theorem IsSound.close (h : s.IsSound) (hheld : s.IsHeld) : s.close.IsSound := by
  refine .of_server ?_ (connection_close s)
  unfold Session.close
  dsimp only
  split
  · next c hconnection => exact (h.fits_discard hheld hconnection).unbind.sound
  · exact (h.discard hheld).server

theorem fits_bind {c : Connection} {server : Server} (h : c.Fits none server) (config : Config) :
    c.Fits none (Session.bind config c server).2 := by
  unfold Session.bind
  split
  · exact h
  · exact h.ask rfl

theorem fits_connect {c : Connection} {server server' : Server} {url : Url}
    (h : server.IsSound) (hconnect : server.connect url = .ok (c, server')) :
    c.Fits none server' := by
  unfold Server.connect at hconnect
  split at hconnect
  · cases hconnect
  · split at hconnect
    · cases hconnect
      exact Connection.fits_accept h
    · cases hconnect

theorem IsSound.reinit (h : s.IsSound) (hheld : s.IsHeld) (files : Files) :
    (s.reinit files).2.IsSound := by
  have hclose := h.close hheld
  unfold Session.reinit
  dsimp only
  split
  · exact hclose
  · split
    · exact hclose
    · next c server hconnect =>
        have hbind := fits_bind (fits_connect hclose.server hconnect) s.close.config
        split
        · next heq =>
            -- closing left no connection, and a failed one is not kept
            rw [heq] at hbind
            exact .of_server hbind.sound (connection_close s)
        · next heq =>
            rw [heq] at hbind
            refine .of_fits rfl ?_
            rw [cursor_close]
            exact hbind

theorem IsSound.search (h : s.IsSound) (hheld : s.IsHeld) (base : String)
    (filter : Option String) (scope : Scope) : (s.search base filter scope).2.IsSound := by
  have hsearched := s.searched base filter scope
  generalize s.search base filter scope = result at hsearched
  cases hsearched with
  | notConnected | badFilter => exact h.discard hheld
  | @unsent c q fault server hconnection hsearch =>
      have hfits := (h.fits_discard hheld hconnection).search q
      rw [hsearch] at hfits
      refine .of_fits hconnection ?_
      rw [cursor_discard]
      exact hfits
  | @empty c q found server hconnection hsearch _ =>
      have hfits := (h.fits_discard hheld hconnection).search q
      rw [hsearch] at hfits
      exact .of_fits hconnection (hfits.readEnd found.outcome)
  | @opened c q found server hconnection hsearch _ =>
      have hfits := (h.fits_discard hheld hconnection).search q
      rw [hsearch] at hfits
      exact .of_fits hconnection hfits

theorem IsSound.next (h : s.IsSound) (hheld : s.IsHeld) : s.next.2.IsSound := by
  unfold Session.next
  split
  · exact h
  · next cursor hcursor =>
      have hconnection := hheld cursor hcursor
      have hfits := h.fits_cursor hheld hcursor
      split
      · exact h.discard hheld
      · split
        · exact .of_fits hconnection hfits
        · rw [finish_eq]
          exact .of_fits hconnection (hfits.readEnd _)

theorem IsSound.ask (h : s.IsSound) {request : Option Request}
    (hrequest : ∀ r ∈ request, r.isPlain = true) : (s.ask request).2.IsSound := by
  unfold Session.ask
  split
  · exact h
  · next c hconnection =>
      split
      · exact h
      · next r =>
          have hask := (h.fits c hconnection).ask (hrequest r rfl)
          dsimp only
          split
          · exact .of_fits hconnection hask
          · exact .of_fits hconnection hask

theorem IsSound.write (h : s.IsSound) (w : Write) : (s.write w).2.IsSound := by
  rcases s.write_cases w with heq | ⟨request, hrequest, heq⟩
  · rw [heq]
    exact h
  · rw [heq]
    exact h.ask hrequest

theorem IsSound.perform (h : s.IsSound) (hheld : s.IsHeld) (call : Call) :
    (s.perform call).2.IsSound := by
  cases call with
  | reinit files => exact h.reinit hheld files
  | close => exact h.close hheld
  | search base filter scope => exact h.search hheld base filter scope
  | next => exact h.next hheld
  | write w => exact h.write w

theorem IsSound.run (h : s.IsSound) (hheld : s.IsHeld) (calls : List Call) :
    (s.run calls).2.IsSound := by
  induction calls generalizing s with
  | nil => exact h
  | cons call rest ih => exact ih (h.perform hheld call) (hheld.perform call)

/-- Nothing is known of a server to which nothing was sent, whatever it is. -/
theorem isSound_new {server : Server} (h : server.transcript = []) (config : Config) :
    (new config server).IsSound := by
  refine .of_server ⟨?_, fun e he => ?_⟩ rfl
  · rw [new, h]
    exact .nil
  · rw [new, h] at he
    cases he

/-! ## What a search leaves in the transcript -/

theorem transcript_discard {cursor : Cursor} (hcursor : s.cursor = some cursor)
    (hopen : cursor.connection.isOpen s.server = true) :
    s.discard.server.transcript =
      s.server.transcript ++ [.sent cursor.connection.number
        (cursor.connection.lastId s.server + 1) (.abandon cursor.id)] := by
  simp only [Session.discard, hcursor, Connection.send, if_pos hopen]

theorem prefix_search (s : Session) (base : String) (filter : Option String) (scope : Scope) :
    s.discard.server.transcript <+: (s.search base filter scope).2.server.transcript := by
  have hsearched := s.searched base filter scope
  generalize s.search base filter scope = result at hsearched
  cases hsearched with
  | notConnected | badFilter => exact List.prefix_refl _
  | @unsent c q fault server _ hsearch =>
      have hsent := c.prefix_search q s.discard.server
      rwa [hsearch] at hsent
  | @empty c q found server _ hsearch _ =>
      have hsent := c.prefix_search q s.discard.server
      rw [hsearch] at hsent
      exact hsent.trans (List.prefix_append _ _)
  | @opened c q found server _ hsearch _ =>
      have hsent := c.prefix_search q s.discard.server
      rwa [hsearch] at hsent

/-- However a session is used, and whatever server it has, its transcript settles
searches, and an open search is the one that is outstanding on the connection that the
session holds. When the next search is asked for, the open one is stopped before anything
else, if the connection can still tell the server so; and unless the next search finds
something, none is open any more. -/
theorem searches_settled {server : Server} (hserver : server.transcript = []) (config : Config)
    (calls : List Call) :
    let s := ((new config server).run calls).2
    SettlesSearches s.server.transcript ∧
    (∀ cursor, s.cursor = some cursor → s.isConnected = true ∧
      s.connection = some cursor.connection ∧
        outstanding cursor.connection.number s.server.transcript = some cursor.id) ∧
    ∀ base filter scope,
      ((s.search base filter scope).1 ≠ .ok true →
        (s.search base filter scope).2.cursor = none) ∧
      ∀ cursor, s.cursor = some cursor → cursor.connection.isOpen s.server = true →
        s.server.transcript ++ [.sent cursor.connection.number
            (cursor.connection.lastId s.server + 1) (.abandon cursor.id)] <+:
          (s.search base filter scope).2.server.transcript := by
  intro s
  have hnew : (new config server).IsHeld := isHeld_of_cursor_none rfl
  have hheld : s.IsHeld := hnew.run calls
  have hs : s.IsSound := (isSound_new hserver config).run hnew calls
  refine ⟨hs.server.orderly.settlesSearches, fun cursor hcursor => ?_, fun base filter scope => ?_⟩
  · have hconnection := hheld cursor hcursor
    refine ⟨by rw [isConnected, hconnection]; rfl, hconnection, ?_⟩
    exact (hs.fits_cursor hheld hcursor).outstanding_eq (Or.inl (by simp))
  · refine ⟨cursor_search, fun cursor hcursor hopen => ?_⟩
    rw [← transcript_discard hcursor hopen]
    exact prefix_search s base filter scope

/-- Over the network the second search stops the first one by its number, although
another request was sent in between, and has nothing to stop itself: it found nothing. -/
theorem searches_settled_network :
    let url : Url := ⟨"ldap", none, .flat "", none, none⟩
    let server : Server := .new (.network url)
      [.answer [.entry ⟨"cn=a,o=b", [], .asSent⟩] Outcome.success true]
    let query : String → Query := fun base => ⟨base, .subtree, 5, .present (Filter.ascii "cn")⟩
    let s := ((new { Config.new url with sizeLimit := 5 } server).run
      [.reinit ⟨"/", []⟩, .search "o=b" (some "cn=*") .subtree, .write (.destroy "cn=c"),
        .search "o=d" (some "cn=*") .subtree]).2
    s.server.transcript =
      [.sent 1 1 (.search (query "o=b")), .sent 1 2 (.delete "cn=c"), .sent 1 3 (.abandon 1),
        .sent 1 4 (.search (query "o=d")), .ended 1 4 (.ok Outcome.success)] ∧
    SettlesSearches s.server.transcript := by
  intro url server query s
  have hserver : server.transcript = [] := rfl
  obtain ⟨hsettles, -⟩ := searches_settled hserver { Config.new url with sizeLimit := 5 }
    [.reinit ⟨"/", []⟩, .search "o=b" (some "cn=*") .subtree, .write (.destroy "cn=c"),
      .search "o=d" (some "cn=*") .subtree]
  exact ⟨rfl, hsettles⟩

end Session

end DirectoryClient.Ldap
