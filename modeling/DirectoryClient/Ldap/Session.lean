import DirectoryClient.Config.Properties
import DirectoryClient.DistinguishedName
import DirectoryClient.Filter.Parser
import DirectoryClient.Ldap.Server
import DirectoryClient.Tls.Settings

/-!
# A server as a directory

A session holds at most one connection, and at most one search is open. The search
has a hold of its own on the connection that it was started on. An open search is given
up before the next one starts and before the connection is closed: the server is told to
stop. It needs not be told when the end of the search was read, or could not be.

A search that finds nothing is over at once. Otherwise its entries are handed out
one by one, as many as the configuration allows, and then its end is read.
-/

namespace DirectoryClient.Ldap

/-- A search whose entries are being handed out. -/
structure Cursor where
  connection : Connection
  base : String
  id : Nat
  /-- How many entries were handed out. -/
  produced : Nat
  /-- The entries that were not. -/
  rest : List Found
  /-- The outcome of the search, if it comes. -/
  outcome : Option Outcome

/-- A directory behind a server. -/
structure Session where
  config : Config
  connection : Option Connection
  cursor : Option Cursor
  server : Server

/-- The record of an entry, named relative to the base of the search. -/
def Found.toRecord (found : Found) (base : String) : Record :=
  { ((Entry.ofWire found.dn found.attributes).arrange found.order).toRecord with
    relativeName := some (DistinguishedName.relative found.dn base) }

def defaultFilter : String := "(objectClass=*)"

/-- The largest limit that a search request can ask for. -/
def largestSizeLimit : Nat := Nat.pow 2 31 - 1

/-- Takes an outcome as success or failure. -/
def Outcome.check (o : Outcome) : Except Fault Unit :=
  if o.code = ResultCode.success then .ok () else .error (.refused o)

/-- Takes the outcome of a search as success or failure. It is no failure that
there were too many entries, or that there is no entry of the base's name. -/
def Outcome.checkSearch (o : Outcome) : Except Fault Unit :=
  if o.code = ResultCode.success ∨ o.code = ResultCode.sizeLimitExceeded ∨
      o.code = ResultCode.noSuchObject then .ok ()
  else .error (.refused o)

namespace Session

def new (config : Config) (server : Server) : Session := ⟨config, none, none, server⟩

def isConnected (s : Session) : Bool := s.connection.isSome

/-! ## Connecting -/

/-- Gives up the open search, if there is one, and tells the server to stop. -/
def discard (s : Session) : Session :=
  match s.cursor with
  | some cursor =>
      let (_, server) := cursor.connection.send (.abandon cursor.id) s.server
      { s with cursor := none, server }
  | none => s

def close (s : Session) : Session :=
  let s := s.discard
  match s.connection with
  | some connection => { s with connection := none, server := connection.unbind s.server }
  | none => s

/-- The name and password to bind with. -/
def bindingOf? (config : Config) : Option (String × String) :=
  match config.authentication, config.principal, config.credentials with
  | .simple, some principal, some credentials => some (principal, credentials)
  | _, _, _ => none

/-- Binds, if the configuration asks for it. -/
def bind (config : Config) (c : Connection) (server : Server) : Except Fault Unit × Server :=
  match bindingOf? config with
  | none => (.ok (), server)
  | some (principal, credentials) =>
      let (result, server) := c.ask (.bind principal credentials) server
      (result.bind Outcome.check, server)

/-- Makes a new connection in the place of the old one. -/
def reinit (files : Files) (s : Session) : Except Error Unit × Session :=
  let s := s.close
  match s.config.connection.settings files with
  | .error e => (.error e, s)
  | .ok _ =>
      match s.server.connect s.config.url with
      | .error fault => (.error (.connection fault), s)
      | .ok (connection, server) =>
          match bind s.config connection server with
          | (.error fault, server) => (.error (.connection (.bind fault)), { s with server })
          | (.ok (), server) => (.ok (), { s with connection := some connection, server })

/-! ## Searching -/

/-- Reads the end of a search on a connection, which is not open any more then. -/
def finish (s : Session) (c : Connection) (id : Nat) (outcome : Option Outcome) :
    Except Error Unit × Session :=
  let (result, server) := c.readEnd id outcome s.server
  let s := { s with cursor := none, server }
  match result.bind Outcome.checkSearch with
  | .ok () => (.ok (), s)
  | .error fault => (.error (.directory fault), s)

/-- Starts a search, and tells whether it found anything. -/
def search (s : Session) (base : String) (filter : Option String) (scope : Scope) :
    Except Error Bool × Session :=
  let s := s.discard
  match s.connection with
  | none => (.error (.connection .notConnected), s)
  | some connection =>
      match Filter.parse? (filter.getD defaultFilter) with
      | none => (.error (.directory .badFilter), s)
      | some filter =>
          let limit := min s.config.sizeLimit.toNat largestSizeLimit
          match connection.search ⟨base, scope, limit, filter⟩ s.server with
          | (.error fault, server) => (.error (.directory fault), { s with server })
          | (.ok found, server) =>
              let s := { s with server }
              if found.entries.isEmpty then
                let (result, s) := s.finish connection found.id found.outcome
                (result.map fun _ => false, s)
              else
                let cursor := ⟨connection, base, found.id, 0, found.entries, found.outcome⟩
                (.ok true, { s with cursor := some cursor })

/-- Whether a cursor has handed out as many entries as the configuration allows. -/
def isSpent (config : Config) (cursor : Cursor) : Bool :=
  config.sizeLimit ≠ 0 && config.sizeLimit.toNat ≤ cursor.produced

/-- Hands out the next record of the open search. -/
def next (s : Session) : Except Error (Option Record) × Session :=
  match s.cursor with
  | none => (.error .noOpenSearch, s)
  | some cursor =>
      if isSpent s.config cursor then (.ok none, s.discard)
      else
        match cursor.rest with
        | found :: rest =>
            let cursor := { cursor with produced := cursor.produced + 1, rest }
            (.ok (some (found.toRecord cursor.base)), { s with cursor := some cursor })
        | [] =>
            let (result, s) := s.finish cursor.connection cursor.id cursor.outcome
            (result.map fun _ => none, s)

/-! ## Changing -/

/-- Sends a request, unless there is none to send, and waits for the outcome. -/
def ask (s : Session) (request : Option Request) : Except Error Outcome × Session :=
  match s.connection with
  | none => (.error (.connection .notConnected), s)
  | some connection =>
      match request with
      | none => (.error (.directory .noValues), s)
      | some request =>
          let (result, server) := connection.ask request s.server
          let s := { s with server }
          match result with
          | .ok outcome => (.ok outcome, s)
          | .error fault => (.error (.directory fault), s)

/-- Takes the outcome of an operation as success or failure. -/
def checked : Except Error Outcome × Session → Except Error Unit × Session
  | (.error e, s) => (.error e, s)
  | (.ok outcome, s) =>
      match outcome.check with
      | .ok () => (.ok (), s)
      | .error fault => (.error (.directory fault), s)

/-- Adds an entry; tells whether there was none of its name. -/
def create (s : Session) (r : Record) : Except Error Bool × Session :=
  match s.ask (Request.ofRecord? r) with
  | (.error e, s) => (.error e, s)
  | (.ok outcome, s) =>
      if outcome.code = ResultCode.entryAlreadyExists then (.ok false, s)
      else
        match outcome.check with
        | .ok () => (.ok true, s)
        | .error fault => (.error (.directory fault), s)

def modify (s : Session) (dn : String) (edits : List Edit) : Except Error Unit × Session :=
  checked (s.ask (Request.ofEdits? dn edits))

/-- Gives an attribute these values and no others. -/
def replaceValues (s : Session) (dn name : String) (values : List Value) :
    Except Error Unit × Session :=
  s.modify dn [⟨.replace, name, values⟩]

/-- Gives an attribute this value and no other. -/
def replace (s : Session) (dn name : String) (value : Value) : Except Error Unit × Session :=
  s.replaceValues dn name [value]

/-- Single values cannot be replaced. -/
def replaceValue (s : Session) (_ _ : String) (_ _ : Value) : Except Error Unit × Session :=
  (.error (.unsupported .replaceSingleValue), s)

def destroy (s : Session) (dn : String) : Except Error Unit × Session :=
  checked (s.ask (some (.delete dn)))

/-! ## Starting -/

def connect (files : Files) (config : Config) (server : Server) :
    Except Error Unit × Session :=
  (new config server).reinit files

def environment (s : Session) : Properties := s.config.toProperties

end Session

end DirectoryClient.Ldap
