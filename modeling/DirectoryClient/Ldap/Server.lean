import DirectoryClient.Entry
import DirectoryClient.Ldap.Endpoint
import DirectoryClient.Ldap.Request
import DirectoryClient.Ldap.ResultCode

/-!
# Connections to a server

A server is known by what it answers: a list of replies, one for each request
that asks for an answer, in the order in which the requests arrive over all
connections. When there are no more, everything works and nothing is found.

Each connection numbers its requests from 1. A connection that was closed takes no
further requests; nothing is sent over it any more. How far a connection has come is
the same for all who hold it, so this is kept in one place (`Line`), and who holds a
connection knows its number only.

A reply that does not come is taken for a failure to get it in time. That is what a
client sees who has set a time to wait; one who has not, and whoever asks to be known,
for whom no time is set, would wait for ever. Such a wait is not an answer, and what is
said here of a server that keeps silent is said of a client that does not wait so.

What passes between the two is kept as a transcript: the requests that were sent
and, in their place, the ends of searches as they were read, be it the server's
last word or a failure to get it.
-/

namespace DirectoryClient.Ldap

/-- An entry as a server sends it, and the order in which the client will find the
attributes when it has sorted them. -/
structure Found where
  dn : String
  attributes : List (String × List Bytes)
  order : Entry.Order

/-- What a server sends in answer to a search before its last word. -/
inductive Message
  | entry (found : Found)
  /-- Other servers that may know more. -/
  | reference (urls : List String)
  | intermediate

def Message.entry? : Message → Option Found
  | entry found => some found
  | reference _ => none
  | intermediate => none

/-- How a server reacts to a request. -/
inductive Reply
  /-- It answers with an outcome. To a search it first sends messages, and it
  sends the outcome only if it finishes. -/
  | answer (messages : List Message) (outcome : Outcome) (finishes : Bool)
  /-- It does not answer, for longer than anyone waits. -/
  | silence
  | hangUp

/-- What happened on a connection. -/
inductive Event
  | sent (connection id : Nat) (request : Request)
  /-- The end of a search was read, or could not be. -/
  | ended (connection id : Nat) (result : Except Fault Outcome)

/-- How far a connection has come. -/
structure Line where
  /-- The number of the last request. -/
  lastId : Nat
  /-- Whether neither side has closed it. -/
  isOpen : Bool

structure Server where
  /-- Where it listens. It cannot be reached in any other way. -/
  endpoint : Endpoint
  replies : List Reply
  /-- What happened so far. -/
  transcript : List Event
  /-- How many connections were made so far. -/
  connections : Nat
  lines : Nat → Line

/-- A connection as it is held by a client. -/
structure Connection where
  number : Nat
  deriving DecidableEq

/-- What a search found: its request's number, the entries, and the outcome if it
came. -/
structure Findings where
  id : Nat
  entries : List Found
  outcome : Option Outcome

/-! ## Connecting -/

/-- A server before anyone has connected. -/
def Server.new (endpoint : Endpoint) (replies : List Reply) : Server :=
  ⟨endpoint, replies, [], 0, fun _ => ⟨0, true⟩⟩

def Server.setLine (s : Server) (number : Nat) (line : Line) : Server :=
  { s with lines := fun n => if n = number then line else s.lines n }

def Server.accept (s : Server) : Connection × Server :=
  let number := s.connections + 1
  (⟨number⟩, { s.setLine number ⟨0, true⟩ with connections := number })

/-- Makes a connection to the server that a URL leads to, if it is this one. -/
def Server.connect (s : Server) (url : Url) : Except ConnectionFault (Connection × Server) :=
  match Endpoint.ofUrl url with
  | .error fault => .error fault
  | .ok endpoint => if endpoint = s.endpoint then .ok s.accept else .error .unreachable

/-! ## Asking -/

def Server.nextReply (s : Server) : Reply × Server :=
  match s.replies with
  | [] => (.answer [] Outcome.success true, s)
  | reply :: rest => (reply, { s with replies := rest })

namespace Connection

def isOpen (c : Connection) (s : Server) : Bool := (s.lines c.number).isOpen

/-- The number of the last request. -/
def lastId (c : Connection) (s : Server) : Nat := (s.lines c.number).lastId

/-- Sends a request and gives its number. -/
def send (c : Connection) (r : Request) (s : Server) : Except Fault Nat × Server :=
  if c.isOpen s then
    let id := c.lastId s + 1
    (.ok id, { s.setLine c.number ⟨id, true⟩ with
      transcript := s.transcript ++ [.sent c.number id r] })
  else (.error .closedSending, s)

/-- Closes a connection, for all who hold it. -/
def shut (c : Connection) (s : Server) : Server :=
  s.setLine c.number ⟨c.lastId s, false⟩

/-- Sends a request and waits for the outcome. Silence is a failure here whatever time was
set to wait (`ConnectionConfig.operationTimeout`); where none was, the wait would last. -/
def ask (c : Connection) (r : Request) (s : Server) : Except Fault Outcome × Server :=
  match c.send r s with
  | (.error fault, s) => (.error fault, s)
  | (.ok _, s) =>
      match s.nextReply with
      | (.answer _ outcome _, s) => (.ok outcome, s)
      | (.silence, s) => (.error .timeout, s)
      | (.hangUp, s) => (.error .closedWaiting, c.shut s)

/-- Sends a search. What it finds waits to be read, also when the server closes
the connection later. -/
def search (c : Connection) (q : Query) (s : Server) : Except Fault Findings × Server :=
  match c.send (.search q) s with
  | (.error fault, s) => (.error fault, s)
  | (.ok id, s) =>
      match s.nextReply with
      | (.answer messages outcome finishes, s) =>
          let last := if finishes then some outcome else none
          (.ok ⟨id, messages.filterMap Message.entry?, last⟩, s)
      | (.silence, s) => (.ok ⟨id, [], none⟩, s)
      | (.hangUp, s) => (.ok ⟨id, [], none⟩, c.shut s)

/-- Reads the end of a search after all its entries: if it has not come, it will
not come any more, and waiting for it fails as in `ask`. -/
def readEnd (c : Connection) (id : Nat) (outcome : Option Outcome) (s : Server) :
    Except Fault Outcome × Server :=
  let result := match outcome with
    | some o => .ok o
    | none => .error (if c.isOpen s then .timeout else .closedSearching)
  (result, { s with transcript := s.transcript ++ [.ended c.number id result] })

/-- Takes leave of the server, which ends the connection. -/
def unbind (c : Connection) (s : Server) : Server := c.shut (c.send .unbind s).2

end Connection

end DirectoryClient.Ldap
