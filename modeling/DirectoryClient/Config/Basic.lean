import DirectoryClient.Url.Parser

/-!
# The configuration of a directory

What has to be known to reach a directory: where it is, as whom to ask, how long
to wait, how many records to take, and what protects the connection. Everything
but the URL has a default.
-/

namespace DirectoryClient

/-- How to introduce oneself to the server. -/
inductive Authentication
  /-- With a name and a password, where both are given. -/
  | simple
  | anonymous
  deriving DecidableEq

namespace Authentication

def keyword : Authentication → String
  | simple => "simple"
  | anonymous => "none"

/-- The kind of authentication that a word names exactly. -/
def ofKeyword? (word : String) : Option Authentication :=
  if word = "simple" then some simple
  else if word = "none" then some anonymous
  else none

theorem ofKeyword?_keyword (a : Authentication) : ofKeyword? a.keyword = some a := by
  cases a <;> rfl

end Authentication

/-- A length of time, to the billionth of a second. -/
structure Duration where
  seconds : UInt64
  nanos : Nat
  nanos_lt : nanos < 1000000000
  deriving DecidableEq

namespace Duration

def ofSeconds (seconds : UInt64) : Duration := ⟨seconds, 0, by decide⟩

/-- The length of so many seconds and billionths, of which full ones are carried
over, if the seconds still fit. -/
def carry? (seconds : UInt64) (nanos : Nat) : Option Duration :=
  let total := seconds.toNat + nanos / 1000000000
  if total < UInt64.size then
    some ⟨UInt64.ofNat total, nanos % 1000000000, Nat.mod_lt _ (by decide)⟩
  else none

end Duration

/-- What protects a connection. -/
structure TlsConfig where
  /-- Whether protection starts on the connection instead of before it. -/
  startTls : Bool
  /-- Whether the server's certificate goes unchecked. -/
  noVerify : Bool
  rootCertificates : Option String
  clientKey : Option String
  clientCertificate : Option String
  deriving DecidableEq

/-- No protection but what the URL asks for. -/
def TlsConfig.default : TlsConfig := ⟨false, false, none, none, none⟩

/-- How to connect. -/
structure ConnectionConfig where
  /-- How many seconds to try to connect. -/
  timeout : UInt64
  /-- How long to wait for each answer; no limit if absent. -/
  operationTimeout : Option Duration
  tls : TlsConfig
  deriving DecidableEq

def ConnectionConfig.default : ConnectionConfig := ⟨5, none, TlsConfig.default⟩

structure Config where
  url : Url
  authentication : Authentication
  /-- The name to introduce oneself with. -/
  principal : Option String
  /-- The password that goes with it. -/
  credentials : Option String
  connection : ConnectionConfig
  /-- How many records a search hands out; no limit if 0. -/
  sizeLimit : UInt64
  deriving DecidableEq

namespace Config

def defaultSizeLimit : UInt64 := 1000

def new (url : Url) : Config :=
  ⟨url, .simple, none, none, ConnectionConfig.default, defaultSizeLimit⟩

end Config

end DirectoryClient
