import DirectoryClient.Config.Basic
import DirectoryClient.Files
import DirectoryClient.Tls.Certificate
import DirectoryClient.Tls.Pem
import DirectoryClient.Tls.PrivateKey

/-!
# What a connection is made with

Before a connection is made, the files that the configuration names are read: the
certificates to trust, and who the client is. If no certificates to trust are
named, no file is read at all, and the client has no identity.
-/

namespace DirectoryClient

namespace Tls

/-- Who a client says it is. -/
structure Identity where
  chain : List Bytes
  key : Bytes
  deriving DecidableEq

/-- What protects a connection beyond what the URL asks for. -/
structure Protection where
  roots : List Bytes
  identity : Option Identity
  deriving DecidableEq

/-- What a connection is made with. -/
structure Settings where
  timeout : UInt64
  startTls : Bool
  noVerify : Bool
  protection : Option Protection
  deriving DecidableEq

section

/-! Files are read by path, in whatever way. -/

variable (read : String → Except Error Bytes)

/-- The contents of the sections of one label in the file at a path. -/
def readSections (label : Bytes) (path : String) : Except Error (List Bytes) :=
  match read path with
  | .error e => .error e
  | .ok file =>
      match Pem.contents label file with
      | .error kind => .error (.io kind)
      | .ok found => .ok found

/-- Reads certificates to trust. Those without the form of one are left out, but
one has to remain. -/
def readRoots (path : String) : Except Error (List Bytes) := do
  let found ← readSections read Section.certificate path
  match found.filter Certificate.isReadable with
  | [] => .error (.invalid .rootCertificate)
  | roots => .ok roots

/-- Reads a client's certificate and its key. The first key in its file counts. -/
def readIdentity (certificatePath keyPath : String) : Except Error Identity := do
  let chain ← readSections read Section.certificate certificatePath
  match ← readSections read Section.privateKey keyPath with
  | [] => .error (.invalid .clientKey)
  | key :: _ =>
      if PrivateKey.isUsable key then .ok ⟨chain, key⟩
      else .error (.invalid .clientCertificates)

/-- Reads what protects a connection. -/
def readProtection (tls : TlsConfig) : Except Error (Option Protection) :=
  match tls.rootCertificates with
  | none => .ok none
  | some path => do
      let roots ← readRoots read path
      match tls.clientCertificate, tls.clientKey with
      | some certificatePath, some keyPath =>
          return some ⟨roots, some (← readIdentity read certificatePath keyPath)⟩
      | none, none => return some ⟨roots, none⟩
      | _, _ => .error (.invalid .loneClientFile)

end

end Tls

namespace ConnectionConfig

/-- What a connection is made with, when files are read in this way. -/
def settingsBy (read : String → Except Error Bytes) (c : ConnectionConfig) :
    Except Error Tls.Settings := do
  return ⟨c.timeout, c.tls.startTls, c.tls.noVerify, ← Tls.readProtection read c.tls⟩

def settings (files : Files) (c : ConnectionConfig) : Except Error Tls.Settings :=
  c.settingsBy files.read

end ConnectionConfig

end DirectoryClient
