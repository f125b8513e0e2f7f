import DirectoryClient.Config.Basic
import DirectoryClient.Error
import DirectoryClient.Text.Ascii
import DirectoryClient.Text.Blank
import DirectoryClient.Text.Number

/-!
# Configuration by properties

A configuration can be given as a flat set of properties, and shows itself as
one, without the password. What is shown reads back as the same configuration.

A name and a password that are given together beside the properties win over
those in the set, and ask for simple authentication; one of them alone does not
count. Properties are looked at in a fixed order, so of several bad ones the
first in that order is reported.
-/

namespace DirectoryClient

/-- Names with values; of several values for one name the first counts. -/
abbrev Properties := List (String × String)

namespace Config

/-! ## The names of properties -/

namespace Key

def providerUrl : String := "provider.url"
def contextFactory : String := "context.factory"
def authentication : String := "security.authentication"
def principal : String := "security.principal"
def credentials : String := "security.credentials"
def connectionTimeout : String := "connection.timeout"
def operationTimeout : String := "operation.timeout"
def sizeLimit : String := "search.sizelimit"
def startTls : String := "tls.starttls"
def noVerify : String := "tls.no_verify"
def rootCertificates : String := "tls.root_certificates"
def clientKey : String := "tls.client_key"
def clientCertificate : String := "tls.client_certificate"

end Key

def defaultUrl : String := "ldap://localhost"

/-- The one kind of directory that is configured. -/
def ldapFactory : String := "ldap"

/-! ## Reading -/

/-- Reads a property without regard to blank characters around it. -/
def typed {α : Type} (read : List Char → Option α) (props : Properties) (key : String) :
    Except ConfigFault (Option α) :=
  match props.lookup key with
  | none => .ok none
  | some value =>
      match read (Text.trim value.toList) with
      | some a => .ok (some a)
      | none => .error (.badValue value key)

/-- The kind of authentication with this name, in whatever case. -/
def authenticationNamed? (name : List Char) : Option Authentication :=
  Authentication.ofKeyword? (Text.foldCase (String.ofList name))

/-- Refuses kinds of directories other than the one there is. -/
def checkFactory (props : Properties) : Except ConfigFault Unit :=
  let factory := (props.lookup Key.contextFactory).getD ldapFactory
  if Text.sameName factory ldapFactory then .ok () else .error (.unknownFactory factory)

def readUrl (props : Properties) : Except ConfigFault Url :=
  let text := (props.lookup Key.providerUrl).getD defaultUrl
  match Url.parse text with
  | .ok url => .ok url
  | .error fault => .error (.badUrl text fault)

/-- The configuration that properties describe, with a name and a password that
are given beside them. -/
def ofProperties (props : Properties) (principal password : Option String) :
    Except ConfigFault Config := do
  checkFactory props
  let url ← readUrl props
  let config := new url
  let authentication ← typed authenticationNamed? props Key.authentication
  let config :=
    match principal, password with
    | some name, some secret =>
        { config with
          authentication := .simple, principal := some name, credentials := some secret }
    | _, _ =>
        { config with
          authentication := authentication.getD .simple
          principal := props.lookup Key.principal
          credentials := props.lookup Key.credentials }
  let timeout ← typed Text.word? props Key.connectionTimeout
  let operationTimeout ← typed Text.word? props Key.operationTimeout
  let sizeLimit ← typed Text.word? props Key.sizeLimit
  let startTls ← typed Text.truth? props Key.startTls
  let noVerify ← typed Text.truth? props Key.noVerify
  return { config with
    connection := {
      timeout := timeout.getD ConnectionConfig.default.timeout
      operationTimeout := operationTimeout.map Duration.ofSeconds
      tls := {
        startTls := startTls.getD false
        noVerify := noVerify.getD false
        rootCertificates := props.lookup Key.rootCertificates
        clientKey := props.lookup Key.clientKey
        clientCertificate := props.lookup Key.clientCertificate } }
    sizeLimit := sizeLimit.getD defaultSizeLimit }

/-! ## Showing -/

/-- A property that may be absent. -/
def shown (key : String) (value : Option String) : Properties :=
  value.toList.map (key, ·)

/-- The properties that a configuration shows, sorted by name. -/
def toProperties (c : Config) : Properties :=
  let tls := c.connection.tls
  let seconds := c.connection.operationTimeout.map fun d => Text.ofWord d.seconds
  [(Key.connectionTimeout, Text.ofWord c.connection.timeout),
      (Key.contextFactory, ldapFactory)] ++
    shown Key.operationTimeout seconds ++
    [(Key.providerUrl, c.url.render), (Key.sizeLimit, Text.ofWord c.sizeLimit),
      (Key.authentication, c.authentication.keyword)] ++
    shown Key.principal c.principal ++
    shown Key.clientCertificate tls.clientCertificate ++
    shown Key.clientKey tls.clientKey ++
    [(Key.noVerify, Text.ofTruth tls.noVerify)] ++
    shown Key.rootCertificates tls.rootCertificates ++
    [(Key.startTls, Text.ofTruth tls.startTls)]

def parseAuthentication (name : String) : Except ConfigFault Authentication :=
  match authenticationNamed? name.toList with
  | some a => .ok a
  | none => .error (.unknownAuthentication (Text.foldCase name))

end Config

end DirectoryClient
