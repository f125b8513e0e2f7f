import DirectoryClient.Ldap.ResultCode
import DirectoryClient.Ldif.Complaint
import DirectoryClient.Url.Fault

/-!
# Errors

An error is a cause. The cause says what happened, and `Error.message?` puts it
into words. Two causes have no wording of their own, because the operating
system supplies it: a file or sink that fails, and a server that cannot be
reached.
-/

namespace DirectoryClient

/-- How reading or writing octets can fail. -/
inductive IoKind
  | missing
  | isDirectory
  | notDirectory
  | invalidData
  | full
  | broken
  deriving DecidableEq

/-- What can be wrong with a configuration. -/
inductive ConfigFault
  | unknownFactory (factory : String)
  | badUrl (text : String) (fault : Url.Fault)
  | badValue (value key : String)
  | unknownAuthentication (mode : String)
  deriving DecidableEq

def ConfigFault.message : ConfigFault → String
  | .unknownFactory factory => "Unknown context factory " ++ factory
  | .badUrl text fault => "Invalid provider URL " ++ text ++ ": " ++ fault.message
  | .badValue value key => "Invalid value " ++ value ++ " for " ++ key
  | .unknownAuthentication mode => "Unsupported authentication mode " ++ mode

/-- Why there is no connection. -/
inductive ConnectionFault
  | notConnected
  | unreachable
  | emptySocketPath
  | portWithSocket
  | unknownScheme (scheme : String)
  | bind (fault : Ldap.Fault)
  deriving DecidableEq

/-- The wording of a connection's fault, where it is the library's own. -/
def ConnectionFault.message? : ConnectionFault → Option String
  | .notConnected => some "Not connected"
  | .unreachable => none
  | .emptySocketPath => some "empty Unix domain socket path"
  | .portWithSocket => some "the port must be empty in the ldapi scheme"
  | .unknownScheme scheme => some ("unknown LDAP URL scheme: " ++ scheme)
  | .bind fault => some fault.message

/-- The operations that a directory may lack. -/
inductive Unsupported
  | streamCreate
  | streamReplace
  | streamModify
  | streamDestroy
  | replaceSingleValue
  deriving DecidableEq

def Unsupported.message : Unsupported → String
  | .streamCreate => "ldif create not implemented"
  | .streamReplace => "ldif replace not implemented"
  | .streamModify => "ldif modify not implemented"
  | .streamDestroy => "Cannot delete an ldif stream record"
  | .replaceSingleValue => "ldap replace(old, new) not implemented"

/-- Data that does not have the form it should have. -/
inductive Malformed
  | attributeValue (name : String)
  | emptyDn
  | rootCertificate
  | clientKey
  | clientCertificates
  | loneClientFile
  deriving DecidableEq

def Malformed.message : Malformed → String
  | .attributeValue name => name
  | .emptyDn => "Unable to get dn"
  | .rootCertificate => "Could not read root certificate"
  | .clientKey => "Could not read client key"
  | .clientCertificates => "Could not read client certificates"
  | .loneClientFile =>
      "Both a client certificate and key file in PKCS8 format must be specified"

/-- Why an operation of the library failed. -/
inductive Error
  | config (fault : ConfigFault)
  | connection (fault : ConnectionFault)
  | directory (fault : Ldap.Fault)
  | noOpenSearch
  | unsupported (operation : Unsupported)
  | invalid (data : Malformed)
  | ldif (line : Nat) (complaint : Ldif.Complaint)
  | io (kind : IoKind)
  deriving DecidableEq

/-- The wording of an error, unless the operating system has to supply it. -/
def Error.message? : Error → Option String
  | .config fault => some ("Invalid configuration: " ++ fault.message)
  | .connection fault => fault.message?.map ("Connection failed: " ++ ·)
  | .directory fault => some ("Directory error: " ++ fault.message)
  | .noOpenSearch => some "No open search"
  | .unsupported operation => some ("Unsupported operation: " ++ operation.message)
  | .invalid data => some ("Malformed data: " ++ data.message)
  | .ldif line complaint =>
      some ("Invalid LDIF data at line " ++ toString line ++ ": " ++ complaint.message)
  | .io _ => none

end DirectoryClient
