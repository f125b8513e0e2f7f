import DirectoryClient.Base64

/-!
# What can be wrong with LDIF

One constructor for each rule that a stream of records can break.
-/

namespace DirectoryClient.Ldif

/-- Why a line is refused. -/
inductive Complaint
  /-- A continuation with nothing to continue. -/
  | looseContinuation
  /-- A separator outside of a change. -/
  | looseSeparator
  /-- A line without a name and a colon. -/
  | noName
  /-- A value that is to be fetched from elsewhere. -/
  | urlValue
  /-- A value that is not base64. -/
  | badBase64 (fault : Base64.Fault)
  | repeatedVersion
  | badVersion
  /-- A record that does not begin with its name. -/
  | noDn
  /-- A control of a change. -/
  | control
  | badChange (kind : String)
  /-- A line after the deletion of an entry. -/
  | valuesInDelete
  /-- A line after the renaming of an entry. -/
  | renameDetails
  | editNameNotText
  | badEdit
  /-- A value for another attribute than the one that is edited. -/
  | editNameMismatch
  /-- An edit without its separator. -/
  | unfinishedEdit
  | notText
  deriving DecidableEq

def Complaint.message : Complaint → String
  | .looseContinuation => "Invalid LDIF data"
  | .looseSeparator => "Unexpected change separator"
  | .noName => "Expected attribute"
  | .urlValue => "url value unimplemented"
  | .badBase64 fault => "Invalid base64 value: " ++ fault.message
  | .repeatedVersion => "Repeated version record"
  | .badVersion => "Invalid LDIF version"
  | .noDn => "Expected dn"
  | .control => "controls unimplemented"
  | .badChange kind => "invalid changetype " ++ kind
  | .valuesInDelete => "Should have no values for delete"
  | .renameDetails => "changetype: mod(r)dn unimplemented"
  | .editNameNotText => "Invalid LDIF mod-spec"
  | .badEdit => "Invalid LDIF mod-spec changetype"
  | .editNameMismatch => "Invalid LDIF mod-spec: attribute name mismatch"
  | .unfinishedEdit => "Unterminated change"
  | .notText => "Value is not valid UTF-8"

end DirectoryClient.Ldif
