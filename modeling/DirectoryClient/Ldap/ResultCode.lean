/-!
# Result codes

Every operation ends with a result: a code, the part of a distinguished name
that the server recognised, and a text for people. The names of the codes are
those of the protocol's standard.
-/

namespace DirectoryClient.Ldap

/-- How the server says an operation ended. -/
structure Outcome where
  code : Nat
  matched : String
  text : String
  deriving DecidableEq

def Outcome.success : Outcome := ⟨0, "", ""⟩

namespace ResultCode

def success : Nat := 0
def sizeLimitExceeded : Nat := 4
def noSuchObject : Nat := 32
def entryAlreadyExists : Nat := 68

/-- The standard's names of result codes. -/
def names : List (Nat × String) :=
  [(0, "success"), (1, "operationsError"), (2, "protocolError"), (3, "timeLimitExceeded"),
    (4, "sizeLimitExceeded"), (5, "compareFalse"), (6, "compareTrue"),
    (7, "authMethodNotSupported"), (8, "strongerAuthRequired"), (10, "referral"),
    (11, "adminLimitExceeded"), (12, "unavailableCriticalExtension"),
    (13, "confidentialityRequired"), (14, "saslBindInProgress"), (16, "noSuchAttribute"),
    (17, "undefinedAttributeType"), (18, "inappropriateMatching"), (19, "constraintViolation"),
    (20, "attributeOrValueExists"), (21, "invalidAttributeSyntax"), (32, "noSuchObject"),
    (33, "aliasProblem"), (34, "invalidDNSyntax"), (36, "aliasDereferencingProblem"),
    (48, "inappropriateAuthentication"), (49, "invalidCredentials"),
    (50, "insufficientAccessRights"), (51, "busy"), (52, "unavailable"),
    (53, "unwillingToPerform"), (54, "loopDetect"), (64, "namingViolation"),
    (65, "objectClassViolation"), (66, "notAllowedOnNonLeaf"), (67, "notAllowedOnRDN"),
    (68, "entryAlreadyExists"), (69, "objectClassModsProhibited"), (71, "affectsMultipleDSAs"),
    (80, "other"), (88, "abandoned"), (122, "assertionFailed")]

/-- The name of a code, or `unknown`. -/
def name (code : Nat) : String := (names.lookup code).getD "unknown"

end ResultCode

/-- Why an operation on a connection failed. -/
inductive Fault
  | badFilter
  /-- Values were to be added, but there are none. -/
  | noValues
  /-- The server ended the operation with a code that means failure. -/
  | refused (outcome : Outcome)
  | timeout
  /-- The connection was closed while the answer was awaited. -/
  | closedWaiting
  /-- The connection was closed before the request could be sent. -/
  | closedSending
  /-- The connection was closed before a search had ended. -/
  | closedSearching
  deriving DecidableEq

def Fault.message : Fault → String
  | .badFilter => "filter parse error"
  | .noValues => "empty value set for Add"
  | .refused o =>
      "LDAP operation result: rc=" ++ toString o.code ++ " (" ++ ResultCode.name o.code ++
        "), dn: \"" ++ o.matched ++ "\", text: \"" ++ o.text ++ "\""
  | .timeout => "timeout: deadline has elapsed"
  | .closedWaiting => "result recv error: channel closed"
  | .closedSending => "op send error: channel closed"
  | .closedSearching => "premature end of search stream"

end DirectoryClient.Ldap
