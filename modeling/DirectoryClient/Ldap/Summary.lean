import DirectoryClient.Ldap.Session
import DirectoryClient.Text.Number
import DirectoryClient.Text.Quoted

/-!
# A session in one line
-/

namespace DirectoryClient.Ldap

/-- What is shown of something that may be absent. -/
def shownOption : Option String → String
  | some text => "Some(" ++ text ++ ")"
  | none => "None"

def Cursor.describe (c : Cursor) (limit : UInt64) : String :=
  "Cursor \x7b base: " ++ Text.quoted c.base ++ ", produced: " ++ toString c.produced ++
    ", limit: " ++ Text.ofWord limit ++ ", .. \x7d"

/-- The state of a session in one line. Passwords are not shown. -/
def Session.describe (s : Session) : String :=
  "LdapDirectory \x7b url: " ++ Text.quoted s.config.url.render ++
    ", principal: " ++ shownOption (s.config.principal.map Text.quoted) ++
    ", connected: " ++ Text.ofTruth s.isConnected ++
    ", cursor: " ++ shownOption (s.cursor.map (·.describe s.config.sizeLimit)) ++ " \x7d"

end DirectoryClient.Ldap
