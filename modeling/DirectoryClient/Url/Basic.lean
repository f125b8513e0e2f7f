import DirectoryClient.Url.Host
import DirectoryClient.Url.Path

/-!
# Absolute URLs

A URL has a scheme and a path, and may have an authority, a query and a
fragment. A path is either a list of segments or, where no slash follows the
scheme, a text without structure. All parts are kept encoded, so printing a URL
only puts them together; where a path begins with an empty segment and there is
no authority, a dot is put in between, because two slashes would start one.
-/

namespace DirectoryClient

namespace Url

/-- Whom to ask for a resource, and as whom. Without a host the authority is
written as nothing between slashes. -/
structure Authority where
  user : String
  password : Option String
  host : Option Host
  port : Option Nat
  deriving DecidableEq

/-- What comes after the authority. -/
inductive Location
  | segments (path : List String)
  | flat (text : String)
  deriving DecidableEq

end Url

/-- An absolute URL. -/
structure Url where
  scheme : String
  authority : Option Url.Authority
  location : Url.Location
  query : Option String
  fragment : Option String
  deriving DecidableEq

namespace Url

def host? (url : Url) : Option Host := url.authority.bind (·.host)

def Authority.render (a : Authority) : String :=
  let password := match a.password with
    | some p => ":" ++ p
    | none => ""
  let credentials := a.user ++ password
  let host := match a.host with
    | some host => host.render
    | none => ""
  let port := match a.port with
    | some n => ":" ++ toString n
    | none => ""
  (if credentials.isEmpty then "" else credentials ++ "@") ++ host ++ port

def Location.render : Location → String
  | segments path => String.join (path.map ("/" ++ ·))
  | flat text => text

def render (url : Url) : String :=
  let authority := match url.authority, url.location with
    | some a, _ => "//" ++ a.render
    | none, .segments ("" :: _ :: _) => "/."
    | none, _ => ""
  let query := match url.query with
    | some q => "?" ++ q
    | none => ""
  let fragment := match url.fragment with
    | some f => "#" ++ f
    | none => ""
  url.scheme ++ ":" ++ authority ++ url.location.render ++ query ++ fragment

end Url

end DirectoryClient
