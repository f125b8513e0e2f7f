import DirectoryClient.Error
import DirectoryClient.Url.Basic
import DirectoryClient.Url.Percent

/-!
# Where a URL leads

The scheme says how a server is reached: over the network, or through a socket
in the file system, whose path is then the percent-encoded host. Where it leads over
the network is left as the URL says it; how such a connection is secured is a part of
making it.
-/

namespace DirectoryClient.Ldap

/-- How a server is reached. -/
inductive Endpoint
  | socket (path : String)
  | network (url : Url)
  deriving DecidableEq

namespace Endpoint

def ofUrl (url : Url) : Except ConnectionFault Endpoint :=
  if url.scheme = "ldapi" then
    match (url.host?.map Url.Host.render).getD "" with
    | "" => .error .emptySocketPath
    | host =>
        if host.contains ':' then .error .portWithSocket
        else .ok (.socket (Text.lossy (Url.percentDecode host.toList)))
  else if url.scheme = "ldap" ∨ url.scheme = "ldaps" then .ok (.network url)
  else .error (.unknownScheme url.scheme)

end Endpoint

end DirectoryClient.Ldap
