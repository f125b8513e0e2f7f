import DirectoryClient.Config.Basic
import DirectoryClient.Json

/-!
# Configuration in JSON

A configuration is written as an object with a field for each setting. It is
read from such an object, or from an array with the settings in their order. In
an object a setting with a default may be missing, and fields of other names do
not matter; in a length of time neither is allowed. No setting may be there twice,
whatever is said the second time. A setting that may be absent may also be null, and
no other may.
-/

namespace DirectoryClient

namespace Json

/-- What an object or array has in the place of a setting. -/
inductive Slot
  | present (j : Json)
  /-- An object without the field. -/
  | missing
  /-- An array that ends before. -/
  | cutOff

/-- The setting at a position or of a name; `none` where there are no settings
at all, or more than `count` of them, or more than one of the name. -/
def slot? (j : Json) (count index : Nat) (name : String) : Option Slot :=
  match j with
  | object fields =>
      match fields.filter (·.1 == name) with
      | [] => some .missing
      | [field] => some (.present field.2)
      | _ => none
  | array items =>
      if count < items.length then none
      else some (match items[index]? with
        | some j => .present j
        | none => .cutOff)
  | _ => none

def Slot.required {α : Type} (read : Json → Option α) : Slot → Option α
  | present j => read j
  | _ => none

def Slot.orDefault {α : Type} (read : Json → Option α) (default : α) : Slot → Option α
  | present j => read j
  | _ => some default

/-- A setting that may be absent from an object. -/
def Slot.ifPresent {α : Type} (read : Json → Option α) : Slot → Option (Option α)
  | present null => some none
  | present j => (read j).map some
  | missing => some none
  | cutOff => none

def natBelow? (bound : Nat) : Json → Option Nat
  | integer n => if 0 ≤ n ∧ n < bound then some n.toNat else none
  | _ => none

def word? (j : Json) : Option UInt64 := (j.natBelow? UInt64.size).map UInt64.ofNat

def bool? : Json → Option Bool
  | bool b => some b
  | _ => none

def text? : Json → Option String
  | text s => some s
  | _ => none

def ofText? : Option String → Json
  | some s => text s
  | none => null

end Json

open Json

namespace Duration

/-- Reads a length of time, which has nothing but its two parts. -/
def ofJson? (j : Json) : Option Duration := do
  if let .object fields := j then
    if fields.any fun f => f.1 ≠ "secs" ∧ f.1 ≠ "nanos" then none
  let seconds ← (← j.slot? 2 0 "secs").required word?
  let nanos ← (← j.slot? 2 1 "nanos").required (natBelow? UInt32.size)
  carry? seconds nanos

def toJson (d : Duration) : Json :=
  .object [("secs", .integer d.seconds.toNat), ("nanos", .integer d.nanos)]

end Duration

namespace Authentication

/-- Reads a kind of authentication: its word, or an object with null under it. -/
def ofJson? : Json → Option Authentication
  | .text word => ofKeyword? word
  | .object [(word, .null)] => ofKeyword? word
  | _ => none

end Authentication

namespace TlsConfig

def ofJson? (j : Json) : Option TlsConfig := do
  let startTls ← (← j.slot? 5 0 "starttls").required bool?
  let noVerify ← (← j.slot? 5 1 "no_tls_verify").required bool?
  let rootCertificates ← (← j.slot? 5 2 "root_certificates_path").ifPresent text?
  let clientKey ← (← j.slot? 5 3 "client_key_path").ifPresent text?
  let clientCertificate ← (← j.slot? 5 4 "client_certificate_path").ifPresent text?
  return { startTls, noVerify, rootCertificates, clientKey, clientCertificate }

def toJson (c : TlsConfig) : Json :=
  .object [("starttls", .bool c.startTls), ("no_tls_verify", .bool c.noVerify),
    ("root_certificates_path", ofText? c.rootCertificates),
    ("client_key_path", ofText? c.clientKey),
    ("client_certificate_path", ofText? c.clientCertificate)]

end TlsConfig

namespace ConnectionConfig

def ofJson? (j : Json) : Option ConnectionConfig := do
  let timeout ← (← j.slot? 3 0 "timeout").required word?
  let operationTimeout ← (← j.slot? 3 1 "operation_timeout").ifPresent Duration.ofJson?
  let tls ← (← j.slot? 3 2 "tls").required TlsConfig.ofJson?
  return { timeout, operationTimeout, tls }

def toJson (c : ConnectionConfig) : Json :=
  .object [("timeout", .integer c.timeout.toNat),
    ("operation_timeout", match c.operationTimeout with
      | some d => d.toJson
      | none => .null),
    ("tls", c.tls.toJson)]

end ConnectionConfig

namespace Url

def ofJson? (j : Json) : Option Url := do
  match parse (← j.text?) with
  | .ok url => some url
  | .error _ => none

end Url

namespace Config

/-- A setting that may be absent, also from an array that ends before. -/
def optional {α : Type} (read : Json → Option α) : Slot → Option (Option α)
  | .cutOff => some none
  | slot => slot.ifPresent read

def ofJson? (j : Json) : Option Config := do
  let url ← (← j.slot? 6 0 "url").required Url.ofJson?
  let authentication ←
    (← j.slot? 6 1 "authentication").orDefault Authentication.ofJson? .simple
  let principal ← optional text? (← j.slot? 6 2 "principal")
  let credentials ← optional text? (← j.slot? 6 3 "credentials")
  let connection ←
    (← j.slot? 6 4 "connection").orDefault ConnectionConfig.ofJson? ConnectionConfig.default
  let sizeLimit ← (← j.slot? 6 5 "size_limit").orDefault word? defaultSizeLimit
  return { url, authentication, principal, credentials, connection, sizeLimit }

def toJson (c : Config) : Json :=
  .object [("url", .text c.url.render), ("authentication", .text c.authentication.keyword),
    ("principal", ofText? c.principal), ("credentials", ofText? c.credentials),
    ("connection", c.connection.toJson), ("size_limit", .integer c.sizeLimit.toNat)]

end Config

end DirectoryClient
