import DirectoryClient.Config.Properties
import DirectoryClient.Proofs.Except
import DirectoryClient.Proofs.Text.Number

/-!
# Showing a configuration and reading it back

The properties of a configuration are looked up by name, so all that matters of them
is what each name has for a value (`Shows`). Every typed property is written in a
form that survives trimming and is read as what was written, a property that is
absent stands for a setting that is absent, and no property that is always shown
falls back on a default. That gives the whole configuration back, except for the
password, which is not shown.

Two things cannot be shown. A URL is shown as it is written, so it has to be one
that reads back as itself, and an operation timeout is shown in seconds, so it has
to be a whole number of them. A configuration that came from properties has such a
timeout.
-/

namespace DirectoryClient

/-- Whether a URL reads back as it is written. -/
def Url.IsStable (u : Url) : Prop := Url.parse u.render = .ok u

namespace Config

/-- Whether the operation timeout, if there is one, is a whole number of seconds. -/
def HasWholeSeconds (c : Config) : Prop :=
  ∀ d, c.connection.operationTimeout = some d → d.nanos = 0

/-- What is left of a configuration that must not tell its password. -/
def withoutCredentials (c : Config) : Config := { c with credentials := none }

/-- What properties say, name by name, when they show a configuration. -/
structure Shows (props : Properties) (c : Config) : Prop where
  contextFactory : props.lookup Key.contextFactory = some ldapFactory
  providerUrl : props.lookup Key.providerUrl = some c.url.render
  authentication : props.lookup Key.authentication = some c.authentication.keyword
  principal : props.lookup Key.principal = c.principal
  credentials : props.lookup Key.credentials = none
  connectionTimeout :
    props.lookup Key.connectionTimeout = some (Text.ofWord c.connection.timeout)
  operationTimeout : props.lookup Key.operationTimeout =
    (c.connection.operationTimeout.map (·.seconds)).map Text.ofWord
  sizeLimit : props.lookup Key.sizeLimit = some (Text.ofWord c.sizeLimit)
  startTls : props.lookup Key.startTls = some (Text.ofTruth c.connection.tls.startTls)
  noVerify : props.lookup Key.noVerify = some (Text.ofTruth c.connection.tls.noVerify)
  rootCertificates : props.lookup Key.rootCertificates = c.connection.tls.rootCertificates
  clientKey : props.lookup Key.clientKey = c.connection.tls.clientKey
  clientCertificate : props.lookup Key.clientCertificate = c.connection.tls.clientCertificate

/-! ## Showing -/

theorem lookup_shown (key name : String) (value : Option String) :
    (shown key value).lookup name = if name = key then value else none := by
  cases value with
  | none => exact (ite_self none).symm
  | some v =>
      rw [shown, Option.toList_some, List.map_singleton, List.lookup_cons, List.lookup_nil]
      split
      next h => rw [if_pos (beq_iff_eq.1 h)]
      next h => rw [if_neg (beq_eq_false_iff_ne.1 h)]

theorem shows_toProperties (c : Config) : Shows c.toProperties c := by
  constructor <;>
    simp [toProperties, List.lookup_append, List.lookup_cons, lookup_shown,
      Key.contextFactory, Key.providerUrl, Key.authentication, Key.principal, Key.credentials,
      Key.connectionTimeout, Key.operationTimeout, Key.sizeLimit, Key.startTls, Key.noVerify,
      Key.rootCertificates, Key.clientKey, Key.clientCertificate, Function.comp_def]

theorem Shows.congr {props props' : Properties} {c : Config} (h : Shows props c)
    (heq : ∀ key, props'.lookup key = props.lookup key) : Shows props' c where
  contextFactory := (heq _).trans h.contextFactory
  providerUrl := (heq _).trans h.providerUrl
  authentication := (heq _).trans h.authentication
  principal := (heq _).trans h.principal
  credentials := (heq _).trans h.credentials
  connectionTimeout := (heq _).trans h.connectionTimeout
  operationTimeout := (heq _).trans h.operationTimeout
  sizeLimit := (heq _).trans h.sizeLimit
  startTls := (heq _).trans h.startTls
  noVerify := (heq _).trans h.noVerify
  rootCertificates := (heq _).trans h.rootCertificates
  clientKey := (heq _).trans h.clientKey
  clientCertificate := (heq _).trans h.clientCertificate

/-- The password is shown nowhere. -/
theorem toProperties_withoutCredentials (c : Config) :
    c.withoutCredentials.toProperties = c.toProperties := rfl

/-! ## Reading back -/

theorem authenticationNamed?_trim_keyword (a : Authentication) :
    authenticationNamed? (Text.trim a.keyword.toList) = some a := by
  cases a <;> decide

/-- A property that is written so that it can be read is read as what was written, and
as absent if it is. -/
theorem typed_of_lookup {α : Type} {read : List Char → Option α} {write : α → String}
    (hread : ∀ a, read (Text.trim (write a).toList) = some a) {props : Properties}
    {key : String} {v : Option α} (h : props.lookup key = v.map write) :
    typed read props key = .ok v := by
  rw [typed, h]
  cases v with
  | none => rfl
  | some a =>
      rw [Option.map_some]
      dsimp only
      rw [hread]

theorem word?_trim_ofWord (w : UInt64) : Text.word? (Text.trim (Text.ofWord w).toList) = some w := by
  rw [Text.trim_ofWord, Text.word?_ofWord]

theorem Shows.checkFactory_eq {props : Properties} {c : Config} (h : Shows props c) :
    checkFactory props = .ok () := by
  rw [checkFactory, h.contextFactory, Option.getD_some]
  exact if_pos (Text.sameName_self ldapFactory)

theorem Shows.readUrl_eq {props : Properties} {c : Config} (h : Shows props c)
    (hurl : c.url.IsStable) : readUrl props = .ok c.url := by
  have hparse : Url.parse c.url.render = .ok c.url := hurl
  rw [readUrl, h.providerUrl, Option.getD_some, hparse]

theorem HasWholeSeconds.ofSeconds {c : Config} (h : c.HasWholeSeconds) :
    (c.connection.operationTimeout.map (·.seconds)).map Duration.ofSeconds =
      c.connection.operationTimeout := by
  cases hd : c.connection.operationTimeout with
  | none => rfl
  | some d =>
      obtain ⟨seconds, nanos, hlt⟩ := d
      obtain rfl : nanos = 0 := h _ hd
      rfl

/-- What shows a configuration is read as that configuration. -/
theorem Shows.ofProperties_eq {props : Properties} {c : Config} (h : Shows props c)
    (hurl : c.url.IsStable) (hwhole : c.HasWholeSeconds) :
    ofProperties props none none = .ok c.withoutCredentials := by
  have hauthentication := typed_of_lookup (v := some c.authentication)
    authenticationNamed?_trim_keyword h.authentication
  have htimeout := typed_of_lookup (v := some c.connection.timeout)
    word?_trim_ofWord h.connectionTimeout
  have hoperation := typed_of_lookup word?_trim_ofWord h.operationTimeout
  have hlimit := typed_of_lookup (v := some c.sizeLimit) word?_trim_ofWord h.sizeLimit
  have hstart := typed_of_lookup (v := some c.connection.tls.startTls)
    Text.truth?_trim_ofTruth h.startTls
  have hverify := typed_of_lookup (v := some c.connection.tls.noVerify)
    Text.truth?_trim_ofTruth h.noVerify
  simp only [ofProperties, bind, Except.bind, pure, Except.pure, h.checkFactory_eq,
    h.readUrl_eq hurl, hauthentication, htimeout, hoperation, hlimit, hstart, hverify,
    h.principal, h.credentials, h.rootCertificates, h.clientKey, h.clientCertificate,
    hwhole.ofSeconds, Option.getD_some]
  rfl

/-- Properties give operation timeouts in seconds. -/
theorem hasWholeSeconds_of_ofProperties {props : Properties} {principal password : Option String}
    {c : Config} (h : ofProperties props principal password = .ok c) : c.HasWholeSeconds := by
  simp only [ofProperties, bind, pure, Except.pure, Except.bind_eq_ok_iff] at h
  obtain ⟨-, -, url, -, authentication, -, timeout, -, seconds, -, limit, -, startTls, -,
    noVerify, -, heq⟩ := h
  cases heq
  intro d hd
  obtain ⟨s, -, rfl⟩ := Option.map_eq_some_iff.1 hd
  rfl

/-- A configuration reads back from the properties that it shows, without the password,
and shows the same properties then. The password does not matter to them, and all else
does: configurations that show the same agree on everything but the password. -/
theorem ofProperties_toProperties {c : Config}
    (hwhole : (∃ props principal password, ofProperties props principal password = .ok c) ∨
      c.HasWholeSeconds) (hurl : c.url.IsStable) :
    ofProperties c.toProperties none none = .ok c.withoutCredentials ∧
    (ofProperties c.toProperties none none).map toProperties = .ok c.toProperties ∧
    (∀ secret, { c with credentials := secret }.toProperties = c.toProperties) ∧
    ∀ c' : Config, c'.url.IsStable → c'.HasWholeSeconds →
      ((∀ key, c'.toProperties.lookup key = c.toProperties.lookup key) ↔
        c'.withoutCredentials = c.withoutCredentials) := by
  have hwhole : c.HasWholeSeconds := by
    rcases hwhole with ⟨props, principal, password, h⟩ | h
    · exact hasWholeSeconds_of_ofProperties h
    · exact h
  have hread := (shows_toProperties c).ofProperties_eq hurl hwhole
  refine ⟨hread, ?_, fun secret => rfl, fun c' hurl' hwhole' => ⟨fun heq => ?_, fun heq key => ?_⟩⟩
  · rw [hread]
    rfl
  · -- both are read from the properties of the first
    have hshows : Shows c.toProperties c' :=
      (shows_toProperties c').congr fun key => (heq key).symm
    have hread' := hshows.ofProperties_eq hurl' hwhole'
    exact Except.ok.inj (hread'.symm.trans hread)
  · rw [← toProperties_withoutCredentials c', heq, toProperties_withoutCredentials]

/-- A configuration that properties describe with a given name and password, and the one
that no properties describe. -/
theorem ofProperties_toProperties_admin :
    ∃ c c', ofProperties [(Key.providerUrl, "ldaps://ldap.example.org:636"),
        (Key.authentication, " NONE "), (Key.principal, "cn=reader"),
        (Key.operationTimeout, "+030\n"), (Key.sizeLimit, "0"), (Key.clientKey, " key.pem")]
        (some "cn=admin") (some "verysecret") = .ok c ∧
      ofProperties [] none none = .ok c' ∧ c.url.IsStable ∧ c'.url.IsStable ∧
      ofProperties c.toProperties none none = .ok c.withoutCredentials ∧
      ¬ ∀ key, c'.toProperties.lookup key = c.toProperties.lookup key := by
  have hread : ofProperties [(Key.providerUrl, "ldaps://ldap.example.org:636"),
        (Key.authentication, " NONE "), (Key.principal, "cn=reader"),
        (Key.operationTimeout, "+030\n"), (Key.sizeLimit, "0"), (Key.clientKey, " key.pem")]
        (some "cn=admin") (some "verysecret") =
      .ok ⟨⟨"ldaps", some ⟨"", none, some (.name "ldap.example.org"), some 636⟩, .segments [], none,
          none⟩, .simple, some "cn=admin", some "verysecret",
        ⟨5, some (.ofSeconds 30), ⟨false, false, none, some " key.pem", none⟩⟩, 0⟩ := by
    decide +kernel
  have hnone : ofProperties [] none none =
      .ok (new ⟨"ldap", some ⟨"", none, some (.name "localhost"), none⟩, .segments [], none,
        none⟩) := by
    decide +kernel
  have hurl : Url.IsStable ⟨"ldaps", some ⟨"", none, some (.name "ldap.example.org"), some 636⟩,
      .segments [], none, none⟩ := by
    unfold Url.IsStable
    decide +kernel
  have hlocal : Url.IsStable ⟨"ldap", some ⟨"", none, some (.name "localhost"), none⟩,
      .segments [], none, none⟩ := by
    unfold Url.IsStable
    decide +kernel
  obtain ⟨hback, -, -, hdiffer⟩ := ofProperties_toProperties (Or.inl ⟨_, _, _, hread⟩) hurl
  refine ⟨_, _, hread, hnone, hurl, hlocal, hback, fun heq => ?_⟩
  have hsame := (hdiffer (new _) hlocal (hasWholeSeconds_of_ofProperties hnone)).1 heq
  exact absurd hsame (by decide)

end Config

end DirectoryClient
