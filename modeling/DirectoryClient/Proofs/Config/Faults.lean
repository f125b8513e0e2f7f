import DirectoryClient.Config.Properties
import DirectoryClient.Proofs.Except

/-!
# Which properties are refused, and which of them matter

Of all properties that can be set, some are read and can be wrong: `Check.all` lists
what is checked, in the order of reading. The whole reading fails if a check finds a
fault, and the fault is that of the first check that finds one (`FirstFault`); the
induction is along that list, one check for each step of the reading.

A name and a password that are given beside the properties take the place of what the
properties say about the identity. So properties that differ in nothing else are the
same then, provided that the kind of authentication is no fault, because it is read in
any case.
-/

namespace DirectoryClient

namespace Config

/-! ## The keys -/

namespace Key

/-- All keys that properties can have a meaning under. -/
def documented : List String :=
  [providerUrl, contextFactory, authentication, principal, credentials, connectionTimeout,
    operationTimeout, sizeLimit, startTls, noVerify, rootCertificates, clientKey,
    clientCertificate]

/-- The keys that say who asks. -/
def identity : List String := [authentication, principal, credentials]

end Key

/-! ## The checks -/

/-- What is checked of a property: its key, and what is wrong with a value, if anything. -/
structure Check where
  key : String
  fault? : String → Option ConfigFault

namespace Check

def factory : Check :=
  ⟨Key.contextFactory, fun value =>
    if Text.sameName value ldapFactory then none else some (.unknownFactory value)⟩

def url : Check :=
  ⟨Key.providerUrl, fun value =>
    match Url.parse value with
    | .ok _ => none
    | .error fault => some (.badUrl value fault)⟩

/-- The check of a property that has to be readable, up to blanks around it. -/
def readable {α : Type} (read : List Char → Option α) (key : String) : Check :=
  ⟨key, fun value =>
    match read (Text.trim value.toList) with
    | some _ => none
    | none => some (.badValue value key)⟩

/-- All checks, in the order in which they are made. -/
def all : List Check :=
  [factory, url, readable authenticationNamed? Key.authentication,
    readable Text.word? Key.connectionTimeout, readable Text.word? Key.operationTimeout,
    readable Text.word? Key.sizeLimit, readable Text.truth? Key.startTls,
    readable Text.truth? Key.noVerify]

/-- Whether a check finds a fault. In an absent property there is none. -/
def Finds (c : Check) (props : Properties) (fault : ConfigFault) : Prop :=
  ∃ value, props.lookup c.key = some value ∧ c.fault? value = some fault

/-- A check finds nothing if it has nothing against the value that is there. -/
theorem not_finds_iff {c : Check} {props : Properties} :
    (∀ fault, ¬ c.Finds props fault) ↔
      ∀ value, props.lookup c.key = some value → c.fault? value = none := by
  constructor
  · intro h value hvalue
    rw [Option.eq_none_iff_forall_ne_some]
    intro fault hfault
    exact h fault ⟨value, hvalue, hfault⟩
  · rintro h fault ⟨value, hvalue, hfault⟩
    rw [h value hvalue] at hfault
    cases hfault

theorem factory_fault?_eq_none_iff {value : String} :
    factory.fault? value = none ↔ Text.sameName value ldapFactory = true := by
  unfold factory
  cases hname : Text.sameName value ldapFactory <;> simp [hname]

theorem url_fault?_eq_none_iff {value : String} :
    url.fault? value = none ↔ ∃ u, Url.parse value = .ok u := by
  unfold url
  cases hparse : Url.parse value <;> simp [hparse]

theorem readable_fault?_eq_none_iff {α : Type} {read : List Char → Option α}
    {key value : String} :
    (readable read key).fault? value = none ↔ ∃ a, read (Text.trim value.toList) = some a := by
  unfold readable
  cases hread : read (Text.trim value.toList) <;> simp [hread]

end Check

/-- What the first of some checks finds that finds a fault. -/
inductive FirstFault (props : Properties) (fault : ConfigFault) : List Check → Prop
  | here {c : Check} {rest : List Check} : c.Finds props fault → FirstFault props fault (c :: rest)
  | later {c : Check} {rest : List Check} :
      (∀ f, ¬ c.Finds props f) → FirstFault props fault rest → FirstFault props fault (c :: rest)

theorem firstFault_cons_iff {props : Properties} {fault : ConfigFault} {c : Check}
    {rest : List Check} :
    FirstFault props fault (c :: rest) ↔
      c.Finds props fault ∨ (∀ f, ¬ c.Finds props f) ∧ FirstFault props fault rest := by
  constructor
  · intro h
    cases h with
    | here hfinds => exact .inl hfinds
    | later hnone hrest => exact .inr ⟨hnone, hrest⟩
  · rintro (hfinds | ⟨hnone, hrest⟩)
    · exact .here hfinds
    · exact .later hnone hrest

/-- Among checks that find faults one is the first. -/
theorem exists_firstFault_iff {props : Properties} {checks : List Check} :
    (∃ fault, FirstFault props fault checks) ↔ ∃ c ∈ checks, ∃ fault, c.Finds props fault := by
  constructor
  · rintro ⟨fault, h⟩
    induction h with
    | here hfinds => exact ⟨_, List.mem_cons_self, fault, hfinds⟩
    | later _ _ ih =>
        obtain ⟨c, hc, hfinds⟩ := ih
        exact ⟨c, List.mem_cons_of_mem _ hc, hfinds⟩
  · rintro ⟨c, hc, fault, hfinds⟩
    induction checks with
    | nil => cases hc
    | cons c' rest ih =>
        by_cases hc' : ∃ fault, c'.Finds props fault
        · obtain ⟨fault', hfinds'⟩ := hc'
          exact ⟨fault', .here hfinds'⟩
        · have hnone : ∀ f, ¬ c'.Finds props f := not_exists.1 hc'
          rcases List.mem_cons.1 hc with rfl | hc
          · exact absurd hfinds (hnone fault)
          · obtain ⟨fault', hrest⟩ := ih hc
            exact ⟨fault', .later hnone hrest⟩

/-! ## One step of the reading for each check -/

/-- A step that fails as a check says, in front of steps that fail as others say. -/
theorem bind_eq_error_iff_firstFault {props : Properties} {fault : ConfigFault} {α β : Type}
    {x : Except ConfigFault α} {f : α → Except ConfigFault β} {c : Check} {rest : List Check}
    (hx : ∀ fault, x = .error fault ↔ c.Finds props fault)
    (hf : ∀ a, f a = .error fault ↔ FirstFault props fault rest) :
    x >>= f = .error fault ↔ FirstFault props fault (c :: rest) := by
  show x.bind f = .error fault ↔ _
  rw [Except.bind_eq_error_iff, firstFault_cons_iff, hx]
  have hok : (∃ a, x = .ok a ∧ f a = .error fault) ↔
      (∀ f, ¬ c.Finds props f) ∧ FirstFault props fault rest := by
    simp only [hf, ← hx, exists_and_right]
    refine and_congr_left fun _ => ?_
    cases x <;> simp
  rw [hok]

theorem typed_eq_error_iff {α : Type} {read : List Char → Option α} {props : Properties}
    {key : String} (fault : ConfigFault) :
    typed read props key = .error fault ↔ (Check.readable read key).Finds props fault := by
  unfold typed Check.Finds Check.readable
  cases hvalue : props.lookup key with
  | none => simp
  | some value => cases hread : read (Text.trim value.toList) <;> simp [hread]

theorem checkFactory_eq_error_iff {props : Properties} (fault : ConfigFault) :
    checkFactory props = .error fault ↔ Check.factory.Finds props fault := by
  unfold checkFactory Check.Finds Check.factory
  cases hvalue : props.lookup Key.contextFactory with
  | none => simp [Text.sameName_self]
  | some value => cases hname : Text.sameName value ldapFactory <;> simp [hname]

theorem parse_defaultUrl : ∃ url, Url.parse defaultUrl = .ok url :=
  ⟨⟨"ldap", some ⟨"", none, some (.name "localhost"), none⟩, .segments [], none, none⟩,
    by decide +kernel⟩

theorem readUrl_eq_error_iff {props : Properties} (fault : ConfigFault) :
    readUrl props = .error fault ↔ Check.url.Finds props fault := by
  unfold Check.Finds Check.url
  cases hvalue : props.lookup Key.providerUrl with
  | none =>
      obtain ⟨url, hurl⟩ := parse_defaultUrl
      have hread : readUrl props = .ok url := by
        rw [readUrl, hvalue, Option.getD_none, hurl]
      simp [hread]
  | some value =>
      cases hparse : Url.parse value with
      | ok url =>
          have hread : readUrl props = .ok url := by
            rw [readUrl, hvalue, Option.getD_some, hparse]
          simp [hread, hparse]
      | error reason =>
          have hread : readUrl props = .error (.badUrl value reason) := by
            rw [readUrl, hvalue, Option.getD_some, hparse]
          simp [hread, hparse]

/-- The reading fails with what the first check finds. -/
theorem ofProperties_eq_error_iff {props : Properties} {principal password : Option String}
    {fault : ConfigFault} :
    ofProperties props principal password = .error fault ↔ FirstFault props fault Check.all := by
  unfold ofProperties Check.all
  refine bind_eq_error_iff_firstFault checkFactory_eq_error_iff fun _ => ?_
  refine bind_eq_error_iff_firstFault readUrl_eq_error_iff fun url => ?_
  refine bind_eq_error_iff_firstFault typed_eq_error_iff fun authentication => ?_
  refine bind_eq_error_iff_firstFault typed_eq_error_iff fun timeout => ?_
  refine bind_eq_error_iff_firstFault typed_eq_error_iff fun seconds => ?_
  refine bind_eq_error_iff_firstFault typed_eq_error_iff fun limit => ?_
  refine bind_eq_error_iff_firstFault typed_eq_error_iff fun startTls => ?_
  refine bind_eq_error_iff_firstFault typed_eq_error_iff fun noVerify => ?_
  constructor
  · intro h
    cases h
  · intro h
    cases h

/-- Whether every property that is there can be read. -/
structure Readable (props : Properties) : Prop where
  factory : ∀ value, props.lookup Key.contextFactory = some value →
    Text.sameName value ldapFactory = true
  url : ∀ value, props.lookup Key.providerUrl = some value → ∃ url, Url.parse value = .ok url
  authentication : ∀ value, props.lookup Key.authentication = some value →
    ∃ a, authenticationNamed? (Text.trim value.toList) = some a
  words : ∀ key ∈ [Key.connectionTimeout, Key.operationTimeout, Key.sizeLimit], ∀ value,
    props.lookup key = some value → ∃ w, Text.word? (Text.trim value.toList) = some w
  truths : ∀ key ∈ [Key.startTls, Key.noVerify], ∀ value,
    props.lookup key = some value → ∃ b, Text.truth? (Text.trim value.toList) = some b

/-- No check finds a fault where all can be read. -/
theorem readable_iff {props : Properties} :
    Readable props ↔ ∀ c ∈ Check.all, ∀ fault, ¬ c.Finds props fault := by
  simp only [Check.all, List.forall_mem_cons, Check.not_finds_iff,
    Check.factory_fault?_eq_none_iff, Check.url_fault?_eq_none_iff,
    Check.readable_fault?_eq_none_iff]
  constructor
  · intro h
    refine ⟨h.factory, h.url, h.authentication, ?_, ?_, ?_, ?_, ?_, List.forall_mem_nil _⟩
    · exact h.words _ (by decide)
    · exact h.words _ (by decide)
    · exact h.words _ (by decide)
    · exact h.truths _ (by decide)
    · exact h.truths _ (by decide)
  · rintro ⟨hfactory, hurl, hauthentication, htimeout, hseconds, hlimit, hstart, hverify, -⟩
    refine ⟨hfactory, hurl, hauthentication, ?_, ?_⟩
    · simp only [List.forall_mem_cons]
      exact ⟨htimeout, hseconds, hlimit, List.forall_mem_nil _⟩
    · simp only [List.forall_mem_cons]
      exact ⟨hstart, hverify, List.forall_mem_nil _⟩

theorem ofProperties_ok_iff {props : Properties} {principal password : Option String} :
    (∃ c, ofProperties props principal password = .ok c) ↔ Readable props := by
  simp only [Except.exists_eq_ok_iff, ne_eq, ofProperties_eq_error_iff, readable_iff]
  rw [← not_exists, exists_firstFault_iff]
  simp only [not_exists, not_and]

/-! ## What matters -/

theorem typed_congr {α : Type} (read : List Char → Option α) {props props' : Properties}
    {key : String} (h : props.lookup key = props'.lookup key) :
    typed read props key = typed read props' key := by
  unfold typed
  rw [h]

theorem checkFactory_congr {props props' : Properties}
    (h : props.lookup Key.contextFactory = props'.lookup Key.contextFactory) :
    checkFactory props = checkFactory props' := by
  unfold checkFactory
  rw [h]

theorem readUrl_congr {props props' : Properties}
    (h : props.lookup Key.providerUrl = props'.lookup Key.providerUrl) :
    readUrl props = readUrl props' := by
  unfold readUrl
  rw [h]

/-- Whether the kind of authentication is no fault. -/
def HasMode (props : Properties) : Prop :=
  ∀ value, props.lookup Key.authentication = some value →
    ∃ a, authenticationNamed? (Text.trim value.toList) = some a

theorem HasMode.exists_typed {props : Properties} (h : HasMode props) :
    ∃ a, typed authenticationNamed? props Key.authentication = .ok a := by
  rw [Except.exists_eq_ok_iff]
  intro fault hfault
  rw [typed_eq_error_iff] at hfault
  refine Check.not_finds_iff.2 ?_ fault hfault
  intro value hvalue
  exact Check.readable_fault?_eq_none_iff.2 (h value hvalue)

/-- Nothing but the documented keys is looked at. -/
theorem ofProperties_congr {props props' : Properties}
    (h : ∀ key ∈ Key.documented, props.lookup key = props'.lookup key)
    (principal password : Option String) :
    ofProperties props principal password = ofProperties props' principal password := by
  unfold ofProperties
  rw [checkFactory_congr (h _ (by decide)), readUrl_congr (h _ (by decide)),
    typed_congr _ (h Key.authentication (by decide)),
    typed_congr _ (h Key.connectionTimeout (by decide)),
    typed_congr _ (h Key.operationTimeout (by decide)),
    typed_congr _ (h Key.sizeLimit (by decide)), typed_congr _ (h Key.startTls (by decide)),
    typed_congr _ (h Key.noVerify (by decide)), h Key.principal (by decide),
    h Key.credentials (by decide), h Key.rootCertificates (by decide),
    h Key.clientKey (by decide), h Key.clientCertificate (by decide)]

/-- With a name and a password given, it does not matter what the properties say about
who asks, as long as it can be read. -/
theorem ofProperties_congr_of_hasMode {props props' : Properties}
    (h : ∀ key ∈ Key.documented, key ∉ Key.identity → props.lookup key = props'.lookup key)
    (hmode : HasMode props) (hmode' : HasMode props') (name secret : String) :
    ofProperties props (some name) (some secret) =
      ofProperties props' (some name) (some secret) := by
  obtain ⟨a, ha⟩ := hmode.exists_typed
  obtain ⟨a', ha'⟩ := hmode'.exists_typed
  unfold ofProperties
  rw [checkFactory_congr (h _ (by decide) (by decide)), readUrl_congr (h _ (by decide) (by decide)),
    ha, ha', typed_congr _ (h Key.connectionTimeout (by decide) (by decide)),
    typed_congr _ (h Key.operationTimeout (by decide) (by decide)),
    typed_congr _ (h Key.sizeLimit (by decide) (by decide)),
    typed_congr _ (h Key.startTls (by decide) (by decide)),
    typed_congr _ (h Key.noVerify (by decide) (by decide)),
    h Key.rootCertificates (by decide) (by decide), h Key.clientKey (by decide) (by decide),
    h Key.clientCertificate (by decide) (by decide)]
  rfl

theorem identity_of_ofProperties {props : Properties} {name secret : String} {c : Config}
    (h : ofProperties props (some name) (some secret) = .ok c) :
    c.authentication = .simple ∧ c.principal = some name ∧ c.credentials = some secret := by
  simp only [ofProperties, bind, pure, Except.pure, Except.bind_eq_ok_iff] at h
  obtain ⟨-, -, url, -, authentication, -, timeout, -, seconds, -, limit, -, startTls, -,
    noVerify, -, heq⟩ := h
  cases heq
  exact ⟨rfl, rfl, rfl⟩

/-- One of the two alone does not count. -/
theorem ofProperties_of_none (props : Properties) {principal password : Option String}
    (h : principal = none ∨ password = none) :
    ofProperties props principal password = ofProperties props none none := by
  rcases h with rfl | rfl
  · rfl
  · cases principal <;> rfl

/-- A name and a password that are given beside the properties decide who asks, and what
the properties say about it matters only as far as it can be read; one of the two alone
does not count. Properties of other keys than the documented ones never matter. The
reading succeeds if all that is there can be read, and fails otherwise with what the first
check finds that finds a fault. -/
theorem ofProperties_explicit (props : Properties) (principal password : Option String) :
    (∀ props' name secret,
      (∀ key ∈ Key.documented, key ∉ Key.identity → props.lookup key = props'.lookup key) →
      HasMode props → HasMode props' →
      ofProperties props (some name) (some secret) =
        ofProperties props' (some name) (some secret)) ∧
    (∀ name secret c, ofProperties props (some name) (some secret) = .ok c →
      c.authentication = .simple ∧ c.principal = some name ∧ c.credentials = some secret) ∧
    (principal = none ∨ password = none →
      ofProperties props principal password = ofProperties props none none) ∧
    (∀ props', (∀ key ∈ Key.documented, props.lookup key = props'.lookup key) →
      ofProperties props principal password = ofProperties props' principal password) ∧
    ((∃ c, ofProperties props principal password = .ok c) ↔ Readable props) ∧
    ∀ fault, ofProperties props principal password = .error fault ↔
      FirstFault props fault Check.all := by
  refine ⟨?_, ?_, ofProperties_of_none props, ?_, ofProperties_ok_iff, ?_⟩
  · intro props' name secret h hmode hmode'
    exact ofProperties_congr_of_hasMode h hmode hmode' name secret
  · intro name secret c h
    exact identity_of_ofProperties h
  · intro props' h
    exact ofProperties_congr h principal password
  · intro fault
    exact ofProperties_eq_error_iff

/-- Of two faults the first in the order of the checks is reported, also if a name and a
password are given. -/
example :
    ofProperties [(Key.sizeLimit, "many"), (Key.authentication, " kerberos")] (some "cn=a")
      (some "b") = .error (.badValue " kerberos" Key.authentication) := by decide +kernel

end Config

end DirectoryClient
