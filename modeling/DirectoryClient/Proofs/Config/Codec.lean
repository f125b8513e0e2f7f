import DirectoryClient.Config.Codec
import DirectoryClient.Proofs.Config.Properties
import Mathlib.Data.List.Nodup

/-!
# Reading a configuration from JSON

What JSON describes a configuration is said here without the reader: which fields there
have to be and what they hold, level by level (`Describes`). None of them may be there
twice, because nothing would say which of the two counts. An absent setting is one of two
things. It counts as null where that is allowed, and otherwise as its default written out,
if it has one: a connection that is left out as a whole is the default, while one without
its protection is nothing. A length of time is described by anything that adds up to it.

The reader finds just what is described. What is written describes what it was written
from, so it reads back, and every way to leave out or to break a part (`Flaw`) ends in
JSON that describes nothing.
-/

namespace DirectoryClient

namespace Json

/-- The fields of an object, or of an array with an item for each of some names. -/
inductive HasFields (names : List String) : Json → List (String × Json) → Prop
  | object (fields : List (String × Json)) : HasFields names (.object fields) fields
  | array {items : List Json} (h : items.length = names.length) :
      HasFields names (.array items) (names.zip items)

/-- Whether none of some names is given to two fields. -/
def NamedOnce (names : List String) (fields : List (String × Json)) : Prop :=
  ∀ name ∈ names, (fields.map Prod.fst).count name ≤ 1

/-- Whether a field is missing or null. -/
def Lacks (fields : List (String × Json)) (name : String) : Prop :=
  (fields.lookup name).getD .null = .null

/-- A value, or null for none. -/
def OrNull {α : Type} (P : Json → α → Prop) (j : Json) : Option α → Prop
  | none => j = .null
  | some a => P j a

/-- Whether JSON has fields of which something holds. -/
def WithFields {α : Type} (names : List String) (P : List (String × Json) → α → Prop)
    (j : Json) (a : α) : Prop :=
  ∃ fields, HasFields names j fields ∧ P fields a

/-- Whether JSON has no fields at all, or something is wrong with them. -/
def Flawed (names : List String) (F : List (String × Json) → Prop) (j : Json) : Prop :=
  ∀ fields, HasFields names j fields → F fields

theorem WithFields.not_flawed {α : Type} {names : List String}
    {P : List (String × Json) → α → Prop} {F : List (String × Json) → Prop} {j : Json} {a : α}
    (h : WithFields names P j a) (hF : ∀ fields, F fields → ¬ P fields a) :
    ¬ Flawed names F j := by
  obtain ⟨fields, hj, hfields⟩ := h
  exact fun hflawed => hF fields (hflawed fields hj) hfields

/-- A reader that fails without fields, and with fields of one name, is known by what it
makes of all others. -/
theorem eq_some_iff_withFields {α : Type} {names : List String} {read : Json → Option α}
    {P : List (String × Json) → α → Prop}
    (hshape : ∀ {j a}, read j = some a →
      ∃ fields, HasFields names j fields ∧ NamedOnce names fields)
    (honce : ∀ {fields a}, P fields a → NamedOnce names fields)
    (hread : ∀ {j fields}, HasFields names j fields → NamedOnce names fields →
      ∀ a, read j = some a ↔ P fields a)
    {j : Json} {a : α} : read j = some a ↔ WithFields names P j a := by
  constructor
  · intro h
    obtain ⟨fields, hj, hnamed⟩ := hshape h
    exact ⟨fields, hj, (hread hj hnamed a).1 h⟩
  · intro ⟨fields, hj, h⟩
    exact (hread hj (honce h) a).2 h

theorem not_lacks_of_lookup {fields : List (String × Json)} {name : String} {j : Json}
    (h : fields.lookup name = some j) (hj : j ≠ .null) : ¬ Lacks fields name := by
  rw [Lacks, h]
  exact hj

/-! ## Settings -/

def Slot.ofOption : Option Json → Slot
  | some j => .present j
  | none => .missing

theorem lookup_zip {names : List String} {items : List Json} (hnodup : names.Nodup)
    (hlen : items.length = names.length) {i : Nat} {name : String}
    (hi : names[i]? = some name) : (names.zip items).lookup name = items[i]? := by
  induction names generalizing items i with
  | nil => cases hi
  | cons n names ih =>
      obtain ⟨a, items, rfl⟩ := List.exists_cons_of_length_eq_add_one hlen
      obtain ⟨hn, hnodup⟩ := List.nodup_cons.1 hnodup
      cases i with
      | zero =>
          obtain rfl : n = name := Option.some.inj hi
          rw [List.zip_cons_cons, List.lookup_cons_self]
          rfl
      | succ i =>
          have hne : (name == n) = false :=
            beq_eq_false_iff_ne.2 fun h => hn (h ▸ List.mem_of_getElem? hi)
          rw [List.zip_cons_cons, List.lookup_cons, hne, List.getElem?_cons_succ]
          exact ih hnodup (Nat.succ.inj hlen) hi

theorem lookup_eq_head?_filter (fields : List (String × Json)) (name : String) :
    fields.lookup name = (fields.filter (·.1 == name)).head?.map Prod.snd := by
  induction fields with
  | nil => rfl
  | cons f rest ih =>
      rw [List.lookup_cons, List.filter_cons, ih]
      by_cases h : f.1 = name
      · subst h
        rw [if_pos BEq.rfl, BEq.rfl]
        rfl
      · rw [if_neg (fun heq => h (beq_iff_eq.1 heq)), beq_eq_false_iff_ne.2 (Ne.symm h)]

/-- In an object a setting is what its name has, if there is no more than one such field. -/
theorem slot?_object (fields : List (String × Json)) (count index : Nat) (name : String) :
    (object fields).slot? count index name =
      if (fields.map Prod.fst).count name ≤ 1 then some (.ofOption (fields.lookup name))
      else none := by
  have hcount : (fields.map Prod.fst).count name = (fields.filter (·.1 == name)).length := by
    rw [List.count, List.countP_map, List.countP_eq_length_filter]
    rfl
  rw [slot?, hcount, lookup_eq_head?_filter]
  generalize fields.filter (·.1 == name) = named
  match named with
  | [] => rfl
  | [f] => rfl
  | f :: g :: rest =>
      rw [if_neg (by simp)]

theorem HasFields.slot?_eq {names : List String} {j : Json} {fields : List (String × Json)}
    (h : HasFields names j fields) (hnodup : names.Nodup) (honce : NamedOnce names fields)
    {i : Nat} {name : String} (hi : names[i]? = some name) :
    j.slot? names.length i name = some (.ofOption (fields.lookup name)) := by
  cases h with
  | object => rw [slot?_object, if_pos (honce name (List.mem_of_getElem? hi))]
  | @array items hlen =>
      have hlt : i < items.length := by
        have := (List.getElem?_eq_some_iff.1 hi).1
        omega
      rw [lookup_zip hnodup hlen hi, slot?, if_neg (by omega), List.getElem?_eq_getElem hlt]
      rfl

theorem HasFields.count_le_one {names : List String} {j : Json} {fields : List (String × Json)}
    (h : HasFields names j fields) (hnodup : names.Nodup) {count i : Nat} {name : String}
    {slot : Slot} (hslot : j.slot? count i name = some slot) :
    (fields.map Prod.fst).count name ≤ 1 := by
  cases h with
  | object =>
      rw [slot?_object] at hslot
      exact (Option.ite_none_right_eq_some.1 hslot).1
  | array hlen =>
      rw [List.map_fst_zip (Nat.le_of_eq hlen.symm)]
      exact List.nodup_iff_count_le_one.1 hnodup name

/-- Where the last setting is not cut off, none is. -/
theorem exists_hasFields (names : List String) {j : Json} {index : Nat} {name : String}
    {slot : Slot} (hlast : names.length = index + 1)
    (h : j.slot? names.length index name = some slot) (hslot : slot ≠ .cutOff) :
    ∃ fields, HasFields names j fields := by
  cases j with
  | object fields => exact ⟨fields, .object fields⟩
  | array items =>
      simp only [slot?] at h
      split at h
      · cases h
      · next hle =>
          split at h
          · next hget =>
              have hlt := (List.getElem?_eq_some_iff.1 hget).1
              exact ⟨_, .array (by omega)⟩
          · exact absurd (Option.some.inj h).symm hslot
  | null | bool | integer | fraction | text => cases h

theorem Slot.ne_cutOff_of_required {α : Type} {read : Json → Option α} {slot : Slot} {a : α}
    (h : slot.required read = some a) : slot ≠ .cutOff := by
  rintro rfl
  cases h

theorem Slot.ne_cutOff_of_ifPresent {α : Type} {read : Json → Option α} {slot : Slot}
    {v : Option α} (h : slot.ifPresent read = some v) : slot ≠ .cutOff := by
  rintro rfl
  cases h

theorem Slot.required_ofOption {α : Type} (read : Json → Option α) (o : Option Json) :
    (ofOption o).required read = o.bind read := by
  cases o <;> rfl

/-- A missing setting stands for its default written out. -/
theorem Slot.orDefault_ofOption {α : Type} {read : Json → Option α} {default : α} {j : Json}
    (hread : read j = some default) (o : Option Json) :
    (ofOption o).orDefault read default = read (o.getD j) := by
  cases o with
  | none => exact hread.symm
  | some j => rfl

/-- A missing setting that may be absent stands for null. -/
theorem Slot.ifPresent_ofOption_eq_some_iff {α : Type} {read : Json → Option α}
    {P : Json → α → Prop} (hread : ∀ j a, read j = some a ↔ P j a) (hnull : read .null = none)
    {o : Option Json} {v : Option α} :
    (ofOption o).ifPresent read = some v ↔ OrNull P (o.getD .null) v := by
  have habsent : some none = some v ↔ OrNull P .null v := by
    cases v with
    | none => exact iff_of_true rfl rfl
    | some a => exact iff_of_false (by simp) fun h => by simp [(hread _ _).2 h] at hnull
  rcases o with _ | j
  · exact habsent
  · cases hj : j with
    | null => exact habsent
    | bool | integer | fraction | text | array | object =>
        subst hj
        simp only [ofOption, ifPresent, Option.map_eq_some_iff, Option.getD_some, hread]
        cases v <;> simp [OrNull]

/-! ## What is read as what -/

theorem bool?_eq_some_iff {j : Json} {b : Bool} : j.bool? = some b ↔ j = .bool b := by
  cases j <;> simp [bool?]

theorem text?_eq_some_iff {j : Json} {s : String} : j.text? = some s ↔ j = .text s := by
  cases j <;> simp [text?]

theorem natBelow?_eq_some_iff {bound : Nat} {j : Json} {n : Nat} :
    j.natBelow? bound = some n ↔ n < bound ∧ j = .integer n := by
  cases j with
  | integer m =>
      simp only [natBelow?, Option.ite_none_right_eq_some, Option.some.injEq, integer.injEq]
      omega
  | null | bool | fraction | text | array | object => simp [natBelow?]

theorem word?_eq_some_iff {j : Json} {w : UInt64} :
    j.word? = some w ↔ j = .integer w.toNat := by
  simp only [word?, Option.map_eq_some_iff, natBelow?_eq_some_iff]
  constructor
  · rintro ⟨n, ⟨hlt, rfl⟩, rfl⟩
    rw [UInt64.toNat_ofNat_of_lt' hlt]
  · rintro rfl
    exact ⟨w.toNat, ⟨w.toNat_lt, rfl⟩, UInt64.ofNat_toNat⟩

theorem Slot.ifPresent_text?_eq_some_iff {o : Option Json} {v : Option String} :
    (ofOption o).ifPresent text? = some v ↔ o.getD .null = ofText? v := by
  rw [ifPresent_ofOption_eq_some_iff (fun _ _ => text?_eq_some_iff) rfl]
  cases v <;> rfl

end Json

open Json

/-! ## Lengths of time -/

namespace Duration

/-- A length of time in billionths of a second. -/
def total (d : Duration) : Nat := d.seconds.toNat * 1000000000 + d.nanos

def fieldNames : List String := ["secs", "nanos"]

/-- Whether fields are the two parts of a length of time, and add up to it. -/
structure Describes (fields : List (String × Json)) (d : Duration) : Prop where
  once : NamedOnce fieldNames fields
  only : ∀ f ∈ fields, f.1 ∈ fieldNames
  parts : ∃ (seconds : UInt64) (nanos : Nat),
    fields.lookup "secs" = some (.integer seconds.toNat) ∧
    nanos < UInt32.size ∧ fields.lookup "nanos" = some (.integer nanos) ∧
    d.total = seconds.toNat * 1000000000 + nanos

/-- What is wrong with fields for a length of time. -/
inductive Flaw (fields : List (String × Json)) : Prop
  | repeated (h : ¬ NamedOnce fieldNames fields) : Flaw fields
  | other {f : String × Json} (hf : f ∈ fields) (h : f.1 ∉ fieldNames) : Flaw fields
  | seconds (h : Lacks fields "secs") : Flaw fields
  | nanos (h : Lacks fields "nanos") : Flaw fields
  | overflow {seconds nanos : Int} (hs : fields.lookup "secs" = some (.integer seconds))
      (hn : fields.lookup "nanos" = some (.integer nanos))
      (h : UInt64.size * 1000000000 ≤ seconds * 1000000000 + nanos) : Flaw fields

theorem total_lt (d : Duration) : d.total < UInt64.size * 1000000000 := by
  have hs : d.seconds.toNat < UInt64.size := d.seconds.toNat_lt
  have hn := d.nanos_lt
  simp only [total, UInt64.size] at hs ⊢
  omega

theorem eq_of_total_eq {d d' : Duration} (h : d.total = d'.total) : d = d' := by
  obtain ⟨seconds, nanos, hn⟩ := d
  obtain ⟨seconds', nanos', hn'⟩ := d'
  simp only [total] at h
  have hs : seconds = seconds' := UInt64.toNat_inj.1 (by omega)
  obtain rfl : nanos = nanos' := by omega
  rw [hs]

/-- Carrying keeps the length, and fails only if no length of time has it. -/
theorem carry?_eq_some_iff {seconds : UInt64} {nanos : Nat} {d : Duration} :
    carry? seconds nanos = some d ↔ d.total = seconds.toNat * 1000000000 + nanos := by
  have hcarried : ∀ d', carry? seconds nanos = some d' →
      d'.total = seconds.toNat * 1000000000 + nanos := by
    intro d' h
    simp only [carry?] at h
    split at h
    · next hlt =>
        cases h
        simp only [total, UInt64.toNat_ofNat_of_lt' hlt]
        omega
    · cases h
  constructor
  · exact hcarried d
  · intro h
    have hlt := d.total_lt
    have hfits : seconds.toNat + nanos / 1000000000 < UInt64.size := by
      simp only [UInt64.size] at hlt ⊢
      omega
    have hsome : carry? seconds nanos = some _ := if_pos hfits
    rw [hsome, eq_of_total_eq ((hcarried _ hsome).trans h.symm)]

/-- Other fields are all that an object can have too much; an array has a place for no
other. -/
theorem ofJson?_eq_ite {j : Json} {fields : List (String × Json)}
    (h : HasFields fieldNames j fields) (honce : NamedOnce fieldNames fields) :
    ofJson? j = if ∀ f ∈ fields, f.1 ∈ fieldNames then
        (fields.lookup "secs").bind word? >>= fun seconds =>
          (fields.lookup "nanos").bind (natBelow? UInt32.size) >>= carry? seconds
      else none := by
  have hseconds : j.slot? 2 0 "secs" = _ := h.slot?_eq (by decide) honce rfl
  have hnanos : j.slot? 2 1 "nanos" = _ := h.slot?_eq (by decide) honce rfl
  cases h with
  | object =>
      have hany : fields.any (fun f => decide (f.1 ≠ "secs" ∧ f.1 ≠ "nanos")) =
          !decide (∀ f ∈ fields, f.1 ∈ fieldNames) := by
        rw [← decide_not, Bool.eq_iff_iff, decide_eq_true_iff]
        simp [fieldNames]
      simp only [ofJson?, hany, hseconds, hnanos, Option.bind_eq_bind, Option.bind_some,
        Slot.required_ofOption]
      split
      · next h => rw [if_neg (by simpa using h)]; rfl
      · next h => rw [if_pos (by simpa using h)]
  | @array items hlen =>
      have hall : ∀ f ∈ fieldNames.zip items, f.1 ∈ fieldNames :=
        fun f hf => (List.of_mem_zip hf).1
      simp only [ofJson?, hseconds, hnanos, Option.bind_eq_bind, Option.bind_some,
        Slot.required_ofOption]
      rw [if_pos hall]

theorem exists_hasFields_of_ofJson? {j : Json} {d : Duration} (h : ofJson? j = some d) :
    ∃ fields, HasFields fieldNames j fields ∧ NamedOnce fieldNames fields := by
  have hslots : ∃ seconds nanos, j.slot? 2 0 "secs" = some seconds ∧
      j.slot? 2 1 "nanos" = some nanos ∧ nanos ≠ .cutOff := by
    cases j with
    | object fields =>
        simp only [ofJson?] at h
        split at h
        · cases h
        · simp only [Option.bind_eq_bind, Option.bind_eq_some_iff] at h
          obtain ⟨seconds, hs, -, -, nanos, hn, a, hnanos, -⟩ := h
          exact ⟨seconds, nanos, hs, hn, Slot.ne_cutOff_of_required hnanos⟩
    | array items =>
        simp only [ofJson?, Option.bind_eq_bind, Option.bind_eq_some_iff] at h
        obtain ⟨seconds, hs, -, -, nanos, hn, a, hnanos, -⟩ := h
        exact ⟨seconds, nanos, hs, hn, Slot.ne_cutOff_of_required hnanos⟩
    | null | bool | integer | fraction | text => cases h
  obtain ⟨seconds, nanos, hs, hn, hnanos⟩ := hslots
  obtain ⟨fields, hj⟩ := exists_hasFields fieldNames rfl hn hnanos
  have hnodup : fieldNames.Nodup := by decide
  refine ⟨fields, hj, ?_⟩
  simp only [NamedOnce, fieldNames, List.forall_mem_cons]
  exact ⟨hj.count_le_one hnodup hs, hj.count_le_one hnodup hn, List.forall_mem_nil _⟩

theorem ofJson?_eq_some_iff {j : Json} {d : Duration} :
    ofJson? j = some d ↔ WithFields fieldNames Describes j d := by
  refine eq_some_iff_withFields exists_hasFields_of_ofJson? Describes.once
    fun {j fields} hj honce d => ?_
  rw [ofJson?_eq_ite hj honce]
  constructor
  · intro h
    split at h
    · next honly =>
        simp only [Option.bind_eq_bind, Option.bind_eq_some_iff, word?_eq_some_iff,
          natBelow?_eq_some_iff, exists_eq_right, carry?_eq_some_iff] at h
        obtain ⟨seconds, hseconds, nanos, ⟨-, hnanos, hlt, rfl⟩, htotal⟩ := h
        exact ⟨honce, honly, seconds, nanos, hseconds, hlt, hnanos, htotal⟩
    · cases h
  · intro ⟨_, honly, seconds, nanos, hseconds, hlt, hnanos, htotal⟩
    have hword : word? (.integer seconds.toNat) = some seconds := word?_eq_some_iff.2 rfl
    have hnat : natBelow? UInt32.size (.integer nanos) = some nanos :=
      natBelow?_eq_some_iff.2 ⟨hlt, rfl⟩
    rw [if_pos honly, hseconds, hnanos, Option.bind_some, hword, Option.bind_some, hnat]
    exact carry?_eq_some_iff.2 htotal

theorem ofJson?_toJson (d : Duration) : ofJson? d.toJson = some d :=
  ofJson?_eq_some_iff.2 ⟨_, .object _, by simp [NamedOnce, fieldNames], by simp [fieldNames],
    d.seconds, d.nanos, rfl, d.nanos_lt.trans (by decide), rfl, rfl⟩

theorem Flaw.not_describes {fields : List (String × Json)} {d : Duration} (h : Flaw fields) :
    ¬ Describes fields d := by
  rintro ⟨honce, honly, seconds, nanos, hs, -, hn, htotal⟩
  cases h with
  | repeated h => exact h honce
  | other hf h => exact h (honly _ hf)
  | seconds h => exact not_lacks_of_lookup hs (by simp) h
  | nanos h => exact not_lacks_of_lookup hn (by simp) h
  | overflow hs' hn' h =>
      have hlt := d.total_lt
      simp only [hs, hn, Option.some.injEq, integer.injEq] at hs' hn'
      omega

end Duration

/-! ## Protection -/

namespace TlsConfig

def fieldNames : List String :=
  ["starttls", "no_tls_verify", "root_certificates_path", "client_key_path",
    "client_certificate_path"]

structure Describes (fields : List (String × Json)) (c : TlsConfig) : Prop where
  once : NamedOnce fieldNames fields
  startTls : fields.lookup "starttls" = some (.bool c.startTls)
  noVerify : fields.lookup "no_tls_verify" = some (.bool c.noVerify)
  rootCertificates :
    (fields.lookup "root_certificates_path").getD .null = ofText? c.rootCertificates
  clientKey : (fields.lookup "client_key_path").getD .null = ofText? c.clientKey
  clientCertificate :
    (fields.lookup "client_certificate_path").getD .null = ofText? c.clientCertificate

/-- What is wrong with fields for the protection of a connection. -/
inductive Flaw (fields : List (String × Json)) : Prop
  | repeated (h : ¬ NamedOnce fieldNames fields) : Flaw fields
  | startTls (h : Lacks fields "starttls") : Flaw fields
  | noVerify (h : Lacks fields "no_tls_verify") : Flaw fields

theorem exists_hasFields_of_ofJson? {j : Json} {c : TlsConfig} (h : ofJson? j = some c) :
    ∃ fields, HasFields fieldNames j fields ∧ NamedOnce fieldNames fields := by
  simp only [ofJson?, Option.bind_eq_bind, Option.bind_eq_some_iff] at h
  obtain ⟨_, hstart, _, -, _, hverify, _, -, _, hroots, _, -, _, hkey, _, -, slot, hcertificate,
    v, hv, -⟩ := h
  obtain ⟨fields, hj⟩ :=
    exists_hasFields fieldNames rfl hcertificate (Slot.ne_cutOff_of_ifPresent hv)
  have hnodup : fieldNames.Nodup := by decide
  refine ⟨fields, hj, ?_⟩
  simp only [NamedOnce, fieldNames, List.forall_mem_cons]
  exact ⟨hj.count_le_one hnodup hstart, hj.count_le_one hnodup hverify,
    hj.count_le_one hnodup hroots, hj.count_le_one hnodup hkey,
    hj.count_le_one hnodup hcertificate, List.forall_mem_nil _⟩

theorem ofJson?_eq_some_iff {j : Json} {c : TlsConfig} :
    ofJson? j = some c ↔ WithFields fieldNames Describes j c := by
  refine eq_some_iff_withFields exists_hasFields_of_ofJson? Describes.once
    fun {j fields} hj honce c => ?_
  have hstart : j.slot? 5 0 "starttls" = _ := hj.slot?_eq (by decide) honce rfl
  have hverify : j.slot? 5 1 "no_tls_verify" = _ := hj.slot?_eq (by decide) honce rfl
  have hroots : j.slot? 5 2 "root_certificates_path" = _ := hj.slot?_eq (by decide) honce rfl
  have hkey : j.slot? 5 3 "client_key_path" = _ := hj.slot?_eq (by decide) honce rfl
  have hcertificate : j.slot? 5 4 "client_certificate_path" = _ :=
    hj.slot?_eq (by decide) honce rfl
  simp only [ofJson?, hstart, hverify, hroots, hkey, hcertificate, Option.bind_eq_bind,
    Option.bind_some, Option.bind_eq_some_iff, Slot.required_ofOption, bool?_eq_some_iff,
    exists_eq_right, Slot.ifPresent_text?_eq_some_iff, Option.pure_def, Option.some.injEq]
  constructor
  · rintro ⟨startTls, h₁, noVerify, h₂, roots, h₃, key, h₄, certificate, h₅, rfl⟩
    exact ⟨honce, h₁, h₂, h₃, h₄, h₅⟩
  · intro h
    exact ⟨_, h.startTls, _, h.noVerify, _, h.rootCertificates, _, h.clientKey, _,
      h.clientCertificate, rfl⟩

theorem ofJson?_toJson (c : TlsConfig) : ofJson? c.toJson = some c :=
  ofJson?_eq_some_iff.2 ⟨_, .object _, by simp [NamedOnce, fieldNames], rfl, rfl, rfl, rfl, rfl⟩

theorem Flaw.not_describes {fields : List (String × Json)} {c : TlsConfig} (h : Flaw fields) :
    ¬ Describes fields c := by
  intro hfields
  cases h with
  | repeated h => exact h hfields.once
  | startTls h => exact not_lacks_of_lookup hfields.startTls (by simp) h
  | noVerify h => exact not_lacks_of_lookup hfields.noVerify (by simp) h

end TlsConfig

/-! ## Connections -/

namespace ConnectionConfig

def fieldNames : List String := ["timeout", "operation_timeout", "tls"]

structure Describes (fields : List (String × Json)) (c : ConnectionConfig) : Prop where
  once : NamedOnce fieldNames fields
  timeout : fields.lookup "timeout" = some (.integer c.timeout.toNat)
  operationTimeout : OrNull (WithFields Duration.fieldNames Duration.Describes)
    ((fields.lookup "operation_timeout").getD .null) c.operationTimeout
  tls : ∃ j, fields.lookup "tls" = some j ∧
    WithFields TlsConfig.fieldNames TlsConfig.Describes j c.tls

/-- What is wrong with fields for a connection. -/
inductive Flaw (fields : List (String × Json)) : Prop
  | repeated (h : ¬ NamedOnce fieldNames fields) : Flaw fields
  | timeout (h : Lacks fields "timeout") : Flaw fields
  | tls (h : Lacks fields "tls") : Flaw fields
  | inOperationTimeout {j : Json} (hj : fields.lookup "operation_timeout" = some j)
      (hnull : j ≠ .null) (h : Flawed Duration.fieldNames Duration.Flaw j) : Flaw fields
  | inTls {j : Json} (hj : fields.lookup "tls" = some j)
      (h : Flawed TlsConfig.fieldNames TlsConfig.Flaw j) : Flaw fields

theorem exists_hasFields_of_ofJson? {j : Json} {c : ConnectionConfig} (h : ofJson? j = some c) :
    ∃ fields, HasFields fieldNames j fields ∧ NamedOnce fieldNames fields := by
  simp only [ofJson?, Option.bind_eq_bind, Option.bind_eq_some_iff] at h
  obtain ⟨_, htimeout, _, -, _, hoperation, _, -, slot, htls, tls, hread, -⟩ := h
  obtain ⟨fields, hj⟩ := exists_hasFields fieldNames rfl htls (Slot.ne_cutOff_of_required hread)
  have hnodup : fieldNames.Nodup := by decide
  refine ⟨fields, hj, ?_⟩
  simp only [NamedOnce, fieldNames, List.forall_mem_cons]
  exact ⟨hj.count_le_one hnodup htimeout, hj.count_le_one hnodup hoperation,
    hj.count_le_one hnodup htls, List.forall_mem_nil _⟩

theorem ofJson?_eq_some_iff {j : Json} {c : ConnectionConfig} :
    ofJson? j = some c ↔ WithFields fieldNames Describes j c := by
  refine eq_some_iff_withFields exists_hasFields_of_ofJson? Describes.once
    fun {j fields} hj honce c => ?_
  have htimeout : j.slot? 3 0 "timeout" = _ := hj.slot?_eq (by decide) honce rfl
  have hoperation : j.slot? 3 1 "operation_timeout" = _ := hj.slot?_eq (by decide) honce rfl
  have htls : j.slot? 3 2 "tls" = _ := hj.slot?_eq (by decide) honce rfl
  have hread := fun j d => Duration.ofJson?_eq_some_iff (j := j) (d := d)
  simp only [ofJson?, htimeout, hoperation, htls, Option.bind_eq_bind,
    Option.bind_some, Option.bind_eq_some_iff, Slot.required_ofOption, word?_eq_some_iff,
    exists_eq_right, Slot.ifPresent_ofOption_eq_some_iff hread rfl,
    TlsConfig.ofJson?_eq_some_iff, Option.pure_def, Option.some.injEq]
  constructor
  · rintro ⟨timeout, h₁, operation, h₂, tls, h₃, rfl⟩
    exact ⟨honce, h₁, h₂, h₃⟩
  · intro h
    exact ⟨_, h.timeout, _, h.operationTimeout, _, h.tls, rfl⟩

theorem ofJson?_toJson (c : ConnectionConfig) : ofJson? c.toJson = some c := by
  obtain ⟨timeout, operationTimeout, tls⟩ := c
  refine ofJson?_eq_some_iff.2 ⟨_, .object _, by simp [NamedOnce, fieldNames], rfl, ?_, _, rfl,
    TlsConfig.ofJson?_eq_some_iff.1 tls.ofJson?_toJson⟩
  cases operationTimeout with
  | none => rfl
  | some d => exact Duration.ofJson?_eq_some_iff.1 d.ofJson?_toJson

theorem Flaw.not_describes {fields : List (String × Json)} {c : ConnectionConfig}
    (h : Flaw fields) : ¬ Describes fields c := by
  intro hfields
  obtain ⟨tls, htls, hdescribed⟩ := hfields.tls
  have hsound : ¬ Flawed TlsConfig.fieldNames TlsConfig.Flaw tls :=
    hdescribed.not_flawed fun _ flaw => flaw.not_describes
  cases h with
  | repeated h => exact h hfields.once
  | timeout h => exact not_lacks_of_lookup hfields.timeout (by simp) h
  | tls h =>
      have hnull : tls = .null := by rwa [Lacks, htls] at h
      exact hsound fun fields hj => by rw [hnull] at hj; cases hj
  | inOperationTimeout hj hnull h =>
      have hoperation := hfields.operationTimeout
      rw [hj, Option.getD_some] at hoperation
      cases hd : c.operationTimeout with
      | none =>
          rw [hd] at hoperation
          exact hnull hoperation
      | some d =>
          rw [hd] at hoperation
          exact WithFields.not_flawed hoperation (fun _ flaw => flaw.not_describes) h
  | inTls hj h =>
      obtain rfl := Option.some.inj (htls.symm.trans hj)
      exact hsound h

end ConnectionConfig

/-! ## The whole configuration -/

/-- A kind of authentication is its word, which may also stand in an object, with null. -/
def Authentication.Describes (j : Json) (a : Authentication) : Prop :=
  j = .text a.keyword ∨ j = .object [(a.keyword, .null)]

theorem Authentication.ofKeyword?_eq_some_iff {word : String} {a : Authentication} :
    ofKeyword? word = some a ↔ word = a.keyword := by
  constructor
  · intro h
    simp only [ofKeyword?] at h
    split at h
    · next hword => cases h; exact hword
    · split at h
      · next hword => cases h; exact hword
      · cases h
  · rintro rfl
    exact ofKeyword?_keyword a

theorem Authentication.ofJson?_eq_some_iff {j : Json} {a : Authentication} :
    ofJson? j = some a ↔ Describes j a := by
  constructor
  · intro h
    unfold ofJson? at h
    split at h
    · exact .inl (congrArg Json.text (ofKeyword?_eq_some_iff.1 h))
    · rw [ofKeyword?_eq_some_iff.1 h]
      exact .inr rfl
    · cases h
  · rintro (rfl | rfl)
    · exact ofKeyword?_keyword a
    · exact ofKeyword?_keyword a

theorem Url.ofJson?_eq_some_iff {j : Json} {u : Url} :
    Url.ofJson? j = some u ↔ ∃ s, j = .text s ∧ Url.parse s = .ok u := by
  simp only [Url.ofJson?, Option.bind_eq_bind, Option.bind_eq_some_iff, text?_eq_some_iff]
  refine exists_congr fun s => and_congr_right fun _ => ?_
  cases Url.parse s <;> simp

namespace Config

def fieldNames : List String :=
  ["url", "authentication", "principal", "credentials", "connection", "size_limit"]

/-- Whether the fields of an object describe a configuration. Only the URL has to be there. -/
structure Describes (fields : List (String × Json)) (c : Config) : Prop where
  once : NamedOnce fieldNames fields
  url : ∃ s, fields.lookup "url" = some (.text s) ∧ Url.parse s = .ok c.url
  authentication : Authentication.Describes
    ((fields.lookup "authentication").getD (.text Authentication.simple.keyword))
    c.authentication
  principal : (fields.lookup "principal").getD .null = ofText? c.principal
  credentials : (fields.lookup "credentials").getD .null = ofText? c.credentials
  connection : WithFields ConnectionConfig.fieldNames ConnectionConfig.Describes
    ((fields.lookup "connection").getD ConnectionConfig.default.toJson) c.connection
  sizeLimit : (fields.lookup "size_limit").getD (.integer 1000) = .integer c.sizeLimit.toNat

/-- What is wrong with the fields of an object for a configuration. -/
inductive Flaw (fields : List (String × Json)) : Prop
  | repeated (h : ¬ NamedOnce fieldNames fields) : Flaw fields
  | url (h : Lacks fields "url") : Flaw fields
  | authentication (h : fields.lookup "authentication" = some .null) : Flaw fields
  | connection (h : fields.lookup "connection" = some .null) : Flaw fields
  | sizeLimit (h : fields.lookup "size_limit" = some .null) : Flaw fields
  | inConnection {j : Json} (hj : fields.lookup "connection" = some j)
      (h : Flawed ConnectionConfig.fieldNames ConnectionConfig.Flaw j) : Flaw fields

theorem namedOnce_of_ofJson? {fields : List (String × Json)} {c : Config}
    (h : ofJson? (.object fields) = some c) : NamedOnce fieldNames fields := by
  simp only [ofJson?, Option.bind_eq_bind, Option.bind_eq_some_iff] at h
  obtain ⟨_, hurl, _, -, _, hauthentication, _, -, _, hprincipal, _, -, _, hcredentials, _, -,
    _, hconnection, _, -, _, hlimit, -⟩ := h
  have hj : HasFields fieldNames (.object fields) fields := .object fields
  have hnodup : fieldNames.Nodup := by decide
  simp only [NamedOnce, fieldNames, List.forall_mem_cons]
  exact ⟨hj.count_le_one hnodup hurl, hj.count_le_one hnodup hauthentication,
    hj.count_le_one hnodup hprincipal, hj.count_le_one hnodup hcredentials,
    hj.count_le_one hnodup hconnection, hj.count_le_one hnodup hlimit, List.forall_mem_nil _⟩

/-- An object that names a setting twice describes nothing and is not read. In any other
each setting is what its name has. -/
theorem ofJson?_object_eq_some_iff {fields : List (String × Json)} {c : Config} :
    ofJson? (.object fields) = some c ↔ Describes fields c := by
  by_cases honce : NamedOnce fieldNames fields
  case neg =>
    exact iff_of_false (fun h => honce (namedOnce_of_ofJson? h)) fun h => honce h.once
  have hslot : ∀ index name, name ∈ fieldNames →
      (object fields).slot? 6 index name = some (.ofOption (fields.lookup name)) := by
    intro index name hname
    rw [slot?_object, if_pos (honce name hname)]
  have hurl := hslot 0 "url" (by decide)
  have hauthentication := hslot 1 "authentication" (by decide)
  have hprincipal := hslot 2 "principal" (by decide)
  have hcredentials := hslot 3 "credentials" (by decide)
  have hconnection := hslot 4 "connection" (by decide)
  have hsize := hslot 5 "size_limit" (by decide)
  have hdefault : ConnectionConfig.ofJson? ConnectionConfig.default.toJson =
      some ConnectionConfig.default := ConnectionConfig.default.ofJson?_toJson
  have hlimit : word? (.integer 1000) = some defaultSizeLimit :=
    word?_eq_some_iff.2 rfl
  have hsimple : Authentication.ofJson? (.text Authentication.simple.keyword) =
      some .simple := rfl
  have hoptional : ∀ o, optional text? (Slot.ofOption o) = (Slot.ofOption o).ifPresent text? :=
    fun o => by cases o <;> rfl
  simp only [ofJson?, hurl, hauthentication, hprincipal, hcredentials, hconnection, hsize,
    Option.bind_eq_bind, Option.bind_some, Option.bind_eq_some_iff, Slot.required_ofOption,
    Slot.orDefault_ofOption hdefault,
    Slot.orDefault_ofOption hlimit, Slot.orDefault_ofOption hsimple, hoptional,
    Slot.ifPresent_text?_eq_some_iff, Url.ofJson?_eq_some_iff, word?_eq_some_iff,
    Authentication.ofJson?_eq_some_iff, ConnectionConfig.ofJson?_eq_some_iff,
    Option.pure_def, Option.some.injEq]
  constructor
  · rintro ⟨url, ⟨-, hurl, s, rfl, hparse⟩, authentication, h₂, principal, h₃, credentials, h₄,
      connection, h₅, limit, h₆, rfl⟩
    exact ⟨honce, ⟨s, hurl, hparse⟩, h₂, h₃, h₄, h₅, h₆⟩
  · intro h
    obtain ⟨s, hurl, hparse⟩ := h.url
    exact ⟨_, ⟨_, hurl, s, rfl, hparse⟩, _, h.authentication, _, h.principal, _, h.credentials,
      _, h.connection, _, h.sizeLimit, rfl⟩

theorem ofJson?_toJson {c : Config} (hurl : c.url.IsStable) : ofJson? c.toJson = some c :=
  ofJson?_object_eq_some_iff.2 ⟨by simp [NamedOnce, fieldNames], ⟨_, rfl, hurl⟩, .inl rfl, rfl, rfl,
    ConnectionConfig.ofJson?_eq_some_iff.1 c.connection.ofJson?_toJson, rfl⟩

theorem Flaw.not_describes {fields : List (String × Json)} {c : Config} (h : Flaw fields) :
    ¬ Describes fields c := by
  intro hfields
  have hsound : ¬ Flawed ConnectionConfig.fieldNames ConnectionConfig.Flaw
      ((fields.lookup "connection").getD ConnectionConfig.default.toJson) :=
    hfields.connection.not_flawed fun _ flaw => flaw.not_describes
  cases h with
  | repeated h => exact h hfields.once
  | url h =>
      obtain ⟨s, hs, -⟩ := hfields.url
      exact not_lacks_of_lookup hs (by simp) h
  | authentication h =>
      have hword := hfields.authentication
      rw [h] at hword
      rcases hword with hword | hword <;> cases hword
  | connection h =>
      rw [h] at hsound
      exact hsound fun fields hj => by cases hj
  | sizeLimit h =>
      have hlimit := hfields.sizeLimit
      rw [h] at hlimit
      cases hlimit
  | inConnection hj h =>
      rw [hj] at hsound
      exact hsound h

/-- A configuration is read from the objects that describe it and from no other, in
particular from none with a flaw. With a stable URL it is read from what it is written as,
so that writing what was read and reading it once more changes nothing. -/
theorem ofJson?_toJson_of_isStable :
    (∀ fields c, ofJson? (.object fields) = some c ↔ Describes fields c) ∧
    (∀ fields, Flaw fields → ofJson? (.object fields) = none) ∧
    ∀ c : Config, c.url.IsStable →
      ofJson? c.toJson = some c ∧ (ofJson? c.toJson).map toJson = some c.toJson := by
  refine ⟨fun _ _ => ofJson?_object_eq_some_iff, fun fields hflaw => ?_, fun c hurl => ⟨?_, ?_⟩⟩
  · rw [Option.eq_none_iff_forall_ne_some]
    exact fun c hc => hflaw.not_describes (ofJson?_object_eq_some_iff.1 hc)
  · exact ofJson?_toJson hurl
  · rw [ofJson?_toJson hurl, Option.map_some]

/-- An object with a field of another name, a null and billionths to carry; one whose
billionths do not fit; and one that sets a limit twice. -/
theorem ofJson?_toJson_of_isStable_carried :
    ∃ c, ofJson? (.object [("url", .text "ldap://localhost"), ("comment", .integer 1),
        ("principal", .null), ("connection", .object [("timeout", .integer 9),
          ("operation_timeout", .object [("nanos", .integer 2500000000), ("secs", .integer 1)]),
          ("tls", .object [("starttls", .bool true), ("no_tls_verify", .bool false)])])]) =
        some c ∧
      c.url.IsStable ∧ c.connection.operationTimeout = some ⟨3, 500000000, by decide⟩ ∧
      ofJson? c.toJson = some c ∧ (ofJson? c.toJson).map toJson = some c.toJson ∧
      ofJson? (.object [("url", .text "ldap://localhost"), ("connection", .object
        [("timeout", .integer 9), ("operation_timeout", .object
          [("nanos", .integer 1000000000), ("secs", .integer 18446744073709551615)]),
        ("tls", TlsConfig.default.toJson)])]) = none ∧
      ofJson? (.object [("url", .text "ldap://localhost"), ("size_limit", .integer 5),
        ("size_limit", .null)]) = none := by
  have hurl : Url.IsStable ⟨"ldap", some ⟨"", none, some (.name "localhost"), none⟩,
      .segments [], none, none⟩ := by
    unfold Url.IsStable
    decide +kernel
  have hread : ofJson? (.object [("url", .text "ldap://localhost"), ("comment", .integer 1),
        ("principal", .null), ("connection", .object [("timeout", .integer 9),
          ("operation_timeout", .object [("nanos", .integer 2500000000), ("secs", .integer 1)]),
          ("tls", .object [("starttls", .bool true), ("no_tls_verify", .bool false)])])]) =
      some ⟨⟨"ldap", some ⟨"", none, some (.name "localhost"), none⟩, .segments [], none, none⟩,
        .simple, none, none, ⟨9, some ⟨3, 500000000, by decide⟩, ⟨true, false, none, none, none⟩⟩,
        1000⟩ := by
    decide +kernel
  obtain ⟨-, hflaw, hstable⟩ := ofJson?_toJson_of_isStable
  refine ⟨_, hread, hurl, rfl, and_assoc.1 ⟨hstable _ hurl, hflaw _ ?_, hflaw _ ?_⟩⟩
  case refine_2 => exact .repeated (by simp [Json.NamedOnce, fieldNames])
  refine .inConnection rfl fun fields hj => ?_
  cases hj
  refine .inOperationTimeout rfl (by simp) fun fields hj => ?_
  cases hj
  exact .overflow rfl rfl (by decide)

end Config

end DirectoryClient
