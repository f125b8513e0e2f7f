import DirectoryClient.GeneralizedTime
import DirectoryClient.Proofs.Calendar
import DirectoryClient.Proofs.Text.Encoding
import DirectoryClient.Proofs.Text.Number
import DirectoryClient.Record.Reading

/-!
# Times as they are written

A time is written in rows of digits, each of a fixed length, with the year first and the
second last. Reading takes off one row after another, so it accepts the texts that are
put together of such rows (`Parts`) and name a time that exists: `parse?_eq_some_iff`.

Rows that are equally long are in the order of their numbers, octet by octet. The rows
of a text without a sign make up one row, of fourteen digits, and its number is the stamp
of the time, so texts are in the order of their stamps and times are as well. The sign
spoils this, which is why the order of the texts is claimed for years without one only.
-/

namespace DirectoryClient

namespace GeneralizedTime

/-! ## Reading -/

/-- A row of so many digits, and the number that it stands for. -/
structure IsRow (length : Nat) (row : List Char) (value : Nat) : Prop where
  length_eq : row.length = length
  isDigit : ∀ c ∈ row, c.isDigit = true
  value_eq : Text.digitsValue row = value

/-- What the text of a time is put together of, but for the letter at its end. -/
structure Parts where
  sign : List Char
  year : List Char
  month : List Char
  day : List Char
  hour : List Char
  minute : List Char
  second : List Char

namespace Parts

/-- All digits in their order. -/
def digits (p : Parts) : List Char :=
  p.year ++ (p.month ++ (p.day ++ (p.hour ++ (p.minute ++ p.second))))

def text (p : Parts) : List Char := p.sign ++ (p.digits ++ ['Z'])

/-- Whether the parts are the fields of a time. -/
structure Spells (p : Parts) (t : DateTime) : Prop where
  sign : p.sign = [] ∨ p.sign = ['+'] ∨ p.sign = ['-']
  year : ∃ n : Nat, IsRow 4 p.year n ∧ t.year = if p.sign = ['-'] then -(n : Int) else n
  month : IsRow 2 p.month t.month
  day : IsRow 2 p.day t.day
  hour : IsRow 2 p.hour t.hour
  minute : IsRow 2 p.minute t.minute
  second : IsRow 2 p.second t.second

end Parts

theorem digits?_eq_some_iff {n value : Nat} {cs rest : List Char} :
    digits? n cs = some (value, rest) ↔ ∃ row, cs = row ++ rest ∧ IsRow n row value := by
  rw [digits?]
  constructor
  · intro h
    split at h
    · next hrow =>
        cases h
        exact ⟨cs.take n, (List.take_append_drop n cs).symm, hrow.1,
          List.all_eq_true.1 hrow.2, rfl⟩
    · cases h
  · intro ⟨row, hcs, hrow⟩
    have htake : cs.take n = row := by rw [hcs, List.take_left' hrow.length_eq]
    have hdrop : cs.drop n = rest := by rw [hcs, List.drop_left' hrow.length_eq]
    simp only [htake, hdrop]
    rw [if_pos ⟨hrow.length_eq, List.all_eq_true.2 hrow.isDigit⟩, hrow.value_eq]

/-- Whether no sign stands in front. -/
structure HasNoSign (text : String) : Prop where
  minus : text.toList.head? ≠ some '-'
  plus : text.toList.head? ≠ some '+'

theorem parse?_of_minus {text : String} {rest : List Char} (h : text.toList = '-' :: rest) :
    parse? text = unsigned? true rest := by
  rw [parse?, h]
  rfl

theorem parse?_of_plus {text : String} {rest : List Char} (h : text.toList = '+' :: rest) :
    parse? text = unsigned? false rest := by
  rw [parse?, h]
  rfl

theorem parse?_of_hasNoSign {text : String} (h : HasNoSign text) :
    parse? text = unsigned? false text.toList := by
  obtain ⟨hminus, hplus⟩ := h
  rw [parse?]
  generalize text.toList = cs at hminus hplus
  split
  · simp at hminus
  · simp at hplus
  · rfl

/-- Behind its sign, which may be missing, a text is read in one way. -/
theorem parse?_eq_unsigned? {text : String} {sign cs : List Char}
    (hsign : sign = [] ∨ sign = ['+'] ∨ sign = ['-']) (htext : text.toList = sign ++ cs)
    (hnone : sign = [] → HasNoSign text) :
    parse? text = unsigned? (decide (sign = ['-'])) cs := by
  rcases hsign with rfl | rfl | rfl
  · rw [parse?_of_hasNoSign (hnone rfl), htext]
    rfl
  · exact parse?_of_plus htext
  · exact parse?_of_minus htext

theorem exists_sign (text : String) :
    ∃ sign cs, (sign = [] ∨ sign = ['+'] ∨ sign = ['-']) ∧ text.toList = sign ++ cs ∧
      (sign = [] → HasNoSign text) := by
  by_cases hminus : text.toList.head? = some '-'
  · obtain ⟨rest, hrest⟩ := List.head?_eq_some_iff.1 hminus
    exact ⟨['-'], rest, by simp, hrest, by simp⟩
  · by_cases hplus : text.toList.head? = some '+'
    · obtain ⟨rest, hrest⟩ := List.head?_eq_some_iff.1 hplus
      exact ⟨['+'], rest, by simp, hrest, by simp⟩
    · exact ⟨[], _, by simp, rfl, fun _ => ⟨hminus, hplus⟩⟩

theorem unsigned?_eq_some_iff {sign cs : List Char} {t : DateTime}
    (hsign : sign = [] ∨ sign = ['+'] ∨ sign = ['-']) :
    unsigned? (decide (sign = ['-'])) cs = some t ↔
      ∃ p : Parts, p.sign = sign ∧ cs = p.digits ++ ['Z'] ∧ p.Spells t ∧ t.isValid = true := by
  simp only [unsigned?, Option.bind_eq_bind, Option.bind_eq_some_iff, Prod.exists,
    digits?_eq_some_iff, decide_eq_true_eq]
  constructor
  · intro h
    obtain ⟨y, _, ⟨year, rfl, hyear⟩, mo, _, ⟨month, rfl, hmonth⟩, d, _, ⟨day, rfl, hday⟩,
      ho, _, ⟨hour, rfl, hhour⟩, mi, _, ⟨minute, rfl, hminute⟩, s, _, ⟨second, rfl, hsecond⟩, h⟩ := h
    obtain ⟨⟨rfl, hvalid⟩, heq⟩ := Option.ite_none_right_eq_some.1 h
    cases heq
    refine ⟨⟨sign, year, month, day, hour, minute, second⟩, rfl, ?_,
      ⟨hsign, ⟨y, hyear, rfl⟩, hmonth, hday, hhour, hminute, hsecond⟩, hvalid⟩
    simp [Parts.digits]
  · intro ⟨p, hp, hcs, hspells, hvalid⟩
    obtain ⟨n, hyear, hn⟩ := hspells.year
    refine ⟨n, _, ⟨p.year, ?_, hyear⟩, t.month, _, ⟨p.month, rfl, hspells.month⟩, t.day, _,
      ⟨p.day, rfl, hspells.day⟩, t.hour, _, ⟨p.hour, rfl, hspells.hour⟩, t.minute, _,
      ⟨p.minute, rfl, hspells.minute⟩, t.second, ['Z'], ⟨p.second, rfl, hspells.second⟩, ?_⟩
    · simp [hcs, Parts.digits]
    · rw [← hp, ← hn, if_pos ⟨rfl, hvalid⟩]

namespace Parts

variable {p : Parts} {t : DateTime}

/-- A text that spells a time begins with a digit, if not with a sign. -/
theorem Spells.hasNoSign {text : String} (h : p.Spells t) (htext : text.toList = p.text)
    (hsign : p.sign = []) : HasNoSign text := by
  obtain ⟨n, hyear, -⟩ := h.year
  obtain ⟨c, rest, hc⟩ := List.exists_cons_of_length_eq_add_one hyear.length_eq
  have hdigit : c.isDigit = true := by
    refine hyear.isDigit c ?_
    rw [hc]
    exact List.mem_cons_self
  have hhead : text.toList.head? = some c := by
    rw [htext, Parts.text, hsign, digits, hc]
    rfl
  have hne : ∀ d : Char, d.isDigit = false → text.toList.head? ≠ some d := by
    intro d hd heq
    rw [hhead, Option.some_inj] at heq
    rw [heq, hd] at hdigit
    cases hdigit
  exact ⟨hne '-' (by decide), hne '+' (by decide)⟩

theorem Spells.sign_eq_nil {text : String} (h : p.Spells t) (htext : text.toList = p.text)
    (hsign : HasNoSign text) : p.sign = [] := by
  obtain ⟨hminus, hplus⟩ := hsign
  rw [htext, Parts.text] at hminus hplus
  rcases h.sign with hnone | hsign | hsign
  · exact hnone
  · exact absurd (by rw [hsign]; rfl) hplus
  · exact absurd (by rw [hsign]; rfl) hminus

end Parts

/-- A text is read as a time if and only if it spells this time, and there is such a time. -/
theorem parse?_eq_some_iff {text : String} {t : DateTime} :
    parse? text = some t ↔
      ∃ p : Parts, text.toList = p.text ∧ p.Spells t ∧ t.isValid = true := by
  constructor
  · intro h
    obtain ⟨sign, cs, hsign, htext, hnone⟩ := exists_sign text
    rw [parse?_eq_unsigned? hsign htext hnone] at h
    obtain ⟨p, hp, hcs, hspells⟩ := (unsigned?_eq_some_iff hsign).1 h
    exact ⟨p, by rw [htext, Parts.text, hp, hcs], hspells⟩
  · intro ⟨p, htext, hspells, hvalid⟩
    rw [parse?_eq_unsigned? hspells.sign htext (hspells.hasNoSign htext)]
    exact (unsigned?_eq_some_iff hspells.sign).2 ⟨p, rfl, rfl, hspells, hvalid⟩

/-! ## The order of texts -/

/-- The octet of an ASCII character. -/
def octet (c : Char) : UInt8 := UInt8.ofNat c.toNat

theorem octet_lt_iff {a b : Char} (ha : a.isDigit = true) (hb : b.isDigit = true) :
    (octet a < octet b ↔ Text.digit a < Text.digit b) ∧
      (octet a = octet b ↔ Text.digit a = Text.digit b) := by
  have ha' := Char.isDigit_iff_toNat.1 ha
  have hb' := Char.isDigit_iff_toNat.1 hb
  have hzero : '0'.toNat = 48 := rfl
  have hnine : '9'.toNat = 57 := rfl
  simp only [octet, Text.digit, UInt8.lt_iff_toNat_lt, ← UInt8.toNat_inj, UInt8.toNat_ofNat']
  omega

/-- Rows of digits that are equally long are in the order of their numbers, whatever
follows both of them. -/
theorem map_octet_lt_iff {as bs : List Char} (hlength : as.length = bs.length)
    (has : ∀ c ∈ as, c.isDigit = true) (hbs : ∀ c ∈ bs, c.isDigit = true) (rest : List UInt8) :
    as.map octet ++ rest < bs.map octet ++ rest ↔
      Text.digitsValue as < Text.digitsValue bs := by
  induction as generalizing bs with
  | nil =>
      cases bs with
      | nil => simp [List.lt_irrefl]
      | cons b bs => cases hlength
  | cons a as ih =>
      cases bs with
      | nil => cases hlength
      | cons b bs =>
          have hlength' : as.length = bs.length := Nat.succ.inj hlength
          obtain ⟨ha, has'⟩ := List.forall_mem_cons.1 has
          obtain ⟨hb, hbs'⟩ := List.forall_mem_cons.1 hbs
          obtain ⟨hlt, heq⟩ := octet_lt_iff ha hb
          rw [List.map_cons, List.map_cons, List.cons_append, List.cons_append,
            List.cons_lt_cons_iff, hlt, heq, ih hlength' has' hbs',
            Text.digitsValue_cons_lt_iff hlength' has' hbs']

namespace Parts

variable {p : Parts} {t : DateTime}

theorem Spells.isDigit (h : p.Spells t) : ∀ c ∈ p.digits, c.isDigit = true := by
  obtain ⟨n, hyear, -⟩ := h.year
  simp only [digits, List.forall_mem_append]
  exact ⟨hyear.isDigit, h.month.isDigit, h.day.isDigit, h.hour.isDigit, h.minute.isDigit,
    h.second.isDigit⟩

theorem Spells.length_digits (h : p.Spells t) : p.digits.length = 14 := by
  obtain ⟨n, hyear, -⟩ := h.year
  simp only [digits, List.length_append, hyear.length_eq, h.month.length_eq, h.day.length_eq,
    h.hour.length_eq, h.minute.length_eq, h.second.length_eq]

/-- Without a sign the digits are those of the stamp. -/
theorem Spells.digitsValue_eq (h : p.Spells t) (hsign : p.sign = []) :
    (Text.digitsValue p.digits : Int) = t.stamp := by
  obtain ⟨n, hyear, hn⟩ := h.year
  rw [if_neg (by simp [hsign])] at hn
  simp only [digits, Text.digitsValue_append, List.length_append, h.month.length_eq,
    h.day.length_eq, h.hour.length_eq, h.minute.length_eq, h.second.length_eq, hyear.value_eq,
    h.month.value_eq, h.day.value_eq, h.hour.value_eq, h.minute.value_eq, h.second.value_eq,
    DateTime.stamp, hn]
  omega

theorem Spells.bytes_eq {text : String} (h : p.Spells t) (htext : text.toList = p.text)
    (hsign : p.sign = []) : Text.bytes text = p.digits.map octet ++ [octet 'Z'] := by
  have hascii : ∀ c ∈ p.digits ++ ['Z'], c.toNat < 128 := by
    intro c hc
    rcases List.mem_append.1 hc with hc | hc
    · have hnine : c.toNat ≤ 57 := (Char.isDigit_iff_toNat.1 (h.isDigit c hc)).2
      omega
    · rw [List.mem_singleton.1 hc]
      decide
  rw [← String.ofList_toList (s := text), htext, Parts.text, hsign, List.nil_append,
    Text.bytes_ofList_of_lt hascii, List.map_append]
  rfl

end Parts

/-- Texts that are read as times, and have no sign, are in the order of these times. -/
theorem lt_iff {text text' : String} {t t' : DateTime} (h : parse? text = some t)
    (h' : parse? text' = some t') (hsign : HasNoSign text) (hsign' : HasNoSign text') :
    Text.bytes text < Text.bytes text' ↔ t.unixSeconds < t'.unixSeconds := by
  obtain ⟨p, htext, hspells, hvalid⟩ := parse?_eq_some_iff.1 h
  obtain ⟨p', htext', hspells', hvalid'⟩ := parse?_eq_some_iff.1 h'
  have hp := hspells.sign_eq_nil htext hsign
  have hp' := hspells'.sign_eq_nil htext' hsign'
  have hlength : p.digits.length = p'.digits.length := by
    rw [hspells.length_digits, hspells'.length_digits]
  rw [hspells.bytes_eq htext hp, hspells'.bytes_eq htext' hp',
    map_octet_lt_iff hlength hspells.isDigit hspells'.isDigit,
    DateTime.unixSeconds_lt_iff hvalid hvalid', ← hspells.digitsValue_eq hp,
    ← hspells'.digitsValue_eq hp', Int.ofNat_lt]

end GeneralizedTime

namespace Record

open GeneralizedTime

theorem firstTime?_of_text {r : Record} {name text : String} {v : Value}
    (hfirst : r.first? name = some v) (htext : Text.ofBytes? v.bytes = some text) :
    r.firstTime? name = some (match parse? text with
      | some t => .ok t
      | none => .error (.invalid (.attributeValue name))) := by
  rw [firstTime?, firstText?, hfirst, Option.bind_some, Value.text?_eq_ofBytes?, htext]
  rfl

theorem firstTime?_eq_ok_iff {r : Record} {name text : String} {v : Value} {t : DateTime}
    (hfirst : r.first? name = some v) (htext : Text.ofBytes? v.bytes = some text) :
    r.firstTime? name = some (.ok t) ↔ parse? text = some t := by
  rw [firstTime?_of_text hfirst htext]
  cases parse? text <;> simp

/-- The first value of an attribute, if it is text, is read as a time if it spells one that
the calendar has, and is otherwise an error that names the attribute. Times and seconds
are numbered one to one, the first second of 1970 with 0, so the fields can be told from
the number; and values without a sign are in the order of their numbers, octet by octet. -/
theorem firstTime?_spells {r : Record} {name text : String} {v : Value}
    (hfirst : r.first? name = some v) (htext : Text.ofBytes? v.bytes = some text) :
    (∀ t, r.firstTime? name = some (.ok t) ↔
      (∃ p : Parts, text.toList = p.text ∧ p.Spells t) ∧
        Calendar.IsDate t.year t.month t.day ∧ t.hour ≤ 23 ∧ t.minute ≤ 59 ∧ t.second ≤ 59) ∧
    ((∀ t, r.firstTime? name ≠ some (.ok t)) →
      r.firstTime? name = some (.error (.invalid (.attributeValue name)))) ∧
    (∀ t, r.firstTime? name = some (.ok t) → DateTime.ofUnixSeconds t.unixSeconds = t) ∧
    (DateTime.unixSeconds ⟨1970, 1, 1, 0, 0, 0⟩ = 0 ∧
      ∀ seconds, (DateTime.ofUnixSeconds seconds).isValid = true ∧
        (DateTime.ofUnixSeconds seconds).unixSeconds = seconds) ∧
    ∀ (r' : Record) (name' text' : String) (v' : Value) (t t' : DateTime),
      r'.first? name' = some v' → Text.ofBytes? v'.bytes = some text' →
      r.firstTime? name = some (.ok t) → r'.firstTime? name' = some (.ok t') →
      HasNoSign text → HasNoSign text' →
      (Text.bytes text < Text.bytes text' ↔ t.unixSeconds < t'.unixSeconds) := by
  refine ⟨fun t => ?_, fun hnone => ?_, fun t ht => ?_,
    ⟨by decide, DateTime.unixSeconds_ofUnixSeconds⟩, ?_⟩
  · rw [firstTime?_eq_ok_iff hfirst htext, parse?_eq_some_iff, DateTime.isValid_iff]
    constructor
    · intro ⟨p, hp, hspells, hvalid⟩
      exact ⟨⟨p, hp, hspells⟩, hvalid⟩
    · intro ⟨⟨p, hp, hspells⟩, hvalid⟩
      exact ⟨p, hp, hspells, hvalid⟩
  · rw [firstTime?_of_text hfirst htext] at hnone ⊢
    cases hparse : parse? text with
    | none => rfl
    | some t =>
        rw [hparse] at hnone
        exact absurd rfl (hnone t)
  · rw [firstTime?_eq_ok_iff hfirst htext, parse?_eq_some_iff] at ht
    obtain ⟨p, -, -, hvalid⟩ := ht
    exact DateTime.ofUnixSeconds_unixSeconds hvalid
  · intro r' name' text' v' t t' hfirst' htext' ht ht' hsign hsign'
    rw [firstTime?_eq_ok_iff hfirst htext] at ht
    rw [firstTime?_eq_ok_iff hfirst' htext'] at ht'
    exact lt_iff ht ht' hsign hsign'

/-- The last second of a leap day, under a name in capitals, and a time of the same year. -/
theorem firstTime?_spells_leapDay :
    let r := (Record.new "cn=foo").addValue "modifyTimestamp" (.text "20000229235959Z")
    let r' := (Record.new "cn=bar").addValue "createTimestamp" (.text "20001231000000Z")
    (r.first? "MODIFYTIMESTAMP" = some (.text "20000229235959Z") ∧
      Text.ofBytes? (Value.text "20000229235959Z").bytes = some "20000229235959Z") ∧
      r.firstTime? "MODIFYTIMESTAMP" = some (.ok ⟨2000, 2, 29, 23, 59, 59⟩) ∧
      r'.firstTime? "createtimestamp" = some (.ok ⟨2000, 12, 31, 0, 0, 0⟩) ∧
      DateTime.ofUnixSeconds 951868799 = ⟨2000, 2, 29, 23, 59, 59⟩ ∧
      Text.bytes "20000229235959Z" < Text.bytes "20001231000000Z" := by
  intro r r'
  have hfirst : r.first? "MODIFYTIMESTAMP" = some (.text "20000229235959Z") := by decide
  have hfirst' : r'.first? "createtimestamp" = some (.text "20001231000000Z") := by decide
  have htime : r.firstTime? "MODIFYTIMESTAMP" = some (.ok ⟨2000, 2, 29, 23, 59, 59⟩) := by decide
  have htime' : r'.firstTime? "createtimestamp" = some (.ok ⟨2000, 12, 31, 0, 0, 0⟩) := by decide
  have htext := Text.ofBytes?_bytes "20000229235959Z"
  have htext' := Text.ofBytes?_bytes "20001231000000Z"
  have hsign : HasNoSign "20000229235959Z" := ⟨by decide, by decide⟩
  have hsign' : HasNoSign "20001231000000Z" := ⟨by decide, by decide⟩
  obtain ⟨-, -, hback, -, horder⟩ := firstTime?_spells hfirst htext
  have hlt := (horder r' _ _ _ _ _ hfirst' htext' htime htime' hsign hsign').2 (by decide)
  have hseconds : DateTime.unixSeconds ⟨2000, 2, 29, 23, 59, 59⟩ = 951868799 := by decide
  refine ⟨⟨hfirst, htext⟩, htime, htime', ?_, hlt⟩
  rw [← hseconds]
  exact hback _ htime

end Record

end DirectoryClient
