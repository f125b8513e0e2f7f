import DirectoryClient.Base64
import DirectoryClient.Proofs.Text.Encoding

/-!
# Base64 is read as it is written

Reading is exactly the inverse of writing: `decode` accepts a text as some
octets if and only if these octets are written that way, `decode_eq_ok_iff`. In
between stand the numbers below 64 that the letters spell. Octets are regrouped
into such numbers (`digits`) and back (`Base64.join`), which needs that no bits
are left over; and the checks of the reader say just that a text consists of
letters, then as many pads as the last group lacks, and that the last letter
sets no bit which the octets do not have.
-/

namespace DirectoryClient.Base64

/-! ## Letters -/

/-- The octet of the letter for a number. -/
def octet (n : Nat) : UInt8 := UInt8.ofNat (letter n).toNat

theorem value?_octet {n : Nat} (h : n < 64) : value? (octet n) = some n := by
  have hall : ∀ i : Fin 64, value? (octet i) = some i.val := by decide
  exact hall ⟨n, h⟩

theorem letter_toNat_lt {n : Nat} (h : n < 64) : (letter n).toNat < 128 := by
  have hall : ∀ i : Fin 64, (letter i).toNat < 128 := by decide
  exact hall ⟨n, h⟩

theorem eq_octet_of_value? {b : UInt8} {n : Nat} (h : value? b = some n) :
    n < 64 ∧ b = octet n := by
  have hall : ∀ i : Fin 256, ∀ m ∈ value? (UInt8.ofNat i), m < 64 ∧ UInt8.ofNat i = octet m := by
    decide +kernel
  have hb := hall ⟨b.toNat, UInt8.toNat_lt b⟩ n
  simp only [UInt8.ofNat_toNat] at hb
  exact hb h

theorem value?_pad : value? pad = none := by decide

theorem octet_ne_pad {n : Nat} (h : n < 64) : octet n ≠ pad := by
  intro heq
  have := value?_octet h
  rw [heq, value?_pad] at this
  cases this

theorem filterMap_value? {ns : List Nat} (h : ∀ n ∈ ns, n < 64) :
    (ns.map octet).filterMap value? = ns := by
  induction ns with
  | nil => rfl
  | cons n rest ih =>
      obtain ⟨hn, hrest⟩ := List.forall_mem_cons.1 h
      rw [List.map_cons, List.filterMap_cons_some (value?_octet hn), ih hrest]

theorem exists_eq_map_octet {t : Bytes} (h : ∀ b ∈ t, (value? b).isSome = true) :
    ∃ ns : List Nat, (∀ n ∈ ns, n < 64) ∧ t = ns.map octet := by
  induction t with
  | nil => exact ⟨[], by simp, rfl⟩
  | cons b rest ih =>
      obtain ⟨hb, hrest⟩ := List.forall_mem_cons.1 h
      obtain ⟨n, hn⟩ := Option.isSome_iff_exists.1 hb
      obtain ⟨ns, hns, rfl⟩ := ih hrest
      obtain ⟨hlt, rfl⟩ := eq_octet_of_value? hn
      exact ⟨n :: ns, List.forall_mem_cons.2 ⟨hlt, hns⟩, rfl⟩

/-! ## Regrouping -/

/-- The numbers of six bits in some octets, with the last one filled up. -/
def digits : Bytes → List Nat
  | [] => []
  | [a] => [a.toNat * 16 / 64, a.toNat * 16 % 64]
  | [a, b] =>
      let n := (a.toNat * 256 + b.toNat) * 4
      [n / 4096, n / 64 % 64, n % 64]
  | a :: b :: c :: rest =>
      let n := (a.toNat * 256 + b.toNat) * 256 + c.toNat
      n / 262144 :: n / 4096 % 64 :: n / 64 % 64 :: n % 64 :: digits rest

/-- How many pads fill up the last group. -/
def padCount (b : Bytes) : Nat := (3 - b.length % 3) % 3

/-- Whether some numbers make up whole octets with no bits left over. -/
def Tight : List Nat → Prop
  | _ :: _ :: _ :: _ :: rest => Tight rest
  | [_, _, c] => c % 4 = 0
  | [_, b] => b % 16 = 0
  | [_] => False
  | [] => True

theorem digits_lt (b : Bytes) : ∀ n ∈ digits b, n < 64 := by
  fun_induction digits b with
  | case1 => simp
  | case2 a =>
      have := UInt8.toNat_lt a
      simp only [List.mem_cons, List.not_mem_nil, or_false, forall_eq_or_imp, forall_eq]
      omega
  | case3 a b =>
      have := UInt8.toNat_lt a
      have := UInt8.toNat_lt b
      simp only [List.mem_cons, List.not_mem_nil, or_false, forall_eq_or_imp, forall_eq]
      omega
  | case4 a b c rest n ih =>
      have := UInt8.toNat_lt a
      have := UInt8.toNat_lt b
      have := UInt8.toNat_lt c
      simp only [List.mem_cons, forall_eq_or_imp]
      refine ⟨?_, ?_, ?_, ?_, ih⟩ <;> omega

theorem encode_eq (b : Bytes) :
    encode b = (digits b).map letter ++ List.replicate (padCount b) '=' := by
  fun_induction encode b with
  | case1 => rfl
  | case2 a => rfl
  | case3 a b => rfl
  | case4 a b c rest n ih =>
      have hpads : padCount (a :: b :: c :: rest) = padCount rest := by
        simp only [padCount, List.length_cons]
        omega
      rw [ih, hpads, digits]
      rfl

theorem join_digits (b : Bytes) : join (digits b) = b := by
  fun_induction digits b with
  | case1 => rfl
  | case2 a =>
      have := UInt8.toNat_lt a
      have ha : (a.toNat * 16 / 64 * 64 + a.toNat * 16 % 64) / 16 = a.toNat := by omega
      rw [join, ha, UInt8.ofNat_toNat]
  | case3 a b n =>
      have := UInt8.toNat_lt a
      have := UInt8.toNat_lt b
      have hn : (n / 4096 * 64 + n / 64 % 64) * 64 + n % 64 = n := by omega
      have ha : n / 1024 = a.toNat := by omega
      have hb : UInt8.ofNat (n / 4) = b := UInt8.toNat_inj.1 (by
        rw [UInt8.toNat_ofNat']
        omega)
      rw [join, hn, ha, UInt8.ofNat_toNat, hb]
  | case4 a b c rest n ih =>
      have := UInt8.toNat_lt a
      have := UInt8.toNat_lt b
      have := UInt8.toNat_lt c
      have hn : ((n / 262144 * 64 + n / 4096 % 64) * 64 + n / 64 % 64) * 64 + n % 64 = n := by
        omega
      have ha : n / 65536 = a.toNat := by omega
      have hb : UInt8.ofNat (n / 256) = b := UInt8.toNat_inj.1 (by
        rw [UInt8.toNat_ofNat']
        omega)
      have hc : UInt8.ofNat n = c := UInt8.toNat_inj.1 (by
        rw [UInt8.toNat_ofNat']
        omega)
      rw [join, ih, hn, ha, UInt8.ofNat_toNat, hb, hc]

theorem tight_digits (b : Bytes) : Tight (digits b) := by
  fun_induction digits b with
  | case1 => trivial
  | case2 a =>
      show a.toNat * 16 % 64 % 16 = 0
      omega
  | case3 a b n =>
      show n % 64 % 4 = 0
      omega
  | case4 a b c rest n ih => exact ih

theorem digits_join {ns : List Nat} (h : ∀ n ∈ ns, n < 64) (ht : Tight ns) :
    digits (join ns) = ns := by
  fun_induction join ns with
  | case1 a b c d rest n ih =>
      simp only [List.mem_cons, forall_eq_or_imp] at h
      obtain ⟨ha, hb, hc, hd, hrest⟩ := h
      rw [digits, ih hrest ht]
      simp only [UInt8.toNat_ofNat', List.cons.injEq, and_true]
      omega
  | case2 a b c n =>
      simp only [List.mem_cons, List.not_mem_nil, or_false, forall_eq_or_imp, forall_eq] at h
      have hc : c % 4 = 0 := ht
      simp only [digits, UInt8.toNat_ofNat', List.cons.injEq, and_true]
      omega
  | case3 a b =>
      simp only [List.mem_cons, List.not_mem_nil, or_false, forall_eq_or_imp, forall_eq] at h
      have hb : b % 16 = 0 := ht
      simp only [digits, UInt8.toNat_ofNat', List.cons.injEq, and_true]
      omega
  | case4 ns h₁ h₂ h₃ =>
      -- only no number at all is left, since a single one makes up no octet
      match ns, h₁, h₂, h₃, ht with
      | [], _, _, _, _ => rfl
      | [_, _], _, _, h₃, _ => exact absurd rfl (h₃ _ _)
      | [_, _, _], _, h₂, _, _ => exact absurd rfl (h₂ _ _ _)
      | _ :: _ :: _ :: _ :: _, h₁, _, _, _ => exact absurd rfl (h₁ _ _ _ _ _)

theorem padCount_join {ns : List Nat} (ht : Tight ns) :
    padCount (join ns) = (4 - ns.length % 4) % 4 := by
  fun_induction join ns with
  | case1 a b c d rest n ih =>
      have := ih ht
      simp only [padCount, List.length_cons] at this ⊢
      omega
  | case2 a b c n => rfl
  | case3 a b => rfl
  | case4 ns h₁ h₂ h₃ =>
      match ns, h₁, h₂, h₃, ht with
      | [], _, _, _, _ => rfl
      | [_, _], _, _, h₃, _ => exact absurd rfl (h₃ _ _)
      | [_, _, _], _, h₂, _, _ => exact absurd rfl (h₂ _ _ _)
      | _ :: _ :: _ :: _ :: _, h₁, _, _, _ => exact absurd rfl (h₁ _ _ _ _ _)

/-- What is left over depends on the last number and on how many there are. -/
theorem tight_iff {ns : List Nat} :
    Tight ns ↔ ns.length % 4 ≠ 1 ∧ (ns.length % 4 = 2 → ns.getLast?.getD 0 % 16 = 0) ∧
      (ns.length % 4 = 3 → ns.getLast?.getD 0 % 4 = 0) := by
  fun_induction Tight ns with
  | case1 a b c d rest ih =>
      rw [ih]
      have hlen : (a :: b :: c :: d :: rest).length % 4 = rest.length % 4 := by
        simp only [List.length_cons]
        omega
      rw [hlen]
      cases rest with
      | nil => simp
      | cons x xs => simp [List.getLast?_cons]
  | case2 a b c => simp
  | case3 a b => simp
  | case4 a => simp
  | case5 => simp

/-! ## The checks of the reader -/

theorem checkBody_eq_ok_iff {offset : Nat} {t : Bytes} :
    checkBody offset t = .ok () ↔ ∀ b ∈ t, (value? b).isSome = true := by
  induction t generalizing offset with
  | nil => simp [checkBody]
  | cons b rest ih =>
      rw [checkBody, List.forall_mem_cons]
      split
      · next h => simp only [ih, h, true_and]
      · next h => simp [h]

/-- After the first pad there are only pads, and only where a group may lack
letters. -/
theorem checkTail_some_eq_ok_iff {start i first : Nat} {t : Bytes} :
    checkTail start i (some first) t = .ok () ↔
      ∃ p, t = List.replicate p pad ∧ ∀ j < p, 2 ≤ (i + j) % 4 := by
  induction t generalizing i with
  | nil => simp [checkTail]
  | cons b rest ih =>
      rw [checkTail]
      split
      · next hb =>
          subst hb
          split
          · next hi =>
              constructor
              · intro h
                cases h
              · rintro ⟨p, ht, hp⟩
                cases p with
                | zero => cases ht
                | succ p =>
                    have := hp 0 (Nat.succ_pos p)
                    omega
          · next hi =>
              rw [Option.getD_some, ih]
              constructor
              · rintro ⟨p, rfl, hp⟩
                refine ⟨p + 1, rfl, fun j hj => ?_⟩
                cases j with
                | zero => omega
                | succ j =>
                    have := hp j (by omega)
                    omega
              · rintro ⟨p, ht, hp⟩
                cases p with
                | zero => cases ht
                | succ p =>
                    refine ⟨p, (List.cons.inj ht).2, fun j hj => ?_⟩
                    have := hp (j + 1) (by omega)
                    omega
      · next hb =>
          constructor
          · intro h
            cases h
          · rintro ⟨p, ht, -⟩
            cases p with
            | zero => cases ht
            | succ p => exact absurd (List.cons.inj ht).1 hb

theorem checkTail_none_eq_ok_iff {start i : Nat} {t : Bytes} :
    checkTail start i none t = .ok () ↔
      ∃ (ns : List Nat) (p : Nat), (∀ n ∈ ns, n < 64) ∧ t = ns.map octet ++ List.replicate p pad ∧
        ∀ j < p, 2 ≤ (i + ns.length + j) % 4 := by
  induction t generalizing i with
  | nil => exact ⟨fun _ => ⟨[], 0, by simp⟩, fun _ => rfl⟩
  | cons b rest ih =>
      rw [checkTail]
      split
      · next hb =>
          subst hb
          have hlift : checkTail start i (some i) (pad :: rest) = .ok () ↔
              (if i % 4 < 2 then .error (.foreignByte pad (start + Option.getD none i))
                else checkTail start (i + 1) (some (Option.getD none i)) rest) = .ok () := by
            rw [checkTail, if_pos rfl]
            rfl
          rw [← hlift, checkTail_some_eq_ok_iff]
          constructor
          · rintro ⟨p, ht, hp⟩
            exact ⟨[], p, by simp, by simpa using ht, by simpa using hp⟩
          · rintro ⟨ns, p, hns, ht, hp⟩
            cases ns with
            | nil => exact ⟨p, by simpa using ht, by simpa using hp⟩
            | cons n ns =>
                exact absurd (List.cons.inj ht).1.symm (octet_ne_pad (hns n (by simp)))
      · next hb =>
          split
          · next hvalue =>
              obtain ⟨m, hm⟩ := Option.isSome_iff_exists.1 hvalue
              obtain ⟨hlt, rfl⟩ := eq_octet_of_value? hm
              rw [ih]
              constructor
              · rintro ⟨ns, p, hns, rfl, hp⟩
                refine ⟨m :: ns, p, List.forall_mem_cons.2 ⟨hlt, hns⟩, rfl, fun j hj => ?_⟩
                have := hp j hj
                simp only [List.length_cons]
                omega
              · rintro ⟨ns, p, hns, ht, hp⟩
                cases ns with
                | nil =>
                    cases p with
                    | zero => cases ht
                    | succ p => exact absurd (List.cons.inj ht).1 hb
                | cons n ns =>
                    refine ⟨ns, p, (List.forall_mem_cons.1 hns).2, (List.cons.inj ht).2,
                      fun j hj => ?_⟩
                    have := hp j hj
                    simp only [List.length_cons] at this
                    omega
          · next hvalue =>
              constructor
              · intro h
                cases h
              · rintro ⟨ns, p, hns, ht, -⟩
                cases ns with
                | nil =>
                    cases p with
                    | zero => cases ht
                    | succ p => exact absurd (List.cons.inj ht).1 hb
                | cons n ns =>
                    have hn := value?_octet (hns n (by simp))
                    rw [← (List.cons.inj ht).1] at hn
                    exact absurd (by rw [hn]; rfl) hvalue

theorem checkBits_eq_ok_iff {ns : List Nat} (h : ∀ n ∈ ns, n < 64) (hl : ns.length % 4 ≠ 1) :
    checkBits (ns.map octet) = .ok () ↔ Tight ns := by
  rw [tight_iff, checkBits, List.getLast?_map, List.length_map]
  cases hlast : ns.getLast? with
  | none => simp [List.getLast?_eq_none_iff.1 hlast]
  | some n =>
      have hn := value?_octet (h n (List.mem_of_getLast? hlast))
      have hr : ns.length % 4 < 4 := Nat.mod_lt _ (by decide)
      simp only [Option.map_some, hn, Option.getD_some]
      split
      · next h2 => simp [h2]
      · next h3 => simp [h3]
      · next h2 h3 =>
          exact iff_of_true (by simp [Nat.mod_one]) ⟨hl, fun h => (h2 h).elim, fun h => (h3 h).elim⟩

theorem takeWhile_octets {ns : List Nat} (h : ∀ n ∈ ns, n < 64) (p : Nat) :
    (ns.map octet ++ List.replicate p pad).takeWhile (· ≠ pad) = ns.map octet := by
  have hns : ∀ b ∈ ns.map octet, decide (b ≠ pad) = true := by
    intro b hb
    obtain ⟨n, hn, rfl⟩ := List.mem_map.1 hb
    simpa using octet_ne_pad (h n hn)
  rw [List.takeWhile_append_of_pos hns]
  cases p with
  | zero => simp
  | succ p => simp [List.replicate_succ]

/-- Reading, once its three checks are taken apart. -/
theorem decode_eq_ok_iff_checks {t b : Bytes} :
    decode t = .ok b ↔
      t.length % 4 = 0 ∧ checkBody 0 (t.take (tailStart t.length)) = .ok () ∧
        checkTail (tailStart t.length) 0 none (t.drop (tailStart t.length)) = .ok () ∧
        checkBits (t.takeWhile (· ≠ pad)) = .ok () ∧
        b = join ((t.takeWhile (· ≠ pad)).filterMap value?) := by
  unfold decode decodeWith
  simp only [bind, Except.bind]
  split
  · next hsize =>
      constructor
      · intro h
        split at h <;> cases h
      · rintro ⟨hzero, -⟩
        omega
  · cases checkBody 0 (t.take (tailStart t.length)) with
    | error fault => simp
    | ok u =>
        cases checkTail (tailStart t.length) 0 none (t.drop (tailStart t.length)) with
        | error fault => simp
        | ok u =>
            simp only [true_and]
            by_cases hsize : t.length % 4 = 0
            · cases checkBits (t.takeWhile (· ≠ pad)) with
              | error fault => simp [hsize]
              | ok u => simp [hsize, pure, Except.pure, eq_comm]
            · simp [hsize, throw, throwThe, MonadExceptOf.throw]

/-! ## Reading what was written -/

theorem bytes_encode (b : Bytes) :
    Text.bytes (String.ofList (encode b)) =
      (digits b).map octet ++ List.replicate (padCount b) pad := by
  have hletters : ∀ ns : List Nat, (∀ n ∈ ns, n < 64) →
      (ns.map letter).flatMap String.utf8EncodeChar = ns.map octet := by
    intro ns hns
    induction ns with
    | nil => rfl
    | cons n rest ih =>
        obtain ⟨hn, hrest⟩ := List.forall_mem_cons.1 hns
        rw [List.map_cons, List.flatMap_cons, ih hrest,
          Text.utf8EncodeChar_of_lt (letter_toNat_lt hn)]
        rfl
  have hpads : ∀ p,
      (List.replicate p '=').flatMap String.utf8EncodeChar = List.replicate p pad := by
    intro p
    induction p with
    | zero => rfl
    | succ p ih =>
        rw [List.replicate_succ, List.flatMap_cons, ih]
        rfl
  rw [Text.bytes_ofList, encode_eq, List.flatMap_append, hletters _ (digits_lt b), hpads]

/-- What is written is printable and holds no space. -/
theorem toNat_of_mem_encode {b : Bytes} {c : Char} (h : c ∈ encode b) :
    33 ≤ c.toNat ∧ c.toNat ≤ 126 := by
  have hall : ∀ i : Fin 64, 33 ≤ (letter i).toNat ∧ (letter i).toNat ≤ 126 := by decide
  rw [encode_eq] at h
  rcases List.mem_append.1 h with h | h
  · obtain ⟨n, hn, rfl⟩ := List.mem_map.1 h
    exact hall ⟨n, digits_lt b n hn⟩
  · obtain rfl := List.eq_of_mem_replicate h
    decide

theorem tailStart_mod (size : Nat) : tailStart size % 8 = 0 := by
  rw [tailStart]
  omega

theorem decode_encode (b : Bytes) : decode (Text.bytes (String.ofList (encode b))) = .ok b := by
  have hlt := digits_lt b
  have htight := tight_digits b
  have hpads := padCount_join htight
  rw [join_digits] at hpads
  have hlen : (digits b).length % 4 ≠ 1 := (tight_iff.1 htight).1
  rw [bytes_encode, decode_eq_ok_iff_checks, takeWhile_octets hlt, filterMap_value? hlt,
    join_digits]
  generalize digits b = ns at *
  generalize padCount b = p at *
  have hsize : (ns.map octet ++ List.replicate p pad).length = ns.length + p := by simp
  have hstart : tailStart (ns.length + p) ≤ ns.length := by
    rw [tailStart]
    omega
  have hmod := tailStart_mod (ns.length + p)
  rw [hsize]
  generalize tailStart (ns.length + p) = start at *
  have htake : (ns.map octet ++ List.replicate p pad).take start = (ns.take start).map octet := by
    rw [List.take_append_of_le_length (by simpa using hstart), List.map_take]
  have hdrop : (ns.map octet ++ List.replicate p pad).drop start =
      (ns.drop start).map octet ++ List.replicate p pad := by
    rw [List.drop_append_of_le_length (by simpa using hstart), List.map_drop]
  refine ⟨by omega, ?_, ?_, (checkBits_eq_ok_iff hlt hlen).2 htight, rfl⟩
  · rw [htake, checkBody_eq_ok_iff]
    intro x hx
    obtain ⟨n, hn, rfl⟩ := List.mem_map.1 hx
    rw [value?_octet (hlt n (List.mem_of_mem_take hn))]
    rfl
  · rw [hdrop, checkTail_none_eq_ok_iff]
    refine ⟨ns.drop start, p, fun n hn => hlt n (List.mem_of_mem_drop hn), rfl, fun j hj => ?_⟩
    rw [List.length_drop]
    omega

/-- What passes the checks is spelled with tight numbers, and these are the only
ones that join to its octets. -/
theorem eq_encode_of_decode {t b : Bytes} (h : decode t = .ok b) :
    t = Text.bytes (String.ofList (encode b)) := by
  obtain ⟨hsize, hbody, htail, hbits, rfl⟩ := decode_eq_ok_iff_checks.1 h
  have hmod := tailStart_mod t.length
  have hstart : tailStart t.length ≤ t.length := by
    rw [tailStart]
    omega
  obtain ⟨ns₁, hns₁, htake⟩ := exists_eq_map_octet (checkBody_eq_ok_iff.1 hbody)
  obtain ⟨ns₂, p, hns₂, hdrop, hp⟩ := checkTail_none_eq_ok_iff.1 htail
  have hlen : ns₁.length = tailStart t.length := by
    have := congrArg List.length htake
    rw [List.length_take, List.length_map] at this
    omega
  have hns : ∀ n ∈ ns₁ ++ ns₂, n < 64 := by
    intro n hn
    rcases List.mem_append.1 hn with hn | hn
    · exact hns₁ n hn
    · exact hns₂ n hn
  have ht : t = (ns₁ ++ ns₂).map octet ++ List.replicate p pad := by
    rw [← List.take_append_drop (tailStart t.length) t, htake, hdrop, List.map_append,
      List.append_assoc]
  -- a group lacks two letters at most, or a pad would stand where none may
  have hpads : p ≤ 2 ∧ (ns₁ ++ ns₂).length % 4 ≠ 1 ∧ ((ns₁ ++ ns₂).length + p) % 4 = 0 := by
    have hall := congrArg List.length ht
    simp only [List.length_append, List.length_map, List.length_replicate] at hall ⊢
    have hp₀ := hp 0
    have hp₁ := hp 1
    have hp₂ := hp 2
    omega
  rw [ht, takeWhile_octets hns, checkBits_eq_ok_iff hns hpads.2.1] at hbits
  have hcount : padCount (join (ns₁ ++ ns₂)) = p := by
    rw [padCount_join hbits]
    omega
  have hnumbers : (t.takeWhile (· ≠ pad)).filterMap value? = ns₁ ++ ns₂ := by
    rw [ht, takeWhile_octets hns, filterMap_value? hns]
  rw [bytes_encode, hnumbers, digits_join hns hbits, hcount]
  exact ht

/-- A text is read as some octets if and only if they are written that way. -/
theorem decode_eq_ok_iff {t b : Bytes} :
    decode t = .ok b ↔ t = Text.bytes (String.ofList (encode b)) :=
  ⟨eq_encode_of_decode, fun h => h ▸ decode_encode b⟩

end DirectoryClient.Base64
