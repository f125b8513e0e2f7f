import DirectoryClient.Proofs.DistinguishedName

/-!
# Commas that separate and commas that do not

A backslash takes away the meaning of the character behind it, so not every comma of a
name ends a component. Whether a comma is escaped is decided from the left, because a
backslash may be escaped itself; `isEscaped_iff` says that it is enough to look back
over the backslashes directly in front: an odd number of them escapes.

A base is cut off at the comma in front of it whether that comma separates components or
not. So what is cut off is a base if and only if its text does not follow an escaped
comma (`relative_ne_iff`). Where it does, the comma belongs to a value, the name is not
below the base, and it is cut within that value.
-/

namespace DirectoryClient.DistinguishedName

/-! ## Escapes -/

/-- Whether what comes next is escaped, if what comes now is `c`. -/
def escapes (escaped : Bool) (c : Char) : Bool := !escaped && c == '\\'

/-- Whether the character behind a text is escaped. -/
def isEscaped (front : List Char) : Bool := front.foldl escapes false

/-- The number of backslashes that a text ends in. -/
def backslashes (front : List Char) : Nat := (front.rtakeWhile (· == '\\')).length

/-- The components of a name: what stands between the commas that are not escaped. -/
def componentsFrom (escaped : Bool) : List Char → List (List Char)
  | [] => [[]]
  | c :: rest =>
      if c = ',' ∧ escaped = false then [] :: componentsFrom false rest
      else (componentsFrom (escapes escaped c) rest).modifyHead (c :: ·)

def components (name : List Char) : List (List Char) := componentsFrom false name

/-- The parity of the backslashes at the end decides, because of two that stand side by
side the second is escaped. The induction is from the end of the text. -/
theorem isEscaped_iff (front : List Char) :
    isEscaped front = true ↔ backslashes front % 2 = 1 := by
  induction front using List.reverseRecOn with
  | nil => simp [isEscaped, backslashes]
  | append_singleton init c ih =>
      have hstep : isEscaped (init ++ [c]) = escapes (isEscaped init) c := by
        rw [isEscaped, List.foldl_append]
        rfl
      rw [hstep, escapes, backslashes]
      by_cases hc : c = '\\'
      · subst hc
        rw [List.rtakeWhile_concat_pos _ _ _ (by decide), List.length_append]
        have hinit : isEscaped init = false ↔ backslashes init % 2 = 0 := by
          rw [← Bool.not_eq_true, ih]
          omega
        simp only [beq_self_eq_true, Bool.and_true, Bool.not_eq_true', hinit, backslashes,
          List.length_singleton]
        omega
      · rw [List.rtakeWhile_concat_neg _ _ _ (by simpa using hc)]
        simp [hc]

theorem componentsFrom_ne_nil (escaped : Bool) (cs : List Char) :
    componentsFrom escaped cs ≠ [] := by
  induction cs generalizing escaped with
  | nil => simp [componentsFrom]
  | cons c rest ih =>
      rw [componentsFrom]
      split
      · simp
      · simpa using ih _

/-- A comma that is not escaped ends a component. -/
theorem componentsFrom_append_of_not_escaped {escaped : Bool} {front : List Char}
    (h : front.foldl escapes escaped = false) (back : List Char) :
    componentsFrom escaped (front ++ ',' :: back) =
      componentsFrom escaped front ++ componentsFrom false back := by
  induction front generalizing escaped with
  | nil =>
      have hescaped : escaped = false := h
      simp [componentsFrom, hescaped]
  | cons c rest ih =>
      rw [List.cons_append, componentsFrom, componentsFrom]
      split
      · next hc =>
          have hrest : rest.foldl escapes false = false := by
            rwa [List.foldl_cons, hc.1, hc.2] at h
          rw [ih hrest, List.cons_append]
      · rw [ih h]
        obtain ⟨part, more, hparts⟩ :=
          List.exists_cons_of_ne_nil (componentsFrom_ne_nil (escapes escaped c) rest)
        rw [hparts]
        rfl

/-- An escaped comma ends none, so there is one component less. -/
theorem length_componentsFrom_of_escaped {escaped : Bool} {front : List Char}
    (h : front.foldl escapes escaped = true) (back : List Char) :
    (componentsFrom escaped (front ++ ',' :: back)).length + 1 =
      (componentsFrom escaped front).length + (componentsFrom false back).length := by
  induction front generalizing escaped with
  | nil =>
      have hescaped : escaped = true := h
      simp [componentsFrom, hescaped, escapes, Nat.add_comm]
  | cons c rest ih =>
      rw [List.cons_append, componentsFrom, componentsFrom]
      split
      · next hc =>
          have hrest : rest.foldl escapes false = true := by
            rwa [List.foldl_cons, hc.1, hc.2] at h
          have hlength := ih hrest
          simp only [List.length_cons]
          omega
      · rw [List.length_modifyHead, List.length_modifyHead, ih h]

/-- A comma separates components if and only if it is not escaped. -/
theorem components_append_iff (front back : List Char) :
    components (front ++ ',' :: back) = components front ++ components back ↔
      isEscaped front = false := by
  constructor
  · intro heq
    refine Bool.eq_false_iff.2 fun hescaped => ?_
    have hlength := length_componentsFrom_of_escaped hescaped back
    have heq' := congrArg List.length heq
    rw [components, components, components, List.length_append] at heq'
    omega
  · intro h
    exact componentsFrom_append_of_not_escaped h back

/-! ## The cut -/

/-- A name that ends in a base with a comma in front of it; blanks may stand between. -/
structure EndsIn (base dn front blanks tail : String) : Prop where
  eq : dn = front ++ "," ++ blanks ++ tail
  sameName : Text.sameName tail base = true
  isBlank : ∀ c ∈ blanks.toList, Text.isBlank c = true

/-- Whether the text of the base follows an escaped comma. -/
def FollowsEscaped (base dn : String) : Prop :=
  ∃ front blanks tail, EndsIn base dn front blanks tail ∧ isEscaped front.toList = true

namespace EndsIn

variable {base dn front blanks tail : String}

theorem bind_before?_eq (h : EndsIn base dn front blanks tail) :
    (before? base dn).bind (withoutComma? ∘ Text.trimEnd) = some front.toList := by
  rw [bind_before?_eq_some_iff, String.ofList_toList]
  exact ⟨blanks, tail, h.eq, h.sameName, h.isBlank⟩

/-- The comma is at one place. -/
theorem unique {front' blanks' tail' : String} (h : EndsIn base dn front blanks tail)
    (h' : EndsIn base dn front' blanks' tail') : front' = front := by
  have heq := h'.bind_before?_eq
  rw [h.bind_before?_eq] at heq
  exact String.toList_inj.1 (Option.some.inj heq).symm

theorem isBelow (h : EndsIn base dn front blanks tail) :
    IsBelow base (String.ofList (Text.trimEnd front.toList)) dn :=
  isBelow_iff.2 ⟨front.toList, h.bind_before?_eq, String.toList_ofList.symm⟩

theorem relative_eq (hbase : base ≠ "") (h : EndsIn base dn front blanks tail) :
    relative dn base = String.ofList (Text.trimEnd front.toList) :=
  relative_of_isBelow hbase h.isBelow

/-- What is left is shorter than the name. -/
theorem relative_ne (hbase : base ≠ "") (h : EndsIn base dn front blanks tail) :
    relative dn base ≠ dn := by
  intro heq
  obtain ⟨more, hmore, -⟩ := Text.exists_trimEnd_append front.toList
  have hsize := congrArg String.length heq
  have hfront := congrArg List.length hmore
  rw [h.relative_eq hbase, h.eq] at hsize
  simp only [String.length_append, String.length_ofList] at hsize
  rw [List.length_append, String.length_toList] at hfront
  have hcomma : (",").length = 1 := rfl
  omega

theorem followsEscaped_iff (h : EndsIn base dn front blanks tail) :
    FollowsEscaped base dn ↔ isEscaped front.toList = true := by
  constructor
  · rintro ⟨front', blanks', tail', h', hescaped⟩
    rwa [h.unique h'] at hescaped
  · intro hescaped
    exact ⟨front, blanks, tail, h, hescaped⟩

theorem toList_eq (h : EndsIn base dn front blanks tail) :
    dn.toList = front.toList ++ ',' :: (blanks ++ tail).toList := by
  rw [h.eq]
  simp

end EndsIn

theorem exists_endsIn {base name dn : String} (h : IsBelow base name dn) :
    ∃ front blanks tail, EndsIn base dn front blanks tail := by
  obtain ⟨blanks, blanks', tail, heq, hsame, -, hblanks', -⟩ := h
  exact ⟨name ++ blanks, blanks', tail, heq, hsame, hblanks'⟩

/-- A name that is not the base changes if and only if it ends in the base behind a comma,
and then it gives what stands in front of this comma. The comma separates two components,
so that what was cut off is what the name is below, if and only if the text of the base
does not follow an escaped comma; and it is escaped by an odd number of backslashes
directly in front of it. -/
theorem relative_ne_iff {dn base : String} (hbase : base ≠ "")
    (hsame : Text.sameName dn base = false) :
    (relative dn base ≠ dn ↔ ∃ front blanks tail, EndsIn base dn front blanks tail) ∧
    ∀ front blanks tail, EndsIn base dn front blanks tail →
      relative dn base = String.ofList (Text.trimEnd front.toList) ∧
      (components dn.toList = components front.toList ++ components (blanks ++ tail).toList ↔
        ¬ FollowsEscaped base dn) ∧
      (backslashes front.toList % 2 = 0 ↔ ¬ FollowsEscaped base dn) := by
  constructor
  · constructor
    · intro hne
      by_contra hnone
      refine hne (relative_of_not_isBelow hbase (fun name hname => ?_) hsame)
      exact hnone (exists_endsIn hname)
    · rintro ⟨front, blanks, tail, h⟩
      exact h.relative_ne hbase
  · intro front blanks tail h
    refine ⟨h.relative_eq hbase, ?_, ?_⟩
    · rw [h.toList_eq, components_append_iff, h.followsEscaped_iff, Bool.not_eq_true]
    · rw [h.followsEscaped_iff, isEscaped_iff]
      omega

/-- An escaped backslash in front of the comma does not escape it. -/
theorem relative_ne_iff_escapedBackslash :
    "dc=x" ≠ "" ∧ Text.sameName "cn=a\\\\, DC=x" "dc=x" = false ∧
      relative "cn=a\\\\, DC=x" "dc=x" = "cn=a\\\\" ∧
      components "cn=a\\\\, DC=x".toList = ["cn=a\\\\".toList, " DC=x".toList] := by
  have hbase : "dc=x" ≠ "" := by decide
  have hsame : Text.sameName "cn=a\\\\, DC=x" "dc=x" = false := by decide
  have hends : EndsIn "dc=x" "cn=a\\\\, DC=x" "cn=a\\\\" " " "DC=x" :=
    ⟨by decide, by decide, List.all_eq_true.1 (by decide)⟩
  obtain ⟨hrelative, hseparates, heven⟩ := (relative_ne_iff hbase hsame).2 _ _ _ hends
  refine ⟨hbase, hsame, hrelative.trans (by decide), ?_⟩
  rw [hseparates.2 (heven.1 (by decide))]
  decide

/-- A name of one component, whose value has a comma in it: it is outside of the base, but
is cut within the value. -/
theorem relative_of_escapedComma :
    FollowsEscaped "dc=x" "cn=a\\,dc=x" ∧
      components "cn=a\\,dc=x".toList = ["cn=a\\,dc=x".toList] ∧
      Text.sameName "cn=a\\,dc=x" "dc=x" = false ∧
      relative "cn=a\\,dc=x" "dc=x" = "cn=a\\" ∧ "cn=a\\" ≠ "cn=a\\,dc=x" ∧
      ∀ front blanks tail, EndsIn "dc=x" "cn=a\\,dc=x" front blanks tail →
        backslashes front.toList = 1 := by
  have hends : EndsIn "dc=x" "cn=a\\,dc=x" "cn=a\\" "" "dc=x" :=
    ⟨by decide, by decide, List.all_eq_true.1 (by decide)⟩
  refine ⟨⟨_, _, _, hends, by decide⟩, by decide, by decide, by decide, by decide, ?_⟩
  intro front blanks tail h
  rw [hends.unique h]
  decide

end DirectoryClient.DistinguishedName
