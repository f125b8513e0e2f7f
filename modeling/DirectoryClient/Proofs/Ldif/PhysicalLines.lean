import DirectoryClient.Proofs.Ldif.Batch
import DirectoryClient.Proofs.Text.Encoding

/-!
# Lines of octets and lines of text

A source cuts its octets at the line feeds and decodes every line on its own.
Where the octets are those of a text this comes to the same as cutting the text,
because no octet of another character is a line feed: `arrivals_bytes`. Lines
that were put after one another with a line feed each are found again, provided
they hold no line feed and none ends with a carriage return, which would be taken
for a part of the line end: `physicalLines_terminated_of_getLast?`.
-/

namespace DirectoryClient

/-! ## Cutting at a separator -/

theorem Text.split_ne_nil (separator : Char) (cs : List Char) : split separator cs ≠ [] := by
  cases cs with
  | nil => simp [split]
  | cons c rest =>
      rw [split]
      split
      · simp
      · split <;> simp

/-- Text without a separator goes to the front of the first part. -/
theorem Text.split_append {separator : Char} {cs rest part : List Char} {more : List (List Char)}
    (hcs : separator ∉ cs) (h : split separator rest = part :: more) :
    split separator (cs ++ rest) = (cs ++ part) :: more := by
  induction cs with
  | nil => exact h
  | cons c cs ih =>
      have hc : c ≠ separator := fun heq => hcs (by simp [heq])
      rw [List.cons_append, split, ih fun hmem => hcs (by simp [hmem])]
      simp only [if_neg hc, List.cons_append]

theorem Text.split_append_separator {separator : Char} {cs : List Char} (rest : List Char)
    (hcs : separator ∉ cs) :
    split separator (cs ++ separator :: rest) = cs :: split separator rest := by
  obtain ⟨part, more, hrest⟩ := List.exists_cons_of_ne_nil (split_ne_nil separator rest)
  have hsep : split separator (separator :: rest) = [] :: part :: more := by
    rw [split, hrest]
    simp only [if_pos]
  rw [split_append hcs hsep, hrest, List.append_nil]

/-- Parts that hold no separator are found again behind one separator each. -/
theorem Text.split_terminated {separator : Char} {parts : List (List Char)}
    (h : ∀ part ∈ parts, separator ∉ part) :
    split separator (parts.flatMap (· ++ [separator])) = parts ++ [[]] := by
  induction parts with
  | nil => rfl
  | cons part rest ih =>
      rw [List.flatMap_cons, List.append_assoc, List.singleton_append,
        split_append_separator _ (h part (by simp)), ih fun x hx => h x (by simp [hx]),
        List.cons_append]

namespace Ldif

/-! ## Cutting octets -/

/-- Octets that are no line feeds go to the front of the first line, or of the
rest if there is no line. -/
theorem Source.cut_append {w b : Bytes} (hw : 10 ∉ w) :
    cut (w ++ b) =
      match cut b with
      | ([], tail) => ([], w ++ tail)
      | (first :: more, tail) => ((w ++ first) :: more, tail) := by
  induction w with
  | nil =>
      rw [List.nil_append]
      split <;> simp_all
  | cons x w ih =>
      have hx : x ≠ 10 := fun heq => hw (by simp [heq])
      rw [List.cons_append, cut, ih fun hmem => hw (by simp [hmem])]
      cases hcut : cut b with
      | mk lines tail => cases lines <;> simp [hx]

theorem Source.cut_newline (b : Bytes) : cut (10 :: b) = ([] :: (cut b).1, (cut b).2) := by
  rw [cut]
  rfl

/-- Cutting the octets of a text at line feeds is cutting the text. -/
theorem Source.cut_flatMap (cs : List Char) :
    cut (cs.flatMap String.utf8EncodeChar) =
      ((Text.split '\n' cs).dropLast.map (·.flatMap String.utf8EncodeChar),
        ((Text.split '\n' cs).getLast?.getD []).flatMap String.utf8EncodeChar) := by
  induction cs with
  | nil => rfl
  | cons c rest ih =>
      obtain ⟨part, more, hsplit⟩ := List.exists_cons_of_ne_nil (Text.split_ne_nil '\n' rest)
      rw [List.flatMap_cons]
      rw [hsplit] at ih
      by_cases hc : c = '\n'
      · subst hc
        have hcons : Text.split '\n' ('\n' :: rest) = [] :: part :: more := by
          rw [Text.split, hsplit]
          simp only [if_pos]
        rw [Text.utf8EncodeChar_newline, List.singleton_append, cut_newline, ih, hcons]
        simp [List.getLast?_cons]
      · have hcons : Text.split '\n' (c :: rest) = (c :: part) :: more := by
          rw [Text.split, hsplit]
          simp only [if_neg hc]
        rw [cut_append (Text.newline_notMem_utf8EncodeChar hc), ih, hcons]
        cases more with
        | nil => simp
        | cons next more => simp [List.getLast?_cons]

/-! ## What arrives of a text -/

theorem Source.arrival_flatMap (clean : List Char → List Char) (cs : List Char) :
    arrival clean (cs.flatMap String.utf8EncodeChar) = .line (clean cs) := by
  rw [arrival, Text.ofBytes?_flatMap]
  simp

/-- Of a text there arrive its physical lines and nothing else. -/
theorem Source.arrivals_bytes (text : String) :
    (Source.mk (Text.bytes text) none).arrivals = (physicalLines text.toList).map .line := by
  rw [arrivals, Text.bytes_eq_flatMap, cut_flatMap]
  simp only [physicalLines, lastArrivals, List.map_append, List.map_map, Function.comp_def,
    arrival_flatMap]
  congr 1
  cases (Text.split '\n' text.toList).getLast?.getD [] with
  | nil => rfl
  | cons c rest =>
      have hne : (List.flatMap String.utf8EncodeChar (c :: rest)).isEmpty = false := by simp
      simp only [hne, Bool.false_eq_true, ↓reduceIte]
      rfl

/-! ## Lines put together -/

/-- Lines that hold no line feed and do not end with a carriage return are found
again in the text that they make. -/
theorem physicalLines_terminated_of_getLast? {lines : List (List Char)}
    (hn : ∀ l ∈ lines, '\n' ∉ l) (hr : ∀ l ∈ lines, l.getLast? ≠ some '\r') :
    physicalLines (lines.flatMap (· ++ ['\n'])) = lines := by
  have hclean : lines.map (Source.dropReturn ∘ Source.dropReturn) = lines.map id := by
    refine List.map_congr_left fun l hl => ?_
    have hdrop : Source.dropReturn l = l := if_neg (hr l hl)
    rw [Function.comp_apply, hdrop, hdrop, id]
  simp only [physicalLines, Text.split_terminated hn]
  simp [hclean]

/-- Lines that hold no line end are found again in the text that they make. -/
theorem physicalLines_terminated {lines : List (List Char)} (hn : ∀ l ∈ lines, '\n' ∉ l)
    (hr : ∀ l ∈ lines, '\r' ∉ l) :
    physicalLines (lines.flatMap (· ++ ['\n'])) = lines :=
  physicalLines_terminated_of_getLast? hn fun l hl hlast => hr l hl (List.mem_of_getLast? hlast)

end Ldif

end DirectoryClient
