import MessageForms.Proofs.Text.Cuts

/-!
# Parts of texts

A text has exactly one list of parts between its separators: the only list of texts without the
separator that gives the text back when it is put between them. Splitting finds this list. A text
also has exactly one core: a text that neither begins nor ends with a blank, with blanks around it.
Trimming leaves this core.
-/

namespace MessageForms

namespace Text

/-- The parts of a text between its separators. -/
structure IsParted (separator : Byte) (text : Text) (parts : List Text) : Prop where
  nonempty : parts ≠ []
  unseparated : ∀ part ∈ parts, separator ∉ part
  whole : List.intercalate [separator] parts = text

/-- A text that neither begins nor ends with a blank. -/
structure IsTrimmed (text : Text) : Prop where
  first : ∀ byte, text.head? = some byte → Byte.isBlank byte = false
  last : ∀ byte, text.getLast? = some byte → Byte.isBlank byte = false

/-- What a text has between the blanks at its ends. -/
structure IsCore (text core : Text) : Prop where
  trimmed : core.IsTrimmed
  padded : ∃ leading trailing, IsBlank leading ∧ IsBlank trailing ∧
    text = leading ++ core ++ trailing

/-- A separator at the beginning of a text has an empty part before it, and every other byte is the
first one of the first part. -/
theorem split_cons (separator byte : Byte) (text : Text) :
    split separator (byte :: text) =
      if byte = separator then [] :: split separator text
      else (split separator text).modifyHead (List.cons byte) := by
  simp only [split, firstPart]
  split <;> rfl

/-- Splitting at a separator is what it is for lists in general. -/
theorem split_eq_splitOn (separator : Byte) (text : Text) :
    split separator text = text.splitOn separator := by
  induction text with
  | nil => rfl
  | cons byte text inductionHypothesis =>
    rw [split_cons, inductionHypothesis, List.splitOn, List.splitOn,
      List.splitOnP_cons_eq_if_modifyHead]
    by_cases same : byte = separator
    · simp [same]
    · simp [same]

/-- Splitting finds the parts of a text, and there are no others. -/
theorem isParted_iff {separator : Byte} {text : Text} {parts : List Text} :
    IsParted separator text parts ↔ split separator text = parts := by
  rw [split_eq_splitOn]
  constructor
  · rintro ⟨nonempty, unseparated, rfl⟩
    exact List.splitOn_intercalate separator unseparated nonempty
  · rintro rfl
    refine ⟨List.splitOn_ne_nil separator text, ?_, List.intercalate_splitOn separator⟩
    intro part member
    rw [← split_eq_splitOn] at member
    exact not_mem_of_mem_split member

/-- A text without the separator is its only part. -/
theorem split_of_not_mem {separator : Byte} {text : Text} (unseparated : separator ∉ text) :
    split separator text = [text] := by
  refine isParted_iff.mp ⟨List.cons_ne_nil _ _, ?_, List.intercalate_singleton⟩
  exact List.forall_mem_singleton.mpr unseparated

/-- There is one more part than there are separators. -/
theorem length_split (separator : Byte) (text : Text) :
    (split separator text).length = text.count separator + 1 := by
  induction text with
  | nil => rfl
  | cons byte text inductionHypothesis =>
    rw [split_cons]
    by_cases same : byte = separator
    · simp [same, inductionHypothesis]
    · simp [same, inductionHypothesis]

/-- The parts of two texts with a separator between them are those of both. -/
theorem split_append_cons (separator : Byte) (left right : Text) :
    split separator (left ++ separator :: right) =
      split separator left ++ split separator right := by
  simp only [split_eq_splitOn]
  exact List.splitOn_append_cons_self left right

/-- What is left of a text does not begin with a byte of the kind removed at its beginning. -/
theorem head?_dropWhile_eq_some {kind : Byte → Bool} {text : Text} {byte : Byte}
    (first : (text.dropWhile kind).head? = some byte) : kind byte = false := by
  have stopped := List.head?_dropWhile_not kind text
  rw [first] at stopped
  exact stopped

/-- What is left of a text does not end with a byte of the kind removed at its end. -/
theorem getLast?_rdropWhile_eq_some {kind : Byte → Bool} {text : Text} {byte : Byte}
    (last : (text.rdropWhile kind).getLast? = some byte) : kind byte = false := by
  rw [List.rdropWhile, List.getLast?_reverse] at last
  exact head?_dropWhile_eq_some last

/-- The end of a text may be removed as well, and what is left begins the same. -/
theorem head?_rdropWhile_eq_some {kind : Byte → Bool} {text : Text} {byte : Byte}
    (first : (text.rdropWhile kind).head? = some byte) : text.head? = some byte := by
  obtain ⟨behind, whole⟩ := List.rdropWhile_prefix kind text
  obtain ⟨rest, left⟩ := List.head?_eq_some_iff.mp first
  rw [← whole, left]
  rfl

/-- What is left of a text when it is trimmed neither begins nor ends with a blank. -/
theorem isTrimmed_trim (text : Text) : IsTrimmed text.trim where
  first _ first := head?_dropWhile_eq_some (head?_rdropWhile_eq_some first)
  last _ last := getLast?_rdropWhile_eq_some last

/-- A text is without blanks if a pass over it finds none. -/
theorem isSolid_of_all {text : Text} (found : text.all (!Byte.isBlank ·)) : IsSolid text := by
  simpa [IsSolid] using found

/-- Nothing is trimmed from the beginning of a text that does not begin with a blank. -/
theorem IsTrimmed.trimStart_eq {text : Text} (isTrimmed : IsTrimmed text) :
    text.trimStart = text := by
  refine List.dropWhile_eq_self_iff.mpr fun nonempty => ?_
  have first : text.head? = some text[0] := by
    rw [List.head?_eq_getElem?, List.getElem?_eq_getElem nonempty]
  simpa using isTrimmed.first _ first

/-- Nothing is trimmed from the end of a text that does not end with a blank. -/
theorem IsTrimmed.trimEnd_eq {text : Text} (isTrimmed : IsTrimmed text) : text.trimEnd = text := by
  refine List.rdropWhile_eq_self_iff.mpr fun nonempty => ?_
  simpa using isTrimmed.last _ (List.getLast?_eq_some_getLast nonempty)

/-- Nothing is trimmed from a text that neither begins nor ends with a blank. -/
theorem IsTrimmed.trim_eq {text : Text} (isTrimmed : IsTrimmed text) : text.trim = text := by
  rw [trim, isTrimmed.trimStart_eq, isTrimmed.trimEnd_eq]

/-- Nothing more is trimmed from the beginning of a trimmed text. -/
theorem trimStart_trim (text : Text) : text.trim.trimStart = text.trim :=
  (isTrimmed_trim text).trimStart_eq

/-- A text has one core, and trimming leaves it. -/
theorem isCore_iff {text core : Text} : IsCore text core ↔ text.trim = core := by
  constructor
  · rintro ⟨trimmed, leading, trailing, leadingBlank, trailingBlank, rfl⟩
    rw [trim_append leadingBlank trailingBlank, trimmed.trim_eq]
  · rintro rfl
    exact ⟨isTrimmed_trim text, exists_trim text⟩

/-- A text without blanks neither begins nor ends with one. -/
theorem IsSolid.isTrimmed {text : Text} (isSolid : IsSolid text) : IsTrimmed text where
  first _ first := isSolid _ (List.mem_of_head? first)
  last _ last := isSolid _ (List.mem_of_getLast? last)

/-- Nothing is trimmed from a text without blanks. -/
theorem IsSolid.trim_eq {text : Text} (isSolid : IsSolid text) : text.trim = text :=
  isSolid.isTrimmed.trim_eq

end Text

end MessageForms
