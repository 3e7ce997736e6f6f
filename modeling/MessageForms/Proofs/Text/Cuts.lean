import Mathlib.Data.List.DropRight
import MessageForms.Text

/-!
# Cuts of texts

Every way of taking a text apart is described by the text put together again: trimming by
the blanks it removes, a cut at a mark by the two sides of the mark, and the words by the
blanks between them.
-/

namespace MessageForms

namespace Text

/-- A run of blanks. -/
def IsBlank (text : Text) : Prop :=
  ∀ byte ∈ text, Byte.isBlank byte

/-- A run of bytes that are not blank. -/
def IsSolid (text : Text) : Prop :=
  ∀ byte ∈ text, Byte.isBlank byte = false

/-- A text of ASCII bytes. -/
def IsAscii (text : Text) : Prop :=
  ∀ byte ∈ text, Byte.isAscii byte

instance : DecidablePred IsBlank := fun text =>
  inferInstanceAs (Decidable (∀ byte ∈ text, Byte.isBlank byte))

instance : DecidablePred IsSolid := fun text =>
  inferInstanceAs (Decidable (∀ byte ∈ text, Byte.isBlank byte = false))

instance : DecidablePred IsAscii := fun text =>
  inferInstanceAs (Decidable (∀ byte ∈ text, Byte.isAscii byte))

@[simp] theorem isAscii_nil : IsAscii [] := nofun

@[simp] theorem isAscii_cons {byte : Byte} {text : Text} :
    IsAscii (byte :: text) ↔ Byte.isAscii byte ∧ text.IsAscii :=
  List.forall_mem_cons

@[simp] theorem isAscii_append {left right : Text} :
    IsAscii (left ++ right) ↔ left.IsAscii ∧ right.IsAscii :=
  List.forall_mem_append

/-- A text whose bytes are all found in an ASCII text is ASCII. -/
theorem IsAscii.of_subset {part text : Text} (ascii : text.IsAscii) (subset : part ⊆ text) :
    part.IsAscii :=
  fun byte member => ascii byte (subset member)

/-- There are six blanks. -/
theorem isBlank_iff_mem {byte : Byte} : Byte.isBlank byte ↔
    byte ∈ [Byte.space, Byte.tab, Byte.lineFeed, 0x0B, 0x0C, Byte.carriageReturn] := by
  simp only [Byte.isBlank, Byte.space, Byte.tab, Byte.lineFeed, Byte.carriageReturn,
    Bool.or_eq_true, beq_iff_eq, Bool.and_eq_true, decide_eq_true_eq, List.mem_cons,
    List.not_mem_nil, or_false]
  grind

/-- A blank is an ASCII byte. -/
theorem isAscii_of_isBlank {byte : Byte} (blank : Byte.isBlank byte) : Byte.isAscii byte := by
  have member := isBlank_iff_mem.mp blank
  simp only [List.mem_cons, List.not_mem_nil, or_false] at member
  rcases member with rfl | rfl | rfl | rfl | rfl | rfl <;> rfl

/-- Blanks are ASCII. -/
theorem IsBlank.isAscii {text : Text} (blank : text.IsBlank) : text.IsAscii :=
  fun byte member => isAscii_of_isBlank (blank byte member)

/-- The bytes of a trimmed beginning are bytes of the text. -/
theorem trimStart_isSuffix (text : Text) : text.trimStart <:+ text :=
  List.dropWhile_suffix _

/-- What is trimmed from the end follows what is left. -/
theorem trimEnd_isPrefix (text : Text) : text.trimEnd <+: text :=
  List.rdropWhile_prefix Byte.isBlank text

/-- What is trimmed from the beginning is blank. -/
theorem exists_trimStart (text : Text) :
    ∃ blanks, IsBlank blanks ∧ text = blanks ++ text.trimStart := by
  refine ⟨text.takeWhile Byte.isBlank, ?_, List.takeWhile_append_dropWhile.symm⟩
  intro byte member
  exact List.mem_takeWhile_imp member

/-- What is trimmed from the end is blank. -/
theorem exists_trimEnd (text : Text) :
    ∃ blanks, IsBlank blanks ∧ text = text.trimEnd ++ blanks := by
  refine ⟨text.rtakeWhile Byte.isBlank, ?_, ?_⟩
  · intro byte member
    exact List.mem_rtakeWhile_imp member
  · exact List.rdropWhile_append_rtakeWhile.symm

/-- A text lies between the blanks that trimming removes. -/
theorem exists_trim (text : Text) :
    ∃ leading trailing, IsBlank leading ∧ IsBlank trailing ∧
      text = leading ++ text.trim ++ trailing := by
  obtain ⟨leading, leadingBlank, atStart⟩ := exists_trimStart text
  obtain ⟨trailing, trailingBlank, atEnd⟩ := exists_trimEnd text.trimStart
  refine ⟨leading, trailing, leadingBlank, trailingBlank, ?_⟩
  rw [List.append_assoc, trim, ← atEnd]
  exact atStart

/-- Nothing is a run of blanks. -/
theorem isBlank_nil : IsBlank [] := nofun

/-- Blanks at the beginning do not matter to trimming there. -/
theorem trimStart_append {blanks : Text} (blank : IsBlank blanks) (text : Text) :
    trimStart (blanks ++ text) = trimStart text :=
  List.dropWhile_append_of_pos blank

/-- Blanks at the end do not matter to trimming there. -/
theorem trimEnd_append {blanks : Text} (blank : IsBlank blanks) (text : Text) :
    trimEnd (text ++ blanks) = trimEnd text := by
  have reversed : ∀ byte ∈ blanks.reverse, Byte.isBlank byte := fun byte member =>
    blank byte (List.mem_reverse.mp member)
  simp only [trimEnd, List.reverse_append, List.dropWhile_append_of_pos reversed]

/-- Blanks at either end do not matter to trimming. -/
theorem trim_append {leading trailing : Text} (leadingBlank : IsBlank leading)
    (trailingBlank : IsBlank trailing) (text : Text) :
    trim (leading ++ text ++ trailing) = trim text := by
  rw [trim, List.append_assoc, trimStart_append leadingBlank, trim]
  by_cases empty : trimStart text = []
  · have nothing : trimStart (text ++ trailing) = [] := by
      have allBlank := List.dropWhile_eq_nil_iff.mp empty
      exact List.dropWhile_eq_nil_iff.mpr (List.forall_mem_append.mpr ⟨allBlank, trailingBlank⟩)
    rw [empty, nothing]
  · have kept : trimStart (text ++ trailing) = trimStart text ++ trailing := by
      simp only [trimStart] at empty ⊢
      simp [List.dropWhile_append, empty]
    rw [kept, trimEnd_append trailingBlank]

/-- Trimming the beginning first makes no difference. -/
@[simp] theorem trim_trimStart (text : Text) : trim (trimStart text) = trim text := by
  obtain ⟨blanks, blank, whole⟩ := exists_trimStart text
  have same := trim_append blank isBlank_nil text.trimStart
  rw [List.append_nil, ← whole] at same
  exact same.symm

/-- Trimming the end first makes no difference. -/
@[simp] theorem trim_trimEnd (text : Text) : trim (trimEnd text) = trim text := by
  obtain ⟨blanks, blank, whole⟩ := exists_trimEnd text
  have same := trim_append isBlank_nil blank text.trimEnd
  rw [List.nil_append, ← whole] at same
  exact same.symm

/-- A trimmed text has nothing more to trim. -/
@[simp] theorem trim_trim (text : Text) : trim (trim text) = trim text := by
  calc
    trim (trim text) = trim (trimEnd (trimStart text)) := rfl
    _ = trim text := by rw [trim_trimEnd, trim_trimStart]

/-- A byte that is not blank stops the trimming at the end. -/
theorem trimEnd_append_cons {mark : Byte} (solid : Byte.isBlank mark = false)
    (before after : Text) :
    trimEnd (before ++ mark :: after) = before ++ mark :: trimEnd after := by
  simp only [trimEnd, List.reverse_append, List.reverse_cons, List.append_assoc,
    List.singleton_append, List.dropWhile_append, List.dropWhile_cons, solid]
  split
  next empty => simp [List.isEmpty_iff.mp empty]
  next => simp

/-- A byte that is not blank stops the trimming on both of its sides. -/
theorem trim_append_cons {mark : Byte} (solid : Byte.isBlank mark = false)
    (before after : Text) :
    trim (before ++ mark :: after) = trimStart before ++ mark :: trimEnd after := by
  have atStart : trimStart (before ++ mark :: after) = trimStart before ++ mark :: after := by
    simp only [trimStart, List.dropWhile_append, List.dropWhile_cons, solid]
    split
    next empty => simp [List.isEmpty_iff.mp empty]
    next => rfl
  rw [trim, atStart, trimEnd_append_cons solid]

/-- The bytes of a trimmed text are bytes of the text. -/
theorem mem_of_mem_trim {text : Text} {byte : Byte} (member : byte ∈ text.trim) :
    byte ∈ text :=
  (trimStart_isSuffix text).mem ((trimEnd_isPrefix text.trimStart).mem member)

/-- A byte that is not blank stays when a text is trimmed. -/
theorem mem_trim_iff {byte : Byte} (solid : Byte.isBlank byte = false) {text : Text} :
    byte ∈ text.trim ↔ byte ∈ text := by
  refine ⟨mem_of_mem_trim, fun member => ?_⟩
  obtain ⟨leading, trailing, leadingBlank, trailingBlank, whole⟩ := exists_trim text
  rw [whole, List.mem_append, List.mem_append] at member
  obtain (inLeading | inText) | inTrailing := member
  · exact absurd (leadingBlank byte inLeading) (by simp [solid])
  · exact inText
  · exact absurd (trailingBlank byte inTrailing) (by simp [solid])

/-- Nothing is left of a text exactly if it is blank. -/
theorem trim_eq_nil_iff {text : Text} : text.trim = [] ↔ text.IsBlank := by
  constructor
  · intro nothing byte member
    cases blank : Byte.isBlank byte with
    | true => rfl
    | false =>
      rw [← mem_trim_iff blank, nothing] at member
      cases member
  · intro blank
    have same := trim_append blank isBlank_nil []
    simpa [trim, trimStart, trimEnd] using same

/-- A trimmed part is what is left of it with blanks around it, and a mark that it lacks is not
among the blanks either. -/
theorem trimStart_padded {leading part trailing : Text} (leadingBlank : leading.IsBlank)
    (trailingBlank : trailing.IsBlank) (trimmed : part.trim = part) {mark : Byte}
    (solid : Byte.isBlank mark = false) (unmarked : mark ∉ part) :
    (trimStart (leading ++ part ++ trailing)).trim = part ∧
      mark ∉ trimStart (leading ++ part ++ trailing) := by
  have left : (trimStart (leading ++ part ++ trailing)).trim = part := by
    rw [trim_trimStart, trim_append leadingBlank trailingBlank, trimmed]
  refine ⟨left, ?_⟩
  rw [← mem_trim_iff solid, left]
  exact unmarked

/-- No mark stands before the first one. -/
theorem not_mem_before (mark : Byte) (text : Text) : mark ∉ before mark text := by
  intro member
  simpa using List.mem_takeWhile_imp member

/-- What has no mark in it lies before the mark. -/
theorem before_append_of_not_mem {mark : Byte} {left : Text} (unmarked : mark ∉ left)
    (right : Text) : before mark (left ++ right) = left ++ before mark right := by
  have kept : ∀ byte ∈ left, (byte != mark) = true := fun byte member =>
    bne_iff_ne.mpr fun same => unmarked (same ▸ member)
  exact List.takeWhile_append_of_pos kept

/-- A cut leaves the two sides of the first mark. -/
theorem before_append {mark : Byte} {left : Text} (unmarked : mark ∉ left) (right : Text) :
    before mark (left ++ mark :: right) = left := by
  rw [before_append_of_not_mem unmarked]
  simp [before]

/-- A text without the mark lies before it as a whole. -/
theorem before_of_not_mem {mark : Byte} {text : Text} (unmarked : mark ∉ text) :
    before mark text = text := by
  apply List.takeWhile_eq_self_iff.mpr
  intro byte member
  exact bne_iff_ne.mpr fun same => unmarked (same ▸ member)

/-- What stands before the mark ends there, or with the text. -/
theorem exists_before_append (mark : Byte) (text : Text) :
    ∃ rest, text = before mark text ++ rest ∧ (rest = [] ∨ rest.head? = some mark) := by
  refine ⟨text.dropWhile (· != mark), List.takeWhile_append_dropWhile.symm, ?_⟩
  cases dropped : text.dropWhile (· != mark) with
  | nil => exact .inl rfl
  | cons first rest =>
    have stopped := List.head_dropWhile_not (· != mark) (l := text) (by simp [dropped])
    exact .inr (by simpa [dropped] using stopped)

/-- A text without the mark is what stands before it, if the mark or nothing follows. -/
theorem before_append_of_ended {mark : Byte} {left rest : Text} (unmarked : mark ∉ left)
    (ended : rest = [] ∨ rest.head? = some mark) : before mark (left ++ rest) = left := by
  rcases ended with rfl | headed
  · rw [List.append_nil, before_of_not_mem unmarked]
  · obtain ⟨right, rfl⟩ := List.head?_eq_some_iff.mp headed
    exact before_append unmarked right

/-- What follows the first mark, if the two sides of it are known. -/
theorem after?_append {mark : Byte} {left : Text} (unmarked : mark ∉ left) (right : Text) :
    after? mark (left ++ mark :: right) = some right := by
  have dropped : ∀ byte ∈ left, (byte != mark) = true := fun byte member =>
    bne_iff_ne.mpr fun same => unmarked (same ▸ member)
  simp [after?, List.dropWhile_append_of_pos dropped]

/-- A cut at a mark is the text put together again. -/
theorem eq_of_after? {mark : Byte} {text rest : Text} (cut : after? mark text = some rest) :
    text = before mark text ++ mark :: rest := by
  have parts := List.takeWhile_append_dropWhile (p := (· != mark)) (l := text)
  unfold after? at cut
  cases dropped : text.dropWhile (· != mark) with
  | nil => simp [dropped] at cut
  | cons first remainder =>
    have isMark : first = mark := by
      have stopped := List.head_dropWhile_not (· != mark) (l := text) (by simp [dropped])
      simpa [dropped] using stopped
    rw [dropped] at cut parts
    obtain rfl : remainder = rest := by simpa using cut
    rw [isMark] at parts
    exact parts.symm

/-- There is no cut where there is no mark. -/
theorem after?_eq_none_iff {mark : Byte} {text : Text} :
    after? mark text = none ↔ mark ∉ text := by
  constructor
  · intro uncut member
    obtain ⟨left, right, parts, unmarked⟩ := List.eq_append_cons_of_mem member
    simp [parts, after?_append unmarked] at uncut
  · intro unmarked
    have dropped : text.dropWhile (· != mark) = [] :=
      List.dropWhile_eq_nil_iff.mpr fun byte member =>
        bne_iff_ne.mpr fun same => unmarked (same ▸ member)
    simp [after?, dropped]

/-- The rest of a text with a given beginning. -/
theorem following?_eq_some_iff {beginning text rest : Text} :
    following? beginning text = some rest ↔ text = beginning ++ rest := by
  induction beginning generalizing text with
  | nil => simp [following?]
  | cons expected beginning inductionHypothesis =>
    cases text with
    | nil => simp [following?]
    | cons byte text =>
      simp only [following?, List.cons_append, List.cons.injEq]
      by_cases same : expected = byte
      · simp [same, inductionHypothesis]
      · simp [same, Ne.symm same]

/-- Splitting cuts at the first separator and goes on behind it. -/
theorem split_eq (separator : Byte) (text : Text) :
    split separator text =
      before separator text :: (after? separator text).elim [] (split separator) := by
  induction text with
  | nil => rfl
  | cons byte text inductionHypothesis =>
    by_cases same : byte = separator
    · subst same
      simp [split, firstPart, before, after?]
    · have parts := List.cons.inj inductionHypothesis
      simp [split, firstPart, before, after?, same, bne_iff_ne] at parts ⊢
      exact parts

/-- A part of a split text has no separator in it. -/
theorem not_mem_of_mem_split {separator : Byte} {text part : Text}
    (member : part ∈ split separator text) : separator ∉ part := by
  induction text generalizing part with
  | nil => simp_all [split, firstPart]
  | cons byte text inductionHypothesis =>
    simp only [split, firstPart] at member inductionHypothesis
    split at member
    next same =>
      rcases List.mem_cons.mp member with rfl | later
      · simp
      · exact inductionHypothesis later
    next different =>
      rcases List.mem_cons.mp member with rfl | later
      · have earlier := inductionHypothesis List.mem_cons_self
        simp [Ne.symm different, earlier]
      · exact inductionHypothesis (List.mem_cons_of_mem _ later)

/-- The words are the first one, unless it is empty, and the later ones. -/
theorem mem_words {text word : Text} :
    word ∈ words text ↔ (word = (firstWord text).1 ∧ word ≠ []) ∨ word ∈ (firstWord text).2 := by
  have unfolded : words text =
      if (firstWord text).1 = [] then (firstWord text).2
      else (firstWord text).1 :: (firstWord text).2 := rfl
  rw [unfolded]
  split
  next empty => grind
  next nonempty => grind

/-- A blank ends a word. -/
theorem firstWord_cons_of_blank {byte : Byte} (blank : Byte.isBlank byte) (text : Text) :
    firstWord (byte :: text) = ([], words text) := by
  simp [firstWord, words, blank]

/-- A blank before a text adds no word to it. -/
theorem words_cons_of_blank {byte : Byte} (blank : Byte.isBlank byte) (text : Text) :
    words (byte :: text) = words text := by
  rw [words, firstWord_cons_of_blank blank]
  rfl

/-- Blanks before a text add no word to it. -/
theorem words_append_of_blank {blanks : Text} (blank : IsBlank blanks) (text : Text) :
    words (blanks ++ text) = words text := by
  induction blanks with
  | nil => rfl
  | cons byte blanks inductionHypothesis =>
    rw [List.cons_append, words_cons_of_blank (blank byte List.mem_cons_self)]
    exact inductionHypothesis fun other member => blank other (List.mem_cons_of_mem _ member)

/-- What stands before the next blank belongs to the first word. -/
theorem firstWord_append {solid : Text} (isSolid : IsSolid solid) (text : Text) :
    firstWord (solid ++ text) = (solid ++ (firstWord text).1, (firstWord text).2) := by
  induction solid with
  | nil => rfl
  | cons byte solid inductionHypothesis =>
    have rest := inductionHypothesis fun other member =>
      isSolid other (List.mem_cons_of_mem _ member)
    simp [firstWord, rest, isSolid byte List.mem_cons_self]

/-- Blanks at the end begin no word. -/
theorem firstWord_append_of_blank {blanks : Text} (blank : IsBlank blanks) (text : Text) :
    firstWord (text ++ blanks) = firstWord text := by
  induction text with
  | nil =>
    cases blanks with
    | nil => rfl
    | cons byte blanks =>
      have later : words (blanks ++ []) = words [] := words_append_of_blank
        (fun other member => blank other (List.mem_cons_of_mem _ member)) []
      rw [List.append_nil] at later
      rw [List.nil_append, firstWord_cons_of_blank (blank byte List.mem_cons_self), later]
      rfl
  | cons byte text inductionHypothesis =>
    simp [firstWord, inductionHypothesis]

/-- Blanks after a text add no word to it. -/
theorem words_append_of_blank_end {blanks : Text} (blank : IsBlank blanks) (text : Text) :
    words (text ++ blanks) = words text := by
  rw [words, words, firstWord_append_of_blank blank]

/-- Trimming the end takes no word away. -/
theorem words_trimEnd (text : Text) : words text.trimEnd = words text := by
  obtain ⟨blanks, blank, whole⟩ := exists_trimEnd text
  have same := words_append_of_blank_end blank text.trimEnd
  rw [← whole] at same
  exact same.symm

/-- A word that ends where no other goes on is the first of the words. -/
theorem words_append_of_ended {word rest : Text} {later : List Text} (isSolid : IsSolid word)
    (nonempty : word ≠ []) (ended : firstWord rest = ([], later)) :
    words (word ++ rest) = word :: later := by
  rw [words, firstWord_append isSolid, ended]
  simp [nonempty]

/-- Words with the blanks before each of them, one after the other. -/
def spread (words : List (Text × Text)) : Text :=
  words.flatMap fun word => word.1 ++ word.2

/-- Words that are kept apart: there is a blank before each, and none in it. -/
def AreApart (words : List (Text × Text)) : Prop :=
  ∀ word ∈ words, word.1.IsBlank ∧ word.1 ≠ [] ∧ word.2.IsSolid ∧ word.2 ≠ []

instance : DecidablePred AreApart := fun words =>
  inferInstanceAs (Decidable (∀ word ∈ words,
    word.1.IsBlank ∧ word.1 ≠ [] ∧ word.2.IsSolid ∧ word.2 ≠ []))

/-- Words that are kept apart are read one by one, and a text before them ends at the blanks. -/
theorem firstWord_spread {words : List (Text × Text)} (apart : AreApart words) :
    firstWord (spread words) = ([], words.map Prod.snd) := by
  induction words with
  | nil => rfl
  | cons word words inductionHypothesis =>
    obtain ⟨⟨blank, nonempty, solid, something⟩, tail⟩ := List.forall_mem_cons.mp apart
    obtain ⟨byte, blanks, isBlanks⟩ := List.exists_cons_of_ne_nil nonempty
    rw [isBlanks] at blank
    obtain ⟨byteBlank, restBlank⟩ := List.forall_mem_cons.mp blank
    have later := words_append_of_ended solid something (inductionHypothesis tail)
    calc
      firstWord (spread (word :: words))
        = firstWord (byte :: (blanks ++ (word.2 ++ spread words))) := by
          simp [spread, isBlanks]
      _ = ([], Text.words (blanks ++ (word.2 ++ spread words))) :=
          firstWord_cons_of_blank byteBlank _
      _ = ([], (word :: words).map Prod.snd) := by
          rw [words_append_of_blank restBlank, later]
          rfl

/-- The words of a text of words that are kept apart. -/
theorem words_spread {words : List (Text × Text)} (apart : AreApart words) :
    Text.words (spread words) = words.map Prod.snd := by
  rw [Text.words, firstWord_spread apart]
  rfl

/-- A word before words that are kept apart comes first. -/
theorem words_append_spread {word : Text} (solid : word.IsSolid) (nonempty : word ≠ [])
    {words : List (Text × Text)} (apart : AreApart words) :
    Text.words (word ++ spread words) = word :: words.map Prod.snd :=
  words_append_of_ended solid nonempty (firstWord_spread apart)

/-- The words of a text have something in them, and no blanks. -/
theorem solid_of_firstWord (text : Text) :
    IsSolid (firstWord text).1 ∧ ∀ word ∈ (firstWord text).2, IsSolid word ∧ word ≠ [] := by
  induction text with
  | nil => simp [firstWord, IsSolid]
  | cons byte text inductionHypothesis =>
    obtain ⟨first, later⟩ := inductionHypothesis
    by_cases blank : Byte.isBlank byte
    · rw [firstWord_cons_of_blank blank]
      refine ⟨by simp [IsSolid], ?_⟩
      intro word member
      rcases mem_words.mp member with ⟨rfl, nonempty⟩ | inRest
      · exact ⟨first, nonempty⟩
      · exact later word inRest
    · simp only [firstWord, blank, Bool.false_eq_true, if_false]
      refine ⟨?_, later⟩
      intro other member
      rcases List.mem_cons.mp member with rfl | inRest
      · simpa using blank
      · exact first other inRest

/-- A word has something in it, and no blanks. -/
theorem solid_of_mem_words {text word : Text} (member : word ∈ words text) :
    IsSolid word ∧ word ≠ [] := by
  obtain ⟨first, later⟩ := solid_of_firstWord text
  rcases mem_words.mp member with ⟨rfl, nonempty⟩ | inRest
  · exact ⟨first, nonempty⟩
  · exact later word inRest

end Text

end MessageForms
