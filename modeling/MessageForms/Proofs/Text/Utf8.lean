import MessageForms.Proofs.Text.Cuts
import MessageForms.Text.Utf8

/-!
# Cuts of well-formed texts

An ASCII byte can only stand between two characters. A well-formed text may therefore be
cut at such a byte, and every notation of this library cuts nowhere else.
-/

namespace MessageForms

namespace Utf8

namespace Position

/-- The places that the machine reaches: the continuation bytes it waits for are not ASCII. -/
def Sound : Position → Prop
  | boundary => True
  | inside low _ _ => 0x80 ≤ low

/-- A boundary is a sound place. -/
theorem sound_boundary : boundary.Sound := trivial

/-- A first byte leads to a sound place. -/
theorem sound_ofLead {byte : Byte} {next : Position} (step : ofLead byte = some next) :
    next.Sound := by
  unfold ofLead at step
  split_ifs at step <;> cases step <;> simp [Sound]

/-- Every further byte leads to a sound place. -/
theorem sound_step {position next : Position} {byte : Byte}
    (step : position.step byte = some next) : next.Sound := by
  cases position with
  | boundary => exact sound_ofLead step
  | inside low high more =>
    simp only [Position.step] at step
    split_ifs at step
    cases more <;> cases step <;> simp [Sound]

/-- An ASCII byte stands between two characters. -/
theorem step_ascii {position next : Position} {byte : Byte} (sound : position.Sound)
    (ascii : Byte.isAscii byte) (step : position.step byte = some next) :
    position = boundary ∧ next = boundary := by
  have small : byte < 0x80 := by simpa [Byte.isAscii] using ascii
  cases position with
  | boundary =>
    simp only [Position.step, ofLead, small, if_true, Option.some.injEq] at step
    exact ⟨rfl, step.symm⟩
  | inside low high more =>
    have large : (0x80 : Byte) ≤ low := sound
    have below : ¬ low ≤ byte := by grind
    simp [Position.step, below] at step

@[simp] theorem run_nil (position : Position) : position.run [] = some position := rfl

@[simp] theorem run_cons (position : Position) (byte : Byte) (text : Text) :
    position.run (byte :: text) = (position.step byte).bind fun next => next.run text := rfl

/-- Two texts are run one after the other. -/
theorem run_append (position : Position) (left right : Text) :
    position.run (left ++ right) = (position.run left).bind fun next => next.run right := by
  simp [run, List.foldlM_append]

/-- Every text leads from a sound place to a sound place. -/
theorem sound_run {position next : Position} {text : Text} (sound : position.Sound)
    (run : position.run text = some next) : next.Sound := by
  induction text generalizing position with
  | nil =>
    cases run
    exact sound
  | cons byte text inductionHypothesis =>
    obtain ⟨middle, step, rest⟩ := Option.bind_eq_some_iff.mp run
    exact inductionHypothesis (sound_step step) rest

/-- A text of ASCII bytes begins and ends between characters. -/
theorem run_ascii {text : Text} (ascii : text.IsAscii) :
    boundary.run text = some boundary := by
  induction text with
  | nil => rfl
  | cons byte text inductionHypothesis =>
    have small : byte < 0x80 := by
      simpa [Byte.isAscii] using ascii byte List.mem_cons_self
    have rest := inductionHypothesis fun other member => ascii other (List.mem_cons_of_mem _ member)
    simp [Position.step, ofLead, small, rest]

/-- A text that begins with an ASCII byte and holds no others begins and ends between characters,
wherever it stands. -/
theorem eq_boundary_of_run_ascii {position next : Position} {byte : Byte} {text : Text}
    (sound : position.Sound) (ascii : Text.IsAscii (byte :: text))
    (run : position.run (byte :: text) = some next) : position = boundary ∧ next = boundary := by
  obtain ⟨isFirst, areOthers⟩ := Text.isAscii_cons.mp ascii
  rw [run_cons] at run
  obtain ⟨middle, step, rest⟩ := Option.bind_eq_some_iff.mp run
  obtain ⟨rfl, rfl⟩ := step_ascii sound isFirst step
  rw [run_ascii areOthers] at rest
  exact ⟨rfl, (Option.some.inj rest).symm⟩

end Position

open Position

/-- A well-formed text leads from one boundary to another. -/
theorem isValid_iff {text : Text} : isValid text ↔ boundary.run text = some boundary := by
  simp [isValid]

@[simp] theorem isValid_nil : isValid [] := rfl

/-- A text of ASCII bytes is well-formed. -/
theorem isValid_of_ascii {text : Text} (ascii : text.IsAscii) :
    isValid text :=
  isValid_iff.mpr (run_ascii ascii)

/-- Behind a well-formed text another one may begin. -/
theorem isValid_append_iff {left : Text} (valid : isValid left) (right : Text) :
    isValid (left ++ right) ↔ isValid right := by
  rw [isValid_iff, run_append, isValid_iff.mp valid, isValid_iff]
  rfl

/-- Well-formed texts may be put together. -/
theorem isValid_append {left right : Text} (leftValid : isValid left)
    (rightValid : isValid right) : isValid (left ++ right) :=
  (isValid_append_iff leftValid right).mpr rightValid

/-- Well-formed parts make a well-formed whole. -/
theorem isValid_flatMap {α : Type} {items : List α} {part : α → Text}
    (valid : ∀ item ∈ items, isValid (part item)) : isValid (items.flatMap part) := by
  induction items with
  | nil => rfl
  | cons item items inductionHypothesis =>
    rw [List.flatMap_cons]
    exact isValid_append (valid item List.mem_cons_self)
      (inductionHypothesis fun other member => valid other (List.mem_cons_of_mem _ member))

/-- A well-formed text may be cut on either side of an ASCII byte. -/
theorem isValid_append_cons_iff {byte : Byte} (ascii : Byte.isAscii byte) (left right : Text) :
    isValid (left ++ byte :: right) ↔ isValid left ∧ isValid right := by
  constructor
  · intro valid
    rw [isValid_iff, run_append] at valid
    obtain ⟨middle, runLeft, runRest⟩ := Option.bind_eq_some_iff.mp valid
    obtain ⟨next, step, runRight⟩ := Option.bind_eq_some_iff.mp runRest
    have sound : middle.Sound := sound_run sound_boundary runLeft
    obtain ⟨rfl, rfl⟩ := step_ascii sound ascii step
    exact ⟨isValid_iff.mpr runLeft, isValid_iff.mpr runRight⟩
  · rintro ⟨leftValid, rightValid⟩
    have single : isValid [byte] := isValid_of_ascii (by simpa using ascii)
    exact isValid_append leftValid (isValid_append single rightValid)

/-- An ASCII byte may stand before a well-formed text. -/
theorem isValid_cons_iff {byte : Byte} (ascii : Byte.isAscii byte) (text : Text) :
    isValid (byte :: text) ↔ isValid text := by
  simpa using isValid_append_cons_iff ascii [] text

/-- ASCII bytes may be taken away from the end. -/
theorem isValid_of_append_ascii {left right : Text} (ascii : right.IsAscii)
    (valid : isValid (left ++ right)) : isValid left := by
  cases right with
  | nil => simpa using valid
  | cons byte right =>
    exact ((isValid_append_cons_iff (ascii byte List.mem_cons_self) left right).mp valid).1

/-- ASCII bytes may be taken away from the beginning. -/
theorem isValid_of_ascii_append {left right : Text} (ascii : left.IsAscii)
    (valid : isValid (left ++ right)) : isValid right :=
  (isValid_append_iff (isValid_of_ascii ascii) right).mp valid

/-- A well-formed text is its own repair. -/
theorem repairFrom_of_run {position : Position} {held text : Text}
    (run : position.run text = some boundary) (fresh : position = boundary → held = []) :
    repairFrom position held text = held ++ text := by
  induction text generalizing position held with
  | nil =>
    cases run
    simp [repairFrom, fresh rfl]
  | cons byte text inductionHypothesis =>
    obtain ⟨next, step, rest⟩ := Option.bind_eq_some_iff.mp run
    cases next with
    | boundary =>
      have tail := @inductionHypothesis .boundary [] rest fun _ => rfl
      simp [repairFrom, step, tail]
    | inside low high more =>
      have tail := @inductionHypothesis (.inside low high more) (held ++ [byte]) rest nofun
      simp [repairFrom, step, tail]

/-- A well-formed text is its own repair. -/
theorem repair_of_isValid {text : Text} (valid : isValid text) : repair text = text :=
  repairFrom_of_run (isValid_iff.mp valid) fun _ => rfl

/-- A first byte, by its number. -/
theorem ofLead_ofNat {value : Nat} (bound : value < 0x100) :
    ofLead (UInt8.ofNat value) =
      if value < 0x80 then some boundary
      else if 0xC2 ≤ value ∧ value ≤ 0xDF then some (inside 0x80 0xBF 0)
      else if value = 0xE0 then some (inside 0xA0 0xBF 1)
      else if value = 0xED then some (inside 0x80 0x9F 1)
      else if 0xE1 ≤ value ∧ value ≤ 0xEF then some (inside 0x80 0xBF 1)
      else if value = 0xF0 then some (inside 0x90 0xBF 2)
      else if value = 0xF4 then some (inside 0x80 0x8F 2)
      else if 0xF1 ≤ value ∧ value ≤ 0xF3 then some (inside 0x80 0xBF 2)
      else none := by
  have number : (UInt8.ofNat value).toNat = value := UInt8.toNat_ofNat_of_lt' bound
  simp only [ofLead, UInt8.lt_iff_toNat_lt, UInt8.le_iff_toNat_le, ← UInt8.toNat_inj, number]
  rfl

/-- A continuation byte, by its number. -/
theorem step_inside_ofNat {low high : Byte} (more value : Nat) (bound : value < 0x100)
    (within : low.toNat ≤ value ∧ value ≤ high.toNat) :
    (inside low high more).step (UInt8.ofNat value) =
      match more with
      | 0 => some boundary
      | more + 1 => some (inside 0x80 0xBF more) := by
  have number : (UInt8.ofNat value).toNat = value := UInt8.toNat_ofNat_of_lt' bound
  have allowed : low ≤ UInt8.ofNat value ∧ UInt8.ofNat value ≤ high := by
    rwa [UInt8.le_iff_toNat_le, UInt8.le_iff_toNat_le, number]
  cases more <;> simp [Position.step, allowed]

/-- A continuation byte made of the low six bits of a number may stand wherever any may. -/
theorem step_continuation (more value : Nat) :
    (inside 0x80 0xBF more).step (UInt8.ofNat (0x80 + value % 0x40)) =
      match more with
      | 0 => some boundary
      | more + 1 => some (inside 0x80 0xBF more) :=
  step_inside_ofNat more _ (by omega) (by simp; omega)

/-- The bytes of a code point that is no surrogate are one well-formed character. -/
theorem isValid_encode {codePoint : Nat} (bound : codePoint < 0x110000)
    (scalar : codePoint < 0xD800 ∨ 0xE000 ≤ codePoint) : isValid (encode codePoint) := by
  rw [isValid_iff]
  unfold encode
  split_ifs with one two three
  · simp [Position.step, ofLead_ofNat (by omega : codePoint < 0x100), one]
  · have lead : boundary.step (UInt8.ofNat (0xC0 + codePoint / 0x40)) =
        some (inside 0x80 0xBF 0) := by
      rw [Position.step, ofLead_ofNat (by omega), if_neg (by omega), if_pos (by omega)]
    have last := step_continuation 0 codePoint
    simp only [run_cons, run_nil, lead, last, Option.bind_some]
  · obtain ⟨low, high, lead, within⟩ : ∃ low high,
        boundary.step (UInt8.ofNat (0xE0 + codePoint / 0x1000)) = some (inside low high 1) ∧
          low.toNat ≤ 0x80 + codePoint / 0x40 % 0x40 ∧
          0x80 + codePoint / 0x40 % 0x40 ≤ high.toNat := by
      rw [Position.step, ofLead_ofNat (by omega)]
      split_ifs <;> first | omega | exact ⟨_, _, rfl, by simp; omega⟩
    have second := step_inside_ofNat 1 _ (by omega) within
    have last := step_continuation 0 codePoint
    simp only [run_cons, run_nil, lead, second, last, Option.bind_some]
  · obtain ⟨low, high, lead, within⟩ : ∃ low high,
        boundary.step (UInt8.ofNat (0xF0 + codePoint / 0x40000)) = some (inside low high 2) ∧
          low.toNat ≤ 0x80 + codePoint / 0x1000 % 0x40 ∧
          0x80 + codePoint / 0x1000 % 0x40 ≤ high.toNat := by
      rw [Position.step, ofLead_ofNat (by omega)]
      split_ifs <;> first | omega | exact ⟨_, _, rfl, by simp; omega⟩
    have second := step_inside_ofNat 2 _ (by omega) within
    have third := step_continuation 1 (codePoint / 0x40)
    have last := step_continuation 0 codePoint
    simp only [run_cons, run_nil, lead, second, third, last, Option.bind_some]

/-- A character of a string is encoded by the bytes of its code point. -/
theorem utf8EncodeChar_eq_encode (character : Char) :
    String.utf8EncodeChar character = encode character.toNat := by
  have bound : character.toNat < 0x110000 := by
    rcases character.valid with low | ⟨-, high⟩
    · exact Nat.lt_trans low (by decide)
    · exact high
  have same : character.val.toNat = character.toNat := rfl
  simp only [String.utf8EncodeChar, encode, same]
  generalize character.toNat = value at bound
  -- Both divide at the same numbers; what the first byte holds is small enough not to be cut off.
  split_ifs
  all_goals first | omega | simp (disch := omega) only [Nat.mod_eq_of_lt, Nat.add_comm]

/-- The bytes of a string are well-formed. -/
theorem isValid_ofString (string : String) : isValid (Text.ofString string) := by
  refine isValid_flatMap fun character _ => ?_
  rw [utf8EncodeChar_eq_encode]
  rcases character.valid with low | ⟨above, high⟩
  · exact isValid_encode (Nat.lt_trans low (by decide)) (.inl low)
  · exact isValid_encode high (.inr above)

/-- A well-formed text may be put between strings. -/
theorem isValid_between (opening closing : String) {text : Text} (valid : isValid text) :
    isValid (Text.ofString opening ++ text ++ Text.ofString closing) :=
  isValid_append (isValid_append (isValid_ofString _) valid) (isValid_ofString _)

/-- Trimming keeps a text well-formed. -/
theorem isValid_trim {text : Text} (valid : isValid text) : isValid text.trim := by
  obtain ⟨leading, trailing, leadingBlank, trailingBlank, whole⟩ := Text.exists_trim text
  rw [whole] at valid
  exact isValid_of_ascii_append leadingBlank.isAscii
    (isValid_of_append_ascii trailingBlank.isAscii valid)

section Cut

variable {mark : Byte} (ascii : Byte.isAscii mark)
include ascii

/-- The two sides of an ASCII mark are well-formed. -/
theorem isValid_of_after? {text rest : Text} (cut : Text.after? mark text = some rest)
    (valid : isValid text) : isValid (Text.before mark text) ∧ isValid rest := by
  rw [Text.eq_of_after? cut] at valid
  exact (isValid_append_cons_iff ascii _ _).mp valid

/-- What stands before an ASCII mark is well-formed. -/
theorem isValid_before {text : Text} (valid : isValid text) :
    isValid (Text.before mark text) := by
  cases cut : Text.after? mark text with
  | none =>
    rw [Text.before_of_not_mem (Text.after?_eq_none_iff.mp cut)]
    exact valid
  | some rest => exact (isValid_of_after? ascii cut valid).1

/-- The parts of a well-formed text between ASCII separators are well-formed. -/
theorem isValid_of_mem_split {text part : Text} (valid : isValid text)
    (member : part ∈ Text.split mark text) : isValid part := by
  -- Splitting goes on behind the first separator, so the induction is on the length.
  induction measured : text.length using Nat.strongRecOn generalizing text with
  | ind length inductionHypothesis =>
    subst measured
    rw [Text.split_eq] at member
    rcases List.mem_cons.mp member with rfl | later
    · exact isValid_before ascii valid
    · cases cut : Text.after? mark text with
      | none =>
        rw [cut] at later
        cases later
      | some rest =>
        rw [cut] at later
        have shorter : rest.length < text.length := by
          rw [Text.eq_of_after? cut, List.length_append, List.length_cons]
          omega
        exact inductionHypothesis _ shorter (isValid_of_after? ascii cut valid).2 later rfl

end Cut

/-- What is seen of a well-formed text through a terminated boundary is well-formed. -/
theorem isValid_untilNul {text : Text} (valid : isValid text) : isValid text.untilNul := by
  have ascii : Byte.isAscii Byte.nul := rfl
  exact isValid_before ascii valid

/-- A well-formed text is well-formed without the line ends behind it. -/
theorem isValid_withoutLineEnd {text : Text} (valid : isValid text) :
    isValid text.withoutLineEnd := by
  have ascii : Text.IsAscii (text.rtakeWhile fun byte =>
      byte == Byte.lineFeed || byte == Byte.carriageReturn) := by
    intro byte member
    have isEnd := List.mem_rtakeWhile_imp member
    simp only [Bool.or_eq_true, beq_iff_eq] at isEnd
    rcases isEnd with rfl | rfl <;> rfl
  have whole : text.withoutLineEnd ++ text.rtakeWhile (fun byte =>
      byte == Byte.lineFeed || byte == Byte.carriageReturn) = text :=
    List.rdropWhile_append_rtakeWhile
  rw [← whole] at valid
  exact isValid_of_append_ascii ascii valid

/-- A word that begins inside a character ends it, and later words are well-formed. -/
theorem isValid_of_firstWord {position : Position} (sound : position.Sound) {text : Text}
    (run : position.run text = some boundary) :
    position.run text.firstWord.1 = some boundary ∧ ∀ word ∈ text.firstWord.2, isValid word := by
  induction text generalizing position with
  | nil => exact ⟨run, by simp [Text.firstWord]⟩
  | cons byte text inductionHypothesis =>
    obtain ⟨next, step, rest⟩ := Option.bind_eq_some_iff.mp run
    obtain ⟨first, later⟩ := inductionHypothesis (sound_step step) rest
    by_cases blank : Byte.isBlank byte
    · obtain ⟨rfl, rfl⟩ := step_ascii sound (Text.isAscii_of_isBlank blank) step
      rw [Text.firstWord_cons_of_blank blank]
      refine ⟨rfl, ?_⟩
      intro word member
      rcases Text.mem_words.mp member with ⟨rfl, -⟩ | inRest
      · exact isValid_iff.mpr first
      · exact later word inRest
    · simp only [Text.firstWord, blank, Bool.false_eq_true, if_false]
      exact ⟨by simp [step, first], later⟩

/-- The words of a well-formed text are well-formed. -/
theorem isValid_of_mem_words {text word : Text} (valid : isValid text)
    (member : word ∈ text.words) : isValid word := by
  obtain ⟨first, later⟩ :=
    isValid_of_firstWord sound_boundary (isValid_iff.mp valid)
  rcases Text.mem_words.mp member with ⟨rfl, -⟩ | inRest
  · exact isValid_iff.mpr first
  · exact later word inRest

end Utf8

end MessageForms
