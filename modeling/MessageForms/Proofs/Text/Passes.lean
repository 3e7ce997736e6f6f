import MessageForms.Proofs.Text.Parts

/-!
# Passes over a text

A text is taken apart by passes over its positions. To find its parts, each pass goes to the next
separator, cuts off what stands before it and goes on behind it. To find its core, each pass moves
one of two bounds over a blank towards the other, in whichever order. A pass leaves less to go over,
so the passes come to an end, and it keeps what is to be found, so at the end it can be read. What
they end with are the only parts and the only core of the text.
-/

namespace MessageForms

/-- Passes settle on a result: whichever of them are made, they come to an end, and where no more
can be made the result is read. -/
inductive Settles {State Result : Type} (Pass : State → State → Prop) (read : State → Result)
    (result : Result) : State → Prop where
  | intro {state : State} (ended : (∀ next, ¬ Pass state next) → read state = result)
      (further : ∀ next, Pass state next → Settles Pass read result next) :
      Settles Pass read result state

/-- Passes that leave less and keep a value settle on it, if it is read where they end. -/
theorem settles_value {State Result : Type} {Pass : State → State → Prop}
    {read : State → Result} (value : State → Result) (left : State → Nat)
    (less : ∀ {state next}, Pass state next → left next < left state)
    (kept : ∀ {state next}, Pass state next → value next = value state)
    (ended : ∀ {state}, (∀ next, ¬ Pass state next) → read state = value state) (state : State) :
    Settles Pass read (value state) state := by
  -- The induction is on what is left; the kept value leads from one pass to the next.
  induction state using (measure left).wf.induction with
  | h state inductionHypothesis =>
    refine .intro ended fun next pass => ?_
    rw [← kept pass]
    exact inductionHypothesis next (less pass)

namespace Text

/-- The parts that were cut off a text, and the position at which the rest of it begins. -/
structure Cutting (text : Text) where
  parts : List Text
  start : Nat
  bounded : start ≤ text.length

namespace Cutting

variable {text : Text}

/-- Nothing is cut off at first. -/
def whole (text : Text) : Cutting text := ⟨[], 0, Nat.zero_le _⟩

/-- What is left to cut. -/
def rest (cutting : Cutting text) : Text := text.drop cutting.start

/-- All parts, if nothing more is cut off: the rest is the last one. -/
def finish (cutting : Cutting text) : List Text := cutting.parts ++ [cutting.rest]

/-- What stands before the next separator is cut off, and the rest begins behind that. -/
inductive Pass (separator : Byte) (before after : Cutting text) : Prop where
  | cut (mark : Nat) (ahead : before.start ≤ mark) (marked : text[mark]? = some separator)
      (unmarked : separator ∉ text.extract before.start mark)
      (parts : after.parts = before.parts ++ [text.extract before.start mark])
      (start : after.start = mark + 1) : Pass separator before after

/-- A pass takes the rest apart at its first separator. -/
theorem Pass.rest_eq {separator : Byte} {before after : Cutting text}
    (pass : Pass separator before after) :
    ∃ part, separator ∉ part ∧ before.rest = part ++ separator :: after.rest ∧
      after.parts = before.parts ++ [part] := by
  obtain ⟨mark, ahead, marked, unmarked, parts, start⟩ := pass
  obtain ⟨inside, isMark⟩ := List.getElem?_eq_some_iff.mp marked
  have behind : text.drop mark = separator :: after.rest := by
    rw [List.drop_eq_getElem_cons inside, isMark, rest, start]
  refine ⟨text.extract before.start mark, unmarked, ?_, parts⟩
  calc
    before.rest = text.extract before.start mark ++ before.rest.drop (mark - before.start) :=
      (List.take_append_drop _ _).symm
    _ = text.extract before.start mark ++ separator :: after.rest := by
      rw [rest, List.drop_drop, Nat.add_sub_cancel' ahead, behind]

/-- A pass leaves less of the text. -/
theorem Pass.less {separator : Byte} {before after : Cutting text}
    (pass : Pass separator before after) : after.rest.length < before.rest.length := by
  obtain ⟨part, -, apart, -⟩ := pass.rest_eq
  rw [apart, List.length_append, List.length_cons]
  omega

/-- A pass neither loses a part nor finds one that is none. -/
theorem Pass.kept {separator : Byte} {before after : Cutting text}
    (pass : Pass separator before after) :
    after.parts ++ split separator after.rest = before.parts ++ split separator before.rest := by
  obtain ⟨part, unmarked, apart, parts⟩ := pass.rest_eq
  rw [parts, apart, split_append_cons, split_of_not_mem unmarked, List.append_assoc]

/-- There is another pass as long as there is a separator in the rest. -/
theorem exists_pass {separator : Byte} {cutting : Cutting text}
    (inside : separator ∈ cutting.rest) : ∃ next, Pass separator cutting next := by
  obtain ⟨part, behind, apart, unmarked⟩ := List.eq_append_cons_of_mem inside
  have atMark : text.drop (cutting.start + part.length) = separator :: behind := by
    rw [← List.drop_drop, ← rest, apart, List.drop_left]
  have marked : text[cutting.start + part.length]? = some separator := by
    rw [← List.head?_drop, atMark, List.head?_cons]
  have isPart : text.extract cutting.start (cutting.start + part.length) = part := by
    rw [List.extract_eq_take_drop, ← rest, apart, Nat.add_sub_cancel_left, List.take_left]
  obtain ⟨bounded, -⟩ := List.getElem?_eq_some_iff.mp marked
  refine ⟨⟨cutting.parts ++ [part], cutting.start + part.length + 1, bounded⟩, ?_⟩
  exact .cut _ (Nat.le_add_right _ _) marked (by rwa [isPart]) (by rw [isPart]) rfl

/-- Where the passes end the rest is one part. -/
theorem finish_of_ended {separator : Byte} {cutting : Cutting text}
    (ended : ∀ next, ¬ Pass separator cutting next) :
    cutting.finish = cutting.parts ++ split separator cutting.rest := by
  have unmarked : separator ∉ cutting.rest := fun inside => (exists_pass inside).elim ended
  rw [finish, split_of_not_mem unmarked]

/-- Cutting off one part after the other settles on the parts of the text. -/
theorem settles_whole (separator : Byte) (text : Text) :
    Settles (Pass separator) finish (split separator text) (whole text) :=
  settles_value (fun cutting => cutting.parts ++ split separator cutting.rest)
    (fun cutting => cutting.rest.length) Pass.less Pass.kept finish_of_ended (whole text)

end Cutting

/-- What stands between two positions begins with the byte at the first of them. -/
theorem extract_eq_cons {text : Text} {first last : Nat} {byte : Byte} (apart : first < last)
    (isFirst : text[first]? = some byte) :
    text.extract first last = byte :: text.extract (first + 1) last := by
  obtain ⟨inside, isByte⟩ := List.getElem?_eq_some_iff.mp isFirst
  have length : last - first = last - (first + 1) + 1 := by omega
  rw [List.extract_eq_take_drop, List.drop_eq_getElem_cons inside, isByte, length,
    List.take_succ_cons]

/-- What stands between two positions ends with the byte before the last of them. -/
theorem extract_eq_append {text : Text} {first last : Nat} {byte : Byte} (apart : first < last)
    (isLast : text[last - 1]? = some byte) :
    text.extract first last = text.extract first (last - 1) ++ [byte] := by
  have length : last - first = last - 1 - first + 1 := by omega
  have position : first + (last - 1 - first) = last - 1 := by omega
  rw [List.extract_eq_take_drop, length, List.take_add_one, List.getElem?_drop, position, isLast,
    Option.toList_some]

/-- Two positions in a text, one not behind the other. -/
structure Bounds (text : Text) where
  first : Nat
  last : Nat
  ordered : first ≤ last
  bounded : last ≤ text.length

namespace Bounds

variable {text : Text}

/-- The bounds enclose the whole text at first. -/
def whole (text : Text) : Bounds text := ⟨0, text.length, Nat.zero_le _, Nat.le_refl _⟩

/-- What stands between the bounds. -/
def between (bounds : Bounds text) : Text := text.extract bounds.first bounds.last

/-- One of the bounds moves over a blank towards the other. -/
inductive Pass (before after : Bounds text) : Prop where
  | first (blank : Byte) (apart : before.first < before.last)
      (passed : text[before.first]? = some blank) (isBlank : Byte.isBlank blank)
      (moved : after.first = before.first + 1) (stayed : after.last = before.last) :
      Pass before after
  | last (blank : Byte) (apart : before.first < before.last)
      (passed : text[before.last - 1]? = some blank) (isBlank : Byte.isBlank blank)
      (stayed : after.first = before.first) (moved : after.last = before.last - 1) :
      Pass before after

@[simp] theorem between_whole (text : Text) : (whole text).between = text := by
  simp [whole, between]

@[simp] theorem length_between (bounds : Bounds text) :
    bounds.between.length = bounds.last - bounds.first := by
  have bounded := bounds.bounded
  simp only [between, List.length_take, List.length_drop]
  omega

/-- A byte between the bounds is a byte of the text. -/
theorem exists_of_getElem?_between {bounds : Bounds text} {index : Nat} {byte : Byte}
    (isByte : bounds.between[index]? = some byte) :
    index < bounds.last - bounds.first ∧ text[bounds.first + index]? = some byte := by
  obtain ⟨inside, -⟩ := List.getElem?_eq_some_iff.mp isByte
  rw [length_between] at inside
  rw [between, List.getElem?_take_of_lt inside, List.getElem?_drop] at isByte
  exact ⟨inside, isByte⟩

/-- A pass leaves less between the bounds. -/
theorem Pass.less {before after : Bounds text} (pass : Pass before after) :
    after.last - after.first < before.last - before.first := by
  cases pass with
  | first _ apart _ _ moved stayed => omega
  | last _ apart _ _ stayed moved => omega

/-- A pass takes a blank away from what stands between the bounds. -/
theorem Pass.between_eq {before after : Bounds text} (pass : Pass before after) :
    ∃ leading trailing, IsBlank leading ∧ IsBlank trailing ∧
      before.between = leading ++ after.between ++ trailing := by
  cases pass with
  | first blank apart passed isBlank moved stayed =>
    refine ⟨[blank], [], List.forall_mem_singleton.mpr isBlank, isBlank_nil, ?_⟩
    rw [between, between, moved, stayed, extract_eq_cons apart passed, List.append_nil,
      List.singleton_append]
  | last blank apart passed isBlank stayed moved =>
    refine ⟨[], [blank], isBlank_nil, List.forall_mem_singleton.mpr isBlank, ?_⟩
    rw [between, between, moved, stayed, extract_eq_append apart passed, List.nil_append]

/-- A pass keeps the core of what stands between the bounds. -/
theorem Pass.kept {before after : Bounds text} (pass : Pass before after) :
    after.between.trim = before.between.trim := by
  obtain ⟨leading, trailing, leadingBlank, trailingBlank, apart⟩ := pass.between_eq
  rw [apart, trim_append leadingBlank trailingBlank]

/-- Where the passes end no blank stands at either bound. -/
theorem isTrimmed_of_ended {bounds : Bounds text} (ended : ∀ next, ¬ Pass bounds next) :
    IsTrimmed bounds.between where
  -- A bound that stands at a blank can still move.
  first byte isFirst := by
    rw [List.head?_eq_getElem?] at isFirst
    obtain ⟨apart, passed⟩ := exists_of_getElem?_between isFirst
    refine Bool.eq_false_iff.mpr fun isBlank => ?_
    exact ended ⟨bounds.first + 1, bounds.last, by omega, bounds.bounded⟩
      (.first byte (by omega) passed isBlank rfl rfl)
  last byte isLast := by
    have bounded := bounds.bounded
    rw [List.getLast?_eq_getElem?, length_between] at isLast
    obtain ⟨apart, passed⟩ := exists_of_getElem?_between isLast
    have atEnd : bounds.first + (bounds.last - bounds.first - 1) = bounds.last - 1 := by omega
    rw [atEnd] at passed
    refine Bool.eq_false_iff.mpr fun isBlank => ?_
    exact ended ⟨bounds.first, bounds.last - 1, by omega, by omega⟩
      (.last byte (by omega) passed isBlank rfl rfl)

/-- Moving the bounds over blanks settles on the core of the text. -/
theorem settles_whole (text : Text) :
    Settles Pass between text.trim (whole text) := by
  have settled := settles_value (fun bounds : Bounds text => bounds.between.trim)
    (fun bounds => bounds.last - bounds.first) Pass.less Pass.kept
    (fun ended => (isTrimmed_of_ended ended).trim_eq.symm) (whole text)
  rwa [between_whole] at settled

end Bounds

/-- A text is taken apart in one way. Cutting at a separator comes to an end with the only texts
without a separator that give the text back with separators between them; there is one more of them
than there are separators, and those of two texts with a separator between them are those of both.
Trimming comes to an end with the only text that neither begins nor ends with one of the six blanks
and gives the text back with blanks around it; it does nothing a second time, and blanks around the
text do not matter to it. -/
theorem parts_and_core_unique :
    (∀ (separator : Byte) (text : Text),
      Settles (Cutting.Pass separator) Cutting.finish (split separator text)
        (Cutting.whole text) ∧
      (∀ parts, IsParted separator text parts ↔ split separator text = parts) ∧
      (split separator text).length = text.count separator + 1 ∧
      ∀ more, split separator (text ++ separator :: more) =
        split separator text ++ split separator more) ∧
    (∀ byte, Byte.isBlank byte ↔
      byte ∈ [Byte.space, Byte.tab, Byte.lineFeed, 0x0B, 0x0C, Byte.carriageReturn]) ∧
    ∀ text : Text,
      Settles Bounds.Pass Bounds.between text.trim (Bounds.whole text) ∧
      (∀ core, IsCore text core ↔ text.trim = core) ∧
      text.trim.trim = text.trim ∧
      ∀ leading trailing, IsBlank leading → IsBlank trailing →
        trim (leading ++ text ++ trailing) = text.trim := by
  refine ⟨fun separator text => ?_, fun byte => isBlank_iff_mem, fun text => ?_⟩
  · exact ⟨Cutting.settles_whole separator text, fun parts => isParted_iff,
      length_split separator text, split_append_cons separator text⟩
  · exact ⟨Bounds.settles_whole text, fun core => isCore_iff, trim_trim text,
      fun leading trailing leadingBlank trailingBlank =>
        trim_append leadingBlank trailingBlank text⟩

/-- Separators at both ends and next to each other, a text of blanks only, and blanks around a text
that has some within. -/
theorem parts_and_core_unique_atEnds :
    IsParted Byte.comma (ofString ",a,, b,") [[], ofString "a", [], ofString " b", []] ∧
      IsCore (ofString " \t\r\n ") [] ∧
      IsBlank (ofString "\t ") ∧ IsBlank (ofString "\n") ∧
      trim (ofString "\t " ++ ofString " a b\r" ++ ofString "\n") = ofString "a b" := by
  obtain ⟨parts, -, core⟩ := parts_and_core_unique
  have leadingBlank : IsBlank (ofString "\t ") := by decide +kernel
  have trailingBlank : IsBlank (ofString "\n") := by decide +kernel
  refine ⟨((parts Byte.comma _).2.1 _).mpr (by decide +kernel),
    ((core _).2.1 _).mpr (by decide +kernel), leadingBlank, trailingBlank, ?_⟩
  calc
    trim (ofString "\t " ++ ofString " a b\r" ++ ofString "\n") = trim (ofString " a b\r") :=
      (core _).2.2.2 _ _ leadingBlank trailingBlank
    _ = ofString "a b" := by decide +kernel

end Text

end MessageForms
