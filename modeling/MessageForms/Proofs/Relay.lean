import MessageForms.Proofs.Text.Parts
import MessageForms.Relay

/-!
# Lines of the relay

A message is written behind its severity, and loses the line ends behind it. The host receives this
as a terminated text, which a NUL byte in it would end. A line is passed on exactly while the host
listens, and if its severity reaches the threshold.
-/

namespace MessageForms

namespace Text

/-- A text without the line feeds and carriage returns at the end of another. -/
structure IsStripped (text stripped : Text) : Prop where
  whole : ∃ ends, text = stripped ++ ends ∧
    ∀ byte ∈ ends, byte = Byte.lineFeed ∨ byte = Byte.carriageReturn
  last : ∀ byte, stripped.getLast? = some byte → byte ≠ Byte.lineFeed ∧ byte ≠ Byte.carriageReturn

/-- What is seen of a text through a boundary at which a NUL byte ends it. -/
def IsSeenAs (text seen : Text) : Prop :=
  ∃ behind, text = seen ++ behind ∧ Byte.nul ∉ seen ∧ (behind = [] ∨ behind.head? = some Byte.nul)

/-- The line ends are taken away from the end of a text, and nothing else is. -/
theorem isStripped_iff {text stripped : Text} :
    IsStripped text stripped ↔ text.withoutLineEnd = stripped := by
  let isEnd (byte : Byte) : Bool := byte == Byte.lineFeed || byte == Byte.carriageReturn
  have isEnd_iff : ∀ byte, isEnd byte = true ↔ byte = Byte.lineFeed ∨ byte = Byte.carriageReturn :=
    fun byte => by simp [isEnd]
  have unfolded : text.withoutLineEnd = text.rdropWhile isEnd := rfl
  rw [unfolded]
  constructor
  · rintro ⟨⟨ends, rfl, areEnds⟩, last⟩
    have dropped : ∀ byte ∈ ends.reverse, isEnd byte = true := fun byte member =>
      (isEnd_iff byte).mpr (areEnds byte (List.mem_reverse.mp member))
    have kept : stripped.rdropWhile isEnd = stripped := by
      refine List.rdropWhile_eq_self_iff.mpr fun nonempty isLast => ?_
      obtain ⟨noFeed, noReturn⟩ := last _ (List.getLast?_eq_some_getLast nonempty)
      exact ((isEnd_iff _).mp isLast).elim noFeed noReturn
    rw [List.rdropWhile, List.reverse_append, List.dropWhile_append_of_pos dropped]
    exact kept
  · rintro rfl
    refine ⟨⟨text.rtakeWhile isEnd, List.rdropWhile_append_rtakeWhile.symm, ?_⟩, ?_⟩
    · intro byte member
      exact (isEnd_iff byte).mp (List.mem_rtakeWhile_imp member)
    · intro byte isLast
      rw [← not_or, ← isEnd_iff, getLast?_rdropWhile_eq_some isLast]
      exact Bool.false_ne_true

/-- A text is seen up to its first NUL byte. -/
theorem isSeenAs_iff {text seen : Text} : IsSeenAs text seen ↔ text.untilNul = seen := by
  constructor
  · rintro ⟨behind, rfl, unended, ended⟩
    exact before_append_of_ended unended ended
  · rintro rfl
    obtain ⟨behind, whole, ended⟩ := exists_before_append Byte.nul text
    exact ⟨behind, whole, not_mem_before Byte.nul text, ended⟩

/-- A text without a NUL byte is seen as it is. -/
theorem untilNul_of_not_mem {text : Text} (unended : Byte.nul ∉ text) : text.untilNul = text :=
  before_of_not_mem unended

end Text

/-- The severities are told apart by their numbers, also in the number that the host is given. -/
theorem Severity.ofThreshold_number (severity : Severity) :
    ofThreshold severity.number = severity := by
  cases severity <;> rfl

/-- A number above those of the severities reads as `info`, and every other one as its own. -/
theorem Severity.number_ofNumber (number : Nat) :
    (ofNumber number).number = if number ≤ 5 then number else info.number := by
  rcases number with _ | _ | _ | _ | _ | _ | number <;> rfl

namespace Relay

/-- A message behind its severity. -/
def written (severity : Severity) (message : Text) : Text :=
  Text.ofString "[msgvariant][" ++ severity.name ++ Text.ofString "] " ++ message

/-- The line of a message is what is seen of it without the line ends behind it. -/
theorem lineText_eq_iff {severity : Severity} {message line : Text} :
    lineText severity message = line ↔
      ∃ stripped, Text.IsStripped (written severity message) stripped ∧
        Text.IsSeenAs stripped line := by
  simp only [Text.isStripped_iff, Text.isSeenAs_iff, exists_eq_left']
  rfl

/-- A report is passed on exactly while the host listens, if it is serious enough. -/
theorem deliver?_eq_some_iff {relay : Relay} {diagnostic : Diagnostic} {line : LogLine} :
    relay.deliver? diagnostic = some line ↔
      (relay.attached = true ∧ relay.threshold.number ≤ diagnostic.severity.number) ∧
        line.severity = diagnostic.severity ∧
        lineText diagnostic.severity diagnostic.message = line.text := by
  rw [deliver?, Severity.ofThreshold_number, Option.ite_none_right_eq_some, Option.some_inj]
  refine and_congr_right fun _ => ?_
  cases line
  simp [eq_comm]

end Relay

end MessageForms
