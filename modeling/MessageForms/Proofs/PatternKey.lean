import MessageForms.PatternKey
import MessageForms.Proofs.Entries
import MessageForms.Proofs.Text.Cuts

/-!
# The clauses of a key

What a key asks for is said of its text: of the clauses that are spelled between its commas,
the last one for each selector. Reading a key gives exactly these, so a key holds if each of
them does.
-/

namespace MessageForms

namespace PatternKey

/-- A part of a key spells a clause: the selector stands before the first equals sign, the
value between it and the second one or the end, and neither is blank. -/
def Spells (part : Text) (clause : Text × Text) : Prop :=
  ∃ left middle rest : Text, part = left ++ Byte.equals :: (middle ++ rest) ∧
    Byte.equals ∉ left ∧ Byte.equals ∉ middle ∧ (rest = [] ∨ rest.head? = some Byte.equals) ∧
    clause = (left.trim, middle.trim) ∧ left.trim ≠ [] ∧ middle.trim ≠ []

/-- The clause of a key that counts for a selector: the last one that is spelled for it. -/
def IsEffective (key selector value : Text) : Prop :=
  ∃ earlier part later, Text.split Byte.comma key = earlier ++ part :: later ∧
    Spells part (selector, value) ∧ ∀ other ∈ later, ∀ replaced, ¬ Spells other (selector, replaced)

/-- The clause of a part is read as it is spelled. -/
theorem clause?_eq_some_iff {part : Text} {clause : Text × Text} :
    clause? part = some clause ↔ Spells part clause := by
  have unfolded : clause? part = (Text.after? Byte.equals part).bind fun rest =>
      if (Text.before Byte.equals part).trim = [] ∨ (Text.before Byte.equals rest).trim = []
      then none
      else some ((Text.before Byte.equals part).trim, (Text.before Byte.equals rest).trim) := by
    rw [clause?, Text.split_eq]
    cases Text.after? Byte.equals part with
    | none => rfl
    | some rest => rw [Option.elim_some, Text.split_eq]; rfl
  rw [unfolded]
  constructor
  · intro read
    obtain ⟨rest, cut, read⟩ := Option.bind_eq_some_iff.mp read
    split at read
    next => cases read
    next nonblank =>
      cases read
      obtain ⟨after, whole, ended⟩ := Text.exists_before_append Byte.equals rest
      refine ⟨_, _, after, ?_, Text.not_mem_before _ _, Text.not_mem_before _ _, ended, rfl,
        not_or.mp nonblank⟩
      rw [← whole]
      exact Text.eq_of_after? cut
  · rintro ⟨left, middle, rest, rfl, leftUnmarked, middleUnmarked, ended, rfl, nonblank⟩
    rw [Text.after?_append leftUnmarked, Option.bind_some, Text.before_append leftUnmarked,
      Text.before_append_of_ended middleUnmarked ended, if_neg (not_or.mpr nonblank)]

/-- A clause is read exactly if it counts. -/
theorem mem_parse_iff {key : Text} {clause : Text × Text} :
    clause ∈ parse key ↔ IsEffective key clause.1 clause.2 := by
  rw [parse, Entries.mem_iff_lookup (Entries.nodup_merge _), Entries.lookup_merge,
    Entries.lookup_reverse_filterMap]
  simp only [clause?_eq_some_iff, Ne]
  rfl

/-- A key holds exactly if each clause that counts asks for any value or for the one that
its selector has. -/
theorem holds_iff {values : SelectorValues} {key : Text} :
    (parse key).holds values ↔ ∀ selector value, IsEffective key selector value →
      value = wildcard ∨ values.find? selector = some (some value) := by
  simp [holds, clauseHolds, mem_parse_iff, List.all_eq_true]

/-- The selectors of a key are those for which a clause counts. -/
theorem mem_selectors_iff {key selector : Text} :
    selector ∈ (parse key).selectors ↔ ∃ value, IsEffective key selector value := by
  simp [selectors, mem_parse_iff]

end PatternKey

/-- Leaving out repetitions leaves no text out. -/
theorem mem_distinct_iff {texts : List Text} {text : Text} :
    text ∈ distinct texts ↔ text ∈ texts := by
  have seenOrLater : ∀ seen : List Text,
      text ∈ texts.foldl (fun seen text => if text ∈ seen then seen else seen ++ [text]) seen ↔
        text ∈ seen ∨ text ∈ texts := by
    induction texts with
    | nil => simp
    | cons first texts inductionHypothesis =>
      intro seen
      rw [List.foldl_cons, inductionHypothesis]
      split
      next again => grind
      next => simp [or_assoc]
  rw [distinct, seenOrLater]
  simp

namespace MatchTable

/-- The selectors of a table are those for which a clause of one of its keys counts. -/
theorem mem_selectors_iff {table : MatchTable} {selector : Text} :
    selector ∈ table.selectors ↔
      ∃ entry ∈ table, ∃ value, PatternKey.IsEffective entry.1 selector value := by
  simp only [selectors, mem_distinct_iff, List.mem_flatMap, PatternKey.mem_selectors_iff]

end MatchTable

end MessageForms
