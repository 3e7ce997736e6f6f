import Mathlib.Data.List.Sort
import MessageForms.Proofs.PatternKey.Places

/-!
# Inferred selectors

Where a variant names no selectors, they are inferred from the keys of its table. Reading the keys
one after the other gives selectors, some of them again and again; inferred is each of them once, in
the order in which they first appear. So entries that are added behind add selectors behind, and a
table has the selectors of a single key that joins its keys.
-/

namespace MessageForms

/-- The items that were seen, and behind them those of a list that are new, each where it first
appears. -/
def distinctAfter {α : Type} [BEq α] [LawfulBEq α] (seen items : List α) : List α :=
  items.foldl (fun seen item => if item ∈ seen then seen else seen ++ [item]) seen

/-- Some texts are those of a list in the order of their first appearance. -/
structure AppearAs (texts firsts : List Text) : Prop where
  members : ∀ text, text ∈ firsts ↔ text ∈ texts
  ordered : firsts.Pairwise fun earlier later => texts.idxOf earlier < texts.idxOf later

/-- At first nothing was seen. -/
theorem distinct_eq (texts : List Text) : distinct texts = distinctAfter [] texts := rfl

/-- Two lists are gone through one after the other. -/
theorem distinctAfter_append (seen left right : List Text) :
    distinctAfter seen (left ++ right) = distinctAfter (distinctAfter seen left) right :=
  List.foldl_append

/-- The last text of a list is added if it was not seen. -/
theorem distinctAfter_append_singleton (seen texts : List Text) (text : Text) :
    distinctAfter seen (texts ++ [text]) =
      if text ∈ distinctAfter seen texts then distinctAfter seen texts
      else distinctAfter seen texts ++ [text] := by
  rw [distinctAfter_append]
  rfl

/-- What was seen stays in front. -/
theorem prefix_distinctAfter (seen texts : List Text) : seen <+: distinctAfter seen texts := by
  induction texts using List.reverseRecOn with
  | nil => exact List.prefix_rfl
  | append_singleton texts text inductionHypothesis =>
    rw [distinctAfter_append_singleton]
    split
    next => exact inductionHypothesis
    next => exact inductionHypothesis.trans (List.prefix_append _ _)

/-- Nothing else than what was seen and what a list has is there. -/
theorem mem_distinctAfter {seen texts : List Text} {text : Text} :
    text ∈ distinctAfter seen texts ↔ text ∈ seen ∨ text ∈ texts := by
  induction texts using List.reverseRecOn with
  | nil => simp [distinctAfter]
  | append_singleton texts last inductionHypothesis =>
    rw [distinctAfter_append_singleton]
    split
    next again => grind
    next => simp [inductionHypothesis, or_assoc]

/-- A list adds what it adds without its repetitions. -/
theorem distinctAfter_distinct (seen texts : List Text) :
    distinctAfter seen (distinct texts) = distinctAfter seen texts := by
  induction texts using List.reverseRecOn with
  | nil => rfl
  | append_singleton texts text inductionHypothesis =>
    rw [distinct_eq, distinctAfter_append_singleton, ← distinct_eq,
      distinctAfter_append_singleton]
    by_cases again : text ∈ texts
    · have seenNow : text ∈ distinctAfter seen texts := mem_distinctAfter.mpr (.inr again)
      rw [if_pos (mem_distinct_iff.mpr again), if_pos seenNow, inductionHypothesis]
    · rw [if_neg (again ∘ mem_distinct_iff.mp), distinctAfter_append_singleton,
        inductionHypothesis]

/-- A list without repetitions is left as it is. -/
theorem distinct_of_nodup {texts : List Text} (nodup : texts.Nodup) : distinct texts = texts := by
  induction texts using List.reverseRecOn with
  | nil => rfl
  | append_singleton texts text inductionHypothesis =>
    obtain ⟨restNodup, -, apart⟩ := List.nodup_append.mp nodup
    have rest := inductionHypothesis restNodup
    have new : text ∉ texts := fun member => apart text member text List.mem_cons_self rfl
    rw [distinct_eq, distinctAfter_append_singleton, ← distinct_eq, rest, if_neg new]

/-- Texts stand in the order of their first appearance when repetitions are left out. -/
theorem appearAs_distinct (texts : List Text) : AppearAs texts (distinct texts) := by
  refine ⟨fun text => mem_distinct_iff, ?_⟩
  induction texts using List.reverseRecOn with
  | nil => exact .nil
  | append_singleton texts text inductionHypothesis =>
    have earlier : ∀ {other}, other ∈ distinct texts →
        (texts ++ [text]).idxOf other = texts.idxOf other ∧ texts.idxOf other < texts.length := by
      intro other member
      have inTexts := mem_distinct_iff.mp member
      exact ⟨List.idxOf_append_of_mem inTexts, List.idxOf_lt_length_of_mem inTexts⟩
    have kept : (distinct texts).Pairwise fun left right =>
        (texts ++ [text]).idxOf left < (texts ++ [text]).idxOf right := by
      refine inductionHypothesis.imp_of_mem fun leftMember rightMember before => ?_
      rw [(earlier leftMember).1, (earlier rightMember).1]
      exact before
    rw [distinct_eq, distinctAfter_append_singleton, ← distinct_eq]
    split
    next => exact kept
    next new =>
      have last : (texts ++ [text]).idxOf text = texts.length := by
        simp [List.idxOf_append, mem_distinct_iff.not.mp new]
      refine List.pairwise_append.mpr ⟨kept, List.pairwise_singleton _ _, ?_⟩
      intro other member text' isText
      obtain rfl := List.mem_singleton.mp isText
      rw [(earlier member).1, last]
      exact (earlier member).2

/-- There is one order of first appearance, and leaving out repetitions finds it. -/
theorem appearAs_iff {texts firsts : List Text} :
    AppearAs texts firsts ↔ distinct texts = firsts := by
  refine ⟨fun appear => ?_, fun same => same ▸ appearAs_distinct texts⟩
  let Before (left right : Text) : Prop := texts.idxOf left < texts.idxOf right
  have irreflexive : Std.Irrefl Before := ⟨fun text => Nat.lt_irrefl _⟩
  have antisymmetric : Std.Antisymm Before := ⟨fun left right before after =>
    absurd (Nat.lt_trans before after) (Nat.lt_irrefl _)⟩
  refine List.Pairwise.eq_of_mem_iff (appearAs_distinct texts).ordered appear.ordered fun text => ?_
  rw [appear.members, mem_distinct_iff]

/-- Texts in the order of their first appearance are not repeated. -/
theorem AppearAs.nodup {texts firsts : List Text} (appear : AppearAs texts firsts) :
    firsts.Nodup :=
  appear.ordered.imp fun before same => absurd (same ▸ before) (Nat.lt_irrefl _)

/-- Changes to entries add the keys that are new. -/
theorem Entries.keys_update {α : Type} (entries changes : List (Text × α)) :
    (update entries changes).map Prod.fst =
      distinctAfter (entries.map Prod.fst) (changes.map Prod.fst) := by
  induction changes generalizing entries with
  | nil => rfl
  | cons change changes inductionHypothesis =>
    have step := inductionHypothesis (put change.1 change.2 entries)
    rw [keys_put] at step
    exact step

namespace MatchTable

/-- The selectors that the keys of a table give when they are read one after the other. -/
def occurrences (table : MatchTable) : List Text :=
  table.flatMap fun entry => (PatternKey.parse entry.1).selectors

/-- A single key that joins the keys of a table. -/
def joinedKey (table : MatchTable) : Text :=
  List.intercalate [Byte.comma] (table.map Prod.fst)

/-- The selectors of a table are those that occur, without repetitions. -/
theorem selectors_eq_distinct (table : MatchTable) :
    table.selectors = distinct table.occurrences := rfl

/-- The selectors of more entries come behind. -/
theorem selectors_append (table more : MatchTable) :
    selectors (table ++ more) = distinctAfter table.selectors (occurrences more) := by
  rw [selectors_eq_distinct, occurrences, List.flatMap_append, distinct_eq, distinctAfter_append]
  rfl

/-- A single key has its own selectors, which it does not repeat. -/
theorem selectors_singleton (entry : Text × Text) :
    selectors [entry] = (PatternKey.parse entry.1).selectors := by
  rw [selectors_eq_distinct, occurrences, List.flatMap_singleton]
  exact distinct_of_nodup (Entries.nodup_merge _)

/-- The key that joins those of a table gives the selectors of the table. -/
theorem selectors_parse_joinedKey (table : MatchTable) :
    (PatternKey.parse table.joinedKey).selectors = table.selectors := by
  induction table with
  | nil => rfl
  | cons entry table inductionHypothesis =>
    cases table with
    | nil => rw [selectors_singleton, joinedKey, List.map_singleton, List.intercalate_singleton]
    | cons next table =>
      have joined : joinedKey (entry :: next :: table) =
          entry.1 ++ Byte.comma :: joinedKey (next :: table) := by
        simp [joinedKey, List.intercalate_cons_cons]
      calc
        (PatternKey.parse (joinedKey (entry :: next :: table))).selectors
          = distinctAfter (PatternKey.parse entry.1).selectors
              (PatternKey.parse (joinedKey (next :: table))).selectors := by
            rw [joined, PatternKey.parse_append_cons]
            exact Entries.keys_update _ _
        _ = distinctAfter (PatternKey.parse entry.1).selectors (occurrences (next :: table)) := by
            rw [inductionHypothesis, selectors_eq_distinct, distinctAfter_distinct]
        _ = selectors ([entry] ++ next :: table) := by
            rw [selectors_append, selectors_singleton]

/-- The selectors of a table are inferred in the order of their first appearance: each selector that
occurs in a key stands among them exactly once, before those that first appear later, and nothing
else does. So the selectors of a table are the first ones of every longer table, and those of a
single key that joins the keys. -/
theorem selectors_in_order_of_appearance :
    (∀ (table : MatchTable) (names : List Text),
      table.selectors = names ↔ AppearAs table.occurrences names) ∧
    (∀ table : MatchTable, table.selectors.Nodup) ∧
    (∀ table more : MatchTable, table.selectors <+: selectors (table ++ more)) ∧
    ∀ table : MatchTable, table.selectors = (PatternKey.parse table.joinedKey).selectors := by
  refine ⟨fun table names => appearAs_iff.symm, fun table => ?_, fun table more => ?_,
    fun table => (selectors_parse_joinedKey table).symm⟩
  · exact (appearAs_distinct table.occurrences).nodup
  · rw [selectors_append]
    exact prefix_distinctAfter _ _

/-- Malformed clauses give no selector, and a selector that occurs again keeps its first place. -/
example :
    selectors [("b=1, a=2, b=3", "first"), ("junk, =4, c=", "second"), (" a =5,c=6,b=*", "third")] =
      ["b", "a", "c"] := by
  decide +kernel

end MatchTable

end MessageForms
