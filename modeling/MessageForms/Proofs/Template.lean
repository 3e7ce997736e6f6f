import MessageForms.Proofs.Text.Cuts
import MessageForms.Template

/-!
# Substitution at once

The placeholders of a template are found wherever they are spelled, and no two of them overlap.
So a template is cut into placeholders and other bytes in one way only, and substitution fills
the pieces of this cut: each placeholder by itself, whatever stands around it.
-/

namespace MessageForms

namespace Template

/-- How a placeholder is spelled. -/
def spell (name : Text) : Text :=
  Byte.openBrace :: (name ++ [Byte.closeBrace])

/-- How a piece is spelled. -/
def Piece.write : Piece → Text
  | literal byte => [byte]
  | placeholder name => spell name

/-- What may be the name of a placeholder. -/
def IsName (name : Text) : Prop :=
  name ≠ [] ∧ ∀ byte ∈ name, Byte.isWord byte

/-- The placeholder of a name is spelled at a place of a template. -/
structure OccursAt (template : Text) (start : Nat) (name : Text) : Prop where
  isName : IsName name
  spelled : spell name <+: template.drop start

/-- The placeholder of a name is a piece that begins at a place. -/
def StandsAt (pieces : List Piece) (start : Nat) (name : Text) : Prop :=
  ∃ before after, pieces = before ++ .placeholder name :: after ∧
    (before.flatMap Piece.write).length = start

/-- A template is cut at its placeholders: the pieces spell it, and the placeholders among them
are those that occur in it. -/
structure IsCut (template : Text) (pieces : List Piece) : Prop where
  whole : pieces.flatMap Piece.write = template
  places (start : Nat) (name : Text) : OccursAt template start name ↔ StandsAt pieces start name

/-- No placeholder lies on both sides of the end of a beginning. -/
def IsClear (left right : Text) : Prop :=
  ∀ start name, OccursAt (left ++ right) start name →
    left.length ≤ start ∨ start + (spell name).length ≤ left.length

/-- The spelling of a placeholder is two bytes longer than its name. -/
theorem length_spell (name : Text) : (spell name).length = name.length + 2 := by
  simp [spell]

/-- No piece is spelled by nothing. -/
theorem Piece.length_write_pos (piece : Piece) : 0 < piece.write.length := by
  cases piece <;> simp [Piece.write, spell]

section Occurrences

variable {template : Text} {start later : Nat} {name other : Text}

/-- No brace is a character of a name. -/
theorem IsName.not_mem (isName : IsName name) :
    Byte.openBrace ∉ name ∧ Byte.closeBrace ∉ name := by
  constructor
  · intro member
    exact absurd (isName.2 _ member) (by decide)
  · intro member
    exact absurd (isName.2 _ member) (by decide)

/-- Behind its first byte, a placeholder lies in the rest of a template as in the whole. -/
theorem occursAt_append_iff (left right : Text) :
    OccursAt (left ++ right) (left.length + later) name ↔ OccursAt right later name := by
  have same : (left ++ right).drop (left.length + later) = right.drop later := by
    rw [← List.drop_drop, List.drop_left]
  constructor
  · rintro ⟨isName, spelled⟩
    exact ⟨isName, same ▸ spelled⟩
  · rintro ⟨isName, spelled⟩
    exact ⟨isName, same ▸ spelled⟩

/-- A placeholder that begins in a longer text begins before its end. -/
theorem OccursAt.end_le (occurs : OccursAt template start name) :
    start + (spell name).length ≤ template.length := by
  have fits := occurs.spelled.length_le
  rw [List.length_drop] at fits
  have positive : 0 < (spell name).length := by simp [spell]
  omega

/-- One placeholder at most begins at a place. -/
theorem OccursAt.name_eq (occurs : OccursAt template start name)
    (again : OccursAt template start other) : name = other := by
  obtain ⟨rest, isRest⟩ := occurs.spelled
  obtain ⟨tail, isTail⟩ := again.spelled
  have same : name ++ Byte.closeBrace :: rest = other ++ Byte.closeBrace :: tail := by
    have both := isRest.trans isTail.symm
    simpa [spell] using both
  have first := Text.before_append occurs.isName.not_mem.2 rest
  rw [same, Text.before_append again.isName.not_mem.2] at first
  exact first.symm

/-- A placeholder ends before the next one begins. -/
theorem OccursAt.end_le_of_lt (occurs : OccursAt template start name)
    (next : OccursAt template later other) (before : start < later) :
    start + (spell name).length ≤ later := by
  by_contra overlap
  obtain ⟨rest, isRest⟩ := occurs.spelled
  obtain ⟨tail, isTail⟩ := next.spelled
  -- The brace that begins the second placeholder would be a byte of the first one's rest.
  obtain ⟨offset, rfl⟩ : ∃ offset, later = start + (offset + 1) :=
    ⟨later - start - 1, by omega⟩
  have inside : offset < (name ++ [Byte.closeBrace]).length := by
    rw [length_spell] at overlap
    rw [List.length_append, List.length_singleton]
    omega
  have behind : template.drop (start + (offset + 1)) =
      (name ++ [Byte.closeBrace]).drop offset ++ rest := by
    rw [← List.drop_drop, ← isRest, spell, List.cons_append, List.drop_succ_cons,
      List.drop_append_of_le_length (Nat.le_of_lt inside)]
  rw [behind, List.drop_eq_getElem_cons inside, spell] at isTail
  have brace : (name ++ [Byte.closeBrace])[offset] = Byte.openBrace :=
    (List.cons.inj isTail).1.symm
  have member := List.getElem_mem inside
  rw [brace, List.mem_append, List.mem_singleton] at member
  rcases member with inName | isClose
  · exact occurs.isName.not_mem.1 inName
  · exact absurd isClose (by decide)

/-- A placeholder lies on one side of a cut that is clear. -/
theorem occursAt_append_iff_of_isClear {left right : Text} (clear : IsClear left right) :
    OccursAt (left ++ right) start name ↔
      OccursAt left start name ∨
        ∃ later, start = left.length + later ∧ OccursAt right later name := by
  constructor
  · intro occurs
    rcases clear start name occurs with behind | inside
    · obtain ⟨later, rfl⟩ := Nat.exists_eq_add_of_le behind
      exact .inr ⟨later, rfl, (occursAt_append_iff left right).mp occurs⟩
    · refine .inl ⟨occurs.isName, ?_⟩
      have spelled := occurs.spelled
      rw [List.drop_append_of_le_length (by omega)] at spelled
      refine List.prefix_of_prefix_length_le spelled (List.prefix_append _ _) ?_
      rw [List.length_drop]
      omega
  · rintro (occurs | ⟨later, rfl, occurs⟩)
    · have ends := occurs.end_le
      refine ⟨occurs.isName, ?_⟩
      rw [List.drop_append_of_le_length (by omega)]
      exact occurs.spelled.trans (List.prefix_append _ _)
    · exact (occursAt_append_iff left right).mpr occurs

end Occurrences

section Cuts

variable {template left right : Text} {pieces first second : List Piece}

/-- A placeholder among pieces is one of the first of them or of the others. -/
theorem standsAt_append_iff {start : Nat} {name : Text} :
    StandsAt (first ++ second) start name ↔
      StandsAt first start name ∨
        ∃ later, start = (first.flatMap Piece.write).length + later ∧
          StandsAt second later name := by
  constructor
  · rintro ⟨before, after, parts, rfl⟩
    rcases List.append_eq_append_iff.mp parts with ⟨more, rfl, rfl⟩ | ⟨more, rfl, others⟩
    · refine .inr ⟨_, ?_, more, after, rfl, rfl⟩
      rw [List.flatMap_append, List.length_append]
    · cases more with
      | nil =>
        exact .inr ⟨0, by simp, [], after, others.symm, rfl⟩
      | cons piece more =>
        obtain ⟨rfl, -⟩ := List.cons.inj others
        exact .inl ⟨before, more, rfl, rfl⟩
  · rintro (⟨before, after, rfl, rfl⟩ | ⟨_, rfl, before, after, rfl, rfl⟩)
    · exact ⟨before, after ++ second, by simp, rfl⟩
    · refine ⟨first ++ before, after, by simp, ?_⟩
      rw [List.flatMap_append, List.length_append]

/-- The placeholder at the very beginning is the first piece. -/
theorem standsAt_zero_iff {piece : Piece} {name : Text} :
    StandsAt (piece :: pieces) 0 name ↔ piece = .placeholder name := by
  constructor
  · rintro ⟨before, after, parts, empty⟩
    cases before with
    | nil => exact (List.cons.inj parts).1
    | cons other before =>
      have positive := other.length_write_pos
      rw [List.flatMap_cons, List.length_append] at empty
      omega
  · rintro rfl
    exact ⟨[], pieces, rfl, rfl⟩

/-- Cuts on both sides of a clear place make a cut of the whole. -/
theorem IsCut.append (leftCut : IsCut left first) (rightCut : IsCut right second)
    (clear : IsClear left right) : IsCut (left ++ right) (first ++ second) where
  whole := by rw [List.flatMap_append, leftCut.whole, rightCut.whole]
  places start name := by
    rw [occursAt_append_iff_of_isClear clear, standsAt_append_iff, leftCut.whole]
    simp only [leftCut.places, rightCut.places]

/-- The pieces behind the first one are a cut of what they spell. -/
theorem IsCut.tail {piece : Piece} (cut : IsCut template (piece :: pieces)) :
    IsCut (pieces.flatMap Piece.write) pieces where
  whole := rfl
  places start name := by
    have places := cut.places (piece.write.length + start) name
    have single : ([piece].flatMap Piece.write).length = piece.write.length := by simp
    have positive := piece.length_write_pos
    rw [← cut.whole, List.flatMap_cons, occursAt_append_iff, ← List.singleton_append,
      standsAt_append_iff, single] at places
    rw [places]
    constructor
    · rintro (⟨before, after, parts, far⟩ | ⟨later, same, stands⟩)
      · -- One piece has no placeholder behind its beginning.
        cases before with
        | nil =>
          rw [List.flatMap_nil, List.length_nil] at far
          omega
        | cons other before => simp at parts
      · exact (Nat.add_left_cancel same) ▸ stands
    · intro stands
      exact .inr ⟨start, rfl, stands⟩

/-- Only no pieces at all spell nothing. -/
theorem flatMap_write_eq_nil_iff : pieces.flatMap Piece.write = [] ↔ pieces = [] := by
  cases pieces with
  | nil => exact iff_of_true rfl rfl
  | cons piece pieces =>
    have nonempty := List.length_pos_iff.mp piece.length_write_pos
    refine iff_of_false (fun nothing => nonempty ?_) nofun
    rw [List.flatMap_cons] at nothing
    exact List.append_eq_nil_iff.mp nothing |>.1

/-- A template is cut in one way only. -/
theorem IsCut.unique (cut : IsCut template first) (again : IsCut template second) :
    first = second := by
  have whole := cut.whole.trans again.whole.symm
  induction first generalizing template second with
  | nil => exact (flatMap_write_eq_nil_iff.mp whole.symm).symm
  | cons piece first inductionHypothesis =>
    cases second with
    | nil => exact flatMap_write_eq_nil_iff.mp whole
    | cons other second =>
      have starts : ∀ name, piece = .placeholder name ↔ other = .placeholder name := fun name =>
        calc
          piece = .placeholder name ↔ StandsAt (piece :: first) 0 name := standsAt_zero_iff.symm
          _ ↔ OccursAt template 0 name := (cut.places 0 name).symm
          _ ↔ StandsAt (other :: second) 0 name := again.places 0 name
          _ ↔ other = .placeholder name := standsAt_zero_iff
      rw [List.flatMap_cons, List.flatMap_cons] at whole
      have same : piece = other := by
        cases piece with
        | placeholder name => exact ((starts name).mp rfl).symm
        | literal byte =>
          cases other with
          | placeholder name => exact (starts name).mpr rfl
          | literal byte => exact congrArg Piece.literal (List.cons.inj whole).1
      subst same
      have rest := List.append_cancel_left whole
      have tail := again.tail
      rw [← rest] at tail
      rw [inductionHypothesis cut.tail tail rest]

/-- A byte by itself is a cut. -/
theorem isCut_literal (byte : Byte) : IsCut [byte] [.literal byte] where
  whole := rfl
  places start name := by
    constructor
    · intro occurs
      have ends := occurs.end_le
      rw [length_spell, List.length_singleton] at ends
      omega
    · rintro ⟨before, after, parts, -⟩
      cases before with
      | nil => cases parts
      | cons piece before => simp at parts

/-- A placeholder by itself is a cut. -/
theorem isCut_placeholder {name : Text} (isName : IsName name) :
    IsCut (spell name) [.placeholder name] where
  whole := List.append_nil _
  places start other := by
    have itself : OccursAt (spell name) 0 name := ⟨isName, List.prefix_refl _⟩
    constructor
    · intro occurs
      have atStart : start = 0 := by
        by_contra later
        have behind := itself.end_le_of_lt occurs (Nat.pos_of_ne_zero later)
        have ends := occurs.end_le
        have positive : 0 < (spell other).length := by simp [spell]
        omega
      subst atStart
      rw [standsAt_zero_iff, itself.name_eq occurs]
    · rintro ⟨before, after, parts, rfl⟩
      cases before with
      | nil =>
        cases parts
        exact itself
      | cons piece before => simp at parts

end Cuts

section Pieces

variable {template rest name : Text} {byte : Byte}

/-- A name is found where a placeholder begins. -/
theorem name?_eq_some_iff :
    name? rest = some name ↔ OccursAt (Byte.openBrace :: rest) 0 name := by
  have spelled : spell name <+: Byte.openBrace :: rest ↔ name ++ [Byte.closeBrace] <+: rest := by
    rw [spell, List.cons_prefix_cons]
    exact and_iff_right rfl
  constructor
  · intro found
    unfold name? at found
    dsimp only at found
    split at found
    next isPlaceholder =>
      obtain ⟨nonempty, closed⟩ := isPlaceholder
      cases found
      refine ⟨⟨nonempty, fun byte member => List.mem_takeWhile_imp member⟩, spelled.mpr ?_⟩
      obtain ⟨tail, isTail⟩ := List.head?_eq_some_iff.mp closed
      refine ⟨tail, ?_⟩
      rw [List.append_assoc, List.singleton_append, ← isTail]
      exact List.prefix_iff_eq_append.mp (List.takeWhile_prefix _)
    next => cases found
  · rintro ⟨⟨nonempty, word⟩, isSpelled⟩
    obtain ⟨tail, rfl⟩ := spelled.mp isSpelled
    have taken : (name ++ [Byte.closeBrace] ++ tail).takeWhile Byte.isWord = name := by
      have ends : Byte.isWord Byte.closeBrace = false := rfl
      rw [List.append_assoc, List.takeWhile_append_of_pos word, List.singleton_append,
        List.takeWhile_cons_of_neg (by simp [ends]), List.append_nil]
    rw [name?, taken, if_pos]
    exact ⟨nonempty, by simp⟩

/-- The bytes that belong to a placeholder already found make no pieces. -/
theorem piecesFrom_eq (covered : Nat) (text : Text) :
    piecesFrom covered text = pieces (text.drop covered) := by
  induction text generalizing covered with
  | nil => cases covered <;> rfl
  | cons byte rest inductionHypothesis =>
    cases covered with
    | zero => rfl
    | succ covered => exact inductionHypothesis covered

/-- Where a placeholder begins, it is the first piece. -/
theorem pieces_of_occursAt (occurs : OccursAt template 0 name) :
    pieces template = .placeholder name :: pieces (template.drop (spell name).length) := by
  obtain ⟨tail, rfl⟩ := occurs.spelled
  have found : name? (name ++ [Byte.closeBrace] ++ tail) = some name :=
    name?_eq_some_iff.mpr occurs
  rw [spell, List.cons_append, pieces, piecesFrom, if_pos rfl, found]
  dsimp only
  rw [piecesFrom_eq]
  simp

/-- Where no placeholder begins, the first piece is a byte. -/
theorem pieces_of_literal (nothing : ∀ name, ¬ OccursAt (byte :: rest) 0 name) :
    pieces (byte :: rest) = .literal byte :: pieces rest := by
  rw [pieces, piecesFrom]
  split
  next brace =>
    subst brace
    have unfound : name? rest = none := Option.eq_none_iff_forall_ne_some.mpr fun name found =>
      nothing name (name?_eq_some_iff.mp found)
    rw [unfound]
    rfl
  next => rfl

/-- The pieces of a template are its cut. -/
theorem isCut_pieces (template : Text) : IsCut template (pieces template) := by
  -- A placeholder is passed over as a whole, so the induction is on the length.
  induction measured : template.length using Nat.strongRecOn generalizing template with
  | ind length inductionHypothesis =>
    subst measured
    cases template with
    | nil =>
      refine ⟨rfl, fun start name => iff_of_false (fun occurs => ?_) ?_⟩
      · have ends := occurs.end_le
        rw [length_spell, List.length_nil] at ends
        omega
      · rintro ⟨before, after, parts, -⟩
        cases before <;> cases parts
    | cons byte rest =>
      by_cases begins : ∃ name, OccursAt (byte :: rest) 0 name
      · obtain ⟨name, occurs⟩ := begins
        obtain ⟨tail, isTail⟩ := occurs.spelled
        rw [List.drop_zero] at isTail
        rw [pieces_of_occursAt occurs, ← isTail, List.drop_left]
        rw [← isTail] at occurs
        have shorter : tail.length < (byte :: rest).length := by
          rw [← isTail, List.length_append, length_spell]
          omega
        refine (isCut_placeholder occurs.isName).append
          (inductionHypothesis _ shorter tail rfl) ?_
        intro start other next
        rcases Nat.eq_zero_or_pos start with rfl | later
        · rw [occurs.name_eq next]
          exact .inr (Nat.le_of_eq (Nat.zero_add _))
        · have behind := occurs.end_le_of_lt next later
          rw [Nat.zero_add] at behind
          exact .inl behind
      · rw [pieces_of_literal (not_exists.mp begins)]
        refine (isCut_literal byte).append
          (inductionHypothesis _ (Nat.lt_succ_self _) rest rfl) ?_
        intro start name occurs
        rcases Nat.eq_zero_or_pos start with rfl | later
        · exact absurd ⟨name, occurs⟩ begins
        · exact .inl later

/-- The placeholders among the pieces are those that occur. -/
theorem exists_occursAt_of_mem (member : .placeholder name ∈ pieces template) :
    ∃ start, OccursAt template start name := by
  obtain ⟨before, after, parts⟩ := List.append_of_mem member
  exact ⟨_, ((isCut_pieces template).places _ _).mpr ⟨before, after, parts, rfl⟩⟩

/-- The pieces on both sides of a clear place are those of the whole. -/
theorem pieces_append {left right : Text} (clear : IsClear left right) :
    pieces (left ++ right) = pieces left ++ pieces right :=
  (isCut_pieces (left ++ right)).unique ((isCut_pieces left).append (isCut_pieces right) clear)

end Pieces

/-- What a piece shows: a byte shows itself, and a placeholder the text of its parameter, or
itself if there is none. -/
def Piece.shown (params : Params) : Piece → Text
  | literal byte => [byte]
  | placeholder name => ((params.find? name).map ParamValue.toText).getD (spell name)

/-- A piece is filled with what it shows. -/
theorem Piece.fill_eq_shown (params : Params) (piece : Piece) :
    piece.fill params = piece.shown params := by
  cases piece with
  | literal byte => rfl
  | placeholder name =>
    rw [fill, shown]
    cases params.find? name <;> rfl

/-- What is shown depends on what the placeholders show. -/
theorem substitute_congr {template : Text} {params : Params} {fill : Piece → Text}
    (literal : ∀ byte, fill (.literal byte) = [byte])
    (placeholder : ∀ start name, OccursAt template start name →
      (Piece.placeholder name).shown params = fill (.placeholder name)) :
    substitute template params = (pieces template).flatMap fill := by
  refine List.flatMap_congr fun piece member => ?_
  rw [Piece.fill_eq_shown]
  cases piece with
  | literal byte => exact (literal byte).symm
  | placeholder name =>
    obtain ⟨start, occurs⟩ := exists_occursAt_of_mem member
    exact placeholder start name occurs

/-- How the parameters stand for the placeholders of a template. -/
structure ReplacesAtOnce (template : Text) (params : Params) : Prop where
  /-- One placeholder at most begins at a place. -/
  single {start : Nat} {name other : Text} (occurs : OccursAt template start name)
    (again : OccursAt template start other) : name = other
  /-- No two placeholders overlap. -/
  apart {start later : Nat} {name other : Text} (occurs : OccursAt template start name)
    (next : OccursAt template later other) (before : start < later) :
    start + (spell name).length ≤ later
  /-- The template is cut at its placeholders in one way. -/
  cut : ∃! pieces, IsCut template pieces
  /-- Each placeholder of this cut is replaced by what it shows, and the bytes between them
  stay. -/
  replaced {pieces : List Piece} (cut : IsCut template pieces) :
    substitute template params = pieces.flatMap (Piece.shown params)
  /-- Nothing changes if no placeholder has a parameter. -/
  unbound (missing : ∀ start name, OccursAt template start name → params.find? name = none) :
    substitute template params = template
  /-- Only the parameters that are named matter, and only their texts. -/
  named {others : Params} (same : ∀ start name, OccursAt template start name →
      (params.find? name).map ParamValue.toText = (others.find? name).map ParamValue.toText) :
    substitute template params = substitute template others
  /-- The parts on both sides of a clear place are substituted by themselves. -/
  append {left right : Text} (parts : template = left ++ right) (clear : IsClear left right) :
    substitute template params = substitute left params ++ substitute right params

/-- Substitution replaces all placeholders at once. -/
theorem replacesAtOnce (template : Text) (params : Params) : ReplacesAtOnce template params where
  single occurs again := occurs.name_eq again
  apart occurs next before := occurs.end_le_of_lt next before
  cut := ⟨pieces template, isCut_pieces template, fun _ cut => cut.unique (isCut_pieces template)⟩
  replaced cut := by
    rw [cut.unique (isCut_pieces template)]
    exact substitute_congr (fun _ => rfl) fun _ _ _ => rfl
  unbound missing := by
    have same : substitute template params = (pieces template).flatMap Piece.write := by
      refine substitute_congr (fun _ => rfl) fun start name occurs => ?_
      rw [Piece.shown, missing start name occurs]
      rfl
    rw [same, (isCut_pieces template).whole]
  named {others} same := by
    have shown : substitute template params =
        (pieces template).flatMap (Piece.shown others) := by
      refine substitute_congr (fun _ => rfl) fun start name occurs => ?_
      rw [Piece.shown, Piece.shown, same start name occurs]
    rw [shown]
    exact (substitute_congr (fun _ => rfl) fun _ _ _ => rfl).symm
  append parts clear := by
    rw [parts, substitute, pieces_append clear, List.flatMap_append]
    rfl

/-- A template in which a placeholder begins behind a brace, and in what looks like another. -/
def falseStarts : Text := "\x7b\x7ba\x7d\x7ba\x7bb\x7d\x7d"

/-- False starts hide no placeholder, and what is shown is not read again. -/
theorem replacesAtOnce_falseStarts :
    substitute falseStarts (.ofList [("a", .text "\x7bb\x7d"), ("b", .flag true)]) =
        "\x7b\x7bb\x7d\x7batrue\x7d" ∧
      substitute falseStarts .empty = falseStarts := by
  constructor
  · exact ((replacesAtOnce _ _).replaced (isCut_pieces _)).trans (by decide +kernel)
  · exact (replacesAtOnce _ _).unbound fun _ _ _ => rfl

end Template

end MessageForms
