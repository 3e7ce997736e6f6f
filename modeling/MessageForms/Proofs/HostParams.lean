import MessageForms.HostParams
import MessageForms.Proofs.Entries

/-!
# What an array of parameters means

An array is checked while it is read. Whether it is well formed and what it means can be told
apart, though: it is well formed if there is something to read and no named parameter has an
unknown kind, wherever it stands, and it means its named parameters, of which a later one
replaces an earlier one.
-/

namespace MessageForms

namespace HostParam

/-- Whether the kind of a parameter exists. Without a name, the kind does not matter. -/
def IsWellFormed (param : HostParam) : Prop :=
  param.name? ≠ none → param.kind = 0 ∨ param.kind = 1 ∨ param.kind = 2

instance : DecidablePred IsWellFormed := fun param =>
  inferInstanceAs (Decidable (param.name? ≠ none → _))

/-- The name of a parameter with its value. -/
def entry? (param : HostParam) : Option (Text × ParamValue) :=
  param.name?.bind fun name => param.value?.map fun value => (name.untilNul, value)

/-- A parameter has a value exactly if its kind exists. -/
theorem isSome_value?_iff (param : HostParam) :
    param.value?.isSome ↔ param.kind = 0 ∨ param.kind = 1 ∨ param.kind = 2 := by
  unfold value?
  split
  next text => simp [text]
  next noText =>
    split
    next number => simp [number]
    next noNumber =>
      split
      next flag => simp [flag]
      next noFlag => simp [noText, noNumber, noFlag]

/-- Parameters are added in order, and all of them are checked. -/
theorem addAll_eq (list : List HostParam) (params : Params) :
    addAll list params =
      if ∀ param ∈ list, param.IsWellFormed then
        some ((list.filterMap entry?).foldl (fun read entry => read.insert entry.1 entry.2) params)
      else none := by
  induction list generalizing params with
  | nil => simp [addAll]
  | cons param list inductionHypothesis =>
    rw [addAll]
    cases name : param.name? with
    | none =>
      have wellFormed : param.IsWellFormed := fun named => absurd name named
      simp [inductionHypothesis, entry?, name, wellFormed]
    | some text =>
      have checked : param.IsWellFormed ↔ param.value?.isSome := by
        simp [IsWellFormed, name, isSome_value?_iff]
      cases value : param.value? with
      | none => simp [checked, value]
      | some content => simp [inductionHypothesis, entry?, name, checked, value]

end HostParam

namespace HostParams

/-- The parameters to read. -/
def passed (params : HostParams) : List HostParam :=
  (params.params?.getD []).take params.count.toNat

/-- Whether an array is well formed. -/
structure IsWellFormed (params : HostParams) : Prop where
  /-- The number of parameters is one. -/
  count : 0 ≤ params.count
  /-- An array is missing only if nothing is to be read. -/
  present : params.params? = none → params.count = 0
  /-- The kinds of all parameters exist that have a name. -/
  kinds : ∀ param ∈ params.passed, param.IsWellFormed

/-- What an array means. -/
def meaning (params : HostParams) : Params :=
  .ofList (params.passed.filterMap HostParam.entry?)

variable {params : HostParams}

/-- An array is read as what it means, provided that it is well formed. -/
theorem read?_eq_some_iff {given : Params} :
    params.read? = some given ↔ params.IsWellFormed ∧ given = params.meaning := by
  rw [read?]
  split
  next negative =>
    exact iff_of_false nofun fun both => absurd both.1.count (Int.not_le.mpr negative)
  next notNegative =>
    split
    next missing =>
      have nothing : params.passed = [] := by simp [passed, missing]
      split
      next zero =>
        have wellFormed : params.IsWellFormed :=
          ⟨Int.not_lt.mp notNegative, fun _ => zero, by simp [nothing]⟩
        simp [wellFormed, meaning, nothing, Dictionary.ofList, eq_comm]
      next some => exact iff_of_false nofun fun both => some (both.1.present missing)
    next list isList =>
      have passed : params.passed = list.take params.count.toNat := by simp [passed, isList]
      have wellFormed : params.IsWellFormed ↔ ∀ param ∈ params.passed, param.IsWellFormed :=
        ⟨IsWellFormed.kinds, fun kinds => ⟨Int.not_lt.mp notNegative, by simp [isList], kinds⟩⟩
      rw [HostParam.addAll_eq, ← passed, wellFormed]
      split
      next kinds =>
        rw [Option.some_inj]
        exact ⟨fun same => ⟨kinds, same.symm⟩, fun both => both.2.symm⟩
      next kinds => exact iff_of_false nofun fun both => kinds both.1

/-- An array is read exactly if it is well formed. -/
theorem read?_eq_none_iff : params.read? = none ↔ ¬ params.IsWellFormed := by
  cases read : params.read? with
  | none =>
    refine iff_of_true rfl fun wellFormed => ?_
    rw [read?_eq_some_iff.mpr ⟨wellFormed, rfl⟩] at read
    cases read
  | some given => exact iff_of_false nofun (not_not_intro (read?_eq_some_iff.mp read).1)

/-- What an array means for a name is what the last parameter with this name is. -/
theorem find?_meaning (params : HostParams) (name : Text) :
    params.meaning.find? name =
      (params.passed.filterMap HostParam.entry?).reverse.lookup name :=
  Dictionary.find?_ofList _ name

end HostParams

end MessageForms
