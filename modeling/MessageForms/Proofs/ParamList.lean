import MessageForms.ParamList
import MessageForms.Proofs.HostParams
import MessageForms.Proofs.Text.Cuts

/-!
# What a list of parameters passes on

Setting parameters in any order, each as often as one likes, leaves one entry to each name: at
the place where the name was set first, with the value that was set last, and without a trace of
the values before. So the array that is passed on means the values that were set last.
-/

namespace MessageForms

/-- The entry of a name with a value, whose other fields are blank. -/
def ParamEntry.of (name : Text) : ParamValue → ParamEntry
  | .text content => { name, kind := .text, text := content }
  | .number content => { name, kind := .number, number := content }
  | .flag content => { name, kind := .flag, flag := content }

@[simp] theorem ParamEntry.name_of (name : Text) (value : ParamValue) :
    (ParamEntry.of name value).name = name := by
  cases value <;> rfl

namespace HostParam

/-- The parameter of a name with a value as a host passes it: the fields of the other kinds are
empty, zero and false. -/
def of (name : Text) : ParamValue → HostParam
  | .text content => ⟨some name, 0, some content, .zero, 0⟩
  | .number content => ⟨some name, 1, some [], content, 0⟩
  | .flag content => ⟨some name, 2, some [], .zero, if content then 1 else 0⟩

/-- The kind of a passed value exists. -/
theorem isWellFormed_of (name : Text) (value : ParamValue) : (of name value).IsWellFormed := by
  intro _
  cases value <;> simp [of]

/-- A passed value is read as it is, unless a NUL byte ends its name or its text. -/
theorem entry?_of {name : Text} {value : ParamValue} (wholeName : Byte.nul ∉ name)
    (whole : ∀ content, value = .text content → Byte.nul ∉ content) :
    HostParam.entry? (of name value) = some (name, value) := by
  have nameEnds : name.untilNul = name := Text.before_of_not_mem wholeName
  cases value with
  | text content =>
    have contentEnds : content.untilNul = content := Text.before_of_not_mem (whole content rfl)
    simp [of, entry?, value?, nameEnds, contentEnds]
  | number content => simp [of, entry?, value?, nameEnds]
  | flag content => cases content <;> simp [of, entry?, value?, nameEnds]

end HostParam

namespace ParamList

/-- The list of values that are given one after the other. -/
def ofGiven (given : List (Text × GivenValue)) : ParamList :=
  given.foldl (fun list step => list.give step.1 step.2) []

/-- The values that are given for names, in order. -/
def values (given : List (Text × GivenValue)) : List (Text × ParamValue) :=
  given.map fun step => (step.1, step.2.value)

/-- Setting a parameter puts the entry of its value, and leaves nothing of the one before. -/
theorem set_map_of (entries : List (Text × ParamValue)) (name : Text) (value : ParamValue) :
    set (entries.map fun entry => .of entry.1 entry.2) name value =
      (Entries.put name value entries).map fun entry => .of entry.1 entry.2 := by
  have puts : ∀ (kind : ParamKind) (fill : ParamEntry → ParamEntry),
      fill { name, kind } = .of name value →
        put name kind fill (entries.map fun entry => .of entry.1 entry.2) =
          (Entries.put name value entries).map fun entry => .of entry.1 entry.2 := by
    intro kind fill filled
    induction entries with
    | nil => simp [put, Entries.put, filled]
    | cons entry entries inductionHypothesis =>
      by_cases same : entry.1 = name
      · simp [put, Entries.put, filled, same]
      · simp [put, Entries.put, same, inductionHypothesis]
  cases value with
  | text content => exact puts .text _ rfl
  | number content => exact puts .number _ rfl
  | flag content => exact puts .flag _ rfl

/-- A list holds each name at its first place with the entry of its last value. -/
theorem ofGiven_eq (given : List (Text × GivenValue)) :
    ofGiven given = (Entries.merge (values given)).map fun entry => .of entry.1 entry.2 := by
  induction given using List.reverseRecOn with
  | nil => rfl
  | append_singleton given step inductionHypothesis =>
    have last : values (given ++ [step]) = values given ++ [(step.1, step.2.value)] := by
      simp [values]
    rw [last, Entries.merge_append_singleton, ← set_map_of, ← inductionHypothesis, ofGiven,
      List.foldl_concat]
    rfl

/-- What is passed on for a list of values is one parameter to each name. -/
theorem raw_ofGiven (given : List (Text × GivenValue)) :
    (ofGiven given).map hostParam =
      (Entries.merge (values given)).map fun entry => .of entry.1 entry.2 := by
  rw [ofGiven_eq, List.map_map]
  refine List.map_congr_left fun entry _ => ?_
  obtain ⟨name, value⟩ := entry
  cases value <;> rfl

/-- Everything that a list passes on is to be read. -/
theorem passed_toHost (list : ParamList) : list.toHost.passed = list.map hostParam :=
  List.take_of_length_le (by simp [toHost])

/-- Values none of whose names and texts has a NUL byte. -/
def AreWhole (given : List (Text × GivenValue)) : Prop :=
  ∀ step ∈ given, Byte.nul ∉ step.1 ∧
    ∀ content, step.2.value = .text content → Byte.nul ∉ content

/-- A list is read as the values that were given last. -/
theorem read?_toHost_ofGiven {given : List (Text × GivenValue)} (whole : AreWhole given) :
    (ofGiven given).toHost.read? = some (.ofList (values given)) := by
  have passed : (ofGiven given).toHost.passed =
      (Entries.merge (values given)).map fun entry => .of entry.1 entry.2 :=
    (passed_toHost _).trans (raw_ofGiven given)
  have wellFormed : (ofGiven given).toHost.IsWellFormed := by
    refine ⟨Int.natCast_nonneg _, nofun, ?_⟩
    rw [passed]
    intro param member
    obtain ⟨entry, -, rfl⟩ := List.mem_map.mp member
    exact HostParam.isWellFormed_of entry.1 entry.2
  have entries : (ofGiven given).toHost.passed.filterMap HostParam.entry? =
      Entries.merge (values given) := by
    rw [passed, List.filterMap_map]
    refine (List.filterMap_congr fun entry member => ?_).trans List.filterMap_some
    obtain ⟨step, isStep, rfl⟩ := List.mem_map.mp (Entries.mem_of_mem_merge member)
    exact HostParam.entry?_of (whole step isStep).1 (whole step isStep).2
  refine HostParams.read?_eq_some_iff.mpr ⟨wellFormed, ?_⟩
  rw [HostParams.meaning, entries, Dictionary.ofList_merge]

/-- What a list passes on of the values that it is given. -/
structure PassesLatest (given : List (Text × GivenValue)) : Prop where
  /-- All of it is to be read. -/
  passed : (ofGiven given).toHost.passed = (ofGiven given).map hostParam
  /-- There is one parameter to each name, in the order in which the names were first given. -/
  names : ((ofGiven given).map hostParam).map HostParam.name? =
    (given.map Prod.fst).eraseDups.map some
  /-- A parameter has the value that was last given for its name, and no other. -/
  latest (param : HostParam) (member : param ∈ (ofGiven given).map hostParam) :
    ∃ name value, param = .of name value ∧ (values given).reverse.lookup name = some value
  /-- A name means the value that was last given for it. -/
  meaning (whole : AreWhole given) : ∃ params, (ofGiven given).toHost.read? = some params ∧
    ∀ name, params.find? name = (values given).reverse.lookup name

/-- Whatever a list is given, it passes on the values that were given last. -/
theorem passesLatest (given : List (Text × GivenValue)) : PassesLatest given where
  passed := passed_toHost _
  names := by
    have named : ∀ entry : Text × ParamValue,
        (HostParam.of entry.1 entry.2).name? = some entry.1 := by
      rintro ⟨name, value⟩
      cases value <;> rfl
    calc ((ofGiven given).map hostParam).map HostParam.name?
        = (Entries.merge (values given)).map fun entry => some entry.1 := by
          rw [raw_ofGiven, List.map_map]
          exact List.map_congr_left fun entry _ => named entry
      _ = ((Entries.merge (values given)).map Prod.fst).map some := (List.map_map).symm
      _ = (given.map Prod.fst).eraseDups.map some := by
          rw [Entries.keys_merge, values, List.map_map]
          rfl
  latest param member := by
    rw [raw_ofGiven] at member
    obtain ⟨entry, merged, rfl⟩ := List.mem_map.mp member
    refine ⟨entry.1, entry.2, rfl, ?_⟩
    rw [← Entries.lookup_merge]
    exact (Entries.mem_iff_lookup (Entries.nodup_merge _)).mp merged
  meaning whole := ⟨_, read?_toHost_ofGiven whole, Dictionary.find?_ofList _⟩

end ParamList

end MessageForms
