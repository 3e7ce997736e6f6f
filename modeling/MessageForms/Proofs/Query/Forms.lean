import MessageForms.Proofs.Query.Outcomes
import MessageForms.Proofs.Variant.Resaving

/-!
# Asking for the forms that are listed

A host counts the forms of a value, lists their keys and asks for their templates. Each of
these queries decodes the value anew, and every text ends at a NUL byte on its way out and on
its way in. A key without a NUL byte comes back as it is, and leads to its template. A key with
one comes back cut off, and does not.
-/

namespace MessageForms

namespace Variant

variable {variant : Variant}

/-- No key leads to the template of another entry. -/
theorem template?_of_mem (distinct : variant.forms.Nodup) {entry : Text × Text}
    (member : entry ∈ variant.table) : variant.template? entry.1 = some entry.2 :=
  (Entries.mem_iff_lookup distinct).mp member

/-- Entries that differ in place differ in their keys. -/
theorem key_ne_of_ne (distinct : variant.forms.Nodup) {index other : Nat}
    (inside : index < variant.table.length) (otherInside : other < variant.table.length)
    (different : index ≠ other) : variant.table[index].1 ≠ variant.table[other].1 := by
  have apart := List.pairwise_iff_getElem.mp (List.pairwise_map.mp distinct)
  obtain before | after := Nat.lt_or_gt_of_ne different
  · exact apart index other inside otherInside before
  · exact (apart other index otherInside inside after).symm

/-- Only the keys of the table lead to templates. -/
theorem template?_eq_none {key : Text} (unknown : ∀ entry ∈ variant.table, entry.1 ≠ key) :
    variant.template? key = none :=
  List.lookup_eq_none_iff.mpr fun entry member => bne_iff_ne.mpr (unknown entry member).symm

end Variant

namespace Session

/-- What a host gets of the forms of a value, which are the entries of a table. -/
structure OffersForms (session : Session) (thread : ThreadId) (id : ContextId) (value : Text)
    (table : MatchTable) : Prop where
  /-- Each index gives a key. -/
  key (index : Nat) (inside : index < table.length) :
    session.outcome thread id (.formKey (some value) index true) = Outcome.text table[index].1
  /-- A key that is handed out whole gives the template that stands under it. -/
  template (index : Nat) (inside : index < table.length) (whole : Byte.nul ∉ table[index].1) :
    session.outcome thread id
        (.formTemplate (some value) (some table[index].1.untilNul) true) =
      Outcome.text table[index].2
  /-- A text that is no whole key gives no template. -/
  noTemplate (text : Text) (unknown : ∀ entry ∈ table, entry.1 ≠ text.untilNul) :
    session.outcome thread id (.formTemplate (some value) (some text) true) =
      .error (.keyNotFound text.untilNul)
  /-- Keys that are handed out whole differ. -/
  distinct (index other : Nat) (inside : index < table.length)
    (otherInside : other < table.length) (different : index ≠ other)
    (whole : Byte.nul ∉ table[index].1) (otherWhole : Byte.nul ∉ table[other].1) :
    table[index].1.untilNul ≠ table[other].1.untilNul
  /-- The active key is that of an entry, and what is rendered is the template of this entry. -/
  active (params : HostParams) (wellFormed : params.IsWellFormed) (locale? : Option Text) :
    ∃ index, ∃ inside : index < table.length,
      session.outcome thread id (.activeKey (some value) params locale? true) =
          Outcome.text table[index].1 ∧
        session.outcome thread id (.render (some value) params locale? true) =
          Outcome.text (Template.substitute table[index].2 params.meaning)

variable {session : Session} {thread : ThreadId} {id : ContextId} {context : Context}

/-- A value of which forms are counted offers as many forms. -/
theorem offersForms_of_counted (live : session.context? (some id) = some context) {value : Text}
    (counted : 0 < (Query.formCount (some value)).returned
      (session.outcome thread id (.formCount (some value)))) :
    ∃ variant, StoredValue.variant? value = some variant ∧
      (Query.formCount (some value)).returned
          (session.outcome thread id (.formCount (some value))) = variant.table.length ∧
      session.OffersForms thread id value variant.table := by
  have ends := endsWith_outcome live thread (.formCount (some value))
  generalize session.outcome thread id (.formCount (some value)) = outcome at ends counted
  cases ends with
  | countOfTemplate => cases counted
  | @counted _ variant decoded =>
    obtain ⟨-, storable⟩ := Variant.isStorable_of_ofText? decoded
    refine ⟨variant, decoded, rfl, ?_⟩
    exact {
      key := fun index inside => outcome_of_endsWith live
        (.keyListed decoded (Int.natCast_nonneg index) (List.getElem?_eq_getElem inside))
      template := fun index inside whole => by
        have back : variant.table[index].1.untilNul = variant.table[index].1 :=
          Text.before_of_not_mem whole
        refine outcome_of_endsWith live (.templateFound decoded ?_)
        rw [back, back]
        exact Variant.template?_of_mem storable.distinct (List.getElem_mem inside)
      noTemplate := fun text unknown =>
        outcome_of_endsWith live (.templateMissing decoded (Variant.template?_eq_none unknown))
      distinct := fun index other inside otherInside different whole otherWhole same => by
        refine Variant.key_ne_of_ne storable.distinct inside otherInside different ?_
        calc variant.table[index].1
            = variant.table[index].1.untilNul := (Text.before_of_not_mem whole).symm
          _ = variant.table[other].1.untilNul := same
          _ = variant.table[other].1 := Text.before_of_not_mem otherWhole
      active := fun params wellFormed locale? => by
        have read := HostParams.read?_eq_some_iff.mpr ⟨wellFormed, rfl⟩
        have nonempty : variant.table ≠ [] := List.ne_nil_of_length_pos (Int.natCast_pos.mp counted)
        obtain ⟨entry, member, active⟩ :=
          Variant.exists_activeEntry nonempty (context.setting params.meaning locale?)
        obtain ⟨index, inside, rfl⟩ := List.getElem_of_mem member
        refine ⟨index, inside, outcome_of_endsWith live (.activeKeyFound read decoded ?_),
          (outcome_of_endsWith live (.rendered read)).trans ?_⟩
        · simp [Variant.activeKey, active]
        · rw [Variant.render_of_ofText? decoded, Variant.render, Traced.value_bind, active]
          rfl }

/-- A value with a NUL byte in a key. -/
def valueWithCutKey : Text :=
  Text.ofString "[\x7b\"match\":\x7b\"n=1\\u0000\":\"one\"\x7d\x7d]"

/-- A key with a NUL byte is handed out without what follows, and then gives no template. -/
theorem no_template_of_cut_key :
    (Query.formCount (some valueWithCutKey)).returned
        (withOneContext.outcome 0 1 (.formCount (some valueWithCutKey))) = 1 ∧
      withOneContext.outcome 0 1 (.formKey (some valueWithCutKey) 0 true) =
        Outcome.text (Text.ofString "n=1") ∧
      withOneContext.outcome 0 1
          (.formTemplate (some valueWithCutKey) (some (Text.ofString "n=1")) true) =
        .error (.keyNotFound (Text.ofString "n=1")) := by
  decide +kernel

/-- A value with two forms. -/
def valueWithTwoForms : Text :=
  Text.ofString "[\x7b\"match\":\x7b\"n=1\":\"one\",\"*\":\"many\"\x7d\x7d]"

/-- The keys of the two forms are handed out whole, so the second one gives its template. -/
theorem offersForms_valueWithTwoForms :
    0 < (Query.formCount (some valueWithTwoForms)).returned
        (withOneContext.outcome 0 1 (.formCount (some valueWithTwoForms))) ∧
      withOneContext.outcome 0 1 (.formKey (some valueWithTwoForms) 1 true) =
        Outcome.text (Text.ofString "*") ∧
      withOneContext.outcome 0 1
          (.formTemplate (some valueWithTwoForms) (some (Text.ofString "*")) true) =
        Outcome.text (Text.ofString "many") := by
  have live : withOneContext.context? (some 1) = some (.initial .builtIn) := rfl
  have counted : 0 < (Query.formCount (some valueWithTwoForms)).returned
      (withOneContext.outcome 0 1 (.formCount (some valueWithTwoForms))) := by decide +kernel
  obtain ⟨variant, decoded, -, offers⟩ := offersForms_of_counted live counted
  have isVariant : StoredValue.variant? valueWithTwoForms =
      some ⟨[], [], [(Text.ofString "n=1", Text.ofString "one"),
        (Text.ofString "*", Text.ofString "many")]⟩ := by decide +kernel
  cases decoded.symm.trans isVariant
  exact ⟨counted, offers.key 1 (by decide), offers.template 1 (by decide) (by decide +kernel)⟩

end Session

end MessageForms
