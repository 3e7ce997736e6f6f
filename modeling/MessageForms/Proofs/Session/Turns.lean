import MessageForms.Proofs.Query.Endings
import MessageForms.Proofs.Session.Slots

/-!
# What turns tell of a context

What happened to a context is told by the turns in which it answered a query. A query to a
handle without a context was put to none and tells nothing. Since a handle is given out before
a context can answer under it, the turns tell nothing yet of a context that is to come, and a
new one starts from nothing.
-/

namespace MessageForms

namespace Turn

/-- A turn in which a context answered a query. -/
structure Asks (turn : Turn) (id : ContextId) (query : Query) (outcome : Outcome) : Prop where
  call : turn.call = .request (.ask (some id) query)
  answer : turn.answer = .response (.answered outcome)
  answered : outcome ≠ .error .missingContext

/-- Whether that which is read off turns tells of a context only. -/
def TellsOf {α : Type} (read : Turn → Option α) (id : ContextId) : Prop :=
  ∀ turn told, read turn = some told → ∃ query outcome, turn.Asks id query outcome

variable {α : Type} {read : Turn → Option α} {id : ContextId}

/-- A turn in which a context answers nothing tells nothing of it. -/
theorem TellsOf.eq_none (tells : TellsOf read id) {turn : Turn}
    (unasked : ∀ query outcome, ¬ turn.Asks id query outcome) : read turn = none := by
  refine Option.eq_none_iff_forall_ne_some.mpr fun told isTold => ?_
  obtain ⟨query, outcome, asks⟩ := tells turn told isTold
  exact unasked query outcome asks

end Turn

namespace Session

variable {session : Session} {id : ContextId}

/-- A history takes no handle back. -/
theorem nextId_le_after (session : Session) (history : History) :
    session.nextId ≤ (session.after history).nextId := by
  induction history generalizing session with
  | nil => exact Nat.le_refl _
  | cons step history inductionHypothesis =>
    exact Nat.le_trans (session.nextId_le_afterCall step.1 step.2) (inductionHypothesis _)

/-- A query that was answered had a context to answer it, and so its handle had been given
out. -/
theorem IsFresh.answered_of_asks (fresh : session.IsFresh) {history : History} {turn : Turn}
    (made : turn ∈ session.turns history) {query : Query} {outcome : Outcome}
    (asks : turn.Asks id query outcome) :
    id < (session.after history).nextId ∧
      ∃ context, outcome = (query.answer context).value := by
  induction history generalizing session with
  | nil => cases made
  | cons step history inductionHypothesis =>
    obtain ⟨caller, call⟩ := step
    obtain rfl | later := List.mem_cons.mp made
    · obtain ⟨rfl, answer, answered⟩ := asks
      rw [answer_ask] at answer
      cases answer
      have notEmpty : (session.slot id).context? ≠ none := by
        intro missing
        rw [Slot.outcome, missing] at answered
        exact answered rfl
      obtain ⟨context, found⟩ := Option.ne_none_iff_exists'.mp notEmpty
      refine ⟨?_, context, by rw [Slot.outcome, found]⟩
      have given : id < session.nextId := Nat.lt_of_not_le fun toCome =>
        notEmpty (congrArg Slot.context? (fresh id toCome))
      exact Nat.lt_of_lt_of_le given (session.nextId_le_after ((caller, _) :: history))
    · exact inductionHypothesis (fresh.afterCall caller call) later

/-- The turns tell nothing yet of a context that is to come. -/
theorem last?_eq_none_of_toCome {α : Type} {read : Turn → Option α}
    (tells : Turn.TellsOf read id) {builtIn : PluralRules} {history : History}
    (toCome : ((start builtIn).after history).nextId ≤ id) :
    Turn.last? read ((start builtIn).turns history) = none := by
  refine Turn.last?_eq_none fun turn made => tells.eq_none fun query outcome asks => ?_
  have given := ((isFresh_start builtIn).answered_of_asks made asks).1
  exact absurd toCome (Nat.not_le_of_lt given)

/-- What a turn does to a slot: the context is created or destroyed, or it answers a query, or
nothing happens to it and the turn tells nothing of it. -/
theorem turn_cases (session : Session) (thread : ThreadId) (id : ContextId) (call : Call) :
    (∃ available, call = .request (.create available) ∧ id = session.nextId ∧
        (session.afterCall thread call).slot id =
          (session.slot id).create session.builtIn thread available) ∨
      (call = .request (.destroy (some id)) ∧
        (session.afterCall thread call).slot id = (session.slot id).destroy thread) ∨
      (∃ query context, call = .request (.ask (some id) query) ∧
        (session.slot id).context? = some context ∧
        session.answer thread call = .response (.answered (query.answer context).value) ∧
        (session.afterCall thread call).slot id = (session.slot id).ask thread query) ∨
      (∀ query outcome,
          ¬ (Turn.mk thread call (session.answer thread call)).Asks id query outcome) ∧
        (session.afterCall thread call).slot id = session.slot id := by
  obtain created | destroyed | ⟨query, rfl, slot⟩ | ⟨other, slot⟩ :=
    session.slot_cases thread id call
  · exact .inl created
  · exact .inr (.inl destroyed)
  · rw [answer_ask, Slot.outcome]
    cases found : (session.slot id).context? with
    | none =>
      rw [Slot.ask, found] at slot
      refine .inr (.inr (.inr ⟨fun put outcome asks => ?_, slot⟩))
      cases asks.answer
      exact asks.answered rfl
    | some context => exact .inr (.inr (.inl ⟨query, context, rfl, rfl, rfl, slot⟩))
  · exact .inr (.inr (.inr ⟨fun query _ asks => other query asks.call, slot⟩))

end Session

end MessageForms
