import Mathlib.Data.List.Induction
import MessageForms.Proofs.Session.Turns

/-!
# The defaults of a context

A context has the locale and the categorizer that it was last given, and those of a new
context before. Only a change of the defaults that succeeds tells in a turn what they are.
What asks or fails changes nothing, so evaluations may come in any order.
-/

namespace MessageForms

/-- A call that asks or looks, and changes no more than the last error of its thread. -/
def Call.IsEvaluation : Call → Prop
  | .request (.ask _ query) => query.IsEvaluation
  | .request (.isVariant _) => True
  | .request _ => False
  | .lastCode _ | .lastMessage _ | .defaultLocale _ => True

/-- An answer that tells of a failure. -/
def Answer.IsFailure : Answer → Prop
  | .response (.answered (.error _)) => True
  | .response (.created none) => True
  | _ => False

namespace Turn

/-- The locale that was made the default of a context in a turn. -/
def localeSet? (id : ContextId) (turn : Turn) : Option Text :=
  match turn.call, turn.answer with
  | .request (.ask (some called) (.setLocale locale?)), .response (.answered (.ok _)) =>
    if called = id then some (locale?.getD []).untilNul else none
  | _, _ => none

/-- The categorizer that a context was given in a turn, or none if it was taken away. -/
def categorizerSet? (id : ContextId) (turn : Turn) : Option (Option Categorizer) :=
  match turn.call, turn.answer with
  | .request (.ask (some called) (.setCategorizer categorizer?)), .response (.answered (.ok _)) =>
    if called = id then some categorizer? else none
  | _, _ => none

/-- A locale that was set tells of the context only. -/
theorem tellsOf_localeSet? (id : ContextId) : TellsOf (localeSet? id) id := by
  intro turn locale set
  unfold localeSet? at set
  split at set
  next called locale? reply call answer =>
    obtain ⟨same, -⟩ := Option.ite_none_right_eq_some.mp set
    exact ⟨_, _, same ▸ call, answer, nofun⟩
  next => cases set

/-- A categorizer that was given tells of the context only. -/
theorem tellsOf_categorizerSet? (id : ContextId) : TellsOf (categorizerSet? id) id := by
  intro turn categorizer? set
  unfold categorizerSet? at set
  split at set
  next called given? reply call answer =>
    obtain ⟨same, -⟩ := Option.ite_none_right_eq_some.mp set
    exact ⟨_, _, same ▸ call, answer, nofun⟩
  next => cases set

/-- The defaults that a context has after some turns. -/
def configured (builtIn : PluralRules) (id : ContextId) (turns : List Turn) : Context where
  locale := (last? (localeSet? id) turns).getD (Context.initial builtIn).locale
  categorizer? := (last? (categorizerSet? id) turns).join
  builtIn

end Turn

namespace Session

/-- The defaults of a context are the ones that the turns so far tell. -/
def Configures (session : Session) (turns : List Turn) (id : ContextId) : Prop :=
  ∀ context, session.context? (some id) = some context →
    context = Turn.configured session.builtIn id turns

variable {session : Session} {turns : List Turn} {thread : ThreadId} {id : ContextId}

/-- A query that a context answers changes the defaults as the turn tells. -/
theorem configured_append_ask (builtIn : PluralRules) (id : ContextId) (turns : List Turn)
    (thread : ThreadId) (query : Query) :
    Turn.configured builtIn id (turns ++ [⟨thread, .request (.ask (some id) query),
        .response (.answered (query.answer (Turn.configured builtIn id turns)).value)⟩]) =
      query.configure (Turn.configured builtIn id turns) := by
  generalize before : Turn.configured builtIn id turns = context
  cases query with
  | setLocale locale? =>
    rw [Turn.configured, Turn.last?_append_singleton, Turn.last?_append_of_none rfl]
    by_cases empty : (locale?.getD []).untilNul = []
    · simp [Turn.localeSet?, Query.answer, Query.configure, empty, ← before, Turn.configured]
    · simp [Turn.localeSet?, Query.answer, Query.configure, empty, ← before, Turn.configured]
  | setCategorizer categorizer? =>
    rw [Turn.configured, Turn.last?_append_of_none rfl, Turn.last?_append_singleton]
    simp [Turn.categorizerSet?, Query.answer, Query.configure, ← before, Turn.configured]
  | _ =>
    rw [Turn.configured, Turn.last?_append_of_none rfl, Turn.last?_append_of_none rfl]
    exact before

/-- Every call changes the defaults of a context as its turn tells. -/
theorem Configures.afterCall (configures : session.Configures turns id) (fresh : session.IsFresh)
    (untold : session.nextId ≤ id → Turn.last? (Turn.localeSet? id) turns = none ∧
      Turn.last? (Turn.categorizerSet? id) turns = none) (call : Call) :
    (session.afterCall thread call).Configures
      (turns ++ [⟨thread, call, session.answer thread call⟩]) id := by
  intro next nextFound
  rw [builtIn_afterCall]
  obtain ⟨available, rfl, new, slot⟩ | ⟨rfl, slot⟩ | ⟨query, context, rfl, found, answer, slot⟩ |
    ⟨unasked, slot⟩ := session.turn_cases thread id call
  · -- The slot was empty, and nobody can have used its handle.
    have toCome := Nat.le_of_eq new.symm
    obtain ⟨noLocale, noCategorizer⟩ := untold toCome
    have made := (congrArg Slot.context? slot).symm.trans nextFound
    rw [fresh id toCome] at made
    rw [Turn.configured, Turn.last?_append_of_none rfl, Turn.last?_append_of_none rfl, noLocale,
      noCategorizer]
    cases available <;> cases made
    rfl
  · cases (congrArg Slot.context? slot).symm.trans nextFound
  · have told := configures context found
    rw [answer, told, configured_append_ask, ← told]
    rw [Slot.ask, found] at slot
    cases (congrArg Slot.context? slot).symm.trans nextFound
    rfl
  · rw [Turn.configured, Turn.last?_append_of_none ((Turn.tellsOf_localeSet? id).eq_none unasked),
      Turn.last?_append_of_none ((Turn.tellsOf_categorizerSet? id).eq_none unasked)]
    exact configures next ((congrArg Slot.context? slot).symm.trans nextFound)

/-- The defaults of a context are as told after every history. -/
theorem configures_after (builtIn : PluralRules) (history : History) (id : ContextId) :
    ((start builtIn).after history).Configures ((start builtIn).turns history) id := by
  induction history using List.reverseRecOn with
  | nil => exact nofun
  | append_singleton history step inductionHypothesis =>
    rw [after_append, turns_append]
    refine inductionHypothesis.afterCall ((isFresh_start builtIn).after history) (fun toCome => ?_)
      step.2
    exact ⟨last?_eq_none_of_toCome (Turn.tellsOf_localeSet? id) toCome,
      last?_eq_none_of_toCome (Turn.tellsOf_categorizerSet? id) toCome⟩

/-- A context has the defaults that are told after every history. -/
theorem eq_configured_of_context? {builtIn : PluralRules} {history : History} {context : Context}
    (found : ((start builtIn).after history).context? (some id) = some context) :
    context = Turn.configured builtIn id ((start builtIn).turns history) := by
  have told := configures_after builtIn history id context found
  rwa [builtIn_after] at told

/-- Asking and looking change no context. -/
theorem context?_afterCall_of_isEvaluation {call : Call} (evaluation : call.IsEvaluation)
    (thread : ThreadId) (id : ContextId) :
    (session.afterCall thread call).context? (some id) = session.context? (some id) := by
  obtain ⟨available, rfl, -, -⟩ | ⟨rfl, -⟩ | ⟨query, rfl, slot⟩ | ⟨-, slot⟩ :=
    session.slot_cases thread id call
  · exact evaluation.elim
  · exact evaluation.elim
  · exact (congrArg Slot.context? slot).trans
      (Slot.context?_ask _ _ _ fun context _ => Query.configure_of_isEvaluation evaluation)
  · exact congrArg Slot.context? slot

/-- A call that fails changes no context. -/
theorem context?_afterCall_of_isFailure (fresh : session.IsFresh) {call : Call}
    (failed : (session.answer thread call).IsFailure) (id : ContextId) :
    (session.afterCall thread call).context? (some id) = session.context? (some id) := by
  obtain ⟨available, rfl, new, slot⟩ | ⟨rfl, -⟩ | ⟨query, context, rfl, found, answer, slot⟩ |
    ⟨-, slot⟩ := session.turn_cases thread id call
  · cases available with
    | true => exact failed.elim
    | false =>
      -- There was no context under this handle, and there is none.
      exact (congrArg Slot.context? slot).trans
        (congrArg Slot.context? (fresh id (Nat.le_of_eq new.symm))).symm
  · exact failed.elim
  · refine (congrArg Slot.context? slot).trans (Slot.context?_ask _ _ _ fun other otherFound => ?_)
    cases found.symm.trans otherFound
    have ends := query.endsWith_answer context
    rw [answer] at failed
    cases outcome : (query.answer context).value with
    | ok reply =>
      rw [outcome] at failed
      exact failed.elim
    | error failure =>
      rw [outcome] at ends
      exact ends.configure_of_error
  · exact congrArg Slot.context? slot

end Session

end MessageForms
