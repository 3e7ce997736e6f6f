import Mathlib.Data.List.Induction
import MessageForms.Proofs.Session.Turns

/-!
# The last error

What a thread reads as the last error of a context is the outcome of the last query that it
put to this context, and success before the first. What carries this through a history is that
the slot of a context keeps the failure of each thread's last query. A new context starts
without a failure, whatever is left of contexts that were destroyed, since nobody has used its
handle before.
-/

namespace MessageForms

namespace Failure

/-- No failure has the code of success. -/
theorem code_ne_success (failure : Failure) : failure.code ≠ success := by
  cases failure <;> simp [code, success]

/-- No failure has the message of success. -/
theorem message_ne_successMessage (failure : Failure) : failure.message ≠ successMessage := by
  cases failure with
  | keyNotFound key =>
    -- The first letters already differ, whatever the key.
    intro same
    have first : successMessage.head? = (Text.ofString "Pattern key not found: ").head? := by
      rw [← same, message, List.head?_append]
      rfl
    exact absurd first (by decide +kernel)
  | _ => decide +kernel

end Failure

namespace Turn

/-- The query that a thread put to a context in a turn, with its outcome. A query to a handle
without a context was put to none. -/
def asked? (thread : ThreadId) (id : ContextId) (turn : Turn) : Option (Query × Outcome) :=
  match turn.call, turn.answer with
  | .request (.ask (some called) query), .response (.answered outcome) =>
    match outcome with
    | .error .missingContext => none
    | _ => if turn.thread = thread ∧ called = id then some (query, outcome) else none
  | _, _ => none

/-- A query that a context answered was asked by the thread that made the call. -/
theorem asked?_of_ne {outcome : Outcome} (answered : outcome ≠ .error .missingContext)
    (thread caller : ThreadId) (id called : ContextId) (query : Query) :
    asked? thread id ⟨caller, .request (.ask (some called) query), .response (.answered outcome)⟩ =
      if caller = thread ∧ called = id then some (query, outcome) else none := by
  unfold asked?
  split
  next called query outcome asks given =>
    cases asks
    cases given
    split
    next => exact absurd rfl answered
    next => rfl
  next unlike => exact (unlike _ _ _ rfl rfl).elim

/-- A query that was asked was answered by the context. -/
theorem asks_of_asked? {thread : ThreadId} {id : ContextId} {turn : Turn} {query : Query}
    {outcome : Outcome} (asked : turn.asked? thread id = some (query, outcome)) :
    turn.Asks id query outcome := by
  unfold asked? at asked
  split at asked
  next called put reply call answer =>
    split at asked
    next => cases asked
    next answered =>
      obtain ⟨both, same⟩ := Option.ite_none_right_eq_some.mp asked
      cases same
      exact ⟨both.2 ▸ call, answer, answered⟩
  next => cases asked

/-- What a thread asked of a context tells of this context only. -/
theorem tellsOf_asked? (thread : ThreadId) (id : ContextId) : TellsOf (asked? thread id) id :=
  fun _ told asked => ⟨told.1, told.2, asks_of_asked? asked⟩

end Turn

namespace Session

/-- A context keeps the failure of a thread's last query, as the turns so far tell it. -/
def Keeps (session : Session) (turns : List Turn) (thread : ThreadId) (id : ContextId) : Prop :=
  (session.context? (some id)).isSome →
    session.failure? thread id =
      (Turn.last? (Turn.asked? thread id) turns).bind fun asked => Outcome.failure? asked.2

variable {session : Session} {turns : List Turn} {thread : ThreadId} {id : ContextId}

/-- What is kept is kept on as long as the slot stays as it is and nothing is asked. -/
theorem Keeps.of_unchanged (keeps : session.Keeps turns thread id) {next : Session}
    (slot : next.slot id = session.slot id) {turn : Turn}
    (unasked : turn.asked? thread id = none) : next.Keeps (turns ++ [turn]) thread id := by
  intro live
  have contexts : next.context? (some id) = session.context? (some id) :=
    congrArg Slot.context? slot
  have failures : next.failure? thread id = session.failure? thread id :=
    congrFun (congrArg Slot.failure? slot) thread
  rw [Turn.last?_append_of_none unasked, failures]
  exact keeps (contexts ▸ live)

/-- Every call keeps what has to be kept, whether it acts on the slot or not. -/
theorem Keeps.afterCall (keeps : session.Keeps turns thread id) (fresh : session.IsFresh)
    (untold : session.nextId ≤ id → Turn.last? (Turn.asked? thread id) turns = none)
    (caller : ThreadId) (call : Call) :
    (session.afterCall caller call).Keeps
      (turns ++ [⟨caller, call, session.answer caller call⟩]) thread id := by
  obtain ⟨available, rfl, new, slot⟩ | ⟨rfl, slot⟩ | ⟨query, context, rfl, found, answer, slot⟩ |
    ⟨unasked, slot⟩ := session.turn_cases caller id call
  · -- The slot was empty, and nobody can have used its handle.
    intro live
    have toCome := Nat.le_of_eq new.symm
    rw [Turn.last?_append_of_none rfl, untold toCome]
    refine (congrFun (congrArg Slot.failure? slot) thread).trans ?_
    rw [fresh id toCome]
    cases available <;> simp [Slot.create, Slot.destroy, Slot.empty]
  · intro live
    have gone : (session.afterCall caller (.request (.destroy (some id)))).context? (some id) =
        none := congrArg Slot.context? slot
    rw [gone] at live
    cases live
  · intro live
    have answered := (query.endsWith_answer context).ne_missingContext
    refine (congrFun (congrArg Slot.failure? slot) thread).trans ?_
    rw [answer, Turn.last?_append_singleton, Turn.asked?_of_ne answered, Slot.failure?_ask,
      Slot.outcome, found]
    by_cases same : caller = thread
    · rw [if_pos ⟨rfl, same.symm⟩, if_pos ⟨same, rfl⟩]
      rfl
    · rw [if_neg fun both => same both.2.symm, if_neg fun both => same both.1, Option.none_or]
      exact keeps (Option.isSome_iff_exists.mpr ⟨context, found⟩)
  · exact keeps.of_unchanged slot ((Turn.tellsOf_asked? thread id).eq_none unasked)

/-- What has to be kept is kept after every history. -/
theorem keeps_after (builtIn : PluralRules) (history : History) (thread : ThreadId)
    (id : ContextId) :
    ((start builtIn).after history).Keeps ((start builtIn).turns history) thread id := by
  induction history using List.reverseRecOn with
  | nil => exact nofun
  | append_singleton history step inductionHypothesis =>
    rw [after_append, turns_append]
    exact inductionHypothesis.afterCall ((isFresh_start builtIn).after history)
      (last?_eq_none_of_toCome (Turn.tellsOf_asked? thread id)) step.1 step.2

/-- A thread reads the code of the last query that it put to a context, and success before the
first. -/
theorem lastCode_of_keeps (keeps : session.Keeps turns thread id)
    (live : (session.context? (some id)).isSome) :
    session.lastCode thread (some id) =
      (Turn.last? (Turn.asked? thread id) turns).elim Failure.success fun asked =>
        Outcome.code asked.2 := by
  have slotLive : (session.slot id).context?.isSome := live
  have failure : (session.slot id).failure? thread = _ := keeps live
  rw [lastCode_eq, Slot.lastCode, if_pos slotLive, failure]
  rcases Turn.last? (Turn.asked? thread id) turns with _ | ⟨query, _ | _⟩ <;> rfl

/-- The message of success goes with the code of success, and with no other. -/
theorem lastMessage_eq_successMessage_iff (live : (session.context? (some id)).isSome) :
    session.lastMessage thread (some id) = Failure.successMessage ↔
      session.lastCode thread (some id) = Failure.success := by
  have slotLive : (session.slot id).context?.isSome := live
  rw [lastMessage_eq, lastCode_eq, Slot.lastMessage, Slot.lastCode, if_pos slotLive,
    if_pos slotLive]
  cases (session.slot id).failure? thread with
  | none => exact iff_of_true rfl rfl
  | some failure =>
    exact iff_of_false failure.message_ne_successMessage failure.code_ne_success

/-- What a thread reads for a context changes only if this thread puts a query to it. -/
theorem lastError_afterCall_of_other (fresh : session.IsFresh) {caller : ThreadId} {call : Call}
    (other : caller ≠ thread ∨ ∀ query, call ≠ .request (.ask (some id) query))
    (live : (session.context? (some id)).isSome)
    (stillLive : ((session.afterCall caller call).context? (some id)).isSome) :
    (session.afterCall caller call).lastCode thread (some id) =
        session.lastCode thread (some id) ∧
      (session.afterCall caller call).lastMessage thread (some id) =
        session.lastMessage thread (some id) := by
  have slotLive : (session.slot id).context?.isSome := live
  have slotStillLive : ((session.afterCall caller call).slot id).context?.isSome := stillLive
  have failure : ((session.afterCall caller call).slot id).failure? thread =
      (session.slot id).failure? thread := by
    obtain ⟨available, rfl, new, -⟩ | ⟨rfl, slot⟩ | ⟨query, rfl, slot⟩ | ⟨-, slot⟩ :=
      session.slot_cases caller id call
    · -- No context stands under the handle of a new one.
      rw [fresh id (Nat.le_of_eq new.symm)] at slotLive
      cases slotLive
    · rw [slot] at slotStillLive
      cases slotStillLive
    · obtain other | nothing := other
      · rw [slot, Slot.failure?_ask, if_neg fun both => other both.2.symm]
      · exact absurd rfl (nothing query)
    · rw [slot]
  simp only [lastCode_eq, lastMessage_eq, Slot.lastCode, Slot.lastMessage, slotLive,
    slotStillLive, failure, and_self]

/-- A new context starts without a failure on every thread. -/
theorem slot_of_created (fresh : session.IsFresh) {caller : ThreadId} {available : Bool}
    {created : ContextId}
    (made : session.answer caller (.request (.create available)) =
      .response (.created (some created))) :
    (session.afterCall caller (.request (.create available))).slot created =
      ⟨some (.initial session.builtIn), fun _ => none⟩ := by
  cases available with
  | false => cases made
  | true =>
    cases made
    rw [slot_afterCall]
    refine (if_pos rfl).trans ?_
    rw [fresh session.nextId (Nat.le_refl _)]
    simp [Slot.create, Slot.empty]

/-- What the last errors of a session tell of the turns that led to it. -/
structure TellsOutcomes (session : Session) (turns : List Turn) : Prop where
  /-- A thread reads the code of the last query that it put to a context. -/
  code (thread : ThreadId) (id : ContextId) (live : (session.context? (some id)).isSome) :
    session.lastCode thread (some id) =
      (Turn.last? (Turn.asked? thread id) turns).elim Failure.success fun asked =>
        Outcome.code asked.2
  /-- It is the code that the query returned. Counting forms returns a count instead, unless
  it fails. -/
  returned (thread : ThreadId) (id : ContextId) (live : (session.context? (some id)).isSome)
    (query : Query) (outcome : Outcome)
    (asked : Turn.last? (Turn.asked? thread id) turns = some (query, outcome)) :
    ((∀ value?, query ≠ .formCount value?) →
        query.returned outcome = session.lastCode thread (some id)) ∧
      ∀ value?, query = .formCount value? →
        (0 ≤ query.returned outcome ↔ session.lastCode thread (some id) = Failure.success)
  /-- The message of success goes with the code of success, and with no other. -/
  message (thread : ThreadId) (id : ContextId) (live : (session.context? (some id)).isSome) :
    session.lastMessage thread (some id) = Failure.successMessage ↔
      session.lastCode thread (some id) = Failure.success
  /-- No call of another thread, and no call but a query to the context, changes what a thread
  reads. -/
  unaffected (thread : ThreadId) (id : ContextId) (live : (session.context? (some id)).isSome)
    (caller : ThreadId) (call : Call)
    (other : caller ≠ thread ∨ ∀ query, call ≠ .request (.ask (some id) query))
    (stillLive : ((session.afterCall caller call).context? (some id)).isSome) :
    (session.afterCall caller call).lastCode thread (some id) =
        session.lastCode thread (some id) ∧
      (session.afterCall caller call).lastMessage thread (some id) =
        session.lastMessage thread (some id)
  /-- For a new context, every thread reads success. -/
  created (caller : ThreadId) (available : Bool) (created : ContextId)
    (made : session.answer caller (.request (.create available)) =
      .response (.created (some created))) (thread : ThreadId) :
    (session.afterCall caller (.request (.create available))).lastCode thread (some created) =
        Failure.success ∧
      (session.afterCall caller (.request (.create available))).lastMessage thread
        (some created) = Failure.successMessage

/-- After every history, the last errors tell the outcomes of the last queries. -/
theorem tellsOutcomes_after (builtIn : PluralRules) (history : History) :
    ((start builtIn).after history).TellsOutcomes ((start builtIn).turns history) where
  code thread id live := lastCode_of_keeps (keeps_after builtIn history thread id) live
  returned thread id live query outcome asked := by
    obtain ⟨turn, made, tells⟩ := Turn.exists_of_last?_eq_some asked
    obtain ⟨-, context, rfl⟩ :=
      (isFresh_start builtIn).answered_of_asks made (Turn.asks_of_asked? tells)
    have ends := query.endsWith_answer context
    rw [lastCode_of_keeps (keeps_after builtIn history thread id) live, asked]
    refine ⟨ends.returned_eq_code, ?_⟩
    rintro value? rfl
    exact ends.returned_formCount
  message thread id live := lastMessage_eq_successMessage_iff live
  unaffected thread id live caller call other stillLive :=
    lastError_afterCall_of_other ((isFresh_start builtIn).after history) other live stillLive
  created caller available created made thread := by
    rw [lastCode_eq, lastMessage_eq, slot_of_created ((isFresh_start builtIn).after history) made]
    exact ⟨rfl, rfl⟩

/-- Two threads at work: the second one fails on a context, which the first one destroys, and
fails again on a later context, after another could not be made. -/
def twoThreads : History :=
  let variant := Text.ofString "[\x7b\"match\":\x7b\"*\":\"a\"\x7d\x7d]"
  [(0, .request (.create true)),
    (1, .request (.ask (some 1) (.formKey none 0 true))),
    (0, .request (.ask (some 1) (.formCount (some variant)))),
    (0, .request (.destroy (some 1))),
    (0, .request (.create false)),
    (1, .request (.create true)),
    (1, .request (.ask (some 3) (.formCount (some "a")))),
    (0, .request (.ask (some 3) (.formCount (some variant))))]

/-- The second of two threads reads its own failure, and the first one reads success. -/
theorem tellsOutcomes_after_twoThreads :
    ((initial.after twoThreads).context? (some 3)).isSome ∧
      (initial.after twoThreads).lastCode 1 (some 3) = Failure.notVariant.code ∧
      (initial.after twoThreads).lastCode 0 (some 3) = Failure.success ∧
      (initial.after twoThreads).lastMessage 0 (some 3) = Failure.successMessage := by
  have live : ((initial.after twoThreads).context? (some 3)).isSome := by decide +kernel
  have told := tellsOutcomes_after .builtIn twoThreads
  have second : (initial.after twoThreads).lastCode 1 (some 3) = Failure.notVariant.code :=
    (told.code 1 3 live).trans (by decide +kernel)
  have first : (initial.after twoThreads).lastCode 0 (some 3) = Failure.success :=
    (told.code 0 3 live).trans (by decide +kernel)
  exact ⟨live, second, first, (told.message 0 3 live).mpr first⟩

end Session

end MessageForms
