import Mathlib.Logic.Function.Basic
import MessageForms.History

/-!
# What a session keeps for a handle

All that a session keeps for one handle is its slot: the context, if there is one, and the
last failure of each thread on it. A call on a handle acts on the slot of that handle alone,
and by what stands there alone. The slots of handles that are still to come are empty.
-/

namespace MessageForms

namespace Outcome

/-- The failure that an outcome is, if it is one. -/
def failure? : Outcome → Option Failure
  | .ok _ => none
  | .error failure => some failure

end Outcome

/-- What a session keeps for one handle. -/
@[ext] structure Slot where
  context? : Option Context
  failure? : ThreadId → Option Failure

namespace Slot

/-- The slot of a handle that has not been given out. -/
def empty : Slot := ⟨none, fun _ => none⟩

/-- Notes the outcome of a thread's query. -/
def note (slot : Slot) (thread : ThreadId) (outcome : Outcome) : Slot :=
  { slot with failure? := Function.update slot.failure? thread (Outcome.failure? outcome) }

/-- Takes the context out, with the failure of the thread that does so. -/
def destroy (slot : Slot) (thread : ThreadId) : Slot :=
  ⟨none, Function.update slot.failure? thread none⟩

/-- Puts a new context in, if it can be made. -/
def create (slot : Slot) (builtIn : PluralRules) (thread : ThreadId) (available : Bool) : Slot :=
  if available then ⟨some (.initial builtIn), Function.update slot.failure? thread none⟩
  else slot.destroy thread

/-- What a query is answered. -/
def outcome (slot : Slot) (query : Query) : Outcome :=
  match slot.context? with
  | none => .error .missingContext
  | some context => (query.answer context).value

/-- Lets a thread put a query to the context. -/
def ask (slot : Slot) (thread : ThreadId) (query : Query) : Slot :=
  match slot.context? with
  | none => slot
  | some context =>
    { slot with context? := some (query.configure context) }.note thread
      (query.answer context).value

/-- The code of a thread's last query. -/
def lastCode (slot : Slot) (thread : ThreadId) : Int :=
  if slot.context?.isSome then (slot.failure? thread).elim Failure.success Failure.code
  else Failure.missingContext.code

/-- The message of a thread's last query. -/
def lastMessage (slot : Slot) (thread : ThreadId) : Text :=
  if slot.context?.isSome then (slot.failure? thread).elim Failure.successMessage Failure.message
  else Failure.missingContext.message

variable (slot : Slot) (thread : ThreadId) (query : Query)

/-- A query that leaves the defaults as they are leaves the context as it is. -/
theorem context?_ask
    (unchanged : ∀ context, slot.context? = some context → query.configure context = context) :
    (slot.ask thread query).context? = slot.context? := by
  rw [ask]
  cases found : slot.context? with
  | none => exact found
  | some context => exact congrArg some (unchanged context found)

/-- A query neither creates a context nor destroys one. -/
theorem isSome_context?_ask :
    (slot.ask thread query).context?.isSome = slot.context?.isSome := by
  rw [ask]
  cases found : slot.context? with
  | none => rw [found]
  | some context => rfl

/-- A query notes its outcome for the thread that puts it, if there is a context. -/
theorem failure?_ask (caller : ThreadId) :
    (slot.ask thread query).failure? caller =
      if slot.context?.isSome ∧ caller = thread then Outcome.failure? (slot.outcome query)
      else slot.failure? caller := by
  rw [ask, outcome]
  cases slot.context? with
  | none => simp
  | some context => simp [note, Function.update_apply]

end Slot

section Association

variable {κ α : Type} [BEq κ] [LawfulBEq κ] [DecidableEq κ]

/-- A look-up asks the first entry first. -/
theorem lookup_cons_eq_ite (key : κ) (entry : κ × α) (entries : List (κ × α)) :
    (entry :: entries).lookup key =
      if key = entry.1 then some entry.2 else entries.lookup key := by
  rw [List.lookup_cons]
  by_cases same : key = entry.1
  · rw [if_pos same, beq_iff_eq.mpr same]
  · rw [if_neg same, beq_eq_false_iff_ne.mpr same]

/-- Without the entries of a key, only the look-up of this key changes. -/
theorem lookup_filter_bne (key other : κ) (entries : List (κ × α)) :
    (entries.filter (·.1 != key)).lookup other =
      if other = key then none else entries.lookup other := by
  induction entries with
  | nil => simp
  | cons entry entries inductionHypothesis =>
    by_cases dropped : entry.1 = key
    · rw [List.filter_cons_of_neg (by simpa using dropped), inductionHypothesis,
        lookup_cons_eq_ite, dropped]
      split <;> rfl
    · rw [List.filter_cons_of_pos (by simpa using dropped), lookup_cons_eq_ite,
        lookup_cons_eq_ite, inductionHypothesis]
      by_cases same : other = key
      · rw [if_neg (same ▸ Ne.symm dropped), if_pos same, if_pos same]
      · rw [if_neg same, if_neg same]

/-- With the entries of a key replaced, only the look-up of this key changes, and it finds
nothing where it found nothing before. -/
theorem lookup_map_replace (key other : κ) (value : α) (entries : List (κ × α)) :
    (entries.map fun entry => if entry.1 = key then (key, value) else entry).lookup other =
      if other = key then (entries.lookup key).map fun _ => value else entries.lookup other := by
  induction entries with
  | nil => simp
  | cons entry entries inductionHypothesis =>
    rw [List.map_cons, lookup_cons_eq_ite, inductionHypothesis, lookup_cons_eq_ite,
      lookup_cons_eq_ite]
    by_cases same : other = key
    · by_cases replaced : entry.1 = key
      · simp [same, replaced]
      · simp [same, replaced, Ne.symm replaced]
    · by_cases replaced : entry.1 = key
      · simp [same, replaced]
      · simp [same, replaced]

end Association

namespace Session

/-- The slot of a handle. -/
def slot (session : Session) (id : ContextId) : Slot :=
  ⟨session.context? (some id), fun thread => session.failure? thread id⟩

variable (session : Session) (thread : ThreadId) (id other : ContextId)

/-- Noting an outcome changes the slot that it is noted in. -/
theorem slot_note (outcome : Outcome) :
    (session.note thread id outcome).slot other =
      if other = id then (session.slot id).note thread outcome else session.slot other := by
  have failures : ∀ caller, (session.note thread id outcome).failure? caller other =
      if (caller, other) = (thread, id) then Outcome.failure? outcome
      else session.failure? caller other := by
    intro caller
    have cleared := lookup_filter_bne (thread, id) (caller, other) session.failures
    cases outcome with
    | ok reply => exact cleared
    | error failure =>
      refine (lookup_cons_eq_ite (caller, other) _ _).trans ?_
      rw [cleared]
      split <;> rfl
  split
  next same =>
    subst same
    ext1
    · cases outcome <;> rfl
    · funext caller
      refine (failures caller).trans ?_
      simp [Slot.note, slot, Function.update_apply]
  next different =>
    ext1
    · cases outcome <;> rfl
    · funext caller
      refine (failures caller).trans (if_neg ?_)
      simp [different]

/-- Replacing a context leaves the other slots and all failures as they are. -/
theorem slot_setContext (context : Context) :
    (session.setContext id context).slot other =
      if other = id then
        { session.slot id with context? := (session.slot id).context?.map fun _ => context }
      else session.slot other := by
  have contexts := lookup_map_replace id other context session.contexts
  split
  next same =>
    subst same
    ext1
    · exact contexts.trans (if_pos rfl)
    · rfl
  next different =>
    ext1
    · exact contexts.trans (if_neg different)
    · rfl

/-- Destroying a context changes its slot. -/
theorem slot_destroy :
    (session.destroy thread (some id)).slot other =
      if other = id then (session.slot id).destroy thread else session.slot other := by
  have contexts := lookup_filter_bne id other session.contexts
  have failures : ∀ caller, (session.destroy thread (some id)).failure? caller other =
      if (caller, other) = (thread, id) then none else session.failure? caller other :=
    fun caller => lookup_filter_bne (thread, id) (caller, other) session.failures
  split
  next same =>
    subst same
    ext1
    · exact contexts.trans (if_pos rfl)
    · funext caller
      refine (failures caller).trans ?_
      simp [Slot.destroy, slot, Function.update_apply]
  next different =>
    ext1
    · exact contexts.trans (if_neg different)
    · funext caller
      refine (failures caller).trans (if_neg ?_)
      simp [different]

/-- A new context stands in the slot of the next handle. -/
theorem slot_addContext :
    session.addContext.slot other =
      if other = session.nextId then
        { session.slot session.nextId with context? := some (.initial session.builtIn) }
      else session.slot other := by
  have contexts := lookup_cons_eq_ite other (session.nextId, .initial session.builtIn)
    session.contexts
  split
  next same =>
    subst same
    ext1
    · exact contexts.trans (if_pos rfl)
    · rfl
  next different =>
    ext1
    · exact contexts.trans (if_neg different)
    · rfl

/-- Creating a context changes the slot of the next handle, also if it fails. -/
theorem slot_create (available : Bool) :
    (session.create thread available).value.1.slot other =
      if other = session.nextId then
        (session.slot session.nextId).create session.builtIn thread available
      else session.slot other := by
  have noted : ∀ outcome,
      (session.addContext.note thread session.nextId outcome).slot session.nextId =
        ({ session.slot session.nextId with
            context? := some (.initial session.builtIn) } : Slot).note thread outcome := by
    intro outcome
    rw [slot_note, if_pos rfl, slot_addContext, if_pos rfl]
  have untouched : other ≠ session.nextId → ∀ outcome,
      (session.addContext.note thread session.nextId outcome).slot other = session.slot other := by
    intro different outcome
    rw [slot_note, if_neg different, slot_addContext, if_neg different]
  cases available with
  | true =>
    change (session.addContext.note thread session.nextId (.ok .done)).slot other = _
    split
    next same => rw [same, noted]; rfl
    next different => exact untouched different _
  | false =>
    change ((session.addContext.note thread session.nextId (.error .rulesUnavailable)).destroy
      thread (some session.nextId)).slot other = _
    rw [slot_destroy]
    split
    next same =>
      -- The failure that is noted for the new context goes with it.
      rw [noted]
      simp [Slot.note, Slot.destroy, Slot.create]
    next different => exact untouched different _

/-- A query to a context is answered by it. The defaults may change, and the outcome is
noted. -/
theorem value_ask_of_live {context : Context} (live : session.context? (some id) = some context)
    (query : Query) :
    (session.ask thread (some id) query).value =
      ((session.setContext id (query.configure context)).note thread id
        (query.answer context).value, (query.answer context).value) := by
  have found : session.contexts.lookup id = some context := live
  simp only [ask, found, Traced.value_bind]
  cases (query.answer context).value <;> rfl

/-- Without a context, a query changes nothing. -/
theorem value_ask_of_missing (missing : session.context? (some id) = none) (query : Query) :
    (session.ask thread (some id) query).value = (session, .error .missingContext) := by
  have absent : session.contexts.lookup id = none := missing
  simp only [ask, absent]
  rfl

/-- What a query is answered. -/
def outcome (query : Query) : Outcome := (session.ask thread (some id) query).value.2

/-- A query is answered by the context that it is put to. -/
theorem outcome_of_live {context : Context} (live : session.context? (some id) = some context)
    (query : Query) : session.outcome thread id query = (query.answer context).value := by
  rw [outcome, value_ask_of_live session thread id live]

/-- A query is answered by what stands in the slot. -/
theorem outcome_eq_slot_outcome (query : Query) :
    session.outcome thread id query = (session.slot id).outcome query := by
  cases found : session.context? (some id) with
  | none => rw [outcome, value_ask_of_missing session thread id found, Slot.outcome, slot, found]
  | some context => rw [outcome_of_live session thread id found, Slot.outcome, slot, found]

/-- A query changes the slot that it is put to. -/
theorem slot_ask (query : Query) :
    (session.ask thread (some id) query).value.1.slot other =
      if other = id then (session.slot id).ask thread query else session.slot other := by
  cases found : session.context? (some id) with
  | none =>
    have same : (session.slot id).ask thread query = session.slot id := by
      rw [Slot.ask, slot, found]
    rw [value_ask_of_missing session thread id found, same]
    split
    next isId => rw [isId]
    next => rfl
  | some context =>
    rw [value_ask_of_live session thread id found, slot_note, slot_setContext, slot_setContext,
      if_pos rfl]
    split
    next =>
      simp only [Slot.ask, slot, found, Option.map_some]
    next => rfl

/-- A query uses up no handle, and leaves the built-in rules as they are. -/
theorem nextId_builtIn_ask (id? : Option ContextId) (query : Query) :
    (session.ask thread id? query).value.1.nextId = session.nextId ∧
      (session.ask thread id? query).value.1.builtIn = session.builtIn := by
  cases id? with
  | none => exact ⟨rfl, rfl⟩
  | some id =>
    cases found : session.context? (some id) with
    | none =>
      rw [value_ask_of_missing session thread id found]
      exact ⟨rfl, rfl⟩
    | some context =>
      rw [value_ask_of_live session thread id found]
      cases (query.answer context).value <;> exact ⟨rfl, rfl⟩

/-- No call changes the built-in rules. -/
theorem builtIn_afterCall (call : Call) :
    (session.afterCall thread call).builtIn = session.builtIn := by
  cases call with
  | request request =>
    cases request with
    | create available => cases available <;> rfl
    | destroy id? => cases id? <;> rfl
    | ask id? query => exact (session.nextId_builtIn_ask thread id? query).2
    | isVariant value? => cases value? <;> rfl
    | log level message? => cases message? <;> rfl
    | _ => rfl
  | _ => rfl

/-- No history changes the built-in rules. -/
theorem builtIn_after (history : History) :
    (session.after history).builtIn = session.builtIn := by
  induction history generalizing session with
  | nil => rfl
  | cons step history inductionHypothesis =>
    exact (inductionHypothesis _).trans (session.builtIn_afterCall step.1 step.2)

/-- Only the creation of a context uses up a handle. -/
theorem nextId_afterCall (call : Call) :
    (session.afterCall thread call).nextId =
      match call with
      | .request (.create _) => session.nextId + 1
      | _ => session.nextId := by
  cases call with
  | request request =>
    cases request with
    | create available => cases available <;> rfl
    | destroy id? => cases id? <;> rfl
    | ask id? query => exact (session.nextId_builtIn_ask thread id? query).1
    | isVariant value? => cases value? <;> rfl
    | log level message? => cases message? <;> rfl
    | _ => rfl
  | _ => rfl

/-- What a call does to a slot: creation acts on the slot of the next handle, destruction and
queries on the slot of their handle, and every other call on none. -/
theorem slot_afterCall (call : Call) :
    (session.afterCall thread call).slot id =
      match call with
      | .request (.create available) =>
        if id = session.nextId then
          (session.slot session.nextId).create session.builtIn thread available
        else session.slot id
      | .request (.destroy (some called)) =>
        if id = called then (session.slot called).destroy thread else session.slot id
      | .request (.ask (some called) query) =>
        if id = called then (session.slot called).ask thread query else session.slot id
      | _ => session.slot id := by
  cases call with
  | request request =>
    cases request with
    | create available => exact session.slot_create thread id available
    | destroy id? =>
      cases id? with
      | none => rfl
      | some called => exact session.slot_destroy thread called id
    | ask id? query =>
      cases id? with
      | none => rfl
      | some called => exact session.slot_ask thread called id query
    | isVariant value? => cases value? <;> rfl
    | log level message? => cases message? <;> rfl
    | _ => rfl
  | _ => rfl

/-- The calls that act on the slot of a handle: the creation of a context under this handle,
its destruction, and a query to it. Every other call leaves the slot as it is. -/
theorem slot_cases (call : Call) :
    (∃ available, call = .request (.create available) ∧ id = session.nextId ∧
        (session.afterCall thread call).slot id =
          (session.slot id).create session.builtIn thread available) ∨
      (call = .request (.destroy (some id)) ∧
        (session.afterCall thread call).slot id = (session.slot id).destroy thread) ∨
      (∃ query, call = .request (.ask (some id) query) ∧
        (session.afterCall thread call).slot id = (session.slot id).ask thread query) ∨
      (∀ query, call ≠ .request (.ask (some id) query)) ∧
        (session.afterCall thread call).slot id = session.slot id := by
  have slot := session.slot_afterCall thread id call
  cases call with
  | request request =>
    cases request with
    | create available =>
      by_cases new : id = session.nextId
      · subst new
        exact .inl ⟨available, rfl, rfl, slot.trans (if_pos rfl)⟩
      · exact .inr (.inr (.inr ⟨nofun, slot.trans (if_neg new)⟩))
    | destroy id? =>
      cases id? with
      | none => exact .inr (.inr (.inr ⟨nofun, slot⟩))
      | some called =>
        by_cases same : id = called
        · subst same
          exact .inr (.inl ⟨rfl, slot.trans (if_pos rfl)⟩)
        · exact .inr (.inr (.inr ⟨nofun, slot.trans (if_neg same)⟩))
    | ask id? query =>
      cases id? with
      | none => exact .inr (.inr (.inr ⟨nofun, slot⟩))
      | some called =>
        by_cases same : id = called
        · subst same
          exact .inr (.inr (.inl ⟨query, rfl, slot.trans (if_pos rfl)⟩))
        · refine .inr (.inr (.inr ⟨fun query asks => ?_, slot.trans (if_neg same)⟩))
          cases asks
          exact same rfl
    | _ => exact .inr (.inr (.inr ⟨nofun, slot⟩))
  | _ => exact .inr (.inr (.inr ⟨nofun, slot⟩))

/-- No call takes a handle back. -/
theorem nextId_le_afterCall (call : Call) :
    session.nextId ≤ (session.afterCall thread call).nextId := by
  rw [nextId_afterCall]
  split
  next => exact Nat.le_succ _
  next => exact Nat.le_refl _

/-- A query is answered from the slot of its handle. -/
theorem answer_ask (query : Query) :
    session.answer thread (.request (.ask (some id) query)) =
      .response (.answered ((session.slot id).outcome query)) := by
  rw [← outcome_eq_slot_outcome session thread]
  rfl

/-- The last code is read from the slot of the handle. -/
theorem lastCode_eq : session.lastCode thread (some id) = (session.slot id).lastCode thread := rfl

/-- The last message is read from the slot of the handle. -/
theorem lastMessage_eq :
    session.lastMessage thread (some id) = (session.slot id).lastMessage thread := rfl

/-- The default locale is read from the slot of the handle. -/
theorem defaultLocale_eq :
    session.defaultLocale (some id) = (session.slot id).context?.elim [] Context.locale := rfl

/-- The slots of the handles that are still to come are empty. -/
def IsFresh (session : Session) : Prop :=
  ∀ id, session.nextId ≤ id → session.slot id = .empty

theorem isFresh_start (builtIn : PluralRules) : (start builtIn).IsFresh := fun _ _ => rfl

variable {session}

/-- A call leaves the slots of the handles that are still to come empty. -/
theorem IsFresh.afterCall (fresh : session.IsFresh) (call : Call) :
    (session.afterCall thread call).IsFresh := by
  intro id toCome
  have empty := fresh id (Nat.le_trans (session.nextId_le_afterCall thread call) toCome)
  obtain ⟨available, rfl, new, -⟩ | ⟨-, slot⟩ | ⟨query, -, slot⟩ | ⟨-, slot⟩ :=
    session.slot_cases thread id call
  · -- The handle of a new context is no longer to come.
    rw [nextId_afterCall, new] at toCome
    exact absurd toCome (Nat.not_succ_le_self _)
  · rw [slot, empty]
    simp [Slot.destroy, Slot.empty]
  · rw [slot, empty]
    rfl
  · rw [slot, empty]

/-- A history leaves the slots of the handles that are still to come empty. -/
theorem IsFresh.after (fresh : session.IsFresh) (history : History) :
    (session.after history).IsFresh := by
  induction history generalizing session with
  | nil => exact fresh
  | cons step history inductionHypothesis =>
    exact inductionHypothesis (fresh.afterCall step.1 step.2)

end Session

end MessageForms
