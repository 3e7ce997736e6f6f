import MessageForms.Proofs.Session.Defaults

/-!
# Contexts on their own

What happens to one context does not depend on the others, on the log or on which threads
work at the same time. A history is cut down to the calls that concern one context, which
then goes by the first handle. Both histories are performed side by side: the slots of the
context stay the same, so every call that is left is answered as before.
-/

namespace MessageForms

/-- The handle of the first context of a session. -/
def ContextId.first : ContextId := 1

/-- The handle of a call when one context is alone: this context has the first handle, no other
context has one, and a missing handle stays missing. -/
def ContextId.alone? (id : ContextId) : Option ContextId → Option (Option ContextId)
  | none => some none
  | some called => if called = id then some (some .first) else none

/-- A call that keeps its handle is one on the context or one without a handle. -/
theorem ContextId.alone?_eq_some {id : ContextId} {called? handle? : Option ContextId}
    (kept : id.alone? called? = some handle?) :
    (called? = none ∧ handle? = none) ∨ (called? = some id ∧ handle? = some .first) := by
  cases called? with
  | none =>
    cases kept
    exact .inl ⟨rfl, rfl⟩
  | some called =>
    rw [alone?] at kept
    split at kept
    next same =>
      cases kept
      exact .inr ⟨congrArg some same, rfl⟩
    next => cases kept

namespace Turn

/-- What the host did in a turn. -/
def action (turn : Turn) : ThreadId × Call := (turn.thread, turn.call)

/-- A turn when one context is alone. What concerns another context or the log is left out. -/
def alone? (id : ContextId) (turn : Turn) : Option Turn :=
  match turn.call with
  | .request (.create _) =>
    match turn.answer with
    | .response (.created (some created)) =>
      if created = id then some { turn with answer := .response (.created (some .first)) }
      else none
    | _ => none
  | .request (.destroy id?) =>
    (id.alone? id?).map fun id? => { turn with call := .request (.destroy id?) }
  | .request (.ask id? query) =>
    (id.alone? id?).map fun id? => { turn with call := .request (.ask id? query) }
  | .request (.isVariant _) => some turn
  | .request (.setLogLevel _) | .request (.setLogCallback _) | .request (.log ..) => none
  | .lastCode id? => (id.alone? id?).map fun id? => { turn with call := .lastCode id? }
  | .lastMessage id? => (id.alone? id?).map fun id? => { turn with call := .lastMessage id? }
  | .defaultLocale id? => (id.alone? id?).map fun id? => { turn with call := .defaultLocale id? }

/-- What is left of some turns when one context is alone. -/
def alone (id : ContextId) (turns : List Turn) : List Turn := turns.filterMap (alone? id)

end Turn

namespace Session

/-- Two sessions are at the same point: in the second one, the context of a handle is alone. -/
structure Mirrors (session other : Session) (id : ContextId) : Prop where
  slot : session.slot id = other.slot .first
  builtIn : session.builtIn = other.builtIn
  toCome : session.nextId ≤ id → other.nextId = .first
  fresh : session.IsFresh

variable {session other : Session} {id : ContextId}

/-- A call that is left out does not concern the context. -/
theorem Mirrors.leaveOut (mirrors : session.Mirrors other id) {thread : ThreadId} {call : Call}
    (out : Turn.alone? id ⟨thread, call, session.answer thread call⟩ = none) :
    (session.afterCall thread call).Mirrors other id where
  slot := by
    rw [← mirrors.slot]
    obtain ⟨available, rfl, new, slot⟩ | ⟨rfl, -⟩ | ⟨query, rfl, -⟩ | ⟨-, slot⟩ :=
      session.slot_cases thread id call
    · cases available with
      | false =>
        -- The slot was empty, and it is again.
        rw [slot, mirrors.fresh id (Nat.le_of_eq new.symm)]
        simp [Slot.create, Slot.destroy, Slot.empty]
      | true =>
        rw [new] at out
        exact absurd ((if_pos rfl).symm.trans out) (Option.some_ne_none _)
    · simp [Turn.alone?, ContextId.alone?] at out
    · simp [Turn.alone?, ContextId.alone?] at out
    · exact slot
  builtIn := (session.builtIn_afterCall thread call).trans mirrors.builtIn
  toCome toCome := mirrors.toCome (Nat.le_trans (session.nextId_le_afterCall thread call) toCome)
  fresh := mirrors.fresh.afterCall thread call

/-- Both sessions stay at the same point if a call and its counterpart do the same to the slot
of the context, and no handle is used up. -/
theorem Mirrors.afterCalls (mirrors : session.Mirrors other id) {thread : ThreadId}
    {call counterpart : Call}
    (slot : (session.afterCall thread call).slot id =
      (other.afterCall thread counterpart).slot .first)
    (nextId : (other.afterCall thread counterpart).nextId = other.nextId) :
    (session.afterCall thread call).Mirrors (other.afterCall thread counterpart) id where
  slot := slot
  builtIn := by rw [builtIn_afterCall, builtIn_afterCall, mirrors.builtIn]
  toCome toCome := nextId.trans
    (mirrors.toCome (Nat.le_trans (session.nextId_le_afterCall thread call) toCome))
  fresh := mirrors.fresh.afterCall thread call

/-- A call that is kept is answered in the same way. -/
theorem Mirrors.keep (mirrors : session.Mirrors other id) {thread : ThreadId} {call : Call}
    {turn : Turn}
    (kept : Turn.alone? id ⟨thread, call, session.answer thread call⟩ = some turn) :
    turn = ⟨thread, turn.call, other.answer thread turn.call⟩ ∧
      (session.afterCall thread call).Mirrors (other.afterCall thread turn.call) id := by
  cases call with
  | request request =>
    cases request with
    | create available =>
      cases available with
      | false => cases kept
      | true =>
        obtain ⟨new, counterpart⟩ := Option.ite_none_right_eq_some.mp kept
        cases counterpart
        have first := mirrors.toCome (Nat.le_of_eq new)
        refine ⟨by rw [← first]; rfl, ?_, ?_, fun toCome => ?_, mirrors.fresh.afterCall _ _⟩
        · rw [slot_afterCall, slot_afterCall]
          simp only [new, first, if_true, mirrors.slot, mirrors.builtIn]
        · rw [builtIn_afterCall, builtIn_afterCall, mirrors.builtIn]
        · -- The handle of the context is no longer to come.
          rw [nextId_afterCall, new] at toCome
          exact absurd toCome (Nat.not_succ_le_self _)
    | destroy id? =>
      obtain ⟨handle?, handle, rfl⟩ := Option.map_eq_some_iff.mp kept
      obtain ⟨rfl, rfl⟩ | ⟨rfl, rfl⟩ := ContextId.alone?_eq_some handle
      · exact ⟨rfl, mirrors.afterCalls mirrors.slot rfl⟩
      · refine ⟨rfl, mirrors.afterCalls ?_ rfl⟩
        rw [slot_afterCall, slot_afterCall]
        simp only [if_true, mirrors.slot]
    | ask id? query =>
      obtain ⟨handle?, handle, rfl⟩ := Option.map_eq_some_iff.mp kept
      obtain ⟨rfl, rfl⟩ | ⟨rfl, rfl⟩ := ContextId.alone?_eq_some handle
      · exact ⟨rfl, mirrors.afterCalls mirrors.slot rfl⟩
      · refine ⟨?_, mirrors.afterCalls ?_ (other.nextId_afterCall thread _)⟩
        · simp only [answer_ask, mirrors.slot]
        · rw [slot_afterCall, slot_afterCall]
          simp only [if_true, mirrors.slot]
    | isVariant value? =>
      cases kept
      refine ⟨by cases value? <;> rfl, mirrors.afterCalls ?_ (other.nextId_afterCall thread _)⟩
      rw [slot_afterCall, slot_afterCall]
      exact mirrors.slot
    | setLogLevel level => cases kept
    | setLogCallback attached => cases kept
    | log level message? => cases kept
  | lastCode id? =>
    obtain ⟨handle?, handle, rfl⟩ := Option.map_eq_some_iff.mp kept
    refine ⟨?_, mirrors.afterCalls mirrors.slot rfl⟩
    obtain ⟨rfl, rfl⟩ | ⟨rfl, rfl⟩ := ContextId.alone?_eq_some handle
    · rfl
    · simp only [answer, lastCode_eq, mirrors.slot]
  | lastMessage id? =>
    obtain ⟨handle?, handle, rfl⟩ := Option.map_eq_some_iff.mp kept
    refine ⟨?_, mirrors.afterCalls mirrors.slot rfl⟩
    obtain ⟨rfl, rfl⟩ | ⟨rfl, rfl⟩ := ContextId.alone?_eq_some handle
    · rfl
    · simp only [answer, lastMessage_eq, mirrors.slot]
  | defaultLocale id? =>
    obtain ⟨handle?, handle, rfl⟩ := Option.map_eq_some_iff.mp kept
    refine ⟨?_, mirrors.afterCalls mirrors.slot rfl⟩
    obtain ⟨rfl, rfl⟩ | ⟨rfl, rfl⟩ := ContextId.alone?_eq_some handle
    · rfl
    · simp only [answer, defaultLocale_eq, mirrors.slot]

/-- What is left of a history is answered in the same way when it is performed alone. -/
theorem Mirrors.turns (mirrors : session.Mirrors other id) (history : History) :
    other.turns ((Turn.alone id (session.turns history)).map Turn.action) =
        Turn.alone id (session.turns history) ∧
      (session.after history).Mirrors
        (other.after ((Turn.alone id (session.turns history)).map Turn.action)) id := by
  induction history generalizing session other with
  | nil => exact ⟨rfl, mirrors⟩
  | cons step history inductionHypothesis =>
    obtain ⟨thread, call⟩ := step
    rw [Session.turns, Turn.alone, List.filterMap_cons]
    cases kept : Turn.alone? id ⟨thread, call, session.answer thread call⟩ with
    | none => exact inductionHypothesis (mirrors.leaveOut kept)
    | some turn =>
      obtain ⟨same, next⟩ := mirrors.keep kept
      obtain ⟨laterTurns, laterMirrors⟩ := inductionHypothesis next
      rw [same]
      exact ⟨congrArg (List.cons _) laterTurns, laterMirrors⟩

/-- A thread cannot tell two sessions apart: they have the same contexts, and the same failures
of this thread. -/
structure Alike (session other : Session) (thread : ThreadId) : Prop where
  context? (id : ContextId) : (session.slot id).context? = (other.slot id).context?
  failure? (id : ContextId) : (session.slot id).failure? thread = (other.slot id).failure? thread

variable {thread : ThreadId}

/-- A thread's question is answered alike in sessions that it cannot tell apart. -/
theorem Alike.answer (alike : session.Alike other thread) {call : Call}
    (evaluation : call.IsEvaluation) :
    session.answer thread call = other.answer thread call := by
  cases call with
  | request request =>
    cases request with
    | ask id? query =>
      cases id? with
      | none => rfl
      | some id => rw [answer_ask, answer_ask, Slot.outcome, Slot.outcome, alike.context? id]
    | isVariant value? => cases value? <;> rfl
    | _ => exact evaluation.elim
  | lastCode id? =>
    cases id? with
    | none => rfl
    | some id =>
      simp only [Session.answer, lastCode_eq, Slot.lastCode, alike.context? id, alike.failure? id]
  | lastMessage id? =>
    cases id? with
    | none => rfl
    | some id =>
      simp only [Session.answer, lastMessage_eq, Slot.lastMessage, alike.context? id,
        alike.failure? id]
  | defaultLocale id? =>
    cases id? with
    | none => rfl
    | some id => simp only [Session.answer, defaultLocale_eq, alike.context? id]

/-- A thread that asks the same in sessions that it cannot tell apart finds them alike
afterwards. -/
theorem Alike.afterCalls (alike : session.Alike other thread) {call : Call}
    (evaluation : call.IsEvaluation) :
    (session.afterCall thread call).Alike (other.afterCall thread call) thread where
  context? id := (context?_afterCall_of_isEvaluation evaluation thread id).trans
    ((alike.context? id).trans (context?_afterCall_of_isEvaluation evaluation thread id).symm)
  failure? id := by
    rw [slot_afterCall, slot_afterCall]
    cases call with
    | request request =>
      cases request with
      | ask id? query =>
        cases id? with
        | none => exact alike.failure? id
        | some called =>
          dsimp only
          split
          next =>
            rw [Slot.failure?_ask, Slot.failure?_ask, Slot.outcome, Slot.outcome,
              alike.context? called, alike.failure? called]
          next => exact alike.failure? id
      | isVariant value? => exact alike.failure? id
      | _ => exact evaluation.elim
    | _ => exact alike.failure? id

/-- What another thread asks does not show to a thread. -/
theorem Alike.afterCall (alike : session.Alike other thread) {caller : ThreadId} {call : Call}
    (evaluation : call.IsEvaluation) (different : caller ≠ thread) :
    (session.afterCall caller call).Alike other thread where
  context? id :=
    (context?_afterCall_of_isEvaluation evaluation caller id).trans (alike.context? id)
  failure? id := by
    rw [← alike.failure? id]
    obtain ⟨available, rfl, -, -⟩ | ⟨rfl, -⟩ | ⟨query, rfl, slot⟩ | ⟨-, slot⟩ :=
      session.slot_cases caller id call
    · exact evaluation.elim
    · exact evaluation.elim
    · rw [slot, Slot.failure?_ask, if_neg fun both => different both.2.symm]
    · rw [slot]

/-- Each thread gets from evaluations what it gets when its own are made without the others. -/
theorem Alike.turns (alike : session.Alike other thread) (evaluations : History)
    (evaluate : ∀ step ∈ evaluations, step.2.IsEvaluation) :
    (session.turns evaluations).filter (·.thread = thread) =
      other.turns (evaluations.filter (·.1 = thread)) := by
  induction evaluations generalizing session other with
  | nil => rfl
  | cons step evaluations inductionHypothesis =>
    obtain ⟨caller, call⟩ := step
    obtain ⟨evaluation, evaluate⟩ := List.forall_mem_cons.mp evaluate
    by_cases own : caller = thread
    · subst own
      rw [Session.turns, List.filter_cons_of_pos (by simp), List.filter_cons_of_pos (by simp),
        Session.turns, alike.answer evaluation,
        inductionHypothesis (alike.afterCalls evaluation) evaluate]
    · rw [Session.turns, List.filter_cons_of_neg (by simpa using own),
        List.filter_cons_of_neg (by simpa using own)]
      exact inductionHypothesis (alike.afterCall evaluation own) evaluate

/-- A context is isolated from all else that a history does. What a query returns and hands out
is read off its outcome, so answers are compared as a whole. -/
structure Isolates (builtIn : PluralRules) (history : History) (id : ContextId) : Prop where
  /-- When the context is alone, every call on it is answered in the same way. -/
  turns : (start builtIn).turns
      ((Turn.alone id ((start builtIn).turns history)).map Turn.action) =
    Turn.alone id ((start builtIn).turns history)
  /-- When the context is alone, every thread reads the same last error for it. -/
  lastError (thread : ThreadId) :
    ((start builtIn).after history).lastCode thread (some id) =
        ((start builtIn).after ((Turn.alone id ((start builtIn).turns history)).map
          Turn.action)).lastCode thread (some .first) ∧
      ((start builtIn).after history).lastMessage thread (some id) =
        ((start builtIn).after ((Turn.alone id ((start builtIn).turns history)).map
          Turn.action)).lastMessage thread (some .first)
  /-- The defaults are the ones that were set last, and those of a new context before. -/
  defaults (context : Context)
    (found : ((start builtIn).after history).context? (some id) = some context) :
    context = Turn.configured builtIn id ((start builtIn).turns history)
  /-- Any thread's query is answered from its arguments and the defaults alone. -/
  answer (live : (((start builtIn).after history).context? (some id)).isSome)
    (thread : ThreadId) (query : Query) :
    ((start builtIn).after history).answer thread (.request (.ask (some id) query)) =
      .response (.answered
        (query.answer (Turn.configured builtIn id ((start builtIn).turns history))).value)
  /-- What asks or fails leaves the defaults as they are. -/
  unchanged (thread : ThreadId) (call : Call)
    (idle : call.IsEvaluation ∨ (((start builtIn).after history).answer thread call).IsFailure) :
    (((start builtIn).after history).afterCall thread call).context? (some id) =
      ((start builtIn).after history).context? (some id)
  /-- From here on, each thread gets from evaluations, in whatever order the threads make them,
  what it gets when its own are made without the others. -/
  interleaving (evaluations : History) (evaluate : ∀ step ∈ evaluations, step.2.IsEvaluation)
    (thread : ThreadId) :
    (((start builtIn).after history).turns evaluations).filter (·.thread = thread) =
      ((start builtIn).after history).turns (evaluations.filter (·.1 = thread))

/-- Every history isolates every context. -/
theorem isolates_context (builtIn : PluralRules) (history : History) (id : ContextId) :
    Isolates builtIn history id := by
  have startMirrors : (start builtIn).Mirrors (start builtIn) id :=
    ⟨rfl, rfl, fun _ => rfl, isFresh_start builtIn⟩
  obtain ⟨turns, mirrors⟩ := startMirrors.turns history
  exact {
    turns
    lastError := fun thread => by
      rw [lastCode_eq, lastCode_eq, lastMessage_eq, lastMessage_eq, mirrors.slot]
      exact ⟨rfl, rfl⟩
    defaults := fun context found => eq_configured_of_context? found
    answer := fun live thread query => by
      obtain ⟨context, found⟩ := Option.isSome_iff_exists.mp live
      have slotFound : (((start builtIn).after history).slot id).context? = some context := found
      rw [answer_ask, Slot.outcome, slotFound, ← eq_configured_of_context? found]
    unchanged := fun thread call idle => by
      obtain evaluation | failed := idle
      · exact context?_afterCall_of_isEvaluation evaluation thread id
      · exact context?_afterCall_of_isFailure ((isFresh_start builtIn).after history) failed id
    interleaving := fun evaluations evaluate thread =>
      Alike.turns ⟨fun _ => rfl, fun _ => rfl⟩ evaluations evaluate }

/-- Two threads at work on two contexts, with other locales and failures on each. -/
def sharedWork : History :=
  [(0, .request (.create true)),
    (1, .request (.create true)),
    (0, .request (.ask (some 1) (.setLocale (some "de")))),
    (1, .request (.ask (some 2) (.setLocale (some "fr")))),
    (0, .request (.ask (some 2) (.formCount none))),
    (1, .request (.ask (some 1) (.setLocale none))),
    (1, .request (.setLogLevel 0)),
    (0, .request (.destroy (some 1))),
    (1, .request (.ask (some 2) (.setLocale none)))]

/-- The second context keeps its locale, and its last errors are those that it has alone. -/
theorem isolates_context_sharedWork :
    ((initial.after sharedWork).context? (some 2)).map Context.locale =
        some (Text.ofString "fr") ∧
      (initial.after sharedWork).lastCode 0 (some 2) = Failure.missingValue.code ∧
      (initial.after sharedWork).lastMessage 1 (some 2) = Failure.emptyLocale.message := by
  have isolates := isolates_context .builtIn sharedWork 2
  have live : ((initial.after sharedWork).context? (some 2)).isSome := by decide +kernel
  obtain ⟨context, found⟩ := Option.isSome_iff_exists.mp live
  refine ⟨?_, ?_, ?_⟩
  · rw [found, isolates.defaults context found]
    decide +kernel
  · exact (isolates.lastError 0).1.trans (by decide +kernel)
  · exact (isolates.lastError 1).2.trans (by decide +kernel)

end Session

end MessageForms
