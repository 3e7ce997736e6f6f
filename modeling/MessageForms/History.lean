import MessageForms.Session

/-!
# Histories

A host may call the library from several threads, and on one context from any of them. A
history lists its calls in the order in which they take effect. Performing a history on a
session gives a turn for each call, which records what the call was answered.
-/

namespace MessageForms

/-- A call of a host: a request, or a look at what a session keeps for a context. -/
inductive Call where
  | request (request : Request)
  | lastCode (id? : Option ContextId)
  | lastMessage (id? : Option ContextId)
  | defaultLocale (id? : Option ContextId)

/-- What a call is answered. -/
inductive Answer where
  | response (response : Response)
  | code (code : Int)
  | text (text : Text)

/-- The calls of a host with the threads that make them, in order. -/
abbrev History := List (ThreadId × Call)

/-- A call that was made, with its answer. -/
structure Turn where
  thread : ThreadId
  call : Call
  answer : Answer

namespace Turn

/-- What was read off the last turn that tells something. -/
def last? {α : Type} (read : Turn → Option α) (turns : List Turn) : Option α :=
  (turns.filterMap read).getLast?

variable {α : Type} {read : Turn → Option α}

/-- The last turn counts first. -/
theorem last?_append_singleton (turns : List Turn) (turn : Turn) :
    last? read (turns ++ [turn]) = (read turn).or (last? read turns) := by
  rw [last?, List.filterMap_append, List.getLast?_append]
  cases told : read turn <;> simp [last?, told]

/-- A turn that tells nothing leaves what was read before. -/
theorem last?_append_of_none {turn : Turn} (untold : read turn = none) (turns : List Turn) :
    last? read (turns ++ [turn]) = last? read turns := by
  rw [last?_append_singleton, untold, Option.none_or]

/-- Where no turn tells anything, nothing was read. -/
theorem last?_eq_none {turns : List Turn} (untold : ∀ turn ∈ turns, read turn = none) :
    last? read turns = none := by
  rw [last?, List.filterMap_eq_nil_iff.mpr untold, List.getLast?_nil]

/-- What was read last was read off one of the turns. -/
theorem exists_of_last?_eq_some {turns : List Turn} {told : α}
    (last : last? read turns = some told) : ∃ turn ∈ turns, read turn = some told :=
  List.mem_filterMap.mp (List.mem_of_getLast? last)

end Turn

namespace Session

/-- The session after a call; only a request can change it. -/
def afterCall (session : Session) (thread : ThreadId) : Call → Session
  | .request request => (session.perform thread request).value.1
  | .lastCode _ | .lastMessage _ | .defaultLocale _ => session

/-- The answer to a call. -/
def answer (session : Session) (thread : ThreadId) : Call → Answer
  | .request request => .response (session.perform thread request).value.2
  | .lastCode id? => .code (session.lastCode thread id?)
  | .lastMessage id? => .text (session.lastMessage thread id?)
  | .defaultLocale id? => .text (session.defaultLocale id?)

/-- The session after a history. -/
def after (session : Session) : History → Session
  | [] => session
  | (thread, call) :: rest => (session.afterCall thread call).after rest

/-- The turns of a history. -/
def turns (session : Session) : History → List Turn
  | [] => []
  | (thread, call) :: rest =>
    ⟨thread, call, session.answer thread call⟩ :: (session.afterCall thread call).turns rest

/-- A history in two parts is performed one part after the other. -/
theorem after_append (session : Session) (earlier later : History) :
    session.after (earlier ++ later) = (session.after earlier).after later := by
  induction earlier generalizing session with
  | nil => rfl
  | cons step earlier inductionHypothesis => exact inductionHypothesis _

/-- The turns of a history in two parts are those of its parts. -/
theorem turns_append (session : Session) (earlier later : History) :
    session.turns (earlier ++ later) =
      session.turns earlier ++ (session.after earlier).turns later := by
  induction earlier generalizing session with
  | nil => rfl
  | cons step earlier inductionHypothesis =>
    exact congrArg (List.cons _) (inductionHypothesis _)

end Session

end MessageForms
