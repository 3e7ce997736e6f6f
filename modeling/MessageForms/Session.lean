import MessageForms.Query
import MessageForms.Relay

/-!
# Sessions

A session is what a host shares with the library: contexts, which threads use by handle,
the last failure of each thread on each context, and the log relay. Handles are never
used twice, so a failure noted for a context can never be read as that of a later one.
-/

namespace MessageForms

/-- The handle of a context. Handles are counted up; where the counter has 64 bits, it is taken
not to wrap. -/
abbrev ContextId := Nat

/-- A thread of the host. -/
abbrev ThreadId := Nat

/-- The state of a session. -/
structure Session where
  /-- The next handle. -/
  nextId : ContextId
  /-- The contexts that have been created and not destroyed. -/
  contexts : List (ContextId × Context)
  /-- The last failure of a thread on a context, where its last query failed. -/
  failures : List ((ThreadId × ContextId) × Failure)
  relay : Relay
  /-- The rules that every context has until its host gives a categorizer. -/
  builtIn : PluralRules

/-- A request of a host. A missing handle, and one that no context has, refer to no
context. -/
inductive Request where
  /-- Creates a context, which needs the built-in rules to be available. -/
  | create (available : Bool)
  | destroy (id? : Option ContextId)
  | ask (id? : Option ContextId) (query : Query)
  | isVariant (value? : Option Text)
  | setLogLevel (level : Nat)
  | setLogCallback (attached : Bool)
  | log (level : Nat) (message? : Option Text)

/-- What a request hands back. -/
inductive Response where
  | done
  | created (id? : Option ContextId)
  | answered (outcome : Outcome)
  | verdict (isVariant : Bool)

namespace Session

/-- The session of a host that has made no request. Where the built-in rules come from is left
open. -/
def start (builtIn : PluralRules) : Session := ⟨1, [], [], .initial, builtIn⟩

/-- The session of a host that has made no request, over the rules of the library. -/
def initial : Session := start .builtIn

/-- The context of a handle. -/
def context? (session : Session) (id? : Option ContextId) : Option Context :=
  id?.bind fun id => session.contexts.lookup id

/-- The last failure of a thread on a context. -/
def failure? (session : Session) (thread : ThreadId) (id : ContextId) : Option Failure :=
  session.failures.lookup (thread, id)

/-- Notes the outcome of a query: a failure replaces the one before it, and success clears
it. -/
def note (session : Session) (thread : ThreadId) (id : ContextId) (outcome : Outcome) :
    Session :=
  let others := session.failures.filter (·.1 != (thread, id))
  match outcome with
  | .ok _ => { session with failures := others }
  | .error failure => { session with failures := ((thread, id), failure) :: others }

/-- Replaces a context. -/
def setContext (session : Session) (id : ContextId) (context : Context) : Session :=
  { session with
    contexts := session.contexts.map fun entry => if entry.1 = id then (id, context) else entry }

/-- Destroys a context, and with it the failure of the thread that does so; those of other
threads stay out of reach, since their handle is gone. -/
def destroy (session : Session) (thread : ThreadId) (id? : Option ContextId) : Session :=
  match id? with
  | none => session
  | some id =>
    { session with
      contexts := session.contexts.filter (·.1 != id)
      failures := session.failures.filter (·.1 != (thread, id)) }

/-- Puts a new context under the next handle. -/
def addContext (session : Session) : Session :=
  { session with
    nextId := session.nextId + 1
    contexts := (session.nextId, .initial session.builtIn) :: session.contexts }

/-- Creates a context, and notes how that went as for a query. If it fails, this is reported,
and the context is destroyed at once with what was noted for it; its handle is used up. -/
def create (session : Session) (thread : ThreadId) (available : Bool) :
    Traced (Session × Option ContextId) :=
  let id := session.nextId
  if available then pure (session.addContext.note thread id (.ok .done), some id)
  else do
    Traced.report (.requestFailed .rulesUnavailable)
    let failed := session.addContext.note thread id (.error .rulesUnavailable)
    pure (failed.destroy thread (some id), none)

/-- Answers a query. A failure is noted for the thread and reported, unless there is no
context to note it on. -/
def ask (session : Session) (thread : ThreadId) (id? : Option ContextId) (query : Query) :
    Traced (Session × Outcome) :=
  match id? with
  | none => pure (session, .error .missingContext)
  | some id =>
    match session.contexts.lookup id with
    | none => pure (session, .error .missingContext)
    | some context => do
      let outcome ← query.answer context
      match outcome with
      | .ok _ => pure ()
      | .error failure => Traced.report (.requestFailed failure)
      pure (((session.setContext id (query.configure context)).note thread id outcome), outcome)

/-- Performs a request. -/
def perform (session : Session) (thread : ThreadId) :
    Request → Traced (Session × Response)
  | .create available => do
    let (session, id?) ← session.create thread available
    pure (session, .created id?)
  | .destroy id? => pure (session.destroy thread id?, .done)
  | .ask id? query => do
    let (session, outcome) ← session.ask thread id? query
    pure (session, .answered outcome)
  | .isVariant value? =>
    match value? with
    | none => pure (session, .verdict false)
    | some value => do
      let variant ← Variant.ofText? value.untilNul
      pure (session, .verdict variant.isSome)
  | .setLogLevel level =>
    pure ({ session with relay := { session.relay with threshold := .ofNumber level } }, .done)
  | .setLogCallback attached =>
    pure ({ session with relay := { session.relay with attached } }, .done)
  | .log level message? =>
    match message? with
    | none => pure (session, .done)
    | some message => do
      Traced.report (.note (.ofNumber level) message.untilNul)
      pure (session, .done)

/-- The lines that the host receives for the events of a request. -/
def lines (session : Session) (events : List Event) : List LogLine :=
  session.relay.lines events

/-- The code of a thread's last query on a context. -/
def lastCode (session : Session) (thread : ThreadId) (id? : Option ContextId) : Int :=
  match id? with
  | none => Failure.missingContext.code
  | some id =>
    if (session.contexts.lookup id).isSome then
      (session.failure? thread id).elim Failure.success Failure.code
    else Failure.missingContext.code

/-- The message of a thread's last query on a context. -/
def lastMessage (session : Session) (thread : ThreadId) (id? : Option ContextId) : Text :=
  match id? with
  | none => Failure.missingContext.message
  | some id =>
    if (session.contexts.lookup id).isSome then
      (session.failure? thread id).elim Failure.successMessage Failure.message
    else Failure.missingContext.message

/-- The default locale of a context, empty if there is no context. -/
def defaultLocale (session : Session) (id? : Option ContextId) : Text :=
  (session.context? id?).elim [] Context.locale

end Session

end MessageForms
