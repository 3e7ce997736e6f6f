import MessageForms.ParamList
import MessageForms.Session

/-!
# Clients

A client wraps a session for one thread. Its holders own contexts: each context belongs to
exactly one holder, moves from holder to holder, and is destroyed with the holder that has
it. A failed request becomes an exception, and the exchanges with the session are recorded
in order.
-/

namespace MessageForms

/-- The exception that a failed request becomes. -/
structure Thrown where
  code : Int
  message : Text
deriving DecidableEq

/-- A request with what came of it. -/
structure Exchange where
  request : Request
  response : Response
  events : List Event
  lines : List LogLine

/-- The state of a client. -/
structure Client where
  session : Session
  /-- The holders by name, each with the handle of the context that it owns, if any. -/
  holders : List (Text × Option ContextId)
  /-- The exchanges so far, in order. -/
  exchanges : List Exchange

namespace Client

/-- The code of an exception without a cause. -/
def unknownCode : Int := -99

/-- The only thread of a client. -/
def thread : ThreadId := 0

/-- The client of a session, without holders. -/
def ofSession (session : Session) : Client := ⟨session, [], []⟩

/-- Makes a request of the session and records it. -/
def request (client : Client) (request : Request) : Client × Response :=
  let result := client.session.perform thread request
  let exchange : Exchange :=
    ⟨request, result.value.2, result.events, client.session.lines result.events⟩
  ({ client with
      session := result.value.1
      exchanges := client.exchanges ++ [exchange] }, result.value.2)

/-- The handle that a holder owns. -/
def held (client : Client) (holder : Text) : Option ContextId :=
  (client.holders.lookup holder).join

/-- Whether there is a holder with a name. -/
def hasHolder (client : Client) (holder : Text) : Bool :=
  (client.holders.lookup holder).isSome

/-- Gives a holder, if there is one with the name, a handle or nothing to own. -/
def setHeld (client : Client) (holder : Text) (id? : Option ContextId) : Client :=
  { client with
    holders := client.holders.map fun entry => if entry.1 = holder then (holder, id?) else entry }

/-- Destroys a context, or nothing. -/
def discard (client : Client) (id? : Option ContextId) : Client :=
  (client.request (.destroy id?)).1

/-- Adds a holder that owns a handle or nothing. If the name is taken, the new holder ends at
once, and the one that has the name stays. -/
def addHolder (client : Client) (holder : Text) (id? : Option ContextId) : Client :=
  if client.hasHolder holder then client.discard id?
  else { client with holders := client.holders ++ [(holder, id?)] }

/-- Makes a holder with a context of its own, or none at all if the creation fails. -/
def construct (client : Client) (holder : Text) (available : Bool) :
    Client × Except Thrown Unit :=
  match client.request (.create available) with
  | (client, .created (some id)) => (client.addHolder holder (some id), .ok ())
  | (client, _) =>
    (client, .error ⟨Failure.rulesUnavailable.code, "Context creation failed"⟩)

/-- Makes a holder of what another one owns; the other owns nothing afterwards. -/
def moveConstruct (client : Client) (source target : Text) : Client :=
  (client.setHeld source none).addHolder target (client.held source)

/-- Moves what one holder owns to another, whose own context is destroyed first. A move to
itself changes nothing. -/
def moveAssign (client : Client) (source target : Text) : Client :=
  if source = target ∨ !client.hasHolder target then client
  else
    ((client.discard (client.held target)).setHeld target (client.held source)).setHeld source
      none

/-- Ends a holder and the context that it owns. -/
def destruct (client : Client) (holder : Text) : Client :=
  let client := if client.hasHolder holder then client.discard (client.held holder) else client
  { client with holders := client.holders.filter (·.1 != holder) }

/-- The code and the message of the last query. -/
def lastError (client : Client) (holder : Text) : Int × Text :=
  (client.session.lastCode thread (client.held holder),
    client.session.lastMessage thread (client.held holder))

/-- Puts a query to the context of a holder. -/
def query (client : Client) (holder : Text) (query : Query) : Client × Outcome :=
  match client.request (.ask (client.held holder) query) with
  | (client, .answered outcome) => (client, outcome)
  | (client, _) => (client, .error .missingContext)

/-- Asks the context of a holder. A failure becomes an exception with its code and the
message that the session then has for it. -/
def ask (client : Client) (holder : Text) (query : Query) : Client × Except Thrown Reply :=
  match client.query holder query with
  | (client, .ok reply) => (client, .ok reply)
  | (client, .error failure) => (client, .error ⟨failure.code, (client.lastError holder).2⟩)

/-- The text of a reply. -/
def replyText : Reply → Text
  | .text content => content
  | _ => []

/-- Asks for a text. -/
def askText (client : Client) (holder : Text) (query : Query) :
    Client × Except Thrown Text :=
  let (client, result) := client.ask holder query
  (client, result.map replyText)

/-- Changes the default locale. -/
def setLocale (client : Client) (holder locale : Text) : Client × Except Thrown Unit :=
  let (client, result) := client.ask holder (.setLocale (some locale))
  (client, result.map fun _ => ())

/-- Changes the source of plural categories. -/
def setCategorizer (client : Client) (holder : Text) (categorizer? : Option Categorizer) :
    Client × Except Thrown Unit :=
  let (client, result) := client.ask holder (.setCategorizer categorizer?)
  (client, result.map fun _ => ())

/-- The default locale. -/
def locale (client : Client) (holder : Text) : Text :=
  client.session.defaultLocale (client.held holder)

/-- Renders a value. -/
def render (client : Client) (holder value : Text) (params : ParamList)
    (locale? : Option Text) : Client × Except Thrown Text :=
  client.askText holder (.render (some value) params.toHost locale? true)

/-- The active key of a value. -/
def activeKey (client : Client) (holder value : Text) (params : ParamList)
    (locale? : Option Text) : Client × Except Thrown Text :=
  client.askText holder (.activeKey (some value) params.toHost locale? true)

/-- The keys of the forms with the given indices, up to the first failure. -/
def formKeysAt (client : Client) (holder value : Text) :
    List Nat → Client × Except Thrown (List Text)
  | [] => (client, .ok [])
  | index :: rest =>
    match client.askText holder (.formKey (some value) index true) with
    | (client, .error thrown) => (client, .error thrown)
    | (client, .ok key) =>
      let (client, keys) := client.formKeysAt holder value rest
      (client, keys.map (key :: ·))

/-- The exception that the last error of a holder becomes, with a message of its own if there
is none. -/
def lastThrown (client : Client) (holder message : Text) : Thrown :=
  let last := client.lastError holder
  { code := if last.1 = Failure.success then unknownCode else last.1
    message := if last.2 = [] then message else last.2 }

/-- The keys of all forms of a value: their number is asked for first, and then one key
after the other. -/
def formKeys (client : Client) (holder value : Text) : Client × Except Thrown (List Text) :=
  let count := Query.formCount (some value)
  match client.query holder count with
  | (client, outcome) =>
    if count.returned outcome < 0 then
      (client, .error (client.lastThrown holder "FormKeys failed"))
    else client.formKeysAt holder value (List.range (count.returned outcome).toNat)

/-- The template under a key. -/
def formTemplate (client : Client) (holder value key : Text) : Client × Except Thrown Text :=
  client.askText holder (.formTemplate (some value) (some key) true)

/-- Whether two values have the same active form. -/
def activeFormEquals (client : Client) (holder value other : Text) (params : ParamList)
    (locale? : Option Text) : Client × Except Thrown Bool :=
  let (client, result) := client.ask holder
    (.activeFormEquals (some value) (some other) params.toHost locale? true)
  (client, result.map fun reply => reply == .verdict true)

/-- The plural category of a number. -/
def category (client : Client) (holder : Text) (number : Double) (locale? : Option Text)
    (type : PluralType) : Client × Except Thrown Text :=
  client.askText holder (.category number locale? type true)

/-- Whether a value is a variant. -/
def isVariant (client : Client) (value : Text) : Client × Bool :=
  match client.request (.isVariant (some value)) with
  | (client, .verdict isVariant) => (client, isVariant)
  | (client, _) => (client, false)

end Client

end MessageForms
