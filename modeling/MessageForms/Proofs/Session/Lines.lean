import MessageForms.Proofs.Collects
import MessageForms.Proofs.Relay
import MessageForms.Proofs.Session.Slots

/-!
# The lines that a host receives

Over a history messages are emitted: those that the host has logged, and what the library reports.
The turns before a message tell whether the host listens and which threshold it has set. Each
message that passes then gives one line at once, in the order of the messages, and nothing is kept
for later. A message of the library may hold a NUL byte, at which its line ends for the host.
-/

namespace MessageForms

/-- The report that an event is, if it is one. -/
def Event.diagnostic? : Event → Option Diagnostic
  | report diagnostic => some diagnostic
  | consult _ _ => none

namespace Turn

/-- The threshold that was set in a turn. -/
def thresholdSet? (turn : Turn) : Option Severity :=
  match turn.call with
  | .request (.setLogLevel level) => some (.ofNumber level)
  | _ => none

/-- Whether the host listens since a turn in which it said so. -/
def listensSince? (turn : Turn) : Option Bool :=
  match turn.call with
  | .request (.setLogCallback attached) => some attached
  | _ => none

/-- The relay as the turns so far tell it. -/
def relayed (turns : List Turn) : Relay where
  threshold := (last? thresholdSet? turns).getD .info
  attached := (last? listensSince? turns).getD false

/-- What was told last counts, and what was told before otherwise. -/
theorem relayed_append_singleton (turns : List Turn) (turn : Turn) :
    relayed (turns ++ [turn]) =
      ⟨turn.thresholdSet?.getD (relayed turns).threshold,
        turn.listensSince?.getD (relayed turns).attached⟩ := by
  simp only [relayed, last?_append_singleton, Option.getD_or]

end Turn

/-- A message that was emitted, with the turns before it. -/
structure Emission where
  turns : List Turn
  severity : Severity
  message : Text

namespace Emission

/-- The host listens when a message is emitted, and the message reaches the threshold. -/
def Passes (emission : Emission) : Prop :=
  Turn.last? Turn.listensSince? emission.turns = some true ∧
    ((Turn.last? Turn.thresholdSet? emission.turns).getD .info).number ≤ emission.severity.number

/-- What the host receives of a message that passes: its severity, and the message behind the name
of it, without the line ends behind it and as far as a terminated text goes. -/
structure Gives (emission : Emission) (line : LogLine) : Prop where
  passes : emission.Passes
  severity : line.severity = emission.severity
  text : ∃ stripped, Text.IsStripped (Relay.written emission.severity emission.message) stripped ∧
    Text.IsSeenAs stripped line.text

/-- The host receives the whole message, without the line ends behind it. -/
structure GivesWhole (emission : Emission) (line : LogLine) : Prop where
  passes : emission.Passes
  severity : line.severity = emission.severity
  text : Text.IsStripped (Relay.written emission.severity emission.message) line.text

/-- The line that a message gives at once, if it passes the relay that the turns tell. -/
def line? (emission : Emission) : Option LogLine :=
  (Turn.relayed emission.turns).deliver? (.note emission.severity emission.message)

/-- The turns tell that the host listens exactly if the last one that tells it says so. -/
theorem passes_iff (emission : Emission) :
    emission.Passes ↔ (Turn.relayed emission.turns).attached = true ∧
      (Turn.relayed emission.turns).threshold.number ≤ emission.severity.number := by
  refine and_congr_left fun _ => ?_
  rw [Turn.relayed]
  cases Turn.last? Turn.listensSince? emission.turns <;> simp

/-- A message gives a line exactly if the relay passes the line on. -/
theorem line?_eq_some_iff {emission : Emission} {line : LogLine} :
    emission.line? = some line ↔ emission.Gives line := by
  rw [line?, Relay.deliver?_eq_some_iff, Relay.lineText_eq_iff, ← and_assoc]
  constructor
  · rintro ⟨⟨passes, severity⟩, text⟩
    exact ⟨emission.passes_iff.mpr passes, severity, text⟩
  · rintro ⟨passes, severity, text⟩
    exact ⟨⟨emission.passes_iff.mp passes, severity⟩, text⟩

/-- A message without a NUL byte is received as a whole. -/
theorem gives_iff_givesWhole {emission : Emission} (unended : Byte.nul ∉ emission.message)
    (line : LogLine) : emission.Gives line ↔ emission.GivesWhole line := by
  have headed : Byte.nul ∉ Relay.written emission.severity emission.message := by
    have heading : Byte.nul ∉ Relay.written emission.severity [] := by
      cases emission.severity <;> decide +kernel
    simp only [Relay.written, List.append_nil, List.mem_append, not_or] at heading unended ⊢
    exact ⟨heading, unended⟩
  have seen : ∀ stripped,
      Text.IsStripped (Relay.written emission.severity emission.message) stripped →
        (Text.IsSeenAs stripped line.text ↔ stripped = line.text) := by
    intro stripped isStripped
    obtain ⟨ends, whole, -⟩ := isStripped.whole
    rw [Text.isSeenAs_iff, Text.untilNul_of_not_mem]
    rw [whole, List.mem_append, not_or] at headed
    exact headed.1
  constructor
  · rintro ⟨passes, severity, stripped, isStripped, isSeen⟩
    obtain rfl := (seen stripped isStripped).mp isSeen
    exact ⟨passes, severity, isStripped⟩
  · rintro ⟨passes, severity, isStripped⟩
    exact ⟨passes, severity, _, isStripped, (seen _ isStripped).mpr rfl⟩

end Emission

namespace Session

/-- What a call reports, in order. -/
def reports (session : Session) (thread : ThreadId) : Call → List Diagnostic
  | .request request => (session.perform thread request).events.filterMap Event.diagnostic?
  | .lastCode _ | .lastMessage _ | .defaultLocale _ => []

/-- The messages that are emitted over a history after some turns. -/
def emissions (session : Session) (turns : List Turn) : History → List Emission
  | [] => []
  | (thread, call) :: rest =>
    ((session.reports thread call).map fun diagnostic =>
      ⟨turns, diagnostic.severity, diagnostic.message⟩) ++
      (session.afterCall thread call).emissions
        (turns ++ [⟨thread, call, session.answer thread call⟩]) rest

/-- The lines that the host receives of a call. -/
def linesOf (session : Session) (thread : ThreadId) : Call → List LogLine
  | .request request => session.lines (session.perform thread request).events
  | .lastCode _ | .lastMessage _ | .defaultLocale _ => []

/-- The lines that the host receives over a history. -/
def received (session : Session) : History → List LogLine
  | [] => []
  | (thread, call) :: rest =>
    session.linesOf thread call ++ (session.afterCall thread call).received rest

variable {session : Session} {builtIn : PluralRules}

/-- A query leaves the relay as it is. -/
theorem relay_ask (session : Session) (thread : ThreadId) (id? : Option ContextId)
    (query : Query) : (session.ask thread id? query).value.1.relay = session.relay := by
  cases id? with
  | none => rfl
  | some id =>
    cases found : session.context? (some id) with
    | none => rw [value_ask_of_missing session thread id found]
    | some context =>
      rw [value_ask_of_live session thread id found]
      cases (query.answer context).value <;> rfl

/-- The relay changes when the host sets a threshold, or begins or ceases to listen. -/
theorem relay_afterCall (session : Session) (thread : ThreadId) (call : Call) :
    (session.afterCall thread call).relay =
      match call with
      | .request (.setLogLevel level) => { session.relay with threshold := .ofNumber level }
      | .request (.setLogCallback attached) => { session.relay with attached }
      | _ => session.relay := by
  cases call with
  | request request =>
    cases request with
    | create available => cases available <;> rfl
    | destroy id? => cases id? <;> rfl
    | ask id? query => exact session.relay_ask thread id? query
    | isVariant value? => cases value? <;> rfl
    | log level message? => cases message? <;> rfl
    | _ => rfl
  | _ => rfl

/-- A call changes the relay as its turn tells. -/
theorem relay_afterCall_of_relayed {turns : List Turn} (told : session.relay = Turn.relayed turns)
    (thread : ThreadId) (call : Call) :
    (session.afterCall thread call).relay =
      Turn.relayed (turns ++ [⟨thread, call, session.answer thread call⟩]) := by
  rw [Turn.relayed_append_singleton, ← told, relay_afterCall]
  cases call with
  | request request => cases request <;> rfl
  | _ => rfl

/-- The relay is as told after every history. -/
theorem relay_after (builtIn : PluralRules) (history : History) :
    ((start builtIn).after history).relay = Turn.relayed ((start builtIn).turns history) := by
  induction history using List.reverseRecOn with
  | nil => rfl
  | append_singleton history step inductionHypothesis =>
    rw [after_append, turns_append]
    exact relay_afterCall_of_relayed inductionHypothesis step.1 step.2

/-- The lines of a call are those of its reports. -/
theorem linesOf_eq (session : Session) (thread : ThreadId) (call : Call) :
    session.linesOf thread call =
      (session.reports thread call).filterMap session.relay.deliver? := by
  cases call with
  | request request =>
    rw [linesOf, reports, lines, Relay.lines, List.filterMap_filterMap]
    refine List.filterMap_congr fun event _ => ?_
    cases event <;> rfl
  | _ => rfl

/-- The lines of a history in two parts are those of its parts. -/
theorem received_append (session : Session) (earlier later : History) :
    session.received (earlier ++ later) =
      session.received earlier ++ (session.after earlier).received later := by
  induction earlier generalizing session with
  | nil => rfl
  | cons step earlier inductionHypothesis =>
    rw [List.cons_append, received, inductionHypothesis, received, List.append_assoc, after]

/-- What is received over a history is what its messages give, if the relay is as told. -/
theorem received_eq_filterMap {turns : List Turn} (told : session.relay = Turn.relayed turns)
    (history : History) :
    session.received history = (session.emissions turns history).filterMap Emission.line? := by
  induction history generalizing session turns with
  | nil => rfl
  | cons step history inductionHypothesis =>
    obtain ⟨thread, call⟩ := step
    have ofCall : session.linesOf thread call =
        ((session.reports thread call).map fun diagnostic => Emission.mk turns diagnostic.severity
          diagnostic.message).filterMap Emission.line? := by
      rw [linesOf_eq, told, List.filterMap_map]
      rfl
    rw [received, emissions, List.filterMap_append, ← ofCall,
      inductionHypothesis (relay_afterCall_of_relayed told thread call)]

/-- How the lines over histories come from the messages. -/
structure RelaysInOrder (builtIn : PluralRules) : Prop where
  /-- The lines over a history are those that its messages give, one for each message that passes,
  in the order of the messages, whatever was emitted before. -/
  received (earlier later : History) (lines : List LogLine) :
    ((start builtIn).after earlier).received later = lines ↔
      Collects Emission.Gives
        (((start builtIn).after earlier).emissions ((start builtIn).turns earlier) later) lines
  /-- The lines over a longer history are the ones before and these. -/
  appended (earlier later : History) : (start builtIn).received (earlier ++ later) =
    (start builtIn).received earlier ++ ((start builtIn).after earlier).received later
  /-- The host has one message logged at a time, as a terminated text, and without a text none. -/
  logged (session : Session) (thread : ThreadId) (level : Nat) (message : Text) :
    session.reports thread (.request (.log level (some message))) =
        [.note (.ofNumber level) message.untilNul] ∧
      session.reports thread (.request (.log level none)) = []
  /-- Changing the relay emits nothing. -/
  silent (session : Session) (thread : ThreadId) (level : Nat) (attached : Bool) :
    session.reports thread (.request (.setLogLevel level)) = [] ∧
      session.reports thread (.request (.setLogCallback attached)) = []
  /-- Levels are read as the severities with their numbers, and as `info` where there is none. -/
  levels (level : Nat) :
    (Severity.ofNumber level).number = if level ≤ 5 then level else Severity.info.number
  /-- A message without a NUL byte, such as any that the host has logged, is received whole. -/
  whole (emission : Emission) (unended : Byte.nul ∉ emission.message) (line : LogLine) :
    emission.Gives line ↔ emission.GivesWhole line

/-- No message is lost, repeated, reordered or kept for later on its way to the host. -/
theorem relaysInOrder (builtIn : PluralRules) : RelaysInOrder builtIn where
  received earlier later lines := by
    rw [received_eq_filterMap (relay_after builtIn earlier)]
    exact (collects_iff fun _ _ => Emission.line?_eq_some_iff).symm
  appended := (start builtIn).received_append
  logged _ _ _ _ := ⟨rfl, rfl⟩
  silent _ _ _ _ := ⟨rfl, rfl⟩
  levels := Severity.number_ofNumber
  whole _ := Emission.gives_iff_givesWhole

/-- A host that has messages logged while it does not listen, below its threshold, with levels that
do not exist, and with line ends behind them and in them. -/
def noisyHost : History :=
  [(0, .request (.log 3 (some "lost"))), (0, .request (.setLogCallback true)),
    (1, .request (.log 9 (some "first\r\n\n"))), (0, .request (.setLogLevel 4)),
    (1, .request (.log 3 (some "quiet"))), (1, .request (.create false)),
    (0, .request (.setLogLevel 7)), (0, .request (.log 6 none)),
    (0, .request (.log 6 (some "last\nof all"))), (0, .request (.setLogCallback false)),
    (1, .request (.log 5 (some "gone")))]

/-- The noisy host receives three lines, one for each message that passes. -/
theorem relaysInOrder_noisyHost :
    let lines : List LogLine :=
      [⟨.info, "[msgvariant][info] first"⟩,
        ⟨.error, "[msgvariant][error] Error -1: Failed to create ICU plural rules backend"⟩,
        ⟨.info, "[msgvariant][info] last\nof all"⟩]
    initial.received noisyHost = lines ∧
      Collects Emission.Gives (initial.emissions [] noisyHost) lines ∧
      ∀ turns line, (Emission.mk turns .info "last\nof all").Gives line ↔
        (Emission.mk turns .info "last\nof all").GivesWhole line := by
  intro lines
  have relays := relaysInOrder .builtIn
  have received : initial.received noisyHost = lines := by decide +kernel
  have unended : Byte.nul ∉ Text.ofString "last\nof all" := by decide +kernel
  exact ⟨received, (relays.received [] noisyHost lines).mp received, fun turns line =>
    relays.whole ⟨turns, .info, _⟩ unended line⟩

/-- A host that listens and renders a value with a NUL byte in the key that it falls back to. -/
def cutFallback : History :=
  let value := Text.ofString "[\x7b\"match\":\x7b\"n=1\\u0000\":\"one\"\x7d\x7d]"
  [(0, .request (.setLogCallback true)), (0, .request (.create true)),
    (0, .request (.ask (some 1) (.render (some value) ⟨none, 0⟩ none true)))]

/-- Not every message is received whole: the warning on the key with a NUL byte ends there. -/
theorem not_every_message_is_received_whole :
    ¬ ∀ (builtIn : PluralRules) (earlier later : History) (lines : List LogLine),
      ((start builtIn).after earlier).received later = lines →
        Collects Emission.GivesWhole
          (((start builtIn).after earlier).emissions ((start builtIn).turns earlier) later)
          lines := by
  intro receivedWhole
  let line : LogLine :=
    ⟨.warning, "[msgvariant][warning] No matching variant entry, falling back to 'n=1"⟩
  have received : initial.received cutFallback = [line] := by decide +kernel
  have messages : ∀ message ∈ (initial.emissions [] cutFallback).map Emission.message,
      Byte.nul ∈ message := by
    decide +kernel
  obtain ⟨emission, emitted, gives⟩ :=
    (receivedWhole .builtIn [] cutFallback [line] received).exists_of_mem List.mem_cons_self
  have inMessage := messages _ (List.mem_map_of_mem emitted)
  obtain ⟨ends, whole, areEnds⟩ := gives.text.whole
  have inWhole : Byte.nul ∈ line.text ++ ends := whole ▸ List.mem_append_right _ inMessage
  have notInLine : Byte.nul ∉ line.text := by decide +kernel
  have inEnds := (List.mem_append.mp inWhole).resolve_left notInLine
  exact absurd (areEnds _ inEnds) (by decide)

end Session

end MessageForms
