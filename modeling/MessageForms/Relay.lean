import MessageForms.Traced

/-!
# The log relay

Reports reach the host as lines, each with its severity. The relay passes on what is
reported while the host listens and is serious enough; it keeps no report for later.
-/

namespace MessageForms

/-- A line as the host receives it. -/
structure LogLine where
  severity : Severity
  text : Text
deriving DecidableEq

/-- The state of the relay. -/
structure Relay where
  /-- The least severity that passes. -/
  threshold : Severity
  /-- Whether the host listens. -/
  attached : Bool
deriving DecidableEq

namespace Relay

/-- At first nobody listens, and the threshold is `info`. -/
def initial : Relay := ⟨.info, false⟩

/-- The line of a message, without the line ends behind it. It is handed over as a
terminated text, so it ends at a NUL byte. -/
def lineText (severity : Severity) (message : Text) : Text :=
  (Text.ofString "[msgvariant][" ++ severity.name ++ Text.ofString "] " ++
    message).withoutLineEnd.untilNul

/-- The line that a report makes now, if it passes. -/
def deliver? (relay : Relay) (diagnostic : Diagnostic) : Option LogLine :=
  if relay.attached ∧ relay.threshold.number ≤ diagnostic.severity.number then
    some ⟨.ofThreshold diagnostic.severity.number,
      lineText diagnostic.severity diagnostic.message⟩
  else none

/-- The line of an event, if it is a report that passes. -/
def lineOf? (relay : Relay) : Event → Option LogLine
  | .report diagnostic => relay.deliver? diagnostic
  | .consult _ _ => none

/-- The lines of a run of events, in order. -/
def lines (relay : Relay) (events : List Event) : List LogLine :=
  events.filterMap relay.lineOf?

end Relay

end MessageForms
