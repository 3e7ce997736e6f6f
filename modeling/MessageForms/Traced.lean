import MessageForms.Event

/-!
# Traced results

A traced result carries, beside its value, the events on the way to it in the order in which
they happened.
-/

namespace MessageForms

/-- A value with the events on the way to it. -/
structure Traced (α : Type) where
  value : α
  events : List Event

namespace Traced

variable {α β : Type}

/-- Continues with a value; the events of the continuation come later. -/
def andThen (first : Traced α) (next : α → Traced β) : Traced β :=
  ⟨(next first.value).value, first.events ++ (next first.value).events⟩

instance : Monad Traced where
  pure value := ⟨value, []⟩
  bind := andThen

/-- A single event. -/
def event (event : Event) : Traced Unit := ⟨(), [event]⟩

/-- A single report. -/
def report (diagnostic : Diagnostic) : Traced Unit := event (.report diagnostic)

/-- The values of a list of traced results, one after the other. -/
def all : List (Traced α) → Traced (List α)
  | [] => pure []
  | first :: rest => do
    let value ← first
    let values ← all rest
    pure (value :: values)

@[simp] theorem value_pure (value : α) : (pure value : Traced α).value = value := rfl

@[simp] theorem events_pure (value : α) : (pure value : Traced α).events = [] := rfl

@[simp] theorem value_bind (first : Traced α) (next : α → Traced β) :
    (first >>= next).value = (next first.value).value := rfl

@[simp] theorem events_bind (first : Traced α) (next : α → Traced β) :
    (first >>= next).events = first.events ++ (next first.value).events := rfl

@[simp] theorem events_report (diagnostic : Diagnostic) :
    (report diagnostic).events = [.report diagnostic] := rfl

end Traced

end MessageForms
