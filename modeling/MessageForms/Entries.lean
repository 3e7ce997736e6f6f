import MessageForms.Text

/-!
# Entries in order of first appearance

A list of entries in which each key keeps the place where it first appeared and the value
that was last given to it.
-/

namespace MessageForms

namespace Entries

universe u

variable {α : Type u}

/-- Gives a value to a key: in place if the key is present, at the end if it is new. -/
def put (key : Text) (value : α) : List (Text × α) → List (Text × α)
  | [] => [(key, value)]
  | entry :: rest =>
    if entry.1 = key then (key, value) :: rest else entry :: put key value rest

/-- Entries with the repeated keys merged: each key at its first place with its last
value. -/
def merge (entries : List (Text × α)) : List (Text × α) :=
  entries.foldl (fun merged entry => put entry.1 entry.2 merged) []

end Entries

end MessageForms
