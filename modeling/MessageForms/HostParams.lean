import MessageForms.Param

/-!
# Parameters of a host

A host passes parameters as records with a tag for the kind of the value, and texts that
end at a NUL byte. This module checks them and reads the parameters they mean.
-/

namespace MessageForms

/-- A parameter as a host passes it. -/
structure HostParam where
  /-- The name; a parameter without one is passed over. -/
  name? : Option Text
  /-- The kind of the value: 0 for a text, 1 for a number, 2 for a truth value. -/
  kind : Int
  /-- The text; none reads as the empty text. -/
  text? : Option Text
  number : Double
  /-- The truth value; everything but zero is true. -/
  flag : Int

/-- An array of parameters, which may be missing, with the number of them to read. -/
structure HostParams where
  params? : Option (List HostParam)
  count : Int

namespace HostParam

/-- The value of a parameter, if its kind exists. -/
def value? (param : HostParam) : Option ParamValue :=
  if param.kind = 0 then some (.text (param.text?.getD []).untilNul)
  else if param.kind = 1 then some (.number param.number)
  else if param.kind = 2 then some (.flag (param.flag != 0))
  else none

/-- Adds parameters to those already read; a parameter of an unknown kind makes the list
malformed unless it has no name. -/
def addAll : List HostParam → Params → Option Params
  | [], params => some params
  | param :: rest, params =>
    match param.name? with
    | none => addAll rest params
    | some name => param.value?.bind fun value => addAll rest (params.insert name.untilNul value)

end HostParam

namespace HostParams

/-- The parameters that an array means, if it is well formed. -/
def read? (params : HostParams) : Option Params :=
  if params.count < 0 then none
  else
    match params.params? with
    | none => if params.count = 0 then some Dictionary.empty else none
    | some list => HostParam.addAll (list.take params.count.toNat) Dictionary.empty

end HostParams

end MessageForms
