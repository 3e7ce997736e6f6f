import MessageForms.Client

/-!
# The command line

    [--locale=TAG] [--forms] VALUE [name=value ...]

renders a stored value, and if it is a variant names its active key and, on request, lists
its forms. Without a value a few messages of the program's own are rendered.
-/

namespace MessageForms

namespace CommandLine

/-- The arguments of a run. -/
structure Arguments where
  locale : Text
  listForms : Bool
  value? : Option Text
  params : ParamList
  /-- The arguments that are no parameters, in order. -/
  ignored : List Text

/-- How the argument with the locale begins. -/
def localeOption : Text := "--locale="

/-- The argument that asks for the forms. -/
def formsOption : Text := "--forms"

/-- The value of a parameter: a truth value, a number if all of it spells one, or else a text. -/
def paramValue (spelled : Text) : ParamValue :=
  if spelled = "true" then .flag true
  else if spelled = "false" then .flag false
  else
    match Double.scan? spelled with
    | some (number, []) => .number number
    | _ => .text spelled

namespace Arguments

/-- The arguments of a run without any. -/
def initial : Arguments := ⟨[], false, none, [], []⟩

/-- Takes up a parameter `name=value`; an argument without an equals sign or without a name
is passed over. -/
def addParam (arguments : Arguments) (argument : Text) : Arguments :=
  let name := Text.before Byte.equals argument
  match Text.after? Byte.equals argument with
  | some value =>
    if name = [] then { arguments with ignored := arguments.ignored ++ [argument] }
    else { arguments with params := arguments.params.set name (paramValue value) }
  | none => { arguments with ignored := arguments.ignored ++ [argument] }

/-- Takes up one argument: an option, or else the value, or else a parameter. -/
def add (arguments : Arguments) (argument : Text) : Arguments :=
  match Text.following? localeOption argument with
  | some locale => { arguments with locale }
  | none =>
    if argument = formsOption then { arguments with listForms := true }
    else if arguments.value?.isNone then { arguments with value? := some argument }
    else arguments.addParam argument

/-- Reads the arguments of a run, which end at a NUL byte each. -/
def read (arguments : List Text) : Arguments :=
  arguments.foldl (fun arguments argument => arguments.add argument.untilNul) initial

end Arguments

/-- Something that a run prints. -/
inductive Printed where
  | out (text : Text)
  | error (text : Text)
  | log (line : LogLine)

/-- A run in progress: the client and what has been printed. -/
structure Console where
  client : Client
  printed : List Printed

/-- A part of a run, which an exception may end. -/
abbrev Script := ExceptT Thrown (StateM Console)

/-- The name of the only holder. -/
def holder : Text := []

/-- Prints to the standard output. -/
def print (text : Text) : Script Unit :=
  modify fun console => { console with printed := console.printed ++ [.out text] }

/-- Lets the client act, and prints the log lines that this brings about. -/
def act {α : Type} (action : Client → Client × Except Thrown α) : Script α := do
  let console ← get
  let (client, result) := action console.client
  let lines := (client.exchanges.drop console.client.exchanges.length).flatMap Exchange.lines
  set ({ client, printed := console.printed ++ lines.map Printed.log } : Console)
  match result with
  | .ok value => pure value
  | .error thrown => throw thrown

/-- A line end. -/
def newline : Text := [Byte.lineFeed]

/-- A message that counts items. -/
def itemsMessage : Text :=
  ["[\x7b\"declarations\":[\"input count\",\"local countPlural = count: plural\"],",
    "\"selectors\":[\"countPlural\"],",
    "\"match\":\x7b\"countPlural=one\":\"\x7bcount\x7d item\",",
    "\"countPlural=other\":\"\x7bcount\x7d items\"\x7d\x7d]"].flatMap Text.ofString

/-- A message that ranks places. -/
def placesMessage : Text :=
  ["[\x7b\"declarations\":[\"input place\",\"local ord = place: plural type=ordinal\"],",
    "\"match\":\x7b\"ord=one\":\"\x7bplace\x7dst place\",",
    "\"ord=two\":\"\x7bplace\x7dnd place\",",
    "\"ord=few\":\"\x7bplace\x7drd place\",",
    "\"ord=*\":\"\x7bplace\x7dth place\"\x7d\x7d]"].flatMap Text.ofString

/-- The single parameter of a message of the program's own. -/
def sampleParams (name : Text) (number : Nat) : ParamList :=
  ParamList.set [] name (.number (.ofInt number))

/-- Renders the message that counts items. -/
def showItems (count : Nat) : Script Unit := do
  let text ← act fun client =>
    client.render holder itemsMessage (sampleParams "count" count) none
  print ((digitsOfNat count).padEnd 4 ++ Byte.space :: text ++ newline)

/-- Renders the message that ranks places, with the key of the form that it takes. -/
def showPlace (place : Nat) : Script Unit := do
  let params := sampleParams "place" place
  let text ← act fun client => client.render holder placesMessage params none
  let key ← act fun client => client.activeKey holder placesMessage params none
  print ((digitsOfNat place).padEnd 4 ++ Byte.space :: text.padEnd 12 ++
    Byte.space :: Byte.openBracket :: key ++ Byte.closeBracket :: newline)

/-- Renders the messages of the program's own. -/
def showcase : Script Unit := do
  [0, 1, 2, 21].forM showItems
  [1, 2, 3, 4, 11, 22].forM showPlace

/-- Prints a form of a value. -/
def showForm (value key : Text) : Script Unit := do
  let template ← act fun client => client.formTemplate holder value key
  print (Byte.space :: Byte.space :: key ++ Text.ofString " => " ++ template ++ newline)

/-- Renders a value, names its active key, and lists its forms if that is asked for. -/
def showValue (arguments : Arguments) (value : Text) : Script Unit := do
  let text ← act fun client => client.render holder value arguments.params none
  print (text ++ newline)
  let isVariant ← act fun client =>
    let (client, isVariant) := client.isVariant value
    (client, .ok isVariant)
  if isVariant then
    let key ← act fun client => client.activeKey holder value arguments.params none
    print (Text.ofString "active: " ++ key ++ newline)
    if arguments.listForms then
      let keys ← act fun client => client.formKeys holder value
      keys.forM (showForm value)

/-- What a run does with its arguments. -/
def script (arguments : Arguments) : Script Unit := do
  act fun client => client.construct holder true
  if arguments.locale ≠ [] then
    act fun client => client.setLocale holder arguments.locale
  match arguments.value? with
  | none => showcase
  | some value => showValue arguments value

/-- The remark on an argument that is passed over. -/
def ignoredRemark (argument : Text) : Text :=
  Text.ofString "ignoring argument '" ++ argument ++
    Text.ofString "' (expected name=value)" ++ newline

/-- The remark on the exception that ended a run. -/
def thrownRemark (thrown : Thrown) : Text :=
  Text.ofString "msgvariant error " ++ textOfInt thrown.code ++ Text.ofString ": " ++
    thrown.message ++ newline

/-- A run of the program: its exit status and what it printed, in order. -/
def run (session : Session) (arguments : List Text) : UInt32 × List Printed :=
  let arguments := Arguments.read arguments
  let console : Console :=
    ⟨.ofSession session, arguments.ignored.map fun argument => .error (ignoredRemark argument)⟩
  match (script arguments).run.run console with
  | (.ok _, console) => (0, console.printed)
  | (.error thrown, console) => (1, console.printed ++ [.error (thrownRemark thrown)])

end CommandLine

end MessageForms
