import MessageForms.Client

/-!
# Steps of a client

What a host does with a client is a list of steps: it makes holders, moves contexts between
them, ends them, and calls the methods of those that it has.
-/

namespace MessageForms

namespace Client

/-- A method of a holder with its arguments. -/
inductive Method where
  | lastError
  | setLocale (locale : Text)
  | locale
  | setCategorizer (categorizer? : Option Categorizer)
  | render (value : Text) (params : ParamList) (locale? : Option Text)
  | activeKey (value : Text) (params : ParamList) (locale? : Option Text)
  | formKeys (value : Text)
  | formTemplate (value key : Text)
  | activeFormEquals (value other : Text) (params : ParamList) (locale? : Option Text)
  | category (number : Double) (locale? : Option Text) (type : PluralType)

/-- What a method hands back. -/
inductive Result where
  | done
  | error (code : Int) (message : Text)
  | text (content : Text)
  | texts (contents : List Text)
  | verdict (equal : Bool)

/-- Calls a method of a holder. -/
def call (client : Client) (holder : Text) : Method → Client × Except Thrown Result
  | .lastError =>
    let last := client.lastError holder
    (client, .ok (.error last.1 last.2))
  | .setLocale locale =>
    let (client, result) := client.setLocale holder locale
    (client, result.map fun _ => .done)
  | .locale => (client, .ok (.text (client.locale holder)))
  | .setCategorizer categorizer? =>
    let (client, result) := client.setCategorizer holder categorizer?
    (client, result.map fun _ => .done)
  | .render value params locale? =>
    let (client, result) := client.render holder value params locale?
    (client, result.map .text)
  | .activeKey value params locale? =>
    let (client, result) := client.activeKey holder value params locale?
    (client, result.map .text)
  | .formKeys value =>
    let (client, result) := client.formKeys holder value
    (client, result.map .texts)
  | .formTemplate value key =>
    let (client, result) := client.formTemplate holder value key
    (client, result.map .text)
  | .activeFormEquals value other params locale? =>
    let (client, result) := client.activeFormEquals holder value other params locale?
    (client, result.map .verdict)
  | .category number locale? type =>
    let (client, result) := client.category holder number locale? type
    (client, result.map .text)

/-- A step of a host. -/
inductive Step where
  | construct (holder : Text) (available : Bool)
  | moveConstruct (source target : Text)
  | moveAssign (source target : Text)
  | destruct (holder : Text)
  | call (holder : Text) (method : Method)
  | isVariant (value : Text)

/-- The client after a step. -/
def afterStep (client : Client) : Step → Client
  | .construct holder available => (client.construct holder available).1
  | .moveConstruct source target => client.moveConstruct source target
  | .moveAssign source target => client.moveAssign source target
  | .destruct holder => client.destruct holder
  | .call holder method => (client.call holder method).1
  | .isVariant value => (client.isVariant value).1

/-- The client after a list of steps. -/
def after (client : Client) : List Step → Client
  | [] => client
  | step :: steps => (client.afterStep step).after steps

end Client

end MessageForms
