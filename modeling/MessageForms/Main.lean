import MessageForms.CommandLine.Program

/-!
# The program

The thin outer layer of the command line: it turns the arguments into texts and writes what
the run prints. Log lines go to the standard error.
-/

namespace MessageForms

/-- The bytes of a text. -/
def Text.toBytes (text : Text) : ByteArray :=
  ⟨text.toArray⟩

/-- Writes one printed item. -/
def CommandLine.Printed.write (printed : Printed) : IO Unit := do
  match printed with
  | .out text => (← IO.getStdout).write text.toBytes
  | .error text => (← IO.getStderr).write text.toBytes
  | .log line => (← IO.getStderr).write (line.text ++ newline).toBytes

end MessageForms

open MessageForms in
/-- Runs the program on its arguments. -/
def main (arguments : List String) : IO UInt32 := do
  let session := { Session.initial with relay := ⟨.info, true⟩ }
  let (status, printed) := CommandLine.run session (arguments.map Text.ofString)
  printed.forM CommandLine.Printed.write
  (← IO.getStdout).flush
  return status
