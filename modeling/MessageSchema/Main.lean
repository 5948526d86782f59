/-
The program: reads the files that its command line names, runs the command
and prints what it leaves, an error that stopped it in its derived form.
Arguments that make no command end it with code two.
-/
import MessageSchema.Command

namespace MessageSchema.Main

/-- How the program is called. -/
def usage : String :=
  "Usage: [-c FILE] parse INPUT\n       [-c FILE] check INPUT...\n"

/-- The refusal of the system behind an error, if there is one. -/
def readErrorOf? : IO.Error → Option ReadError
  | .alreadyExists _ code words | .invalidArgument _ code words | .permissionDenied _ code words
  | .resourceExhausted _ code words | .inappropriateType _ code words | .noSuchThing _ code words
  | .interrupted _ code words | .noFileOrDirectory _ code words
  | .otherError code words | .resourceBusy code words | .resourceVanished code words
  | .unsupportedOperation code words | .hardwareFault code words | .unsatisfiedConstraints code words
  | .illegalOperation code words | .protocolError code words | .timeExpired code words =>
    some (.system code.toNat words)
  | .unexpectedEof | .userError _ => none

/-- The text of a file. -/
def readFile (path : String) : IO (Except ReadError String) := do
  try
    let content ← IO.FS.readBinFile path
    match String.fromUTF8? content with
    | some text => return .ok text
    | none => return .error .notText
  catch e =>
    match readErrorOf? e with
    | some error => return .error error
    | none => throw e

/-- Runs the program with the given arguments. -/
def run (arguments : List String) : IO UInt32 := do
  match Command.ofArguments? arguments with
  | none =>
    IO.eprint usage
    return 2
  | some command =>
    let files ← command.paths.mapM fun path => return (path, ← readFile path)
    let outcome := command.run fun path => (files.lookup path).getD (.error .notFound)
    IO.eprint outcome.errors
    IO.print outcome.output
    if let .stopped error := outcome.ending then
      IO.eprintln ("Error: " ++ toString (repr error))
    return UInt32.ofNat outcome.ending.code

end MessageSchema.Main

def main (arguments : List String) : IO UInt32 :=
  MessageSchema.Main.run arguments
