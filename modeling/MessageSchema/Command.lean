/-
The command line: `parse` reads one interface file and prints its document,
`check` reads any number and reports the ones that fail. A file of settings
may be named before or after the command, at most once in either place; the
later place counts. The settings are read before any interface.
-/
import MessageSchema.Config.File
import MessageSchema.File.Batch
import MessageSchema.Interface.Document

namespace MessageSchema

/-! ## Arguments -/

/-- A piece of a command line. -/
inductive ArgumentItem where
  /-- The settings file. -/
  | config (path : String)
  | input (text : String)
  /-- Two dashes: no option follows. -/
  | dashes
deriving DecidableEq, Repr

/-- How an argument names the settings file. -/
inductive ConfigOption where
  /-- The path follows in the same argument. -/
  | attached (path : String)
  /-- The next argument is the path. -/
  | separate
deriving DecidableEq, Repr

/-- The settings option that an argument is. -/
def ConfigOption.of? (argument : String) : Option ConfigOption :=
  match argument.toList with
  | ['-', 'c'] => some separate
  | '-' :: 'c' :: '=' :: path => some (attached (String.ofList path))
  | '-' :: 'c' :: path => some (attached (String.ofList path))
  | cs =>
    let long := "--config".toList
    if long.isPrefixOf cs then
      match cs.drop long.length with
      | [] => some separate
      | '=' :: path => some (attached (String.ofList path))
      | _ => none
    else none

namespace ArgumentItem

/-- Whether an argument looks like an option. A single dash does not. -/
def isOption (argument : String) : Bool :=
  argument.toList.head? == some '-' && argument != "-"

/-- The pieces of a command line; none if it holds an unknown option, or
an empty path or input. -/
def ofArguments? : List String → Option (List ArgumentItem)
  | [] => some []
  | argument :: rest =>
    if argument = "--" then
      if "" ∈ rest then none else some (dashes :: rest.map input)
    else
      match ConfigOption.of? argument with
      | some (.attached path) =>
        if path = "" then none else (ofArguments? rest).map (config path :: ·)
      | some .separate =>
        match rest with
        | [] => none
        | path :: rest =>
          if path = "" ∨ isOption path = true then none
          else (ofArguments? rest).map (config path :: ·)
      | none =>
        if argument = "" ∨ isOption argument = true then none
        else (ofArguments? rest).map (input argument :: ·)

/-- The settings file of a piece. -/
def config? : ArgumentItem → Option String
  | config path => some path
  | _ => none

/-- The input of a piece. -/
def input? : ArgumentItem → Option String
  | input text => some text
  | _ => none

/-- Whether a piece names a settings file. -/
def isConfig (item : ArgumentItem) : Bool :=
  item.config?.isSome

end ArgumentItem

/-- What is to be done. -/
inductive Action where
  | parse (path : String)
  | check (paths : List String)
deriving DecidableEq, Repr

/-- The action with the given name and inputs. -/
def Action.of? (name : String) (inputs : List String) : Option Action :=
  if name = "parse" then
    match inputs with
    | [path] => some (parse path)
    | _ => none
  else if name = "check" then (if inputs = [] then none else some (check inputs))
  else none

/-- A command line that is understood. -/
structure Command where
  config : Option String
  action : Action
deriving DecidableEq, Repr

namespace Command

/-- The only element, if there is at most one. -/
def atMostOne? (paths : List String) : Option (Option String) :=
  match paths with
  | [] => some none
  | [path] => some (some path)
  | _ => none

/-- Reads a command line. -/
def ofArguments? (arguments : List String) : Option Command := do
  let items ← ArgumentItem.ofArguments? arguments
  let early ← atMostOne? ((items.takeWhile (·.isConfig)).filterMap (·.config?))
  match items.dropWhile (·.isConfig) with
  | .input name :: items =>
    let late ← atMostOne? (items.filterMap (·.config?))
    let action ← Action.of? name (items.filterMap (·.input?))
    return ⟨late <|> early, action⟩
  | _ => none

/-- The files that the command reads. -/
def paths (c : Command) : List String :=
  c.config.toList ++
    match c.action with
    | .parse path => [path]
    | .check paths => paths

/-! ## Running -/

/-- What stops a run. -/
inductive RunError where
  | settings (error : ConfigError)
  | file (error : FileError)
deriving DecidableEq, Repr

/-- How a run ends. -/
inductive Ending where
  | done
  /-- There are files that failed, and all of them have been reported. -/
  | failed
  /-- The run does not go on, and hands the error over. -/
  | stopped (error : RunError)
deriving DecidableEq, Repr

/-- The exit code. -/
def Ending.code : Ending → Nat
  | done => 0
  | failed => 1
  | stopped _ => 1

/-- What a run leaves: the texts that it writes to standard output and to
standard error, and its ending. An error that stops the run is not among the
texts. -/
structure Outcome where
  output : String
  errors : String
  ending : Ending
deriving DecidableEq, Repr

/-- The settings of a run. -/
def settings (files : FileSource) (c : Command) : Except ConfigError Config :=
  match c.config with
  | some path => Config.ofFile files path
  | none => .ok .standard

/-- Prints the document of one interface file. -/
def runParse (files : FileSource) (config : Config) (path : String) : Outcome :=
  match Interface.ofFile files config path with
  | .ok interface => ⟨interface.render ++ "\n", "", .done⟩
  | .error failure => ⟨"", "", .stopped (.file failure.cause)⟩

/-- What is said of a file that failed. -/
def failureText (failure : String × FileError) : String :=
  failure.1 ++ ": " ++ failure.2.message

/-- Reports on a batch of interface files: each one that failed on a line, and
how many there are. -/
def runCheck (files : FileSource) (config : Config) (paths : List String) : Outcome :=
  let batch := Batch.ofFiles files config paths
  { output := batch.parsed.length.repr ++ " ok, " ++ batch.failures.length.repr ++ " failed\n"
    errors := String.join (batch.failures.map fun failure => failureText failure ++ "\n")
    ending := if batch.isOk then .done else .failed }

/-- Runs a command. -/
def run (files : FileSource) (c : Command) : Outcome :=
  match c.settings files with
  | .error e => ⟨"", "", .stopped (.settings e)⟩
  | .ok config =>
    match c.action with
    | .parse path => runParse files config path
    | .check paths => runCheck files config paths

end Command

end MessageSchema
