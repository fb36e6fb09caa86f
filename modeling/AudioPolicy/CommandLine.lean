-- SUMMARY: The command line of the simulator: its options, and what it prints.
import AudioPolicy.Document.Json.Printer
import AudioPolicy.Loading
import AudioPolicy.Metrics
import AudioPolicy.Schema.Scenario

/-! # The command line

The simulator loads a configuration and a scenario, replays the scenario and prints the
steps. An option has a long name and a letter. Its value follows as the next argument or is
attached. Letters may be grouped behind one dash, and the value of the last one may be
attached as well. An option is given at most once, and nothing else is an argument. -/

namespace AudioPolicy.CommandLine

/-! ## Requests -/

/-- How the steps are printed. -/
inductive Format
  | text | json
  deriving DecidableEq, Repr

instance : Spelled Format where
  all := [.text, .json]
  word
    | .text => "text"
    | .json => "json"

/-- An option. -/
inductive Switch
  | config | scenario | format | metrics | verbose | help
  deriving DecidableEq, Repr

namespace Switch

/-- The word of an option is its long name. -/
instance : Spelled Switch where
  all := [.config, .scenario, .format, .metrics, .verbose, .help]
  word
    | .config => "config"
    | .scenario => "scenario"
    | .format => "format"
    | .metrics => "metrics"
    | .verbose => "verbose"
    | .help => "help"

/-- The letter of an option is the first one of its name. -/
def ofLetter? (c : Char) : Option Switch :=
  (Spelled.all (α := Switch)).find? fun s => (Spelled.word s).toList.head? == some c

/-- Whether an option has a value. -/
def hasValue : Switch → Bool
  | config | scenario | format => true
  | metrics | verbose | help => false

end Switch

/-- The options that were given. -/
structure Settings where
  config : Option String := none
  scenario : Option String := none
  format : Option Format := none
  metrics : Bool := false
  verbose : Bool := false
  deriving DecidableEq, Repr

/-- Why arguments ask for no replay. -/
inductive Refusal
  /-- They ask for the help text. -/
  | help
  | unknownArgument (argument : String)
  | missingValue (switch : Switch)
  | unexpectedValue (switch : Switch)
  | repeated (switch : Switch)
  | unknownFormat (word : String)
  | missingScenario
  deriving DecidableEq, Repr

/-- The message for a refusal. -/
def Refusal.message : Refusal → String
  | .help => "help"
  | .unknownArgument argument => "unexpected argument '" ++ argument ++ "'"
  | .missingValue switch => "option '--" ++ Spelled.word switch ++ "' needs a value"
  | .unexpectedValue switch => "option '--" ++ Spelled.word switch ++ "' takes no value"
  | .repeated switch => "option '--" ++ Spelled.word switch ++ "' is given twice"
  | .unknownFormat word => "unknown format '" ++ word ++ "'"
  | .missingScenario => "option '--scenario' is required"

/-- What to replay, and how to print it. -/
structure Request where
  config : String
  scenario : String
  format : Format
  metrics : Bool
  verbose : Bool
  deriving DecidableEq, Repr

/-! ## Reading arguments -/

/-- The settings with one more option. -/
def Settings.give (s : Settings) (switch : Switch) (value : String) :
    Except Refusal Settings :=
  match switch with
  | .config =>
    if s.config.isSome then .error (.repeated .config) else .ok { s with config := some value }
  | .scenario =>
    if s.scenario.isSome then .error (.repeated .scenario)
    else .ok { s with scenario := some value }
  | .format =>
    if s.format.isSome then .error (.repeated .format)
    else
      match Spelled.ofWord? value with
      | some format => .ok { s with format := some format }
      | none => .error (.unknownFormat value)
  | .metrics =>
    if s.metrics then .error (.repeated .metrics) else .ok { s with metrics := true }
  | .verbose =>
    if s.verbose then .error (.repeated .verbose) else .ok { s with verbose := true }
  | .help => .error .help

/-- Settings, and the option whose value is the next argument. -/
abbrev Reading := Settings × Option Switch

/-- Reads a long option, which may have an attached value. -/
def readLong (s : Settings) (body : List Char) : Except Refusal Reading :=
  let (name, value?) :=
    match Text.cutAt '=' body with
    | some (name, value) => (name, some value)
    | none => (body, none)
  match (Spelled.ofWord? (String.ofList name) : Option Switch), value? with
  | none, _ => .error (.unknownArgument ("--" ++ String.ofList name))
  | some switch, some value =>
    if switch.hasValue then (s.give switch (String.ofList value)).map fun s => (s, none)
    else .error (.unexpectedValue switch)
  | some switch, none =>
    if switch.hasValue then .ok (s, some switch) else (s.give switch "").map fun s => (s, none)

/-- An attached value, in front of which an equals sign may stand. -/
def attached : List Char → List Char
  | '=' :: cs => cs
  | cs => cs

/-- Reads a group of letters. What stands behind the letter of an option with a value is
    that value. -/
def readLetters (s : Settings) : List Char → Except Refusal Reading
  | [] => .ok (s, none)
  | c :: cs =>
    match Switch.ofLetter? c with
    | none => .error (.unknownArgument (String.ofList ['-', c]))
    | some switch =>
      if switch.hasValue then
        if cs.isEmpty then .ok (s, some switch)
        else (s.give switch (String.ofList (attached cs))).map fun s => (s, none)
      else
        match s.give switch "" with
        | .error e => .error e
        | .ok s => readLetters s cs

/-- Reads one argument that is not a value. -/
def readArgument (s : Settings) (argument : String) : Except Refusal Reading :=
  match argument.toList with
  | '-' :: '-' :: body => readLong s body
  | '-' :: c :: cs => readLetters s (c :: cs)
  | _ => .error (.unknownArgument argument)

/-- Whether an argument can be the value of an option. A single dash can. -/
def isValue (argument : String) : Bool :=
  match argument.toList with
  | '-' :: _ :: _ => false
  | _ => true

/-- Reads arguments from left to right, the first of which may be a value. -/
def readAll : Reading → List String → Except Refusal Settings
  | (s, none), [] => .ok s
  | (_, some switch), [] => .error (.missingValue switch)
  | (s, some switch), value :: arguments =>
    if isValue value then
      match s.give switch value with
      | .error e => .error e
      | .ok s => readAll (s, none) arguments
    else .error (.missingValue switch)
  | (s, none), argument :: arguments =>
    if argument = "--" then
      match arguments with
      | [] => .ok s
      | extra :: _ => .error (.unknownArgument extra)
    else
      match readArgument s argument with
      | .error e => .error e
      | .ok reading => readAll reading arguments

/-- The request that the arguments make. -/
def Request.ofArguments (arguments : List String) : Except Refusal Request :=
  match readAll ({}, none) arguments with
  | .error e => .error e
  | .ok s =>
    match s.scenario with
    | none => .error .missingScenario
    | some scenario =>
      .ok { scenario
            config := s.config.getD "controller.yaml"
            format := s.format.getD .text
            metrics := s.metrics
            verbose := s.verbose }

/-! ## Running -/

/-- What a run leaves behind. -/
structure Result where
  /-- The exit code. -/
  exit : UInt8
  /-- What is printed. -/
  output : String := ""
  /-- What is reported aside. -/
  remarks : List String := []
  deriving DecidableEq, Repr

/-- The help text. -/
def helpText : String :=
  "\n".intercalate
    [ "Replay audio-routing triggers through the audiorule policy engine",
      "",
      "Usage: audiorule-sim [OPTIONS] --scenario <SCENARIO>",
      "",
      "Options:",
      "  -c, --config <CONFIG>      Controller configuration (YAML, or JSON with a .json extension)",
      "                             [default: controller.yaml]",
      "  -s, --scenario <SCENARIO>  Scenario file with the initial graph and the triggers to replay",
      "  -f, --format <FORMAT>      Output format for delivered action lists [default: text] [possible",
      "                             values: text, json]",
      "  -m, --metrics              Print engine counters in Prometheus text format after the replay",
      "  -v, --verbose              Enable verbose logging",
      "  -h, --help                 Print help",
      "" ]

/-- The line for an event. What is added to a counter is of interest only if more detail
    is asked for. -/
def remark? (verbose : Bool) : Event → Option String
  | .warning w =>
    some (Text.unwords (w.message :: w.fields.map fun (name, value) => name ++ "=" ++ value))
  | .count counter amount =>
    if verbose then some (counter.title ++ " +" ++ toString amount) else none

/-- The steps of a replay in a format. -/
def printed (format : Format) (steps : List Scenario.Step) : String :=
  match format with
  | .text => Scenario.report steps
  | .json => Json.indented 0 (encode steps) ++ "\n"

/-- The result of a replay: the steps, and behind them the counters if they are wanted. -/
def finished (r : Request) (steps : List Scenario.Step) (events : List Event) : Result :=
  { exit := 0
    output := printed r.format steps ++ if r.metrics then Metrics.exposition events else ""
    remarks := events.filterMap (remark? r.verbose) }

/-- Carries out a request. -/
def Request.run (files : Loading.Files) (r : Request) : Result :=
  let store := Loading.storeOfFile files r.config
  match store.value.reason? with
  | some reason =>
    { exit := 1
      remarks := ["failed to load controller configuration " ++ r.config ++ ": " ++ reason] }
  | none =>
    match (Loading.ofFile files r.scenario : Except Error Scenario) with
    | .error e => { exit := 1, remarks := [e.message] }
    | .ok scenario =>
      let engine : Engine := { store := store.value, started := true }
      let replay := scenario.replay engine { graph := scenario.state }
      finished r replay.value.1 (store.events ++ replay.events)

/-- Runs the simulator with some arguments. -/
def run (files : Loading.Files) (arguments : List String) : Result :=
  match Request.ofArguments arguments with
  | .ok r => r.run files
  | .error .help => { exit := 0, output := helpText }
  | .error e => { exit := 2, remarks := [e.message] }

end AudioPolicy.CommandLine
