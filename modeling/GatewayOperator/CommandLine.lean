import GatewayOperator.Settings

/-!
# The command line

The operator is told on its command line which of its parts to run and at which ports.

## Main Definitions

* `OperatorMode` — which parts run.
* `Parameter` — what can be set on the command line.
* `Invocation` — what has been set.
* `UsageFault` — why a command line cannot be used, with its wording.
* `Invocation.read` — the reading of a command line.

## Design Notes

A parameter is settled only when the next one begins or the line ends.  Until then its value is
kept as it stands, so an argument that nobody knows is reported before a value that cannot be read,
even if it stands behind it.
-/

namespace GatewayOperator

/-- Which parts of the operator run. -/
inductive OperatorMode where
  /-- The part that looks after gateways. -/
  | controller
  /-- The part that reviews workloads. -/
  | webhook
  /-- Both. -/
  | all
  deriving DecidableEq, Repr, Inhabited

namespace OperatorMode

/-- All modes. -/
def modes : List OperatorMode := [controller, webhook, all]

/-- The name of a mode. -/
def name : OperatorMode → String
  | controller => "controller"
  | webhook => "webhook"
  | all => "all"

/-- The mode of a name. -/
def ofName? (name : String) : Option OperatorMode := modes.find? fun mode => mode.name = name

/-- The variable that holds the mode if the command line does not. -/
def variableName : String := "OPERATOR_MODE"

end OperatorMode

/-- What can be set on the command line. -/
inductive Parameter where
  /-- Which parts run. -/
  | mode
  /-- The port at which the operator is watched. -/
  | metricsPort
  /-- The port at which workloads are reviewed. -/
  | webhookPort
  deriving DecidableEq, Repr, Inhabited

namespace Parameter

/-- All parameters. -/
def all : List Parameter := [mode, metricsPort, webhookPort]

/-- The name of a parameter. -/
def name : Parameter → String
  | mode => "mode"
  | metricsPort => "metrics-port"
  | webhookPort => "webhook-port"

/-- The parameter of a name. -/
def ofName? (name : String) : Option Parameter := all.find? fun p => p.name = name

/-- What stands for the value of a parameter in explanations. -/
def placeholder : Parameter → String
  | mode => "MODE"
  | metricsPort => "METRICS_PORT"
  | webhookPort => "WEBHOOK_PORT"

/-- A parameter with its value, in explanations. -/
def usage (p : Parameter) : String := "--" ++ p.name ++ " <" ++ p.placeholder ++ ">"

end Parameter

/-- What can be asked for instead of a run. -/
inductive Question where
  /-- How the operator is used. -/
  | help
  /-- Which version it is. -/
  | version
  deriving DecidableEq, Repr, Inhabited

namespace Question

/-- The name of a question. -/
def name : Question → String
  | help => "help"
  | version => "version"

/-- The letter that stands for a question. -/
def letter : Question → Char
  | help => 'h'
  | version => 'V'

/-- The question of a name. -/
def ofName? (name : String) : Option Question := [help, version].find? fun q => q.name = name

/-- The question of a letter. -/
def ofLetter? (letter : Char) : Option Question :=
  [help, version].find? fun q => q.letter = letter

end Question

/-- Why a command line cannot be used. -/
inductive UsageFault where
  /-- A parameter has no value. -/
  | missingValue (parameter : Parameter)
  /-- A parameter has a value that it cannot have; the reason is stated unless it is plain. -/
  | invalidValue (parameter : Parameter) (value : String) (reason : Option String)
  /-- An argument has no meaning. -/
  | unexpected (argument : String)
  /-- A parameter is given twice. -/
  | repeated (parameter : Parameter)
  /-- A question has a value. -/
  | superfluousValue (question : Question) (value : String)
  deriving DecidableEq, Repr, Inhabited

/-- The wording of a fault. -/
def UsageFault.message : UsageFault → String
  | missingValue p => "a value is required for '" ++ p.usage ++ "' but none was supplied"
  | invalidValue p value reason =>
    "invalid value '" ++ value ++ "' for '" ++ p.usage ++ "'" ++
      ((reason.map (": " ++ ·)).getD "")
  | unexpected argument => "unexpected argument '" ++ argument ++ "' found"
  | repeated p => "the argument '" ++ p.usage ++ "' cannot be used multiple times"
  | superfluousValue q value =>
    "unexpected value '" ++ value ++ "' for '--" ++ q.name ++ "' found; no more were expected"

/-- Why the operator does not run. -/
inductive Ending where
  /-- Something else was asked for. -/
  | asked (question : Question)
  /-- The command line cannot be used. -/
  | misused (fault : UsageFault)
  deriving DecidableEq, Repr, Inhabited

/-- What has been set on the command line. -/
structure Invocation where
  /-- Which parts run. -/
  mode : Option OperatorMode := none
  /-- The port at which the operator is watched. -/
  metricsPort : Option Nat := none
  /-- The port at which workloads are reviewed. -/
  webhookPort : Option Nat := none
  deriving DecidableEq, Repr, Inhabited

namespace Invocation

/-- Reads the name of a mode. -/
def readMode (value : String) : Except UsageFault OperatorMode :=
  if value.isEmpty then .error (.missingValue .mode)
  else
    match OperatorMode.ofName? value with
    | some mode => .ok mode
    | none => .error (.invalidValue .mode value none)

/-- Reads a port. -/
def readPort (p : Parameter) (value : String) : Except UsageFault Nat :=
  match Text.readInt64 value with
  | .error fault => .error (.invalidValue p value (some fault.message))
  | .ok n =>
    if 0 ≤ n ∧ n ≤ 65535 then .ok n.toNat
    else .error (.invalidValue p value (some (toString n ++ " is not in 0..=65535")))

/-- Whether a parameter has been set. -/
def isSet (i : Invocation) : Parameter → Bool
  | .mode => i.mode.isSome
  | .metricsPort => i.metricsPort.isSome
  | .webhookPort => i.webhookPort.isSome

/-- Sets a parameter, which has not been set before. -/
def set (i : Invocation) (p : Parameter) (value : String) : Except UsageFault Invocation :=
  if i.isSet p then .error (.repeated p)
  else
    match p with
    | .mode => (readMode value).map fun mode => { i with mode := some mode }
    | .metricsPort => (readPort p value).map fun port => { i with metricsPort := some port }
    | .webhookPort => (readPort p value).map fun port => { i with webhookPort := some port }

/-- The settings with the ports that have been set. -/
def override (i : Invocation) (s : Settings) : Settings :=
  { s with
    metricsPort := i.metricsPort.getD s.metricsPort
    webhookPort := i.webhookPort.getD s.webhookPort }

end Invocation

/-- The shape of an argument. -/
inductive Word where
  /-- Two dashes alone: everything behind them is plain. -/
  | escape
  /-- A name, and a value behind an equals sign. -/
  | named (name : String) (value : Option String)
  /-- A letter, with whatever stands behind it. -/
  | lettered (letter : Char)
  /-- Anything else. -/
  | plain (text : String)
  deriving DecidableEq, Repr, Inhabited

/-- The shape of an argument. -/
def Word.ofArgument (argument : String) : Word :=
  match argument.toList with
  | ['-', '-'] => .escape
  | '-' :: '-' :: cs =>
    match Text.splitOnce? '=' (String.ofList cs) with
    | some (name, value) => .named name (some value)
    | none => .named (String.ofList cs) none
  | '-' :: letter :: _ => .lettered letter
  | _ => .plain argument

/-- How far the reading of a command line has come. -/
structure Reading where
  /-- What has been set. -/
  invocation : Invocation := {}
  /-- The parameter that is not settled yet, with its value. -/
  pending : Option (Parameter × Option String) := none
  deriving DecidableEq, Repr, Inhabited

namespace Reading

/-- Settles the parameter that is not settled yet. -/
def settle (r : Reading) : Except Ending Invocation :=
  match r.pending with
  | none => .ok r.invocation
  | some (p, none) => .error (.misused (.missingValue p))
  | some (p, some value) => (r.invocation.set p value).mapError .misused

/-- A question ends the reading once everything before it is settled. -/
def ask (r : Reading) (q : Question) : Except Ending Reading := do
  let _ ← r.settle
  throw (.asked q)

/-- Reads an argument in front of an escape. -/
def step (r : Reading) (argument : String) : Except Ending Reading :=
  match Word.ofArgument argument with
  | .escape => .ok r
  | .named name value =>
    match Parameter.ofName? name, value, Question.ofName? name with
    | some p, none, _ => do return ⟨← r.settle, some (p, none)⟩
    | some p, some value, _ => do
      let invocation ← r.settle
      return ⟨← (invocation.set p value).mapError .misused, none⟩
    | none, none, some q => r.ask q
    | none, some value, some q => .error (.misused (.superfluousValue q value))
    | none, _, none => .error (.misused (.unexpected ("--" ++ name)))
  | .lettered letter =>
    match Question.ofLetter? letter with
    | some q => r.ask q
    | none => .error (.misused (.unexpected (String.ofList ['-', letter])))
  | .plain text =>
    match r.pending with
    | some (p, none) => .ok { r with pending := some (p, some text) }
    | _ => .error (.misused (.unexpected text))

/-- Reads arguments up to the end of the line; behind an escape no argument has a meaning. -/
def readAll (r : Reading) : List String → Except Ending Invocation
  | [] => r.settle
  | argument :: rest =>
    if Word.ofArgument argument = .escape then
      match rest with
      | [] => r.settle
      | next :: _ => .error (.misused (.unexpected next))
    else do (← r.step argument).readAll rest

end Reading

/-- The reading of a command line; a mode that it does not set may be set by a variable. -/
def Invocation.read (e : Environment) (arguments : List String) :
    Except Ending (Invocation × OperatorMode) := do
  let invocation ← ({} : Reading).readAll arguments
  match invocation.mode, e.get? OperatorMode.variableName with
  | some mode, _ => return (invocation, mode)
  | none, some value => return (invocation, ← (readMode value).mapError .misused)
  | none, none => return (invocation, .all)

namespace Question

/-- The version of the operator. -/
def operatorVersion : String := "0.1.0"

/-- How the mode is explained: the variable with its value, the default, and the possible values. -/
def modeHelp (e : Environment) : String :=
  "Components to run in this process [env: " ++ OperatorMode.variableName ++ "=" ++
    (e.get? OperatorMode.variableName).getD "" ++ "] [default: " ++ OperatorMode.all.name ++
    "] [possible values: " ++ ", ".intercalate (OperatorMode.modes.map OperatorMode.name) ++ "]"

/-- The column in which explanations begin. -/
def helpColumn : Nat := 37

/-- A line of an explanation. -/
def helpLine (usage text : String) : String :=
  usage ++ String.ofList (List.replicate (helpColumn - usage.length) ' ') ++ text

/-- The lines that answer a question. -/
def answer (e : Environment) : Question → List String
  | version => [WellKnown.operatorName ++ " " ++ operatorVersion]
  | help =>
    ["Application Gateway operator",
      "",
      "Usage: " ++ WellKnown.operatorName ++ " [OPTIONS]",
      "",
      "Options:",
      helpLine ("      " ++ Parameter.mode.usage) (modeHelp e),
      helpLine ("      " ++ Parameter.metricsPort.usage)
        "Port of the metrics and health server (overrides METRICS_PORT)",
      helpLine ("      " ++ Parameter.webhookPort.usage)
        "Port of the admission webhook (overrides WEBHOOK_PORT)",
      helpLine "  -h, --help" "Print help",
      helpLine "  -V, --version" "Print version"]

end Question

end GatewayOperator
