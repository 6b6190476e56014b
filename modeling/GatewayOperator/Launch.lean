import GatewayOperator.CommandLine
import GatewayOperator.Gateway.Definition
import GatewayOperator.Startup
import GatewayOperator.Tls.Listener

/-!
# Running the operator as a program

## Main Definitions

* `Report` — what a program that has ended leaves behind.
* `Launch` — a program that has ended, or an operator that runs.
* `launch` — what becomes of a command line.
* `definitionReport` — the program that writes the definition of gateways down.

## Design Notes

An operator that does nothing but review workloads ends if the endpoint for reviews cannot be
opened.  One that also looks after gateways goes on without the endpoint.
-/

namespace GatewayOperator

/-- What a program that has ended leaves behind. -/
structure Report where
  /-- Its exit code. -/
  exitCode : Nat
  /-- The lines it wrote. -/
  output : List String := []
  /-- The lines in which it complained. -/
  complaint : List String := []
  deriving DecidableEq, Repr, Inhabited

namespace Report

/-- The end of a program whose command line cannot be used. -/
def ofUsageFault (f : UsageFault) : Report :=
  { exitCode := 2, complaint := Text.splitOnChar '\n' ("error: " ++ f.message) }

/-- The end of a program that cannot go on. -/
def ofFault (message : String) : Report :=
  { exitCode := 1, complaint := Text.splitOnChar '\n' ("Error: " ++ message) }

end Report

/-- What a running operator has been set up with. -/
structure Operator where
  /-- Which parts of it run. -/
  mode : OperatorMode
  /-- The settings. -/
  settings : Settings
  /-- The cluster. -/
  access : ClusterAccess
  /-- By what the endpoint for reviews is encrypted. -/
  identity : Option TlsIdentity
  deriving DecidableEq, Inhabited

/-- A program that has ended, or an operator that runs. -/
inductive Launch where
  /-- The program has ended. -/
  | ended (report : Report)
  /-- The operator runs. -/
  | running (operator : Operator)
  deriving Inhabited

/-- What becomes of an operator once its settings are known. -/
def launchWith (mode : OperatorMode) (settings : Settings) (environment : Environment)
    (files : Files) (portIsFree : Nat → Bool) : Launch :=
  let kubeconfig := Kubeconfig.ofEnvironment? environment files
  match (({} : Setup).start (portIsFree settings.metricsPort) kubeconfig).1 with
  | .error fault => .ended (.ofFault fault.message)
  | .ok access =>
    match mode, settings.openEndpoint files (portIsFree settings.webhookPort) with
    | .controller, _ => .running ⟨mode, settings, access, none⟩
    | .webhook, .error fault => .ended (.ofFault fault.message)
    | .all, .error _ => .running ⟨mode, settings, access, none⟩
    | _, .ok identity => .running ⟨mode, settings, access, identity⟩

/-- What becomes of a command line, in an environment and among some files. -/
def launch (arguments : List String) (environment : Environment) (files : Files)
    (portIsFree : Nat → Bool) : Launch :=
  match Invocation.read environment arguments with
  | .error (.asked question) =>
    .ended { exitCode := 0, output := question.answer environment }
  | .error (.misused fault) => .ended (.ofUsageFault fault)
  | .ok (invocation, mode) =>
    launchWith mode (invocation.override (.ofEnvironment environment)) environment files portIsFree

/-- The program that writes the definition of gateways down; its command line does not matter. -/
def definitionReport : Report :=
  { exitCode := 0, output := (Text.splitOnChar '\n' Gateway.definitionText).dropLast }

end GatewayOperator
