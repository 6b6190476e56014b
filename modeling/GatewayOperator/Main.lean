import GatewayOperator.Injection.Endpoint
import GatewayOperator.Launch
import GatewayOperator.World

/-!
# The operator as a program

The program reads its command line, its environment and the files they name.  Once it runs, the
part that reviews workloads takes one message a line from the standard input and answers each with
a line on the standard output.  It speaks to a cluster that is empty at first.
-/

namespace GatewayOperator

/-- The variables that matter. -/
def variableNames : List String :=
  ["METRICS_PORT", "WEBHOOK_PORT", "WEBHOOK_TLS_CERT", "WEBHOOK_TLS_KEY", "RESYNC_INTERVAL_SECS",
    "HTTP_TIMEOUT_SECS", "ADMISSION_FAILURE_POLICY", "WATCH_NAMESPACE", "BACKOFF_MIN_MINUTES",
    "BACKOFF_MAX_MINUTES", "WATCH_RESTART_DELAY_AFTER_END_SECS", "HOME", Kubeconfig.variableName,
    OperatorMode.variableName]

/-- The variables of the program's environment. -/
def readEnvironment : IO Environment := do
  let pairs ← variableNames.mapM fun name => do
    return (← IO.getEnv name).map (name, ·)
  return Dict.ofList (pairs.filterMap id)

/-- The files that an environment names, as far as they can be read. -/
def readFiles (e : Environment) : IO Files := do
  let settings := Settings.ofEnvironment e
  let paths := Kubeconfig.paths e ++ settings.certificateFile.toList ++ settings.keyFile.toList
  let pairs ← paths.mapM fun (path : String) => do
    try
      return some (path, ← IO.FS.readFile path)
    catch _ =>
      return none
  return Dict.ofList (pairs.filterMap id)

/-- Answers messages until there are no more. -/
partial def answerReviews (policy : FailurePolicy) (world : World) (input output : IO.FS.Stream) :
    IO Unit := do
  let line ← input.getLine
  unless line.isEmpty do
    let request : WebhookRequest :=
      ⟨"POST", WebhookRequest.path, some "application/json", line⟩
    let (result, world) := world.perform (serveReview policy request)
    match result with
    | .ok reply => output.putStrLn reply.toJson.write
    | .error status => output.putStrLn (toString status)
    output.flush
    answerReviews policy world.forget input output

end GatewayOperator

open GatewayOperator in
/-- The operator as a program. -/
def main (arguments : List String) : IO UInt32 := do
  let environment ← readEnvironment
  let files ← readFiles environment
  let input ← IO.getStdin
  let output ← IO.getStdout
  match launch arguments environment files fun _ => true with
  | .ended report =>
    for line in report.output do
      output.putStrLn line
    for line in report.complaint do
      (← IO.getStderr).putStrLn line
    return report.exitCode.toUInt32
  | .running operator =>
    if operator.mode ≠ .controller then
      answerReviews operator.settings.failurePolicy { cluster := {} } input output
    return 0
