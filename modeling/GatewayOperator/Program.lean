import GatewayOperator.Failure
import GatewayOperator.Gateway
import GatewayOperator.Http.Request
import GatewayOperator.Measurement
import GatewayOperator.Resource.Data
import GatewayOperator.Resource.Deployment
import GatewayOperator.Resource.Service

/-!
# Programs that ask the world

Resolution, registration, reconciliation and admission read and write cluster objects and send
requests.  They are written as programs that ask one question after another; what the answers are
is up to whoever runs them.

## Main Definitions

* `Query` — a question, and `Query.Answer`, the type of its answers.
* `Program` — a result, or a question and how to go on with each answer.
* `Program.run` — a program run against a state that answers.
* `Attempt` — a program that may end with a failure.

## Design Notes

A program is data: which questions it asks, in which order, and what it makes of each possible
answer can be read off it by recursion.  So every statement about effects is a statement about
this type, and an answer may be anything, an arbitrary failure included.
-/

namespace GatewayOperator

/-- How urgent an event is. -/
inductive Severity where
  /-- Something was done. -/
  | normal
  /-- Something went wrong. -/
  | warning
  deriving DecidableEq, Repr, Inhabited

/-- What is reported about a gateway. -/
structure Event where
  /-- How urgent it is. -/
  severity : Severity
  /-- Why, in one word. -/
  reason : String
  /-- Why, in a sentence. -/
  note : String
  deriving DecidableEq, Repr, Inhabited

/-- A question to the world. -/
inductive Query where
  /-- Reads a config map. -/
  | getConfigMap (namespace_ name : String)
  /-- Makes a config map, completing its name. -/
  | createConfigMap (namespace_ : String) (object : ConfigMap)
  /-- Writes over a config map. -/
  | replaceConfigMap (namespace_ : String) (object : ConfigMap)
  /-- Removes a config map. -/
  | deleteConfigMap (namespace_ name : String)
  /-- Reads a secret. -/
  | getSecret (namespace_ name : String)
  /-- Writes over a secret. -/
  | replaceSecret (namespace_ : String) (object : Secret)
  /-- Makes a service, completing its name. -/
  | createService (namespace_ : String) (object : Service)
  /-- Removes a service. -/
  | deleteService (namespace_ name : String)
  /-- Reads a replicated workload. -/
  | getDeployment (namespace_ name : String)
  /-- Makes a replicated workload. -/
  | createDeployment (namespace_ : String) (object : Deployment)
  /-- Writes over a replicated workload. -/
  | replaceDeployment (namespace_ : String) (object : Deployment)
  /-- Writes the status of a gateway. -/
  | patchStatus (namespace_ name : String) (status : GatewayStatus)
  /-- Reports on a gateway. -/
  | publish (gateway : Gateway) (event : Event)
  /-- Sends a request. -/
  | fetch (request : HttpRequest)
  /-- Reads the clock. -/
  | now
  /-- Counts something. -/
  | measure (measurement : Measurement)

/-- The answers to a question.  A request without an answer has a reason instead. -/
abbrev Query.Answer : Query → Type
  | .getConfigMap .. | .createConfigMap .. | .replaceConfigMap .. => Except StoreError ConfigMap
  | .getSecret .. | .replaceSecret .. => Except StoreError Secret
  | .createService .. => Except StoreError Service
  | .getDeployment .. | .createDeployment .. | .replaceDeployment .. =>
    Except StoreError Deployment
  | .deleteConfigMap .. | .deleteService .. | .patchStatus .. => Except StoreError Unit
  | .fetch _ => Except String HttpResponse
  | .now => String
  | .publish .. | .measure _ => Unit

/-- A result, or a question and how to go on with each answer. -/
inductive Program (α : Type) where
  /-- The result. -/
  | done (result : α)
  /-- A question. -/
  | ask (query : Query) (next : query.Answer → Program α)

namespace Program

variable {α β σ : Type}

/-- The program that goes on with the result of another one. -/
def andThen : Program α → (α → Program β) → Program β
  | .done result, next => next result
  | .ask query cont, next => .ask query fun answer => (cont answer).andThen next

instance : Monad Program where
  pure := .done
  bind := andThen

/-- The program that asks one question. -/
def query (q : Query) : Program q.Answer := .ask q .done

/-- A program run against a state that answers. -/
def run (respond : (q : Query) → σ → q.Answer × σ) : Program α → σ → α × σ
  | .done result, state => (result, state)
  | .ask query cont, state =>
    let (answer, state) := respond query state
    (cont answer).run respond state

@[simp] theorem done_andThen (a : α) (next : α → Program β) :
    (done a).andThen next = next a := rfl

@[simp] theorem ask_andThen (q : Query) (cont : q.Answer → Program α) (next : α → Program β) :
    (ask q cont).andThen next = ask q fun answer => (cont answer).andThen next := rfl

theorem andThen_done (p : Program α) : p.andThen done = p := by
  induction p with
  | done => rfl
  | ask q cont ih => simp [ih]

theorem andThen_assoc {γ : Type} (p : Program α) (f : α → Program β) (g : β → Program γ) :
    (p.andThen f).andThen g = p.andThen fun a => (f a).andThen g := by
  induction p with
  | done => rfl
  | ask q cont ih => simp [ih]

end Program

/-- A program that may end with a failure. -/
abbrev Attempt (α : Type) := ExceptT Failure Program α

namespace Attempt

variable {α : Type}

/-- The attempt that does nothing but fail or succeed. -/
def ofExcept (result : Except Failure α) : Attempt α := ExceptT.mk (.done result)

/-- The attempt that goes on only if the cluster has carried out a call. -/
def ofStore (p : Program (Except StoreError α)) : Attempt α :=
  ExceptT.mk do
    return (← p).mapError Failure.ofStore

/-- The attempt that goes on with what the cluster holds, if anything. -/
def found (p : Program (Except StoreError α)) : Attempt (Option α) :=
  ExceptT.mk do
    match ← p with
    | .ok value => return .ok (some value)
    | .error (.notFound ..) => return .ok none
    | .error cause => return .error (.ofStore cause)

/-- The attempt that sends a request. -/
def fetch (request : HttpRequest) : Attempt HttpResponse :=
  ExceptT.mk do
    match ← Program.query (.fetch request) with
    | .ok response => return .ok response
    | .error reason => return .error (.fetch request.url (.unreachable reason))

/-- The attempt that counts something. -/
def measure (m : Measurement) : Attempt Unit := ExceptT.lift (Program.query (.measure m))

end Attempt

end GatewayOperator
