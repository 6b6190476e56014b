import GatewayOperator.Proofs.Identity.Protocol
import GatewayOperator.Proofs.Injection.Flows
import GatewayOperator.Proofs.Rollout.Outcomes
import GatewayOperator.Proofs.Secrecy.Resolving
import GatewayOperator.Proofs.Secrecy.Worlds

/-!
# Secrets stay secret

What an operator makes of secrets is seen by others: the documents and the config maps that hold
them, the statuses of gateways and the reports on them, and the answers to requests.  None of this
depends on the values in secrets.

## Main Statements

* `Gateway.reconcile_alike`, `decideAdmission_alike` — a pass behaves like itself, and so does the
  answer to a request.
* `secrets_stay_secret` — in worlds that differ in the values in their secrets the same is seen.

## Design Notes

The outline of a secret is seen: a missing entry is reported, and a client is registered where there
is none.  What is answered at an address must not depend on what is sent there, as it does where a
password is checked.
-/

namespace GatewayOperator

/-! ### Passes -/

theorem Query.Converging.isOpen {q : Query} (h : q.Converging) : q.Open := by
  cases q <;> trivial

theorem Query.Reporting.isOpen {q : Query} (h : q.Reporting) : q.Open := by
  cases q <;> trivial

namespace Gateway

theorem ensureConfigMap_asks (g : Gateway) (live : Option Deployment) (document : String) :
    (g.ensureConfigMap live document).run.Asks Query.Open := by
  have finds : (g.findConfigMap live).run.Asks Query.Open := by
    unfold findConfigMap
    split
    · exact Attempt.asks_found (Program.asks_query trivial)
    · exact Attempt.asks_pure _
  refine Attempt.asks_bind finds fun found => ?_
  cases found with
  | some existing =>
    show (g.refreshConfigMap existing document).run.Asks Query.Open
    unfold refreshConfigMap
    dsimp only
    split
    · exact Attempt.asks_pure _
    · exact Attempt.asks_bind (Attempt.asks_ofStore (Program.asks_query trivial)) fun _ =>
        Attempt.asks_pure _
  | none =>
    refine Attempt.asks_bind (Attempt.asks_ofStore (Program.asks_query trivial)) fun _ => ?_
    exact Attempt.asks_pure _

theorem apply_asks (g : Gateway) (resyncSeconds : Nat) (live : Option Deployment)
    (document : Document) : (g.apply resyncSeconds live document).run.Asks Query.Open := by
  refine Attempt.asks_bind (g.ensureConfigMap_asks live _) fun configMap => ?_
  refine Attempt.asks_bind ((converge_asks g _ _ _ _).mono fun _ => Query.Converging.isOpen) ?_
  exact fun step => (g.conclude_asks configMap step).mono fun _ => Query.Reporting.isOpen

theorem rollOut_alike (g : Gateway) (resyncSeconds : Nat) :
    Attempt.Alike Eq (g.rollOut resyncSeconds) (g.rollOut resyncSeconds) := by
  rw [rollOut_eq]
  refine (Attempt.alike_of_asks (Attempt.asks_found (Program.asks_query trivial))).bind_eq ?_
  intro live
  refine (Attempt.Alike.ofExcept _).bind_eq fun sources => ?_
  refine (resolve_alike g.namespaceText sources).bind_eq fun document => ?_
  exact Attempt.alike_of_asks (g.apply_asks resyncSeconds live document)

/-- A pass behaves like itself. -/
theorem reconcile_alike (g : Gateway) (resyncSeconds : Nat) (ledger : FailureLedger) :
    (g.reconcile resyncSeconds ledger).Alike Eq (g.reconcile resyncSeconds ledger) := by
  refine Program.Alike.bind_eq (.of_asks (Program.asks_query trivial)) fun _ => ?_
  refine Program.Alike.bind (g.rollOut_alike resyncSeconds) fun result _ same => ?_
  cases same.eq
  refine .of_asks (Program.Asks.bind (Program.asks_query trivial) fun _ => ?_)
  cases result with
  | ok requeue => exact trivial
  | error failure =>
    refine Program.Asks.bind ((reportFailure_asks g failure).mono fun _ h => ?_) fun _ => trivial
    exact h.reporting.isOpen

end Gateway

/-! ### Requests -/

theorem discardService_asks (ns : String) (name : Option String) :
    (discardService ns name).Asks Query.Open := by
  unfold discardService
  split
  · exact trivial
  · exact Program.Asks.bind (Program.asks_query trivial) fun _ => trivial

theorem discardConfigMap_asks (ns : String) (name : Option String) :
    (discardConfigMap ns name).Asks Query.Open := by
  unfold discardConfigMap
  split
  · exact trivial
  · exact Program.Asks.bind (Program.asks_query trivial) fun _ => trivial

theorem makeService_asks (names : SidecarNames) (ns port : String) :
    (makeService names ns port).run.Asks Query.Open :=
  Attempt.asks_bind (Attempt.asks_ofStore (Program.asks_query trivial)) fun _ =>
    Attempt.asks_pure _

theorem makeConfigMap_alike (names : SidecarNames) (ns : String) (sources : List Source) :
    Attempt.Alike Eq (makeConfigMap names ns sources) (makeConfigMap names ns sources) := by
  refine (resolve_alike ns sources).bind_eq fun document => Attempt.alike_of_asks ?_
  exact Attempt.asks_bind (Attempt.asks_ofStore (Program.asks_query trivial)) fun _ =>
    Attempt.asks_pure _

/-- What is cleaned up after a failure is the same after the same failure. -/
theorem Attempt.Alike.orCleanUp {α : Type} {x x' : Attempt α} {cleanUp : Program Unit}
    (alike : Attempt.Alike Eq x x') (cleans : cleanUp.Asks Query.Open) :
    Attempt.Alike Eq (x.orCleanUp cleanUp) (x'.orCleanUp cleanUp) := by
  refine Program.Alike.bind alike fun outcome _ same => ?_
  cases same.eq
  cases outcome with
  | ok value => exact .done same
  | error failure => exact (Program.Alike.of_asks cleans).bind fun _ _ _ => .done same

variable {kind : WorkloadKind} {names : SidecarNames} {ns name : String} {sources : List Source}
  {target : AdmittedObject}

theorem makeServiceIf_asks (names : SidecarNames) (ns : String) (port : Option String) :
    (makeServiceIf names ns port).run.Asks Query.Open := by
  cases port with
  | none => exact Attempt.asks_pure _
  | some port => exact Attempt.asks_map (makeService_asks names ns port)

theorem makeConfigMapIf_alike (needed : Bool) (names : SidecarNames) (ns : String)
    (sources : List Source) {cleanUp : Program Unit} (cleans : cleanUp.Asks Query.Open) :
    Attempt.Alike Eq (makeConfigMapIf needed names ns sources cleanUp)
      (makeConfigMapIf needed names ns sources cleanUp) := by
  cases needed with
  | true =>
    exact ((makeConfigMap_alike names ns sources).orCleanUp cleans).map fun _ _ => congrArg some
  | false => exact .pure rfl

/-- Discarding what was made for a workload asks open questions only. -/
theorem discard_asks (ns : String) (service configMap : Option String) :
    (do discardService ns service; discardConfigMap ns configMap : Program Unit).Asks Query.Open :=
  Program.Asks.bind (discardService_asks ns service) fun _ => discardConfigMap_asks ns configMap

theorem inject_alike (kind : WorkloadKind) (name ns : String) (target : AdmittedObject) :
    Attempt.Alike Eq (inject kind name ns target) (inject kind name ns target) := by
  rw [inject_eq]
  refine (Attempt.Alike.ofExcept _).bind_eq fun entries => ?_
  refine (Attempt.Alike.ofExcept _).bind_eq fun sources => ?_
  refine (Attempt.alike_of_asks (makeServiceIf_asks _ ns _)).bind_eq fun service => ?_
  refine ((makeConfigMap_alike _ ns sources).orCleanUp (discardService_asks ns service)).bind_eq
    fun configMap => ?_
  refine ((Attempt.Alike.ofExcept _).orCleanUp (discard_asks ns service _)).bind_eq fun patch => ?_
  exact .pure rfl

theorem refresh_alike (kind : WorkloadKind) (name ns : String) (target : AdmittedObject)
    (previous : TextMap) :
    Attempt.Alike Eq (refresh kind name ns target previous)
      (refresh kind name ns target previous) := by
  rw [refresh_eq]
  refine (Attempt.Alike.ofExcept _).bind_eq fun entries => ?_
  refine (Attempt.Alike.ofExcept _).bind_eq fun sources => ?_
  refine (Attempt.alike_of_asks (makeServiceIf_asks _ ns _)).bind_eq fun service => ?_
  refine (makeConfigMapIf_alike _ _ ns sources (discardService_asks ns service)).bind_eq
    fun configMap => ?_
  refine ((Attempt.Alike.ofExcept _).orCleanUp (discard_asks ns service _)).bind_eq fun patch => ?_
  refine (Attempt.Alike.lift (.of_asks (discardService_asks ns _))).bind_eq fun _ => ?_
  refine (Attempt.Alike.lift (.of_asks (discardConfigMap_asks ns _))).bind_eq fun _ => ?_
  exact .pure rfl

theorem reviewCreate_alike (request : AdmissionRequest) (kind : WorkloadKind) (ns : String) :
    Attempt.Alike Eq (reviewCreate request kind ns) (reviewCreate request kind ns) := by
  unfold reviewCreate
  split
  · exact .pure rfl
  · exact .pure rfl
  · refine (Attempt.Alike.ofExcept _).bind_eq fun target => ?_
    split
    · exact inject_alike kind _ ns target
    · exact .pure rfl

theorem reviewUpdate_alike (request : AdmissionRequest) (kind : WorkloadKind) (ns : String) :
    Attempt.Alike Eq (reviewUpdate request kind ns) (reviewUpdate request kind ns) := by
  unfold reviewUpdate
  split
  · refine (Attempt.Alike.ofExcept _).bind_eq fun target => ?_
    refine (Attempt.Alike.ofExcept _).bind_eq fun live => ?_
    split
    · exact refresh_alike kind _ ns target _
    · exact .pure rfl
  · exact .pure rfl

theorem reviewDelete_asks (request : AdmissionRequest) (kind : WorkloadKind) (ns : String) :
    (reviewDelete request kind ns).Asks Query.Open := by
  unfold reviewDelete
  split
  · exact trivial
  · split
    · exact trivial
    · dsimp only
      split
      · exact discard_asks ns _ _
      · exact trivial

theorem review_alike (request : AdmissionRequest) :
    Attempt.Alike Eq (review request) (review request) := by
  unfold review
  dsimp only
  split
  · exact .pure rfl
  · split
    · exact .pure rfl
    · cases request.operation with
      | create => exact reviewCreate_alike request _ _
      | update => exact reviewUpdate_alike request _ _
      | delete =>
        exact (Attempt.Alike.lift (.of_asks (reviewDelete_asks request _ _))).bind_eq fun _ =>
          .pure rfl
      | connect => exact .pure rfl

/-- The answer to a request behaves like itself. -/
theorem decideAdmission_alike (policy : FailurePolicy) (request : AdmissionRequest) :
    (decideAdmission policy request).Alike Eq (decideAdmission policy request) := by
  refine Program.Alike.bind (review_alike request) fun outcome _ same => ?_
  cases same.eq
  refine .of_asks ?_
  cases outcome with
  | ok mutation =>
    cases mutation <;> exact Program.Asks.bind (Program.asks_query trivial) fun _ => trivial
  | error failure =>
    cases policy <;> exact Program.Asks.bind (Program.asks_query trivial) fun _ => trivial

/-! ### What is seen -/

/-- **Secrets stay secret**: in worlds that differ only in the values in their secrets, a
configuration is resolved to the same document or fails in the same words, a pass comes to the same
and leaves the same config maps, statuses and reports, and requests are answered in the same way. -/
theorem secrets_stay_secret (conditions : Conditions) {w w' : World} (alike : w.Alike w') :
    (∀ ns sources,
      (conditions.perform w (resolve ns sources).run).1 =
        (conditions.perform w' (resolve ns sources).run).1) ∧
    (∀ (g : Gateway) resyncSeconds ledger,
      let pass := conditions.perform w (g.reconcile resyncSeconds ledger)
      let pass' := conditions.perform w' (g.reconcile resyncSeconds ledger)
      pass.1 = pass'.1 ∧ pass.2.cluster.configMaps = pass'.2.cluster.configMaps ∧
        pass.2.cluster.statuses = pass'.2.cluster.statuses ∧
        pass.2.reports = pass'.2.reports) ∧
    (∀ policy request,
      let answered := conditions.perform w (decideAdmission policy request)
      let answered' := conditions.perform w' (decideAdmission policy request)
      answered.1 = answered'.1 ∧
        answered.2.cluster.configMaps = answered'.2.cluster.configMaps) := by
  refine ⟨fun ns sources => ?_, fun g resyncSeconds ledger => ?_, fun policy request => ?_⟩
  · exact ((resolve_alike ns sources).perform conditions alike).1.eq
  · obtain ⟨same, after⟩ := (g.reconcile_alike resyncSeconds ledger).perform conditions alike
    exact ⟨same, after.cluster.configMaps, after.cluster.statuses, after.reports⟩
  · obtain ⟨same, after⟩ := (decideAdmission_alike policy request).perform conditions alike
    exact ⟨same, after.cluster.configMaps⟩

/-- A world with a secret that holds a password, with which the provider gives out tokens. -/
def worldWithPassword (password : String) : World :=
  { worldWithTokens with
    cluster :=
      { secrets := Dict.ofList
          [(⟨"apps", "client"⟩,
            ⟨{ name := some "client" },
              some (Dict.ofList
                [("tokenRetrievalClientId", Bytes.ofText "who"),
                  ("tokenRetrievalClientSecret", Bytes.ofText password)]), none⟩)] } }

/-- The passwords differ, and the document is the same. -/
theorem worldWithPassword_stays_secret :
    (worldWithPassword "tick").Alike (worldWithPassword "tock") ∧
    (worldWithPassword "tick").cluster.secrets ≠ (worldWithPassword "tock").cluster.secrets ∧
    ∃ document, ∀ password, password = "tick" ∨ password = "tock" →
      ((worldWithPassword password).perform
        (resolve "apps" [.registration sampleRegistration]).run).1 = .ok document := by
  have alike : (worldWithPassword "tick").Alike (worldWithPassword "tock") :=
    ⟨⟨rfl, by decide +kernel, rfl, rfl, rfl, rfl⟩, rfl, rfl, rfl, rfl⟩
  have same := (secrets_stay_secret (worldWithPassword "tick").conditions alike).1 "apps"
    [.registration sampleRegistration]
  have conditions : (worldWithPassword "tick").conditions = (worldWithPassword "tock").conditions :=
    rfl
  rw [World.perform_conditions, conditions, World.perform_conditions] at same
  have resolves : ((worldWithPassword "tick").perform
      (resolve "apps" [.registration sampleRegistration]).run).1.isOk := by
    decide +kernel
  refine ⟨alike, by decide +kernel, ?_⟩
  cases outcome : ((worldWithPassword "tick").perform
      (resolve "apps" [.registration sampleRegistration]).run).1 with
  | error failure =>
    rw [outcome] at resolves
    cases resolves
  | ok document =>
    refine ⟨document, ?_⟩
    rintro _ (rfl | rfl)
    · exact outcome
    · exact same.symm.trans outcome

end GatewayOperator
