import Mathlib.Data.List.Induction
import GatewayOperator.Proofs.Rollout.FailedPasses
import GatewayOperator.Rollout.Watch

/-!
# One gateway's failures do not put off another one

The operator keeps one ledger for all gateways, under keys made of their namespaces and names.  It
is written when a pass succeeds and when a pass that has failed is put off.  This module shows that
the part of a gateway is what a record of its own would be, however the passes over the gateways
follow one another.

## Main Definitions

* `PassOutcome` — how a pass has come out.
* `FailureRecord.after` — the record of a gateway, kept apart from all others.
* `FailureRecord.afterFailures` — the record after some failures in a row.
* `RetryHistory` — the passes over all gateways that have come out so far, with the ledger that they
  have left.

## Main Statements

* `FailureRecord.after_eq` — of the passes only the failures since the last success count.
* `RetryHistory.record_eq` — the part of a gateway in the ledger is its own record.
* `RetryHistory.visitAll` — what the operator does with the gateways it visits is such a history.
* `RetryHistory.retry_own` — a gateway's next delay depends on its own failures since its last
  success.

## Design Notes

A pass reads and writes the ledger when it comes out, and not before.  So passes may overlap, and
the order in a history is the order in which they come out.  Nothing is assumed of what the cluster
does in between: each of the runs may begin in any state.

Two gateways may have the same key if there is a slash in a namespace, and a gateway without a name
or a namespace has one key when it fails and another one when it succeeds.  So each gateway has to
have both, and no slash in its namespace.
-/

namespace GatewayOperator

/-- How a pass has come out. -/
inductive PassOutcome where
  /-- It has failed, and the gateway is put off. -/
  | failed
  /-- It has succeeded. -/
  | succeeded
  deriving DecidableEq, Repr

/-- The number of failures since the last success. -/
def failuresInARow (outcomes : List PassOutcome) : Nat :=
  (outcomes.reverse.takeWhile (· = .failed)).length

@[simp] theorem failuresInARow_append_failed (outcomes : List PassOutcome) :
    failuresInARow (outcomes ++ [.failed]) = failuresInARow outcomes + 1 := by
  simp [failuresInARow]

@[simp] theorem failuresInARow_append_succeeded (outcomes : List PassOutcome) :
    failuresInARow (outcomes ++ [.succeeded]) = 0 := by
  simp [failuresInARow]

/-! ### The record of one gateway -/

namespace FailureRecord

variable {min max : UInt64} {r : FailureRecord} {outcome : PassOutcome}

/-- The record after one more pass. -/
def heed (r : FailureRecord) : PassOutcome → FailureRecord
  | .failed => r.fail
  | .succeeded => r.succeed

/-- The record of a gateway whose passes have come out like this, the first first. -/
def after (min max : UInt64) (outcomes : List PassOutcome) : FailureRecord :=
  outcomes.foldl heed (start min max)

/-- The record of a gateway that has failed this often since its last success. -/
def afterFailures (min max : UInt64) : Nat → FailureRecord
  | 0 => start min max
  | n + 1 => (afterFailures min max n).fail

/-- What follows from one more failure. -/
def retry (r : FailureRecord) : Retry := ⟨r.backoff.seconds, r.fail.count⟩

@[simp] theorem after_append (outcomes : List PassOutcome) :
    after min max (outcomes ++ [outcome]) = (after min max outcomes).heed outcome := by
  unfold after
  rw [List.foldl_append, List.foldl_cons, List.foldl_nil]

/-- A success takes back what came before it. -/
theorem succeed_heed : (r.heed outcome).succeed = r.succeed := by
  cases outcome <;> rfl

theorem succeed_after (outcomes : List PassOutcome) :
    (after min max outcomes).succeed = start min max := by
  induction outcomes using List.reverseRecOn with
  | nil => rfl
  | append_singleton outcomes outcome ih => rw [after_append, succeed_heed, ih]

/-- Of the passes over a gateway only the failures since its last success count. -/
theorem after_eq (outcomes : List PassOutcome) :
    after min max outcomes = afterFailures min max (failuresInARow outcomes) := by
  induction outcomes using List.reverseRecOn with
  | nil => rfl
  | append_singleton outcomes outcome ih =>
    rw [after_append]
    cases outcome with
    | failed =>
      rw [failuresInARow_append_failed, ih]
      rfl
    | succeeded =>
      rw [failuresInARow_append_succeeded]
      exact succeed_after outcomes

theorem count_afterFailures (n : Nat) : (afterFailures min max n).count = UInt32.ofNat n := by
  induction n with
  | zero => rfl
  | succ n ih =>
    have more : (afterFailures min max (n + 1)).count = (afterFailures min max n).count + 1 := rfl
    rw [more, ih, UInt32.ofNat_add]
    rfl

end FailureRecord

/-! ### The ledger of all gateways -/

namespace FailureLedger

variable {min max : UInt64} {ledger : FailureLedger} {outcome : PassOutcome} {key other : String}

/-- The record under a key; there is a fresh one as long as nothing has failed. -/
def record (min max : UInt64) (ledger : FailureLedger) (key : String) : FailureRecord :=
  (ledger.get? key).getD (.start min max)

/-- The ledger after one more pass. -/
def heed (min max : UInt64) (key : String) (ledger : FailureLedger) : PassOutcome → FailureLedger
  | .failed => (fail min max key ledger).2
  | .succeeded => ledger.succeed key

theorem fail_fst : (fail min max key ledger).1 = (record min max ledger key).retry := rfl

theorem get?_succeed :
    (ledger.succeed key).get? other =
      if other = key then (ledger.get? key).map .succeed else ledger.get? other := by
  unfold succeed
  split
  · next record there =>
    rw [Dict.get?_insert, there]
    rfl
  · next absent =>
    split
    · next same => rw [same, absent, Option.map_none]
    · rfl

/-- A pass changes the record under its own key, and no other one. -/
theorem record_heed :
    record min max (heed min max key ledger outcome) other =
      if other = key then (record min max ledger key).heed outcome
      else record min max ledger other := by
  unfold record
  cases outcome with
  | failed =>
    have written : heed min max key ledger .failed =
        Dict.insert ledger key (record min max ledger key).fail := rfl
    rw [written, Dict.get?_insert, apply_ite (Option.getD · _)]
    rfl
  | succeeded =>
    have written : heed min max key ledger .succeeded = ledger.succeed key := rfl
    rw [written, get?_succeed, apply_ite (Option.getD · _)]
    cases ledger.get? key <;> rfl

end FailureLedger

/-! ### The keys of gateways -/

namespace Gateway

variable {g h : Gateway}

/-- A gateway has a name and a namespace, and there is no slash in the namespace. -/
structure Addressed (g : Gateway) : Prop where
  /-- It has a namespace. -/
  placed : g.metadata.namespace_ = some g.namespaceText
  /-- It has a name. -/
  named : g.metadata.name = some g.name
  /-- The first slash of its key is the one in front of its name. -/
  slashless : '/' ∉ g.namespaceText.toList

/-- A failure and a success count under the same key. -/
theorem Addressed.retryKey_eq (addressed : g.Addressed) : g.retryKey = g.ledgerKey := by
  unfold retryKey
  rw [addressed.placed, addressed.named]
  rfl

theorem toList_ledgerKey : g.ledgerKey.toList = g.namespaceText.toList ++ '/' :: g.name.toList := by
  unfold ledgerKey FailureLedger.key
  rw [String.toList_append, String.toList_append, List.append_assoc]
  rfl

/-- Gateways have the same key in the ledger only if they have the same namespace and name. -/
theorem Addressed.ledgerKey_inj (addressed : g.Addressed) (addressed' : h.Addressed)
    (same : g.ledgerKey = h.ledgerKey) : g.key = h.key := by
  have chars : g.namespaceText.toList ++ '/' :: g.name.toList =
      h.namespaceText.toList ++ '/' :: h.name.toList := by
    rw [← toList_ledgerKey, ← toList_ledgerKey, same]
  obtain ⟨between, longer, rest⟩ := exists_eq_append_of_notMem chars addressed.slashless
  cases between with
  | nil =>
    rw [List.append_nil] at longer
    have names : g.name.toList = h.name.toList := (List.cons.inj rest).2
    unfold key
    rw [String.toList_inj.mp longer, String.toList_inj.mp names]
  | cons c between =>
    obtain ⟨rfl, -⟩ := List.cons.inj rest
    refine absurd ?_ addressed'.slashless
    rw [longer]
    exact List.mem_append_right _ List.mem_cons_self

theorem Addressed.ledgerKey_eq_iff (addressed : g.Addressed) (addressed' : h.Addressed) :
    g.ledgerKey = h.ledgerKey ↔ g.key = h.key := by
  refine ⟨addressed.ledgerKey_inj addressed', fun same => ?_⟩
  obtain ⟨namespaces, names⟩ := ObjectKey.mk.inj same
  unfold ledgerKey
  rw [namespaces, names]

end Gateway

/-! ### Passes over many gateways -/

section Histories

variable {σ : Type} {answers : Responder σ} {g : Gateway} {min max : UInt64} {resyncSeconds : Nat}
  {ledger ledger' : FailureLedger} {s s' : σ} {t : Transcript} {requeue : Requeue}
  {log : List (Gateway × PassOutcome)}

/-- A pass that succeeds is noted, and one that fails is not noted until the gateway is put off. -/
theorem reconcile_ledger {result : Except Failure Requeue}
    (run : (g.reconcile resyncSeconds ledger).Yields answers s t (result, ledger') s') :
    ledger' = if result.isOk then ledger.succeed g.ledgerKey else ledger := by
  unfold Gateway.reconcile at run
  obtain ⟨_, _, _, _, -, run, -⟩ := Program.yields_bind.mp run
  obtain ⟨rolledOut, _, _, _, -, run, -⟩ := Program.yields_bind.mp run
  obtain ⟨_, _, _, _, -, run, -⟩ := Program.yields_bind.mp run
  cases rolledOut with
  | ok requeue =>
    obtain ⟨-, same, -⟩ := run
    cases same
    rfl
  | error failure =>
    obtain ⟨_, _, _, _, -, ⟨-, same, -⟩, -⟩ := Program.yields_bind.mp run
    cases same
    rfl

/-- A gateway is put off for the delay that the ledger has for it. -/
theorem retryLater_yields
    (run : (g.retryLater min max ledger).Yields answers s t (requeue, ledger') s') :
    requeue = .after (FailureLedger.fail min max g.retryKey ledger).1.seconds.toNat ∧
      ledger' = (FailureLedger.fail min max g.retryKey ledger).2 := by
  unfold Gateway.retryLater at run
  obtain ⟨_, _, _, _, -, run, -⟩ := Program.yields_bind.mp run
  obtain ⟨_, _, _, _, -, ⟨-, same, -⟩, -⟩ := Program.yields_bind.mp run
  exact Prod.mk.inj same

/-- The passes over gateways that have come out so far, the first first, with the ledger that they
have left. -/
inductive RetryHistory (answers : Responder σ) (min max : UInt64) :
    List (Gateway × PassOutcome) → FailureLedger → Prop
  /-- There was no pass. -/
  | start : RetryHistory answers min max [] ∅
  /-- A pass succeeds. -/
  | succeeded {g : Gateway} {resyncSeconds : Nat} {ledger ledger' : FailureLedger} {s s' : σ}
      {t : Transcript} {requeue : Requeue} {log : List (Gateway × PassOutcome)}
      (before : RetryHistory answers min max log ledger)
      (run : (g.reconcile resyncSeconds ledger).Yields answers s t (.ok requeue, ledger') s') :
      RetryHistory answers min max (log ++ [(g, .succeeded)]) ledger'
  /-- A pass fails, and its gateway has yet to be put off. -/
  | halted {g : Gateway} {resyncSeconds : Nat} {ledger ledger' : FailureLedger} {s s' : σ}
      {t : Transcript} {e : Failure} {log : List (Gateway × PassOutcome)}
      (before : RetryHistory answers min max log ledger)
      (run : (g.reconcile resyncSeconds ledger).Yields answers s t (.error e, ledger') s') :
      RetryHistory answers min max log ledger'
  /-- A gateway whose pass has failed is put off. -/
  | failed {g : Gateway} {ledger ledger' : FailureLedger} {s s' : σ} {t : Transcript}
      {requeue : Requeue} {log : List (Gateway × PassOutcome)}
      (before : RetryHistory answers min max log ledger)
      (run : (g.retryLater min max ledger).Yields answers s t (requeue, ledger') s') :
      RetryHistory answers min max (log ++ [(g, .failed)]) ledger'

/-- How the passes over one of the gateways have come out. -/
def Gateway.outcomes (g : Gateway) (log : List (Gateway × PassOutcome)) : List PassOutcome :=
  (log.filter (·.1.key = g.key)).map (·.2)

theorem Gateway.outcomes_append (g h : Gateway) (outcome : PassOutcome) :
    g.outcomes (log ++ [(h, outcome)]) =
      if h.key = g.key then g.outcomes log ++ [outcome] else g.outcomes log := by
  unfold Gateway.outcomes
  rw [List.filter_append, List.map_append]
  by_cases same : h.key = g.key
  · simp [same]
  · simp [same]

namespace RetryHistory

/-- What is noted of one more pass is added to the record of its gateway. -/
theorem record_heed {h : Gateway} {outcome : PassOutcome} (addressed : h.Addressed)
    (here : g.Addressed)
    (kept : ledger.record min max g.ledgerKey = .after min max (g.outcomes log)) :
    FailureLedger.record min max (FailureLedger.heed min max h.ledgerKey ledger outcome)
        g.ledgerKey = .after min max (g.outcomes (log ++ [(h, outcome)])) := by
  rw [FailureLedger.record_heed, Gateway.outcomes_append]
  by_cases same : h.key = g.key
  · have sameKey : g.ledgerKey = h.ledgerKey := (here.ledgerKey_eq_iff addressed).mpr same.symm
    rw [if_pos sameKey, if_pos same, ← sameKey, kept, FailureRecord.after_append]
  · have otherKey : g.ledgerKey ≠ h.ledgerKey := fun sameKey =>
      same (here.ledgerKey_inj addressed sameKey).symm
    rw [if_neg otherKey, if_neg same, kept]

/-- The part of a gateway in the ledger is the record of its own passes. -/
theorem record_eq (history : RetryHistory answers min max log ledger)
    (addressed : ∀ pass ∈ log, pass.1.Addressed) (here : g.Addressed) :
    ledger.record min max g.ledgerKey = .after min max (g.outcomes log) := by
  induction history with
  | start => rfl
  | @succeeded h _ ledger ledger' _ _ _ _ log before run ih =>
    have kept := ih fun pass mem => addressed pass (List.mem_append_left _ mem)
    have there : h.Addressed := addressed (h, .succeeded) (by simp)
    rw [show ledger' = FailureLedger.heed min max h.ledgerKey ledger .succeeded from
      reconcile_ledger run]
    exact record_heed there here kept
  | halted before run ih =>
    rw [reconcile_ledger run]
    exact ih addressed
  | @failed h ledger ledger' _ _ _ _ log before run ih =>
    have kept := ih fun pass mem => addressed pass (List.mem_append_left _ mem)
    have there : h.Addressed := addressed (h, .failed) (by simp)
    rw [show ledger' = FailureLedger.heed min max h.retryKey ledger .failed from
      (retryLater_yields run).2, there.retryKey_eq]
    exact record_heed there here kept

/-- A visit to a gateway is one more pass that has come out. -/
theorem visit {settings : Settings} (low : settings.backoffMinMinutes = min)
    (high : settings.backoffMaxMinutes = max) (history : RetryHistory answers min max log ledger)
    (run : (g.visit settings ledger).Yields answers s t ledger' s') :
    ∃ outcome, RetryHistory answers min max (log ++ [(g, outcome)]) ledger' := by
  unfold Gateway.visit at run
  obtain ⟨⟨result, ledger₁⟩, _, _, _, passed, run, -⟩ := Program.yields_bind.mp run
  cases result with
  | ok requeue =>
    obtain ⟨-, rfl, -⟩ := run
    exact ⟨.succeeded, history.succeeded passed⟩
  | error e =>
    obtain ⟨⟨requeue, ledger₂⟩, _, _, _, putOff, ⟨-, rfl, -⟩, -⟩ := Program.yields_bind.mp run
    rw [low, high] at putOff
    exact ⟨.failed, (history.halted passed).failed putOff⟩

/-- What the operator does with the gateways that a notice is about is such a history. -/
theorem visitAll {settings : Settings} (low : settings.backoffMinMinutes = min)
    (high : settings.backoffMaxMinutes = max) {gateways : List Gateway}
    (history : RetryHistory answers min max log ledger)
    (run : (Watch.visitAll settings gateways ledger).Yields answers s t ledger' s') :
    ∃ passes, passes.map (·.1) = gateways ∧
      RetryHistory answers min max (log ++ passes) ledger' := by
  induction gateways generalizing log ledger s t with
  | nil =>
    obtain ⟨-, rfl, -⟩ := run
    exact ⟨[], rfl, by rwa [List.append_nil]⟩
  | cons g rest ih =>
    obtain ⟨ledger₁, _, _, _, visited, run, -⟩ := Program.yields_bind.mp run
    obtain ⟨outcome, longer⟩ := history.visit low high visited
    obtain ⟨passes, rfl, all⟩ := ih longer run
    rw [List.append_assoc] at all
    exact ⟨(g, outcome) :: passes, rfl, all⟩

/-- **A gateway is put off for its own failures.**  However the passes over some gateways follow one
another, what follows from a failure is what a record of this gateway alone says.  That is told by
the bounds and the number of failures since the gateway's last success. -/
theorem retry_own (history : RetryHistory answers min max log ledger)
    (addressed : ∀ pass ∈ log, pass.1.Addressed) (here : g.Addressed) :
    (FailureLedger.fail min max g.retryKey ledger).1 =
        (FailureRecord.after min max (g.outcomes log)).retry ∧
      (FailureRecord.after min max (g.outcomes log)).retry =
        (FailureRecord.afterFailures min max (failuresInARow (g.outcomes log))).retry ∧
      (FailureLedger.fail min max g.retryKey ledger).1.count =
        UInt32.ofNat (failuresInARow (g.outcomes log) + 1) ∧
      ∀ s t requeue ledger' s',
        (g.retryLater min max ledger).Yields answers s t (requeue, ledger') s' →
          requeue =
            .after (FailureRecord.after min max (g.outcomes log)).retry.seconds.toNat := by
  have own : (FailureLedger.fail min max g.retryKey ledger).1 =
      (FailureRecord.after min max (g.outcomes log)).retry := by
    rw [FailureLedger.fail_fst, here.retryKey_eq, history.record_eq addressed here]
  refine ⟨own, ?_, ?_, ?_⟩
  · rw [FailureRecord.after_eq]
  · rw [own, FailureRecord.after_eq]
    exact FailureRecord.count_afterFailures (failuresInARow (g.outcomes log) + 1)
  · intro s t requeue ledger' s' run
    rw [(retryLater_yields run).1, own]

/-- Putting a gateway off in a world goes on with a history. -/
theorem perform_failed {w : World} (history : RetryHistory w.platform.Answers min max log ledger)
    (g : Gateway) : RetryHistory w.platform.Answers min max (log ++ [(g, .failed)])
      (FailureLedger.fail min max g.retryKey ledger).2 := by
  obtain ⟨t, run⟩ := w.perform_yields (g.retryLater min max ledger)
  rw [← (retryLater_yields run).2]
  exact history.failed run

/-- So does a pass that succeeds in a world. -/
theorem perform_succeeded {w : World}
    (history : RetryHistory w.platform.Answers min max log ledger) (g : Gateway)
    (succeeds : (w.perform (g.reconcile 30 ledger)).1.1.isOk = true) :
    RetryHistory w.platform.Answers min max (log ++ [(g, .succeeded)])
      (ledger.succeed g.ledgerKey) := by
  obtain ⟨t, run⟩ := w.perform_yields (g.reconcile 30 ledger)
  have noted := reconcile_ledger run
  rw [if_pos succeeds] at noted
  rw [← noted]
  cases result : (w.perform (g.reconcile 30 ledger)).1.1 with
  | ok requeue =>
    have ok : (w.perform (g.reconcile 30 ledger)).1 = (.ok requeue, _) := Prod.ext result rfl
    rw [ok] at run
    exact history.succeeded run
  | error e =>
    rw [result] at succeeds
    cases succeeds

end RetryHistory

end Histories

/-- Another gateway beside the one without any configuration. -/
def innerGateway : Gateway :=
  { bareGateway with metadata := { bareGateway.metadata with name := some "inner" } }

/-- A gateway that has failed once since its last success is put off for a minute, whatever another
one does. -/
theorem edge_put_off_beside_inner : ∃ ledger,
    RetryHistory (World.platform { cluster := {} }).Answers 1 10
        [(bareGateway, .failed), (innerGateway, .failed), (bareGateway, .succeeded),
          (innerGateway, .failed), (bareGateway, .failed)] ledger ∧
      bareGateway.Addressed ∧ innerGateway.Addressed ∧
      (FailureLedger.fail 1 10 bareGateway.retryKey ledger).1 = ⟨60, 2⟩ := by
  have edge : bareGateway.Addressed := ⟨rfl, rfl, by decide⟩
  have inner : innerGateway.Addressed := ⟨rfl, rfl, by decide⟩
  have begun : RetryHistory (World.platform { cluster := {} }).Answers 1 10 [] ∅ := .start
  have failed := (begun.perform_failed bareGateway).perform_failed innerGateway
  have succeeded := failed.perform_succeeded bareGateway (by decide +kernel)
  have again := (succeeded.perform_failed innerGateway).perform_failed bareGateway
  refine ⟨_, again, edge, inner, ?_⟩
  rw [(again.retry_own (by simp [edge, inner]) edge).1]
  decide +kernel

end GatewayOperator
