import Mathlib.Data.List.Induction
import GatewayOperator.Proofs.Rollout.FailedPasses

/-!
# Since when a gateway is ready, and when its status is written

Each pass makes a status from the one the gateway has.  This module follows the statuses of a
gateway through any number of reports.  The time of the condition goes back to the report at which
the gateway became as ready as it is, and a status is written only if it tells something new.

## Main Definitions

* `StatusReport` — what is reported once, and when.
* `lastStatus` — the status after some reports.
* `EndsInStreak` — the last reports that agree on readiness, and the first one of them.
* `GatewayStatus.SameReport` — two statuses tell the same, whenever it was reported.

## Main Statements

* `GatewayStatus.Reported.transitionTime?_follow` — what one report makes of the time.
* `transitionTime?_streak` — through a streak the time is that of its first report.
* `GatewayStatus.Reported.follow_eq_iff` — a report that tells nothing new gives the same status.
* `statuses_follow_reports` — times, rollouts and writes over all reports.

## Design Notes

The gateway of a report is arbitrary but for the status it is carrying: its wishes may have changed
since the report before, and with them their generation.  So are the readings of the clock, which
need not grow.  Before the first report the gateway may have any status, also one that no report
gives; this is the only place where the time of a condition may be from elsewhere.
-/

namespace GatewayOperator

/-! ### Reports one after another -/

/-- What is reported once, and when. -/
structure StatusReport where
  /-- The gateway, whatever its status was. -/
  gateway : Gateway
  /-- The reading of the clock. -/
  now : String
  /-- Whether the pass succeeded. -/
  ready : Bool
  /-- Why, in one word. -/
  reason : String
  /-- Why, in a sentence. -/
  message : String
  /-- What is left running, if the pass succeeded. -/
  rollout : Option Rollout

namespace StatusReport

/-- The gateway of a report with a status. -/
def carrier (r : StatusReport) (status : Option GatewayStatus) : Gateway :=
  { r.gateway with status }

/-- The status that a report makes of the one before. -/
def follow (r : StatusReport) (status : Option GatewayStatus) : GatewayStatus :=
  (r.carrier status).nextStatus r.now r.ready r.reason r.message r.rollout

end StatusReport

/-- The status after some reports, the first first, each on the gateway with the status that the
report before has given. -/
def lastStatus (initial : Option GatewayStatus) (reports : List StatusReport) :
    Option GatewayStatus :=
  reports.foldl (fun status r => some (r.follow status)) initial

variable {initial : Option GatewayStatus} {reports before streak : List StatusReport}
  {q r first : StatusReport}

@[simp] theorem lastStatus_append (reports : List StatusReport) (r : StatusReport) :
    lastStatus initial (reports ++ [r]) = some (r.follow (lastStatus initial reports)) := by
  unfold lastStatus
  rw [List.foldl_append, List.foldl_cons, List.foldl_nil]

/-! ### What a status tells -/

theorem Gateway.conditionValue_inj {holds holds' : Bool} :
    conditionValue holds = conditionValue holds' ↔ holds = holds' := by
  revert holds holds'
  decide

namespace GatewayStatus

variable {s s' : GatewayStatus} {time time' : String}

/-- The condition that says whether the last pass succeeded. -/
def ready? (s : GatewayStatus) : Option Condition :=
  s.conditions.find? (·.type = Gateway.readyCondition)

/-- Since when the gateway is as ready as it is. -/
def transitionTime? (s : GatewayStatus) : Option String := s.ready?.bind (·.lastTransitionTime)

/-- Why, in one word. -/
def reason? (s : GatewayStatus) : Option String := s.ready?.bind (·.reason)

/-- Why, in a sentence. -/
def message? (s : GatewayStatus) : Option String := s.ready?.bind (·.message)

/-- Two statuses tell the same, whenever it was reported. -/
structure SameReport (s s' : GatewayStatus) : Prop where
  /-- They agree on the readiness. -/
  ready : s.ready = s'.ready
  /-- They agree on the number of pods. -/
  replicas : s.replicas = s'.replicas
  /-- They agree on the version of the configuration. -/
  version : s.version = s'.version
  /-- They agree on the config map. -/
  configMapName : s.configMapName = s'.configMapName
  /-- They give the same reason. -/
  reason : s.reason? = s'.reason?
  /-- They give the same message. -/
  message : s.message? = s'.message?
  /-- They have seen the same wishes. -/
  generation : s.observedGeneration = s'.observedGeneration

/-- Two statuses tell of the same rollout. -/
structure SameRollout (s s' : GatewayStatus) : Prop where
  /-- They agree on the number of pods. -/
  replicas : s.replicas = s'.replicas
  /-- They agree on the version of the configuration. -/
  version : s.version = s'.version
  /-- They agree on the config map. -/
  configMapName : s.configMapName = s'.configMapName

/-- A status as every report leaves one: its only condition says what it says of the readiness. -/
def Reported (s : GatewayStatus) : Prop :=
  ∃ time reason message, s.conditions =
    [⟨Gateway.readyCondition, Gateway.conditionValue s.ready, some time, some reason, some message⟩]

theorem reported_follow (status : Option GatewayStatus) : (r.follow status).Reported :=
  ⟨_, _, _, rfl⟩

namespace Reported

/-- The condition of a status that was reported is known with its time, reason and message. -/
theorem ready?_eq (reported : s.Reported) : ∃ time reason message,
    s.transitionTime? = some time ∧ s.reason? = some reason ∧ s.message? = some message ∧
      s.conditions = [⟨Gateway.readyCondition, Gateway.conditionValue s.ready, some time,
        some reason, some message⟩] := by
  obtain ⟨time, reason, message, only⟩ := reported
  refine ⟨time, reason, message, ?_, ?_, ?_, only⟩
  · simp [transitionTime?, ready?, only]
  · simp [reason?, ready?, only]
  · simp [message?, ready?, only]

/-- Since when a gateway has been as ready as it is now can be read off its status only if that says
the same of the readiness. -/
theorem readySince?_eq (reported : s.Reported) (ready : Bool) :
    Gateway.readySince? s ready = if ready = s.ready then s.transitionTime? else none := by
  obtain ⟨_, _, _, timed, -, -, only⟩ := reported.ready?_eq
  unfold Gateway.readySince?
  rw [only, timed]
  by_cases same : ready = s.ready
  · simp [same]
  · have other : Gateway.conditionValue s.ready ≠ Gateway.conditionValue ready := fun equal =>
      same (Gateway.conditionValue_inj.mp equal).symm
    simp [same, other]

/-- A report keeps the time if the readiness is the same, and takes the reading of the clock
otherwise. -/
theorem transitionTime?_follow (reported : s.Reported) (r : StatusReport) :
    (r.follow (some s)).transitionTime? =
      if r.ready = s.ready then s.transitionTime? else some r.now := by
  have taken : (r.follow (some s)).transitionTime? =
      some ((Gateway.readySince? s r.ready).getD r.now) := rfl
  obtain ⟨time, -, -, timed, -⟩ := reported.ready?_eq
  rw [taken, reported.readySince?_eq, timed]
  split <;> rfl

/-- Statuses that were reported are told apart by what they tell and by their times. -/
theorem ext (reported : s.Reported) (reported' : s'.Reported) (same : s.SameReport s')
    (time : s.transitionTime? = s'.transitionTime?) : s = s' := by
  obtain ⟨_, _, _, timed, reasoned, told, only⟩ := reported.ready?_eq
  obtain ⟨_, _, _, timed', reasoned', told', only'⟩ := reported'.ready?_eq
  have conditions : s.conditions = s'.conditions := by
    rw [only, only', ← timed, ← timed', time, ← reasoned, ← reasoned', same.reason, ← told,
      ← told', same.message, same.ready]
  cases s
  cases s'
  exact (GatewayStatus.mk.injEq ..).mpr ⟨same.ready, same.replicas, same.version,
    same.configMapName, conditions, same.generation⟩

/-- A report gives the same status again exactly if it tells nothing new. -/
theorem follow_eq_iff (reported : s.Reported) (r : StatusReport) :
    r.follow (some s) = s ↔ (r.follow (some s)).SameReport s := by
  constructor
  · intro same
    rw [same]
    exact ⟨rfl, rfl, rfl, rfl, rfl, rfl, rfl⟩
  · intro same
    have ready : r.ready = s.ready := same.ready
    refine (reported_follow (some s)).ext reported same ?_
    rw [reported.transitionTime?_follow, if_pos ready]

end Reported

/-- A report without a rollout tells of the rollout before it. -/
theorem sameRollout_follow (failed : r.rollout = none) (status : Option GatewayStatus) :
    (r.follow status).SameRollout (status.getD .initial) := by
  unfold StatusReport.follow Gateway.nextStatus
  rw [failed]
  exact ⟨rfl, rfl, rfl⟩

end GatewayStatus

/-- A status is left unwritten exactly if the gateway has it. -/
theorem Gateway.updateStatus_asks_nothing_iff {g : Gateway} {status : GatewayStatus} :
    (g.updateStatus status).Asks (fun _ => False) ↔ g.status = some status := by
  unfold updateStatus
  split
  · next known => exact iff_of_true trivial known
  · next unknown => exact iff_of_false (fun asks => asks.1) unknown

/-! ### Streaks -/

/-- The last reports that agree on readiness, with the first one of them, and those before. -/
structure EndsInStreak (reports before : List StatusReport) (first : StatusReport)
    (streak : List StatusReport) : Prop where
  /-- These are all the reports. -/
  parts : reports = before ++ first :: streak
  /-- From the first one on they agree on readiness. -/
  agree : ∀ r ∈ streak, r.ready = first.ready
  /-- The report before the first one, if there is one, does not agree. -/
  turn : ∀ r, before.getLast? = some r → r.ready ≠ first.ready

theorem EndsInStreak.ready_of_last (ends : EndsInStreak reports before first streak)
    (last : reports.getLast? = some r) : r.ready = first.ready := by
  have found : (first :: streak).getLast? = some r := by
    rwa [ends.parts, List.getLast?_append, Option.or_of_isSome (by simp)] at last
  rcases List.mem_cons.mp (List.mem_of_getLast? found) with rfl | later
  · rfl
  · exact ends.agree r later

/-- Reports end in a streak, however they follow one another. -/
theorem exists_endsInStreak (nonempty : reports ≠ []) :
    ∃ before first streak, EndsInStreak reports before first streak := by
  induction reports using List.reverseRecOn with
  | nil => exact absurd rfl nonempty
  | append_singleton reports r ih =>
    by_cases empty : reports = []
    · exact ⟨[], r, [], by rw [empty], by simp, by simp⟩
    obtain ⟨before, first, streak, ends⟩ := ih empty
    by_cases same : r.ready = first.ready
    · -- The streak goes on.
      refine ⟨before, first, streak ++ [r], ?_, fun s mem => ?_, ends.turn⟩
      · rw [ends.parts, List.append_assoc, List.cons_append]
      · rcases List.mem_append.mp mem with earlier | last
        · exact ends.agree s earlier
        · rw [List.mem_singleton.mp last, same]
    · -- The readiness turns, and a new streak begins.
      refine ⟨reports, r, [], rfl, by simp, fun s last => ?_⟩
      rw [ends.ready_of_last last]
      exact Ne.symm same

/-- Through a streak the time is the one that its first report has given. -/
theorem transitionTime?_streak (initial : Option GatewayStatus) (before : List StatusReport)
    (agree : ∀ r ∈ streak, r.ready = first.ready) :
    ∃ status, lastStatus initial (before ++ first :: streak) = some status ∧ status.Reported ∧
      status.ready = first.ready ∧
      status.transitionTime? = (first.follow (lastStatus initial before)).transitionTime? := by
  induction streak using List.reverseRecOn with
  | nil =>
    exact ⟨_, lastStatus_append before first, GatewayStatus.reported_follow _, rfl, rfl⟩
  | append_singleton streak r ih =>
    obtain ⟨status, last, reported, ready, time⟩ := ih fun s mem =>
      agree s (List.mem_append_left _ mem)
    have same : r.ready = first.ready := agree r (by simp)
    refine ⟨r.follow (some status), ?_, GatewayStatus.reported_follow _, same, ?_⟩
    · rw [← List.cons_append, ← List.append_assoc, lastStatus_append, last]
    · rw [reported.transitionTime?_follow, if_pos (same.trans ready.symm), time]

/-- The first report of a streak takes the reading of the clock, unless there was a status before
the first report of all. -/
theorem transitionTime?_first (ends : EndsInStreak reports before first streak)
    (fresh : before ≠ [] ∨ initial = none) :
    (first.follow (lastStatus initial before)).transitionTime? = some first.now := by
  rcases before.eq_nil_or_concat with rfl | ⟨earlier, q, rfl⟩
  · rcases fresh with nonempty | rfl
    · exact absurd rfl nonempty
    · rfl
  · have turn : q.ready ≠ first.ready := ends.turn q (by simp)
    rw [List.concat_eq_append, lastStatus_append,
      (GatewayStatus.reported_follow _).transitionTime?_follow]
    exact if_neg (Ne.symm turn)

/-! ### All reports -/

/-- **What becomes of the status of a gateway over any number of reports.**  From the second report
on the time of the condition is kept if the readiness is, and is the reading of the clock otherwise;
so it is the time that the first report of the streak has given.  A report without a rollout keeps
the rollout.  And the status is the one before, so that nothing is written, exactly if the two tell
the same. -/
theorem statuses_follow_reports (initial : Option GatewayStatus) (earlier : List StatusReport)
    (q r : StatusReport) :
    ∃ previous next, lastStatus initial (earlier ++ [q]) = some previous ∧
      lastStatus initial (earlier ++ [q, r]) = some next ∧
      next.transitionTime? =
        (if r.ready = q.ready then previous.transitionTime? else some r.now) ∧
      (∃ before first streak, EndsInStreak (earlier ++ [q, r]) before first streak ∧
        next.transitionTime? = (first.follow (lastStatus initial before)).transitionTime? ∧
        (before ≠ [] ∨ initial = none → next.transitionTime? = some first.now)) ∧
      (q.rollout = none →
        previous.SameRollout ((lastStatus initial earlier).getD .initial)) ∧
      (next = previous ↔ next.SameReport previous) ∧
      (((r.carrier (some previous)).updateStatus next).Asks (fun _ => False) ↔
        next.SameReport previous) := by
  obtain ⟨previous, given⟩ : ∃ previous, previous = q.follow (lastStatus initial earlier) :=
    ⟨_, rfl⟩
  have reported : previous.Reported := given ▸ GatewayStatus.reported_follow _
  have ready : previous.ready = q.ready := given ▸ rfl
  have first : lastStatus initial (earlier ++ [q]) = some previous := by
    rw [lastStatus_append, given]
  have second : lastStatus initial (earlier ++ [q, r]) = some (r.follow (some previous)) := by
    rw [List.append_cons, lastStatus_append, first]
  refine ⟨previous, r.follow (some previous), first, second, ?_, ?_, ?_,
    reported.follow_eq_iff r, ?_⟩
  · rw [reported.transitionTime?_follow, ready]
  · have nonempty : earlier ++ [q, r] ≠ [] := by simp
    obtain ⟨before, first, streak, ends⟩ := exists_endsInStreak nonempty
    obtain ⟨status, last, -, -, time⟩ := transitionTime?_streak initial before ends.agree
    rw [← ends.parts, second] at last
    obtain rfl := Option.some.inj last
    exact ⟨before, first, streak, ends, time, fun fresh =>
      time.trans (transitionTime?_first ends fresh)⟩
  · intro failed
    rw [given]
    exact GatewayStatus.sameRollout_follow failed _
  · rw [Gateway.updateStatus_asks_nothing_iff, ← reported.follow_eq_iff r]
    exact ⟨fun same => (Option.some.inj same).symm, fun same => congrArg some same.symm⟩

/-- A success of the bare gateway. -/
def bareSuccess : StatusReport :=
  ⟨bareGateway, "10:00", true, "Reconciled", "Gateway is up to date", some ⟨1, "v1", "edge-config"⟩⟩

/-- A failure of the bare gateway at some time. -/
def bareFailure (now : String) : StatusReport :=
  ⟨bareGateway, now, false, Gateway.failedReason, "timeout", none⟩

/-- The second failure in a row keeps the time of the first one and the rollout of the success
before, and is not written. -/
theorem second_failure_unwritten : ∃ previous next,
    lastStatus none [bareSuccess, bareFailure "10:05"] = some previous ∧
      lastStatus none [bareSuccess, bareFailure "10:05", bareFailure "10:07"] = some next ∧
      next.transitionTime? = some "10:05" ∧ previous.version = some "v1" ∧ next = previous ∧
      (((bareFailure "10:07").carrier (some previous)).updateStatus next).Asks fun _ => False := by
  obtain ⟨previous, next, first, second, time, -, kept, equal, unwritten⟩ :=
    statuses_follow_reports none [bareSuccess] (bareFailure "10:05") (bareFailure "10:07")
  have version : previous.version = some "v1" := (kept rfl).version
  obtain rfl := Option.some.inj first
  obtain rfl := Option.some.inj second
  have same := equal.mpr ⟨rfl, rfl, rfl, rfl, rfl, rfl, rfl⟩
  exact ⟨_, _, rfl, rfl, time, version, same, unwritten.mpr (equal.mp same)⟩

end GatewayOperator
