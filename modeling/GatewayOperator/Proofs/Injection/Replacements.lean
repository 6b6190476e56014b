import GatewayOperator.Proofs.Injection.Removals
import GatewayOperator.Proofs.Injection.Skipping

/-!
# What an update replaces

An update makes a service or a config map anew, and removes the one before, if some change concerns
it.  This module says for every update when a service or a config map is made or removed at all.

## Main Definitions

* `Companion.calls` — the questions of a run that make or remove an object of one kind.
* `Annotations.Differs` — settings that start in some way are not the same in two states.
* `AdmissionRequest.Compares` — a review compares two states of a workload.

## Main Statements

* `Companion.inScope_iff` — an object is in the scope of an update if settings of it differ.
* `refresh_leaves_configMaps` — no config map is touched where the configuration is as it was.
* `Refreshes.calls_service`, `Refreshes.calls_configMap` — what is touched by a renewal.
* `review_calls` — what is touched by the review of an update.

## Design Notes

Settings are told apart by how their keys start, also that of the port.  So a service is made anew
for any setting whose key starts like that of the port, although only one of them is read.

Questions are counted when they are asked, whether or not they are refused.
-/

namespace GatewayOperator

/-! ### Settings that differ -/

namespace Annotations

variable {a b : TextMap} {part : GatewayPart} {start : String}

/-- Settings whose keys start in some way are not the same in two states of a workload. -/
def Differs (start : String) (a b : TextMap) : Prop :=
  ∃ rest, a.get? (WellKnown.vendorPrefix ++ (start ++ rest)) ≠
    b.get? (WellKnown.vendorPrefix ++ (start ++ rest))

/-- What starts like the setting of the port concerns the service. -/
theorem partOf?_service (rest : String) :
    partOf? (WellKnown.vendorPrefix ++ (servicePortKey ++ rest)) = some .service := by
  have configuration : Text.hasPrefix configurationKey (servicePortKey ++ rest) = false := by
    unfold Text.hasPrefix
    rw [String.toList_append]
    rfl
  rw [partOf?_setting, configuration, Text.hasPrefix_append_self servicePortKey rest]
  simp

/-- Nothing else concerns it. -/
theorem service_of_partOf? {key : String} (concerns : partOf? key = some .service) :
    ∃ rest, key = WellKnown.vendorPrefix ++ (servicePortKey ++ rest) := by
  obtain ⟨setting, rfl⟩ := Text.hasPrefix_iff.mp (vendor_of_partOf? concerns)
  rw [partOf?_setting] at concerns
  split at concerns
  · cases concerns
  · split at concerns
    · next started =>
      obtain ⟨rest, rfl⟩ := Text.hasPrefix_iff.mp started
      exact ⟨rest, rfl⟩
    · split at concerns <;> cases concerns

/-- The settings of a part differ if its keys are those that start in some way. -/
theorem differs_iff (concerns : ∀ rest, partOf? (WellKnown.vendorPrefix ++ (start ++ rest)) =
      some part)
    (only : ∀ key, partOf? key = some part →
      ∃ rest, key = WellKnown.vendorPrefix ++ (start ++ rest)) :
    Differs start a b ↔ ¬Agree part a b := by
  constructor
  · rintro ⟨rest, differs⟩ agree
    exact differs (agree _ (concerns rest))
  · intro disagree
    obtain ⟨key, disagree⟩ := Classical.not_forall.mp disagree
    obtain ⟨here, differs⟩ := Classical.not_imp.mp disagree
    obtain ⟨rest, rfl⟩ := only key here
    exact ⟨rest, differs⟩

theorem differs_service_iff : Differs servicePortKey a b ↔ ¬Agree .service a b :=
  differs_iff partOf?_service fun _ => service_of_partOf?

theorem differs_configuration_iff : Differs configurationKey a b ↔ ¬Agree .config a b := by
  refine differs_iff partOf?_configuration fun key concerns => ?_
  obtain ⟨rest, rfl⟩ := Text.hasPrefix_iff.mp (configuration_of_partOf? concerns)
  exact ⟨rest, String.append_assoc⟩

end Annotations

namespace Companion

/-- How the keys of the settings of an object start. -/
def settingKey : Companion → String
  | .service => Annotations.servicePortKey
  | .configMap => Annotations.configurationKey

/-- Whether an object is in the scope of an update. -/
def inScope : Companion → UpdateScope → Bool
  | .service, scope => scope.service
  | .configMap, scope => scope.config

/-- An object is in the scope of an update exactly if settings of it differ. -/
theorem inScope_iff (x : Companion) (kind : WorkloadKind) (target : AdmittedObject)
    (previous : TextMap) : x.inScope (refreshScope kind target previous) = true ↔
      Annotations.Differs x.settingKey target.allAnnotations previous := by
  -- That a part is in the scope is that it is among the parts that the changes concern.
  have scope (part : GatewayPart) (other : part ≠ .container) :
      ((Annotations.changedKeys target.allAnnotations previous kind.isPod).filterMap
          Annotations.partOf?).contains part = true ↔
        ¬Annotations.Agree part target.allAnnotations previous := by
    rw [List.contains_iff_mem]
    refine ⟨fun mem agree => Annotations.unchanged_of_agree agree _ mem, fun disagree => ?_⟩
    exact Decidable.not_not.mp fun unchanged =>
      disagree (Annotations.agree_of_unchanged_of_ne other unchanged)
  cases x with
  | service => exact (scope .service (by decide)).trans Annotations.differs_service_iff.symm
  | configMap => exact (scope .config (by decide)).trans Annotations.differs_configuration_iff.symm

/-! ### Questions about one kind of objects -/

/-- Whether a question makes or removes an object of a kind. -/
def concerned : Companion → Query → Bool
  | .service, .createService .. => true
  | .service, .deleteService .. => true
  | .configMap, .createConfigMap .. => true
  | .configMap, .deleteConfigMap .. => true
  | _, _ => false

/-- The questions of a run that make or remove an object of a kind. -/
def calls (x : Companion) (t : Transcript) : List Query := (t.map (·.query)).filter x.concerned

variable {x : Companion} {t t' : Transcript}

@[simp] theorem calls_append : x.calls (t ++ t') = x.calls t ++ x.calls t' := by
  unfold calls
  rw [List.map_append, List.filter_append]

theorem calls_append_eq_nil_iff : x.calls (t ++ t') = [] ↔ x.calls t = [] ∧ x.calls t' = [] := by
  rw [calls_append, List.append_eq_nil_iff]

theorem calls_eq_nil_of_asked (other : ∀ q ∈ t, x.concerned q.query = false) : x.calls t = [] := by
  refine List.filter_eq_nil_iff.mpr fun query mem => ?_
  obtain ⟨q, asked, rfl⟩ := List.mem_map.mp mem
  rw [other q asked]
  exact Bool.false_ne_true

/-- No object is made or removed where contents are resolved. -/
theorem concerned_of_resolving {query : Query} (resolving : query.Resolving) :
    x.concerned query = false := by
  cases query <;> cases x <;> first | exact resolving.elim | rfl

theorem calls_of_resolving (resolving : ∀ q ∈ t, q.query.Resolving) : x.calls t = [] :=
  calls_eq_nil_of_asked fun q mem => concerned_of_resolving (resolving q mem)

end Companion

variable {P : Platform} {names : SidecarNames} {ns name : String} {sources : List Source}
  {c c' : Cluster} {t : Transcript} {port : Option String} {kind : WorkloadKind}
  {target live : AdmittedObject} {previous : TextMap} {patch : Patch} {x : Companion}

/-! ### Steps -/

theorem OffersService.calls_service {r : Except Failure (Option String)}
    (offered : OffersService P names ns c port t r c') :
    Companion.service.calls t = [] ↔ port = none := by
  cases offered <;> simp [Companion.calls, Companion.concerned]

theorem OffersService.calls_configMap {r : Except Failure (Option String)}
    (offered : OffersService P names ns c port t r c') : Companion.configMap.calls t = [] := by
  cases offered <;> rfl

/-- Only where there is a port a service is offered. -/
theorem OffersService.isSome {service : Option String}
    (offered : OffersService P names ns c port t (.ok service) c') :
    service.isSome = port.isSome := by
  cases offered <;> rfl

theorem WritesConfigMap.calls_service {r : Except Failure String}
    (written : WritesConfigMap P names ns sources c t r c') : Companion.service.calls t = [] := by
  cases written with
  | unresolved resolved =>
    exact Companion.calls_of_resolving (resolved.asked (resolve_asks ns sources))
  | refused resolved =>
    rw [Companion.calls_append_eq_nil_iff]
    exact ⟨Companion.calls_of_resolving (resolved.asked (resolve_asks ns sources)), rfl⟩
  | made resolved =>
    rw [Companion.calls_append_eq_nil_iff]
    exact ⟨Companion.calls_of_resolving (resolved.asked (resolve_asks ns sources)), rfl⟩

/-- A config map that is written was asked for. -/
theorem WritesConfigMap.calls_configMap
    (written : WritesConfigMap P names ns sources c t (.ok name) c') :
    Companion.configMap.calls t ≠ [] := by
  cases written with
  | made resolved =>
    rw [Ne, Companion.calls_append_eq_nil_iff]
    rintro ⟨-, impossible⟩
    cases impossible

theorem RewritesConfigMap.calls_service {needed : Bool} {configMap : Option String}
    (rewritten : RewritesConfigMap P names ns sources c needed t configMap c') :
    Companion.service.calls t = [] := by
  cases rewritten with
  | unneeded => rfl
  | written written => exact written.calls_service

theorem RewritesConfigMap.calls_configMap {needed : Bool} {configMap : Option String}
    (rewritten : RewritesConfigMap P names ns sources c needed t configMap c') :
    Companion.configMap.calls t = [] ↔ needed = false := by
  cases rewritten with
  | unneeded => exact iff_of_true rfl rfl
  | written written => exact iff_of_false written.calls_configMap nofun

/-- An object is asked to go if there is a name of one. -/
theorem Companion.Discards.calls_self {name : Option String}
    (discarded : x.Discards P ns c name t c') : x.calls t = [] ↔ name = none := by
  cases x <;> cases discarded <;> simp [Companion.calls, Companion.concerned, Companion.removal]

/-- No other object is. -/
theorem Companion.Discards.calls_other {name : Option String}
    (discarded : x.Discards P ns c name t c') (y : Companion) (other : y ≠ x) : y.calls t = [] := by
  cases x <;> cases y <;> first | exact absurd rfl other | cases discarded <;> rfl

/-! ### Renewals -/

/-- A service is asked for or discarded if one is in the scope and there is a port to offer it at or
one was recorded. -/
theorem Refreshes.calls_service (refreshes : Refreshes P kind name ns target previous c t patch c')
    (scope : (refreshScope kind target previous).service = true) :
    Companion.service.calls t ≠ [] ↔
      (Annotations.servicePort? target.allAnnotations).isSome ∨
        (formerService? target previous).isSome := by
  cases refreshes with
  | intro _ _ offered written _ staleService staleConfigMap =>
    rw [if_pos scope] at offered staleService
    rw [formerService?_bind] at staleService
    simp only [Ne, Companion.calls_append_eq_nil_iff, offered.calls_service, written.calls_service,
      staleService.calls_self, staleConfigMap.calls_other .service (by decide), true_and, and_true]
    rw [Classical.not_and_iff_not_or_not, Option.isSome_iff_ne_none, Option.isSome_iff_ne_none]

/-- A config map is asked for or discarded if one is in the scope. -/
theorem Refreshes.calls_configMap
    (refreshes : Refreshes P kind name ns target previous c t patch c') :
    Companion.configMap.calls t ≠ [] ↔ (refreshScope kind target previous).config = true := by
  cases refreshes with
  | intro _ _ offered written _ staleService staleConfigMap =>
    rw [written.isSome] at staleConfigMap
    simp only [Ne, Companion.calls_append_eq_nil_iff, offered.calls_configMap,
      written.calls_configMap, staleService.calls_other .configMap (by decide),
      staleConfigMap.calls_self]
    cases (refreshScope kind target previous).config <;> simp

/-- Where making the parts fails, no service is touched without a port to offer one at. -/
theorem MakingFails.leaves_services {a : TextMap} {e : Failure}
    (fails : MakingFails P names ns a port c t e c') (unported : port = none) :
    Companion.service.calls t = [] := by
  cases fails with
  | invalid => rfl
  | unsourced => rfl
  | noService offered => exact offered.calls_service.mpr unported
  | @noConfigMap _ _ service _ _ _ _ _ _ _ _ _ offered written discarded =>
    have unmade : service = none := by
      rw [← Option.isNone_iff_eq_none, ← Option.not_isSome, offered.isSome, unported]
      rfl
    rw [Companion.calls_append_eq_nil_iff, Companion.calls_append_eq_nil_iff]
    exact ⟨offered.calls_service.mpr unported, written.calls_service,
      discarded.calls_self.mpr (by rw [unmade]; rfl)⟩

/-- Where making the parts fails, a service is asked for if there is a port to offer it at, unless
the settings are refused. -/
theorem MakingFails.calls_service {a : TextMap} {entries : List ConfigurationEntry} {e : Failure}
    (fails : MakingFails P names ns a port c t e c') (valid : Annotations.validate a = .ok entries)
    (sourced : Source.ofEntries entries = .ok sources) :
    Companion.service.calls t ≠ [] ↔ port.isSome := by
  rw [Option.isSome_iff_ne_none]
  refine ⟨mt fails.leaves_services, fun ported => ?_⟩
  cases fails with
  | invalid invalid => cases valid.symm.trans invalid
  | unsourced valid' unsourced =>
    cases valid.symm.trans valid'
    cases sourced.symm.trans unsourced
  | noService offered => exact mt offered.calls_service.mp ported
  | noConfigMap _ _ offered _ _ =>
    rw [Ne, Companion.calls_append_eq_nil_iff]
    exact fun uncalled => ported (offered.calls_service.mp uncalled.1)

/-- Settings whose sources are refused are looked at, and nothing else is done. -/
theorem refresh_of_unsourced {entries : List ConfigurationEntry} {e : Failure}
    {r : Except Failure Mutation} (valid : Annotations.validate target.allAnnotations = .ok entries)
    (unsourced : Source.ofEntries entries = .error e)
    (run : (refresh kind name ns target previous).run.Yields P.Answers c t r c') : t = [] := by
  rw [refresh_eq, valid] at run
  have run' := Attempt.yields_ok_bind.mp run
  rw [unsourced] at run'
  exact (Attempt.yields_error_bind.mp run').1

/-- A renewal touches no config map where the configuration is as it was. -/
theorem refresh_leaves_configMaps (kept : (refreshScope kind target previous).config = false) :
    (refresh kind name ns target previous).run.Asks fun q =>
      Companion.configMap.concerned q = false := by
  have discards (service : Option String) : (discardService ns service).Asks fun q =>
      Companion.configMap.concerned q = false := by
    unfold discardService
    split
    · exact trivial
    · exact Program.Asks.bind (Program.asks_query rfl) fun _ => trivial
  rw [refresh_eq]
  dsimp only
  refine Attempt.asks_bind (Attempt.asks_ofExcept _) fun entries => ?_
  refine Attempt.asks_bind (Attempt.asks_ofExcept _) fun sources => ?_
  refine Attempt.asks_bind ?_ fun service => ?_
  · unfold makeServiceIf makeService
    split
    · exact Attempt.asks_map (Attempt.asks_bind
        (Attempt.asks_ofStore (Program.asks_query rfl)) fun _ => Attempt.asks_pure _)
    · exact Attempt.asks_pure _
  -- As no config map is needed, the rest goes on without one.
  unfold makeConfigMapIf
  rw [kept, if_neg Bool.false_ne_true, pure_bind]
  refine Attempt.asks_bind (Attempt.asks_orCleanUp (Attempt.asks_ofExcept _) ?_) fun patch => ?_
  · exact Program.Asks.bind (discards service) fun _ => trivial
  · refine Attempt.asks_bind (Attempt.asks_lift (discards _)) fun _ => ?_
    exact Attempt.asks_bind (Attempt.asks_lift trivial) fun _ => Attempt.asks_pure _

/-- What is not in its scope, a renewal does not touch. -/
theorem refresh_leaves {r : Except Failure Mutation}
    (unscoped : x.inScope (refreshScope kind target previous) = false)
    (run : (refresh kind name ns target previous).run.Yields P.Answers c t r c') :
    x.calls t = [] := by
  cases x with
  | configMap =>
    exact Companion.calls_eq_nil_of_asked (run.asked (refresh_leaves_configMaps unscoped))
  | service =>
    have outside : ¬(refreshScope kind target previous).service = true :=
      Bool.eq_false_iff.mp unscoped
    rcases refresh_yields run with ⟨e, -, fails⟩ | ⟨patch, -, refreshes⟩
    · exact fails.leaves_services (if_neg outside)
    · cases refreshes with
      | intro _ _ offered written _ staleService staleConfigMap =>
        rw [if_neg outside] at offered staleService
        simp only [Companion.calls_append_eq_nil_iff]
        exact ⟨offered.calls_service.mpr rfl, written.calls_service,
          staleService.calls_self.mpr rfl, staleConfigMap.calls_other .service (by decide)⟩

/-- A renewal with valid settings touches a service exactly if one is in the scope and there is
something to do: to offer one, or to discard the one before at the end. -/
theorem refresh_calls_service {entries : List ConfigurationEntry} {r : Except Failure Mutation}
    (run : (refresh kind name ns target previous).run.Yields P.Answers c t r c')
    (valid : Annotations.validate target.allAnnotations = .ok entries) :
    Companion.service.calls t ≠ [] ↔ (refreshScope kind target previous).service = true ∧
      (∃ sources, Source.ofEntries entries = .ok sources) ∧
        ((Annotations.servicePort? target.allAnnotations).isSome ∨
          (formerService? target previous).isSome ∧ r.isOk) := by
  cases sourced : Source.ofEntries entries with
  | error e =>
    rw [refresh_of_unsourced valid sourced run]
    refine iff_of_false (fun called => called rfl) ?_
    rintro ⟨-, ⟨_, impossible⟩, -⟩
    cases impossible
  | ok sources =>
    cases scope : (refreshScope kind target previous).service with
    | false =>
      have uncalled : Companion.service.calls t = [] := refresh_leaves scope run
      exact iff_of_false (fun called => called uncalled) (fun inside => nomatch inside.1)
    | true =>
      rcases refresh_yields run with ⟨e, rfl, fails⟩ | ⟨patch, rfl, refreshes⟩
      · rw [if_pos scope] at fails
        rw [fails.calls_service valid sourced]
        simp [Except.isOk, Except.toBool]
      · rw [refreshes.calls_service scope]
        simp [Except.isOk, Except.toBool]

/-- A renewal that succeeds touches a config map exactly if one is in the scope. -/
theorem refresh_calls_configMap {r : Except Failure Mutation}
    (run : (refresh kind name ns target previous).run.Yields P.Answers c t r c')
    (succeeded : r.isOk) :
    Companion.configMap.calls t ≠ [] ↔ (refreshScope kind target previous).config = true := by
  rcases refresh_yields run with ⟨e, rfl, -⟩ | ⟨patch, -, refreshes⟩
  · cases succeeded
  · exact refreshes.calls_configMap

/-! ### Reviews -/

/-- A review compares two states of a workload: its kind and its namespace are looked at, and both
states can be read. -/
structure AdmissionRequest.Compares (request : AdmissionRequest) (kind : WorkloadKind)
    (target live : AdmittedObject) : Prop where
  /-- The kind is known. -/
  named : WorkloadKind.ofName? request.kind = some kind
  /-- The namespace is not left alone. -/
  seen : WellKnown.ignoredNamespaces.contains (request.namespace_.getD "") = false
  /-- The workload is changed. -/
  updates : request.operation = .update
  /-- The workload as it is to be. -/
  submitted : ∃ object, request.object = some object ∧
    AdmittedObject.decode kind object = .ok target
  /-- The workload as it was. -/
  former : ∃ old, request.oldObject = some old ∧ AdmittedObject.decode kind old = .ok live

variable {request : AdmissionRequest} {r : Except Failure Mutation}

/-- There is only one way to compare two states. -/
theorem AdmissionRequest.Compares.unique {kind' : WorkloadKind} {target' live' : AdmittedObject}
    (compares : request.Compares kind target live)
    (compares' : request.Compares kind' target' live') :
    kind = kind' ∧ target = target' ∧ live = live' := by
  obtain ⟨named, -, -, ⟨object, present, decoded⟩, old, former, decodedOld⟩ := compares
  obtain ⟨named', -, -, ⟨object', present', decoded'⟩, old', former', decodedOld'⟩ := compares'
  cases named.symm.trans named'
  cases present.symm.trans present'
  cases former.symm.trans former'
  exact ⟨rfl, Except.ok.inj (decoded.symm.trans decoded'),
    Except.ok.inj (decodedOld.symm.trans decodedOld')⟩

/-- Two states that are compared are renewed if a change matters. -/
theorem AdmissionRequest.Compares.review_eq (compares : request.Compares kind target live) :
    review request =
      if Annotations.updateNeedsMutation target.allAnnotations live.allAnnotations kind.isPod then
        refresh kind request.name (request.namespace_.getD "") target live.allAnnotations
      else return .allow := by
  obtain ⟨object, present, decoded⟩ := compares.submitted
  obtain ⟨old, former, decodedOld⟩ := compares.former
  unfold review reviewUpdate
  dsimp only
  rw [compares.named, compares.updates, present, former]
  dsimp only
  rw [if_neg (by rw [compares.seen]; exact Bool.false_ne_true), decoded, decodedOld]
  rfl

/-- Whatever an update asks for, two states are compared and a change matters. -/
theorem exists_compares (updates : request.operation = .update)
    (run : (review request).run.Yields P.Answers c t r c') (asked : t ≠ []) :
    ∃ kind target live, request.Compares kind target live ∧
      (refresh kind request.name (request.namespace_.getD "") target
        live.allAnnotations).run.Yields P.Answers c t r c' := by
  cases named : WorkloadKind.ofName? request.kind with
  | none => exact absurd (review_of_idle (Or.inl named) run) asked
  | some kind =>
    rcases review_yields named rfl run with ⟨-, -, unasked, -⟩ | ⟨seen, run'⟩
    · exact absurd unasked asked
    rw [updates] at run'
    rcases reviewUpdate_yields run' with ⟨-, unasked, -⟩ | ⟨-, unasked, -⟩ |
      ⟨object, old, target, live, present, former, decoded, decodedOld, -, refreshed⟩
    · exact absurd unasked asked
    · exact absurd unasked asked
    · exact ⟨kind, target, live, ⟨named, seen, updates, ⟨object, present, decoded⟩,
        ⟨old, former, decodedOld⟩⟩, refreshed⟩

/-- Where no change matters, nothing is in the scope of a renewal. -/
theorem refreshScope_of_unneeded
    (unneeded : Annotations.updateNeedsMutation target.allAnnotations previous kind.isPod = false) :
    refreshScope kind target previous = ⟨false, false, false⟩ := by
  have unconcerned (part : GatewayPart) :
      ((Annotations.changedKeys target.allAnnotations previous kind.isPod).filterMap
        Annotations.partOf?).contains part = false :=
    Bool.eq_false_iff.mpr fun mem =>
      Annotations.notMem_of_not_needsMutation unneeded part (List.contains_iff_mem.mp mem)
  unfold refreshScope UpdateScope.ofChanges
  simp only [unconcerned, Bool.or_self]

theorem Companion.unscoped_of_unneeded
    (unneeded : Annotations.updateNeedsMutation target.allAnnotations previous kind.isPod = false) :
    x.inScope (refreshScope kind target previous) = false := by
  rw [refreshScope_of_unneeded unneeded]
  cases x <;> rfl

/-- Two states of which the settings of an object differ are renewed. -/
theorem AdmissionRequest.Compares.refreshes (compares : request.Compares kind target live)
    (x : Companion)
    (differs : Annotations.Differs x.settingKey target.allAnnotations live.allAnnotations)
    (run : (review request).run.Yields P.Answers c t r c') :
    (refresh kind request.name (request.namespace_.getD "") target
      live.allAnnotations).run.Yields P.Answers c t r c' := by
  rw [compares.review_eq] at run
  split at run
  · exact run
  · next unneeded =>
    have inside := (x.inScope_iff kind _ _).mpr differs
    rw [Companion.unscoped_of_unneeded (Bool.eq_false_iff.mpr unneeded)] at inside
    cases inside

/-- **What an update replaces.**  Whatever the cluster holds and answers, an update makes or removes
a service only if some setting whose key starts like that of the port differs, and a config map only
if some setting of the configuration does.  If the settings are valid, a service is made or removed
exactly then, as far as there is a port or, where the review succeeds, a recorded service; and if the
review succeeds, so is a config map. -/
theorem review_calls (updates : request.operation = .update)
    (run : (review request).run.Yields P.Answers c t r c') :
    (∀ x : Companion, x.calls t ≠ [] → ∃ kind target live, request.Compares kind target live ∧
      Annotations.Differs x.settingKey target.allAnnotations live.allAnnotations) ∧
    ∀ kind target live entries, request.Compares kind target live →
      Annotations.validate target.allAnnotations = .ok entries →
      (Companion.service.calls t ≠ [] ↔
        Annotations.Differs Annotations.servicePortKey target.allAnnotations
            live.allAnnotations ∧
          (∃ sources, Source.ofEntries entries = .ok sources) ∧
          ((Annotations.servicePort? target.allAnnotations).isSome ∨
            (formerService? target live.allAnnotations).isSome ∧ r.isOk)) ∧
      (r.isOk → (Companion.configMap.calls t ≠ [] ↔
        Annotations.Differs Annotations.configurationKey target.allAnnotations
          live.allAnnotations)) := by
  refine ⟨fun x called => ?_, fun kind target live entries compares valid => ?_⟩
  · have asked : t ≠ [] := by
      rintro rfl
      exact called rfl
    obtain ⟨kind, target, live, compares, refreshed⟩ := exists_compares updates run asked
    refine ⟨kind, target, live, compares, (x.inScope_iff kind _ _).mp ?_⟩
    exact (Bool.eq_false_or_eq_true _).resolve_right fun unscoped =>
      called (refresh_leaves unscoped refreshed)
  · have scope (x : Companion) := x.inScope_iff kind target live.allAnnotations
    rw [compares.review_eq] at run
    split at run
    · refine ⟨?_, fun succeeded => ?_⟩
      · exact (refresh_calls_service run valid).trans (and_congr_left' (scope .service))
      · exact (refresh_calls_configMap run succeeded).trans (scope .configMap)
    · next unneeded =>
      obtain ⟨rfl, -, -⟩ := run
      have same (x : Companion) : ¬Annotations.Differs x.settingKey target.allAnnotations
          live.allAnnotations := by
        rw [← scope x,
          Companion.unscoped_of_unneeded (Bool.eq_false_iff.mpr unneeded)]
        exact Bool.false_ne_true
      exact ⟨iff_of_false (fun called => called rfl) fun differs => same .service differs.1,
        fun _ => iff_of_false (fun called => called rfl) (same .configMap)⟩

/-- A request to change the annotations of a workload. -/
def annotationsRequest (incoming live : TextMap) : AdmissionRequest :=
  { bareRequest incoming [] [] with
    operation := .update
    oldObject := some (bareWorkload live [] []) }

theorem compares_annotationsRequest {incoming live : TextMap}
    (asked : request = annotationsRequest incoming live) :
    request.Compares .deployment ⟨some incoming, barePod [] []⟩ ⟨some live, barePod [] []⟩ where
  named := asked ▸ rfl
  seen := asked ▸ rfl
  updates := asked ▸ rfl
  submitted := ⟨_, asked ▸ rfl, (legible_bareWorkload incoming [] []).decode⟩
  former := ⟨_, asked ▸ rfl, (legible_bareWorkload live [] []).decode⟩

/-- The sample settings with one more setting that starts like that of the port. -/
def serviceSettings (rest value : String) : TextMap :=
  gatewayAnnotations.insert
    (WellKnown.vendorPrefix ++ (Annotations.servicePortKey ++ rest)) value

/-- They differ in what concerns the service, and in nothing else. -/
theorem agree_serviceSettings {part : GatewayPart} (other : part ≠ .service)
    (rest value : String) : Annotations.Agree part (serviceSettings rest value)
      gatewayAnnotations := by
  intro key concerns
  unfold serviceSettings
  rw [Dict.get?_insert_of_ne]
  rintro rfl
  exact other (Option.some.inj (concerns.symm.trans (Annotations.partOf?_service rest)))

theorem sourced_serviceSettings (rest value : String) : ∃ entries,
    Annotations.validate (serviceSettings rest value) = .ok entries ∧
      Source.ofEntries entries = .ok [.literal "{}"] := by
  obtain ⟨entries, valid, sourced⟩ := sourced_gatewayWorkload
  refine ⟨entries, ?_, sourced⟩
  rw [← valid]
  unfold Annotations.validate Annotations.image?
  have container : Annotations.Agree .container (serviceSettings rest value) gatewayAnnotations :=
    agree_serviceSettings (by decide) rest value
  rw [container.vendor? (by decide), (agree_serviceSettings (by decide) rest value).configuration]

theorem differs_serviceSettings {rest value : String}
    (new : gatewayAnnotations.get?
      (WellKnown.vendorPrefix ++ (Annotations.servicePortKey ++ rest)) ≠ some value) :
    Annotations.Differs Annotations.servicePortKey (serviceSettings rest value)
      gatewayAnnotations := by
  refine ⟨rest, ?_⟩
  unfold serviceSettings
  rw [Dict.get?_insert_self]
  exact new.symm

/-- With another port the service is made anew, and the config map is left alone. -/
theorem changed_port_calls : ∃ t r c',
    (review (annotationsRequest (serviceSettings "" "30501") gatewayAnnotations)).run.Yields
      secludedPlatform.Answers {} t r c' ∧
    Companion.service.calls t ≠ [] ∧ Companion.configMap.calls t = [] := by
  -- The settings stay names, as they would be evaluated otherwise.
  obtain ⟨incoming, live, request, changed, former, asked⟩ : ∃ incoming live request,
    incoming = serviceSettings "" "30501" ∧ live = gatewayAnnotations ∧
      request = annotationsRequest incoming live := ⟨_, _, _, rfl, rfl, rfl⟩
  obtain ⟨entries, valid, sourced⟩ := changed ▸ sourced_serviceSettings "" "30501"
  have differs : Annotations.Differs Annotations.servicePortKey incoming live := by
    rw [changed, former]
    exact differs_serviceSettings (by decide +kernel)
  have port : (Annotations.servicePort? incoming).isSome := by
    rw [changed]
    decide +kernel
  have kept : Annotations.Agree .config incoming live := by
    rw [changed, former]
    exact agree_serviceSettings (by decide) _ _
  have compares := compares_annotationsRequest asked
  obtain ⟨t, r, c', run⟩ := Program.exists_yields secludedPlatform.total (review request).run {}
  obtain ⟨only, exactly⟩ := review_calls compares.updates run
  rw [← changed, ← former, ← asked]
  refine ⟨t, r, c', run,
    (exactly _ _ _ _ compares valid).1.mpr ⟨differs, ⟨_, sourced⟩, Or.inl port⟩, ?_⟩
  refine Decidable.byContradiction fun called => ?_
  obtain ⟨kind, target', live', compares', differs'⟩ := only .configMap called
  obtain ⟨rfl, rfl, rfl⟩ := compares.unique compares'
  exact Annotations.differs_configuration_iff.mp differs' kept

/-- With a setting whose key only starts like that of the port a service is made, although the port
is the one before. -/
theorem changed_portName_calls : ∃ t r c',
    (review (annotationsRequest (serviceSettings "Name" "https") gatewayAnnotations)).run.Yields
      secludedPlatform.Answers {} t r c' ∧
    (∃ entries, Annotations.validate (serviceSettings "Name" "https") = .ok entries) ∧
    (serviceSettings "Name" "https").get? (WellKnown.vendorPrefix ++ Annotations.servicePortKey) =
      gatewayAnnotations.get? (WellKnown.vendorPrefix ++ Annotations.servicePortKey) ∧
    Companion.service.calls t ≠ [] := by
  obtain ⟨incoming, live, request, changed, former, asked⟩ : ∃ incoming live request,
    incoming = serviceSettings "Name" "https" ∧ live = gatewayAnnotations ∧
      request = annotationsRequest incoming live := ⟨_, _, _, rfl, rfl, rfl⟩
  obtain ⟨entries, valid, sourced⟩ := changed ▸ sourced_serviceSettings "Name" "https"
  have differs : Annotations.Differs Annotations.servicePortKey incoming live := by
    rw [changed, former]
    exact differs_serviceSettings (by decide +kernel)
  have same : incoming.get? (WellKnown.vendorPrefix ++ Annotations.servicePortKey) =
      live.get? (WellKnown.vendorPrefix ++ Annotations.servicePortKey) := by
    rw [changed, former]
    unfold serviceSettings
    rw [Dict.get?_insert_of_ne]
    decide
  have port : Annotations.servicePort? incoming = some "30500" := by
    unfold Annotations.servicePort? Annotations.vendor? Annotations.nonEmpty?
    rw [same, former]
    decide +kernel
  have compares := compares_annotationsRequest asked
  obtain ⟨t, r, c', run⟩ := Program.exists_yields secludedPlatform.total (review request).run {}
  have refreshed := compares.refreshes .service differs run
  rw [← changed, ← former, ← asked]
  refine ⟨t, r, c', run, ⟨entries, valid⟩, same, ?_⟩
  exact (refresh_calls_service refreshed valid).mpr
    ⟨(Companion.service.inScope_iff _ _ _).mpr differs, ⟨_, sourced⟩,
      Or.inl (Option.isSome_iff_exists.mpr ⟨_, port⟩)⟩

end GatewayOperator
