import GatewayOperator.Proofs.Injection.Steps
import GatewayOperator.Proofs.Keeping

/-!
# The runs of an injection

An injection of a new workload and the renewal of one that has changed go through the same steps.
Either all of them succeed, or what was made is withdrawn.

## Main Definitions

* `Shelf.Restored`, `Withdrawn` — what is left of a failed attempt.
* `MakingFails` — how making the parts of a gateway may fail.
* `Injects`, `Refreshes` — the successful runs, step by step.

## Main Statements

* `inject_yields`, `refresh_yields` — every run succeeds step by step, or making the parts fails.
* `MakingFails.withdrawn` — what was made by then is withdrawn.
* `MakingFails.impossible`, `inject_succeeds` — an injection succeeds where nothing is refused.

## Design Notes

The patch is the last thing that could fail.  It cannot: settings that name no image are refused
before anything is made.
-/

namespace GatewayOperator

/-! ### What is left of a failed attempt -/

/-- The objects of one kind are as before, or one that was made could not be removed. -/
def Shelf.Restored {α : Type} (removable : Prop) (shelf shelf' : Shelf α) : Prop :=
  shelf' = shelf ∨
    ¬removable ∧ ∃ key object, shelf.get? key = none ∧ shelf' = shelf.insert key object

/-- What a run has made can be removed: the cluster is sure to remove, or all removals of the run
succeeded. -/
def Platform.Removes (P : Platform) (t : Transcript) : Prop :=
  (∀ ns name, P.certain (.deleteService ns name) ∧ P.certain (.deleteConfigMap ns name)) ∨
    t.Removed

theorem Platform.Removes.mono {P : Platform} {t t' : Transcript} (h : P.Removes t)
    (part : ∀ x ∈ t', x ∈ t) : P.Removes t' := by
  rcases h with sure | removed
  · exact Or.inl sure
  · exact Or.inr fun x mem => removed x (part x mem)

/-- The services and config maps that are discarded are sure to go. -/
def Platform.Discards (P : Platform) : Prop :=
  ∀ ns name, P.certain (.deleteService ns name) ∧ P.certain (.deleteConfigMap ns name)

theorem Platform.Discards.removes {P : Platform} (discards : P.Discards) (t : Transcript) :
    P.Removes t :=
  Or.inl discards

theorem Platform.Discards.certain {P : Platform} (discards : P.Discards) (x : Companion)
    (key : ObjectKey) : P.certain (x.removal key) := by
  cases x
  · exact (discards key.namespace_ key.name).1
  · exact (discards key.namespace_ key.name).2

/-- What is left of a failed attempt: nothing that was not there before, as far as it could be
removed. -/
structure Withdrawn (P : Platform) (c : Cluster) (t : Transcript) (c' : Cluster) : Prop where
  /-- The services are as before. -/
  services : c.services.Restored (P.Removes t) c'.services
  /-- The config maps are as before. -/
  configMaps : c.configMaps.Restored (P.Removes t) c'.configMaps
  /-- The services that were made got free names. -/
  freshServices : ∀ key ∈ t.madeServices, c.services.get? key = none
  /-- The config maps that were made got free names. -/
  freshConfigMaps : ∀ key ∈ t.madeConfigMaps, c.configMaps.get? key = none

theorem Withdrawn.refl (P : Platform) (c : Cluster) : Withdrawn P c [] c where
  services := Or.inl rfl
  configMaps := Or.inl rfl
  freshServices := by simp [Transcript.madeServices]
  freshConfigMaps := by simp [Transcript.madeConfigMaps]

variable {P : Platform} {names : SidecarNames} {ns : String} {sources : List Source}
  {c mid c' : Cluster} {t t' : Transcript} {port : Option String}

/-- What making a service leaves alone. -/
theorem OffersService.frame {r : Except Failure (Option String)}
    (offered : OffersService P names ns c port t r c') :
    c'.configMaps = c.configMaps ∧ c'.secrets = c.secrets ∧ t.madeConfigMaps = [] := by
  cases offered <;> exact ⟨rfl, rfl, rfl⟩

theorem OffersService.free {r : Except Failure (Option String)}
    (offered : OffersService P names ns c port t r c') :
    ∀ key ∈ t.madeServices, c.services.get? key = none := by
  cases offered with
  | absent => simp [Transcript.madeServices]
  | refused => simp [Transcript.madeServices, Answered.madeService?]
  | made nonempty free =>
    intro key mem
    rw [List.mem_singleton.mp mem]
    exact free

theorem OffersService.nonempty {service : Option String}
    (offered : OffersService P names ns c port t (.ok service) c') :
    ∀ name ∈ service, name ≠ "" := by
  cases offered with
  | absent => simp
  | made nonempty =>
    rintro _ ⟨⟩
    exact nonempty

theorem WritesConfigMap.nonempty {name : String}
    (written : WritesConfigMap P names ns sources c t (.ok name) c') : name ≠ "" := by
  cases written with
  | made _ nonempty => exact nonempty

/-- Where every call is carried out, a service is made. -/
theorem OffersService.unreliable {e : Failure}
    (offered : OffersService P names ns c port t (.error e) c') : ¬P.Reliable := by
  intro reliable
  cases offered with
  | refused uncertain => exact uncertain (reliable _)

/-- What writing a config map leaves alone. -/
theorem WritesConfigMap.frame {r : Except Failure String}
    (written : WritesConfigMap P names ns sources c t r c') :
    c'.services = c.services ∧ t.madeServices = [] := by
  cases written with
  | unresolved resolved =>
    exact ⟨(resolve_sameButSecrets resolved).services,
      (Transcript.made_of_resolving (resolved.asked (resolve_asks ns sources))).1⟩
  | refused resolved =>
    refine ⟨(resolve_sameButSecrets resolved).services, ?_⟩
    rw [Transcript.madeServices_append,
      (Transcript.made_of_resolving (resolved.asked (resolve_asks ns sources))).1]
    rfl
  | made resolved =>
    refine ⟨(resolve_sameButSecrets resolved).services, ?_⟩
    rw [Transcript.madeServices_append,
      (Transcript.made_of_resolving (resolved.asked (resolve_asks ns sources))).1]
    rfl

/-- A config map that is not written leaves the config maps as they are. -/
theorem WritesConfigMap.failed {e : Failure}
    (written : WritesConfigMap P names ns sources c t (.error e) c') :
    c'.configMaps = c.configMaps ∧ t.madeConfigMaps = [] := by
  cases written with
  | unresolved resolved =>
    exact ⟨(resolve_sameButSecrets resolved).configMaps,
      (Transcript.made_of_resolving (resolved.asked (resolve_asks ns sources))).2⟩
  | refused resolved =>
    refine ⟨(resolve_sameButSecrets resolved).configMaps, ?_⟩
    rw [Transcript.madeConfigMaps_append,
      (Transcript.made_of_resolving (resolved.asked (resolve_asks ns sources))).2]
    rfl

/-- An object that is made and discarded is gone, as far as it could be removed. -/
theorem Companion.Discards.restored {x : Companion} {name : String} {object : x.Object}
    (discarded : x.Discards P ns mid (some name) t c')
    (free : (x.shelf c).get? ⟨ns, name⟩ = none)
    (made : x.shelf mid = (x.shelf c).insert ⟨ns, name⟩ object) :
    (x.shelf c).Restored (P.Removes t) (x.shelf c') := by
  cases discarded with
  | removed =>
    refine Or.inl ?_
    rw [Companion.shelf_erase_self, made, Dict.erase_insert_self, Dict.erase_of_get?_eq_none free]
  | kept missing =>
    refine Or.inr ⟨fun removes => ?_, _, _, free, Companion.shelf_namesGiven.trans made⟩
    rcases removes with sure | removed
    · have gone := missing (Platform.Discards.certain sure x _)
      rw [made, Dict.get?_insert_self] at gone
      cases gone
    · cases Companion.removed_removalWith.mp (removed _ (List.mem_singleton_self _))

/-- A service that is made and discarded is gone, as far as it could be removed. -/
theorem OffersService.discarded {service : Option String} {c₁ c₂ c₃ : Cluster} {t₁ t₂ : Transcript}
    (offered : OffersService P names ns c port t₁ (.ok service) c₁)
    (same : c₂.services = c₁.services)
    (discarded : Companion.service.Discards P ns c₂ (service.bind Text.nonEmpty?) t₂ c₃) :
    c.services.Restored (P.Removes t₂) c₃.services := by
  cases offered with
  | absent =>
    cases discarded
    exact Or.inl same
  | made nonempty free =>
    rw [Option.bind_some, Text.nonEmpty?_of_ne nonempty] at discarded
    exact discarded.restored free same

/-- A refused service leaves nothing behind. -/
theorem OffersService.withdrawn {e : Failure}
    (offered : OffersService P names ns c port t (.error e) c') : Withdrawn P c t c' := by
  cases offered
  exact ⟨Or.inl rfl, Or.inl rfl, by simp [Transcript.madeServices, Answered.madeService?],
    by simp [Transcript.madeConfigMaps, Answered.madeConfigMap?]⟩

/-- A service whose config map fails is withdrawn. -/
theorem OffersService.withdrawn_of_discarded {service : Option String} {e : Failure}
    {c₁ c₂ c₃ : Cluster} {t₁ t₂ t₃ : Transcript}
    (offered : OffersService P names ns c port t₁ (.ok service) c₁)
    (written : WritesConfigMap P names ns sources c₁ t₂ (.error e) c₂)
    (discarded : Companion.service.Discards P ns c₂ (service.bind Text.nonEmpty?) t₃ c₃) :
    Withdrawn P c (t₁ ++ (t₂ ++ t₃)) c₃ := by
  have part : ∀ x ∈ t₃, x ∈ t₁ ++ (t₂ ++ t₃) := fun x mem =>
    List.mem_append_right _ (List.mem_append_right _ mem)
  have kept : c₃.configMaps = c₂.configMaps := discarded.others .configMap (by decide)
  constructor
  · rcases offered.discarded written.frame.1 discarded with same | ⟨kept, rest⟩
    · exact Or.inl same
    · exact Or.inr ⟨fun removes => kept (removes.mono part), rest⟩
  · exact Or.inl (kept.trans (written.failed.1.trans offered.frame.1))
  · intro key mem
    rw [Transcript.madeServices_append, Transcript.madeServices_append, written.frame.2,
      discarded.unmade.1, List.append_nil, List.append_nil] at mem
    exact offered.free key mem
  · intro key mem
    rw [Transcript.madeConfigMaps_append, Transcript.madeConfigMaps_append, offered.frame.2.2,
      written.failed.2, discarded.unmade.2] at mem
    cases mem

/-! ### The patch -/

/-- Settings that are valid name an image. -/
theorem image_of_validate {a : TextMap} {entries : List ConfigurationEntry}
    (valid : Annotations.validate a = .ok entries) :
    ∃ image, Annotations.image? a = some image := by
  unfold Annotations.validate at valid
  cases named : Annotations.image? a with
  | some image => exact ⟨image, rfl⟩
  | none =>
    rw [named] at valid
    cases valid

theorem sidecarContainer_of_validate {a : TextMap} {entries : List ConfigurationEntry}
    (valid : Annotations.validate a = .ok entries) (names : SidecarNames) :
    ∃ container, sidecarContainer names a = .ok container := by
  obtain ⟨image, named⟩ := image_of_validate valid
  unfold sidecarContainer
  rw [named]
  exact ⟨_, rfl⟩

variable {kind : WorkloadKind} {name : String} {target : AdmittedObject} {previous : TextMap}

/-- A workload with valid settings can be patched. -/
theorem createPatch_of_validate {entries : List ConfigurationEntry}
    (valid : Annotations.validate target.allAnnotations = .ok entries) (kind : WorkloadKind)
    (names : SidecarNames) (service : Option String) (configMap : String) :
    ∃ patch, createPatch kind target names service configMap = .ok patch := by
  obtain ⟨container, rendered⟩ := sidecarContainer_of_validate valid names
  unfold createPatch
  rw [rendered]
  exact ⟨_, rfl⟩

/-- The change of the annotations of a workload, if there is anything to record. -/
def recordingPatch (target : AdmittedObject) (recorded : TextMap) : Patch :=
  if recorded.isEmpty then [] else [.setAnnotations target.annotations recorded]

/-- The patch of a changed workload is that of its parts. -/
theorem updatePatch_eq {container : Container}
    (rendered : sidecarContainer names target.allAnnotations = .ok container)
    (kind : WorkloadKind) (scope : UpdateScope) (configMap : Option String) (recorded : TextMap) :
    updatePatch kind target names scope configMap recorded =
      .ok ((if scope.container then
          volumeUpdate kind target scope configMap ++
            [.upsert (containersPath kind)
              (target.pod.containers.findIdx? fun c => c.name = names.container)
              target.pod.containers.length container.toJson]
        else []) ++ recordingPatch target recorded) := by
  unfold updatePatch containerUpdate recordingPatch
  rw [rendered]
  cases scope.container <;> rfl

/-! ### Making the parts -/

/-- How making the parts of a gateway may fail. -/
inductive MakingFails (P : Platform) (names : SidecarNames) (ns : String) (a : TextMap)
    (port : Option String) (c : Cluster) : Transcript → Failure → Cluster → Prop
  /-- The settings are not valid. -/
  | invalid {e : Failure} (invalid : Annotations.validate a = .error e) :
      MakingFails P names ns a port c [] e c
  /-- They do not say where the configuration comes from. -/
  | unsourced {entries : List ConfigurationEntry} {e : Failure}
      (valid : Annotations.validate a = .ok entries)
      (unsourced : Source.ofEntries entries = .error e) : MakingFails P names ns a port c [] e c
  /-- The service is refused. -/
  | noService {t : Transcript} {e : Failure} {c' : Cluster}
      (offered : OffersService P names ns c port t (.error e) c') :
      MakingFails P names ns a port c t e c'
  /-- The config map is not made, and the service is discarded. -/
  | noConfigMap {entries : List ConfigurationEntry} {sources : List Source}
      {service : Option String} {e : Failure} {c₁ c₂ c₃ : Cluster} {t₁ t₂ t₃ : Transcript}
      (valid : Annotations.validate a = .ok entries)
      (sourced : Source.ofEntries entries = .ok sources)
      (offered : OffersService P names ns c port t₁ (.ok service) c₁)
      (written : WritesConfigMap P names ns sources c₁ t₂ (.error e) c₂)
      (discarded : Companion.service.Discards P ns c₂ (service.bind Text.nonEmpty?) t₃ c₃) :
      MakingFails P names ns a port c (t₁ ++ (t₂ ++ t₃)) e c₃

variable {a : TextMap} {e : Failure}

/-- What was made before making the parts failed is withdrawn. -/
theorem MakingFails.withdrawn (fails : MakingFails P names ns a port c t e c') :
    Withdrawn P c t c' := by
  cases fails with
  | invalid => exact .refl P _
  | unsourced => exact .refl P _
  | noService offered => exact offered.withdrawn
  | noConfigMap _ _ offered written discarded =>
    exact offered.withdrawn_of_discarded written discarded

/-- The settings are looked at and a service is made, before anything else is done. -/
theorem prepare_yields {β : Type} {next : List Source → Option String → Attempt β}
    {r : Except Failure β}
    (run : (do
      let entries ← Attempt.ofExcept (Annotations.validate a)
      let sources ← Attempt.ofExcept (Source.ofEntries entries)
      let service ← makeServiceIf names ns port
      next sources service : Attempt β).run.Yields P.Answers c t r c') :
    (∃ e, r = .error e ∧ MakingFails P names ns a port c t e c') ∨
      ∃ entries sources service c₁ t₁ t₂, Annotations.validate a = .ok entries ∧
        Source.ofEntries entries = .ok sources ∧
        OffersService P names ns c port t₁ (.ok service) c₁ ∧
        (next sources service).run.Yields P.Answers c₁ t₂ r c' ∧ t = t₁ ++ t₂ := by
  rcases Attempt.yields_bind.mp run with
    ⟨e, rfl, rfl, invalid, rfl⟩ | ⟨entries, c₀, _, _, ⟨rfl, valid, rfl⟩, run₁, rfl⟩
  · exact Or.inl ⟨e, rfl, .invalid invalid.symm⟩
  rcases Attempt.yields_bind.mp run₁ with
    ⟨e, rfl, rfl, unsourced, rfl⟩ | ⟨sources, c₀, _, _, ⟨rfl, sourced, rfl⟩, run₂, rfl⟩
  · exact Or.inl ⟨e, rfl, .unsourced valid.symm unsourced.symm⟩
  rcases Attempt.yields_bind.mp run₂ with
    ⟨e, rfl, offering⟩ | ⟨service, c₁, t₁, t₂, offering, run₃, rfl⟩
  · exact Or.inl ⟨e, rfl, .noService (makeServiceIf_offers offering)⟩
  · exact Or.inr ⟨entries, sources, service, c₁, t₁, t₂, valid.symm, sourced.symm,
      makeServiceIf_offers offering, run₃, rfl⟩

/-! ### New workloads -/

/-- The successful runs of an injection. -/
inductive Injects (P : Platform) (kind : WorkloadKind) (name ns : String)
    (target : AdmittedObject) (c : Cluster) : Transcript → Patch → Cluster → Prop
  /-- The service is made, then the config map, then the patch. -/
  | intro {entries : List ConfigurationEntry} {sources : List Source} {service : Option String}
      {configMap : String} {patch : Patch} {c₁ c₂ : Cluster} {t₁ t₂ : Transcript}
      (valid : Annotations.validate target.allAnnotations = .ok entries)
      (sourced : Source.ofEntries entries = .ok sources)
      (offered : OffersService P (SidecarNames.ofWorkload name kind) ns c
        (Annotations.servicePort? target.allAnnotations) t₁ (.ok service) c₁)
      (written : WritesConfigMap P (SidecarNames.ofWorkload name kind) ns sources c₁ t₂
        (.ok configMap) c₂)
      (patched : createPatch kind target (SidecarNames.ofWorkload name kind) service configMap =
        .ok patch) :
      Injects P kind name ns target c (t₁ ++ t₂) patch c₂

/-- An injection one step after another. -/
theorem inject_eq (kind : WorkloadKind) (name ns : String) (target : AdmittedObject) :
    inject kind name ns target = (do
      let names := SidecarNames.ofWorkload name kind
      let entries ← Attempt.ofExcept (Annotations.validate target.allAnnotations)
      let sources ← Attempt.ofExcept (Source.ofEntries entries)
      let service ← makeServiceIf names ns (Annotations.servicePort? target.allAnnotations)
      let configMap ← (makeConfigMap names ns sources).orCleanUp (discardService ns service)
      let patch ← (Attempt.ofExcept (createPatch kind target names service configMap)).orCleanUp do
        discardService ns service
        discardConfigMap ns (some configMap)
      return .patch patch) := by
  unfold inject makeServiceIf
  refine bind_congr fun entries => bind_congr fun sources => ?_
  dsimp only
  cases Annotations.servicePort? target.allAnnotations <;> rfl

/-- An injection succeeds step by step, or making the parts fails. -/
theorem inject_yields {r : Except Failure Mutation}
    (run : (inject kind name ns target).run.Yields P.Answers c t r c') :
    (∃ e, r = .error e ∧ MakingFails P (SidecarNames.ofWorkload name kind) ns
      target.allAnnotations (Annotations.servicePort? target.allAnnotations) c t e c') ∨
      ∃ patch, r = .ok (.patch patch) ∧ Injects P kind name ns target c t patch c' := by
  rw [inject_eq] at run
  rcases prepare_yields run with
    failed | ⟨entries, sources, service, c₁, t₁, _, valid, sourced, offered, run₁, rfl⟩
  · exact Or.inl failed
  -- Where no config map is made, the service is discarded before the failure is passed on.
  rcases Attempt.yields_bind.mp run₁ with
    ⟨e, rfl, writing⟩ | ⟨configMap, c₂, t₂, _, writing, run₂, rfl⟩
  · rcases Attempt.yields_orCleanUp.mp writing with
      ⟨a, impossible, -⟩ | ⟨e', c₂, t₂, t₃, same, failing, discarding, rfl⟩
    · cases impossible
    · cases same
      exact Or.inl ⟨e, rfl, .noConfigMap valid sourced offered (makeConfigMap_writes failing)
        (Companion.discard_discards discarding)⟩
  rcases Attempt.yields_orCleanUp.mp writing with
    ⟨configMap', same, making⟩ | ⟨e, _, _, _, impossible, -⟩
  · cases same
    obtain ⟨patch, patched⟩ := createPatch_of_validate valid kind
      (SidecarNames.ofWorkload name kind) service configMap
    rw [patched] at run₂
    obtain ⟨rfl, rfl, rfl⟩ := run₂
    refine Or.inr ⟨patch, rfl, ?_⟩
    rw [List.append_nil]
    exact .intro valid sourced offered (makeConfigMap_writes making) patched
  · cases impossible

/-- Making the parts does not fail where every call is carried out and the sources can be
resolved. -/
theorem MakingFails.impossible (fails : MakingFails P names ns a port c t e c')
    (reliable : P.Reliable) {entries : List ConfigurationEntry}
    (valid : Annotations.validate a = .ok entries)
    (sourced : Source.ofEntries entries = .ok sources)
    (resolves : ∀ c t r c', (resolve ns sources).run.Yields P.Answers c t r c' →
      ∃ document, r = .ok document) : False := by
  -- Each way to fail is ruled out by one of the assumptions.
  cases fails with
  | invalid invalid => cases valid.symm.trans invalid
  | unsourced valid' unsourced =>
    cases valid.symm.trans valid'
    cases sourced.symm.trans unsourced
  | noService offered => exact offered.unreliable reliable
  | noConfigMap valid' sourced' _ written _ =>
    cases valid.symm.trans valid'
    cases sourced.symm.trans sourced'
    cases written with
    | unresolved resolved =>
      obtain ⟨document, impossible⟩ := resolves _ _ _ _ resolved
      cases impossible
    | refused _ uncertain => exact uncertain (reliable _)

/-- An injection succeeds where every call is carried out and the sources can be resolved. -/
theorem inject_succeeds (reliable : P.Reliable) {entries : List ConfigurationEntry}
    (valid : Annotations.validate target.allAnnotations = .ok entries)
    (sourced : Source.ofEntries entries = .ok sources)
    (resolves : ∀ c t r c', (resolve ns sources).run.Yields P.Answers c t r c' →
      ∃ document, r = .ok document) {r : Except Failure Mutation}
    (run : (inject kind name ns target).run.Yields P.Answers c t r c') :
    ∃ patch, r = .ok (.patch patch) ∧ Injects P kind name ns target c t patch c' := by
  rcases inject_yields run with ⟨e, rfl, fails⟩ | injected
  · exact (fails.impossible reliable valid sourced resolves).elim
  · exact injected

/-! ### Changed workloads -/

/-- The parts that are made anew for a changed workload. -/
def refreshScope (kind : WorkloadKind) (target : AdmittedObject) (previous : TextMap) :
    UpdateScope :=
  .ofChanges (Annotations.changedKeys target.allAnnotations previous kind.isPod)

/-- The service that was made for a changed workload before. -/
def formerService? (target : AdmittedObject) (previous : TextMap) : Option String :=
  (Annotations.serviceName? target.allAnnotations).or (Annotations.serviceName? previous)

/-- The config map that was made for a changed workload before. -/
def formerConfigMap? (target : AdmittedObject) (previous : TextMap) : Option String :=
  (Annotations.configMapName? target.allAnnotations).or (Annotations.configMapName? previous)

/-- A recorded name is not empty. -/
theorem nonEmpty?_bind (a : TextMap) (key : String) :
    (Annotations.nonEmpty? a key).bind Text.nonEmpty? = Annotations.nonEmpty? a key :=
  Text.bind_nonEmpty?_bind_nonEmpty? _

theorem nonEmpty?_or_bind (a a' : TextMap) (key : String) :
    ((Annotations.nonEmpty? a key).or (Annotations.nonEmpty? a' key)).bind Text.nonEmpty? =
      (Annotations.nonEmpty? a key).or (Annotations.nonEmpty? a' key) := by
  have first := nonEmpty?_bind a key
  cases found : Annotations.nonEmpty? a key with
  | none => exact nonEmpty?_bind a' key
  | some name =>
    rw [found] at first
    exact first

theorem formerService?_bind (target : AdmittedObject) (previous : TextMap) :
    (formerService? target previous).bind Text.nonEmpty? = formerService? target previous :=
  nonEmpty?_or_bind _ _ _

theorem formerConfigMap?_bind (target : AdmittedObject) (previous : TextMap) :
    (formerConfigMap? target previous).bind Text.nonEmpty? = formerConfigMap? target previous :=
  nonEmpty?_or_bind _ _ _

/-- What was made before is what is recorded, if the change leaves the recorded names alone. -/
theorem formerService?_of_same
    (same : Annotations.serviceName? target.allAnnotations = Annotations.serviceName? previous) :
    formerService? target previous = Annotations.serviceName? previous := by
  unfold formerService?
  rw [same, Option.or_self]

theorem formerConfigMap?_of_same
    (same : Annotations.configMapName? target.allAnnotations =
      Annotations.configMapName? previous) :
    formerConfigMap? target previous = Annotations.configMapName? previous := by
  unfold formerConfigMap?
  rw [same, Option.or_self]

theorem ite_bind_nonEmpty? {needed : Prop} [Decidable needed] {name : Option String}
    (nonempty : name.bind Text.nonEmpty? = name) :
    (if needed then name else none).bind Text.nonEmpty? = if needed then name else none := by
  split
  · exact nonempty
  · rfl

/-- A config map is made if it is needed. -/
def makeConfigMapIf (needed : Bool) (names : SidecarNames) (ns : String) (sources : List Source)
    (cleanUp : Program Unit) : Attempt (Option String) :=
  if needed then some <$> (makeConfigMap names ns sources).orCleanUp cleanUp else pure none

/-- What making a config map may come to, if it is needed. -/
inductive RewritesConfigMap (P : Platform) (names : SidecarNames) (ns : String)
    (sources : List Source) (c : Cluster) :
    Bool → Transcript → Option String → Cluster → Prop
  /-- None is needed. -/
  | unneeded : RewritesConfigMap P names ns sources c false [] none c
  /-- One is made. -/
  | written {t : Transcript} {name : String} {c' : Cluster}
      (written : WritesConfigMap P names ns sources c t (.ok name) c') :
      RewritesConfigMap P names ns sources c true t (some name) c'

theorem RewritesConfigMap.frame {needed : Bool} {configMap : Option String}
    (rewritten : RewritesConfigMap P names ns sources c needed t configMap c') :
    c'.services = c.services ∧ t.madeServices = [] := by
  cases rewritten with
  | unneeded => exact ⟨rfl, rfl⟩
  | written written => exact written.frame

theorem RewritesConfigMap.nonempty {needed : Bool} {configMap : Option String}
    (rewritten : RewritesConfigMap P names ns sources c needed t configMap c') :
    ∀ name ∈ configMap, name ≠ "" := by
  cases rewritten with
  | unneeded => simp
  | written written =>
    rintro _ ⟨⟩
    exact written.nonempty

theorem RewritesConfigMap.isSome {needed : Bool} {configMap : Option String}
    (rewritten : RewritesConfigMap P names ns sources c needed t configMap c') :
    configMap.isSome = needed := by
  cases rewritten <;> rfl

theorem RewritesConfigMap.of_some {needed : Bool} {name : String}
    (rewritten : RewritesConfigMap P names ns sources c needed t (some name) c') :
    WritesConfigMap P names ns sources c t (.ok name) c' := by
  cases rewritten with
  | written written => exact written

theorem RewritesConfigMap.of_none {needed : Bool}
    (rewritten : RewritesConfigMap P names ns sources c needed t none c') : c' = c ∧ t = [] := by
  cases rewritten
  exact ⟨rfl, rfl⟩

theorem makeConfigMapIf_rewrites {needed : Bool} {cleanUp : Program Unit}
    {configMap : Option String}
    (run : (makeConfigMapIf needed names ns sources cleanUp).run.Yields P.Answers c t
      (.ok configMap) c') :
    RewritesConfigMap P names ns sources c needed t configMap c' := by
  cases needed with
  | true =>
    obtain ⟨result, making, made⟩ := Attempt.yields_map.mp run
    rcases Attempt.yields_orCleanUp.mp making with ⟨a, rfl, writing⟩ | ⟨e, _, _, _, rfl, -⟩
    · cases made
      exact .written (makeConfigMap_writes writing)
    · cases made
  | false =>
    obtain ⟨rfl, same, rfl⟩ := run
    cases same
    exact .unneeded

/-- Where making a config map fails, what was made before is cleaned up. -/
theorem makeConfigMapIf_fails {needed : Bool} {cleanUp : Program Unit} {e : Failure}
    (run : (makeConfigMapIf needed names ns sources cleanUp).run.Yields P.Answers c t
      (.error e) c') :
    ∃ mid before after, WritesConfigMap P names ns sources c before (.error e) mid ∧
      cleanUp.Yields P.Answers mid after () c' ∧ t = before ++ after := by
  unfold makeConfigMapIf at run
  split at run
  · obtain ⟨result, making, failed⟩ := Attempt.yields_map.mp run
    rcases Attempt.yields_orCleanUp.mp making with
      ⟨a, rfl, -⟩ | ⟨e', mid, before, after, rfl, writing, cleaning, rfl⟩
    · cases failed
    · cases failed
      exact ⟨mid, before, after, makeConfigMap_writes writing, cleaning, rfl⟩
  · cases run.2.1

/-- The successful runs for a changed workload. -/
inductive Refreshes (P : Platform) (kind : WorkloadKind) (name ns : String)
    (target : AdmittedObject) (previous : TextMap) (c : Cluster) :
    Transcript → Patch → Cluster → Prop
  /-- What is needed is made, then the patch, and then what was there before is removed. -/
  | intro {entries : List ConfigurationEntry} {sources : List Source}
      {service configMap : Option String} {patch : Patch} {c₁ c₂ c₃ c₄ : Cluster}
      {t₁ t₂ t₃ t₄ : Transcript}
      (valid : Annotations.validate target.allAnnotations = .ok entries)
      (sourced : Source.ofEntries entries = .ok sources)
      (offered : OffersService P (SidecarNames.ofWorkload name kind) ns c
        (if (refreshScope kind target previous).service then
          Annotations.servicePort? target.allAnnotations else none) t₁ (.ok service) c₁)
      (written : RewritesConfigMap P (SidecarNames.ofWorkload name kind) ns sources c₁
        (refreshScope kind target previous).config t₂ configMap c₂)
      (patched : updatePatch kind target (SidecarNames.ofWorkload name kind)
        (refreshScope kind target previous) (configMap.or (formerConfigMap? target previous))
        (recordedNames (refreshScope kind target previous) service configMap) = .ok patch)
      (staleService : Companion.service.Discards P ns c₂
        ((if (refreshScope kind target previous).service then formerService? target previous
          else none).bind Text.nonEmpty?) t₃ c₃)
      (staleConfigMap : Companion.configMap.Discards P ns c₃
        ((if configMap.isSome then formerConfigMap? target previous else none).bind
          Text.nonEmpty?) t₄ c₄) :
      Refreshes P kind name ns target previous c (t₁ ++ (t₂ ++ (t₃ ++ t₄))) patch c₄

/-- The renewal of a changed workload one step after another. -/
theorem refresh_eq (kind : WorkloadKind) (name ns : String) (target : AdmittedObject)
    (previous : TextMap) :
    refresh kind name ns target previous = (do
      let scope := refreshScope kind target previous
      let names := SidecarNames.ofWorkload name kind
      let entries ← Attempt.ofExcept (Annotations.validate target.allAnnotations)
      let sources ← Attempt.ofExcept (Source.ofEntries entries)
      let service ← makeServiceIf names ns
        (if scope.service then Annotations.servicePort? target.allAnnotations else none)
      let configMap ← makeConfigMapIf scope.config names ns sources (discardService ns service)
      let patch ← (Attempt.ofExcept (updatePatch kind target names scope
        (configMap.or (formerConfigMap? target previous))
        (recordedNames scope service configMap))).orCleanUp do
          discardService ns service
          discardConfigMap ns configMap
      ExceptT.lift
        (discardService ns (if scope.service then formerService? target previous else none))
      ExceptT.lift
        (discardConfigMap ns (if configMap.isSome then formerConfigMap? target previous else none))
      return if patch.isEmpty then .allow else .patch patch) := by
  unfold refresh makeServiceIf makeConfigMapIf refreshScope formerService? formerConfigMap?
  refine bind_congr fun entries => bind_congr fun sources => ?_
  generalize UpdateScope.ofChanges _ = scope
  -- What is done at the end depends on the config map only through whether there is one.
  have last (configMap current : Option String) (finish : Attempt Mutation) :
      (if configMap.isSome = true then do
          ExceptT.lift (discardConfigMap ns current)
          finish
        else finish) = (do
          ExceptT.lift (discardConfigMap ns (if configMap.isSome then current else none))
          finish : Attempt Mutation) := by
    cases configMap <;> rfl
  obtain ⟨service, config, container⟩ := scope
  cases service <;> cases config <;> cases Annotations.servicePort? target.allAnnotations
  all_goals
    dsimp only
    simp only [last]
    rfl

/-- The renewal of a changed workload succeeds step by step, or making the parts fails. -/
theorem refresh_yields {r : Except Failure Mutation}
    (run : (refresh kind name ns target previous).run.Yields P.Answers c t r c') :
    (∃ e, r = .error e ∧ MakingFails P (SidecarNames.ofWorkload name kind) ns
      target.allAnnotations (if (refreshScope kind target previous).service then
        Annotations.servicePort? target.allAnnotations else none) c t e c') ∨
      ∃ patch, r = .ok (if patch.isEmpty then .allow else .patch patch) ∧
        Refreshes P kind name ns target previous c t patch c' := by
  rw [refresh_eq] at run
  rcases prepare_yields run with
    failed | ⟨entries, sources, service, c₁, t₁, _, valid, sourced, offered, run₃, rfl⟩
  · exact Or.inl failed
  rcases Attempt.yields_bind.mp run₃ with
    ⟨e, rfl, writing⟩ | ⟨configMap, c₂, t₂, _, writing, run₄, rfl⟩
  · obtain ⟨c₂, t₂, t₃, failing, discarding, rfl⟩ := makeConfigMapIf_fails writing
    exact Or.inl ⟨e, rfl, .noConfigMap valid sourced offered failing
      (Companion.discard_discards discarding)⟩
  have written := makeConfigMapIf_rewrites writing
  obtain ⟨container, rendered⟩ := sidecarContainer_of_validate valid
    (SidecarNames.ofWorkload name kind)
  have patched := updatePatch_eq rendered kind (refreshScope kind target previous)
    (configMap.or (formerConfigMap? target previous))
    (recordedNames (refreshScope kind target previous) service configMap)
  generalize _ ++ recordingPatch _ _ = patch at patched
  rw [patched] at run₄
  -- The patch is there, so neither of the two removals that end a failed attempt takes place.
  have run₅ := Attempt.yields_ok_bind.mp run₄
  obtain ⟨_, c₃, t₃, _, staleService, run₆, rfl⟩ := Attempt.yields_lift_bind.mp run₅
  obtain ⟨_, c₄, t₄, _, staleConfigMap, ⟨rfl, rfl, rfl⟩, rfl⟩ := Attempt.yields_lift_bind.mp run₆
  refine Or.inr ⟨patch, rfl, ?_⟩
  rw [List.append_nil]
  exact .intro valid sourced offered written patched
    (Companion.discard_discards staleService) (Companion.discard_discards staleConfigMap)

end GatewayOperator
