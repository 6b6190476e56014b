import GatewayOperator.Proofs.Injection.Classification
import GatewayOperator.Proofs.Injection.Ownership

/-!
# Renewed gateways

An update makes anew only what its changes concern.  After any number of updates, whether or not
they were admitted, the gateway in a replicated workload is still the one that would be made for the
annotations that the workload has by then.

## Main Definitions

* `AsksNodePort`, `ServiceFor`, `ConfigMapFor` — what the settings ask of the port of the nodes, the
  service and the config map.
* `UpToDate` — a gateway is the one that the annotations ask for.
* `LeavesGateway` — what clients leave alone in an update.
* `Steady` — the sources hold what they held before.
* `Renewals` — an injection and any number of updates.

## Main Statements

* `Injects.upToDate`, `Refreshes.upToDate` — what is patched is up to date.
* `Renewals.gateway_upToDate` — after every request, the gateway is up to date.

## Design Notes

A part that is not made anew was up to date and is a function of settings that have not changed; a
part that is made anew is made from the settings as they are now.
-/

namespace GatewayOperator

/-! ### Lists with a replaced item -/

/-- What was put into a list in place of the first item of a kind is now the first of that kind. -/
theorem find?_upserted {α : Type} {p : α → Bool} {value : α} (kind : p value = true)
    (items : List α) : (upserted (items.findIdx? p) value items).find? p = some value := by
  rw [← List.head?_filter, filter_upserted kind]
  rfl

theorem find?_append_single {α : Type} {p : α → Bool} {value : α} {items : List α}
    (kind : p value = true) (absent : items.find? p = none) :
    (items ++ [value]).find? p = some value := by
  rw [List.find?_append, absent, List.find?_cons_of_pos kind]
  rfl

variable {P : Platform} {names : SidecarNames} {ns name : String} {c c' : Cluster} {t : Transcript}
  {key : ObjectKey} {former service configMap : Option String}

/-! ### What a removal leaves -/

/-- What has another name than the one that is discarded stays. -/
theorem Companion.Discards.keeps {x : Companion} (discarded : x.Discards P ns c former t c')
    {object : x.Object} (found : (x.shelf c).get? key = some object)
    (other : ∀ name ∈ former, key ≠ ⟨ns, name⟩) : (x.shelf c').get? key = some object := by
  cases discarded with
  | absent => exact found
  | removed =>
    rw [Companion.shelf_erase_self, Dict.get?_erase, if_neg (other _ rfl)]
    exact found
  | kept =>
    rw [Companion.shelf_namesGiven]
    exact found

/-- What got a free name stays when its predecessor, which was there, is discarded. -/
theorem Companion.Discards.keeps_new {x : Companion} {c₂ : Cluster}
    (discarded : x.Discards P ns c₂ former t c') {object : x.Object}
    (found : (x.shelf c₂).get? ⟨ns, name⟩ = some object)
    (free : (x.shelf c).get? ⟨ns, name⟩ = none)
    (there : ∀ name ∈ former, (x.shelf c).Holds ⟨ns, name⟩) :
    (x.shelf c').get? ⟨ns, name⟩ = some object := by
  refine discarded.keeps found fun name' stale equal => ?_
  obtain ⟨object, held⟩ := there name' stale
  rw [← equal, free] at held
  cases held

/-! ### Gateways that are up to date -/

/-- The port of the nodes that a setting asks for: the number that it is between blanks, if this is
one of 32 bits, and the usual one otherwise. -/
inductive AsksNodePort (port : String) : Int → Prop
  /-- The setting is a number. -/
  | number {n : Int} (reads : Text.PaddedInt32 port n) : AsksNodePort port n
  /-- It is none. -/
  | usual (unreadable : ∀ n, ¬Text.PaddedInt32 port n) : AsksNodePort port 30443

/-- A service has one port, which every node offers at some number. -/
def Service.OfferedAt (service : Service) (nodePort : Int) : Prop :=
  ∃ spec port, service.spec = some spec ∧ spec.ports = some [port] ∧ port.nodePort = some nodePort

/-- The service of a workload is the one for the port in a setting, offered at the port of the nodes
that it asks for, and there is none if the setting is missing or empty. -/
inductive ServiceFor (names : SidecarNames) (ns : String) (services : Shelf Service) :
    Option String → Option String → Prop
  /-- There is a port. -/
  | offered {port name : String} {n : Int} (nonempty : port ≠ "") (asks : AsksNodePort port n)
      (found : services.get? ⟨ns, name⟩ = some (placedService names ns port name))
      (offers : (placedService names ns port name).OfferedAt n) :
      ServiceFor names ns services (some port) (some name)
  /-- There is none. -/
  | absent {port : Option String} (unported : ∀ text ∈ port, text = "") :
      ServiceFor names ns services port none

/-- The config map of a workload holds a document as its one entry. -/
def ConfigMapFor (names : SidecarNames) (ns : String) (configMaps : Shelf ConfigMap)
    (document : Document) (configMap : Option String) : Prop :=
  ∃ name, configMap = some name ∧
    configMaps.get? ⟨ns, name⟩ = some (placedConfigMap names ns document.render name) ∧
    (placedConfigMap names ns document.render name).data =
      some (Dict.ofList [("config.yaml", document.render)])

/-- The gateway of a workload is the one that its annotations ask for. -/
structure UpToDate (content : List Source → Document) (names : SidecarNames) (ns : String)
    (a : TextMap) (pod : PodSpec) (c : Cluster) : Prop where
  /-- So is the container. -/
  container : ∃ container, sidecarContainer names a = .ok container ∧
    pod.containers.find? (fun c => c.name = names.container) = some container
  /-- So is the config map. -/
  configMap : ∃ entries sources, Annotations.configuration a = .ok entries ∧
    Source.ofEntries entries = .ok sources ∧
    ConfigMapFor names ns c.configMaps (content sources) (Annotations.configMapName? a)
  /-- The volume is that of the config map. -/
  volume : (pod.volumes.getD []).find? (fun v => v.name = "app-gateway-config") =
    (Annotations.configMapName? a).map fun name =>
      { name := "app-gateway-config", configMap := some name }
  /-- So is the service. -/
  service : ServiceFor names ns c.services
    (a.get? (WellKnown.vendorPrefix ++ Annotations.servicePortKey)) (Annotations.serviceName? a)

/-- What clients leave alone in an update: the container, the volume and the recorded names. -/
structure LeavesGateway (names : SidecarNames) (a : TextMap) (pod : PodSpec) (a' : TextMap)
    (pod' : PodSpec) : Prop where
  /-- The container. -/
  container : pod'.containers.find? (fun c => c.name = names.container) =
    pod.containers.find? fun c => c.name = names.container
  /-- The volume. -/
  volume : (pod'.volumes.getD []).find? (fun v => v.name = WellKnown.configVolume) =
    (pod.volumes.getD []).find? fun v => v.name = WellKnown.configVolume
  /-- The recorded names. -/
  recorded : ∀ key ∈ [WellKnown.serviceNameAnnotation, WellKnown.configMapNameAnnotation],
    a'.get? key = a.get? key

/-- The sources that some annotations ask for hold what they are said to hold, whenever they are
resolved over the same config maps and secrets. -/
def Steady (P : Platform) (content : List Source → Document) (ns : String) (a : TextMap)
    (c : Cluster) : Prop :=
  ∀ entries sources c₁ t document c₂, Annotations.configuration a = .ok entries →
    Source.ofEntries entries = .ok sources → c₁.configMaps = c.configMaps →
    c₁.secrets = c.secrets →
    (resolve ns sources).run.Yields P.Answers c₁ t (.ok document) c₂ → document = content sources

theorem configuration_of_validate {a : TextMap} {entries : List ConfigurationEntry}
    (valid : Annotations.validate a = .ok entries) : Annotations.configuration a = .ok entries := by
  obtain ⟨image, named⟩ := image_of_validate valid
  unfold Annotations.validate at valid
  rw [named] at valid
  exact valid

theorem hasSettings_of_validate {a : TextMap} {entries : List ConfigurationEntry}
    (valid : Annotations.validate a = .ok entries) : Annotations.hasSettings a = true := by
  obtain ⟨image, named⟩ := image_of_validate valid
  obtain ⟨found, -⟩ := Text.bind_nonEmpty?_eq_some_iff.mp named
  exact hasSettings_of_setting found (Text.stripPrefix?_eq_some_iff.mpr rfl)

/-! ### Parts that are made -/

variable {port : Option String} {document : Document} {sources : List Source} {c₁ c₂ : Cluster}
  {t' : Transcript}

theorem asksNodePort_nodePort (port : String) : AsksNodePort port (nodePort port) := by
  unfold nodePort
  cases read : Text.readInt32 (Text.trim port) with
  | ok n => exact .number (Text.readInt32_trim_eq_ok_iff.mp read)
  | error fault =>
    refine .usual fun n number => ?_
    rw [Text.readInt32_trim_eq_ok_iff.mpr number] at read
    cases read

/-- A setting asks for one port of the nodes only. -/
theorem AsksNodePort.eq {port : String} {n : Int} (asks : AsksNodePort port n) :
    n = nodePort port := by
  unfold nodePort
  cases asks with
  | number reads =>
    rw [Text.readInt32_trim_eq_ok_iff.mpr reads]
    rfl
  | usual unreadable =>
    cases read : Text.readInt32 (Text.trim port) with
    | ok n => exact absurd (Text.readInt32_trim_eq_ok_iff.mp read) (unreadable n)
    | error => rfl

theorem offeredAt_placedService (names : SidecarNames) (ns port name : String) :
    (placedService names ns port name).OfferedAt (nodePort port) :=
  ⟨_, _, rfl, rfl, rfl⟩

/-- What is offered for the port in a setting is the service for it. -/
theorem OffersService.serviceFor
    (offered : OffersService P names ns c (port.bind Text.nonEmpty?) t (.ok service) c') :
    ServiceFor names ns c'.services port service := by
  generalize asked : port.bind Text.nonEmpty? = text at offered
  cases offered with
  | absent =>
    refine .absent fun text there => ?_
    by_cases empty : text = ""
    · exact empty
    · rw [Text.bind_nonEmpty?_eq_some_iff.mpr ⟨there, empty⟩] at asked
      cases asked
  | made =>
    obtain ⟨rfl, nonempty⟩ := Text.bind_nonEmpty?_eq_some_iff.mp asked
    exact .offered nonempty (asksNodePort_nodePort _) (Dict.get?_insert_self _ _ _)
      (offeredAt_placedService names ns _ _)

theorem OffersService.fresh (offered : OffersService P names ns c port t (.ok service) c') :
    ∀ name ∈ service, c.services.get? ⟨ns, name⟩ = none := by
  cases offered with
  | absent => simp
  | made nonempty free =>
    rintro _ ⟨⟩
    exact free

theorem ServiceFor.held (made : ServiceFor names ns c.services port service) :
    ∀ name ∈ service, ∃ object, c.services.get? ⟨ns, name⟩ = some object := by
  cases made with
  | offered _ _ found =>
    rintro _ ⟨⟩
    exact ⟨_, found⟩
  | absent => simp

/-- A service stays the one for a port wherever it stays. -/
theorem ServiceFor.mono {services services' : Shelf Service}
    (made : ServiceFor names ns services port service)
    (keeps : ∀ name ∈ service, ∀ object, services.get? ⟨ns, name⟩ = some object →
      services'.get? ⟨ns, name⟩ = some object) :
    ServiceFor names ns services' port service := by
  cases made with
  | offered nonempty asks found offers =>
    exact .offered nonempty asks (keeps _ rfl _ found) offers
  | absent unported => exact .absent unported

/-- A service that was made is there after its predecessor was removed. -/
theorem OffersService.serviceFor_of_discarded
    (offered : OffersService P names ns c (port.bind Text.nonEmpty?) t (.ok service) c₁)
    (there : ∀ name ∈ former, ∃ object, c.services.get? ⟨ns, name⟩ = some object)
    (same : c₂.services = c₁.services)
    (discarded : Companion.service.Discards P ns c₂ former t' c') :
    ServiceFor names ns c'.services port service := by
  refine offered.serviceFor.mono fun name made object found => ?_
  rw [← same] at found
  exact discarded.keeps_new found (offered.fresh name made) there

theorem WritesConfigMap.configMapFor
    (written : WritesConfigMap P names ns sources c t (.ok name) c')
    (content : ∀ t found c₂, (resolve ns sources).run.Yields P.Answers c t (.ok found) c₂ →
      found = document) :
    ConfigMapFor names ns c'.configMaps document (some name) ∧
      c.configMaps.get? ⟨ns, name⟩ = none := by
  cases written with
  | made resolved nonempty free =>
    rw [(resolve_sameButSecrets resolved).configMaps] at free
    refine ⟨⟨name, rfl, ?_, rfl⟩, free⟩
    rw [← content _ _ _ resolved]
    exact Dict.get?_insert_self _ _ _

/-- A config map that was made is there after its predecessor was removed. -/
theorem WritesConfigMap.configMapFor_of_discarded
    (written : WritesConfigMap P names ns sources c t (.ok name) c₁)
    (content : ∀ t found c₂, (resolve ns sources).run.Yields P.Answers c t (.ok found) c₂ →
      found = document)
    (there : ∀ name ∈ former, ∃ object, c.configMaps.get? ⟨ns, name⟩ = some object)
    (same : c₂.configMaps = c₁.configMaps)
    (discarded : Companion.configMap.Discards P ns c₂ former t' c') :
    ConfigMapFor names ns c'.configMaps document (some name) := by
  obtain ⟨⟨_, ⟨⟩, found, holds⟩, free⟩ := written.configMapFor content
  rw [← same] at found
  exact ⟨name, rfl, discarded.keeps_new found free there, holds⟩

/-! ### What is patched is up to date -/

variable {content : List Source → Document} {object : Json} {metadata : Metadata} {pod : PodSpec}
  {patch : Patch}

/-- The gateway of a new workload is the one that its annotations ask for. -/
theorem Injects.upToDate
    (injects : Injects P .deployment name ns ⟨metadata.annotations, pod⟩ c t patch c')
    (legible : AdmittedObject.Legible .deployment object metadata pod)
    (noContainer : pod.containers.find?
      (fun c => c.name = (SidecarNames.ofWorkload name .deployment).container) = none)
    (noVolume : (pod.volumes.getD []).find? (fun v => v.name = WellKnown.configVolume) = none)
    (steady : Steady P content ns (metadata.annotations.getD ∅) c) :
    ∃ object' metadata' pod', patch.apply object = some object' ∧
      AdmittedObject.Legible .deployment object' metadata' pod' ∧
      UpToDate content (SidecarNames.ofWorkload name .deployment) ns
        (metadata'.annotations.getD ∅) pod' c' := by
  cases injects with
  | @intro entries sources service configMap _ c₁ _ t₁ t₂ valid sourced offered written patched =>
    obtain ⟨a, annotated⟩ := annotated_of_validate valid
    dsimp only at annotated
    rw [annotated] at valid patched steady offered
    obtain ⟨container, object', rendered, applied, legible'⟩ :=
      apply_createPatch legible annotated patched
    refine ⟨object', _, _, applied, legible', ?_⟩
    -- The names that are recorded concern none of the parts.
    have agree := Annotations.agree_injected a service configMap
    have configured := configuration_of_validate valid
    have recordedService := serviceName?_injected a offered.nonempty configMap
    have recordedConfigMap := configMapName?_injected a written.nonempty service
    show UpToDate content _ ns
      (PatchOperation.updateAnnotations a (injectedNames service configMap)) _ c'
    constructor
    · refine ⟨container, ?_, find?_append_single ?_ noContainer⟩
      · exact ((agree .container).sidecarContainer _).trans rendered
      · exact decide_eq_true (name_of_sidecarContainer rendered)
    · refine ⟨entries, sources, ((agree .config).configuration).trans configured, sourced, ?_⟩
      rw [recordedConfigMap]
      exact (written.configMapFor fun t found c₂ resolved => steady _ _ _ t found c₂ configured
        sourced offered.frame.1 offered.frame.2.1 resolved).1
    · rw [recordedConfigMap]
      exact find?_append_single (decide_eq_true rfl) noVolume
    · rw [(agree .service).servicePort, recordedService, written.frame.1]
      exact offered.serviceFor

section

variable {a live : TextMap} {scope : UpdateScope} {container : Container} {pod' : PodSpec}

/-- A container is made anew with its configuration. -/
theorem container_of_config {changed : List String}
    (config : (UpdateScope.ofChanges changed).config = true) :
    (UpdateScope.ofChanges changed).container = true :=
  (Bool.or_eq_true _ _).mpr (Or.inl config)

theorem LeavesGateway.recordedNames {seen : PodSpec}
    (leaves : LeavesGateway names live seen a pod') :
    Annotations.serviceName? a = Annotations.serviceName? live ∧
      Annotations.configMapName? a = Annotations.configMapName? live := by
  unfold Annotations.serviceName? Annotations.configMapName? Annotations.nonEmpty?
  rw [leaves.recorded _ (by simp), leaves.recorded _ (by simp)]
  exact ⟨rfl, rfl⟩

/-- The container is made anew, or its settings are as they were. -/
theorem find?_refreshed_container
    (changes : scope = .ofChanges (Annotations.changedKeys a live false))
    (rendered : sidecarContainer names a = .ok container)
    (former : ∃ container, sidecarContainer names live = .ok container ∧
      pod'.containers.find? (fun c => c.name = names.container) = some container) :
    (refreshedPod names scope configMap container pod').containers.find?
      (fun c => c.name = names.container) = some container := by
  unfold refreshedPod
  split
  · exact find?_upserted (p := fun c : Container => c.name = names.container)
      (decide_eq_true (name_of_sidecarContainer rendered)) _
  · next kept =>
    obtain ⟨container', rendered', found⟩ := former
    have agree := (Annotations.agree_of_scope_container changes (Bool.eq_false_iff.mpr kept)).2
    rw [agree.sidecarContainer, rendered'] at rendered
    cases rendered
    exact found

/-- The volume is made anew with the config map. -/
theorem find?_refreshed_volume {former : Option String}
    (changes : scope = .ofChanges (Annotations.changedKeys a live false))
    (made : configMap.isSome = scope.config)
    (found : (pod'.volumes.getD []).find? (fun v => v.name = WellKnown.configVolume) =
      former.map configVolume) :
    ((refreshedPod names scope (configMap.or former) container pod').volumes.getD []).find?
      (fun v => v.name = WellKnown.configVolume) = (configMap.or former).map configVolume := by
  cases configMap with
  | some name =>
    have config : scope.config = true := made.symm
    have remade : scope.container = true := by
      subst changes
      exact container_of_config config
    unfold refreshedPod refreshedVolumes
    rw [if_pos remade, config]
    exact find?_upserted (p := fun v : Volume => v.name = WellKnown.configVolume)
      (decide_eq_true rfl) _
  | none =>
    have config : scope.config = false := made.symm
    rw [Option.none_or, volumes_refreshedPod config]
    exact found

/-- The service is made anew, or its port is as it was. -/
theorem serviceFor_renewed (changes : scope = .ofChanges (Annotations.changedKeys a live false))
    (former : ServiceFor names ns c.services
      (live.get? (WellKnown.vendorPrefix ++ Annotations.servicePortKey))
      (Annotations.serviceName? live))
    (offered : OffersService P names ns c
      (if scope.service then Annotations.servicePort? a else none) t (.ok service) c₁)
    (same : c₂.services = c₁.services)
    (discarded : Companion.service.Discards P ns c₂
      (if scope.service then Annotations.serviceName? live else none) t' c') :
    ServiceFor names ns c'.services (a.get? (WellKnown.vendorPrefix ++ Annotations.servicePortKey))
      (if scope.service then service else Annotations.serviceName? live) := by
  cases needed : scope.service with
  | true =>
    rw [needed, if_pos rfl] at offered discarded
    exact offered.serviceFor_of_discarded former.held same discarded
  | false =>
    rw [needed] at offered discarded
    cases offered
    cases discarded
    rw [same, (Annotations.agree_of_scope_service changes needed).servicePort]
    exact former

/-- The config map is made anew, or the sources are those that they were. -/
theorem configMapFor_renewed {content : List Source → Document}
    (changes : scope = .ofChanges (Annotations.changedKeys a live false))
    {entries entries' : List ConfigurationEntry} {sources' : List Source}
    (configured : Annotations.configuration a = .ok entries)
    (sourced : Source.ofEntries entries = .ok sources)
    (configured' : Annotations.configuration live = .ok entries')
    (sourced' : Source.ofEntries entries' = .ok sources')
    (former : ConfigMapFor names ns c.configMaps (content sources')
      (Annotations.configMapName? live))
    (written : RewritesConfigMap P names ns sources c scope.config t configMap c₁)
    (steady : ∀ t found c₂, (resolve ns sources).run.Yields P.Answers c t (.ok found) c₂ →
      found = content sources)
    (same : c₂.configMaps = c₁.configMaps)
    (discarded : Companion.configMap.Discards P ns c₂
      (if configMap.isSome then Annotations.configMapName? live else none) t' c') :
    ConfigMapFor names ns c'.configMaps (content sources)
      (configMap.or (Annotations.configMapName? live)) := by
  cases configMap with
  | some configMap =>
    refine written.of_some.configMapFor_of_discarded steady ?_ same discarded
    obtain ⟨name, recorded, found, -⟩ := former
    rw [Option.isSome_some, if_pos rfl, recorded]
    rintro _ ⟨⟩
    exact ⟨_, found⟩
  | none =>
    -- The sources of the config map that stays are still the ones that it was made from.
    have kept := Annotations.agree_of_scope_config changes written.isSome.symm
    rw [kept.configuration, configured'] at configured
    cases configured
    cases sourced.symm.trans sourced'
    cases discarded
    rw [same, written.of_none.1]
    exact former

end

/-- The gateway of a changed workload is the one that its annotations ask for. -/
theorem Refreshes.upToDate {live : TextMap} {seen : PodSpec}
    (refreshes : Refreshes P .deployment name ns ⟨metadata.annotations, pod⟩ live c t patch c')
    (former : UpToDate content (SidecarNames.ofWorkload name .deployment) ns live seen c)
    (legible : AdmittedObject.Legible .deployment object metadata pod)
    (leaves : LeavesGateway (SidecarNames.ofWorkload name .deployment) live seen
      (metadata.annotations.getD ∅) pod)
    (steady : Steady P content ns (metadata.annotations.getD ∅) c) :
    ∃ object' metadata' pod', patch.apply object = some object' ∧
      AdmittedObject.Legible .deployment object' metadata' pod' ∧
      UpToDate content (SidecarNames.ofWorkload name .deployment) ns
        (metadata'.annotations.getD ∅) pod' c' := by
  cases refreshes with
  | @intro entries sources service configMap _ c₁ c₂ c₃ _ t₁ t₂ t₃ t₄ valid sourced offered written
      patched staleService staleConfigMap =>
    obtain ⟨a, annotated⟩ := annotated_of_validate valid
    dsimp only at annotated
    rw [annotated] at valid patched steady offered written staleService staleConfigMap leaves
    obtain ⟨container, rendered⟩ := sidecarContainer_of_validate valid
      (SidecarNames.ofWorkload name .deployment)
    obtain ⟨object', applied, legible'⟩ := apply_updatePatch legible annotated rendered patched
    refine ⟨object', _, _, applied, legible', ?_⟩
    have configured := configuration_of_validate valid
    have target : AdmittedObject.allAnnotations ⟨some a, pod⟩ = a := rfl
    obtain ⟨sameService, sameConfigMap⟩ := leaves.recordedNames
    rw [Option.getD_some] at sameService sameConfigMap steady
    have formerService : formerService? ⟨some a, pod⟩ live = _ := formerService?_of_same sameService
    have formerConfigMap : formerConfigMap? ⟨some a, pod⟩ live = _ :=
      formerConfigMap?_of_same sameConfigMap
    -- From here on, all that counts about the scope is which changes it comes from.
    obtain ⟨scope, changes⟩ : ∃ scope, scope = UpdateScope.ofChanges
      (Annotations.changedKeys a live false) := ⟨_, rfl⟩
    have rescoped : refreshScope .deployment ⟨some a, pod⟩ live = scope := changes.symm
    rw [rescoped, target] at offered
    rw [rescoped] at written
    rw [ite_bind_nonEmpty? (formerService?_bind _ _), formerService, rescoped] at staleService
    rw [ite_bind_nonEmpty? (formerConfigMap?_bind _ _), formerConfigMap] at staleConfigMap
    rw [formerConfigMap, rescoped]
    have agree := Annotations.agree_renewed a scope service configMap
    have recordedService := serviceName?_renewed a scope offered.nonempty configMap
    have recordedConfigMap := configMapName?_renewed a scope written.nonempty service
    rw [sameService] at recordedService
    rw [sameConfigMap] at recordedConfigMap
    show UpToDate content _ ns
      (PatchOperation.updateAnnotations a (recordedNames scope service configMap)) _ c'
    constructor
    · refine ⟨container, ((agree .container).sidecarContainer _).trans rendered, ?_⟩
      refine find?_refreshed_container changes rendered ?_
      obtain ⟨container', rendered', found⟩ := former.container
      exact ⟨container', rendered', leaves.container.trans found⟩
    · obtain ⟨entries', sources', configured', sourced', held⟩ := former.configMap
      refine ⟨entries, sources, (agree .config).configuration.trans configured, sourced, ?_⟩
      rw [← offered.frame.1] at held
      rw [recordedConfigMap]
      exact configMapFor_renewed changes configured sourced configured' sourced' held written
        (fun t found c₂ resolved => steady _ _ _ t found c₂ configured sourced offered.frame.1
          offered.frame.2.1 resolved) (staleService.others .configMap (by decide)) staleConfigMap
    · rw [recordedConfigMap]
      exact find?_refreshed_volume changes written.isSome (leaves.volume.trans former.volume)
    · have untouched : c'.services = c₃.services := staleConfigMap.others .service (by decide)
      rw [(agree .service).servicePort, recordedService, untouched]
      exact serviceFor_renewed changes former.service offered written.frame.1 staleService

/-! ### Workloads that are not patched -/

/-- A failed attempt leaves a gateway up to date. -/
theorem UpToDate.withdrawn {a : TextMap} (upToDate : UpToDate content names ns a pod c)
    (withdrawn : Withdrawn P c t c') : UpToDate content names ns a pod c' := by
  refine ⟨upToDate.container, ?_, upToDate.volume, ?_⟩
  · obtain ⟨entries, sources, configured, sourced, name, recorded, found, holds⟩ :=
      upToDate.configMap
    exact ⟨entries, sources, configured, sourced, name, recorded, withdrawn.configMaps.kept found,
      holds⟩
  · exact upToDate.service.mono fun _ _ _ => withdrawn.services.kept

/-- A gateway stays up to date where no setting of it is changed. -/
theorem UpToDate.of_agree {live a : TextMap} {seen : PodSpec}
    (upToDate : UpToDate content names ns live seen c)
    (leaves : LeavesGateway names live seen a pod)
    (agree : ∀ part, Annotations.Agree part a live) : UpToDate content names ns a pod c := by
  obtain ⟨sameService, sameConfigMap⟩ := leaves.recordedNames
  constructor
  · obtain ⟨container, rendered, found⟩ := upToDate.container
    exact ⟨container, ((agree .container).sidecarContainer names).trans rendered,
      leaves.container.trans found⟩
  · rw [sameConfigMap, (agree .config).configuration]
    exact upToDate.configMap
  · rw [sameConfigMap]
    exact leaves.volume.trans upToDate.volume
  · rw [sameService, (agree .service).servicePort]
    exact upToDate.service

/-! ### Runs of any length -/

/-- A request that does something with a replicated workload of some name. -/
structure AdmissionRequest.Concerns (request : AdmissionRequest) (operation : AdmissionOperation)
    (ns name : String) : Prop where
  /-- The kind is that of replicated workloads. -/
  kind : WorkloadKind.ofName? request.kind = some .deployment
  /-- The namespace. -/
  located : request.namespace_.getD "" = ns
  /-- The name. -/
  named : request.name = name
  /-- What is done. -/
  operation : request.operation = operation

/-- An injection into a replicated workload and any number of updates of it, each of which may be
admitted or denied; what is stored, and the cluster, by then. -/
inductive Renewals (P : Platform) (content : List Source → Document) (ns name : String) :
    Option Json → Cluster → Prop
  /-- A new workload is patched; it has no container and no volume of a gateway. -/
  | created {policy : FailurePolicy} {request : AdmissionRequest} {object : Json}
      {metadata : Metadata} {pod : PodSpec} {t : Transcript} {patch : Patch} {c c' : Cluster}
      (concerns : request.Concerns .create ns name) (present : request.object = some object)
      (legible : AdmittedObject.Legible .deployment object metadata pod)
      (noContainer : pod.containers.find?
        (fun c => c.name = (SidecarNames.ofWorkload name .deployment).container) = none)
      (noVolume : (pod.volumes.getD []).find? (fun v => v.name = WellKnown.configVolume) = none)
      (steady : Steady P content ns (metadata.annotations.getD ∅) c)
      (run : (decideAdmission policy request).Yields P.Answers c t (.patch patch) c') :
      Renewals P content ns name ((AdmissionResponse.patch patch).stored none (some object)) c'
  /-- The stored workload is to be changed in any way that leaves the gateway alone. -/
  | updated {request : AdmissionRequest} {stored object : Json} {metadata metadata' : Metadata}
      {pod pod' : PodSpec} {t : Transcript} {response : AdmissionResponse} {c c' : Cluster}
      (renewals : Renewals P content ns name (some stored) c)
      (concerns : request.Concerns .update ns name) (present : request.object = some object)
      (former : request.oldObject = some stored)
      (seen : AdmittedObject.Legible .deployment stored metadata pod)
      (legible : AdmittedObject.Legible .deployment object metadata' pod')
      (leaves : LeavesGateway (SidecarNames.ofWorkload name .deployment)
        (metadata.annotations.getD ∅) pod (metadata'.annotations.getD ∅) pod')
      (steady : Steady P content ns (metadata'.annotations.getD ∅) c)
      (run : (decideAdmission .fail request).Yields P.Answers c t response c') :
      Renewals P content ns name (response.stored (some stored) (some object)) c'

theorem FailurePolicy.eq_of_answer_patch {policy : FailurePolicy} {r : Except Failure Mutation}
    (patched : policy.answer r = .patch patch) : r = .ok (.patch patch) := by
  rcases r with failure | (_ | patch')
  · cases policy <;> cases patched
  · cases patched
  · cases patched
    rfl

/-- A workload that is stored with a gateway that is up to date. -/
def StoredUpToDate (content : List Source → Document) (ns name : String) (stored : Option Json)
    (c : Cluster) : Prop :=
  ∃ object metadata pod, stored = some object ∧
    AdmittedObject.Legible .deployment object metadata pod ∧
    UpToDate content (SidecarNames.ofWorkload name .deployment) ns
      (metadata.annotations.getD ∅) pod c

/-- A workload that is patched when it is new is stored with its gateway. -/
theorem storedUpToDate_of_created {policy : FailurePolicy} {request : AdmissionRequest}
    (concerns : request.Concerns .create ns name) (present : request.object = some object)
    (legible : AdmittedObject.Legible .deployment object metadata pod)
    (noContainer : pod.containers.find?
      (fun c => c.name = (SidecarNames.ofWorkload name .deployment).container) = none)
    (noVolume : (pod.volumes.getD []).find? (fun v => v.name = WellKnown.configVolume) = none)
    (steady : Steady P content ns (metadata.annotations.getD ∅) c)
    (run : (decideAdmission policy request).Yields P.Answers c t (.patch patch) c') :
    WellKnown.ignoredNamespaces.contains ns = false ∧
      StoredUpToDate content ns name
        ((AdmissionResponse.patch patch).stored none (some object)) c' := by
  obtain ⟨r, reviewed, outcome, reviewing, patched, -⟩ := decideAdmission_yields run
  have patched := FailurePolicy.eq_of_answer_patch patched.symm
  subst patched
  rcases review_yields concerns.kind concerns.located reviewing with
    ⟨-, impossible, -, -⟩ | ⟨seen, run'⟩
  · cases impossible
  · rw [concerns.operation] at run'
    rcases reviewCreate_outcome run' with
      ⟨unpatched, -⟩ | ⟨_, target, patch', same, present', decoded, injects⟩
    · exact absurd rfl (unpatched patch)
    · cases same
      cases present.symm.trans present'
      cases legible.decode.symm.trans decoded
      rw [concerns.named] at injects
      obtain ⟨object', metadata', pod', applied, legible', upToDate⟩ :=
        injects.upToDate legible noContainer noVolume steady
      refine ⟨seen, object', metadata', pod', ?_, legible', upToDate⟩
      show (patch.apply object).or none = some object'
      rw [applied]
      rfl

/-- An update, admitted or denied, leaves the stored gateway up to date. -/
theorem storedUpToDate_of_updated {request : AdmissionRequest} {stored : Json}
    {metadata' : Metadata} {pod' : PodSpec} {response : AdmissionResponse}
    (reviewed : WellKnown.ignoredNamespaces.contains ns = false)
    (upToDate : UpToDate content (SidecarNames.ofWorkload name .deployment) ns
      (metadata.annotations.getD ∅) pod c)
    (concerns : request.Concerns .update ns name) (present : request.object = some object)
    (former : request.oldObject = some stored)
    (seen : AdmittedObject.Legible .deployment stored metadata pod)
    (legible : AdmittedObject.Legible .deployment object metadata' pod')
    (leaves : LeavesGateway (SidecarNames.ofWorkload name .deployment)
      (metadata.annotations.getD ∅) pod (metadata'.annotations.getD ∅) pod')
    (steady : Steady P content ns (metadata'.annotations.getD ∅) c)
    (run : (decideAdmission .fail request).Yields P.Answers c t response c') :
    StoredUpToDate content ns name (response.stored (some stored) (some object)) c' := by
  obtain ⟨r, _, outcome, reviewing, rfl, -⟩ := decideAdmission_yields run
  rcases review_yields concerns.kind concerns.located reviewing with
    ⟨ignored, -⟩ | ⟨-, run'⟩
  · rw [reviewed] at ignored
    cases ignored
  · rw [concerns.operation] at run'
    rcases reviewUpdate_outcome run' with ⟨unpatched, withdrawn, unneeded⟩ |
      ⟨_, _, target, live, patch', rfl, present', former', decoded, decodedOld, refreshes⟩
    · rcases r with failure | (_ | patch')
      -- What is denied is not stored, and what is let through has not changed where it matters.
      · exact ⟨stored, metadata, pod, rfl, seen, upToDate.withdrawn withdrawn⟩
      · have agree := Annotations.agree_of_not_needsMutation
          (unneeded rfl object stored _ _ present former legible.decode seen.decode)
        exact ⟨object, metadata', pod', rfl, legible,
          (upToDate.of_agree leaves agree).withdrawn withdrawn⟩
      · exact absurd rfl (unpatched patch')
    · cases present.symm.trans present'
      cases former.symm.trans former'
      cases legible.decode.symm.trans decoded
      cases seen.decode.symm.trans decodedOld
      rw [concerns.named] at refreshes
      obtain ⟨object', metadata'', pod'', applied, legible', upToDate'⟩ :=
        refreshes.upToDate upToDate legible leaves steady
      refine ⟨object', metadata'', pod'', ?_, legible', upToDate'⟩
      show (patch'.apply object).or (some stored) = some object'
      rw [applied]
      rfl

theorem Renewals.invariant {stored : Option Json} (renewals : Renewals P content ns name stored c) :
    WellKnown.ignoredNamespaces.contains ns = false ∧ StoredUpToDate content ns name stored c := by
  induction renewals with
  | created concerns present legible noContainer noVolume steady run =>
    exact storedUpToDate_of_created concerns present legible noContainer noVolume steady run
  | updated _ concerns present former seen legible leaves steady run ih =>
    obtain ⟨reviewed, _, metadata, pod, ⟨⟩, seen', upToDate⟩ := ih
    refine ⟨reviewed, ?_⟩
    cases Option.some.inj (seen.symm.trans seen')
    exact storedUpToDate_of_updated reviewed upToDate concerns present former seen legible leaves
      steady run

/-- **Renewals agree with injections.**  After an injection and any number of updates, admitted or
denied, the container is the one that the annotations ask for by then, the recorded config map holds
the document of their sources, the volume is that of this config map, and a service is recorded if
and only if they name a port, with the port of the nodes that they say. -/
theorem Renewals.gateway_upToDate {stored : Option Json}
    (renewals : Renewals P content ns name stored c) :
    ∃ object metadata pod, stored = some object ∧
      AdmittedObject.Legible .deployment object metadata pod ∧
      UpToDate content (SidecarNames.ofWorkload name .deployment) ns
        (metadata.annotations.getD ∅) pod c :=
  renewals.invariant.2

/-- Settings may be changed in an update, which is admitted where nothing is refused and the sources
can be resolved. -/
theorem Renewals.changed {a changes : TextMap}
    (renewals : Renewals P content ns name (some object) c)
    (legible : AdmittedObject.Legible .deployment object metadata pod)
    (annotated : metadata.annotations = some a)
    (unrecorded : ∀ key ∈ [WellKnown.serviceNameAnnotation, WellKnown.configMapNameAnnotation],
      changes.get? key = none)
    (steady : Steady P content ns (PatchOperation.updateAnnotations a changes) c)
    (reliable : P.Reliable)
    (needed : Annotations.updateNeedsMutation (PatchOperation.updateAnnotations a changes) a false =
      true)
    {entries : List ConfigurationEntry}
    (valid : Annotations.validate (PatchOperation.updateAnnotations a changes) = .ok entries)
    (sourced : Source.ofEntries entries = .ok sources)
    (resolves : ∀ c t r c', (resolve ns sources).run.Yields P.Answers c t r c' →
      ∃ document, r = .ok document) :
    ∃ stored metadata' pod' c', Renewals P content ns name (some stored) c' ∧
      AdmittedObject.Legible .deployment stored metadata' pod' ∧
      ∀ part, Annotations.Agree part (metadata'.annotations.getD ∅)
        (PatchOperation.updateAnnotations a changes) := by
  obtain ⟨object', -, read⟩ := exists_setAnnotations legible annotated changes
  have legible' : AdmittedObject.Legible .deployment object'
      { metadata with annotations := some (PatchOperation.updateAnnotations a changes) } pod := read
  obtain ⟨request, asked⟩ : ∃ request : AdmissionRequest, request =
      { uid := "", kind := "Deployment", name := name, namespace_ := some ns, operation := .update,
        object := some object', oldObject := some object } := ⟨_, rfl⟩
  have concerns : request.Concerns .update ns name :=
    ⟨asked ▸ rfl, asked ▸ rfl, asked ▸ rfl, asked ▸ rfl⟩
  have present : request.object = some object' := asked ▸ rfl
  have former : request.oldObject = some object := asked ▸ rfl
  have leaves : LeavesGateway (SidecarNames.ofWorkload name .deployment)
      (metadata.annotations.getD ∅) pod (PatchOperation.updateAnnotations a changes) pod := by
    refine ⟨rfl, rfl, fun key mem => ?_⟩
    rw [get?_updateAnnotations, unrecorded key mem, annotated]
    rfl
  obtain ⟨t, response, c', run⟩ := Program.exists_yields P.total (decideAdmission .fail request) c
  have renewed := renewals.updated concerns present former legible legible' leaves steady run
  obtain ⟨r, _, _, reviewing, rfl, -⟩ := decideAdmission_yields run
  rcases review_yields concerns.kind concerns.located reviewing with ⟨ignored, -⟩ | ⟨-, run'⟩
  · rw [renewals.invariant.1] at ignored
    cases ignored
  rw [concerns.operation] at run'
  have live : AdmittedObject.allAnnotations ⟨metadata.annotations, pod⟩ = a := by
    rw [annotated]
    rfl
  obtain ⟨patch, rfl, refreshes⟩ := reviewUpdate_succeeds reliable present former legible'.decode
    legible.decode (by rw [live]; exact needed) valid sourced resolves run'
  cases refreshes with
  | @intro _ _ service configMap _ _ _ _ _ _ _ _ _ valid' _ _ _ patched _ _ =>
    obtain ⟨container, rendered⟩ := sidecarContainer_of_validate valid'
      (SidecarNames.ofWorkload request.name .deployment)
    obtain ⟨stored, applied, legible''⟩ := apply_updatePatch legible' rfl rendered patched
    refine ⟨stored, _, _, c', ?_, legible'',
      Annotations.agree_renewed (PatchOperation.updateAnnotations a changes) _ service configMap⟩
    have answered : (AdmissionResponse.patch patch).stored (some object) (some object') =
        some stored := by
      show (patch.apply object').or _ = some stored
      rw [applied]
      rfl
    rw [← answered]
    exact renewed

/-- The sources of the sample workload are steady as long as its configuration is not changed. -/
theorem steady_of_agree {layer : Document}
    (parsed : Document.parse "literal value" "{}" = .ok layer) {a : TextMap}
    (agree : Annotations.Agree .config a gatewayAnnotations) (c : Cluster) :
    Steady secludedPlatform (fun _ => Document.empty.merge layer) "apps" a c := by
  intro entries sources c₁ t document c₂ configured sourced _ _ run
  obtain ⟨entries', valid, sourced'⟩ := sourced_gatewayWorkload
  have configured' : Annotations.configuration a = .ok entries' :=
    agree.configuration.trans (configuration_of_validate valid)
  obtain rfl := Except.ok.inj (configured'.symm.trans configured)
  obtain rfl := Except.ok.inj (sourced'.symm.trans sourced)
  exact Except.ok.inj (resolve_literal parsed run)

/-- The change of a port. -/
def portChange (port : String) : TextMap :=
  Dict.ofList [(WellKnown.vendorPrefix ++ Annotations.servicePortKey, port)]

theorem get?_portChange (port key : String) : (portChange port).get? key =
    if key = WellKnown.vendorPrefix ++ Annotations.servicePortKey then some port else none := by
  unfold portChange
  rw [Dict.ofList_eq_insertAll, Dict.insertAll_cons, Dict.insertAll_nil, Dict.get?_insert]
  rfl

theorem unrecorded_portChange (port : String) :
    ∀ key ∈ [WellKnown.serviceNameAnnotation, WellKnown.configMapNameAnnotation],
      (portChange port).get? key = none := by
  intro key mem
  rw [get?_portChange, if_neg]
  rintro rfl
  revert mem
  decide

/-- A change of the port concerns nothing but the service. -/
theorem agree_portChange (a : TextMap) (port : String) (part : GatewayPart)
    (other : part ≠ .service) :
    Annotations.Agree part (PatchOperation.updateAnnotations a (portChange port)) a := by
  intro key concerns
  rw [get?_updateAnnotations, get?_portChange, if_neg]
  rintro rfl
  rw [show Annotations.partOf? _ = some GatewayPart.service by decide] at concerns
  exact other (Option.some.inj concerns).symm

theorem get?_changedPort (a : TextMap) {port : String} (nonempty : port ≠ "") :
    (PatchOperation.updateAnnotations a (portChange port)).get?
      (WellKnown.vendorPrefix ++ Annotations.servicePortKey) = some port := by
  rw [get?_updateAnnotations, get?_portChange, if_pos rfl]
  exact Text.nonEmpty?_of_ne nonempty

/-- The sample workload gets its gateway, and is then to be offered at another port. -/
theorem sampleWorkload_renewals {layer : Document}
    (parsed : Document.parse "literal value" "{}" = .ok layer) :
    ∃ stored metadata pod c,
      Renewals secludedPlatform (fun _ => Document.empty.merge layer) "apps" "edge" (some stored)
        c ∧
      AdmittedObject.Legible .deployment stored metadata pod ∧
      (metadata.annotations.getD ∅).get?
        (WellKnown.vendorPrefix ++ Annotations.servicePortKey) = some " 30600 " := by
  obtain ⟨request, asked⟩ : ∃ request, request = requestForGateway := ⟨_, rfl⟩
  obtain ⟨t, response, c, run⟩ := Program.exists_yields secludedPlatform.total
    (decideAdmission .fail request) {}
  obtain ⟨patch, reviewed, rfl, -, -, injects⟩ := requestForGateway_injects asked run
  have concerns : request.Concerns .create "apps" "edge" :=
    ⟨asked ▸ rfl, asked ▸ rfl, asked ▸ rfl, asked ▸ rfl⟩
  have present : request.object = some (sampleWorkload gatewaySettings) := asked ▸ rfl
  have created := Renewals.created concerns present legible_gatewayWorkload rfl rfl
    (steady_of_agree parsed (fun _ _ => rfl) _) run
  obtain ⟨entries, valid, sourced⟩ := sourced_gatewayWorkload
  cases injects with
  | @intro _ _ service configMap _ c₁ _ t₁ t₂ _ _ offered written patched =>
    obtain ⟨container, object, rendered, applied, legible⟩ :=
      apply_createPatch legible_gatewayWorkload rfl patched
    have stored : (AdmissionResponse.patch patch).stored none
        (some (sampleWorkload gatewaySettings)) = some object := by
      show (patch.apply _).or none = some object
      rw [applied]
      rfl
    rw [stored] at created
    -- Neither the recorded names nor another port change the container or the configuration.
    have recorded (part : GatewayPart) := Annotations.agree_injected gatewayAnnotations service
      configMap part
    have agree (part : GatewayPart) (other : part ≠ .service) :=
      (agree_portChange _ " 30600 " part other).trans (recorded part)
    have nonempty : " 30600 " ≠ "" := by decide
    have needed : Annotations.updateNeedsMutation (PatchOperation.updateAnnotations
        (PatchOperation.updateAnnotations gatewayAnnotations (injectedNames service configMap))
        (portChange " 30600 "))
        (PatchOperation.updateAnnotations gatewayAnnotations (injectedNames service configMap))
        false = true := by
      refine (Bool.eq_false_or_eq_true _).resolve_right fun unneeded => ?_
      have same := (Annotations.agree_of_not_needsMutation unneeded .service).servicePort
      rw [get?_changedPort _ nonempty, (recorded .service).servicePort] at same
      revert same
      decide
    obtain ⟨stored', metadata', pod', c', renewals, legible', kept⟩ :=
      created.changed legible rfl (unrecorded_portChange " 30600 ")
        (steady_of_agree parsed (agree .config nofun) c) (fun _ => trivial) needed
        (((agree .container nofun).validate (agree .config nofun)).trans valid) sourced
        (fun _ _ _ _ run => ⟨_, resolve_literal parsed run⟩)
    exact ⟨stored', metadata', pod', c', renewals, legible',
      (kept .service).servicePort.trans (get?_changedPort _ nonempty)⟩

/-- After that, its gateway is up to date, and the nodes offer it at the new port. -/
theorem sampleWorkload_upToDate : ∃ content stored c,
    Renewals secludedPlatform content "apps" "edge" stored c ∧
      (∃ object metadata pod, stored = some object ∧
        AdmittedObject.Legible .deployment object metadata pod ∧
        UpToDate content (SidecarNames.ofWorkload "edge" .deployment) "apps"
          (metadata.annotations.getD ∅) pod c) ∧
      ∃ key service, c.services.get? key = some service ∧ service.OfferedAt 30600 := by
  obtain ⟨layer, parsed⟩ := parse_emptyDocument
  obtain ⟨stored, metadata, pod, c, renewals, legible, port⟩ := sampleWorkload_renewals parsed
  have gateway := renewals.gateway_upToDate
  refine ⟨_, some stored, c, renewals, gateway, ?_⟩
  obtain ⟨_, _, _, ⟨⟩, legible', upToDate⟩ := gateway
  cases Option.some.inj (legible.symm.trans legible')
  have service := upToDate.service
  rw [port] at service
  generalize Annotations.serviceName? _ = recorded at service
  cases service with
  | offered _ asks found offers =>
    have usual : nodePort " 30600 " = 30600 := by decide
    rw [asks.eq, usual] at offers
    exact ⟨_, _, found, offers⟩
  | absent unported => exact absurd (unported _ rfl) (by decide)

end GatewayOperator
