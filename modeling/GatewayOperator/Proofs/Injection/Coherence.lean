import GatewayOperator.Proofs.Injection.Renewal

/-!
# Pods after their patch

The names of the containers of a pod differ from one another, and so do those of its volumes; a
container can only mount a volume that is there.  What a patch makes of a pod depends on what the
submitted pod holds, and that may be anything.

## Main Definitions

* `PodSpec.sidecars`, `PodSpec.configVolumes` — the containers and volumes under the names that an
  injection uses.
* `PodSpec.Provides` — every volume that a container mounts is there.
* `AdmittedObject.CarriesOnce` — the gateway of a workload stands in its pod once.
* `AdmittedObject.Gains`, `AdmittedObject.Exchanges` — what the patch of an injection and that of a
  renewal make of a pod.
* `Patch.TouchesContainers` — a patch has a change of containers.

## Main Statements

* `Injects.gains`, `Refreshes.exchanges` — a patch can be applied wherever there is a pod, and what
  it makes of it.
* `injected_once_iff` — when an injected gateway stands in a pod once.
* `renewed_container` — what a renewed container stands beside.

## Design Notes

An injection counts the containers and volumes of a pod and does not look at their names.  A renewal
looks for the first of each name.
-/

namespace GatewayOperator

/-! ### Containers and volumes by name -/

namespace PodSpec

/-- The containers of a pod under the name that an injection uses. -/
def sidecars (pod : PodSpec) (names : SidecarNames) : List Container :=
  pod.containers.filter fun c => c.name = names.container

/-- The volumes of a pod under the name that an injection uses. -/
def configVolumes (pod : PodSpec) : List Volume :=
  (pod.volumes.getD []).filter fun v => v.name = WellKnown.configVolume

/-- Every volume that a container mounts is there. -/
def Provides (pod : PodSpec) (container : Container) : Prop :=
  ∀ mount ∈ container.volumeMounts.getD [],
    ∃ volume ∈ pod.volumes.getD [], volume.name = mount.name

/-- The container of a gateway mounts the volume that an injection makes, and nothing else. -/
theorem provides_iff {pod : PodSpec} {names : SidecarNames} {a : TextMap} {container : Container}
    (rendered : sidecarContainer names a = .ok container) :
    pod.Provides container ↔ pod.configVolumes ≠ [] := by
  have mounts : container.volumeMounts.getD [] = [configMount] := by
    unfold sidecarContainer at rendered
    split at rendered
    · cases rendered
    · cases rendered
      rfl
  unfold Provides configVolumes
  rw [mounts, List.forall_mem_singleton, ne_eq, List.filter_eq_nil_iff]
  simp [configMount]

end PodSpec

variable {names : SidecarNames} {a : TextMap} {container : Container} {scope : UpdateScope}
  {configMap : Option String} {pod : PodSpec}

/-- A container that is made anew takes the place of the first one of its name. -/
theorem sidecars_refreshedPod (rendered : sidecarContainer names a = .ok container)
    (remade : scope.container = true) :
    (refreshedPod names scope configMap container pod).sidecars names =
      container :: (pod.sidecars names).tail := by
  unfold refreshedPod
  rw [if_pos remade]
  exact filter_upserted (p := fun c : Container => c.name = names.container)
    (decide_eq_true (name_of_sidecarContainer rendered)) _

/-- The volume is there if it was there before, or is made anew. -/
theorem configVolumes_refreshedPod (made : scope.config = true → configMap.isSome)
    (within : scope.config = true → scope.container = true)
    (either : scope.config = true ∨ pod.configVolumes ≠ []) :
    (refreshedPod names scope configMap container pod).configVolumes ≠ [] := by
  cases config : scope.config with
  | true =>
    obtain ⟨name, rfl⟩ := Option.isSome_iff_exists.mp (made config)
    have first : (refreshedPod names scope (some name) container pod).configVolumes =
        configVolume name :: pod.configVolumes.tail := by
      unfold refreshedPod refreshedVolumes
      rw [if_pos (within config), config]
      exact filter_upserted (p := fun v : Volume => v.name = WellKnown.configVolume)
        (decide_eq_true rfl) _
    rw [first]
    exact List.cons_ne_nil _ _
  | false =>
    rw [config] at either
    unfold PodSpec.configVolumes
    rw [volumes_refreshedPod config]
    exact either.resolve_left Bool.false_ne_true

/-! ### What patches make of pods -/

namespace AdmittedObject

/-- The gateway of a workload stands in its pod once. -/
structure CarriesOnce (names : SidecarNames) (target : AdmittedObject) : Prop where
  /-- There is one container of the name, and it is the one that the annotations ask for. -/
  container : ∃ container, sidecarContainer names target.allAnnotations = .ok container ∧
    target.pod.sidecars names = [container]
  /-- There is one volume of the name, and it is that of the recorded config map. -/
  volume : ∃ name, Annotations.configMapName? target.allAnnotations = some name ∧
    target.pod.configVolumes = [{ name := "app-gateway-config", configMap := some name }]

/-- A workload gains a container and a volume behind those of the same names that it has. -/
structure Gains (names : SidecarNames) (target target' : AdmittedObject) : Prop where
  /-- It gains the container that the annotations ask for. -/
  container : ∃ container, sidecarContainer names target'.allAnnotations = .ok container ∧
    target'.pod.sidecars names = target.pod.sidecars names ++ [container]
  /-- It gains the volume of the recorded config map. -/
  volume : ∃ name, Annotations.configMapName? target'.allAnnotations = some name ∧
    target'.pod.configVolumes = target.pod.configVolumes ++
      [{ name := "app-gateway-config", configMap := some name }]

/-- What is gained stands in a pod once if and only if nothing of its names was there. -/
theorem Gains.carriesOnce_iff {target target' : AdmittedObject}
    (gains : Gains names target target') : CarriesOnce names target' ↔
      target.pod.sidecars names = [] ∧ target.pod.configVolumes = [] := by
  obtain ⟨⟨container, rendered, containers⟩, name, recorded, volumes⟩ := gains
  constructor
  · rintro ⟨⟨_, -, one⟩, _, -, one'⟩
    rw [containers] at one
    rw [volumes] at one'
    have alone := congrArg List.length one
    have alone' := congrArg List.length one'
    simp only [List.length_append, List.length_singleton, Nat.add_eq_right,
      List.length_eq_zero_iff] at alone alone'
    exact ⟨alone, alone'⟩
  · rintro ⟨none, none'⟩
    rw [none] at containers
    rw [none'] at volumes
    exact ⟨⟨container, rendered, containers⟩, name, recorded, volumes⟩

/-- A container takes the place of the first one of its name, and the volume that it mounts is there
if it was, or if the configuration was made anew. -/
structure Exchanges (names : SidecarNames) (config : Bool) (container : Container)
    (target target' : AdmittedObject) : Prop where
  /-- The container is the one that the annotations ask for. -/
  rendered : sidecarContainer names target.allAnnotations = .ok container
  /-- It takes the place of the first one of its name. -/
  containers : target'.pod.sidecars names = container :: (target.pod.sidecars names).tail
  /-- The volume is there. -/
  provided : config = true ∨ target.pod.configVolumes ≠ [] → target'.pod.Provides container

/-- What is exchanged stands alone if and only if there was not more than one of its name. -/
theorem Exchanges.alone_iff {config : Bool} {target target' : AdmittedObject}
    (exchanges : Exchanges names config container target target') :
    target'.pod.sidecars names = [container] ↔ (target.pod.sidecars names).length ≤ 1 := by
  rw [exchanges.containers, List.cons_eq_cons]
  cases target.pod.sidecars names with
  | nil => simp
  | cons first others => simp [List.length_eq_zero_iff]

/-- A patch that first puts an item into a list of a pod can only be applied if there is a pod. -/
theorem legible_of_upsert {kind : WorkloadKind} {object object' new : Json}
    {target : AdmittedObject} {key : String} {length : Nat} {rest : Patch} (index : Option Nat)
    (decoded : decode kind object = .ok target)
    (applied : Patch.apply
      (.upsert (kind.podPath ++ ["spec", key]) index length new :: rest) object = some object') :
    ∃ metadata, Legible kind object metadata target.pod ∧
      metadata.annotations = target.annotations := by
  obtain ⟨metadata, pod, read, rfl⟩ := parts?_of_decode decoded
  unfold Patch.apply at applied
  rw [List.foldlM_cons] at applied
  obtain ⟨_, first, -⟩ := Option.bind_eq_some_iff.mp applied
  obtain ⟨found, rfl⟩ := exists_pod_of_upsert read first
  exact ⟨metadata, read, rfl⟩

end AdmittedObject

open AdmittedObject

variable {P : Platform} {request : AdmissionRequest} {kind : WorkloadKind} {ns : String}
  {c c' : Cluster} {t : Transcript} {patch : Patch} {object : Json} {target : AdmittedObject}

/-- A patch that can only be applied where there is a pod, and does the same to every workload that
is seen alike, can be applied if and only if there is a pod, and has one outcome. -/
theorem applies_iff_legible {result : AdmittedObject} (decoded : decode kind object = .ok target)
    (starts : ∀ object', patch.apply object = some object' →
      ∃ metadata, Legible kind object metadata target.pod ∧
        metadata.annotations = target.annotations)
    (ends : ∀ metadata, Legible kind object metadata target.pod →
      metadata.annotations = target.annotations →
      ∃ object', patch.apply object = some object' ∧ decode kind object' = .ok result) :
    ((∃ object', patch.apply object = some object') ↔
      ∃ metadata pod, Legible kind object metadata pod) ∧
    ∀ object', patch.apply object = some object' → decode kind object' = .ok result := by
  refine ⟨⟨?_, ?_⟩, fun object' applied => ?_⟩
  · rintro ⟨object', applied⟩
    obtain ⟨metadata, legible, -⟩ := starts object' applied
    exact ⟨metadata, target.pod, legible⟩
  · rintro ⟨metadata, pod, legible⟩
    obtain rfl := Except.ok.inj (legible.decode.symm.trans decoded)
    obtain ⟨object', applied, -⟩ := ends metadata legible rfl
    exact ⟨object', applied⟩
  · obtain ⟨metadata, legible, annotated⟩ := starts object' applied
    obtain ⟨object'', applied', decoded'⟩ := ends metadata legible annotated
    cases applied.symm.trans applied'
    exact decoded'

/-! ### New workloads -/

/-- The patch of a new workload can be applied if and only if there is a pod: the volume is put into
it first. -/
theorem createPatch_applies {service : Option String} {name : String}
    (rendered : sidecarContainer names a = .ok container)
    (patched : createPatch kind ⟨some a, pod⟩ names service name = .ok patch)
    (decoded : decode kind object = .ok ⟨some a, pod⟩) :
    ((∃ object', patch.apply object = some object') ↔
      ∃ metadata pod, Legible kind object metadata pod) ∧
    ∀ object', patch.apply object = some object' → decode kind object' = .ok
      ⟨some (PatchOperation.updateAnnotations a (injectedNames service name)),
        { pod with
          containers := pod.containers ++ [container]
          volumes := some (pod.volumes.getD [] ++ [configVolume name]) }⟩ := by
  refine applies_iff_legible decoded (fun object' applied => ?_)
    fun metadata legible annotated => ?_
  · unfold createPatch at patched
    rw [show sidecarContainer names (allAnnotations ⟨some a, pod⟩) = .ok container from rendered]
      at patched
    cases patched
    exact legible_of_upsert none decoded applied
  · obtain ⟨container', object', rendered', applied, legible'⟩ :=
      apply_createPatch legible annotated patched
    cases rendered.symm.trans rendered'
    exact ⟨object', applied, legible'.decode⟩

/-- The patch of an injection can be applied if and only if there is a pod, which then gains a
container and a volume. -/
theorem Injects.gains {name : String} (injects : Injects P kind name ns target c t patch c')
    (decoded : decode kind object = .ok target) :
    ((∃ object', patch.apply object = some object') ↔
      ∃ metadata pod, Legible kind object metadata pod) ∧
    ∀ object', patch.apply object = some object' → ∃ target', decode kind object' = .ok target' ∧
      Gains (SidecarNames.ofWorkload name kind) target target' := by
  cases injects with
  | @intro entries sources service configMap _ c₁ _ t₁ t₂ valid sourced offered written patched =>
    obtain ⟨a, pod, container, rfl, rendered⟩ :=
      rendered_of_validate valid (SidecarNames.ofWorkload name kind)
    obtain ⟨applies, outcome⟩ := createPatch_applies rendered patched decoded
    refine ⟨applies, fun object' applied => ⟨_, outcome object' applied, ?_, ?_⟩⟩
    · -- The names that are recorded do not concern the container.
      have agree := Annotations.agree_injected a service configMap .container
      refine ⟨container, (agree.sidecarContainer _).trans rendered, ?_⟩
      unfold PodSpec.sidecars
      rw [List.filter_append]
      exact congrArg _ (List.filter_cons_of_pos (p := fun c : Container => c.name = _)
        (decide_eq_true (name_of_sidecarContainer rendered)))
    · refine ⟨configMap, configMapName?_injected a written.nonempty service, ?_⟩
      unfold PodSpec.configVolumes
      rw [Option.getD_some, List.filter_append]
      rfl

/-- Only workloads of a known kind are patched. -/
theorem exists_kind_of_patch
    (run : (review request).run.Yields P.Answers c t (.ok (.patch patch)) c') :
    ∃ kind, WorkloadKind.ofName? request.kind = some kind := by
  unfold review at run
  dsimp only at run
  split at run
  · cases run.2.1
  · next kind named => exact ⟨kind, named⟩

/-- **Injected gateways.**  The patch of a new workload can be applied if and only if there is a
pod.  The workload then has a container and a volume more, those that its annotations ask for, and
its gateway stands in the pod once if and only if the submitted pod had no container and no volume
of their names. -/
theorem injected_once_iff (creates : request.operation = .create)
    (run : (review request).run.Yields P.Answers c t (.ok (.patch patch)) c') :
    ∃ kind object target, WorkloadKind.ofName? request.kind = some kind ∧
      request.object = some object ∧ decode kind object = .ok target ∧
      ((∃ object', patch.apply object = some object') ↔
        ∃ metadata pod, Legible kind object metadata pod) ∧
      ∀ object', patch.apply object = some object' →
        ∃ target', decode kind object' = .ok target' ∧
          Gains (SidecarNames.ofWorkload request.name kind) target target' ∧
          (CarriesOnce (SidecarNames.ofWorkload request.name kind) target' ↔
            target.pod.sidecars (SidecarNames.ofWorkload request.name kind) = [] ∧
              target.pod.configVolumes = []) := by
  obtain ⟨kind, named⟩ := exists_kind_of_patch run
  rcases review_yields named rfl run with ⟨-, impossible, -, -⟩ | ⟨-, run'⟩
  · cases impossible
  rw [creates] at run'
  rcases reviewCreate_outcome run' with
    ⟨unpatched, -⟩ | ⟨object, target, _, same, present, decoded, injects⟩
  · exact absurd rfl (unpatched patch)
  · cases same
    obtain ⟨applies, gains⟩ := injects.gains decoded
    refine ⟨kind, object, target, named, present, decoded, applies, fun object' applied => ?_⟩
    obtain ⟨target', decoded', gained⟩ := gains object' applied
    exact ⟨target', decoded', gained, gained.carriesOnce_iff⟩

/-- A part of a pod of which only the name is said. -/
def namedPart (name : String) : Json := .object [("name", .string name)]

/-- A replicated workload of which the annotations and the names of its containers and volumes are
said. -/
def bareWorkload (a : TextMap) (containers volumes : List String) : Json :=
  .object
    [("metadata", .object [("annotations", .ofTextMap a)]),
      ("spec", .object [("template", .object [("spec", .object
        [("containers", .array (containers.map namedPart)),
          ("volumes", .array (volumes.map namedPart))])])])]

/-- What its pods run. -/
def barePod (containers volumes : List String) : PodSpec :=
  ⟨containers.map fun name => { name }, some (volumes.map fun name => { name }), none, none⟩

theorem mapM_namedPart {α : Type} (read : Json.Read α) (part : String → α)
    (each : ∀ name, read (namedPart name) = some (part name)) (names : List String) :
    (names.map namedPart).mapM read = some (names.map part) := by
  induction names with
  | nil => rfl
  | cons name rest ih =>
    rw [List.map_cons, List.mapM_cons, each name, ih]
    rfl

/-- Metadata of which only the annotations are said. -/
theorem readMetadata_annotations (a : TextMap) :
    Metadata.ofJson? (.object [("annotations", .ofTextMap a)]) =
      some { annotations := some a } := by
  unfold Metadata.ofJson?
  simp only [Option.bind_eq_bind, Option.bind_eq_some_iff]
  exact ⟨_, rfl, _, rfl, _, rfl, _, rfl, _, rfl, _, rfl, _, rfl, _, rfl, _,
    congrArg (Option.map some) (Json.readTextMap_ofTextMap a), _, rfl, rfl⟩

theorem legible_bareWorkload (a : TextMap) (containers volumes : List String) :
    Legible .deployment (bareWorkload a containers volumes) { annotations := some a }
      (barePod containers volumes) := by
  have readContainers : (containers.map namedPart).mapM Container.ofJson? =
      some (barePod containers volumes).containers :=
    mapM_namedPart Container.ofJson? (fun name => ({ name } : Container)) (fun _ => rfl) _
  have readVolumes : ((volumes.map namedPart).mapM Volume.ofJson?).map some =
      some (barePod containers volumes).volumes :=
    congrArg (Option.map some)
      (mapM_namedPart Volume.ofJson? (fun name => ({ name } : Volume)) (fun _ => rfl) _)
  have pod : PodSpec.ofJson? (.object
      [("containers", .array (containers.map namedPart)),
        ("volumes", .array (volumes.map namedPart))]) = some (barePod containers volumes) := by
    unfold PodSpec.ofJson?
    simp only [Option.bind_eq_bind, Option.bind_eq_some_iff]
    exact ⟨_, rfl, _, readContainers, _, readVolumes, _, rfl, _, rfl, rfl⟩
  have template : PodTemplate.ofJson? (.object [("spec", .object
      [("containers", .array (containers.map namedPart)),
        ("volumes", .array (volumes.map namedPart))])]) =
      some ⟨none, some (barePod containers volumes)⟩ := by
    unfold PodTemplate.ofJson?
    simp only [Option.bind_eq_bind, Option.bind_eq_some_iff]
    exact ⟨_, rfl, _, rfl, _, congrArg (Option.map some) pod, rfl⟩
  have spec : DeploymentSpec.ofJson? (.object [("template", .object [("spec", .object
      [("containers", .array (containers.map namedPart)),
        ("volumes", .array (volumes.map namedPart))])])]) =
      some ⟨none, none, none, some (barePod containers volumes)⟩ := by
    unfold DeploymentSpec.ofJson?
    simp only [Option.bind_eq_bind, Option.bind_eq_some_iff]
    exact ⟨_, rfl, _, rfl, _, rfl, _, template, rfl⟩
  have deployment : Deployment.ofJson? (bareWorkload a containers volumes) =
      some ⟨{ annotations := some a },
        some ⟨none, none, none, some (barePod containers volumes)⟩⟩ :=
    Deployment.ofJson?_eq_some_iff.mpr
      ⟨⟨_, rfl⟩, rfl, readMetadata_annotations a, congrArg (Option.map some) spec⟩
  unfold Legible parts?
  dsimp only
  rw [deployment]
  rfl

/-- A request to make a workload with some annotations, containers and volumes. -/
def bareRequest (a : TextMap) (containers volumes : List String) : AdmissionRequest :=
  { requestForGateway with object := some (bareWorkload a containers volumes) }

/-- A workload with the settings of the sample one gets its gateway, whatever its pods run. -/
theorem exists_injection {containers volumes : List String}
    (asked : request = bareRequest a containers volumes)
    (agree : ∀ part, Annotations.Agree part a gatewayAnnotations) :
    ∃ t patch c',
      (review request).run.Yields secludedPlatform.Answers {} t (.ok (.patch patch)) c' ∧
      Injects secludedPlatform .deployment "edge" "apps" ⟨some a, barePod containers volumes⟩ {} t
        patch c' := by
  obtain ⟨entries, valid, sourced⟩ := sourced_gatewayWorkload
  rw [← (agree .container).validate (agree .config)] at valid
  obtain ⟨t, r, c', run⟩ := Program.exists_yields secludedPlatform.total (review request).run {}
  obtain ⟨patch, rfl, injects⟩ := review_injects asked (legible_bareWorkload a containers volumes)
    (hasSettings_of_validate valid) valid sourced run
  exact ⟨t, patch, c', run, injects⟩

/-- The gateway of a workload that had a container and a volume of its own stands in its pod
once. -/
theorem ownWorkload_injected_once : ∃ t patch c' object' target',
    (review (bareRequest gatewayAnnotations ["app"] ["scratch"])).run.Yields
      secludedPlatform.Answers {} t (.ok (.patch patch)) c' ∧
    patch.apply (bareWorkload gatewayAnnotations ["app"] ["scratch"]) = some object' ∧
    decode .deployment object' = .ok target' ∧
    CarriesOnce (SidecarNames.ofWorkload "edge" .deployment) target' := by
  have legible := legible_bareWorkload gatewayAnnotations ["app"] ["scratch"]
  -- The request stays a name, as its review would be unfolded otherwise.
  obtain ⟨request, asked⟩ : ∃ request,
    request = bareRequest gatewayAnnotations ["app"] ["scratch"] := ⟨_, rfl⟩
  obtain ⟨t, patch, c', run, -⟩ := exists_injection asked fun _ _ _ => rfl
  obtain ⟨kind, object, target, named, present, decoded, applies, gains⟩ :=
    injected_once_iff (asked ▸ rfl) run
  have name : request.name = "edge" := asked ▸ rfl
  have named' : WorkloadKind.ofName? request.kind = some .deployment := asked ▸ rfl
  have present' : request.object = some (bareWorkload gatewayAnnotations ["app"] ["scratch"]) :=
    asked ▸ rfl
  cases named.symm.trans named'
  cases present.symm.trans present'
  cases legible.decode.symm.trans decoded
  obtain ⟨object', applied⟩ := applies.mpr ⟨_, _, legible⟩
  obtain ⟨target', decoded', -, once⟩ := gains object' applied
  rw [name] at once
  rw [← asked]
  exact ⟨t, patch, c', object', target', run, applied, decoded', once.mpr (by decide +kernel)⟩

/-- The annotations of a workload that got its gateway. -/
def exportedAnnotations : TextMap :=
  PatchOperation.updateAnnotations gatewayAnnotations
    (injectedNames (some "edge-app-gateway-sidecar-svcx2k9q")
      "edge-app-gateway-sidecar-configmap7h4zt")

/-- A workload that got its gateway and is submitted again gets another container and another volume
of the same names. -/
theorem exportedWorkload_injected_twice : ∃ t patch c' object' target',
    (review (bareRequest exportedAnnotations ["edge-app-gateway-sidecar-pod"]
      ["app-gateway-config"])).run.Yields secludedPlatform.Answers {} t (.ok (.patch patch)) c' ∧
    patch.apply (bareWorkload exportedAnnotations ["edge-app-gateway-sidecar-pod"]
      ["app-gateway-config"]) = some object' ∧ decode .deployment object' = .ok target' ∧
    (target'.pod.sidecars (SidecarNames.ofWorkload "edge" .deployment)).length = 2 ∧
    target'.pod.configVolumes.length = 2 ∧
    ¬CarriesOnce (SidecarNames.ofWorkload "edge" .deployment) target' := by
  have legible := legible_bareWorkload exportedAnnotations ["edge-app-gateway-sidecar-pod"]
    ["app-gateway-config"]
  obtain ⟨request, asked⟩ : ∃ request, request = bareRequest exportedAnnotations
      ["edge-app-gateway-sidecar-pod"] ["app-gateway-config"] := ⟨_, rfl⟩
  obtain ⟨t, patch, c', run, injects⟩ :=
    exists_injection asked (Annotations.agree_injected _ _ _)
  obtain ⟨applies, gains⟩ := injects.gains legible.decode
  obtain ⟨object', applied⟩ := applies.mpr ⟨_, _, legible⟩
  obtain ⟨target', decoded, gained⟩ := gains object' applied
  have sidecars : ((barePod ["edge-app-gateway-sidecar-pod"] ["app-gateway-config"]).sidecars
      (SidecarNames.ofWorkload "edge" .deployment)).length = 1 := by
    decide +kernel
  have volumes : (barePod ["edge-app-gateway-sidecar-pod"]
      ["app-gateway-config"]).configVolumes.length = 1 := by
    decide +kernel
  rw [← asked]
  refine ⟨t, patch, c', object', target', run, applied, decoded, ?_, ?_, ?_⟩
  · obtain ⟨container, -, containers⟩ := gained.container
    rw [containers, List.length_append, sidecars]
    rfl
  · obtain ⟨name, -, named⟩ := gained.volume
    rw [named, List.length_append, volumes]
    rfl
  · rw [gained.carriesOnce_iff]
    rintro ⟨none, -⟩
    rw [none] at sidecars
    cases sidecars

/-! ### Changed workloads -/

/-- The place of a change. -/
def PatchOperation.path : PatchOperation → Pointer
  | .add path _ => path
  | .replace path _ => path

/-- A patch has a change of the list of containers of a workload, or of an item of it. -/
def Patch.TouchesContainers (kind : WorkloadKind) (patch : Patch) : Prop :=
  ∃ operation ∈ patch, containersPath kind <+: operation.path

theorem not_touchesContainers_recordingPatch (kind : WorkloadKind) (target : AdmittedObject)
    (recorded : TextMap) : ¬(recordingPatch target recorded).TouchesContainers kind := by
  rintro ⟨operation, mem, starts⟩
  have path : operation.path = PatchOperation.annotationsPath := by
    unfold recordingPatch PatchOperation.setAnnotations at mem
    split at mem
    · cases mem
    · obtain rfl := List.mem_singleton.mp mem
      split <;> rfl
  rw [path] at starts
  cases kind <;> exact absurd starts (by decide)

theorem prefix_path_upsert (list : Pointer) (index : Option Nat) (length : Nat) (value : Json) :
    list <+: (PatchOperation.upsert list index length value).path := by
  unfold PatchOperation.upsert PatchOperation.replaceAt PatchOperation.append
  cases index with
  | some index => exact List.prefix_append _ _
  | none =>
    dsimp only
    split
    · exact List.prefix_refl _
    · exact List.prefix_append _ _

/-- The patch of a changed workload whose container is made anew can be applied if and only if there
is a pod. -/
theorem updatePatch_applies {recorded : TextMap} (remade : scope.container = true)
    (rendered : sidecarContainer names a = .ok container)
    (patched : updatePatch kind ⟨some a, pod⟩ names scope configMap recorded = .ok patch)
    (decoded : decode kind object = .ok ⟨some a, pod⟩) :
    ((∃ object', patch.apply object = some object') ↔
      ∃ metadata pod, Legible kind object metadata pod) ∧
    ∀ object', patch.apply object = some object' → decode kind object' = .ok
      ⟨some (PatchOperation.updateAnnotations a recorded),
        refreshedPod names scope configMap container pod⟩ := by
  refine applies_iff_legible decoded (fun object' applied => ?_)
    fun metadata legible annotated => ?_
  · rw [updatePatch_eq rendered, if_pos remade] at patched
    cases patched
    -- The first change is that of the volume, if it is made anew, and that of the container if not.
    unfold volumeUpdate at applied
    split at applied <;> exact legible_of_upsert _ decoded applied
  · obtain ⟨object', applied, legible'⟩ := apply_updatePatch legible annotated rendered patched
    exact ⟨object', applied, legible'.decode⟩

/-- The patch of a renewal that makes the container anew can be applied if and only if there is a
pod, of which it then makes the parts anew. -/
theorem Refreshes.refreshed {name : String} {previous : TextMap}
    (refreshes : Refreshes P kind name ns target previous c t patch c')
    (remade : (refreshScope kind target previous).container = true)
    (decoded : decode kind object = .ok target) :
    ∃ container current,
      sidecarContainer (SidecarNames.ofWorkload name kind) target.allAnnotations = .ok container ∧
      ((refreshScope kind target previous).config = true → current.isSome) ∧
      ((∃ object', patch.apply object = some object') ↔
        ∃ metadata pod, Legible kind object metadata pod) ∧
      ∀ object', patch.apply object = some object' → ∃ target', decode kind object' = .ok target' ∧
        target'.pod = refreshedPod (SidecarNames.ofWorkload name kind)
          (refreshScope kind target previous) current container target.pod := by
  cases refreshes with
  | @intro entries sources service configMap _ c₁ c₂ c₃ _ t₁ t₂ t₃ t₄ valid sourced offered written
      patched staleService staleConfigMap =>
    obtain ⟨container, rendered⟩ := sidecarContainer_of_validate valid
      (SidecarNames.ofWorkload name kind)
    obtain ⟨a, annotated⟩ := annotated_of_validate valid
    refine ⟨container, configMap.or (formerConfigMap? target previous), rendered, ?_, ?_⟩
    · intro config
      rw [Option.isSome_or, written.isSome, config]
      rfl
    · obtain ⟨annotations, pod⟩ := target
      dsimp only at annotated
      subst annotated
      obtain ⟨applies, outcome⟩ := updatePatch_applies remade rendered patched decoded
      exact ⟨applies, fun object' applied => ⟨_, outcome object' applied, rfl⟩⟩

/-- The patch of a renewal has a change of the containers if and only if the container is made
anew. -/
theorem Refreshes.touchesContainers_iff {name : String} {previous : TextMap}
    (refreshes : Refreshes P kind name ns target previous c t patch c') :
    patch.TouchesContainers kind ↔ (refreshScope kind target previous).container = true := by
  cases refreshes with
  | @intro entries sources service configMap _ c₁ c₂ c₃ _ t₁ t₂ t₃ t₄ valid sourced offered written
      patched staleService staleConfigMap =>
    obtain ⟨container, rendered⟩ := sidecarContainer_of_validate valid
      (SidecarNames.ofWorkload name kind)
    rw [updatePatch_eq rendered] at patched
    cases patched
    cases (refreshScope kind target previous).container with
    | false =>
      refine ⟨fun touched => absurd touched ?_, fun impossible => by cases impossible⟩
      exact not_touchesContainers_recordingPatch kind target _
    | true =>
      rw [if_pos rfl]
      have mem {operations recording : Patch} {operation : PatchOperation} :
          operation ∈ (operations ++ [operation]) ++ recording :=
        List.mem_append_left _ (List.mem_append_right _ (List.mem_singleton_self _))
      exact ⟨fun _ => rfl, fun _ => ⟨_, mem, prefix_path_upsert _ _ _ _⟩⟩

/-- What a renewal makes of a pod if it has a change of the containers. -/
theorem Refreshes.exchanges {name : String} {previous : TextMap}
    (refreshes : Refreshes P kind name ns target previous c t patch c')
    (touched : patch.TouchesContainers kind) (decoded : decode kind object = .ok target) :
    ((∃ object', patch.apply object = some object') ↔ ∃ metadata pod,
      Legible kind object metadata pod) ∧
    ∀ object', patch.apply object = some object' →
      ∃ target' container, decode kind object' = .ok target' ∧
        Exchanges (SidecarNames.ofWorkload name kind) (refreshScope kind target previous).config
          container target target' := by
  have remade := refreshes.touchesContainers_iff.mp touched
  obtain ⟨container, current, rendered, made, applies, refreshed⟩ :=
    refreshes.refreshed remade decoded
  refine ⟨applies, fun object' applied => ?_⟩
  obtain ⟨target', decoded', remains⟩ := refreshed object' applied
  refine ⟨target', container, decoded', rendered, ?_, fun either => ?_⟩
  · rw [remains]
    exact sidecars_refreshedPod rendered remade
  · rw [remains, PodSpec.provides_iff rendered]
    exact configVolumes_refreshedPod made container_of_config either

/-- **Renewed containers.**  The patch of a changed workload that has a change of its containers can
be applied if and only if there is a pod.  The container that the annotations ask for then takes the
place of the first one of its name, so it stands alone if and only if the submitted pod had not more
than one, and the volume that it mounts is there if the submitted pod had one of its name or a
setting of the configuration was changed. -/
theorem renewed_container (updates : request.operation = .update)
    (named : WorkloadKind.ofName? request.kind = some kind)
    (run : (review request).run.Yields P.Answers c t (.ok (.patch patch)) c')
    (touched : patch.TouchesContainers kind) :
    ∃ object old target live, request.object = some object ∧ request.oldObject = some old ∧
      decode kind object = .ok target ∧ decode kind old = .ok live ∧
      ((∃ object', patch.apply object = some object') ↔
        ∃ metadata pod, Legible kind object metadata pod) ∧
      ∀ object', patch.apply object = some object' →
        ∃ target' container, decode kind object' = .ok target' ∧
          Exchanges (SidecarNames.ofWorkload request.name kind)
            (refreshScope kind target live.allAnnotations).config container target target' ∧
          (target'.pod.sidecars (SidecarNames.ofWorkload request.name kind) = [container] ↔
            (target.pod.sidecars (SidecarNames.ofWorkload request.name kind)).length ≤ 1) := by
  rcases review_yields named rfl run with ⟨-, impossible, -, -⟩ | ⟨-, run'⟩
  · cases impossible
  rw [updates] at run'
  rcases reviewUpdate_outcome run' with ⟨unpatched, -, -⟩ |
    ⟨object, old, target, live, _, same, present, former, decoded, decodedOld, refreshes⟩
  · exact absurd rfl (unpatched patch)
  · cases same
    obtain ⟨applies, exchanges⟩ := refreshes.exchanges touched decoded
    refine ⟨object, old, target, live, present, former, decoded, decodedOld, applies,
      fun object' applied => ?_⟩
    obtain ⟨target', container, decoded', exchanged⟩ := exchanges object' applied
    exact ⟨target', container, decoded', exchanged, exchanged.alone_iff⟩

/-- The annotations of the sample workload with another image. -/
def upgradedAnnotations : TextMap :=
  gatewayAnnotations.insert (WellKnown.vendorPrefix ++ Annotations.imageKey) "gateway:2"

/-- They only concern the container. -/
theorem agree_upgradedAnnotations {part : GatewayPart} (other : part ≠ .container) :
    Annotations.Agree part upgradedAnnotations gatewayAnnotations := by
  intro key concerns
  unfold upgradedAnnotations
  rw [Dict.get?_insert_of_ne]
  rintro rfl
  refine other (Option.some.inj (concerns.symm.trans ?_))
  decide

/-- A request to change the image of the sample workload, with some containers and volumes. -/
def upgradeRequest (containers volumes : List String) : AdmissionRequest :=
  { bareRequest upgradedAnnotations containers volumes with
    operation := .update
    oldObject := some (bareWorkload gatewayAnnotations containers volumes) }

theorem not_agree_upgradedAnnotations :
    ¬Annotations.Agree .container upgradedAnnotations gatewayAnnotations := by
  intro agree
  have same := agree (WellKnown.vendorPrefix ++ Annotations.imageKey) (by decide)
  unfold upgradedAnnotations at same
  rw [Dict.get?_insert_self] at same
  exact absurd same (by decide +kernel)

/-- They are valid with the same entries. -/
theorem validate_upgradedAnnotations {entries : List ConfigurationEntry}
    (valid : Annotations.validate gatewayAnnotations = .ok entries) :
    Annotations.validate upgradedAnnotations = .ok entries := by
  have image : Annotations.image? upgradedAnnotations = some "gateway:2" := by
    unfold Annotations.image? Annotations.vendor? Annotations.nonEmpty? upgradedAnnotations
    rw [Dict.get?_insert_self]
    rfl
  unfold Annotations.validate
  rw [image]
  exact (agree_upgradedAnnotations (by decide)).configuration.trans
    (configuration_of_validate valid)

/-- A workload whose image is changed is patched. -/
theorem exists_renewal {containers volumes : List String}
    (asked : request = upgradeRequest containers volumes) :
    ∃ t patch c',
      (review request).run.Yields secludedPlatform.Answers {} t (.ok (.patch patch)) c' ∧
      Refreshes secludedPlatform .deployment "edge" "apps"
        ⟨some upgradedAnnotations, barePod containers volumes⟩ gatewayAnnotations {} t patch
        c' := by
  obtain ⟨layer, parsed⟩ := parse_emptyDocument
  obtain ⟨entries, valid, sourced⟩ := sourced_gatewayWorkload
  have named : WorkloadKind.ofName? request.kind = some .deployment := asked ▸ rfl
  have located : request.namespace_.getD "" = "apps" := asked ▸ rfl
  have operation : request.operation = .update := asked ▸ rfl
  have present : request.object = some (bareWorkload upgradedAnnotations containers volumes) :=
    asked ▸ rfl
  have former : request.oldObject = some (bareWorkload gatewayAnnotations containers volumes) :=
    asked ▸ rfl
  have name : request.name = "edge" := asked ▸ rfl
  have needed : Annotations.updateNeedsMutation upgradedAnnotations gatewayAnnotations false =
      true := by
    refine (Bool.eq_false_or_eq_true _).resolve_right fun unneeded => ?_
    exact not_agree_upgradedAnnotations (Annotations.agree_of_not_needsMutation unneeded _)
  obtain ⟨t, r, c', run⟩ := Program.exists_yields secludedPlatform.total (review request).run {}
  rcases review_yields named located run with ⟨ignored, -⟩ | ⟨-, run'⟩
  · cases ignored
  · rw [operation] at run'
    obtain ⟨patch, rfl, refreshes⟩ := reviewUpdate_succeeds (fun _ => trivial) present former
      (legible_bareWorkload _ containers volumes).decode
      (legible_bareWorkload _ containers volumes).decode needed
      (validate_upgradedAnnotations valid) sourced
      (fun _ _ _ _ run => ⟨_, resolve_literal parsed run⟩) run'
    rw [name] at refreshes
    exact ⟨t, patch, c', run, refreshes⟩

/-- The first container of the gateway's name is made anew, and the volumes stay as they are. -/
theorem exists_upgrade {containers volumes : List String}
    (asked : request = upgradeRequest containers volumes) :
    ∃ t patch c' object' target' container,
      (review request).run.Yields secludedPlatform.Answers {} t (.ok (.patch patch)) c' ∧
      patch.TouchesContainers .deployment ∧
      patch.apply (bareWorkload upgradedAnnotations containers volumes) = some object' ∧
      decode .deployment object' = .ok target' ∧
      sidecarContainer (.ofWorkload "edge" .deployment) upgradedAnnotations = .ok container ∧
      target'.pod.sidecars (.ofWorkload "edge" .deployment) =
        container :: ((barePod containers volumes).sidecars (.ofWorkload "edge" .deployment)).tail ∧
      target'.pod.configVolumes = (barePod containers volumes).configVolumes := by
  obtain ⟨t, patch, c', run, refreshes⟩ := exists_renewal asked
  have legible := legible_bareWorkload upgradedAnnotations containers volumes
  have kept : (refreshScope .deployment ⟨some upgradedAnnotations, barePod containers volumes⟩
      gatewayAnnotations).config = false :=
    Annotations.scope_config_of_agree (agree_upgradedAnnotations (by decide)) false
  have remade : (refreshScope .deployment ⟨some upgradedAnnotations, barePod containers volumes⟩
      gatewayAnnotations).container = true :=
    (Bool.eq_false_or_eq_true _).resolve_right fun same =>
      not_agree_upgradedAnnotations (Annotations.agree_of_scope_container rfl same).2
  obtain ⟨container, current, rendered, -, applies, refreshed⟩ :=
    refreshes.refreshed remade legible.decode
  obtain ⟨object', applied⟩ := applies.mpr ⟨_, _, legible⟩
  obtain ⟨target', decoded, remains⟩ := refreshed object' applied
  refine ⟨t, patch, c', object', target', container, run,
    refreshes.touchesContainers_iff.mpr remade, applied, decoded, rendered, ?_, ?_⟩
  · rw [remains]
    exact sidecars_refreshedPod rendered remade
  · rw [remains]
    unfold PodSpec.configVolumes
    rw [volumes_refreshedPod kept]

/-- A workload that has its container and its volume has both after a change of its image. -/
theorem upgradedWorkload_coherent : ∃ t patch c' object' target' container,
    (review (upgradeRequest ["edge-app-gateway-sidecar-pod"] ["app-gateway-config"])).run.Yields
      secludedPlatform.Answers {} t (.ok (.patch patch)) c' ∧
    patch.TouchesContainers .deployment ∧
    patch.apply (bareWorkload upgradedAnnotations ["edge-app-gateway-sidecar-pod"]
      ["app-gateway-config"]) = some object' ∧
    decode .deployment object' = .ok target' ∧
    target'.pod.sidecars (.ofWorkload "edge" .deployment) = [container] ∧
    target'.pod.Provides container := by
  obtain ⟨request, asked⟩ : ∃ request, request =
    upgradeRequest ["edge-app-gateway-sidecar-pod"] ["app-gateway-config"] := ⟨_, rfl⟩
  obtain ⟨t, patch, c', object', target', -, run, touched, applied, decoded, -⟩ :=
    exists_upgrade asked
  have legible := legible_bareWorkload upgradedAnnotations ["edge-app-gateway-sidecar-pod"]
    ["app-gateway-config"]
  obtain ⟨object, old, target, live, present, -, decoded', -, -, renewed⟩ :=
    renewed_container (asked ▸ rfl) (asked ▸ rfl) run touched
  have name : request.name = "edge" := asked ▸ rfl
  have present' : request.object = some (bareWorkload upgradedAnnotations
      ["edge-app-gateway-sidecar-pod"] ["app-gateway-config"]) := asked ▸ rfl
  cases present.symm.trans present'
  cases legible.decode.symm.trans decoded'
  obtain ⟨_, container, decoded'', exchanged, alone⟩ := renewed object' applied
  cases decoded.symm.trans decoded''
  rw [name] at alone
  rw [← asked]
  exact ⟨t, patch, c', object', target', container, run, touched, applied, decoded,
    alone.mpr (by decide +kernel), exchanged.provided (Or.inr (by decide +kernel))⟩

/-- A second container of the gateway's name stays beside the one that is made anew; a volume that
is not there is not made with the container. -/
theorem upgradedWorkload_incoherent :
    (∃ t patch c' object' target',
      (review (upgradeRequest ["edge-app-gateway-sidecar-pod", "edge-app-gateway-sidecar-pod"]
        ["app-gateway-config"])).run.Yields secludedPlatform.Answers {} t (.ok (.patch patch)) c' ∧
      patch.TouchesContainers .deployment ∧
      patch.apply (bareWorkload upgradedAnnotations
        ["edge-app-gateway-sidecar-pod", "edge-app-gateway-sidecar-pod"]
        ["app-gateway-config"]) = some object' ∧
      decode .deployment object' = .ok target' ∧
      (target'.pod.sidecars (.ofWorkload "edge" .deployment)).length = 2) ∧
    ∃ t patch c' object' target' container,
      (review (upgradeRequest ["app"] [])).run.Yields secludedPlatform.Answers {} t
        (.ok (.patch patch)) c' ∧
      patch.TouchesContainers .deployment ∧
      patch.apply (bareWorkload upgradedAnnotations ["app"] []) = some object' ∧
      decode .deployment object' = .ok target' ∧
      target'.pod.sidecars (.ofWorkload "edge" .deployment) = [container] ∧
      target'.pod.configVolumes = [] ∧ ¬target'.pod.Provides container := by
  constructor
  · obtain ⟨request, asked⟩ : ∃ request, request =
      upgradeRequest ["edge-app-gateway-sidecar-pod", "edge-app-gateway-sidecar-pod"]
        ["app-gateway-config"] := ⟨_, rfl⟩
    obtain ⟨t, patch, c', object', target', container, run, touched, applied, decoded, -, sidecars,
      -⟩ := exists_upgrade asked
    rw [← asked]
    refine ⟨t, patch, c', object', target', run, touched, applied, decoded, ?_⟩
    have others : ((barePod ["edge-app-gateway-sidecar-pod", "edge-app-gateway-sidecar-pod"]
        ["app-gateway-config"]).sidecars (.ofWorkload "edge" .deployment)).tail.length = 1 := by
      decide +kernel
    rw [sidecars, List.length_cons, others]
  · obtain ⟨request, asked⟩ : ∃ request, request = upgradeRequest ["app"] [] := ⟨_, rfl⟩
    obtain ⟨t, patch, c', object', target', container, run, touched, applied, decoded, rendered,
      sidecars, volumes⟩ := exists_upgrade asked
    rw [← asked]
    refine ⟨t, patch, c', object', target', container, run, touched, applied, decoded, ?_, volumes,
      ?_⟩
    · have others : ((barePod ["app"] []).sidecars (.ofWorkload "edge" .deployment)).tail = [] := by
        decide +kernel
      rw [sidecars, others]
    · rw [PodSpec.provides_iff rendered, volumes]
      exact not_not_intro rfl

end GatewayOperator
