import GatewayOperator.ClusterApi
import GatewayOperator.Proofs.Json.MergePatch
import GatewayOperator.Proofs.Rollout.Transitions

/-!
# The custom resource carried by JSON

The wishes and the status of a gateway are written by some and read by others.  Whatever is set in
them or not, they are read as they were written, and a status that the cluster was sent is known
again.

## Main Definitions

* `GatewaySpec.Representable`, `GatewayStatus.Representable` — the numbers have the sizes of the
  resource.

## Main Statements

* `ConfigurationEntry.carried`, `GatewaySpec.Representable.carried`,
  `GatewayStatus.Representable.carried` — each record is read as it was written.
* `GatewayStatus.Representable.read_merged` — a status is read as it was written if it was merged
  into another one.
* `Gateway.resource_survives` — the same for texts, and for the status that a gateway is given.

## Design Notes

A status is sent as a merge patch, in which null takes a field away.  Therefore a field that is not
set does not come back as null; it is missing, and no field whose value is never null may be.
-/

namespace GatewayOperator

open Json

variable {room : Nat}

/-! ### Configuration entries -/

theorem SourceKind.ofName?_name (kind : SourceKind) : ofName? kind.name = some kind := by
  cases kind <;> decide

theorem HeaderKind.ofName?_name (kind : HeaderKind) : ofName? kind.name = some kind := by
  cases kind <;> decide

theorem HeaderEntry.carried (h : HeaderEntry) : Carries toJson ofJson? (room + 1) h := by
  refine ⟨fits_record (by simp), by simp [toJson, record], ?_⟩
  have members : h.toJson.members? ["type", "name", "value", "secretKey"] = _ :=
    members?_record (by simp) (by simp)
  simp [ofJson?, members, lookup_presentFields, Assoc.lookup, HeaderKind.ofJson?, string?,
    HeaderKind.ofName?_name]

theorem PostDataEntry.carried (p : PostDataEntry) : Carries toJson ofJson? (room + 2) p := by
  have values : ∀ texts ∈ p.values, Carries (ofList .string) (readList readText) (room + 1) texts :=
    fun texts _ => .list fun text _ => .text text
  refine ⟨fits_record ?_, by simp [toJson, record], ?_⟩
  · have := fits_map values
    simpa
  · have members : p.toJson.members? ["name", "value", "values"] = _ :=
      members?_record (by simp) (by simp)
    simp [ofJson?, members, lookup_presentFields, Assoc.lookup, Carries.present values]

theorem ConfigurationEntry.carried (e : ConfigurationEntry) :
    Carries toJson ofJson? (room + 4) e := by
  have headers : ∀ h ∈ e.headers, Carries _ _ (room + 2) h := fun h _ => h.carried
  have postData : ∀ p ∈ e.postData, Carries _ _ (room + 2) p := fun p _ => p.carried
  refine ⟨fits_record ?_, by simp [toJson, record], ?_⟩
  · have := fits_writtenList headers
    have := fits_writtenList postData
    simp_all
  · have members : e.toJson.members? fieldNames = _ := members?_record (by simp) (by simp [fieldNames])
    simp [ofJson?, members, lookup_presentFields, Assoc.lookup, Carries.written headers,
      Carries.written postData, SourceKind.ofJson?, string?, SourceKind.ofName?_name]

/-! ### Wishes -/

/-- The numbers of a health check have 32 bits. -/
structure HealthCheckSettings.Representable (h : HealthCheckSettings) : Prop where
  /-- The seconds before the first check. -/
  initialDelaySeconds : ∀ n ∈ h.initialDelaySeconds, IsInt32 n
  /-- The seconds between checks. -/
  periodSeconds : ∀ n ∈ h.periodSeconds, IsInt32 n
  /-- How many failures in a row count. -/
  failureThreshold : ∀ n ∈ h.failureThreshold, IsInt32 n
  /-- How many successes in a row count. -/
  successThreshold : ∀ n ∈ h.successThreshold, IsInt32 n
  /-- The seconds after which a check has failed. -/
  timeoutSeconds : ∀ n ∈ h.timeoutSeconds, IsInt32 n

/-- The numbers of a deployment's health checks have 32 bits. -/
structure GatewayDeployment.Representable (d : GatewayDeployment) : Prop where
  /-- Those of the check for whether requests can be served. -/
  readinessProbe : ∀ h ∈ d.readinessProbe, h.Representable
  /-- Those of the check for whether the gateway has to be restarted. -/
  livenessProbe : ∀ h ∈ d.livenessProbe, h.Representable

/-- The numbers among the wishes have 32 bits. -/
structure GatewaySpec.Representable (s : GatewaySpec) : Prop where
  /-- The number of pods. -/
  replicas : IsInt32 s.replicas
  /-- The numbers of the health checks. -/
  deployment : s.deployment.Representable

theorem HealthCheckSettings.Representable.carried {h : HealthCheckSettings}
    (r : h.Representable) : Carries toJson ofJson? (room + 1) h := by
  have number {value : Option Int} (bounds : ∀ n ∈ value, IsInt32 n) :
      Fits room (ofOption .int value) ∧
        optional readInt32 (some (ofOption .int value)) = some value := by
    have each : ∀ n ∈ value, Carries .int readInt32 room n := fun n mem => .int32 (bounds n mem)
    exact ⟨fits_ofOption each, Carries.optional each⟩
  have command : Fits room (ofOption .string h.command) :=
    fits_ofOption fun text _ => .text text
  refine ⟨.object ?_, by simp [toJson], ?_⟩
  · simp [command, number r.1, number r.2, number r.3, number r.4, number r.5]
  · have members : h.toJson.members? fieldNames = _ :=
      members?_object (by simp) (by simp [fieldNames])
    simp [ofJson?, members, Assoc.lookup, number r.1, number r.2, number r.3, number r.4,
      number r.5]

theorem CustomAnnotation.carried (a : CustomAnnotation) : Carries toJson ofJson? (room + 1) a := by
  refine ⟨.object (by simp), by simp [toJson], ?_⟩
  have members : a.toJson.members? ["key", "value"] = _ := members?_object (by simp) (by simp)
  simp [ofJson?, members, Assoc.lookup]

theorem carried_pullSecret (name : String) :
    Carries pullSecretToJson pullSecretOfJson? (room + 1) name := by
  refine ⟨.object (by simp), by simp [pullSecretToJson], ?_⟩
  have members : (pullSecretToJson name).members? ["name"] = _ :=
    members?_object (by simp) (by simp)
  simp [pullSecretOfJson?, members, Assoc.lookup]

theorem GatewayDeployment.Representable.carried {d : GatewayDeployment} (r : d.Representable) :
    Carries toJson ofJson? (room + 3) d := by
  have secrets : Carries _ _ (room + 2) d.imagePullSecrets :=
    .list fun name _ => carried_pullSecret name
  have annotations : Carries _ _ (room + 2) d.customAnnotations := .list fun a _ => a.carried
  have readiness : ∀ h ∈ d.readinessProbe, Carries _ _ (room + 2) h :=
    fun h mem => (r.readinessProbe h mem).carried
  have liveness : ∀ h ∈ d.livenessProbe, Carries _ _ (room + 2) h :=
    fun h mem => (r.livenessProbe h mem).carried
  have text (value : Option String) : Fits (room + 2) (ofOption .string value) :=
    fits_ofOption fun text _ => .text text
  refine ⟨.object ?_, by simp [toJson], ?_⟩
  · simp [text, secrets.fits, annotations.fits, fits_ofOption readiness, fits_ofOption liveness]
  · have members : d.toJson.members? fieldNames = _ :=
      members?_object (by simp) (by simp [fieldNames])
    simp [ofJson?, members, Assoc.lookup, secrets.back, annotations.back,
      Carries.optional readiness, Carries.optional liveness]

theorem GatewaySpec.Representable.carried {s : GatewaySpec} (r : s.Representable) :
    Carries toJson ofJson? (room + 6) s := by
  have replicas : Carries .int readInt32 (room + 5) s.replicas := .int32 r.replicas
  have deployment : Carries _ _ (room + 5) s.deployment := r.deployment.carried
  have entries : Carries _ _ (room + 5) s.configuration := .list fun e _ => e.carried
  refine ⟨.object ?_, by simp [toJson], ?_⟩
  · simp [replicas.fits, deployment.fits, entries.fits]
  · have members : s.toJson.members? ["replicas", "deployment", "configuration"] = _ :=
      members?_object (by simp) (by simp)
    simp [ofJson?, members, Assoc.lookup, replicas.back, deployment.back, entries.back]

/-! ### Status -/

/-- The numbers of a status have 32 and 64 bits. -/
structure GatewayStatus.Representable (s : GatewayStatus) : Prop where
  /-- The number of pods. -/
  replicas : ∀ n ∈ s.replicas, IsInt32 n
  /-- The number of changes to the wishes. -/
  observedGeneration : ∀ n ∈ s.observedGeneration, IsInt64 n

theorem Condition.carried (c : Condition) : Carries toJson ofJson? (room + 1) c := by
  have text (value : Option String) : Fits room (ofOption .string value) :=
    fits_ofOption fun text _ => .text text
  refine ⟨.object (by simp [text]), by simp [toJson], ?_⟩
  have members : c.toJson.members? ["type", "status", "lastTransitionTime", "reason", "message"] =
      _ := members?_object (by simp) (by simp)
  simp [ofJson?, members, Assoc.lookup]

theorem GatewayStatus.Representable.carried {s : GatewayStatus} (r : s.Representable) :
    Carries toJson ofJson? (room + 3) s := by
  have replicas : ∀ n ∈ s.replicas, Carries .int readInt32 (room + 2) n :=
    fun n mem => .int32 (r.replicas n mem)
  have generation : ∀ n ∈ s.observedGeneration, Carries .int readInt64 (room + 2) n :=
    fun n mem => .int64 (r.observedGeneration n mem)
  have conditions : Carries _ _ (room + 2) s.conditions := .list fun c _ => c.carried
  have text (value : Option String) : Fits (room + 2) (ofOption .string value) :=
    fits_ofOption fun text _ => .text text
  refine ⟨.object ?_, by simp [toJson], ?_⟩
  · simp [text, conditions.fits, fits_ofOption replicas, fits_ofOption generation]
  · have members : s.toJson.members? fieldNames = _ :=
      members?_object (by simp) (by simp [fieldNames])
    simp [ofJson?, members, Assoc.lookup, conditions.back, Carries.optional replicas,
      Carries.optional generation]

theorem fields?_ofOption {α : Type} {write : α → Json} (simple : ∀ a, (write a).fields? = none)
    (value : Option α) : (ofOption write value).fields? = none := by
  cases value with
  | none => rfl
  | some a => exact simple a

/-! ### A status in the cluster -/

variable {merge : Json → Json → Json}

/-- A status that is merged into whatever was there is read as it was written. -/
theorem GatewayStatus.Representable.read_merged (merges : MergesPatches merge)
    {s : GatewayStatus} (r : s.Representable) (before : Json) :
    ofJson? (merge before s.toJson) = some s := by
  have text (value : Option String) : (ofOption Json.string value).fields? = none :=
    fields?_ofOption (fun _ => rfl) value
  have number (value : Option Int) : (ofOption Json.int value).fields? = none :=
    fields?_ofOption (fun _ => rfl) value
  have flag : (Json.bool s.ready).fields? = none := rfl
  have list : (Json.ofList Condition.toJson s.conditions).fields? = none := rfl
  -- The fields that are not optional are never null, so merging keeps them as well.
  obtain ⟨changes, sent, names, simple, ready, conditions⟩ : ∃ changes,
      s.toJson = .object changes ∧ changes.map (·.1) = fieldNames ∧
      (∀ change ∈ changes, change.2.fields? = none) ∧
      (Assoc.lookup "ready" changes).filter (!·.isNull) = Assoc.lookup "ready" changes ∧
      (Assoc.lookup "conditions" changes).filter (!·.isNull) = Assoc.lookup "conditions" changes :=
    ⟨_, rfl, rfl, by simp [text, number, flag, list], rfl, rfl⟩
  have distinct : (changes.map (·.1)).Nodup := by
    rw [names]
    decide
  obtain ⟨fields, merged, distinct', each⟩ := merges.flat before distinct simple
  obtain ⟨known, members, same⟩ := exists_members? fieldNames distinct'
  have found (name : String) (mem : name ∈ fieldNames) :
      Assoc.lookup name known = (Assoc.lookup name changes).filter (!·.isNull) :=
    (same name mem).trans (each name (names.symm ▸ mem))
  have carried : Carries toJson ofJson? 3 s := r.carried
  have back := carried.back
  rw [sent, ofJson?, members?_object distinct fun name mem => names ▸ mem] at back
  rw [sent, merged, ofJson?, members]
  simpa only [Option.bind_eq_bind, Option.bind_some, found "ready" (by decide),
    found "replicas" (by decide), found "version" (by decide), found "configMapName" (by decide),
    found "conditions" (by decide), found "observedGeneration" (by decide), optional_filter, ready,
    conditions] using back

/-- Merging a status into the object of a gateway gives it that status and leaves the rest. -/
theorem Gateway.ofJson?_merge (merges : MergesPatches merge) {stored : List (String × Json)}
    {g : Gateway} (read : ofJson? (.object stored) = some g) {status : GatewayStatus}
    (r : status.Representable) :
    ofJson? (merge (.object stored) (.object [("status", status.toJson)])) =
      some { g with status := some status } := by
  obtain ⟨fields, merged, distinct, each⟩ := merges.merges (.object stored)
    [("status", status.toJson)] (by simp)
  obtain ⟨known', members', same⟩ := exists_members? ["metadata", "spec", "status"] distinct
  obtain ⟨known, members, read⟩ := Option.bind_eq_some_iff.mp read
  simp only [Option.bind_eq_bind, Option.bind_eq_some_iff] at read
  obtain ⟨metadata, isMetadata, spec, isSpec, old, -, read⟩ := read
  cases read
  rw [lookup_members? members (by simp)] at isMetadata isSpec
  have written : optional GatewayStatus.ofJson? (Assoc.lookup "status" fields) =
      some (some status) := by
    rw [each]
    exact optional_of_read rfl (r.read_merged merges _)
  have kept {name : String} (other : name ≠ "status") :
      Assoc.lookup name fields = (Json.object stored).get? name := by
    rw [each, Assoc.lookup_cons, if_neg (Ne.symm other)]
    rfl
  rw [merged, ofJson?, members']
  simp [same, kept, isMetadata, isSpec, written]

/-- **The custom resource survives**: wishes, a status and configuration entries are read as they
were written, also from a text.  A gateway whose status was written has that status, and leaves
it unwritten from then on. -/
theorem Gateway.resource_survives (merges : MergesPatches merge) :
    (∀ s : GatewaySpec, s.Representable → Survives GatewaySpec.toJson GatewaySpec.ofJson? s) ∧
      (∀ s : GatewayStatus, s.Representable →
        Survives GatewayStatus.toJson GatewayStatus.ofJson? s) ∧
      (∀ entries : List ConfigurationEntry,
        Survives (Json.ofList ConfigurationEntry.toJson) (readList ConfigurationEntry.ofJson?)
          entries) ∧
      ∀ (namespace_ name : String) (status : GatewayStatus), status.Representable →
        ∀ request ∈ (ClusterApi.patchStatus namespace_ name status).request,
          request.patchType = some "application/merge-patch+json" ∧
          ∃ body, request.body = some body ∧ Json.read body.write = .ok body ∧
            ∀ stored g, ofJson? (.object stored) = some g →
              ofJson? (merge (.object stored) body) = some { g with status := some status } ∧
              ∀ next, ({ g with status := some status }.updateStatus next).Asks (fun _ => False) ↔
                next = status := by
  have deep {room : Nat} (shallow : room ≤ 6) : room ≤ Builder.depthLimit :=
    Nat.le_trans shallow (by decide)
  refine ⟨fun s r => ?_, fun s r => ?_, fun entries => ?_, fun ns name status r request sent => ?_⟩
  · have carried : Json.Carries _ _ 6 s := r.carried
    exact carried.survives (deep (by decide))
  · have carried : Json.Carries _ _ 3 s := r.carried
    exact carried.survives (deep (by decide))
  · have carried : Json.Carries _ _ 5 entries := .list fun e _ => e.carried
    exact carried.survives (deep (by decide))
  · obtain ⟨_, _, sent⟩ := Option.bind_eq_some_iff.mp sent
    obtain ⟨path, _, sent⟩ := Option.bind_eq_some_iff.mp sent
    cases sent
    have carried : Json.Carries GatewayStatus.toJson _ 3 status := r.carried
    have fits : Fits 4 (.object [("status", status.toJson)]) :=
      .object (by simpa using carried.fits)
    refine ⟨rfl, _, rfl, read_write (fits.mono (deep (by decide))), fun stored g read => ?_⟩
    refine ⟨ofJson?_merge merges read r, fun next => ?_⟩
    rw [updateStatus_asks_nothing_iff, Option.some.injEq, eq_comm]

/-- Wishes with the least and the greatest numbers, empty texts and lists, and fields not set. -/
def extremeSpec : GatewaySpec :=
  ⟨-2147483648,
    ⟨"", none, [""], some "", "", none,
      some ⟨none, some 2147483647, none, some (-2147483648), some 0, none⟩, none, []⟩,
    [{ ConfigurationEntry.bare .oidcRegistration with
        name := some "", postData := [⟨"scopes", none, some []⟩, ⟨"", some "", none⟩] }]⟩

/-- A status with the least and the greatest numbers, and fields not set. -/
def extremeStatus : GatewayStatus :=
  ⟨false, some (-2147483648), none, some "", [⟨"Ready", "False", none, some "\"", none⟩],
    some 9223372036854775807⟩

/-- A gateway whose status has fields that the extreme one has not. -/
def servedGateway : Gateway :=
  { bareGateway with status := some ⟨true, some 1, some "v1", none, [], some 1⟩ }

theorem representable_extremeSpec : extremeSpec.Representable := by
  have number (n : Int) (h : -2147483648 ≤ n ∧ n ≤ 2147483647) : IsInt32 n := h
  refine ⟨number _ (by decide), ⟨?_, by simp [extremeSpec]⟩⟩
  rintro h ⟨⟩
  constructor <;> rintro n ⟨⟩ <;> exact number _ (by decide)

theorem representable_extremeStatus : extremeStatus.Representable := by
  constructor <;> rintro n ⟨⟩ <;> exact ⟨by decide, by decide⟩

/-- Extreme wishes are read back, and so is an extreme status that takes the place of another
one. -/
theorem Gateway.extremes_survive :
    Survives GatewaySpec.toJson GatewaySpec.ofJson? extremeSpec ∧
      Survives GatewayStatus.toJson GatewayStatus.ofJson? extremeStatus ∧
      ∃ request ∈ (ClusterApi.patchStatus "default" "edge" extremeStatus).request,
        ∃ body, request.body = some body ∧
          ofJson? (mergePatch servedGateway.toJson body) =
            some { servedGateway with status := some extremeStatus } := by
  obtain ⟨wishes, states, -, sent⟩ := resource_survives mergesPatches_mergePatch
  obtain ⟨request, asked⟩ := Option.isSome_iff_exists.mp
    (show (ClusterApi.patchStatus "default" "edge" extremeStatus).request.isSome by
      decide +kernel)
  obtain ⟨-, body, carried, -, merged⟩ :=
    sent "default" "edge" extremeStatus representable_extremeStatus request asked
  exact ⟨wishes _ representable_extremeSpec, states _ representable_extremeStatus, request, asked,
    body, carried, (merged _ servedGateway (by decide +kernel)).1⟩

end GatewayOperator
