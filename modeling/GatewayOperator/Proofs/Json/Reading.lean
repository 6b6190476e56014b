import GatewayOperator.Json.Decode
import GatewayOperator.Proofs.Entries
import GatewayOperator.Proofs.Json.Edits
import GatewayOperator.Resource.Deployment

/-!
# Reading what was written or edited

What was written into an object is read back, and an edit of one field changes what is read in that
field only.

## Main Statements

* `Json.readTextMap_ofTextMap` — a map of texts is read as it was written.
* `Json.get?_of_readTextMap` — what a map of texts has under a key stands there in the object.
* `PodSpec.ofJson?_containers`, `PodSpec.ofJson?_volumes` and the lemmas after them — what is read
  from an edited object.
-/

namespace GatewayOperator

/-! ### Lists and maps -/

namespace Json

variable {α : Type} {read : Read α} {items : List Json} {values : List α}

theorem length_of_mapM (h : items.mapM read = some values) : items.length = values.length := by
  induction items generalizing values with
  | nil =>
    cases h
    rfl
  | cons item rest ih =>
    simp only [List.mapM_cons, Option.bind_eq_bind, Option.bind_eq_some_iff] at h
    obtain ⟨value, -, others, rest_read, same⟩ := h
    cases same
    rw [List.length_cons, List.length_cons, ih rest_read]

/-- One more item is one more value. -/
theorem mapM_append_single (h : items.mapM read = some values) {new : Json} {value : α}
    (last : read new = some value) : (items ++ [new]).mapM read = some (values ++ [value]) := by
  rw [List.mapM_append, h]
  simp [last]

/-- An item in place of another one is a value in place of another one. -/
theorem mapM_set (h : items.mapM read = some values) {new : Json} {value : α}
    (replaced : read new = some value) (n : Nat) :
    (items.set n new).mapM read = some (values.set n value) := by
  induction items generalizing values n with
  | nil =>
    cases h
    rfl
  | cons item rest ih =>
    simp only [List.mapM_cons, Option.bind_eq_bind, Option.bind_eq_some_iff] at h
    obtain ⟨first, first_read, others, rest_read, same⟩ := h
    cases same
    cases n with
    | zero => simp [replaced, rest_read]
    | succ n => simp [first_read, ih rest_read n]

/-- A list that was written item by item is read item by item. -/
theorem mapM_map_of_forall {write : α → Json}
    (each : ∀ value ∈ values, read (write value) = some value) :
    (values.map write).mapM read = some values := by
  induction values with
  | nil => rfl
  | cons value rest ih =>
    rw [List.map_cons, List.mapM_cons, each value List.mem_cons_self,
      ih fun value mem => each value (List.mem_cons_of_mem _ mem)]
    rfl

/-- A map of texts is read as it was written. -/
theorem readTextMap_ofTextMap (d : TextMap) : readTextMap (ofTextMap d) = some d := by
  have each (entries : List (String × String)) :
      (entries.map fun entry => (entry.1, Json.string entry.2)).mapM
        (fun field => (readText field.2).map (field.1, ·)) = some entries := by
    induction entries with
    | nil => rfl
    | cons entry rest ih =>
      rw [List.map_cons, List.mapM_cons, ih]
      rfl
  unfold readTextMap readMap ofTextMap ofMap fields?
  rw [Option.bind_some, each, Option.map_some, Dict.ofList_entries]

/-- A map of texts is read from an object whose fields are texts. -/
theorem fields_of_readTextMap {v : Json} {d : TextMap} (h : readTextMap v = some d) :
    ∃ pairs : List (String × String),
      v = .object (pairs.map fun pair => (pair.1, .string pair.2)) ∧ d = Dict.ofList pairs := by
  obtain ⟨fields, object, h⟩ := Option.bind_eq_some_iff.mp h
  obtain ⟨pairs, mapped, rfl⟩ := Option.map_eq_some_iff.mp h
  have texts (fields : List (String × Json)) (pairs : List (String × String))
      (mapped : (fields.mapM fun field => (readText field.2).map (field.1, ·)) = some pairs) :
      fields = pairs.map fun pair => (pair.1, .string pair.2) := by
    induction fields generalizing pairs with
    | nil =>
      cases mapped
      rfl
    | cons field rest ih =>
      obtain ⟨name, value⟩ := field
      simp only [List.mapM_cons, Option.bind_eq_bind, Option.bind_eq_some_iff,
        Option.map_eq_some_iff] at mapped
      obtain ⟨_, ⟨text, isText, rfl⟩, others, rest_mapped, same⟩ := mapped
      cases same
      have value_eq : value = .string text := by
        unfold readText string? at isText
        split at isText
        · cases isText
          rfl
        · cases isText
      rw [List.map_cons, value_eq, ih others rest_mapped]
  refine ⟨pairs, ?_, rfl⟩
  cases v with
  | object found =>
    cases object
    rw [texts _ pairs mapped]
  | _ => cases object

/-- What a map of texts has under a key is the text that the object has there. -/
theorem get?_of_readTextMap {v : Json} {d : TextMap} (h : readTextMap v = some d) (key : String) :
    v.get? key = (d.get? key).map .string := by
  obtain ⟨pairs, rfl, rfl⟩ := fields_of_readTextMap h
  rw [Dict.get?_ofList, get?_object, ← List.map_reverse]
  exact Assoc.lookup_map Json.string key pairs.reverse

/-! ### Fields -/

theorem optional_eq_some_some {field : Option Json} {value : α}
    (h : optional read field = some (some value)) :
    ∃ v, field = some v ∧ read v = some value := by
  unfold optional at h
  split at h
  · cases h
  · cases h
  · next v _ =>
    obtain ⟨value', read_value, same⟩ := Option.map_eq_some_iff.mp h
    cases same
    exact ⟨v, rfl, read_value⟩

/-- What is read from an object is read from a field that holds the object. -/
theorem optional_of_read {v : Json} {value : α}
    (notNull : read .null = none) (h : read v = some value) :
    optional read (some v) = some (some value) := by
  unfold optional
  split
  · next impossible => cases impossible
  · next null =>
    cases null
    rw [notNull] at h
    cases h
  · next same =>
    cases same
    rw [h]
    rfl

theorem lenient_of_read {default : α} {v : Json} {value : α}
    (notNull : read .null = none) (h : read v = some value) :
    lenient default read (some v) = some value := by
  unfold lenient
  split
  · next impossible => cases impossible
  · next null =>
    cases null
    rw [notNull] at h
    cases h
  · next same =>
    cases same
    exact h

/-- What is read from a field that is not null is read from the value. -/
theorem read_of_optional {v : Json} {value : Option α} (notNull : v ≠ .null)
    (h : optional read (some v) = some value) :
    ∃ found, value = some found ∧ read v = some found := by
  unfold optional at h
  split at h
  · next impossible => cases impossible
  · next null =>
    cases null
    exact absurd rfl notNull
  · next same =>
    cases same
    obtain ⟨found, read_value, same⟩ := Option.map_eq_some_iff.mp h
    exact ⟨found, same.symm, read_value⟩

theorem read_of_lenient {default : α} {v : Json} {value : α} (notNull : v ≠ .null)
    (h : lenient default read (some v) = some value) : read v = some value := by
  unfold lenient at h
  split at h
  · next impossible => cases impossible
  · next null =>
    cases null
    exact absurd rfl notNull
  · next same =>
    cases same
    exact h

end Json

open Json

variable {v v' new : Json}

/-! ### Fields of workloads -/

/-- Reads an object that has metadata and a wish. -/
def readTyped {σ ω : Type} (type : TypeMeta) (readSpec : Read σ) (make : Metadata → Option σ → ω) :
    Read ω := fun v => do
  let _ ← v.fields?
  guard (type.admits v)
  let metadata ← lenient {} Metadata.ofJson? (v.get? "metadata")
  let spec ← Json.optional readSpec (v.get? "spec")
  return make metadata spec

/-- An object is read if it is one of its type, and its metadata and its wish can be read. -/
theorem readTyped_eq_some_iff {σ ω : Type} {type : TypeMeta} {readSpec : Read σ}
    {make : Metadata → Option σ → ω} {object : ω} :
    readTyped type readSpec make v = some object ↔
      (∃ fields, v.fields? = some fields) ∧ type.admits v = true ∧ ∃ metadata spec,
        lenient {} Metadata.ofJson? (v.get? "metadata") = some metadata ∧
        Json.optional readSpec (v.get? "spec") = some spec ∧ make metadata spec = object := by
  constructor
  · intro read
    obtain ⟨fields, isObject, read⟩ := Option.bind_eq_some_iff.mp read
    obtain ⟨_, admitted, read⟩ := Option.bind_eq_some_iff.mp read
    obtain ⟨metadata, hmetadata, read⟩ := Option.bind_eq_some_iff.mp read
    obtain ⟨spec, hspec, made⟩ := Option.bind_eq_some_iff.mp read
    refine ⟨⟨fields, isObject⟩, ?_, metadata, spec, hmetadata, hspec, Option.some.inj made⟩
    by_cases admits : type.admits v = true
    · exact admits
    · cases (if_neg admits).symm.trans admitted
  · rintro ⟨⟨fields, isObject⟩, admits, metadata, spec, hmetadata, hspec, rfl⟩
    exact Option.bind_eq_some_iff.mpr ⟨fields, isObject, Option.bind_eq_some_iff.mpr ⟨(),
      if_pos admits, Option.bind_eq_some_iff.mpr ⟨metadata, hmetadata,
        Option.bind_eq_some_iff.mpr ⟨spec, hspec, rfl⟩⟩⟩⟩

theorem Pod.ofJson?_eq_some_iff {p : Pod} :
    Pod.ofJson? v = some p ↔ (∃ fields, v.fields? = some fields) ∧ Pod.type.admits v = true ∧
      lenient {} Metadata.ofJson? (v.get? "metadata") = some p.metadata ∧
      Json.optional PodSpec.ofJson? (v.get? "spec") = some p.spec := by
  rw [show Pod.ofJson? v = readTyped Pod.type PodSpec.ofJson? Pod.mk v from rfl,
    readTyped_eq_some_iff]
  constructor
  · rintro ⟨object, admits, metadata, spec, hmetadata, hspec, rfl⟩
    exact ⟨object, admits, hmetadata, hspec⟩
  · rintro ⟨object, admits, hmetadata, hspec⟩
    exact ⟨object, admits, _, _, hmetadata, hspec, rfl⟩

theorem Deployment.ofJson?_eq_some_iff {d : Deployment} :
    Deployment.ofJson? v = some d ↔
      (∃ fields, v.fields? = some fields) ∧ Deployment.type.admits v = true ∧
      lenient {} Metadata.ofJson? (v.get? "metadata") = some d.metadata ∧
      Json.optional DeploymentSpec.ofJson? (v.get? "spec") = some d.spec := by
  rw [show Deployment.ofJson? v = readTyped Deployment.type DeploymentSpec.ofJson? Deployment.mk v
    from rfl, readTyped_eq_some_iff]
  constructor
  · rintro ⟨object, admits, metadata, spec, hmetadata, hspec, rfl⟩
    exact ⟨object, admits, hmetadata, hspec⟩
  · rintro ⟨object, admits, hmetadata, hspec⟩
    exact ⟨object, admits, _, _, hmetadata, hspec, rfl⟩

/-- The pod of a replicated workload is found on the way to it. -/
theorem DeploymentSpec.reads {spec : DeploymentSpec} {pod : PodSpec}
    (decoded : DeploymentSpec.ofJson? v = some spec) (carries : spec.template.spec = some pod) :
    (∃ fields, v.fields? = some fields) ∧ ∃ t, v.get? "template" = some t ∧
      PodTemplate.ofJson? t = some spec.template ∧ (∃ fields, t.fields? = some fields) ∧
      ∃ p, t.get? "spec" = some p ∧ PodSpec.ofJson? p = some pod := by
  unfold DeploymentSpec.ofJson? at decoded
  simp only [Option.bind_eq_bind, Option.bind_eq_some_iff] at decoded
  obtain ⟨fields, object, _, -, _, -, template, htemplate, same⟩ := decoded
  cases same
  refine ⟨⟨fields, object⟩, ?_⟩
  unfold lenient at htemplate
  split at htemplate
  · cases htemplate
    cases carries
  · cases htemplate
    cases carries
  · next t _ found =>
    refine ⟨t, found, htemplate, ?_⟩
    unfold PodTemplate.ofJson? at htemplate
    simp only [Option.bind_eq_bind, Option.bind_eq_some_iff] at htemplate
    obtain ⟨fields, object, _, -, podSpec, hpod, same⟩ := htemplate
    cases same
    dsimp only at carries
    subst carries
    obtain ⟨p, found, decoded⟩ := optional_eq_some_some hpod
    exact ⟨⟨fields, object⟩, p, found, decoded⟩

/-! ### Edited objects -/
/-- The containers of an edited pod are those that were written. -/
theorem PodSpec.ofJson?_containers {pod : PodSpec} {containers : List Container}
    (edited : Edited "containers" new v v') (decoded : PodSpec.ofJson? v = some pod)
    (read : lenient [] (readList Container.ofJson?) (some new) = some containers) :
    PodSpec.ofJson? v' = some { pod with containers } := by
  obtain ⟨fields, object⟩ := edited.isObject
  unfold PodSpec.ofJson? at decoded ⊢
  simp only [Option.bind_eq_bind, Option.bind_eq_some_iff] at decoded
  obtain ⟨_, -, _, -, volumes, hvolumes, account, haccount, secrets, hsecrets, same⟩ := decoded
  cases same
  rw [object, edited.here, edited.others "volumes" (by decide),
    edited.others "serviceAccountName" (by decide), edited.others "imagePullSecrets" (by decide),
    read, hvolumes, haccount, hsecrets]
  rfl

/-- The volumes of an edited pod are those that were written. -/
theorem PodSpec.ofJson?_volumes {pod : PodSpec} {volumes : Option (List Volume)}
    (edited : Edited "volumes" new v v') (decoded : PodSpec.ofJson? v = some pod)
    (read : optional (readList Volume.ofJson?) (some new) = some volumes) :
    PodSpec.ofJson? v' = some { pod with volumes } := by
  obtain ⟨fields, object⟩ := edited.isObject
  unfold PodSpec.ofJson? at decoded ⊢
  simp only [Option.bind_eq_bind, Option.bind_eq_some_iff] at decoded
  obtain ⟨_, -, containers, hcontainers, _, -, account, haccount, secrets, hsecrets, same⟩ :=
    decoded
  cases same
  rw [object, edited.here, edited.others "containers" (by decide),
    edited.others "serviceAccountName" (by decide), edited.others "imagePullSecrets" (by decide),
    read, hcontainers, haccount, hsecrets]
  rfl

theorem PodTemplate.ofJson?_spec {template : PodTemplate} {spec : Option PodSpec}
    (edited : Edited "spec" new v v') (decoded : PodTemplate.ofJson? v = some template)
    (read : optional PodSpec.ofJson? (some new) = some spec) :
    PodTemplate.ofJson? v' = some { template with spec } := by
  obtain ⟨fields, object⟩ := edited.isObject
  unfold PodTemplate.ofJson? at decoded ⊢
  simp only [Option.bind_eq_bind, Option.bind_eq_some_iff] at decoded
  obtain ⟨_, -, metadata, hmetadata, _, -, same⟩ := decoded
  cases same
  rw [object, edited.here, edited.others "metadata" (by decide), read, hmetadata]
  rfl

theorem DeploymentSpec.ofJson?_template {spec : DeploymentSpec} {template : PodTemplate}
    (edited : Edited "template" new v v') (decoded : DeploymentSpec.ofJson? v = some spec)
    (read : lenient .empty PodTemplate.ofJson? (some new) = some template) :
    DeploymentSpec.ofJson? v' = some { spec with template } := by
  obtain ⟨fields, object⟩ := edited.isObject
  unfold DeploymentSpec.ofJson? at decoded ⊢
  simp only [Option.bind_eq_bind, Option.bind_eq_some_iff] at decoded
  obtain ⟨_, -, replicas, hreplicas, labels, hlabels, _, -, same⟩ := decoded
  cases same
  rw [object, edited.here, edited.others "replicas" (by decide),
    edited.others "selector" (by decide), read, hreplicas, hlabels]
  rfl

/-- The type of an object is not touched by edits of other fields. -/
theorem TypeMeta.admits_edited {type : TypeMeta} {key : String} (edited : Edited key new v v')
    (noVersion : "apiVersion" ≠ key) (noKind : "kind" ≠ key) : type.admits v' = type.admits v := by
  unfold TypeMeta.admits
  rw [edited.others _ noVersion, edited.others _ noKind]

theorem Deployment.ofJson?_spec {d : Deployment} {spec : Option DeploymentSpec}
    (edited : Edited "spec" new v v') (decoded : Deployment.ofJson? v = some d)
    (read : optional DeploymentSpec.ofJson? (some new) = some spec) :
    Deployment.ofJson? v' = some { d with spec } := by
  obtain ⟨-, admits, hmetadata, -⟩ := Deployment.ofJson?_eq_some_iff.mp decoded
  refine Deployment.ofJson?_eq_some_iff.mpr ⟨edited.isObject, ?_, ?_, ?_⟩
  · rw [TypeMeta.admits_edited edited (by decide) (by decide), admits]
  · rw [edited.others "metadata" (by decide), hmetadata]
  · rw [edited.here, read]

theorem Deployment.ofJson?_metadata {d : Deployment} {metadata : Metadata}
    (edited : Edited "metadata" new v v') (decoded : Deployment.ofJson? v = some d)
    (read : lenient {} Metadata.ofJson? (some new) = some metadata) :
    Deployment.ofJson? v' = some { d with metadata } := by
  obtain ⟨-, admits, -, hspec⟩ := Deployment.ofJson?_eq_some_iff.mp decoded
  refine Deployment.ofJson?_eq_some_iff.mpr ⟨edited.isObject, ?_, ?_, ?_⟩
  · rw [TypeMeta.admits_edited edited (by decide) (by decide), admits]
  · rw [edited.here, read]
  · rw [edited.others "spec" (by decide), hspec]

theorem Pod.ofJson?_spec {p : Pod} {spec : Option PodSpec} (edited : Edited "spec" new v v')
    (decoded : Pod.ofJson? v = some p) (read : optional PodSpec.ofJson? (some new) = some spec) :
    Pod.ofJson? v' = some { p with spec } := by
  obtain ⟨-, admits, hmetadata, -⟩ := Pod.ofJson?_eq_some_iff.mp decoded
  refine Pod.ofJson?_eq_some_iff.mpr ⟨edited.isObject, ?_, ?_, ?_⟩
  · rw [TypeMeta.admits_edited edited (by decide) (by decide), admits]
  · rw [edited.others "metadata" (by decide), hmetadata]
  · rw [edited.here, read]

theorem Pod.ofJson?_metadata {p : Pod} {metadata : Metadata}
    (edited : Edited "metadata" new v v') (decoded : Pod.ofJson? v = some p)
    (read : lenient {} Metadata.ofJson? (some new) = some metadata) :
    Pod.ofJson? v' = some { p with metadata } := by
  obtain ⟨-, admits, -, hspec⟩ := Pod.ofJson?_eq_some_iff.mp decoded
  refine Pod.ofJson?_eq_some_iff.mpr ⟨edited.isObject, ?_, ?_, ?_⟩
  · rw [TypeMeta.admits_edited edited (by decide) (by decide), admits]
  · rw [edited.here, read]
  · rw [edited.others "spec" (by decide), hspec]

/-- The annotations of edited metadata are those that were written. -/
theorem Metadata.ofJson?_annotations {m : Metadata} {annotations : Option TextMap}
    (edited : Edited "annotations" new v v') (decoded : Metadata.ofJson? v = some m)
    (read : optional readTextMap (some new) = some annotations) :
    Metadata.ofJson? v' = some { m with annotations } := by
  obtain ⟨fields, object⟩ := edited.isObject
  unfold Metadata.ofJson? at decoded ⊢
  simp only [Option.bind_eq_bind, Option.bind_eq_some_iff] at decoded
  obtain ⟨_, -, name, hname, generateName, hgenerateName, ns, hns, uid, huid, version, hversion,
    generation, hgeneration, labels, hlabels, _, -, owners, howners, same⟩ := decoded
  cases same
  rw [object, edited.here, edited.others "name" (by decide),
    edited.others "generateName" (by decide), edited.others "namespace" (by decide),
    edited.others "uid" (by decide), edited.others "resourceVersion" (by decide),
    edited.others "generation" (by decide), edited.others "labels" (by decide),
    edited.others "ownerReferences" (by decide), hname, hgenerateName, hns, huid, hversion,
    hgeneration, hlabels, read, howners]
  rfl

/-- The annotations that are read stand in the metadata. -/
theorem Metadata.annotations_of_ofJson? {v : Json} {m : Metadata} {a : TextMap}
    (read : Metadata.ofJson? v = some m) (annotated : m.annotations = some a) :
    (∃ fields, v.fields? = some fields) ∧
      ∃ found, v.get? "annotations" = some found ∧ readTextMap found = some a := by
  unfold Metadata.ofJson? at read
  simp only [Option.bind_eq_bind, Option.bind_eq_some_iff] at read
  obtain ⟨fields, isObject, _, -, _, -, _, -, _, -, _, -, _, -, _, -, annotations, hannotations,
    _, -, same⟩ := read
  cases same
  cases annotated
  exact ⟨⟨fields, isObject⟩, optional_eq_some_some hannotations⟩

end GatewayOperator
