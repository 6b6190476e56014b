import GatewayOperator.Proofs.Resolution
import GatewayOperator.Proofs.Rollout.FailedPasses
import GatewayOperator.Proofs.Text.Trimming
import GatewayOperator.Rollout.Watch
import Mathlib.Data.List.Basic

/-!
# Which gateways depend on a config map

When a config map changes, the operator looks again at the gateways whose configuration names it.
It compares the names as they are written, whereas a name loses the blanks at its ends before a
source is made of it.  This module says for which names the two agree.

## Main Definitions

* `Gateway.reads` — whether one of the sources of a gateway is a config map.
* `Gateway.Consults` — a resolution of a gateway's configuration asks for a config map.
* `Gateway.Spells` — a gateway's configuration writes the name of a config map as it is read.

## Main Statements

* `Gateway.Consults.reads` — a resolution asks for no other config maps than the sources'.
* `gatewaysReferringTo_iff` — the gateways that are looked at again are those that read the config
  map exactly where all of them write its name as it is read.
* `padded_gateway_not_told` — a blank behind a name keeps a gateway from being looked at again.
-/

namespace GatewayOperator

/-! ### The config maps of some entries -/

section

variable {α β ε : Type}

/-- What some value of a list is found to be, the item that it was made of was found to be. -/
theorem exists_of_mapM_ok {f : α → Except ε β} {p : α → Prop} {q : β → Prop}
    (agree : ∀ {a b}, f a = .ok b → (q b ↔ p a)) {items : List α} {values : List β}
    (mapped : items.mapM f = .ok values) : (∃ b ∈ values, q b) ↔ ∃ a ∈ items, p a := by
  obtain ⟨pairs, rfl, rfl, each⟩ := mapM_eq_ok_iff.mp mapped
  simp only [List.mem_map, exists_exists_and_eq_and]
  exact exists_congr fun pair => and_congr_right fun mem => agree (each pair mem)

/-- Two conditions select the same members of a list only if they agree on all of them. -/
theorem filter_eq_filter_iff {p q : α → Bool} {items : List α} :
    items.filter p = items.filter q ↔ ∀ a ∈ items, p a = q a := by
  refine ⟨fun same a mem => ?_, List.filter_congr⟩
  have selected : a ∈ items.filter p ↔ a ∈ items.filter q := by rw [same]
  rw [List.mem_filter, List.mem_filter, and_iff_right mem, and_iff_right mem] at selected
  exact Bool.eq_iff_iff.mpr selected

end

namespace Source

variable {entry : ConfigurationEntry} {entries : List ConfigurationEntry} {source : Source}
  {sources : List Source} {name : String}

theorem required_eq_ok_iff {value : Option String} {field text : String} {kind : SourceKind} :
    required value field kind = .ok text ↔ value.map Text.trim = some text ∧ text ≠ "" := by
  unfold required
  rw [← Text.bind_nonEmpty?_eq_some_iff]
  cases (value.map Text.trim).bind Text.nonEmpty? with
  | none => simp
  | some found => simp

/-- The source of an entry reads the config map that the entry names, without the blanks at the ends
of the name. -/
theorem configMapName?_of_ofEntry (converted : ofEntry entry = .ok source) :
    source.configMapName? = some name ↔
      entry.kind = .configMap ∧ entry.name.map Text.trim = some name := by
  unfold ofEntry at converted
  cases kind : entry.kind with
  | configMap =>
    rw [kind] at converted
    obtain ⟨text, named, converted⟩ := bind_eq_ok_iff.mp converted
    obtain ⟨key, -, converted⟩ := bind_eq_ok_iff.mp converted
    cases converted
    rw [(required_eq_ok_iff.mp named).1, and_iff_right rfl]
    rfl
  | literal =>
    rw [kind] at converted
    cases value : entry.value with
    | none =>
      rw [value] at converted
      cases converted
    | some text =>
      rw [value] at converted
      cases converted
      simp [configMapName?]
  | web =>
    rw [kind] at converted
    obtain ⟨url, -, converted⟩ := bind_eq_ok_iff.mp converted
    obtain ⟨headers, -, converted⟩ := bind_eq_ok_iff.mp converted
    cases converted
    simp [configMapName?]
  | oidcRegistration =>
    rw [kind] at converted
    obtain ⟨endpoint, -, converted⟩ := bind_eq_ok_iff.mp converted
    obtain ⟨secret, -, converted⟩ := bind_eq_ok_iff.mp converted
    obtain ⟨fields, -, converted⟩ := bind_eq_ok_iff.mp converted
    cases converted
    simp [configMapName?]

/-- Some source reads a config map if and only if an entry names it, but for blanks. -/
theorem exists_configMapName?_iff (sourced : ofEntries entries = .ok sources) :
    (∃ source ∈ sources, source.configMapName? = some name) ↔
      ∃ entry ∈ entries, entry.kind = .configMap ∧ entry.name.map Text.trim = some name :=
  exists_of_mapM_ok configMapName?_of_ofEntry (ofEntries_eq_ok_iff.mp sourced).1

end Source

theorem ConfigurationEntry.namesConfigMap_iff {entry : ConfigurationEntry} {name : String} :
    entry.namesConfigMap name = true ↔ entry.kind = .configMap ∧ entry.name = some name := by
  unfold namesConfigMap
  rw [Bool.and_eq_true, decide_eq_true_iff, decide_eq_true_iff]

/-! ### The config maps of a gateway -/

/-- The questions that ask for no other config maps than those of some sources. -/
def Query.ReadsAmong (ns : String) (sources : List Source) : Query → Prop
  | .getConfigMap ns' name => ns' = ns ∧ ∃ source ∈ sources, source.configMapName? = some name
  | _ => True

/-- Resolving asks for no other config maps than those of its sources. -/
theorem resolve_readsAmong (ns : String) (sources : List Source) :
    (resolve ns sources).run.Asks (Query.ReadsAmong ns sources) := by
  refine resolve_asks_of (fun _ _ => trivial) (fun _ _ => trivial) (fun _ => trivial)
    (fun _ => trivial) ?_
  exact fun source mem name reads => ⟨rfl, source, mem, reads⟩

namespace Gateway

variable {g : Gateway} {ns : Option String} {name : String} {sources : List Source}

/-- Whether one of the sources of a gateway is a config map of a namespace. -/
def reads (g : Gateway) (ns : Option String) (name : String) : Bool :=
  g.metadata.namespace_ = ns &&
    match Source.ofEntries g.spec.configuration with
    | .ok sources => sources.any (·.configMapName? = some name)
    | .error _ => false

/-- The configuration of a gateway writes the name of a config map as it is read. -/
structure Spells (g : Gateway) (name : String) : Prop where
  /-- Where the name is read, it is also written without blanks at its ends. -/
  written : ∀ entry ∈ g.spec.configuration, entry.kind = .configMap →
    entry.name.map Text.trim = some name →
      ∃ exact ∈ g.spec.configuration, exact.namesConfigMap name = true
  /-- Where the name is written, it has no blanks at its ends. -/
  read : ∀ entry ∈ g.spec.configuration, entry.namesConfigMap name = true → Text.trim name = name

instance (g : Gateway) (name : String) : Decidable (g.Spells name) :=
  decidable_of_iff
    ((∀ entry ∈ g.spec.configuration, entry.kind = .configMap →
        entry.name.map Text.trim = some name →
          ∃ exact ∈ g.spec.configuration, exact.namesConfigMap name = true) ∧
      ∀ entry ∈ g.spec.configuration, entry.namesConfigMap name = true → Text.trim name = name)
    ⟨fun ⟨written, read⟩ => ⟨written, read⟩, fun ⟨written, read⟩ => ⟨written, read⟩⟩

theorem reads_iff (sourced : Source.ofEntries g.spec.configuration = .ok sources) :
    g.reads ns name = true ↔ g.metadata.namespace_ = ns ∧
      ∃ source ∈ sources, source.configMapName? = some name := by
  unfold reads
  rw [sourced, Bool.and_eq_true, decide_eq_true_iff, List.any_eq_true]
  simp only [decide_eq_true_iff]

theorem refersTo_iff :
    g.refersTo ns name = true ↔ g.metadata.namespace_ = ns ∧
      ∃ entry ∈ g.spec.configuration, entry.namesConfigMap name = true := by
  unfold refersTo
  rw [Bool.and_eq_true, decide_eq_true_iff, List.any_eq_true]

/-- A gateway names a config map and reads it alike exactly where it writes its name as it is
read. -/
theorem refersTo_eq_reads_iff (sourced : Source.ofEntries g.spec.configuration = .ok sources) :
    g.refersTo ns name = g.reads ns name ↔ (g.metadata.namespace_ = ns → g.Spells name) := by
  rw [Bool.eq_iff_iff, refersTo_iff, reads_iff sourced, Source.exists_configMapName?_iff sourced,
    and_congr_right_iff]
  refine imp_congr_right fun _ => ?_
  constructor
  · intro same
    constructor
    · exact fun entry mem kind read => same.mpr ⟨entry, mem, kind, read⟩
    · intro entry mem exact
      obtain ⟨other, -, -, read⟩ := same.mp ⟨entry, mem, exact⟩
      obtain ⟨text, -, rfl⟩ := Option.map_eq_some_iff.mp read
      exact Text.trim_trim text
  · intro spells
    constructor
    · rintro ⟨entry, mem, exact⟩
      obtain ⟨kind, named⟩ := ConfigurationEntry.namesConfigMap_iff.mp exact
      refine ⟨entry, mem, kind, ?_⟩
      rw [named, Option.map_some, spells.read entry mem exact]
    · rintro ⟨entry, mem, kind, read⟩
      exact spells.written entry mem kind read

/-- Resolving the configuration of a gateway may ask for a config map. -/
def Consults {σ : Type} (answers : Responder σ) (g : Gateway) (ns name : String) : Prop :=
  ∃ sources s t r s' answer, Source.ofEntries g.spec.configuration = .ok sources ∧
    (resolve g.namespaceText sources).run.Yields answers s t r s' ∧
    ⟨.getConfigMap ns name, answer⟩ ∈ t

/-- A config map that a resolution asks for is in the gateway's namespace, and one of the sources
reads it. -/
theorem Consults.reads {σ : Type} {answers : Responder σ} {ns : String}
    (consults : g.Consults answers ns name) :
    ns = g.namespaceText ∧ g.reads g.metadata.namespace_ name = true := by
  obtain ⟨sources, s, t, r, s', answer, sourced, run, asked⟩ := consults
  have among : Query.ReadsAmong g.namespaceText sources (.getConfigMap ns name) :=
    run.asked (resolve_readsAmong _ _) _ asked
  exact ⟨among.1, (reads_iff sourced).mpr ⟨rfl, among.2⟩⟩

end Gateway

/-! ### The gateways that are looked at again -/

variable {gateways : List Gateway} {c : ConfigMap} {name : String}

theorem gatewaysReferringTo_of_named (named : c.metadata.name = some name) :
    gatewaysReferringTo gateways c =
      gateways.filter (·.refersTo c.metadata.namespace_ name) := by
  unfold gatewaysReferringTo
  rw [named]

/-- **A config map's gateways are looked at again exactly if they write its name as it is read.**
Where the sources of all gateways are complete, a change of a config map is a matter of those
gateways that read it, in their order, if and only if no gateway of its namespace writes its name
with blanks at its ends only.  Then whatever config map a gateway's resolution asks for, the gateway
is looked at again when that changes. -/
theorem gatewaysReferringTo_iff (named : c.metadata.name = some name)
    (complete : ∀ g ∈ gateways, ∃ sources, Source.ofEntries g.spec.configuration = .ok sources) :
    (gatewaysReferringTo gateways c = gateways.filter (·.reads c.metadata.namespace_ name) ↔
      ∀ g ∈ gateways, g.metadata.namespace_ = c.metadata.namespace_ → g.Spells name) ∧
    ((∀ g ∈ gateways, g.metadata.namespace_ = c.metadata.namespace_ → g.Spells name) →
      ∀ g ∈ gateways, g.metadata.namespace_ = c.metadata.namespace_ →
        ∀ (σ : Type) (answers : Responder σ), g.Consults answers g.namespaceText name →
          g ∈ (Watch.tell (.configMap c) (.running gateways)).2) := by
  have agree : gatewaysReferringTo gateways c =
      gateways.filter (·.reads c.metadata.namespace_ name) ↔
        ∀ g ∈ gateways, g.metadata.namespace_ = c.metadata.namespace_ → g.Spells name := by
    rw [gatewaysReferringTo_of_named named, filter_eq_filter_iff]
    refine forall₂_congr fun g mem => ?_
    obtain ⟨sources, sourced⟩ := complete g mem
    exact Gateway.refersTo_eq_reads_iff sourced
  refine ⟨agree, fun spells g mem here σ answers consults => ?_⟩
  have told : (Watch.tell (.configMap c) (.running gateways)).2 =
      gateways.filter (·.reads c.metadata.namespace_ name) := agree.mpr spells
  rw [told, List.mem_filter, ← here]
  exact ⟨mem, consults.reads.2⟩

/-- A gateway with one config map in its configuration. -/
def gatewayNaming (configMap : String) : Gateway :=
  { bareGateway with
    spec := { bareGateway.spec with
      configuration :=
        [{ ConfigurationEntry.bare .configMap with
           name := some configMap, dataKey := some "config.yaml" }] } }

/-- A config map without data. -/
def baseConfigMap : ConfigMap where
  metadata := { name := some "base", namespace_ := some "apps" }
  data := none

/-- Of two gateways the one that names the config map is looked at again. -/
theorem base_told_to_its_gateway :
    (∀ g ∈ [gatewayNaming "base", gatewayNaming "other"],
        ∃ sources, Source.ofEntries g.spec.configuration = .ok sources) ∧
      (∀ g ∈ [gatewayNaming "base", gatewayNaming "other"], g.Spells "base") ∧
      gatewaysReferringTo [gatewayNaming "base", gatewayNaming "other"] baseConfigMap =
        [gatewayNaming "base"] := by
  have complete : ∀ g ∈ [gatewayNaming "base", gatewayNaming "other"],
      ∃ sources, Source.ofEntries g.spec.configuration = .ok sources := by
    have base : Source.ofEntries (gatewayNaming "base").spec.configuration =
        .ok [.configMap "base" "config.yaml"] := by decide +kernel
    have other : Source.ofEntries (gatewayNaming "other").spec.configuration =
        .ok [.configMap "other" "config.yaml"] := by decide +kernel
    simp [base, other]
  have spells : ∀ g ∈ [gatewayNaming "base", gatewayNaming "other"], g.Spells "base" := by
    decide +kernel
  refine ⟨complete, spells, ?_⟩
  rw [(gatewaysReferringTo_iff (c := baseConfigMap) rfl complete).1.mpr fun g mem _ => spells g mem]
  decide +kernel

/-- A gateway that names a config map with a blank behind it reads the config map, but is not looked
at again when it changes. -/
theorem padded_gateway_not_told :
    (∃ sources, Source.ofEntries (gatewayNaming "base ").spec.configuration = .ok sources) ∧
      (gatewayNaming "base ").Consults (World.platform { cluster := {} }).Answers "apps" "base" ∧
      gatewaysReferringTo [gatewayNaming "base "] baseConfigMap ≠
        [gatewayNaming "base "].filter (·.reads (some "apps") "base") ∧
      gatewaysReferringTo [gatewayNaming "base "] baseConfigMap = [] := by
  have sourced : Source.ofEntries (gatewayNaming "base ").spec.configuration =
      .ok [.configMap "base" "config.yaml"] := by decide +kernel
  have run := World.yields_transcript { cluster := {} }
    (resolve "apps" [.configMap "base" "config.yaml"]).run
  refine ⟨⟨_, sourced⟩, ⟨_, _, _, _, _, _, sourced, run, List.mem_cons_self⟩, ?_, ?_⟩
  · decide +kernel
  · decide +kernel

end GatewayOperator
