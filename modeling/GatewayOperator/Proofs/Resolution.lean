import GatewayOperator.Proofs.Attempts
import GatewayOperator.Proofs.Platform

/-!
# What resolving a configuration touches

Resolving reads config maps and secrets and sends requests.  The one thing it may write is the
secret of a registration.

## Main Definitions

* `Query.ReadOnly` — the questions that change nothing.
* `Query.Resolving` — the questions that resolving a configuration may ask.
* `Cluster.SameButSecrets` — two clusters that differ at most in their secrets.

## Main Statements

* `resolve_asks` — resolving asks no other questions.
* `resolve_asks_of` — the only config maps it reads are those that the sources name.
* `resolve_sameButSecrets` — resolving leaves everything but secrets as it is, even if it fails.
* `resolve_literal` — an inline document is resolved to itself.
-/

namespace GatewayOperator

/-- The questions that change nothing: they read an object or the clock, send a request or
count. -/
def Query.ReadOnly : Query → Prop
  | .getConfigMap .. | .getSecret .. | .getDeployment .. | .fetch _ | .now | .measure _ => True
  | _ => False

/-- The questions that resolving a configuration may ask. -/
def Query.Resolving : Query → Prop
  | .getConfigMap .. | .getSecret .. | .replaceSecret .. | .fetch _ | .measure _ => True
  | _ => False

/-- Two clusters that differ at most in their secrets. -/
structure Cluster.SameButSecrets (c c' : Cluster) : Prop where
  /-- The config maps are the same. -/
  configMaps : c'.configMaps = c.configMaps
  /-- The services are the same. -/
  services : c'.services = c.services
  /-- The replicated workloads are the same. -/
  deployments : c'.deployments = c.deployments
  /-- The statuses are the same. -/
  statuses : c'.statuses = c.statuses

namespace Cluster.SameButSecrets

theorem refl (c : Cluster) : c.SameButSecrets c := ⟨rfl, rfl, rfl, rfl⟩

theorem trans {c₁ c₂ c₃ : Cluster} (h : c₁.SameButSecrets c₂) (h' : c₂.SameButSecrets c₃) :
    c₁.SameButSecrets c₃ :=
  ⟨h'.configMaps.trans h.configMaps, h'.services.trans h.services,
    h'.deployments.trans h.deployments, h'.statuses.trans h.statuses⟩

end Cluster.SameButSecrets

theorem Query.Resolving.sameButSecrets {P : Platform} {q : Query} (h : q.Resolving)
    {c c' : Cluster} {answer : q.Answer} (answered : P.Answers q c answer c') :
    c.SameButSecrets c' := by
  rcases answered with carried | ⟨-, -, n, rfl⟩
  · cases q with
    | getConfigMap | getSecret | fetch =>
      obtain ⟨-, rfl⟩ := carried
      exact .refl c'
    | replaceSecret =>
      obtain ⟨shelf, -, rfl⟩ := carried
      exact ⟨rfl, rfl, rfl, rfl⟩
    | measure =>
      obtain rfl := carried
      exact .refl _
    | _ => exact h.elim
  · exact ⟨rfl, rfl, rfl, rfl⟩

/-! ### The sources of some entries -/

/-- The sources of some entries are those of the single ones, looked at as a list. -/
theorem Source.ofEntries_eq_ok_iff {entries : List ConfigurationEntry} {sources : List Source} :
    ofEntries entries = .ok sources ↔
      entries.mapM ofEntry = .ok sources ∧ validate sources = .ok () := by
  unfold ofEntries
  constructor
  · intro sourced
    obtain ⟨found, converted, sourced⟩ := bind_eq_ok_iff.mp sourced
    obtain ⟨_, valid, sourced⟩ := bind_eq_ok_iff.mp sourced
    cases sourced
    exact ⟨converted, valid⟩
  · rintro ⟨converted, valid⟩
    exact bind_eq_ok_iff.mpr ⟨sources, converted, bind_eq_ok_iff.mpr ⟨(), valid, rfl⟩⟩

/-! ### The questions of each part -/

/-- The questions that are asked for the layers of a configuration. -/
def Query.Reading : Query → Prop
  | .getConfigMap .. | .getSecret .. | .fetch _ => True
  | _ => False

theorem Query.Reading.readOnly {q : Query} (h : q.Reading) : q.ReadOnly := by
  cases q <;> trivial

section Parts

variable {p : Query → Prop} {ns : String} (secrets : ∀ name, p (.getSecret ns name))
  (fetches : ∀ request, p (.fetch request))

include secrets

theorem WebHeader.resolve_asks_of (header : WebHeader) : (header.resolve ns).run.Asks p := by
  cases header with
  | literal name value => exact Attempt.asks_pure _
  | secret name secretName key =>
    have asked := Program.asks_query (secrets secretName)
    refine Attempt.asks_bind (Attempt.asks_ofStore asked) fun secret => ?_
    split
    · exact Attempt.asks_pure _
    · exact Attempt.asks_throw _

include fetches

/-- For a layer no other config map is asked for than the one that the source names. -/
theorem Source.layer?_asks_of (source : Source)
    (configMaps : ∀ name ∈ source.configMapName?, p (.getConfigMap ns name)) :
    (source.layer? ns).run.Asks p := by
  cases source with
  | literal value => exact Attempt.asks_map (Attempt.asks_ofExcept _)
  | configMap name key =>
    have asked := Program.asks_query (configMaps name rfl)
    refine Attempt.asks_map ?_
    refine Attempt.asks_bind (Attempt.asks_ofStore asked) fun found => ?_
    split
    · exact Attempt.asks_ofExcept _
    · exact Attempt.asks_throw _
  | web url headers =>
    refine Attempt.asks_map ?_
    refine Attempt.asks_bind (Attempt.asks_mapM (WebHeader.resolve_asks_of secrets) headers) ?_
    intro headers
    refine Attempt.asks_bind (Attempt.asks_fetch (fetches _)) fun response => ?_
    dsimp only
    split
    · exact Attempt.asks_bind (Attempt.asks_throw _) fun _ => Attempt.asks_ofExcept _
    · exact Attempt.asks_ofExcept _
  | registration r => exact Attempt.asks_pure _

theorem resolveLayers_asks_of {sources : List Source}
    (configMaps : ∀ source ∈ sources, ∀ name ∈ source.configMapName?, p (.getConfigMap ns name))
    (document : Document) : (resolveLayers ns sources document).run.Asks p := by
  induction sources generalizing document with
  | nil => exact Attempt.asks_pure _
  | cons source rest ih =>
    have later := ih fun source mem => configMaps source (List.mem_cons_of_mem _ mem)
    have first := source.layer?_asks_of secrets fetches (configMaps source List.mem_cons_self)
    refine Attempt.asks_bind first fun layer => ?_
    cases layer with
    | some layer => exact later _
    | none => exact later _

end Parts

theorem Source.layer?_asks (ns : String) (source : Source) :
    (source.layer? ns).run.Asks Query.Reading :=
  source.layer?_asks_of (fun _ => trivial) (fun _ => trivial) fun _ _ => trivial

theorem resolveLayers_asks (ns : String) (sources : List Source) (document : Document) :
    (resolveLayers ns sources document).run.Asks Query.Reading :=
  resolveLayers_asks_of (fun _ => trivial) (fun _ => trivial) (fun _ _ _ _ => trivial) document

namespace Registration

section

variable {p : Query → Prop} (fetches : ∀ request, p (.fetch request))

include fetches

theorem discover_asks (r : Registration) (insecureTls : Bool) :
    (r.discover insecureTls).run.Asks p :=
  Attempt.asks_bind (Attempt.asks_fetch (fetches _)) fun _ => Attempt.asks_ofExcept _

theorem acquireToken_asks (r : Registration) (provider : ProviderDescription) (c : Credential) :
    (r.acquireToken provider c).run.Asks p := by
  refine Attempt.asks_bind (Attempt.asks_ofExcept _) fun endpoint => ?_
  refine Attempt.asks_bind (Attempt.asks_ofExcept _) fun client => ?_
  refine Attempt.asks_bind (Attempt.asks_fetch (fetches _)) fun response => ?_
  refine Attempt.asks_bind (Attempt.asks_ofExcept _) fun answer => ?_
  split
  · exact Attempt.asks_pure _
  · exact Attempt.asks_throw _

theorem authorize_asks (r : Registration) (provider : ProviderDescription) (c : Credential) :
    (r.authorize provider c).run.Asks p := by
  unfold authorize
  split
  · exact Attempt.asks_pure _
  · refine Program.Asks.bind (r.acquireToken_asks fetches provider c) fun token => ?_
    cases token with
    | ok token => exact Program.asks_pure _
    | error failure => exact Program.asks_pure _

theorem register_asks (r : Registration) (endpoint : String)
    (authorization : Option Authorization) (insecureTls : Bool) :
    (r.register endpoint authorization insecureTls).run.Asks p := by
  refine Attempt.asks_bind (Attempt.asks_fetch (fetches _)) fun response => ?_
  refine Attempt.asks_bind (Attempt.asks_ofExcept _) fun answer => ?_
  split
  · exact Attempt.asks_pure _
  · exact Attempt.asks_throw _

theorem ensureClient_asks_of (secrets : ∀ ns name, p (.getSecret ns name))
    (stores : ∀ ns object, p (.replaceSecret ns object)) (counts : ∀ m, p (.measure m))
    (r : Registration) (ns : String) : (r.ensureClient ns).run.Asks p := by
  have asked := Program.asks_query (secrets ns r.secretName)
  refine Attempt.asks_bind (Attempt.asks_ofStore asked) fun secret => ?_
  dsimp only
  split
  · exact Attempt.asks_pure _
  · refine Attempt.asks_bind (r.discover_asks fetches _) fun provider => ?_
    refine Attempt.asks_bind (Attempt.asks_ofExcept _) fun endpoint => ?_
    refine Attempt.asks_bind (r.authorize_asks fetches provider _) fun token => ?_
    refine Attempt.asks_bind (r.register_asks fetches endpoint token _) fun client => ?_
    refine Attempt.asks_bind (Attempt.asks_lift (Program.asks_query (stores _ _))) fun stored => ?_
    cases stored with
    | ok object =>
      refine Attempt.asks_bind (Attempt.asks_lift (Program.asks_query (counts _))) fun _ => ?_
      exact Attempt.asks_pure _
    | error cause => exact Attempt.asks_throw _

end

theorem ensureClient_asks (r : Registration) (ns : String) :
    (r.ensureClient ns).run.Asks Query.Resolving :=
  ensureClient_asks_of (fun _ => trivial) (fun _ _ => trivial) (fun _ _ => trivial)
    (fun _ => trivial) r ns

end Registration

/-! ### The questions of a resolution -/

/-- Resolving asks for the config maps that the sources name and for no other ones, whatever it asks
for besides. -/
theorem resolve_asks_of {p : Query → Prop} (secrets : ∀ ns name, p (.getSecret ns name))
    (stores : ∀ ns object, p (.replaceSecret ns object)) (fetches : ∀ request, p (.fetch request))
    (counts : ∀ m, p (.measure m)) {ns : String} {sources : List Source}
    (configMaps : ∀ source ∈ sources, ∀ name ∈ source.configMapName?, p (.getConfigMap ns name)) :
    (resolve ns sources).run.Asks p := by
  refine Program.Asks.bind ?_ fun result => ?_
  · refine Attempt.asks_bind (Attempt.asks_ofExcept _) fun _ => ?_
    have layers := resolveLayers_asks_of (secrets ns) fetches configMaps .empty
    refine Attempt.asks_bind layers fun document => ?_
    cases registrationOf? sources with
    | none => exact Attempt.asks_pure _
    | some r =>
      have registers := Registration.ensureClient_asks_of fetches secrets stores counts r ns
      exact Attempt.asks_bind registers fun _ => Attempt.asks_pure _
  · exact Program.Asks.bind (Program.asks_query (counts _)) fun _ => Program.asks_pure _

/-- Resolving reads config maps and secrets, writes secrets, sends requests and counts. -/
theorem resolve_asks (ns : String) (sources : List Source) :
    (resolve ns sources).run.Asks Query.Resolving :=
  resolve_asks_of (fun _ _ => trivial) (fun _ _ => trivial) (fun _ => trivial) (fun _ => trivial)
    fun _ _ _ _ => trivial

/-- Resolving leaves everything but secrets as it is, even if it fails. -/
theorem resolve_sameButSecrets {P : Platform} {ns : String} {sources : List Source}
    {c c' : Cluster} {t : Transcript} {r : Except Failure Document}
    (run : (resolve ns sources).run.Yields P.Answers c t r c') : c.SameButSecrets c' := by
  refine run.relates (p := Query.Resolving) Cluster.SameButSecrets Cluster.SameButSecrets.refl
    Cluster.SameButSecrets.trans ?_ (resolve_asks ns sources)
  intro q resolving s answer s' answered
  exact resolving.sameButSecrets answered

/-- A run that only resolves makes nothing. -/
theorem Transcript.made_of_resolving {t : Transcript} (h : ∀ x ∈ t, x.query.Resolving) :
    t.madeServices = [] ∧ t.madeConfigMaps = [] := by
  constructor
  · refine Transcript.filterMap_eq_nil h fun q answer resolving => ?_
    cases q <;> first | rfl | exact resolving.elim
  · refine Transcript.filterMap_eq_nil h fun q answer resolving => ?_
    cases q <;> first | rfl | exact resolving.elim

/-! ### Inline documents -/

/-- An inline document is the whole configuration, whatever the cluster holds. -/
theorem resolve_literal {P : Platform} {ns value : String} {layer : Document}
    (parsed : Document.parse "literal value" value = .ok layer) {c c' : Cluster} {t : Transcript}
    {r : Except Failure Document}
    (run : (resolve ns [.literal value]).run.Yields P.Answers c t r c') :
    r = .ok (Document.empty.merge layer) := by
  obtain ⟨result, c₁, _, _, resolving, counting, -⟩ := Program.yields_bind.mp run
  obtain ⟨_, _, _, _, -, ⟨-, rfl, -⟩, -⟩ := Program.yields_bind.mp counting
  unfold resolveAll at resolving
  rcases Attempt.yields_bind.mp resolving with
    ⟨e, -, -, impossible, -⟩ | ⟨_, _, _, _, -, run₁, -⟩
  · cases impossible
  unfold resolveLayers at run₁
  have layered {r : Except Failure (Option Document)} {t : Transcript} {c c' : Cluster}
      (run : ((Source.literal value).layer? ns).run.Yields P.Answers c t r c') :
      r = .ok (some layer) := by
    obtain ⟨r', ⟨-, rfl, -⟩, rfl⟩ := Attempt.yields_map.mp run
    rw [show Source.describe (.literal value) = "literal value" from rfl, parsed]
    rfl
  rcases Attempt.yields_bind.mp run₁ with ⟨e, rfl, failed⟩ | ⟨document, _, _, _, read, run₂, -⟩
  · rcases Attempt.yields_bind.mp failed with ⟨e', -, failed⟩ | ⟨found, _, _, _, read, rest, -⟩
    · cases layered failed
    · cases layered read
      cases rest.2.1
  · rcases Attempt.yields_bind.mp read with ⟨e', -, failed⟩ | ⟨found, _, _, _, read, rest, -⟩
    · cases layered failed
    · cases layered read
      obtain ⟨-, same, -⟩ := rest
      cases same
      exact run₂.2.1

open Yaml in
/-- An empty mapping is read from a recording of its two ends. -/
theorem Yaml.Recording.compose_emptyMapping {r : Recording} {start stop : Mark}
    (items : r.items.toList = [(.mappingStart none, start), (.mappingEnd, stop)])
    (fault : r.fault = none) : r.compose = .ok (.mapping []) := by
  obtain ⟨⟨_⟩, targets, _⟩ := r
  cases items
  cases fault
  have composed : (Recording.mk #[(.mappingStart none, start), (.mappingEnd, stop)] targets
      none).composeAt depthLimit 0 0 true = .ok ⟨.mapping [], 2, 0⟩ := by
    unfold composeAt depthLimit
    dsimp only [List.getElem?_toArray, List.getElem?_cons_zero]
    unfold composePairs
    rfl
  unfold compose
  rw [composed]
  rfl

open Yaml in
/-- An empty document can be read. -/
theorem parse_emptyDocument : ∃ layer, Document.parse "literal value" "{}" = .ok layer := by
  have recorded : ∃ start stop rest, Recording.ofEvents (events "{}").fault (.empty none) []
      (events "{}").events =
        (⟨#[(.mappingStart none, start), (.mappingEnd, stop)], [], none⟩, some rest) ∧
      (Recording.ofEvents (events "{}").fault (.empty none) [] rest).2 = none :=
    ⟨_, _, _, rfl, rfl⟩
  have read : Value.read "{}" = .ok (.mapping []) := by
    obtain ⟨start, stop, rest, found, last⟩ := recorded
    unfold Value.read
    dsimp only
    rw [found]
    dsimp only
    rw [Recording.compose_emptyMapping rfl rfl, last]
    rfl
  unfold Document.parse
  rw [read]
  exact ⟨_, rfl⟩

end GatewayOperator
