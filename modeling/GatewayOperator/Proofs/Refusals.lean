import GatewayOperator.Proofs.Injection.Atomicity
import GatewayOperator.Proofs.Rollout.FailedPasses

/-!
# Refused inputs

Some failures say that an input was refused.  They are built in many places: where an object, its
settings, an entry or a list of sources is looked at, but also where a token is asked for, a
container is made or a patch is written.  Only the first of these can end a pass or a review, and
they come before anything is sent or written.

## Main Definitions

* `Query.Touches` — the questions that send something or change an object.
* `Program.Results` — every result of a program satisfies a condition, whatever the answers.
* `Attempt.Accepts` — an attempt that never refuses its input.
* `Attempt.RefusesAtOnce` — an attempt that refuses its input before it asks anything, or never.

## Main Statements

* `Registration.authorize_accepts` — that no token can be asked for is no refusal.
* `resolve_accepts` — sources that were looked at are never refused later on.
* `refused_untouched` — a refused input has touched nothing.

## Design Notes

Nothing is assumed of who answers: the conditions are read off the programs, so they hold for every
state of the cluster and for every call that is carried out, refused or lost.
-/

namespace GatewayOperator

/-- The questions that send a request, or make, write over or remove an object. -/
def Query.Touches : Query → Prop
  | .createConfigMap .. | .replaceConfigMap .. | .deleteConfigMap .. | .replaceSecret ..
  | .createService .. | .deleteService .. | .createDeployment .. | .replaceDeployment ..
  | .fetch _ => True
  | _ => False

theorem Query.Reporting.not_touches {q : Query} (h : q.Reporting) : ¬q.Touches := by
  cases q <;> first | exact id | exact h.elim

/-! ### The results of a program -/

namespace Program

variable {α β σ : Type} {answers : Responder σ} {p : α → Prop} {p' : β → Prop}

/-- Every result of a program satisfies a condition, whatever the answers are. -/
def Results (p : α → Prop) : Program α → Prop
  | .done result => p result
  | .ask _ cont => ∀ answer, (cont answer).Results p

/-- What follows decides on the results, whatever comes first. -/
theorem results_bind {first : Program α} {next : α → Program β}
    (hnext : ∀ a, (next a).Results p') : (first >>= next).Results p' := by
  induction first with
  | done result => exact hnext result
  | ask q cont ih => exact ih

theorem Results.bind {first : Program α} {next : α → Program β} (hfirst : first.Results p)
    (hnext : ∀ a, p a → (next a).Results p') : (first >>= next).Results p' := by
  induction first with
  | done result => exact hnext result hfirst
  | ask q cont ih => exact fun answer => ih answer (hfirst answer)

/-- The result of a run is one of the results of the program. -/
theorem Yields.result {program : Program α} {s s' : σ} {t : Transcript} {a : α}
    (run : program.Yields answers s t a s') (h : program.Results p) : p a := by
  induction program generalizing s t with
  | done result =>
    obtain ⟨-, rfl, -⟩ := run
    exact h
  | ask q cont ih =>
    obtain ⟨answer, mid, rest, -, -, run⟩ := run
    exact ih answer run (h answer)

end Program

/-! ### Attempts that refuse nothing -/

/-- The failures that refuse an input. -/
def Failure.Refuses : Failure → Prop
  | .validation _ => True
  | _ => False

/-- What the cluster does not carry out is no refused input. -/
theorem Failure.not_refuses_ofStore (cause : StoreError) : ¬(Failure.ofStore cause).Refuses := by
  cases cause <;> exact id

/-- A result that is no refused input. -/
def Accepted {α : Type} (result : Except Failure α) : Prop :=
  ∀ e, result = .error e → ¬e.Refuses

theorem accepted_ok {α : Type} (a : α) : Accepted (.ok a : Except Failure α) :=
  fun _ impossible => nomatch impossible

theorem accepted_error {α : Type} {e : Failure} (h : ¬e.Refuses) :
    Accepted (.error e : Except Failure α) := by
  rintro _ ⟨⟩
  exact h

namespace Attempt

variable {α β σ : Type} {answers : Responder σ} {s s' : σ} {t : Transcript} {x : Attempt α}
  {next : α → Attempt β}

/-- An attempt never refuses its input, whatever the answers are. -/
def Accepts (x : Attempt α) : Prop := x.run.Results Accepted

theorem accepts_pure (a : α) : (pure a : Attempt α).Accepts := accepted_ok a

theorem accepts_throw {e : Failure} (h : ¬e.Refuses) : (throw e : Attempt α).Accepts :=
  accepted_error h

theorem accepts_ofExcept {result : Except Failure α} (h : Accepted result) :
    (ofExcept result).Accepts :=
  h

theorem accepts_bind (hx : x.Accepts) (hnext : ∀ a, (next a).Accepts) : (x >>= next).Accepts := by
  unfold Accepts
  rw [ExceptT.run_bind]
  refine Program.Results.bind hx fun r accepted => ?_
  cases r with
  | error e => exact accepted_error (accepted e rfl)
  | ok a => exact hnext a

theorem accepts_map {f : α → β} (hx : x.Accepts) : (f <$> x).Accepts := by
  rw [map_eq_pure_bind]
  exact accepts_bind hx fun a => accepts_pure (f a)

/-- A program that is no attempt does not fail. -/
theorem accepts_lift (q : Program α) : Accepts (ExceptT.lift q : Attempt α) := by
  unfold Accepts
  rw [ExceptT.run_lift, map_eq_pure_bind]
  exact Program.results_bind accepted_ok

theorem accepts_ofStore (q : Program (Except StoreError α)) : (ofStore q).Accepts := by
  refine Program.results_bind fun r => ?_
  cases r with
  | ok a => exact accepted_ok a
  | error cause => exact accepted_error (Failure.not_refuses_ofStore cause)

theorem accepts_found (q : Program (Except StoreError α)) : (found q).Accepts := by
  refine Program.results_bind fun r => ?_
  cases r with
  | ok a => exact accepted_ok _
  | error cause =>
    cases cause with
    | notFound kind name => exact accepted_ok _
    | rejected operation kind name reason => exact accepted_error id
    | api operation kind name => exact accepted_error id

theorem accepts_fetch (request : HttpRequest) : (fetch request).Accepts := by
  refine Program.results_bind fun r => ?_
  cases r with
  | ok response => exact accepted_ok _
  | error reason => exact accepted_error id

theorem accepts_mapM {f : α → Attempt β} (h : ∀ a, (f a).Accepts) (items : List α) :
    (items.mapM f).Accepts := by
  induction items with
  | nil => exact accepts_pure []
  | cons item rest ih =>
    rw [List.mapM_cons]
    exact accepts_bind (h item) fun b => accepts_bind ih fun bs => accepts_pure (b :: bs)

/-- What is cleaned up after fails as before. -/
theorem accepts_orCleanUp (hx : x.Accepts) (cleanUp : Program Unit) :
    (x.orCleanUp cleanUp).Accepts := by
  refine Program.Results.bind hx fun r accepted => ?_
  cases r with
  | ok a => exact accepted_ok a
  | error e =>
    exact Program.results_bind fun _ => accepted_error (accepted e rfl)

/-- A run of an attempt that refuses nothing does not end with a refusal. -/
theorem Accepts.not_refused (hx : x.Accepts) {e : Failure}
    (run : x.run.Yields answers s t (.error e) s') : ¬e.Refuses :=
  run.result hx e rfl

/-! ### Attempts that refuse at once -/

/-- An attempt refuses its input before it asks anything, or never. -/
def RefusesAtOnce (x : Attempt α) : Prop := x.Accepts ∨ ∃ result, x = ofExcept result

theorem refusesAtOnce_pure (a : α) : (pure a : Attempt α).RefusesAtOnce := Or.inl (accepts_pure a)

/-- What is looked at before anything is asked may refuse. -/
theorem refusesAtOnce_ofExcept_bind {check : Except Failure α}
    (hnext : ∀ a, check = .ok a → (next a).RefusesAtOnce) :
    (ofExcept check >>= next).RefusesAtOnce := by
  cases check with
  | error e => exact Or.inr ⟨.error e, rfl⟩
  | ok a => exact hnext a rfl

/-- Where the input is refused, nothing was asked. -/
theorem RefusesAtOnce.unasked (hx : x.RefusesAtOnce) {e : Failure} (refuses : e.Refuses)
    (run : x.run.Yields answers s t (.error e) s') : t = [] := by
  rcases hx with accepts | ⟨result, rfl⟩
  · exact absurd refuses (accepts.not_refused run)
  · exact run.1

end Attempt

/-! ### Resolving a configuration -/

/-- A text that is no layer of configuration is no refused input. -/
theorem accepted_parse (origin text : String) : Accepted (Document.parse origin text) := by
  unfold Document.parse
  split
  · exact accepted_error id
  · split
    · exact accepted_ok _
    · exact accepted_ok _
    · exact accepted_error id
    · exact accepted_error id

/-- An answer that cannot be read is no refused input. -/
theorem accepted_readAnswer {α : Type} (read : Json.Read α) (url : String)
    (response : HttpResponse) : Accepted (readAnswer read url response) := by
  unfold readAnswer
  split
  · exact accepted_error id
  · split
    · exact accepted_error id
    · split
      · exact accepted_ok _
      · exact accepted_error id

theorem WebHeader.resolve_accepts (ns : String) (header : WebHeader) :
    (header.resolve ns).Accepts := by
  cases header with
  | literal name value => exact Attempt.accepts_pure _
  | secret name secretName key =>
    refine Attempt.accepts_bind (Attempt.accepts_ofStore _) fun secret => ?_
    split
    · exact Attempt.accepts_pure _
    · exact Attempt.accepts_throw id

theorem Source.layer?_accepts (ns : String) (source : Source) : (source.layer? ns).Accepts := by
  cases source with
  | literal value => exact Attempt.accepts_map (Attempt.accepts_ofExcept (accepted_parse _ _))
  | configMap name key =>
    refine Attempt.accepts_map (Attempt.accepts_bind (Attempt.accepts_ofStore _) fun found => ?_)
    split
    · exact Attempt.accepts_ofExcept (accepted_parse _ _)
    · exact Attempt.accepts_throw id
  | web url headers =>
    refine Attempt.accepts_map ?_
    refine Attempt.accepts_bind (Attempt.accepts_mapM (WebHeader.resolve_accepts ns) headers)
      fun _ => ?_
    refine Attempt.accepts_bind (Attempt.accepts_fetch _) fun response => ?_
    have parsed := Attempt.accepts_ofExcept (accepted_parse (describeWeb url) response.body)
    dsimp only
    split
    · exact Attempt.accepts_bind (Attempt.accepts_throw id) fun _ => parsed
    · exact parsed
  | registration r => exact Attempt.accepts_pure _

theorem resolveLayers_accepts (ns : String) (sources : List Source) (document : Document) :
    (resolveLayers ns sources document).Accepts := by
  induction sources generalizing document with
  | nil => exact Attempt.accepts_pure _
  | cons source rest ih =>
    refine Attempt.accepts_bind (source.layer?_accepts ns) fun layer => ?_
    cases layer with
    | some layer => exact ih _
    | none => exact ih _

namespace Registration

theorem discover_accepts (r : Registration) (insecureTls : Bool) :
    (r.discover insecureTls).Accepts :=
  Attempt.accepts_bind (Attempt.accepts_fetch _) fun _ =>
    Attempt.accepts_ofExcept (accepted_readAnswer _ _ _)

theorem accepted_registrationEndpoint (r : Registration) (provider : ProviderDescription) :
    Accepted (r.registrationEndpoint provider) := by
  unfold registrationEndpoint
  split
  · exact accepted_ok _
  · exact accepted_error id

/-- Where no token can be asked for, one is done without: that is no refusal. -/
theorem authorize_accepts (r : Registration) (provider : ProviderDescription) (c : Credential) :
    (r.authorize provider c).Accepts := by
  unfold authorize
  split
  · exact Attempt.accepts_pure _
  · refine Program.results_bind fun r => ?_
    cases r with
    | ok token => exact accepted_ok _
    | error e => exact accepted_ok _

theorem register_accepts (r : Registration) (endpoint : String)
    (authorization : Option Authorization) (insecureTls : Bool) :
    (r.register endpoint authorization insecureTls).Accepts := by
  refine Attempt.accepts_bind (Attempt.accepts_fetch _) fun response => ?_
  refine Attempt.accepts_bind (Attempt.accepts_ofExcept (accepted_readAnswer _ _ _)) fun _ => ?_
  split
  · exact Attempt.accepts_pure _
  · exact Attempt.accepts_throw id

theorem ensureClient_accepts (r : Registration) (ns : String) : (r.ensureClient ns).Accepts := by
  refine Attempt.accepts_bind (Attempt.accepts_ofStore _) fun secret => ?_
  dsimp only
  split
  · exact Attempt.accepts_pure _
  · refine Attempt.accepts_bind (r.discover_accepts _) fun provider => ?_
    have endpoint := Attempt.accepts_ofExcept (r.accepted_registrationEndpoint provider)
    refine Attempt.accepts_bind endpoint fun endpoint => ?_
    refine Attempt.accepts_bind (r.authorize_accepts provider _) fun authorization => ?_
    refine Attempt.accepts_bind (r.register_accepts endpoint authorization _) fun client => ?_
    refine Attempt.accepts_bind (Attempt.accepts_lift _) fun stored => ?_
    cases stored with
    | ok object =>
      exact Attempt.accepts_bind (Attempt.accepts_lift _) fun _ => Attempt.accepts_pure _
    | error cause => exact Attempt.accepts_throw id

end Registration

theorem resolveIdentity_accepts (ns : String) (registration : Option Registration)
    (document : Document) : (resolveIdentity ns registration document).Accepts := by
  cases registration with
  | none => exact Attempt.accepts_pure _
  | some r => exact Attempt.accepts_bind (r.ensureClient_accepts ns) fun _ => Attempt.accepts_pure _

/-- Sources that were looked at are never refused later on. -/
theorem resolve_accepts {entries : List ConfigurationEntry} {sources : List Source}
    (sourced : Source.ofEntries entries = .ok sources) (ns : String) :
    (resolve ns sources).Accepts := by
  refine Program.Results.bind (p := Accepted) ?_ fun result accepted => ?_
  · have valid := Attempt.accepts_ofExcept
      ((Source.ofEntries_eq_ok_iff.mp sourced).2.symm ▸ accepted_ok ())
    refine Attempt.accepts_bind valid fun _ => ?_
    refine Attempt.accepts_bind (resolveLayers_accepts ns sources .empty) fun document => ?_
    exact resolveIdentity_accepts ns _ document
  · exact Program.results_bind fun _ => accepted

/-! ### Passes -/

namespace Gateway

theorem ensureConfigMap_accepts (g : Gateway) (live : Option Deployment) (document : String) :
    (g.ensureConfigMap live document).Accepts := by
  have finding : (g.findConfigMap live).Accepts := by
    unfold findConfigMap
    split
    · exact Attempt.accepts_found _
    · exact Attempt.accepts_pure _
  refine Attempt.accepts_bind finding fun existing => ?_
  cases existing with
  | none => exact Attempt.accepts_bind (Attempt.accepts_ofStore _) fun _ => Attempt.accepts_pure _
  | some existing =>
    show (g.refreshConfigMap existing document).Accepts
    unfold refreshConfigMap
    dsimp only
    split
    · exact Attempt.accepts_pure _
    · exact Attempt.accepts_bind (Attempt.accepts_ofStore _) fun _ => Attempt.accepts_pure _

theorem createWorkload_accepts (g : Gateway) (desired : DesiredWorkload)
    (configMap : GeneratedConfigMap) : (g.createWorkload desired configMap).Accepts := by
  refine Program.results_bind fun r => ?_
  cases r with
  | ok object => exact accepted_ok _
  | error cause =>
    have refused := accepted_error (α := Unit) (Failure.not_refuses_ofStore cause)
    dsimp only
    split
    · exact Program.results_bind fun _ => refused
    · exact refused

theorem converge_accepts (g : Gateway) (resyncSeconds : Nat) (desired : DesiredWorkload)
    (configMap : GeneratedConfigMap) (live : Option Deployment) :
    (g.converge resyncSeconds desired configMap live).Accepts := by
  unfold converge
  split
  · refine Attempt.accepts_bind (g.createWorkload_accepts desired configMap) fun _ => ?_
    exact Attempt.accepts_bind (Attempt.accepts_lift _) fun _ => Attempt.accepts_pure _
  · exact Attempt.accepts_bind (Attempt.accepts_ofStore _) fun _ => Attempt.accepts_pure _
  · refine Attempt.accepts_bind (Attempt.accepts_ofStore _) fun _ => ?_
    exact Attempt.accepts_bind (Attempt.accepts_lift _) fun _ => Attempt.accepts_pure _
  · exact Attempt.accepts_bind (Attempt.accepts_lift _) fun _ => Attempt.accepts_pure _

theorem conclude_accepts (g : Gateway) (configMap : GeneratedConfigMap) (step : Step) :
    (g.conclude configMap step).Accepts :=
  Attempt.accepts_bind (Attempt.accepts_lift _) fun _ =>
    Attempt.accepts_bind (Attempt.accepts_ofStore _) fun _ => Attempt.accepts_pure _

/-- Once the workload is looked up, a pass refuses its configuration at once. -/
theorem refusesAtOnce_rest (g : Gateway) (resyncSeconds : Nat) (live : Option Deployment) :
    Attempt.RefusesAtOnce (do
      let sources ← Attempt.ofExcept (Source.ofEntries g.spec.configuration)
      let document ← resolve g.namespaceText sources
      g.apply resyncSeconds live document) := by
  refine Attempt.refusesAtOnce_ofExcept_bind fun sources sourced => Or.inl ?_
  refine Attempt.accepts_bind (resolve_accepts sourced g.namespaceText) fun document => ?_
  refine Attempt.accepts_bind (g.ensureConfigMap_accepts live _) fun configMap => ?_
  refine Attempt.accepts_bind (g.converge_accepts _ _ _ _) fun step => ?_
  exact g.conclude_accepts configMap step

end Gateway

variable {σ : Type} {answers : Responder σ} {s s' : σ} {t : Transcript} {e : Failure}

/-- Where a pass is refused, it has looked up the workload and nothing else. -/
theorem rollOut_refused {g : Gateway} {resyncSeconds : Nat} (refuses : e.Refuses)
    (run : (g.rollOut resyncSeconds).run.Yields answers s t (.error e) s') :
    ∀ x ∈ t, x.query = .getDeployment g.namespaceText g.name := by
  rw [Gateway.rollOut_eq] at run
  rcases Attempt.yields_bind.mp run with ⟨_, ⟨⟩, failed⟩ | ⟨live, _, _, _, looking, rest, rfl⟩
  · exact absurd refuses ((Attempt.accepts_found _).not_refused failed)
  · rw [(g.refusesAtOnce_rest resyncSeconds live).unasked refuses rest, List.append_nil]
    exact looking.asked (p := (· = .getDeployment g.namespaceText g.name))
      (Attempt.asks_found (Program.asks_query rfl))

/-- Where a pass is refused, it has looked up the workload and reported, and nothing else. -/
theorem reconcile_refused {g : Gateway} {resyncSeconds : Nat} {ledger ledger' : FailureLedger}
    (refuses : e.Refuses)
    (run : (g.reconcile resyncSeconds ledger).Yields answers s t (.error e, ledger') s') :
    ∀ x ∈ t, x.query = .getDeployment g.namespaceText g.name ∨ x.query.Reporting := by
  have counted {m : Measurement} {s s' : σ} {t : Transcript}
      (run : (Program.query (.measure m)).Yields answers s t () s') :
      ∀ x ∈ t, x.query.Reporting :=
    run.asked (Program.asks_query trivial)
  obtain ⟨_, _, _, _, counting, run₁, rfl⟩ := Program.yields_bind.mp run
  obtain ⟨r, _, _, _, rolling, run₂, rfl⟩ := Program.yields_bind.mp run₁
  obtain ⟨_, _, _, _, timing, run₃, rfl⟩ := Program.yields_bind.mp run₂
  cases r with
  | ok requeue => cases run₃.2.1
  | error e' =>
    obtain ⟨_, _, _, _, reporting, ⟨rfl, same, rfl⟩, rfl⟩ := Program.yields_bind.mp run₃
    cases same
    have reported := reporting.asked
      ((reportFailure_asks g e).mono fun _ => Query.ReportingFailure.reporting)
    intro x mem
    simp only [List.mem_append, List.append_nil] at mem
    rcases mem with mem | mem | mem | mem
    · exact Or.inr (counted counting x mem)
    · exact Or.inl (rollOut_refused refuses rolling x mem)
    · exact Or.inr (counted timing x mem)
    · exact Or.inr (reported x mem)

/-! ### Reviews -/

variable {kind : WorkloadKind} {name ns : String} {target : AdmittedObject} {previous : TextMap}

theorem makeServiceIf_accepts (names : SidecarNames) (ns : String) (port : Option String) :
    (makeServiceIf names ns port).Accepts := by
  cases port with
  | none => exact Attempt.accepts_pure _
  | some port =>
    exact Attempt.accepts_map
      (Attempt.accepts_bind (Attempt.accepts_ofStore _) fun _ => Attempt.accepts_pure _)

theorem makeConfigMap_accepts {entries : List ConfigurationEntry} {sources : List Source}
    (sourced : Source.ofEntries entries = .ok sources) (names : SidecarNames) (ns : String) :
    (makeConfigMap names ns sources).Accepts :=
  Attempt.accepts_bind (resolve_accepts sourced ns) fun _ =>
    Attempt.accepts_bind (Attempt.accepts_ofStore _) fun _ => Attempt.accepts_pure _

/-- An injection refuses its settings at once; the patch of settings that were looked at is never
refused. -/
theorem inject_refusesAtOnce (kind : WorkloadKind) (name ns : String) (target : AdmittedObject) :
    (inject kind name ns target).RefusesAtOnce := by
  rw [inject_eq]
  refine Attempt.refusesAtOnce_ofExcept_bind fun entries valid => ?_
  refine Attempt.refusesAtOnce_ofExcept_bind fun sources sourced => Or.inl ?_
  refine Attempt.accepts_bind (makeServiceIf_accepts _ _ _) fun service => ?_
  have making := makeConfigMap_accepts sourced (SidecarNames.ofWorkload name kind) ns
  refine Attempt.accepts_bind (Attempt.accepts_orCleanUp making _) fun configMap => ?_
  obtain ⟨patch, patched⟩ :=
    createPatch_of_validate valid kind (SidecarNames.ofWorkload name kind) service configMap
  have patching := Attempt.accepts_ofExcept (patched.symm ▸ accepted_ok patch)
  exact Attempt.accepts_bind (Attempt.accepts_orCleanUp patching _) fun _ => Attempt.accepts_pure _

/-- A renewal refuses the changed settings at once. -/
theorem refresh_refusesAtOnce (kind : WorkloadKind) (name ns : String) (target : AdmittedObject)
    (previous : TextMap) : (refresh kind name ns target previous).RefusesAtOnce := by
  rw [refresh_eq]
  refine Attempt.refusesAtOnce_ofExcept_bind fun entries valid => ?_
  refine Attempt.refusesAtOnce_ofExcept_bind fun sources sourced => Or.inl ?_
  refine Attempt.accepts_bind (makeServiceIf_accepts _ _ _) fun service => ?_
  have making {needed : Bool} {cleanUp : Program Unit} :
      (makeConfigMapIf needed (SidecarNames.ofWorkload name kind) ns sources cleanUp).Accepts := by
    cases needed with
    | false => exact Attempt.accepts_pure _
    | true =>
      exact Attempt.accepts_map (Attempt.accepts_orCleanUp (makeConfigMap_accepts sourced _ ns) _)
  refine Attempt.accepts_bind making fun configMap => ?_
  obtain ⟨container, rendered⟩ :=
    sidecarContainer_of_validate valid (SidecarNames.ofWorkload name kind)
  have patching := Attempt.accepts_ofExcept
    ((updatePatch_eq rendered kind (refreshScope kind target previous)
      (configMap.or (formerConfigMap? target previous))
      (recordedNames (refreshScope kind target previous) service configMap)).symm ▸ accepted_ok _)
  refine Attempt.accepts_bind (Attempt.accepts_orCleanUp patching _) fun patch => ?_
  refine Attempt.accepts_bind (Attempt.accepts_lift _) fun _ => ?_
  refine Attempt.accepts_bind (Attempt.accepts_lift _) fun _ => ?_
  split <;> exact Attempt.accepts_pure _

/-- A review refuses a workload before it asks anything. -/
theorem review_refusesAtOnce (request : AdmissionRequest) : (review request).RefusesAtOnce := by
  unfold review
  dsimp only
  split
  · exact Attempt.refusesAtOnce_pure _
  split
  · exact Attempt.refusesAtOnce_pure _
  split
  · unfold reviewCreate
    split
    · exact Attempt.refusesAtOnce_pure _
    · exact Attempt.refusesAtOnce_pure _
    · refine Attempt.refusesAtOnce_ofExcept_bind fun target decoded => ?_
      split
      · exact inject_refusesAtOnce _ _ _ _
      · exact Attempt.refusesAtOnce_pure _
  · unfold reviewUpdate
    split
    · refine Attempt.refusesAtOnce_ofExcept_bind fun target decoded => ?_
      refine Attempt.refusesAtOnce_ofExcept_bind fun live decodedLive => ?_
      split
      · exact refresh_refusesAtOnce _ _ _ _ _
      · exact Attempt.refusesAtOnce_pure _
    · exact Attempt.refusesAtOnce_pure _
  · exact Or.inl (Attempt.accepts_bind (Attempt.accepts_lift _) fun _ => Attempt.accepts_pure _)
  · exact Attempt.refusesAtOnce_pure _

/-- **A refused input has touched nothing.**  A pass that ends with a refused input has sent no
request and has made, written over and removed no object.  A review that ends so has asked nothing
at all. -/
theorem refused_untouched {σ : Type} (answers : Responder σ) (s : σ) (t : Transcript)
    (cause : Invalid) (s' : σ) :
    (∀ (g : Gateway) (resyncSeconds : Nat) (ledger ledger' : FailureLedger),
      (g.reconcile resyncSeconds ledger).Yields answers s t (.error (.validation cause), ledger')
        s' → ∀ x ∈ t, ¬x.query.Touches) ∧
    ∀ request : AdmissionRequest,
      (review request).run.Yields answers s t (.error (.validation cause)) s' → t = [] := by
  have refuses : (Failure.validation cause).Refuses := trivial
  constructor
  · intro g resyncSeconds ledger ledger' run x mem touches
    rcases reconcile_refused refuses run x mem with looked | reporting
    · rw [looked] at touches
      exact touches
    · exact reporting.not_touches touches
  · intro request run
    exact (review_refusesAtOnce request).unasked refuses run

/-- A gateway whose configuration could be fetched in part, but has an entry without a value. -/
def gatewayWithoutValue : Gateway :=
  { bareGateway with
    spec := { bareGateway.spec with
      configuration :=
        [{ ConfigurationEntry.bare .web with url := some "http://config.example" },
          ConfigurationEntry.bare .literal] } }

/-- The entry without a value ends a pass, and the other one is not fetched; the workload without an
image ends a review that asks nothing. -/
theorem refused_untouched_in_world :
    (∃ t s', (gatewayWithoutValue.reconcile 30 ∅).Yields worldWithService.platform.Answers
        worldWithService.cluster t (.error (.validation (.missingField .literal "value")), ∅) s' ∧
      ∀ x ∈ t, ¬x.query.Touches) ∧
    ∃ t s', (review requestWithoutImage).run.Yields worldWithService.platform.Answers
        worldWithService.cluster t (.error (.validation .noImage)) s' ∧ t = [] := by
  constructor
  · obtain ⟨t, run⟩ := worldWithService.perform_yields (gatewayWithoutValue.reconcile 30 ∅)
    have refused : (worldWithService.perform (gatewayWithoutValue.reconcile 30 ∅)).1 =
        (.error (.validation (.missingField .literal "value")), ∅) := by
      rfl
    rw [refused] at run
    exact ⟨t, _, run, (refused_untouched _ _ t _ _).1 _ _ _ _ run⟩
  · obtain ⟨t, run⟩ := worldWithService.perform_yields (review requestWithoutImage).run
    have refused : (worldWithService.perform (review requestWithoutImage).run).1 =
        .error (.validation .noImage) := by
      rfl
    rw [refused] at run
    exact ⟨t, _, run, (refused_untouched _ _ t _ _).2 _ run⟩

end GatewayOperator
