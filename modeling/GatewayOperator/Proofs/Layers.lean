import GatewayOperator.Proofs.Sources

/-!
# The order of a resolution

The sources that have a layer are read one after another, and the first one that cannot be read
ends the resolution.  Only then is the client registered, wherever its registration stands in the
list, and the identity section is written last.

## Main Definitions

* `layeredSources`, `registrationsLast` — the sources with a layer, and the registrations behind
  them.
* `ReadsLayers` — some sources are read, each to its layer.
* `ResolvesInOrder` — the ways in which a resolution may go.

## Main Statements

* `resolve_registrationsLast` — where a registration stands makes no difference.
* `resolveLayers_yields_iff` — layers are read up to the first source that cannot be read.
* `resolve_iff_resolvesInOrder` — both together, for every run of a resolution.

## Design Notes

Where a registration stands is a matter of the program itself: with the registrations moved it is
the same program.  So the questions, their order and what becomes of whoever answers them are the
same, and nothing has to be said about answers.
-/

namespace GatewayOperator

variable {σ : Type} {answers : Responder σ} {ns : String} {sources : List Source}
  {s s' mid : σ} {t t' : Transcript}

/-! ### Where a registration stands -/

/-- The sources that have a layer. -/
def layeredSources (sources : List Source) : List Source :=
  sources.filter fun source => source.registration?.isNone

/-- The sources with the registrations moved to the end. -/
def registrationsLast (sources : List Source) : List Source :=
  layeredSources sources ++ sources.filter fun source => source.registration?.isSome

theorem registration?_of_mem_layeredSources {source : Source}
    (mem : source ∈ layeredSources sources) : source.registration? = none :=
  Option.isNone_iff_eq_none.mp (List.mem_filter.mp mem).2

theorem layeredSources_registrationsLast (sources : List Source) :
    layeredSources (registrationsLast sources) = layeredSources sources := by
  simp [registrationsLast, layeredSources, List.filter_filter]

/-- Moving registrations behind other sources keeps them in their order. -/
theorem filterMap_registrationsLast (sources : List Source) :
    (registrationsLast sources).filterMap Source.registration? =
      sources.filterMap Source.registration? := by
  have moved : (layeredSources sources).filterMap Source.registration? = [] :=
    List.filterMap_eq_nil_iff.mpr fun _ => registration?_of_mem_layeredSources
  rw [registrationsLast, List.filterMap_append, moved, List.nil_append, List.filterMap_filter]
  refine congrFun (congrArg List.filterMap (funext fun source => ?_)) sources
  cases source <;> rfl

/-- A registration is passed over when layers are read. -/
theorem resolveLayers_layeredSources (ns : String) (sources : List Source) (document : Document) :
    resolveLayers ns (layeredSources sources) document = resolveLayers ns sources document := by
  induction sources generalizing document with
  | nil => rfl
  | cons source rest ih =>
    cases source with
    | registration r => exact ih document
    | _ =>
      refine congrArg (bind _) (funext fun layer => ?_)
      cases layer with
      | some layer => exact ih _
      | none => exact ih _

/-- Where a registration stands makes no difference. -/
theorem resolve_registrationsLast (ns : String) (sources : List Source) :
    resolve ns (registrationsLast sources) = resolve ns sources := by
  unfold resolve resolveAll Source.validate registrationOf?
  rw [filterMap_registrationsLast, ← resolveLayers_layeredSources,
    layeredSources_registrationsLast, resolveLayers_layeredSources]

/-! ### Reading in order -/

/-- Some sources are read one after another, each to its layer. -/
inductive ReadsLayers (answers : Responder σ) (ns : String) :
    List Source → σ → Transcript → List Document → σ → Prop
  /-- There is no source left. -/
  | done {s : σ} : ReadsLayers answers ns [] s [] [] s
  /-- The first source is read, and then the others are. -/
  | next {source : Source} {rest : List Source} {s mid s' : σ} {t t' : Transcript}
      {layer : Document} {layers : List Document}
      (read : source.Reads answers ns s t (.ok layer) mid)
      (others : ReadsLayers answers ns rest mid t' layers s') :
      ReadsLayers answers ns (source :: rest) s (t ++ t') (layer :: layers) s'

/-- The first of some sources is read, and if that succeeds the others are, its layer merged. -/
theorem resolveLayers_cons_yields_iff {source : Source} (layered : source.registration? = none)
    {document : Document} {r : Except Failure Document} :
    (resolveLayers ns (source :: sources) document).run.Yields answers s t r s' ↔
      (∃ e, source.Reads answers ns s t (.error e) s' ∧ r = .error e) ∨
      ∃ layer mid before after, source.Reads answers ns s before (.ok layer) mid ∧
        (resolveLayers ns sources (document.merge layer)).run.Yields answers mid after r s' ∧
        t = before ++ after := by
  refine Attempt.yields_bind.trans ?_
  simp only [Source.layer?_yields_iff layered]
  constructor
  · rintro (⟨e, rfl, layer, read, same⟩ | ⟨_, mid, before, after, ⟨layer, read, same⟩, rest, rfl⟩)
    · cases layer with
      | ok layer => cases same
      | error why =>
        cases same
        exact Or.inl ⟨e, read, rfl⟩
    · cases layer with
      | error why => cases same
      | ok layer =>
        cases same
        exact Or.inr ⟨layer, mid, before, after, read, rest, rfl⟩
  · rintro (⟨e, read, rfl⟩ | ⟨layer, mid, before, after, read, rest, rfl⟩)
    · exact Or.inl ⟨e, rfl, _, read, rfl⟩
    · exact Or.inr ⟨some layer, mid, before, after, ⟨_, read, rfl⟩, rest, rfl⟩

/-- Layers are read up to the first source that cannot be read, and no further; if there is none,
they are merged in order. -/
theorem resolveLayers_yields_iff (layered : ∀ source ∈ sources, source.registration? = none)
    {document : Document} {r : Except Failure Document} :
    (resolveLayers ns sources document).run.Yields answers s t r s' ↔
      (∃ before source after layers mid t₁ t₂ e, sources = before ++ source :: after ∧
        ReadsLayers answers ns before s t₁ layers mid ∧
        source.Reads answers ns mid t₂ (.error e) s' ∧
        r = .error e ∧ t = t₁ ++ t₂) ∨
      ∃ layers, ReadsLayers answers ns sources s t layers s' ∧
        r = .ok (layers.foldl Document.merge document) := by
  induction sources generalizing document s t with
  | nil =>
    constructor
    · rintro ⟨rfl, rfl, rfl⟩
      exact Or.inr ⟨[], .done, rfl⟩
    · rintro (⟨before, source, after, _, _, _, _, _, impossible, -⟩ | ⟨layers, read, rfl⟩)
      · simp at impossible
      · cases read
        exact ⟨rfl, rfl, rfl⟩
  | cons source rest ih =>
    have ih {document : Document} {s : σ} {t : Transcript} := @ih s t
      (fun source mem => layered source (List.mem_cons_of_mem _ mem)) document
    rw [resolveLayers_cons_yields_iff (layered source List.mem_cons_self)]
    constructor
    · rintro (⟨e, failed, rfl⟩ | ⟨layer, mid, t₁, t₂, read, others, rfl⟩)
      · exact Or.inl ⟨[], source, rest, [], s, [], t, e, rfl, .done, failed, rfl, rfl⟩
      · rcases ih.mp others with
          ⟨before, source', after, layers, mid', t₃, t₄, e, rfl, reads, failed, rfl, rfl⟩ |
          ⟨layers, reads, rfl⟩
        · exact Or.inl ⟨source :: before, source', after, layer :: layers, mid', t₁ ++ t₃, t₄, e,
            rfl, .next read reads, failed, rfl, (List.append_assoc _ _ _).symm⟩
        · exact Or.inr ⟨layer :: layers, .next read reads, rfl⟩
    · rintro (⟨before, source', after, layers, mid, t₁, t₂, e, split, reads, failed, rfl, rfl⟩ |
        ⟨layers, reads, rfl⟩)
      · cases reads with
        | done =>
          cases split
          exact Or.inl ⟨e, failed, rfl⟩
        | next read others =>
          cases split
          refine Or.inr ⟨_, _, _, _, read, ih.mpr (Or.inl ?_), List.append_assoc _ _ _⟩
          exact ⟨_, source', after, _, _, _, _, e, rfl, others, failed, rfl, rfl⟩
      · cases reads with
        | next read others => exact Or.inr ⟨_, _, _, _, read, ih.mpr (Or.inr ⟨_, others, rfl⟩), rfl⟩

/-! ### Resolving in order -/

/-- The ways in which a resolution may go, up to its being counted. -/
inductive ResolvesInOrder (answers : Responder σ) (ns : String) (sources : List Source) (s : σ) :
    Transcript → Except Failure Document → σ → Prop
  /-- A source cannot be read: no later one is looked at, and no client is registered. -/
  | unread {before after : List Source} {source : Source} {layers : List Document} {mid s' : σ}
      {t t' : Transcript} {e : Failure}
      (split : layeredSources sources = before ++ source :: after)
      (read : ReadsLayers answers ns before s t layers mid)
      (failed : source.Reads answers ns mid t' (.error e) s') :
      ResolvesInOrder answers ns sources s (t ++ t') (.error e) s'
  /-- All sources are read, and there is no registration. -/
  | plain {layers : List Document} {s' : σ} {t : Transcript}
      (none : sources.filterMap Source.registration? = [])
      (read : ReadsLayers answers ns (layeredSources sources) s t layers s') :
      ResolvesInOrder answers ns sources s t (.ok (Document.fold layers)) s'
  /-- All sources are read, and then the client cannot be registered. -/
  | unregistered {registration : Registration} {layers : List Document} {mid s' : σ}
      {t t' : Transcript} {e : Failure}
      (one : sources.filterMap Source.registration? = [registration])
      (read : ReadsLayers answers ns (layeredSources sources) s t layers mid)
      (failed : (registration.ensureClient ns).run.Yields answers mid t' (.error e) s') :
      ResolvesInOrder answers ns sources s (t ++ t') (.error e) s'
  /-- All sources are read, then the client is registered, and the identity section is written over
  the layers. -/
  | registered {registration : Registration} {layers : List Document} {mid s' : σ}
      {t t' : Transcript} {outcome : ProvisionOutcome}
      (one : sources.filterMap Source.registration? = [registration])
      (read : ReadsLayers answers ns (layeredSources sources) s t layers mid)
      (ensured : (registration.ensureClient ns).run.Yields answers mid t' (.ok outcome) s') :
      ResolvesInOrder answers ns sources s (t ++ t')
        (.ok (registration.applyTo (Document.fold layers))) s'

/-- A list with at most one registration is valid: its layers are read, and then its registration is
seen to. -/
theorem resolveAll_of_single (single : (sources.filterMap Source.registration?).length ≤ 1) :
    resolveAll ns sources = resolveLayers ns (layeredSources sources) .empty >>=
      resolveIdentity ns (registrationOf? sources) := by
  have valid : Source.validate sources = .ok () := if_neg (Nat.not_lt.mpr single)
  unfold resolveAll
  rw [valid, resolveLayers_layeredSources]
  rfl

/-- Once all sources are read, only the registration is left. -/
theorem ReadsLayers.resolvesInOrder (single : (sources.filterMap Source.registration?).length ≤ 1)
    {layers : List Document} {mid : σ} {t' : Transcript} {r : Except Failure Document}
    (reads : ReadsLayers answers ns (layeredSources sources) s t layers mid)
    (rest : (resolveIdentity ns (registrationOf? sources) (Document.fold layers)).run.Yields
      answers mid t' r s') : ResolvesInOrder answers ns sources s (t ++ t') r s' := by
  unfold registrationOf? at rest
  cases given : sources.filterMap Source.registration? with
  | nil =>
    rw [given] at rest
    obtain ⟨rfl, rfl, rfl⟩ := rest
    rw [List.append_nil]
    exact .plain given reads
  | cons registration others =>
    obtain rfl : others = [] := by
      rw [given, List.length_cons] at single
      exact List.length_eq_zero_iff.mp (by omega)
    rw [given] at rest
    rcases Attempt.yields_bind.mp rest with
      ⟨e, rfl, failed⟩ | ⟨outcome, _, _, _, ensured, ⟨rfl, rfl, rfl⟩, rfl⟩
    · exact .unregistered given reads failed
    · rw [List.append_nil]
      exact .registered given reads ensured

/-- What is resolved in order is a run. -/
theorem ResolvesInOrder.yields {r : Except Failure Document}
    (resolves : ResolvesInOrder answers ns sources s t r s') :
    (resolveLayers ns (layeredSources sources) .empty >>=
      resolveIdentity ns (registrationOf? sources)).run.Yields answers s t r s' := by
  have layered : ∀ source ∈ layeredSources sources, source.registration? = none :=
    fun _ => registration?_of_mem_layeredSources
  have merged {layers : List Document} {mid : σ} {t : Transcript}
      (read : ReadsLayers answers ns (layeredSources sources) s t layers mid) :
      (resolveLayers ns (layeredSources sources) .empty).run.Yields answers s t
        (.ok (Document.fold layers)) mid :=
    (resolveLayers_yields_iff layered).mpr (Or.inr ⟨layers, read, rfl⟩)
  rw [Attempt.yields_bind]
  unfold registrationOf?
  cases resolves with
  | unread split read failed =>
    refine Or.inl ⟨_, rfl, (resolveLayers_yields_iff layered).mpr (Or.inl ?_)⟩
    exact ⟨_, _, _, _, _, _, _, _, split, read, failed, rfl, rfl⟩
  | plain none read =>
    refine Or.inr ⟨_, _, _, [], merged read, ?_, (List.append_nil _).symm⟩
    rw [none]
    exact ⟨rfl, rfl, rfl⟩
  | unregistered one read failed =>
    refine Or.inr ⟨_, _, _, _, merged read, ?_, rfl⟩
    rw [one]
    exact Attempt.yields_bind.mpr (Or.inl ⟨_, rfl, failed⟩)
  | registered one read ensured =>
    refine Or.inr ⟨_, _, _, _, merged read, ?_, rfl⟩
    rw [one]
    exact Attempt.yields_bind.mpr
      (Or.inr ⟨_, _, _, [], ensured, ⟨rfl, rfl, rfl⟩, (List.append_nil _).symm⟩)

/-- A list with at most one registration is read in order. -/
theorem resolveAll_yields_iff (single : (sources.filterMap Source.registration?).length ≤ 1)
    {r : Except Failure Document} :
    (resolveAll ns sources).run.Yields answers s t r s' ↔
      ResolvesInOrder answers ns sources s t r s' := by
  have layered : ∀ source ∈ layeredSources sources, source.registration? = none :=
    fun _ => registration?_of_mem_layeredSources
  rw [resolveAll_of_single single]
  constructor
  · intro run
    rcases Attempt.yields_bind.mp run with ⟨e, rfl, failed⟩ | ⟨document, mid, _, _, read, rest, rfl⟩
    · rcases (resolveLayers_yields_iff layered).mp failed with
        ⟨_, _, _, _, _, _, _, _, split, read, failed, same, rfl⟩ | ⟨_, -, impossible⟩
      · cases same
        exact .unread split read failed
      · cases impossible
    · rcases (resolveLayers_yields_iff layered).mp read with
        ⟨_, _, _, _, _, _, _, _, -, -, -, impossible, -⟩ | ⟨layers, reads, same⟩
      · cases impossible
      · cases same
        exact reads.resolvesInOrder single rest
  · exact ResolvesInOrder.yields

/-- A resolution is counted, whatever it has come to. -/
theorem resolve_yields_iff {r : Except Failure Document} :
    (resolve ns sources).run.Yields answers s t r s' ↔
      ∃ asked mid, (resolveAll ns sources).run.Yields answers s asked r mid ∧
        answers (.measure (.resolution (resolutionLabel r))) mid () s' ∧
        t = asked ++ [⟨.measure (.resolution (resolutionLabel r)), ()⟩] := by
  unfold resolve
  rw [ExceptT.run_mk, Program.yields_bind]
  constructor
  · rintro ⟨result, mid, asked, after, resolving, counting, rfl⟩
    obtain ⟨_, _, _, _, asking, ⟨rfl, rfl, rfl⟩, rfl⟩ := Program.yields_bind.mp counting
    obtain ⟨counted, rfl⟩ := Program.yields_query.mp asking
    exact ⟨asked, mid, resolving, counted, rfl⟩
  · rintro ⟨asked, mid, resolving, counted, rfl⟩
    refine ⟨r, mid, asked, _, resolving, ?_, rfl⟩
    exact Program.yields_bind.mpr
      ⟨(), s', _, [], Program.yields_query.mpr ⟨counted, rfl⟩, ⟨rfl, rfl, rfl⟩, rfl⟩

/-- **A resolution goes in order, with the registration last.**  With its registration moved to the
end a list is resolved by the same program, so the result, the questions and what becomes of whoever
answers them are the same.  Every run reads the sources with a layer in order, up to the first one
that cannot be read; only after the last one is the client registered, and the layers are merged in
order with the identity section written over them.  The result is counted and nothing else is
asked. -/
theorem resolve_iff_resolvesInOrder
    (single : (sources.filterMap Source.registration?).length ≤ 1) :
    resolve ns sources = resolve ns (registrationsLast sources) ∧
    ∀ (s : σ) (t : Transcript) (r : Except Failure Document) (s' : σ),
      (resolve ns sources).run.Yields answers s t r s' ↔
        ∃ asked mid, ResolvesInOrder answers ns sources s asked r mid ∧
          answers (.measure (.resolution (resolutionLabel r))) mid () s' ∧
          t = asked ++ [⟨.measure (.resolution (resolutionLabel r)), ()⟩] := by
  refine ⟨(resolve_registrationsLast ns sources).symm, fun s t r s' => ?_⟩
  simp only [resolve_yields_iff, resolveAll_yields_iff single]

open Yaml Recording in
/-- A text in which the notation finds one plain entry is read as the mapping with this entry. -/
theorem parse_plainEntry (text key value : String) (start between stop : Mark)
    (sound : (events text).fault = none)
    (said : (events text).events =
      [⟨.streamStart, start⟩, ⟨.documentStart, start⟩, ⟨.mappingStart ⟨none, none⟩, start⟩,
        ⟨.scalar ⟨none, none⟩ key .plain, start⟩, ⟨.scalar ⟨none, none⟩ value .plain, between⟩,
        ⟨.mappingEnd, stop⟩, ⟨.documentEnd, stop⟩, ⟨.streamEnd, stop⟩])
    (plainKey : Yaml.resolve key = some (.string key))
    (plainValue : Yaml.resolve value = some (.string value)) (origin : String) :
    Document.parse origin text = .ok (.mapping [(key, .text value)]) := by
  have key_ (tagCounts : Bool) (mark : Mark) :
      typed tagCounts none key .plain mark = .ok (.string key) := by
    simp [typed, plainKey]
  have value_ (tagCounts : Bool) (mark : Mark) :
      typed tagCounts none value .plain mark = .ok (.string value) := by
    simp [typed, plainValue]
  have read : Value.read text = .ok (.mapping
      [(.scalar (.string key), .scalar (.string value))]) := by
    unfold Value.read
    simp only [sound, said]
    simp [ofEvents, Recording.empty, record, compose, composeAt, composePairs, depthLimit, key_,
      value_, bind, Except.bind, pure, Except.pure, Value.isScalar]
  unfold Document.parse
  rw [read]
  simp [Document.ofValue?, Document.entriesOfPairs?, Assoc.insert, Document.text, Scalar.text]

/-- A platform that carries out every call, in a network that answers every request with a text. -/
def openPlatform (text : String) : Platform where
  certain _ := True
  network _ answer := answer = .ok ⟨200, text⟩
  network_total _ := ⟨_, rfl⟩

/-- A registration, and behind it a config map and an address that should be read first. -/
def sampleSources : List Source :=
  [.registration ⟨"https://idp/config", "client", []⟩, .configMap "base" "gateway.yaml",
    .web "https://conf/gateway" [.secret "X-Key" "conf" "key"]]

/-- A cluster with the config map, the secret of the header, and a client that has been
registered. -/
def sampleStore : Cluster where
  configMaps := Dict.ofList
    [(⟨"apps", "base"⟩,
      ⟨{ name := some "base" }, some (Dict.ofList [("gateway.yaml", "level: low")])⟩)]
  secrets := Dict.ofList
    [(⟨"apps", "conf"⟩,
        ⟨{ name := some "conf" }, some (Dict.ofList [("key", Bytes.ofText "sesame")]), none⟩),
      (⟨"apps", "client"⟩,
        ⟨{ name := some "client" },
          some (Dict.ofList
            [(clientIdKey, Bytes.ofText "a"), (clientSecretKey, Bytes.ofText "b")]), none⟩)]

/-- The config map of the sample sources is read. -/
theorem sampleStore_reads_base : ∃ t, t.map Answered.query = [.getConfigMap "apps" "base"] ∧
    Source.Reads (openPlatform "level: high").Answers "apps" (.configMap "base" "gateway.yaml")
      sampleStore t (.ok (.mapping [("level", .text "low")])) sampleStore := by
  have parsed := parse_plainEntry "level: low" "level" "low" ⟨0, 0, 0⟩ ⟨7, 0, 7⟩ ⟨10, 1, 0⟩
    (by decide +kernel) (by decide +kernel) (by decide +kernel) (by decide +kernel)
  refine ⟨_, rfl, .configMap (Or.inl ⟨rfl, rfl⟩) ?_⟩
  rw [← parsed]
  exact .held rfl

/-- The address of the sample sources is read, with its header. -/
theorem sampleStore_reads_address : ∃ t, t.map Answered.query =
      [.getSecret "apps" "conf",
        .fetch ⟨.get, "https://conf/gateway", [("X-Key", "sesame")], none, none, false⟩] ∧
    Source.Reads (openPlatform "level: high").Answers "apps"
      (.web "https://conf/gateway" [.secret "X-Key" "conf" "key"])
      sampleStore t (.ok (.mapping [("level", .text "high")])) sampleStore := by
  have parsed := parse_plainEntry "level: high" "level" "high" ⟨0, 0, 0⟩ ⟨7, 0, 7⟩ ⟨11, 1, 0⟩
    (by decide +kernel) (by decide +kernel) (by decide +kernel) (by decide +kernel)
  have header : WebHeader.Reads (openPlatform "level: high").Answers "apps"
      (.secret "X-Key" "conf" "key") sampleStore
      [⟨.getSecret "apps" "conf", sampleStore.secrets.fetch .secret ⟨"apps", "conf"⟩⟩]
      (.ok ("X-Key", "sesame")) sampleStore :=
    .secret (Or.inl ⟨rfl, rfl⟩) (.held (by decide +kernel))
  refine ⟨_, rfl, .web (.next header .done) (Or.inl ⟨rfl, rfl⟩) ?_⟩
  rw [← parsed]
  exact .successful (by decide)

/-- The secret of the sample registration holds a client. -/
theorem sampleStore_has_client : ∃ t, t.map Answered.query = [.getSecret "apps" "client"] ∧
    (Registration.ensureClient ⟨"https://idp/config", "client", []⟩ "apps").run.Yields
      (openPlatform "level: high").Answers sampleStore t (.ok .alreadyRegistered) sampleStore := by
  obtain ⟨secret, stored, registered⟩ :
      ∃ secret, sampleStore.secrets.fetch .secret ⟨"apps", "client"⟩ = .ok secret ∧
        (Credential.ofSecret "client" secret).isRegistered = true :=
    ⟨_, rfl, by decide +kernel⟩
  have asked : (Program.query (.getSecret "apps" "client")).Yields
      (openPlatform "level: high").Answers sampleStore
      [⟨.getSecret "apps" "client", .ok secret⟩] (.ok secret) sampleStore :=
    Program.yields_query.mpr ⟨Or.inl ⟨stored.symm, rfl⟩, rfl⟩
  refine ⟨_, rfl, Attempt.yields_ofStore_bind.mpr
    (Or.inr ⟨secret, _, _, [], asked, ?_, (List.append_nil _).symm⟩)⟩
  dsimp only
  rw [if_pos registered]
  exact ⟨rfl, rfl, rfl⟩

/-- The sample sources are resolved in order: the address is read with the header from the secret,
its layer goes over the one of the config map, and the client is looked for last.  Where there is no
config map nothing else is read. -/
theorem sampleSources_resolvesInOrder :
    (sampleSources.filterMap Source.registration?).length ≤ 1 ∧
    resolve "apps" sampleSources = resolve "apps"
      [.configMap "base" "gateway.yaml",
        .web "https://conf/gateway" [.secret "X-Key" "conf" "key"],
        .registration ⟨"https://idp/config", "client", []⟩] ∧
    (∃ t, t.map Answered.query =
        [.getConfigMap "apps" "base", .getSecret "apps" "conf",
          .fetch ⟨.get, "https://conf/gateway", [("X-Key", "sesame")], none, none, false⟩,
          .getSecret "apps" "client", .measure (.resolution "success")] ∧
      (resolve "apps" sampleSources).run.Yields (openPlatform "level: high").Answers sampleStore t
        (.ok (Registration.applyTo ⟨"https://idp/config", "client", []⟩
          (.mapping [("level", .text "high")]))) sampleStore) ∧
    ∃ t, t.map Answered.query =
        [.getConfigMap "apps" "base", .measure (.resolution "not_found")] ∧
      (resolve "apps" sampleSources).run.Yields (openPlatform "level: high").Answers {} t
        (.error (.notFound (.object .configMap "base"))) {} := by
  have single : (sampleSources.filterMap Source.registration?).length ≤ 1 := by decide
  obtain ⟨moved, inOrder⟩ := @resolve_iff_resolvesInOrder Cluster
    (openPlatform "level: high").Answers "apps" sampleSources single
  refine ⟨single, moved, ?_, ?_⟩
  · obtain ⟨t₁, asked₁, base⟩ := sampleStore_reads_base
    obtain ⟨t₂, asked₂, address⟩ := sampleStore_reads_address
    obtain ⟨t₃, asked₃, ensured⟩ := sampleStore_has_client
    have merged : Document.fold [.mapping [("level", .text "low")],
        .mapping [("level", .text "high")]] = .mapping [("level", .text "high")] := rfl
    rw [← merged]
    refine ⟨_, ?_, (inOrder _ _ _ _).mpr ⟨_, _, .registered rfl
      (.next base (.next address .done)) ensured, Or.inl rfl, rfl⟩⟩
    simp [asked₁, asked₂, asked₃, resolutionLabel]
  · have absent : Source.Reads (openPlatform "level: high").Answers "apps"
        (.configMap "base" "gateway.yaml") {}
        [⟨.getConfigMap "apps" "base", .error (.notFound .configMap "base")⟩]
        (.error (.notFound (.object .configMap "base"))) {} :=
      .configMap (Or.inl ⟨rfl, rfl⟩) .refused
    have here : layeredSources sampleSources = [] ++ .configMap "base" "gateway.yaml" ::
        [.web "https://conf/gateway" [.secret "X-Key" "conf" "key"]] := rfl
    exact ⟨_, rfl, (inOrder _ _ _ _).mpr ⟨_, _, .unread here .done absent, Or.inl rfl, rfl⟩⟩

end GatewayOperator
