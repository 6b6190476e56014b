import GatewayOperator.Proofs.Resolution

/-!
# Reading a source

Each kind of source has its own way of being read: nothing is asked for an inline document, one
question for a config map, and for an address one question for each header that stands in a secret,
and then one request.  The first thing that cannot be had ends the reading.

## Main Definitions

* `ReadsEntry`, `ReadsResponse` — what comes of looking for a text in an object, and behind an
  address.
* `WebHeader.Reads`, `ReadsHeaders` — what is asked for the headers of a request.
* `Source.Reads` — what is asked for the layer of a source, and what comes of it.

## Main Statements

* `Source.layer?_yields_iff` — a source that is no registration is read in exactly these ways.

## Design Notes

The relations say what was asked and answered, from state to state, for whoever answers.  What comes
of an answer is a relation of its own, as it depends on nothing but the answer.
-/

namespace GatewayOperator

variable {σ : Type} {answers : Responder σ} {ns : String} {s s' : σ} {t : Transcript}

/-! ### Ways of reading -/

/-- What comes of asking for an object because of one of its entries: the object is not given, it
lacks the entry, or the text of the entry is read. -/
inductive ReadsEntry {α β : Type} (lookUp? : α → Option String) (missing : Failure)
    (read : String → Except Failure β) : Except StoreError α → Except Failure β → Prop
  /-- The object is not given. -/
  | refused {why : StoreError} :
      ReadsEntry lookUp? missing read (.error why) (.error (.ofStore why))
  /-- The object lacks the entry. -/
  | lacking {object : α} (lacks : lookUp? object = none) :
      ReadsEntry lookUp? missing read (.ok object) (.error missing)
  /-- The object has the entry. -/
  | held {object : α} {text : String} (holds : lookUp? object = some text) :
      ReadsEntry lookUp? missing read (.ok object) (read text)

/-- What comes of a request for a document: there is no answer, the answer is not one of success, or
its body is read. -/
inductive ReadsResponse (url : String) : Except String HttpResponse → Except Failure Document → Prop
  /-- There is no answer. -/
  | unreachable {reason : String} :
      ReadsResponse url (.error reason) (.error (.fetch url (.unreachable reason)))
  /-- The status is outside of those of success. -/
  | unsuccessful {response : HttpResponse}
      (status : response.status < 200 ∨ 300 ≤ response.status) :
      ReadsResponse url (.ok response) (.error (.fetch url (.status response.status)))
  /-- The status is one of success. -/
  | successful {response : HttpResponse} (status : 200 ≤ response.status ∧ response.status < 300) :
      ReadsResponse url (.ok response) (Document.parse ("web source " ++ url) response.body)

/-- A header is sent as it is, or is read from an entry of a secret. -/
inductive WebHeader.Reads (answers : Responder σ) (ns : String) :
    WebHeader → σ → Transcript → Except Failure (String × String) → σ → Prop
  /-- Nothing is asked for a header that is sent as it is. -/
  | literal {name value : String} {s : σ} :
      Reads answers ns (.literal name value) s [] (.ok (name, value)) s
  /-- A header from a secret takes one question. -/
  | secret {name secretName key : String} {s s' : σ} {answer : Except StoreError Secret}
      {r : Except Failure (String × String)}
      (answered : answers (.getSecret ns secretName) s answer s')
      (entry : ReadsEntry (fun object => object.value? key)
        (.notFound (.entry .secret secretName key)) (fun value => .ok (name, value)) answer r) :
      Reads answers ns (.secret name secretName key) s [⟨.getSecret ns secretName, answer⟩] r s'

/-- Some headers are read one after another, up to the first one that cannot be read. -/
inductive ReadsHeaders (answers : Responder σ) (ns : String) :
    List WebHeader → σ → Transcript → Except Failure (List (String × String)) → σ → Prop
  /-- There is no header left. -/
  | done {s : σ} : ReadsHeaders answers ns [] s [] (.ok []) s
  /-- The first header cannot be read. -/
  | failed {header : WebHeader} {rest : List WebHeader} {s s' : σ} {t : Transcript} {e : Failure}
      (read : header.Reads answers ns s t (.error e) s') :
      ReadsHeaders answers ns (header :: rest) s t (.error e) s'
  /-- The first header is read, and then the others are. -/
  | next {header : WebHeader} {rest : List WebHeader} {s mid s' : σ} {t t' : Transcript}
      {pair : String × String} {r : Except Failure (List (String × String))}
      (read : header.Reads answers ns s t (.ok pair) mid)
      (others : ReadsHeaders answers ns rest mid t' r s') :
      ReadsHeaders answers ns (header :: rest) s (t ++ t') (r.map (pair :: ·)) s'

/-- What is asked for the layer of a source, and what comes of it. -/
inductive Source.Reads (answers : Responder σ) (ns : String) :
    Source → σ → Transcript → Except Failure Document → σ → Prop
  /-- Nothing is asked for an inline document. -/
  | literal {value : String} {s : σ} :
      Reads answers ns (.literal value) s [] (Document.parse "literal value" value) s
  /-- A config map takes one question. -/
  | configMap {name key : String} {s s' : σ} {answer : Except StoreError ConfigMap}
      {r : Except Failure Document} (answered : answers (.getConfigMap ns name) s answer s')
      (entry : ReadsEntry (fun object => object.entry? key) (.notFound (.entry .configMap name key))
        (Document.parse ("configmap " ++ name ++ "/" ++ key)) answer r) :
      Reads answers ns (.configMap name key) s [⟨.getConfigMap ns name, answer⟩] r s'
  /-- No request is sent when one of its headers cannot be read. -/
  | unsent {url : String} {headers : List WebHeader} {s s' : σ} {t : Transcript} {e : Failure}
      (read : ReadsHeaders answers ns headers s t (.error e) s') :
      Reads answers ns (.web url headers) s t (.error e) s'
  /-- Once its headers have been read, one request is sent. -/
  | web {url : String} {headers : List WebHeader} {s mid s' : σ} {t : Transcript}
      {pairs : List (String × String)} {answer : Except String HttpResponse}
      {r : Except Failure Document} (read : ReadsHeaders answers ns headers s t (.ok pairs) mid)
      (answered : answers (.fetch { method := .get, url, headers := pairs }) mid answer s')
      (response : ReadsResponse url answer r) :
      Reads answers ns (.web url headers) s
        (t ++ [⟨.fetch { method := .get, url, headers := pairs }, answer⟩]) r s'

/-! ### Runs -/

/-- An object that is asked for because of one of its entries. -/
theorem Attempt.yields_entry_iff {α β : Type} {p : Program (Except StoreError α)}
    {lookUp? : α → Option String} {missing : Failure} {read : String → Except Failure β}
    {r : Except Failure β} :
    (Attempt.ofStore p >>= fun object =>
        match lookUp? object with
        | some text => Attempt.ofExcept (read text)
        | none => throw missing).run.Yields answers s t r s' ↔
      ∃ answer, p.Yields answers s t answer s' ∧ ReadsEntry lookUp? missing read answer r := by
  rw [Attempt.yields_ofStore_bind]
  constructor
  · rintro (⟨why, asked, rfl⟩ | ⟨object, mid, before, after, asked, rest, rfl⟩)
    · exact ⟨.error why, asked, .refused⟩
    · cases stored : lookUp? object with
      | none =>
        rw [stored] at rest
        obtain ⟨rfl, rfl, rfl⟩ := rest
        exact ⟨.ok object, by rwa [List.append_nil], .lacking stored⟩
      | some text =>
        rw [stored] at rest
        obtain ⟨rfl, rfl, rfl⟩ := rest
        exact ⟨.ok object, by rwa [List.append_nil], .held stored⟩
  · rintro ⟨answer, asked, entry⟩
    cases entry with
    | refused => exact Or.inl ⟨_, asked, rfl⟩
    | lacking lacks =>
      refine Or.inr ⟨_, s', t, [], asked, ?_, (List.append_nil t).symm⟩
      rw [lacks]
      exact ⟨rfl, rfl, rfl⟩
    | held holds =>
      refine Or.inr ⟨_, s', t, [], asked, ?_, (List.append_nil t).symm⟩
      rw [holds]
      exact ⟨rfl, rfl, rfl⟩

theorem WebHeader.resolve_yields_iff {header : WebHeader} {r : Except Failure (String × String)} :
    (header.resolve ns).run.Yields answers s t r s' ↔ header.Reads answers ns s t r s' := by
  cases header with
  | literal name value =>
    constructor
    · rintro ⟨rfl, rfl, rfl⟩
      exact .literal
    · rintro ⟨⟩
      exact ⟨rfl, rfl, rfl⟩
  | secret name secretName key =>
    refine Attempt.yields_entry_iff.trans ?_
    constructor
    · rintro ⟨answer, asked, entry⟩
      obtain ⟨answered, rfl⟩ := Program.yields_query.mp asked
      exact .secret answered entry
    · intro reads
      cases reads with
      | secret answered entry => exact ⟨_, Program.yields_query.mpr ⟨answered, rfl⟩, entry⟩

theorem readsHeaders_iff {headers : List WebHeader}
    {r : Except Failure (List (String × String))} :
    (headers.mapM (WebHeader.resolve ns)).run.Yields answers s t r s' ↔
      ReadsHeaders answers ns headers s t r s' := by
  induction headers generalizing s t r with
  | nil =>
    constructor
    · rintro ⟨rfl, rfl, rfl⟩
      exact .done
    · rintro ⟨⟩
      exact ⟨rfl, rfl, rfl⟩
  | cons header rest ih =>
    have consed (pair : String × String) :
        (do return pair :: (← rest.mapM (WebHeader.resolve ns)) : Attempt _) =
          (pair :: ·) <$> rest.mapM (WebHeader.resolve ns) := (map_eq_pure_bind _ _).symm
    rw [List.mapM_cons, Attempt.yields_bind]
    simp only [consed, Attempt.yields_map, WebHeader.resolve_yields_iff, ih]
    constructor
    · rintro (⟨e, rfl, read⟩ | ⟨pair, mid, before, after, read, ⟨r, others, rfl⟩, rfl⟩)
      · exact .failed read
      · exact .next read others
    · intro reads
      cases reads with
      | failed read => exact Or.inl ⟨_, rfl, read⟩
      | next read others => exact Or.inr ⟨_, _, _, _, read, ⟨_, others, rfl⟩, rfl⟩

/-- What is made of an answer to a request for a document. -/
theorem Source.response_yields_iff {url : String} {response : HttpResponse}
    {r : Except Failure Document} :
    (do
        if !response.isSuccess then throw (.fetch url (.status response.status))
        Attempt.ofExcept (Document.parse (describeWeb url) response.body) :
          Attempt Document).run.Yields answers s t r s' ↔
      t = [] ∧ s' = s ∧ ReadsResponse url (.ok response) r := by
  cases status : response.isSuccess with
  | true =>
    have successful := HttpResponse.isSuccess_iff.mp status
    constructor
    · rintro ⟨rfl, rfl, rfl⟩
      exact ⟨rfl, rfl, .successful successful⟩
    · rintro ⟨rfl, rfl, read⟩
      cases read with
      | unsuccessful outside => omega
      | successful => exact ⟨rfl, rfl, rfl⟩
  | false =>
    have unsuccessful := mt HttpResponse.isSuccess_iff.mpr (Bool.eq_false_iff.mp status)
    constructor
    · rintro ⟨rfl, rfl, rfl⟩
      exact ⟨rfl, rfl, .unsuccessful (by omega)⟩
    · rintro ⟨rfl, rfl, read⟩
      cases read with
      | unsuccessful => exact ⟨rfl, rfl, rfl⟩
      | successful within => exact absurd within unsuccessful

/-- What is asked for the document behind an address. -/
theorem Source.webLayer_yields_iff {url : String} {headers : List WebHeader}
    {r : Except Failure Document} :
    (webLayer ns url headers).run.Yields answers s t r s' ↔
      Source.Reads answers ns (.web url headers) s t r s' := by
  unfold webLayer
  rw [Attempt.yields_bind]
  simp only [readsHeaders_iff]
  constructor
  · rintro (⟨e, rfl, failed⟩ | ⟨pairs, mid, before, after, read, rest, rfl⟩)
    · exact .unsent failed
    · rcases Attempt.yields_bind.mp rest with
        ⟨e, rfl, unsent⟩ | ⟨response, _, _, _, sent, outcome, rfl⟩
      · obtain ⟨answer, answered, rfl, same⟩ := Attempt.yields_fetch.mp unsent
        cases answer with
        | ok response => cases same
        | error reason =>
          cases same
          exact .web read answered .unreachable
      · obtain ⟨answer, answered, rfl, same⟩ := Attempt.yields_fetch.mp sent
        obtain ⟨rfl, rfl, response⟩ := response_yields_iff.mp outcome
        cases answer with
        | error reason => cases same
        | ok response =>
          cases same
          exact .web read answered response
  · intro reads
    cases reads with
    | unsent failed => exact Or.inl ⟨_, rfl, failed⟩
    | @web _ _ _ _ _ _ pairs answer _ read answered response =>
      refine Or.inr ⟨pairs, _, _, _, read, ?_, rfl⟩
      rw [Attempt.yields_bind]
      cases answer with
      | error reason =>
        cases response
        exact Or.inl ⟨_, rfl, Attempt.yields_fetch.mpr ⟨_, answered, rfl, rfl⟩⟩
      | ok body =>
        refine Or.inr ⟨body, s', _, [], Attempt.yields_fetch.mpr ⟨_, answered, rfl, rfl⟩, ?_, rfl⟩
        exact response_yields_iff.mpr ⟨rfl, rfl, response⟩

/-- A source that is no registration is read as its kind says. -/
theorem Source.layer?_yields_iff {source : Source} (layered : source.registration? = none)
    {r : Except Failure (Option Document)} :
    (source.layer? ns).run.Yields answers s t r s' ↔
      ∃ layer, source.Reads answers ns s t layer s' ∧ r = layer.map some := by
  cases source with
  | registration registration => cases layered
  | literal value =>
    refine Attempt.yields_map.trans (exists_congr fun layer => and_congr_left fun _ => ?_)
    constructor
    · rintro ⟨rfl, rfl, rfl⟩
      exact .literal
    · rintro ⟨⟩
      exact ⟨rfl, rfl, rfl⟩
  | configMap name key =>
    refine Attempt.yields_map.trans (exists_congr fun layer => and_congr_left fun _ => ?_)
    refine Attempt.yields_entry_iff.trans ?_
    constructor
    · rintro ⟨answer, asked, entry⟩
      obtain ⟨answered, rfl⟩ := Program.yields_query.mp asked
      exact .configMap answered entry
    · intro reads
      cases reads with
      | configMap answered entry => exact ⟨_, Program.yields_query.mpr ⟨answered, rfl⟩, entry⟩
  | web url headers =>
    exact Attempt.yields_map.trans
      (exists_congr fun layer => and_congr_left fun _ => webLayer_yields_iff)

/-- What is read of a source is a run of its program. -/
theorem Source.Reads.yields {source : Source} {r : Except Failure Document}
    (read : source.Reads answers ns s t r s') :
    (source.layer? ns).run.Yields answers s t (r.map some) s' := by
  have layered : source.registration? = none := by cases read <;> rfl
  exact (Source.layer?_yields_iff layered).mpr ⟨r, read, rfl⟩

end GatewayOperator
