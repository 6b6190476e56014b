import GatewayOperator.Proofs.Secrecy.Programs
import GatewayOperator.Resolution

/-!
# Resolving does not tell secrets

Secrets decide which header values are sent, whether a client is registered, and how that is done.
What is made of the answers does not depend on their values.

## Main Statements

* `Registration.ensureClient_alike` — a registration behaves like itself.
* `resolve_alike` — so does the resolution of a configuration.

## Design Notes

Each part behaves like itself for any two secrets of the same outline.  A branch on a secret asks
whether an entry is there, and that is seen from its outline.
-/

namespace GatewayOperator

/-- A secret is read with a secret of the same outline. -/
theorem Attempt.alike_getSecret (ns name : String) :
    Attempt.Alike Secret.Alike (Attempt.ofStore (Program.query (.getSecret ns name)))
      (Attempt.ofStore (Program.query (.getSecret ns name))) :=
  .ofStore (.getSecret fun _ _ same => .done same)

/-! ### Layers -/

/-- The value of a header is there or not, whatever it is. -/
theorem WebHeader.resolve_alike (ns : String) (header : WebHeader) :
    Attempt.Alike (fun _ _ => True) (header.resolve ns) (header.resolve ns) := by
  cases header with
  | literal name value => exact .pure trivial
  | secret name secretName key =>
    refine (Attempt.alike_getSecret ns secretName).bind fun secret secret' alike => ?_
    have same := alike.value? key
    cases found : secret.value? key with
    | some value =>
      rw [found] at same
      obtain ⟨value', found', -⟩ := Option.map_eq_some_iff.mp same.symm
      rw [found']
      exact .pure trivial
    | none =>
      rw [found] at same
      rw [Option.map_eq_none_iff.mp same.symm]
      exact .throw _

theorem Source.configMapLayer_alike (ns name key : String) :
    Attempt.Alike Eq (configMapLayer ns name key) (configMapLayer ns name key) := by
  refine Attempt.alike_of_asks ?_
  refine Attempt.asks_bind (Attempt.asks_ofStore (Program.asks_query trivial)) fun found => ?_
  split
  · exact Attempt.asks_ofExcept _
  · exact Attempt.asks_throw _

theorem Source.webLayer_alike (ns url : String) (headers : List WebHeader) :
    Attempt.Alike Eq (webLayer ns url headers) (webLayer ns url headers) := by
  refine (Attempt.Alike.mapM (WebHeader.resolve_alike ns) headers).bind fun sent sent' _ => ?_
  refine Attempt.Alike.bind_eq (.fetch rfl) fun response => ?_
  split
  · exact Attempt.Alike.bind_eq (.throw _) fun _ => .ofExcept _
  · exact .ofExcept _

theorem Source.layer?_alike (ns : String) (source : Source) :
    Attempt.Alike Eq (source.layer? ns) (source.layer? ns) := by
  have found (layer layer' : Document) (same : layer = layer') : some layer = some layer' :=
    congrArg some same
  cases source with
  | literal value => exact (Attempt.Alike.ofExcept _).map found
  | configMap name key => exact (configMapLayer_alike ns name key).map found
  | web url headers => exact (webLayer_alike ns url headers).map found
  | registration r => exact .pure rfl

theorem resolveLayers_alike (ns : String) (sources : List Source) (document : Document) :
    Attempt.Alike Eq (resolveLayers ns sources document) (resolveLayers ns sources document) := by
  induction sources generalizing document with
  | nil => exact .pure rfl
  | cons source rest ih =>
    refine (source.layer?_alike ns).bind_eq fun layer => ?_
    cases layer with
    | some layer => exact ih _
    | none => exact ih _

/-! ### Registrations -/

namespace Registration

variable {provider : ProviderDescription} {c c' : Credential}

theorem discover_alike (r : Registration) (insecureTls insecureTls' : Bool) :
    Attempt.Alike Eq (r.discover insecureTls) (r.discover insecureTls') := by
  refine Attempt.Alike.bind_eq (.fetch rfl) fun response => ?_
  exact .ofExcept _

/-- Whether a token can be asked for does not depend on the name and the password for that. -/
theorem tokenClient_alike (alike : c.Alike c') :
    Attempt.Alike (fun _ _ => True) (Attempt.ofExcept (tokenClient c))
      (Attempt.ofExcept (tokenClient c')) := by
  have ids := alike.tokenClientId
  have passwords := alike.tokenClientSecret
  unfold tokenClient
  rw [alike.secretName]
  generalize c.tokenClientId = id at ids
  generalize c'.tokenClientId = id' at ids
  generalize c.tokenClientSecret = password at passwords
  generalize c'.tokenClientSecret = password' at passwords
  cases id with
  | none =>
    rw [Option.not_isSome_iff_eq_none.mp (Bool.eq_false_iff.mp ids.symm)]
    exact .throw _
  | some id =>
    obtain ⟨id', rfl⟩ := Option.isSome_iff_exists.mp ids.symm
    cases password with
    | none =>
      rw [Option.not_isSome_iff_eq_none.mp (Bool.eq_false_iff.mp passwords.symm)]
      exact .throw _
    | some password =>
      obtain ⟨password', rfl⟩ := Option.isSome_iff_exists.mp passwords.symm
      exact .pure trivial

/-- There is a token or not, whoever asks for it. -/
theorem acquireToken_alike (r : Registration) (provider : ProviderDescription)
    (alike : c.Alike c') :
    Attempt.Alike Eq (r.acquireToken provider c) (r.acquireToken provider c') := by
  refine (Attempt.Alike.ofExcept _).bind_eq fun endpoint => ?_
  refine (tokenClient_alike alike).bind fun client client' _ => ?_
  refine Attempt.Alike.bind_eq (.fetch rfl) fun response => ?_
  refine (Attempt.Alike.ofExcept _).bind_eq fun answer => ?_
  split
  · exact .pure rfl
  · exact .throw _

/-- Who registers may be another one. -/
theorem authorize_alike (r : Registration) (provider : ProviderDescription) (alike : c.Alike c') :
    Attempt.Alike (fun _ _ => True) (r.authorize provider c) (r.authorize provider c') := by
  have same := alike.authorized
  unfold authorize
  cases given : c.authorization? with
  | some authorization =>
    rw [given] at same
    obtain ⟨authorization', given'⟩ := Option.isSome_iff_exists.mp same.symm
    rw [given']
    exact .pure trivial
  | none =>
    rw [given] at same
    rw [Option.not_isSome_iff_eq_none.mp (Bool.eq_false_iff.mp same.symm)]
    -- That no token is given is no failure, so nothing is asked of the two outcomes.
    refine Program.Alike.bind (r.acquireToken_alike provider alike) fun token token' _ => ?_
    cases token <;> cases token' <;> exact .done (.ok trivial)

theorem register_alike (r : Registration) (endpoint : String)
    (authorization authorization' : Option Authorization) (insecureTls insecureTls' : Bool) :
    Attempt.Alike Eq (r.register endpoint authorization insecureTls)
      (r.register endpoint authorization' insecureTls') := by
  refine Attempt.Alike.bind_eq (.fetch rfl) fun response => ?_
  refine (Attempt.Alike.ofExcept _).bind_eq fun answer => ?_
  split
  · exact .pure rfl
  · exact .throw _

/-- A registration behaves like itself. -/
theorem ensureClient_alike (r : Registration) (ns : String) :
    Attempt.Alike Eq (r.ensureClient ns) (r.ensureClient ns) := by
  refine (Attempt.alike_getSecret ns r.secretName).bind fun secret secret' alike => ?_
  have credentials := alike.credential r.secretName
  dsimp only
  -- Whether there is a client is seen from the outline, so both go the same way from here.
  rw [credentials.registered]
  split
  · exact .pure rfl
  refine (r.discover_alike _ _).bind_eq fun provider => ?_
  refine (Attempt.Alike.ofExcept _).bind_eq fun endpoint => ?_
  refine (r.authorize_alike provider credentials).bind fun _ _ _ => ?_
  refine (r.register_alike endpoint _ _ _ _).bind_eq fun client => ?_
  have writing : Attempt.Alike (SameOutcome Secret.Alike)
      (ExceptT.lift (Program.query (.replaceSecret ns (secretWithClient secret client))))
      (ExceptT.lift (Program.query (.replaceSecret ns (secretWithClient secret' client)))) :=
    .lift (.replaceSecret (alike.secretWithClient client) fun _ _ same => .done same)
  refine writing.bind fun _ _ same => ?_
  cases same with
  | ok => exact Attempt.Alike.bind_eq (.lift (.ask trivial fun _ => .done rfl)) fun _ => .pure rfl
  | error cause => exact .throw _

end Registration

/-! ### Resolving -/

theorem resolveIdentity_alike (ns : String) (registration : Option Registration)
    (document : Document) :
    Attempt.Alike Eq (resolveIdentity ns registration document)
      (resolveIdentity ns registration document) := by
  cases registration with
  | none => exact .pure rfl
  | some r => exact (r.ensureClient_alike ns).bind fun _ _ _ => .pure rfl

/-- The resolution of a configuration behaves like itself. -/
theorem resolve_alike (ns : String) (sources : List Source) :
    Attempt.Alike Eq (resolve ns sources) (resolve ns sources) := by
  have all : Attempt.Alike Eq (resolveAll ns sources) (resolveAll ns sources) := by
    refine (Attempt.Alike.ofExcept _).bind fun _ _ _ => ?_
    refine (resolveLayers_alike ns sources .empty).bind_eq fun document => ?_
    exact resolveIdentity_alike ns _ document
  refine Program.Alike.bind all fun outcome _ same => ?_
  cases same.eq
  exact .ask trivial fun _ => .done same

end GatewayOperator
