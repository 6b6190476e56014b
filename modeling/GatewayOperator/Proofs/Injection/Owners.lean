import GatewayOperator.Proofs.Injection.Flows

/-!
# Objects and their owners

What is made for a workload is owned by it: the workload records its name.  This module says which
changes of a shelf and of what is recorded keep the two together, and which of these changes the
steps of an injection are.

## Main Definitions

* `WorkloadKey` — the kind, the namespace and the name of a workload.
* `Shelf.Owned` — what was made and is still there is what some workload records, each object by one
  workload only.
* `Shelf.Exchanged` — a shelf after an object was put on it and another one was taken away.
* `Shelf.Followed` — a shelf that changes as what one workload records.

## Main Statements

* `Shelf.Owned.keep`, `Shelf.Owned.exchange`, `Shelf.Owned.follow` — the changes that keep objects
  owned.
* `Companion.Discards.exchanged_of_insert` — making an object and discarding its predecessor is an
  exchange.
-/

namespace GatewayOperator

/-- The kind, the namespace and the name of a workload. -/
structure WorkloadKey where
  /-- The kind. -/
  kind : WorkloadKind
  /-- The namespace. -/
  namespace_ : String
  /-- The name. -/
  name : String
  deriving DecidableEq

namespace Shelf

variable {α : Type} {made made' : List ObjectKey} {shelf shelf' : Shelf α}
  {owner owner' : WorkloadKey → Option String} {w : WorkloadKey} {new former : Option String}
  {ns : String}

/-- An object of some key is there. -/
def Holds (shelf : Shelf α) (key : ObjectKey) : Prop := ∃ object, shelf.get? key = some object

/-- What was made and is still there is what some workload records, each object by one workload
only. -/
structure Owned (made : List ObjectKey) (shelf : Shelf α) (owner : WorkloadKey → Option String) :
    Prop where
  /-- What was made and is still there is what some workload records. -/
  exact : ∀ key, key ∈ made ∧ shelf.Holds key ↔
    ∃ w, w.namespace_ = key.namespace_ ∧ owner w = some key.name
  /-- No two workloads record the same object. -/
  single : ∀ w w' name, w.namespace_ = w'.namespace_ → owner w = some name →
    owner w' = some name → w = w'

/-- Nothing changes for the owners if what was made is gone again. -/
theorem Owned.keep (owned : Owned made shelf owner) {gone : List ObjectKey}
    (free : ∀ key ∈ gone, shelf.get? key = none) : Owned (made ++ gone) shelf owner := by
  refine ⟨fun key => ?_, owned.single⟩
  rw [← owned.exact key]
  constructor
  · rintro ⟨mem, object, found⟩
    rcases List.mem_append.mp mem with mem | mem
    · exact ⟨mem, object, found⟩
    · rw [free key mem] at found
      cases found
  · rintro ⟨mem, held⟩
    exact ⟨List.mem_append_left _ mem, held⟩

/-- A shelf after an object was put on it, if there is a new one, and another one was taken away, if
there was one. -/
structure Exchanged (ns : String) (new former : Option String) (gone : List ObjectKey)
    (shelf shelf' : Shelf α) : Prop where
  /-- The new name was free. -/
  free : ∀ name ∈ new, shelf.get? ⟨ns, name⟩ = none
  /-- Only the new object was made. -/
  made : ∀ key, key ∈ gone ↔ ∃ name ∈ new, key = ⟨ns, name⟩
  /-- What is there is what was there or is new, and was not taken away. -/
  held : ∀ key, shelf'.Holds key ↔
    (shelf.Holds key ∨ ∃ name ∈ new, key = ⟨ns, name⟩) ∧ ∀ name ∈ former, key ≠ ⟨ns, name⟩

/-- Objects stay owned if one workload exchanges its object for another one and records it. -/
theorem Owned.exchange (owned : Owned made shelf owner) {gone : List ObjectKey}
    (exchanged : Exchanged w.namespace_ new (owner w) gone shelf shelf')
    (recorded : owner' w = new) (others : ∀ v, v ≠ w → owner' v = owner v) :
    Owned (made ++ gone) shelf' owner' := by
  -- Nobody else records the new name, for it was free.
  have unshared {v : WorkloadKey} {name : String} (same : v.namespace_ = w.namespace_)
      (fresh : new = some name) (taken : owner v = some name) : False := by
    obtain ⟨-, object, found⟩ := (owned.exact ⟨w.namespace_, name⟩).mpr ⟨v, same, taken⟩
    rw [exchanged.free name fresh] at found
    cases found
  constructor
  · intro key
    rw [exchanged.held key, List.mem_append, exchanged.made key]
    constructor
    · rintro ⟨given, there, kept⟩
      rcases there with held | ⟨name, fresh, rfl⟩
      · rcases given with mem | ⟨name, fresh, rfl⟩
        · obtain ⟨v, same, records⟩ := (owned.exact key).mp ⟨mem, held⟩
          have different : v ≠ w := by
            rintro rfl
            refine kept key.name records ?_
            rw [same]
          exact ⟨v, same, (others v different).trans records⟩
        · exact ⟨w, rfl, recorded.trans fresh⟩
      · exact ⟨w, rfl, recorded.trans fresh⟩
    · rintro ⟨v, same, records⟩
      by_cases own : v = w
      · subst own
        have fresh : new = some key.name := recorded.symm.trans records
        have here : ∃ name ∈ new, key = ⟨v.namespace_, name⟩ :=
          ⟨key.name, fresh, by rw [same]⟩
        refine ⟨Or.inr here, Or.inr here, ?_⟩
        rintro name taken rfl
        exact unshared rfl fresh taken
      · have records' : owner v = some key.name := (others v own).symm.trans records
        obtain ⟨mem, held⟩ := (owned.exact key).mpr ⟨v, same, records'⟩
        refine ⟨Or.inl mem, Or.inl held, ?_⟩
        rintro name taken rfl
        exact own (owned.single v w name same records' taken)
  · intro v v' name same records records'
    by_cases own : v = w
    · by_cases own' : v' = w
      · rw [own, own']
      · subst own
        rw [others v' own'] at records'
        exact (unshared same.symm (recorded.symm.trans records) records').elim
    · rw [others v own] at records
      by_cases own' : v' = w
      · subst own'
        exact (unshared same (recorded.symm.trans records') records).elim
      · rw [others v' own'] at records'
        exact owned.single v v' name same records records'

/-- What becomes of a shelf when a request of a workload is handled, and of the name that the
workload records: both stay and nothing is left of what was made meanwhile, or an object is
exchanged. -/
def Followed (ns : String) (former new : Option String) (gone : List ObjectKey)
    (shelf shelf' : Shelf α) : Prop :=
  (new = former ∧ shelf' = shelf ∧ ∀ key ∈ gone, shelf.get? key = none) ∨
    Exchanged ns new former gone shelf shelf'

/-- Objects stay owned if their shelf follows what one workload records. -/
theorem Owned.follow (owned : Owned made shelf owner) {gone : List ObjectKey}
    (followed : Followed w.namespace_ (owner w) new gone shelf shelf')
    (recorded : owner' w = new) (others : ∀ v, v ≠ w → owner' v = owner v) :
    Owned (made ++ gone) shelf' owner' := by
  rcases followed with ⟨rfl, rfl, free⟩ | exchanged
  · have same : owner' = owner := by
      funext v
      by_cases own : v = w
      · rw [own, recorded]
      · exact others v own
    rw [same]
    exact owned.keep free
  · exact owned.exchange exchanged recorded others

theorem Holds.insert_iff {key other : ObjectKey} {object : α} :
    Holds (Dict.insert shelf key object) other ↔ other = key ∨ shelf.Holds other := by
  unfold Holds
  rw [Dict.get?_insert]
  by_cases same : other = key
  · simp [same]
  · simp [same]

theorem Holds.erase_iff {key other : ObjectKey} :
    Holds (Dict.erase shelf key) other ↔ shelf.Holds other ∧ other ≠ key := by
  unfold Holds
  rw [Dict.get?_erase]
  by_cases same : other = key
  · simp [same]
  · simp [same]

end Shelf

/-! ### Steps as exchanges -/

variable {P : Platform} {names : SidecarNames} {ns : String} {c c₁ c₂ c' : Cluster}
  {t t' : Transcript} {port service former : Option String} {sources : List Source}

namespace Companion.Discards

variable {x : Companion}

/-- What a removal that is sure to be carried out leaves on a shelf. -/
theorem holds (discarded : x.Discards P ns c former t c') (discards : P.Discards)
    (key : ObjectKey) :
    (x.shelf c').Holds key ↔ (x.shelf c).Holds key ∧ ∀ name ∈ former, key ≠ ⟨ns, name⟩ := by
  cases discarded with
  | absent => simp
  | removed => simp [Shelf.Holds.erase_iff]
  | @kept name _ n missing =>
    have free := missing (discards.certain x _)
    have same : x.shelf { c with namesGiven := n } = x.shelf c := shelf_namesGiven
    rw [same]
    refine ⟨fun held => ⟨held, ?_⟩, fun h => h.1⟩
    rintro other ⟨⟩ rfl
    obtain ⟨object, found⟩ := held
    rw [found] at free
    cases free

/-- A removal takes an object away and puts none there. -/
theorem exchanged (discarded : x.Discards P ns c former t c') (discards : P.Discards)
    {gone : List ObjectKey} (unmade : gone = []) :
    Shelf.Exchanged ns none former gone (x.shelf c) (x.shelf c') := by
  refine ⟨by simp, by simp [unmade], fun key => ?_⟩
  rw [discarded.holds discards key]
  simp

/-- An object that is made is put on the shelf, and its predecessor taken away. -/
theorem exchanged_of_insert (discarded : x.Discards P ns c₁ former t c') (discards : P.Discards)
    {name : String} {object : x.Object} {gone : List ObjectKey} (made : gone = [⟨ns, name⟩])
    (free : (x.shelf c).get? ⟨ns, name⟩ = none)
    (placed : x.shelf c₁ = (x.shelf c).insert ⟨ns, name⟩ object) :
    Shelf.Exchanged ns (some name) former gone (x.shelf c) (x.shelf c') := by
  refine ⟨?_, by simp [made], fun key => ?_⟩
  · rintro _ ⟨⟩
    exact free
  · rw [discarded.holds discards key, placed]
    simp [Shelf.Holds.insert_iff, or_comm]

end Companion.Discards

/-- A service that is made is put on the shelf, and its predecessor taken away. -/
theorem OffersService.exchanged (offered : OffersService P names ns c port t (.ok service) c₁)
    (discards : P.Discards) (same : c₂.services = c₁.services)
    (discarded : Companion.service.Discards P ns c₂ former t' c') :
    Shelf.Exchanged ns service former t.madeServices c.services c'.services := by
  cases offered with
  | absent =>
    rw [← same]
    exact discarded.exchanged discards rfl
  | made nonempty free => exact discarded.exchanged_of_insert discards rfl free same

/-- A config map that is made is put on the shelf, and its predecessor taken away. -/
theorem WritesConfigMap.exchanged {name : String}
    (written : WritesConfigMap P names ns sources c t (.ok name) c₁) (discards : P.Discards)
    (same : c₂.configMaps = c₁.configMaps)
    (discarded : Companion.configMap.Discards P ns c₂ former t' c') :
    Shelf.Exchanged ns (some name) former t.madeConfigMaps c.configMaps c'.configMaps := by
  cases written with
  | @made read document mid _ n resolved nonempty free =>
    have unchanged := (resolve_sameButSecrets resolved).configMaps
    have unmade := (Transcript.made_of_resolving (resolved.asked (resolve_asks ns sources))).2
    have placed : c₂.configMaps =
        c.configMaps.insert ⟨ns, name⟩ (placedConfigMap names ns document.render name) := by
      rw [same, ← unchanged]
    rw [unchanged] at free
    refine discarded.exchanged_of_insert discards ?_ free placed
    rw [Transcript.madeConfigMaps_append, unmade]
    rfl

end GatewayOperator
