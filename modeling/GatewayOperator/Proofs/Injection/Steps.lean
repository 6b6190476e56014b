import GatewayOperator.Proofs.Resolution

/-!
# The steps of an injection

An injection makes a service and a config map, and removes them again or removes those of an earlier
injection.  This module says what each of these steps may do to a cluster.

## Main Definitions

* `Transcript.Removed` — all removals of a run succeeded.
* `OffersService`, `WritesConfigMap` — what making a service or a config map may come to.
* `Companion` — the objects that are made beside a workload, services and config maps.
* `Companion.Discards` — what removing one may come to.

## Main Statements

* `makeService_offers`, `makeConfigMap_writes`, `Companion.discard_discards` — every run of a step
  is one of the cases of its description.

## Design Notes

Services and config maps are made in different ways, but removed in the same way.  So a removal is
described once, for the objects on either shelf.
-/

namespace GatewayOperator

/-! ### Removals of a run -/

/-- Whether a question was no removal that failed. -/
def Answered.Removed : Answered → Prop
  | ⟨.deleteService .., answer⟩ => answer = .ok ()
  | ⟨.deleteConfigMap .., answer⟩ => answer = .ok ()
  | _ => True

/-- Whether all removals of a run succeeded. -/
def Transcript.Removed (t : Transcript) : Prop := ∀ x ∈ t, x.Removed

/-! ### Making -/

/-- The service of a workload under the name it got. -/
def placedService (names : SidecarNames) (ns port name : String) : Service :=
  { sidecarService names ns port with
    metadata := (sidecarService names ns port).metadata.placed ns name }

/-- The config map of a workload under the name it got. -/
def placedConfigMap (names : SidecarNames) (ns document name : String) : ConfigMap :=
  { sidecarConfigMap names ns document with
    metadata := (sidecarConfigMap names ns document).metadata.placed ns name }

/-- What making a service may come to, if there is a port to offer it at. -/
inductive OffersService (P : Platform) (names : SidecarNames) (ns : String) (c : Cluster) :
    Option String → Transcript → Except Failure (Option String) → Cluster → Prop
  /-- There is no port. -/
  | absent : OffersService P names ns c none [] (.ok none) c
  /-- The service is made under a name that was free. -/
  | made {port name : String} {n : Nat} (nonempty : name ≠ "")
      (free : c.services.get? ⟨ns, name⟩ = none) :
      OffersService P names ns c (some port)
        [⟨.createService ns (sidecarService names ns port), .ok (placedService names ns port name)⟩]
        (.ok (some name))
        { c with
          services := c.services.insert ⟨ns, name⟩ (placedService names ns port name)
          namesGiven := n }
  /-- The service is refused. -/
  | refused {port : String} {why : StoreError} {n : Nat}
      (uncertain : ¬P.certain (.createService ns (sidecarService names ns port))) :
      OffersService P names ns c (some port)
        [⟨.createService ns (sidecarService names ns port), .error why⟩]
        (.error (.ofStore why)) { c with namesGiven := n }

/-- What making a config map for some sources may come to. -/
inductive WritesConfigMap (P : Platform) (names : SidecarNames) (ns : String)
    (sources : List Source) (c : Cluster) :
    Transcript → Except Failure String → Cluster → Prop
  /-- The sources cannot be resolved. -/
  | unresolved {t : Transcript} {e : Failure} {c' : Cluster}
      (resolved : (resolve ns sources).run.Yields P.Answers c t (.error e) c') :
      WritesConfigMap P names ns sources c t (.error e) c'
  /-- The config map is refused. -/
  | refused {t : Transcript} {document : Document} {mid : Cluster} {why : StoreError} {n : Nat}
      (resolved : (resolve ns sources).run.Yields P.Answers c t (.ok document) mid)
      (uncertain : ¬P.certain (.createConfigMap ns (sidecarConfigMap names ns document.render))) :
      WritesConfigMap P names ns sources c
        (t ++ [⟨.createConfigMap ns (sidecarConfigMap names ns document.render), .error why⟩])
        (.error (.ofStore why)) { mid with namesGiven := n }
  /-- The config map is made under a name that was free. -/
  | made {t : Transcript} {document : Document} {mid : Cluster} {name : String} {n : Nat}
      (resolved : (resolve ns sources).run.Yields P.Answers c t (.ok document) mid)
      (nonempty : name ≠ "") (free : mid.configMaps.get? ⟨ns, name⟩ = none) :
      WritesConfigMap P names ns sources c
        (t ++ [⟨.createConfigMap ns (sidecarConfigMap names ns document.render),
          .ok (placedConfigMap names ns document.render name)⟩])
        (.ok name)
        { mid with
          configMaps := mid.configMaps.insert ⟨ns, name⟩
            (placedConfigMap names ns document.render name)
          namesGiven := n }

variable {P : Platform} {names : SidecarNames} {ns : String} {c c' : Cluster} {t : Transcript}

theorem makeService_offers {port : String} {r : Except Failure String}
    (run : (makeService names ns port).run.Yields P.Answers c t r c') :
    OffersService P names ns c (some port) t (r.map some) c' := by
  unfold makeService at run
  rcases Attempt.yields_ofStore_bind.mp run with
    ⟨why, asked, rfl⟩ | ⟨made, mid, before, after, asked, ⟨rfl, rfl, rfl⟩, rfl⟩
  · obtain ⟨answered, rfl⟩ := Program.yields_query.mp asked
    rcases Platform.answers_createService rfl answered with
      ⟨_, _, -, -, impossible, -⟩ | ⟨uncertain, -, n, rfl⟩
    · cases impossible
    · exact .refused uncertain
  · obtain ⟨answered, rfl⟩ := Program.yields_query.mp asked
    rcases Platform.answers_createService rfl answered with
      ⟨name, n, nonempty, free, same, rfl⟩ | ⟨-, ⟨_, impossible⟩, -⟩
    · cases same
      exact .made nonempty free
    · cases impossible

/-- A service is made if there is a port to offer it at. -/
def makeServiceIf (names : SidecarNames) (ns : String) (port : Option String) :
    Attempt (Option String) :=
  match port with
  | some port => some <$> makeService names ns port
  | none => pure none

theorem makeServiceIf_offers {port : Option String} {r : Except Failure (Option String)}
    (run : (makeServiceIf names ns port).run.Yields P.Answers c t r c') :
    OffersService P names ns c port t r c' := by
  cases port with
  | none =>
    obtain ⟨rfl, rfl, rfl⟩ := run
    exact .absent
  | some port =>
    obtain ⟨result, made, rfl⟩ := Attempt.yields_map.mp run
    exact makeService_offers made

theorem makeConfigMap_writes {sources : List Source} {r : Except Failure String}
    (run : (makeConfigMap names ns sources).run.Yields P.Answers c t r c') :
    WritesConfigMap P names ns sources c t r c' := by
  unfold makeConfigMap at run
  rw [Attempt.yields_bind] at run
  rcases run with ⟨e, rfl, failed⟩ | ⟨document, mid, before, after, resolved, run, rfl⟩
  · exact .unresolved failed
  rcases Attempt.yields_ofStore_bind.mp run with
    ⟨why, asked, rfl⟩ | ⟨made, mid', first, rest, asked, ⟨rfl, rfl, rfl⟩, rfl⟩
  · obtain ⟨answered, rfl⟩ := Program.yields_query.mp asked
    rcases Platform.answers_createConfigMap rfl answered with
      ⟨_, _, -, -, impossible, -⟩ | ⟨uncertain, -, n, rfl⟩
    · cases impossible
    · exact .refused resolved uncertain
  · obtain ⟨answered, rfl⟩ := Program.yields_query.mp asked
    rcases Platform.answers_createConfigMap rfl answered with
      ⟨name, n, nonempty, free, same, rfl⟩ | ⟨-, ⟨_, impossible⟩, -⟩
    · cases same
      exact .made resolved nonempty free
    · cases impossible

/-! ### Removing -/

/-- The objects that are made beside a workload. -/
inductive Companion where
  /-- The service at which a gateway is offered. -/
  | service
  /-- The config map with its configuration. -/
  | configMap
  deriving DecidableEq, Repr, Inhabited

namespace Companion

/-- What an object is. -/
def Object : Companion → Type
  | .service => Service
  | .configMap => ConfigMap

/-- The shelf on which the objects stand. -/
def shelf : (x : Companion) → Cluster → Shelf x.Object
  | .service => Cluster.services
  | .configMap => Cluster.configMaps

/-- A cluster without an object. -/
def erase : Companion → ObjectKey → Cluster → Cluster
  | .service, key, c => { c with services := c.services.erase key }
  | .configMap, key, c => { c with configMaps := c.configMaps.erase key }

/-- The question that removes an object. -/
def removal : Companion → ObjectKey → Query
  | .service, key => .deleteService key.namespace_ key.name
  | .configMap, key => .deleteConfigMap key.namespace_ key.name

/-- The question that removes an object, with its answer. -/
def removalWith : Companion → ObjectKey → Except StoreError Unit → Answered
  | .service, key, answer => ⟨.deleteService key.namespace_ key.name, answer⟩
  | .configMap, key, answer => ⟨.deleteConfigMap key.namespace_ key.name, answer⟩

/-- Asks to remove an object. -/
def remove : Companion → ObjectKey → Program (Except StoreError Unit)
  | .service, key => Program.query (.deleteService key.namespace_ key.name)
  | .configMap, key => Program.query (.deleteConfigMap key.namespace_ key.name)

/-- Removes an object; that this fails is of no consequence. -/
def discard : Companion → String → Option String → Program Unit
  | .service => discardService
  | .configMap => discardConfigMap

variable {x y : Companion} {key : ObjectKey}

@[simp] theorem shelf_erase_self : x.shelf (x.erase key c) = (x.shelf c).erase key := by
  cases x <;> rfl

theorem shelf_erase_of_ne (other : y ≠ x) : y.shelf (x.erase key c) = y.shelf c := by
  cases x <;> cases y <;> first | rfl | exact absurd rfl other

@[simp] theorem shelf_namesGiven {n : Nat} :
    x.shelf { c with namesGiven := n } = x.shelf c := by
  cases x <;> rfl

@[simp] theorem query_removalWith {answer : Except StoreError Unit} :
    (x.removalWith key answer).query = x.removal key := by
  cases x <;> rfl

theorem removed_removalWith {answer : Except StoreError Unit} :
    (x.removalWith key answer).Removed ↔ answer = .ok () := by
  cases x <;> rfl

theorem discard_eq (x : Companion) (ns : String) (name : Option String) :
    x.discard ns name = match name.bind Text.nonEmpty? with
      | none => pure ()
      | some name => (x.remove ⟨ns, name⟩).andThen fun _ => pure () := by
  cases x <;> rfl

/-- An object that is asked to go is gone, or it stays because it is refused or because there is
none. -/
theorem remove_yields {answer : Except StoreError Unit}
    (run : (x.remove key).Yields P.Answers c t answer c') :
    t = [x.removalWith key answer] ∧
      (answer = .ok () ∧ c' = x.erase key c ∨
      (∃ why, answer = .error why) ∧ (∃ n, c' = { c with namesGiven := n }) ∧
        (P.certain (x.removal key) → (x.shelf c).get? key = none)) := by
  cases x with
  | service =>
    obtain ⟨answered, rfl⟩ := Program.yields_query.mp run
    exact ⟨rfl, Platform.answers_deleteService answered⟩
  | configMap =>
    obtain ⟨answered, rfl⟩ := Program.yields_query.mp run
    exact ⟨rfl, Platform.answers_deleteConfigMap answered⟩

/-- What removing an object may come to, if there is a name of one. -/
inductive Discards (x : Companion) (P : Platform) (ns : String) (c : Cluster) :
    Option String → Transcript → Cluster → Prop
  /-- There is no name. -/
  | absent : Discards x P ns c none [] c
  /-- The object is removed. -/
  | removed {name : String} :
      Discards x P ns c (some name) [x.removalWith ⟨ns, name⟩ (.ok ())] (x.erase ⟨ns, name⟩ c)
  /-- The object stays, because it is refused or because there is none. -/
  | kept {name : String} {why : StoreError} {n : Nat}
      (missing : P.certain (x.removal ⟨ns, name⟩) → (x.shelf c).get? ⟨ns, name⟩ = none) :
      Discards x P ns c (some name) [x.removalWith ⟨ns, name⟩ (.error why)]
        { c with namesGiven := n }

theorem discard_discards {name : Option String}
    (run : (x.discard ns name).Yields P.Answers c t () c') :
    x.Discards P ns c (name.bind Text.nonEmpty?) t c' := by
  rw [discard_eq] at run
  cases given : name.bind Text.nonEmpty? with
  | none =>
    rw [given] at run
    obtain ⟨rfl, -, rfl⟩ := run
    exact .absent
  | some name =>
    rw [given] at run
    obtain ⟨answer, mid, before, after, asked, ⟨rfl, -, rfl⟩, rfl⟩ := Program.yields_bind.mp run
    obtain ⟨rfl, ⟨rfl, rfl⟩ | ⟨⟨why, rfl⟩, ⟨n, rfl⟩, missing⟩⟩ := remove_yields asked
    · exact .removed
    · exact .kept missing

namespace Discards

variable {name : Option String}

/-- A removal changes nothing on the other shelf. -/
theorem others (discarded : x.Discards P ns c name t c') (y : Companion) (other : y ≠ x) :
    y.shelf c' = y.shelf c := by
  cases discarded with
  | absent => rfl
  | removed => exact shelf_erase_of_ne other
  | kept => exact shelf_namesGiven

/-- A removal makes nothing. -/
theorem unmade (discarded : x.Discards P ns c name t c') :
    t.madeServices = [] ∧ t.madeConfigMaps = [] := by
  cases discarded <;> cases x <;> exact ⟨rfl, rfl⟩

end Discards

end Companion

end GatewayOperator
