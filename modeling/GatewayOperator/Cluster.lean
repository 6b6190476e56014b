import GatewayOperator.Failure
import GatewayOperator.Gateway.Status
import GatewayOperator.Resource.Data
import GatewayOperator.Resource.Deployment
import GatewayOperator.Resource.Service

/-!
# The objects of a cluster

## Main Definitions

* `ObjectKey` — the namespace and the name of an object.
* `Shelf` — the objects of one kind.
* `Shelf.fetch`, `Shelf.place`, `Shelf.overwrite`, `Shelf.remove` — the calls that read and write
  them.
* `Cluster` — the objects of all kinds, and the statuses of gateways.
* `Cluster.christen` — the completion of the name of a new object.
-/

namespace GatewayOperator

/-- The namespace and the name of an object. -/
structure ObjectKey where
  /-- The namespace. -/
  namespace_ : String
  /-- The name. -/
  name : String
  deriving DecidableEq, Repr, Inhabited

namespace ObjectKey

/-- Keys are ordered by namespace, and within a namespace by name. -/
instance : LT ObjectKey where
  lt a b := a.namespace_ < b.namespace_ ∨ (a.namespace_ = b.namespace_ ∧ a.name < b.name)

theorem lt_def (a b : ObjectKey) :
    a < b ↔ a.namespace_ < b.namespace_ ∨ (a.namespace_ = b.namespace_ ∧ a.name < b.name) :=
  Iff.rfl

instance (a b : ObjectKey) : Decidable (a < b) :=
  inferInstanceAs (Decidable (_ ∨ _))

instance : KeyOrder ObjectKey where
  irrefl a h := by
    rcases h with h | ⟨-, h⟩
    · exact KeyOrder.irrefl _ h
    · exact KeyOrder.irrefl _ h
  trans {a b c} hab hbc := by
    rw [lt_def] at hab hbc ⊢
    rcases hab with hab | ⟨heq, hab⟩
    · rcases hbc with hbc | ⟨heq', -⟩
      · exact Or.inl (KeyOrder.trans hab hbc)
      · exact Or.inl (heq' ▸ hab)
    · rcases hbc with hbc | ⟨heq', hbc⟩
      · exact Or.inl (heq ▸ hbc)
      · exact Or.inr ⟨heq.trans heq', KeyOrder.trans hab hbc⟩
  trichotomy {a b} hab hba := by
    rw [lt_def, not_or] at hab hba
    have hns : a.namespace_ = b.namespace_ := KeyOrder.trichotomy hab.1 hba.1
    have hname : a.name = b.name :=
      KeyOrder.trichotomy (fun h => hab.2 ⟨hns, h⟩) (fun h => hba.2 ⟨hns.symm, h⟩)
    cases a; cases b; simp_all

end ObjectKey

/-- The objects of one kind. -/
abbrev Shelf (α : Type) := Dict ObjectKey α

namespace Shelf

variable {α : Type}

/-- Reads an object. -/
def fetch (shelf : Shelf α) (kind : ObjectKind) (key : ObjectKey) : Except StoreError α :=
  match shelf.get? key with
  | some object => .ok object
  | none => .error (.notFound kind key.name)

/-- Stores an object that is new. -/
def place (shelf : Shelf α) (operation : String) (kind : ObjectKind) (key : ObjectKey)
    (object : α) : Except StoreError (Shelf α) :=
  if shelf.contains key then .error (.rejected operation kind key.name "already exists")
  else .ok (shelf.insert key object)

/-- Stores an object in place of the one that was there. -/
def overwrite (shelf : Shelf α) (kind : ObjectKind) (key : ObjectKey) (object : α) :
    Except StoreError (Shelf α) :=
  if shelf.contains key then .ok (shelf.insert key object)
  else .error (.notFound kind key.name)

/-- Removes an object. -/
def remove (shelf : Shelf α) (kind : ObjectKind) (key : ObjectKey) :
    Except StoreError (Shelf α) :=
  if shelf.contains key then .ok (shelf.erase key) else .error (.notFound kind key.name)

end Shelf

/-- The objects of all kinds. -/
structure Cluster where
  /-- The config maps. -/
  configMaps : Shelf ConfigMap := ∅
  /-- The secrets. -/
  secrets : Shelf Secret := ∅
  /-- The services. -/
  services : Shelf Service := ∅
  /-- The replicated workloads. -/
  deployments : Shelf Deployment := ∅
  /-- The statuses of gateways. -/
  statuses : Shelf GatewayStatus := ∅
  /-- How many names have been completed. -/
  namesGiven : Nat := 0
  deriving Inhabited

namespace Cluster

/-- A number in at least five digits. -/
def serial (n : Nat) : String :=
  let digits := toString n
  String.ofList (List.replicate (5 - digits.length) '0') ++ digits

/-- The metadata of a new object: in its namespace, and with a name of its own if it has none. -/
def christen (c : Cluster) (namespace_ : String) (metadata : Metadata) : Metadata × Cluster :=
  let metadata := { metadata with namespace_ := some namespace_ }
  match metadata.name with
  | some _ => (metadata, c)
  | none =>
    let name := metadata.generateName.getD "" ++ serial (c.namesGiven + 1)
    ({ metadata with name := some name }, { c with namesGiven := c.namesGiven + 1 })

/-- The key of an object. -/
def keyOf (metadata : Metadata) : ObjectKey := ⟨metadata.namespaceText, metadata.nameText⟩

end Cluster

end GatewayOperator
