import GatewayOperator.Assoc
import GatewayOperator.Yaml.Printer

/-!
# Configuration documents

A gateway reads one document, a tree of mappings, sequences and scalars whose mappings have text
keys.  Every source of configuration yields a tree of this shape, and the layers are merged in it.

## Main Definitions

* `Document` — the tree, with the entries of a mapping in key order.
* `Document.Ordered` — every mapping of the tree is ascending.
* `Document.same` — equality of trees, up to equality of scalars.
* `Document.lookup`, `Document.replaceAt` — reading and writing at a path of keys.
* `Document.toValue`, `Document.ofValue?` — the tree as a value of configuration text, and back.

## Design Notes

The order of keys is no field of the type, because the type is nested in its own entries; it is
kept by every operation and stated by `Document.Ordered`.
-/

namespace GatewayOperator

/-- A configuration document, or a part of one. -/
inductive Document where
  /-- A leaf. -/
  | scalar (value : Scalar)
  /-- Entries, in key order. -/
  | mapping (entries : List (String × Document))
  /-- Items. -/
  | sequence (items : List Document)
  deriving Repr, Inhabited

namespace Document

/-- The document without entries. -/
def empty : Document := .mapping []

/-- A text. -/
def text (s : String) : Document := .scalar (.string s)

/-- The entries of a mapping. -/
def entries? : Document → Option (List (String × Document))
  | .mapping entries => some entries
  | _ => none

/-- The items of a sequence. -/
def items? : Document → Option (List Document)
  | .sequence items => some items
  | _ => none

/-- The text of a text scalar. -/
def text? : Document → Option String
  | .scalar (.string s) => some s
  | _ => none

mutual

/-- Equality of documents. -/
def same : Document → Document → Bool
  | .scalar a, .scalar b => a.same b
  | .mapping a, .mapping b => sameEntries a b
  | .sequence a, .sequence b => sameItems a b
  | _, _ => false

/-- Equality of entry lists. -/
def sameEntries : List (String × Document) → List (String × Document) → Bool
  | [], [] => true
  | (k, a) :: as, (l, b) :: bs => k = l && same a b && sameEntries as bs
  | _, _ => false

/-- Equality of item lists. -/
def sameItems : List Document → List Document → Bool
  | [], [] => true
  | a :: as, b :: bs => same a b && sameItems as bs
  | _, _ => false

end

/-- Every mapping of the document has its keys in ascending order. -/
inductive Ordered : Document → Prop where
  /-- A leaf has no keys. -/
  | scalar (value : Scalar) : Ordered (.scalar value)
  /-- The keys ascend, and so do those of each value. -/
  | mapping {entries : List (String × Document)} (ascending : Assoc.Ascending entries)
      (values : ∀ entry ∈ entries, Ordered entry.2) : Ordered (.mapping entries)
  /-- The keys of each item ascend. -/
  | sequence {items : List Document} (values : ∀ item ∈ items, Ordered item) :
      Ordered (.sequence items)

/-! ### Paths -/

/-- The value under a key of a mapping. -/
def get? (d : Document) (key : String) : Option Document :=
  match d with
  | .mapping entries => Assoc.lookup key entries
  | _ => none

/-- The part of a document at the end of a path of keys. -/
def lookup (d : Document) : List String → Option Document
  | [] => some d
  | key :: path => (d.get? key).bind fun child => child.lookup path

/-- The document with `value` in place of the part at the end of a path, if there is one. -/
def replaceAt (d : Document) (value : Document) : List String → Option Document
  | [] => some value
  | key :: path =>
    match d with
    | .mapping entries =>
      (Assoc.lookup key entries).bind fun child =>
        (child.replaceAt value path).map fun child => .mapping (Assoc.insert key child entries)
    | _ => none

/-! ### Text -/

mutual

/-- The document as a value of configuration text. -/
def toValue : Document → Yaml.Value
  | .scalar value => .scalar value
  | .mapping entries => .mapping (entriesToValues entries)
  | .sequence items => .sequence (itemsToValues items)

/-- The entries of a mapping as pairs. -/
def entriesToValues : List (String × Document) → List (Yaml.Value × Yaml.Value)
  | [] => []
  | (key, value) :: rest => (.scalar (.string key), value.toValue) :: entriesToValues rest

/-- The items of a sequence as values. -/
def itemsToValues : List Document → List Yaml.Value
  | [] => []
  | item :: rest => item.toValue :: itemsToValues rest

end

mutual

/-- The document of a value of configuration text: keys become their texts, and the last entry of
a key counts.  There is none if a key is no scalar. -/
def ofValue? : Yaml.Value → Option Document
  | .scalar value => some (.scalar value)
  | .mapping pairs => (entriesOfPairs? pairs []).map .mapping
  | .sequence items => (itemsOfValues? items).map .sequence

/-- The entries of some pairs, behind the entries in `done`. -/
def entriesOfPairs? (pairs : List (Yaml.Value × Yaml.Value))
    (done : List (String × Document)) : Option (List (String × Document)) :=
  match pairs with
  | [] => some done
  | (.scalar key, value) :: rest =>
    match ofValue? value with
    | none => none
    | some child => entriesOfPairs? rest (Assoc.insert key.text child done)
  | _ => none

/-- The documents of some values. -/
def itemsOfValues? : List Yaml.Value → Option (List Document)
  | [] => some []
  | item :: rest =>
    match ofValue? item, itemsOfValues? rest with
    | some item, some rest => some (item :: rest)
    | _, _ => none

end

/-- The text of a document. -/
def render (d : Document) : String := d.toValue.render

end Document

end GatewayOperator
