import GatewayOperator.Document

/-!
# Layering documents

## Main Definitions

* `Document.merge` — a document with another one laid on top of it.
* `Document.fold` — a list of layers merged from the first to the last.

## Design Notes

Two equal documents are merged to the lower one, so a sequence that a layer repeats is not doubled.
Mappings are merged key by key and other sequences are concatenated; in every other case the upper
layer wins.
-/

namespace GatewayOperator.Document

mutual

/-- The document `base` with the document `overlay` on top. -/
def merge (base overlay : Document) : Document :=
  if base.same overlay then base
  else
    match base, overlay with
    | .mapping below, .mapping above => .mapping (mergeEntries below above)
    | .sequence below, .sequence above => .sequence (below ++ above)
    | _, overlay => overlay
termination_by structural overlay

/-- The entries `below` with the entries `above` on top. -/
def mergeEntries (below above : List (String × Document)) : List (String × Document) :=
  match above with
  | [] => below
  | (key, value) :: rest =>
    let merged := match Assoc.lookup key below with
      | some existing => merge existing value
      | none => value
    mergeEntries (Assoc.insert key merged below) rest
termination_by structural above

end

/-- Layers merged from the first to the last, on top of the empty document. -/
def fold (layers : List Document) : Document := layers.foldl merge empty

end GatewayOperator.Document
