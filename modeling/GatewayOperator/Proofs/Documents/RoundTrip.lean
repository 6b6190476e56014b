import GatewayOperator.Proofs.Documents.IdentitySection

/-!
# Documents and their texts

A gateway reads the text that was written of its document.  What the notation does with a tree of
scalars, sequences and mappings is taken for granted here: it carries the tree.  This module says
that nothing else gets lost on the way, although more trees can be read than are ever written.

## Main Definitions

* `Yaml.Value.Carried` — what is written of a tree is read as this tree.
* `Document.Carried` — the tree of a document is carried.
* `Document.Produced` — a document that comes of texts by layering and by registered clients.

## Main Statements

* `Document.ofValue?_toValue` — every document is the document of its tree.
* `Document.parse_render` — a layer is read from its own text.
* `Document.survives_rendering` — **main law**: so is whatever is produced, and once a text has been
  read, reading and writing it again changes neither the document nor the text.

## Design Notes

A tree may have keys that are no texts, and the same key twice; a document has neither.  So
`ofValue?` forgets more than `toValue` can give back, and only one of the two compositions is the
identity: on documents, whose keys are texts in order.
-/

namespace GatewayOperator

/-- What is written of a tree is read as this tree. -/
def Yaml.Value.Carried (v : Yaml.Value) : Prop := Yaml.Value.read v.render = .ok v

namespace Document

/-- The notation carries the tree of a document. -/
def Carried (d : Document) : Prop := d.toValue.Carried

/-- A document that comes of texts, by layering and by entering registered clients. -/
inductive Produced : Document → Prop where
  /-- It has been read. -/
  | read {origin text : String} {d : Document} (parsed : parse origin text = .ok d) : Produced d
  /-- It is one document on top of another one. -/
  | merged {base overlay : Document} (below : Produced base) (above : Produced overlay) :
      Produced (base.merge overlay)
  /-- It is made of some layers. -/
  | folded {layers : List Document} (all : ∀ layer ∈ layers, Produced layer) :
      Produced (fold layers)
  /-- A registered client has been entered into it. -/
  | identified {d : Document} (r : Registration) (before : Produced d) : Produced (r.applyTo d)

/-! ### Layers -/

/-- The identity section is a layer of its own. -/
theorem isLayer_identityLayer (r : Registration) : r.identityLayer.IsLayer := by
  have sections : (mapping (Assoc.ofList r.identityEntries)).Ordered := by
    rw [ordered_mapping_iff]
    refine ⟨Assoc.ascending_ofList _, fun entry mem => ?_⟩
    rw [Registration.ofList_identityEntries] at mem
    simp only [List.mem_cons, List.not_mem_nil, or_false] at mem
    rcases mem with rfl | rfl | rfl <;> exact ordered_scalar _
  have single {key : String} {value : Document} (ordered : value.Ordered) :
      (mapping [(key, value)]).Ordered := by
    simpa [Assoc.Ascending] using ordered
  exact ⟨⟨_, rfl⟩, single (single sections)⟩

/-- Entering a registered client makes a layer of a layer. -/
theorem IsLayer.applyTo {d : Document} (isLayer : d.IsLayer) (r : Registration) :
    (r.applyTo d).IsLayer := by
  rw [Registration.applyTo_eq_entered, ← Registration.merge_identityLayer]
  exact isLayer.merge (isLayer_identityLayer r)

/-- Whatever is produced is a layer. -/
theorem Produced.isLayer {d : Document} (produced : d.Produced) : d.IsLayer := by
  induction produced with
  | read parsed => exact isLayer_of_parse parsed
  | merged _ _ below above => exact below.merge above
  | folded _ all => exact isLayer_fold all
  | identified r _ before => exact before.applyTo r

/-! ### Documents of their trees -/

/-- Entries whose values are the documents of their trees are inserted one after another. -/
theorem entriesOfPairs?_entriesToValues {entries : List (String × Document)}
    (values : ∀ entry ∈ entries, ofValue? entry.2.toValue = some entry.2)
    (done : List (String × Document)) :
    entriesOfPairs? (entriesToValues entries) done = some (Assoc.insertAll entries done) := by
  induction entries generalizing done with
  | nil => simp [entriesToValues, entriesOfPairs?, Assoc.insertAll]
  | cons entry rest ih =>
    obtain ⟨key, value⟩ := entry
    have first := values _ List.mem_cons_self
    simp only [entriesToValues, entriesOfPairs?, first, Scalar.text]
    exact ih (fun entry mem => values entry (List.mem_cons_of_mem _ mem)) _

/-- Items that are the documents of their trees are the items of a sequence. -/
theorem itemsOfValues?_itemsToValues {items : List Document}
    (values : ∀ item ∈ items, ofValue? item.toValue = some item) :
    itemsOfValues? (itemsToValues items) = some items := by
  induction items with
  | nil => simp [itemsToValues, itemsOfValues?]
  | cons item rest ih =>
    have first := values _ List.mem_cons_self
    have others := ih fun item mem => values item (List.mem_cons_of_mem _ mem)
    simp only [itemsToValues, itemsOfValues?, first, others]

/-- Every document is the document of its tree, down to the sign of its numbers. -/
theorem ofValue?_toValue {d : Document} (ordered : d.Ordered) : ofValue? d.toValue = some d := by
  induction ordered with
  | scalar value => simp [toValue, ofValue?]
  | @mapping entries ascending _ ih =>
    -- The entries are inserted in key order, so each of them goes to the end.
    have inserted : Assoc.insertAll entries [] = entries := Assoc.insertAll_of_ascending ascending
    rw [toValue, ofValue?, entriesOfPairs?_entriesToValues ih, inserted, Option.map_some]
  | sequence _ ih => rw [toValue, ofValue?, itemsOfValues?_itemsToValues ih, Option.map_some]

/-- A layer is read from its own text, if the notation carries its tree. -/
theorem parse_render {d : Document} (isLayer : d.IsLayer) (carried : d.Carried) (origin : String) :
    parse origin d.render = .ok d := by
  obtain ⟨entries, rfl⟩ := isLayer.mapping
  have read : Yaml.Value.read (mapping entries).render = .ok (mapping entries).toValue := carried
  unfold parse
  simp only [read, ofValue?_toValue isLayer.ordered]

/-- **Documents survive being written.**  Every document is the document of its tree.  If the
notation carries the tree of a produced document, then the document is read from its own text; and
whatever a text says and however it says it, the document that is read from it is read again from
its own text, and the same text is written of it again. -/
theorem survives_rendering :
    (∀ d : Document, d.Ordered → ofValue? d.toValue = some d) ∧
    (∀ d : Document, d.Produced → d.Carried → ∀ origin, parse origin d.render = .ok d) ∧
    ∀ (origin text : String) (d : Document), parse origin text = .ok d → d.Carried →
      ∀ origin', parse origin' d.render = .ok d ∧
        (parse origin' d.render).map render = .ok d.render := by
  refine ⟨fun d ordered => ofValue?_toValue ordered, fun d produced carried origin => ?_,
    fun origin text d parsed carried origin' => ?_⟩
  · exact parse_render produced.isLayer carried origin
  · have again := parse_render (isLayer_of_parse parsed) carried origin'
    refine ⟨again, ?_⟩
    rw [again]
    rfl

/-! ### A text that says more than its document -/

/-- A negative fraction. -/
def minusHalf : Number := .float (.finite true 4503599627370496 (-53))

/-- A negative fraction under a key that is spelled like a number. -/
def weightByPort : Document := .mapping [("8443", .scalar (.number minusHalf))]

/-- A text with numbers for keys, one of them twice, and with a tag. -/
def weightsText : String := "8443: on\n8443: !weight -0.5\n"

/-- A fraction without quotes is a number, whatever local tag it has. -/
theorem typed_minusHalf {tag : Option String}
    (untyped : tag = none ∨ Yaml.Recording.isLocalTag tag = true) (tagCounts : Bool)
    (mark : Yaml.Mark) :
    Yaml.Recording.typed tagCounts tag "-0.5" .plain mark = .ok (.number minusHalf) := by
  have number : Yaml.resolve "-0.5" = some (.number minusHalf) := by decide +kernel
  rcases untyped with rfl | untyped
  · simp [Yaml.Recording.typed, number]
  · cases tag with
    | none => simp [Yaml.Recording.typed, number]
    | some tag => simp [Yaml.Recording.typed, number, untyped]

open Yaml Recording in
theorem carried_weightByPort : weightByPort.Carried := by
  have sound : (events weightByPort.toValue.render).fault = none := by decide +kernel
  have said : (events weightByPort.toValue.render).events =
      [⟨.streamStart, ⟨0, 0, 0⟩⟩, ⟨.documentStart, ⟨0, 0, 0⟩⟩,
        ⟨.mappingStart ⟨none, none⟩, ⟨0, 0, 0⟩⟩,
        ⟨.scalar ⟨none, none⟩ "8443" .singleQuoted, ⟨0, 0, 0⟩⟩,
        ⟨.scalar ⟨none, none⟩ "-0.5" .plain, ⟨8, 0, 8⟩⟩,
        ⟨.mappingEnd, ⟨13, 1, 0⟩⟩, ⟨.documentEnd, ⟨13, 1, 0⟩⟩, ⟨.streamEnd, ⟨13, 1, 0⟩⟩] := by
    decide +kernel
  have key (tagCounts : Bool) (mark : Mark) :
      typed tagCounts none "8443" .singleQuoted mark = .ok (.string "8443") := rfl
  have weight (tagCounts : Bool) (mark : Mark) :
      typed tagCounts none "-0.5" .plain mark = .ok (.number minusHalf) :=
    typed_minusHalf (.inl rfl) tagCounts mark
  unfold Document.Carried Value.Carried Value.read
  simp only [sound, said]
  simp [ofEvents, Recording.empty, record, compose, composeAt, composePairs, depthLimit, key,
    weight, bind, Except.bind, pure, Except.pure, Value.isScalar, weightByPort, toValue,
    entriesToValues]

open Yaml Recording in
/-- The text is read as the document, which neither has a number for a key nor a key twice. -/
theorem parse_weightsText (origin : String) : parse origin weightsText = .ok weightByPort := by
  have sound : (events weightsText).fault = none := by decide +kernel
  have said : (events weightsText).events =
      [⟨.streamStart, ⟨0, 0, 0⟩⟩, ⟨.documentStart, ⟨0, 0, 0⟩⟩,
        ⟨.mappingStart ⟨none, none⟩, ⟨0, 0, 0⟩⟩,
        ⟨.scalar ⟨none, none⟩ "8443" .plain, ⟨0, 0, 0⟩⟩,
        ⟨.scalar ⟨none, none⟩ "on" .plain, ⟨6, 0, 6⟩⟩,
        ⟨.scalar ⟨none, none⟩ "8443" .plain, ⟨9, 1, 0⟩⟩,
        ⟨.scalar ⟨none, some "!weight"⟩ "-0.5" .plain, ⟨15, 1, 6⟩⟩,
        ⟨.mappingEnd, ⟨28, 2, 0⟩⟩, ⟨.documentEnd, ⟨28, 2, 0⟩⟩, ⟨.streamEnd, ⟨28, 2, 0⟩⟩] := by
    decide +kernel
  have port : resolve "8443" = some (.number (.int 8443)) := by decide +kernel
  have on : resolve "on" = some (.string "on") := by decide +kernel
  have port (tagCounts : Bool) (mark : Mark) :
      typed tagCounts none "8443" .plain mark = .ok (.number (.int 8443)) := by
    simp [typed, port]
  have on (tagCounts : Bool) (mark : Mark) :
      typed tagCounts none "on" .plain mark = .ok (.string "on") := by
    simp [typed, on]
  have weight (tagCounts : Bool) (mark : Mark) :
      typed tagCounts (some "!weight") "-0.5" .plain mark = .ok (.number minusHalf) :=
    typed_minusHalf (.inr rfl) tagCounts mark
  have read : Value.read weightsText = .ok (.mapping
      [(.scalar (.number (.int 8443)), .scalar (.string "on")),
        (.scalar (.number (.int 8443)), .scalar (.number minusHalf))]) := by
    unfold Value.read
    simp only [sound, said]
    simp [ofEvents, Recording.empty, record, compose, composeAt, composePairs, depthLimit, weight,
      port, on, bind, Except.bind, pure, Except.pure, Value.isScalar]
  unfold parse
  rw [read]
  simp [ofValue?, entriesOfPairs?, Assoc.insert, weightByPort]
  decide +kernel

/-- Its numbers for keys have become texts, and stay what they are when they are written. -/
theorem weightByPort_survives :
    ofValue? weightByPort.toValue = some weightByPort ∧
      parse "weights" weightsText = .ok weightByPort ∧ weightByPort.Carried ∧
      parse "generated" weightByPort.render = .ok weightByPort ∧
      (parse "generated" weightByPort.render).map render = .ok weightByPort.render := by
  have parsed := parse_weightsText "weights"
  have produced : weightByPort.Produced := .read parsed
  have again := survives_rendering.2.2 _ _ _ parsed carried_weightByPort "generated"
  exact ⟨survives_rendering.1 _ produced.isLayer.ordered, parsed, carried_weightByPort,
    survives_rendering.2.1 _ produced carried_weightByPort "generated", again.2⟩

end Document

end GatewayOperator
