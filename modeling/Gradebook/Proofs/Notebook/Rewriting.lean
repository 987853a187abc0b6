import Gradebook.Notebook.Basic
import Gradebook.Proofs.Json.Documents
import Gradebook.Proofs.Json.Durable
import Mathlib.Data.List.Forall2

namespace Gradebook

/-!
# Notebooks that are written back

Many texts are read as one notebook: fields may be missing, unknown ones are skipped, a source
may be one text or several, records may stand as arrays.  What is written is one of these
texts, with every field in its place.  Reading it again leaves the id, the content and the
source of every cell as they are, in the form in which they were given.  Only of the metadata
has anything to be asked.

Metadata are kept as they are found, so what comes of them is decided by how values are kept.
Where they stand in a notebook, one or three lists are open around them already, and what is
too deep there is refused.  A value that was found as it stands fits again into its place.
A value that was embedded as a text need not, since a text that is embedded is read as if
nothing were open around it.
-/

open Json (Origin Document Key Elements keep)

variable {origin inner : Origin} {document : Document}

theorem Content.reader_name (origin : Origin) (content : Content) :
    reader origin (.string (.ok content.name)) = .ok content := by
  cases content <;> cases origin <;> rfl

/-! ## Sources -/

theorem writtenItems_eq_map (items : List Json) :
    Json.writtenItems items = items.map Json.written := by
  induction items with
  | nil => rfl
  | cons item rest inductionHypothesis =>
      rw [List.map_cons, Json.writtenItems, inductionHypothesis]

theorem written_map_string (pieces : List String) :
    (pieces.map Json.string).map Json.written = pieces.map fun piece => .string (.ok piece) := by
  rw [List.map_map]
  apply List.map_congr_left
  intro piece _
  rw [Function.comp_apply, Json.written]

theorem Source.strings?_map (pieces : List String) :
    strings? (pieces.map fun piece => .string (.ok piece)) = some pieces := by
  induction pieces with
  | nil => rfl
  | cons piece rest inductionHypothesis =>
      rw [List.map_cons, strings?, inductionHypothesis, Option.map_some]

theorem checkItems_map_string (pieces : List String) :
    Json.checkItems origin (pieces.map fun piece => .string (.ok piece)) = .ok () := by
  induction pieces with
  | nil => rfl
  | cons piece rest inductionHypothesis =>
      rw [List.map_cons, Json.checkItems, inductionHypothesis]
      rfl

/-- A source is read in the form in which it was written. -/
theorem Source.reader_toJson (allows : origin.Allows 1) (source : Source) :
    reader origin source.toJson.written = .ok source := by
  cases source with
  | text whole =>
      rw [toJson, Json.written]
      rfl
  | lines pieces =>
      rcases allows.enter with ⟨inner, entered, _⟩
      rw [toJson, Json.written, writtenItems_eq_map, written_map_string]
      have checked : Json.check origin
          (.array (pieces.map fun piece => .string (.ok piece)) .closed) = .ok () := by
        rw [Json.check, entered, Outcome.ok_bind, checkItems_map_string]
        rfl
      rw [reader, checked, Outcome.ok_bind, ofDocument?, strings?_map]
      rfl

/-! ## Cells -/

namespace Cell

variable {cell : Cell}

/-- Writing a cell and reading it again is keeping its metadata once more. -/
theorem reader_toJson (entered : origin.enter = .ok inner) (allows : inner.Allows 1)
    (cell : Cell) : reader origin cell.toJson.written =
      (keep inner cell.metadata.written).map fun metadata => { cell with metadata } := by
  have source := Source.reader_toJson allows cell.source
  simp only [toJson, Json.written, Json.writtenMembers, reader, Json.recordReader, entered,
    Outcome.ok_bind, Json.foldMembers, Json.Key.text, Fields.read, Json.nullable_ofOption,
    Content.reader_name, source]
  cases keep inner cell.metadata.written with
  | error failure => rfl
  | ok metadata => rfl

/-- Whether a cell is another one with its metadata kept once more. -/
def Rewrites (inner : Origin) (cell again : Cell) : Prop :=
  ∃ metadata, keep inner cell.metadata.written = .ok metadata ∧ { cell with metadata } = again

theorem readItems_toJson_eq_ok_iff (entered : origin.enter = .ok inner) (allows : inner.Allows 1)
    {cells again : List Cell} :
    Json.readItems reader origin (Json.writtenItems (cells.map toJson)) = .ok again ↔
      List.Forall₂ (Rewrites inner) cells again := by
  rw [Json.readItems_eq_ok_iff, writtenItems_eq_map, List.forall₂_map_left_iff,
    List.forall₂_map_left_iff]
  simp only [reader_toJson entered allows, Outcome.map_eq_ok]
  exact Iff.rfl

end Cell

/-! ## Notebooks -/

namespace Notebook

variable {notebook again : Notebook}

/-- How many lists may be open inside the metadata of a notebook. -/
def room : Nat := Json.maximalDepth - 1

/-- How many lists may be open inside the metadata of a cell. -/
def cellRoom : Nat := Json.maximalDepth - 3

/-- The cells of a notebook are read before its metadata. -/
theorem reader_toJson (notebook : Notebook) :
    reader (.text Json.maximalDepth) notebook.toJson.written = (do
      let cells ← Json.readItems Cell.reader (.text (cellRoom + 1))
        (Json.writtenItems (notebook.cells.map Cell.toJson))
      let metadata ← keep (.text room) notebook.metadata.written
      return ⟨cells, metadata⟩) := by
  have outer : (Origin.text Json.maximalDepth).enter = .ok (.text room) := rfl
  have middle : (Origin.text room).enter = .ok (.text (cellRoom + 1)) := rfl
  simp only [toJson, Json.written, Json.writtenMembers, reader, Json.recordReader, outer,
    Outcome.ok_bind, Json.foldMembers, Json.Key.text, Fields.read, Json.sequenceReader, middle]
  cases Json.readItems Cell.reader (.text (cellRoom + 1))
      (Json.writtenItems (notebook.cells.map Cell.toJson)) with
  | error failure => rfl
  | ok cells =>
      cases keep (.text room) notebook.metadata.written with
      | error failure => rfl
      | ok metadata => rfl

/-- A notebook that is written and read again has the same cells, with their metadata kept
once more, and its own metadata kept once more. -/
theorem ofText_compress_eq_ok_iff : ofText notebook.toJson.compress = .ok again ↔
    List.Forall₂ (Cell.Rewrites (.text cellRoom)) notebook.cells again.cells ∧
      keep (.text room) notebook.metadata.written = .ok again.metadata := by
  have entered : (Origin.text (cellRoom + 1)).enter = .ok (.text cellRoom) := rfl
  have allows : (Origin.text cellRoom).Allows 1 := by
    show 1 ≤ cellRoom
    decide
  rcases again with ⟨cells, metadata⟩
  simp only [ofText, Json.readText_compress, reader_toJson, Outcome.bind_eq_ok,
    Outcome.pure_eq_ok, Cell.readItems_toJson_eq_ok_iff entered allows, Notebook.mk.injEq]
  constructor
  · rintro ⟨_, cells, _, kept, rfl, rfl⟩
    exact ⟨cells, kept⟩
  · rintro ⟨cells, kept⟩
    exact ⟨_, cells, _, kept, rfl, rfl⟩

/-! ## What is assumed of metadata -/

/-- Whether the text of each metadata value is read as this value, unless it is too deep to be
read at all. -/
structure Transfers (notebook : Notebook) : Prop where
  cells : ∀ cell ∈ notebook.cells, Json.ReadsBack keep id cell.metadata
  metadata : Json.ReadsBack keep id notebook.metadata

/-- Whether each metadata value may stand where the notebook has it. -/
structure Fits (notebook : Notebook) : Prop where
  cells : ∀ cell ∈ notebook.cells, cell.metadata.depth ≤ cellRoom
  metadata : notebook.metadata.depth ≤ room

/-- Whether all metadata values are canonical. -/
structure Canonical (notebook : Notebook) : Prop where
  cells : ∀ cell ∈ notebook.cells, cell.metadata.Canonical
  metadata : notebook.metadata.Canonical

/-- A value whose text is read back is kept as itself where there is room for it, and not kept
where there is none. -/
theorem keep_written_eq_ok_iff {value kept : Json} {levels : Nat}
    (within : levels ≤ Json.maximalDepth) (canonical : value.Canonical)
    (readsBack : Json.ReadsBack keep id value) :
    keep (.text levels) value.written = .ok kept ↔ value.depth ≤ levels ∧ kept = value := by
  have fitting : value.depth ≤ levels → keep (.text levels) value.written = .ok value := by
    intro fits
    have durable : value.Durable := (Json.readText_keep_compress_iff canonical).1
      (readsBack (Nat.le_trans fits within))
    rw [Json.written_of_steady value durable.steady]
    exact Json.keep_spelled Json.spellWritten canonical durable.plain fits
  constructor
  · intro accepted
    have fits : value.depth ≤ levels := Json.bounds_keep (.text levels) value kept accepted
    exact ⟨fits, Except.ok.inj (accepted.symm.trans (fitting fits))⟩
  · rintro ⟨fits, rfl⟩
    exact fitting fits

theorem cells_rewrites_iff {cells again : List Cell}
    (canonical : ∀ cell ∈ cells, cell.metadata.Canonical)
    (readsBack : ∀ cell ∈ cells, Json.ReadsBack keep id cell.metadata) :
    List.Forall₂ (Cell.Rewrites (.text cellRoom)) cells again ↔
      (∀ cell ∈ cells, cell.metadata.depth ≤ cellRoom) ∧ again = cells := by
  have within : cellRoom ≤ Json.maximalDepth := by decide
  induction cells generalizing again with
  | nil =>
      rw [List.forall₂_nil_left_iff]
      simp only [List.not_mem_nil, false_implies, implies_true, true_and]
  | cons cell rest inductionHypothesis =>
      rw [List.forall_mem_cons] at canonical readsBack
      have first := fun kept => @keep_written_eq_ok_iff cell.metadata kept cellRoom within
        canonical.1 readsBack.1
      simp only [List.forall₂_cons_left_iff, Cell.Rewrites, first,
        inductionHypothesis canonical.2 readsBack.2, List.forall_mem_cons]
      constructor
      · rintro ⟨_, _, ⟨_, ⟨fits, rfl⟩, rfl⟩, ⟨others, rfl⟩, rfl⟩
        exact ⟨⟨fits, others⟩, rfl⟩
      · rintro ⟨⟨fits, others⟩, rfl⟩
        exact ⟨cell, rest, ⟨cell.metadata, ⟨fits, rfl⟩, rfl⟩, ⟨others, rfl⟩, rfl⟩

/-- So a notebook is read again where its metadata fit, as it was, and not at all where they do
not. -/
theorem ofText_compress_iff_of_transfers (canonical : notebook.Canonical)
    (transfers : notebook.Transfers) :
    ofText notebook.toJson.compress = .ok again ↔ notebook.Fits ∧ again = notebook := by
  have within : room ≤ Json.maximalDepth := by decide
  rw [ofText_compress_eq_ok_iff, cells_rewrites_iff canonical.cells transfers.cells,
    keep_written_eq_ok_iff within canonical.metadata transfers.metadata]
  constructor
  · rintro ⟨⟨cells, sameCells⟩, metadata, sameMetadata⟩
    rcases again with ⟨_, _⟩
    cases sameCells
    cases sameMetadata
    exact ⟨⟨cells, metadata⟩, rfl⟩
  · rintro ⟨fits, rfl⟩
    exact ⟨⟨fits.cells, rfl⟩, fits.metadata, rfl⟩

end Notebook

/-! ## What was read from a text -/

/-- Whether a value, if there is one, is kept of one of some documents. -/
def KeptFrom (inner : Origin) (parts : List Document) (slot : Option Json) : Prop :=
  ∀ value, slot = some value → ∃ part ∈ parts, keep inner part = .ok value

theorem keptFrom_none (inner : Origin) (parts : List Document) : KeptFrom inner parts none := by
  intro value impossible
  cases impossible

theorem keptFrom_of_once {parts : List Document} {part : Document} {name : String}
    {slot result : Option Json} (listed : part ∈ parts)
    (stored : Json.once name slot (keep inner part) = .ok result) : KeptFrom inner parts result := by
  rcases (Json.once_eq_ok_iff.1 stored).2 with ⟨metadata, accepted, rfl⟩
  rintro value ⟨rfl⟩
  exact ⟨part, listed, accepted⟩

/-- A missing value is null, which is canonical. -/
theorem KeptFrom.canonical {parts : List Document} {slot : Option Json}
    (kept : KeptFrom inner parts slot) : (slot.getD .null).Canonical := by
  cases slot with
  | none => trivial
  | some value =>
      rcases kept value rfl with ⟨part, _, accepted⟩
      exact Json.canonical_keep accepted

/-- What is kept of parts that embed nothing is not too deep for its place. -/
theorem KeptFrom.allows {slot : Option Json} (kept : KeptFrom inner document.parts slot)
    (literal : document.embedsNothing = true) : inner.Allows (slot.getD .null).depth := by
  cases slot with
  | none =>
      simp only [Option.getD_none, Json.depth]
      exact inner.allows_zero
  | some value =>
      rcases kept value rfl with ⟨part, listed, accepted⟩
      exact Json.allows_of_embedsNothing part inner value
        (Json.embedsNothing_of_mem_parts literal listed) accepted

/-- Whether the elements that are left are among some documents. -/
structure Among (inner : Origin) (parts : List Document) (elements : Elements) : Prop where
  origin : elements.origin = inner
  listed : ∀ item ∈ elements.items, item ∈ parts

section Among

variable {α : Type} {read : Json.Reader α} {parts : List Document} {elements after : Elements}

theorem Among.next {result : Option α} (among : Among inner parts elements)
    (taken : elements.next read = .ok (result, after)) : Among inner parts after := by
  rcases Json.next_eq_ok_iff.1 taken with ⟨_, _, _, rfl⟩ | ⟨item, rest, _, found, _, _, rfl⟩
  · exact among
  · exact ⟨among.origin, fun item later =>
      among.listed item (found ▸ List.mem_cons_of_mem _ later)⟩

theorem Among.nextRequired {position : Nat} {expected : String} {a : α}
    (among : Among inner parts elements)
    (taken : elements.nextRequired read position expected = .ok (a, after)) :
    Among inner parts after ∧ ∃ part ∈ parts, read inner part = .ok a := by
  rcases Json.nextRequired_eq_ok_iff.1 taken with ⟨item, rest, found, accepted, rfl⟩
  refine ⟨⟨among.origin, fun item later =>
    among.listed item (found ▸ List.mem_cons_of_mem _ later)⟩, item, ?_, among.origin ▸ accepted⟩
  exact among.listed item (found ▸ List.mem_cons_self)

theorem Among.keptFrom {slot : Option Json} (among : Among inner parts elements)
    (taken : elements.next keep = .ok (slot, after)) : KeptFrom inner parts slot := by
  rcases Json.next_eq_ok_iff.1 taken with ⟨_, _, rfl, _⟩ | ⟨item, rest, value, found, accepted, rfl, _⟩
  · exact keptFrom_none inner parts
  · rintro _ ⟨rfl⟩
    exact ⟨item, among.listed item (found ▸ List.mem_cons_self), among.origin ▸ accepted⟩

end Among

namespace Cell

variable {cell : Cell}

/-- The metadata of a cell are kept of a part of what it is read from. -/
theorem keptFrom_of_reader (accepted : reader origin document = .ok cell) :
    ∃ inner slot, origin.enter = .ok inner ∧ KeptFrom inner document.parts slot ∧
      cell.metadata = slot.getD .null := by
  cases document with
  | object members ending =>
      simp only [reader, Json.recordReader, Fields.toCell, Outcome.bind_eq_ok,
        Outcome.pure_eq_ok] at accepted
      rcases accepted with ⟨inner, entered, fields, folded, content, _, rfl⟩
      have step : ∀ fields name part next, part ∈ members.map Prod.snd →
          KeptFrom inner (members.map Prod.snd) fields.metadata →
          Fields.read inner fields name part = .ok next →
            KeptFrom inner (members.map Prod.snd) next.metadata := by
        intro fields name part next listed kept stepped
        rw [Fields.read.eq_def] at stepped
        split at stepped
        all_goals rcases Outcome.bind_eq_ok.1 stepped with ⟨slot, stored, ⟨rfl⟩⟩
        · exact kept
        · exact kept
        · exact keptFrom_of_once listed stored
        · exact kept
        · exact kept
      have kept := Json.foldMembers_induction_of_mem step (keptFrom_none _ _) folded
      exact ⟨inner, fields.metadata, entered, kept, rfl⟩
  | array items ending =>
      simp only [reader, Json.recordReader, ofElements, Outcome.bind_eq_ok,
        Outcome.pure_eq_ok] at accepted
      rcases accepted with ⟨inner, entered, ⟨id, second⟩, readId, ⟨content, third⟩, readContent,
        ⟨slot, fourth⟩, readMetadata, _, _, _, _, rfl⟩
      have first : Among inner items ⟨inner, items, ending, items.length⟩ :=
        ⟨rfl, fun _ listed => listed⟩
      have behind := ((first.next readId).nextRequired readContent).1
      exact ⟨inner, slot, entered, behind.keptFrom readMetadata, rfl⟩
  | null | bool b | number n | string content | broken fault =>
      exact absurd accepted Json.refuse_ne_ok

end Cell

namespace Notebook

variable {notebook : Notebook}

/-- Whether cells, if there are some, are read from the items of one of some documents. -/
def CellsFrom (inner : Origin) (parts : List Document) (slot : Option (List Cell)) : Prop :=
  ∀ cells, slot = some cells →
    ∃ part ∈ parts, Json.sequenceReader Cell.reader inner part = .ok cells

/-- The metadata of a notebook are kept of a part of what it is read from, and its cells are
read from the items of another part. -/
theorem keptFrom_of_reader (accepted : reader origin document = .ok notebook) :
    ∃ inner slot, origin.enter = .ok inner ∧ KeptFrom inner document.parts slot ∧
      notebook.metadata = slot.getD .null ∧
        ∃ part ∈ document.parts,
          Json.sequenceReader Cell.reader inner part = .ok notebook.cells := by
  cases document with
  | object members ending =>
      simp only [reader, Json.recordReader, Fields.toNotebook, Outcome.bind_eq_ok,
        Outcome.pure_eq_ok, Json.required_eq_ok_iff] at accepted
      rcases accepted with ⟨inner, entered, fields, folded, cells, found, rfl⟩
      have step : ∀ fields name part next, part ∈ members.map Prod.snd →
          KeptFrom inner (members.map Prod.snd) fields.metadata ∧
            CellsFrom inner (members.map Prod.snd) fields.cells →
          Fields.read inner fields name part = .ok next →
            KeptFrom inner (members.map Prod.snd) next.metadata ∧
              CellsFrom inner (members.map Prod.snd) next.cells := by
        intro fields name part next listed kept stepped
        rw [Fields.read.eq_def] at stepped
        split at stepped
        all_goals rcases Outcome.bind_eq_ok.1 stepped with ⟨slot, stored, ⟨rfl⟩⟩
        · refine ⟨kept.1, ?_⟩
          rcases (Json.once_eq_ok_iff.1 stored).2 with ⟨cells, accepted, rfl⟩
          rintro _ ⟨rfl⟩
          exact ⟨part, listed, accepted⟩
        · exact ⟨keptFrom_of_once listed stored, kept.2⟩
        · exact kept
      have nothing : CellsFrom inner (members.map Prod.snd) none := fun _ impossible => by
        cases impossible
      have kept := Json.foldMembers_induction_of_mem step ⟨keptFrom_none _ _, nothing⟩ folded
      exact ⟨inner, fields.metadata, entered, kept.1, rfl, kept.2 cells found⟩
  | array items ending =>
      simp only [reader, Json.recordReader, ofElements, Outcome.bind_eq_ok,
        Outcome.pure_eq_ok] at accepted
      rcases accepted with ⟨inner, entered, ⟨cells, second⟩, readCells, ⟨slot, third⟩,
        readMetadata, _, _, rfl⟩
      have first : Among inner items ⟨inner, items, ending, items.length⟩ :=
        ⟨rfl, fun _ listed => listed⟩
      have behind := first.nextRequired readCells
      exact ⟨inner, slot, entered, behind.1.keptFrom readMetadata, rfl, behind.2⟩
  | null | bool b | number n | string content | broken fault =>
      exact absurd accepted Json.refuse_ne_ok

/-- The metadata of a notebook that was read are canonical. -/
theorem canonical_of_reader (accepted : reader origin document = .ok notebook) :
    notebook.Canonical := by
  rcases keptFrom_of_reader accepted with ⟨inner, slot, _, kept, same, part, _, readCells⟩
  refine ⟨fun cell listed => ?_, same ▸ kept.canonical⟩
  rcases Json.exists_of_sequenceReader readCells with ⟨_, _, _, _, _, matched⟩
  rcases Json.exists_of_forall₂ matched cell listed with ⟨item, _, readCell⟩
  rcases Cell.keptFrom_of_reader readCell with ⟨_, _, _, keptCell, sameCell⟩
  exact sameCell ▸ keptCell.canonical

/-- The metadata of a notebook in whose text nothing is embedded fit into their places. -/
theorem fits_of_embedsNothing (literal : document.embedsNothing = true)
    (accepted : reader (.text Json.maximalDepth) document = .ok notebook) : notebook.Fits := by
  rcases keptFrom_of_reader accepted with ⟨inner, slot, ⟨⟩, kept, same, part, within, readCells⟩
  refine ⟨fun cell listed => ?_, same ▸ kept.allows literal⟩
  rcases Json.exists_of_sequenceReader readCells with ⟨_, items, _, rfl, ⟨⟩, matched⟩
  rcases Json.exists_of_forall₂ matched cell listed with ⟨item, inside, readCell⟩
  rcases Cell.keptFrom_of_reader readCell with ⟨_, _, ⟨⟩, keptCell, sameCell⟩
  rw [sameCell]
  exact keptCell.allows (Json.embedsNothing_of_mem_parts
    (Json.embedsNothing_of_mem_parts literal within) inside)

/-- A notebook that was read from a text, written and read again.  If the texts of its metadata
values are read back, it is read again just when these values fit into their places, and then
as it was: with the same cells in their order, and so with the same tools and the same text.
They do fit if nothing was embedded in the first text. -/
theorem written_back {text : String} (accepted : ofText text = .ok notebook)
    (transfers : notebook.Transfers) :
    (∀ again, ofText notebook.toJson.compress = .ok again ↔ notebook.Fits ∧ again = notebook) ∧
    (∀ again, ofText notebook.toJson.pretty = .ok again ↔ notebook.Fits ∧ again = notebook) ∧
    ((Json.parse text).document.embedsNothing = true → notebook.Fits) := by
  have read := (Json.readText_eq_ok_iff.1 accepted).1
  have written : ∀ again,
      ofText notebook.toJson.compress = .ok again ↔ notebook.Fits ∧ again = notebook :=
    fun again => ofText_compress_iff_of_transfers (canonical_of_reader read) transfers
  refine ⟨written, fun again => ?_, fun literal => fits_of_embedsNothing literal read⟩
  rw [← written again, ofText, ofText, Json.readText_pretty, Json.readText_compress]

/-! ## Metadata that do not fit -/

/-- Arrays inside each other. -/
def nested : Nat → Json
  | 0 => .array []
  | levels + 1 => .array [nested levels]

theorem depth_nested (levels : Nat) : (nested levels).depth = levels + 1 := by
  induction levels with
  | zero => simp only [nested, Json.depth, Json.depthItems]
  | succ levels inductionHypothesis =>
      simp only [nested, Json.depth, Json.depthItems, inductionHypothesis, Nat.max_zero]

theorem canonical_nested (levels : Nat) : (nested levels).Canonical := by
  induction levels with
  | zero => trivial
  | succ levels inductionHypothesis => exact ⟨inductionHypothesis, trivial⟩

theorem durable_nested {levels : Nat} (shallow : levels < Json.maximalDepth) :
    (nested levels).Durable where
  steady := by
    clear shallow
    induction levels with
    | zero => trivial
    | succ levels inductionHypothesis => exact ⟨inductionHypothesis, trivial⟩
  plain := by
    clear shallow
    induction levels with
    | zero => trivial
    | succ levels inductionHypothesis => exact ⟨inductionHypothesis, trivial⟩
  shallow := by
    rw [depth_nested]
    exact shallow

/-- A durable value is found again in an object that holds its text under the embedding key. -/
theorem keep_embedded {value : Json} {key : Key} (named : key.text = .ok Json.embeddingKey)
    (entered : origin.enter = .ok inner) (canonical : value.Canonical) (durable : value.Durable) :
    keep origin (.object [(key, .string (.ok value.compress))] .closed) = .ok value := by
  have allows : (Origin.text Json.maximalDepth).Allows value.depth := durable.shallow
  have read : Json.readEmbedded (value.compress.length + 1) value.compress = .ok value := by
    rw [Json.readEmbedded, Outcome.mapError_eq_ok, Json.readText_compress,
      Json.written_of_steady value durable.steady]
    exact Json.keepWith_spelled _ Json.spellWritten value _ canonical durable.plain allows
  exact Json.keepWith_object_eq_ok_iff.2
    ⟨inner, entered, rfl, .inl ⟨key, value.compress, rfl, named, read⟩⟩

/-- A notebook without cells whose metadata are embedded as a text. -/
def embedding (metadata : Json) : Json :=
  .object [("cells", .array []),
    ("metadata", .object [(Json.embeddingKey, .string metadata.compress)])]

theorem ofText_embedding {metadata : Json} (canonical : metadata.Canonical)
    (durable : metadata.Durable) : ofText (embedding metadata).compress = .ok ⟨[], metadata⟩ := by
  have outer : (Origin.text Json.maximalDepth).enter = .ok (.text room) := rfl
  have middle : (Origin.text room).enter = .ok (.text (cellRoom + 1)) := rfl
  have named : (⟨Json.spellWritten Json.embeddingKey, .ok Json.embeddingKey⟩ : Key).text =
      .ok Json.embeddingKey := rfl
  have kept := keep_embedded named middle canonical durable
  simp only [ofText, Json.readText_compress, embedding, Json.written, Json.writtenItems,
    Json.writtenMembers, reader, Json.recordReader, outer, Outcome.ok_bind, Json.foldMembers,
    Json.Key.text, Fields.read, kept]
  rfl

/-- Metadata that are as deep as a text may be are read where they are embedded, and their own
text is read back.  Written in a notebook they are one level too deep. -/
theorem not_written_back_of_embedded :
    ofText (embedding (nested 126)).compress = .ok ⟨[], nested 126⟩ ∧
      Transfers ⟨[], nested 126⟩ ∧
      ∀ again, ofText (Notebook.toJson ⟨[], nested 126⟩).compress ≠ .ok again := by
  have durable : (nested 126).Durable := durable_nested (by decide)
  have accepted := ofText_embedding (canonical_nested 126) durable
  have transfers : Transfers ⟨[], nested 126⟩ :=
    ⟨nofun, fun _ => (Json.readText_keep_compress_iff (canonical_nested 126)).2 durable⟩
  refine ⟨accepted, transfers, fun again written => ?_⟩
  have fits := (((written_back accepted transfers).1 again).1 written).1.metadata
  rw [depth_nested] at fits
  exact absurd fits (by decide)

end Notebook

end Gradebook
