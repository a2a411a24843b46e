import BidSystem.Documents.Comparison
import Mathlib.Data.List.Nodup
import Mathlib.Data.Int.Notation

/-!
# Comparison symbols of document elements

Pictures and tables of `documents/domain/elements.py` collect the comparison
symbols of several texts.  A symbol names its text by a field and, for the cell of
a table, an id.

* `Source` — a text with its name.
* `Traceable` — symbols that can be traced to their texts: nothing is lost,
  duplicated or ambiguous.
* `combine_traceable` — the symbols of texts under distinct names are traceable.
-/

namespace BidSystem.Documents

open Regex

/-- `ComparisonInfo`. -/
structure ComparisonInfo where
  symbols : List ComparisonMatch

namespace ComparisonInfo

/-- `ComparisonInfo.from_text`. -/
def fromText (text sourceField : String) (sourceId : Option String := none) :
    Except PyError ComparisonInfo := do
  return ⟨← extractComparisonSymbols text sourceField sourceId⟩

/-- `ComparisonInfo.combine`. -/
def combine (items : List ComparisonInfo) : ComparisonInfo := ⟨items.flatMap symbols⟩

end ComparisonInfo

/-! ## Elements -/

/-- `PictureElement`, with the texts that it shows. -/
structure PictureElement where
  caption : Option String := none
  ocrText : Option String := none
  captionNotBlank : ∀ text ∈ caption, blank text = false
  ocrTextNotBlank : ∀ text ∈ ocrText, blank text = false

/-- `PictureElement.comparison`. -/
def PictureElement.comparison (picture : PictureElement) : Except PyError ComparisonInfo := do
  let mut sources := []
  if let some caption := picture.caption then
    sources := sources ++ [← ComparisonInfo.fromText caption "caption"]
  if let some ocrText := picture.ocrText then
    sources := sources ++ [← ComparisonInfo.fromText ocrText "ocr_text"]
  return ComparisonInfo.combine sources

/-- `TableCell`, with its place and its text. -/
structure TableCell where
  id : String
  rowStart : ℤ
  rowEnd : ℤ
  columnStart : ℤ
  columnEnd : ℤ
  text : String
  startNotNegative : 0 ≤ rowStart ∧ 0 ≤ columnStart
  endNotBefore : rowStart ≤ rowEnd ∧ columnStart ≤ columnEnd

/-- `TableCell.comparison`. -/
def TableCell.comparison (cell : TableCell) : Except PyError ComparisonInfo :=
  ComparisonInfo.fromText cell.text "cell.text" (some cell.id)

/-- The loop of `TableElement.__post_init__`, with its `cell_ids`. -/
def checkCellsFrom (rowCount columnCount : ℤ) :
    List TableCell → (cellIds : List String) → Except PyError Unit
  | [], _ => .ok ()
  | cell :: cells, cellIds =>
      if cell.id ∈ cellIds then .error (.valueError "table cell ids must be unique")
      else if rowCount ≤ cell.rowEnd ∨ columnCount ≤ cell.columnEnd then
        .error (.valueError "table cell coordinates exceed table dimensions")
      else checkCellsFrom rowCount columnCount cells (cell.id :: cellIds)

/-- `TableElement.__post_init__`. -/
def checkTable (rawType html : String) (rowCount columnCount : ℤ) (cells : List TableCell)
    (title markdown : Option String) : Except PyError Unit :=
  if blank rawType then .error (.valueError "raw parser type must not be blank")
  else if blank html ∧ cells = [] then
    .error (.valueError "table element must contain HTML or cells")
  else if rowCount < 1 ∨ columnCount < 1 then
    .error (.valueError "table dimensions must be positive")
  else if title.any blank then .error (.valueError "table title must be absent or non-blank")
  else if markdown.any blank then .error (.valueError "table markdown must be absent or non-blank")
  else checkCellsFrom rowCount columnCount cells []

/-- `TableElement`, with what `__post_init__` checks. -/
structure TableElement where
  rawType : String
  html : String
  rowCount : ℤ
  columnCount : ℤ
  cells : List TableCell
  title : Option String := none
  markdown : Option String := none
  checked : checkTable rawType html rowCount columnCount cells title markdown = .ok ()

/-- `TableElement.comparison`. -/
def TableElement.comparison (table : TableElement) : Except PyError ComparisonInfo := do
  let cellSources ← table.cells.mapM TableCell.comparison
  match table.title with
  | none => return ComparisonInfo.combine cellSources
  | some title =>
      let titleSource ← ComparisonInfo.fromText title "title"
      return ComparisonInfo.combine (titleSource :: cellSources)

/-! ## The loop over the cells -/

/-- **The loop accepts cells with distinct ids only.** -/
theorem nodup_of_checkCellsFrom {rowCount columnCount : ℤ} {cells : List TableCell}
    {cellIds : List String} (checked : checkCellsFrom rowCount columnCount cells cellIds = .ok ()) :
    (cells.map TableCell.id).Nodup ∧ ∀ cell ∈ cells, cell.id ∉ cellIds := by
  induction cells generalizing cellIds with
  | nil => exact ⟨List.nodup_nil, List.forall_mem_nil _⟩
  | cons cell cells ih =>
      rw [checkCellsFrom] at checked
      split_ifs at checked with known outside
      obtain ⟨distinct, fresh⟩ := ih checked
      refine ⟨List.nodup_cons.mpr ⟨fun member => ?_, distinct⟩,
        List.forall_mem_cons.mpr ⟨known, fun other member seen => ?_⟩⟩
      · obtain ⟨other, inCells, same⟩ := List.mem_map.mp member
        exact fresh other inCells (same ▸ List.mem_cons_self)
      · exact fresh other member (List.mem_cons_of_mem _ seen)

/-- The cells of a table have distinct ids. -/
theorem TableElement.nodup_ids (table : TableElement) : (table.cells.map TableCell.id).Nodup := by
  have checked := table.checked
  unfold checkTable at checked
  split_ifs at checked
  exact (nodup_of_checkCellsFrom checked).1

/-! ## Texts and their symbols -/

/-- A text, and how symbols name it. -/
structure Source where
  field : String
  id : Option String
  text : String

/-- How the symbols of a text name it. -/
def Source.name (source : Source) : String × Option String := (source.field, source.id)

/-- How a match names its text. -/
def ComparisonMatch.name (symbol : ComparisonMatch) : String × Option String :=
  (symbol.sourceField, symbol.sourceId)

/-- The key of a match. -/
def ComparisonMatch.key (symbol : ComparisonMatch) : String × Option String × ℕ :=
  (symbol.sourceField, symbol.sourceId, symbol.start)

/-- The symbols of the texts, in order, each with one text. -/
structure Traceable (sources : List Source) (symbols : List ComparisonMatch) : Prop where
  keys : (symbols.map ComparisonMatch.key).Nodup
  resolves : ∀ symbol ∈ symbols, ∃! source, source ∈ sources ∧ source.name = symbol.name
  sliced : ∀ symbol ∈ symbols, ∀ source ∈ sources, source.name = symbol.name →
    symbol.stop ≤ source.text.length ∧ slice source.text symbol.start symbol.stop = symbol.raw
  complete : ∃ found : Source → List ComparisonMatch,
    (∀ source ∈ sources, Scanned source.text source.field source.id (found source)) ∧
      symbols = sources.flatMap found

/-- The keys of the symbols of one text are distinct. -/
theorem nodup_keys_of_scanned {text sourceField : String} {sourceId : Option String}
    {symbols : List ComparisonMatch} (scanned : Scanned text sourceField sourceId symbols) :
    (symbols.map ComparisonMatch.key).Nodup := by
  refine List.pairwise_map.mpr (scanned.inOrder.imp fun {first second} before same => ?_)
  have start : first.start = second.start := congrArg (fun key => key.2.2) same
  have positive := first.positive
  omega

/-- **The symbols of texts under distinct names are traceable.** -/
theorem combine_traceable {sources : List Source} (distinct : (sources.map Source.name).Nodup)
    {found : Source → List ComparisonMatch}
    (scanned : ∀ source ∈ sources, Scanned source.text source.field source.id (found source)) :
    Traceable sources (sources.flatMap found) := by
  have named : ∀ source ∈ sources, ∀ symbol ∈ found source, source.name = symbol.name := by
    intro source inSources symbol inFound
    obtain ⟨field, id⟩ := (scanned source inSources).source symbol inFound
    rw [Source.name, ComparisonMatch.name, field, id]
  have unique : ∀ source ∈ sources, ∀ other ∈ sources, source.name = other.name → source = other :=
    fun source inSources other inOther same =>
      List.inj_on_of_nodup_map distinct inSources inOther same
  exact {
    keys := by
      rw [List.map_flatMap, List.nodup_flatMap]
      refine ⟨fun source inSources => nodup_keys_of_scanned (scanned source inSources), ?_⟩
      refine (List.pairwise_map.mp distinct).imp_of_mem fun {first second} inFirst inSecond apart => ?_
      rintro key inKeys inOthers
      obtain ⟨symbol, inFound, rfl⟩ := List.mem_map.mp inKeys
      obtain ⟨other, inOther, same⟩ := List.mem_map.mp inOthers
      refine apart ((named first inFirst symbol inFound).trans ?_)
      rw [named second inSecond other inOther]
      exact (congrArg (fun key => (key.1, key.2.1)) same).symm
    resolves := fun symbol member => by
      obtain ⟨source, inSources, inFound⟩ := List.mem_flatMap.mp member
      have name := named source inSources symbol inFound
      refine ⟨source, ⟨inSources, name⟩, ?_⟩
      rintro other ⟨inOther, otherName⟩
      exact unique other inOther source inSources (otherName.trans name.symm)
    sliced := fun symbol member source inSources name => by
      obtain ⟨origin, inOrigin, inFound⟩ := List.mem_flatMap.mp member
      have same := unique source inSources origin inOrigin
        (name.trans (named origin inOrigin symbol inFound).symm)
      obtain ⟨-, bounded, raw⟩ := (scanned origin inOrigin).sliced symbol inFound
      exact same ▸ ⟨bounded, raw.symm⟩
    complete := ⟨found, scanned, rfl⟩ }

/-- The symbols of a text. -/
def Source.symbols (source : Source) : List ComparisonMatch :=
  match extractComparisonSymbols source.text source.field source.id with
  | .ok symbols => symbols
  | .error _ => []

theorem Source.fromText_eq_ok (source : Source) (named : blank source.field = false) :
    ComparisonInfo.fromText source.text source.field source.id = .ok ⟨source.symbols⟩ := by
  obtain ⟨symbols, returned, -⟩ := extractComparisonSymbols_eq_ok source.text named source.id
  rw [ComparisonInfo.fromText, Source.symbols, returned]
  rfl

theorem Source.scanned (source : Source) (named : blank source.field = false) :
    Scanned source.text source.field source.id source.symbols := by
  obtain ⟨symbols, returned, tokens, sources⟩ :=
    extractComparisonSymbols_eq_ok source.text named source.id
  rw [Source.symbols, returned]
  exact scanned_of_tokens tokens sources

/-- Combining what was found in several texts. -/
theorem combine_symbols (sources : List Source) :
    ComparisonInfo.combine (sources.map fun source => ⟨source.symbols⟩) =
      ⟨sources.flatMap Source.symbols⟩ := by
  rw [ComparisonInfo.combine, List.flatMap_map]

/-! ## Pictures and tables -/

/-- The texts of a picture. -/
def PictureElement.sources (picture : PictureElement) : List Source :=
  (picture.caption.toList.map fun text => ⟨"caption", none, text⟩) ++
    picture.ocrText.toList.map fun text => ⟨"ocr_text", none, text⟩

/-- The text of a cell. -/
def TableCell.source (cell : TableCell) : Source := ⟨"cell.text", some cell.id, cell.text⟩

/-- The texts of a table. -/
def TableElement.sources (table : TableElement) : List Source :=
  (table.title.toList.map fun text => ⟨"title", none, text⟩) ++ table.cells.map TableCell.source

theorem PictureElement.comparison_eq_ok (picture : PictureElement) :
    picture.comparison = .ok ⟨picture.sources.flatMap Source.symbols⟩ := by
  have caption : ∀ text, ComparisonInfo.fromText text "caption" =
      .ok ⟨Source.symbols ⟨"caption", none, text⟩⟩ :=
    fun text => Source.fromText_eq_ok ⟨"caption", none, text⟩ (show blank "caption" = false by decide)
  have ocrText : ∀ text, ComparisonInfo.fromText text "ocr_text" =
      .ok ⟨Source.symbols ⟨"ocr_text", none, text⟩⟩ :=
    fun text => Source.fromText_eq_ok ⟨"ocr_text", none, text⟩ (show blank "ocr_text" = false by decide)
  rw [← combine_symbols]
  unfold PictureElement.comparison PictureElement.sources
  cases picture.caption <;> cases picture.ocrText <;> simp only [caption, ocrText] <;> rfl

theorem TableCell.comparison_eq_ok (cell : TableCell) :
    cell.comparison = .ok ⟨cell.source.symbols⟩ :=
  cell.source.fromText_eq_ok (show blank "cell.text" = false by decide)

theorem TableCell.mapM_comparison_eq_ok (cells : List TableCell) :
    cells.mapM TableCell.comparison =
      .ok ((cells.map TableCell.source).map fun source => ⟨source.symbols⟩) := by
  induction cells with
  | nil => rfl
  | cons cell cells ih =>
      rw [List.mapM_cons, cell.comparison_eq_ok, ih]
      rfl

theorem TableElement.comparison_eq_ok (table : TableElement) :
    table.comparison = .ok ⟨table.sources.flatMap Source.symbols⟩ := by
  have title : ∀ text, ComparisonInfo.fromText text "title" =
      .ok ⟨Source.symbols ⟨"title", none, text⟩⟩ :=
    fun text => Source.fromText_eq_ok ⟨"title", none, text⟩
      (show blank "title" = false by decide)
  rw [← combine_symbols]
  unfold TableElement.comparison TableElement.sources
  rw [TableCell.mapM_comparison_eq_ok, List.map_append]
  cases table.title with
  | none => rfl
  | some text =>
      change (ComparisonInfo.fromText text "title" >>= fun source =>
        Except.ok (ComparisonInfo.combine (source :: _))) = _
      rw [title]
      rfl

/-- The texts of a table have distinct names. -/
theorem TableElement.nodup_sources (table : TableElement) :
    (table.sources.map Source.name).Nodup := by
  have cells : ((table.cells.map TableCell.source).map Source.name).Nodup := by
    rw [List.map_map]
    refine List.Nodup.of_map (fun name => name.2) ?_
    rw [List.map_map]
    have named : (table.cells.map fun cell => some cell.id) =
        (table.cells.map TableCell.id).map some := by
      rw [List.map_map]
      rfl
    exact named ▸ table.nodup_ids.map fun _ _ => Option.some.inj
  unfold TableElement.sources
  rw [List.map_append, List.nodup_append]
  refine ⟨?_, cells, ?_⟩
  · cases table.title <;> simp
  · intro titleName inTitle cellName inCells same
    obtain ⟨source, inSources, rfl⟩ := List.mem_map.mp inTitle
    obtain ⟨text, -, rfl⟩ := List.mem_map.mp inSources
    obtain ⟨source, inSources, rfl⟩ := List.mem_map.mp inCells
    obtain ⟨cell, -, rfl⟩ := List.mem_map.mp inSources
    cases congrArg Prod.snd same

/-- The texts of a picture have distinct names. -/
theorem PictureElement.nodup_sources (picture : PictureElement) :
    (picture.sources.map Source.name).Nodup := by
  unfold PictureElement.sources
  cases picture.caption <;> cases picture.ocrText <;> simp [Source.name]

/-- The text of a source is named by a constant. -/
theorem TableElement.named (table : TableElement) :
    ∀ source ∈ table.sources, blank source.field = false := by
  intro source member
  rcases List.mem_append.mp member with inTitle | inCells
  · obtain ⟨text, -, rfl⟩ := List.mem_map.mp inTitle
    exact show blank "title" = false by decide
  · obtain ⟨cell, -, rfl⟩ := List.mem_map.mp inCells
    exact show blank "cell.text" = false by decide

theorem PictureElement.named (picture : PictureElement) :
    ∀ source ∈ picture.sources, blank source.field = false := by
  intro source member
  rcases List.mem_append.mp member with inCaption | inOcrText
  · obtain ⟨text, -, rfl⟩ := List.mem_map.mp inCaption
    exact show blank "caption" = false by decide
  · obtain ⟨text, -, rfl⟩ := List.mem_map.mp inOcrText
    exact show blank "ocr_text" = false by decide

/-- What a symbol of a table names: its title, or one of its cells. -/
structure TableSymbol (table : TableElement) (symbol : ComparisonMatch) : Prop where
  inTitle : symbol.sourceId = none → symbol.sourceField = "title" ∧
    ∃ title, table.title = some title ∧ slice title symbol.start symbol.stop = symbol.raw
  inCell : ∀ id, symbol.sourceId = some id → symbol.sourceField = "cell.text" ∧
    (∃! cell, cell ∈ table.cells ∧ cell.id = id) ∧
    ∀ cell ∈ table.cells, cell.id = id → slice cell.text symbol.start symbol.stop = symbol.raw

/-- A symbol of a table names its title or one of its cells. -/
theorem tableSymbol_of_traceable {table : TableElement} {symbols : List ComparisonMatch}
    (traceable : Traceable table.sources symbols) {symbol : ComparisonMatch}
    (member : symbol ∈ symbols) : TableSymbol table symbol := by
  obtain ⟨source, ⟨inSources, name⟩, -⟩ := traceable.resolves symbol member
  have raw := (traceable.sliced symbol member source inSources name).2
  have field : source.field = symbol.sourceField := congrArg Prod.fst name
  have id : source.id = symbol.sourceId := congrArg Prod.snd name
  rcases List.mem_append.mp inSources with inTitle | inCells
  · obtain ⟨title, isTitle, rfl⟩ := List.mem_map.mp inTitle
    refine ⟨fun _ => ⟨field.symm, title, Option.mem_toList.mp isTitle, raw⟩, fun cellId inCell => ?_⟩
    cases id.trans inCell
  · obtain ⟨cell, isCell, rfl⟩ := List.mem_map.mp inCells
    refine ⟨fun inTitle => ?_, fun cellId inCell => ?_⟩
    · cases id.trans inTitle
    · obtain rfl : cell.id = cellId := Option.some.inj (id.trans inCell)
      have unique : ∀ other ∈ table.cells, other.id = cell.id → other = cell :=
        fun other inOther same => List.inj_on_of_nodup_map table.nodup_ids inOther isCell same
      refine ⟨field.symm, ⟨cell, ⟨isCell, rfl⟩, fun other named => unique other named.1 named.2⟩, ?_⟩
      intro other inOther same
      rw [unique other inOther same]
      exact raw

/-- **Comparison symbols are traceable** to the texts of a table or a picture. -/
theorem comparison_traceable :
    (∀ table : TableElement, ∃ info, table.comparison = .ok info ∧
      Traceable table.sources info.symbols ∧ ∀ symbol ∈ info.symbols, TableSymbol table symbol) ∧
    ∀ picture : PictureElement, ∃ info, picture.comparison = .ok info ∧
      Traceable picture.sources info.symbols := by
  refine ⟨fun table => ?_, fun picture => ?_⟩
  · have traceable := combine_traceable table.nodup_sources
      fun source member => source.scanned (table.named source member)
    exact ⟨_, table.comparison_eq_ok, traceable, fun _ => tableSymbol_of_traceable traceable⟩
  · exact ⟨_, picture.comparison_eq_ok, combine_traceable picture.nodup_sources
      fun source member => source.scanned (picture.named source member)⟩

end BidSystem.Documents
