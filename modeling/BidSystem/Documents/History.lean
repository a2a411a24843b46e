import BidSystem.Documents.Repository

/-!
# Stored histories

What the rows of one document say, and what `create` and `append` make of them
when they run alone.

* `history` — the version rows of a document, sorted by version.
* `Document.load` — the aggregate that the constructors make of a history.
* `Stored` — the rows of a document: none at all, or its row and a ledger of
  its versions.
* `append_effect` — the repository's `append`, run on the rows of a document,
  refuses a stored content, and otherwise does what `Document.append` does.
-/

namespace BidSystem.Documents

open ReadCommitted AppendOnly

/-- The document a row belongs to. -/
def DocumentRow.documentId : DocumentRow → String
  | .document model => model.id
  | .documentVersion model => model.documentId

/-- The version rows, sorted by version. -/
def history (rows : List DocumentRow) : List DocumentVersionModel :=
  byNumber DocumentVersionModel.version (documentVersions.rows rows)

/-- The aggregate of a history. -/
def Document.load (documentId : String) (models : List DocumentVersionModel) :
    Except PyError Document := do
  let versions ← models.mapM DocumentVersion.ofModel
  Document.ofVersions documentId versions

/-- The rows of one document. -/
inductive Stored (documentId : String) (rows : List DocumentRow) : Prop
  | absent (none : rows = [])
  | present (model : DocumentModel) (named : model.id = documentId)
      (only : documents.rows rows = [model]) (versioned : documentVersions.rows rows ≠ [])
      (owned : ∀ version ∈ documentVersions.rows rows, version.documentId = documentId)
      (checked : ∀ version ∈ documentVersions.rows rows, version.check = .ok ())
      (ledger : VersionLedger (history rows))

/-! ## Loading -/

/-- Checked rows are versions. -/
theorem mapM_ofModel {models : List DocumentVersionModel}
    (checked : ∀ model ∈ models, model.check = .ok ()) :
    ∃ versions, models.mapM DocumentVersion.ofModel = .ok versions ∧
      versions.map DocumentVersion.toDocumentVersionModel = models := by
  induction models with
  | nil => exact ⟨[], rfl, rfl⟩
  | cons model models ih =>
      obtain ⟨versions, built, fields⟩ := ih fun later member =>
        checked later (List.mem_cons_of_mem _ member)
      have head : DocumentVersion.ofModel model =
          .ok { toDocumentVersionModel := model, checked := checked model List.mem_cons_self } :=
        DocumentVersion.ofModel_ok_iff.mpr rfl
      refine ⟨⟨model, checked model List.mem_cons_self⟩ :: versions, ?_, ?_⟩
      · rw [List.mapM_cons, head, built]
        rfl
      · rw [List.map_cons, fields]

theorem numbered_map {versions : List DocumentVersion} {first : ℤ} :
    Numbered DocumentVersionModel.version first
        (versions.map DocumentVersion.toDocumentVersionModel) ↔
      Numbered (fun version : DocumentVersion => version.version) first versions := by
  induction versions generalizing first with
  | nil => exact Iff.rfl
  | cons version versions ih =>
      rw [List.map_cons, Numbered, Numbered, ih]

theorem ledger_map {versions : List DocumentVersion} :
    VersionLedger (versions.map DocumentVersion.toDocumentVersionModel) ↔
      Ledger (fun version : DocumentVersion => version.version)
        (fun version => version.fileHash) versions := by
  constructor
  · rintro ⟨numbered, distinct⟩
    rw [List.map_map] at distinct
    exact ⟨numbered_map.mp numbered, distinct⟩
  · rintro ⟨numbered, distinct⟩
    refine ⟨numbered_map.mpr numbered, ?_⟩
    rw [List.map_map]
    exact distinct

/-- **A stored document is a valid aggregate.** -/
theorem Stored.load {documentId : String} {rows : List DocumentRow}
    (stored : Stored documentId rows) (nonempty : rows ≠ []) :
    ∃ document, Document.load documentId (history rows) = .ok document ∧
      document.versions.map DocumentVersion.toDocumentVersionModel = history rows := by
  cases stored with
  | absent none => exact absurd none nonempty
  | present model named only versioned owned checked ledger =>
      have sortedChecked : ∀ version ∈ history rows, version.check = .ok () :=
        fun version member => checked version (mem_byNumber.mp member)
      obtain ⟨versions, built, fields⟩ := mapM_ofModel sortedChecked
      have accepted : checkVersions documentId versions = .ok () := by
        refine checkVersions_ok_iff.mpr ⟨?_, fun version member => ?_, ?_⟩
        · rintro rfl
          exact versioned (byNumber_eq_nil.mp fields.symm)
        · have stored : version.toDocumentVersionModel ∈ history rows := by
            rw [← fields]
            exact List.mem_map_of_mem member
          exact owned version.toDocumentVersionModel (mem_byNumber.mp stored)
        · rw [← ledger_map, fields]
          exact ledger
      refine ⟨⟨documentId, versions, accepted⟩, ?_, fields⟩
      rw [Document.load, built]
      exact Document.ofVersions_ok_iff.mpr ⟨rfl, rfl⟩

/-- Loading one more row is appending its version. -/
theorem Document.load_concat {documentId : String} {models : List DocumentVersionModel}
    {document : Document} {version : DocumentVersion}
    (loaded : Document.load documentId models = .ok document) :
    Document.load documentId (models ++ [version.toDocumentVersionModel]) =
      document.append version := by
  rw [Document.load] at loaded
  cases built : models.mapM DocumentVersion.ofModel with
  | error error =>
      rw [built] at loaded
      cases loaded
  | ok versions =>
      rw [built] at loaded
      obtain ⟨id, sameVersions⟩ := Document.ofVersions_ok_iff.mp loaded
      have last : DocumentVersion.ofModel version.toDocumentVersionModel = .ok version :=
        DocumentVersion.ofModel_ok_iff.mpr rfl
      rw [Document.load, List.mapM_append, built, List.mapM_cons, last, Document.append, id,
        sameVersions]
      rfl

/-! ## The repository on the rows of one document -/

/-- What `append` does on the rows of a document. -/
inductive AppendEffect (prepared : PreparedDocumentVersion) (rows : List DocumentRow) :
    Except PyError DocumentVersion × List DocumentRow → Prop
  | missing (none : rows = []) : AppendEffect prepared rows (.error .resourceNotFoundError, rows)
  | duplicate (nonempty : rows ≠ [])
      (repeated : prepared.fileHash ∈ (history rows).map DocumentVersionModel.fileHash) :
      AppendEffect prepared rows (.error .duplicateDocumentContentError, rows)
  | refused (nonempty : rows ≠ [])
      (new : prepared.fileHash ∉ (history rows).map DocumentVersionModel.fileHash)
      (message : String) : AppendEffect prepared rows (.error (.valueError message), rows)
  | appended (nonempty : rows ≠ [])
      (new : prepared.fileHash ∉ (history rows).map DocumentVersionModel.fileHash)
      (version : DocumentVersion) (fields : version.toDocumentVersionModel =
        prepared.withVersion ((history rows).length + 1)) :
      AppendEffect prepared rows
        (.ok version, rows ++ [documentVersions.make version.toDocumentVersionModel])

section Effects

variable {documentId : String} {rows : List DocumentRow} {prepared : PreparedDocumentVersion}

theorem length_history : (history rows).length = (documentVersions.rows rows).length :=
  List.length_insertionSort ..

theorem mem_history {version : DocumentVersionModel} :
    version ∈ history rows ↔ version ∈ documentVersions.rows rows :=
  mem_byNumber

/-- A version that the constraints accept is inserted. -/
theorem exec_flushVersion {model : DocumentVersionModel} {A : Type}
    (next : Unit → DocumentProg A)
    (fresh : Prog.violated documentConflict rows (documentVersions.make model) = none) :
    (flushRow documentVersions model >>= next).exec documentConflict rows =
      (next ()).exec documentConflict (rows ++ [documentVersions.make model]) := by
  rw [flushRow, Prog.bind_assoc, Prog.exec_insertInto_bind, fresh]
  rfl

/-- The duplicate probe finds a row exactly if the content is stored. -/
theorem take_filter_eq_nil (owned : ∀ version ∈ documentVersions.rows rows,
      version.documentId = documentId) :
    ((documentVersions.rows rows).filter fun stored =>
      stored.documentId == documentId && stored.fileHash == prepared.fileHash).take 1 = [] ↔
        prepared.fileHash ∉ (history rows).map DocumentVersionModel.fileHash := by
  rw [List.take_eq_nil_iff, List.filter_eq_nil_iff]
  constructor
  · rintro (impossible | none) member
    · cases impossible
    · obtain ⟨version, versionMember, same⟩ := List.mem_map.mp member
      refine none version (mem_history.mp versionMember) ?_
      rw [owned version (mem_history.mp versionMember), same]
      simp
  · refine fun absent => .inr fun version member same => absent ?_
    rw [Bool.and_eq_true, beq_iff_eq, beq_iff_eq] at same
    exact List.mem_map.mpr ⟨version, mem_history.mpr member, same.2⟩

/-- At most one row answers the duplicate probe. -/
theorem scalarOneOrNone_take {α R : Type} (found : List α) :
    scalarOneOrNone (found.take 1) = (.done found.head? : Prog R String PyError (Option α)) := by
  cases found <;> rfl

/-- **The effect of `append` alone on the rows of its document.** -/
theorem append_effect (stored : Stored documentId rows) (own : prepared.documentId = documentId)
    (fresh : ∀ old ∈ documentVersions.rows rows, old.id ≠ prepared.id) :
    AppendEffect prepared rows ((append documentId prepared).exec documentConflict rows) := by
  rw [append, if_neg (not_not.mpr own), Prog.exec_lockFrom_bind]
  cases stored with
  | absent none =>
      subst none
      exact .missing rfl
  | present model named only versioned owned checked ledger =>
      have nonempty : rows ≠ [] := by
        rintro rfl
        exact versioned rfl
      have everyRow : (documentVersions.rows rows).filter (fun version =>
          version.documentId == documentId) = documentVersions.rows rows :=
        List.filter_eq_self.mpr fun version member => beq_iff_eq.mpr (owned version member)
      have latest : ((documentVersions.rows rows).map DocumentVersionModel.version).max? =
          some ((history rows).length : ℤ) := by
        rw [ledger.max_number versioned, length_history]
      have found : [model].filter (fun stored => stored.id == documentId) = [model] := by
        rw [← named]
        simp
      have probe := @take_filter_eq_nil documentId rows prepared owned
      rw [only, found, scalarOneOrNone, Prog.bind_done, appendLocked, Prog.exec_selectFrom_bind,
        scalarOneOrNone_take, Prog.bind_done]
      generalize (documentVersions.rows rows).filter (fun stored =>
        stored.documentId == documentId && stored.fileHash == prepared.fileHash) = duplicates
        at probe
      cases duplicates with
      | cons duplicate duplicates =>
          refine .duplicate nonempty ?_
          by_contra absent
          cases probe.mpr absent
      | nil =>
          have new := probe.mp rfl
          rw [List.head?_nil, Option.isSome_none, if_neg Bool.false_ne_true,
            Prog.exec_selectFrom_bind, everyRow, latest]
          dsimp only
          cases built : prepared.toVersion ((history rows).length + 1) with
          | error error =>
              obtain ⟨message, rfl⟩ := DocumentVersion.ofModel_error built
              exact .refused nonempty new message
          | ok version =>
              have fields := PreparedDocumentVersion.toVersion_ok_iff.mp built
              rw [Prog.bind_ofExcept_ok, exec_flushVersion]
              · exact .appended nonempty new version fields
              · refine violated_documentVersion_eq_none.mpr fun old member => ?_
                rw [fields]
                refine ⟨fresh old member, fun _ => ⟨fun same => new ?_, fun same => ?_⟩⟩
                · exact List.mem_map.mpr ⟨old, mem_history.mpr member, same⟩
                · have below := ledger.numbered.lt_next (mem_history.mpr member)
                  have isNext : old.version = (history rows).length + 1 := same
                  rw [isNext, add_comm] at below
                  exact lt_irrefl _ below

/-- **The effect of `create` where there is no row of its document.** -/
theorem create_effect {version : DocumentVersion} (built : prepared.toVersion 1 = .ok version) :
    (create prepared).exec documentConflict [] =
      (.ok version, [documents.make { id := version.documentId, createdAt := version.uploadedAt },
        documentVersions.make version.toDocumentVersionModel]) := by
  rw [create, built]
  rfl

/-! ## Stored histories grow -/

/-- A created document is stored. -/
theorem Stored.create {version : DocumentVersion}
    (fields : version.toDocumentVersionModel = prepared.withVersion 1) :
    Stored prepared.documentId [documents.make
        { id := version.documentId, createdAt := version.uploadedAt },
      documentVersions.make version.toDocumentVersionModel] := by
  have documentId : version.documentId = prepared.documentId :=
    (congrArg DocumentVersionModel.documentId fields :)
  have number : version.version = 1 := (congrArg DocumentVersionModel.version fields :)
  refine .present _ documentId rfl nofun (fun other member => ?_) (fun other member => ?_) ?_
  · rw [List.mem_singleton.mp (show other ∈ [version.toDocumentVersionModel] from member)]
    exact documentId
  · rw [List.mem_singleton.mp (show other ∈ [version.toDocumentVersionModel] from member)]
    exact version.checked
  · exact ⟨⟨number, trivial⟩, List.nodup_singleton _⟩

/-- An appended version is the last of the history. -/
theorem history_append {version : DocumentVersion} (ledger : VersionLedger (history rows))
    (fields : version.toDocumentVersionModel =
      prepared.withVersion ((history rows).length + 1)) :
    history (rows ++ [documentVersions.make version.toDocumentVersionModel]) =
      history rows ++ [version.toDocumentVersionModel] := by
  rw [history, documentVersions.rows_append, documentVersions.rows_singleton_make]
  refine ledger.byNumber_next ?_
  rw [fields, ← length_history]
  rfl

/-- **An appended version keeps the document stored.** -/
theorem Stored.append {version : DocumentVersion} (stored : Stored documentId rows)
    (nonempty : rows ≠ []) (own : prepared.documentId = documentId)
    (new : prepared.fileHash ∉ (history rows).map DocumentVersionModel.fileHash)
    (fields : version.toDocumentVersionModel =
      prepared.withVersion ((history rows).length + 1)) :
    Stored documentId (rows ++ [documentVersions.make version.toDocumentVersionModel]) := by
  cases stored with
  | absent none => exact absurd none nonempty
  | present model named only versioned owned checked ledger =>
      have versionRows : documentVersions.rows
          (rows ++ [documentVersions.make version.toDocumentVersionModel]) =
            documentVersions.rows rows ++ [version.toDocumentVersionModel] := by
        rw [documentVersions.rows_append, documentVersions.rows_singleton_make]
      refine .present model named ?_ ?_ (fun other member => ?_) (fun other member => ?_) ?_
      · rw [documents.rows_append, only]
        rfl
      · rw [versionRows]
        simp
      · rw [versionRows] at member
        rcases List.mem_append.mp member with old | isLast
        · exact owned other old
        · rw [List.mem_singleton.mp isLast, fields]
          exact own
      · rw [versionRows] at member
        rcases List.mem_append.mp member with old | isLast
        · exact checked other old
        · rw [List.mem_singleton.mp isLast]
          exact version.checked
      · rw [history_append ledger fields]
        refine Ledger.concat_iff.mpr ⟨ledger, ?_, ?_⟩
        · rw [fields]
          rfl
        · rw [fields]
          exact new

end Effects

end BidSystem.Documents
