import BidSystem.Documents.Models
import BidSystem.ReadCommitted.Relation
import BidSystem.Shared.Sqlalchemy

/-!
# The document repository

The two tables of the `documents` schema, as the migrations declare them, and
`SqlAlchemyDocumentRepository` statement by statement.  Foreign keys and column
lengths are not modelled: a version row is only inserted in a transaction that
holds the row of its document.
-/

namespace BidSystem.Documents

open ReadCommitted

/-- The columns of `documents.document`. -/
structure DocumentModel where
  id : String
  createdAt : Timestamp
deriving DecidableEq, Repr

/-- A row of the schema. -/
inductive DocumentRow where
  | document (model : DocumentModel)
  | documentVersion (model : DocumentVersionModel)
deriving DecidableEq, Repr

/-- `documents.document`. -/
def documents : Relation DocumentRow DocumentModel where
  read | .document model => some model | _ => none
  make := .document
  read_make _ := rfl
  make_of_read stored row read := by cases stored <;> cases read; rfl

/-- `documents.document_version`. -/
def documentVersions : Relation DocumentRow DocumentVersionModel where
  read | .documentVersion model => some model | _ => none
  make := .documentVersion
  read_make _ := rfl
  make_of_read stored row read := by cases stored <;> cases read; rfl

theorem documents_disjoint_documentVersions : documents.Disjoint documentVersions :=
  fun _ => rfl

theorem documentVersions_disjoint_documents : documentVersions.Disjoint documents :=
  fun _ => rfl

/-- `DUPLICATE_CONTENT_CONSTRAINT`. -/
def duplicateContentConstraint : String := "uq_document_version_document_file_hash"

/-- `VERSION_SEQUENCE_CONSTRAINT`. -/
def versionSequenceConstraint : String := "uq_document_version_document_version_sequence"

/-- The unique constraints of the schema. -/
def documentConflict : Prog.Conflict DocumentRow String
  | .document old, .document new => if old.id = new.id then some "pk_document" else none
  | .documentVersion old, .documentVersion new =>
      if old.id = new.id then some "pk_document_version"
      else if old.documentId = new.documentId ∧ old.fileHash = new.fileHash then
        some duplicateContentConstraint
      else if old.documentId = new.documentId ∧ old.version = new.version then
        some versionSequenceConstraint
      else none
  | _, _ => none

/-- A version can be inserted exactly when its id is new, and its content and its
number are new to its document. -/
theorem violated_documentVersion_eq_none {database : List DocumentRow}
    {new : DocumentVersionModel} :
    Prog.violated documentConflict database (documentVersions.make new) = none ↔
      ∀ old ∈ documentVersions.rows database, old.id ≠ new.id ∧
        (old.documentId = new.documentId →
          old.fileHash ≠ new.fileHash ∧ old.version ≠ new.version) := by
  have conflict_eq_none : ∀ old : DocumentVersionModel,
      documentConflict (documentVersions.make old) (documentVersions.make new) = none ↔
        old.id ≠ new.id ∧ (old.documentId = new.documentId →
          old.fileHash ≠ new.fileHash ∧ old.version ≠ new.version) := by
    intro old
    simp only [documentConflict, documentVersions]
    split_ifs with id content number
    · simp [id]
    · simp [id, content]
    · simp [id, number]
    · simp only [id, not_false_eq_true, ne_eq, true_and, true_iff]
      exact fun same => ⟨fun hash => content ⟨same, hash⟩, fun version => number ⟨same, version⟩⟩
  unfold Prog.violated
  rw [List.findSome?_eq_none_iff]
  constructor
  · intro allowed old member
    exact (conflict_eq_none old).mp (allowed _ (documentVersions.mem_rows.mp member))
  · intro fresh stored member
    cases stored with
    | documentVersion old =>
        exact (conflict_eq_none old).mpr (fresh old (documentVersions.mem_rows.mpr member))
    | document model => rfl

/-! ## Prepared versions -/

/-- `PreparedDocumentVersion`: version facts complete except for the
repository-allocated sequence. -/
structure PreparedDocumentVersion where
  id : String
  documentId : String
  name : String
  fileUrl : String
  normalizedPdfUrl : String
  fileFormat : DocumentFormat
  fileHash : String
  normalizedPdfHash : String
  uploadedAt : Timestamp
  expiresAt : Option Timestamp
  pageCount : ℤ
  parserVersion : String
  parseDurationMs : ℤ
deriving DecidableEq, Repr

namespace PreparedDocumentVersion

/-- The facts with a sequence number. -/
def withVersion (prepared : PreparedDocumentVersion) (version : ℤ) : DocumentVersionModel where
  id := prepared.id
  documentId := prepared.documentId
  name := prepared.name
  fileUrl := prepared.fileUrl
  normalizedPdfUrl := prepared.normalizedPdfUrl
  fileFormat := prepared.fileFormat
  fileHash := prepared.fileHash
  normalizedPdfHash := prepared.normalizedPdfHash
  version := version
  uploadedAt := prepared.uploadedAt
  expiresAt := prepared.expiresAt
  pageCount := prepared.pageCount
  parserVersion := prepared.parserVersion
  parseDurationMs := prepared.parseDurationMs

/-- `PreparedDocumentVersion.to_version`. -/
def toVersion (prepared : PreparedDocumentVersion) (version : ℤ) : Except PyError DocumentVersion :=
  DocumentVersion.ofModel (prepared.withVersion version)

theorem toVersion_ok_iff {prepared : PreparedDocumentVersion} {number : ℤ}
    {version : DocumentVersion} :
    prepared.toVersion number = .ok version ↔
      version.toDocumentVersionModel = prepared.withVersion number :=
  DocumentVersion.ofModel_ok_iff

end PreparedDocumentVersion

/-! ## The repository -/

/-- A transaction body on the document tables. -/
abbrev DocumentProg := Prog DocumentRow String PyError

/-- `_raise_integrity_error`, for a unique violation. -/
def integrityError (constraint : String) : PyError :=
  if constraint = duplicateContentConstraint then .duplicateDocumentContentError
  else if constraint = versionSequenceConstraint then
    .bidSystemError .conflict "文档版本发生并发冲突"
  else .businessConflictError

/-- Flush one new row. -/
def flushRow {α : Type} (table : Relation DocumentRow α) (model : α) : DocumentProg Unit := do
  match ← Prog.insertInto table model with
  | some constraint => .raise (integrityError constraint)
  | none => return ()

/-- `create`.  The flush inserts the document before the version that refers to it. -/
def create (prepared : PreparedDocumentVersion) : DocumentProg DocumentVersion := do
  let version ← Prog.ofExcept (prepared.toVersion 1)
  flushRow documents { id := version.documentId, createdAt := version.uploadedAt }
  flushRow documentVersions version.toDocumentVersionModel
  return version

/-- `append` after its `SELECT ... FOR UPDATE`. -/
def appendLocked (documentId : String) (prepared : PreparedDocumentVersion) :
    Option DocumentModel → DocumentProg DocumentVersion
  | none => .raise .resourceNotFoundError
  | some _ => do
      let duplicates ← Prog.selectFrom documentVersions fun stored =>
        stored.documentId == documentId && stored.fileHash == prepared.fileHash
      if (← scalarOneOrNone (duplicates.take 1)).isSome then
        .raise .duplicateDocumentContentError
      else do
        let stored ← Prog.selectFrom documentVersions fun stored => stored.documentId == documentId
        match (stored.map DocumentVersionModel.version).max? with
        | none => .raise (.runtimeError "logical document has no first version")
        | some latestVersion => do
            let version ← Prog.ofExcept (prepared.toVersion (latestVersion + 1))
            flushRow documentVersions version.toDocumentVersionModel
            return version

/-- `append`. -/
def append (documentId : String) (prepared : PreparedDocumentVersion) :
    DocumentProg DocumentVersion :=
  if prepared.documentId ≠ documentId then
    .raise (.valueError "prepared version does not match requested document")
  else do
    let found ← Prog.lockFrom documents fun stored => stored.id == documentId
    appendLocked documentId prepared (← scalarOneOrNone found)

end BidSystem.Documents
