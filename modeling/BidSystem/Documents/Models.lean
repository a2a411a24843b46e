import BidSystem.Shared.Python
import BidSystem.AppendOnly.Ledger
import Mathlib.Data.Finset.Insert
import Mathlib.Tactic.SplitIfs

/-!
# Documents and their versions

The domain of `modules/documents/domain/models.py`: an uploaded source version
and the append-only history that a logical document is.

* `DocumentVersionModel` — the stored fields of a version.
* `DocumentVersion` — the frozen domain object; the checks of its constructor
  are part of the type.
* `Document` — a document with its versions, checked by one loop
  (`checkVersions`); `checkVersions_ok_iff` says that the loop accepts exactly
  the ledgers of the document's own versions.
* `Document.append` — the only way a document changes.
-/

namespace BidSystem.Documents

open AppendOnly

/-- `DocumentFormat`. -/
inductive DocumentFormat where
  | pdf
  | docx
  | pptx
deriving DecidableEq, Repr

/-- `MAX_DOCUMENT_PAGES`. -/
def maxDocumentPages : ℤ := 500

/-- `SHA256_HEX_LENGTH`. -/
def sha256HexLength : ℕ := 64

/-- `string.hexdigits`. -/
def hexdigits : List Char := "0123456789abcdefABCDEF".toList

/-- `_is_sha256`. -/
def isSha256 (value : String) : Bool :=
  value.length == sha256HexLength && value.toList.all fun character => character ∈ hexdigits

/-- A `datetime`; without `utcoffset` it is naive. -/
structure Timestamp where
  moment : Instant
  utcoffset : Option Duration
deriving DecidableEq, Repr

/-- Neither `tzinfo` nor `utcoffset()` is `None`. -/
def Timestamp.aware (timestamp : Timestamp) : Bool := timestamp.utcoffset.isSome

/-- The columns of `documents.document_version`. -/
structure DocumentVersionModel where
  id : String
  documentId : String
  name : String
  fileUrl : String
  normalizedPdfUrl : String
  fileFormat : DocumentFormat
  fileHash : String
  normalizedPdfHash : String
  version : ℤ
  uploadedAt : Timestamp
  expiresAt : Option Timestamp
  pageCount : ℤ
  parserVersion : String
  parseDurationMs : ℤ
deriving DecidableEq, Repr

/-- The checks of `DocumentVersion.__post_init__`, in their order. -/
def DocumentVersionModel.check (model : DocumentVersionModel) : Except PyError Unit :=
  if blank model.name then
    .error (.valueError "document name must not be blank")
  else if blank model.fileUrl || blank model.normalizedPdfUrl then
    .error (.valueError "document object URLs must not be blank")
  else if !isSha256 model.fileHash || !isSha256 model.normalizedPdfHash then
    .error (.valueError "document hashes must be SHA-256 hex digests")
  else if model.version < 1 then
    .error (.valueError "document version must be positive")
  else if !(1 ≤ model.pageCount && model.pageCount ≤ maxDocumentPages) then
    .error (.valueError "document page count is outside the supported boundary")
  else if blank model.parserVersion then
    .error (.valueError "parser version must not be blank")
  else if model.parseDurationMs < 0 then
    .error (.valueError "parse duration must not be negative")
  else if !model.uploadedAt.aware then
    .error (.valueError "upload time must be timezone-aware")
  else if model.expiresAt.any fun expiresAt => !expiresAt.aware then
    .error (.valueError "expiration time must be timezone-aware")
  else if model.fileFormat = .pdf ∧ (model.normalizedPdfUrl ≠ model.fileUrl ∨
      model.normalizedPdfHash ≠ model.fileHash) then
    .error (.valueError "PDF source must be its own normalized PDF")
  else .ok ()

/-- A check that raises a `ValueError`, before the later ones. -/
theorem valueError_of_guard {refuses : Prop} [Decidable refuses] {message : String}
    {later : Except PyError Unit} {error : PyError}
    (refused : (if refuses then .error (.valueError message) else later) = .error error)
    (next : later = .error error → ∃ message, error = .valueError message) :
    ∃ message, error = .valueError message := by
  by_cases here : refuses
  · rw [if_pos here] at refused
    cases refused
    exact ⟨message, rfl⟩
  · rw [if_neg here] at refused
    exact next refused

/-- Every check raises a `ValueError`. -/
theorem DocumentVersionModel.check_error {model : DocumentVersionModel} {error : PyError}
    (refused : model.check = .error error) : ∃ message, error = .valueError message := by
  unfold check at refused
  iterate 10 refine valueError_of_guard refused fun refused => ?_
  cases refused

/-- `DocumentVersion`: one immutable source upload and its canonical PDF parsing source. -/
structure DocumentVersion extends DocumentVersionModel where
  checked : toDocumentVersionModel.check = .ok ()
deriving Repr

namespace DocumentVersion

/-- The constructor with its `__post_init__` checks. -/
def ofModel (model : DocumentVersionModel) : Except PyError DocumentVersion :=
  match checked : model.check with
  | .ok () => .ok { toDocumentVersionModel := model, checked := checked }
  | .error error => .error error

/-- The constructor accepts what its checks accept, and keeps every field. -/
theorem ofModel_ok_iff {model : DocumentVersionModel} {version : DocumentVersion} :
    ofModel model = .ok version ↔ version.toDocumentVersionModel = model := by
  unfold ofModel
  constructor
  · intro built
    split at built
    · cases built
      rfl
    · cases built
  · rintro rfl
    split
    · rfl
    · next error refused =>
        rw [version.checked] at refused
        cases refused

theorem ofModel_error {model : DocumentVersionModel} {error : PyError}
    (refused : ofModel model = .error error) : ∃ message, error = .valueError message := by
  unfold ofModel at refused
  split at refused
  · cases refused
  · next failed =>
      cases refused
      exact DocumentVersionModel.check_error failed

end DocumentVersion

/-! ## Documents -/

/-- The loop of `Document.__post_init__`, with its `hashes` and `expected_version`. -/
def checkVersionsFrom (id : String) : List DocumentVersion → Finset String → ℤ → Except PyError Unit
  | [], _, _ => .ok ()
  | version :: versions, hashes, expectedVersion =>
      if version.documentId ≠ id then
        .error (.valueError "document version does not match its document")
      else if version.version ≠ expectedVersion then
        .error (.valueError "document versions must be contiguous and start at one")
      else if version.fileHash ∈ hashes then
        .error (.valueError "document file hash already exists in version history")
      else checkVersionsFrom id versions (insert version.fileHash hashes) (expectedVersion + 1)

/-- `Document.__post_init__`. -/
def checkVersions (id : String) (versions : List DocumentVersion) : Except PyError Unit :=
  if versions = [] then .error (.valueError "document must contain at least one version")
  else checkVersionsFrom id versions ∅ 1

/-- `Document`: a logical document with an append-only version history. -/
structure Document where
  id : String
  versions : List DocumentVersion
  checked : checkVersions id versions = .ok ()

namespace Document

/-- The constructor with its `__post_init__` checks. -/
def ofVersions (id : String) (versions : List DocumentVersion) : Except PyError Document :=
  match checked : checkVersions id versions with
  | .ok () => .ok { id := id, versions := versions, checked := checked }
  | .error error => .error error

/-- `Document.create`: a logical document from its required first version. -/
def create (documentId : String) (firstVersion : DocumentVersion) : Except PyError Document :=
  ofVersions documentId [firstVersion]

/-- `Document.append`: a new aggregate containing exactly the next distinct version. -/
def append (document : Document) (version : DocumentVersion) : Except PyError Document :=
  ofVersions document.id (document.versions ++ [version])

end Document

/-! ## What the loop accepts -/

/-- The versions are numbered without gaps and have distinct contents. -/
abbrev VersionLedger (versions : List DocumentVersionModel) : Prop :=
  Ledger DocumentVersionModel.version DocumentVersionModel.fileHash versions

section Loop

variable {id : String} {versions : List DocumentVersion} {hashes : Finset String}
  {expectedVersion : ℤ}

theorem checkVersionsFrom_ok_iff :
    checkVersionsFrom id versions hashes expectedVersion = .ok () ↔
      (∀ version ∈ versions, version.documentId = id) ∧
        Numbered (fun version : DocumentVersion => version.version) expectedVersion versions ∧
          (versions.map fun version => version.fileHash).Nodup ∧
            ∀ version ∈ versions, version.fileHash ∉ hashes := by
  induction versions generalizing hashes expectedVersion with
  | nil => simp [checkVersionsFrom, Numbered]
  | cons version versions ih =>
      rw [checkVersionsFrom]
      split_ifs with foreign gap repeated
      · simp [foreign]
      · simp [Numbered, gap]
      · simp [repeated]
      · rw [ih]
        simp only [List.forall_mem_cons, Numbered, List.map_cons, List.nodup_cons, List.mem_map,
          Finset.mem_insert, not_or]
        rw [not_not] at foreign gap
        constructor
        · rintro ⟨owned, numbered, distinct, fresh⟩
          refine ⟨⟨foreign, owned⟩, ⟨gap, numbered⟩, ⟨?_, distinct⟩, repeated,
            fun later member => (fresh later member).2⟩
          rintro ⟨later, member, same⟩
          exact (fresh later member).1 same
        · rintro ⟨⟨_, owned⟩, ⟨_, numbered⟩, ⟨absent, distinct⟩, _, fresh⟩
          refine ⟨owned, numbered, distinct, fun later member => ⟨fun same => ?_, fresh later member⟩⟩
          exact absent ⟨later, member, same⟩

end Loop

/-- **The constructor accepts exactly the nonempty ledgers of the document's own versions.** -/
theorem checkVersions_ok_iff {id : String} {versions : List DocumentVersion} :
    checkVersions id versions = .ok () ↔
      versions ≠ [] ∧ (∀ version ∈ versions, version.documentId = id) ∧
        Ledger (fun version : DocumentVersion => version.version)
          (fun version => version.fileHash) versions := by
  rw [checkVersions]
  split_ifs with empty
  · simp [empty]
  · rw [checkVersionsFrom_ok_iff]
    constructor
    · rintro ⟨owned, numbered, distinct, _⟩
      exact ⟨empty, owned, numbered, distinct⟩
    · rintro ⟨_, owned, numbered, distinct⟩
      exact ⟨owned, numbered, distinct, fun _ _ => Finset.notMem_empty _⟩

namespace Document

theorem ofVersions_ok_iff {id : String} {versions : List DocumentVersion} {document : Document} :
    ofVersions id versions = .ok document ↔ document.id = id ∧ document.versions = versions := by
  unfold ofVersions
  constructor
  · intro built
    split at built
    · cases built
      exact ⟨rfl, rfl⟩
    · cases built
  · rintro ⟨rfl, rfl⟩
    split
    · rfl
    · next error refused =>
        rw [document.checked] at refused
        cases refused

/-- What a document's versions are. -/
theorem valid (document : Document) :
    document.versions ≠ [] ∧ (∀ version ∈ document.versions, version.documentId = document.id) ∧
      Ledger (fun version : DocumentVersion => version.version)
        (fun version => version.fileHash) document.versions :=
  checkVersions_ok_iff.mp document.checked

theorem versions_of_append {document document' : Document} {version : DocumentVersion}
    (appended : document.append version = .ok document') :
    document'.id = document.id ∧ document'.versions = document.versions ++ [version] :=
  ofVersions_ok_iff.mp appended

/-- **A document takes exactly the next distinct version of its own.** -/
theorem append_ok_iff {document : Document} {version : DocumentVersion} :
    (∃ document', document.append version = .ok document') ↔
      version.documentId = document.id ∧ version.version = document.versions.length + 1 ∧
        version.fileHash ∉ document.versions.map fun version => version.fileHash := by
  obtain ⟨_, owned, ledger⟩ := document.valid
  constructor
  · rintro ⟨document', appended⟩
    obtain ⟨sameId, extended⟩ := versions_of_append appended
    obtain ⟨_, owned', ledger'⟩ := document'.valid
    rw [extended] at owned' ledger'
    obtain ⟨_, next, fresh⟩ := Ledger.concat_iff.mp ledger'
    exact ⟨(owned' version (by simp)).trans sameId, next, fresh⟩
  · rintro ⟨own, next, fresh⟩
    have accepted : checkVersions document.id (document.versions ++ [version]) = .ok () := by
      refine checkVersions_ok_iff.mpr ⟨by simp, fun other member => ?_,
        Ledger.concat_iff.mpr ⟨ledger, next, fresh⟩⟩
      rcases List.mem_append.mp member with old | new
      · exact owned other old
      · rw [List.mem_singleton.mp new]
        exact own
    exact ⟨⟨document.id, document.versions ++ [version], accepted⟩,
      ofVersions_ok_iff.mpr ⟨rfl, rfl⟩⟩

end Document

end BidSystem.Documents
