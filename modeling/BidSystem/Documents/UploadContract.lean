import BidSystem.Documents.Staging
import BidSystem.Documents.Upload
import BidSystem.ReadCommitted.Binding
import BidSystem.Shared.Strings

/-!
# What an upload raises

`UploadDocumentHandler.handle` over ports that keep their promises and the document tables.
The constructor of `DocumentVersion` checks the version once more inside the transaction,
when the objects have been stored.

The driver of the database cannot send a text with U+0000: `handleBound` is `handle` over it.

* `UploadPorts.Honoured`, `DocumentStore` — what the ports and the tables promise.
* `proper_prepare` — of the checks of the constructor only that of `expires_at` can fail.
* `handleBound_documentStore` — uploads keep what the tables promise.
* `upload_settles_iff` — the uploads that end in a version or in a `BidSystemError`.
* `naive_expiry_not_settled` — an upload that expires at a naive time does not.
-/

namespace BidSystem.Documents

open ReadCommitted Interaction ContentAddressed

/-! ## The driver -/

/-- What an upload raises: an error of the modelled code, or psycopg's `DataError`. -/
inductive UploadRaised where
  | error (error : PyError)
  | dataError
deriving DecidableEq, Repr

/-- The texts that the `INSERT` of a row sends. -/
def DocumentRow.texts : DocumentRow → List String
  | .document _ => []
  | .documentVersion model =>
      [model.name, model.fileUrl, model.normalizedPdfUrl, model.fileHash, model.normalizedPdfHash,
        model.parserVersion]

/-- psycopg sends the texts without U+0000. -/
def psycopg : Driver DocumentRow PyError UploadRaised where
  binds row := row.texts.all fun text => nul ∉ text.toList
  refusal := .dataError
  raised := .error

/-- A repository call over the driver. -/
def transactBound {A : Type} (body : DocumentProg A) : Action UploadState UploadRaised A := do
  match ← nextFault.mapError .error with
  | some fault => .raise (.error fault.error)
  | none => fun state =>
      let ran := (body.through psycopg).atomically documentConflict state.rows
      (ran.1, { state with rows := ran.2 })

/-- The end of `handle`, over the driver. -/
def persistBound (command : UploadDocumentCommand) (prepared : PreparedDocumentVersion) :
    Action UploadState UploadRaised DocumentVersion :=
  match command.documentId with
  | none => transactBound (create prepared)
  | some documentId => transactBound (append documentId prepared)

/-- `UploadDocumentHandler.handle`, over the driver. -/
def handleBound (ports : UploadPorts) (command : UploadDocumentCommand) :
    Action UploadState UploadRaised DocumentVersion := do
  let inspected ← (inspect ports command).mapError .error
  let prepared ← (storeFiles ports command inspected).mapError .error
  persistBound command prepared

section Driver

variable {ports : UploadPorts} {command : UploadDocumentCommand} {state : UploadState}

/-- A repository call over the driver does what it does by itself, or the driver refuses. -/
theorem transactBound_cases {A : Type} (body : DocumentProg A) (state : UploadState) :
    ((transactBound body state).1 = .error .dataError ∧
        (transactBound body state).2.rows = state.rows) ∨
      transactBound body state = (transact body).mapError .error state := by
  rw [transactBound, transact, Action.mapError, nextFault_bind, Action.bind_of_ok
    (Action.mapError_of_ok (show nextFault state = (.ok _, _) from rfl))]
  cases state.faults.head?.join with
  | some fault => exact .inr rfl
  | none =>
      dsimp only
      rcases Prog.atomically_through_cases psycopg documentConflict body state.rows with
        refused | same
      · rw [refused]
        exact .inl ⟨rfl, rfl⟩
      · rw [same]
        exact .inr rfl

/-- **The handler over the driver is the handler**, unless the driver refuses a row. -/
theorem handleBound_cases (ports : UploadPorts) (command : UploadDocumentCommand)
    (state : UploadState) :
    ((handleBound ports command state).1 = .error .dataError ∧
        (handleBound ports command state).2.rows = state.rows) ∨
      handleBound ports command state = (handle ports command).mapError .error state := by
  have untouched := inspect_untouched ports command state
  rw [handleBound, handle, Action.mapError]
  rcases inspecting : inspect ports command state with ⟨error | inspected, middle⟩
  · rw [Action.bind_of_error (Action.mapError_of_error inspecting),
      Action.bind_of_error inspecting]
    exact .inr rfl
  rw [Action.bind_of_ok (Action.mapError_of_ok inspecting), Action.bind_of_ok inspecting]
  rcases storing : storeFiles ports command inspected middle with ⟨error | prepared, last⟩
  · rw [Action.bind_of_error (Action.mapError_of_error storing), Action.bind_of_error storing]
    exact .inr rfl
  rw [Action.bind_of_ok (Action.mapError_of_ok storing), Action.bind_of_ok storing, persistBound,
    persist]
  rw [inspecting] at untouched
  have sameRows : last.rows = state.rows := (storeFiles_rows storing).trans untouched.2
  rw [← sameRows]
  cases command.documentId with
  | none => exact transactBound_cases _ last
  | some documentId => exact transactBound_cases _ last

end Driver

/-! ## What is promised -/

/-- What the ports promise: beside what they return, they raise errors of the application
only, and pypdf those that `_read_pdf_metadata` turns into one. -/
structure UploadPorts.Honoured (ports : UploadPorts) : Prop where
  digests : ∀ content, LowerDigest (ports.sha256 content)
  detect : ∀ path files error, ports.detect path files = .error error →
    error.isBidSystemError = true
  ensureSafe : ∀ path fileFormat files error, ports.ensureSafe path fileFormat files =
    .error error → error.isBidSystemError = true
  pdfReader : ∀ content error, ports.pdfReader content = .error error →
    PyError.isPdfFailure error = true
  isEncrypted : ∀ content reader error, ports.pdfReader content = .ok reader →
    reader.isEncrypted = .error error → PyError.isPdfFailure error = true
  pages : ∀ content reader error, ports.pdfReader content = .ok reader →
    reader.pages = .error error → PyError.isPdfFailure error = true
  convert : ∀ sourcePath fileFormat workspace files error,
    ports.convert sourcePath fileFormat workspace files = .error error →
      error.isBidSystemError = true
  keepsSource : KeepsSource ports.convert
  bucket : nul ∉ ports.bucket.toList
  now : ports.now.aware = true

/-- The failures to come are errors of the application. -/
def FaultsHonoured (state : UploadState) : Prop :=
  ∀ fault, some fault ∈ state.faults → fault.error.isBidSystemError = true

/-- What holds of the document tables: every document has a version, and the versions are
those that the constructor builds. -/
structure DocumentStore (rows : List DocumentRow) : Prop where
  ids : ((documents.rows rows).map DocumentModel.id).Nodup
  versioned : ∀ document ∈ documents.rows rows,
    ∃ version ∈ documentVersions.rows rows, version.documentId = document.id
  checked : ∀ version ∈ documentVersions.rows rows, version.check = .ok ()

/-- Nothing is stored. -/
theorem documentStore_nil : DocumentStore [] :=
  ⟨List.nodup_nil, fun _ member => absurd member List.not_mem_nil,
    fun _ member => absurd member List.not_mem_nil⟩

/-- Code of an upload that raises errors of the application only. -/
abbrev RaisesBidSystemErrors {A : Type} (action : Upload A) : Prop :=
  Action.RaisesOnly FaultsHonoured (fun error => error.isBidSystemError = true) action

/-! ## Before the object store -/

section Inspecting

variable {ports : UploadPorts} {state : UploadState}

theorem faultsHonoured_tail (honoured : FaultsHonoured state) :
    FaultsHonoured { state with faults := state.faults.tail } :=
  fun fault member => honoured fault (List.mem_of_mem_tail member)

/-- The next failure is one of those to come. -/
theorem FaultsHonoured.next (honoured : FaultsHonoured state) {fault : Fault}
    (next : state.faults.head?.join = some fault) : fault.error.isBidSystemError = true := by
  exact honoured fault (List.mem_of_mem_head? (Option.join_eq_some_iff.mp next))

/-- A call of a port raises what the port does or what it fails with. -/
theorem attempt_raises {A : Type} {work : Upload A} (raises : RaisesBidSystemErrors work) :
    RaisesBidSystemErrors (attempt work) := by
  intro state honoured
  rw [attempt, nextFault_bind]
  have tail := faultsHonoured_tail honoured
  cases next : state.faults.head?.join with
  | none => exact raises _ tail
  | some fault =>
      have raising : RaisesBidSystemErrors (.raise fault.error : Upload A) :=
        .raise (honoured.next next)
      dsimp only
      split_ifs
      · exact (raises.bind fun _ => raising) _ tail
      · exact raising _ tail

/-- The loop of `stage` raises over the limit, or what a read raises. -/
theorem copyChunks_error {maxFileBytes : ℕ} {reads : List (Except PyError Bytes)} {digest : Hash}
    {stream : Bytes} {totalBytes : ℕ} {error : PyError}
    (raised : copyChunks maxFileBytes reads digest stream totalBytes = .error error) :
    error = .fileSizeLimitExceededError ∨ .error error ∈ reads := by
  induction reads generalizing digest stream totalBytes with
  | nil => cases raised
  | cons read reads ih =>
      rcases read with first | chunk
      · cases raised
        exact .inr List.mem_cons_self
      · rw [copyChunks] at raised
        split_ifs at raised
        · cases raised
          exact .inl rfl
        · exact (ih raised).imp_right (List.mem_cons_of_mem _)

/-- Staging refuses with an error of the application, or raises what a read raises. -/
theorem stage_error {sha256 : Bytes → String} {nfc : String → String} {maxFileBytes : ℕ}
    {source : UploadSource} {workspace : String} {files : LocalFiles} {error : PyError}
    (raised : stage sha256 nfc maxFileBytes source workspace files = .error error) :
    error.isBidSystemError = true ∨ .error error ∈ source.reads := by
  unfold stage at raised
  rcases bind_error_iff.mp raised with refused | ⟨name, -, raised⟩
  · unfold normalizeName at refused
    dsimp only at refused
    split_ifs at refused
    cases refused
    exact .inl rfl
  rcases bind_error_iff.mp raised with broken | ⟨⟨digest, stream, totalBytes⟩, -, raised⟩
  · exact (copyChunks_error broken).imp_left fun same => by rw [same]; rfl
  · dsimp only at raised
    split_ifs at raised
    · cases raised
      exact .inl rfl
    · cases raised

/-- A received upload has no failing reads. -/
theorem error_notMem_uploadOf (filename : String) (chunks : List Bytes) (error : PyError) :
    .error error ∉ (uploadOf filename chunks).reads := by
  simp [uploadOf]

theorem stage_raises (ports : UploadPorts) (filename : String) (chunks : List Bytes) :
    RaisesBidSystemErrors (ports.stage (uploadOf filename chunks)) := by
  intro state honoured
  unfold UploadPorts.stage
  split
  · exact ⟨honoured, nofun⟩
  · next raised failed =>
      refine ⟨honoured, fun error same => ?_⟩
      rw [← Except.error.inj same]
      exact (stage_error failed).resolve_right (error_notMem_uploadOf _ _ _)

/-- What `_read_pdf_metadata` raises. -/
theorem readPdfMetadata_error (honoured : ports.Honoured) {files : LocalFiles} {path : String}
    {error : PyError}
    (raised : readPdfMetadata ports.sha256 ports.pdfReader files path = .error error) :
    error.isBidSystemError = true := by
  have counting : ∀ {failure}, countPages ports.pdfReader (files path) = .error failure →
      PyError.isPdfFailure failure = true ∨ failure = .encryptedDocumentError := by
    intro failure failed
    unfold countPages at failed
    rcases stored : files path with _ | content
    · rw [stored] at failed
      cases failed
      exact .inl rfl
    rw [stored] at failed
    rcases bind_error_iff.mp failed with unread | ⟨reader, read, failed⟩
    · exact .inl (honoured.pdfReader _ _ unread)
    rcases bind_error_iff.mp failed with unknown | ⟨encrypted, -, failed⟩
    · exact .inl (honoured.isEncrypted _ _ _ read unknown)
    rcases encrypted
    · exact .inl (honoured.pages _ _ _ read failed)
    · cases failed
      exact .inr rfl
  unfold readPdfMetadata at raised
  split at raised
  · next failure failed =>
      cases raised
      rcases counting failed with pdf | rfl
      · rw [if_pos pdf]
        rfl
      · rfl
  · next pageCount counted =>
      -- A file that has been counted is there to be hashed.
      split at raised
      · next missing =>
          rw [missing] at counted
          cases counted
      · cases raised

theorem parse_raises (honoured : ports.Honoured) (path : String) (fileFormat : DocumentFormat) :
    RaisesBidSystemErrors (ports.parse path fileFormat) := by
  intro state kept
  unfold UploadPorts.parse
  split
  · exact ⟨kept, nofun⟩
  · next raised failed =>
      refine ⟨kept, fun error same => ?_⟩
      rw [← Except.error.inj same]
      have counting : ∀ {files : LocalFiles} {normalizedPath : String}
          {next : ℕ × String → Except PyError (ParsedDocument × LocalFiles)},
          (readPdfMetadata ports.sha256 ports.pdfReader files normalizedPath >>= fun counted =>
            next counted) = .error raised → (∀ counted, ∃ parsed, next counted = .ok parsed) →
              raised.isBidSystemError = true := by
        intro files normalizedPath next failed returns
        rcases bind_error_iff.mp failed with reading | ⟨counted, -, failed⟩
        · exact readPdfMetadata_error honoured reading
        · obtain ⟨parsed, returned⟩ := returns counted
          rw [returned] at failed
          cases failed
      unfold parse at failed
      split_ifs at failed
      · rcases bind_error_iff.mp failed with converting | ⟨⟨normalizedPath, files⟩, -, failed⟩
        · exact honoured.convert _ _ _ _ _ converting
        · exact counting failed fun _ => ⟨_, rfl⟩
      · exact counting failed fun _ => ⟨_, rfl⟩

/-- **Before the object store** only errors of the application are raised. -/
theorem inspect_raises (honoured : ports.Honoured) {command : UploadDocumentCommand}
    {filename : String} {chunks : List Bytes} (received : command.source = uploadOf filename chunks) :
    RaisesBidSystemErrors (inspect ports command) := by
  unfold inspect
  rw [received]
  refine (attempt_raises (stage_raises ports filename chunks)).bind fun staged => ?_
  refine (attempt_raises fun state kept => ⟨kept, ?_⟩).bind fun fileFormat => ?_
  · exact honoured.detect _ _
  refine (attempt_raises fun state kept => ⟨kept, ?_⟩).bind fun _ => ?_
  · exact honoured.ensureSafe _ _ _
  refine (attempt_raises (parse_raises honoured _ _)).bind fun parsed => ?_
  split_ifs
  · exact .raise rfl
  · exact .raise rfl
  · exact .pure _

/-- What a passed inspection has read and measured. -/
structure Admitted (ports : UploadPorts) (source : UploadSource) (inspected : Inspected) :
    Prop where
  content : source.bytes ≠ []
  name : normalizeName ports.nfc source.filename = .ok inspected.staged.normalizedName
  parserVersion : inspected.parsed.parserVersion = parserVersion
  parseDurationMs : 0 ≤ inspected.parsed.parseDurationMs

/-- A staged file has the normalized name. -/
theorem normalizedName_of_stage {sha256 : Bytes → String} {nfc : String → String}
    {maxFileBytes : ℕ} {source : UploadSource} {workspace : String} {files files' : LocalFiles}
    {staged : StagedUpload}
    (staging : stage sha256 nfc maxFileBytes source workspace files = .ok (staged, files')) :
    normalizeName nfc source.filename = .ok staged.normalizedName := by
  unfold stage at staging
  obtain ⟨name, normalized, staging⟩ := bind_ok_iff.mp staging
  obtain ⟨⟨digest, stream, totalBytes⟩, -, staging⟩ := bind_ok_iff.mp staging
  dsimp only at staging
  split_ifs at staging
  · cases staging
  · cases staging
    exact normalized

/-- A staged file is not empty. -/
theorem bytes_ne_nil_of_stage {sha256 : Bytes → String} {nfc : String → String}
    {maxFileBytes : ℕ} {source : UploadSource} {workspace : String} {files files' : LocalFiles}
    {staged : StagedUpload}
    (staging : stage sha256 nfc maxFileBytes source workspace files = .ok (staged, files')) :
    source.bytes ≠ [] := by
  unfold stage at staging
  obtain ⟨name, -, staging⟩ := bind_ok_iff.mp staging
  obtain ⟨⟨digest, stream, totalBytes⟩, copied, staging⟩ := bind_ok_iff.mp staging
  obtain ⟨-, -, counted⟩ := copyChunks_ok copied
  dsimp only at staging
  split_ifs at staging with nothing
  · cases staging
  · intro empty
    rw [UploadSource.bytes] at empty
    rw [empty] at counted
    exact nothing counted

/-- A parsed file has the version of the parser and a duration. -/
theorem measured_of_parse {sha256 : Bytes → String}
    {pdfReader : Bytes → Except PyError PdfReader} {convert : PdfConverter}
    {startedNs finishedNs : ℤ} {sourcePath : String} {fileFormat : DocumentFormat}
    {workspace : String} {files files' : LocalFiles} {parsed : ParsedDocument}
    (parsing : parse sha256 pdfReader convert startedNs finishedNs sourcePath fileFormat workspace
      files = .ok (parsed, files')) :
    parsed.parserVersion = parserVersion ∧ 0 ≤ parsed.parseDurationMs := by
  unfold parse at parsing
  split_ifs at parsing
  · obtain ⟨⟨normalizedPath, middle⟩, -, parsing⟩ := bind_ok_iff.mp parsing
    obtain ⟨counted, -, parsing⟩ := bind_ok_iff.mp parsing
    cases parsing
    exact ⟨rfl, le_max_left _ _⟩
  · obtain ⟨⟨normalizedPath, middle⟩, -, parsing⟩ := bind_ok_iff.mp parsing
    obtain ⟨counted, -, parsing⟩ := bind_ok_iff.mp parsing
    cases parsing
    exact ⟨rfl, le_max_left _ _⟩

/-- **What a passed inspection has read and measured.** -/
theorem inspect_admits {command : UploadDocumentCommand} {state' : UploadState}
    {inspected : Inspected}
    (returned : inspect ports command state = (.ok inspected, state')) :
    Admitted ports command.source inspected := by
  obtain ⟨staged, afterStage, staging, returned⟩ := Action.of_bind_ok returned
  obtain ⟨fileFormat, afterDetect, -, returned⟩ := Action.of_bind_ok returned
  obtain ⟨_, afterScan, -, returned⟩ := Action.of_bind_ok returned
  obtain ⟨parsed, afterParse, parsing, returned⟩ := Action.of_bind_ok returned
  have staging := of_attempt_ok staging
  have parsing := of_attempt_ok parsing
  unfold UploadPorts.stage at staging
  unfold UploadPorts.parse at parsing
  split at staging
  · next staged' files stagedFile =>
      cases staging
      split at parsing
      · next parsed' files' parsedFile =>
          cases parsing
          obtain ⟨version, duration⟩ := measured_of_parse parsedFile
          split_ifs at returned
          · cases returned
          · cases returned
          · cases returned
            exact ⟨bytes_ne_nil_of_stage stagedFile, normalizedName_of_stage stagedFile, version,
              duration⟩
      · cases parsing
  · cases staging

end Inspecting

/-! ## The prepared version -/

/-- The version that `handle` prepares of what it has inspected. -/
def prepare (ports : UploadPorts) (command : UploadDocumentCommand) (inspected : Inspected) :
    PreparedDocumentVersion where
  id := ports.newVersionId
  documentId := command.documentId.getD ports.newDocumentId
  name := inspected.staged.normalizedName
  fileUrl := objectUri ports.bucket (objectKey inspected.staged.sha256)
  normalizedPdfUrl := objectUri ports.bucket (objectKey inspected.parsed.normalizedPdfHash)
  fileFormat := inspected.fileFormat
  fileHash := inspected.staged.sha256
  normalizedPdfHash := inspected.parsed.normalizedPdfHash
  uploadedAt := ports.now
  expiresAt := command.expiresAt
  pageCount := inspected.parsed.pageCount
  parserVersion := inspected.parsed.parserVersion
  parseDurationMs := inspected.parsed.parseDurationMs

section Preparing

variable {ports : UploadPorts} {command : UploadDocumentCommand} {state state' : UploadState}
  {inspected : Inspected}

/-- **Storing the files prepares this version**: a PDF is stored once, under its own digest. -/
theorem storeFiles_prepares {source : Bytes}
    (inspection : Inspection ports source inspected state.files)
    {prepared : PreparedDocumentVersion}
    (returned : storeFiles ports command inspected state = (.ok prepared, state')) :
    prepared = prepare ports command inspected := by
  obtain ⟨digest, -, ⟨stored, ⟨canonical, canonicalStored, -⟩, isSource⟩, -⟩ := inspection
  obtain ⟨sourceUrl, middle, sourcePut, returned⟩ := Action.of_bind_ok returned
  obtain ⟨normalizedPdfUrl, last, normalizedPut, returned⟩ := Action.of_bind_ok returned
  cases returned
  obtain ⟨sameFiles, -, -, found⟩ := put_stores ports stored sourcePut
  obtain ⟨isUrl, -⟩ := found sourceUrl rfl
  have isPdfUrl : normalizedPdfUrl =
      objectUri ports.bucket (objectKey inspected.parsed.normalizedPdfHash) := by
    by_cases format : inspected.fileFormat = .pdf
    · rw [if_pos format] at normalizedPut
      cases normalizedPut
      rw [isUrl, isSource format, digest]
    · rw [if_neg format] at normalizedPut
      rw [← sameFiles] at canonicalStored
      obtain ⟨-, -, -, foundPdf⟩ := put_stores ports canonicalStored normalizedPut
      exact (foundPdf normalizedPdfUrl rfl).1
  rw [isUrl, isPdfUrl]
  rfl

theorem blank_objectUri (bucket key : String) : blank (objectUri bucket key) = false := by
  refine @blank_eq_false_of_mem _ 'm' ?_ rfl
  simp [objectUri]

/-- A normalized name is not blank. -/
theorem blank_of_normalizeName {nfc : String → String} {filename name : String}
    (normalized : normalizeName nfc filename = .ok name) : blank name = false := by
  unfold normalizeName at normalized
  dsimp only at normalized
  split_ifs at normalized with refused
  rw [← Except.ok.inj normalized, blank_strip, blank, beq_eq_false_iff_ne]
  exact fun empty => refused (.inl empty)

/-- The message of the check of `expires_at`. -/
def naiveExpiry : PyError := .valueError "expiration time must be timezone-aware"

/-- What the constructor checks beside the time of expiry. -/
structure DocumentVersionModel.Proper (model : DocumentVersionModel) : Prop where
  name : blank model.name = false
  fileUrl : blank model.fileUrl = false
  normalizedPdfUrl : blank model.normalizedPdfUrl = false
  fileHash : isSha256 model.fileHash = true
  normalizedPdfHash : isSha256 model.normalizedPdfHash = true
  version : 1 ≤ model.version
  pageCount : 1 ≤ model.pageCount ∧ model.pageCount ≤ maxDocumentPages
  parserVersion : blank model.parserVersion = false
  parseDurationMs : 0 ≤ model.parseDurationMs
  uploadedAt : model.uploadedAt.aware = true
  pdf : model.fileFormat = .pdf →
    model.normalizedPdfUrl = model.fileUrl ∧ model.normalizedPdfHash = model.fileHash

/-- The last check that is left. -/
theorem DocumentVersionModel.Proper.check_eq {model : DocumentVersionModel} (proper : model.Proper) :
    model.check =
      if model.expiresAt.all Timestamp.aware = true then .ok () else .error naiveExpiry := by
  have isOwnPdf : ¬(model.fileFormat = .pdf ∧ (model.normalizedPdfUrl ≠ model.fileUrl ∨
      model.normalizedPdfHash ≠ model.fileHash)) := by
    rintro ⟨isPdf, differs⟩
    obtain ⟨sameUrl, sameHash⟩ := proper.pdf isPdf
    exact differs.elim (fun url => url sameUrl) fun hash => hash sameHash
  rw [check, proper.name, proper.fileUrl, proper.normalizedPdfUrl, proper.fileHash,
    proper.normalizedPdfHash, proper.parserVersion, proper.uploadedAt, if_neg isOwnPdf,
    if_neg (not_lt.mpr proper.version), if_neg (not_lt.mpr proper.parseDurationMs),
    decide_eq_true proper.pageCount.1, decide_eq_true proper.pageCount.2]
  cases model.expiresAt with
  | none => rfl
  | some expiresAt =>
      show (if (!expiresAt.aware) = true then _ else _) = if expiresAt.aware = true then _ else _
      cases expiresAt.aware <;> rfl

theorem blank_parserVersion : blank parserVersion = false :=
  @blank_eq_false_of_mem _ 'd' (by decide) rfl

/-- **What is checked before the object store** implies all checks of the constructor but that
of the time of expiry. -/
theorem proper_prepare (honoured : ports.Honoured) {source : Bytes} {files : LocalFiles}
    (inspection : Inspection ports source inspected files) {upload : UploadSource}
    (admitted : Admitted ports upload inspected) {number : ℤ} (positive : 1 ≤ number) :
    ((prepare ports command inspected).withVersion number).Proper := by
  obtain ⟨digest, -, ⟨-, ⟨canonical, -, canonicalDigest⟩, isSource⟩, pages⟩ := inspection
  have hash := (honoured.digests source).1
  have pdfHash := (honoured.digests canonical).1
  rw [← digest] at hash
  rw [← canonicalDigest] at pdfHash
  have parser : blank inspected.parsed.parserVersion = false := by
    rw [admitted.parserVersion]
    exact blank_parserVersion
  refine ⟨blank_of_normalizeName admitted.name, blank_objectUri _ _, blank_objectUri _ _, hash,
    pdfHash, positive, pages, parser, admitted.parseDurationMs, honoured.now, fun isPdf => ?_⟩
  have same := (isSource isPdf).trans digest.symm
  exact ⟨congrArg (fun hash => objectUri ports.bucket (objectKey hash)) same, same⟩

/-! ## The object store -/

theorem Fault.answer_eq_error {α : Type} {fault : Option Fault} {answer : Except PyError α}
    {error : PyError} (raised : Fault.answer fault answer = .error error) :
    (∃ failure, fault = some failure ∧ error = failure.error) ∨ answer = .error error := by
  rcases fault with _ | failure
  · exact .inr raised
  · exact .inl ⟨failure, rfl, (Except.error.inj raised).symm⟩

/-- The `except` clauses of `put` keep the errors of the application. -/
theorem objectStoreError_bidSystem {error : PyError} (admitted : error.isBidSystemError = true) :
    (objectStoreError error).isBidSystemError = true := by
  cases error with
  | bidSystemError code publicMessage => rfl
  | _ => cases admitted

/-- What `put` raises for a file whose digest it is given. -/
theorem put_error {bucket digest path contentType : String} {content : Bytes} {files : LocalFiles}
    (typed : blank contentType = false) (shape : isSha256 digest = true)
    (stored : files path = some content) {objects : Objects} {faults : List (Option Fault)}
    (honoured : ∀ fault, some fault ∈ faults → fault.error.isBidSystemError = true)
    {after : Objects × List (Option Fault)} {error : PyError}
    (ran : (put bucket digest path contentType).exec (serveInOrder files) (objects, faults) =
      (.error error, after)) : error.isBidSystemError = true := by
  have failing : ∀ {α : Type} {answer : Except PyError α} {failure : PyError}
      {left : List (Option Fault)}, left <:+ faults →
      Fault.answer left.head?.join answer = .error failure → answer ≠ .error failure →
        failure.isBidSystemError = true := by
    intro α answer failure left suffix raised returned
    obtain ⟨fault, next, rfl⟩ := (Fault.answer_eq_error raised).resolve_right returned
    exact honoured fault (suffix.subset (List.mem_of_mem_head? (Option.join_eq_some_iff.mp next)))
  have tail : faults.tail <:+ faults := List.tail_suffix faults
  have tail' : faults.tail.tail <:+ faults := (List.tail_suffix _).trans tail
  rw [put, typed, shape, if_neg Bool.false_ne_true] at ran
  simp only [Bool.not_true, Bool.false_eq_true, if_false] at ran
  rw [Program.exec_call] at ran
  simp only [serveInOrder, servePut, statFile_of_stored stored] at ran
  split at ran
  · next failure failed =>
      cases ran
      exact failing List.suffix_rfl failed fun same => by cases same
  · next sizeBytes sized =>
      obtain rfl := Except.ok.inj (Fault.answer_eq_ok sized)
      rw [putSized, Program.exec_call] at ran
      simp only [serveInOrder, servePut] at ran
      split at ran
      · next failure failed =>
          cases ran
          exact objectStoreError_bidSystem (failing tail failed fun same => by cases same)
      · split_ifs at ran
        · cases ran
          rfl
        · cases ran
      · rw [putMissing, Program.exec_call] at ran
        simp only [serveInOrder, servePut, uploadObject_whole stored] at ran
        split at ran
        · next failure failed =>
            cases ran
            exact objectStoreError_bidSystem (failing tail' failed fun same => by cases same)
        · cases ran

/-- **Storing a staged file** raises errors of the application only. -/
theorem put_raises {digest path contentType : String} {content : Bytes}
    (typed : blank contentType = false) (shape : isSha256 digest = true)
    (stored : state.files path = some content) (honoured : FaultsHonoured state) :
    FaultsHonoured (ports.put digest path contentType state).2 ∧
      ∀ error, (ports.put digest path contentType state).1 = .error error →
        error.isBidSystemError = true := by
  let kept (world : Objects × List (Option Fault)) : Prop :=
    ∀ fault, some fault ∈ world.2 → fault.error.isBidSystemError = true
  have served : kept ((put ports.bucket digest path contentType).exec (serveInOrder state.files)
      (state.objects, state.faults)).2 := by
    refine Program.exec_induction _ (fun request world holds => ?_) honoured
    exact fun fault member => holds fault (List.mem_of_mem_tail member)
  rw [UploadPorts.put]
  rcases ran : (put ports.bucket digest path contentType).exec (serveInOrder state.files)
      (state.objects, state.faults) with ⟨outcome, after⟩
  rw [ran] at served
  refine ⟨served, fun error raised => ?_⟩
  dsimp only at raised
  rw [raised] at ran
  exact put_error typed shape stored honoured ran

theorem blank_canonicalMimeType (fileFormat : DocumentFormat) :
    blank (canonicalMimeType fileFormat) = false := by
  refine @blank_eq_false_of_mem _ 'a' ?_ rfl
  cases fileFormat <;> simp [canonicalMimeType]

/-- **Storing the files of an inspected upload** raises errors of the application only. -/
theorem storeFiles_raises (honoured : ports.Honoured) {source : Bytes}
    (inspection : Inspection ports source inspected state.files) (kept : FaultsHonoured state) :
    FaultsHonoured (storeFiles ports command inspected state).2 ∧
      ∀ error, (storeFiles ports command inspected state).1 = .error error →
        error.isBidSystemError = true := by
  obtain ⟨digest, -, ⟨stored, ⟨canonical, canonicalStored, canonicalDigest⟩, -⟩, -⟩ := inspection
  have shape : isSha256 inspected.staged.sha256 = true := by
    rw [digest]
    exact (honoured.digests _).1
  have canonicalShape : isSha256 inspected.parsed.normalizedPdfHash = true := by
    rw [canonicalDigest]
    exact (honoured.digests _).1
  obtain ⟨kept', raises⟩ := @put_raises ports _ _ _ _ _
    (blank_canonicalMimeType inspected.fileFormat) shape stored kept
  rcases sourcePut : ports.put inspected.staged.sha256 inspected.staged.path
      (canonicalMimeType inspected.fileFormat) state with ⟨error | sourceUrl, middle⟩
  · rw [sourcePut] at kept' raises
    rw [storeFiles, Action.bind_of_error sourcePut]
    refine ⟨kept', fun failure same => ?_⟩
    cases same
    exact raises _ rfl
  rw [sourcePut] at kept'
  rw [storeFiles, Action.bind_of_ok sourcePut]
  obtain ⟨sameFiles, -, -, -⟩ := put_stores ports stored sourcePut
  by_cases format : inspected.fileFormat = .pdf
  · rw [if_pos format]
    exact ⟨kept', fun _ same => by cases same⟩
  rw [if_neg format]
  rw [← sameFiles] at canonicalStored
  obtain ⟨last, raises'⟩ := @put_raises ports _ _ _ _ _
    (blank_canonicalMimeType .pdf) canonicalShape canonicalStored kept'
  rcases normalizedPut : ports.put inspected.parsed.normalizedPdfHash
      inspected.parsed.normalizedPdfPath (canonicalMimeType .pdf) middle with
    ⟨error | normalizedPdfUrl, ended⟩
  · rw [normalizedPut] at last raises'
    rw [Action.bind_of_error normalizedPut]
    refine ⟨last, fun failure same => ?_⟩
    cases same
    exact raises' _ rfl
  · rw [normalizedPut] at last
    rw [Action.bind_of_ok normalizedPut]
    exact ⟨last, fun _ same => by cases same⟩

end Preparing

/-! ## The repository -/

/-- An upload is settled by a version or by an error of the application. -/
inductive Settled : Except UploadRaised DocumentVersion → Prop
  | returned (version : DocumentVersion) : Settled (.ok version)
  | refused {error : PyError} (admitted : error.isBidSystemError = true) :
      Settled (.error (.error error))

theorem integrityError_bidSystem (constraint : String) :
    (integrityError constraint).isBidSystemError = true := by
  unfold integrityError
  split_ifs <;> rfl

theorem psycopg_binds_iff {row : DocumentRow} :
    psycopg.binds row = true ↔ ∀ text ∈ row.texts, nul ∉ text.toList := by
  simp [psycopg]

/-- The texts of a prepared version can be sent. -/
def PreparedDocumentVersion.Sendable (prepared : PreparedDocumentVersion) : Prop :=
  psycopg.binds (documentVersions.make (prepared.withVersion 1)) = true

section Repository

variable {prepared : PreparedDocumentVersion} {rows : List DocumentRow}

/-- Flush one new row over the driver. -/
theorem exec_through_flushRow_bind {α A : Type} {table : Relation DocumentRow α} {model : α}
    (sent : psycopg.binds (table.make model) = true) (next : Unit → DocumentProg A) :
    ((flushRow table model >>= next).through psycopg).exec documentConflict rows =
      match Prog.violated documentConflict rows (table.make model) with
      | some constraint => (.error (.error (integrityError constraint)), rows)
      | none => ((next ()).through psycopg).exec documentConflict (rows ++ [table.make model]) := by
  rw [flushRow, Prog.bind_assoc, Prog.exec_through_insertInto_bind documentConflict sent]
  cases Prog.violated documentConflict rows (table.make model) <;> rfl

/-- Versions count from one. -/
theorem one_le_of_check {model : DocumentVersionModel} (checked : model.check = .ok ()) :
    1 ≤ model.version := by
  by_contra below
  rw [DocumentVersionModel.check, if_pos (not_le.mp below)] at checked
  split_ifs at checked

/-- A version whose checks pass is built. -/
theorem toVersion_of_check {number : ℤ} (checked : (prepared.withVersion number).check = .ok ()) :
    prepared.toVersion number = .ok ⟨prepared.withVersion number, checked⟩ :=
  PreparedDocumentVersion.toVersion_ok_iff.mpr rfl

/-- **A version that passes the checks is settled exactly if its texts can be sent.** -/
theorem settled_flush_iff {version : DocumentVersion} {number : ℤ}
    (fields : version.toDocumentVersionModel = prepared.withVersion number) :
    Settled (((do flushRow documentVersions version.toDocumentVersionModel
                  return version : DocumentProg DocumentVersion).through psycopg).exec
      documentConflict rows).1 ↔ prepared.Sendable := by
  have same : psycopg.binds (documentVersions.make version.toDocumentVersionModel) =
      psycopg.binds (documentVersions.make (prepared.withVersion 1)) := by
    rw [fields]
    rfl
  rw [PreparedDocumentVersion.Sendable, ← same]
  by_cases sent : psycopg.binds (documentVersions.make version.toDocumentVersionModel) = true
  · rw [exec_through_flushRow_bind sent]
    refine iff_of_true ?_ sent
    cases Prog.violated documentConflict rows
      (documentVersions.make version.toDocumentVersionModel) with
    | some constraint => exact .refused (integrityError_bidSystem constraint)
    | none => exact .returned version
  · refine iff_of_false (fun settled => ?_) sent
    rw [flushRow, Prog.bind_assoc,
      Prog.exec_through_insertInto_bind_of_refused documentConflict (Bool.eq_false_iff.mpr sent)]
      at settled
    cases settled

/-- **`create`** of a version that passes the checks is settled exactly if its document
cannot be inserted or its texts can be sent. -/
theorem settled_create_iff (checked : (prepared.withVersion 1).check = .ok ()) :
    Settled (((create prepared).through psycopg).exec documentConflict rows).1 ↔
      (Prog.violated documentConflict rows
        (documents.make { id := prepared.documentId, createdAt := prepared.uploadedAt })).isSome =
          true ∨ prepared.Sendable := by
  have built := toVersion_of_check checked
  rw [create, built, Prog.bind_ofExcept_ok, exec_through_flushRow_bind rfl]
  have document : documents.make { id := prepared.documentId, createdAt := prepared.uploadedAt } =
      documents.make { id := (prepared.withVersion 1).documentId,
                       createdAt := (prepared.withVersion 1).uploadedAt } := rfl
  rw [document]
  cases Prog.violated documentConflict rows (documents.make
    { id := (prepared.withVersion 1).documentId,
      createdAt := (prepared.withVersion 1).uploadedAt }) with
  | some constraint =>
      exact iff_of_true (.refused (integrityError_bidSystem constraint)) (.inl rfl)
  | none =>
      rw [Option.isSome_none, or_iff_right Bool.false_ne_true]
      exact settled_flush_iff rfl

/-- **`append`** of a version that passes the checks is settled exactly if there is no such
document, it has the content already, or the texts of the version can be sent. -/
theorem settled_append_iff {documentId : String} (store : DocumentStore rows)
    (own : prepared.documentId = documentId)
    (checked : ∀ number, 1 ≤ number → (prepared.withVersion number).check = .ok ()) :
    Settled (((append documentId prepared).through psycopg).exec documentConflict rows).1 ↔
      (∀ document ∈ documents.rows rows, document.id ≠ documentId) ∨
        (∃ version ∈ documentVersions.rows rows, version.documentId = documentId ∧
          version.fileHash = prepared.fileHash) ∨ prepared.Sendable := by
  rw [append, if_neg (not_not.mpr own), Prog.exec_through_lockFrom_bind]
  rcases filter_eq_of_nodup store.ids documentId with ⟨absent, none⟩ | ⟨document, stored, same, only⟩
  · rw [none]
    exact iff_of_true (.refused rfl) (.inl absent)
  rw [only, or_iff_right fun absent => absent document stored same, scalarOneOrNone,
    Prog.bind_done, appendLocked, Prog.exec_through_selectFrom_bind, scalarOneOrNone_take,
    Prog.bind_done]
  rcases duplicates : (documentVersions.rows rows).filter (fun version =>
    version.documentId == documentId && version.fileHash == prepared.fileHash) with _ | ⟨found, _⟩
  · have distinct : ¬∃ version ∈ documentVersions.rows rows, version.documentId = documentId ∧
        version.fileHash = prepared.fileHash := by
      rintro ⟨version, member, isOwn, sameHash⟩
      refine List.filter_eq_nil_iff.mp duplicates version member ?_
      rw [isOwn, sameHash, beq_self_eq_true, beq_self_eq_true]
      rfl
    rw [or_iff_right distinct, duplicates, List.head?_nil, Option.isSome_none, if_neg Bool.false_ne_true,
      Prog.exec_through_selectFrom_bind]
    rcases latest : (((documentVersions.rows rows).filter fun version =>
      version.documentId == documentId).map DocumentVersionModel.version).max? with
      _ | latestVersion
    · -- A stored document has a first version.
      obtain ⟨version, member, isOwn⟩ := store.versioned document stored
      rw [List.max?_eq_none_iff, List.map_eq_nil_iff, List.filter_eq_nil_iff] at latest
      exact absurd (beq_iff_eq.mpr (isOwn.trans same)) (latest version member)
    · obtain ⟨version, member, isLatest⟩ := List.mem_map.mp (List.max?_mem latest)
      have positive := one_le_of_check (store.checked version (List.mem_filter.mp member).1)
      rw [isLatest] at positive
      have built := toVersion_of_check (checked (latestVersion + 1) (by omega))
      rw [latest]
      dsimp only
      rw [built, Prog.bind_ofExcept_ok]
      exact settled_flush_iff rfl
  · have member : found ∈ (documentVersions.rows rows).filter (fun version =>
        version.documentId == documentId && version.fileHash == prepared.fileHash) := by
      rw [duplicates]
      exact List.mem_cons_self
    rw [List.mem_filter, Bool.and_eq_true, beq_iff_eq, beq_iff_eq] at member
    have refusal : Settled (.error (.error .duplicateDocumentContentError)) := .refused rfl
    rw [duplicates]
    exact iff_of_true refusal (.inl ⟨found, member⟩)

end Repository

/-! ## The upload as a whole -/

/-- A digest has no U+0000. -/
theorem nul_notMem_digest {digest : String} (shape : isSha256 digest = true) :
    nul ∉ digest.toList := by
  intro member
  rw [isSha256, Bool.and_eq_true, List.all_eq_true] at shape
  exact absurd (shape.2 nul member) (by decide)

theorem nul_notMem_objectUri {bucket digest : String} (named : nul ∉ bucket.toList)
    (shape : LowerDigest digest) : nul ∉ (objectUri bucket (objectKey digest)).toList := by
  have hex := nul_notMem_digest shape.1
  have front : nul ∉ digest.toList.take 2 := fun member => hex (List.mem_of_mem_take member)
  have literals : nul ∉ "minio://".toList ∧ nul ∉ "/".toList ∧ nul ∉ objectPrefix.toList ∧
      nul ∉ "/sha256/".toList := by decide
  simp only [objectUri, objectKey, shape.2, String.toList_append, String.toList_ofList,
    List.mem_append, not_or]
  exact ⟨⟨⟨literals.1, named⟩, literals.2.1⟩, ⟨⟨⟨literals.2.2.1, literals.2.2.2⟩, front⟩,
    literals.2.1⟩, hex⟩

section Uploading

variable {ports : UploadPorts} {command : UploadDocumentCommand} {state : UploadState}
  {inspected : Inspected}

/-- **Of the texts of the version only the name can hold U+0000.** -/
theorem sendable_prepare_iff (honoured : ports.Honoured) {source : Bytes} {files : LocalFiles}
    (inspection : Inspection ports source inspected files) {upload : UploadSource}
    (admitted : Admitted ports upload inspected) :
    (prepare ports command inspected).Sendable ↔ nul ∉ inspected.staged.normalizedName.toList := by
  obtain ⟨digest, -, ⟨-, ⟨canonical, -, canonicalDigest⟩, -⟩, -⟩ := inspection
  have hash := honoured.digests source
  have pdfHash := honoured.digests canonical
  rw [← digest] at hash
  rw [← canonicalDigest] at pdfHash
  have parser : nul ∉ inspected.parsed.parserVersion.toList := by
    rw [admitted.parserVersion]
    decide
  have others : ∀ text ∈ [objectUri ports.bucket (objectKey inspected.staged.sha256),
      objectUri ports.bucket (objectKey inspected.parsed.normalizedPdfHash),
      inspected.staged.sha256, inspected.parsed.normalizedPdfHash,
      inspected.parsed.parserVersion], nul ∉ text.toList := by
    simp only [List.forall_mem_cons]
    exact ⟨nul_notMem_objectUri honoured.bucket hash, nul_notMem_objectUri honoured.bucket pdfHash,
      nul_notMem_digest hash.1, nul_notMem_digest pdfHash.1, parser, nofun⟩
  rw [PreparedDocumentVersion.Sendable, psycopg_binds_iff]
  constructor
  · exact fun sent => sent _ List.mem_cons_self
  · intro named text member
    rcases List.mem_cons.mp member with rfl | other
    · exact named
    · exact others text other

/-- A repository call without a failure. -/
theorem transactBound_of_quiet {A : Type} {body : DocumentProg A}
    (quiet : state.faults.head?.join = none) :
    (transactBound body state).1 =
      ((body.through psycopg).exec documentConflict state.rows).1 := by
  rw [transactBound, Action.bind_of_ok
    (Action.mapError_of_ok (show nextFault state = (.ok _, _) from rfl)), quiet]
  exact Prog.atomically_fst documentConflict _ _

/-- A repository call that fails does so with an error of the application. -/
theorem settled_transactBound {body : DocumentProg DocumentVersion} (kept : FaultsHonoured state)
    (settled : Settled ((body.through psycopg).exec documentConflict state.rows).1) :
    Settled (transactBound body state).1 := by
  rcases next : state.faults.head?.join with _ | fault
  · rw [transactBound_of_quiet next]
    exact settled
  · rw [transactBound, Action.bind_of_ok
      (Action.mapError_of_ok (show nextFault state = (.ok _, _) from rfl)), next]
    exact .refused (kept.next next)

/-- **An upload with a name that can be sent and an aware time of expiry is settled.** -/
theorem settled_handleBound (honoured : ports.Honoured) (kept : FaultsHonoured state)
    (store : DocumentStore state.rows) {filename : String} {chunks : List Bytes}
    (received : command.source = uploadOf filename chunks)
    (sound : chunks = [] ∨ ∀ name, normalizeName ports.nfc filename = .ok name →
      nul ∉ name.toList ∧ command.expiresAt.all Timestamp.aware = true) :
    Settled (handleBound ports command state).1 := by
  obtain ⟨keptMiddle, raises⟩ := inspect_raises honoured received state kept
  rw [handleBound]
  rcases inspecting : inspect ports command state with ⟨error | inspected, middle⟩
  · rw [inspecting] at raises
    rw [Action.bind_of_error (Action.mapError_of_error inspecting)]
    exact .refused (raises error rfl)
  have inspection := inspect_ok honoured.keepsSource inspecting
  have admitted := inspect_admits inspecting
  have untouched := inspect_untouched ports command state
  rw [inspecting] at keptMiddle untouched
  rw [received] at admitted
  obtain ⟨keptLast, raises⟩ := @storeFiles_raises _ command _ _ honoured _ inspection keptMiddle
  rw [Action.bind_of_ok (Action.mapError_of_ok inspecting)]
  rcases storing : storeFiles ports command inspected middle with ⟨error | prepared, last⟩
  · rw [storing] at raises
    rw [Action.bind_of_error (Action.mapError_of_error storing)]
    exact .refused (raises error rfl)
  rw [storing] at keptLast
  rw [Action.bind_of_ok (Action.mapError_of_ok storing), persistBound]
  obtain ⟨nameSent, aware⟩ := (sound.resolve_left fun empty =>
    admitted.content (by rw [empty]; rfl)) _ admitted.name
  obtain rfl := storeFiles_prepares inspection storing
  have sendable : (prepare ports command inspected).Sendable :=
    (sendable_prepare_iff honoured inspection admitted).mpr nameSent
  have checked : ∀ number, 1 ≤ number →
      ((prepare ports command inspected).withVersion number).check = .ok () := by
    intro number positive
    rw [(proper_prepare honoured inspection admitted positive).check_eq]
    exact if_pos aware
  have sameRows : last.rows = state.rows := (storeFiles_rows storing).trans untouched.2
  cases named : command.documentId with
  | none =>
      exact settled_transactBound keptLast
        ((settled_create_iff (checked 1 le_rfl)).mpr (.inr sendable))
  | some documentId =>
      have own : (prepare ports command inspected).documentId = documentId := by
        rw [prepare, named]
        rfl
      rw [← sameRows] at store
      exact settled_transactBound keptLast
        ((settled_append_iff store own checked).mpr (.inr (.inr sendable)))

end Uploading

/-! ## The tables of the documents -/

section Store

variable {prepared : PreparedDocumentVersion} {version : DocumentVersion}
  {rows rows' : List DocumentRow}

/-- A flush that returned violated no constraint. -/
theorem violated_of_flushRow_ok {α A : Type} {table : Relation DocumentRow α} {model : α}
    {next : Unit → DocumentProg A} {result : A}
    (ran : (flushRow table model >>= next).exec documentConflict rows = (.ok result, rows')) :
    Prog.violated documentConflict rows (table.make model) = none := by
  rw [flushRow, Prog.bind_assoc, Prog.exec_insertInto_bind] at ran
  split at ran
  · cases ran
  · assumption

/-- A document that can be inserted has a new id. -/
theorem fresh_of_violated {model : DocumentModel}
    (allowed : Prog.violated documentConflict rows (documents.make model) = none) :
    ∀ document ∈ documents.rows rows, document.id ≠ model.id := by
  intro document member same
  rw [Prog.violated, List.findSome?_eq_none_iff] at allowed
  have conflict := allowed _ (documents.mem_rows.mp member)
  simp [documentConflict, documents, same] at conflict

/-- A document with its first version is stored beside the others. -/
theorem DocumentStore.of_create (store : DocumentStore rows)
    (ran : (create prepared).exec documentConflict rows = (.ok version, rows')) :
    DocumentStore rows' := by
  rw [create] at ran
  rcases built : prepared.toVersion 1 with error | first
  · rw [built] at ran
    cases ran
  rw [built, Prog.bind_ofExcept_ok] at ran
  have fresh := fresh_of_violated (violated_of_flushRow_ok ran)
  obtain ⟨rfl, rfl⟩ := of_flushVersion_ok (of_flushRow_ok ran)
  refine ⟨?_, ?_, ?_⟩
  · rw [documents.rows_append, documents.rows_append, documents.rows_singleton_make,
      Relation.rows_singleton_of_disjoint documentVersions_disjoint_documents, List.append_nil,
      List.map_append, List.nodup_append']
    refine ⟨store.ids, List.nodup_singleton _, ?_⟩
    rw [List.map_singleton, List.disjoint_singleton, List.mem_map]
    rintro ⟨document, member, same⟩
    exact fresh document member same
  · intro document member
    rw [documents.rows_append, documents.rows_append, documents.rows_singleton_make,
      Relation.rows_singleton_of_disjoint documentVersions_disjoint_documents, List.append_nil,
      List.mem_append, List.mem_singleton] at member
    rw [documentVersions.rows_append, documentVersions.rows_append,
      documentVersions.rows_singleton_make,
      Relation.rows_singleton_of_disjoint documents_disjoint_documentVersions, List.append_nil]
    rcases member with old | rfl
    · obtain ⟨first, stored, own⟩ := store.versioned document old
      exact ⟨first, List.mem_append_left _ stored, own⟩
    · exact ⟨_, List.mem_append_right _ (List.mem_singleton_self _), rfl⟩
  · intro stored member
    rw [documentVersions.rows_append, documentVersions.rows_append,
      documentVersions.rows_singleton_make,
      Relation.rows_singleton_of_disjoint documents_disjoint_documentVersions, List.append_nil,
      List.mem_append, List.mem_singleton] at member
    rcases member with old | rfl
    · exact store.checked stored old
    · exact version.checked

/-- An appended version is stored beside the others. -/
theorem DocumentStore.of_append {documentId : String} (store : DocumentStore rows)
    (ran : (append documentId prepared).exec documentConflict rows = (.ok version, rows')) :
    DocumentStore rows' := by
  have grown := (append_adds ran).2
  have sameDocuments : documents.rows rows' = documents.rows rows := by
    rw [grown, documents.rows_append,
      Relation.rows_singleton_of_disjoint documentVersions_disjoint_documents, List.append_nil]
  have versions : documentVersions.rows rows' =
      documentVersions.rows rows ++ [version.toDocumentVersionModel] := by
    rw [grown, documentVersions.rows_append, documentVersions.rows_singleton_make]
  refine ⟨by rw [sameDocuments]; exact store.ids, ?_, ?_⟩
  · intro document member
    rw [sameDocuments] at member
    obtain ⟨first, stored, own⟩ := store.versioned document member
    rw [versions]
    exact ⟨first, List.mem_append_left _ stored, own⟩
  · intro stored member
    rw [versions, List.mem_append, List.mem_singleton] at member
    rcases member with old | rfl
    · exact store.checked stored old
    · exact version.checked

/-- A repository call keeps what its body keeps. -/
theorem DocumentStore.of_transact {body : DocumentProg DocumentVersion} {state : UploadState}
    (store : DocumentStore state.rows)
    (adds : ∀ {version : DocumentVersion} {rows' : List DocumentRow},
      body.exec documentConflict state.rows = (.ok version, rows') → DocumentStore rows') :
    DocumentStore (transact body state).2.rows := by
  rw [transact, nextFault_bind]
  cases state.faults.head?.join with
  | some fault => exact store
  | none =>
      show DocumentStore (body.atomically documentConflict state.rows).2
      rcases ran : body.exec documentConflict state.rows with ⟨error | version, rows'⟩
      · rw [Prog.atomically_of_error documentConflict ran]
        exact store
      · rw [Prog.atomically_of_ok documentConflict ran]
        exact adds ran

/-- **Uploads keep what holds of the document tables**, whatever fails and whatever the driver
refuses. -/
theorem handleBound_documentStore (ports : UploadPorts) (command : UploadDocumentCommand)
    {state : UploadState} (store : DocumentStore state.rows) :
    DocumentStore (handleBound ports command state).2.rows := by
  rcases handleBound_cases ports command state with ⟨-, sameRows⟩ | same
  · rw [sameRows]
    exact store
  rw [same]
  show DocumentStore (handle ports command state).2.rows
  have untouched := inspect_untouched ports command state
  rcases inspecting : inspect ports command state with ⟨error | inspected, middle⟩
  · rw [inspecting] at untouched
    rw [handle_of_inspect_error inspecting, untouched.2]
    exact store
  rw [inspecting] at untouched
  rw [handle, Action.bind_of_ok inspecting]
  rcases storing : storeFiles ports command inspected middle with ⟨error | prepared, last⟩
  · rw [Action.bind_of_error storing]
    rw [← untouched.2, ← storeFiles_rows storing] at store
    exact store
  rw [Action.bind_of_ok storing, persist]
  rw [← untouched.2, ← storeFiles_rows storing] at store
  cases command.documentId with
  | none => exact store.of_transact fun ran => store.of_create ran
  | some documentId => exact store.of_transact fun ran => store.of_append ran

end Store

/-! ## An upload that is not settled -/

section Sample

variable {sha256 : Bytes → String} {nfc : String → String} {filename name : String}
  {chunks : List Bytes} {expiresAt : Option Timestamp} {documentId : Option String}

/-- The command of a received upload. -/
def uploadCommand (filename : String) (chunks : List Bytes) (expiresAt : Option Timestamp)
    (documentId : Option String) : UploadDocumentCommand where
  source := uploadOf filename chunks
  expiresAt := expiresAt
  documentId := documentId

/-- Ports that take uploads of a size for PDFs with three pages. -/
def pdfPorts (sha256 : Bytes → String) (nfc : String → String) (size : ℕ) : UploadPorts :=
  { samplePorts with
    sha256 := sha256
    nfc := nfc
    maxFileBytes := size
    detect := fun _ _ => .ok .pdf
    convert := fun _ _ _ _ => .error (.invalidDocumentError "文档无法转换为PDF") }

theorem honoured_pdfPorts (digests : ∀ content, LowerDigest (sha256 content)) (size : ℕ) :
    (pdfPorts sha256 nfc size).Honoured where
  digests := digests
  detect := nofun
  ensureSafe := nofun
  pdfReader := nofun
  isEncrypted := by
    rintro content reader error read failed
    cases read
    cases failed
  pages := by
    rintro content reader error read failed
    cases read
    cases failed
  convert := by
    rintro sourcePath fileFormat workspace files error raised
    cases raised
    rfl
  keepsSource := nofun
  bucket := by
    show nul ∉ samplePorts.bucket.toList
    decide
  now := rfl

/-- A call without failures to come. -/
theorem attempt_of_quiet {A : Type} {work : Upload A} {state : UploadState}
    (quiet : state.faults = []) : attempt work state = work state := by
  obtain ⟨files, objects, rows, faults⟩ := state
  cases quiet
  rfl

theorem stage_of_ok {ports : UploadPorts} {source : UploadSource} {state : UploadState}
    {staged : StagedUpload} {files : LocalFiles}
    (staging : stage ports.sha256 ports.nfc ports.maxFileBytes source ports.workspace state.files =
      .ok (staged, files)) : ports.stage source state = (.ok staged, { state with files := files }) := by
  unfold UploadPorts.stage
  rw [staging]

theorem parse_of_ok {ports : UploadPorts} {path : String} {fileFormat : DocumentFormat}
    {state : UploadState} {parsed : ParsedDocument} {files : LocalFiles}
    (parsing : parse ports.sha256 ports.pdfReader ports.convert ports.startedNs ports.finishedNs
      path fileFormat ports.workspace state.files = .ok (parsed, files)) :
    ports.parse path fileFormat state = (.ok parsed, { state with files := files }) := by
  unfold UploadPorts.parse
  rw [parsing]

/-- Staging an upload that has a name and a content. -/
theorem stage_pdfPorts (nonempty : [] ∉ chunks) (content : chunks ≠ [])
    (normalized : normalizeName nfc filename = .ok name) (state : UploadState) :
    ∃ staged, (pdfPorts sha256 nfc chunks.flatten.length).stage (uploadOf filename chunks) state =
      (.ok staged,
        { state with files := Function.update state.files staged.path (some chunks.flatten) }) := by
  have positive : chunks.flatten.length ≠ 0 := by
    obtain ⟨chunk, member⟩ := List.exists_mem_of_ne_nil _ content
    rw [Ne, List.length_eq_zero_iff, List.flatten_eq_nil_iff]
    exact fun empty => nonempty (empty chunk member ▸ member)
  have staging := @stage_upload sha256 nfc
    ⟨chunks.flatten.length, 1, Nat.one_le_iff_ne_zero.mpr positive, le_rfl, by decide⟩
    filename samplePorts.workspace state.files chunks nonempty
  rw [normalized] at staging
  simp only [Except.bind, lt_irrefl, if_false, if_neg positive] at staging
  refine ⟨{
    path := samplePorts.workspace ++ "/source.upload"
    normalizedName := name
    sizeBytes := chunks.flatten.length
    sha256 := sha256 chunks.flatten }, ?_⟩
  exact stage_of_ok staging

/-- Parsing a stored file as a PDF with three pages. -/
theorem parse_pdfPorts {size : ℕ} {path : String} {content : Bytes} {state : UploadState}
    (stored : state.files path = some content) :
    ∃ parsed, (pdfPorts sha256 nfc size).parse path .pdf state = (.ok parsed, state) ∧
      parsed.pageCount = 3 := by
  have counted : readPdfMetadata sha256 samplePorts.pdfReader state.files path =
      .ok (3, (hashChunks content.length content ⟨[]⟩).hexdigest sha256) := by
    unfold readPdfMetadata
    rw [stored]
    rfl
  have parsing : ∃ parsed, parse sha256 samplePorts.pdfReader (pdfPorts sha256 nfc size).convert
      samplePorts.startedNs samplePorts.finishedNs path .pdf samplePorts.workspace state.files =
        .ok (parsed, state.files) ∧ parsed.pageCount = 3 := by
    unfold parse
    rw [if_neg (not_not.mpr rfl)]
    show ∃ parsed, (readPdfMetadata sha256 samplePorts.pdfReader state.files path >>= fun counted =>
      _) = _ ∧ _
    rw [counted]
    exact ⟨_, rfl, rfl⟩
  obtain ⟨parsed, returned, pages⟩ := parsing
  exact ⟨parsed, parse_of_ok returned, pages⟩

/-- Calls that return make an inspection that passes. -/
theorem inspect_of_ok {ports : UploadPorts} {command : UploadDocumentCommand}
    {state middle last : UploadState} {staged : StagedUpload} {fileFormat : DocumentFormat}
    {parsed : ParsedDocument} (quiet : state.faults = []) (quiet' : middle.faults = [])
    (staging : ports.stage command.source state = (.ok staged, middle))
    (detected : ports.detect staged.path middle.files = .ok fileFormat)
    (safe : ports.ensureSafe staged.path fileFormat middle.files = .ok ())
    (parsing : ports.parse staged.path fileFormat middle = (.ok parsed, last))
    (pages : 1 ≤ parsed.pageCount ∧ parsed.pageCount ≤ maxDocumentPages) :
    inspect ports command state =
      (.ok { staged := staged, fileFormat := fileFormat, parsed := parsed }, last) := by
  have detecting : attempt (fun state => (ports.detect staged.path state.files, state)) middle =
      (.ok fileFormat, middle) := (attempt_of_quiet quiet').trans (Prod.ext detected rfl)
  have scanning : attempt (fun state =>
      (ports.ensureSafe staged.path fileFormat state.files, state)) middle = (.ok (), middle) :=
    (attempt_of_quiet quiet').trans (Prod.ext safe rfl)
  refine (Action.bind_of_ok ((attempt_of_quiet quiet).trans staging)).trans ?_
  refine (Action.bind_of_ok detecting).trans ?_
  refine (Action.bind_of_ok scanning).trans ?_
  refine (Action.bind_of_ok ((attempt_of_quiet quiet').trans parsing)).trans ?_
  rw [if_neg (not_lt.mpr pages.2), if_neg (not_lt.mpr pages.1)]
  rfl

/-- These ports pass every upload that has a name and a content. -/
theorem inspect_pdfPorts (nonempty : [] ∉ chunks) (content : chunks ≠ [])
    (normalized : normalizeName nfc filename = .ok name) {state : UploadState}
    (quiet : state.faults = []) :
    ∃ inspected middle,
      inspect (pdfPorts sha256 nfc chunks.flatten.length)
        (uploadCommand filename chunks expiresAt documentId) state = (.ok inspected, middle) ∧
      inspected.fileFormat = .pdf ∧ middle.faults = [] := by
  obtain ⟨staged, staging⟩ := @stage_pdfPorts sha256 _ _ _ _ nonempty content normalized state
  generalize written : { state with
    files := Function.update state.files staged.path (some chunks.flatten) } = middle at staging
  have quiet' : middle.faults = [] := by
    rw [← written]
    exact quiet
  have stored : middle.files staged.path = some chunks.flatten := by
    rw [← written]
    exact Function.update_self ..
  obtain ⟨parsed, parsing, pages⟩ := @parse_pdfPorts sha256 nfc chunks.flatten.length _ _ _ stored
  refine ⟨_, _, inspect_of_ok quiet quiet' staging rfl rfl parsing ?_, rfl, quiet'⟩
  rw [pages]
  decide

/-- A `put` of a new content, without failures. -/
theorem put_of_free {ports : UploadPorts} {digest path contentType : String} {content : Bytes}
    {state : UploadState} (typed : blank contentType = false) (shape : isSha256 digest = true)
    (stored : state.files path = some content) (free : state.objects (objectKey digest) = none)
    (quiet : state.faults = []) :
    ∃ url last, ports.put digest path contentType state = (.ok url, last) ∧ last.faults = [] := by
  have served : (put ports.bucket digest path contentType).exec (serveInOrder state.files)
      (state.objects, []) = (.ok (objectUri ports.bucket (objectKey digest)),
        Function.update state.objects (objectKey digest) (some content), []) := by
    rw [put, typed, shape, if_neg Bool.false_ne_true]
    simp only [Bool.not_true, Bool.false_eq_true, if_false]
    rw [Program.exec_call]
    simp only [serveInOrder, servePut, statFile_of_stored stored]
    show (putSized ports.bucket digest path contentType content.length).exec _ _ = _
    rw [putSized, Program.exec_call]
    simp only [serveInOrder, servePut, free]
    show (putMissing ports.bucket digest path contentType content.length).exec _ _ = _
    rw [putMissing, Program.exec_call]
    simp only [serveInOrder, servePut, uploadObject_whole stored]
    rfl
  rw [UploadPorts.put, quiet, served]
  exact ⟨_, _, rfl, rfl⟩

/-- Storing an inspected PDF into an empty store, without failures. -/
theorem storeFiles_of_empty {ports : UploadPorts} {command : UploadDocumentCommand}
    {state : UploadState} {inspected : Inspected} {source : Bytes} (honoured : ports.Honoured)
    (inspection : Inspection ports source inspected state.files)
    (isPdf : inspected.fileFormat = .pdf) (empty : ∀ key, state.objects key = none)
    (quiet : state.faults = []) :
    ∃ last, storeFiles ports command inspected state = (.ok (prepare ports command inspected), last) ∧
      last.faults = [] := by
  have shape : isSha256 inspected.staged.sha256 = true := by
    rw [inspection.digest]
    exact (honoured.digests _).1
  obtain ⟨url, last, stored, quiet'⟩ := @put_of_free ports _ _ _ _ _
    (blank_canonicalMimeType inspected.fileFormat) shape inspection.parsed.stored (empty _) quiet
  have storing : ∃ prepared, storeFiles ports command inspected state = (.ok prepared, last) := by
    rw [storeFiles, Action.bind_of_ok stored, if_pos isPdf]
    exact ⟨_, rfl⟩
  obtain ⟨prepared, storing⟩ := storing
  rw [storeFiles_prepares inspection storing] at storing
  exact ⟨last, storing, quiet'⟩

/-- A digest other than the given one. -/
def otherDigest (digest : String) : String :=
  if digest = String.ofList (List.replicate 64 '0') then String.ofList (List.replicate 64 '1')
  else String.ofList (List.replicate 64 '0')

theorem otherDigest_ne (digest : String) : otherDigest digest ≠ digest := by
  unfold otherDigest
  split_ifs with zeros
  · rw [zeros]
    decide
  · exact fun same => zeros same.symm

/-- The first version of a document, with another content. -/
def firstVersion (digest documentId : String) : DocumentVersionModel where
  id := "v"
  documentId := documentId
  name := "bid.pdf"
  fileUrl := objectUri samplePorts.bucket (objectKey (otherDigest digest))
  normalizedPdfUrl := objectUri samplePorts.bucket (objectKey (otherDigest digest))
  fileFormat := .pdf
  fileHash := otherDigest digest
  normalizedPdfHash := otherDigest digest
  version := 1
  uploadedAt := samplePorts.now
  expiresAt := none
  pageCount := 3
  parserVersion := parserVersion
  parseDurationMs := 0

theorem check_firstVersion (digest documentId : String) :
    (firstVersion digest documentId).check = .ok () := by
  have shape : isSha256 (otherDigest digest) = true := by
    unfold otherDigest
    split_ifs <;> decide
  have named : blank "bid.pdf" = false := by decide
  have pages : (1 : ℤ) ≤ 3 ∧ (3 : ℤ) ≤ maxDocumentPages := by decide
  have proper : (firstVersion digest documentId).Proper :=
    ⟨named, blank_objectUri _ _, blank_objectUri _ _, shape, shape, le_rfl, pages,
      blank_parserVersion, le_rfl, rfl, fun _ => ⟨rfl, rfl⟩⟩
  exact proper.check_eq

/-- An empty store with the document to append to. -/
def documentState (digest : String) (documentId : Option String) : UploadState :=
  { emptyUploadState with
    rows := match documentId with
      | none => []
      | some documentId =>
          [documents.make { id := documentId, createdAt := samplePorts.now },
            documentVersions.make (firstVersion digest documentId)] }

theorem documentStore_documentState (digest : String) (documentId : Option String) :
    DocumentStore (documentState digest documentId).rows := by
  rcases documentId with _ | documentId
  · exact documentStore_nil
  · refine ⟨List.nodup_singleton _, ?_, ?_⟩
    · intro document member
      obtain rfl := List.mem_singleton.mp member
      exact ⟨firstVersion digest documentId, List.mem_singleton_self _, rfl⟩
    · intro version member
      obtain rfl := List.mem_singleton.mp member
      exact check_firstVersion digest documentId

/-- In this state the repository comes to insert the version. -/
theorem sendable_of_settled {prepared : PreparedDocumentVersion} {last : UploadState}
    (quiet : last.faults = []) (sameRows : last.rows = (documentState prepared.fileHash
      documentId).rows) (own : prepared.documentId = documentId.getD prepared.documentId)
    (checked : ∀ number, 1 ≤ number → (prepared.withVersion number).check = .ok ())
    (settled : Settled (persistBound (uploadCommand filename chunks expiresAt documentId)
      prepared last).1) : prepared.Sendable := by
  have next : last.faults.head?.join = none := by
    rw [quiet]
    rfl
  rcases documentId with _ | documentId
  · have returned : Settled (transactBound (create prepared) last).1 := settled
    rw [transactBound_of_quiet next, sameRows, settled_create_iff (checked 1 le_rfl)] at returned
    exact returned.resolve_left Bool.false_ne_true
  · have returned : Settled (transactBound (append documentId prepared) last).1 := settled
    have store := documentStore_documentState prepared.fileHash (some documentId)
    have own : prepared.documentId = documentId := own
    rw [transactBound_of_quiet next, sameRows, settled_append_iff store own checked] at returned
    rcases returned with absent | ⟨version, member, -, sameHash⟩ | sendable
    · exact absurd rfl (absent _ (List.mem_singleton_self _))
    · obtain rfl := List.mem_singleton.mp member
      exact absurd sameHash (otherDigest_ne _)
    · exact sendable

end Sample

/-! ## Which uploads are settled -/

/-- What an upload promises over all ports and tables that keep their promises: it ends in a
version or in an error of the application, and what has passed the checks before the object
store is accepted by the constructor. -/
structure UploadDocumentCommand.Settles (sha256 : Bytes → String) (nfc : String → String)
    (command : UploadDocumentCommand) : Prop where
  settled : ∀ (ports : UploadPorts) (state : UploadState), ports.sha256 = sha256 →
    ports.nfc = nfc → ports.Honoured → FaultsHonoured state → DocumentStore state.rows →
      Settled (handleBound ports command state).1
  accepted : ∀ (ports : UploadPorts) (state middle : UploadState) (inspected : Inspected)
    (number : ℤ), ports.sha256 = sha256 → ports.nfc = nfc → ports.Honoured →
      inspect ports command state = (.ok inspected, middle) → 1 ≤ number →
        ((prepare ports command inspected).withVersion number).check = .ok ()

section Settling

variable {sha256 : Bytes → String} {nfc : String → String} {filename : String}
  {chunks : List Bytes} {expiresAt : Option Timestamp} {documentId : Option String}

/-- An upload whose name and time of expiry pass is settled. -/
theorem settles_of_sound (sound : chunks = [] ∨ ∀ name, normalizeName nfc filename = .ok name →
      nul ∉ name.toList ∧ expiresAt.all Timestamp.aware = true) :
    (uploadCommand filename chunks expiresAt documentId).Settles sha256 nfc where
  settled := by
    rintro ports state rfl rfl honoured kept store
    exact settled_handleBound honoured kept store rfl sound
  accepted := by
    rintro ports state middle inspected number rfl rfl honoured inspecting positive
    have admitted := inspect_admits inspecting
    have inspection := inspect_ok honoured.keepsSource inspecting
    obtain ⟨-, aware⟩ := (sound.resolve_left fun empty =>
      admitted.content (by rw [empty]; rfl)) _ admitted.name
    rw [(proper_prepare honoured inspection admitted positive).check_eq]
    exact if_pos aware

/-- **An upload that is settled** has an aware time of expiry, if any. -/
theorem aware_of_settles (digests : ∀ content, LowerDigest (sha256 content))
    (nonempty : [] ∉ chunks) (content : chunks ≠ []) {name : String}
    (normalized : normalizeName nfc filename = .ok name)
    (settles : (uploadCommand filename chunks expiresAt documentId).Settles sha256 nfc) :
    expiresAt.all Timestamp.aware = true := by
  obtain ⟨inspected, middle, inspecting, -, -⟩ := @inspect_pdfPorts sha256 _ _ _ _ expiresAt
    documentId nonempty content normalized emptyUploadState rfl
  have honoured := @honoured_pdfPorts _ nfc digests chunks.flatten.length
  have accepted := settles.accepted _ _ _ _ 1 rfl rfl honoured inspecting le_rfl
  rw [(proper_prepare honoured (inspect_ok honoured.keepsSource inspecting)
    (inspect_admits inspecting) le_rfl).check_eq] at accepted
  by_contra naive
  rw [show ((prepare (pdfPorts sha256 nfc chunks.flatten.length)
    (uploadCommand filename chunks expiresAt documentId) inspected).withVersion 1).expiresAt =
      expiresAt from rfl, if_neg naive] at accepted
  cases accepted

/-- **An upload that is settled** has a name that can be sent. -/
theorem sent_of_settles (digests : ∀ content, LowerDigest (sha256 content))
    (nonempty : [] ∉ chunks) (content : chunks ≠ []) {name : String}
    (normalized : normalizeName nfc filename = .ok name)
    (settles : (uploadCommand filename chunks expiresAt documentId).Settles sha256 nfc) :
    nul ∉ name.toList := by
  have aware := aware_of_settles digests nonempty content normalized settles
  have honoured := @honoured_pdfPorts _ nfc digests chunks.flatten.length
  let state := documentState (sha256 (uploadOf filename chunks).bytes) documentId
  have settled := settles.settled _ state rfl rfl honoured nofun (documentStore_documentState _ _)
  obtain ⟨inspected, middle, inspecting, isPdf, quiet⟩ := @inspect_pdfPorts sha256 _ _ _ _
    expiresAt documentId nonempty content normalized state rfl
  have inspection := inspect_ok honoured.keepsSource inspecting
  have admitted := inspect_admits inspecting
  have untouched := inspect_untouched (pdfPorts sha256 nfc chunks.flatten.length)
    (uploadCommand filename chunks expiresAt documentId) state
  rw [inspecting] at untouched
  obtain ⟨last, storing, quiet'⟩ := @storeFiles_of_empty _
    (uploadCommand filename chunks expiresAt documentId) _ _ _ honoured inspection isPdf
    (fun key => congrFun untouched.1 key) quiet
  have sameRows : last.rows = state.rows := (storeFiles_rows storing).trans untouched.2
  rw [handleBound, Action.bind_of_ok (Action.mapError_of_ok inspecting),
    Action.bind_of_ok (Action.mapError_of_ok storing)] at settled
  have hash : inspected.staged.sha256 = sha256 (uploadOf filename chunks).bytes := inspection.digest
  have own : documentId.getD samplePorts.newDocumentId =
      documentId.getD (documentId.getD samplePorts.newDocumentId) := by
    cases documentId <;> rfl
  have sendable : (prepare (pdfPorts sha256 nfc chunks.flatten.length)
      (uploadCommand filename chunks expiresAt documentId) inspected).Sendable := by
    refine sendable_of_settled quiet' ?_ own (fun number positive => ?_) settled
    · rw [sameRows]
      show (documentState (sha256 (uploadOf filename chunks).bytes) documentId).rows =
        (documentState inspected.staged.sha256 documentId).rows
      rw [hash]
    · exact settles.accepted _ _ _ _ number rfl rfl honoured inspecting positive
  have sent := (sendable_prepare_iff honoured inspection admitted).mp sendable
  rwa [Except.ok.inj (normalized.symm.trans admitted.name)]

/-- **Which uploads are settled**: the empty ones, those whose name is refused, and those
with a name without U+0000 and, if they expire, with an aware time of expiry. -/
theorem upload_settles_iff (digests : ∀ content, LowerDigest (sha256 content))
    (nonempty : [] ∉ chunks) :
    (uploadCommand filename chunks expiresAt documentId).Settles sha256 nfc ↔
      chunks = [] ∨ ∀ name, normalizeName nfc filename = .ok name →
        nul ∉ name.toList ∧ expiresAt.all Timestamp.aware = true := by
  refine ⟨fun settles => ?_, settles_of_sound⟩
  rcases eq_or_ne chunks [] with empty | content
  · exact .inl empty
  · refine .inr fun name normalized => ?_
    exact ⟨sent_of_settles digests nonempty content normalized settles,
      aware_of_settles digests nonempty content normalized settles⟩

end Settling

/-- A PDF that does not expire. -/
theorem upload_settles_iff_pdf :
    (uploadCommand "bid.pdf" [pdfBytes 49] none none).Settles sampleSha256 id :=
  (upload_settles_iff lowerDigest_sampleSha256 (by decide)).mpr
    (.inr fun name normalized => ⟨by
      have named : normalizeName id "bid.pdf" = .ok "bid.pdf" := by decide +kernel
      rw [← Except.ok.inj (named.symm.trans normalized)]
      decide, rfl⟩)

/-- A PDF that expires at a naive time. -/
def naiveUpload : UploadDocumentCommand :=
  uploadCommand "bid.pdf" [pdfBytes 49] (some { moment := 1767225600000000, utcoffset := none })
    none

/-- Ports with the limit of `StreamingUploadStager`. -/
def naivePorts : UploadPorts := pdfPorts sampleSha256 id (200 * 1024 * 1024)

/-- **A naive time of expiry** is refused by the constructor alone: the upload ends in a bare
`ValueError`, after its object has been stored. -/
theorem naive_expiry_not_settled :
    (naivePorts.Honoured ∧ FaultsHonoured emptyUploadState ∧
      DocumentStore emptyUploadState.rows) ∧
    ¬Settled (handleBound naivePorts naiveUpload emptyUploadState).1 ∧
    ∃ state, handleBound naivePorts naiveUpload emptyUploadState =
        (.error (.error (.valueError "expiration time must be timezone-aware")), state) ∧
      state.objects (objectKey (sampleSha256 (pdfBytes 49))) = some (pdfBytes 49) := by
  have evaluated : (match handleBound naivePorts naiveUpload emptyUploadState with
      | (.error raised, state) =>
          raised == .error (.valueError "expiration time must be timezone-aware") &&
            state.objects (objectKey (sampleSha256 (pdfBytes 49))) == some (pdfBytes 49)
      | (.ok _, _) => false) = true := by decide +kernel
  refine ⟨⟨honoured_pdfPorts lowerDigest_sampleSha256 _, nofun, documentStore_nil⟩, ?_⟩
  generalize handleBound naivePorts naiveUpload emptyUploadState = ran at evaluated
  rcases ran with ⟨raised | version, state⟩
  · rw [Bool.and_eq_true, beq_iff_eq, beq_iff_eq] at evaluated
    obtain ⟨rfl, stored⟩ := evaluated
    refine ⟨fun settled => ?_, state, rfl, stored⟩
    cases settled with
    | refused admitted => cases admitted
  · cases evaluated

end BidSystem.Documents
