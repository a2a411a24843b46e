import BidSystem.Documents.History
import BidSystem.Documents.ObjectStore
import BidSystem.Interaction.Action

/-!
# Uploading a document

`UploadDocumentHandler.handle`: stage the source, recognize it, scan it, parse
its canonical PDF, store both files and append one version row.

Any call of a port may fail: `UploadState.faults` is the pattern of failures,
one entry for each call in order.  A call of the repository that fails adds no
row; any other failing call may have done its work or not.

* `inspect`, `storeFiles`, `persist` — the three parts of `handle`: what comes
  before the object store, the object store, and the repository.
* `Inspection`, `inspect_ok` — what a passed inspection says about the files.
* `StoredFiles`, `storeFiles_ok` — what the prepared version names.
* `Accepted`, `handle_effect` — the effect of an upload.
-/

namespace BidSystem.Documents

open ReadCommitted Interaction ContentAddressed

/-- `UploadDocumentCommand`. -/
structure UploadDocumentCommand where
  source : UploadSource
  expiresAt : Option Timestamp
  documentId : Option String

/-- The ports that are not local code, and what the workspace factory, the
clocks and the id generator give this upload. -/
structure UploadPorts where
  sha256 : Bytes → String
  nfc : String → String
  maxFileBytes : ℕ
  detect : String → LocalFiles → Except PyError DocumentFormat
  ensureSafe : String → DocumentFormat → LocalFiles → Except PyError Unit
  pdfReader : Bytes → Except PyError PdfReader
  convert : PdfConverter
  bucket : String
  workspace : String
  startedNs : ℤ
  finishedNs : ℤ
  now : Timestamp
  newDocumentId : String
  newVersionId : String

/-- What an upload changes, and the failures to come. -/
structure UploadState where
  files : LocalFiles
  objects : Objects
  rows : List DocumentRow
  faults : List (Option Fault)

/-- Code of an upload. -/
abbrev Upload := Action UploadState PyError

/-- `CANONICAL_MIME_TYPES`. -/
def canonicalMimeType : DocumentFormat → String
  | .pdf => "application/pdf"
  | .docx => "application/vnd.openxmlformats-officedocument.wordprocessingml.document"
  | .pptx => "application/vnd.openxmlformats-officedocument.presentationml.presentation"

/-! ## Calls of ports -/

/-- Take the next failure. -/
def nextFault : Upload (Option Fault) := fun state =>
  (.ok state.faults.head?.join, { state with faults := state.faults.tail })

theorem nextFault_bind {A : Type} (next : Option Fault → Upload A) (state : UploadState) :
    (nextFault >>= next) state =
      next state.faults.head?.join { state with faults := state.faults.tail } := rfl

/-- Call a port; a late failure comes after its work. -/
def attempt {A : Type} (work : Upload A) : Upload A := do
  match ← nextFault with
  | none => work
  | some fault =>
      if fault.late then do
        let _ ← work
        .raise fault.error
      else .raise fault.error

/-- `StreamingUploadStager.stage`. -/
def UploadPorts.stage (ports : UploadPorts) (source : UploadSource) : Upload StagedUpload :=
  fun state =>
    match Documents.stage ports.sha256 ports.nfc ports.maxFileBytes source ports.workspace
        state.files with
    | .ok (staged, files) => (.ok staged, { state with files := files })
    | .error error => (.error error, state)

/-- `CanonicalPdfMetadataParser.parse`. -/
def UploadPorts.parse (ports : UploadPorts) (sourcePath : String) (fileFormat : DocumentFormat) :
    Upload ParsedDocument := fun state =>
  match Documents.parse ports.sha256 ports.pdfReader ports.convert ports.startedNs
      ports.finishedNs sourcePath fileFormat ports.workspace state.files with
  | .ok (parsed, files) => (.ok parsed, { state with files := files })
  | .error error => (.error error, state)

/-- `MinioDocumentBlobStore.put`. -/
def UploadPorts.put (ports : UploadPorts) (sha256 path contentType : String) : Upload String :=
  fun state =>
    let ran := (Documents.put ports.bucket sha256 path contentType).exec
      (serveInOrder state.files) (state.objects, state.faults)
    (ran.1, { state with objects := ran.2.1, faults := ran.2.2 })

/-- A repository call on the rows. -/
def runBody {A : Type} (body : DocumentProg A) : Upload A := fun state =>
  let ran := body.atomically documentConflict state.rows
  (ran.1, { state with rows := ran.2 })

/-- A call of the repository. -/
def transact {A : Type} (body : DocumentProg A) : Upload A := do
  match ← nextFault with
  | some fault => .raise fault.error
  | none => runBody body

/-! ## The handler -/

/-- What `handle` knows before it stores anything. -/
structure Inspected where
  staged : StagedUpload
  fileFormat : DocumentFormat
  parsed : ParsedDocument

/-- `handle` up to the page checks. -/
def inspect (ports : UploadPorts) (command : UploadDocumentCommand) : Upload Inspected := do
  let staged ← attempt (ports.stage command.source)
  let fileFormat ← attempt fun state => (ports.detect staged.path state.files, state)
  attempt fun state => (ports.ensureSafe staged.path fileFormat state.files, state)
  let parsed ← attempt (ports.parse staged.path fileFormat)
  if maxDocumentPages < parsed.pageCount then .raise .pageLimitExceededError
  else if parsed.pageCount < 1 then .raise (.invalidDocumentError "文件不包含可解析页面")
  else return { staged := staged, fileFormat := fileFormat, parsed := parsed }

/-- `handle` from the first `put` to the prepared version. -/
def storeFiles (ports : UploadPorts) (command : UploadDocumentCommand) (inspected : Inspected) :
    Upload PreparedDocumentVersion := do
  let { staged, fileFormat, parsed } := inspected
  let sourceUrl ← ports.put staged.sha256 staged.path (canonicalMimeType fileFormat)
  let normalizedPdfUrl ← (
    if fileFormat = .pdf then pure sourceUrl
    else ports.put parsed.normalizedPdfHash parsed.normalizedPdfPath (canonicalMimeType .pdf))
  return {
    id := ports.newVersionId
    documentId := command.documentId.getD ports.newDocumentId
    name := staged.normalizedName
    fileUrl := sourceUrl
    normalizedPdfUrl := normalizedPdfUrl
    fileFormat := fileFormat
    fileHash := staged.sha256
    normalizedPdfHash := parsed.normalizedPdfHash
    uploadedAt := ports.now
    expiresAt := command.expiresAt
    pageCount := parsed.pageCount
    parserVersion := parsed.parserVersion
    parseDurationMs := parsed.parseDurationMs }

/-- The end of `handle`. -/
def persist (command : UploadDocumentCommand) (prepared : PreparedDocumentVersion) :
    Upload DocumentVersion :=
  match command.documentId with
  | none => transact (create prepared)
  | some documentId => transact (append documentId prepared)

/-- `UploadDocumentHandler.handle`. -/
def handle (ports : UploadPorts) (command : UploadDocumentCommand) : Upload DocumentVersion := do
  let inspected ← inspect ports command
  let prepared ← storeFiles ports command inspected
  persist command prepared

/-! ## What the parts leave alone -/

/-- Neither objects nor rows have changed. -/
def Untouched (state state' : UploadState) : Prop :=
  state'.objects = state.objects ∧ state'.rows = state.rows

theorem Untouched.refl (state : UploadState) : Untouched state state := ⟨rfl, rfl⟩

theorem Untouched.trans {first second third : UploadState} (front : Untouched first second)
    (back : Untouched second third) : Untouched first third :=
  ⟨back.1.trans front.1, back.2.trans front.2⟩

theorem Untouched.bind {A B : Type} {action : Upload A} {next : A → Upload B}
    (front : Action.Within Untouched action)
    (back : ∀ result, Action.Within Untouched (next result)) :
    Action.Within Untouched (action >>= next) := by
  refine Action.Within.bind ?_ front back
  exact fun _ _ _ => Untouched.trans

theorem nextFault_untouched : Action.Within Untouched nextFault := fun _ => ⟨rfl, rfl⟩

theorem attempt_untouched {A : Type} {work : Upload A} (within : Action.Within Untouched work) :
    Action.Within Untouched (attempt work) := by
  refine Untouched.bind nextFault_untouched fun fault => ?_
  cases fault with
  | none => exact within
  | some fault =>
      show Action.Within Untouched (if fault.late = true then _ else _)
      split
      · exact Untouched.bind within fun _ => .raise Untouched.refl _
      · exact .raise Untouched.refl _

theorem stage_untouched (ports : UploadPorts) (source : UploadSource) :
    Action.Within Untouched (ports.stage source) := by
  intro state
  unfold UploadPorts.stage
  split <;> exact ⟨rfl, rfl⟩

theorem parse_untouched (ports : UploadPorts) (path : String) (fileFormat : DocumentFormat) :
    Action.Within Untouched (ports.parse path fileFormat) := by
  intro state
  unfold UploadPorts.parse
  split <;> exact ⟨rfl, rfl⟩

/-- **Inspecting an upload changes neither the object store nor the database**,
whatever fails. -/
theorem inspect_untouched (ports : UploadPorts) (command : UploadDocumentCommand) :
    Action.Within Untouched (inspect ports command) := by
  refine Untouched.bind (attempt_untouched (stage_untouched ports _)) fun staged => ?_
  refine Untouched.bind (attempt_untouched fun state => ⟨rfl, rfl⟩) fun fileFormat => ?_
  refine Untouched.bind (attempt_untouched fun state => ⟨rfl, rfl⟩) fun _ => ?_
  refine Untouched.bind (attempt_untouched (parse_untouched ports _ _)) fun parsed => ?_
  split_ifs
  · exact .raise Untouched.refl _
  · exact .raise Untouched.refl _
  · exact .pure Untouched.refl _

/-! ## What a passed inspection says -/

/-- A call that returned had no failure. -/
theorem of_attempt_ok {A : Type} {work : Upload A} {state state' : UploadState} {result : A}
    (returned : attempt work state = (.ok result, state')) :
    work { state with faults := state.faults.tail } = (.ok result, state') := by
  rw [attempt, nextFault_bind] at returned
  cases fault : state.faults.head?.join with
  | none =>
      rw [fault] at returned
      exact returned
  | some failure =>
      rw [fault] at returned
      dsimp only at returned
      split at returned
      · obtain ⟨_, _, _, raised⟩ := Action.of_bind_ok returned
        cases raised
      · cases returned

theorem of_stage_ok {ports : UploadPorts} {source : UploadSource} {state state' : UploadState}
    {staged : StagedUpload} (returned : ports.stage source state = (.ok staged, state')) :
    staged.sha256 = ports.sha256 source.bytes ∧ state'.files staged.path = some source.bytes := by
  unfold UploadPorts.stage at returned
  split at returned
  · next result files staging =>
      cases returned
      exact stage_ok staging
  · cases returned

/-- The converter leaves its source alone. -/
def KeepsSource (convert : PdfConverter) : Prop :=
  ∀ ⦃sourcePath : String⦄ ⦃fileFormat : DocumentFormat⦄ ⦃workspace : String⦄
    ⦃files files' : LocalFiles⦄ ⦃path : String⦄,
    convert sourcePath fileFormat workspace files = .ok (path, files') →
      files' sourcePath = files sourcePath

/-- What a parsed source has. -/
structure ParsedFrom (ports : UploadPorts) (sourcePath : String) (fileFormat : DocumentFormat)
    (source : Bytes) (parsed : ParsedDocument) (files : LocalFiles) : Prop where
  stored : files sourcePath = some source
  canonical : ∃ content, files parsed.normalizedPdfPath = some content ∧
    parsed.normalizedPdfHash = ports.sha256 content
  isSource : fileFormat = .pdf → parsed.normalizedPdfHash = ports.sha256 source

theorem of_parse_ok {ports : UploadPorts} (keepsSource : KeepsSource ports.convert)
    {sourcePath : String} {fileFormat : DocumentFormat} {state state' : UploadState}
    {source : Bytes} {parsed : ParsedDocument}
    (returned : ports.parse sourcePath fileFormat state = (.ok parsed, state'))
    (stored : state.files sourcePath = some source) :
    ParsedFrom ports sourcePath fileFormat source parsed state'.files := by
  unfold UploadPorts.parse at returned
  split at returned
  · next result files parsing =>
      cases returned
      obtain ⟨⟨content, found, hash⟩, isPdf, isOffice⟩ := parse_ok parsing
      by_cases format : fileFormat = .pdf
      · obtain ⟨samePath, rfl⟩ := isPdf format
        refine ⟨stored, ⟨content, found, hash⟩, fun _ => ?_⟩
        rw [samePath, stored] at found
        rw [hash, Option.some.inj found]
      · obtain ⟨path, converted⟩ := isOffice format
        refine ⟨?_, ⟨content, found, hash⟩, fun isPdf => absurd isPdf format⟩
        exact (keepsSource converted).trans stored
  · cases returned

/-- What a passed inspection says. -/
structure Inspection (ports : UploadPorts) (source : Bytes) (inspected : Inspected)
    (files : LocalFiles) : Prop where
  digest : inspected.staged.sha256 = ports.sha256 source
  safe : ∃ scanned : LocalFiles, scanned inspected.staged.path = some source ∧
    ports.ensureSafe inspected.staged.path inspected.fileFormat scanned = .ok ()
  parsed : ParsedFrom ports inspected.staged.path inspected.fileFormat source inspected.parsed files
  pages : 1 ≤ inspected.parsed.pageCount ∧ inspected.parsed.pageCount ≤ maxDocumentPages

/-- **A passed inspection**: the staged file has the uploaded bytes and their
digest, was found safe, and its canonical PDF has been hashed and counted. -/
theorem inspect_ok {ports : UploadPorts} (keepsSource : KeepsSource ports.convert)
    {command : UploadDocumentCommand} {state state' : UploadState} {inspected : Inspected}
    (returned : inspect ports command state = (.ok inspected, state')) :
    Inspection ports command.source.bytes inspected state'.files := by
  obtain ⟨staged, afterStage, staging, returned⟩ := Action.of_bind_ok returned
  obtain ⟨fileFormat, afterDetect, detecting, returned⟩ := Action.of_bind_ok returned
  obtain ⟨_, afterScan, scanning, returned⟩ := Action.of_bind_ok returned
  obtain ⟨parsed, afterParse, parsing, returned⟩ := Action.of_bind_ok returned
  obtain ⟨digest, stored⟩ := of_stage_ok (of_attempt_ok staging)
  have detected := of_attempt_ok detecting
  have scanned := of_attempt_ok scanning
  have sameFiles : afterDetect.files = afterStage.files :=
    (congrArg (fun outcome => outcome.2.files) detected).symm
  have sameFiles' : afterScan.files = afterDetect.files :=
    (congrArg (fun outcome => outcome.2.files) scanned).symm
  have present : afterDetect.files staged.path = some command.source.bytes := by
    rw [sameFiles]
    exact stored
  have kept : afterScan.files staged.path = some command.source.bytes := by
    rw [sameFiles']
    exact present
  have parsedFrom := of_parse_ok keepsSource (of_attempt_ok parsing) kept
  split_ifs at returned with tooMany none
  · cases returned
  · cases returned
  · cases returned
    exact ⟨digest, ⟨afterDetect.files, present, congrArg Prod.fst scanned⟩, parsedFrom,
      not_lt.mp none, not_lt.mp tooMany⟩

/-! ## What the prepared version names -/

/-- The key a content is stored under. -/
def UploadPorts.address (ports : UploadPorts) (content : Bytes) : String :=
  objectKey (ports.sha256 content)

/-- What is known of the row of an upload. -/
structure Accepted (ports : UploadPorts) (source : Bytes) (row : DocumentVersionModel)
    (objects : Objects) : Prop where
  fileHash : row.fileHash = ports.sha256 source
  fileUrl : ∃ key, row.fileUrl = objectUri ports.bucket key ∧ objects key = some source
  normalizedPdfUrl : ∃ key object, row.normalizedPdfUrl = objectUri ports.bucket key ∧
    objects key = some object ∧ ports.sha256 object = row.normalizedPdfHash
  safe : ∃ (path : String) (files : LocalFiles), files path = some source ∧
    ports.ensureSafe path row.fileFormat files = .ok ()
  pages : 1 ≤ row.pageCount ∧ row.pageCount ≤ maxDocumentPages
  pdf : row.fileFormat = .pdf →
    row.normalizedPdfHash = row.fileHash ∧ row.normalizedPdfUrl = row.fileUrl

/-- The effect of one `put` of an upload. -/
theorem put_stores (ports : UploadPorts) {digest path contentType : String}
    {state state' : UploadState} {content : Bytes} {outcome : Except PyError String}
    (stored : state.files path = some content)
    (ran : ports.put digest path contentType state = (outcome, state')) :
    state'.files = state.files ∧ state'.rows = state.rows ∧
      Stores (objectKey digest) content state.objects state'.objects ∧
        ∀ url, outcome = .ok url → url = objectUri ports.bucket (objectKey digest) ∧
          ∃ object, state'.objects (objectKey digest) = some object := by
  rw [UploadPorts.put] at ran
  rcases served : (Documents.put ports.bucket digest path contentType).exec
      (serveInOrder state.files) (state.objects, state.faults) with ⟨result, objects, faults⟩
  rw [served] at ran
  cases ran
  exact ⟨rfl, rfl, put_effect stored served⟩

section Storing

variable {ports : UploadPorts} {command : UploadDocumentCommand} {state state' : UploadState}

/-- Addresses tell apart what digests tell apart. -/
theorem address_injOn (digests : ∀ content, LowerDigest (ports.sha256 content))
    {contents : Set Bytes} (collisionFree : Set.InjOn ports.sha256 contents) :
    Set.InjOn ports.address contents := fun left leftMem right rightMem same =>
  collisionFree leftMem rightMem (objectKey_inj (digests left) (digests right) same)

/-- **Storing the files of an inspected upload**: the prepared version names
objects with the uploaded bytes and with the bytes of the canonical PDF's digest. -/
theorem storeFiles_ok (digests : ∀ content, LowerDigest (ports.sha256 content))
    (addressed : Addressed ports.address state.objects)
    (collisionFree : Set.InjOn ports.sha256 (insert command.source.bytes state.objects.contents))
    {inspected : Inspected}
    (inspection : Inspection ports command.source.bytes inspected state.files)
    {prepared : PreparedDocumentVersion}
    (returned : storeFiles ports command inspected state = (.ok prepared, state')) (number : ℤ) :
    Accepted ports command.source.bytes (prepared.withVersion number) state'.objects := by
  obtain ⟨sourceUrl, middle, sourcePut, returned⟩ := Action.of_bind_ok returned
  obtain ⟨normalizedPdfUrl, last, normalizedPut, returned⟩ := Action.of_bind_ok returned
  cases returned
  obtain ⟨digest, safe, ⟨stored, ⟨canonical, canonicalStored, canonicalDigest⟩, isSource⟩, pages⟩ :=
    inspection
  obtain ⟨sameFiles, -, stores, found⟩ := put_stores ports stored sourcePut
  obtain ⟨isUrl, object, present⟩ := found sourceUrl rfl
  rw [digest] at stores isUrl present
  have addressed' : Addressed ports.address middle.objects := stores.addressed addressed
  have isSourceObject : object = command.source.bytes := by
    rcases stores.origin present with old | ⟨-, same⟩
    · exact addressed.eq_of_injOn (address_injOn digests collisionFree) old
    · exact same
  rw [isSourceObject] at present
  by_cases format : inspected.fileFormat = .pdf
  · rw [if_pos format] at normalizedPut
    cases normalizedPut
    refine ⟨digest, ⟨_, isUrl, present⟩, ⟨_, _, isUrl, present, (isSource format).symm⟩, ⟨_, safe⟩,
      pages,
      fun _ => ⟨?_, rfl⟩⟩
    exact (isSource format).trans digest.symm
  · rw [if_neg format] at normalizedPut
    rw [← sameFiles] at canonicalStored
    obtain ⟨-, -, storesPdf, foundPdf⟩ := put_stores ports canonicalStored normalizedPut
    obtain ⟨isPdfUrl, pdf, pdfPresent⟩ := foundPdf normalizedPdfUrl rfl
    rw [canonicalDigest] at storesPdf isPdfUrl pdfPresent
    have sameDigest : ports.sha256 pdf = ports.sha256 canonical :=
      objectKey_inj (digests pdf) (digests canonical)
        (storesPdf.addressed addressed' canonical pdf pdfPresent)
    refine ⟨digest, ⟨_, isUrl, storesPdf.keeps present⟩,
      ⟨_, pdf, isPdfUrl, pdfPresent, sameDigest.trans canonicalDigest.symm⟩, ⟨_, safe⟩, pages,
      fun isPdf => absurd isPdf format⟩

end Storing

/-! ## What the repository adds -/

section Persisting

variable {prepared : PreparedDocumentVersion} {version : DocumentVersion}
  {rows rows' : List DocumentRow}

/-- A flush that returned has inserted its row. -/
theorem of_flushRow_ok {α A : Type} {table : Relation DocumentRow α} {model : α}
    {next : Unit → DocumentProg A} {result : A}
    (ran : (flushRow table model >>= next).exec documentConflict rows = (.ok result, rows')) :
    (next ()).exec documentConflict (rows ++ [table.make model]) = (.ok result, rows') := by
  rw [flushRow, Prog.bind_assoc, Prog.exec_insertInto_bind] at ran
  split at ran
  · cases ran
  · exact ran

/-- The last flush of a repository call. -/
theorem of_flushVersion_ok {model : DocumentVersionModel} {result : DocumentVersion}
    (ran : (do flushRow documentVersions model; return result : DocumentProg DocumentVersion).exec
      documentConflict rows = (.ok version, rows')) :
    version = result ∧ rows' = rows ++ [documentVersions.make model] := by
  have ran' := of_flushRow_ok ran
  cases ran'
  exact ⟨rfl, rfl⟩

/-- A created document has one version row. -/
theorem of_create_ok (ran : (create prepared).exec documentConflict rows = (.ok version, rows')) :
    version.toDocumentVersionModel = prepared.withVersion 1 ∧
      documentVersions.rows rows' =
        documentVersions.rows rows ++ [version.toDocumentVersionModel] := by
  rw [create] at ran
  cases built : prepared.toVersion 1 with
  | error error =>
      rw [built] at ran
      cases ran
  | ok first =>
      rw [built, Prog.bind_ofExcept_ok] at ran
      obtain ⟨rfl, rfl⟩ := of_flushVersion_ok (of_flushRow_ok ran)
      refine ⟨PreparedDocumentVersion.toVersion_ok_iff.mp built, ?_⟩
      rw [documentVersions.rows_append, documentVersions.rows_append,
        documentVersions.rows_singleton_make,
        Relation.rows_singleton_of_disjoint documents_disjoint_documentVersions, List.append_nil]

/-- An append that returned has inserted the version that it returns. -/
theorem append_adds {documentId : String}
    (ran : (append documentId prepared).exec documentConflict rows = (.ok version, rows')) :
    (∃ number, version.toDocumentVersionModel = prepared.withVersion number) ∧
      rows' = rows ++ [documentVersions.make version.toDocumentVersionModel] := by
  rw [append] at ran
  split_ifs at ran
  · cases ran
  · rw [Prog.exec_lockFrom_bind] at ran
    generalize (documents.rows rows).filter _ = found at ran
    rcases found with _ | ⟨model, _ | ⟨other, found⟩⟩
    · cases ran
    · rw [scalarOneOrNone, Prog.bind_done, appendLocked, Prog.exec_selectFrom_bind,
        scalarOneOrNone_take, Prog.bind_done] at ran
      split_ifs at ran
      · cases ran
      · rw [Prog.exec_selectFrom_bind] at ran
        split at ran
        · cases ran
        · next latestVersion _ =>
            cases built : prepared.toVersion (latestVersion + 1) with
            | error error =>
                rw [built] at ran
                cases ran
            | ok next =>
                rw [built, Prog.bind_ofExcept_ok] at ran
                obtain ⟨rfl, rfl⟩ := of_flushVersion_ok ran
                exact ⟨⟨_, PreparedDocumentVersion.toVersion_ok_iff.mp built⟩, rfl⟩
    · cases ran

/-- An appended version has one row. -/
theorem of_append_ok {documentId : String}
    (ran : (append documentId prepared).exec documentConflict rows = (.ok version, rows')) :
    (∃ number, version.toDocumentVersionModel = prepared.withVersion number) ∧
      documentVersions.rows rows' =
        documentVersions.rows rows ++ [version.toDocumentVersionModel] := by
  obtain ⟨numbered, rfl⟩ := append_adds ran
  refine ⟨numbered, ?_⟩
  rw [documentVersions.rows_append, documentVersions.rows_singleton_make]

/-- What a repository call can do: nothing, or add a row of the prepared version. -/
inductive Persisted (prepared : PreparedDocumentVersion) (state state' : UploadState) :
    Except PyError DocumentVersion → Prop
  | refused (error : PyError) (sameRows : state'.rows = state.rows) :
      Persisted prepared state state' (.error error)
  | added (version : DocumentVersion) (number : ℤ)
      (fields : version.toDocumentVersionModel = prepared.withVersion number)
      (grown : documentVersions.rows state'.rows =
        documentVersions.rows state.rows ++ [version.toDocumentVersionModel]) :
      Persisted prepared state state' (.ok version)

/-- A transaction whose body adds a version row when it returns. -/
theorem transact_effect {body : DocumentProg DocumentVersion} {state state' : UploadState}
    {outcome : Except PyError DocumentVersion}
    (adds : ∀ {version : DocumentVersion} {rows' : List DocumentRow},
      body.exec documentConflict state.rows = (.ok version, rows') →
        (∃ number, version.toDocumentVersionModel = prepared.withVersion number) ∧
          documentVersions.rows rows' =
            documentVersions.rows state.rows ++ [version.toDocumentVersionModel])
    (ran : transact body state = (outcome, state')) :
    state'.objects = state.objects ∧ Persisted prepared state state' outcome := by
  rw [transact, nextFault_bind] at ran
  cases fault : state.faults.head?.join with
  | some failure =>
      rw [fault] at ran
      cases ran
      exact ⟨rfl, .refused _ rfl⟩
  | none =>
      rw [fault] at ran
      have ranBody : runBody body { state with faults := state.faults.tail } = (outcome, state') :=
        ran
      rw [runBody] at ranBody
      rcases inside : body.exec documentConflict state.rows with ⟨error | version, rows'⟩
      · rw [Prog.atomically_of_error _ inside] at ranBody
        cases ranBody
        exact ⟨rfl, .refused _ rfl⟩
      · rw [Prog.atomically_of_ok _ inside] at ranBody
        cases ranBody
        obtain ⟨⟨number, fields⟩, grown⟩ := adds inside
        exact ⟨rfl, .added version number fields grown⟩

/-- The effect of the repository call of an upload. -/
theorem persist_effect {command : UploadDocumentCommand} {state state' : UploadState}
    {outcome : Except PyError DocumentVersion}
    (ran : persist command prepared state = (outcome, state')) :
    state'.objects = state.objects ∧ Persisted prepared state state' outcome := by
  unfold persist at ran
  cases named : command.documentId with
  | none =>
      rw [named] at ran
      refine transact_effect (fun inside => ?_) ran
      obtain ⟨fields, grown⟩ := of_create_ok inside
      exact ⟨⟨1, fields⟩, grown⟩
  | some documentId =>
      rw [named] at ran
      exact transact_effect of_append_ok ran

end Persisting

/-! ## The upload as a whole -/

/-- The message of the check that a PDF is its own normalized PDF. -/
def pdfMismatch : PyError := .valueError "PDF source must be its own normalized PDF"

/-- A check with another message does not raise this one. -/
theorem check_ne {refused : Prop} [Decidable refused] {message message' : String}
    {rest : Except PyError Unit} (other : message ≠ message')
    (later : rest ≠ .error (.valueError message')) :
    (if refused then .error (.valueError message) else rest) ≠ .error (.valueError message') := by
  split_ifs
  · intro same
    exact other (PyError.valueError.inj (Except.error.inj same))
  · exact later

/-- Without a mismatch the check does not fire. -/
theorem check_ne_pdfMismatch {model : DocumentVersionModel}
    (pdf : model.fileFormat = .pdf →
      model.normalizedPdfHash = model.fileHash ∧ model.normalizedPdfUrl = model.fileUrl) :
    model.check ≠ .error pdfMismatch := by
  have isOwnPdf : ¬(model.fileFormat = .pdf ∧ (model.normalizedPdfUrl ≠ model.fileUrl ∨
      model.normalizedPdfHash ≠ model.fileHash)) := by
    rintro ⟨isPdf, differs⟩
    obtain ⟨sameHash, sameUrl⟩ := pdf isPdf
    exact differs.elim (fun url => url sameUrl) fun hash => hash sameHash
  rw [DocumentVersionModel.check, if_neg isOwnPdf, pdfMismatch]
  iterate 9 refine check_ne (by decide) ?_
  exact nofun

section Handling

variable {ports : UploadPorts} {command : UploadDocumentCommand} {state state' : UploadState}

/-- A failing inspection ends the upload. -/
theorem handle_of_inspect_error {error : PyError}
    (failed : inspect ports command state = (.error error, state')) :
    handle ports command state = (.error error, state') :=
  Action.bind_of_error failed

/-- Storing a file leaves the rows alone. -/
theorem put_rows (ports : UploadPorts) (digest path contentType : String) :
    Action.Within (fun first second : UploadState => second.rows = first.rows)
      (ports.put digest path contentType) := by
  intro state
  rw [UploadPorts.put]

/-- Storing files leaves the rows alone. -/
theorem storeFiles_rows {inspected : Inspected} {outcome : Except PyError PreparedDocumentVersion}
    (ran : storeFiles ports command inspected state = (outcome, state')) :
    state'.rows = state.rows := by
  have keptRows : Action.Within (fun first second : UploadState => second.rows = first.rows)
      (storeFiles ports command inspected) := by
    refine .bind (fun _ _ _ front back => back.trans front) (put_rows ports _ _ _)
      fun sourceUrl => ?_
    refine .bind (fun _ _ _ front back => back.trans front) ?_ fun normalizedPdfUrl _ => rfl
    split_ifs
    · exact fun _ => rfl
    · exact put_rows ports _ _ _
  have kept := keptRows state
  rw [ran] at kept
  exact kept

/-- **An upload that raises adds no row.** -/
theorem handle_error {error : PyError}
    (raised : handle ports command state = (.error error, state')) : state'.rows = state.rows := by
  have inspecting := inspect_untouched ports command state
  rcases inspected : inspect ports command state with ⟨failed | inspected', middle⟩
  · rw [handle_of_inspect_error inspected] at raised
    cases raised
    rw [inspected] at inspecting
    exact inspecting.2
  · rw [inspected] at inspecting
    rw [handle, Action.bind_of_ok inspected] at raised
    rcases Action.of_bind_error raised with failed | ⟨prepared, last, stored, failed⟩
    · exact (storeFiles_rows failed).trans inspecting.2
    · obtain ⟨-, persisted⟩ := persist_effect failed
      cases persisted with
      | refused _ sameRows =>
          exact (sameRows.trans (storeFiles_rows stored)).trans inspecting.2

/-- **An upload that returns adds the row it returns**, which names what has
been stored. -/
theorem handle_ok (digests : ∀ content, LowerDigest (ports.sha256 content))
    (keepsSource : KeepsSource ports.convert) (addressed : Addressed ports.address state.objects)
    (collisionFree : Set.InjOn ports.sha256 (insert command.source.bytes state.objects.contents))
    {version : DocumentVersion} (returned : handle ports command state = (.ok version, state')) :
    documentVersions.rows state'.rows =
        documentVersions.rows state.rows ++ [version.toDocumentVersionModel] ∧
      Accepted ports command.source.bytes version.toDocumentVersionModel state'.objects := by
  obtain ⟨inspected, middle, inspecting, returned⟩ := Action.of_bind_ok returned
  obtain ⟨prepared, last, storing, returned⟩ := Action.of_bind_ok returned
  have untouched := inspect_untouched ports command state
  rw [inspecting] at untouched
  obtain ⟨sameObjects, sameRows⟩ := untouched
  obtain ⟨keptObjects, persisted⟩ := persist_effect returned
  cases persisted with
  | added _ number fields grown =>
      rw [← sameObjects] at addressed collisionFree
      have accepted := storeFiles_ok digests addressed collisionFree
        (inspect_ok keepsSource inspecting) storing number
      rw [storeFiles_rows storing, sameRows] at grown
      rw [keptObjects, fields]
      rw [fields] at grown
      exact ⟨grown, accepted⟩

/-- Storing the files of an inspected upload keeps the objects addressed. -/
theorem storeFiles_addressed (addressed : Addressed ports.address state.objects)
    {inspected : Inspected}
    (inspection : Inspection ports command.source.bytes inspected state.files)
    {outcome : Except PyError PreparedDocumentVersion}
    (ran : storeFiles ports command inspected state = (outcome, state')) :
    Addressed ports.address state'.objects := by
  obtain ⟨digest, -, ⟨stored, ⟨canonical, canonicalStored, canonicalDigest⟩, -⟩, -⟩ := inspection
  rcases sourcePut : ports.put inspected.staged.sha256 inspected.staged.path
      (canonicalMimeType inspected.fileFormat) state with ⟨error | sourceUrl, middle⟩
  · rw [storeFiles, Action.bind_of_error sourcePut] at ran
    cases ran
    obtain ⟨-, -, stores, -⟩ := put_stores ports stored sourcePut
    rw [digest] at stores
    exact stores.addressed addressed
  · obtain ⟨sameFiles, -, stores, -⟩ := put_stores ports stored sourcePut
    rw [digest] at stores
    have addressed' : Addressed ports.address middle.objects := stores.addressed addressed
    rw [storeFiles, Action.bind_of_ok sourcePut] at ran
    by_cases format : inspected.fileFormat = .pdf
    · rw [if_pos format, Action.bind_of_ok (Action.pure_apply _ _)] at ran
      cases ran
      exact addressed'
    · rw [if_neg format] at ran
      rw [← sameFiles] at canonicalStored
      rcases normalizedPut : ports.put inspected.parsed.normalizedPdfHash
          inspected.parsed.normalizedPdfPath (canonicalMimeType .pdf) middle with
        ⟨error | normalizedPdfUrl, last⟩
      all_goals
        obtain ⟨-, -, storesPdf, -⟩ := put_stores ports canonicalStored normalizedPut
        rw [canonicalDigest] at storesPdf
      · rw [Action.bind_of_error normalizedPut] at ran
        cases ran
        exact storesPdf.addressed addressed'
      · rw [Action.bind_of_ok normalizedPut] at ran
        cases ran
        exact storesPdf.addressed addressed'

/-- **Uploads keep the objects addressed**, whatever fails: what `upload_atomic`
assumes of the object store holds after any number of uploads into an empty one. -/
theorem handle_addressed (keepsSource : KeepsSource ports.convert)
    (addressed : Addressed ports.address state.objects) :
    Addressed ports.address (handle ports command state).2.objects := by
  have untouched := inspect_untouched ports command state
  rcases inspecting : inspect ports command state with ⟨error | inspected, middle⟩
  · rw [handle_of_inspect_error inspecting]
    rw [inspecting] at untouched
    rw [untouched.1]
    exact addressed
  · rw [inspecting] at untouched
    rw [← untouched.1] at addressed
    rw [handle, Action.bind_of_ok inspecting]
    have inspection := inspect_ok keepsSource inspecting
    rcases storing : storeFiles ports command inspected middle with ⟨error | prepared, last⟩
    · rw [Action.bind_of_error storing]
      exact storeFiles_addressed addressed inspection storing
    · rw [Action.bind_of_ok storing]
      have kept : (persist command prepared last).2.objects = last.objects :=
        (persist_effect rfl).1
      rw [kept]
      exact storeFiles_addressed addressed inspection storing

end Handling

/-- **Uploading is atomic, and its row names what was uploaded.**  Over a store
whose objects have the digests of their keys: the repository gains a version
row exactly if the upload returns; that row names objects with the uploaded
bytes and with the digest of the canonical PDF, of a source that was found safe
and has 1 to 500 pages; the check that a PDF is its own normalized PDF cannot
fire; and an upload that fails before the first `put` leaves the objects alone. -/
theorem upload_atomic (ports : UploadPorts) (command : UploadDocumentCommand)
    (state : UploadState) (digests : ∀ content, LowerDigest (ports.sha256 content))
    (keepsSource : KeepsSource ports.convert) (addressed : Addressed ports.address state.objects)
    (collisionFree : Set.InjOn ports.sha256 (insert command.source.bytes state.objects.contents)) :
    let ran := handle ports command state
    ((∃ row, documentVersions.rows ran.2.rows = documentVersions.rows state.rows ++ [row]) ↔
        ∃ version, ran.1 = .ok version) ∧
      (∀ error, ran.1 = .error error → ran.2.rows = state.rows) ∧
      (∀ version, ran.1 = .ok version →
        documentVersions.rows ran.2.rows =
            documentVersions.rows state.rows ++ [version.toDocumentVersionModel] ∧
          Accepted ports command.source.bytes version.toDocumentVersionModel ran.2.objects) ∧
      (∀ inspected middle prepared last, inspect ports command state = (.ok inspected, middle) →
        storeFiles ports command inspected middle = (.ok prepared, last) →
          ∀ number, (prepared.withVersion number).check ≠ .error pdfMismatch) ∧
      (∀ error, (inspect ports command state).1 = .error error →
        ran.1 = .error error ∧ ran.2.objects = state.objects) := by
  intro ran
  have error : ∀ error, ran.1 = .error error → ran.2.rows = state.rows :=
    fun error raised => handle_error (Prod.ext raised rfl)
  have ok : ∀ version, ran.1 = .ok version →
      documentVersions.rows ran.2.rows =
          documentVersions.rows state.rows ++ [version.toDocumentVersionModel] ∧
        Accepted ports command.source.bytes version.toDocumentVersionModel ran.2.objects :=
    fun version returned =>
      handle_ok digests keepsSource addressed collisionFree (Prod.ext returned rfl)
  refine ⟨⟨?_, ?_⟩, error, ok, ?_, ?_⟩
  · rintro ⟨row, grown⟩
    cases outcome : ran.1 with
    | ok version => exact ⟨version, rfl⟩
    | error raised =>
        rw [error raised outcome] at grown
        have shorter := congrArg List.length grown
        rw [List.length_append, List.length_singleton] at shorter
        omega
  · rintro ⟨version, returned⟩
    exact ⟨_, (ok version returned).1⟩
  · intro inspected middle prepared last inspecting storing number
    have untouched := inspect_untouched ports command state
    rw [inspecting] at untouched
    rw [← untouched.1] at addressed collisionFree
    exact check_ne_pdfMismatch (storeFiles_ok digests addressed collisionFree
      (inspect_ok keepsSource inspecting) storing number).pdf
  · intro raised failed
    have untouched := inspect_untouched ports command state
    have same : handle ports command state = (.error raised, (inspect ports command state).2) :=
      handle_of_inspect_error (Prod.ext failed rfl)
    show (handle ports command state).1 = _ ∧ (handle ports command state).2.objects = _
    rw [same]
    exact ⟨rfl, untouched.1⟩

/-! ## Two uploads -/

/-- A converter that writes a PDF beside its source. -/
def sampleConvert : PdfConverter := fun sourcePath _ workspace files =>
  if sourcePath = workspace ++ "/source.pdf" then .error .osError
  else
    .ok (workspace ++ "/source.pdf",
      Function.update files (workspace ++ "/source.pdf") (some (pdfBytes 49)))

theorem keepsSource_sampleConvert : KeepsSource sampleConvert := by
  intro sourcePath fileFormat workspace files files' path converted
  unfold sampleConvert at converted
  split_ifs at converted with same
  cases converted
  exact Function.update_of_ne same _ _

/-- Ports that recognize the PDFs and take everything else for a DOCX. -/
def samplePorts : UploadPorts where
  sha256 := sampleSha256
  nfc := id
  maxFileBytes := 200 * 1024 * 1024
  detect path files := .ok (
    if (files path).any fun content => content.take 5 == [37, 80, 68, 70, 45] then .pdf else .docx)
  ensureSafe _ _ _ := .ok ()
  pdfReader _ := .ok { isEncrypted := .ok false, pages := .ok 3 }
  convert := sampleConvert
  bucket := "bid"
  workspace := "/tmp/upload"
  startedNs := 0
  finishedNs := 5000000
  now := { moment := 0, utcoffset := some 0 }
  newDocumentId := "d0"
  newVersionId := "v0"

/-- Upload a new document in one read. -/
def sampleCommand (filename : String) (content : Bytes) : UploadDocumentCommand where
  source := { filename := filename, reads := [.ok content] }
  expiresAt := none
  documentId := none

/-- Nothing stored, and no failures. -/
def emptyUploadState : UploadState where
  files := fun _ => none
  objects := fun _ => none
  rows := []
  faults := []

theorem bytes_sampleCommand (filename : String) {content : Bytes} (nonempty : content ≠ []) :
    (sampleCommand filename content).source.bytes = content := by
  simp [sampleCommand, UploadSource.bytes, readBytes, nonempty]

/-- A converted upload into an empty store. -/
theorem upload_atomic_docx :
    ∃ version, (handle samplePorts (sampleCommand "bid.docx" zipBytes) emptyUploadState).1 =
        .ok version ∧
      Accepted samplePorts zipBytes version.toDocumentVersionModel
        (handle samplePorts (sampleCommand "bid.docx" zipBytes) emptyUploadState).2.objects := by
  have nothing : (emptyUploadState.objects).contents = ∅ :=
    Set.eq_empty_of_forall_notMem fun content ⟨key, found⟩ => nomatch found
  have source : (sampleCommand "bid.docx" zipBytes).source.bytes = zipBytes :=
    bytes_sampleCommand _ (List.cons_ne_nil _ _)
  obtain ⟨-, -, accepted, -, -⟩ :=
    upload_atomic samplePorts (sampleCommand "bid.docx" zipBytes) emptyUploadState
      lowerDigest_sampleSha256 keepsSource_sampleConvert addressed_empty (by
        rw [nothing, insert_empty_eq]
        exact Set.injOn_singleton _ _)
  have returned : (handle samplePorts (sampleCommand "bid.docx" zipBytes)
      emptyUploadState).1.toOption.isSome = true := by decide +kernel
  rw [source] at accepted
  generalize handle samplePorts (sampleCommand "bid.docx" zipBytes) emptyUploadState = ran
    at accepted returned ⊢
  rcases ran with ⟨error | version, state⟩
  · cases returned
  · exact ⟨version, rfl, (accepted version rfl).2⟩

/-- A store with a wrong object of the right size. -/
def corruptedState : UploadState :=
  { emptyUploadState with
    objects := Function.update emptyUploadState.objects
      (objectKey (sampleSha256 (pdfBytes 49))) (some (pdfBytes 50)) }

/-- **`put` trusts an object of the right size**: if a store has an object of
the same size with other bytes under the key of an upload, the upload returns
and its row names that object. -/
theorem wrong_object_trusted :
    ¬ ∀ (ports : UploadPorts) (command : UploadDocumentCommand) (state : UploadState),
      (∀ content, LowerDigest (ports.sha256 content)) → KeepsSource ports.convert →
        Set.InjOn ports.sha256 (insert command.source.bytes state.objects.contents) →
          ∀ version, (handle ports command state).1 = .ok version →
            Accepted ports command.source.bytes version.toDocumentVersionModel
              (handle ports command state).2.objects := by
  intro law
  have source : (sampleCommand "bid.pdf" (pdfBytes 49)).source.bytes = pdfBytes 49 :=
    bytes_sampleCommand _ (List.cons_ne_nil _ _)
  have collisionFree : Set.InjOn samplePorts.sha256
      (insert (sampleCommand "bid.pdf" (pdfBytes 49)).source.bytes
        corruptedState.objects.contents) := by
    have only : insert (sampleCommand "bid.pdf" (pdfBytes 49)).source.bytes
        corruptedState.objects.contents ⊆ {pdfBytes 49, pdfBytes 50} := by
      rintro content (rfl | ⟨key, found⟩)
      · rw [source]
        exact Set.mem_insert _ _
      · have stored : Function.update (fun _ => none)
            (objectKey (sampleSha256 (pdfBytes 49))) (some (pdfBytes 50)) key = some content := found
        rw [Function.update_apply] at stored
        split_ifs at stored
        cases stored
        exact Set.mem_insert_of_mem _ rfl
    have differ : sampleSha256 (pdfBytes 49) ≠ sampleSha256 (pdfBytes 50) := by decide +kernel
    refine Set.InjOn.mono only ?_
    rw [Set.injOn_pair]
    exact fun same => absurd same differ
  have returned : (match handle samplePorts (sampleCommand "bid.pdf" (pdfBytes 49)) corruptedState
      with
      | (.ok version, state) =>
          version.fileUrl == objectUri "bid" (objectKey (sampleSha256 (pdfBytes 49))) &&
            state.objects (objectKey (sampleSha256 (pdfBytes 49))) == some (pdfBytes 50)
      | (.error _, _) => false) = true := by decide +kernel
  rcases ran : handle samplePorts (sampleCommand "bid.pdf" (pdfBytes 49)) corruptedState with
    ⟨error | version, state⟩
  · rw [ran] at returned
    cases returned
  · have accepted := law samplePorts (sampleCommand "bid.pdf" (pdfBytes 49)) corruptedState
      lowerDigest_sampleSha256 keepsSource_sampleConvert collisionFree version (by rw [ran])
    rw [ran] at returned accepted
    simp only [Bool.and_eq_true, beq_iff_eq] at returned
    obtain ⟨url, object⟩ := returned
    obtain ⟨key, keyUrl, stored⟩ := accepted.fileUrl
    rw [url] at keyUrl
    rw [← objectUri_inj keyUrl, object, source] at stored
    exact absurd stored (by decide)

end BidSystem.Documents
