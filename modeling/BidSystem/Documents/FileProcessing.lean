import BidSystem.Documents.Models
import Mathlib.Logic.Function.Basic

/-!
# Staging and inspecting an upload

`StreamingUploadStager` and `CanonicalPdfMetadataParser` over local files.  Both
hash a file chunk by chunk: the stager hashes what it reads from the request
while it writes it, the parser reads the canonical PDF back.

Unicode normalization, SHA-256, pypdf and the Office converter are parameters.
A `hashlib` object is the bytes it has been fed (`Hash`), so that hashing in
chunks is hashing their concatenation.
-/

namespace BidSystem.Documents

abbrev Bytes := List UInt8

/-- The local files, by path. -/
abbrev LocalFiles := String → Option Bytes

/-- A `hashlib.sha256()` object: what it has been fed. -/
structure Hash where
  data : Bytes

/-- `update`. -/
def Hash.update (digest : Hash) (chunk : Bytes) : Hash := ⟨digest.data ++ chunk⟩

/-- `hexdigest`. -/
def Hash.hexdigest (sha256 : Bytes → String) (digest : Hash) : String := sha256 digest.data

/-! ## Staging -/

/-- An upload: its file name and what its `read` calls return, one after the
other.  After the last one the source is at its end. -/
structure UploadSource where
  filename : String
  reads : List (Except PyError Bytes)

/-- The bytes up to the first empty read. -/
def readBytes : List (Except PyError Bytes) → Bytes
  | .ok chunk :: reads => if chunk = [] then [] else chunk ++ readBytes reads
  | _ => []

/-- The uploaded bytes. -/
def UploadSource.bytes (source : UploadSource) : Bytes := readBytes source.reads

/-- `StagedUpload`. -/
structure StagedUpload where
  path : String
  normalizedName : String
  sizeBytes : ℕ
  sha256 : String

/-- `MAX_DOCUMENT_NAME_LENGTH`. -/
def maxDocumentNameLength : ℕ := 255

/-- `PurePosixPath(value).name`. -/
def posixName (value : String) : String :=
  String.ofList (((value.toList.splitOn '/').filter fun part =>
    part != [] && part != ['.']).getLastD [])

/-- `_normalize_name`. -/
def normalizeName (nfc : String → String) (filename : String) : Except PyError String :=
  let normalized := String.ofList ((nfc filename).toList.map fun character =>
    if character = '\\' then '/' else character)
  let basename := strip (posixName normalized)
  if basename = "" ∨ maxDocumentNameLength < basename.length then
    .error (.invalidDocumentError "文件名不合法")
  else .ok basename

/-- The loop of `stage`: read, count, hash and write chunk by chunk. -/
def copyChunks (maxFileBytes : ℕ) :
    List (Except PyError Bytes) → Hash → Bytes → ℕ → Except PyError (Hash × Bytes × ℕ)
  | [], digest, stream, totalBytes => .ok (digest, stream, totalBytes)
  | .error error :: _, _, _, _ => .error error
  | .ok chunk :: reads, digest, stream, totalBytes =>
      if chunk = [] then .ok (digest, stream, totalBytes)
      else if maxFileBytes < totalBytes + chunk.length then .error .fileSizeLimitExceededError
      else
        copyChunks maxFileBytes reads (digest.update chunk) (stream ++ chunk)
          (totalBytes + chunk.length)

/-- `StreamingUploadStager.stage`. -/
def stage (sha256 : Bytes → String) (nfc : String → String) (maxFileBytes : ℕ)
    (source : UploadSource) (workspace : String) (files : LocalFiles) :
    Except PyError (StagedUpload × LocalFiles) := do
  let normalizedName ← normalizeName nfc source.filename
  let target := workspace ++ "/source.upload"
  let (digest, stream, totalBytes) ← copyChunks maxFileBytes source.reads ⟨[]⟩ [] 0
  if totalBytes = 0 then throw (.invalidDocumentError "文件不能为空")
  return ({
    path := target
    normalizedName := normalizedName
    sizeBytes := totalBytes
    sha256 := digest.hexdigest sha256 }, Function.update files target (some stream))

/-! ## Inspecting the canonical PDF -/

/-- `UPLOAD_READ_CHUNK_BYTES`. -/
def uploadReadChunkBytes : ℕ := 1024 * 1024

/-- `PARSER_VERSION`. -/
def parserVersion : String := "document-metadata-v1"

/-- The default message of `InvalidDocumentError`. -/
def corruptedDocument : String := "文件已损坏或格式不合法"

/-- What a pypdf `PdfReader` says about a file. -/
structure PdfReader where
  isEncrypted : Except PyError Bool
  pages : Except PyError ℕ

/-- `ParsedDocument`. -/
structure ParsedDocument where
  normalizedPdfPath : String
  normalizedPdfHash : String
  pageCount : ℤ
  parserVersion : String
  parseDurationMs : ℤ

/-- The hashing loop of `_read_pdf_metadata`, with as much fuel as the file has bytes. -/
def hashChunks : ℕ → Bytes → Hash → Hash
  | 0, _, digest => digest
  | fuel + 1, stream, digest =>
      let chunk := stream.take uploadReadChunkBytes
      if chunk = [] then digest
      else hashChunks fuel (stream.drop uploadReadChunkBytes) (digest.update chunk)

/-- The exceptions that `_read_pdf_metadata` turns into an `InvalidDocumentError`. -/
def PyError.isPdfFailure : PyError → Bool
  | .osError | .pdfReadError | .valueError _ => true
  | _ => false

/-- The `try` block of `_read_pdf_metadata`. -/
def countPages (pdfReader : Bytes → Except PyError PdfReader) (file : Option Bytes) :
    Except PyError ℕ := do
  let some content := file | throw .osError
  let reader ← pdfReader content
  if ← reader.isEncrypted then throw .encryptedDocumentError
  reader.pages

/-- `_read_pdf_metadata`. -/
def readPdfMetadata (sha256 : Bytes → String) (pdfReader : Bytes → Except PyError PdfReader)
    (files : LocalFiles) (path : String) : Except PyError (ℕ × String) :=
  match countPages pdfReader (files path) with
  | .error error =>
      .error (if PyError.isPdfFailure error then .invalidDocumentError corruptedDocument else error)
  | .ok pageCount =>
      match files path with
      | none => .error .osError
      | some content => .ok (pageCount, (hashChunks content.length content ⟨[]⟩).hexdigest sha256)

/-- `PdfConverter.convert`: the path of the PDF, and the files it leaves. -/
abbrev PdfConverter :=
  String → DocumentFormat → String → LocalFiles → Except PyError (String × LocalFiles)

/-- `CanonicalPdfMetadataParser.parse`, between two readings of the clock. -/
def parse (sha256 : Bytes → String) (pdfReader : Bytes → Except PyError PdfReader)
    (convert : PdfConverter) (startedNs finishedNs : ℤ) (sourcePath : String)
    (fileFormat : DocumentFormat) (workspace : String) (files : LocalFiles) :
    Except PyError (ParsedDocument × LocalFiles) := do
  let (normalizedPath, files) ←
    if fileFormat ≠ .pdf then convert sourcePath fileFormat workspace files
    else pure (sourcePath, files)
  let (pageCount, normalizedHash) ← readPdfMetadata sha256 pdfReader files normalizedPath
  return ({
    normalizedPdfPath := normalizedPath
    normalizedPdfHash := normalizedHash
    pageCount := pageCount
    parserVersion := parserVersion
    parseDurationMs := max 0 ((finishedNs - startedNs) / 1000000) }, files)

/-! ## What the two loops compute -/

/-- The stager hashes, writes and counts the uploaded bytes. -/
theorem copyChunks_ok {maxFileBytes : ℕ} {reads : List (Except PyError Bytes)}
    {digest digest' : Hash} {stream stream' : Bytes} {totalBytes totalBytes' : ℕ}
    (copied : copyChunks maxFileBytes reads digest stream totalBytes =
      .ok (digest', stream', totalBytes')) :
    digest'.data = digest.data ++ readBytes reads ∧ stream' = stream ++ readBytes reads ∧
      totalBytes' = totalBytes + (readBytes reads).length := by
  induction reads generalizing digest stream totalBytes with
  | nil =>
      cases copied
      simp [readBytes]
  | cons read reads ih =>
      cases read with
      | error error => cases copied
      | ok chunk =>
          rw [copyChunks] at copied
          rw [readBytes]
          split at copied
          · next atEnd =>
              cases copied
              simp [atEnd]
          · next more =>
              split at copied
              · cases copied
              · obtain ⟨data, written, counted⟩ := ih copied
                rw [if_neg more, data, written, counted, Hash.update, List.append_assoc,
                  List.append_assoc, List.length_append, Nat.add_assoc]
                exact ⟨rfl, rfl, rfl⟩

/-- **What has been staged**: the uploaded bytes are on disk, with their digest. -/
theorem stage_ok {sha256 : Bytes → String} {nfc : String → String} {maxFileBytes : ℕ}
    {source : UploadSource} {workspace : String} {files files' : LocalFiles}
    {staged : StagedUpload}
    (staging : stage sha256 nfc maxFileBytes source workspace files = .ok (staged, files')) :
    staged.sha256 = sha256 source.bytes ∧ files' staged.path = some source.bytes := by
  unfold stage at staging
  cases name : normalizeName nfc source.filename with
  | error error =>
      rw [name] at staging
      cases staging
  | ok normalizedName =>
      cases copied : copyChunks maxFileBytes source.reads ⟨[]⟩ [] 0 with
      | error error =>
          rw [name, copied] at staging
          cases staging
      | ok outcome =>
          obtain ⟨digest, stream, totalBytes⟩ := outcome
          obtain ⟨data, written, _⟩ := copyChunks_ok copied
          rw [name, copied] at staging
          simp only [bind, Except.bind] at staging
          split at staging
          · cases staging
          · cases staging
            refine ⟨?_, ?_⟩
            · show sha256 digest.data = sha256 (readBytes source.reads)
              rw [data, List.nil_append]
            · rw [Function.update_self, written, List.nil_append]
              rfl

/-- The parser hashes the whole file. -/
theorem hashChunks_data {fuel : ℕ} {stream : Bytes} {digest : Hash}
    (enough : stream.length ≤ fuel) :
    (hashChunks fuel stream digest).data = digest.data ++ stream := by
  induction fuel generalizing stream digest with
  | zero =>
      have empty : stream = [] := List.length_eq_zero_iff.mp (Nat.le_zero.mp enough)
      rw [empty, List.append_nil]
      rfl
  | succ fuel ih =>
      rw [hashChunks]
      split
      · next atEnd =>
          have empty : stream = [] := by
            rcases List.take_eq_nil_iff.mp atEnd with impossible | empty
            · cases impossible
            · exact empty
          rw [empty, List.append_nil]
      · next more =>
          have shorter : (stream.drop uploadReadChunkBytes).length ≤ fuel := by
            have nonempty : stream ≠ [] := by
              rintro rfl
              exact more List.take_nil
            have := List.length_pos_of_ne_nil nonempty
            rw [List.length_drop, uploadReadChunkBytes]
            omega
          rw [ih shorter, Hash.update, List.append_assoc, List.take_append_drop]

/-- **What has been parsed**: the digest of the file at the canonical path,
which for a PDF is the source. -/
theorem parse_ok {sha256 : Bytes → String} {pdfReader : Bytes → Except PyError PdfReader}
    {convert : PdfConverter} {startedNs finishedNs : ℤ} {sourcePath : String}
    {fileFormat : DocumentFormat} {workspace : String} {files files' : LocalFiles}
    {parsed : ParsedDocument}
    (parsing : parse sha256 pdfReader convert startedNs finishedNs sourcePath fileFormat workspace
      files = .ok (parsed, files')) :
    (∃ content, files' parsed.normalizedPdfPath = some content ∧
        parsed.normalizedPdfHash = sha256 content) ∧
      (fileFormat = .pdf → parsed.normalizedPdfPath = sourcePath ∧ files' = files) ∧
      (fileFormat ≠ .pdf → ∃ path, convert sourcePath fileFormat workspace files =
        .ok (path, files')) := by
  have hashed : ∀ {path : String} {middle : LocalFiles} {pageCount : ℕ} {hash : String},
      readPdfMetadata sha256 pdfReader middle path = .ok (pageCount, hash) →
        ∃ content, middle path = some content ∧ hash = sha256 content := by
    intro path middle pageCount hash read
    unfold readPdfMetadata at read
    split at read
    · cases read
    · split at read
      · cases read
      · next content found =>
          cases read
          refine ⟨content, found, ?_⟩
          show sha256 (hashChunks content.length content ⟨[]⟩).data = sha256 content
          rw [hashChunks_data le_rfl, List.nil_append]
  unfold parse at parsing
  by_cases isPdf : fileFormat = .pdf
  · rw [if_neg (not_not.mpr isPdf)] at parsing
    cases read : readPdfMetadata sha256 pdfReader files sourcePath with
    | error error =>
        simp only [pure, Except.pure, bind, Except.bind, read] at parsing
        cases parsing
    | ok outcome =>
        simp only [pure, Except.pure, bind, Except.bind, read] at parsing
        cases parsing
        exact ⟨hashed read, fun _ => ⟨rfl, rfl⟩, fun other => absurd isPdf other⟩
  · rw [if_pos isPdf] at parsing
    cases converted : convert sourcePath fileFormat workspace files with
    | error error =>
        rw [converted] at parsing
        cases parsing
    | ok outcome =>
        obtain ⟨path, middle⟩ := outcome
        cases read : readPdfMetadata sha256 pdfReader middle path with
        | error error =>
            simp only [bind, Except.bind, converted, read] at parsing
            cases parsing
        | ok outcome =>
            simp only [bind, Except.bind, converted, read] at parsing
            cases parsing
            exact ⟨hashed read, fun isPdf' => absurd isPdf' isPdf, fun _ => ⟨path, rfl⟩⟩

end BidSystem.Documents
