import BidSystem.Documents.UploadContract
import BidSystem.Interaction.Rely

/-!
# Concurrent uploads

Any number of uploads over one object store and one set of document tables.  Once an upload
has been inspected, its calls of the object store and of the repository interleave with those
of the others in any order; every call may fail, before or after its work.

A repository call is one step here: that its transactions are as good as serial is about the
repository alone.

* `storing` — an upload from its first `put` on; `exec_storing` — alone it is the handler.
* `archiveRules` — what holds of the archive and what an upload may do to it.
* `safe_storing` — every upload keeps the rules, whatever the others do.
* `archive_sound` — every version row names stored files with the digests it records.

Nothing is assumed of the hash but its spelling: files with one digest may differ.
-/

namespace BidSystem.Documents

open Interaction ReadCommitted ContentAddressed

/-! ## The calls of an upload -/

/-- What uploads share. -/
structure Archive where
  objects : Objects
  rows : List DocumentRow

/-- The calls of an upload once it is inspected. -/
inductive UploadCall where
  | put (request : PutCall)
  | persist (documentId : Option String) (prepared : PreparedDocumentVersion)

/-- What the calls return or raise. -/
abbrev UploadCall.Answer : UploadCall → Type
  | .put request => request.Answer
  | .persist _ _ => Except UploadRaised DocumentVersion

/-- Code of an upload over an archive. -/
abbrev UploadProgram := Program UploadCall UploadCall.Answer

/-- The repository call at the end of `handle`. -/
def persistBody (prepared : PreparedDocumentVersion) : Option String → DocumentProg DocumentVersion
  | none => create prepared
  | some documentId => append documentId prepared

/-- Serve one call, with the local files and the failure that it meets. -/
def serveUpload (oracle : LocalFiles × Option Fault) :
    (request : UploadCall) → Archive → request.Answer × Archive
  | .put request, archive =>
      let served := servePut oracle.1 oracle.2 request archive.objects
      (served.1, { archive with objects := served.2 })
  | .persist documentId prepared, archive =>
      match oracle.2 with
      | some fault => (.error (.error fault.error), archive)
      | none =>
          let ran := ((persistBody prepared documentId).through psycopg).atomically
            documentConflict archive.rows
          (ran.1, { archive with rows := ran.2 })

/-- `MinioDocumentBlobStore.put` over an archive. -/
def putting (bucket sha256 path contentType : String) : UploadProgram (Except PyError String) :=
  (put bucket sha256 path contentType).relabel UploadCall.put

/-- The prepared version with the URLs that `put` has returned. -/
def prepared (ports : UploadPorts) (command : UploadDocumentCommand) (inspected : Inspected)
    (fileUrl normalizedPdfUrl : String) : PreparedDocumentVersion :=
  { prepare ports command inspected with fileUrl, normalizedPdfUrl }

/-- The second `put` of an upload; a PDF is its own canonical PDF. -/
def puttingNormalized (ports : UploadPorts) (inspected : Inspected) (sourceUrl : String) :
    UploadProgram (Except PyError String) :=
  if inspected.fileFormat = .pdf then .done (.ok sourceUrl)
  else putting ports.bucket inspected.parsed.normalizedPdfHash inspected.parsed.normalizedPdfPath
    (canonicalMimeType .pdf)

/-- The repository call of an upload, once its files are stored. -/
def persisting (ports : UploadPorts) (command : UploadDocumentCommand) (inspected : Inspected)
    (sourceUrl : String) :
    Except PyError String → UploadProgram (Except UploadRaised DocumentVersion)
  | .error error => .done (.error (.error error))
  | .ok normalizedPdfUrl =>
      .call (.persist command.documentId
        (prepared ports command inspected sourceUrl normalizedPdfUrl)) .done

/-- `UploadDocumentHandler.handle` from its first `put` on. -/
def storing (ports : UploadPorts) (command : UploadDocumentCommand) (inspected : Inspected) :
    UploadProgram (Except UploadRaised DocumentVersion) :=
  (putting ports.bucket inspected.staged.sha256 inspected.staged.path
    (canonicalMimeType inspected.fileFormat)).bind fun
    | .error error => .done (.error (.error error))
    | .ok sourceUrl =>
        (puttingNormalized ports inspected sourceUrl).bind
          (persisting ports command inspected sourceUrl)

/-! ## An upload alone -/

/-- Serve the calls of an upload one after the other, each with the next failure. -/
def serveUploadInOrder (files : LocalFiles) (request : UploadCall)
    (world : Archive × List (Option Fault)) : request.Answer × Archive × List (Option Fault) :=
  let served := serveUpload (files, world.2.head?.join) request world.1
  (served.1, served.2, world.2.tail)

/-- What an upload alone leaves of its state. -/
def UploadState.after (state : UploadState) (world : Archive × List (Option Fault)) : UploadState where
  files := state.files
  objects := world.1.objects
  rows := world.1.rows
  faults := world.2

/-- The archive of a state, with the failures to come. -/
def UploadState.archive (state : UploadState) : Archive × List (Option Fault) :=
  (⟨state.objects, state.rows⟩, state.faults)

section Alone

variable {ports : UploadPorts} {state : UploadState}

/-- The calls of the object store leave the rows alone. -/
theorem exec_put_archive {A : Type} (program : Program PutCall PutCall.Answer A)
    (files : LocalFiles) (objects : Objects) (rows : List DocumentRow)
    (faults : List (Option Fault)) :
    program.exec (fun request : PutCall => serveUploadInOrder files (.put request))
        (⟨objects, rows⟩, faults) =
      let ran := program.exec (serveInOrder files) (objects, faults)
      (ran.1, ⟨ran.2.1, rows⟩, ran.2.2) := by
  induction program generalizing objects faults with
  | done result => rfl
  | call request next ih => exact ih _ _ _

/-- A `put` over an archive is the `put` of the ports. -/
theorem exec_putting (digest path contentType : String) (state : UploadState) :
    let ran := (putting ports.bucket digest path contentType).exec (serveUploadInOrder state.files)
      state.archive
    ports.put digest path contentType state = (ran.1, state.after ran.2) := by
  rw [putting, Program.exec_relabel, UploadState.archive, exec_put_archive, UploadPorts.put]
  rfl

/-- The repository call over an archive is that of the handler. -/
theorem exec_persist (command : UploadDocumentCommand) (prepared : PreparedDocumentVersion)
    (state : UploadState) :
    let served := serveUploadInOrder state.files (.persist command.documentId prepared) state.archive
    persistBound command prepared state = (served.1, state.after served.2) := by
  have bound : ∀ body : DocumentProg DocumentVersion, transactBound body state =
      match state.faults.head?.join with
      | some fault => (.error (.error fault.error), { state with faults := state.faults.tail })
      | none =>
          let ran := (body.through psycopg).atomically documentConflict state.rows
          (ran.1, { state with rows := ran.2, faults := state.faults.tail }) := by
    intro body
    rw [transactBound, Action.bind_of_ok
      (Action.mapError_of_ok (show nextFault state = (.ok _, _) from rfl))]
    cases state.faults.head?.join with
    | some fault => rfl
    | none => rfl
  have same : persistBound command prepared =
      transactBound (persistBody prepared command.documentId) := by
    rw [persistBound]
    cases command.documentId with
    | none => rfl
    | some documentId => rfl
  rw [same, bound, serveUploadInOrder, UploadState.archive, serveUpload]
  dsimp only
  cases state.faults.head?.join with
  | some fault => rfl
  | none => rfl

/-- The second `put` over an archive is that of `storeFiles`. -/
theorem exec_puttingNormalized (inspected : Inspected) (sourceUrl : String) (state : UploadState) :
    let ran := (puttingNormalized ports inspected sourceUrl).exec (serveUploadInOrder state.files)
      state.archive
    (if inspected.fileFormat = .pdf then pure sourceUrl
      else ports.put inspected.parsed.normalizedPdfHash inspected.parsed.normalizedPdfPath
        (canonicalMimeType .pdf) : Upload String) state = (ran.1, state.after ran.2) := by
  unfold puttingNormalized
  by_cases format : inspected.fileFormat = .pdf
  · rw [if_pos format, if_pos format]
    rfl
  · rw [if_neg format, if_neg format]
    exact exec_putting _ _ _ state

/-- **An upload alone is the handler** after the inspection. -/
theorem exec_storing (command : UploadDocumentCommand) (inspected : Inspected)
    (state : UploadState) :
    let ran := (storing ports command inspected).exec (serveUploadInOrder state.files) state.archive
    ((storeFiles ports command inspected).mapError UploadRaised.error >>= persistBound command)
      state = (ran.1, state.after ran.2) := by
  have first := @exec_putting ports inspected.staged.sha256 inspected.staged.path
    (canonicalMimeType inspected.fileFormat) state
  rw [storing, Program.exec_bind]
  rcases sourcePut : (putting ports.bucket inspected.staged.sha256 inspected.staged.path
    (canonicalMimeType inspected.fileFormat)).exec (serveUploadInOrder state.files) state.archive
    with ⟨error | sourceUrl, middle⟩
  · rw [sourcePut] at first
    have failed : storeFiles ports command inspected state = (.error error, state.after middle) :=
      Action.bind_of_error first
    exact Action.bind_of_error (Action.mapError_of_error failed)
  · rw [sourcePut] at first
    have second := @exec_puttingNormalized ports inspected sourceUrl (state.after middle)
    dsimp only
    rw [Program.exec_bind]
    rcases normalizedPut : (puttingNormalized ports inspected sourceUrl).exec
      (serveUploadInOrder state.files) middle with ⟨error | normalizedPdfUrl, last⟩
    · have failed : storeFiles ports command inspected state = (.error error, state.after last) := by
        refine (Action.bind_of_ok first).trans (Action.bind_of_error (second.trans ?_))
        exact congrArg (fun ran : _ × _ => (ran.1, state.after ran.2)) normalizedPut
      exact Action.bind_of_error (Action.mapError_of_error failed)
    · have returned : storeFiles ports command inspected state =
          (.ok (prepared ports command inspected sourceUrl normalizedPdfUrl), state.after last) := by
        refine (Action.bind_of_ok first).trans (Action.bind_of_ok (second.trans ?_))
        exact congrArg (fun ran : _ × _ => (ran.1, state.after ran.2)) normalizedPut
      rw [Action.bind_of_ok (Action.mapError_of_ok returned)]
      exact exec_persist command _ (state.after last)

end Alone

/-! ## What holds of an archive -/

section Archives

variable (sha256 : Bytes → String) (bucket : String)

/-- A file with a digest is stored under the key of that digest. -/
def Holds (objects : Objects) (digest : String) : Prop :=
  ∃ object, objects (objectKey digest) = some object ∧ sha256 object = digest

/-- A version row names stored files with the digests that it records. -/
structure Kept (objects : Objects) (row : DocumentVersionModel) : Prop where
  fileUrl : row.fileUrl = objectUri bucket (objectKey row.fileHash)
  normalizedPdfUrl : row.normalizedPdfUrl = objectUri bucket (objectKey row.normalizedPdfHash)
  source : Holds sha256 objects row.fileHash
  normalizedPdf : Holds sha256 objects row.normalizedPdfHash

/-- The invariant of the object store and the document tables together. -/
structure Archive.Sound (archive : Archive) : Prop where
  genuine : ∀ key object, archive.objects key = some object → key = objectKey (sha256 object)
  tables : DocumentStore archive.rows
  kept : ∀ row ∈ documentVersions.rows archive.rows, Kept sha256 bucket archive.objects row

/-- What uploads do to an archive: it loses no file and no version row. -/
structure Archive.Grows (archive later : Archive) : Prop where
  holds : ∀ digest, Holds sha256 archive.objects digest → Holds sha256 later.objects digest
  versions : documentVersions.rows archive.rows <+: documentVersions.rows later.rows

/-- Nothing is stored. -/
theorem Archive.sound_empty : Archive.Sound sha256 bucket ⟨fun _ => none, []⟩ where
  genuine _ _ stored := nomatch stored
  tables := documentStore_nil
  kept _ member := absurd member List.not_mem_nil

/-- The rules of uploads. -/
def archiveRules : Rules Archive where
  invariant := Archive.Sound sha256 bucket
  rely := Archive.Grows sha256
  refl _ := ⟨fun _ => id, List.prefix_refl _⟩
  trans front back :=
    ⟨fun digest held => back.holds digest (front.holds digest held),
      front.versions.trans back.versions⟩

variable {sha256 bucket}

theorem Kept.mono {objects objects' : Objects} {row : DocumentVersionModel}
    (kept : Kept sha256 bucket objects row)
    (keeps : ∀ digest, Holds sha256 objects digest → Holds sha256 objects' digest) :
    Kept sha256 bucket objects' row where
  fileUrl := kept.fileUrl
  normalizedPdfUrl := kept.normalizedPdfUrl
  source := keeps _ kept.source
  normalizedPdf := keeps _ kept.normalizedPdf

section Genuine

variable (digests : ∀ content, LowerDigest (sha256 content)) {archive : Archive}
  {content : Bytes}

include digests

/-- What is stored under the key of a digest has that digest. -/
theorem Archive.Sound.holds (sound : archive.Sound sha256 bucket) {object : Bytes}
    (stored : archive.objects (objectKey (sha256 content)) = some object) :
    Holds sha256 archive.objects (sha256 content) :=
  ⟨object, stored, (objectKey_inj (digests _) (digests _) (sound.genuine _ _ stored)).symm⟩

omit digests in
/-- A stored file has its digest. -/
theorem holds_update_self (objects : Objects) (content : Bytes) :
    Holds sha256 (Function.update objects (objectKey (sha256 content)) (some content))
      (sha256 content) :=
  ⟨content, Function.update_self .., rfl⟩

/-- A stored file keeps its digest when a file is stored under its own. -/
theorem Holds.update {objects : Objects} {digest : String}
    (held : Holds sha256 objects digest) (content : Bytes) :
    Holds sha256 (Function.update objects (objectKey (sha256 content)) (some content)) digest := by
  obtain ⟨object, stored, rfl⟩ := held
  by_cases here : objectKey (sha256 object) = objectKey (sha256 content)
  · refine ⟨content, ?_, (objectKey_inj (digests _) (digests _) here).symm⟩
    rw [here, Function.update_self]
  · exact ⟨object, (Function.update_of_ne here _ _).trans stored, rfl⟩

/-- **Storing a file under its digest** keeps the rules. -/
theorem Archive.Sound.store (sound : archive.Sound sha256 bucket) (content : Bytes) :
    let later : Archive := { archive with
      objects := Function.update archive.objects (objectKey (sha256 content)) (some content) }
    Archive.Grows sha256 archive later ∧ later.Sound sha256 bucket := by
  have keeps : ∀ digest, Holds sha256 archive.objects digest → Holds sha256
      (Function.update archive.objects (objectKey (sha256 content)) (some content)) digest :=
    fun digest held => held.update digests content
  refine ⟨⟨keeps, List.prefix_refl _⟩, ?_, sound.tables, fun row member => ?_⟩
  · intro key object stored
    dsimp only at stored
    by_cases here : key = objectKey (sha256 content)
    · subst here
      rw [Function.update_self] at stored
      rw [Option.some.inj stored]
    · rw [Function.update_of_ne here] at stored
      exact sound.genuine key object stored
  · exact (sound.kept row member).mono keeps

end Genuine

/-! ## An upload among others -/

/-- What a `put` has when it returns. -/
def PutReturned (sha256 : Bytes → String) (bucket digest : String) :
    Except PyError String → Archive → Prop
  | .error _, _ => True
  | .ok url, archive =>
      url = objectUri bucket (objectKey digest) ∧ Holds sha256 archive.objects digest

/-- Serve a `put` over an archive. -/
abbrev serveArchivePut (oracle : LocalFiles × Option Fault) (request : PutCall) :
    Archive → request.Answer × Archive :=
  serveUpload oracle (.put request)

section Safety

variable {path contentType : String} {content : Bytes}
  (digests : ∀ content, LowerDigest (sha256 content))

include digests

/-- A `put` that has found no object. -/
theorem safe_putMissing (archive : Archive) :
    (putMissing bucket (sha256 content) path contentType content.length).Safe
      (archiveRules sha256 bucket) serveArchivePut (fun oracle => oracle.1 path = some content)
      (PutReturned sha256 bucket (sha256 content)) archive := by
  refine Program.safe_call.mpr fun later _ sound ⟨files, fault⟩ stored => ?_
  have effect := afterUpload_cases stored fault (objectKey (sha256 content)) later.objects
  obtain ⟨grows, sound'⟩ := Archive.Sound.store digests sound content
  dsimp only [serveArchivePut, serveUpload, servePut] at effect ⊢
  rcases effect with uploaded | ⟨same, error, raised⟩
  · rw [uploaded]
    refine ⟨grows, sound', ?_⟩
    split
    · exact Program.safe_done.mpr trivial
    · exact Program.safe_done.mpr ⟨rfl, holds_update_self later.objects content⟩
  · rw [same, raised]
    exact ⟨(archiveRules sha256 bucket).refl later, sound, Program.safe_done.mpr trivial⟩

/-- A `put` that knows the size of its file. -/
theorem safe_putSized (archive : Archive) :
    (putSized bucket (sha256 content) path contentType content.length).Safe
      (archiveRules sha256 bucket) serveArchivePut (fun oracle => oracle.1 path = some content)
      (PutReturned sha256 bucket (sha256 content)) archive := by
  refine Program.safe_call.mpr fun later _ sound ⟨files, fault⟩ stored => ?_
  refine ⟨(archiveRules sha256 bucket).refl later, sound, ?_⟩
  dsimp only [serveArchivePut, serveUpload, servePut]
  split
  · exact Program.safe_done.mpr trivial
  · next existingSize found =>
      have existing := Except.ok.inj (Fault.answer_eq_ok found)
      obtain ⟨object, present, -⟩ := Option.map_eq_some_iff.mp existing
      split_ifs
      · exact Program.safe_done.mpr trivial
      · exact Program.safe_done.mpr ⟨rfl, sound.holds digests present⟩
  · exact safe_putMissing digests later

/-- **A `put` among others.** -/
theorem safe_putting (archive : Archive) :
    (putting bucket (sha256 content) path contentType).Safe (archiveRules sha256 bucket)
      serveUpload (fun oracle => oracle.1 path = some content)
      (PutReturned sha256 bucket (sha256 content)) archive := by
  refine Program.Safe.relabel ?_
  unfold put
  split_ifs
  · exact Program.safe_done.mpr trivial
  · exact Program.safe_done.mpr trivial
  · refine Program.safe_call.mpr fun later _ sound ⟨files, fault⟩ stored => ?_
    refine ⟨(archiveRules sha256 bucket).refl later, sound, ?_⟩
    dsimp only [serveUpload, servePut]
    split
    · exact Program.safe_done.mpr trivial
    · next sizeBytes sized =>
        have answered := Fault.answer_eq_ok sized
        rw [statFile_of_stored stored] at answered
        rw [← Except.ok.inj answered]
        exact safe_putSized digests later

end Safety

/-- **The repository call of an upload** adds no row, or one of the prepared version. -/
theorem persistBody_cases (documentId : Option String) (prepared : PreparedDocumentVersion)
    {rows : List DocumentRow} (tables : DocumentStore rows) :
    let ran := ((persistBody prepared documentId).through psycopg).atomically documentConflict rows
    (∃ error, ran = (.error error, rows)) ∨
      ∃ version number rows', ran = (.ok version, rows') ∧
        version.toDocumentVersionModel = prepared.withVersion number ∧
          documentVersions.rows rows' =
              documentVersions.rows rows ++ [version.toDocumentVersionModel] ∧
            DocumentStore rows' := by
  intro ran
  rcases Prog.atomically_through_cases psycopg documentConflict (persistBody prepared documentId)
    rows with refused | same
  · exact .inl ⟨_, refused⟩
  rcases inside : (persistBody prepared documentId).exec documentConflict rows with
    ⟨error | version, rows'⟩
  · rw [Prog.atomically_of_error documentConflict inside] at same
    exact .inl ⟨_, same⟩
  · rw [Prog.atomically_of_ok documentConflict inside] at same
    refine .inr ?_
    cases documentId with
    | none =>
        obtain ⟨fields, grown⟩ := of_create_ok inside
        exact ⟨version, 1, rows', same, fields, grown, tables.of_create inside⟩
    | some documentId =>
        obtain ⟨⟨number, fields⟩, grown⟩ := of_append_ok inside
        exact ⟨version, number, rows', same, fields, grown, tables.of_append inside⟩

/-- What an upload has when it returns. -/
def UploadReturned (prepared : PreparedDocumentVersion) :
    Except UploadRaised DocumentVersion → Archive → Prop
  | .error _, _ => True
  | .ok version, archive =>
      (∃ number, version.toDocumentVersionModel = prepared.withVersion number) ∧
        version.toDocumentVersionModel ∈ documentVersions.rows archive.rows

/-- **The repository call among others**, once both files are stored. -/
theorem safe_persist (allowed : LocalFiles × Option Fault → Prop) {documentId : Option String}
    {prepared : PreparedDocumentVersion} {archive : Archive}
    (kept : ∀ number, Kept sha256 bucket archive.objects (prepared.withVersion number)) :
    (.call (.persist documentId prepared) .done :
      UploadProgram (Except UploadRaised DocumentVersion)).Safe (archiveRules sha256 bucket)
        serveUpload allowed (UploadReturned prepared) archive := by
  refine Program.safe_call.mpr fun later grown sound ⟨files, fault⟩ _ => ?_
  have refl := (archiveRules sha256 bucket).refl later
  cases fault with
  | some fault => exact ⟨refl, sound, Program.safe_done.mpr trivial⟩
  | none =>
      dsimp only [serveUpload]
      rcases persistBody_cases documentId prepared sound.tables with ⟨error, refused⟩ |
        ⟨version, number, rows', ran, fields, added, tables⟩
      · rw [refused]
        exact ⟨refl, sound, Program.safe_done.mpr trivial⟩
      · rw [ran]
        refine ⟨⟨fun _ => id, ?_⟩, ⟨sound.genuine, tables, fun row member => ?_⟩,
          Program.safe_done.mpr ⟨⟨number, fields⟩, ?_⟩⟩
        · rw [added]
          exact List.prefix_append _ _
        · rw [added, List.mem_append, List.mem_singleton] at member
          rcases member with old | rfl
          · exact sound.kept row old
          · rw [fields]
            exact (kept number).mono grown.holds
        · rw [added]
          exact List.mem_append_right _ (List.mem_singleton_self _)

/-! ## Uploads -/

/-- An upload that has been inspected, with the local files of its workspace. -/
structure InspectedUpload (sha256 : Bytes → String) (bucket : String) where
  ports : UploadPorts
  command : UploadDocumentCommand
  inspected : Inspected
  files : LocalFiles
  hash : ports.sha256 = sha256
  store : ports.bucket = bucket
  inspection : Inspection ports command.source.bytes inspected files

namespace InspectedUpload

variable (upload : InspectedUpload sha256 bucket)

/-- The version that the upload prepares. -/
def version : PreparedDocumentVersion := prepare upload.ports upload.command upload.inspected

/-- The files of the workspace have kept their bytes. -/
def Steady (oracle : LocalFiles × Option Fault) : Prop :=
  oracle.1 upload.inspected.staged.path = upload.files upload.inspected.staged.path ∧
    oracle.1 upload.inspected.parsed.normalizedPdfPath =
      upload.files upload.inspected.parsed.normalizedPdfPath

instance decidableSteady (oracle : LocalFiles × Option Fault) : Decidable (upload.Steady oracle) :=
  inferInstanceAs (Decidable (_ ∧ _))

/-- The upload from its first `put` on. -/
def program : UploadProgram (Except UploadRaised DocumentVersion) :=
  storing upload.ports upload.command upload.inspected

section Safe

variable (digests : ∀ content, LowerDigest (sha256 content)) (archive : Archive)

theorem stable_holds (digest : String) :
    (archiveRules sha256 bucket).Stable fun archive => Holds sha256 archive.objects digest :=
  fun grows _ held => grows.holds digest held

theorem source_digest :
    upload.inspected.staged.sha256 = sha256 upload.command.source.bytes := by
  rw [upload.inspection.digest, upload.hash]

/-- The canonical PDF of the upload. -/
theorem canonical_digest : ∃ content,
    upload.files upload.inspected.parsed.normalizedPdfPath = some content ∧
      upload.inspected.parsed.normalizedPdfHash = sha256 content := by
  obtain ⟨content, stored, digest⟩ := upload.inspection.parsed.canonical
  rw [upload.hash] at digest
  exact ⟨content, stored, digest⟩

include digests

/-- The first `put` of the upload. -/
theorem safe_first (contentType : String) :
    (putting bucket upload.inspected.staged.sha256 upload.inspected.staged.path contentType).Safe
      (archiveRules sha256 bucket) serveUpload upload.Steady
      (PutReturned sha256 bucket upload.inspected.staged.sha256) archive := by
  rw [source_digest]
  refine (safe_putting digests archive).restrict fun oracle steady => ?_
  exact steady.1.trans upload.inspection.parsed.stored

/-- The second one. -/
theorem safe_second {sourceUrl : String}
    (returned : PutReturned sha256 bucket upload.inspected.staged.sha256 (.ok sourceUrl) archive) :
    (puttingNormalized upload.ports upload.inspected sourceUrl).Safe (archiveRules sha256 bucket)
      serveUpload upload.Steady
      (PutReturned sha256 bucket upload.inspected.parsed.normalizedPdfHash) archive := by
  unfold puttingNormalized
  split_ifs with format
  · have same : upload.inspected.parsed.normalizedPdfHash = upload.inspected.staged.sha256 := by
      rw [upload.inspection.parsed.isSource format, upload.inspection.digest]
    rw [same]
    exact Program.safe_done.mpr returned
  · obtain ⟨content, stored, digest⟩ := upload.canonical_digest
    rw [upload.store, digest]
    have alone := @safe_putting sha256 bucket upload.inspected.parsed.normalizedPdfPath
      (canonicalMimeType .pdf) content digests archive
    exact alone.restrict fun oracle steady => steady.2.trans stored

/-- **An upload among others** keeps the rules. -/
theorem safe : upload.program.Safe (archiveRules sha256 bucket) serveUpload upload.Steady
    (UploadReturned upload.version) archive := by
  unfold program storing
  rw [upload.store]
  have first := upload.safe_first digests archive
    (canonicalMimeType upload.inspected.fileFormat)
  refine Program.Safe.bind first fun outcome later returned => ?_
  cases outcome with
  | error error => exact Program.safe_done.mpr trivial
  | ok sourceUrl =>
      refine ((upload.safe_second digests later returned).frame (stable_holds _) returned.2).bind
        fun outcome last both => ?_
      cases outcome with
      | error error => exact Program.safe_done.mpr trivial
      | ok normalizedPdfUrl =>
          obtain ⟨⟨isPdfUrl, pdfHeld⟩, sourceHeld⟩ := both
          have same : prepared upload.ports upload.command upload.inspected sourceUrl
              normalizedPdfUrl = upload.version := by
            rw [prepared, version, prepare, upload.store, returned.1, isPdfUrl]
          rw [persisting, same]
          refine safe_persist _ fun number => ⟨?_, ?_, sourceHeld, pdfHeld⟩
          · exact congrArg (objectUri · _) upload.store
          · exact congrArg (objectUri · _) upload.store

end Safe

theorem stable_uploadReturned (prepared : PreparedDocumentVersion)
    (outcome : Except UploadRaised DocumentVersion) :
    (archiveRules sha256 bucket).Stable (UploadReturned prepared outcome) := by
  intro archive later grows sound returned
  cases outcome with
  | error error => trivial
  | ok version => exact ⟨returned.1, grows.versions.subset returned.2⟩

end InspectedUpload

section Runs

variable {Caller : Type}

/-- Uploads over an archive. -/
def uploads (upload : Caller → InspectedUpload sha256 bucket) (archive : Archive) :
    Callers Caller UploadCall UploadCall.Answer (Except UploadRaised DocumentVersion) Archive where
  world := archive
  program caller := (upload caller).program

end Runs

end Archives

/-- A converted DOCX, or an upload of the PDF that it is converted to. -/
def sampleUpload (converted : Bool) : InspectedUpload sampleSha256 "bid" where
  ports := samplePorts
  command := sampleCommand "bid" (if converted then zipBytes else pdfBytes 49)
  inspected := {
    staged := {
      path := "source.upload"
      normalizedName := "bid"
      sizeBytes := if converted then 4 else 6
      sha256 := sampleSha256 (if converted then zipBytes else pdfBytes 49) }
    fileFormat := if converted then .docx else .pdf
    parsed := {
      normalizedPdfPath := if converted then "source.pdf" else "source.upload"
      normalizedPdfHash := sampleSha256 (pdfBytes 49)
      pageCount := 3
      parserVersion := parserVersion
      parseDurationMs := 5 } }
  files path :=
    some (if converted ∧ path = "source.upload" then zipBytes else pdfBytes 49)
  hash := rfl
  store := rfl
  inspection := by
    cases converted with
    | false => exact ⟨rfl, ⟨fun _ => some (pdfBytes 49), rfl, rfl⟩,
        ⟨rfl, ⟨_, rfl, rfl⟩, fun _ => rfl⟩, by decide⟩
    | true => exact ⟨rfl, ⟨fun _ => some zipBytes, rfl, rfl⟩,
        ⟨rfl, ⟨_, rfl, rfl⟩, nofun⟩, by decide⟩

/-- Neither upload finds the PDF.  The `put` of the one that sends it as it is fails after it
has stored it, and the other one stores it again. -/
def sampleUploadSchedule : List (Bool × LocalFiles × Option Fault) :=
  let turn (converted : Bool) := (converted, (sampleUpload converted).files, none)
  let late : Fault := { error := .httpError, late := true }
  [turn true, turn true, turn true, turn true, turn false, turn true, turn false,
    (false, (sampleUpload false).files, some late), turn true, turn true]

end BidSystem.Documents
