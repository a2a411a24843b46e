import BidSystem.Documents.FileProcessing

/-!
# What staging reads and writes

`stage` with everything it does on the way: the reads it makes of the upload and
the bytes it writes to the workspace, also where it raises.  A chunk that goes
beyond the limit has been read by then, whatever its size, and is not written.

* `traceStage` — the outcome, the bytes written and the reads not made.
  `stage_eq_trace` says that `stage` is what it returns.
* `staging_law` — when staging succeeds, and that nothing depends on the chunks.
-/

namespace BidSystem.Documents

/-- The arguments of `StreamingUploadStager`, with what its constructor checks. -/
structure StagingLimits where
  maxFileBytes : ℕ
  readChunkBytes : ℕ
  maxPositive : 1 ≤ maxFileBytes
  chunkPositive : 1 ≤ readChunkBytes
  chunkBounded : readChunkBytes ≤ uploadReadChunkBytes

/-- What staging has done. -/
structure Staging (A : Type) where
  outcome : Except PyError A
  /-- The bytes written to the workspace. -/
  written : Bytes
  /-- The reads that were not made. -/
  unread : List (Except PyError Bytes)

/-- The loop of `stage`, with its reads and writes. -/
def traceChunks (maxFileBytes : ℕ) :
    List (Except PyError Bytes) → Hash → Bytes → ℕ → Staging (Hash × ℕ)
  | [], digest, stream, totalBytes => ⟨.ok (digest, totalBytes), stream, []⟩
  | .error error :: reads, _, stream, _ => ⟨.error error, stream, reads⟩
  | .ok chunk :: reads, digest, stream, totalBytes =>
      if chunk = [] then ⟨.ok (digest, totalBytes), stream, reads⟩
      else if maxFileBytes < totalBytes + chunk.length then
        ⟨.error .fileSizeLimitExceededError, stream, reads⟩
      else
        traceChunks maxFileBytes reads (digest.update chunk) (stream ++ chunk)
          (totalBytes + chunk.length)

/-- `StreamingUploadStager.stage`, with its reads and writes. -/
def traceStage (sha256 : Bytes → String) (nfc : String → String) (limits : StagingLimits)
    (source : UploadSource) (workspace : String) : Staging StagedUpload :=
  match normalizeName nfc source.filename with
  | .error error => ⟨.error error, [], source.reads⟩
  | .ok normalizedName =>
      let copied := traceChunks limits.maxFileBytes source.reads ⟨[]⟩ [] 0
      match copied.outcome with
      | .error error => ⟨.error error, copied.written, copied.unread⟩
      | .ok (digest, totalBytes) =>
          { copied with
            outcome :=
              if totalBytes = 0 then .error (.invalidDocumentError "文件不能为空")
              else .ok {
                path := workspace ++ "/source.upload"
                normalizedName := normalizedName
                sizeBytes := totalBytes
                sha256 := digest.hexdigest sha256 } }

section Chunks

variable {maxFileBytes : ℕ}

/-- The loop returns what its trace says. -/
theorem copyChunks_eq_trace (reads : List (Except PyError Bytes)) (digest : Hash) (stream : Bytes)
    (totalBytes : ℕ) :
    copyChunks maxFileBytes reads digest stream totalBytes =
      (traceChunks maxFileBytes reads digest stream totalBytes).outcome.map fun counted =>
        (counted.1, (traceChunks maxFileBytes reads digest stream totalBytes).written, counted.2) := by
  induction reads generalizing digest stream totalBytes with
  | nil => rfl
  | cons read reads ih =>
      cases read with
      | error error => rfl
      | ok chunk =>
          rw [copyChunks, traceChunks]
          split_ifs
          · rfl
          · rfl
          · exact ih _ _ _

/-- The loop never writes more than the limit. -/
theorem length_written (reads : List (Except PyError Bytes)) (digest : Hash) {stream : Bytes}
    {totalBytes : ℕ} (counted : stream.length = totalBytes) (within : totalBytes ≤ maxFileBytes) :
    (traceChunks maxFileBytes reads digest stream totalBytes).written.length ≤ maxFileBytes := by
  induction reads generalizing digest stream totalBytes with
  | nil => exact counted.trans_le within
  | cons read reads ih =>
      cases read with
      | error error => exact counted.trans_le within
      | ok chunk =>
          rw [traceChunks]
          split_ifs with atEnd exceeded
          · exact counted.trans_le within
          · exact counted.trans_le within
          · refine ih _ ?_ (not_lt.mp exceeded)
            rw [List.length_append, counted]

/-- Before the last read that the loop makes, the limit has not been crossed. -/
theorem exists_made (reads : List (Except PyError Bytes)) (digest : Hash) (stream : Bytes)
    {totalBytes : ℕ} (within : totalBytes ≤ maxFileBytes) :
    ∃ made, reads = made ++ (traceChunks maxFileBytes reads digest stream totalBytes).unread ∧
      totalBytes + (readBytes made.dropLast).length ≤ maxFileBytes := by
  induction reads generalizing digest stream totalBytes with
  | nil => exact ⟨[], rfl, within⟩
  | cons read reads ih =>
      cases read with
      | error error => exact ⟨[.error error], rfl, within⟩
      | ok chunk =>
          rw [traceChunks]
          split_ifs with atEnd exceeded
          · exact ⟨[.ok chunk], rfl, within⟩
          · exact ⟨[.ok chunk], rfl, within⟩
          · obtain ⟨made, split, below⟩ := ih (digest.update chunk) (stream ++ chunk)
              (not_lt.mp exceeded)
            refine ⟨.ok chunk :: made, ?_, ?_⟩
            · rw [List.cons_append, ← split]
            · cases made with
              | nil => exact within
              | cons first others =>
                  rw [List.dropLast_cons_cons, readBytes, if_neg atEnd, List.length_append]
                  omega

/-- **A whole upload**: if it is not too long it is hashed, counted and written. -/
theorem traceChunks_upload {chunks : List Bytes} (nonempty : [] ∉ chunks) (digest : Hash)
    (stream : Bytes) {totalBytes : ℕ} (within : totalBytes ≤ maxFileBytes) :
    (traceChunks maxFileBytes (chunks.map Except.ok ++ [.ok []]) digest stream totalBytes).outcome =
      (if totalBytes + chunks.flatten.length ≤ maxFileBytes then
        .ok (⟨digest.data ++ chunks.flatten⟩, totalBytes + chunks.flatten.length)
      else .error .fileSizeLimitExceededError) ∧
    (totalBytes + chunks.flatten.length ≤ maxFileBytes →
      (traceChunks maxFileBytes (chunks.map Except.ok ++ [.ok []]) digest stream
        totalBytes).written = stream ++ chunks.flatten) := by
  induction chunks generalizing digest stream totalBytes with
  | nil =>
      rw [List.map_nil, List.nil_append, traceChunks, if_pos rfl]
      simp [within]
  | cons chunk chunks ih =>
      obtain ⟨isChunk, others⟩ := not_or.mp (List.mem_cons.not.mp nonempty)
      have notEnd : chunk ≠ [] := fun same => isChunk same.symm
      rw [List.map_cons, List.cons_append, traceChunks, if_neg notEnd, List.flatten_cons,
        List.length_append, ← Nat.add_assoc]
      by_cases exceeded : maxFileBytes < totalBytes + chunk.length
      · rw [if_pos exceeded, if_neg (by omega)]
        exact ⟨rfl, fun fits => absurd fits (by omega)⟩
      · obtain ⟨outcome, written⟩ := ih others (digest.update chunk) (stream ++ chunk)
          (not_lt.mp exceeded)
        rw [if_neg exceeded, outcome, Hash.update, List.append_assoc]
        refine ⟨rfl, fun fits => ?_⟩
        rw [← List.append_assoc]
        exact written fits

end Chunks

section Stage

variable {sha256 : Bytes → String} {nfc : String → String} {limits : StagingLimits}
  {source : UploadSource} {workspace : String}

/-- **`stage` returns what its trace says**, and leaves what has been written. -/
theorem stage_eq_trace (files : LocalFiles) :
    stage sha256 nfc limits.maxFileBytes source workspace files =
      (traceStage sha256 nfc limits source workspace).outcome.map fun staged =>
        (staged, Function.update files (workspace ++ "/source.upload")
          (some (traceStage sha256 nfc limits source workspace).written)) := by
  unfold stage traceStage
  cases normalizeName nfc source.filename with
  | error error => rfl
  | ok normalizedName =>
      rw [copyChunks_eq_trace]
      generalize traceChunks limits.maxFileBytes source.reads ⟨[]⟩ [] 0 = copied
      obtain ⟨error | ⟨digest, totalBytes⟩, written, unread⟩ := copied
      · rfl
      · simp only [bind, Except.bind, Except.map]
        split_ifs <;> rfl

/-- What staging has read and written is what its loop has. -/
theorem traceStage_cases (sha256 : Bytes → String) (nfc : String → String) (limits : StagingLimits)
    (source : UploadSource) (workspace : String) :
    ((traceStage sha256 nfc limits source workspace).written = [] ∧
      (traceStage sha256 nfc limits source workspace).unread = source.reads) ∨
    ((traceStage sha256 nfc limits source workspace).written =
        (traceChunks limits.maxFileBytes source.reads ⟨[]⟩ [] 0).written ∧
      (traceStage sha256 nfc limits source workspace).unread =
        (traceChunks limits.maxFileBytes source.reads ⟨[]⟩ [] 0).unread) := by
  unfold traceStage
  cases normalizeName nfc source.filename with
  | error error => exact .inl ⟨rfl, rfl⟩
  | ok normalizedName =>
      refine .inr ?_
      dsimp only
      split <;> exact ⟨rfl, rfl⟩

/-- **Staging never writes more than the limit**, whatever the source does. -/
theorem length_written_stage (sha256 : Bytes → String) (nfc : String → String)
    (limits : StagingLimits) (source : UploadSource) (workspace : String) :
    (traceStage sha256 nfc limits source workspace).written.length ≤ limits.maxFileBytes := by
  rcases traceStage_cases sha256 nfc limits source workspace with ⟨same, -⟩ | ⟨same, -⟩
  · rw [same]
    exact Nat.zero_le _
  · rw [same]
    exact length_written source.reads ⟨[]⟩ rfl (Nat.zero_le _)

/-- **Staging reads no further** once the limit has been crossed. -/
theorem exists_made_stage (sha256 : Bytes → String) (nfc : String → String)
    (limits : StagingLimits) (source : UploadSource) (workspace : String) :
    ∃ made, source.reads = made ++ (traceStage sha256 nfc limits source workspace).unread ∧
      (readBytes made.dropLast).length ≤ limits.maxFileBytes := by
  rcases traceStage_cases sha256 nfc limits source workspace with ⟨-, same⟩ | ⟨-, same⟩
  · rw [same]
    exact ⟨[], rfl, Nat.zero_le _⟩
  · rw [same]
    obtain ⟨made, split, below⟩ :=
      exists_made source.reads ⟨[]⟩ [] (Nat.zero_le limits.maxFileBytes)
    exact ⟨made, split, by rwa [Nat.zero_add] at below⟩

end Stage

/-- An upload that is read in these chunks. -/
def uploadOf (filename : String) (chunks : List Bytes) : UploadSource where
  filename := filename
  reads := chunks.map Except.ok ++ [.ok []]

/-- **What staging makes of an upload**, whatever its chunks. -/
theorem stage_upload {sha256 : Bytes → String} {nfc : String → String} {limits : StagingLimits}
    {filename workspace : String} {files : LocalFiles} {chunks : List Bytes}
    (nonempty : [] ∉ chunks) :
    stage sha256 nfc limits.maxFileBytes (uploadOf filename chunks) workspace files =
      (normalizeName nfc filename).bind fun normalizedName =>
        if limits.maxFileBytes < chunks.flatten.length then .error .fileSizeLimitExceededError
        else if chunks.flatten.length = 0 then .error (.invalidDocumentError "文件不能为空")
        else .ok ({
          path := workspace ++ "/source.upload"
          normalizedName := normalizedName
          sizeBytes := chunks.flatten.length
          sha256 := sha256 chunks.flatten },
          Function.update files (workspace ++ "/source.upload") (some chunks.flatten)) := by
  obtain ⟨outcome, written⟩ := traceChunks_upload nonempty ⟨[]⟩ [] (Nat.zero_le limits.maxFileBytes)
  rw [Nat.zero_add] at outcome written
  rw [stage_eq_trace]
  unfold traceStage uploadOf
  cases normalizeName nfc filename with
  | error error => rfl
  | ok normalizedName =>
      dsimp only
      generalize traceChunks limits.maxFileBytes (chunks.map Except.ok ++ [.ok []]) ⟨[]⟩ [] 0 =
        copied at outcome written
      obtain ⟨result, bytes, unread⟩ := copied
      dsimp only at outcome written
      rw [outcome]
      by_cases exceeded : limits.maxFileBytes < chunks.flatten.length
      · rw [if_neg (not_le.mpr exceeded)]
        simp only [Except.bind, if_pos exceeded]
        rfl
      · rw [if_pos (not_lt.mp exceeded), written (not_lt.mp exceeded)]
        simp only [Except.bind, if_neg exceeded]
        split_ifs <;> rfl

/-- **Staging**: an upload is staged exactly if its name is valid and it is neither
empty nor too long; then the staged file is the uploaded bytes, with their length
and digest; no more than the limit is ever written, and nothing is read once the
limit has been crossed; and only the bytes count, not the chunks they come in. -/
theorem staging_law (sha256 : Bytes → String) (nfc : String → String) (limits : StagingLimits)
    (workspace : String) (files : LocalFiles) :
    (∀ filename chunks, [] ∉ chunks →
      ((∃ result, stage sha256 nfc limits.maxFileBytes (uploadOf filename chunks) workspace files =
          .ok result) ↔
        (∃ normalizedName, normalizeName nfc filename = .ok normalizedName) ∧
          0 < chunks.flatten.length ∧ chunks.flatten.length ≤ limits.maxFileBytes) ∧
      (∀ staged files', stage sha256 nfc limits.maxFileBytes (uploadOf filename chunks) workspace
          files = .ok (staged, files') →
        files' staged.path = some chunks.flatten ∧ staged.sizeBytes = chunks.flatten.length ∧
          staged.sha256 = sha256 chunks.flatten ∧ ∀ path, path ≠ staged.path →
            files' path = files path) ∧
      ∀ others, [] ∉ others → others.flatten = chunks.flatten →
        stage sha256 nfc limits.maxFileBytes (uploadOf filename others) workspace files =
          stage sha256 nfc limits.maxFileBytes (uploadOf filename chunks) workspace files) ∧
    ∀ source,
      (traceStage sha256 nfc limits source workspace).written.length ≤ limits.maxFileBytes ∧
        ∃ made, source.reads = made ++ (traceStage sha256 nfc limits source workspace).unread ∧
          (readBytes made.dropLast).length ≤ limits.maxFileBytes := by
  refine ⟨fun filename chunks nonempty => ⟨?_, ?_, ?_⟩, fun source =>
    ⟨length_written_stage sha256 nfc limits source workspace,
      exists_made_stage sha256 nfc limits source workspace⟩⟩
  · rw [stage_upload nonempty]
    cases normalizeName nfc filename with
    | error error =>
        constructor
        · rintro ⟨_, same⟩
          cases same
        · rintro ⟨⟨_, same⟩, -⟩
          cases same
    | ok normalizedName =>
        simp only [Except.bind]
        split_ifs with exceeded empty
        · constructor
          · rintro ⟨_, same⟩
            cases same
          · rintro ⟨-, -, fits⟩
            exact absurd exceeded (not_lt.mpr fits)
        · constructor
          · rintro ⟨_, same⟩
            cases same
          · rintro ⟨-, positive, -⟩
            exact absurd empty positive.ne'
        · exact ⟨fun _ => ⟨⟨_, rfl⟩, by omega, by omega⟩, fun _ => ⟨_, rfl⟩⟩
  · intro staged files' staging
    rw [stage_upload nonempty] at staging
    cases name : normalizeName nfc filename with
    | error error =>
        rw [name] at staging
        cases staging
    | ok normalizedName =>
        rw [name] at staging
        simp only [Except.bind] at staging
        split_ifs at staging
        cases staging
        exact ⟨Function.update_self .., rfl, rfl, fun path other => Function.update_of_ne other ..⟩
  · intro others nonempty' same
    rw [stage_upload nonempty, stage_upload nonempty', same]

end BidSystem.Documents
