import BidSystem.ContentAddressed.Store
import BidSystem.Documents.FileProcessing
import BidSystem.Interaction.Program

/-!
# The document blob store

`MinioDocumentBlobStore.put` over a `MinioResource`: content-addressed storage
that asks for the size of the object under the content's key and uploads the
file if there is none.

`put` is a program over three calls, so that it can run alone (an upload) or
between the calls of others (`Documents/ObjectTraffic`).  The object store maps
object keys to bytes; content types and metadata are sent but never read back.

* `servePut` — the calls, each of which may fail.  A failing upload may have
  stored its object or not.
* `put_ok` — what a `put` that returns has found or stored.
-/

namespace BidSystem.Documents

open Interaction ContentAddressed

/-- The objects of the bucket, by key. -/
abbrev Objects := Store String Bytes

/-- The calls of `put`: to the local file and to the `MinioResource`. -/
inductive PutCall where
  | stat (path : String)
  | statSize (objectKey : String)
  | putFile (objectKey path : String) (sizeBytes : ℕ) (contentType : String)
      (metadata : List (String × String))

/-- What the calls return or raise. -/
def PutCall.Answer : PutCall → Type
  | .stat _ => Except PyError ℕ
  | .statSize _ => Except PyError (Option ℕ)
  | .putFile .. => Except PyError Unit

/-- `MinioResource.object_uri`. -/
def objectUri (bucket objectKey : String) : String :=
  "minio://" ++ bucket ++ "/" ++ objectKey

/-- `OBJECT_PREFIX`. -/
def objectPrefix : String := "documents"

/-- The `object_key` of a digest. -/
def objectKey (sha256 : String) : String :=
  objectPrefix ++ "/sha256/" ++ String.ofList (sha256.toList.take 2) ++ "/" ++ lower sha256

/-- The message of an object whose size is not that of its content. -/
def integrityFailure : PyError := .externalServiceError "对象存储中的文件完整性校验失败"

/-- The `except` clauses of `put`. -/
def objectStoreError : PyError → PyError
  | .s3Error | .httpError | .osError => .externalServiceError "文件存储服务暂时不可用"
  | error => error

section Put

variable (bucket sha256 path contentType : String)

/-- The `put_file` of `put`, where there is no object yet. -/
def putMissing (sizeBytes : ℕ) : Program PutCall PutCall.Answer (Except PyError String) :=
  .call (.putFile (objectKey sha256) path sizeBytes contentType [("sha256", lower sha256)]) fun
    | .error error => .done (.error (objectStoreError error))
    | .ok () => .done (.ok (objectUri bucket (objectKey sha256)))

/-- `put` from its `stat_size` on. -/
def putSized (sizeBytes : ℕ) : Program PutCall PutCall.Answer (Except PyError String) :=
  .call (.statSize (objectKey sha256)) fun
    | .error error => .done (.error (objectStoreError error))
    | .ok (some existingSize) =>
        if existingSize ≠ sizeBytes then .done (.error integrityFailure)
        else .done (.ok (objectUri bucket (objectKey sha256)))
    | .ok none => putMissing bucket sha256 path contentType sizeBytes

/-- `MinioDocumentBlobStore.put`. -/
def put : Program PutCall PutCall.Answer (Except PyError String) :=
  if blank contentType then .done (.error (.valueError "object content type must not be blank"))
  else if !isSha256 sha256 then .done (.error (.valueError "object digest must be SHA-256"))
  else
    .call (.stat path) fun
      | .error error => .done (.error error)
      | .ok sizeBytes => putSized bucket sha256 path contentType sizeBytes

end Put

/-! ## The calls -/

/-- A failing call: what it raises, and whether it does so after its work. -/
structure Fault where
  error : PyError
  late : Bool
deriving DecidableEq, Repr

/-- What a call answers: what it raises if it fails, else its own answer. -/
def Fault.answer {α : Type} (fault : Option Fault) (answer : Except PyError α) : Except PyError α :=
  match fault with
  | some fault => .error fault.error
  | none => answer

theorem Fault.answer_eq_ok {α : Type} {fault : Option Fault} {answer : Except PyError α}
    {value : α} (answered : Fault.answer fault answer = .ok value) : answer = .ok value := by
  cases fault with
  | some fault => cases answered
  | none => exact answered

/-- `path.stat().st_size`. -/
def statFile (files : LocalFiles) (path : String) : Except PyError ℕ :=
  match files path with
  | none => .error .osError
  | some content => .ok content.length

/-- `put_object`: upload the first `size_bytes` bytes of a local file. -/
def uploadObject (files : LocalFiles) (path : String) (sizeBytes : ℕ) : Except PyError Bytes :=
  match files path with
  | none => .error .osError
  | some content =>
      if content.length < sizeBytes then .error .osError else .ok (content.take sizeBytes)

/-- The objects after an upload. -/
def afterUpload (fault : Option Fault) (objectKey : String) (uploaded : Except PyError Bytes)
    (objects : Objects) : Objects :=
  match uploaded with
  | .error _ => objects
  | .ok content =>
      if fault.all Fault.late then Function.update objects objectKey (some content) else objects

/-- Serve one call of `put`. -/
def servePut (files : LocalFiles) (fault : Option Fault) :
    (request : PutCall) → Objects → request.Answer × Objects
  | .stat path, objects => (Fault.answer fault (statFile files path), objects)
  | .statSize objectKey, objects =>
      (Fault.answer fault (.ok ((objects objectKey).map List.length)), objects)
  | .putFile objectKey path sizeBytes _ _, objects =>
      let uploaded := uploadObject files path sizeBytes
      (Fault.answer fault (uploaded.map fun _ => ()),
        afterUpload fault objectKey uploaded objects)

section Serving

variable {files : LocalFiles} {path : String} {content : Bytes}

theorem statFile_of_stored (stored : files path = some content) :
    statFile files path = .ok content.length := by
  rw [statFile, stored]

/-- Uploading the whole file. -/
theorem uploadObject_whole (stored : files path = some content) :
    uploadObject files path content.length = .ok content := by
  rw [uploadObject, stored]
  show (if content.length < content.length then _ else _) = _
  rw [if_neg (lt_irrefl _), List.take_length]

/-- Uploading a whole file stores it, or fails and leaves the objects alone. -/
theorem afterUpload_cases (stored : files path = some content) (fault : Option Fault)
    (key : String) (objects : Objects) :
    let uploaded := uploadObject files path content.length
    afterUpload fault key uploaded objects = Function.update objects key (some content) ∨
      afterUpload fault key uploaded objects = objects ∧
        ∃ error, Fault.answer fault (uploaded.map fun _ => ()) = .error error := by
  rw [uploadObject_whole stored]
  cases fault with
  | none => exact .inl rfl
  | some fault =>
      cases late : fault.late with
      | true => exact .inl (if_pos late)
      | false => exact .inr ⟨if_neg (by simp [late]), fault.error, rfl⟩

end Serving

/-! ## Object keys -/

/-- What `hexdigest` returns: 64 lowercase hex digits. -/
def LowerDigest (digest : String) : Prop := isSha256 digest = true ∧ lower digest = digest

theorem LowerDigest.length {digest : String} (small : LowerDigest digest) : digest.length = 64 := by
  obtain ⟨shape, -⟩ := small
  rw [isSha256, Bool.and_eq_true, beq_iff_eq] at shape
  exact shape.1

/-- Digests are told apart by their object keys. -/
theorem objectKey_inj {digest digest' : String} (small : LowerDigest digest)
    (small' : LowerDigest digest') (same : objectKey digest = objectKey digest') :
    digest = digest' := by
  have chars := congrArg String.toList same
  simp only [objectKey, small.2, small'.2, String.toList_append] at chars
  have lengths : digest.toList.length = digest'.toList.length := by
    rw [String.length_toList, String.length_toList, small.length, small'.length]
  exact String.toList_inj.mp (List.append_inj_right' chars lengths)

theorem objectUri_inj {bucket key key' : String}
    (same : objectUri bucket key = objectUri bucket key') : key = key' := by
  have chars := congrArg String.toList same
  simp only [objectUri, String.toList_append] at chars
  exact String.toList_inj.mp (List.append_cancel_left chars)

/-! ## A put alone -/

/-- What storing a content under a key can do to the objects. -/
inductive Stores (key : String) (content : Bytes) (objects : Objects) : Objects → Prop
  | kept : Stores key content objects objects
  | added (free : objects key = none) :
      Stores key content objects (Function.update objects key (some content))

/-- What is there stays there. -/
theorem Stores.keeps {key : String} {content : Bytes} {objects objects' : Objects}
    (stores : Stores key content objects objects') {other : String} {object : Bytes}
    (found : objects other = some object) : objects' other = some object := by
  cases stores with
  | kept => exact found
  | added free =>
      have distinct : other ≠ key := by
        rintro rfl
        rw [free] at found
        cases found
      rw [Function.update_of_ne distinct]
      exact found

/-- What is there was there, or is the content. -/
theorem Stores.origin {key : String} {content : Bytes} {objects objects' : Objects}
    (stores : Stores key content objects objects') {other : String} {object : Bytes}
    (found : objects' other = some object) :
    objects other = some object ∨ other = key ∧ object = content := by
  cases stores with
  | kept => exact .inl found
  | added free =>
      by_cases here : other = key
      · rw [here, Function.update_self] at found
        exact .inr ⟨here, (Option.some.inj found).symm⟩
      · rw [Function.update_of_ne here] at found
        exact .inl found

/-- Storing contents under their addresses keeps the objects addressed. -/
theorem Stores.addressed {address : Bytes → String} {content : Bytes} {objects objects' : Objects}
    (stores : Stores (address content) content objects objects')
    (addressed : Addressed address objects) : Addressed address objects' := by
  cases stores with
  | kept => exact addressed
  | added free => exact addressed.put content

/-- Serve the calls of `put` one after the other, each with the next fault. -/
def serveInOrder (files : LocalFiles) (request : PutCall)
    (world : Objects × List (Option Fault)) : request.Answer × Objects × List (Option Fault) :=
  let served := servePut files world.2.head?.join request world.1
  (served.1, served.2, world.2.tail)

/-- **The effect of `put` alone** with a file whose digest it is given. -/
theorem put_effect {bucket digest path contentType : String} {files : LocalFiles}
    {content : Bytes} (stored : files path = some content)
    {objects objects' : Objects} {faults faults' : List (Option Fault)}
    {outcome : Except PyError String}
    (ran : (put bucket digest path contentType).exec (serveInOrder files) (objects, faults) =
      (outcome, objects', faults')) :
    Stores (objectKey digest) content objects objects' ∧
      ∀ url, outcome = .ok url → url = objectUri bucket (objectKey digest) ∧
        ∃ object, objects' (objectKey digest) = some object := by
  unfold put at ran
  split_ifs at ran with blankType malformed
  · cases ran
    exact ⟨.kept, nofun⟩
  · cases ran
    exact ⟨.kept, nofun⟩
  · rw [Program.exec_call] at ran
    simp only [serveInOrder, servePut] at ran
    split at ran
    · cases ran
      exact ⟨.kept, nofun⟩
    · next sizeBytes sized =>
        have size : sizeBytes = content.length := by
          have answered := Fault.answer_eq_ok sized
          rw [statFile_of_stored stored] at answered
          exact (Except.ok.inj answered).symm
        rw [putSized, Program.exec_call] at ran
        simp only [serveInOrder, servePut] at ran
        split at ran
        · cases ran
          exact ⟨.kept, nofun⟩
        · next existingSize found =>
            have existing : (objects (objectKey digest)).map List.length = some existingSize :=
              Except.ok.inj (Fault.answer_eq_ok found)
            obtain ⟨object, present, -⟩ := Option.map_eq_some_iff.mp existing
            split_ifs at ran with different
            · cases ran
              exact ⟨.kept, nofun⟩
            · cases ran
              refine ⟨.kept, fun url returned => ?_⟩
              cases returned
              exact ⟨rfl, object, present⟩
        · next found =>
            have missing : (objects (objectKey digest)).map List.length = none :=
              Except.ok.inj (Fault.answer_eq_ok found)
            have free : objects (objectKey digest) = none := Option.map_eq_none_iff.mp missing
            rw [putMissing, Program.exec_call] at ran
            simp only [serveInOrder, servePut] at ran
            rw [size] at ran
            generalize faults.tail.tail.head?.join = fault at ran
            have effect := afterUpload_cases stored fault (objectKey digest) objects
            dsimp only at effect
            split at ran
            · cases ran
              refine ⟨?_, nofun⟩
              rcases effect with uploaded | ⟨kept, -⟩
              · rw [uploaded]
                exact .added free
              · rw [kept]
                exact .kept
            · next returned =>
                cases ran
                rcases effect with uploaded | ⟨-, error, raised⟩
                · rw [uploaded]
                  refine ⟨.added free, fun url same => ?_⟩
                  cases same
                  exact ⟨rfl, content, Function.update_self ..⟩
                · rw [raised] at returned
                  cases returned

/-! ## Contents and their digests -/

/-- `%PDF-` and one more byte. -/
def pdfBytes (last : UInt8) : Bytes := [37, 80, 68, 70, 45, last]

/-- The start of a ZIP archive. -/
def zipBytes : Bytes := [80, 75, 3, 4]

/-- SHA-256 of three contents, and of the empty one for all others. -/
def sampleSha256 (content : Bytes) : String :=
  if content == pdfBytes 49 then "21af8e71c8703196df7fe1ff901869a88fe64c07bbaa83d838efb45a52b4f303"
  else if content == pdfBytes 50 then
    "468b145bbc44c6e9436af27c6aa4378a76b0e1c52829f59abd537da87572f240"
  else if content == zipBytes then
    "8dcc7e601606217f3b754766511182a916b17e9a26a94c9d887104eba92e9bb2"
  else "e3b0c44298fc1c149afbf4c8996fb92427ae41e4649b934ca495991b7852b855"

theorem lowerDigest_sampleSha256 (content : Bytes) : LowerDigest (sampleSha256 content) := by
  unfold sampleSha256 LowerDigest
  split_ifs <;> decide +kernel

end BidSystem.Documents
