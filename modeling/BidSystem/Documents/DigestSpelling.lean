import BidSystem.Documents.ObjectTraffic

/-!
# Spellings of a digest

`MinioDocumentBlobStore.put` accepts a digest in any letter case.  The name of the object
is its lowercase spelling, but the directory above it is the first two digits as they are
spelled.

* `objectKey_eq_iff` — when two digests have one key.
* `SpelledPuts` — puts that are given some spelling of the digest of their file; their
  calls interleave over any object store.
* `Sound.run` — a run only adds the content of a put under the key of its spelling.
* `canonical_address` — when a content has one key.
-/

namespace BidSystem.Documents

open Interaction

/-! ## Keys of digests -/

theorem toList_length_of_isSha256 {digest : String} (shape : isSha256 digest = true) :
    digest.toList.length = 64 := by
  rw [isSha256, Bool.and_eq_true, beq_iff_eq] at shape
  rw [String.length_toList]
  exact shape.1

/-- The key of a digest is its lowercase spelling and its first two digits as spelled. -/
theorem objectKey_eq_iff {digest digest' : String} (shape : isSha256 digest = true)
    (shape' : isSha256 digest' = true) :
    objectKey digest = objectKey digest' ↔
      digest.toList.take 2 = digest'.toList.take 2 ∧ lower digest = lower digest' := by
  have chars : ∀ digest, isSha256 digest = true →
      (objectKey digest).toList =
        ((objectPrefix ++ "/sha256/").toList ++ digest.toList.take 2) ++
          ("/".toList ++ digest.toList.map Char.toLower) := by
    intro digest _
    simp [objectKey, lower, String.toList_append]
  constructor
  · intro same
    have lists := congrArg String.toList same
    rw [chars _ shape, chars _ shape'] at lists
    -- The directories have the same length, so the keys split at the same place.
    have lengths : (digest.toList.take 2).length = (digest'.toList.take 2).length := by
      rw [List.length_take, List.length_take, toList_length_of_isSha256 shape,
        toList_length_of_isSha256 shape']
    obtain ⟨directories, names⟩ := List.append_inj lists (by
      rw [List.length_append, List.length_append, lengths])
    refine ⟨List.append_cancel_left directories, ?_⟩
    exact congrArg String.ofList (List.append_cancel_left names)
  · rintro ⟨directories, names⟩
    rw [objectKey, objectKey, directories, names]

/-! ## Puts with spelled digests -/

/-- Puts of files, each with a spelling of the digest of its content. -/
structure SpelledPuts (Caller : Type) where
  sha256 : Bytes → String
  bucket : String
  path : Caller → String
  contentType : Caller → String
  content : Caller → Bytes
  digest : Caller → String
  spelled : ∀ caller, lower (digest caller) = sha256 (content caller)

namespace SpelledPuts

variable {Caller : Type} (puts : SpelledPuts Caller)

/-- The checks of `put` on its arguments pass. -/
def Accepted (caller : Caller) : Prop :=
  blank (puts.contentType caller) = false ∧ isSha256 (puts.digest caller) = true

/-- The key of a put. -/
def key (caller : Caller) : String := objectKey (puts.digest caller)

/-- The URI of a put. -/
def uri (caller : Caller) : String := objectUri puts.bucket (puts.key caller)

/-- The calls of a put. -/
def program (caller : Caller) : Program PutCall PutCall.Answer (Except PyError String) :=
  put puts.bucket (puts.digest caller) (puts.path caller) (puts.contentType caller)

/-- The puts over an object store. -/
def start (objects : Objects) :
    Callers Caller PutCall PutCall.Answer (Except PyError String) Objects where
  world := objects
  program := puts.program

/-- The puts after a schedule. -/
def run [DecidableEq Caller] (objects : Objects)
    (schedule : List (Caller × PutTraffic.Oracle)) :
    Callers Caller PutCall PutCall.Answer (Except PyError String) Objects :=
  (puts.start objects).run PutTraffic.serve schedule

/-- The file of a put has its bytes whenever the put is served. -/
def Stable (turn : Caller × PutTraffic.Oracle) : Prop :=
  turn.2.1 (puts.path turn.1) = some (puts.content turn.1)

/-! ### The invariant -/

/-- Where a put can be. -/
inductive Phase (caller : Caller) : Program PutCall PutCall.Answer (Except PyError String) → Prop
  | starting : Phase caller (puts.program caller)
  | sized (accepted : puts.Accepted caller) :
      Phase caller (putSized puts.bucket (puts.digest caller) (puts.path caller)
        (puts.contentType caller) (puts.content caller).length)
  | missing (accepted : puts.Accepted caller) :
      Phase caller (putMissing puts.bucket (puts.digest caller) (puts.path caller)
        (puts.contentType caller) (puts.content caller).length)
  | failed (error : PyError) : Phase caller (.done (.error error))
  | returned (accepted : puts.Accepted caller) : Phase caller (.done (.ok (puts.uri caller)))

/-- The content of an accepted put under its key. -/
def Puts (key : String) (object : Bytes) : Prop :=
  ∃ caller, puts.Accepted caller ∧ key = puts.key caller ∧ object = puts.content caller

/-- The invariant of the puts over an object store. -/
structure Sound (objects : Objects)
    (callers : Callers Caller PutCall PutCall.Answer (Except PyError String) Objects) : Prop where
  origin : ∀ key object, callers.world key = some object →
    objects key = some object ∨ puts.Puts key object
  phase : ∀ caller, puts.Phase caller (callers.program caller)

variable {puts}

theorem start_program (objects : Objects) : (puts.start objects).program = puts.program := by
  rw [start]

theorem sound_start (objects : Objects) : puts.Sound objects (puts.start objects) := by
  refine ⟨fun _ _ => .inl, fun caller => ?_⟩
  rw [start_program]
  exact .starting

section Steps

variable {objects : Objects}
  {callers : Callers Caller PutCall PutCall.Answer (Except PyError String) Objects}
  (sound : puts.Sound objects callers)

include sound

/-- What the next call of a put does: nothing but storing its content, and the put is in a
phase again. -/
theorem Sound.served {caller : Caller} {oracle : PutTraffic.Oracle}
    (stable : puts.Stable (caller, oracle)) {request : PutCall}
    {next : request.Answer → Program PutCall PutCall.Answer (Except PyError String)}
    (pending : callers.program caller = .call request next) :
    let served := PutTraffic.serve oracle request callers.world
    (served.2 = callers.world ∨ puts.Accepted caller ∧
        served.2 = Function.update callers.world (puts.key caller)
          (some (puts.content caller))) ∧
      puts.Phase caller (next served.1) := by
  have phase := sound.phase caller
  rw [pending] at phase
  generalize isProgram : Program.call request next = program at phase
  cases phase with
  | starting =>
      unfold SpelledPuts.program put at isProgram
      split_ifs at isProgram with untyped shapeless
      cases isProgram
      refine ⟨.inl rfl, ?_⟩
      dsimp only [PutTraffic.serve, servePut]
      split
      · exact .failed _
      · next sizeBytes sized =>
          have answered := Fault.answer_eq_ok sized
          rw [statFile_of_stored stable] at answered
          rw [← Except.ok.inj answered]
          exact .sized ⟨by simpa using untyped, by simpa using shapeless⟩
  | sized accepted =>
      cases isProgram
      refine ⟨.inl rfl, ?_⟩
      dsimp only [PutTraffic.serve, servePut]
      split
      · exact .failed _
      · split
        · exact .failed _
        · exact .returned accepted
      · exact .missing accepted
  | missing accepted =>
      cases isProgram
      have effect := afterUpload_cases stable oracle.2 (puts.key caller) callers.world
      dsimp only [PutTraffic.serve, servePut] at effect ⊢
      rcases effect with uploaded | ⟨kept, error, raised⟩
      · refine ⟨.inr ⟨accepted, uploaded⟩, ?_⟩
        split
        · exact .failed _
        · exact .returned accepted
      · refine ⟨.inl kept, ?_⟩
        rw [raised]
        exact .failed _
  | failed error => cases isProgram
  | returned accepted => cases isProgram

/-- **Every served call keeps the invariant.** -/
theorem Sound.step [DecidableEq Caller] {caller : Caller} {oracle : PutTraffic.Oracle}
    (stable : puts.Stable (caller, oracle)) {request : PutCall}
    {next : request.Answer → Program PutCall PutCall.Answer (Except PyError String)}
    (pending : callers.program caller = .call request next) :
    let served := PutTraffic.serve oracle request callers.world
    puts.Sound objects {
      world := served.2
      program := Function.update callers.program caller (next served.1) } := by
  obtain ⟨change, phase⟩ := sound.served stable pending
  intro served
  refine ⟨fun key object present => ?_, fun other => ?_⟩
  · have present' : served.2 key = some object := present
    rcases change with same | ⟨accepted, stored⟩
    · exact sound.origin key object (by rw [← same]; exact present')
    · rw [stored] at present'
      by_cases here : key = puts.key caller
      · rw [here, Function.update_self] at present'
        exact .inr ⟨caller, accepted, here, (Option.some.inj present').symm⟩
      · rw [Function.update_of_ne here] at present'
        exact sound.origin key object present'
  · show puts.Phase other (Function.update callers.program caller (next served.1) other)
    by_cases same : other = caller
    · subst same
      rw [Function.update_self]
      exact phase
    · rw [Function.update_of_ne same]
      exact sound.phase other

/-- What a put that returned says. -/
theorem Sound.of_returned {caller : Caller} {url : String}
    (returned : (callers.program caller).result? = some (.ok url)) :
    puts.Accepted caller ∧ url = puts.uri caller := by
  have phase := sound.phase caller
  generalize callers.program caller = program at returned phase
  cases phase with
  | starting =>
      unfold SpelledPuts.program put at returned
      split_ifs at returned <;> cases returned
  | sized => cases returned
  | missing => cases returned
  | failed error => cases returned
  | returned accepted =>
      cases returned
      exact ⟨accepted, rfl⟩

end Steps

/-- **A run only adds the content of a put under the key of its spelling.** -/
theorem Sound.run [DecidableEq Caller] (objects : Objects)
    {schedule : List (Caller × PutTraffic.Oracle)} (stable : ∀ turn ∈ schedule, puts.Stable turn) :
    puts.Sound objects (puts.run objects schedule) :=
  Callers.run_induction (fun _ _ _ _ _ sound allowed pending => sound.step allowed pending)
    stable (sound_start objects)

/-! ### One key for a content -/

/-- The object was stored under the key by the run. -/
def NewlyHolds (before after : Objects) (key : String) (object : Bytes) : Prop :=
  after key = some object ∧ before key ≠ some object

/-- Puts of one digest have returned one URI, and no content was stored under two keys. -/
structure OneKey (puts : SpelledPuts Caller) (objects : Objects)
    (callers : Callers Caller PutCall PutCall.Answer (Except PyError String) Objects) : Prop where
  uris : ∀ caller caller' url url', (callers.program caller).result? = some (.ok url) →
    (callers.program caller').result? = some (.ok url') →
      lower (puts.digest caller) = lower (puts.digest caller') → url = url'
  keys : ∀ key key' object, NewlyHolds objects callers.world key object →
    NewlyHolds objects callers.world key' object → key = key'

/-- Accepted puts of one digest spell its first two digits alike. -/
def SpelledAlike (puts : SpelledPuts Caller) : Prop :=
  ∀ caller caller', puts.Accepted caller → puts.Accepted caller' →
    lower (puts.digest caller) = lower (puts.digest caller') →
      (puts.digest caller).toList.take 2 = (puts.digest caller').toList.take 2

theorem Sound.oneKey {objects : Objects}
    {callers : Callers Caller PutCall PutCall.Answer (Except PyError String) Objects}
    (sound : puts.Sound objects callers) (alike : puts.SpelledAlike) :
    puts.OneKey objects callers where
  uris caller caller' url url' returned returned' same := by
    obtain ⟨accepted, rfl⟩ := sound.of_returned returned
    obtain ⟨accepted', rfl⟩ := sound.of_returned returned'
    refine congrArg (objectUri puts.bucket) ?_
    exact (objectKey_eq_iff accepted.2 accepted'.2).2 ⟨alike _ _ accepted accepted' same, same⟩
  keys key key' object stored stored' := by
    obtain ⟨caller, accepted, rfl, isContent⟩ :=
      (sound.origin key object stored.1).resolve_left stored.2
    obtain ⟨caller', accepted', rfl, isContent'⟩ :=
      (sound.origin key' object stored'.1).resolve_left stored'.2
    have same : lower (puts.digest caller) = lower (puts.digest caller') := by
      rw [puts.spelled, puts.spelled, ← isContent, ← isContent']
    exact (objectKey_eq_iff accepted.2 accepted'.2).2 ⟨alike _ _ accepted accepted' same, same⟩

/-- The three calls of a put, none of which fails. -/
def alone (puts : SpelledPuts Caller) (caller : Caller) : List (Caller × PutTraffic.Oracle) :=
  List.replicate 3 (caller, fun _ => some (puts.content caller), none)

theorem stable_alone {caller : Caller} {turn : Caller × PutTraffic.Oracle}
    (member : turn ∈ puts.alone caller) : puts.Stable turn := by
  rw [List.eq_of_mem_replicate member]
  rfl

/-- An accepted put asks for the size of its file. -/
theorem program_of_accepted {caller : Caller} (accepted : puts.Accepted caller) :
    ∃ next, puts.program caller = .call (.stat (puts.path caller)) next ∧
      ∀ sizeBytes, next (.ok sizeBytes) = putSized puts.bucket (puts.digest caller)
        (puts.path caller) (puts.contentType caller) sizeBytes := by
  unfold SpelledPuts.program put
  rw [if_neg (by simp [accepted.1]), if_neg (by simp [accepted.2])]
  exact ⟨_, rfl, fun _ => rfl⟩

/-- A put alone stores its content if there is no object under its key. -/
theorem run_alone [DecidableEq Caller] {caller : Caller} (accepted : puts.Accepted caller)
    {callers : Callers Caller PutCall PutCall.Answer (Except PyError String) Objects}
    (waiting : callers.program caller = puts.program caller)
    (free : callers.world (puts.key caller) = none) :
    callers.run PutTraffic.serve (puts.alone caller) =
      { world := Function.update callers.world (puts.key caller) (some (puts.content caller))
        program := Function.update callers.program caller (.done (.ok (puts.uri caller))) } := by
  let oracle : PutTraffic.Oracle := (fun _ => some (puts.content caller), none)
  have whole : uploadObject oracle.1 (puts.path caller) (puts.content caller).length =
      .ok (puts.content caller) := uploadObject_whole rfl
  -- The file has its size, there is no object, and the upload takes the whole file.
  have measured : PutTraffic.serve oracle (.stat (puts.path caller)) callers.world =
      (.ok (puts.content caller).length, callers.world) := rfl
  have absent : PutTraffic.serve oracle (.statSize (objectKey (puts.digest caller)))
      callers.world = (.ok none, callers.world) := by
    show ((.ok ((callers.world (puts.key caller)).map List.length) : Except PyError _), _) = _
    rw [free]
    rfl
  have uploaded : PutTraffic.serve oracle
      (.putFile (objectKey (puts.digest caller)) (puts.path caller) (puts.content caller).length
        (puts.contentType caller) [("sha256", lower (puts.digest caller))]) callers.world =
      (.ok (), Function.update callers.world (puts.key caller) (some (puts.content caller))) := by
    show (Except.map _ (uploadObject ..), afterUpload none _ (uploadObject ..) _) = _
    rw [whole]
    rfl
  obtain ⟨next, asks, sized⟩ := program_of_accepted accepted
  have advanced : (puts.program caller).advance (PutTraffic.serve oracle) 3 callers.world =
      (.done (.ok (puts.uri caller)),
        Function.update callers.world (puts.key caller) (some (puts.content caller))) := by
    rw [asks, Program.advance_call measured, sized, putSized, Program.advance_call absent]
    show (putMissing ..).advance _ _ _ = _
    rw [putMissing, Program.advance_call uploaded]
    rfl
  unfold alone
  rw [Callers.run_replicate, waiting, advanced]

/-- Two puts one after the other that spell one digest differently break the one key. -/
theorem spelledAlike_of_oneKey [DecidableEq Caller]
    (oneKey : ∀ schedule, (∀ turn ∈ schedule, puts.Stable turn) →
      puts.OneKey (fun _ => none) (puts.run (fun _ => none) schedule)) :
    puts.SpelledAlike := by
  intro caller caller' accepted accepted' same
  by_cases alike : puts.key caller = puts.key caller'
  · exact ((objectKey_eq_iff accepted.2 accepted'.2).1 alike).1
  have distinct : caller' ≠ caller := fun equal => alike (by rw [equal])
  have after := oneKey (puts.alone caller ++ puts.alone caller') fun turn member => by
    rcases List.mem_append.1 member with first | second
    · exact stable_alone first
    · exact stable_alone second
  have ran : puts.run (fun _ => none) (puts.alone caller ++ puts.alone caller') =
      { world := Function.update (Function.update (fun _ => none) (puts.key caller)
          (some (puts.content caller))) (puts.key caller') (some (puts.content caller'))
        program := Function.update (Function.update puts.program caller
          (.done (.ok (puts.uri caller)))) caller' (.done (.ok (puts.uri caller'))) } := by
    have waiting : (puts.start fun _ => none).program caller = puts.program caller := by
      rw [start_program]
    rw [SpelledPuts.run, Callers.run_append, run_alone accepted waiting rfl, start_program]
    rw [run_alone accepted']
    · rw [start]
    · dsimp only
      rw [Function.update_of_ne distinct]
    · dsimp only
      rw [Function.update_of_ne (Ne.symm alike), start]
  rw [ran] at after
  have returned : Function.update (Function.update puts.program caller
      (.done (.ok (puts.uri caller)))) caller' (.done (.ok (puts.uri caller'))) caller =
        .done (.ok (puts.uri caller)) := by
    rw [Function.update_of_ne (Ne.symm distinct), Function.update_self]
  have uris := after.uris caller caller' (puts.uri caller) (puts.uri caller')
    (by dsimp only; rw [returned]; rfl) (by dsimp only; rw [Function.update_self]; rfl) same
  exact absurd (objectUri_inj uris) alike

end SpelledPuts

/-- **When a content has one key.**  Two accepted spellings have one key exactly if they are
one digest whenever they are, which is so if they also spell its first two digits alike; and
puts store no content under two keys, from any object store and in any order, exactly if
those of one digest do. -/
theorem canonical_address (digest digest' : String) {Caller : Type} [DecidableEq Caller]
    (puts : SpelledPuts Caller) :
    (isSha256 digest = true → isSha256 digest' = true →
      ((objectKey digest = objectKey digest' ↔ lower digest = lower digest') ↔
        (lower digest = lower digest' → digest.toList.take 2 = digest'.toList.take 2))) ∧
      ((∀ objects schedule, (∀ turn ∈ schedule, puts.Stable turn) →
        puts.OneKey objects (puts.run objects schedule)) ↔ puts.SpelledAlike) := by
  refine ⟨fun shape shape' => ?_, fun oneKey => ?_, ?_⟩
  · rw [objectKey_eq_iff shape shape']
    exact ⟨fun canonical same => (canonical.2 same).1,
      fun alike => ⟨And.right, fun same => ⟨alike same, same⟩⟩⟩
  · exact SpelledPuts.spelledAlike_of_oneKey fun schedule stable => oneKey _ schedule stable
  · exact fun alike objects schedule stable => (SpelledPuts.Sound.run objects stable).oneKey alike

/-- A digest whose first two digits are letters. -/
def letteredDigest : String := "ab" ++ String.ofList (List.replicate 62 '0')

/-- The digest with its first digit in upper case. -/
def capitalDigest : String := "Ab" ++ String.ofList (List.replicate 62 '0')

/-- Two puts of one content, one with each spelling. -/
def spelledTwice : SpelledPuts Bool where
  sha256 _ := letteredDigest
  bucket := "bid"
  path _ := "/tmp/a"
  contentType _ := "application/pdf"
  content _ := [37, 80, 68, 70]
  digest capital := if capital then capitalDigest else letteredDigest
  spelled := by decide

/-- The content is stored twice. -/
theorem two_keys_of_spelledTwice :
    isSha256 letteredDigest = true ∧ isSha256 capitalDigest = true ∧
      lower letteredDigest = lower capitalDigest ∧
      objectKey letteredDigest ≠ objectKey capitalDigest ∧
      let objects := (spelledTwice.run (fun _ => none)
        (spelledTwice.alone false ++ spelledTwice.alone true)).world
      objects (objectKey letteredDigest) = some [37, 80, 68, 70] ∧
        objects (objectKey capitalDigest) = some [37, 80, 68, 70] := by
  decide

end BidSystem.Documents
