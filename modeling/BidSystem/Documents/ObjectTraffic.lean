import BidSystem.Documents.ObjectStore

/-!
# Concurrent puts

Any number of `put` calls over one object store that starts empty.  The calls
of different puts interleave in any order, every call may fail, and a failing
upload may have stored its object or not.  Every put is given the digest of
its file, and its file keeps its bytes while it runs.

* `PutTraffic` — the puts; `PutTraffic.run` serves their calls in the order of
  a schedule.
* `Phase` — where a put can be, and what it knows of the object store there.
* `Sound` — the invariant: every object is the content of some put, under the
  address of that content.
* `Sound.step` — every served call keeps it, and keeps every object.
-/

namespace BidSystem.Documents

open Interaction ContentAddressed

/-- Puts of files, each with the digest of its content. -/
structure PutTraffic (Caller : Type) where
  sha256 : Bytes → String
  bucket : String
  path : Caller → String
  contentType : Caller → String
  content : Caller → Bytes

namespace PutTraffic

variable {Caller : Type} (traffic : PutTraffic Caller)

/-- The digest a put is given. -/
def digest (caller : Caller) : String := traffic.sha256 (traffic.content caller)

/-- The key of a put. -/
def key (caller : Caller) : String := objectKey (traffic.digest caller)

/-- The URI of a put. -/
def uri (caller : Caller) : String := objectUri traffic.bucket (traffic.key caller)

/-- The puts over an empty object store. -/
def start : Callers Caller PutCall PutCall.Answer (Except PyError String) Objects where
  world := fun _ => none
  program caller :=
    put traffic.bucket (traffic.digest caller) (traffic.path caller) (traffic.contentType caller)

/-- What the world decides at a call: the local files then, and a failure. -/
abbrev Oracle := LocalFiles × Option Fault

/-- Serve a call of a put. -/
def serve (oracle : Oracle) (request : PutCall) (objects : Objects) : request.Answer × Objects :=
  servePut oracle.1 oracle.2 request objects

/-- The puts after a schedule. -/
def run [DecidableEq Caller] (schedule : List (Caller × Oracle)) :
    Callers Caller PutCall PutCall.Answer (Except PyError String) Objects :=
  traffic.start.run serve schedule

/-- The file of a put has its bytes whenever the put is served. -/
def Stable (turn : Caller × Oracle) : Prop :=
  turn.2.1 (traffic.path turn.1) = some (traffic.content turn.1)

instance (turn : Caller × Oracle) : Decidable (traffic.Stable turn) :=
  inferInstanceAs (Decidable (_ = _))

/-! ## The invariant -/

/-- Where a put can be. -/
inductive Phase (caller : Caller) (objects : Objects) :
    Program PutCall PutCall.Answer (Except PyError String) → Prop
  | starting : Phase caller objects (put traffic.bucket (traffic.digest caller)
      (traffic.path caller) (traffic.contentType caller))
  | sized : Phase caller objects (putSized traffic.bucket (traffic.digest caller)
      (traffic.path caller) (traffic.contentType caller) (traffic.content caller).length)
  | missing : Phase caller objects (putMissing traffic.bucket (traffic.digest caller)
      (traffic.path caller) (traffic.contentType caller) (traffic.content caller).length)
  | failed (error : PyError) : Phase caller objects (.done (.error error))
  | returned (stored : objects (traffic.key caller) = some (traffic.content caller)) :
      Phase caller objects (.done (.ok (traffic.uri caller)))

/-- Every object that was there is still there. -/
def Keeps (objects objects' : Objects) : Prop :=
  ∀ key object, objects key = some object → objects' key = some object

/-- The invariant of the puts. -/
structure Sound (callers : Callers Caller PutCall PutCall.Answer (Except PyError String) Objects) :
    Prop where
  genuine : ∀ key object, callers.world key = some object →
    ∃ caller, key = traffic.key caller ∧ object = traffic.content caller
  phase : ∀ caller, traffic.Phase caller callers.world (callers.program caller)

variable {traffic}

theorem Phase.mono {caller : Caller} {objects objects' : Objects}
    {program : Program PutCall PutCall.Answer (Except PyError String)}
    (phase : traffic.Phase caller objects program) (keeps : Keeps objects objects') :
    traffic.Phase caller objects' program := by
  cases phase with
  | starting => exact .starting
  | sized => exact .sized
  | missing => exact .missing
  | failed error => exact .failed error
  | returned stored => exact .returned (keeps _ _ stored)

theorem start_program (caller : Caller) :
    traffic.start.program caller = put traffic.bucket (traffic.digest caller)
      (traffic.path caller) (traffic.contentType caller) := by
  rw [start]

theorem sound_start : traffic.Sound traffic.start where
  genuine key object stored := by cases stored
  phase caller := by
    rw [start_program]
    exact .starting

section Steps

variable (digests : ∀ content, LowerDigest (traffic.sha256 content))
  (collisionFree : Set.InjOn traffic.sha256 (Set.range traffic.content))

include digests collisionFree

/-- Puts with one key have one content. -/
theorem content_eq_of_key {caller caller' : Caller}
    (same : traffic.key caller = traffic.key caller') :
    traffic.content caller = traffic.content caller' :=
  collisionFree ⟨caller, rfl⟩ ⟨caller', rfl⟩ (objectKey_inj (digests _) (digests _) same)

variable {callers : Callers Caller PutCall PutCall.Answer (Except PyError String) Objects}
  (sound : traffic.Sound callers)

include sound

/-- What is stored under the key of a put is its content. -/
theorem Sound.stored_eq {caller : Caller} {object : Bytes}
    (stored : callers.world (traffic.key caller) = some object) :
    object = traffic.content caller := by
  obtain ⟨other, sameKey, isContent⟩ := sound.genuine _ _ stored
  rw [isContent]
  exact (content_eq_of_key digests collisionFree sameKey).symm

/-- Storing the content of a put keeps every object. -/
theorem Sound.keeps_update (caller : Caller) :
    Keeps callers.world (Function.update callers.world (traffic.key caller)
      (some (traffic.content caller))) := by
  intro key object stored
  by_cases here : key = traffic.key caller
  · subst here
    rw [Function.update_self, sound.stored_eq digests collisionFree stored]
  · rw [Function.update_of_ne here]
    exact stored

/-- What the next call of a put does: nothing but storing its content, and the
put is in a phase again. -/
theorem Sound.served {caller : Caller} {oracle : Oracle}
    (stable : traffic.Stable (caller, oracle)) {request : PutCall}
    {next : request.Answer → Program PutCall PutCall.Answer (Except PyError String)}
    (pending : callers.program caller = .call request next) :
    let served := serve oracle request callers.world
    (served.2 = callers.world ∨ served.2 = Function.update callers.world (traffic.key caller)
        (some (traffic.content caller))) ∧
      traffic.Phase caller served.2 (next served.1) := by
  have phase := sound.phase caller
  rw [pending] at phase
  generalize isProgram : Program.call request next = program at phase
  cases phase with
  | starting =>
      unfold put at isProgram
      split_ifs at isProgram
      cases isProgram
      refine ⟨.inl rfl, ?_⟩
      dsimp only [serve, servePut]
      split
      · exact .failed _
      · next sizeBytes sized =>
          have answered := Fault.answer_eq_ok sized
          rw [statFile_of_stored stable] at answered
          rw [← Except.ok.inj answered]
          exact .sized
  | sized =>
      cases isProgram
      refine ⟨.inl rfl, ?_⟩
      dsimp only [serve, servePut]
      split
      · exact .failed _
      · next existingSize found =>
          have existing := Except.ok.inj (Fault.answer_eq_ok found)
          obtain ⟨object, stored, size⟩ := Option.map_eq_some_iff.mp existing
          have isContent := sound.stored_eq digests collisionFree stored
          rw [if_neg (by rw [← size, isContent]; exact not_not.mpr rfl)]
          rw [isContent] at stored
          exact .returned stored
      · exact .missing
  | missing =>
      cases isProgram
      have effect := afterUpload_cases stable oracle.2 (traffic.key caller) callers.world
      dsimp only [serve, servePut] at effect ⊢
      rcases effect with uploaded | ⟨kept, error, raised⟩
      · refine ⟨.inr uploaded, ?_⟩
        split
        · exact .failed _
        · refine .returned ?_
          rw [show objectKey (traffic.digest caller) = traffic.key caller from rfl, uploaded,
            Function.update_self]
      · refine ⟨.inl kept, ?_⟩
        rw [raised]
        exact .failed _
  | failed error => cases isProgram
  | returned stored => cases isProgram

/-- **Every served call keeps the invariant and every object.** -/
theorem Sound.step [DecidableEq Caller] {caller : Caller} {oracle : Oracle}
    (stable : traffic.Stable (caller, oracle)) {request : PutCall}
    {next : request.Answer → Program PutCall PutCall.Answer (Except PyError String)}
    (pending : callers.program caller = .call request next) :
    let served := serve oracle request callers.world
    traffic.Sound {
        world := served.2
        program := Function.update callers.program caller (next served.1) } ∧
      Keeps callers.world served.2 := by
  obtain ⟨change, phase⟩ := sound.served digests collisionFree stable pending
  intro served
  have keeps : Keeps callers.world served.2 := by
    rcases change with same | stored
    · rw [same]
      exact fun _ _ => id
    · rw [stored]
      exact sound.keeps_update digests collisionFree caller
  refine ⟨⟨fun key object present => ?_, fun other => ?_⟩, keeps⟩
  · rcases change with same | stored
    · exact sound.genuine key object (by rw [← same]; exact present)
    · have present' : served.2 key = some object := present
      rw [stored] at present'
      by_cases here : key = traffic.key caller
      · rw [here, Function.update_self] at present'
        exact ⟨caller, here, (Option.some.inj present').symm⟩
      · rw [Function.update_of_ne here] at present'
        exact sound.genuine key object present'
  · show traffic.Phase other served.2 (Function.update callers.program caller (next served.1) other)
    by_cases same : other = caller
    · subst same
      rw [Function.update_self]
      exact phase
    · rw [Function.update_of_ne same]
      exact (sound.phase other).mono keeps

end Steps

/-! ## Runs -/

/-- What a put that returned says. -/
theorem Sound.of_returned
    {callers : Callers Caller PutCall PutCall.Answer (Except PyError String) Objects}
    (sound : traffic.Sound callers) {caller : Caller} {url : String}
    (returned : (callers.program caller).result? = some (.ok url)) :
    url = traffic.uri caller ∧
      callers.world (traffic.key caller) = some (traffic.content caller) := by
  have phase := sound.phase caller
  generalize callers.program caller = program at returned phase
  cases phase with
  | starting =>
      unfold put at returned
      split_ifs at returned <;> cases returned
  | sized => cases returned
  | missing => cases returned
  | failed error => cases returned
  | returned stored =>
      cases returned
      exact ⟨rfl, stored⟩

section Runs

variable [DecidableEq Caller] (digests : ∀ content, LowerDigest (traffic.sha256 content))
  (collisionFree : Set.InjOn traffic.sha256 (Set.range traffic.content))

include digests collisionFree

/-- **The invariant holds after every schedule**, and no object is lost. -/
theorem Sound.run
    {callers : Callers Caller PutCall PutCall.Answer (Except PyError String) Objects}
    (sound : traffic.Sound callers) {schedule : List (Caller × Oracle)}
    (stable : ∀ turn ∈ schedule, traffic.Stable turn) :
    traffic.Sound (callers.run serve schedule) ∧
      Keeps callers.world (callers.run serve schedule).world := by
  have kept : ∀ (later : Callers Caller PutCall PutCall.Answer (Except PyError String) Objects)
      (caller : Caller) (oracle : Oracle) (request : PutCall)
      (next : request.Answer → Program PutCall PutCall.Answer (Except PyError String)),
      (traffic.Sound later ∧ Keeps callers.world later.world) →
        traffic.Stable (caller, oracle) → later.program caller = .call request next →
          traffic.Sound {
              world := (serve oracle request later.world).2
              program := Function.update later.program caller
                (next (serve oracle request later.world).1) } ∧
            Keeps callers.world (serve oracle request later.world).2 := by
    rintro later caller oracle request next ⟨sound', keeps⟩ allowed pending
    obtain ⟨next', keepsNext⟩ := sound'.step digests collisionFree allowed pending
    exact ⟨next', fun key object present => keepsNext _ _ (keeps _ _ present)⟩
  exact Callers.run_induction kept stable ⟨sound, fun _ _ => id⟩

omit [DecidableEq Caller] in
/-- A put that asks for the size of an object returns if there is one. -/
theorem Sound.of_statSize
    {callers : Callers Caller PutCall PutCall.Answer (Except PyError String) Objects}
    (sound : traffic.Sound callers) {caller : Caller} {key : String}
    {next : PutCall.Answer (.statSize key) →
      Program PutCall PutCall.Answer (Except PyError String)}
    (pending : callers.program caller = .call (.statSize key) next) {object : Bytes}
    (stored : callers.world key = some object) :
    next (.ok (some object.length)) = .done (.ok (traffic.uri caller)) := by
  have phase := sound.phase caller
  rw [pending] at phase
  generalize isProgram : Program.call (PutCall.statSize key) next = program at phase
  cases phase with
  | starting =>
      unfold put at isProgram
      split_ifs at isProgram
      cases isProgram
  | sized =>
      cases isProgram
      have isContent := sound.stored_eq digests collisionFree stored
      show (if object.length ≠ (traffic.content caller).length then _ else _) = _
      rw [isContent, if_neg (not_not.mpr rfl)]
      rfl
  | missing => cases isProgram
  | failed error => cases isProgram
  | returned stored => cases isProgram

end Runs

/-- **An immutable content-addressed map.**  After every schedule of puts into
an empty store: a returned URI names an object with the bytes of its put; no
object ever changes; puts of equal bytes have returned one URI and puts of
different bytes different ones; equal objects have one key; and a put that asks
for a size and finds an object returns, so that the integrity failure cannot
happen. -/
theorem immutable_map [DecidableEq Caller] (traffic : PutTraffic Caller)
    (digests : ∀ content, LowerDigest (traffic.sha256 content))
    (collisionFree : Set.InjOn traffic.sha256 (Set.range traffic.content))
    (first second : List (Caller × Oracle))
    (stable : ∀ turn ∈ first ++ second, traffic.Stable turn) :
    let callers := traffic.run first
    (∀ caller url, (callers.program caller).result? = some (.ok url) →
        ∃ key, url = objectUri traffic.bucket key ∧
          callers.world key = some (traffic.content caller)) ∧
      (∀ key object, callers.world key = some object →
        (traffic.run (first ++ second)).world key = some object) ∧
      (∀ caller caller' url url', (callers.program caller).result? = some (.ok url) →
        (callers.program caller').result? = some (.ok url') →
          (url = url' ↔ traffic.content caller = traffic.content caller')) ∧
      (∀ key key' object, callers.world key = some object → callers.world key' = some object →
        key = key') ∧
      (∀ caller key next object, callers.program caller = .call (.statSize key) next →
        callers.world key = some object →
          next (.ok (some object.length)) = .done (.ok (traffic.uri caller))) := by
  intro callers
  have stableFirst : ∀ turn ∈ first, traffic.Stable turn :=
    fun turn member => stable turn (List.mem_append_left _ member)
  have stableSecond : ∀ turn ∈ second, traffic.Stable turn :=
    fun turn member => stable turn (List.mem_append_right _ member)
  have sound : traffic.Sound callers := (sound_start.run digests collisionFree stableFirst).1
  refine ⟨fun caller url returned => ?_, ?_, fun caller caller' url url' returned returned' => ?_,
    fun key key' object stored stored' => ?_, fun caller key next object pending stored =>
      sound.of_statSize digests collisionFree pending stored⟩
  · obtain ⟨isUri, stored⟩ := sound.of_returned returned
    exact ⟨_, isUri, stored⟩
  · have keeps := (sound.run digests collisionFree stableSecond).2
    rw [PutTraffic.run, Callers.run_append]
    exact keeps
  · obtain ⟨rfl, -⟩ := sound.of_returned returned
    obtain ⟨rfl, -⟩ := sound.of_returned returned'
    constructor
    · exact fun same => content_eq_of_key digests collisionFree (objectUri_inj same)
    · intro same
      rw [uri, uri, key, key, digest, digest, same]
  · obtain ⟨caller, rfl, isContent⟩ := sound.genuine _ _ stored
    obtain ⟨caller', rfl, isContent'⟩ := sound.genuine _ _ stored'
    rw [key, key, digest, digest, ← isContent, ← isContent']

/-- Three puts, two of them of the same bytes. -/
def samplePuts : PutTraffic (Fin 3) where
  sha256 := sampleSha256
  bucket := "bid"
  path caller := if caller = 2 then "/tmp/b" else "/tmp/a"
  contentType _ := "application/pdf"
  content caller := if caller = 2 then pdfBytes 50 else pdfBytes 49

/-- The two puts of the same bytes both find no object.  The first one's upload
fails after it has stored its object, and the second one uploads it again. -/
def samplePutSchedule : List (Fin 3 × Oracle) :=
  let files : LocalFiles := fun path => some (if path = "/tmp/b" then pdfBytes 50 else pdfBytes 49)
  let fault : Fault := { error := .httpError, late := true }
  [(0, files, none), (1, files, none), (0, files, none), (1, files, none), (2, files, none),
    (0, files, some fault), (2, files, none), (1, files, none), (2, files, none)]

/-- The second put's URI names its bytes, and the third put's URI is another one. -/
theorem immutable_map_samplePuts :
    ∃ url url' key,
      ((samplePuts.run samplePutSchedule).program 1).result? = some (.ok url) ∧
        ((samplePuts.run samplePutSchedule).program 2).result? = some (.ok url') ∧
          url ≠ url' ∧ url = objectUri "bid" key ∧
            (samplePuts.run samplePutSchedule).world key = some (pdfBytes 49) := by
  have distinct : pdfBytes 49 ≠ pdfBytes 50 := by decide
  have collisionFree : Set.InjOn samplePuts.sha256 (Set.range samplePuts.content) := by
    have only : Set.range samplePuts.content ⊆ {pdfBytes 49, pdfBytes 50} := by
      rintro content ⟨caller, rfl⟩
      unfold samplePuts
      dsimp only
      split_ifs
      · exact Set.mem_insert_of_mem _ rfl
      · exact Set.mem_insert _ _
    refine Set.InjOn.mono only (Set.injOn_pair.mpr fun same => ?_)
    exact absurd same (by decide +kernel)
  have stable : ∀ turn ∈ samplePutSchedule ++ [], samplePuts.Stable turn := by
    decide +kernel
  obtain ⟨named, -, uris, -, -⟩ := immutable_map samplePuts lowerDigest_sampleSha256 collisionFree
    samplePutSchedule [] stable
  have returned : ((samplePuts.run samplePutSchedule).program 1).result? =
      some (.ok (samplePuts.uri 1)) := by decide +kernel
  have returned' : ((samplePuts.run samplePutSchedule).program 2).result? =
      some (.ok (samplePuts.uri 2)) := by decide +kernel
  obtain ⟨key, isUri, stored⟩ := named 1 _ returned
  refine ⟨_, _, key, returned, returned', fun same => ?_, isUri, stored⟩
  exact distinct ((uris 1 2 _ _ returned returned').mp same)

end PutTraffic

end BidSystem.Documents
