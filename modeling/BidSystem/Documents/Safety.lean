import BidSystem.Documents.FileProcessing
import BidSystem.Framing.LengthPrefixed
import BidSystem.Interaction.Action
import BidSystem.Shared.Float
import Mathlib.Data.List.DropRight

/-!
# The malware scan

`ClamAvScanner.ensure_clean`: a file is sent to clamd as a length-prefixed stream behind
the `INSTREAM` command, and clamd answers with a line that ends in a NUL.

Every call may fail, and a timeout is the failure of the call that is awaited then:
`ScanWorld.faults` is the pattern of failures, one entry for each call in order.  What
clamd answers is any bytes.

* `Sends` — what a part of the conversation writes, all of it if it returns.
* `sends_sendChunks` — the loop writes the frames of the file's chunks.
* `instream_law` — clamd is sent exactly the file, and a scan that passes has sent all of
  it and was told that it is clean.
-/

namespace BidSystem.Documents

open Interaction Framing

/-! ## The connection -/

/-- `CLAMAV_INSTREAM_COMMAND`. -/
def clamavInstreamCommand : Bytes := "zINSTREAM\x00".toUTF8.toList

/-- `CLAMAV_STREAM_END`. -/
def clamavStreamEnd : Bytes := terminator 4

/-- `CLAMAV_RESPONSE_TERMINATOR`. -/
def clamavResponseTerminator : UInt8 := 0

/-- `CLAMAV_OK_SUFFIX`. -/
def clamavOkSuffix : Bytes := ": OK".toUTF8.toList

/-- `CLAMAV_FOUND_SUFFIX`. -/
def clamavFoundSuffix : Bytes := " FOUND".toUTF8.toList

/-- `CLAMAV_ERROR_SUFFIX`. -/
def clamavErrorSuffix : Bytes := " ERROR".toUTF8.toList

/-- What a scan raises. -/
inductive ScanError where
  /-- `TimeoutError`, an `OSError`. -/
  | timeoutError
  /-- asyncio's `IncompleteReadError`. -/
  | incompleteReadError
  /-- asyncio's `LimitOverrunError`. -/
  | limitOverrunError
  /-- `struct.error`. -/
  | structError
  /-- Any other exception. -/
  | other (error : PyError)
deriving DecidableEq, Repr

/-- `isinstance(error, OSError)`. -/
def ScanError.isOsError : ScanError → Bool
  | .timeoutError | .other .osError => true
  | _ => false

/-- The `except` clause of `ensure_clean` catches it. -/
def ScanError.isCaught : ScanError → Bool
  | .incompleteReadError | .limitOverrunError => true
  | error => error.isOsError

/-- The file, the connection, and the failures to come. -/
structure ScanWorld where
  /-- The content of the file, if it can be opened. -/
  content : Option Bytes
  /-- What the open file has yet to give. -/
  unread : Bytes
  /-- `writer is not None`. -/
  connected : Bool
  /-- What has been written to the connection. -/
  written : Bytes
  /-- What clamd answers. -/
  incoming : Bytes
  faults : List (Option ScanError)
deriving DecidableEq, Repr

/-- Code of a scan. -/
abbrev Scan := Action ScanWorld ScanError

/-- A call of the connection or the file: it fails, or does its work. -/
def scanCall {A : Type} (work : Scan A) : Scan A := fun world =>
  let world' := { world with faults := world.faults.tail }
  match world.faults.head?.join with
  | some error => (.error error, world')
  | none => work world'

/-- `asyncio.open_connection`. -/
def openConnection : Scan Unit := scanCall fun world => (.ok (), { world with connected := true })

/-- `writer.write`. -/
def write (data : Bytes) : Scan Unit :=
  scanCall fun world => (.ok (), { world with written := world.written ++ data })

/-- `writer.drain`. -/
def drain : Scan Unit := scanCall (pure ())

/-- `path.open("rb")`. -/
def openFile : Scan Unit := scanCall fun world =>
  match world.content with
  | none => (.error (.other .osError), world)
  | some content => (.ok (), { world with unread := content })

/-- `stream.read`. -/
def read (size : ℕ) : Scan Bytes := scanCall fun world =>
  (.ok (world.unread.take size), { world with unread := world.unread.drop size })

/-- The `limit` of a `StreamReader`. -/
def streamLimit : ℕ := 2 ^ 16

/-- `StreamReader.readuntil` on what arrives before the end of the connection. -/
def readUntil (separator : UInt8) (incoming : Bytes) : Except ScanError Bytes :=
  match incoming.findIdx? (· == separator) with
  | some index =>
      if streamLimit < index then .error .limitOverrunError else .ok (incoming.take (index + 1))
  | none =>
      if streamLimit < incoming.length then .error .limitOverrunError
      else .error .incompleteReadError

/-- `reader.readuntil`. -/
def readuntil (separator : UInt8) : Scan Bytes :=
  scanCall fun world => (readUntil separator world.incoming, world)

/-- `struct.pack("!I", value)`. -/
def structPack (value : ℕ) : Scan Bytes :=
  if value < 2 ^ 32 then pure (bigEndian 4 value) else .raise .structError

/-! ## The scanner -/

/-- `ClamAvScanner`, with the checks of its constructor. -/
structure ClamAvScanner where
  host : String
  port : ℤ
  timeoutSeconds : PyFloat
  chunkBytes : ℕ
  connectable : ¬(blank host = true ∨ ¬(1 ≤ port ∧ port ≤ 65535) ∨ timeoutSeconds ≤ 0)
  admitted : 1 ≤ chunkBytes ∧ chunkBytes ≤ uploadReadChunkBytes

/-- The body of the loop of `ensure_clean`. -/
def sendChunk (chunk : Bytes) : Scan Unit := do
  let size ← structPack chunk.length
  write size
  write chunk
  drain

/-- The loop of `ensure_clean`, with fuel for the reads. -/
def sendChunks (chunkBytes : ℕ) : ℕ → Scan Unit
  | 0 => pure ()
  | fuel + 1 => do
      let chunk ← read chunkBytes
      if chunk = [] then return ()
      else do
        sendChunk chunk
        sendChunks chunkBytes fuel

/-- The loop on an open file, which has fewer chunks than bytes. -/
def sendFile (chunkBytes : ℕ) : Scan Unit := fun world =>
  sendChunks chunkBytes (world.unread.length + 1) world

/-- The `try` block up to the answer. -/
def sendStream (chunkBytes : ℕ) : Scan Unit := do
  openConnection
  write clamavInstreamCommand
  openFile
  sendFile chunkBytes
  write clamavStreamEnd
  drain

/-- The message of the `except` clause. -/
def scanUnavailable : PyError := .externalServiceError "文件安全扫描服务暂时不可用"

/-- `MalwareDetectedError`. -/
def malwareDetectedError : PyError := .bidSystemError .malwareDetected "文件未通过安全扫描"

/-- `interpret_response`. -/
def interpretResponse (response : Bytes) : Except PyError Unit :=
  let normalized := response.rdropWhile (· == clamavResponseTerminator)
  if clamavOkSuffix.isSuffixOf normalized then .ok ()
  else if clamavFoundSuffix.isSuffixOf normalized then .error malwareDetectedError
  else if clamavErrorSuffix.isSuffixOf normalized then .error scanUnavailable
  else .error (.externalServiceError "文件安全扫描服务返回异常")

/-- The `finally` clause: close the connection, if there is one. -/
def closeConnection : Scan Unit := fun world =>
  if world.connected then
    (do
      scanCall (pure ())
      Action.tryCatch (scanCall (pure ())) fun error =>
        if error.isOsError then pure () else .raise error : Scan Unit) world
  else (.ok (), world)

/-- The `try` block with its `except` clause. -/
def converse (chunkBytes : ℕ) : Scan Bytes :=
  Action.tryCatch
    (do
      sendStream chunkBytes
      readuntil clamavResponseTerminator)
    fun error => if error.isCaught then .raise (.other scanUnavailable) else .raise error

/-- `ClamAvScanner.ensure_clean`. -/
def ClamAvScanner.ensureClean (scanner : ClamAvScanner) : Scan Unit := do
  let response ← (converse scanner.chunkBytes).tryFinally closeConnection
  Action.ofExcept ((interpretResponse response).mapError .other)

/-! ## What is written -/

/-- No call fails, and the file can be opened. -/
def ScanWorld.Quiet (world : ScanWorld) : Prop :=
  (∀ fault ∈ world.faults, fault = none) ∧ world.content.isSome = true

/-- From `world` on, a part of the conversation writes these bytes: what it has written is
a beginning of them, and all of them if it returns, as it does when no call fails. -/
structure Sends {A : Type} (world : ScanWorld) (bytes : Bytes)
    (ran : Except ScanError A × ScanWorld) : Prop where
  begun : ran.2.written <+: world.written ++ bytes
  whole : ∀ result, ran.1 = .ok result → ran.2.written = world.written ++ bytes
  incoming : ran.2.incoming = world.incoming
  content : ran.2.content = world.content
  quiet : world.Quiet → (∃ result, ran.1 = .ok result) ∧ ran.2.Quiet

section Sending

variable {A B : Type} {world world' : ScanWorld} {bytes more : Bytes}

theorem ScanWorld.Quiet.tail (quiet : world.Quiet) :
    ScanWorld.Quiet { world with faults := world.faults.tail } :=
  ⟨fun fault member => quiet.1 fault (List.mem_of_mem_tail member), quiet.2⟩

/-- A call that fails has done nothing else, and does not fail when no call does. -/
theorem scanCall_cases (work : Scan A) (world : ScanWorld) :
    (∃ error, scanCall work world = (.error error, { world with faults := world.faults.tail }) ∧
        ¬world.Quiet) ∨
      scanCall work world = work { world with faults := world.faults.tail } := by
  unfold scanCall
  dsimp only
  rcases faults : world.faults with _ | ⟨_ | error, faults'⟩
  · exact .inr rfl
  · exact .inr rfl
  · refine .inl ⟨error, rfl, fun quiet => ?_⟩
    have none := quiet.1 (some error) (by rw [faults]; exact List.mem_cons_self)
    cases none

/-- A call sends what its work sends. -/
theorem Sends.scanCall {work : Scan A}
    (sends : Sends { world with faults := world.faults.tail } bytes
      (work { world with faults := world.faults.tail })) :
    Sends world bytes (Documents.scanCall work world) := by
  rcases scanCall_cases work world with ⟨error, failed, loud⟩ | worked
  · rw [failed]
    exact ⟨List.prefix_append _ _, nofun, rfl, rfl, fun quiet => absurd quiet loud⟩
  · rw [worked]
    exact ⟨sends.begun, sends.whole, sends.incoming, sends.content, fun quiet => sends.quiet quiet.tail⟩

/-- Returning sends nothing. -/
theorem sends_pure (result : A) (world : ScanWorld) :
    Sends world [] ((pure result : Scan A) world) where
  begun := List.prefix_append _ _
  whole _ _ := (List.append_nil _).symm
  incoming := rfl
  content := rfl
  quiet quiet := ⟨⟨result, rfl⟩, quiet⟩

/-- One part of the conversation after the other. -/
theorem Sends.bind {action : Scan A} {next : A → Scan B} (front : Sends world bytes (action world))
    (back : ∀ result later, action world = (.ok result, later) →
      Sends later more (next result later)) :
    Sends world (bytes ++ more) ((action >>= next) world) := by
  rcases ran : action world with ⟨error | result, later⟩
  · rw [Action.bind_of_error ran]
    rw [ran] at front
    refine ⟨?_, nofun, front.incoming, front.content, fun quiet => ?_⟩
    · rw [← List.append_assoc]
      exact front.begun.trans (List.prefix_append _ _)
    · obtain ⟨⟨_, returned⟩, -⟩ := front.quiet quiet
      cases returned
  · have rest := back result later ran
    rw [Action.bind_of_ok ran]
    rw [ran] at front
    have sent := front.whole result rfl
    obtain ⟨begun, whole, incoming, content, quietly⟩ := rest
    rw [sent, List.append_assoc] at begun
    refine ⟨begun, fun final returned => ?_, incoming.trans front.incoming,
      content.trans front.content, fun quiet => quietly (front.quiet quiet).2⟩
    rw [whole final returned, sent, List.append_assoc]

theorem sends_write (data : Bytes) (world : ScanWorld) : Sends world data (write data world) := by
  refine Sends.scanCall ⟨List.prefix_rfl, fun _ _ => rfl, rfl, rfl, fun quiet =>
    ⟨⟨(), rfl⟩, quiet⟩⟩

theorem sends_drain (world : ScanWorld) : Sends world [] (drain world) :=
  Sends.scanCall (sends_pure () _)

theorem sends_openConnection (world : ScanWorld) : Sends world [] (openConnection world) :=
  Sends.scanCall ⟨List.prefix_append _ _, fun _ _ => (List.append_nil _).symm, rfl, rfl,
    fun quiet => ⟨⟨(), rfl⟩, quiet⟩⟩

theorem sends_read (size : ℕ) (world : ScanWorld) : Sends world [] (read size world) :=
  Sends.scanCall ⟨List.prefix_append _ _, fun _ _ => (List.append_nil _).symm, rfl, rfl,
    fun quiet => ⟨⟨_, rfl⟩, quiet⟩⟩

theorem sends_openFile (world : ScanWorld) : Sends world [] (openFile world) := by
  refine Sends.scanCall ?_
  dsimp only
  cases content : world.content with
  | none =>
      exact ⟨List.prefix_append _ _, nofun, rfl, rfl, fun quiet => absurd quiet.2 Bool.false_ne_true⟩
  | some content =>
      exact ⟨List.prefix_append _ _, fun _ _ => (List.append_nil _).symm, rfl, rfl,
        fun quiet => ⟨⟨(), rfl⟩, quiet⟩⟩

/-- What a read that returned has taken from the file. -/
theorem of_read_ok {size : ℕ} {chunk : Bytes} (returned : read size world = (.ok chunk, world')) :
    chunk = world.unread.take size ∧ world'.unread = world.unread.drop size := by
  rcases scanCall_cases (fun world : ScanWorld => ((.ok (world.unread.take size) :
    Except ScanError Bytes), { world with unread := world.unread.drop size })) world with
    ⟨error, failed, -⟩ | worked
  · rw [read, failed] at returned
    cases returned
  · rw [read, worked] at returned
    cases returned
    exact ⟨rfl, rfl⟩

/-- An open file is at its beginning. -/
theorem of_openFile_ok (returned : openFile world = (.ok (), world')) :
    world.content = some world'.unread := by
  unfold openFile at returned
  rcases scanCall_cases (A := Unit) (fun world : ScanWorld => match world.content with
    | none => (.error (.other .osError), world)
    | some content => (.ok (), { world with unread := content })) world with
    ⟨error, failed, -⟩ | worked
  · rw [failed] at returned
    cases returned
  · rw [worked] at returned
    dsimp only at returned
    cases content : world.content with
    | none =>
        rw [content] at returned
        cases returned
    | some content' =>
        rw [content] at returned
        cases returned
        rfl

/-- What a call leaves alone if its work does, and its failures do. -/
theorem within_scanCall {α : Type} {part : ScanWorld → α} {work : Scan A}
    (failing : ∀ world faults, part { world with faults := faults } = part world)
    (working : ∀ world, part (work world).2 = part world) :
    Action.Within (fun world world' : ScanWorld => part world' = part world) (scanCall work) := by
  intro world
  rcases scanCall_cases work world with ⟨error, failed, -⟩ | worked
  · rw [failed]
    exact failing world _
  · rw [worked]
    exact (working _).trans (failing world _)

/-- Only the reads move on in the file. -/
theorem unread_sendChunk (chunk : Bytes) :
    Action.Within (fun world world' : ScanWorld => world'.unread = world.unread)
      (sendChunk chunk) := by
  have trans : ∀ first second third : ScanWorld, second.unread = first.unread →
      third.unread = second.unread → third.unread = first.unread :=
    fun _ _ _ front back => back.trans front
  refine .bind trans ?_ fun size => .bind trans (within_scanCall (fun _ _ => rfl) fun _ => rfl)
    fun _ => .bind trans (within_scanCall (fun _ _ => rfl) fun _ => rfl)
      fun _ => within_scanCall (fun _ _ => rfl) fun _ => rfl
  unfold structPack
  split_ifs <;> exact fun _ => rfl

/-! ## The loop -/

/-- A chunk of at most 1 MiB is sent as a frame. -/
theorem sends_sendChunk {chunk : Bytes} (short : chunk.length ≤ uploadReadChunkBytes)
    (world : ScanWorld) : Sends world (frame 4 chunk) (sendChunk chunk world) := by
  have fits : chunk.length < 2 ^ 32 := lt_of_le_of_lt short (by decide)
  have packed : structPack chunk.length = pure (bigEndian 4 chunk.length) := if_pos fits
  unfold sendChunk
  rw [packed]
  -- The two writes are the two halves of the frame.
  refine (sends_write (bigEndian 4 chunk.length) world).bind fun _ later _ => ?_
  have rest := (sends_write chunk later).bind fun _ last _ => sends_drain last
  rwa [List.append_nil] at rest

/-- The chunks in which a file is read, with fuel for the reads. -/
def chunksOf (chunkBytes : ℕ) : ℕ → Bytes → List Bytes
  | 0, _ => []
  | fuel + 1, unread =>
      if unread.take chunkBytes = [] then []
      else unread.take chunkBytes :: chunksOf chunkBytes fuel (unread.drop chunkBytes)

/-- The chunks of a file are the file. -/
theorem flatten_chunksOf {chunkBytes fuel : ℕ} {unread : Bytes} (positive : 1 ≤ chunkBytes)
    (enough : unread.length < fuel) : (chunksOf chunkBytes fuel unread).flatten = unread := by
  induction fuel generalizing unread with
  | zero => cases enough
  | succ fuel ih =>
      rw [chunksOf]
      split_ifs with atEnd
      · rcases List.take_eq_nil_iff.mp atEnd with zero | empty
        · omega
        · exact empty.symm
      · have shorter : (unread.drop chunkBytes).length < fuel := by
          have nonempty : unread ≠ [] := by
            rintro rfl
            exact atEnd List.take_nil
          have := List.length_pos_of_ne_nil nonempty
          rw [List.length_drop]
          omega
        rw [List.flatten_cons, ih shorter, List.take_append_drop]

/-- No chunk is empty or too long. -/
theorem mem_chunksOf {chunkBytes fuel : ℕ} {unread chunk : Bytes}
    (member : chunk ∈ chunksOf chunkBytes fuel unread) :
    chunk ≠ [] ∧ chunk.length ≤ chunkBytes := by
  induction fuel generalizing unread with
  | zero => cases member
  | succ fuel ih =>
      rw [chunksOf] at member
      split_ifs at member with atEnd
      · cases member
      · rcases List.mem_cons.mp member with rfl | later
        · exact ⟨atEnd, List.length_take_le _ _⟩
        · exact ih later

/-- **The loop sends the frames of the chunks.** -/
theorem sends_sendChunks {chunkBytes : ℕ} (admitted : chunkBytes ≤ uploadReadChunkBytes)
    (fuel : ℕ) (world : ScanWorld) :
    Sends world ((chunksOf chunkBytes fuel world.unread).flatMap (frame 4))
      (sendChunks chunkBytes fuel world) := by
  induction fuel generalizing world with
  | zero => exact sends_pure () world
  | succ fuel ih =>
      rw [sendChunks,
        ← List.nil_append ((chunksOf chunkBytes (fuel + 1) world.unread).flatMap (frame 4))]
      refine (sends_read chunkBytes world).bind (fun chunk later taken => ?_)
      obtain ⟨rfl, left⟩ := of_read_ok taken
      rw [chunksOf]
      split_ifs with atEnd
      · exact sends_pure () later
      · have short : (world.unread.take chunkBytes).length ≤ uploadReadChunkBytes :=
          (List.length_take_le _ _).trans admitted
        rw [List.flatMap_cons]
        refine (sends_sendChunk short later).bind fun _ last sent => ?_
        have kept := unread_sendChunk (world.unread.take chunkBytes) later
        rw [sent] at kept
        have rest := ih last
        rwa [show last.unread = world.unread.drop chunkBytes from kept.trans left] at rest

/-- The command, the file and the end of the stream. -/
theorem sends_sendStream {chunkBytes : ℕ} (admitted : chunkBytes ≤ uploadReadChunkBytes)
    {content : Bytes} (present : world.content = some content) :
    Sends world (clamavInstreamCommand ++
        stream 4 (chunksOf chunkBytes (content.length + 1) content))
      (sendStream chunkBytes world) := by
  rw [sendStream, ← List.nil_append (_ ++ _)]
  refine (sends_openConnection world).bind fun _ connected connecting => ?_
  have kept := (sends_openConnection world).content
  rw [connecting, present] at kept
  refine (sends_write _ connected).bind fun _ commanded commanding => ?_
  have kept' := (sends_write clamavInstreamCommand connected).content
  rw [commanding, kept] at kept'
  rw [stream, ← List.nil_append (_ ++ _)]
  refine (sends_openFile commanded).bind fun _ opened opening => ?_
  have atStart : opened.unread = content := by
    exact Option.some.inj ((of_openFile_ok opening).symm.trans kept')
  have loop := sends_sendChunks admitted (opened.unread.length + 1) opened
  rw [atStart] at loop
  have whole : sendFile chunkBytes opened = sendChunks chunkBytes (content.length + 1) opened := by
    rw [sendFile, atStart]
  rw [← whole] at loop
  refine loop.bind fun _ later _ => ?_
  have rest := (sends_write clamavStreamEnd later).bind fun _ last _ => sends_drain last
  rwa [List.append_nil] at rest

/-! ## The answer -/

/-- What `readuntil` returns: what comes before the first separator, and the separator. -/
theorem of_readUntil_ok {separator : UInt8} {incoming response : Bytes}
    (returned : readUntil separator incoming = .ok response) :
    ∃ reply, separator ∉ reply ∧ response = reply ++ [separator] ∧ response <+: incoming := by
  unfold readUntil at returned
  split at returned
  · next index found =>
      obtain ⟨short, isSeparator, before⟩ := List.findIdx?_eq_some_iff_getElem.mp found
      split_ifs at returned
      cases returned
      refine ⟨incoming.take index, fun member => ?_, ?_, List.take_prefix _ _⟩
      · obtain ⟨place, placed, same⟩ := List.mem_iff_getElem.mp member
        rw [List.length_take] at placed
        have other := before place (by omega)
        rw [List.getElem_take] at same
        simp [same] at other
      · rw [List.take_succ_eq_append_getElem short, beq_iff_eq.mp isSeparator]
  · split_ifs at returned

/-- A reply without NULs, as it stands before its terminator. -/
theorem rdropWhile_terminator {reply : Bytes} (plain : clamavResponseTerminator ∉ reply) :
    (reply ++ [clamavResponseTerminator]).rdropWhile (· == clamavResponseTerminator) = reply := by
  rw [List.rdropWhile_concat_pos (· == clamavResponseTerminator) reply _ (beq_self_eq_true _),
    List.rdropWhile_eq_self_iff]
  intro nonempty last
  have member := List.getLast_mem nonempty
  rw [beq_iff_eq.mp last] at member
  exact plain member

/-- An answer passes exactly if it ends in the suffix of a clean file. -/
theorem interpretResponse_ok_iff {response : Bytes} :
    interpretResponse response = .ok () ↔
      clamavOkSuffix <:+ response.rdropWhile (· == clamavResponseTerminator) := by
  unfold interpretResponse
  rw [← List.isSuffixOf_iff_suffix]
  dsimp only
  split_ifs with clean
  · exact ⟨fun _ => clean, fun _ => rfl⟩
  all_goals exact ⟨nofun, fun passed => absurd passed clean⟩

/-! ## The scan as a whole -/

/-- Closing the connection writes nothing. -/
theorem written_closeConnection :
    Action.Within (fun world world' : ScanWorld => world'.written = world.written)
      closeConnection := by
  have trans : ∀ first second third : ScanWorld, second.written = first.written →
      third.written = second.written → third.written = first.written :=
    fun _ _ _ front back => back.trans front
  have call : Action.Within (fun world world' : ScanWorld => world'.written = world.written)
      (scanCall (pure ())) := within_scanCall (fun _ _ => rfl) fun _ => rfl
  intro world
  unfold closeConnection
  split_ifs
  · refine Action.Within.bind trans call (fun _ => .tryCatch trans call fun error => ?_) world
    split_ifs <;> exact fun _ => rfl
  · rfl

/-- The conversation: what is sent, and where its answer comes from. -/
theorem converse_sends {chunkBytes : ℕ} {bytes : Bytes}
    (sends : Sends world bytes (sendStream chunkBytes world)) :
    let ran := converse chunkBytes world
    ran.2.written <+: world.written ++ bytes ∧
      (world.Quiet → ran.2.written = world.written ++ bytes) ∧
        ∀ response, ran.1 = .ok response → ran.2.written = world.written ++ bytes ∧
          readUntil clamavResponseTerminator world.incoming = .ok response := by
  have handled : ∀ error, Action.Within
      (fun world world' : ScanWorld => world'.written = world.written)
      (if error.isCaught then .raise (.other scanUnavailable) else .raise error : Scan Bytes) := by
    intro error
    split_ifs <;> exact fun _ => rfl
  have refused : ∀ (error : ScanError) (later : ScanWorld) (response : Bytes),
      ((if error.isCaught then .raise (.other scanUnavailable) else .raise error :
        Scan Bytes) later).1 ≠ .ok response := by
    intro error later response
    split_ifs <;> exact nofun
  intro ran
  rcases sent : sendStream chunkBytes world with ⟨error | ⟨⟩, asked⟩
  · -- The stream broke off: the handler writes nothing and returns nothing.
    rw [sent] at sends
    have outcome : ran = (if error.isCaught then .raise (.other scanUnavailable)
        else .raise error : Scan Bytes) asked :=
      Action.tryCatch_of_error (Action.bind_of_error sent)
    rw [outcome, handled error asked]
    refine ⟨sends.begun, fun quiet => ?_, fun response returned =>
      absurd returned (refused error asked response)⟩
    obtain ⟨⟨_, returned⟩, -⟩ := sends.quiet quiet
    cases returned
  · rw [sent] at sends
    have whole := sends.whole () rfl
    have reading : Action.Within (fun world world' : ScanWorld => world'.written = world.written)
        (readuntil clamavResponseTerminator) :=
      within_scanCall (fun _ _ => rfl) fun _ => rfl
    have silent : (readuntil clamavResponseTerminator asked).2.written = asked.written :=
      reading asked
    have step : ∀ outcome later, readuntil clamavResponseTerminator asked = (outcome, later) →
        (sendStream chunkBytes >>= fun _ => readuntil clamavResponseTerminator) world =
          (outcome, later) := fun _ _ read => (Action.bind_of_ok sent).trans read
    rcases read : readuntil clamavResponseTerminator asked with ⟨error | response, answered⟩
    · rw [read] at silent
      have outcome : ran = (if error.isCaught then .raise (.other scanUnavailable)
          else .raise error : Scan Bytes) answered :=
        Action.tryCatch_of_error (step _ _ read)
      rw [outcome, handled error answered, silent, whole]
      exact ⟨List.prefix_rfl, fun _ => rfl, fun response returned =>
        absurd returned (refused error answered response)⟩
    · rw [read] at silent
      have outcome : ran = (.ok response, answered) := Action.tryCatch_of_ok (step _ _ read)
      rw [outcome, silent, whole]
      refine ⟨List.prefix_rfl, fun _ => rfl, fun other same => ⟨rfl, ?_⟩⟩
      cases same
      rcases scanCall_cases (fun world : ScanWorld =>
          (readUntil clamavResponseTerminator world.incoming, world)) asked with
        ⟨error, failed, -⟩ | worked
      · rw [readuntil, failed] at read
        cases read
      · rw [readuntil, worked] at read
        rw [← sends.incoming]
        exact congrArg Prod.fst read

end Sending

/-- A file to be scanned over a new connection. -/
def ScanWorld.start (content incoming : Bytes) (faults : List (Option ScanError)) : ScanWorld where
  content := some content
  unread := []
  connected := false
  written := []
  incoming := incoming
  faults := faults

/-- **The scan sends exactly the file.**  The stream of a file is the frames of its chunks
and one terminator; no frame is empty or longer than its length can say, and the stream is
read back as the chunks, which make up the file, with nothing left over.  Whatever clamd
answers, this stream is what it is sent if no call fails, and otherwise a beginning of it,
which is no stream.  A scan passes only if clamd was sent all of it and answered with a
line that ends in the suffix of a clean file. -/
theorem ClamAvScanner.instream_law (scanner : ClamAvScanner) (content incoming : Bytes)
    (faults : List (Option ScanError)) :
    let ran := scanner.ensureClean (.start content incoming faults)
    let payloads := chunksOf scanner.chunkBytes (content.length + 1) content
    payloads.flatten = content ∧
      (∀ payload ∈ payloads, payload ≠ [] ∧ payload.length ≤ scanner.chunkBytes ∧
        payload.length < 2 ^ 32) ∧
      decode 4 (stream 4 payloads) = some (payloads, []) ∧
      ran.2.written <+: clamavInstreamCommand ++ stream 4 payloads ∧
      (∀ sent, ran.2.written = clamavInstreamCommand ++ sent → sent ≠ stream 4 payloads →
        decode 4 sent = none) ∧
      ((∀ fault ∈ faults, fault = none) →
        ran.2.written = clamavInstreamCommand ++ stream 4 payloads) ∧
      (ran.1 = .ok () → ran.2.written = clamavInstreamCommand ++ stream 4 payloads ∧
        ∃ reply, clamavResponseTerminator ∉ reply ∧ clamavOkSuffix <:+ reply ∧
          reply ++ [clamavResponseTerminator] <+: incoming) := by
  intro ran payloads
  obtain ⟨positive, bounded⟩ := scanner.admitted
  have short : ∀ payload ∈ payloads, payload.length < 2 ^ 32 := fun payload member =>
    lt_of_le_of_lt ((mem_chunksOf member).2.trans bounded) (by decide)
  have carried : ∀ payload ∈ payloads, Carries 4 payload :=
    fun payload member => ⟨(mem_chunksOf member).1, short payload member⟩
  have sending := sends_sendStream bounded
    (rfl : (ScanWorld.start content incoming faults).content = some content)
  obtain ⟨begun, quiet, answered⟩ := converse_sends sending
  rw [show (ScanWorld.start content incoming faults).written = [] from rfl, List.nil_append]
    at begun quiet answered
  have written : ran.2.written =
      (converse scanner.chunkBytes (.start content incoming faults)).2.written := by
    calc ran.2.written
        = ((converse scanner.chunkBytes).tryFinally closeConnection
            (.start content incoming faults)).2.written :=
          congrArg ScanWorld.written (Action.bind_ofExcept_snd _ _ _)
      _ = (closeConnection
            (converse scanner.chunkBytes (.start content incoming faults)).2).2.written :=
          congrArg ScanWorld.written (Action.tryFinally_snd _ _ _)
      _ = _ := written_closeConnection _
  have decoded := decode_stream carried []
  rw [List.append_nil] at decoded
  rw [written]
  refine ⟨flatten_chunksOf positive (Nat.lt_succ_self _), fun payload member =>
    ⟨(mem_chunksOf member).1, (mem_chunksOf member).2, short payload member⟩, decoded, begun,
    fun sent same cut => ?_, fun silent => quiet ⟨silent, rfl⟩, fun passed => ?_⟩
  · rw [same] at begun
    exact decode_of_prefix carried ((List.prefix_append_right_inj _).mp begun) cut
  · obtain ⟨response, later, returned, interpreted⟩ := Action.of_bind_ok (Prod.ext passed rfl)
    obtain ⟨conversed, -⟩ := Action.of_tryFinally_ok returned
    obtain ⟨whole, read⟩ := answered response conversed
    refine ⟨whole, ?_⟩
    obtain ⟨reply, plain, rfl, arrived⟩ := of_readUntil_ok read
    have accepted : interpretResponse (reply ++ [clamavResponseTerminator]) = .ok () := by
      have outcome := congrArg Prod.fst interpreted
      cases interpreting : interpretResponse (reply ++ [clamavResponseTerminator]) with
      | ok => rfl
      | error error =>
          rw [interpreting] at outcome
          cases outcome
    rw [interpretResponse_ok_iff, rdropWhile_terminator plain] at accepted
    exact ⟨reply, plain, accepted, arrived⟩

end BidSystem.Documents
