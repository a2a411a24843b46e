import Mathlib.Algebra.Group.Nat.Defs
import Mathlib.Data.List.Basic
import Mathlib.Tactic.Common

/-!
# Length-prefixed streams

A stream of frames: each frame is the length of its payload, as a big-endian number of
a fixed width, and then the payload; a length of zero ends the stream.

* `bigEndian`, `ofBigEndian` — numbers of a fixed width as bytes.
* `stream` — the frames of some payloads, and the terminator.
* `decode` — the reader: it takes one stream off some bytes and returns its payloads and
  the bytes behind it.
* `decode_stream` — **the reader inverts the writer**, whatever follows the stream.
* `decode_of_prefix` — **no beginning of a stream is a stream**.
-/

namespace Framing

/-! ## Numbers -/

/-- A number as `width` bytes, the most significant one first. -/
def bigEndian : ℕ → ℕ → List UInt8
  | 0, _ => []
  | width + 1, value => bigEndian width (value / 256) ++ [UInt8.ofNat value]

/-- The number that some bytes stand for, the most significant one first. -/
def ofBigEndian (bytes : List UInt8) : ℕ :=
  bytes.foldl (fun value byte => 256 * value + byte.toNat) 0

@[simp] theorem length_bigEndian (width value : ℕ) : (bigEndian width value).length = width := by
  induction width generalizing value with
  | zero => rfl
  | succ width ih => rw [bigEndian, List.length_append, ih, List.length_singleton]

/-- Numbers that fit are read back. -/
theorem ofBigEndian_bigEndian {width value : ℕ} (fits : value < 256 ^ width) :
    ofBigEndian (bigEndian width value) = value := by
  induction width generalizing value with
  | zero => exact (Nat.lt_one_iff.mp fits).symm
  | succ width ih =>
      have high : value / 256 < 256 ^ width :=
        Nat.div_lt_of_lt_mul (by rwa [Nat.pow_succ, Nat.mul_comm] at fits)
      have read := ih high
      rw [ofBigEndian] at read
      rw [bigEndian, ofBigEndian, List.foldl_append, read]
      show 256 * (value / 256) + value % 256 = value
      exact Nat.div_add_mod value 256

/-! ## Streams -/

/-- A payload behind its length. -/
def frame (width : ℕ) (payload : List UInt8) : List UInt8 :=
  bigEndian width payload.length ++ payload

/-- The end of a stream. -/
def terminator (width : ℕ) : List UInt8 := bigEndian width 0

/-- The frames of some payloads, and the terminator. -/
def stream (width : ℕ) (payloads : List (List UInt8)) : List UInt8 :=
  payloads.flatMap (frame width) ++ terminator width

@[simp] theorem stream_nil (width : ℕ) : stream width [] = terminator width := rfl

@[simp] theorem stream_cons (width : ℕ) (payload : List UInt8) (payloads : List (List UInt8)) :
    stream width (payload :: payloads) = frame width payload ++ stream width payloads := by
  rw [stream, List.flatMap_cons, List.append_assoc, stream]

/-- A payload that a frame can carry: its length is not that of the terminator, and fits. -/
def Carries (width : ℕ) (payload : List UInt8) : Prop :=
  payload ≠ [] ∧ payload.length < 256 ^ width

/-! ## Reading -/

/-- Read at most `fuel` lengths. -/
def decodeWithin (width : ℕ) : ℕ → List UInt8 → Option (List (List UInt8) × List UInt8)
  | 0, _ => none
  | fuel + 1, bytes =>
      let size := ofBigEndian (bytes.take width)
      let rest := bytes.drop width
      if bytes.length < width then none
      else if size = 0 then some ([], rest)
      else if rest.length < size then none
      else
        (decodeWithin width fuel (rest.drop size)).map fun decoded =>
          (rest.take size :: decoded.1, decoded.2)

/-- Read a stream: its payloads, and the bytes behind it. -/
def decode (width : ℕ) (bytes : List UInt8) : Option (List (List UInt8) × List UInt8) :=
  decodeWithin width (bytes.length + 1) bytes

section Reading

variable {width : ℕ} {payload rest : List UInt8} {payloads : List (List UInt8)}

/-- Reading a terminator. -/
theorem decodeWithin_terminator (fuel : ℕ) (rest : List UInt8) :
    decodeWithin width (fuel + 1) (terminator width ++ rest) = some ([], rest) := by
  have size : ofBigEndian ((terminator width ++ rest).take width) = 0 := by
    rw [terminator, List.take_left' (length_bigEndian width 0)]
    exact ofBigEndian_bigEndian (Nat.pow_pos (by decide))
  have long : ¬(terminator width ++ rest).length < width := by
    rw [List.length_append, terminator, length_bigEndian]
    omega
  rw [decodeWithin, if_neg long, if_pos size, terminator, List.drop_left' (length_bigEndian width 0)]

/-- Reading a frame. -/
theorem decodeWithin_frame (carries : Carries width payload) (fuel : ℕ) (rest : List UInt8) :
    decodeWithin width (fuel + 1) (frame width payload ++ rest) =
      (decodeWithin width fuel rest).map fun decoded => (payload :: decoded.1, decoded.2) := by
  have front : (frame width payload ++ rest).take width = bigEndian width payload.length := by
    rw [frame, List.append_assoc, List.take_left' (length_bigEndian width _)]
  have back : (frame width payload ++ rest).drop width = payload ++ rest := by
    rw [frame, List.append_assoc, List.drop_left' (length_bigEndian width _)]
  have size : ofBigEndian (bigEndian width payload.length) = payload.length :=
    ofBigEndian_bigEndian carries.2
  have long : ¬(frame width payload ++ rest).length < width := by
    rw [frame, List.length_append, List.length_append, length_bigEndian]
    omega
  have present : ¬(payload ++ rest).length < payload.length := by
    rw [List.length_append]
    omega
  rw [decodeWithin, front, back, size, if_neg long, if_neg (mt List.length_eq_zero_iff.mp carries.1),
    if_neg present, List.drop_left, List.take_left]

/-- Reading a stream takes one length more than it has payloads. -/
theorem decodeWithin_stream (carried : ∀ payload ∈ payloads, Carries width payload) {fuel : ℕ}
    (enough : payloads.length < fuel) (rest : List UInt8) :
    decodeWithin width fuel (stream width payloads ++ rest) = some (payloads, rest) := by
  induction payloads generalizing fuel with
  | nil =>
      obtain ⟨fuel, rfl⟩ := Nat.exists_eq_succ_of_ne_zero (Nat.ne_of_gt enough)
      exact decodeWithin_terminator fuel rest
  | cons payload payloads ih =>
      obtain ⟨first, others⟩ := List.forall_mem_cons.mp carried
      obtain ⟨fuel, rfl⟩ := Nat.exists_eq_succ_of_ne_zero (Nat.ne_of_gt (Nat.zero_lt_of_lt enough))
      rw [stream_cons, List.append_assoc, decodeWithin_frame first,
        ih others (Nat.lt_of_succ_lt_succ enough)]
      rfl

/-- A stream is longer than it has payloads. -/
theorem length_le_stream (carried : ∀ payload ∈ payloads, Carries width payload) :
    payloads.length ≤ (stream width payloads).length := by
  induction payloads with
  | nil => exact Nat.zero_le _
  | cons payload payloads ih =>
      obtain ⟨first, others⟩ := List.forall_mem_cons.mp carried
      have positive := List.length_pos_of_ne_nil first.1
      have rest := ih others
      rw [stream_cons, List.length_append, List.length_cons, frame, List.length_append]
      omega

/-- **The reader inverts the writer**: it finds the payloads, and leaves what follows. -/
theorem decode_stream (carried : ∀ payload ∈ payloads, Carries width payload)
    (rest : List UInt8) : decode width (stream width payloads ++ rest) = some (payloads, rest) := by
  refine decodeWithin_stream carried ?_ rest
  have shorter := length_le_stream carried
  rw [List.length_append]
  omega

/-! ## Beginnings of streams -/

/-- What has been read stays read when more bytes come and more lengths may be read. -/
theorem decodeWithin_append {fuel fuel' : ℕ} {bytes left : List UInt8}
    (read : decodeWithin width fuel bytes = some (payloads, left)) (more : fuel ≤ fuel')
    (rest : List UInt8) :
    decodeWithin width fuel' (bytes ++ rest) = some (payloads, left ++ rest) := by
  induction fuel generalizing fuel' bytes payloads with
  | zero => cases read
  | succ fuel ih =>
      obtain ⟨fuel', rfl⟩ := Nat.exists_eq_succ_of_ne_zero (Nat.ne_of_gt (Nat.zero_lt_of_lt more))
      rw [decodeWithin] at read ⊢
      by_cases short : bytes.length < width
      · rw [if_pos short] at read
        cases read
      · rw [if_neg short] at read
        rw [if_neg (by rw [List.length_append]; omega), List.take_append_of_le_length (by omega),
          List.drop_append_of_le_length (by omega)]
        by_cases atEnd : ofBigEndian (bytes.take width) = 0
        · rw [if_pos atEnd] at read ⊢
          cases read
          rfl
        · rw [if_neg atEnd] at read ⊢
          by_cases cut : (bytes.drop width).length < ofBigEndian (bytes.take width)
          · rw [if_pos cut] at read
            cases read
          · rw [if_neg cut] at read
            rw [if_neg (by rw [List.length_append]; omega),
              List.take_append_of_le_length (by omega), List.drop_append_of_le_length (by omega)]
            obtain ⟨decoded, inner, same⟩ := Option.map_eq_some_iff.mp read
            cases same
            rw [ih inner (Nat.le_of_succ_le_succ more)]
            rfl

/-- **No beginning of a stream is a stream**: a reader that has been sent less than a whole
stream is still waiting. -/
theorem decode_of_prefix (carried : ∀ payload ∈ payloads, Carries width payload)
    {sent : List UInt8} (begun : sent <+: stream width payloads)
    (cut : sent ≠ stream width payloads) : decode width sent = none := by
  obtain ⟨missing, whole⟩ := begun
  cases read : decode width sent with
  | none => rfl
  | some decoded =>
      have again := decodeWithin_append read (Nat.succ_le_succ (Nat.le_add_right _ missing.length))
        missing
      have all := decode_stream carried []
      rw [List.append_nil, ← whole, decode, List.length_append, again] at all
      -- The reader would leave `missing` behind, of which a whole stream leaves nothing.
      have nothing : decoded.2 ++ missing = [] := congrArg Prod.snd (Option.some.inj all)
      rw [(List.append_eq_nil_iff.mp nothing).2, List.append_nil] at whole
      exact absurd whole cut

end Reading

end Framing
