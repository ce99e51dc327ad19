import Mathlib.Tactic.Ring
import Mathlib.Data.List.Basic
import AvalancheGo.Ids.ID

/-! The byte packer the stores write with: big-endian words and fixed-width runs at an offset. -/

namespace AvalancheGo

/-- Width of a packed `uint32` (`wrappers.IntLen`). -/
def intLen : Nat := 4

/-- Modelled from the spec: `binary.BigEndian.PutUint32`, all integers being big-endian. -/
def putUint32 (v : UInt32) : List UInt8 :=
  [UInt8.ofNat (v.toNat / 2 ^ 24), UInt8.ofNat (v.toNat / 2 ^ 16),
    UInt8.ofNat (v.toNat / 2 ^ 8), UInt8.ofNat v.toNat]

/-- Modelled from the spec: `binary.BigEndian.Uint32`, reading the first four bytes. -/
def beUint32 : List UInt8 → UInt32
  | b0 :: b1 :: b2 :: b3 :: _ =>
    UInt32.ofNat (((b0.toNat * 256 + b1.toNat) * 256 + b2.toNat) * 256 + b3.toNat)
  | _ => 0

/-- A packed word is four bytes. -/
@[simp] theorem putUint32_length (v : UInt32) : (putUint32 v).length = intLen := rfl

/-- The quotient by `2^k` is the quotient by `2^(k+8)` shifted up a byte, plus its low byte. -/
theorem div_two_pow_add_mod (n k : Nat) : n / 2 ^ (k + 8) * 256 + n / 2 ^ k % 2 ^ 8 = n / 2 ^ k := by
  rw [pow_add, ← Nat.div_div_eq_div_mul]; exact Nat.div_add_mod' (n / 2 ^ k) (2 ^ 8)

/-- A word written big-endian reads back as itself, whatever follows it. -/
theorem beUint32_putUint32 (v : UInt32) (rest : List UInt8) :
    beUint32 (putUint32 v ++ rest) = v := by
  -- Each byte keeps eight bits of the word, and from the top down they rebuild it below 2^32.
  have bound := v.toNat_lt_size
  apply UInt32.toNat.inj
  simp only [putUint32, beUint32, List.cons_append, List.nil_append, UInt8.ofNat, UInt8.toNat,
    UInt32.ofNat, UInt32.toNat, BitVec.toNat_ofNat] at bound ⊢
  rw [Nat.mod_eq_of_lt (show v.toBitVec.toNat / 2 ^ 24 < 2 ^ 8 by omega), div_two_pow_add_mod _ 16,
    div_two_pow_add_mod _ 8, show v.toBitVec.toNat / 2 ^ 8 * 256 + v.toBitVec.toNat % 2 ^ 8 = v.toBitVec.toNat from
      Nat.div_add_mod' _ (2 ^ 8), Nat.mod_eq_of_lt bound]

/-- Four bytes read as a big-endian word and written back are the same four bytes. -/
theorem putUint32_beUint32 (b : List UInt8) (long : intLen ≤ b.length) :
    putUint32 (beUint32 b) = b.take intLen := by
  -- The word is below 2^32, so each byte cut from it is the byte it was built from.
  match b, long with
  | b0 :: b1 :: b2 :: b3 :: rest, _ =>
    have := b0.toNat_lt_size; have := b1.toNat_lt_size; have := b2.toNat_lt_size; have := b3.toNat_lt_size
    simp only [putUint32, beUint32, intLen, List.take, List.cons.injEq, and_true]
    refine ⟨?_, ?_, ?_, ?_⟩ <;> apply UInt8.toNat.inj <;>
      simp only [UInt8.size, UInt8.ofNat, UInt8.toNat, UInt32.ofNat, UInt32.toNat, BitVec.toNat_ofNat] at * <;> omega

/-- Why a packer stopped (`wrappers.errBadLength`). -/
inductive PackerError
  | errBadLength
deriving DecidableEq, Repr

/--
Modelled from the spec: `wrappers.Packer`, a byte buffer with a write or read offset and the
first error met. The stores build it with no `MaxSize`, so it never grows.
-/
structure Packer where
  bytes : List UInt8
  offset : Nat := 0
  err : Option PackerError := none

namespace Packer

/-- Modelled from the spec: `Errored`, whether an error has been recorded. -/
def errored (p : Packer) : Bool := p.err.isSome

/-- Modelled from the spec: `Errs.Add`, which keeps the first error only. -/
def add (p : Packer) (e : PackerError) : Packer :=
  if p.errored then p else { p with err := some e }

/-- Modelled from the spec: `expand`; with no `MaxSize` a write past the buffer is refused. -/
def expand (p : Packer) (size : Nat) : Packer :=
  if size + p.offset ≤ p.bytes.length then p else p.add .errBadLength

/-- Modelled from the spec: `checkSpace`, refusing a read past the end. -/
def checkSpace (p : Packer) (size : Nat) : Packer :=
  if p.bytes.length - p.offset < size then p.add .errBadLength else p

/-- Modelled from the spec: `PackFixedBytes`, copying the bytes in at the offset. -/
def packFixedBytes (p : Packer) (b : List UInt8) : Packer :=
  let p := p.expand b.length
  if p.errored then p
  else { p with
    bytes := p.bytes.take p.offset ++ b ++ p.bytes.drop (p.offset + b.length)
    offset := p.offset + b.length }

/-- Modelled from the spec: `PackInt`, a big-endian `uint32`. -/
def packInt (p : Packer) (v : UInt32) : Packer := p.packFixedBytes (putUint32 v)

/-- Modelled from the spec: `UnpackFixedBytes`, the next `size` bytes, or nil once errored. -/
def unpackFixedBytes (p : Packer) (size : Nat) : Packer × List UInt8 :=
  let p := p.checkSpace size
  if p.errored then (p, [])
  else ({ p with offset := p.offset + size }, (p.bytes.drop p.offset).take size)

/-- Modelled from the spec: `UnpackInt`, a big-endian `uint32`, or zero once errored. -/
def unpackInt (p : Packer) : Packer × UInt32 :=
  let p := p.checkSpace intLen
  if p.errored then (p, 0)
  else ({ p with offset := p.offset + intLen }, beUint32 (p.bytes.drop p.offset))

/-- A packer with no error recorded has not errored. -/
@[simp] theorem errored_mk (bytes : List UInt8) (offset : Nat) :
    errored { bytes := bytes, offset := offset, err := none } = false := rfl

/-- A write that fits replaces the bytes under it and moves past them. -/
theorem packFixedBytes_fits (bytes b : List UInt8) (offset : Nat)
    (fits : b.length + offset ≤ bytes.length) :
    packFixedBytes ⟨bytes, offset, none⟩ b
      = ⟨bytes.take offset ++ b ++ bytes.drop (offset + b.length), offset + b.length, none⟩ := by
  -- The buffer is long enough, so `expand` records nothing.
  simp [packFixedBytes, expand, fits]

/-- A write into zero padding keeps what was written before it and the padding after it. -/
theorem packFixedBytes_pad (done b : List UInt8) (k : Nat) (fits : b.length ≤ k) :
    packFixedBytes ⟨done ++ List.replicate k 0, done.length, none⟩ b
      = ⟨(done ++ b) ++ List.replicate (k - b.length) 0, (done ++ b).length, none⟩ := by
  rw [packFixedBytes_fits _ _ _ (by simp only [List.length_append, List.length_replicate]; omega)]
  simp [List.drop_append_eq_append_drop, List.drop_replicate]

/-- A read that fits returns the bytes at the offset and moves past them. -/
theorem unpackFixedBytes_fits (bytes : List UInt8) (offset size : Nat)
    (fits : offset + size ≤ bytes.length) :
    unpackFixedBytes ⟨bytes, offset, none⟩ size
      = (⟨bytes, offset + size, none⟩, (bytes.drop offset).take size) := by
  -- The space check passes, so no error is recorded.
  have room : ¬ bytes.length - offset < size := by omega
  simp [unpackFixedBytes, checkSpace, room]

/-- A word read where one fits is the big-endian word at the offset. -/
theorem unpackInt_fits (bytes : List UInt8) (offset : Nat) (fits : offset + intLen ≤ bytes.length) :
    unpackInt ⟨bytes, offset, none⟩ = (⟨bytes, offset + intLen, none⟩, beUint32 (bytes.drop offset)) := by
  have room : ¬ bytes.length - offset < intLen := by omega
  simp [unpackInt, checkSpace, room]

/-- A read past the end records a bad length, stays where it was and returns nil. -/
theorem unpackFixedBytes_short (bytes : List UInt8) (offset size : Nat) (short : bytes.length - offset < size) :
    unpackFixedBytes ⟨bytes, offset, none⟩ size = (⟨bytes, offset, some .errBadLength⟩, []) := by
  simp [unpackFixedBytes, checkSpace, add, errored, short]

/-- A word read past the end records a bad length, stays where it was and returns zero. -/
theorem unpackInt_short (bytes : List UInt8) (offset : Nat) (short : bytes.length - offset < intLen) :
    unpackInt ⟨bytes, offset, none⟩ = (⟨bytes, offset, some .errBadLength⟩, 0) := by
  simp [unpackInt, checkSpace, add, errored, short]

end Packer

end AvalancheGo
