import Mathlib.Data.BitVec
import Mathlib.Algebra.Order.Group.Nat

/-!
# Guest memory and little-endian words

Both programs of this development touch guest memory only through libvmi's virtual-address
reads and writes of 32-bit and 64-bit words (`vmi_read_32_va`, `vmi_read_addr_va`,
`vmi_write_32_va`), and the event handler hands the hypervisor a byte buffer copied from a
64-bit word (`memcpy` into `emul_read.data`). On x86 all of these are little-endian.

This file fixes the byte-level picture once:

* `leBytes n x` — the `n` low bytes of `x`, least significant first, and `leValue`, the
  number a byte list spells; the two round trips are `leValue_leBytes` and
  `leBytes_leValue`;
* `Mem` — the guest's virtual address space as one byte per address (addresses wrap modulo
  `2^64`), with `Mem.bytes`, `Mem.write`, `read32`, `read64` and `write32`;
* `bytes_write` / `read32_write32` / `leBytes_read32` — a word written is read back, and the
  bytes of a word read are the bytes in memory, so writing back what was read restores the
  location byte for byte.
-/

namespace LibVmi.Memory

/-- A guest byte. -/
abbrev Byte := BitVec 8

/-- `addr_t`: a guest virtual address, 64 bits wide on every guest. -/
abbrev Addr := BitVec 64

/-! ### Little-endian bytes of a number -/

/-- The `n` little-endian bytes of `x` (the bytes beyond `x`'s width are zero). -/
def leBytes : Nat → Nat → List Byte
  | 0, _ => []
  | n + 1, x => BitVec.ofNat 8 x :: leBytes n (x / 256)

/-- The number a little-endian byte list spells. -/
def leValue : List Byte → Nat
  | [] => 0
  | b :: bs => b.toNat + 256 * leValue bs

@[simp] theorem leBytes_length (n x : Nat) : (leBytes n x).length = n := by
  induction n generalizing x with
  | zero => rfl
  | succ n ih => simp [leBytes, ih]

theorem leValue_lt (bs : List Byte) : leValue bs < 256 ^ bs.length := by
  induction bs with
  | nil => simp [leValue]
  | cons b bs ih =>
    have hb := b.isLt
    simp only [leValue, List.length_cons, pow_succ]
    omega

/-- **Bytes then value.** The bytes of `x` spell `x` modulo `256 ^ n`. -/
theorem leValue_leBytes (n x : Nat) : leValue (leBytes n x) = x % 256 ^ n := by
  induction n generalizing x with
  | zero => simp [leBytes, leValue, Nat.mod_one]
  | succ n ih =>
    rw [leBytes, leValue, ih, pow_succ', Nat.mod_mul, BitVec.toNat_ofNat]

/-- **Value then bytes.** A byte list is the bytes of the number it spells. -/
theorem leBytes_leValue (bs : List Byte) : leBytes bs.length (leValue bs) = bs := by
  induction bs with
  | nil => rfl
  | cons b bs ih =>
    have hb := b.isLt
    have hlow : BitVec.ofNat 8 (b.toNat + 256 * leValue bs) = b :=
      BitVec.eq_of_toNat_eq (by simp only [BitVec.toNat_ofNat]; omega)
    have hhigh : (b.toNat + 256 * leValue bs) / 256 = leValue bs := by omega
    simp only [List.length_cons, leBytes, leValue, hlow, hhigh, ih]

@[simp] theorem leBytes_zero (n : Nat) : leBytes n 0 = List.replicate n 0 := by
  induction n with
  | zero => rfl
  | succ n ih => simp [leBytes, ih, List.replicate_succ]

/-- Widening a 32-bit word to 64 bits keeps its value. -/
@[simp] theorem toNat_setWidth_64 (x : BitVec 32) : (x.setWidth 64).toNat = x.toNat := by
  rw [BitVec.toNat_setWidth, Nat.mod_eq_of_lt (Nat.lt_trans x.isLt (by decide))]

/-- A 32-bit word widened to 64 bits and cut back is itself. -/
@[simp] theorem setWidth_setWidth_32 (x : BitVec 32) : (x.setWidth 64).setWidth 32 = x := by
  apply BitVec.eq_of_toNat_eq
  rw [BitVec.toNat_setWidth, toNat_setWidth_64, Nat.mod_eq_of_lt x.isLt]

/-! ### Guest memory -/

/-- The guest's virtual address space as libvmi reads it through the kernel's page tables. -/
def Mem : Type := Addr → Byte

/-- The `n` bytes at `a, a + 1, …` (addresses wrap). -/
def Mem.bytes (m : Mem) (a : Addr) (n : Nat) : List Byte :=
  (List.range n).map fun j => m (a + BitVec.ofNat 64 j)

/-- `m` with the bytes `bs` stored at `a, a + 1, …`. -/
def Mem.write (m : Mem) (a : Addr) (bs : List Byte) : Mem := fun x =>
  if (x - a).toNat < bs.length then bs.getD (x - a).toNat 0 else m x

/-- `vmi_read_32_va` on a readable address: four bytes, little-endian. -/
def read32 (m : Mem) (a : Addr) : BitVec 32 := BitVec.ofNat 32 (leValue (m.bytes a 4))

/-- `vmi_read_64_va` on a readable address: eight bytes, little-endian. -/
def read64 (m : Mem) (a : Addr) : BitVec 64 := BitVec.ofNat 64 (leValue (m.bytes a 8))

/-- `vmi_write_32_va` on a writable address: four bytes, little-endian. -/
def write32 (m : Mem) (a : Addr) (v : BitVec 32) : Mem := m.write a (leBytes 4 v.toNat)

@[simp] theorem Mem.bytes_length (m : Mem) (a : Addr) (n : Nat) : (m.bytes a n).length = n := by
  simp [Mem.bytes]

/-- The first of the bytes at `a` is the byte at `a`. -/
theorem Mem.bytes_head? (m : Mem) (a : Addr) {n : Nat} (hn : 0 < n) :
    (m.bytes a n).head? = some (m a) := by
  obtain ⟨n, rfl⟩ := Nat.exists_eq_add_of_lt hn
  simp [Mem.bytes, List.range_succ_eq_map]

/-- Offsets below `2 ^ 64` come back from the wrapped address unchanged. -/
theorem offset_toNat (a : Addr) {j : Nat} (hj : j < 2 ^ 64) :
    (a + BitVec.ofNat 64 j - a).toNat = j := by
  bv_omega

/-- **Read after write.** The bytes stored at `a` are the bytes found at `a`. -/
theorem bytes_write (m : Mem) (a : Addr) (bs : List Byte) (hbs : bs.length < 2 ^ 64) :
    (m.write a bs).bytes a bs.length = bs := by
  refine List.ext_getElem (by simp) fun j h₁ h₂ => ?_
  simp only [Mem.bytes, Mem.write, List.getElem_map, List.getElem_range,
    offset_toNat a (show j < 2 ^ 64 by omega), h₂, if_true, List.getD_eq_getElem?_getD,
    List.getElem?_eq_getElem h₂, Option.getD_some]

theorem bytes_congr {m m' : Mem} {a : Addr} {n : Nat}
    (h : ∀ j < n, m (a + BitVec.ofNat 64 j) = m' (a + BitVec.ofNat 64 j)) :
    m.bytes a n = m'.bytes a n := by
  simp only [Mem.bytes, List.map_inj_left, List.mem_range]
  exact h

@[simp] theorem bytes_write32 (m : Mem) (a : Addr) (v : BitVec 32) :
    (write32 m a v).bytes a 4 = leBytes 4 v.toNat := by
  simpa using bytes_write m a (leBytes 4 v.toNat) (by simp)

/-- A 32-bit word written at `a` is read back from `a`. -/
theorem read32_write32 (m : Mem) (a : Addr) (v : BitVec 32) : read32 (write32 m a v) a = v := by
  apply BitVec.eq_of_toNat_eq
  simp only [read32, bytes_write32, leValue_leBytes, BitVec.toNat_ofNat]
  have := v.isLt
  omega

/-- **The bytes of a read word.** Writing back what `read32` returned stores the bytes that
were there. -/
theorem leBytes_read32 (m : Mem) (a : Addr) : leBytes 4 (read32 m a).toNat = m.bytes a 4 := by
  have hlt := leValue_lt (m.bytes a 4)
  simp only [Mem.bytes_length] at hlt
  rw [read32, BitVec.toNat_ofNat, Nat.mod_eq_of_lt (by omega)]
  simpa using leBytes_leValue (m.bytes a 4)

/-- `read32` looks only at the four bytes it reads. -/
theorem read32_congr {m m' : Mem} {a : Addr} (h : m.bytes a 4 = m'.bytes a 4) :
    read32 m a = read32 m' a := by
  rw [read32, read32, h]

end LibVmi.Memory
