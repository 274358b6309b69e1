import LibVmi.Examples.FoolPatchguard.Calls

/-!
# The search for `NtLoadDriver`'s entry in the SSDT

Lines 278-306 of `main` walk `KiServiceTable` for the entry that resolves to `NtLoadDriver`.
On a 32-bit guest an entry is the handler's address; on a 64-bit one it is an offset from
`KiServiceTable`, shifted left by 4. The loop runs `(int)nb_services` times and reads each
entry with `vmi_read_32_va`, leaving for `error_exit` if a read fails.

* `firstResolving` — what the loop is for: the first index of a range whose entry resolves to
  the target; `firstResolving_eq_some` / `firstResolving_eq_none` characterize it as the least
  such index;
* `ssdtSearch_of_paused` — the loop of `main` refines it: on a paused guest whose reads
  succeed, it answers `firstResolving` over the entries in memory; `ssdtSearch_finds_least`
  spells out what that answer is;
* `ssdt_offset_shifted_logically` — the 64-bit decoding shifts the entry as a `uint32_t`, so
  an entry for a handler below `KiServiceTable` is not found, though the formula in the source's
  comment (an arithmetic shift of a `LONG`) resolves it;
* `syscallAddr_eq_signed_iff` — on a 64-bit guest the code's decoding and the comment's formula
  agree exactly on the entries whose top bit is clear: every negative offset is resolved
  wrongly.
-/

namespace LibVmi.FoolPatchguard

open LibVmi.Memory LibVmi.Events

/-- Lines 288-295: the address an entry stands for; the entry itself on a 32-bit guest, and
`KiServiceTable + (entry >> 4)` on a 64-bit one, the shift made on the `uint32_t`. -/
def syscallAddr (is64 : Bool) (kiSvTableAddr : Addr) (v : BitVec 32) : Addr :=
  if is64 then kiSvTableAddr + (v >>> 4).setWidth 64 else v.setWidth 64

/-- `(int)nb_services`: GCC keeps the low 32 bits, read as two's complement. -/
def intOfAddr (n : BitVec 64) : Int := (n.setWidth 32).toInt

/-- The address of entry `i` of `KiServiceTable`, `ki_sv_table_addr + sizeof(uint32_t) * i`. -/
def entryAddr (kiSvTableAddr : Addr) (i : Nat) : Addr := kiSvTableAddr + BitVec.ofNat 64 (4 * i)

/-- Lines 281-306: `count` iterations of the search loop from index `i`. It answers the index
and the entry it found, or `none` for `ntload_service_table_index == -1`. -/
def ssdtSearch (env : Env) (is64 : Bool) (kiSvTableAddr ntloadDriverAddr : Addr) :
    Nat → Nat → Fragment (Option (Nat × BitVec 32))
  | _, 0 => pure none
  | i, count + 1 => do
    let out ← vmiOr env (.read32Va (entryAddr kiSvTableAddr i))
      (some "Failed to read syscall address\n")
    let kiServiceEntryVal := out.setWidth 32
    if syscallAddr is64 kiSvTableAddr kiServiceEntryVal = ntloadDriverAddr then
      pure (some (i, kiServiceEntryVal))
    else ssdtSearch env is64 kiSvTableAddr ntloadDriverAddr (i + 1) count

/-- The number of iterations of the loop for `NumberOfServices = n`. -/
def loopCount (n : BitVec 64) : Nat := (intOfAddr n).toNat

/-! ### What the loop is for -/

/-- The first index of `[i, i + count)` whose entry resolves to `target`, with that entry. -/
def firstResolving (resolve : BitVec 32 → Addr) (table : Nat → BitVec 32) (target : Addr) :
    Nat → Nat → Option (Nat × BitVec 32)
  | _, 0 => none
  | i, count + 1 =>
    if resolve (table i) = target then some (i, table i)
    else firstResolving resolve table target (i + 1) count

section FirstResolving

variable (resolve : BitVec 32 → Addr) (table : Nat → BitVec 32) (target : Addr)

/-- **The least resolving index.** -/
theorem firstResolving_eq_some (i count j : Nat) (v : BitVec 32) :
    firstResolving resolve table target i count = some (j, v) ↔
      i ≤ j ∧ j < i + count ∧ resolve (table j) = target ∧ v = table j ∧
        ∀ k, i ≤ k → k < j → resolve (table k) ≠ target := by
  induction count generalizing i with
  | zero => simp only [firstResolving, reduceCtorEq, false_iff]; omega
  | succ count ih =>
    simp only [firstResolving]
    split_ifs with h
    · constructor
      · rintro ⟨⟩
        exact ⟨le_rfl, by omega, h, rfl, fun k hk hkj => by omega⟩
      · rintro ⟨hij, -, hj, rfl, hmin⟩
        rcases Nat.eq_or_lt_of_le hij with rfl | hlt
        · rfl
        · exact absurd h (hmin i le_rfl hlt)
    · rw [ih]
      constructor
      · rintro ⟨hij, hjc, hj, rfl, hmin⟩
        refine ⟨by omega, by omega, hj, rfl, fun k hk hkj => ?_⟩
        rcases Nat.eq_or_lt_of_le hk with rfl | hlt
        · exact h
        · exact hmin k hlt hkj
      · rintro ⟨hij, hjc, hj, rfl, hmin⟩
        have hne : i ≠ j := fun e => h (e ▸ hj)
        exact ⟨by omega, by omega, hj, rfl, fun k hk hkj => hmin k (by omega) hkj⟩

/-- No index of the range resolves. -/
theorem firstResolving_eq_none (i count : Nat) :
    firstResolving resolve table target i count = none ↔
      ∀ k, i ≤ k → k < i + count → resolve (table k) ≠ target := by
  induction count generalizing i with
  | zero => simp only [firstResolving, true_iff]; omega
  | succ count ih =>
    simp only [firstResolving]
    split_ifs with h
    · simp only [reduceCtorEq, false_iff, not_forall]
      exact ⟨i, le_rfl, by omega, not_not.mpr h⟩
    · rw [ih]
      constructor
      · intro hall k hk hkc
        rcases Nat.eq_or_lt_of_le hk with rfl | hlt
        · exact h
        · exact hall k hlt (by omega)
      · exact fun hall k hk hkc => hall k (by omega) (by omega)

end FirstResolving

/-! ### The loop refines it -/

/-- A read of a paused guest that does not fail answers the word in memory and leaves the
guest as it was. -/
theorem vmiOr_read32_of_paused {env : Env} {w : World} (a : Addr) (msg : Option String)
    (hp : w.paused = true) (hf : env.fails w.clock = false) :
    vmiOr env (.read32Va a) msg w =
      (some ((read32 w.mem a).setWidth 64),
        { w with clock := w.clock + 1,
                 trace := w.trace ++
                   [⟨.read32Va a, .success, (read32 w.mem a).setWidth 64⟩] }) :=
  vmiOr_of_paused hp hf rfl VmiCall.noConfusion

/-- **The loop computes the search.** On a paused guest whose reads all succeed, the loop
answers the first resolving index of the entries in memory. -/
theorem ssdtSearch_of_paused (env : Env) (is64 : Bool) (ki nt : Addr) (i count : Nat)
    (w : World) (hp : w.paused = true) (hf : ∀ j < count, env.fails (w.clock + j) = false) :
    (ssdtSearch env is64 ki nt i count w).1 =
      some (firstResolving (syscallAddr is64 ki) (fun j => read32 w.mem (entryAddr ki j)) nt
        i count) := by
  induction count generalizing i w with
  | zero => rfl
  | succ count ih =>
    have hread := @vmiOr_read32_of_paused env w (entryAddr ki i)
      (some "Failed to read syscall address\n") hp (by simpa using hf 0 (by omega))
    simp only [ssdtSearch, Fragment.bind_apply, hread, setWidth_setWidth_32, firstResolving]
    split_ifs
    · rfl
    · exact ih (i + 1) _ hp fun j hj => by
        simpa [Nat.add_assoc, Nat.add_comm 1] using hf (j + 1) (by omega)

/-- A paused guest whose every read succeeds, holding `entry` as entry 0 of `KiServiceTable`. -/
def pausedWithEntry (ki : Addr) (entry : BitVec 32) : World where
  mem := Mem.write (fun _ => 0) ki (leBytes 4 entry.toNat)
  paused := true
  clock := 0
  trace := []
  stderr := []

/-- An environment in which no call fails. -/
def reliableEnv : Env := ⟨fun _ => false, 8, fun _ => 0, 0, fun _ _ => 0, fun _ m => m⟩

/-- **The search finds the least resolving entry.** On a paused guest whose reads succeed, the
loop from index `0` answers `(j, v)` exactly when entry `j`, read as `v`, is the first of the
`count` entries to resolve to the target, and answers `-1` exactly when none of them does. -/
theorem ssdtSearch_finds_least (env : Env) (is64 : Bool) (ki nt : Addr) (count : Nat) (w : World)
    (hp : w.paused = true) (hf : ∀ j < count, env.fails (w.clock + j) = false) (j : Nat)
    (v : BitVec 32) :
    ((ssdtSearch env is64 ki nt 0 count w).1 = some (some (j, v)) ↔
      j < count ∧ syscallAddr is64 ki (read32 w.mem (entryAddr ki j)) = nt ∧
        v = read32 w.mem (entryAddr ki j) ∧
        ∀ k < j, syscallAddr is64 ki (read32 w.mem (entryAddr ki k)) ≠ nt) ∧
    ((ssdtSearch env is64 ki nt 0 count w).1 = some none ↔
      ∀ k < count, syscallAddr is64 ki (read32 w.mem (entryAddr ki k)) ≠ nt) := by
  rw [ssdtSearch_of_paused env is64 ki nt 0 count w hp hf, Option.some.injEq, Option.some.injEq,
    firstResolving_eq_some, firstResolving_eq_none]
  simp only [Nat.zero_le, true_and, Nat.zero_add, forall_const]

/-- A 32-bit `KiServiceTable` at `0x1000` whose entry 0 holds `0x3000` and entry 1 `0x2000`,
after a `NumberOfServices` of `2` at `0x108`. -/
def twoEntryTable : Mem :=
  Mem.write (Mem.write (fun _ => 0) 0x108 (leBytes 4 2)) 0x1000
    (leBytes 4 0x3000 ++ leBytes 4 0x2000)

/-- On a paused 32-bit guest whose entry 0 resolves elsewhere and entry 1 to the target, the loop
over two entries passes entry 0 and answers entry 1. -/
theorem ssdtSearch_skips_to_entry_one :
    (⟨twoEntryTable, true, 0, [], []⟩ : World).paused = true ∧
      (ssdtSearch reliableEnv false 0x1000 0x2000 0 2 ⟨twoEntryTable, true, 0, [], []⟩).1 =
        some (some (1, 0x2000)) :=
  ⟨rfl, (ssdtSearch_finds_least reliableEnv false 0x1000 0x2000 2 _ rfl (fun _ _ => rfl) 1
    0x2000).1.mpr ⟨by decide, by decide, by decide, fun k hk => by
      obtain rfl : k = 0 := by omega
      decide⟩⟩

/-! ### The 64-bit decoding -/

/-- The formula the source cites for 64-bit entries,
`KiServiceTableAddress + (routineOffset >>> 4)`, with the entry a `LONG` and `>>>` the
arithmetic shift: the entry read as signed, shifted by 4, sign-extended. -/
def syscallAddrSigned (is64 : Bool) (kiSvTableAddr : Addr) (v : BitVec 32) : Addr :=
  if is64 then kiSvTableAddr + (v.sshiftRight 4).signExtend 64 else v.setWidth 64

/-- A 64-bit guest with one service, whose handler lies `0x100` below `KiServiceTable`: the
entry `0xfffff000` resolves to it by the cited formula, but the loop, shifting the `uint32_t`,
ends without finding it. -/
theorem ssdt_offset_shifted_logically :
    syscallAddrSigned true 0xfffff80002a8f300 0xfffff000 = 0xfffff80002a8f200 ∧
      loopCount 1 = 1 ∧
      (ssdtSearch reliableEnv true 0xfffff80002a8f300 0xfffff80002a8f200 0 (loopCount 1)
        (pausedWithEntry 0xfffff80002a8f300 0xfffff000)).1 = some none := by
  refine ⟨by decide, rfl, ?_⟩
  rw [ssdtSearch_of_paused _ _ _ _ _ _ _ rfl fun _ _ => rfl]
  decide

/-- A 32-bit word with its top bit clear extends to 64 bits the same signed or unsigned. -/
theorem signExtend_eq_setWidth_of_msb_false {x : BitVec 32} (h : x.msb = false) :
    x.signExtend 64 = x.setWidth 64 := by
  apply BitVec.eq_of_getLsbD_eq
  intro i
  simp only [BitVec.getLsbD_signExtend, BitVec.getLsbD_setWidth]
  split
  · rfl
  · rw [h, BitVec.getLsbD_ge x i (by omega)]

/-- **Where the 64-bit decoding is right.** On a 64-bit guest the code resolves an entry as the
cited formula does exactly when the entry's top bit is clear, so that its offset is not
negative. -/
theorem syscallAddr_eq_signed_iff (ki : Addr) (v : BitVec 32) :
    syscallAddr true ki v = syscallAddrSigned true ki v ↔ v.msb = false := by
  simp only [syscallAddr, syscallAddrSigned, if_true, add_right_inj]
  cases hm : v.msb
  · -- a non-negative offset: the two shifts and the two extensions agree
    have hs : (v >>> 4).msb = false := by
      rw [BitVec.msb_eq_getLsbD_last, BitVec.getLsbD_ushiftRight,
        BitVec.getLsbD_ge _ _ (by omega)]
    simp [BitVec.sshiftRight_eq_of_msb_false hm, signExtend_eq_setWidth_of_msb_false hs]
  · -- a negative offset: bit 63 is clear in the code's address and set in the formula's
    simp only [Bool.true_eq_false, iff_false]
    intro h
    have h63 := congrArg (BitVec.getLsbD · 63) h
    simp only [BitVec.getLsbD_setWidth, BitVec.getLsbD_signExtend] at h63
    rw [BitVec.getLsbD_ushiftRight, BitVec.getLsbD_ge _ _ (by omega), BitVec.msb_sshiftRight,
      hm] at h63
    simp at h63

end LibVmi.FoolPatchguard
