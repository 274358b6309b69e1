import LibVmi.Examples.FoolPatchguard.Main

/-!
# What the first half of `main` computes

When no libvmi call fails, `main`'s prologue (lines 207-310) is a function of the guest's memory
at the moment it is paused: it answers the first entry of `KiServiceTable` to resolve to
`NtLoadDriver`, among the `(int)NumberOfServices` entries, with the decoding of `syscallAddr`.
Before the pause the guest runs, and what it writes then is in that memory (`pausedWorld`).

* `attachVm_of_reliable` — attaching answers the guest's width and pauses it;
* `lookupSsdt_of_paused` — on a paused guest the symbol and `NumberOfServices` lookups answer
  from `Env` and from memory, and leave memory and the pause as they were;
* `findNtLoadDriverEntry_of_paused` — the search, with its `-1` check, answers `firstResolving`
  over the entries in memory (from `ssdtSearch_of_paused`);
* `prologue_of_reliable` — the three composed: the prologue answers `expectedEntry` of the
  paused guest's memory;
* `runAttached_exit_code_of_reliable` — so, with no call failing, `main` exits with `0`
  exactly when that memory holds a resolving entry.

Which entry that is when the decoding is wrong is the subject of `ssdt_offset_shifted_logically`.
-/

namespace LibVmi.FoolPatchguard

open LibVmi.Memory LibVmi.Events

/-- The world `attachVm` leaves when its calls succeed: the guest paused, after running up to
each of the three calls. -/
def pausedWorld (env : Env) (name : String) (socket : Option String) (w0 : World) : World :=
  (vmi env .pauseVm (vmi env .getAddressWidth (vmi env (.initComplete name socket) w0).2.2).2.2).2.2

section Prologue

variable {env : Env}

/-- Attaching answers the guest's width and leaves it paused. -/
theorem attachVm_of_reliable (hf : ∀ n, env.fails n = false) (name : String)
    (socket : Option String) (w0 : World) :
    attachVm env name socket w0 =
      (some (env.addressWidth.setWidth 64), pausedWorld env name socket w0) := by
  simp only [attachVm, Fragment.bind_apply, vmiOr_of_not_fails, hf, vmiDo, Fragment.pure_apply,
    vmi_out_getAddressWidth]
  rfl

theorem pausedWorld_paused (hf : ∀ n, env.fails n = false) (name : String)
    (socket : Option String) (w0 : World) :
    (pausedWorld env name socket w0).paused = true := by
  unfold pausedWorld vmi
  rw [if_neg (by simp [hf])]
  rfl

/-- On a paused guest the lookups answer the symbols and the `NumberOfServices` in memory, and
leave memory and the pause as they were. -/
theorem lookupSsdt_of_paused (hf : ∀ n, env.fails n = false) (addrWidth : BitVec 64) {W : World}
    (hp : W.paused = true) :
    ∃ W', lookupSsdt env addrWidth W =
      (some ⟨decide (addrWidth = 8), env.ksym2v "KiServiceTable", env.ksym2v "NtLoadDriver",
        readAddr env W.mem (env.ksym2v "KeServiceDescriptorTable" + addrWidth * 2)⟩, W') ∧
      W'.paused = true ∧ W'.mem = W.mem := by
  simp only [lookupSsdt, Fragment.bind_apply, vmiOr_of_paused, hp, hf, VmiCall.isWrite, ne_eq,
    reduceCtorEq, not_false_eq_true]
  exact ⟨_, rfl, rfl, rfl⟩

/-- On a paused guest the search and its `-1` check answer the first resolving entry in memory. -/
theorem findNtLoadDriverEntry_of_paused (hf : ∀ n, env.fails n = false) (l : Located) {W : World}
    (hp : W.paused = true) :
    (findNtLoadDriverEntry env l W).1 =
      (firstResolving (syscallAddr l.is64 l.kiSvTableAddr)
        (fun j => read32 W.mem (entryAddr l.kiSvTableAddr j)) l.ntloadDriverAddr 0
        (loopCount l.nbServices)).map
        fun p => ⟨l.is64, l.kiSvTableAddr, l.ntloadDriverAddr, p.1, p.2⟩ := by
  have hs := ssdtSearch_of_paused env l.is64 l.kiSvTableAddr l.ntloadDriverAddr 0
    (loopCount l.nbServices) W hp fun _ _ => hf _
  unfold findNtLoadDriverEntry
  rw [Fragment.bind_apply]
  rcases h : ssdtSearch env l.is64 l.kiSvTableAddr l.ntloadDriverAddr 0 (loopCount l.nbServices) W
    with ⟨r, W'⟩
  rw [h] at hs
  obtain rfl : r = _ := hs
  rcases firstResolving (syscallAddr l.is64 l.kiSvTableAddr)
    (fun j => read32 W.mem (entryAddr l.kiSvTableAddr j)) l.ntloadDriverAddr 0
    (loopCount l.nbServices) with _ | ⟨i, v⟩ <;> rfl

/-- What the prologue is for: on the table as it is in memory `m`, the first of the
`(int)NumberOfServices` entries to resolve to `NtLoadDriver`, as `main` decodes them. -/
def expectedEntry (env : Env) (m : Mem) : Option Found :=
  let addrWidth := env.addressWidth.setWidth 64
  let is64 := decide (addrWidth = 8)
  let ki := env.ksym2v "KiServiceTable"
  let nt := env.ksym2v "NtLoadDriver"
  let nb := readAddr env m (env.ksym2v "KeServiceDescriptorTable" + addrWidth * 2)
  (firstResolving (syscallAddr is64 ki) (fun j => read32 m (entryAddr ki j)) nt 0
    (loopCount nb)).map fun p => ⟨is64, ki, nt, p.1, p.2⟩

/-- **The prologue computes the search.** When no call fails, the first half of `main` answers
the first entry of `KiServiceTable` to resolve to `NtLoadDriver`, in memory as the guest left it
when paused, or leaves for `error_exit` if there is none. -/
theorem prologue_of_reliable (hf : ∀ n, env.fails n = false) (name : String)
    (socket : Option String) (w0 : World) :
    ((locateSsdt env name socket >>= findNtLoadDriverEntry env) w0).1 =
      expectedEntry env (pausedWorld env name socket w0).mem := by
  obtain ⟨W', hL, hp', hm'⟩ :=
    lookupSsdt_of_paused hf (env.addressWidth.setWidth 64) (pausedWorld_paused hf name socket w0)
  rw [Fragment.bind_apply, locateSsdt, Fragment.bind_apply, attachVm_of_reliable hf]
  dsimp only
  rw [hL]
  dsimp only
  rw [findNtLoadDriverEntry_of_paused hf _ hp', hm']
  rfl

/-- With no call failing, the event loop runs all its `k` iterations. -/
theorem waitForEvents_of_reliable (hf : ∀ n, env.fails n = false) (k : Nat) (w : World) :
    (waitForEvents env k w).1 = some () := by
  induction k generalizing w with
  | zero => rfl
  | succ k ih => simp only [waitForEvents, Fragment.bind_apply, vmiOr_of_not_fails, hf, ih]

/-- With no call failing, `protectEntry` runs to the signal. -/
theorem protectEntry_of_reliable (hf : ∀ n, env.fails n = false) (f : Found) (entry : Addr)
    (k : Nat) (w : World) : (protectEntry env f entry k w).1 = some () := by
  simp only [protectEntry_eq_armEntry, armEntry, Fragment.bind_apply, vmiOr_of_not_fails, hf,
    vmiDo, Fragment.pure_apply, waitForEvents_of_reliable hf]

/-- **What `main`'s exit code says.** When no call fails, `main` past its arguments exits with
`0` exactly when the table, as the guest left it when paused, holds among its
`(int)NumberOfServices` entries one that resolves to `NtLoadDriver`, and with `1` otherwise,
however many event-loop iterations come before the signal. -/
theorem runAttached_exit_code_of_reliable (hf : ∀ n, env.fails n = false) (name : String)
    (socket : Option String) (k : Nat) (w0 : World) :
    (runAttached env name socket k w0).1 =
      if (expectedEntry env (pausedWorld env name socket w0).mem).isSome then 0 else 1 := by
  rw [← prologue_of_reliable hf name socket w0]
  unfold runAttached
  rcases (locateSsdt env name socket >>= findNtLoadDriverEntry env) w0 with ⟨_ | f, w1⟩
  · rfl
  -- an entry was found: the corrupting write and `protectEntry` run to their ends
  dsimp only
  rw [vmiOr_of_not_fails (hf _)]
  dsimp only
  have hp := protectEntry_of_reliable hf f (entryAddr f.kiSvTableAddr f.index) k
    (vmi env (.write32Va (entryAddr f.kiSvTableAddr f.index) 0) w1).2.2
  rcases hq : protectEntry env f (entryAddr f.kiSvTableAddr f.index) k
    (vmi env (.write32Va (entryAddr f.kiSvTableAddr f.index) 0) w1).2.2 with ⟨o, w3⟩
  rw [hq] at hp
  obtain rfl : o = some () := hp
  rfl

end Prologue

/-- A running 32-bit guest whose calls all succeed, with `KeServiceDescriptorTable` at `0x100`,
`KiServiceTable` at `0x1000` and `NtLoadDriver` at `0x2000`. -/
def twoEntryEnv : Env :=
  ⟨fun _ => false, 4, fun s => if s = "KeServiceDescriptorTable" then 0x100
    else if s = "KiServiceTable" then 0x1000 else 0x2000, 0, fun _ _ => 0, fun _ m => m⟩

/-- Over `twoEntryTable`, the prologue reads `NumberOfServices = 2` two pointers into
`KeServiceDescriptorTable`, passes entry 0 and finds `NtLoadDriver` at entry 1, as
`expectedEntry` says. -/
theorem prologue_of_reliable_two_entries :
    (∀ n, twoEntryEnv.fails n = false) ∧
      ((locateSsdt twoEntryEnv "win7" none >>= findNtLoadDriverEntry twoEntryEnv)
          ⟨twoEntryTable, false, 0, [], []⟩).1 =
        expectedEntry twoEntryEnv
          (pausedWorld twoEntryEnv "win7" none ⟨twoEntryTable, false, 0, [], []⟩).mem ∧
      expectedEntry twoEntryEnv
          (pausedWorld twoEntryEnv "win7" none ⟨twoEntryTable, false, 0, [], []⟩).mem =
        some ⟨false, 0x1000, 0x2000, 1, 0x2000⟩ :=
  ⟨fun _ => rfl, @prologue_of_reliable twoEntryEnv (fun _ => rfl) "win7" none _, rfl⟩

/-- On that guest `main` past its arguments exits with `0`. -/
theorem runAttached_exit_code_two_entries :
    (∀ n, twoEntryEnv.fails n = false) ∧
      (runAttached twoEntryEnv "win7" none 1 ⟨twoEntryTable, false, 0, [], []⟩).1 = 0 :=
  ⟨fun _ => rfl,
    (@runAttached_exit_code_of_reliable twoEntryEnv (fun _ => rfl) "win7" none 1 _).trans rfl⟩

end LibVmi.FoolPatchguard
