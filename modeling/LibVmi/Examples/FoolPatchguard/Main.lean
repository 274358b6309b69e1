import LibVmi.Examples.FoolPatchguard.Search

/-!
# `main` of `fool-patchguard`

`main` pauses the guest, finds `NtLoadDriver`'s entry in the SSDT, overwrites it with `0`,
watches the entry's frame with `cb_on_rw_access`, resumes the guest, and listens for events
until a signal arrives. Every failure takes `goto error_exit`, which writes the entry back if
`is_corrupted`, resumes the guest, and destroys the libvmi instance.

The straight-line stretches are `Fragment`s, cut where `main`'s state changes meaning:

* `locateSsdt` (lines 207-276) — `attachVm` attaches, then reads the width and pauses
  (`widthAndPause`), and `lookupSsdt` looks up the three symbols and `NumberOfServices`;
* `findNtLoadDriverEntry` (lines 278-310) — the search loop and its `-1` check;
* the corrupting write (lines 313-320), after which `is_corrupted` holds;
* `protectEntry` (lines 322-378) — flush, re-read, find the frame, register the event and resume
  (`armEntry`), then `waitForEvents` for the `k` iterations before the signal;
* `errorExit` (lines 382-392).

`runAttached_exit` says once how every run past the arguments reaches `error_exit`.
-/

namespace LibVmi.FoolPatchguard

open LibVmi.Memory LibVmi.Events

/-- What `main` holds after line 276: the guest's width, `KiServiceTable`, `NtLoadDriver`, and
`SSDT.NumberOfServices`. -/
structure Located where
  is64 : Bool
  kiSvTableAddr : Addr
  ntloadDriverAddr : Addr
  nbServices : BitVec 64

/-- What `main` holds after line 310: the entry it found, with the value it read there. -/
structure Found where
  is64 : Bool
  kiSvTableAddr : Addr
  ntloadDriverAddr : Addr
  index : Nat
  val : BitVec 32

/-- Lines 207-227: attach to the VM, read its address width, and pause it. -/
def attachVm (env : Env) (name : String) (socket : Option String) : Fragment (BitVec 64) := do
  let _ ← vmiOr env (.initComplete name socket) none
  let addrWidth ← vmiDo env .getAddressWidth
  let _ ← vmiOr env .pauseVm (some "Failed to pause vm\n")
  pure addrWidth

/-- Lines 215-224, once the instance exists: the guest's width, and the guest paused. -/
def widthAndPause (env : Env) : Fragment (BitVec 64) := do
  let addrWidth ← vmiDo env .getAddressWidth
  let _ ← vmiOr env .pauseVm (some "Failed to pause vm\n")
  pure addrWidth

/-- Lines 216-218 and 229-276, on the paused guest of width `addrWidth`: the three symbols, and
`SSDT.NumberOfServices`, which the `SSDTStruct` puts two pointers into
`KeServiceDescriptorTable`. -/
def lookupSsdt (env : Env) (addrWidth : BitVec 64) : Fragment Located := do
  let is64 := decide (addrWidth = 8)
  let keSdTableAddr ← vmiOr env (.translateKsym2v "KeServiceDescriptorTable")
    (some "Failed to translate KeServiceDescriptorTable symbol\n")
  let kiSvTableAddr ← vmiOr env (.translateKsym2v "KiServiceTable")
    (some "Failed to translate KiServiceTable symbol\n")
  let ntloadDriverAddr ← vmiOr env (.translateKsym2v "NtLoadDriver")
    (some "Failed to translate NtAddDriverEntry symbol\n")
  let nbServicesAddr := keSdTableAddr + addrWidth * 2
  let nbServices ← vmiOr env (.readAddrVa nbServicesAddr)
    (some "Failed to read SSDT.NumberOfServices field\n")
  pure ⟨is64, kiSvTableAddr, ntloadDriverAddr, nbServices⟩

/-- Lines 207-276. -/
def locateSsdt (env : Env) (name : String) (socket : Option String) : Fragment Located :=
  attachVm env name socket >>= lookupSsdt env

/-- Lines 278-310. -/
def findNtLoadDriverEntry (env : Env) (l : Located) : Fragment Found := do
  let r ← ssdtSearch env l.is64 l.kiSvTableAddr l.ntloadDriverAddr 0 (loopCount l.nbServices)
  match r with
  | none => Fragment.fail "Failed to find NtLoadDriver SSDT entry\n"
  | some (i, v) => pure ⟨l.is64, l.kiSvTableAddr, l.ntloadDriverAddr, i, v⟩

/-- Lines 373-378: `k` calls of `vmi_events_listen(vmi, 500)` before `interrupted` is seen set. -/
def waitForEvents (env : Env) : Nat → Fragment Unit
  | 0 => pure ()
  | k + 1 => do
    let _ ← vmiOr env (.eventsListen 500) (some "Failed to listen on VMI events\n")
    waitForEvents env k

/-- Lines 322-378, with the corrupted entry at `entry`. -/
def protectEntry (env : Env) (f : Found) (entry : Addr) (k : Nat) : Fragment Unit := do
  let _ ← vmiDo env .pagecacheFlush
  let _ ← vmiOr env (.read32Va entry) (some "Failed to read NtLoadDriver SSDT entry\n")
  let cr3 ← vmiOr env .getVcpuregCr3 (some "Failed to get current CR3\n")
  let dtb := cr3 &&& ~~~0xfff
  let syscallEntryPaddr ← vmiOr env (.pagetableLookup dtb entry)
    (some "Failed to find current paddr\n")
  let syscallEntryGfn := syscallEntryPaddr >>> 12
  let _ ← vmiOr env (.registerEvent syscallEntryGfn vmiMemaccessRw
      (cbDataOf f.is64 entry f.ntloadDriverAddr)) (some "Failed to register event\n")
  let _ ← vmiOr env .resumeVm (some "Failed to continue VM\n")
  waitForEvents env k

/-- Lines 322-371: `protectEntry` up to its loop. -/
def armEntry (env : Env) (f : Found) (entry : Addr) : Fragment Unit := do
  let _ ← vmiDo env .pagecacheFlush
  let _ ← vmiOr env (.read32Va entry) (some "Failed to read NtLoadDriver SSDT entry\n")
  let cr3 ← vmiOr env .getVcpuregCr3 (some "Failed to get current CR3\n")
  let dtb := cr3 &&& ~~~0xfff
  let syscallEntryPaddr ← vmiOr env (.pagetableLookup dtb entry)
    (some "Failed to find current paddr\n")
  let syscallEntryGfn := syscallEntryPaddr >>> 12
  let _ ← vmiOr env (.registerEvent syscallEntryGfn vmiMemaccessRw
      (cbDataOf f.is64 entry f.ntloadDriverAddr)) (some "Failed to register event\n")
  let _ ← vmiOr env .resumeVm (some "Failed to continue VM\n")
  pure ()

theorem protectEntry_eq_armEntry (env : Env) (f : Found) (entry : Addr) (k : Nat) :
    protectEntry env f entry k = armEntry env f entry >>= fun _ => waitForEvents env k := by
  simp only [protectEntry, armEntry, Fragment.bind_assoc, Fragment.pure_bind]

/-- Lines 383-389: write the entry back if it was corrupted. -/
def restoreEntry (env : Env) (isCorrupted : Bool) (ntloadDriverEntryAddr : Addr)
    (ntloadServiceTableVal : BitVec 32) (w : World) : World :=
  if isCorrupted then
    let r := vmi env (.write32Va ntloadDriverEntryAddr ntloadServiceTableVal) w
    if r.1 = .failure then r.2.2.err "Failed to restore SSDT entry\n" else r.2.2
  else w

/-- Lines 382-392, `error_exit`. -/
def errorExit (env : Env) (isCorrupted : Bool) (ntloadDriverEntryAddr : Addr)
    (ntloadServiceTableVal : BitVec 32) (w : World) : World :=
  let w := restoreEntry env isCorrupted ntloadDriverEntryAddr ntloadServiceTableVal w
  let w := (vmi env .resumeVm w).2.2
  (vmi env .destroy w).2.2

/-- Lines 207-400 of `main`, once the arguments are read: its exit code and the world it
leaves. The stop signal arrives after `k` iterations of the event loop. -/
def runAttached (env : Env) (name : String) (socket : Option String) (k : Nat) (w : World) :
    Int × World :=
  match (locateSsdt env name socket >>= findNtLoadDriverEntry env) w with
  | (none, w) => (1, errorExit env false 0 0 w)
  | (some f, w) =>
    let ntloadDriverEntryAddr := entryAddr f.kiSvTableAddr f.index
    match vmiOr env (.write32Va ntloadDriverEntryAddr 0)
        (some "Failed to corrupt NtLoadDriver SSDT entry\n") w with
    | (none, w) => (1, errorExit env false ntloadDriverEntryAddr f.val w)
    | (some _, w) =>
      match protectEntry env f ntloadDriverEntryAddr k w with
      | (none, w) => (1, errorExit env true ntloadDriverEntryAddr f.val w)
      | (some _, w) => (0, errorExit env true ntloadDriverEntryAddr f.val w)

/-- How every run past the arguments ends: in `error_exit`, from where the prologue stopped when
it found nothing, and otherwise from where the corrupting write, or `protectEntry` after it,
stopped. So a property of the world that holds where the prologue found `f`, and that those two
keep, holds where `error_exit` starts. -/
theorem runAttached_exit (env : Env) (name : String) (socket : Option String) (k : Nat)
    (w0 : World) :
    (∃ w1, (locateSsdt env name socket >>= findNtLoadDriverEntry env) w0 = (none, w1) ∧
      (runAttached env name socket k w0).2 = errorExit env false 0 0 w1) ∨
    ∃ f w1 b w, (locateSsdt env name socket >>= findNtLoadDriverEntry env) w0 = (some f, w1) ∧
      (runAttached env name socket k w0).2 =
        errorExit env b (entryAddr f.kiSvTableAddr f.index) f.val w ∧
      ∀ P : World → Prop,
        Keeps P (vmiOr env (.write32Va (entryAddr f.kiSvTableAddr f.index) 0)
          (some "Failed to corrupt NtLoadDriver SSDT entry\n")) →
        Keeps P (protectEntry env f (entryAddr f.kiSvTableAddr f.index) k) → P w1 → P w := by
  unfold runAttached
  rcases (locateSsdt env name socket >>= findNtLoadDriverEntry env) w0 with ⟨_ | f, w1⟩
  · exact .inl ⟨w1, rfl, rfl⟩
  refine .inr ⟨f, w1, ?_⟩
  dsimp only
  rcases hc : vmiOr env (.write32Va (entryAddr f.kiSvTableAddr f.index) 0)
    (some "Failed to corrupt NtLoadDriver SSDT entry\n") w1 with ⟨_ | _, w2⟩
  · -- the write failed: `error_exit` leaves the entry alone
    refine ⟨false, w2, rfl, rfl, fun P hW _ h1 => ?_⟩
    have h2 := hW w1 h1
    rwa [hc] at h2
  · -- the entry is corrupted: `error_exit` writes it back
    refine ⟨true, (protectEntry env f (entryAddr f.kiSvTableAddr f.index) k w2).2, rfl, ?_,
      fun P hW hQ h1 => ?_⟩
    · dsimp only
      rcases protectEntry env f (entryAddr f.kiSvTableAddr f.index) k w2 with ⟨_ | _, w3⟩ <;> rfl
    · have h2 := hW w1 h1
      rw [hc] at h2
      exact hQ w2 h2

/-- `main`: its exit code and the world it leaves. `argv` is the command line. -/
def main (env : Env) (argv : List String) (k : Nat) (w : World) : Int × World :=
  if argv.length < 2 then
    (1, w.err ("Usage: " ++ argv.headD "" ++ " <name of VM> [<socket>]\n"))
  else
    runAttached env (argv.getD 1 "") (if argv.length = 3 then some (argv.getD 2 "") else none) k w

end LibVmi.FoolPatchguard
