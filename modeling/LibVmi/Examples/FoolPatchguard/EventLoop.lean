import LibVmi.Examples.FoolPatchguard.Restore

/-!
# The event loop and its callback

`main`'s loop (lines 373-378) calls `vmi_events_listen(vmi, 500)` until the signal arrives.
Inside each call libvmi runs `cb_on_rw_access` on every access that the hypervisor trapped on
the watched frame. `waitForEvents` is the loop as `main` sees it; this file adds the callbacks,
and shows that they never emulate.

* `Deliveries` — what the hypervisor hands each listen call: the trapped accesses, each with
  its `rip`, and how far the callback's `vmi_read_va` at `rip` gets;
* `listenLoop`, `runAttachedWith` — the loop with its callbacks, and `main`, past its
  arguments, with that loop;
* `cbOnRwAccess_rsp_of_zero_entry`, `listenLoop_rsp_of_zero_entry` — a callback emulates only
  an access by the instruction at the entry's own address, and decodes the bytes it reads
  there. While the entry holds the corrupted `0`, they begin with `00`, x86's
  `ADD r/m8, r8`, which the sizer rejects;
* `callbacks_never_emulate` — so in every run of `main`, while nothing else writes the entry,
  every callback answers `VMI_EVENT_RESPONSE_NONE`: the buffer `main` prepares is never handed
  out.
-/

namespace LibVmi.FoolPatchguard

open LibVmi.Memory LibVmi.Events

/-! ### The callbacks of a listen call -/

/-- What the hypervisor and libvmi do inside the listen call made at clock `n`. -/
structure Deliveries where
  /-- The accesses trapped on the watched frame, each with the `rip` of the vCPU that made it. -/
  pending : Nat → List (MemEvent × Addr)
  /-- `vmi_read_va(vmi, a, 0, count, …)` in a callback: its status, and `bytes_read`. -/
  readVa : Nat → Addr → Nat → Status × Nat

/-- The callback's `vmi_read_va` on guest memory `m`: the status libvmi answers, and the bytes
it copied from `a` on. -/
def readVaOn (m : Mem) (r : Addr → Nat → Status × Nat) (a : Addr) (count : Nat) :
    Status × List Byte :=
  ((r a count).1, m.bytes a (min (r a count).2 count))

/-- The callbacks run inside the listen call at clock `n`, on memory `m`: `cb_on_rw_access` on
each delivered access in turn, with `event->data` the registered `cb_data` and
`event->emul_read` still `NULL`. -/
def dispatch (nd : Bddisasm) (dl : Deliveries) (data : CbData) (m : Mem) (n : Nat) :
    List Handled :=
  (dl.pending n).map fun e => cbOnRwAccess nd (readVaOn m (dl.readVa n)) ⟨e.1, e.2, data, none⟩

/-- `fprintf(stderr, …)` of each of `msgs`. -/
def World.errs (w : World) (msgs : List String) : World := { w with stderr := w.stderr ++ msgs }

/-- Lines 373-378 with the callbacks: `k` calls of `vmi_events_listen(vmi, 500)`, each running
the callbacks on the accesses delivered during it (a call that fails runs none). The answer: how
the loop ends, the world after it, and the callbacks' results in the order they ran. -/
def listenLoop (env : Env) (nd : Bddisasm) (dl : Deliveries) (data : CbData) :
    Nat → World → Option Unit × World × List Handled
  | 0, w => (some (), w, [])
  | k + 1, w =>
    match vmiOr env (.eventsListen 500) (some "Failed to listen on VMI events\n") w with
    | (none, w') => (none, w', [])
    | (some _, w') =>
      let hs := dispatch nd dl data w'.mem w.clock
      let r := listenLoop env nd dl data k (w'.errs (hs.flatMap (·.stderr)))
      (r.1, r.2.1, hs ++ r.2.2)

/-- Lines 207-400 with the callbacks of the event loop: the exit code, the world left, and the
callbacks' results. The callbacks get the `cb_data` that line 358 attaches to the registered
event. -/
def runAttachedWith (env : Env) (nd : Bddisasm) (dl : Deliveries) (name : String)
    (socket : Option String) (k : Nat) (w : World) : Int × World × List Handled :=
  match (locateSsdt env name socket >>= findNtLoadDriverEntry env) w with
  | (none, w) => (1, errorExit env false 0 0 w, [])
  | (some f, w) =>
    let ntloadDriverEntryAddr := entryAddr f.kiSvTableAddr f.index
    match vmiOr env (.write32Va ntloadDriverEntryAddr 0)
        (some "Failed to corrupt NtLoadDriver SSDT entry\n") w with
    | (none, w) => (1, errorExit env false ntloadDriverEntryAddr f.val w, [])
    | (some _, w) =>
      match armEntry env f ntloadDriverEntryAddr w with
      | (none, w) => (1, errorExit env true ntloadDriverEntryAddr f.val w, [])
      | (some _, w) =>
        match listenLoop env nd dl (cbDataOf f.is64 ntloadDriverEntryAddr f.ntloadDriverAddr) k w
          with
        | (none, w, hs) => (1, errorExit env true ntloadDriverEntryAddr f.val w, hs)
        | (some _, w, hs) => (0, errorExit env true ntloadDriverEntryAddr f.val w, hs)

/-! ### The callback never emulates -/

/-- x86 encodes `ADD r/m8, r8` as `00 /r` in every mode, and `00` is no prefix: a decoder that
follows the encoding decodes no buffer beginning with `00` to a move. -/
def DecodesAddAtZero (nd : Bddisasm) : Prop :=
  ∀ buf c d, buf.head? = some 0 → ndSuccess (nd.ndDecodeEx buf c d).1 = true →
    (nd.ndDecodeEx buf c d).2.instruction.isMove = false

/-- **An entry that begins with `00` is never emulated.** The handler emulates only an access by
the instruction at the entry's address, and decodes the bytes it reads there. When the entry's
first byte is `00`, a decoder that follows x86 finds no move there, and the answer is `NONE`. -/
theorem cbOnRwAccess_rsp_of_zero_entry {nd : Bddisasm} (hnd : DecodesAddAtZero nd) {m : Mem}
    (r : Addr → Nat → Status × Nat) (event : VmiEvent CbData)
    (hz : m event.data.ntloadDriverEntryAddr = 0) :
    (cbOnRwAccess nd (readVaOn m r) event).rsp = vmiEventResponseNone := by
  rcases cbOnRwAccess_cases nd (readVaOn m r) event with ⟨he, -, -⟩ | ⟨-, hr, -⟩
  · simp only [emulates, Bool.and_eq_true, beq_iff_eq] at he
    obtain ⟨⟨-, hd⟩, hrip⟩ := he
    split at hd
    · rename_i insn hok
      obtain ⟨hlen, hsucc, rfl⟩ := decodeAtRip_buffer hok
      have hhead : (readVaOn m r event.rip maxSizeX86Insn).2.head? = some 0 := by
        simp only [readVaOn, Mem.bytes_length] at hlen ⊢
        rw [Mem.bytes_head? _ _ (by rw [hlen]; decide), hrip, hz]
      have hmove := memAccessSizeFromInsn_isMove hd
      rw [hnd _ _ _ hhead hsucc] at hmove
      cases hmove
    · cases hd
  · exact hr

/-- While the entry holds the corrupted `0` and the guest leaves it alone, no callback of the
loop emulates. -/
theorem listenLoop_rsp_of_zero_entry {env : Env} {nd : Bddisasm} (hnd : DecodesAddAtZero nd)
    (dl : Deliveries) (data : CbData) (hg : GuestSparesSlot env data.ntloadDriverEntryAddr)
    (k : Nat) {w : World} (hw : w.mem.bytes data.ntloadDriverEntryAddr 4 = leBytes 4 0) :
    ∀ h ∈ (listenLoop env nd dl data k w).2.2, h.rsp = vmiEventResponseNone := by
  induction k generalizing w with
  | zero => simp [listenLoop]
  | succ k ih =>
    simp only [listenLoop]
    rcases hv : vmiOr env (.eventsListen 500) (some "Failed to listen on VMI events\n") w
      with ⟨_ | u, w'⟩
    · simp
    · have hmem : w'.mem.bytes data.ntloadDriverEntryAddr 4 = leBytes 4 0 := by
        have h := (vmi_spec env (.eventsListen 500) w).2.2 rfl
        rw [vmiOr_eq_some hv] at h
        rw [h, running_bytes hg, hw]
      have hz : w'.mem data.ntloadDriverEntryAddr = 0 := by
        have h := Mem.bytes_head? w'.mem data.ntloadDriverEntryAddr (n := 4) (by decide)
        rw [hmem] at h
        exact (Option.some.inj h).symm
      intro h hh
      rcases List.mem_append.mp hh with hh | hh
      · obtain ⟨e, -, rfl⟩ := List.mem_map.mp hh
        exact cbOnRwAccess_rsp_of_zero_entry hnd _ _ hz
      · exact ih (w := w'.errs _) hmem h hh

/-- The entry a run of `main` corrupts: the one its search finds, if it finds one. -/
def corruptedEntry (env : Env) (name : String) (socket : Option String) (w0 : World) :
    Option Addr :=
  ((locateSsdt env name socket >>= findNtLoadDriverEntry env) w0).1.map
    fun f => entryAddr f.kiSvTableAddr f.index

/-- **The callback never emulates.** In every run of `main` past its arguments, with a decoder
that follows x86's encoding of `00`, and while the guest leaves alone the entry `main`
corrupts, every callback answers `VMI_EVENT_RESPONSE_NONE`. -/
theorem callbacks_never_emulate (env : Env) (nd : Bddisasm) (dl : Deliveries) (name : String)
    (socket : Option String) (k : Nat) (w0 : World) (hnd : DecodesAddAtZero nd)
    (hg : ∀ A, corruptedEntry env name socket w0 = some A → GuestSparesSlot env A) :
    ∀ h ∈ (runAttachedWith env nd dl name socket k w0).2.2, h.rsp = vmiEventResponseNone := by
  unfold runAttachedWith
  rcases hP : (locateSsdt env name socket >>= findNtLoadDriverEntry env) w0 with ⟨_ | f, w1⟩
  · simp
  have hgA := hg (entryAddr f.kiSvTableAddr f.index) (by simp [corruptedEntry, hP])
  dsimp only
  rcases hW : vmiOr env (.write32Va (entryAddr f.kiSvTableAddr f.index) 0)
    (some "Failed to corrupt NtLoadDriver SSDT entry\n") w1 with ⟨_ | u, w2⟩
  · simp
  -- the corrupting write leaves `0` in the entry
  have h2 : w2.mem.bytes (entryAddr f.kiSvTableAddr f.index) 4 = leBytes 4 0 := by
    have hv := vmiOr_eq_some hW
    have h := vmi_write32 (by rw [hv])
    rw [hv] at h
    rw [h, bytes_write32]
    rfl
  dsimp only
  rcases hQ : armEntry env f (entryAddr f.kiSvTableAddr f.index) w2 with ⟨_ | u, w3⟩
  · simp
  -- arming the watch leaves it there
  have h3 : w3.mem.bytes (entryAddr f.kiSvTableAddr f.index) 4 = leBytes 4 0 := by
    have h0 : SlotHolds _ (leBytes 4 0) w2.trace w2 := ⟨h2, [], by simp, by simp⟩
    have h := armEntry_keeps (keptByReads_slotHolds hgA) f (entryAddr f.kiSvTableAddr f.index)
      w2 h0
    rw [hQ] at h
    exact h.1
  have hl := listenLoop_rsp_of_zero_entry hnd dl
    (cbDataOf f.is64 (entryAddr f.kiSvTableAddr f.index) f.ntloadDriverAddr) hgA k h3
  dsimp only
  generalize listenLoop env nd dl _ k w3 = r at hl ⊢
  rcases r with ⟨_ | _, w4, hs⟩ <;> exact hl

/-- A decoder that follows x86 on `00` (`ADD r/m8, r8`) and reads every other buffer as
`movEaxEntry`. -/
def addOrMovDecoder : Bddisasm :=
  ⟨fun buf _ _ => (0, if buf.head? = some 0 then ⟨.other 0, ndAccessRead, [⟨.mem, 1⟩, ⟨.reg, 1⟩]⟩
    else movEaxEntry), fun _ => "add byte ptr [rax], al"⟩

theorem addOrMovDecoder_decodesAddAtZero : DecodesAddAtZero addOrMovDecoder :=
  fun _ _ _ h _ => by simp [addOrMovDecoder, h, NdInsClass.isMove]

/-- One read of the entry at address `0`, by the instruction at address `0`, in every listen
call; every `vmi_read_va` of the callback succeeds in full. -/
def entryDeliveries : Deliveries :=
  ⟨fun _ => [(⟨⟨true, false, false⟩, 0, 0, 0⟩, 0)], fun _ _ n => (.success, n)⟩

/-- A running guest whose `NumberOfServices`, with every symbol at `0`, is `1`. -/
def oneServiceWorld : World := ⟨fun a => if a = 16 then 1 else 0, false, 0, [], []⟩

/-- With every symbol at `0`, `main` corrupts entry `0` and one callback runs on a read by the
instruction at the entry, and answers `NONE`. -/
theorem callbacks_never_emulate_one_service :
    DecodesAddAtZero addOrMovDecoder ∧
      (∀ A, corruptedEntry reliableEnv "win7" none oneServiceWorld = some A →
        GuestSparesSlot reliableEnv A) ∧
      (runAttachedWith reliableEnv addOrMovDecoder entryDeliveries "win7" none 1
        oneServiceWorld).2.2.length = 1 ∧
      ∀ h ∈ (runAttachedWith reliableEnv addOrMovDecoder entryDeliveries "win7" none 1
        oneServiceWorld).2.2, h.rsp = vmiEventResponseNone :=
  ⟨addOrMovDecoder_decodesAddAtZero, fun _ _ _ _ => rfl, rfl,
    callbacks_never_emulate reliableEnv addOrMovDecoder entryDeliveries "win7" none 1
      oneServiceWorld addOrMovDecoder_decodesAddAtZero fun _ _ _ _ => rfl⟩

end LibVmi.FoolPatchguard
