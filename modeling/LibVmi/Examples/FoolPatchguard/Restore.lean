import LibVmi.Examples.FoolPatchguard.Main

/-!
# `main` puts the entry back

Whatever the libvmi calls answer and whenever the signal arrives, `main` leaves the guest as
it found it: the only writes it makes are the corrupting write of `0` and, in `error_exit`,
the write of the value the search read from that same slot; and it resumes the guest after
pausing it. The proof follows `main`'s phases:

* `locateSsdt_keeps`, `findNtLoadDriverEntry_keeps`, `protectEntry_keeps`, one per phase — a
  phase keeps every world property that its calls keep: those `main` makes while its instance
  lives, writes apart (`KeptByReads`), and, for the lookups, `vmi_init_complete`. Here two such
  properties are used, that the trace only grew by reads (`AppendsReads`) and that the entry
  still holds its bytes, every read of it having answered them (`SlotHolds`); `Bounds` and
  `Lifecycle` use the same lemmas for theirs;
* `prologue_found`, `prologue_found_value` — the entry the search found was read, successfully,
  at its address, and (if nothing else writes it) holds the value read until the corruption;
* `errorExit_trace`, `errorExit_restores` — `error_exit` writes the entry back if it is
  corrupted, then resumes the guest and destroys the instance; `errorExit_intact` and
  `errorExit_corrupted` give the two kinds of exit, before and after the corrupting write;
* `main_restores_entry` — every run of `main`: its trace grows by `Δ`, `Δ` resumes after every
  pause, and its writes are none, the failed corrupting write alone, or the corrupting write
  followed by the restoring one, which leaves the entry as it was before the run.
-/

namespace LibVmi.FoolPatchguard

open LibVmi.Memory LibVmi.Events

/-! ### Frames of the phases -/

/-- `P` is kept by every call `main` makes while its instance lives, other than its writes
(`VmiCall.isRead`), and by printing to `stderr`. -/
def KeptByReads (env : Env) (P : World → Prop) : Prop :=
  (∀ c, c.isRead = true → ∀ w, P w → P (vmi env c w).2.2) ∧
    ∀ w msg, P w → P (w.err msg)

section Phases

variable {env : Env} {P : World → Prop}

theorem KeptByReads.vmiOr (h : KeptByReads env P) {c : VmiCall} (hc : c.isRead = true)
    (msg : Option String) : Keeps P (vmiOr env c msg) :=
  keeps_vmiOr (h.1 c hc) h.2 msg

theorem KeptByReads.vmiDo (h : KeptByReads env P) {c : VmiCall} (hc : c.isRead = true) :
    Keeps P (vmiDo env c) :=
  keeps_vmiDo (h.1 c hc)

theorem widthAndPause_keeps (h : KeptByReads env P) : Keeps P (widthAndPause env) :=
  (h.vmiDo (by rfl)).bind fun _ => (h.vmiOr (by rfl) _).bind fun _ => Keeps.pure _

theorem lookupSsdt_keeps (h : KeptByReads env P) (aw : BitVec 64) :
    Keeps P (lookupSsdt env aw) :=
  (h.vmiOr (by rfl) _).bind fun _ => (h.vmiOr (by rfl) _).bind fun _ =>
    (h.vmiOr (by rfl) _).bind fun _ => (h.vmiOr (by rfl) _).bind fun _ => Keeps.pure _

/-- `locateSsdt`, cut after `vmi_init_complete`. -/
theorem locateSsdt_eq (env : Env) (name : String) (socket : Option String) :
    locateSsdt env name socket = vmiOr env (.initComplete name socket) none >>= fun _ =>
      widthAndPause env >>= lookupSsdt env := by
  simp only [locateSsdt, attachVm, widthAndPause, Fragment.bind_assoc]

/-- The lookups keep what their calls and `vmi_init_complete` keep. -/
theorem locateSsdt_keeps (h : KeptByReads env P) (name : String) (socket : Option String)
    (hinit : ∀ w, P w → P (vmi env (.initComplete name socket) w).2.2) :
    Keeps P (locateSsdt env name socket) := by
  rw [locateSsdt_eq]
  exact (keeps_vmiOr hinit h.2 none).bind fun _ =>
    (widthAndPause_keeps h).bind (lookupSsdt_keeps h)

theorem ssdtSearch_keeps (h : KeptByReads env P) (is64 : Bool) (ki nt : Addr) (i count : Nat) :
    Keeps P (ssdtSearch env is64 ki nt i count) := by
  induction count generalizing i with
  | zero => exact Keeps.pure _
  | succ count ih => exact Keeps.bind (h.vmiOr (by rfl) _) fun _ => Keeps.ite (Keeps.pure _) (ih _)

theorem findNtLoadDriverEntry_keeps (h : KeptByReads env P) (l : Located) :
    Keeps P (findNtLoadDriverEntry env l) := by
  refine Keeps.bind (ssdtSearch_keeps h _ _ _ _ _) fun r => ?_
  rcases r with _ | ⟨i, v⟩
  · exact Keeps.fail h.2 _
  · exact Keeps.pure _

theorem waitForEvents_keeps (h : KeptByReads env P) (k : Nat) : Keeps P (waitForEvents env k) := by
  induction k with
  | zero => exact Keeps.pure _
  | succ k ih => exact Keeps.bind (h.vmiOr (by rfl) _) fun _ => ih

theorem armEntry_keeps (h : KeptByReads env P) (f : Found) (entry : Addr) :
    Keeps P (armEntry env f entry) :=
  (h.vmiDo (by rfl)).bind fun _ => (h.vmiOr (by rfl) _).bind fun _ =>
    (h.vmiOr (by rfl) _).bind fun _ => (h.vmiOr (by rfl) _).bind fun _ =>
      (h.vmiOr (by rfl) _).bind fun _ => (h.vmiOr (by rfl) _).bind fun _ => Keeps.pure _

theorem protectEntry_keeps (h : KeptByReads env P) (f : Found) (entry : Addr) (k : Nat) :
    Keeps P (protectEntry env f entry k) := by
  rw [protectEntry_eq_armEntry]
  exact (armEntry_keeps h f entry).bind fun _ => waitForEvents_keeps h k

end Phases

/-! ### What `main` writes -/

/-- The entries of a trace that write guest memory. -/
def writes (t : List Logged) : List Logged := t.filter (·.call.isWrite)

@[simp] theorem writes_nil : writes [] = [] := rfl

@[simp] theorem writes_append (t t' : List Logged) : writes (t ++ t') = writes t ++ writes t' := by
  simp [writes]

@[simp] theorem writes_cons (e : Logged) (t : List Logged) :
    writes (e :: t) = if e.call.isWrite then e :: writes t else writes t := by
  by_cases h : e.call.isWrite <;> simp [writes, List.filter_cons, h]

/-- The trace has grown from `t0` by calls that write nothing. -/
def AppendsReads (t0 : List Logged) (w : World) : Prop :=
  ∃ Δ, w.trace = t0 ++ Δ ∧ writes Δ = []

/-- A call that writes nothing keeps `AppendsReads`. -/
theorem appendsReads_vmi (env : Env) {t0 : List Logged} {c : VmiCall} (hc : c.isWrite = false)
    (w : World) (h : AppendsReads t0 w) : AppendsReads t0 (vmi env c w).2.2 := by
  obtain ⟨Δ, hw, hΔ⟩ := h
  refine ⟨Δ ++ [⟨c, (vmi env c w).1, (vmi env c w).2.1⟩], ?_, by simp [hΔ, hc]⟩
  rw [(vmi_spec env c w).1, hw, List.append_assoc]

theorem keptByReads_appendsReads (env : Env) (t0 : List Logged) :
    KeptByReads env (AppendsReads t0) :=
  ⟨fun _ hc => appendsReads_vmi env (VmiCall.isWrite_of_isRead hc), fun _ _ h => h⟩

/-! ### Results of the phases -/

/-- A stretch that runs to its end ran its first part to its end. -/
theorem Fragment.bind_eq_some {α β : Type} {m : Fragment α} {f : α → Fragment β}
    {w w'' : World} {b : β} (h : (m >>= f) w = (some b, w'')) :
    ∃ a w', m w = (some a, w') ∧ f a w' = (some b, w'') := by
  rw [Fragment.bind_apply] at h
  rcases hm : m w with ⟨_ | a, w'⟩ <;> rw [hm] at h
  · cases h
  · exact ⟨a, w', rfl, h⟩

/-- A call that takes the `goto` failed, and its entry ends the trace. -/
theorem vmiOr_eq_none {env : Env} {c : VmiCall} {msg : Option String} {w w' : World}
    (h : vmiOr env c msg w = (none, w')) :
    (vmi env c w).1 = .failure ∧ w'.trace = (vmi env c w).2.2.trace := by
  unfold vmiOr at h
  rcases hv : vmi env c w with ⟨_ | _, o, w''⟩ <;> rw [hv] at h <;> cases h
  cases msg <;> exact ⟨rfl, rfl⟩

/-- A call that continues the straight line succeeded with the value it passes on. -/
theorem vmiOr_eq_some {env : Env} {c : VmiCall} {msg : Option String} {w w' : World}
    {out : BitVec 64} (h : vmiOr env c msg w = (some out, w')) :
    vmi env c w = (.success, out, w') := by
  unfold vmiOr at h
  rcases hv : vmi env c w with ⟨_ | _, o, w''⟩ <;> rw [hv] at h <;> cases h
  rfl

/-- A 32-bit read answers a zero-extended word. -/
theorem vmi_read32_out (env : Env) (a : Addr) (w : World) :
    ((vmi env (.read32Va a) w).2.1.setWidth 32).setWidth 64 = (vmi env (.read32Va a) w).2.1 := by
  unfold vmi
  cases (VmiCall.read32Va a).canFail && env.fails w.clock
  · exact congrArg (BitVec.setWidth 64) (setWidth_setWidth_32 _)
  · rfl

/-- **The search read what it found.** A found entry was read, successfully, at its address. -/
theorem ssdtSearch_found {env : Env} {is64 : Bool} {ki nt : Addr} {i count j : Nat}
    {v : BitVec 32} {w w' : World}
    (h : ssdtSearch env is64 ki nt i count w = (some (some (j, v)), w')) :
    ∃ Δ, w'.trace = w.trace ++ Δ ∧
      ⟨.read32Va (entryAddr ki j), .success, v.setWidth 64⟩ ∈ Δ := by
  induction count generalizing i w with
  | zero => cases h
  | succ count ih =>
    obtain ⟨out, w1, h1, h2⟩ := Fragment.bind_eq_some h
    have hv := vmiOr_eq_some h1
    have htrace : w1.trace = w.trace ++ [⟨.read32Va (entryAddr ki i), .success, out⟩] := by
      simpa [hv] using (vmi_spec env (.read32Va (entryAddr ki i)) w).1
    dsimp only at h2
    split_ifs at h2
    · simp only [Fragment.pure_apply, Prod.mk.injEq, Option.some.injEq] at h2
      obtain ⟨⟨hij, hval⟩, hw'⟩ := h2
      subst hij hval hw'
      refine ⟨_, htrace, ?_⟩
      simpa [hv] using vmi_read32_out env (entryAddr ki i) w
    · obtain ⟨Δ, hΔ, he⟩ := ih h2
      exact ⟨⟨.read32Va (entryAddr ki i), .success, out⟩ :: Δ, by simp [hΔ, htrace],
        List.mem_cons_of_mem _ he⟩

/-- The prologue of `main` read, at its address, the entry it found. -/
theorem prologue_found {env : Env} {name : String} {socket : Option String} {w w' : World}
    {f : Found} (h : (locateSsdt env name socket >>= findNtLoadDriverEntry env) w = (some f, w')) :
    ∃ Δ, w'.trace = w.trace ++ Δ ∧
      ⟨.read32Va (entryAddr f.kiSvTableAddr f.index), .success, f.val.setWidth 64⟩ ∈ Δ := by
  obtain ⟨l, w1, h1, h2⟩ := Fragment.bind_eq_some h
  obtain ⟨Δ1, hΔ1, -⟩ : AppendsReads w.trace w1 := by
    simpa [h1] using locateSsdt_keeps (keptByReads_appendsReads env w.trace) name socket
      (appendsReads_vmi env rfl) w
      ⟨[], by simp, rfl⟩
  obtain ⟨r, w2, h3, h4⟩ := Fragment.bind_eq_some h2
  rcases r with _ | ⟨i, v⟩
  · simp [Fragment.fail] at h4
  · simp only [Fragment.pure_apply, Prod.mk.injEq, Option.some.injEq] at h4
    obtain ⟨rfl, rfl⟩ := h4
    obtain ⟨Δ2, hΔ2, he⟩ := ssdtSearch_found h3
    exact ⟨Δ1 ++ Δ2, by rw [hΔ2, hΔ1, List.append_assoc], List.mem_append_right _ he⟩

/-! ### The corrupted entry's bytes -/

/-- A successful 32-bit read answers the word in the running guest's memory. -/
theorem vmi_read32_success {env : Env} {a : Addr} {w : World}
    (h : (vmi env (.read32Va a) w).1 = .success) :
    (vmi env (.read32Va a) w).2.1 = (read32 (w.running env) a).setWidth 64 := by
  unfold vmi at h ⊢
  cases hc : (VmiCall.read32Va a).canFail && env.fails w.clock
  · rfl
  · simp [hc] at h

/-- The entry at `A` holds the bytes `B`, and every successful read of `A` since `t0` answered
them. -/
def SlotHolds (A : Addr) (B : List Byte) (t0 : List Logged) (w : World) : Prop :=
  w.mem.bytes A 4 = B ∧ ∃ Δ, w.trace = t0 ++ Δ ∧
    ∀ e ∈ Δ, e.call = .read32Va A → e.status = .success → leBytes 4 e.out.toNat = B

/-- What the guest writes leaves the entry alone. -/
def GuestSparesSlot (env : Env) (A : Addr) : Prop :=
  ∀ n m, (env.guest n m).bytes A 4 = m.bytes A 4

theorem running_bytes {env : Env} {A : Addr} (hg : GuestSparesSlot env A) (w : World) :
    (w.running env).bytes A 4 = w.mem.bytes A 4 := by
  unfold World.running
  split
  · rfl
  · exact hg _ _

/-- A call that writes nothing keeps `SlotHolds`, while the guest spares the slot. -/
theorem slotHolds_vmi {env : Env} {A : Addr} {B : List Byte} {t0 : List Logged}
    (hg : GuestSparesSlot env A) {c : VmiCall} (hc : c.isWrite = false) (w : World)
    (h : SlotHolds A B t0 w) : SlotHolds A B t0 (vmi env c w).2.2 := by
  obtain ⟨hm, Δ, hw, hΔ⟩ := h
  refine ⟨?_, Δ ++ [⟨c, (vmi env c w).1, (vmi env c w).2.1⟩], ?_, ?_⟩
  · rw [(vmi_spec env c w).2.2 hc, running_bytes hg, hm]
  · rw [(vmi_spec env c w).1, hw, List.append_assoc]
  · intro e he hread hst
    rcases List.mem_append.mp he with he | he
    · exact hΔ e he hread hst
    · obtain rfl := List.mem_singleton.mp he
      simp only at hread hst
      subst hread
      rw [vmi_read32_success hst, toNat_setWidth_64, leBytes_read32, running_bytes hg, hm]

theorem keptByReads_slotHolds {env : Env} {A : Addr} {B : List Byte} {t0 : List Logged}
    (hg : GuestSparesSlot env A) : KeptByReads env (SlotHolds A B t0) :=
  ⟨fun _ hc => slotHolds_vmi hg (VmiCall.isWrite_of_isRead hc), fun _ _ h => h⟩

/-! ### `error_exit` -/

theorem errorExit_eq (env : Env) (b : Bool) (A : Addr) (v : BitVec 32) (w : World) :
    errorExit env b A v w =
      (vmi env .destroy (vmi env .resumeVm (restoreEntry env b A v w)).2.2).2.2 :=
  rfl

/-- **`error_exit`.** It writes the entry back if it is corrupted, then resumes the guest and
destroys the instance, in that order. -/
theorem errorExit_trace (env : Env) (b : Bool) (A : Addr) (v : BitVec 32) (w : World) :
    ∃ s₁ s₂, (errorExit env b A v w).trace = w.trace ++
      (if b then [⟨.write32Va A v, (vmi env (.write32Va A v) w).1, 0⟩] else []) ++
      [⟨.resumeVm, s₁, 0⟩, ⟨.destroy, s₂, 0⟩] := by
  refine ⟨(vmi env .resumeVm (restoreEntry env b A v w)).1,
    (vmi env .destroy (vmi env .resumeVm (restoreEntry env b A v w)).2.2).1, ?_⟩
  rw [errorExit_eq, (vmi_spec _ _ _).1, (vmi_spec _ _ _).1,
    vmi_out_eq_zero env .resumeVm (fun _ _ => rfl), vmi_out_eq_zero env .destroy (fun _ _ => rfl)]
  have : (restoreEntry env b A v w).trace =
      w.trace ++ (if b then [⟨.write32Va A v, (vmi env (.write32Va A v) w).1, 0⟩] else []) := by
    unfold restoreEntry
    cases b
    · simp
    · simp only [if_true]
      split <;> simp [(vmi_spec _ _ _).1, vmi_out_eq_zero env (.write32Va A v) (fun _ _ => rfl)]
  rw [this]
  simp

/-- After a successful restoring write, and if nothing else writes the entry, `error_exit`
leaves the entry holding the value written. -/
theorem errorExit_restores {env : Env} {A : Addr} {v : BitVec 32} {w : World}
    (hg : GuestSparesSlot env A) (hs : (vmi env (.write32Va A v) w).1 = .success) :
    (errorExit env true A v w).mem.bytes A 4 = leBytes 4 v.toNat := by
  rw [errorExit_eq, (vmi_spec env .destroy _).2.2 rfl, running_bytes hg,
    (vmi_spec env .resumeVm _).2.2 rfl, running_bytes hg]
  simp [restoreEntry, hs, vmi_write32 hs]

/-! ### Every exit path -/

/-- Every successful `vmi_pause_vm` of `Δ` is followed, later in `Δ`, by a `vmi_resume_vm`. -/
def ResumesAfterPause (Δ : List Logged) : Prop :=
  ∀ pre e post, Δ = pre ++ e :: post → e.call = .pauseVm → e.status = .success →
    ∃ e' ∈ post, e'.call = .resumeVm

theorem resumesAfterPause_nil : ResumesAfterPause [] := by
  intro pre e post h
  simp at h

/-- A run that ends with `vmi_resume_vm` and `vmi_destroy` resumes after every pause. -/
theorem resumesAfterPause_of_tail (X : List Logged) (r d : Logged) (hr : r.call = .resumeVm)
    (hd : d.call = .destroy) : ResumesAfterPause (X ++ [r, d]) := by
  intro pre e post h hp _
  rcases List.append_eq_append_iff.mp h with ⟨a', -, he⟩ | ⟨c', -, hc⟩
  · rcases a' with _ | ⟨x, _ | ⟨y, rest⟩⟩ <;> simp at he
    · obtain ⟨rfl, -⟩ := he
      simp_all
    · obtain ⟨-, rfl, -⟩ := he
      simp_all
  · rcases c' with _ | ⟨x, c''⟩
    · simp only [List.nil_append, List.cons.injEq] at hc
      obtain ⟨rfl, -⟩ := hc
      simp_all
    · simp only [List.cons_append, List.cons.injEq] at hc
      exact ⟨r, by simp [hc.2], hr⟩

/-- What a run of `main` from `w0`, ending in `w` and adding `Δ` to the trace, writes to guest
memory: nothing; the corrupting write alone, failed; or the corrupting write of `0` at some `A`,
and after it the write at `A` of the value `v` the search read from `A`, before
`vmi_destroy`. In the last case, if that write succeeded and nothing else wrote the entry, the
entry holds at the end what it held before the run. -/
def RestoresEntry (env : Env) (w0 w : World) (Δ : List Logged) : Prop :=
  writes Δ = [] ∨ (∃ A, writes Δ = [⟨.write32Va A 0, .failure, 0⟩]) ∨
    ∃ A v st pre mid post,
      Δ = pre ++ ⟨.write32Va A 0, .success, 0⟩ :: mid ++
        ⟨.write32Va A v, st, 0⟩ :: post ∧
      writes pre = [] ∧ writes mid = [] ∧ writes post = [] ∧
      ⟨.read32Va A, .success, v.setWidth 64⟩ ∈ pre ∧ (∃ e ∈ post, e.call = .destroy) ∧
      (st = .success → GuestSparesSlot env A → w.mem.bytes A 4 = w0.mem.bytes A 4)

/-! ### The three exits -/

/-- The prologue of `main` writes nothing, however it ends. -/
theorem prologue_appendsReads (env : Env) (name : String) (socket : Option String) (w0 : World) :
    AppendsReads w0.trace ((locateSsdt env name socket >>= findNtLoadDriverEntry env) w0).2 :=
  (locateSsdt_keeps (keptByReads_appendsReads env w0.trace) name socket
    (appendsReads_vmi env rfl)).bind
    (findNtLoadDriverEntry_keeps (keptByReads_appendsReads env w0.trace)) w0 ⟨[], by simp, rfl⟩

/-- If nothing else writes the entry, the value the search found there is its bytes before the
run. -/
theorem prologue_found_value {env : Env} {name : String} {socket : Option String} {w0 w1 : World}
    {f : Found} (hg : GuestSparesSlot env (entryAddr f.kiSvTableAddr f.index))
    (h : (locateSsdt env name socket >>= findNtLoadDriverEntry env) w0 = (some f, w1)) :
    leBytes 4 f.val.toNat = w0.mem.bytes (entryAddr f.kiSvTableAddr f.index) 4 := by
  obtain ⟨Δ, hΔ, hread⟩ := prologue_found h
  have h0 : SlotHolds (entryAddr f.kiSvTableAddr f.index)
      (w0.mem.bytes (entryAddr f.kiSvTableAddr f.index) 4) w0.trace w0 :=
    ⟨rfl, [], by simp, by simp⟩
  obtain ⟨-, Δ', hΔ', hreads⟩ :=
    (locateSsdt_keeps (keptByReads_slotHolds hg) name socket (slotHolds_vmi hg rfl)).bind
      (findNtLoadDriverEntry_keeps (keptByReads_slotHolds hg)) w0 h0
  rw [h] at hΔ'
  obtain rfl : Δ = Δ' := List.append_cancel_left (hΔ.symm.trans hΔ')
  simpa only [toNat_setWidth_64] using hreads _ hread rfl rfl

/-- An exit through `error_exit` before the entry is corrupted: the run writes what `X` wrote,
and ends by resuming the guest. -/
theorem errorExit_intact (env : Env) {w0 w : World} {X : List Logged}
    (hX : w.trace = w0.trace ++ X) (A : Addr) (v : BitVec 32) :
    ∃ Δ, (errorExit env false A v w).trace = w0.trace ++ Δ ∧ ResumesAfterPause Δ ∧
      writes Δ = writes X := by
  obtain ⟨s₁, s₂, hE⟩ := errorExit_trace env false A v w
  refine ⟨X ++ [⟨.resumeVm, s₁, 0⟩, ⟨.destroy, s₂, 0⟩], ?_,
    resumesAfterPause_of_tail _ _ _ rfl rfl, by simp [VmiCall.isWrite]⟩
  rw [hE, hX]
  simp

/-- An exit through `error_exit` after the entry at `A` is corrupted: `error_exit` writes `v`
back, then resumes the guest and destroys the instance; if that write succeeds and nothing else
writes the entry, the entry holds `v`. -/
theorem errorExit_corrupted (env : Env) {w0 w : World} {X : List Logged}
    (hX : w.trace = w0.trace ++ X) (A : Addr) (v : BitVec 32) :
    ∃ st post,
      (errorExit env true A v w).trace = w0.trace ++ (X ++ ⟨.write32Va A v, st, 0⟩ :: post) ∧
      ResumesAfterPause (X ++ ⟨.write32Va A v, st, 0⟩ :: post) ∧ writes post = [] ∧
      (∃ e ∈ post, e.call = .destroy) ∧
      (st = .success → GuestSparesSlot env A →
        (errorExit env true A v w).mem.bytes A 4 = leBytes 4 v.toNat) := by
  obtain ⟨s₁, s₂, hE⟩ := errorExit_trace env true A v w
  refine ⟨(vmi env (.write32Va A v) w).1, [⟨.resumeVm, s₁, 0⟩, ⟨.destroy, s₂, 0⟩],
    ?_, ?_, by simp [VmiCall.isWrite], ⟨⟨.destroy, s₂, 0⟩, by simp, rfl⟩,
    fun hst hg => errorExit_restores hg hst⟩
  · rw [hE, hX]
    simp
  · have h := resumesAfterPause_of_tail
      (X ++ [⟨.write32Va A v, (vmi env (.write32Va A v) w).1, 0⟩])
      ⟨.resumeVm, s₁, 0⟩ ⟨.destroy, s₂, 0⟩ rfl rfl
    rwa [List.append_assoc, List.singleton_append] at h

theorem runAttached_restores (env : Env) (name : String) (socket : Option String) (k : Nat)
    (w0 : World) :
    ∃ Δ, (runAttached env name socket k w0).2.trace = w0.trace ++ Δ ∧ ResumesAfterPause Δ ∧
      RestoresEntry env w0 (runAttached env name socket k w0).2 Δ := by
  have hpro := prologue_appendsReads env name socket w0
  unfold runAttached
  rcases hP : (locateSsdt env name socket >>= findNtLoadDriverEntry env) w0 with ⟨_ | f, w1⟩
  all_goals rw [hP] at hpro; obtain ⟨Δ1, hΔ1, hw1⟩ := hpro
  · -- the prologue fails: nothing is written
    obtain ⟨Δ, hΔ, hres, hw⟩ := errorExit_intact env hΔ1 0 0
    exact ⟨Δ, hΔ, hres, Or.inl (hw.trans hw1)⟩
  · obtain ⟨Δr, hΔr, hread⟩ := prologue_found hP
    obtain rfl : Δ1 = Δr := List.append_cancel_left (hΔ1.symm.trans hΔr)
    dsimp only
    set A := entryAddr f.kiSvTableAddr f.index
    have hcorrupt := (vmi_spec env (.write32Va A 0) w1).1
    rw [vmi_out_eq_zero env (.write32Va A 0) (fun _ _ => rfl), hΔ1, List.append_assoc] at hcorrupt
    rcases hW : vmiOr env (.write32Va A 0) (some "Failed to corrupt NtLoadDriver SSDT entry\n") w1
      with ⟨_ | u, w2⟩
    · -- the corrupting write fails, and is the only write
      obtain ⟨hfail, htr⟩ := vmiOr_eq_none hW
      rw [hfail] at hcorrupt
      obtain ⟨Δ, hΔ, hres, hw⟩ := errorExit_intact env (htr.trans hcorrupt) A f.val
      exact ⟨Δ, hΔ, hres, Or.inr (Or.inl ⟨A, by simp [hw, hw1, VmiCall.isWrite]⟩)⟩
    · -- the entry is corrupted: `error_exit` writes back the value the search read
      rw [vmiOr_eq_some hW] at hcorrupt
      dsimp only at hcorrupt
      have hprot := protectEntry_keeps (keptByReads_appendsReads env w2.trace) f A k w2
        ⟨[], by simp, rfl⟩
      rcases hQ : protectEntry env f A k w2 with ⟨r, w3⟩
      rw [hQ] at hprot
      obtain ⟨Δ3, hΔ3, hw3⟩ := hprot
      have hX : w3.trace = w0.trace ++ (Δ1 ++ ⟨.write32Va A 0, .success, 0⟩ :: Δ3) := by
        rw [hΔ3, hcorrupt, List.append_assoc, List.append_assoc, List.singleton_append]
      obtain ⟨st, post, hΔ, hres, hpost, hd, hmem⟩ := errorExit_corrupted env hX A f.val
      have key : ∃ Δ, (errorExit env true A f.val w3).trace = w0.trace ++ Δ ∧
          ResumesAfterPause Δ ∧ RestoresEntry env w0 (errorExit env true A f.val w3) Δ :=
        ⟨_, hΔ, hres, Or.inr (Or.inr ⟨A, f.val, st, Δ1, Δ3, post, rfl, hw1, hw3, hpost,
          hread, hd, fun hst hg => (hmem hst hg).trans (prologue_found_value hg hP)⟩)⟩
      dsimp only
      rw [hQ]
      rcases r with _ | _ <;> exact key

/-- **`main` puts the entry back.** For every command line, every environment (which calls
fail, what the guest writes while it runs) and every number `k` of event-loop iterations before
the signal, the calls `main` adds to the trace resume the guest after every pause, and write
guest memory as `RestoresEntry` says. -/
theorem main_restores_entry (env : Env) (argv : List String) (k : Nat) (w0 : World) :
    ∃ Δ, (main env argv k w0).2.trace = w0.trace ++ Δ ∧ ResumesAfterPause Δ ∧
      RestoresEntry env w0 (main env argv k w0).2 Δ := by
  unfold main
  split
  · exact ⟨[], by simp, resumesAfterPause_nil, Or.inl rfl⟩
  · exact runAttached_restores env _ _ k w0

end LibVmi.FoolPatchguard
