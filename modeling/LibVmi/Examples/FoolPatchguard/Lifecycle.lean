import LibVmi.Examples.FoolPatchguard.Restore

/-!
# The life of the libvmi instance

`main` creates its libvmi instance with `vmi_init_complete` (line 209) and frees it with
`vmi_destroy` (line 392). In every run past the argument check the two bracket the run:
`vmi_init_complete` is the first call, `vmi_resume_vm` and `vmi_destroy` are the last two, and
no call in between creates or destroys the instance again. When `vmi_init_complete` fails,
`main` still goes through `error_exit`, so the closing pair is made on an instance that was never
created, and nothing else is.

* `MidSession` — the trace grew by calls other than `VmiCall.isLifecycle`'s two. Every call
  `main` makes while its instance lives keeps it, writes included (`keptByReads_midSession`), so
  the phase frames of `Restore` carry it through the prologue and `protectEntry`;
* `runAttached_lifecycle` — the shape of every run's trace.
-/

namespace LibVmi.FoolPatchguard

open LibVmi.Memory LibVmi.Events

/-- The trace has grown from `t0` by calls that neither create nor destroy the instance. -/
def MidSession (t0 : List Logged) (w : World) : Prop :=
  ∃ Δ, w.trace = t0 ++ Δ ∧ ∀ e ∈ Δ, e.call.isLifecycle = false

section MidSession

variable {env : Env} {t0 : List Logged}

theorem midSession_vmi {c : VmiCall} (hc : c.isLifecycle = false) (w : World)
    (h : MidSession t0 w) : MidSession t0 (vmi env c w).2.2 := by
  obtain ⟨Δ, hw, hΔ⟩ := h
  refine ⟨Δ ++ [⟨c, (vmi env c w).1, (vmi env c w).2.1⟩], ?_, fun e he => ?_⟩
  · rw [(vmi_spec env c w).1, hw, List.append_assoc]
  rcases List.mem_append.mp he with he | he
  · exact hΔ e he
  · rw [List.mem_singleton.mp he]
    exact hc

theorem keptByReads_midSession (env : Env) (t0 : List Logged) :
    KeptByReads env (MidSession t0) :=
  ⟨fun _ hc => midSession_vmi (VmiCall.isLifecycle_of_isRead hc), fun _ _ h => h⟩

end MidSession

/-- The prologue calls `vmi_init_complete` first. If that fails, it stops there, with nothing
found; otherwise it neither creates nor destroys the instance again. -/
theorem prologue_lifecycle (env : Env) (name : String) (socket : Option String) (w0 : World) :
    ∃ s Δ, ((locateSsdt env name socket >>= findNtLoadDriverEntry env) w0).2.trace =
        w0.trace ++ ⟨.initComplete name socket, s, 0⟩ :: Δ ∧
      (∀ e ∈ Δ, e.call.isLifecycle = false) ∧
      (s = .failure → Δ = [] ∧ ((locateSsdt env name socket >>= findNtLoadDriverEntry env) w0).1 =
        none) := by
  have hinit := (vmi_spec env (.initComplete name socket) w0).1
  rw [vmi_out_eq_zero env (.initComplete name socket) fun _ _ => rfl] at hinit
  rw [locateSsdt_eq, Fragment.bind_assoc, Fragment.bind_apply]
  rcases hI : vmiOr env (.initComplete name socket) none w0 with ⟨_ | u, w1⟩
  · -- `vmi_init_complete` fails, and the prologue with it
    obtain ⟨hf, htr⟩ := vmiOr_eq_none hI
    rw [hf] at hinit
    exact ⟨.failure, [], by rw [htr, hinit], by simp, fun _ => ⟨rfl, rfl⟩⟩
  · -- it succeeds, and the rest of the prologue keeps to the instance it made
    have hv := vmiOr_eq_some hI
    rw [hv] at hinit
    have hk := keptByReads_midSession env w1.trace
    obtain ⟨Δ, hΔ, hmid⟩ := (((widthAndPause_keeps hk).bind (lookupSsdt_keeps hk)).bind
      (findNtLoadDriverEntry_keeps hk)) w1 ⟨[], by simp, by simp⟩
    refine ⟨.success, Δ, ?_, hmid, fun h => nomatch h⟩
    dsimp only
    rw [hΔ, hinit]
    simp

/-- `error_exit` from a world whose trace grew from `t0` by calls that neither create nor destroy
the instance: the restoring write if any, then the closing pair. -/
theorem errorExit_lifecycle (env : Env) (b : Bool) (A : Addr) (v : BitVec 32)
    {t0 : List Logged} {w : World} (h : MidSession t0 w) :
    ∃ r d mid, (errorExit env b A v w).trace =
        t0 ++ (mid ++ [⟨.resumeVm, r, 0⟩, ⟨.destroy, d, 0⟩]) ∧
      (∀ e ∈ mid, e.call.isLifecycle = false) ∧ (b = false → w.trace = t0 ++ mid) := by
  obtain ⟨Δ, hΔ, hmid⟩ := h
  obtain ⟨r, d, hE⟩ := errorExit_trace env b A v w
  refine ⟨r, d, Δ ++ (if b then [⟨.write32Va A v, (vmi env (.write32Va A v) w).1, 0⟩] else []),
    ?_, fun e he => ?_, fun hb => ?_⟩
  · rw [hE, hΔ]
    simp
  · rcases List.mem_append.mp he with he | he
    · exact hmid e he
    · split at he
      · rw [List.mem_singleton.mp he]
        rfl
      · cases he
  · subst hb
    simpa using hΔ

/-- **The instance's life.** Every run of `main` past its arguments calls `vmi_init_complete`
first and ends with `vmi_resume_vm` and `vmi_destroy`; no call in between creates or destroys the
instance. When `vmi_init_complete` fails, the closing pair is all that follows it. -/
theorem runAttached_lifecycle (env : Env) (name : String) (socket : Option String) (k : Nat)
    (w0 : World) :
    ∃ s r d mid, (runAttached env name socket k w0).2.trace =
        w0.trace ++ ⟨.initComplete name socket, s, 0⟩ ::
          (mid ++ [⟨.resumeVm, r, 0⟩, ⟨.destroy, d, 0⟩]) ∧
      (∀ e ∈ mid, e.call.isLifecycle = false) ∧ (s = .failure → mid = []) := by
  obtain ⟨s, Δ, hΔ, hmid, hfail⟩ := prologue_lifecycle env name socket w0
  set t0 := w0.trace ++ [⟨.initComplete name socket, s, 0⟩]
  have ht0 : ∀ X, w0.trace ++ ⟨.initComplete name socket, s, 0⟩ :: X = t0 ++ X := by simp [t0]
  rcases runAttached_exit env name socket k w0 with ⟨w1, hP, hE⟩ | ⟨f, w1, b, w, hP, hE, hkeep⟩
  all_goals rw [hP] at hΔ hfail; rw [hE]; have h1 : MidSession t0 w1 := ⟨Δ, by rw [hΔ, ht0], hmid⟩
  · -- the prologue ends in `error_exit`: after a failed init, nothing else was called
    obtain ⟨r, d, mid, hE', hmid', hb⟩ := errorExit_lifecycle env false 0 0 h1
    refine ⟨s, r, d, mid, by rw [hE', ht0], hmid', fun hs => ?_⟩
    have := hb rfl
    rw [hΔ, ht0, (hfail hs).1] at this
    simpa using this.symm
  · -- the search found an entry, so `vmi_init_complete` succeeded
    obtain ⟨r, d, mid, hE', hmid', -⟩ := errorExit_lifecycle env b _ f.val
      (hkeep _ (keeps_vmiOr (midSession_vmi (by rfl)) (fun _ _ h => h) _)
        (protectEntry_keeps (keptByReads_midSession env t0) f _ k) h1)
    exact ⟨s, r, d, mid, by rw [hE', ht0], hmid', fun hs => nomatch (hfail hs).2⟩

end LibVmi.FoolPatchguard
