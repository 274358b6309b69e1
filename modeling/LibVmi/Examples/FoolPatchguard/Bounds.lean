import LibVmi.Examples.FoolPatchguard.Restore

/-!
# `main` writes only inside `KiServiceTable`

`main` writes into a live guest kernel, so where it writes matters more than what it reads. It
writes twice at most, both times at the entry its search found. This file bounds that entry by
what the run itself read: it is an entry of `KiServiceTable` (as `vmi_translate_ksym2v`
answered it), with an index below `(int)NumberOfServices` (as `vmi_read_addr_va` read it at
`KeServiceDescriptorTable + 2 * addr_width`).

* `lookupSsdt_trace`, `attachVm_width` — where the table's address and length come from;
* `ssdtSearch_found_entry` — the search answers an index of the range it walks, whose entry
  resolves to the target;
* `prologue_table` — the entry the prologue found lies below the length it read, and decodes to
  `NtLoadDriver`;
* `WritesOnlyAt` — the trace grew by calls whose writes all go to one address; the read phases,
  the corrupting write and `error_exit` keep it;
* `main_writes_only_ntLoadDriver_entry` — every write of every run of `main` goes to an entry
  of `KiServiceTable` below `(int)NumberOfServices`, which the run read and decoded to
  `NtLoadDriver`'s address.
-/

namespace LibVmi.FoolPatchguard

open LibVmi.Memory LibVmi.Events

/-! ### Where the table comes from -/

/-- A call that continues the straight line adds its own entry to the trace. -/
theorem vmiOr_trace {env : Env} {c : VmiCall} {msg : Option String} {w w' : World}
    {out : BitVec 64} (h : vmiOr env c msg w = (some out, w')) :
    w'.trace = w.trace ++ [⟨c, .success, out⟩] := by
  have hv := vmiOr_eq_some h
  simpa [hv] using (vmi_spec env c w).1

/-- A call that continues the straight line passes on what it performed. -/
theorem vmiOr_out {env : Env} {c : VmiCall} {msg : Option String} {w w' : World}
    {out : BitVec 64} (h : vmiOr env c msg w = (some out, w')) :
    out = (c.perform env (w.running env) w.paused).1 := by
  have hv := vmiOr_eq_some h
  unfold vmi at hv
  split at hv
  · cases hv
  · exact (congrArg (·.2.1) hv).symm

/-- Attaching answers the guest's width, and only grows the trace. -/
theorem attachVm_width {env : Env} {name : String} {socket : Option String} {w w' : World}
    {aw : BitVec 64} (h : attachVm env name socket w = (some aw, w')) :
    aw = env.addressWidth.setWidth 64 ∧ ∃ Δ, w'.trace = w.trace ++ Δ := by
  obtain ⟨_, w1, h1, h⟩ := Fragment.bind_eq_some h
  obtain ⟨aw', w2, h2, h⟩ := Fragment.bind_eq_some h
  obtain ⟨_, w3, h3, h⟩ := Fragment.bind_eq_some h
  simp only [Fragment.pure_apply, Prod.mk.injEq, Option.some.injEq] at h
  obtain ⟨rfl, rfl⟩ := h
  simp only [vmiDo, Prod.mk.injEq, Option.some.injEq] at h2
  obtain ⟨rfl, rfl⟩ := h2
  refine ⟨vmi_out_getAddressWidth env w1, ?_⟩
  rw [vmiOr_trace h3, (vmi_spec _ _ _).1, vmiOr_trace h1, List.append_assoc, List.append_assoc]
  exact ⟨_, rfl⟩

/-- The lookups answer the two symbols and the guest's width, and read `NumberOfServices` two
pointers into `KeServiceDescriptorTable`. -/
theorem lookupSsdt_trace {env : Env} {aw : BitVec 64} {w w' : World} {l : Located}
    (h : lookupSsdt env aw w = (some l, w')) :
    l.is64 = decide (aw = 8) ∧ l.kiSvTableAddr = env.ksym2v "KiServiceTable" ∧
      l.ntloadDriverAddr = env.ksym2v "NtLoadDriver" ∧ ∃ Δ, w'.trace = w.trace ++ Δ ∧
      ⟨.readAddrVa (env.ksym2v "KeServiceDescriptorTable" + aw * 2), .success, l.nbServices⟩ ∈
        Δ := by
  obtain ⟨ke, w1, h1, h⟩ := Fragment.bind_eq_some h
  obtain ⟨ki, w2, h2, h⟩ := Fragment.bind_eq_some h
  obtain ⟨nt, w3, h3, h⟩ := Fragment.bind_eq_some h
  obtain ⟨nb, w4, h4, h⟩ := Fragment.bind_eq_some h
  simp only [Fragment.pure_apply, Prod.mk.injEq, Option.some.injEq] at h
  obtain ⟨rfl, rfl⟩ := h
  obtain rfl := vmiOr_out h1
  obtain rfl := vmiOr_out h2
  obtain rfl := vmiOr_out h3
  refine ⟨rfl, rfl, rfl, ?_⟩
  rw [vmiOr_trace h4, vmiOr_trace h3, vmiOr_trace h2, vmiOr_trace h1]
  simp only [List.append_assoc, List.singleton_append]
  exact ⟨_, rfl, List.mem_append_right _ (List.mem_cons_of_mem _ (List.mem_singleton_self _))⟩

/-- The search answers an index of the range it walks, whose entry resolves to the target. -/
theorem ssdtSearch_found_entry {env : Env} {is64 : Bool} {ki nt : Addr} {i count j : Nat}
    {v : BitVec 32} {w w' : World}
    (h : ssdtSearch env is64 ki nt i count w = (some (some (j, v)), w')) :
    i ≤ j ∧ j < i + count ∧ syscallAddr is64 ki v = nt := by
  induction count generalizing i w with
  | zero => cases h
  | succ count ih =>
    obtain ⟨_, _, -, h2⟩ := Fragment.bind_eq_some h
    dsimp only at h2
    split_ifs at h2 with hres
    · simp only [Fragment.pure_apply, Prod.mk.injEq, Option.some.injEq] at h2
      obtain ⟨⟨rfl, rfl⟩, -⟩ := h2
      exact ⟨le_rfl, by omega, hres⟩
    · obtain ⟨h1, h2, h3⟩ := ih h2
      exact ⟨by omega, by omega, h3⟩

/-- **The entry found is `NtLoadDriver`'s, in the table.** The prologue's entry is entry
`index` of `KiServiceTable`, below `(int)NumberOfServices` as the run read it, and the value
read there decodes to `NtLoadDriver`'s address. -/
theorem prologue_table {env : Env} {name : String} {socket : Option String} {w0 w1 : World}
    {f : Found} (h : (locateSsdt env name socket >>= findNtLoadDriverEntry env) w0 = (some f, w1)) :
    f.kiSvTableAddr = env.ksym2v "KiServiceTable" ∧
      syscallAddr (decide (env.addressWidth.setWidth 64 = 8)) f.kiSvTableAddr f.val =
        env.ksym2v "NtLoadDriver" ∧
      ∃ nb Δ, w1.trace = w0.trace ++ Δ ∧
      ⟨.readAddrVa (env.ksym2v "KeServiceDescriptorTable" + env.addressWidth.setWidth 64 * 2),
        .success, nb⟩ ∈ Δ ∧ f.index < loopCount nb := by
  obtain ⟨l, wl, hl, hf⟩ := Fragment.bind_eq_some h
  obtain ⟨aw, wa, ha, hk⟩ := Fragment.bind_eq_some hl
  obtain ⟨rfl, Δa, hΔa⟩ := attachVm_width ha
  obtain ⟨his, hki, hnt, Δk, hΔk, hnb⟩ := lookupSsdt_trace hk
  obtain ⟨r, ws, hs, hf⟩ := Fragment.bind_eq_some hf
  rcases r with _ | ⟨i, v⟩
  · simp [Fragment.fail] at hf
  simp only [Fragment.pure_apply, Prod.mk.injEq, Option.some.injEq] at hf
  obtain ⟨rfl, rfl⟩ := hf
  obtain ⟨Δs, hΔs, -⟩ : AppendsReads wl.trace ws := by
    simpa [hs] using ssdtSearch_keeps (keptByReads_appendsReads env wl.trace) l.is64
      l.kiSvTableAddr l.ntloadDriverAddr 0 (loopCount l.nbServices) wl ⟨[], by simp, rfl⟩
  obtain ⟨-, hi, hres⟩ := ssdtSearch_found_entry hs
  refine ⟨hki, by rw [← his, ← hnt]; exact hres, l.nbServices, Δa ++ Δk ++ Δs, ?_, ?_,
    by simpa using hi⟩
  · rw [hΔs, hΔk, hΔa]
    simp only [List.append_assoc]
  · exact List.mem_append_left _ (List.mem_append_right _ hnb)

/-! ### The writes stay at the entry -/

/-- The trace has grown from `t0` by calls whose writes all go to `A`. -/
def WritesOnlyAt (A : Addr) (t0 : List Logged) (w : World) : Prop :=
  ∃ Δ, w.trace = t0 ++ Δ ∧ ∀ e ∈ writes Δ, ∃ v, e.call = .write32Va A v

section WritesOnlyAt

variable {A : Addr} {t0 : List Logged}

/-- A call that writes nothing, or writes at `A`, keeps `WritesOnlyAt A`. -/
theorem writesOnlyAt_vmi (env : Env) {w : World} (h : WritesOnlyAt A t0 w) {c : VmiCall}
    (hc : c.isWrite = false ∨ ∃ v, c = .write32Va A v) : WritesOnlyAt A t0 (vmi env c w).2.2 := by
  obtain ⟨Δ, hw, hΔ⟩ := h
  refine ⟨Δ ++ [⟨c, (vmi env c w).1, (vmi env c w).2.1⟩], ?_, fun e he => ?_⟩
  · rw [(vmi_spec env c w).1, hw, List.append_assoc]
  rcases hc with hc | ⟨v, rfl⟩
  · simp only [writes_append, writes_cons, hc, Bool.false_eq_true, if_false, writes_nil,
      List.append_nil] at he
    exact hΔ e he
  · simp only [writes_append, writes_cons, VmiCall.isWrite, if_true, writes_nil,
      List.mem_append, List.mem_singleton] at he
    rcases he with he | rfl
    · exact hΔ e he
    · exact ⟨v, rfl⟩

theorem keptByReads_writesOnlyAt (env : Env) (A : Addr) (t0 : List Logged) :
    KeptByReads env (WritesOnlyAt A t0) :=
  ⟨fun _ hc _ h => writesOnlyAt_vmi env h (.inl (VmiCall.isWrite_of_isRead hc)),
    fun _ _ h => h⟩

theorem errorExit_writesOnlyAt (env : Env) (b : Bool) (v : BitVec 32) {w : World}
    (h : WritesOnlyAt A t0 w) : WritesOnlyAt A t0 (errorExit env b A v w) := by
  have hr : WritesOnlyAt A t0 (restoreEntry env b A v w) := by
    unfold restoreEntry
    cases b
    · exact h
    · simp only [if_true]
      split <;> exact writesOnlyAt_vmi env h (.inr ⟨v, rfl⟩)
  have hres := writesOnlyAt_vmi env hr (.inl (show VmiCall.resumeVm.isWrite = false from rfl))
  exact writesOnlyAt_vmi env hres (.inl (show VmiCall.destroy.isWrite = false from rfl))

end WritesOnlyAt

/-- What a run's trace `Δ` shows of its write `e`: it goes to entry `i` of `KiServiceTable`,
below `(int)NumberOfServices` as `Δ` read that count, and `Δ` read entry `i` as a value that
decodes to `NtLoadDriver`'s address. -/
def WritesNtLoadDriverEntry (env : Env) (Δ : List Logged) (e : Logged) : Prop :=
  ∃ nb i v u,
    ⟨.readAddrVa (env.ksym2v "KeServiceDescriptorTable" + env.addressWidth.setWidth 64 * 2),
      .success, nb⟩ ∈ Δ ∧ i < loopCount nb ∧
    ⟨.read32Va (entryAddr (env.ksym2v "KiServiceTable") i), .success, v.setWidth 64⟩ ∈ Δ ∧
    syscallAddr (decide (env.addressWidth.setWidth 64 = 8)) (env.ksym2v "KiServiceTable") v =
      env.ksym2v "NtLoadDriver" ∧
    e.call = .write32Va (entryAddr (env.ksym2v "KiServiceTable") i) u

theorem runAttached_writes_ntLoadDriver_entry (env : Env) (name : String)
    (socket : Option String) (k : Nat) (w0 : World) :
    ∃ Δ, (runAttached env name socket k w0).2.trace = w0.trace ++ Δ ∧
      ∀ e ∈ writes Δ, WritesNtLoadDriverEntry env Δ e := by
  have hpro := prologue_appendsReads env name socket w0
  rcases runAttached_exit env name socket k w0 with ⟨w1, hP, hE⟩ | ⟨f, w1, b, w, hP, hE, hkeep⟩
  all_goals rw [hP] at hpro; obtain ⟨Δ1, hΔ1, hw1⟩ := hpro; rw [hE]
  · -- the prologue fails: nothing is written
    obtain ⟨Δ, hΔ, -, hw⟩ := errorExit_intact env hΔ1 0 0
    exact ⟨Δ, hΔ, by simp [hw, hw1]⟩
  obtain ⟨hki, hres, nb, Δt, hΔt, hnb, hi⟩ := prologue_table hP
  obtain rfl : Δ1 = Δt := List.append_cancel_left (hΔ1.symm.trans hΔt)
  obtain ⟨Δr, hΔr, hread⟩ := prologue_found hP
  obtain rfl : Δ1 = Δr := List.append_cancel_left (hΔ1.symm.trans hΔr)
  -- from the prologue on, every write goes to the entry found
  have hw : WritesOnlyAt (entryAddr f.kiSvTableAddr f.index) w1.trace w :=
    hkeep _ (keeps_vmiOr (fun _ h => writesOnlyAt_vmi env h (.inr ⟨0, rfl⟩))
      (keptByReads_writesOnlyAt env _ w1.trace).2 _)
      (protectEntry_keeps (keptByReads_writesOnlyAt env _ w1.trace) f _ k) ⟨[], by simp, by simp⟩
  obtain ⟨Δ2, hΔ2, hw2⟩ := errorExit_writesOnlyAt env b f.val hw
  refine ⟨Δ1 ++ Δ2, by rw [hΔ2, hΔ1, List.append_assoc], fun e he => ?_⟩
  rw [writes_append, hw1, List.nil_append] at he
  obtain ⟨u, hu⟩ := hw2 e he
  rw [hki] at hread hu hres
  exact ⟨nb, f.index, f.val, u, List.mem_append_left _ hnb, hi, List.mem_append_left _ hread,
    hres, hu⟩

/-- **`main` overwrites only `NtLoadDriver`'s entry.** In every run of `main`, whatever its calls
answer, each write goes to an entry of `KiServiceTable` below `(int)NumberOfServices`, which the
run read and decoded to `NtLoadDriver`'s address. -/
theorem main_writes_only_ntLoadDriver_entry (env : Env) (argv : List String) (k : Nat)
    (w0 : World) :
    ∃ Δ, (main env argv k w0).2.trace = w0.trace ++ Δ ∧
      ∀ e ∈ writes Δ, WritesNtLoadDriverEntry env Δ e := by
  unfold main
  split
  · exact ⟨[], by simp, by simp⟩
  · exact runAttached_writes_ntLoadDriver_entry env _ _ k w0

end LibVmi.FoolPatchguard
