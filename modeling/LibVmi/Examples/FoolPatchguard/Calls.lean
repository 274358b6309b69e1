import LibVmi.Examples.FoolPatchguard.Handler

/-!
# The libvmi calls of `main`, and the world they act on

`main` talks to the guest only through libvmi. This file models that interface from `main`'s
side:

* `VmiCall` — every call `main` makes, with its arguments;
* `Env` — everything a run of `main` does not choose: which calls fail (`fails`, by the call's
  position in the run), the kernel's symbols, its `CR3` and page tables, and what the rest of
  the system writes to guest memory while the guest runs (`guest`);
* `World` — guest memory, whether the guest is paused, the clock, the trace of the calls made
  (with their status and result), and the lines printed to `stderr`;
* `vmi` — one call: the guest runs first unless paused, then the call fails as `Env` says, or
  takes effect.

`main` leaves its straight-line code for `error_exit` at every failed call. `Fragment` is that
control flow: a stretch of `main` ends with a value or takes the `goto` (`none`). A call that
does not fail continues the straight line (`vmiOr_of_not_fails`), and on a paused guest one
that neither writes nor resumes only advances the clock and the trace (`vmiOr_of_paused`).
`Keeps P m` says `m` keeps the world property `P`; `Keeps.bind`, `keeps_vmiOr` and their
siblings let a phase's frame be derived from its calls (the phases' frames are in `Restore`).
-/

namespace LibVmi.FoolPatchguard

open LibVmi.Memory LibVmi.Events

/-- The libvmi calls of `main`. `getVcpuregCr3` is `vmi_get_vcpureg(vmi, &cr3, CR3, 0)`. -/
inductive VmiCall
  | initComplete (name : String) (socket : Option String)
  | getAddressWidth
  | pauseVm
  | translateKsym2v (symbol : String)
  | readAddrVa (vaddr : Addr)
  | read32Va (vaddr : Addr)
  | write32Va (vaddr : Addr) (value : BitVec 32)
  | pagecacheFlush
  | getVcpuregCr3
  | pagetableLookup (dtb vaddr : Addr)
  | registerEvent (gfn : BitVec 64) (access : MemAccess) (data : CbData)
  | resumeVm
  | eventsListen (timeout : Nat)
  | destroy
  deriving DecidableEq, Repr

/-- The calls that write guest memory. -/
def VmiCall.isWrite : VmiCall → Bool
  | .write32Va _ _ => true
  | _ => false

/-- `vmi_init_complete` and `vmi_destroy`, which begin and end the instance's life. -/
def VmiCall.isLifecycle : VmiCall → Bool
  | .initComplete _ _ | .destroy => true
  | _ => false

/-- The calls `main` makes while its instance lives, other than its writes: they neither write
guest memory nor begin or end the instance. -/
def VmiCall.isRead (c : VmiCall) : Bool := !c.isWrite && !c.isLifecycle

theorem VmiCall.isWrite_of_isRead {c : VmiCall} (h : c.isRead = true) : c.isWrite = false := by
  simp_all [VmiCall.isRead]

theorem VmiCall.isLifecycle_of_isRead {c : VmiCall} (h : c.isRead = true) :
    c.isLifecycle = false := by
  simp_all [VmiCall.isRead]

/-- The calls with a status: `vmi_get_address_width` answers a number, and
`vmi_pagecache_flush` answers nothing. -/
def VmiCall.canFail : VmiCall → Bool
  | .getAddressWidth | .pagecacheFlush => false
  | _ => true

/-- Everything about a run that `main` does not choose. `fails n` is whether the `n`-th call of
the run fails (when it can); `guest n` is what the guest and other agents write to guest memory
before the `n`-th call, while the guest runs. -/
structure Env where
  fails : Nat → Bool
  addressWidth : BitVec 8
  ksym2v : String → Addr
  cr3 : BitVec 64
  pagetable : Addr → Addr → BitVec 64
  guest : Nat → Mem → Mem

/-- One call of a run: its status and its result (`0` for calls without one). -/
structure Logged where
  call : VmiCall
  status : Status
  out : BitVec 64
  deriving DecidableEq, Repr

/-- The state a run of `main` acts on and leaves behind. -/
structure World where
  mem : Mem
  paused : Bool
  clock : Nat
  trace : List Logged
  stderr : List String

/-- `fprintf(stderr, msg)`. -/
def World.err (w : World) (msg : String) : World := { w with stderr := w.stderr ++ [msg] }

@[simp] theorem World.err_trace (w : World) (msg : String) : (w.err msg).trace = w.trace := rfl
@[simp] theorem World.err_mem (w : World) (msg : String) : (w.err msg).mem = w.mem := rfl

/-- The value `vmi_read_addr_va` reads from `m`: a pointer of the guest's width. -/
def readAddr (env : Env) (m : Mem) (a : Addr) : BitVec 64 :=
  if env.addressWidth = 8 then read64 m a else (read32 m a).setWidth 64

/-- A successful call: its result, and guest memory and the pause flag after it. -/
def VmiCall.perform (env : Env) (mem : Mem) (paused : Bool) :
    VmiCall → BitVec 64 × Mem × Bool
  | .getAddressWidth => (env.addressWidth.setWidth 64, mem, paused)
  | .pauseVm => (0, mem, true)
  | .resumeVm => (0, mem, false)
  | .translateKsym2v symbol => (env.ksym2v symbol, mem, paused)
  | .readAddrVa vaddr => (readAddr env mem vaddr, mem, paused)
  | .read32Va vaddr => ((read32 mem vaddr).setWidth 64, mem, paused)
  | .write32Va vaddr value => (0, write32 mem vaddr value, paused)
  | .getVcpuregCr3 => (env.cr3, mem, paused)
  | .pagetableLookup dtb vaddr => (env.pagetable dtb vaddr, mem, paused)
  | _ => (0, mem, paused)

/-- The guest's memory when the call at `w.clock` is made: unchanged if it is paused, else
what the guest has written meanwhile. -/
def World.running (env : Env) (w : World) : Mem :=
  if w.paused then w.mem else env.guest w.clock w.mem

/-- One libvmi call: its status, its result, and the world after it. -/
def vmi (env : Env) (c : VmiCall) (w : World) : Status × BitVec 64 × World :=
  let mem := w.running env
  if c.canFail && env.fails w.clock then
    (.failure, 0, { w with mem, clock := w.clock + 1, trace := w.trace ++ [⟨c, .failure, 0⟩] })
  else
    let r := c.perform env mem w.paused
    (.success, r.1,
      { w with mem := r.2.1, paused := r.2.2, clock := w.clock + 1,
               trace := w.trace ++ [⟨c, .success, r.1⟩] })

/-- **One call, once and for all.** Every call appends its own entry to the trace, and leaves
memory as the running guest left it unless it succeeds and writes. -/
theorem vmi_spec (env : Env) (c : VmiCall) (w : World) :
    (vmi env c w).2.2.trace = w.trace ++ [⟨c, (vmi env c w).1, (vmi env c w).2.1⟩] ∧
      (vmi env c w).2.2.stderr = w.stderr ∧
      (c.isWrite = false → (vmi env c w).2.2.mem = w.running env) := by
  unfold vmi
  split
  · exact ⟨rfl, rfl, fun _ => rfl⟩
  · refine ⟨rfl, rfl, fun h => ?_⟩
    cases c <;> first | rfl | simp [VmiCall.isWrite] at h

/-- A failed call changes neither memory nor the pause flag beyond the guest's own run. -/
theorem vmi_failure {env : Env} {c : VmiCall} {w : World} (h : (vmi env c w).1 = .failure) :
    (vmi env c w).2.2.mem = w.running env ∧ (vmi env c w).2.2.paused = w.paused := by
  unfold vmi at h ⊢
  by_cases hc : (c.canFail && env.fails w.clock) = true
  · simp [hc]
  · simp only [hc] at h; cases h

/-- A successful write leaves the written word at its address. -/
theorem vmi_write32 {env : Env} {a : Addr} {v : BitVec 32} {w : World}
    (h : (vmi env (.write32Va a v) w).1 = .success) :
    (vmi env (.write32Va a v) w).2.2.mem = write32 (w.running env) a v := by
  unfold vmi at h ⊢
  by_cases hc : ((VmiCall.write32Va a v).canFail && env.fails w.clock) = true
  · simp only [hc, if_true] at h; cases h
  · simp only [hc]; rfl

/-- A call made where `env` says it does not fail succeeds. -/
theorem vmi_success_of_not_fails {env : Env} {c : VmiCall} {w : World}
    (h : env.fails w.clock = false) : (vmi env c w).1 = .success := by
  unfold vmi
  rw [if_neg (by simp [h])]

/-- `vmi_get_address_width` answers the guest's width. -/
theorem vmi_out_getAddressWidth (env : Env) (w : World) :
    (vmi env .getAddressWidth w).2.1 = env.addressWidth.setWidth 64 := by
  unfold vmi
  rw [if_neg (by simp [VmiCall.canFail])]
  rfl

/-- A call that answers nothing when it succeeds answers `0` whether it fails or not: the
writes, `vmi_init_complete`, `vmi_resume_vm`, `vmi_destroy`. -/
theorem vmi_out_eq_zero (env : Env) (c : VmiCall) (hc : ∀ m p, (c.perform env m p).1 = 0)
    (w : World) : (vmi env c w).2.1 = 0 := by
  unfold vmi
  split
  · rfl
  · exact hc _ _

/-- A call that neither writes nor resumes leaves a paused guest's memory and pause flag. -/
theorem VmiCall.perform_frame (env : Env) {c : VmiCall} (m : Mem) (hc : c.isWrite = false)
    (hr : c ≠ .resumeVm) : (c.perform env m true).2 = (m, true) := by
  cases c <;> first | rfl | exact absurd rfl hr | simp [VmiCall.isWrite] at hc

/-! ### The control flow of `main`: straight line or `goto error_exit` -/

/-- A stretch of `main`: it runs to its end with a value (`some`), or takes a
`goto error_exit` (`none`). -/
def Fragment (α : Type) : Type := World → Option α × World

instance : Monad Fragment where
  pure a := fun w => (some a, w)
  bind m f := fun w =>
    match m w with
    | (some a, w') => f a w'
    | (none, w') => (none, w')

theorem Fragment.pure_apply {α : Type} (a : α) (w : World) :
    (pure a : Fragment α) w = (some a, w) := rfl

theorem Fragment.bind_apply {α β : Type} (m : Fragment α) (f : α → Fragment β) (w : World) :
    (m >>= f) w = match m w with
      | (some a, w') => f a w'
      | (none, w') => (none, w') := rfl

theorem Fragment.pure_bind {α β : Type} (a : α) (f : α → Fragment β) :
    (pure a >>= f) = f a := rfl

theorem Fragment.bind_assoc {α β γ : Type} (m : Fragment α) (f : α → Fragment β)
    (g : β → Fragment γ) : m >>= f >>= g = m >>= fun a => f a >>= g := by
  funext w
  simp only [Fragment.bind_apply]
  rcases m w with ⟨_ | a, w'⟩ <;> rfl

/-- `fprintf(stderr, msg); goto error_exit;` -/
def Fragment.fail {α : Type} (msg : String) : Fragment α := fun w => (none, w.err msg)

/-- A call whose failure `main` answers with `goto error_exit`, printing `msg` to `stderr` if
there is one (`vmi_init_complete`'s message goes to `stdout`). -/
def vmiOr (env : Env) (c : VmiCall) (msg : Option String) : Fragment (BitVec 64) := fun w =>
  match vmi env c w with
  | (.failure, _, w') => (none, match msg with | some m => w'.err m | none => w')
  | (.success, out, w') => (some out, w')

/-- A call whose status `main` ignores. -/
def vmiDo (env : Env) (c : VmiCall) : Fragment (BitVec 64) := fun w =>
  (some (vmi env c w).2.1, (vmi env c w).2.2)

/-- A call that does not fail continues the straight line with its result. -/
theorem vmiOr_of_not_fails {env : Env} {c : VmiCall} {msg : Option String} {w : World}
    (h : env.fails w.clock = false) :
    vmiOr env c msg w = (some (vmi env c w).2.1, (vmi env c w).2.2) := by
  have hs := vmi_success_of_not_fails (c := c) h
  unfold vmiOr
  rcases hv : vmi env c w with ⟨_ | _, o, w'⟩
  · rfl
  · rw [hv] at hs; cases hs

/-- On a paused guest, a call that neither writes nor resumes, and does not fail, answers from
memory and only advances the clock and the trace. -/
theorem vmiOr_of_paused {env : Env} {c : VmiCall} {msg : Option String} {w : World}
    (hp : w.paused = true) (hf : env.fails w.clock = false) (hc : c.isWrite = false)
    (hr : c ≠ .resumeVm) :
    vmiOr env c msg w = (some (c.perform env w.mem true).1,
      { w with clock := w.clock + 1,
               trace := w.trace ++ [⟨c, .success, (c.perform env w.mem true).1⟩] }) := by
  have hnf : (c.canFail && env.fails w.clock) = false := by simp [hf]
  have hfr := VmiCall.perform_frame env w.mem hc hr
  rcases w with ⟨mem, paused, clock, trace, stderr⟩
  simp only at hp
  subst hp
  simp only [vmiOr, vmi, World.running, hnf, Bool.false_eq_true, ↓reduceIte, if_true, hfr]

/-! ### Frames: what a stretch of `main` keeps -/

/-- `m` keeps `P`: wherever `m` ends or jumps from a world satisfying `P` satisfies `P`. -/
def Keeps {α : Type} (P : World → Prop) (m : Fragment α) : Prop := ∀ w, P w → P (m w).2

section Keeps

variable {P : World → Prop} {α β : Type}

theorem Keeps.pure (a : α) : Keeps P (pure a : Fragment α) := fun _ h => h

theorem Keeps.bind {m : Fragment α} {f : α → Fragment β} (hm : Keeps P m)
    (hf : ∀ a, Keeps P (f a)) : Keeps P (m >>= f) := by
  intro w hw
  rw [Fragment.bind_apply]
  rcases hmw : m w with ⟨_ | a, w'⟩
  · simpa [hmw] using hm w hw
  · exact hf a w' (by simpa [hmw] using hm w hw)

theorem Keeps.ite {c : Prop} [Decidable c] {m₁ m₂ : Fragment α} (h₁ : Keeps P m₁)
    (h₂ : Keeps P m₂) : Keeps P (if c then m₁ else m₂) := by
  split <;> assumption

theorem Keeps.fail (herr : ∀ w msg, P w → P (w.err msg)) (msg : String) :
    Keeps P (Fragment.fail msg : Fragment α) := fun w hw => herr w msg hw

theorem keeps_vmiOr {env : Env} {c : VmiCall} (hc : ∀ w, P w → P (vmi env c w).2.2)
    (herr : ∀ w msg, P w → P (w.err msg)) (msg : Option String) :
    Keeps P (vmiOr env c msg) := by
  intro w hw
  have h := hc w hw
  unfold vmiOr
  generalize vmi env c w = r at h ⊢
  rcases r with ⟨_ | _, out, w'⟩
  · exact h
  · cases msg
    · exact h
    · exact herr _ _ h

theorem keeps_vmiDo {env : Env} {c : VmiCall} (hc : ∀ w, P w → P (vmi env c w).2.2) :
    Keeps P (vmiDo env c) := fun w hw => hc w hw

end Keeps

end LibVmi.FoolPatchguard
