import LibVmi.Memory

/-!
# The libvmi event interface

What a memory-event callback receives and returns, as `libvmi/events.h` presents it to the
handler of `examples/fool-patchguard.c`. The header is not part of this development's
sources, so only the fields the handler and `main` read or write are kept:

* `MemAccess` — `vmi_mem_access_t` as its three access kinds (`VMI_MEMACCESS_R`, `_W`, `_X`);
* `EmulRead` — `emul_read_t`, the buffer whose first `size` bytes the hypervisor hands to the
  trapped read instead of memory (`EmulRead.payload`);
* `VmiEvent` — `vmi_event_t`, with the trapped access (`mem_event`), the vCPU's `rip`, the
  callback data pointer and the `emul_read` pointer the handler may set;
* `EventResponse` — `event_response_t`, the set of response flags raised; the only flag this
  program raises is `VMI_EVENT_RESPONSE_SET_EMUL_READ_DATA`.
-/

namespace LibVmi.Events

open LibVmi.Memory

/-- `status_t`: `VMI_SUCCESS` or `VMI_FAILURE`. -/
inductive Status
  | success
  | failure
  deriving DecidableEq, Repr

/-- `vmi_mem_access_t`, as the three access kinds it combines. -/
structure MemAccess where
  r : Bool
  w : Bool
  x : Bool
  deriving DecidableEq, Repr

/-- `VMI_MEMACCESS_N`: no access allowed (or reported). -/
def vmiMemaccessN : MemAccess := ⟨false, false, false⟩

/-- `VMI_MEMACCESS_RW`. -/
def vmiMemaccessRw : MemAccess := ⟨true, true, false⟩

/-- `emul_read_t`: `data` holds the leading bytes of the 256-byte buffer, whose remaining bytes
are zero; `dont_free` tells libvmi the buffer is not heap memory. -/
structure EmulRead where
  dontFree : Bool
  size : BitVec 32
  data : List Byte
  deriving DecidableEq, Repr

/-- The bytes a trapped read observes when its response carries `e`: the first `size` bytes of
the buffer. -/
def EmulRead.payload (e : EmulRead) : List Byte :=
  (List.range e.size.toNat).map fun j => e.data.getD j 0

@[simp] theorem EmulRead.payload_length (e : EmulRead) : e.payload.length = e.size.toNat := by
  simp [EmulRead.payload]

/-- `mem_event` of a `vmi_event_t`: the access the hypervisor trapped, at linear address `gla`
on frame `gfn`. -/
structure MemEvent where
  outAccess : MemAccess
  gla : Addr
  gfn : BitVec 64
  offset : BitVec 64
  deriving DecidableEq, Repr

/-- `vmi_event_t`, with the callback data of type `α` that `event->data` points to. -/
structure VmiEvent (α : Type) where
  memEvent : MemEvent
  /-- `event->x86_regs->rip`: the instruction pointer of the vCPU that made the access. -/
  rip : Addr
  data : α
  /-- `event->emul_read`: `none` is the `NULL` the event arrives with. -/
  emulRead : Option EmulRead

/-- `event_response_t`, as the response flags it raises. -/
structure EventResponse where
  setEmulReadData : Bool
  deriving DecidableEq, Repr

/-- `VMI_EVENT_RESPONSE_NONE`. -/
def vmiEventResponseNone : EventResponse := ⟨false⟩

end LibVmi.Events
