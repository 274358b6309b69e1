import LibVmi.Events

/-!
# The read-event handler of `fool-patchguard`

`cb_on_rw_access` runs on every trapped access to the frame that holds the corrupted SSDT
entry. It reads 15 bytes at the faulting `rip`, decodes them with bddisasm, sizes the
access with `mem_access_size_from_insn`, and answers `VMI_EVENT_RESPONSE_SET_EMUL_READ_DATA`
with the buffer `main` prepared in `cb_data`, or `VMI_EVENT_RESPONSE_NONE`.

The decoder is a collaborator, not part of this program: `Bddisasm` gives `NdDecodeEx` and
`NdToText` as arbitrary functions, and `INSTRUX` keeps the fields the handler reads.

* `decodeAtRip`, `memAccessSizeFromInsn`, `cbOnRwAccess` — the handler's three steps: read and
  decode at `rip`, size the access, and compare `rip` with the entry's address;
* `cbOnRwAccess_cases` — every path of the handler by its outcome: it emulates (`emulates`) and
  the event gets `cb_data->emul_read`, or it answers `NONE` and returns the event as it came;
* the two failing inputs: a read of the entry by an instruction elsewhere is not emulated
  (`rip` is compared, not `gla`), and an emulated four-byte read is handed eight bytes.
-/

namespace LibVmi.FoolPatchguard

open LibVmi.Memory LibVmi.Events

/-! ### The decoder's side -/

/-- `ND_INS_CLASS`, the decoded mnemonic: the three the sizer handles, and every other one. -/
inductive NdInsClass
  | mov
  | movzx
  | movsxd
  | other (id : Nat)
  deriving DecidableEq, Repr

/-- `ND_OPERAND_TYPE`; `notPresent` is the zero of an unused operand slot. -/
inductive NdOperandType
  | notPresent
  | reg
  | mem
  | imm
  | other
  deriving DecidableEq, Repr

/-- `ND_OPERAND`: its kind and its `Size` in bytes. -/
structure NdOperand where
  type : NdOperandType
  size : Nat
  deriving DecidableEq, Repr

instance : Inhabited NdOperand := ⟨⟨.notPresent, 0⟩⟩

/-- `INSTRUX`, the decoded instruction: `MemoryAccess` holds the `ND_ACCESS_*` flags of its
memory operands, `Operands` lists the operand slots from `Operands[0]` (slots past the list are
zero). -/
structure Instrux where
  instruction : NdInsClass
  memoryAccess : BitVec 8
  operands : List NdOperand
  deriving DecidableEq, Repr

/-- `ND_ACCESS_READ`. -/
def ndAccessRead : BitVec 8 := 0x01

/-- `defcode` of `NdDecodeEx`. -/
inductive NdCode
  | code32
  | code64
  deriving DecidableEq, Repr

/-- `defdata` of `NdDecodeEx`. -/
inductive NdData
  | data32
  | data64
  deriving DecidableEq, Repr

/-- The bddisasm entry points the handler calls: `NdDecodeEx` answers an `NDSTATUS` and the
`INSTRUX` it filled; `NdToText` renders an instruction. -/
structure Bddisasm where
  ndDecodeEx : List Byte → NdCode → NdData → BitVec 32 × Instrux
  ndToText : Instrux → String

/-- `ND_SUCCESS(status)`. -/
def ndSuccess (status : BitVec 32) : Bool := status.toNat < 0x80000000

/-- `%x` of `printf`. -/
def hexString (n : Nat) : String := String.mk (Nat.toDigits 16 n)

/-- `MAX_SIZE_X86_INSN`. -/
def maxSizeX86Insn : Nat := 15

/-! ### The program's data -/

/-- `cb_data_t`, what `event->data` points to. -/
structure CbData where
  is64 : Bool
  ntloadDriverEntryAddr : Addr
  emulRead : EmulRead
  deriving DecidableEq, Repr

/-- Lines 351-356 of `main`: the callback data for the corrupted entry at `entry`. The buffer is
`sizeof(ntload_driver_addr)` bytes copied from `NtLoadDriver`'s address. -/
def cbDataOf (is64 : Bool) (entry ntloadDriverAddr : Addr) : CbData where
  is64 := is64
  ntloadDriverEntryAddr := entry
  emulRead := { dontFree := true, size := 8, data := leBytes 8 ntloadDriverAddr.toNat }

/-! ### `mem_access_size_from_insn` -/

/-- `mem_access_size_from_insn`: the answer (`none` for `false`, else `*size`) and the lines
printed to `stderr`. -/
def memAccessSizeFromInsn (nd : Bddisasm) (insn : Instrux) : Option Nat × List String :=
  if ndAccessRead ≠ (insn.memoryAccess &&& ndAccessRead) then
    (none, ["bddisasm: Access is not read\n"])
  else
    match insn.instruction with
    | .movzx | .movsxd | .mov => (some (insn.operands.getD 0 default).size, [])
    | .other _ => (none, ["Unimplemented insn: " ++ nd.ndToText insn ++ "\n"])

/-- The mnemonics the sizer implements. -/
def NdInsClass.isMove : NdInsClass → Bool
  | .mov | .movzx | .movsxd => true
  | .other _ => false

/-- The instruction's memory operands include a read. -/
def Instrux.reads (insn : Instrux) : Bool := insn.memoryAccess &&& ndAccessRead = ndAccessRead

/-! ### `cb_on_rw_access` -/

/-- What the handler leaves behind: its response, the event as it returns it, and the lines it
printed to `stderr`. -/
structure Handled where
  rsp : EventResponse
  event : VmiEvent CbData
  stderr : List String

/-- Lines 136-141 of `cb_on_rw_access`: bddisasm's default code and data sizes for the guest. -/
def ndModes (is64 : Bool) : NdCode × NdData :=
  if is64 then (.code64, .data64) else (.code32, .data32)

/-- Lines 121-148 of `cb_on_rw_access`: read 15 bytes at `rip` and decode them in the guest's
mode, or the line printed when that fails. `vmiReadVa a n` is the outcome of `vmi_read_va` for
`n` bytes at `a`: its status and the bytes it read. -/
def decodeAtRip (nd : Bddisasm) (vmiReadVa : Addr → Nat → Status × List Byte) (is64 : Bool)
    (rip : Addr) : Except String Instrux :=
  let (st, insnBuffer) := vmiReadVa rip maxSizeX86Insn
  if st = .failure then .error "Failed to read buffer at RIP\n" else
  if insnBuffer.length ≠ maxSizeX86Insn then .error "Failed to read enough bytes at RIP\n" else
  let (defcode, defdata) := ndModes is64
  let (status, ripInsn) := nd.ndDecodeEx insnBuffer defcode defdata
  if !ndSuccess status then
    .error ("Failed to decode instruction with libbdisasm: " ++ hexString status.toNat ++ "\n")
  else .ok ripInsn

/-- `cb_on_rw_access`. -/
def cbOnRwAccess (nd : Bddisasm) (vmiReadVa : Addr → Nat → Status × List Byte)
    (event : VmiEvent CbData) : Handled :=
  let cbData := event.data
  let rsp := vmiEventResponseNone
  if !event.memEvent.outAccess.r then ⟨rsp, event, []⟩ else
  match decodeAtRip nd vmiReadVa cbData.is64 event.rip with
  | .error msg => ⟨rsp, event, [msg]⟩
  | .ok ripInsn =>
    match memAccessSizeFromInsn nd ripInsn with
    | (none, err) => ⟨rsp, event, err⟩
    | (some _, _) =>
      if event.rip = cbData.ntloadDriverEntryAddr then
        ⟨{ rsp with setEmulReadData := true },
          { event with emulRead := some cbData.emulRead }, []⟩
      else ⟨rsp, event, []⟩

/-- A decoding at `rip` that succeeds decoded the fifteen bytes read there. -/
theorem decodeAtRip_buffer {nd : Bddisasm} {rd : Addr → Nat → Status × List Byte} {is64 : Bool}
    {rip : Addr} {insn : Instrux} (h : decodeAtRip nd rd is64 rip = .ok insn) :
    (rd rip maxSizeX86Insn).2.length = maxSizeX86Insn ∧
      ndSuccess (nd.ndDecodeEx (rd rip maxSizeX86Insn).2 (ndModes is64).1 (ndModes is64).2).1 ∧
      (nd.ndDecodeEx (rd rip maxSizeX86Insn).2 (ndModes is64).1 (ndModes is64).2).2 = insn := by
  unfold decodeAtRip at h
  generalize rd rip maxSizeX86Insn = p at h ⊢
  generalize ndModes is64 = md at h ⊢
  rcases p with ⟨st, buf⟩
  rcases md with ⟨c, d⟩
  cases st <;> by_cases hl : buf.length = maxSizeX86Insn <;>
    by_cases hs : ndSuccess (nd.ndDecodeEx buf c d).1 <;> simp_all

/-- The sizer answers only for the moves. -/
theorem memAccessSizeFromInsn_isMove {nd : Bddisasm} {insn : Instrux}
    (h : (memAccessSizeFromInsn nd insn).1.isSome = true) : insn.instruction.isMove = true := by
  unfold memAccessSizeFromInsn at h
  split_ifs at h
  · cases h
  · cases hi : insn.instruction <;> simp_all [NdInsClass.isMove]

/-- Whether the handler emulates: a read, decoded at `rip`, accepted by the sizer, with `rip`
at the entry's address. -/
def emulates (nd : Bddisasm) (vmiReadVa : Addr → Nat → Status × List Byte)
    (event : VmiEvent CbData) : Bool :=
  event.memEvent.outAccess.r &&
    (match decodeAtRip nd vmiReadVa event.data.is64 event.rip with
      | .ok insn => (memAccessSizeFromInsn nd insn).1.isSome
      | .error _ => false) &&
    event.rip == event.data.ntloadDriverEntryAddr

/-- Every path of the handler, by its outcome: it emulates and the event gets
`cb_data->emul_read`, or the response is `NONE` and the event is returned as it came. -/
theorem cbOnRwAccess_cases (nd : Bddisasm) (rd : Addr → Nat → Status × List Byte)
    (event : VmiEvent CbData) :
    (emulates nd rd event = true ∧ (cbOnRwAccess nd rd event).rsp = ⟨true⟩ ∧
        (cbOnRwAccess nd rd event).event = { event with emulRead := some event.data.emulRead }) ∨
      (emulates nd rd event = false ∧ (cbOnRwAccess nd rd event).rsp = vmiEventResponseNone ∧
        (cbOnRwAccess nd rd event).event = event) := by
  cases hr : event.memEvent.outAccess.r
  · simp [cbOnRwAccess, emulates, hr]
  · cases hd : decodeAtRip nd rd event.data.is64 event.rip with
    | error msg => simp [cbOnRwAccess, emulates, hr, hd]
    | ok insn =>
      rcases hm : memAccessSizeFromInsn nd insn with ⟨_ | n, err⟩ <;>
        by_cases he : event.rip = event.data.ntloadDriverEntryAddr <;>
        simp only [cbOnRwAccess, emulates, hr, hd, hm] <;> simp [he]

/-! ### A 32-bit guest and one of its reads -/

/-- The size of an instruction's memory operand: the bytes it reads from memory. -/
def Instrux.memOperandSize (insn : Instrux) : Option Nat :=
  (insn.operands.find? (·.type == .mem)).map (·.size)

/-- A 32-bit guest's corrupted entry: `KiServiceTable` at `0x82889000`, index 97. -/
def entry32 : Addr := 0x82889184

/-- `NtLoadDriver` on that guest. -/
def ntLoadDriver32 : Addr := 0x82a5b1c0

/-- `mov eax, dword ptr [0x82889184]` as bddisasm decodes it. -/
def movEaxEntry : Instrux := ⟨.mov, ndAccessRead, [⟨.reg, 4⟩, ⟨.mem, 4⟩]⟩

/-- A decoder that reads every buffer as `movEaxEntry`. -/
def movDecoder : Bddisasm :=
  ⟨fun _ _ _ => (0, movEaxEntry), fun _ => "mov eax, dword ptr [0x82889184]"⟩

/-- A guest whose every read succeeds: `A1 84 91 88 82` (`mov eax, [0x82889184]`) then `nop`s. -/
def readMovEax : Addr → Nat → Status × List Byte := fun _ n =>
  (.success, ([0xa1, 0x84, 0x91, 0x88, 0x82] ++ List.replicate 10 0x90).take n)

/-- A read of the entry, at `gla`, by the instruction at `rip`, with `main`'s callback data. -/
def entryRead (gla rip : Addr) : VmiEvent CbData :=
  ⟨⟨⟨true, false, false⟩, gla, gla >>> 12, gla &&& 0xfff⟩, rip,
    cbDataOf false entry32 ntLoadDriver32, none⟩

/-! ### Two inputs on which the handler misses a read of the entry -/

/-- A four-byte read of the entry by code elsewhere meets every condition but the comparison of
`rip` with the entry's address, and is answered `NONE`: the reader sees the corrupted entry. -/
theorem entry_read_from_elsewhere_not_emulated :
    (entryRead entry32 0x82a10000).memEvent.outAccess.r = true ∧
      decodeAtRip movDecoder readMovEax false 0x82a10000 = .ok movEaxEntry ∧
      memAccessSizeFromInsn movDecoder movEaxEntry = (some 4, []) ∧
      movEaxEntry.memOperandSize = some 4 ∧
      (entryRead entry32 0x82a10000).memEvent.gla = entry32 ∧
      (cbOnRwAccess movDecoder readMovEax (entryRead entry32 0x82a10000)).rsp =
        vmiEventResponseNone :=
  ⟨rfl, rfl, rfl, rfl, rfl, rfl⟩

/-- A four-byte read whose `rip` is the entry's address is emulated, and handed eight bytes:
`NtLoadDriver`'s address, not the four bytes it reads. -/
theorem entry_word_read_handed_eight_bytes :
    (cbOnRwAccess movDecoder readMovEax (entryRead entry32 entry32)).rsp.setEmulReadData = true ∧
      movEaxEntry.memOperandSize = some 4 ∧
      (cbOnRwAccess movDecoder readMovEax (entryRead entry32 entry32)).event.emulRead.map
        EmulRead.payload = some [0xc0, 0xb1, 0xa5, 0x82, 0, 0, 0, 0] :=
  ⟨rfl, rfl, by decide⟩

end LibVmi.FoolPatchguard
