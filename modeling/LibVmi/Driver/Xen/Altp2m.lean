import LibVmi.Events

/-!
# The altp2m calls of the Xen driver

`driver/xen/altp2m.c` is libvmi's altp2m interface on Xen. Each function reads the Xen instance
of `vmi` (its `libxc` handle, its domain id, its wrapper table `libxcw`) and makes one `libxc`
call through the wrappers, or two for `xen_altp2m_init`. The hypervisor is not part of the
sources: it is a state `σ` that the wrappers act on.

* `Libxcw` — the wrapper calls this file makes, each with the `int` it returns, what it writes
  through its pointer arguments, and the hypervisor's state after it;
* `xenAltp2mInit` / `xenAltp2mDeinit` — raise the domain's memory ceiling, remembering the one
  `xc_domain_getinfo` reported, and set it back;
* `altp2mGuarded` — the body shared by the six wrappers that check the handle and the domain id
  before their call (`xenAltp2mGetDomainState` … `xenAltp2mChangeGfn`); `altp2mGuarded_spec`
  says once for all six what they answer, print and leave. `init`, `deinit` and the two
  physical-page calls have no such guard;
* `CeilingLaws` — what Xen guarantees about a domain's ceiling (`max_memkb`). Xen keeps it as a
  count of 4 kB pages, at most `2^32 - 1` of them (`Holdable`). `getinfo` reports it for the
  domain it describes, and `setmaxmem` sets a ceiling Xen can hold exactly when it succeeds, and
  leaves it when it fails;
* `xen_altp2m_ceiling_round_trip` — under those laws, `deinit` gives back the ceiling `init`
  found when `getinfo` described the domain itself and `deinit`'s call succeeds. A failed `init`
  leaves the ceiling. `init` always makes its `setmaxmem(~0)` call, and succeeds exactly when
  that call does. When `getinfo` did not describe the domain, `init` hands back `0`, and `deinit`
  sets the ceiling to `0`;
* `pageXen` — a hypervisor that keeps ceilings in pages and caps them, as Xen does, and obeys the
  laws. On it the round trip fails both ways the code allows: `deinit` sets the ceiling to `0`
  after a failed `getinfo`, and leaves it at the cap when `setmaxmem` refuses to lower it
  (`ceiling_not_restored_after_init_deinit`).

What the ceiling is after `setmaxmem(~0)` is left open by the laws: Xen caps it, but no result
here needs that.
-/

namespace LibVmi.Xen

open LibVmi.Events

/-- `domid_t`. -/
abbrev DomId : Type := BitVec 16

/-- `xc_dominfo_t`, as the two fields `xen_altp2m_init` reads. -/
structure XcDominfo where
  domid : BitVec 32
  maxMemkb : BitVec 64
  deriving DecidableEq, Repr

/-- The `libxc` wrappers (`xen->libxcw`) this file calls, on the hypervisor's state `σ`. -/
structure Libxcw (σ : Type) where
  /-- `xc_domain_getinfo(xch, first_domid, max_doms, &info)`: the number of domains described,
  and the first of them. -/
  xcDomainGetinfo : σ → DomId → Nat → Int × XcDominfo
  xcDomainSetmaxmem : σ → DomId → BitVec 64 → Int × σ
  xcAltp2mGetDomainState : σ → DomId → Int × Bool
  xcAltp2mSetDomainState : σ → DomId → Bool → Int × σ
  /-- `xc_altp2m_create_view(xch, domid, default_access, &view_id)`. -/
  xcAltp2mCreateView : σ → DomId → MemAccess → Int × BitVec 16 × σ
  xcAltp2mDestroyView : σ → DomId → BitVec 16 → Int × σ
  xcAltp2mSwitchToView : σ → DomId → BitVec 16 → Int × σ
  xcAltp2mChangeGfn : σ → DomId → BitVec 16 → BitVec 64 → BitVec 64 → Int × σ
  /-- `xc_domain_populate_physmap_exact(xch, domid, nr_extents, extent_order, mem_flags,
  extent_start)`, with the frame `*extent_start` in and out. -/
  xcDomainPopulatePhysmapExact :
    σ → DomId → Nat → Nat → Nat → BitVec 64 → Int × BitVec 64 × σ
  /-- `xc_domain_decrease_reservation_exact(xch, domid, nr_extents, extent_order,
  extent_start)`. -/
  xcDomainDecreaseReservationExact : σ → DomId → Nat → Nat → BitVec 64 → Int × σ

/-- `xen_instance_t`, as the fields this file reads. -/
structure XenInstance (σ : Type) where
  /-- Whether `xchandle` is not `NULL`. -/
  xchandle : Bool
  domainid : BitVec 64
  maxGpfn : BitVec 64
  libxcw : Libxcw σ

variable {σ β : Type}

/-- `domid_t domain_id = xen_get_domainid(vmi)`: the instance's id, cut to 16 bits. -/
def XenInstance.domainId (x : XenInstance σ) : DomId := x.domainid.setWidth 16

/-! ### `init` and `deinit` -/

/-- Line 35: `xc_domain_getinfo` describes one domain, and it is the instance's. -/
def getinfoDescribesDomain (x : XenInstance σ) (s : σ) : Bool :=
  (x.libxcw.xcDomainGetinfo s x.domainId 1).1 == 1 &&
    (x.libxcw.xcDomainGetinfo s x.domainId 1).2.domid == x.domainId.setWidth 32

/-- Lines 34-38: the ceiling `xc_domain_getinfo` reports, if it describes the domain; else `0`. -/
def initMemsizeOf (x : XenInstance σ) (s : σ) : BitVec 64 :=
  if getinfoDescribesDomain x s then (x.libxcw.xcDomainGetinfo s x.domainId 1).2.maxMemkb else 0

/-- `xen_altp2m_init` (lines 27-45): `*init_memsize`, then the ceiling raised to `~0`. -/
def xenAltp2mInit (x : XenInstance σ) (s : σ) : Status × BitVec 64 × σ :=
  let r := x.libxcw.xcDomainSetmaxmem s x.domainId (~~~0)
  (if r.1 < 0 then .failure else .success, initMemsizeOf x s, r.2)

/-- `xen_altp2m_deinit` (lines 47-56): the ceiling set to `init_memsize`; the call's answer is
not looked at. -/
def xenAltp2mDeinit (x : XenInstance σ) (initMemsize : BitVec 64) (s : σ) : Status × σ :=
  (.success, (x.libxcw.xcDomainSetmaxmem s x.domainId initMemsize).2)

/-! ### The guarded wrappers -/

/-- The guard of the six wrappers: a handle, and a domain id other than
`(domid_t)VMI_INVALID_DOMID`. `VMI_INVALID_DOMID` is defined outside these sources. -/
def XenInstance.valid (vmiInvalidDomid : BitVec 64) (x : XenInstance σ) : Bool :=
  x.xchandle && x.domainId != vmiInvalidDomid.setWidth 16

/-- The body of the six guarded wrappers: `fn` is the wrapper's `__FUNCTION__`, `callee` the
`libxc` call it makes, and `call` that call on the domain. The answer: the status, what the
call wrote through the wrapper's pointer argument (`none` when no call was made), the
hypervisor's state, and the lines `errprint` printed. -/
def altp2mGuarded (vmiInvalidDomid : BitVec 64) (fn callee : String) (x : XenInstance σ)
    (call : σ → DomId → Int × β × σ) (s : σ) : Status × Option β × σ × List String :=
  if !x.xchandle then (.failure, none, s, [fn ++ " error: invalid xc_interface handle\n"])
  else if x.domainId = vmiInvalidDomid.setWidth 16 then
    (.failure, none, s, [fn ++ " error: invalid domid\n"])
  else
    let r := call s x.domainId
    if r.1 ≠ 0 then
      (.failure, some r.2.1, r.2.2, [callee ++ " returned rc: " ++ toString r.1 ++ "\n"])
    else (.success, some r.2.1, r.2.2, [])

/-- `xen_altp2m_get_domain_state` (lines 58-79). -/
def xenAltp2mGetDomainState (vmiInvalidDomid : BitVec 64) (x : XenInstance σ) :
    σ → Status × Option Bool × σ × List String :=
  altp2mGuarded vmiInvalidDomid "xen_altp2m_get_domain_state" "xc_altp2m_get_domain_state" x
    fun s d => ((x.libxcw.xcAltp2mGetDomainState s d).1, (x.libxcw.xcAltp2mGetDomainState s d).2, s)

/-- `xen_altp2m_set_domain_state` (lines 81-102). -/
def xenAltp2mSetDomainState (vmiInvalidDomid : BitVec 64) (x : XenInstance σ) (state : Bool) :
    σ → Status × Option Unit × σ × List String :=
  altp2mGuarded vmiInvalidDomid "xen_altp2m_set_domain_state" "xc_altp2m_set_domain_state" x
    fun s d => ((x.libxcw.xcAltp2mSetDomainState s d state).1, (),
      (x.libxcw.xcAltp2mSetDomainState s d state).2)

/-- `xen_altp2m_create_p2m` (lines 135-156): a view whose default access is `VMI_MEMACCESS_N`. -/
def xenAltp2mCreateP2m (vmiInvalidDomid : BitVec 64) (x : XenInstance σ) :
    σ → Status × Option (BitVec 16) × σ × List String :=
  altp2mGuarded vmiInvalidDomid "xen_altp2m_create_p2m" "xc_altp2m_create_view" x
    fun s d => x.libxcw.xcAltp2mCreateView s d vmiMemaccessN

/-- `xen_altp2m_destroy_p2m` (lines 158-180). -/
def xenAltp2mDestroyP2m (vmiInvalidDomid : BitVec 64) (x : XenInstance σ) (altp2mIdx : BitVec 16) :
    σ → Status × Option Unit × σ × List String :=
  altp2mGuarded vmiInvalidDomid "xen_altp2m_destroy_p2m" "xc_altp2m_destroy_view" x
    fun s d => ((x.libxcw.xcAltp2mDestroyView s d altp2mIdx).1, (),
      (x.libxcw.xcAltp2mDestroyView s d altp2mIdx).2)

/-- `xen_altp2m_switch_p2m` (lines 182-202). -/
def xenAltp2mSwitchP2m (vmiInvalidDomid : BitVec 64) (x : XenInstance σ) (altp2mIdx : BitVec 16) :
    σ → Status × Option Unit × σ × List String :=
  altp2mGuarded vmiInvalidDomid "xen_altp2m_switch_p2m" "xc_altp2m_switch_to_view" x
    fun s d => ((x.libxcw.xcAltp2mSwitchToView s d altp2mIdx).1, (),
      (x.libxcw.xcAltp2mSwitchToView s d altp2mIdx).2)

/-- `xen_altp2m_change_gfn` (lines 204-224). -/
def xenAltp2mChangeGfn (vmiInvalidDomid : BitVec 64) (x : XenInstance σ) (altp2mIdx : BitVec 16)
    (oldGfn newGfn : BitVec 64) : σ → Status × Option Unit × σ × List String :=
  altp2mGuarded vmiInvalidDomid "xen_altp2m_change_gfn" "xc_altp2m_change_gfn" x
    fun s d => ((x.libxcw.xcAltp2mChangeGfn s d altp2mIdx oldGfn newGfn).1, (),
      (x.libxcw.xcAltp2mChangeGfn s d altp2mIdx oldGfn newGfn).2)

/-! ### The unguarded calls -/

/-- `xen_altp2m_get_max_gpfn` (lines 104-108). -/
def xenAltp2mGetMaxGpfn (x : XenInstance σ) : BitVec 64 := x.maxGpfn

/-- `xen_altp2m_create_physical_page` (lines 110-122): one frame of order 0 at `*page_addr`. -/
def xenAltp2mCreatePhysicalPage (x : XenInstance σ) (pageAddr : BitVec 64) (s : σ) :
    Status × BitVec 64 × σ :=
  let r := x.libxcw.xcDomainPopulatePhysmapExact s x.domainId 1 0 0 pageAddr
  (if r.1 < 0 then .failure else .success, r.2.1, r.2.2)

/-- `xen_altp2m_destroy_physical_page` (lines 124-133): the call's answer is not looked at. -/
def xenAltp2mDestroyPhysicalPage (x : XenInstance σ) (pageAddr : BitVec 64) (s : σ) :
    Status × σ :=
  (.success, (x.libxcw.xcDomainDecreaseReservationExact s x.domainId 1 0 pageAddr).2)

/-! ### What the guarded wrappers answer -/

section Guarded

variable (vmiInvalidDomid : BitVec 64) (fn callee : String) (x : XenInstance σ)
  (call : σ → DomId → Int × β × σ) (s : σ)

/-- **The guarded wrappers.** Each succeeds exactly when its guard passes and its call answers
`0`; it calls exactly when its guard passes, and otherwise leaves the hypervisor as it was. A
successful one prints nothing; a failed one prints exactly one line, naming the wrapper or the
call it made. -/
theorem altp2mGuarded_spec :
    ((altp2mGuarded vmiInvalidDomid fn callee x call s).1 = .success ↔
      x.valid vmiInvalidDomid = true ∧ (call s x.domainId).1 = 0) ∧
    ((altp2mGuarded vmiInvalidDomid fn callee x call s).2.1 = none ↔
      x.valid vmiInvalidDomid = false) ∧
    ((altp2mGuarded vmiInvalidDomid fn callee x call s).2.1 = none →
      (altp2mGuarded vmiInvalidDomid fn callee x call s).2.2.1 = s) ∧
    ((altp2mGuarded vmiInvalidDomid fn callee x call s).1 = .success →
      (altp2mGuarded vmiInvalidDomid fn callee x call s).2.2.2 = []) ∧
    ((altp2mGuarded vmiInvalidDomid fn callee x call s).1 = .failure → ∃ rest,
      (altp2mGuarded vmiInvalidDomid fn callee x call s).2.2.2 = [fn ++ rest] ∨
        (altp2mGuarded vmiInvalidDomid fn callee x call s).2.2.2 = [callee ++ rest]) := by
  unfold altp2mGuarded XenInstance.valid
  by_cases hx : x.xchandle = true
  · by_cases hd : x.domainId = vmiInvalidDomid.setWidth 16
    · simpa [hx, hd] using ⟨_, Or.inl rfl⟩
    · by_cases hr : (call s x.domainId).1 = 0
      · simp [hx, hd, hr]
      · simp [hx, hd, hr, String.append_assoc]
        exact ⟨_, Or.inr rfl⟩
  · simpa [hx] using ⟨_, Or.inl rfl⟩

end Guarded

/-! ### The memory ceiling -/

/-- A ceiling, in kB, that Xen holds exactly: a whole number of 4 kB pages (`PAGE_SHIFT - 10 =
2`), and at most `2^32 - 1` of them, the most `d->max_pages`, an `unsigned int`, counts. -/
def Holdable (m : BitVec 64) : Prop := m.toNat % 4 = 0 ∧ m.toNat / 4 < 2 ^ 32

instance : DecidablePred Holdable := fun _ => inferInstanceAs (Decidable (_ ∧ _))

/-- What Xen guarantees about a domain's memory ceiling `ceiling s d`, in the kB that
`xc_domain_getinfo` reports as `max_memkb`. Xen keeps the ceiling as the domain's `max_pages`
and reports it as `max_pages << 2`. -/
structure CeilingLaws (xc : Libxcw σ) (ceiling : σ → DomId → BitVec 64) : Prop where
  /-- The ceiling is `max_pages` pages of 4 kB. -/
  ceiling_holdable : ∀ s d, Holdable (ceiling s d)
  /-- A description of the domain itself reports its ceiling. -/
  getinfo_self : ∀ s d n, (xc.xcDomainGetinfo s d n).1 = 1 →
    (xc.xcDomainGetinfo s d n).2.domid = d.setWidth 32 →
    (xc.xcDomainGetinfo s d n).2.maxMemkb = ceiling s d
  /-- `XEN_DOMCTL_max_mem` sets `max_pages` to `max_memkb >> 2`, capped at `2^32 - 1`: asked for
  a ceiling Xen holds exactly, a call that succeeds sets it. -/
  setmaxmem_ok : ∀ s d m, 0 ≤ (xc.xcDomainSetmaxmem s d m).1 → Holdable m →
    ceiling (xc.xcDomainSetmaxmem s d m).2 d = m
  /-- A call that fails leaves the ceiling. -/
  setmaxmem_failed : ∀ s d m, (xc.xcDomainSetmaxmem s d m).1 < 0 →
    ceiling (xc.xcDomainSetmaxmem s d m).2 d = ceiling s d

/-- `init` answers what its `xc_domain_setmaxmem(~0)` call leaves, and succeeds exactly when that
call does, whatever `getinfo` answered. -/
theorem xenAltp2mInit_setmaxmem (x : XenInstance σ) (s : σ) :
    (xenAltp2mInit x s).2.2 = (x.libxcw.xcDomainSetmaxmem s x.domainId (~~~0)).2 ∧
      ((xenAltp2mInit x s).1 = .success ↔
        0 ≤ (x.libxcw.xcDomainSetmaxmem s x.domainId (~~~0)).1) :=
  ⟨rfl, by simp [xenAltp2mInit]⟩

section Ceiling

variable {x : XenInstance σ} {ceiling : σ → DomId → BitVec 64}

theorem initMemsizeOf_of_describes (hl : CeilingLaws x.libxcw ceiling) {s : σ}
    (h : getinfoDescribesDomain x s = true) : initMemsizeOf x s = ceiling s x.domainId := by
  simp only [getinfoDescribesDomain, Bool.and_eq_true, beq_iff_eq] at h
  simp only [initMemsizeOf, getinfoDescribesDomain, h, beq_self_eq_true, Bool.and_self, if_true]
  exact hl.getinfo_self _ _ _ h.1 h.2

theorem initMemsizeOf_of_not_describes {s : σ} (h : getinfoDescribesDomain x s = false) :
    initMemsizeOf x s = 0 := by
  simp [initMemsizeOf, h]

/-- A failed `init` leaves the ceiling as it was. -/
theorem xenAltp2mInit_failure_ceiling (hl : CeilingLaws x.libxcw ceiling) {s : σ}
    (h : (xenAltp2mInit x s).1 = .failure) :
    ceiling (xenAltp2mInit x s).2.2 x.domainId = ceiling s x.domainId := by
  by_cases hr : (x.libxcw.xcDomainSetmaxmem s x.domainId (~~~0)).1 < 0
  · exact hl.setmaxmem_failed _ _ _ hr
  · simp only [xenAltp2mInit, hr, if_false, reduceCtorEq] at h

/-- A `deinit` whose call succeeds leaves a ceiling Xen holds exactly at `init_memsize`. -/
theorem xenAltp2mDeinit_ceiling (hl : CeilingLaws x.libxcw ceiling) {m : BitVec 64} {s : σ}
    (hm : Holdable m) (h : 0 ≤ (x.libxcw.xcDomainSetmaxmem s x.domainId m).1) :
    ceiling (xenAltp2mDeinit x m s).2 x.domainId = m :=
  hl.setmaxmem_ok _ _ _ h hm

end Ceiling

/-- **The ceiling round trip.** When `xc_domain_getinfo` describes the domain itself, a later
`deinit` with the `init_memsize` of `init` whose call succeeds, from whatever state the
hypervisor is then in, gives the ceiling back its value before `init`. A failed `init` leaves the
ceiling. `init` makes its `setmaxmem(~0)` call in every case, and succeeds exactly when that call
does. When `getinfo` describes no domain or another one, `init_memsize` is `0`, and a `deinit`
whose call succeeds sets the ceiling to `0`. -/
theorem xen_altp2m_ceiling_round_trip (x : XenInstance σ) (ceiling : σ → DomId → BitVec 64)
    (hl : CeilingLaws x.libxcw ceiling) (s0 s1 : σ) :
    (getinfoDescribesDomain x s0 = true →
      0 ≤ (x.libxcw.xcDomainSetmaxmem s1 x.domainId (xenAltp2mInit x s0).2.1).1 →
      ceiling (xenAltp2mDeinit x (xenAltp2mInit x s0).2.1 s1).2 x.domainId =
        ceiling s0 x.domainId) ∧
    ((xenAltp2mInit x s0).1 = .failure →
      ceiling (xenAltp2mInit x s0).2.2 x.domainId = ceiling s0 x.domainId) ∧
    ((xenAltp2mInit x s0).2.2 = (x.libxcw.xcDomainSetmaxmem s0 x.domainId (~~~0)).2 ∧
      ((xenAltp2mInit x s0).1 = .success ↔
        0 ≤ (x.libxcw.xcDomainSetmaxmem s0 x.domainId (~~~0)).1)) ∧
    (getinfoDescribesDomain x s0 = false → (xenAltp2mInit x s0).2.1 = 0 ∧
      (0 ≤ (x.libxcw.xcDomainSetmaxmem s1 x.domainId 0).1 →
        ceiling (xenAltp2mDeinit x (xenAltp2mInit x s0).2.1 s1).2 x.domainId = 0)) := by
  refine ⟨fun hd hs => ?_, xenAltp2mInit_failure_ceiling hl, xenAltp2mInit_setmaxmem x s0,
    fun hd => ⟨initMemsizeOf_of_not_describes hd, fun hs => ?_⟩⟩
  · -- `init_memsize` is the ceiling `getinfo` reported, which Xen holds exactly
    have hm : (xenAltp2mInit x s0).2.1 = ceiling s0 x.domainId := initMemsizeOf_of_describes hl hd
    rw [xenAltp2mDeinit_ceiling hl (by rw [hm]; exact hl.ceiling_holdable _ _) hs, hm]
  · -- `init_memsize` is `0`
    have hm : (xenAltp2mInit x s0).2.1 = 0 := initMemsizeOf_of_not_describes hd
    rw [hm]
    exact xenAltp2mDeinit_ceiling hl (by decide) hs

/-! ### A page-granular hypervisor -/

/-- `max_pages << 2`: a count of 4 kB pages, as the kB `getdomaininfo` reports. -/
def pagesKb (p : BitVec 32) : BitVec 64 := p.setWidth 64 * 4

/-- `XEN_DOMCTL_max_mem` on `max_memkb = m`: `m >> 2` pages, capped at `2^32 - 1`, the most an
`unsigned int` counts. -/
def maxPagesOf (m : BitVec 64) : BitVec 32 := BitVec.ofNat 32 (min (m.toNat / 4) (2 ^ 32 - 1))

/-- A hypervisor that keeps each domain's ceiling as Xen does, as a count of pages. Asked from
`d`, `xc_domain_getinfo` answers `getinfoRc` and describes domain `described d`, reporting its
pages in kB. Asked for `m` kB, `xc_domain_setmaxmem` answers `setmaxmemRc m`, and when that is
not negative sets the domain's pages to `maxPagesOf m`. The other calls answer `0` and change
nothing. -/
def pageXen (getinfoRc : Int) (described : DomId → BitVec 32)
    (setmaxmemRc : BitVec 64 → Int) : Libxcw (DomId → BitVec 32) where
  xcDomainGetinfo s d _ := (getinfoRc, ⟨described d, pagesKb (s ((described d).setWidth 16))⟩)
  xcDomainSetmaxmem s d m :=
    (setmaxmemRc m, if 0 ≤ setmaxmemRc m then Function.update s d (maxPagesOf m) else s)
  xcAltp2mGetDomainState _ _ := (0, true)
  xcAltp2mSetDomainState s _ _ := (0, s)
  xcAltp2mCreateView s _ _ := (0, 1, s)
  xcAltp2mDestroyView s _ _ := (0, s)
  xcAltp2mSwitchToView s _ _ := (0, s)
  xcAltp2mChangeGfn s _ _ _ _ := (0, s)
  xcDomainPopulatePhysmapExact s _ _ _ _ p := (0, p, s)
  xcDomainDecreaseReservationExact s _ _ _ _ := (0, s)

private theorem toNat_four : (4 : BitVec 64).toNat = 4 := rfl

/-- Every count of pages is a ceiling Xen holds exactly. -/
theorem pagesKb_holdable (p : BitVec 32) : Holdable (pagesKb p) := by
  have hp := p.isLt
  have h : (pagesKb p).toNat = p.toNat * 4 := by
    simp only [pagesKb, BitVec.toNat_mul, BitVec.toNat_setWidth, toNat_four]
    omega
  rw [Holdable, h]
  omega

/-- A ceiling Xen holds exactly survives `max_memkb >> 2` and `max_pages << 2`. -/
theorem pagesKb_maxPagesOf {m : BitVec 64} (hm : Holdable m) : pagesKb (maxPagesOf m) = m := by
  obtain ⟨h4, hcap⟩ := hm
  have := m.isLt
  apply BitVec.eq_of_toNat_eq
  simp only [pagesKb, maxPagesOf, BitVec.toNat_mul, BitVec.toNat_setWidth, BitVec.toNat_ofNat,
    toNat_four]
  omega

theorem pageXen_laws (getinfoRc : Int) (described : DomId → BitVec 32)
    (setmaxmemRc : BitVec 64 → Int) :
    CeilingLaws (pageXen getinfoRc described setmaxmemRc) fun s d => pagesKb (s d) where
  ceiling_holdable s d := pagesKb_holdable (s d)
  getinfo_self s d _ _ h := by
    simp only [pageXen] at h ⊢
    rw [h, BitVec.setWidth_setWidth_of_le _ (by omega), BitVec.setWidth_eq]
  setmaxmem_ok s d m h hm := by
    simp only [pageXen] at h ⊢
    simp [h, pagesKb_maxPagesOf hm]
  setmaxmem_failed s d m h := by
    simp only [pageXen] at h ⊢
    simp [not_le.mpr h]

/-- Every domain's ceiling at 1 GiB: 262144 pages. -/
def oneGiBCeilings : DomId → BitVec 32 := fun _ => 262144

/-- Domain `1`, on a hypervisor whose `getinfo` describes it and whose `setmaxmem` succeeds. -/
def domainOne : XenInstance (DomId → BitVec 32) :=
  ⟨true, 1, 0, pageXen 1 (fun d => d.setWidth 32) fun _ => 0⟩

/-- Domain `1` gets its 1 GiB back after `init` and `deinit`. -/
theorem ceiling_round_trip_domain_one :
    CeilingLaws domainOne.libxcw (fun s d => pagesKb (s d)) ∧
      pagesKb ((xenAltp2mDeinit domainOne (xenAltp2mInit domainOne oneGiBCeilings).2.1
        (xenAltp2mInit domainOne oneGiBCeilings).2.2).2 domainOne.domainId) = 1048576 :=
  ⟨pageXen_laws _ _ _,
    (xen_altp2m_ceiling_round_trip domainOne _ (pageXen_laws _ _ _) oneGiBCeilings
      (xenAltp2mInit domainOne oneGiBCeilings).2.2).1 rfl (by decide)⟩

/-- Domain `1`, on a hypervisor whose `getinfo` fails and whose `setmaxmem` succeeds. -/
def domainOneGetinfoFails : XenInstance (DomId → BitVec 32) :=
  ⟨true, 1, 0, pageXen (-1) (fun d => d.setWidth 32) fun _ => 0⟩

/-- Domain `1`, on a hypervisor whose `getinfo` describes it and whose `setmaxmem` refuses every
ceiling but `~0`. -/
def domainOneLoweringRefused : XenInstance (DomId → BitVec 32) :=
  ⟨true, 1, 0, pageXen 1 (fun d => d.setWidth 32) fun m => if m = ~~~0 then 0 else -1⟩

/-- Two hypervisors on which `init` succeeds and `deinit` with its `init_memsize` right after
does not give domain `1` back its 1 GiB ceiling: with `getinfo` failing, `init` hands back `0`
and `deinit` sets the ceiling to `0`; with `setmaxmem` refusing to lower the ceiling, `deinit`
leaves it at the cap, `2^32 - 1` pages. -/
theorem ceiling_not_restored_after_init_deinit :
    pagesKb (oneGiBCeilings 1) = 1048576 ∧
      CeilingLaws domainOneGetinfoFails.libxcw (fun s d => pagesKb (s d)) ∧
      (xenAltp2mInit domainOneGetinfoFails oneGiBCeilings).1 = .success ∧
      (xenAltp2mInit domainOneGetinfoFails oneGiBCeilings).2.1 = 0 ∧
      pagesKb ((xenAltp2mDeinit domainOneGetinfoFails
        (xenAltp2mInit domainOneGetinfoFails oneGiBCeilings).2.1
        (xenAltp2mInit domainOneGetinfoFails oneGiBCeilings).2.2).2 1) = 0 ∧
      CeilingLaws domainOneLoweringRefused.libxcw (fun s d => pagesKb (s d)) ∧
      (xenAltp2mInit domainOneLoweringRefused oneGiBCeilings).1 = .success ∧
      pagesKb ((xenAltp2mDeinit domainOneLoweringRefused
        (xenAltp2mInit domainOneLoweringRefused oneGiBCeilings).2.1
        (xenAltp2mInit domainOneLoweringRefused oneGiBCeilings).2.2).2 1) = 0x3fffffffc :=
  ⟨rfl, pageXen_laws _ _ _, rfl, rfl, rfl, pageXen_laws _ _ _, rfl, rfl⟩

end LibVmi.Xen
