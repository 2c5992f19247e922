/-
NetWatch.Proofs.Discovery.Provisioning — what becomes of devices that are announced
(`EventListener::provision`).

An event that announces a device makes the listener record it, and enter a check
if the device has none and its address will do (`Discovery.run_provision`).
What one such event does to the checks of a device and to its row
(`Discovery.checksOf_provisioned`, `Discovery.deviceRows_provisioned`) settles
what many do, one after the other (`Discovery.Heard`): by induction on the
events, the newest one last, checks are only added
(`Discovery.Heard.checksOf_of_none`) and the last announcement of a device
stands (`Discovery.Heard.deviceRows_eq`).
-/
import NetWatch.Listener
import NetWatch.Proofs.Script.Looking
import NetWatch.Proofs.Store.Devices
import Mathlib.Data.Fintype.EquivFin

namespace NetWatch

/-! ## Queries about checks -/

namespace Store

variable {s : Store}

/-- A check is entered after all others if its name is free and its target will do. -/
theorem answer_insertCheck {c : Check} (hvalid : Target.validate c.checkType c.target = .ok ())
    (hfree : ∀ r ∈ s.checks, r.id ≠ c.id) :
    s.answer (.insertCheck c) = (.ok (), { s with checks := s.checks ++ [c.toRow] }) := by
  have haccepted : (Query.insertCheck c).refusal? = none := by
    show Query.refusal?.refusalOf (Target.validate c.checkType c.target) = none
    rw [hvalid]
    rfl
  have hnone : s.checks.any (·.id == c.id) = false := by simpa using hfree
  rw [answer_eq_execute s haccepted]
  show written (.insertCheck c) s () (s.insertCheck c) = _
  unfold insertCheck
  rw [hnone]
  rfl

/-- A check whose target will not do is not entered. -/
theorem answer_insertCheck_of_invalid {c : Check} {e : ValidationError}
    (hinvalid : Target.validate c.checkType c.target = .error e) :
    s.answer (.insertCheck c) = (.error (.invalid e), s) := by
  refine answer_of_refused s ?_
  show Query.refusal?.refusalOf (Target.validate c.checkType c.target) = some e
  rw [hinvalid]
  rfl

theorem answer_checkOfDevice_of_none {deviceId : String}
    (h : ∀ r ∈ s.checks, r.deviceId ≠ deviceId) :
    s.answer (.checkOfDevice deviceId) = (.ok none, s) := by
  have hrows : s.checks.filter (·.deviceId == deviceId) = [] := by simpa using h
  show (Except.ok ((oldestFirst CheckRow.createdAt (s.checks.filter
    (·.deviceId == deviceId))).head?.map CheckRow.toCheck), s) = _
  rw [hrows, head?_oldestFirst_eq_none.mpr rfl]
  rfl

theorem answer_checkOfDevice_of_some {deviceId : String}
    (h : ∃ r ∈ s.checks, r.deviceId = deviceId) :
    ∃ c, s.answer (.checkOfDevice deviceId) = (.ok (some c), s) := by
  obtain ⟨r, hr, hdevice⟩ := h
  have hrows : s.checks.filter (·.deviceId == deviceId) ≠ [] :=
    List.ne_nil_of_mem (List.mem_filter.mpr ⟨hr, by simpa using hdevice⟩)
  cases hfirst : (oldestFirst CheckRow.createdAt
      (s.checks.filter (·.deviceId == deviceId))).head? with
  | none => exact absurd (head?_oldestFirst_eq_none.mp hfirst) hrows
  | some r =>
    refine ⟨r.toCheck, ?_⟩
    show (Except.ok ((oldestFirst CheckRow.createdAt (s.checks.filter
      (·.deviceId == deviceId))).head?.map CheckRow.toCheck), s) = _
    rw [hfirst]
    rfl

/-- The rows of the checks of a device. -/
def checksOf (s : Store) (deviceId : String) : List CheckRow :=
  s.checks.filter (·.deviceId = deviceId)

end Store

/-! ## One event -/

/-- Whether a check of type `icmp` can be aimed at the address of a device. -/
def DiscoveredDevice.hasTarget (d : DiscoveredDevice) : Bool :=
  (Target.validate ProbeKind.icmp.name d.ipAddress).isOk

namespace Discovery

/-- The row of the check that a device is given. -/
def checkRow (d : DiscoveredDevice) (id : String) (now : Timestamp) : CheckRow :=
  (Check.create id d.id ProbeKind.icmp.name d.ipAddress now).toRow

/-- What is kept of a device that is announced. -/
def provisioned (s : Store) (d : DiscoveredDevice) (id : String) (now : Timestamp) : Store :=
  let recorded := s.upsertDevice d.toDevice
  if s.checks.any (·.deviceId == d.id) || !d.hasTarget then recorded
  else { recorded with checks := s.checks ++ [checkRow d id now] }

variable {w : World} {s : Store} {d : DiscoveredDevice} {id : String}

/-- **What the announcement of a device comes to** where the store fails only if the address will
not do: the device is recorded in any case. -/
theorem run_provision (hw : w.backend = .sound) (hid : ∀ r ∈ s.checks, r.id ≠ id) :
    ∃ result, (provision d id).run w s = ⟨some result, provisioned s d id w.now, [], []⟩ := by
  have hchecks : (s.upsertDevice d.toDevice).checks = s.checks :=
    (Store.upsertDevice_agrees s d.toDevice).checks (by simp)
  have hrecord : s.answer (.upsertDevice d.toDevice) = (.ok (), s.upsertDevice d.toDevice) := rfl
  unfold provision provisioned
  simp only [Script.query_bind, Script.run, hw, Backend.sound, hrecord]
  generalize s.upsertDevice d.toDevice = recorded at hchecks ⊢
  rw [← hchecks] at hid ⊢
  by_cases hcovered : ∃ r ∈ recorded.checks, r.deviceId = d.id
  · obtain ⟨c, hfound⟩ := Store.answer_checkOfDevice_of_some hcovered
    have hany : recorded.checks.any (·.deviceId == d.id) = true := by simpa using hcovered
    rw [hfound, hany]
    exact ⟨_, rfl⟩
  · have hnone : ∀ r ∈ recorded.checks, r.deviceId ≠ d.id := by simpa using hcovered
    have hany : recorded.checks.any (·.deviceId == d.id) = false := by simpa using hnone
    rw [Store.answer_checkOfDevice_of_none hnone, hany]
    simp only [Script.now_bind, Script.run, hw, Backend.sound]
    unfold DiscoveredDevice.hasTarget
    cases hvalid : Target.validate ProbeKind.icmp.name d.ipAddress with
    | error e =>
      rw [Store.answer_insertCheck_of_invalid hvalid]
      exact ⟨_, rfl⟩
    | ok _ =>
      rw [Store.answer_insertCheck hvalid hid]
      exact ⟨_, rfl⟩

/-- An event that announces a device. -/
structure Announces (e : Event) (d : DiscoveredDevice) : Prop where
  topic : e.topic = Topic.deviceDiscovered
  payload : e.payload = .deviceDiscovered d

/-- **What the listener does about the announcement of a device.** -/
theorem run_handle {e : Event} (he : Announces e d) (hw : w.backend = .sound)
    (hid : ∀ r ∈ s.checks, r.id ≠ id) (orders : Enumeration) :
    ∃ made, (Listener.handle orders e id).run w s =
      ⟨some made, provisioned s d id w.now, [], []⟩ := by
  have hother : ¬(e.topic = Topic.alertTriggered ∨ e.topic = Topic.alertResolved) := by
    rw [he.topic]
    decide
  obtain ⟨result, hrun⟩ := run_provision hw hid (d := d)
  unfold Listener.handle
  rw [if_neg hother, if_pos he.topic, he.payload]
  dsimp only
  rw [Script.run_bind_of_result (congrArg Trace.result hrun), hrun]
  cases result <;> exact ⟨_, rfl⟩

/-! ### The tables afterwards -/

theorem provisioned_agrees (s : Store) (d : DiscoveredDevice) (id : String) (now : Timestamp) :
    s.AgreesExcept [.checks, .devices] (provisioned s d id now) := by
  have hrecorded : s.AgreesExcept [.checks, .devices] (s.upsertDevice d.toDevice) :=
    (Store.upsertDevice_agrees s d.toDevice).mono (by simp)
  unfold provisioned
  dsimp only
  split
  · exact hrecorded
  · exact { hrecorded with checks := by simp }

theorem checks_provisioned (s : Store) (d : DiscoveredDevice) (id : String) (now : Timestamp) :
    (provisioned s d id now).checks =
      if s.checks.any (·.deviceId == d.id) || !d.hasTarget then s.checks
      else s.checks ++ [checkRow d id now] := by
  unfold provisioned
  dsimp only
  split
  · exact (Store.upsertDevice_agrees s d.toDevice).checks (by simp)
  · rfl

/-- **What one announcement does to the checks of a device.** -/
theorem checksOf_provisioned (s : Store) (d : DiscoveredDevice) (id : String) (now : Timestamp)
    (deviceId : String) :
    (provisioned s d id now).checksOf deviceId =
      if d.id = deviceId ∧ s.checksOf deviceId = [] ∧ d.hasTarget = true then [checkRow d id now]
      else s.checksOf deviceId := by
  unfold Store.checksOf
  rw [checks_provisioned]
  by_cases hdevice : d.id = deviceId
  · subst hdevice
    by_cases hcovered : s.checks.any (·.deviceId == d.id) = true
    · have hsome : s.checks.filter (·.deviceId = d.id) ≠ [] := by
        simpa [List.filter_eq_nil_iff] using hcovered
      rw [hcovered, Bool.true_or, if_pos rfl, if_neg fun h => hsome h.2.1]
    · have hnone : s.checks.filter (·.deviceId = d.id) = [] := by
        simpa [List.filter_eq_nil_iff] using hcovered
      rw [Bool.not_eq_true] at hcovered
      rw [hcovered, hnone]
      cases d.hasTarget with
      | false => simpa using hnone
      | true => simp [hnone, checkRow, Check.create, Check.toRow]
  · have helse : ¬(d.id = deviceId ∧ s.checks.filter (·.deviceId = deviceId) = [] ∧
        d.hasTarget = true) := fun h => hdevice h.1
    rw [if_neg helse]
    split
    · rfl
    · simp [checkRow, Check.create, Check.toRow, hdevice]

/-- **What one announcement does to the devices**: it says all that is known of one, except for when
it was last seen. -/
theorem deviceRows_provisioned (s : Store) (d : DiscoveredDevice) (id : String) (now : Timestamp) :
    (provisioned s d id now).deviceRows = Function.update s.deviceRows d.id
      (some ⟨d.id, d.hostname, d.parentId, (s.deviceRows d.id).bind (·.lastSeen)⟩) := by
  have hdevices : (provisioned s d id now).devices = (s.upsertDevice d.toDevice).devices := by
    unfold provisioned
    dsimp only
    split <;> rfl
  unfold Store.deviceRows
  rw [hdevices]
  exact s.deviceRows_upsertDevice d.toDevice

/-! ## Many events -/

/-- What the listener makes of a store when devices are announced one after the other: each event
is handled at any time, and a check that is made gets a name that is free. -/
inductive Heard (s : Store) : List DiscoveredDevice → Store → Prop where
  | nothing : Heard s [] s
  | next {ds : List DiscoveredDevice} {s' : Store} (h : Heard s ds s') {w : World} {e : Event}
    {d : DiscoveredDevice} {id : String} (he : Announces e d) (hw : w.backend = .sound)
    (hid : ∀ r ∈ s'.checks, r.id ≠ id) (orders : Enumeration) :
    Heard s (ds ++ [d]) ((Listener.handle orders e id).run w s').store

/-- The first announcement of a device with an address that will do. -/
def firstWithTarget? (ds : List DiscoveredDevice) (deviceId : String) : Option DiscoveredDevice :=
  ds.find? fun d => d.id == deviceId && d.hasTarget

/-- The last announcement of a device. -/
def last? (ds : List DiscoveredDevice) (deviceId : String) : Option DiscoveredDevice :=
  ds.reverse.find? (·.id == deviceId)

theorem firstWithTarget?_snoc (ds : List DiscoveredDevice) (d : DiscoveredDevice)
    (deviceId : String) : firstWithTarget? (ds ++ [d]) deviceId =
      (firstWithTarget? ds deviceId).or
        (if d.id = deviceId ∧ d.hasTarget = true then some d else none) := by
  unfold firstWithTarget?
  rw [List.find?_append, List.find?_singleton]
  simp only [Bool.and_eq_true, beq_iff_eq]

theorem last?_snoc (ds : List DiscoveredDevice) (d : DiscoveredDevice) (deviceId : String) :
    last? (ds ++ [d]) deviceId = if d.id = deviceId then some d else last? ds deviceId := by
  unfold last?
  rw [List.reverse_append, List.reverse_singleton, List.singleton_append, List.find?_cons]
  by_cases hd : d.id = deviceId
  · rw [if_pos hd, beq_iff_eq.mpr hd]
  · rw [if_neg hd, beq_false_of_ne hd]

/-- The checks that a device ends up with if it had none: one that is aimed at the first address
that will do, or still none if there is no such address. -/
def IsGiven (ds : List DiscoveredDevice) (deviceId : String) (rows : List CheckRow) : Prop :=
  match firstWithTarget? ds deviceId with
  | none => rows = []
  | some d => ∃ r, rows = [r] ∧ r.enabled = true ∧ r.checkType = "icmp" ∧ r.target = d.ipAddress

/-- The row of a device once devices were announced. -/
def rowAfter (s : Store) (ds : List DiscoveredDevice) (deviceId : String) : Option DeviceRow :=
  match last? ds deviceId with
  | none => s.deviceRows deviceId
  | some d =>
    some ⟨deviceId, d.hostname, d.parentId, (s.deviceRows deviceId).bind (·.lastSeen)⟩

namespace Heard

variable {ds : List DiscoveredDevice} {s' : Store}

/-- Whatever each event keeps is kept by all of them. -/
theorem induct {P : List DiscoveredDevice → Store → Prop} (h : Heard s ds s') (hstart : P [] s)
    (hstep : ∀ ds s' d id now, P ds s' → P (ds ++ [d]) (provisioned s' d id now)) : P ds s' := by
  induction h with
  | nothing => exact hstart
  | @next ds s' _ w e d id he hw hid orders ih =>
    obtain ⟨made, hrun⟩ := run_handle he hw hid orders
    rw [hrun]
    exact hstep ds s' d id w.now ih

/-- **No other table is written to**, however many devices are announced. -/
theorem agrees (h : Heard s ds s') : s.AgreesExcept [.checks, .devices] s' :=
  h.induct (P := fun _ s' => s.AgreesExcept [.checks, .devices] s') (.refl _ s)
    fun _ s' d id now hs' => hs'.trans (provisioned_agrees s' d id now)

/-- **No check is lost or changed.** -/
theorem checks_prefix (h : Heard s ds s') : s.checks <+: s'.checks := by
  refine h.induct (P := fun _ s' => s.checks <+: s'.checks) (List.prefix_refl _) ?_
  intro ds s' d id now hs'
  rw [checks_provisioned]
  split
  · exact hs'
  · exact hs'.trans (List.prefix_append _ _)

/-- **A device that has a check gets no other.** -/
theorem checksOf_of_some (h : Heard s ds s') {deviceId : String}
    (hsome : s.checksOf deviceId ≠ []) : s'.checksOf deviceId = s.checksOf deviceId := by
  refine h.induct (P := fun _ s' => s'.checksOf deviceId = s.checksOf deviceId) rfl ?_
  intro ds s' d id now hs'
  rw [checksOf_provisioned, hs', if_neg fun h => hsome h.2.1]

/-- **A device that has no check** is given one by the first announcement with an address that will
do, and by no other. -/
theorem checksOf_of_none (h : Heard s ds s') {deviceId : String}
    (hnone : s.checksOf deviceId = []) : IsGiven ds deviceId (s'.checksOf deviceId) := by
  refine h.induct (P := fun ds s' => IsGiven ds deviceId (s'.checksOf deviceId)) hnone ?_
  intro ds s' d id now hs'
  rw [checksOf_provisioned]
  unfold IsGiven at hs' ⊢
  rw [firstWithTarget?_snoc]
  cases hfirst : firstWithTarget? ds deviceId with
  | some d₀ =>
    rw [hfirst] at hs'
    obtain ⟨r, hr, hgiven⟩ := hs'
    rw [hr, Option.some_or, if_neg fun h => nomatch h.2.1]
    exact ⟨r, rfl, hgiven⟩
  | none =>
    rw [hfirst] at hs'
    have hstill : s'.checksOf deviceId = [] := hs'
    rw [hstill, Option.none_or]
    by_cases hd : d.id = deviceId ∧ d.hasTarget = true
    · simp only [hd, and_self, if_true]
      exact ⟨_, rfl, rfl, rfl, rfl⟩
    · simp only [hd, true_and, if_false]

/-- **The last announcement of a device is what is known of it.** -/
theorem deviceRows_eq (h : Heard s ds s') (deviceId : String) :
    s'.deviceRows deviceId = rowAfter s ds deviceId := by
  refine h.induct (P := fun ds s' => s'.deviceRows deviceId = rowAfter s ds deviceId) rfl ?_
  intro ds s' d id now hs'
  unfold rowAfter at hs' ⊢
  rw [deviceRows_provisioned, Function.update_apply, last?_snoc]
  by_cases hd : d.id = deviceId
  · subst hd
    rw [if_pos rfl, if_pos rfl, hs']
    cases last? ds d.id <;> rfl
  · rw [if_neg (Ne.symm hd), if_neg hd]
    exact hs'

end Heard

/-- Whatever devices are announced, there is a free name for each check that is made. -/
theorem exists_heard (s : Store) (ds : List DiscoveredDevice) : ∃ s', Heard s ds s' := by
  induction ds using List.reverseRecOn with
  | nil => exact ⟨s, .nothing⟩
  | append_singleton ds d ih =>
    obtain ⟨s', h⟩ := ih
    obtain ⟨id, hid⟩ := Infinite.exists_notMem_finset (s'.checks.map (·.id)).toFinset
    have hfree : ∀ r ∈ s'.checks, r.id ≠ id := by simpa using hid
    exact ⟨_, h.next (w := ⟨.epoch, .sound, fun _ => .unreachable⟩)
      (e := ⟨Topic.deviceDiscovered, "recon", .epoch, .deviceDiscovered d⟩) ⟨rfl, rfl⟩ rfl hfree
      .asWritten⟩

/-- **Devices that are announced get one check at most, and nothing is lost.** Checks stay as they
are; a device that had one gets no other, and one that had none gets one that is aimed at the first
of its addresses that will do, if there is one. What was last announced of a device is known of it
from then on, whatever its address, and when it was last seen is what it was. All other tables stay
as they are. -/
theorem one_check_per_device {ds : List DiscoveredDevice} {s' : Store} (h : Heard s ds s')
    (hplain : ∀ d ∈ ds, PlainText d.hostname ∧ ∀ parent ∈ d.parentId, PlainText parent) :
    s.checks <+: s'.checks ∧
    (∀ deviceId, s.checksOf deviceId ≠ [] → s'.checksOf deviceId = s.checksOf deviceId) ∧
    (∀ deviceId, s.checksOf deviceId = [] → IsGiven ds deviceId (s'.checksOf deviceId)) ∧
    (∀ deviceId d, last? ds deviceId = some d → ∃ known found,
      (s.answer (.device deviceId)).1 = .ok known ∧
      (s'.answer (.device deviceId)).1 = .ok (some found) ∧
      found.hostname = d.hostname ∧ found.parentId = d.parentId.filter (· ≠ "") ∧
      found.lastSeen = known.bind (·.lastSeen)) ∧
    (∀ deviceId, last? ds deviceId = none →
      (s'.answer (.device deviceId)).1 = (s.answer (.device deviceId)).1) ∧
    s.AgreesExcept [.checks, .devices] s' := by
  refine ⟨h.checks_prefix, fun _ hsome => h.checksOf_of_some hsome,
    fun _ hnone => h.checksOf_of_none hnone, fun deviceId d hlast => ?_,
    fun deviceId hlast => ?_, h.agrees⟩
  · have hrow := h.deviceRows_eq deviceId
    rw [rowAfter, hlast] at hrow
    have hd : d ∈ ds := List.mem_reverse.mp (List.mem_of_find?_eq_some hlast)
    obtain ⟨hhostname, hparent⟩ := hplain d hd
    have hshown : d.parentId.map shownText = d.parentId := by
      cases hcase : d.parentId with
      | none => rfl
      | some parent => rw [Option.map_some, shownText_eq_self (hparent parent hcase)]
    refine ⟨(s.deviceRows deviceId).map DeviceRow.toDevice, DeviceRow.toDevice
      ⟨deviceId, d.hostname, d.parentId, (s.deviceRows deviceId).bind (·.lastSeen)⟩, rfl, ?_,
      shownText_eq_self hhostname, congrArg (Option.filter (· ≠ "")) hshown, ?_⟩
    · rw [Store.answer_device, hrow]
      rfl
    · cases s.deviceRows deviceId <;> rfl
  · rw [Store.answer_device, Store.answer_device, h.deviceRows_eq, rowAfter, hlast]

/-- A router is announced without an address, then with one, then with another; a switch has a check
that is turned off. -/
theorem one_check_per_device_of_late_address :
    let check : CheckRow := ⟨"check-1", "switch", "tcp", "10.0.0.2:22", 30, false, 0, 0⟩
    let s : Store := { Store.empty with
      checks := [check], devices := [⟨"router", "", none, some 1000⟩] }
    let ds : List DiscoveredDevice := [⟨"router", "gw", "", none⟩,
      ⟨"router", "gw", "10.0.0.1", none⟩,
      ⟨"router", "gateway", "10.0.0.9", some ""⟩, ⟨"switch", "sw", "10.0.0.2", some "router"⟩]
    ∃ s', Heard s ds s' ∧ s'.checksOf "switch" = [check] ∧
      (∃ r, s'.checksOf "router" = [r] ∧ r.enabled = true ∧ r.checkType = "icmp" ∧
        r.target = "10.0.0.1") ∧
      ∃ found, (s'.answer (.device "router")).1 = .ok (some found) ∧ found.hostname = "gateway" ∧
        found.parentId = none ∧ found.lastSeen = some (.ofMillis 1000) := by
  intro check s ds
  obtain ⟨s', h⟩ := exists_heard s ds
  have hplain : ∀ d ∈ ds, PlainText d.hostname ∧ ∀ parent ∈ d.parentId, PlainText parent := by
    decide
  obtain ⟨-, hcovered, hgiven, hknown, -⟩ := one_check_per_device h hplain
  have hfirst : firstWithTarget? ds "router" = some ⟨"router", "gw", "10.0.0.1", none⟩ := by decide
  have hrouter := hgiven "router" (by decide)
  unfold IsGiven at hrouter
  rw [hfirst] at hrouter
  obtain ⟨known, found, hbefore, hfound, hhostname, hparent, hseen⟩ :=
    hknown "router" ⟨"router", "gateway", "10.0.0.9", some ""⟩ (by decide)
  refine ⟨s', h, hcovered "switch" (by decide), hrouter, found, hfound, hhostname, hparent, ?_⟩
  cases hbefore
  exact hseen

end Discovery

end NetWatch
