/-
NetWatch.Proofs.Alerting.Groups — how open alerts are grouped (`correlated_groups`).

The groups are made from the open alerts, the newest first. An alert that was
announced leads a group unless an alert of its device came before it; so the
leaders belong to different devices (`Correlation.nodup_leaders`), no device is
passed over (`Correlation.exists_leader`), and each leader is as new as any
(`Correlation.leader_newest`). All three are inductions along the list, for any
devices that were seen before.

Devices are compared by the names that are shown, here as in the groups.
-/
import NetWatch.Correlation
import NetWatch.Proofs.Script.Looking
import NetWatch.Proofs.Store.Listings

namespace NetWatch

/-! ## The part of an alert in a group -/

namespace AlertRow

/-- Whether a row is an open alert of a device that was announced. -/
def Leads (deviceId : String) (r : AlertRow) : Prop :=
  r.resolvedAt = none ∧ r.suppressed = false ∧ shownText r.deviceId = deviceId

/-- Whether a row is an open alert that a device explains. -/
def ExplainedBy (deviceId : String) (r : AlertRow) : Prop :=
  r.resolvedAt = none ∧ r.suppressed = true ∧ r.suppressedBy.map shownText = some deviceId

instance (deviceId : String) : DecidablePred (ExplainedBy deviceId) :=
  fun _ => inferInstanceAs (Decidable (_ ∧ _ ∧ _))

variable {r : AlertRow} {a : Alert}

theorem Shows.suppressed (h : r.Shows a) : a.suppressed = r.suppressed := by
  obtain ⟨severity, rfl⟩ := h.eq
  rfl

theorem Shows.deviceId (h : r.Shows a) : a.deviceId = shownText r.deviceId := by
  obtain ⟨severity, rfl⟩ := h.eq
  rfl

theorem Shows.suppressedBy (h : r.Shows a) : a.suppressedBy = r.suppressedBy.map shownText := by
  obtain ⟨severity, rfl⟩ := h.eq
  rfl

end AlertRow

namespace Correlation

open AlertRow (Shows Leads ExplainedBy)

variable {seen : List String} {alerts : List Alert} {rows : List AlertRow}

/-! ## Leaders -/

theorem of_mem_leaders {p : Alert} (h : p ∈ leaders seen alerts) :
    p.suppressed = false ∧ p.deviceId ∉ seen := by
  induction alerts generalizing seen with
  | nil => cases h
  | cons a rest ih =>
    unfold leaders at h
    split at h
    · exact ih h
    · rename_i hleads
      rw [Bool.or_eq_true, List.contains_iff_mem, not_or, Bool.not_eq_true] at hleads
      obtain rfl | hrest := List.mem_cons.mp h
      · exact hleads
      · exact ⟨(ih hrest).1, fun hseen => (ih hrest).2 (List.mem_cons_of_mem _ hseen)⟩

/-- **No two leaders are of one device.** -/
theorem nodup_leaders (seen : List String) (alerts : List Alert) :
    ((leaders seen alerts).map (·.deviceId)).Nodup := by
  induction alerts generalizing seen with
  | nil => exact List.nodup_nil
  | cons a rest ih =>
    unfold leaders
    split
    · exact ih seen
    · refine List.nodup_cons.mpr ⟨fun hmem => ?_, ih (a.deviceId :: seen)⟩
      obtain ⟨p, hp, hsame⟩ := List.mem_map.mp hmem
      exact (of_mem_leaders hp).2 (hsame ▸ List.mem_cons_self)

/-- **Every device with an alert that was announced has a leader**, unless it was seen before. -/
theorem exists_leader {b : Alert} (hb : b ∈ alerts) (hleads : b.suppressed = false)
    (hseen : b.deviceId ∉ seen) : ∃ p ∈ leaders seen alerts, p.deviceId = b.deviceId := by
  induction alerts generalizing seen with
  | nil => cases hb
  | cons a rest ih =>
    unfold leaders
    obtain rfl | hrest := List.mem_cons.mp hb
    · rw [if_neg (by simp [hleads, hseen])]
      exact ⟨b, List.mem_cons_self, rfl⟩
    · split
      · exact ih hrest hseen
      · by_cases hsame : a.deviceId = b.deviceId
        · exact ⟨a, List.mem_cons_self, hsame⟩
        · have hunseen : b.deviceId ∉ a.deviceId :: seen := by
            simp [Ne.symm hsame, hseen]
          obtain ⟨p, hp, hdevice⟩ := ih hrest hunseen
          exact ⟨p, List.mem_cons_of_mem a hp, hdevice⟩

/-- **A leader is as new as any** alert of its device that was announced, if the newest come
first. -/
theorem leader_newest (hshown : List.Forall₂ Shows rows alerts)
    (hsorted : rows.Pairwise fun r r' => r'.triggeredAt ≤ r.triggeredAt) {p : Alert}
    (hp : p ∈ leaders seen alerts) :
    ∃ r ∈ rows, r.Shows p ∧
      ∀ r' ∈ rows, r'.Leads p.deviceId → r'.triggeredAt ≤ r.triggeredAt := by
  induction hshown generalizing seen with
  | nil => cases hp
  | @cons r a rest as hr _ ih =>
    obtain ⟨hfirst, hrest⟩ := List.pairwise_cons.mp hsorted
    -- The first row does not count for a leader that comes after it.
    have hlater {seen' : List String} (hp : p ∈ leaders seen' as)
        (hskip : a.suppressed = true ∨ a.deviceId ≠ p.deviceId) :
        ∃ r₀ ∈ r :: rest, r₀.Shows p ∧
          ∀ r' ∈ r :: rest, r'.Leads p.deviceId → r'.triggeredAt ≤ r₀.triggeredAt := by
      obtain ⟨r₀, hr₀, hshows, hnewest⟩ := ih hrest hp
      refine ⟨r₀, List.mem_cons_of_mem r hr₀, hshows, fun r' hr' hleads => ?_⟩
      obtain rfl | hr' := List.mem_cons.mp hr'
      · rw [hr.suppressed, hr.deviceId, hleads.2.1, hleads.2.2] at hskip
        simp at hskip
      · exact hnewest r' hr' hleads
    unfold leaders at hp
    split at hp
    · rename_i hskip
      rw [Bool.or_eq_true, List.contains_iff_mem] at hskip
      exact hlater hp (hskip.imp_right fun hseen hsame => (of_mem_leaders hp).2 (hsame ▸ hseen))
    · obtain rfl | hp := List.mem_cons.mp hp
      · refine ⟨r, List.mem_cons_self, hr, fun r' hr' _ => ?_⟩
        obtain rfl | hr' := List.mem_cons.mp hr'
        · exact Int.le_refl _
        · exact hfirst r' hr'
      · exact hlater hp (.inr fun hsame => (of_mem_leaders hp).2 (hsame ▸ List.mem_cons_self))

/-! ## Groups -/

theorem mem_groupsOf {g : Group} :
    g ∈ groupsOf alerts ↔ g.parent ∈ leaders [] alerts ∧
      g.children = childrenOf alerts g.parent.deviceId ∧ g.children ≠ [] := by
  simp only [groupsOf, List.mem_filter, List.mem_map, decide_eq_true_eq]
  constructor
  · rintro ⟨⟨p, hp, rfl⟩, hchildren⟩
    exact ⟨hp, rfl, hchildren⟩
  · rintro ⟨hp, hsame, hchildren⟩
    exact ⟨⟨g.parent, hp, by rw [← hsame]⟩, hchildren⟩

theorem nodup_groupsOf (alerts : List Alert) :
    ((groupsOf alerts).map (·.parent.deviceId)).Nodup := by
  refine nodup_map_filter ?_ _
  rw [List.map_map]
  exact nodup_leaders [] alerts

theorem mem_childrenOf {a : Alert} {deviceId : String} :
    a ∈ childrenOf alerts deviceId ↔
      a ∈ alerts ∧ a.suppressed = true ∧ a.suppressedBy = some deviceId := by
  simp [childrenOf]

/-- **An alert that is explained by a device with a leader** is in the group of that leader, and
in no other. -/
theorem existsUnique_group {a p : Alert} (ha : a ∈ alerts) (hquiet : a.suppressed = true)
    (hp : p ∈ leaders [] alerts) (hexplained : a.suppressedBy = some p.deviceId) :
    ∃! g, g ∈ groupsOf alerts ∧ a ∈ g.children := by
  have hchild : a ∈ childrenOf alerts p.deviceId := mem_childrenOf.mpr ⟨ha, hquiet, hexplained⟩
  have hgroup : ⟨p, childrenOf alerts p.deviceId⟩ ∈ groupsOf alerts :=
    mem_groupsOf.mpr ⟨hp, rfl, List.ne_nil_of_mem hchild⟩
  refine ⟨_, ⟨hgroup, hchild⟩, fun g ⟨hg, hmem⟩ => ?_⟩
  rw [(mem_groupsOf.mp hg).2.1, mem_childrenOf, hexplained, Option.some.injEq] at hmem
  exact List.inj_on_of_nodup_map (nodup_groupsOf alerts) hg hgroup hmem.2.2.symm

/-- The children of a device are shown by the rows that it explains. -/
theorem childrenOf_shown (hshown : List.Forall₂ Shows rows alerts) (hopen : ∀ r ∈ rows,
    r.resolvedAt = none) (deviceId : String) :
    List.Forall₂ Shows (rows.filter (ExplainedBy deviceId ·)) (childrenOf alerts deviceId) := by
  have halike : Relator.LiftFun (fun r a => r.resolvedAt = none ∧ Shows r a) (· ↔ ·)
      (fun r => decide (ExplainedBy deviceId r) = true)
      (fun a => (a.suppressed && a.suppressedBy == some deviceId) = true) := by
    rintro r a ⟨hr, ha⟩
    show decide (ExplainedBy deviceId r) = true ↔
      (a.suppressed && a.suppressedBy == some deviceId) = true
    rw [ha.suppressed, ha.suppressedBy]
    simp [ExplainedBy, hr]
  exact (List.rel_filter halike (List.forall₂_and_left _ _ |>.mpr ⟨hopen, hshown⟩)).imp
    fun _ _ => And.right

/-- The open alerts are all among which those that a device explains can be. -/
theorem filter_newestActive_perm (s : Store) (deviceId : String) :
    (s.newestActive.filter (ExplainedBy deviceId ·)).Perm
      (s.alerts.filter (ExplainedBy deviceId ·)) := by
  refine ((Store.newestFirst_perm _ _).filter _).trans (.of_eq ?_)
  rw [List.filter_filter]
  refine List.filter_congr fun r _ => ?_
  simp +contextual [ExplainedBy, AlertRow.isActive]

theorem run_groups {w : World} (hw : w.backend = .sound) (s : Store) :
    groups.run w s = ⟨some ((s.answer (.activeAlerts none)).1.map groupsOf), s, [], []⟩ := by
  have hlooks : (s.answer (.activeAlerts none)).2 = s := Store.answer_snd_of_isLookup s rfl
  show (⟨some ((w.backend (.activeAlerts none) s).1.map groupsOf),
    (w.backend (.activeAlerts none) s).2, [], []⟩ : Trace _) = _
  rw [hw]
  show (⟨_, (s.answer (.activeAlerts none)).2, [], []⟩ : Trace _) = _
  rw [hlooks]
  rfl

/-- **Groups partition the alerts that are explained.** However the alerts in the store came about,
the groups belong to different devices. Each is led by an open alert of its device that was
announced and is as new as any such; its children, of which there are some, are all open alerts that
the device explains, each once. Every open alert that is explained by a device with an open alert
that was announced is in one group and in no other. -/
theorem groups_partition {w : World} {s : Store} (hw : w.backend = .sound)
    (h : ∀ r ∈ s.alerts, r.Readable) :
    ∃ gs, groups.run w s = ⟨some (.ok gs), s, [], []⟩ ∧
      (gs.map (·.parent.deviceId)).Nodup ∧
      (∀ g ∈ gs,
        (∃ r ∈ s.alerts, r.Shows g.parent ∧ r.Leads g.parent.deviceId ∧
          ∀ r' ∈ s.alerts, r'.Leads g.parent.deviceId → r'.triggeredAt ≤ r.triggeredAt) ∧
        g.children ≠ [] ∧
        ∃ rows, rows.Perm (s.alerts.filter (ExplainedBy g.parent.deviceId ·)) ∧
          List.Forall₂ Shows rows g.children) ∧
      ∀ r ∈ s.alerts, ∀ d, r.ExplainedBy d → (∃ p ∈ s.alerts, p.Leads d) →
        ∃ a, r.Shows a ∧ ∃! g, g ∈ gs ∧ a ∈ g.children := by
  obtain ⟨alerts, hanswer, hshown⟩ := Store.lists_activeAlerts_none h
  have hopen : ∀ r ∈ s.newestActive, r.resolvedAt = none :=
    fun r hr => (Store.mem_newestActive.mp hr).2
  refine ⟨groupsOf alerts, ?_, nodup_groupsOf alerts, fun g hg => ?_, fun r hr d hr' hled => ?_⟩
  · rw [run_groups hw, hanswer]
    rfl
  · obtain ⟨hleads, hsame, hsome⟩ := mem_groupsOf.mp hg
    obtain ⟨r, hr, hshows, hnewest⟩ :=
      leader_newest hshown (Store.pairwise_newestFirst _ _) hleads
    have hr' := Store.mem_newestActive.mp hr
    refine ⟨⟨r, hr'.1, hshows, ⟨hr'.2, ?_, hshows.deviceId.symm⟩, fun r₀ hr₀ hlead₀ => ?_⟩, hsome,
      _, filter_newestActive_perm s g.parent.deviceId, ?_⟩
    · rw [← hshows.suppressed]
      exact (of_mem_leaders hleads).1
    · exact hnewest r₀ (Store.mem_newestActive.mpr ⟨hr₀, hlead₀.1⟩) hlead₀
    · rw [hsame]
      exact childrenOf_shown hshown hopen _
  · obtain ⟨p, hp, hleads⟩ := hled
    obtain ⟨a, ha, hshows : r.Shows a⟩ := Store.exists_of_mem_forall₂ hshown.flip
      (Store.mem_newestActive.mpr ⟨hr, hr'.1⟩)
    obtain ⟨b, hb, hshows' : p.Shows b⟩ := Store.exists_of_mem_forall₂ hshown.flip
      (Store.mem_newestActive.mpr ⟨hp, hleads.1⟩)
    have hunseen : b.deviceId ∉ ([] : List String) := List.not_mem_nil
    obtain ⟨l, hl, hdevice⟩ := exists_leader hb (hshows'.suppressed.trans hleads.2.1) hunseen
    rw [hshows'.deviceId, hleads.2.2] at hdevice
    refine ⟨a, hshows, existsUnique_group ha (hshows.suppressed.trans hr'.2.1) hl ?_⟩
    rw [hdevice, hshows.suppressedBy, hr'.2.2]

/-- A router with two alerts that were announced explains one of a switch, and the switch one of
its own. -/
theorem groups_partition_of_router :
    let row (id deviceId : String) (time : Int) (cause : Option String) : AlertRow :=
      ⟨id, "check-1", deviceId, "warning", "timeout", time, none, none, 3, cause.isSome, cause⟩
    let explained := row "alert-2" "switch" 2 (some "router")
    let s : Store := { Store.empty with
      alerts := [row "alert-1" "router" 1 none, explained, row "alert-3" "switch" 3 (some "switch"),
        row "alert-4" "router" 4 none] }
    let w : World := ⟨.epoch, .sound, fun _ => .unreachable⟩
    (∀ r ∈ s.alerts, r.Readable) ∧ ∃ gs, groups.run w s = ⟨some (.ok gs), s, [], []⟩ ∧
      ∃ a, explained.Shows a ∧ ∃! g, g ∈ gs ∧ a ∈ g.children := by
  intro row explained s w
  have hread : ∀ r ∈ s.alerts, r.Readable := by
    have hwarning : ∀ r ∈ s.alerts, r.severity = "warning" := by decide
    exact fun r hr => ⟨.warning, hwarning r hr⟩
  obtain ⟨gs, hgroups, -, -, hchild⟩ := groups_partition (w := w) rfl hread
  have hled : ∃ p ∈ s.alerts, p.Leads "router" :=
    ⟨row "alert-1" "router" 1 none, List.mem_cons_self, rfl, rfl, by decide⟩
  exact ⟨hread, gs, hgroups, hchild explained (by decide) "router" (by decide) hled⟩

end Correlation

end NetWatch
