/-
NetWatch.Proofs.Store.Reachable — stores that queries lead to.

A store is reachable if queries with plain text lead from the empty store to
it. In such a store every row can be read and shows what it holds
(`Store.Reachable.plain`): severities have names, the names of parents and of
devices that checks depend on are whole, and the list of devices of a window is
the written form of one.
-/
import NetWatch.Proofs.Store.Tables
import NetWatch.Proofs.Store.Windows

namespace NetWatch

/-! ## Plain queries -/

/-- The texts in a query. -/
def Query.texts : Query → List String
  | .insertCheck c | .updateCheck c => [c.id, c.deviceId, c.checkType, c.target]
  | .check id | .enableCheck id _ _ | .deleteCheck id | .alert id | .resolveAlert id _
  | .acknowledgeAlert id _ | .device id | .touchDevice id _ | .window id | .deleteWindow id
  | .channel id | .deleteChannel id => [id]
  | .checkOfDevice d | .results d _ | .activeAlertsSince d _ => [d]
  | .activeAlert c | .dependencies c | .blockingDevice c => [c]
  | .insertResult r => r.checkId :: r.deviceId :: r.errorMessage.toList
  | .insertAlert a => a.id :: a.checkId :: a.deviceId :: a.message :: a.suppressedBy.toList
  | .alerts f => f.deviceId.toList
  | .activeAlerts d => d.toList
  | .upsertDevice d => d.id :: d.hostname :: d.parentId.toList
  | .addDependency c d _ | .removeDependency c d => [c, d]
  | .insertWindow w | .updateWindow w =>
    w.id :: w.name :: w.description :: w.recurrence :: w.deviceIds
  | .insertChannel c | .updateChannel c => [c.id, c.name, c.channelType, c.config]
  | .checks | .enabledChecks | .deleteResultsBefore _ | .deleteAlertsBefore _ | .windows
  | .enabledWindows | .channels | .enabledChannels => []

/-- Whether all texts in a query are plain. -/
def Query.IsPlain (q : Query) : Prop :=
  ∀ s ∈ q.texts, PlainText s

instance (q : Query) : Decidable q.IsPlain :=
  inferInstanceAs (Decidable (∀ s ∈ q.texts, PlainText s))

/-- The stores that queries with plain texts lead to. -/
inductive Store.Reachable : Store → Prop where
  | empty : Reachable .empty
  | answer {s : Store} (h : Reachable s) {q : Query} (hq : q.IsPlain) : Reachable (s.answer q).2

/-! ## Rows that show what they hold -/

/-- All rows can be read and show what they hold, and no two devices have one name. -/
structure Store.Plain (s : Store) : Prop where
  alerts : ∀ r ∈ s.alerts, r.Readable
  devices : ∀ r ∈ s.devices, ∀ parent ∈ r.parentId, PlainText parent
  distinct : (s.devices.map (·.id)).Nodup
  dependencies : ∀ r ∈ s.dependencies, PlainText r.deviceId
  windows : ∀ r ∈ s.windows, r.IsPlain

namespace Store.Plain

variable {s : Store} {q : Query}

theorem alerts_answer (h : s.Plain) : ∀ r ∈ (s.answer q).2.alerts, r.Readable := by
  rw [Store.alerts_answer]
  exact q.readable_alertsAfter h.alerts

theorem devices_execute (h : s.Plain) (hq : q.IsPlain) :
    ∀ r ∈ (s.execute q).2.devices, ∀ parent ∈ r.parentId, PlainText parent := by
  cases q with
  | upsertDevice d =>
    have hd : ∀ parent ∈ d.toRow.parentId, PlainText parent := by
      intro parent hparent
      have htexts : parent ∈ d.parentId.toList := Option.mem_toList.2 hparent
      exact hq parent (by simp [Query.texts, Option.mem_toList.1 htexts])
    show ∀ r ∈ (s.upsertDevice d).devices, _
    unfold upsertDevice
    dsimp only
    split
    · exact Store.of_mem_change h.devices fun _ _ => hd
    · exact Store.of_mem_append h.devices hd
  | touchDevice id t =>
    show ∀ r ∈ (s.touchDevice id t).devices, _
    unfold touchDevice
    split
    · exact Store.of_mem_change h.devices fun _ hr => hr
    · exact Store.of_mem_append h.devices nofun
  | _ =>
    rw [(execute_agrees s _).devices (by simp [Query.writes])]
    exact h.devices

theorem dependencies_execute (h : s.Plain) (hq : q.IsPlain) :
    ∀ r ∈ (s.execute q).2.dependencies, PlainText r.deviceId := by
  cases q with
  | deleteCheck id =>
    show ∀ r ∈ (s.deleteCheck id).dependencies, _
    unfold deleteCheck
    split
    · exact fun r hr => h.dependencies r (List.mem_filter.1 hr).1
    · exact h.dependencies
  | addDependency c d t =>
    have hd : PlainText d := hq d (by simp [Query.texts])
    show ∀ r ∈ (written (.addDependency c d t) s () (s.addDependency c d t)).2.dependencies, _
    unfold addDependency
    split
    · exact h.dependencies
    · split
      · exact Store.of_mem_append h.dependencies hd
      · exact h.dependencies
  | removeDependency c d => exact fun r hr => h.dependencies r (List.mem_filter.1 hr).1
  | _ =>
    rw [(execute_agrees s _).dependencies (by simp [Query.writes])]
    exact h.dependencies

theorem windows_execute (h : s.Plain) (hq : q.IsPlain) :
    ∀ r ∈ (s.execute q).2.windows, r.IsPlain := by
  cases q with
  | insertWindow w =>
    have hw : w.toRow.IsPlain := ⟨hq w.recurrence (by simp [Query.texts]), w.deviceIds, rfl⟩
    show ∀ r ∈ (written (.insertWindow w) s () (s.insertWindow w)).2.windows, _
    unfold insertWindow
    split
    · exact h.windows
    · exact Store.of_mem_append h.windows hw
  | updateWindow w =>
    have hw : PlainText w.recurrence := hq w.recurrence (by simp [Query.texts])
    exact Store.of_mem_change h.windows fun _ _ => ⟨hw, w.deviceIds, rfl⟩
  | deleteWindow id => exact fun r hr => h.windows r (List.mem_filter.1 hr).1
  | _ =>
    rw [(execute_agrees s _).windows (by simp [Query.writes])]
    exact h.windows

/-- The row of a device is found by its name. -/
theorem find?_device (h : s.Plain) {deviceId : String} {r : DeviceRow} :
    s.devices.find? (·.id == deviceId) = some r ↔ r ∈ s.devices ∧ r.id = deviceId :=
  find?_key_eq_some_iff h.distinct

/-- A query with plain texts leaves rows that show what they hold. -/
theorem answer (h : s.Plain) (hq : q.IsPlain) : (s.answer q).2.Plain := by
  refine ⟨h.alerts_answer, ?_, ?_, ?_, ?_⟩ <;> unfold Store.answer <;> split
  · exact h.devices
  · exact h.devices_execute hq
  · exact h.distinct
  · exact nodup_devices_execute h.distinct q
  · exact h.dependencies
  · exact h.dependencies_execute hq
  · exact h.windows
  · exact h.windows_execute hq

end Store.Plain

/-- **In a reachable store every row shows what it holds.** -/
theorem Store.Reachable.plain {s : Store} (h : s.Reachable) : s.Plain := by
  induction h with
  | empty => exact ⟨nofun, nofun, .nil, nofun, nofun⟩
  | answer _ hq ih => exact ih.answer hq

end NetWatch
