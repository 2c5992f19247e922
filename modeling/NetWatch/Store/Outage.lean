/-
NetWatch.Store.Outage — a store that does not do all that it is asked.

A table may be out of reach, so that every statement that names it fails, or it
may refuse one kind of change to its rows. A statement that meets either has no
effect; which of several fails it is settled in this order: what is to be
written is refused, a table is out of reach, a change is refused.
-/
import NetWatch.Script

namespace NetWatch

/-- What can be done to a row. -/
inductive RowChange where
  | insert
  | update
  | delete
  deriving DecidableEq, Repr

def RowChange.tags : List (String × RowChange) :=
  [("insert", .insert), ("update", .update), ("delete", .delete)]

def RowChange.named? (tag : String) : Option RowChange :=
  (tags.find? (·.1 == tag)).map (·.2)

/-- One thing that the store does not do. -/
inductive Outage where
  /-- The table is out of reach. -/
  | missing (table : Table)
  /-- The table refuses a kind of change. -/
  | refusing (table : Table) (change : RowChange)
  deriving DecidableEq, Repr

namespace Query

/-- The tables that the statement of a query names. -/
def tables : Query → List Table
  | .insertCheck _ | .check _ | .checkOfDevice _ | .checks | .enabledChecks | .updateCheck _
  | .enableCheck _ _ _ | .deleteCheck _ => [.checks]
  | .insertResult _ | .results _ _ | .deleteResultsBefore _ => [.results]
  | .insertAlert _ | .alert _ | .activeAlert _ | .resolveAlert _ _ | .acknowledgeAlert _ _
  | .alerts _ | .activeAlerts _ | .deleteAlertsBefore _ | .activeAlertsSince _ _ => [.alerts]
  | .upsertDevice _ | .device _ | .touchDevice _ _ => [.devices]
  | .addDependency _ _ _ | .removeDependency _ _ | .dependencies _ => [.dependencies]
  | .blockingDevice _ => [.dependencies, .alerts]
  | .insertWindow _ | .window _ | .windows | .enabledWindows | .updateWindow _
  | .deleteWindow _ => [.windows]
  | .insertChannel _ | .channel _ | .channels | .enabledChannels | .updateChannel _
  | .deleteChannel _ => [.channels]

/-- A kind of change, where there is a row that it is made to. -/
def changeIf (there : Bool) (table : Table) (change : RowChange) : List (Table × RowChange) :=
  if there then [(table, change)] else []

/-- The changes that the statement of a query sets out to make. An entry is set
out to be made before it is known whether its key is taken. -/
def changes (s : Store) : Query → List (Table × RowChange)
  | .insertCheck _ => [(.checks, .insert)]
  | .updateCheck c => changeIf (s.checks.any (·.id == c.id)) .checks .update
  | .enableCheck id _ _ => changeIf (s.checks.any (·.id == id)) .checks .update
  | .deleteCheck id =>
    changeIf (s.checks.any (·.id == id)) .checks .delete ++
      changeIf (s.checks.any (·.id == id) && s.dependencies.any (·.checkId == id))
        .dependencies .delete
  | .insertResult _ => [(.results, .insert)]
  | .deleteResultsBefore cutoff =>
    changeIf (s.results.any (Store.resultExpired cutoff)) .results .delete
  | .insertAlert _ => [(.alerts, .insert)]
  | .resolveAlert id _ =>
    changeIf (s.alerts.any fun r => r.id == id && r.isActive) .alerts .update
  | .acknowledgeAlert id _ => changeIf (s.alerts.any (·.id == id)) .alerts .update
  | .deleteAlertsBefore cutoff =>
    changeIf (s.alerts.any (Store.alertExpired cutoff)) .alerts .delete
  | .upsertDevice d =>
    (.devices, .insert) :: changeIf (s.devices.any (·.id == d.id)) .devices .update
  | .touchDevice id _ =>
    (.devices, .insert) :: changeIf (s.devices.any (·.id == id)) .devices .update
  | .addDependency _ _ _ => [(.dependencies, .insert)]
  | .removeDependency c d =>
    changeIf (s.dependencies.any (Store.isDependency c d)) .dependencies .delete
  | .insertWindow _ => [(.windows, .insert)]
  | .updateWindow w => changeIf (s.windows.any (·.id == w.id)) .windows .update
  | .deleteWindow id => changeIf (s.windows.any (·.id == id)) .windows .delete
  | .insertChannel _ => [(.channels, .insert)]
  | .updateChannel c => changeIf (s.channels.any (·.id == c.id)) .channels .update
  | .deleteChannel id => changeIf (s.channels.any (·.id == id)) .channels .delete
  | .check _ | .checkOfDevice _ | .checks | .enabledChecks | .results _ _ | .alert _
  | .activeAlert _ | .alerts _ | .activeAlerts _ | .device _ | .activeAlertsSince _ _
  | .dependencies _ | .blockingDevice _ | .window _ | .windows | .enabledWindows | .channel _
  | .channels | .enabledChannels => []

/-- What keeps the statement of a query from being carried out. -/
def obstacle? (outages : List Outage) (s : Store) (q : Query) : Option StoreFault :=
  match q.tables.find? fun t => outages.contains (.missing t) with
  | some t => some (.noTable t)
  | none =>
    if (q.changes s).any fun c => outages.contains (.refusing c.1 c.2) then some .refused
    else none

end Query

/-- How a store answers under outages. -/
def Backend.under (outages : List Outage) : Backend :=
  fun q s =>
    match q.refusal? with
    | some e => (.error (.invalid e), s)
    | none =>
      match q.obstacle? outages s with
      | some fault => (.error (q.failed fault), s)
      | none => s.execute q

/-! ## Laws -/

theorem Query.obstacle?_nil (s : Store) (q : Query) : q.obstacle? [] s = none := by
  have h : (q.tables.find? fun t => ([] : List Outage).contains (.missing t)) = none := by
    rw [List.find?_eq_none]
    intro t _
    simp
  have h' :
      ((q.changes s).any fun c => ([] : List Outage).contains (.refusing c.1 c.2)) = false := by
    rw [List.any_eq_false]
    intro c _
    simp
  simp only [Query.obstacle?, h, h']
  rfl

/-- Without an outage the store answers as it does when nothing stands in its way. -/
theorem Backend.under_nil : Backend.under [] = Backend.sound := by
  funext q s
  unfold Backend.under Backend.sound Store.answer
  cases q.refusal? with
  | some e => rfl
  | none => simp only [Query.obstacle?_nil]

end NetWatch
