/-
NetWatch.Store.Basic — the store: seven tables, and what each query does to them
(`LibsqlStore`).

Rows are kept in the order in which they were entered. Listings sort them and
leave rows that are equal in that respect as they were. A query either does all
of what it is for or, answering with an error, nothing.
-/
import NetWatch.Store.Query

namespace NetWatch

/-- The rows of all tables (`LibsqlStore`). -/
structure Store where
  checks : List CheckRow
  results : List ResultRow
  /-- The number of the newest result ever kept. -/
  lastResult : Nat
  alerts : List AlertRow
  devices : List DeviceRow
  dependencies : List DependencyRow
  windows : List WindowRow
  channels : List ChannelRow

namespace Store

def empty : Store :=
  ⟨[], [], 0, [], [], [], [], []⟩

/-! ## Listings -/

/-- Rows sorted by a time, the first first (`ORDER BY … ASC`). -/
def oldestFirst {α : Type} (time : α → Int) (rows : List α) : List α :=
  rows.mergeSort fun a b => time a ≤ time b

/-- Rows sorted by a time, the last first (`ORDER BY … DESC`). -/
def newestFirst {α : Type} (time : α → Int) (rows : List α) : List α :=
  rows.mergeSort fun a b => time b ≤ time a

/-- How many rows a listing gives when no limit is asked for (`DEFAULT_RESULT_LIMIT`,
`DEFAULT_ALERT_LIMIT`). -/
def usualLimit : UInt64 := 100

/-- The first rows, as many as a limit allows. Zero stands for the usual limit;
a number of 2⁶³ or more sets none. -/
def limited {α : Type} (limit : UInt64) (rows : List α) : List α :=
  let n := if limit = 0 then usualLimit else limit
  if n.toNat < 9223372036854775808 then rows.take n.toNat else rows

/-- The alerts that rows show, or the first tag among them that names no severity. -/
def readAlerts : List AlertRow → Except StoreFault (List Alert)
  | [] => .ok []
  | r :: rest =>
    match r.toAlert with
    | .error tag => .error (.unknownSeverity tag)
    | .ok a => (readAlerts rest).map (a :: ·)

/-- The windows that rows show, or the first fault in their lists of devices. -/
def readWindows : List WindowRow → Except StoreFault (List Window)
  | [] => .ok []
  | r :: rest =>
    match r.toWindow with
    | .error e => .error (.unreadableDevices e)
    | .ok w => (readWindows rest).map (w :: ·)

/-- Whether a filter lets a row pass (`list_alerts`). -/
def passes (f : AlertFilter) (r : AlertRow) : Bool :=
  f.deviceId.all (· == r.deviceId) && f.severity.all (·.name == r.severity) &&
    (!f.activeOnly || r.isActive) && f.suppressed.all (· == r.suppressed)

/-! ## Writing -/

/-- Applies a change to the rows that it concerns. -/
def change {α : Type} (which : α → Bool) (f : α → α) (rows : List α) : List α :=
  rows.map fun r => if which r then f r else r

/-- Enters a check under a name that is free (`insert_check`). -/
def insertCheck (s : Store) (c : Check) : Except StoreFault Store :=
  if s.checks.any (·.id == c.id) then .error (.taken .checks "id")
  else .ok { s with checks := s.checks ++ [c.toRow] }

/-- Writes over the fields of a check that may change (`update_check`). -/
def updateCheck (s : Store) (c : Check) : Store :=
  { s with
    checks :=
      change (·.id == c.id) (fun r => { c.toRow with createdAt := r.createdAt }) s.checks }

/-- Turns a check on or off (`set_check_enabled`). -/
def enableCheck (s : Store) (id : String) (enabled : Bool) (time : Timestamp) : Store :=
  { s with
    checks :=
      change (·.id == id) (fun r => { r with enabled := enabled, updatedAt := time.toMillis })
        s.checks }

/-- Deletes a check and its dependencies (`delete_check`). -/
def deleteCheck (s : Store) (id : String) : Store :=
  if s.checks.any (·.id == id) then
    { s with
      checks := s.checks.filter (·.id != id)
      dependencies := s.dependencies.filter (·.checkId != id) }
  else s

/-- Keeps a result under the next number (`insert_result`). -/
def insertResult (s : Store) (r : CheckResult) : Except StoreFault Store :=
  if r.latencyMs.isNaN then .error (.noNumber .results "latency_ms")
  else if r.packetLoss.isNaN then .error (.noNumber .results "packet_loss")
  else
    let n := s.lastResult + 1
    .ok { s with results := s.results ++ [r.toRow n], lastResult := n }

/-- Whether a result was checked before a moment (`delete_old_results`). -/
def resultExpired (cutoff : Timestamp) (r : ResultRow) : Bool :=
  r.checkedAt < cutoff.toMillis

/-- Enters an alert under a name that is free (`insert_alert`). -/
def insertAlert (s : Store) (a : Alert) : Except StoreFault Store :=
  if s.alerts.any (·.id == a.id) then .error (.taken .alerts "id")
  else .ok { s with alerts := s.alerts ++ [a.toRow] }

/-- Resolves an alert that is open (`resolve_alert`). -/
def resolveAlert (s : Store) (id : String) (time : Timestamp) : Store :=
  { s with
    alerts :=
      change (fun r => r.id == id && r.isActive)
        (fun r => { r with resolvedAt := some time.toMillis }) s.alerts }

/-- Notes that somebody knows of an alert (`acknowledge_alert`). -/
def acknowledgeAlert (s : Store) (id : String) (time : Timestamp) : Store :=
  { s with
    alerts :=
      change (·.id == id) (fun r => { r with acknowledgedAt := some time.toMillis }) s.alerts }

/-- Whether an alert was resolved before a moment (`delete_old_alerts`). -/
def alertExpired (cutoff : Timestamp) (r : AlertRow) : Bool :=
  r.resolvedAt.any (· < cutoff.toMillis)

/-- Enters a device, or writes over what is known of it (`upsert_device`). -/
def upsertDevice (s : Store) (d : Device) : Store :=
  let row := d.toRow
  if s.devices.any (·.id == d.id) then
    { s with
      devices :=
        change (·.id == d.id) (fun r => { row with lastSeen := row.lastSeen <|> r.lastSeen })
          s.devices }
  else { s with devices := s.devices ++ [row] }

/-- Notes when a device answered (`touch_device`); one that is new has no more than that. -/
def touchDevice (s : Store) (id : String) (time : Timestamp) : Store :=
  if s.devices.any (·.id == id) then
    { s with
      devices :=
        change (·.id == id) (fun r => { r with lastSeen := some time.toMillis }) s.devices }
  else { s with devices := s.devices ++ [⟨id, "", none, some time.toMillis⟩] }

/-- Whether a row is the dependency of a check on a device. -/
def isDependency (checkId deviceId : String) (r : DependencyRow) : Bool :=
  r.checkId == checkId && r.deviceId == deviceId

/-- Enters a dependency of a check that is there (`add_dependency`); one that is known stays as it
is. -/
def addDependency (s : Store) (checkId deviceId : String) (time : Timestamp) :
    Except StoreFault Store :=
  if s.dependencies.any (isDependency checkId deviceId) then .ok s
  else if s.checks.any (·.id == checkId) then
    .ok { s with dependencies := s.dependencies ++ [⟨checkId, deviceId, time.toMillis⟩] }
  else .error .noSuchParent

/-- Whether a device has an open alert (`is_suppressed`). -/
def isAlerting (s : Store) (deviceId : String) : Bool :=
  s.alerts.any fun r => r.deviceId == deviceId && r.isActive

/-- Enters a window under a name that is free (`insert_window`). -/
def insertWindow (s : Store) (w : Window) : Except StoreFault Store :=
  if s.windows.any (·.id == w.id) then .error (.taken .windows "id")
  else .ok { s with windows := s.windows ++ [w.toRow] }

/-- Writes over the fields of a window that may change (`update_window`). -/
def updateWindow (s : Store) (w : Window) : Store :=
  { s with
    windows :=
      change (·.id == w.id) (fun r => { w.toRow with createdAt := r.createdAt }) s.windows }

/-- Enters a channel under a name that is free (`insert_channel`). -/
def insertChannel (s : Store) (c : Channel) : Except StoreFault Store :=
  if s.channels.any (·.id == c.id) then .error (.taken .channels "id")
  else .ok { s with channels := s.channels ++ [c.toRow] }

/-- Writes over the fields of a channel that may change (`update_channel`). -/
def updateChannel (s : Store) (c : Channel) : Store :=
  { s with
    channels :=
      change (·.id == c.id) (fun r => { c.toRow with createdAt := r.createdAt }) s.channels }

/-! ## Answering -/

/-- The answer of a query that writes and gives nothing back. -/
def written (q : Query) (s : Store) (answer : q.Answer) (r : Except StoreFault Store) :
    q.Reply × Store :=
  match r with
  | .ok s' => (.ok answer, s')
  | .error fault => (.error (q.failed fault), s)

def readReply (q : Query) (s : Store) (r : Except StoreFault q.Answer) : q.Reply × Store :=
  match r with
  | .ok answer => (.ok answer, s)
  | .error fault => (.error (q.failed fault), s)

/-- What the statement of a query does and answers. -/
def execute (s : Store) : (q : Query) → q.Reply × Store
  | .insertCheck c => written (.insertCheck c) s () (s.insertCheck c)
  | .check id => (.ok ((s.checks.find? (·.id == id)).map CheckRow.toCheck), s)
  | .checkOfDevice d =>
    (.ok ((oldestFirst CheckRow.createdAt (s.checks.filter (·.deviceId == d))).head?.map
      CheckRow.toCheck), s)
  | .checks => (.ok ((oldestFirst CheckRow.createdAt s.checks).map CheckRow.toCheck), s)
  | .enabledChecks =>
    (.ok ((oldestFirst CheckRow.createdAt (s.checks.filter (·.enabled))).map CheckRow.toCheck), s)
  | .updateCheck c => (.ok (), s.updateCheck c)
  | .enableCheck id enabled time => (.ok (), s.enableCheck id enabled time)
  | .deleteCheck id => (.ok (), s.deleteCheck id)
  | .insertResult r => written (.insertResult r) s (s.lastResult + 1) (s.insertResult r)
  | .results d limit =>
    (.ok ((limited limit (newestFirst ResultRow.checkedAt
      (s.results.filter (·.deviceId == d)))).map ResultRow.toResult), s)
  | .deleteResultsBefore cutoff =>
    (.ok (s.results.countP (resultExpired cutoff)),
      { s with results := s.results.filter (!resultExpired cutoff ·) })
  | .insertAlert a => written (.insertAlert a) s () (s.insertAlert a)
  | .alert id =>
    readReply (.alert id) s ((readAlerts (s.alerts.filter (·.id == id))).map List.head?)
  | .activeAlert c =>
    readReply (.activeAlert c) s ((readAlerts ((newestFirst AlertRow.triggeredAt
      (s.alerts.filter fun r => r.checkId == c && r.isActive)).take 1)).map List.head?)
  | .resolveAlert id time => (.ok (), s.resolveAlert id time)
  | .acknowledgeAlert id time => (.ok (), s.acknowledgeAlert id time)
  | .alerts f =>
    readReply (.alerts f) s (readAlerts (limited f.limit
      (newestFirst AlertRow.triggeredAt (s.alerts.filter (passes f)))))
  | .activeAlerts d =>
    readReply (.activeAlerts d) s (readAlerts (newestFirst AlertRow.triggeredAt
      (s.alerts.filter fun r => d.all (· == r.deviceId) && r.isActive)))
  | .deleteAlertsBefore cutoff =>
    (.ok (s.alerts.countP (alertExpired cutoff)),
      { s with alerts := s.alerts.filter (!alertExpired cutoff ·) })
  | .upsertDevice d => (.ok (), s.upsertDevice d)
  | .device id => (.ok ((s.devices.find? (·.id == id)).map DeviceRow.toDevice), s)
  | .touchDevice id time => (.ok (), s.touchDevice id time)
  | .activeAlertsSince d since =>
    readReply (.activeAlertsSince d since) s (readAlerts (newestFirst AlertRow.triggeredAt
      (s.alerts.filter fun r => r.deviceId == d && r.isActive && since.toMillis ≤ r.triggeredAt)))
  | .addDependency c d time =>
    written (.addDependency c d time) s () (s.addDependency c d time)
  | .removeDependency c d =>
    (.ok (), { s with dependencies := s.dependencies.filter (!isDependency c d ·) })
  | .dependencies c =>
    (.ok ((oldestFirst DependencyRow.createdAt (s.dependencies.filter (·.checkId == c))).map
      DependencyRow.toDependency), s)
  | .blockingDevice c =>
    (.ok ((oldestFirst DependencyRow.createdAt
      (s.dependencies.filter fun r => r.checkId == c && s.isAlerting r.deviceId)).head?.map
        fun r => shownText r.deviceId), s)
  | .insertWindow w => written (.insertWindow w) s () (s.insertWindow w)
  | .window id =>
    match s.windows.find? (·.id == id) with
    | none => (.ok none, s)
    | some r =>
      match r.toWindow with
      | .ok w => (.ok (some w), s)
      | .error e => (.error (.failed none (.unreadableDevices e)), s)
  | .windows =>
    readReply .windows s (readWindows (oldestFirst WindowRow.startTime s.windows))
  | .enabledWindows =>
    readReply .enabledWindows s
      (readWindows (oldestFirst WindowRow.startTime (s.windows.filter (·.enabled))))
  | .updateWindow w => (.ok (), s.updateWindow w)
  | .deleteWindow id => (.ok (), { s with windows := s.windows.filter (·.id != id) })
  | .insertChannel c => written (.insertChannel c) s () (s.insertChannel c)
  | .channel id => (.ok ((s.channels.find? (·.id == id)).map ChannelRow.toChannel), s)
  | .channels => (.ok ((oldestFirst ChannelRow.createdAt s.channels).map ChannelRow.toChannel), s)
  | .enabledChannels =>
    (.ok ((oldestFirst ChannelRow.createdAt (s.channels.filter (·.enabled))).map
      ChannelRow.toChannel), s)
  | .updateChannel c => (.ok (), s.updateChannel c)
  | .deleteChannel id => (.ok (), { s with channels := s.channels.filter (·.id != id) })

/-- What the store answers to a query, and what is kept afterwards. -/
def answer (s : Store) (q : Query) : q.Reply × Store :=
  match q.refusal? with
  | some e => (.error (.invalid e), s)
  | none => s.execute q

end Store

end NetWatch
