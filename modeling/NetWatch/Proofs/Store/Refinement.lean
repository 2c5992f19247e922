/-
NetWatch.Proofs.Store.Refinement — the tables of checks, windows and channels are registers.

A record is whole if its row shows it as it is: its texts are plain and its
times whole milliseconds. What queries enter is rounded so that it is, and what
they change stays so. Each table does to its rows what is meant to be done to
the records, and gives whole records back (`RecordTable.serves_checks` and its
siblings).

`Store.refines_registers` puts this together for any number of queries.
-/
import NetWatch.Proofs.Store.Records

namespace NetWatch

/-! ## Reading the rows of whole records -/

section Reading

variable {α ρ : Type} {toRow : α → ρ} {read : ρ → α}

theorem Store.map_read {as : List α} (h : ∀ a ∈ as, read (toRow a) = a) :
    (as.map toRow).map read = as := by
  rw [List.map_map]
  exact (List.map_congr_left h).trans (List.map_id as)

theorem Store.map_read? {a? : Option α} (h : ∀ a ∈ a?, read (toRow a) = a) :
    (a?.map toRow).map read = a? := by
  cases a? with
  | none => rfl
  | some a => exact congrArg some (h a rfl)

end Reading

/-! ## Checks -/

namespace Check

theorem toRow_kept (c : Check) : c.kept.toRow = c.toRow := by
  simp [kept, toRow]

/-- Whether the row of a check shows the check. -/
def Whole (c : Check) : Prop :=
  c.toRow.toCheck = c

theorem Whole.createdAt {c : Check} (h : c.Whole) :
    Timestamp.ofMillis c.createdAt.toMillis = c.createdAt :=
  congrArg Check.createdAt h

theorem whole_kept {c : Check} (h : (Query.insertCheck c).IsKeepable) : c.kept.Whole := by
  have hrow := isPlain_toRow h.plain
  have hcreated := Timestamp.ofMillis_toMillis (h.leapFree c.createdAt (by simp [Query.times]))
  have hupdated := Timestamp.ofMillis_toMillis (h.leapFree c.updatedAt (by simp [Query.times]))
  unfold Whole
  rw [toRow_kept]
  unfold CheckRow.toCheck
  rw [shownText_eq_self hrow.id, shownText_eq_self hrow.deviceId, shownText_eq_self hrow.checkType,
    shownText_eq_self hrow.target]
  simp [toRow, kept, hcreated, hupdated]

/-- A whole check with the first time of another is whole. -/
theorem Whole.over {c old : Check} (h : c.Whole) (hold : old.Whole) :
    Whole { c with createdAt := old.createdAt } := by
  have h : c.toRow.toCheck = c := h
  show { c.toRow.toCheck with createdAt := .ofMillis old.createdAt.toMillis } =
    { c with createdAt := old.createdAt }
  rw [h, hold.createdAt]

theorem Whole.turned {c : Check} (h : c.Whole) (enabled : Bool) {time : Timestamp}
    (htime : time.isLeap = false) :
    Whole { c with enabled := enabled, updatedAt := time.floorMillis } := by
  have h : c.toRow.toCheck = c := h
  show { c.toRow.toCheck with
    enabled := enabled, updatedAt := .ofMillis time.floorMillis.toMillis } =
      { c with enabled := enabled, updatedAt := time.floorMillis }
  rw [h, Timestamp.toMillis_floorMillis, Timestamp.ofMillis_toMillis htime]

end Check

namespace Query

variable {q : Query}

theorem checkRowEdit?_of_none (h : q.checkEdit? = none) : q.checkRowEdit? = none := by
  cases q <;> first | rfl | cases h

/-- What a query does to the rows of checks is what it is meant to do to the checks. -/
theorem renders_checkEdit? {d : Edit Check} (h : q.checkEdit? = some d) :
    ∃ d', q.checkRowEdit? = some d' ∧ d.Renders Check.toRow d' := by
  cases q with
  | insertCheck c =>
    cases h
    exact ⟨_, rfl, .enter c.toRow_kept⟩
  | updateCheck c =>
    cases h
    exact ⟨_, rfl, .amend fun old => by simp [Check.toRow, Check.kept]⟩
  | enableCheck id enabled time =>
    cases h
    exact ⟨_, rfl, .amend fun old => by simp [Check.toRow]⟩
  | deleteCheck id =>
    cases h
    exact ⟨_, rfl, .remove id⟩
  | _ => cases h

/-- What a query can give to checks leaves them whole. -/
theorem keepsWhole_checkEdit? {d : Edit Check} (hq : q.IsKeepable) (h : q.checkEdit? = some d) :
    d.Keeps Check.Whole := by
  cases q with
  | insertCheck c =>
    cases h
    exact Check.whole_kept hq
  | updateCheck c =>
    cases h
    have hc : c.kept.Whole := Check.whole_kept ⟨hq.plain, hq.leapFree⟩
    exact fun _ hold => hc.over hold
  | enableCheck id enabled time =>
    cases h
    have htime := hq.leapFree time (by simp [times])
    exact fun _ hold => hold.turned enabled htime
  | deleteCheck id =>
    cases h
    exact trivial
  | _ => cases h

end Query

def RecordTable.checks : RecordTable Check CheckRow where
  rows := Store.checks
  key := CheckRow.id
  time := CheckRow.createdAt
  enabled := CheckRow.enabled
  rowEdit? := Query.checkRowEdit?
  toRow := Check.toRow
  Whole := Check.Whole

/-- **The table of checks** keeps checks. -/
theorem RecordTable.serves_checks : RecordTable.checks.Serves RecordKind.checks where
  key_toRow _ := rfl
  time_toRow _ := rfl
  enabled_toRow _ := rfl
  time_of_whole h := h.createdAt
  rows_empty := rfl
  rows_execute := Store.checks_execute
  execute_iff := Store.execute_checks_iff
  execute_of_misses := Store.execute_of_misses_checks
  rowEdit?_of_none := Query.checkRowEdit?_of_none
  renders := Query.renders_checkEdit?
  keepsNames := Query.keepsNames_of_checkRowEdit?
  keepsWhole := Query.keepsWhole_checkEdit?
  find {s id _} hwhole hfind := by
    show Except.ok ((s.checks.find? (CheckRow.id · == id)).map CheckRow.toCheck) = _
    exact congrArg Except.ok ((congrArg _ hfind).trans (Store.map_read? hwhole))
  list hwhole hrows := congrArg Except.ok ((congrArg _ hrows).trans (Store.map_read hwhole))
  listEnabled hwhole hrows := congrArg Except.ok ((congrArg _ hrows).trans (Store.map_read hwhole))

/-! ## Windows -/

/-- The window that a row shows if its devices are these. -/
def WindowRow.shown (r : WindowRow) (deviceIds : List String) : Window :=
  ⟨shownText r.id, shownText r.name, shownText r.description, .ofMillis r.startTime,
    .ofMillis r.endTime, shownText r.recurrence, deviceIds, r.enabled, .ofMillis r.createdAt,
    .ofMillis r.updatedAt⟩

/-- The devices of a window are read from its row, whatever they are called. -/
theorem WindowRow.toWindow_eq_shown {r : WindowRow} {ids : List String}
    (h : r.deviceIds = (Window.deviceIdsJson ids).text) : r.toWindow = .ok (r.shown ids) := by
  unfold toWindow
  rw [readDevices h]
  rfl

namespace Window

theorem toRow_kept (w : Window) : w.kept.toRow = w.toRow := by
  simp [kept, toRow]

/-- Whether the row of a window shows the window. -/
def Whole (w : Window) : Prop :=
  w.toRow.shown w.deviceIds = w

theorem Whole.toWindow {w : Window} (h : w.Whole) : w.toRow.toWindow = .ok w :=
  (WindowRow.toWindow_eq_shown rfl).trans (congrArg Except.ok h)

theorem Whole.startTime {w : Window} (h : w.Whole) :
    Timestamp.ofMillis w.startTime.toMillis = w.startTime :=
  congrArg Window.startTime h

theorem Whole.createdAt {w : Window} (h : w.Whole) :
    Timestamp.ofMillis w.createdAt.toMillis = w.createdAt :=
  congrArg Window.createdAt h

theorem whole_kept {w : Window} (h : (Query.insertWindow w).IsKeepable) : w.kept.Whole := by
  have hid := h.plain w.id (by simp [Query.columns])
  have hname := h.plain w.name (by simp [Query.columns])
  have hdescription := h.plain w.description (by simp [Query.columns])
  have hrecurrence := h.plain w.recurrence (by simp [Query.columns])
  have hstart := Timestamp.ofMillis_toMillis (h.leapFree w.startTime (by simp [Query.times]))
  have hend := Timestamp.ofMillis_toMillis (h.leapFree w.endTime (by simp [Query.times]))
  have hcreated := Timestamp.ofMillis_toMillis (h.leapFree w.createdAt (by simp [Query.times]))
  have hupdated := Timestamp.ofMillis_toMillis (h.leapFree w.updatedAt (by simp [Query.times]))
  unfold Whole
  rw [toRow_kept]
  unfold WindowRow.shown
  simp [toRow, kept, hstart, hend, hcreated, hupdated, shownText_eq_self, hid, hname,
    hdescription, hrecurrence]

/-- A whole window with the first time of another is whole. -/
theorem Whole.over {w old : Window} (h : w.Whole) (hold : old.Whole) :
    Whole { w with createdAt := old.createdAt } := by
  have h : w.toRow.shown w.deviceIds = w := h
  show { w.toRow.shown w.deviceIds with createdAt := .ofMillis old.createdAt.toMillis } =
    { w with createdAt := old.createdAt }
  rw [h, hold.createdAt]

end Window

namespace Query

variable {q : Query}

theorem windowRowEdit?_of_none (h : q.windowEdit? = none) : q.windowRowEdit? = none := by
  cases q <;> first | rfl | cases h

/-- What a query does to the rows of windows is what it is meant to do to the windows. -/
theorem renders_windowEdit? {d : Edit Window} (h : q.windowEdit? = some d) :
    ∃ d', q.windowRowEdit? = some d' ∧ d.Renders Window.toRow d' := by
  cases q with
  | insertWindow w =>
    cases h
    exact ⟨_, rfl, .enter w.toRow_kept⟩
  | updateWindow w =>
    cases h
    exact ⟨_, rfl, .amend fun old => by simp [Window.toRow, Window.kept]⟩
  | deleteWindow id =>
    cases h
    exact ⟨_, rfl, .remove id⟩
  | _ => cases h

/-- What a query can give to windows leaves them whole. -/
theorem keepsWhole_windowEdit? {d : Edit Window} (hq : q.IsKeepable) (h : q.windowEdit? = some d) :
    d.Keeps Window.Whole := by
  cases q with
  | insertWindow w =>
    cases h
    exact Window.whole_kept hq
  | updateWindow w =>
    cases h
    have hw : w.kept.Whole := Window.whole_kept ⟨hq.plain, hq.leapFree⟩
    exact fun _ hold => hw.over hold
  | deleteWindow id =>
    cases h
    exact trivial
  | _ => cases h

end Query

def RecordTable.windows : RecordTable Window WindowRow where
  rows := Store.windows
  key := WindowRow.id
  time := WindowRow.startTime
  enabled := WindowRow.enabled
  rowEdit? := Query.windowRowEdit?
  toRow := Window.toRow
  Whole := Window.Whole

namespace Store

variable {s : Store} {as : List Window}

/-- The rows of whole windows are read without fault. -/
theorem readWindows_map (h : ∀ a ∈ as, a.Whole) : readWindows (as.map Window.toRow) = .ok as := by
  induction as with
  | nil => rfl
  | cons a as ih =>
    rw [List.map_cons, readWindows, (h a List.mem_cons_self).toWindow,
      ih fun b hb => h b (List.mem_cons_of_mem a hb)]
    rfl

theorem readReply_of_ok {q : Query} {r : Except StoreFault q.Answer} {answer : q.Answer}
    (h : r = .ok answer) : (readReply q s r).1 = .ok answer := by
  rw [h]
  rfl

theorem answer_window {id : String} {w? : Option Window} (hwhole : ∀ w ∈ w?, w.Whole)
    (hfind : s.windows.find? (·.id == id) = w?.map Window.toRow) :
    (s.answer (.window id)).1 = .ok w? := by
  show (s.execute (.window id)).1 = .ok w?
  cases w? with
  | none => simp [execute, hfind]
  | some w => simp [execute, hfind, (hwhole w rfl).toWindow]

end Store

/-- **The table of windows** keeps windows. -/
theorem RecordTable.serves_windows : RecordTable.windows.Serves RecordKind.windows where
  key_toRow _ := rfl
  time_toRow _ := rfl
  enabled_toRow _ := rfl
  time_of_whole h := h.startTime
  rows_empty := rfl
  rows_execute := Store.windows_execute
  execute_iff := Store.execute_windows_iff
  execute_of_misses := Store.execute_of_misses_windows
  rowEdit?_of_none := Query.windowRowEdit?_of_none
  renders := Query.renders_windowEdit?
  keepsNames := Query.keepsNames_of_windowRowEdit?
  keepsWhole := Query.keepsWhole_windowEdit?
  find := Store.answer_window
  list hwhole hrows :=
    Store.readReply_of_ok ((congrArg _ hrows).trans (Store.readWindows_map hwhole))
  listEnabled hwhole hrows :=
    Store.readReply_of_ok ((congrArg _ hrows).trans (Store.readWindows_map hwhole))

/-! ## Channels -/

namespace Channel

theorem toRow_kept (c : Channel) : c.kept.toRow = c.toRow := by
  simp [kept, toRow]

/-- Whether the row of a channel shows the channel. -/
def Whole (c : Channel) : Prop :=
  c.toRow.toChannel = c

theorem Whole.createdAt {c : Channel} (h : c.Whole) :
    Timestamp.ofMillis c.createdAt.toMillis = c.createdAt :=
  congrArg Channel.createdAt h

theorem whole_kept {c : Channel} (h : (Query.insertChannel c).IsKeepable) : c.kept.Whole := by
  have hid := h.plain c.id (by simp [Query.columns])
  have hname := h.plain c.name (by simp [Query.columns])
  have htype := h.plain c.channelType (by simp [Query.columns])
  have hconfig := h.plain c.config (by simp [Query.columns])
  have hcreated := Timestamp.ofMillis_toMillis (h.leapFree c.createdAt (by simp [Query.times]))
  have hupdated := Timestamp.ofMillis_toMillis (h.leapFree c.updatedAt (by simp [Query.times]))
  unfold Whole
  rw [toRow_kept]
  unfold ChannelRow.toChannel
  simp [toRow, kept, hcreated, hupdated, shownText_eq_self, hid, hname, htype, hconfig]

/-- A whole channel with the first time of another is whole. -/
theorem Whole.over {c old : Channel} (h : c.Whole) (hold : old.Whole) :
    Whole { c with createdAt := old.createdAt } := by
  have h : c.toRow.toChannel = c := h
  show { c.toRow.toChannel with createdAt := .ofMillis old.createdAt.toMillis } =
    { c with createdAt := old.createdAt }
  rw [h, hold.createdAt]

end Channel

namespace Query

variable {q : Query}

theorem channelRowEdit?_of_none (h : q.channelEdit? = none) : q.channelRowEdit? = none := by
  cases q <;> first | rfl | cases h

/-- What a query does to the rows of channels is what it is meant to do to the channels. -/
theorem renders_channelEdit? {d : Edit Channel} (h : q.channelEdit? = some d) :
    ∃ d', q.channelRowEdit? = some d' ∧ d.Renders Channel.toRow d' := by
  cases q with
  | insertChannel c =>
    cases h
    exact ⟨_, rfl, .enter c.toRow_kept⟩
  | updateChannel c =>
    cases h
    exact ⟨_, rfl, .amend fun old => by simp [Channel.toRow, Channel.kept]⟩
  | deleteChannel id =>
    cases h
    exact ⟨_, rfl, .remove id⟩
  | _ => cases h

/-- What a query can give to channels leaves them whole. -/
theorem keepsWhole_channelEdit? {d : Edit Channel} (hq : q.IsKeepable)
    (h : q.channelEdit? = some d) : d.Keeps Channel.Whole := by
  cases q with
  | insertChannel c =>
    cases h
    exact Channel.whole_kept hq
  | updateChannel c =>
    cases h
    have hc : c.kept.Whole := Channel.whole_kept ⟨hq.plain, hq.leapFree⟩
    exact fun _ hold => hc.over hold
  | deleteChannel id =>
    cases h
    exact trivial
  | _ => cases h

end Query

def RecordTable.channels : RecordTable Channel ChannelRow where
  rows := Store.channels
  key := ChannelRow.id
  time := ChannelRow.createdAt
  enabled := ChannelRow.enabled
  rowEdit? := Query.channelRowEdit?
  toRow := Channel.toRow
  Whole := Channel.Whole

/-- **The table of channels** keeps channels. -/
theorem RecordTable.serves_channels : RecordTable.channels.Serves RecordKind.channels where
  key_toRow _ := rfl
  time_toRow _ := rfl
  enabled_toRow _ := rfl
  time_of_whole h := h.createdAt
  rows_empty := rfl
  rows_execute := Store.channels_execute
  execute_iff := Store.execute_channels_iff
  execute_of_misses := Store.execute_of_misses_channels
  rowEdit?_of_none := Query.channelRowEdit?_of_none
  renders := Query.renders_channelEdit?
  keepsNames := Query.keepsNames_of_channelRowEdit?
  keepsWhole := Query.keepsWhole_channelEdit?
  find {s id _} hwhole hfind := by
    show Except.ok ((s.channels.find? (ChannelRow.id · == id)).map ChannelRow.toChannel) = _
    exact congrArg Except.ok ((congrArg _ hfind).trans (Store.map_read? hwhole))
  list hwhole hrows := congrArg Except.ok ((congrArg _ hrows).trans (Store.map_read hwhole))
  listEnabled hwhole hrows := congrArg Except.ok ((congrArg _ hrows).trans (Store.map_read hwhole))

/-! ## The three tables -/

namespace Store

/-- **Checks, windows and channels are registers**: after any queries with plain texts and without
leap seconds, each of them is found and listed just as the replies to the queries told. -/
theorem refines_registers {qs : List Query} (hqs : ∀ q ∈ qs, q.IsKeepable) :
    RecordKind.checks.KeptIn (RecordKind.checks.toldAll .empty (fun _ => none) qs)
        (empty.after qs) ∧
      RecordKind.windows.KeptIn (RecordKind.windows.toldAll .empty (fun _ => none) qs)
        (empty.after qs) ∧
      RecordKind.channels.KeptIn (RecordKind.channels.toldAll .empty (fun _ => none) qs)
        (empty.after qs) :=
  ⟨RecordTable.serves_checks.keptIn_after hqs, RecordTable.serves_windows.keptIn_after hqs,
    RecordTable.serves_channels.keptIn_after hqs⟩

/-- A check that is entered, written over and turned off, a window, and a channel that is
deleted. -/
def work : List Query :=
  [.insertCheck ⟨"c1", "d1", "tcp", "10.0.0.1:22", 60, true, ⟨5, 1234567, by omega, by omega,
      by omega⟩, .epoch⟩,
    .updateCheck ⟨"c1", "d2", "tcp", "10.0.0.2:22", 18446744073709551615, true, .ofMillis 9000,
      .ofMillis 9000⟩,
    .enableCheck "c1" false (.ofMillis 10000),
    .insertWindow ⟨"w1", "night", "", .ofMillis 1000, .ofMillis 2000, "daily", ["d\"1", ""], true,
      .epoch, .epoch⟩,
    .insertChannel ⟨"n1", "n1", "webhook", "\x7b\x7d", true, .epoch, .epoch⟩,
    .deleteChannel "n1"]

theorem refines_registers_of_work : (∀ q ∈ work, q.IsKeepable) ∧
    ((empty.after work).answer (.check "c1")).1 = .ok (some ⟨"c1", "d2", "tcp", "10.0.0.2:22",
      18446744073709551615, false, .ofMillis 5001, .ofMillis 10000⟩) ∧
    ((empty.after work).answer (.channel "n1")).1 = .ok none := by
  have hwork : ∀ q ∈ work, q.IsKeepable := by decide
  obtain ⟨hchecks, -, hchannels⟩ := refines_registers hwork
  refine ⟨hwork, (hchecks.find "c1").trans ?_, (hchannels.find "n1").trans ?_⟩
  · exact congrArg Except.ok (by decide)
  · exact congrArg Except.ok (by decide)

/-- An update of a name that no check has is refused like any other. -/
theorem not_updates_of_unknown : ¬ ∀ c : Check, (∀ r ∈ empty.checks, r.id ≠ c.id) →
    ∃ answer, (empty.answer (.updateCheck c)).1 = .ok answer := by
  intro h
  let check : Check := .create "c2" "d1" "icmp" "" .epoch
  obtain ⟨answer, hok⟩ := h check nofun
  have hrefused : (empty.answer (.updateCheck check)).1 = .error (.invalid .emptyTarget) := rfl
  exact nomatch hrefused.symm.trans hok

end Store

end NetWatch
