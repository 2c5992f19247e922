/-
NetWatch.Proofs.Store.WindowValidity — whether the windows in the store would be accepted again
(`validate_window`).

A window is validated as it is given, to the nanosecond, and kept to the
millisecond. Every row of a window is what was kept of one that was accepted
(`Store.comeFrom_after`); its recurrence and its devices survive, but its times may
have moved together and its name may have been cut short.

`Store.validity_of_windows` says what is left: the verdict on a window that is
shown, and with it what comes of writing it back. Two moments of one
millisecond are enough for a window that is accepted once and never again
(`Store.not_validity_of_one_millisecond`).
-/
import NetWatch.Proofs.Store.Refinement

namespace NetWatch

/-! ## What a window is read as -/

/-- The text of a recurrence that is known is plain. -/
theorem Recurrence.plainText_of_named? {tag : String} {r : Recurrence} (h : named? tag = some r) :
    PlainText tag := by
  unfold named? at h
  obtain ⟨entry, hentry, -⟩ := Option.map_eq_some_iff.mp h
  have htag : entry.1 = tag := by simpa using List.find?_some hentry
  have hall : ∀ entry ∈ tags, PlainText entry.1 := by decide
  exact htag ▸ hall entry (List.mem_of_find?_eq_some hentry)

namespace Window

variable {v w : Window}

/-- The window as it is shown once it is kept. -/
def readBack (v : Window) : Window :=
  v.toRow.shown v.deviceIds

theorem validate_eq_ok_iff : v.validate = .ok () ↔
    Text.isBlankText v.name = false ∧ (∃ r, Recurrence.named? v.recurrence = some r) ∧
      ¬ v.endTime ≤ v.startTime ∧ v.deviceIds ≠ [] := by
  unfold validate
  cases Recurrence.named? v.recurrence with
  | none => split_ifs <;> simp_all
  | some r => split_ifs <;> simp_all

/-- **The verdict on a window that was accepted, once it is read back**: only its name and its times
can be found fault with. -/
theorem validate_readBack (h : v.validate = .ok ()) :
    v.readBack.validate =
      if Text.isBlankText (shownText v.name) then .error (.invalidWindow .unnamed)
      else if Timestamp.ofMillis v.endTime.toMillis ≤ .ofMillis v.startTime.toMillis then
        .error (.invalidWindow .endsBeforeStart)
      else .ok () := by
  obtain ⟨-, ⟨r, hr⟩, -, hdevices⟩ := validate_eq_ok_iff.mp h
  have hrecurrence : (Recurrence.named? v.readBack.recurrence).isNone = false := by
    show (Recurrence.named? (shownText v.recurrence)).isNone = false
    rw [shownText_eq_self (Recurrence.plainText_of_named? hr), hr]
    rfl
  unfold validate
  rw [hrecurrence]
  simp only [readBack, WindowRow.shown, toRow, hdevices, Bool.false_eq_true, if_false]

/-- A window with a plain name and without leap seconds is found fault with only for starting and
ending in one millisecond. -/
theorem validate_readBack_of_plain (h : v.validate = .ok ()) (hname : PlainText v.name)
    (hstart : v.startTime.isLeap = false) (hend : v.endTime.isLeap = false) :
    v.readBack.validate =
      if v.startTime.toMillis < v.endTime.toMillis then .ok ()
      else .error (.invalidWindow .endsBeforeStart) := by
  have hnamed : Text.isBlankText v.name = false := (validate_eq_ok_iff.mp h).1
  rw [validate_readBack h, shownText_eq_self hname, hnamed]
  simp only [Timestamp.ofMillis_le_iff hend hstart, Bool.false_eq_true, if_false]
  by_cases hlt : v.startTime.toMillis < v.endTime.toMillis
  · rw [if_neg (by omega), if_pos hlt]
  · rw [if_pos (by omega), if_neg hlt]

/-- The time of creation has no part in the verdict. -/
theorem validate_createdAt (t : Timestamp) : validate { w with createdAt := t } = w.validate :=
  rfl

end Window

/-! ## Where the rows of windows come from -/

/-- The window that a query enters or lays over another. -/
def Query.window? : Query → Option Window
  | .insertWindow v | .updateWindow v => some v
  | _ => none

/-- Whether a window was written by one of some queries, and accepted. -/
def Window.AcceptedIn (qs : List Query) (v : Window) : Prop :=
  (∃ q ∈ qs, q.window? = some v) ∧ v.validate = .ok ()

/-- Whether a row is what was kept of such a window, but for the time of creation. -/
def WindowRow.ComesFrom (qs : List Query) (r : WindowRow) : Prop :=
  ∃ v : Window, v.AcceptedIn qs ∧ r = { v.toRow with createdAt := r.createdAt }

/-- What is not refused was accepted by validation. -/
theorem Query.validate_of_window? {q : Query} {v : Window} (hv : q.window? = some v)
    (hq : q.refusal? = none) : v.validate = .ok () := by
  have hrefusal : refusal?.refusalOf v.validate = none := by
    cases q <;> cases hv <;> exact hq
  cases hverdict : v.validate with
  | ok _ => rfl
  | error e => rw [hverdict] at hrefusal; cases hrefusal

/-- A query leaves only rows of windows that were accepted. -/
theorem Query.comesFrom_of_windowRowEdit? {qs : List Query} {q : Query} {d : Edit WindowRow}
    (hmem : q ∈ qs) (hq : q.refusal? = none) (hd : q.windowRowEdit? = some d) :
    d.Keeps (WindowRow.ComesFrom qs) := by
  cases q with
  | insertWindow v =>
    cases hd
    exact ⟨v, ⟨⟨_, hmem, rfl⟩, validate_of_window? rfl hq⟩, rfl⟩
  | updateWindow v =>
    cases hd
    exact fun _ _ => ⟨v, ⟨⟨_, hmem, rfl⟩, validate_of_window? rfl hq⟩, rfl⟩
  | deleteWindow id =>
    cases hd
    exact trivial
  | _ => cases hd

namespace Store

variable {s : Store} {qs : List Query} {w : Window}

theorem comeFrom_answer {q : Query} (h : ∀ r ∈ s.windows, r.ComesFrom qs) (hmem : q ∈ qs) :
    ∀ r ∈ (s.answer q).2.windows, r.ComesFrom qs := by
  cases hq : q.refusal? with
  | some e =>
    rw [answer_of_refused s hq]
    exact h
  | none =>
    rw [answer_eq_execute s hq, windows_execute]
    exact of_mem_edited (fun _ => Query.comesFrom_of_windowRowEdit? hmem hq) h

/-- **Every row comes from a window that was accepted**, after any queries. -/
theorem comeFrom_after {qs' : List Query} (h : ∀ r ∈ s.windows, r.ComesFrom qs)
    (hmem : ∀ q ∈ qs', q ∈ qs) : ∀ r ∈ (s.after qs').windows, r.ComesFrom qs := by
  induction qs' generalizing s with
  | nil => exact h
  | cons q rest ih =>
    exact ih (comeFrom_answer h (hmem q List.mem_cons_self)) fun q' hq' =>
      hmem q' (List.mem_cons_of_mem q hq')

/-! ## Windows that are shown -/

/-- Whether a window is found or listed in the store. -/
def ShowsWindow (s : Store) (w : Window) : Prop :=
  (∃ id, (s.answer (.window id)).1 = .ok (some w)) ∨
    (∃ ws : List Window, (s.answer .windows).1 = .ok ws ∧ w ∈ ws) ∨
      ∃ ws : List Window, (s.answer .enabledWindows).1 = .ok ws ∧ w ∈ ws

theorem exists_of_mem_readWindows {rows : List WindowRow} {ws : List Window}
    (h : readWindows rows = .ok ws) (hw : w ∈ ws) : ∃ r ∈ rows, r.toWindow = .ok w := by
  induction rows generalizing ws with
  | nil =>
    cases h
    cases hw
  | cons r rest ih =>
    unfold readWindows at h
    cases hr : r.toWindow with
    | error e => simp [hr] at h
    | ok v =>
      cases hrest : readWindows rest with
      | error e => simp [hr, hrest, Except.map] at h
      | ok vs =>
        obtain rfl : v :: vs = ws := by simpa [hr, hrest, Except.map] using h
        obtain rfl | hw := List.mem_cons.mp hw
        · exact ⟨r, List.mem_cons_self, hr⟩
        · obtain ⟨r', hr', hread⟩ := ih hrest hw
          exact ⟨r', List.mem_cons_of_mem r hr', hread⟩

/-- A window that is shown is that of a row. -/
theorem ShowsWindow.exists_row (h : s.ShowsWindow w) : ∃ r ∈ s.windows, r.toWindow = .ok w := by
  rcases h with ⟨id, hfound⟩ | ⟨ws, hlisted, hw⟩ | ⟨ws, hlisted, hw⟩
  · rw [answer_eq_execute s rfl, execute] at hfound
    cases hrow : s.windows.find? (·.id == id) with
    | none =>
      rw [hrow] at hfound
      cases hfound
    | some r =>
      refine ⟨r, List.mem_of_find?_eq_some hrow, ?_⟩
      rw [hrow] at hfound
      dsimp only at hfound
      cases hread : r.toWindow with
      | error e =>
        rw [hread] at hfound
        cases hfound
      | ok v =>
        rw [hread] at hfound
        cases hfound
        rfl
  · obtain ⟨r, hr, hread⟩ := exists_of_mem_readWindows (readReply_eq_ok hlisted) hw
    exact ⟨r, mem_oldestFirst.mp hr, hread⟩
  · obtain ⟨r, hr, hread⟩ := exists_of_mem_readWindows (readReply_eq_ok hlisted) hw
    exact ⟨r, (List.mem_filter.mp (mem_oldestFirst.mp hr)).1, hread⟩

/-- What is shown is a window that was accepted, read back. -/
theorem ShowsWindow.exists_readBack (hrows : ∀ r ∈ s.windows, r.ComesFrom qs)
    (h : s.ShowsWindow w) : ∃ v : Window, v.AcceptedIn qs ∧
      w = { v.readBack with createdAt := w.createdAt } := by
  obtain ⟨r, hr, hread⟩ := h.exists_row
  obtain ⟨v, haccepted, hrow⟩ := hrows r hr
  have hdevices : r.deviceIds = (Window.deviceIdsJson v.deviceIds).text := by rw [hrow]; rfl
  have hshown : r.shown v.deviceIds = w :=
    Except.ok.inj ((WindowRow.toWindow_eq_shown hdevices).symm.trans hread)
  refine ⟨v, haccepted, ?_⟩
  rw [← hshown, hrow]
  rfl

/-- **A window is written over exactly if it is valid**, and otherwise refused for its fault. -/
theorem answer_updateWindow (s : Store) (w : Window) :
    (s.answer (.updateWindow w)).1 = w.validate.mapError StoreError.invalid := by
  have hrefusal : (Query.updateWindow w).refusal? = Query.refusal?.refusalOf w.validate := rfl
  cases hverdict : w.validate with
  | ok _ =>
    rw [hverdict] at hrefusal
    rw [answer_eq_execute s hrefusal]
    rfl
  | error e =>
    rw [hverdict] at hrefusal
    rw [answer_of_refused s hrefusal]
    rfl

/-- **The verdict on windows from the store.** Whatever was asked of a new store, a window that is
found or listed is one that a query wrote and validation accepted, rounded and cut as it was kept.
It is valid unless nothing but blanks is left of its name or its end is no longer after its start;
a plain name and times outside of leap seconds leave only the second, for two moments of one
millisecond. Writing it back is answered with this verdict. -/
theorem validity_of_windows (h : (empty.after qs).ShowsWindow w) :
    (∃ v : Window, v.AcceptedIn qs ∧ w = { v.readBack with createdAt := w.createdAt } ∧
      w.validate =
        (if Text.isBlankText (shownText v.name) then .error (.invalidWindow .unnamed)
        else if Timestamp.ofMillis v.endTime.toMillis ≤ .ofMillis v.startTime.toMillis then
          .error (.invalidWindow .endsBeforeStart)
        else .ok ()) ∧
      (PlainText v.name → v.startTime.isLeap = false → v.endTime.isLeap = false →
        w.validate =
          if v.startTime.toMillis < v.endTime.toMillis then .ok ()
          else .error (.invalidWindow .endsBeforeStart))) ∧
      ∀ s : Store, (s.answer (.updateWindow w)).1 = w.validate.mapError StoreError.invalid := by
  have hrows : ∀ r ∈ (empty.after qs).windows, r.ComesFrom qs :=
    comeFrom_after nofun fun _ hq => hq
  obtain ⟨v, haccepted, hw⟩ := h.exists_readBack hrows
  have hverdict : w.validate = v.readBack.validate := by
    rw [hw, Window.validate_createdAt]
  refine ⟨⟨v, haccepted, hw, ?_, fun hname hstart hend => ?_⟩, fun s => answer_updateWindow s w⟩
  · rw [hverdict, Window.validate_readBack haccepted.2]
  · rw [hverdict, Window.validate_readBack_of_plain haccepted.2 hname hstart hend]

/-- A window that is accepted is found as it is read back. -/
theorem showsWindow_insert {v : Window} (h : v.validate = .ok ()) :
    (empty.after [.insertWindow v]).ShowsWindow v.readBack := by
  have hrefusal : (Query.insertWindow v).refusal? = none := by
    show Query.refusal?.refusalOf v.validate = none
    rw [h]
    rfl
  have hrows : (empty.after [.insertWindow v]).windows = [v.toRow] := by
    show (empty.answer (.insertWindow v)).2.windows = [v.toRow]
    rw [answer_eq_execute empty hrefusal]
    rfl
  have hfind : (empty.after [.insertWindow v]).windows.find? (·.id == v.id) = some v.toRow := by
    rw [hrows]
    exact List.find?_cons_of_pos (beq_self_eq_true v.id)
  refine .inl ⟨v.id, ?_⟩
  rw [answer_eq_execute _ rfl, execute, hfind]
  dsimp only
  rw [WindowRow.toWindow_eq_shown (r := v.toRow) rfl]
  rfl

/-- A window from a tenth to two tenths of a millisecond after noon. -/
def briefWindow : Window :=
  ⟨"w1", "night", "", ⟨1740916800, 100000, by omega, by omega, by omega⟩,
    ⟨1740916800, 200000, by omega, by omega, by omega⟩, "once", ["d1"], true, .epoch,
    .epoch⟩

theorem validity_of_windows_of_brief :
    let kept : Window := ⟨"w1", "night", "", .ofMillis 1740916800000, .ofMillis 1740916800000,
      "once", ["d1"], true, .epoch, .epoch⟩
    (empty.after [.insertWindow briefWindow]).ShowsWindow kept ∧
      (∃ v : Window, v.AcceptedIn [.insertWindow briefWindow] ∧
        kept = { v.readBack with createdAt := kept.createdAt }) ∧
      ∀ s : Store, (s.answer (.updateWindow kept)).1 =
        .error (.invalid (.invalidWindow .endsBeforeStart)) := by
  intro kept
  have hkept : briefWindow.readBack = kept := by decide
  have hshown : (empty.after [.insertWindow briefWindow]).ShowsWindow kept :=
    hkept ▸ showsWindow_insert (by decide)
  obtain ⟨⟨v, haccepted, hv, -⟩, hupdate⟩ := validity_of_windows hshown
  have hverdict : kept.validate = .error (.invalidWindow .endsBeforeStart) := by decide
  refine ⟨hshown, ⟨v, haccepted, hv⟩, fun s => ?_⟩
  rw [hupdate s, hverdict]
  rfl

/-- A window of less than a millisecond is accepted, and not valid as it is found. -/
theorem not_validity_of_one_millisecond : ¬ ∀ (qs : List Query) (w : Window),
    (empty.after qs).ShowsWindow w → w.validate = .ok () := by
  intro h
  have hvalid := h _ _ (showsWindow_insert (v := briefWindow) (by decide))
  exact absurd hvalid (by decide)

end Store

end NetWatch
