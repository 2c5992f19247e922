/-
NetWatch.Proofs.Store.Tables — what queries do to the tables that have names for keys.

What a query makes of the checks, the windows and the channels is an edit of
their rows (`Query.checkRowEdit?` and its siblings): a row is entered if its name is
free, the row of a name is written over, or it is taken out. `Store.checks_execute`
and its siblings say that this is all; whatever is to be known of a table after
a query is read off its rows from there on. So are whether a statement succeeds
(`Store.execute_checks_iff`) and that one about an unknown name does nothing
(`Store.execute_of_misses_checks`).
-/
import NetWatch.Proofs.Store.Register

namespace NetWatch

/-! ## Edits of rows -/

namespace Query

/-- What a query does to the rows of checks. -/
def checkRowEdit? : Query → Option (Edit CheckRow)
  | .insertCheck c => some (.enter c.toRow)
  | .updateCheck c => some (.amend c.id fun r => { c.toRow with createdAt := r.createdAt })
  | .enableCheck id enabled time =>
    some (.amend id fun r => { r with enabled := enabled, updatedAt := time.toMillis })
  | .deleteCheck id => some (.remove id)
  | _ => none

/-- What a query does to the rows of windows. -/
def windowRowEdit? : Query → Option (Edit WindowRow)
  | .insertWindow w => some (.enter w.toRow)
  | .updateWindow w => some (.amend w.id fun r => { w.toRow with createdAt := r.createdAt })
  | .deleteWindow id => some (.remove id)
  | _ => none

/-- What a query does to the rows of channels. -/
def channelRowEdit? : Query → Option (Edit ChannelRow)
  | .insertChannel c => some (.enter c.toRow)
  | .updateChannel c => some (.amend c.id fun r => { c.toRow with createdAt := r.createdAt })
  | .deleteChannel id => some (.remove id)
  | _ => none

variable {q : Query}

theorem keepsNames_of_checkRowEdit? {d : Edit CheckRow} (h : q.checkRowEdit? = some d) :
    d.KeepsNames CheckRow.id := by
  cases q <;> cases h <;> first | exact trivial | exact fun _ _ => rfl | exact fun _ hr => hr

theorem keepsNames_of_windowRowEdit? {d : Edit WindowRow} (h : q.windowRowEdit? = some d) :
    d.KeepsNames WindowRow.id := by
  cases q <;> cases h <;> first | exact trivial | exact fun _ _ => rfl

theorem keepsNames_of_channelRowEdit? {d : Edit ChannelRow} (h : q.channelRowEdit? = some d) :
    d.KeepsNames ChannelRow.id := by
  cases q <;> cases h <;> first | exact trivial | exact fun _ _ => rfl

end Query

/-- The rows after what a query does to them, if it does anything. -/
def Store.edited {ρ : Type} (key : ρ → String) (d? : Option (Edit ρ)) (rows : List ρ) : List ρ :=
  match d? with
  | some d => d.onList key rows
  | none => rows

namespace Store

/-- Names stay distinct if none is changed. -/
theorem nodup_edited {ρ : Type} {key : ρ → String} {d? : Option (Edit ρ)} {rows : List ρ}
    (hd : ∀ d, d? = some d → d.KeepsNames key) (h : (rows.map key).Nodup) :
    ((edited key d? rows).map key).Nodup := by
  cases d? with
  | none => exact h
  | some d => exact Edit.nodup_onList (hd d rfl) h

theorem of_mem_edited {ρ : Type} {key : ρ → String} {d? : Option (Edit ρ)} {rows : List ρ}
    {p : ρ → Prop} (hd : ∀ d, d? = some d → d.Keeps p) (h : ∀ r ∈ rows, p r) :
    ∀ r ∈ edited key d? rows, p r := by
  cases d? with
  | none => exact h
  | some d => exact Edit.of_mem_onList (hd d rfl) h

/-- A name stays unless its row is taken out. -/
theorem mem_map_edited {ρ : Type} {key : ρ → String} {d? : Option (Edit ρ)} {rows : List ρ}
    {k : String} (hd : ∀ d, d? = some d → d.KeepsNames key) (hk : k ∈ rows.map key)
    (hstays : ∀ k', d? = some (.remove k') → k' ≠ k) : k ∈ (edited key d? rows).map key := by
  cases d? with
  | none => exact hk
  | some d =>
    exact Edit.mem_map_onList (hd d rfl) hk fun k' hremove => hstays k' (congrArg some hremove)

/-! ## Rows after a query -/

/-- **What a statement makes of the table of checks** is an edit of its rows. -/
theorem checks_execute (s : Store) (q : Query) :
    (s.execute q).2.checks = edited CheckRow.id q.checkRowEdit? s.checks := by
  cases q with
  | insertCheck c =>
    show (written (.insertCheck c) s () (s.insertCheck c)).2.checks =
      entered CheckRow.id c.toRow s.checks
    unfold insertCheck entered
    by_cases h : s.checks.any (·.id == c.id) <;> simp [h, written, Check.toRow]
  | deleteCheck id =>
    show (s.deleteCheck id).checks = s.checks.filter (·.id != id)
    unfold deleteCheck
    split
    · rfl
    · rename_i hnone
      exact (List.filter_eq_self.mpr (by simpa using hnone)).symm
  | updateCheck _ | enableCheck _ _ _ => rfl
  | _ => exact (execute_agrees s _).checks (by simp [Query.writes])

theorem windows_execute (s : Store) (q : Query) :
    (s.execute q).2.windows = edited WindowRow.id q.windowRowEdit? s.windows := by
  cases q with
  | insertWindow w =>
    show (written (.insertWindow w) s () (s.insertWindow w)).2.windows =
      entered WindowRow.id w.toRow s.windows
    unfold insertWindow entered
    by_cases h : s.windows.any (·.id == w.id) <;> simp [h, written, Window.toRow]
  | updateWindow _ | deleteWindow _ => rfl
  | _ => exact (execute_agrees s _).windows (by simp [Query.writes])

theorem channels_execute (s : Store) (q : Query) :
    (s.execute q).2.channels = edited ChannelRow.id q.channelRowEdit? s.channels := by
  cases q with
  | insertChannel c =>
    show (written (.insertChannel c) s () (s.insertChannel c)).2.channels =
      entered ChannelRow.id c.toRow s.channels
    unfold insertChannel entered
    by_cases h : s.channels.any (·.id == c.id) <;> simp [h, written, Channel.toRow]
  | updateChannel _ | deleteChannel _ => rfl
  | _ => exact (execute_agrees s _).channels (by simp [Query.writes])

/-! ## Statements that succeed and statements that do nothing -/

variable {s : Store} {q : Query}

/-- A row is entered exactly if its name is free. -/
theorem written_eq_ok_iff {ρ : Type} {s' : Store} {answer : q.Answer} {fault : StoreFault}
    {rows : List ρ} {key : ρ → String} {k : String} :
    (∃ answer', (written q s answer (if rows.any (key · == k) then .error fault else .ok s')).1 =
      .ok answer') ↔ Register.ofList key rows k = none := by
  rw [Register.ofList_eq_none_iff]
  split
  · rename_i htaken
    refine iff_of_false ?_ fun hfree => absurd htaken (by simpa using hfree)
    rintro ⟨_, hok⟩
    cases hok
  · rename_i hfree
    exact ⟨fun _ => by simpa using hfree, fun _ => ⟨answer, rfl⟩⟩

/-- A statement about a check succeeds unless it enters a name that is taken. -/
theorem execute_checks_iff {d : Edit CheckRow} (h : q.checkRowEdit? = some d) :
    (∃ answer, (s.execute q).1 = .ok answer) ↔
      d.Possible CheckRow.id (.ofList CheckRow.id s.checks) := by
  cases q with
  | insertCheck c =>
    cases h
    exact written_eq_ok_iff
  | updateCheck _ | enableCheck _ _ _ | deleteCheck _ =>
    cases h
    exact iff_of_true ⟨(), rfl⟩ trivial
  | _ => cases h

theorem execute_windows_iff {d : Edit WindowRow} (h : q.windowRowEdit? = some d) :
    (∃ answer, (s.execute q).1 = .ok answer) ↔
      d.Possible WindowRow.id (.ofList WindowRow.id s.windows) := by
  cases q with
  | insertWindow w =>
    cases h
    exact written_eq_ok_iff
  | updateWindow _ | deleteWindow _ =>
    cases h
    exact iff_of_true ⟨(), rfl⟩ trivial
  | _ => cases h

theorem execute_channels_iff {d : Edit ChannelRow} (h : q.channelRowEdit? = some d) :
    (∃ answer, (s.execute q).1 = .ok answer) ↔
      d.Possible ChannelRow.id (.ofList ChannelRow.id s.channels) := by
  cases q with
  | insertChannel c =>
    cases h
    exact written_eq_ok_iff
  | updateChannel _ | deleteChannel _ =>
    cases h
    exact iff_of_true ⟨(), rfl⟩ trivial
  | _ => cases h

/-- A statement about a name that no check has does nothing. -/
theorem execute_of_misses_checks {d : Edit CheckRow} (h : q.checkRowEdit? = some d)
    (hmisses : d.Misses (.ofList CheckRow.id s.checks)) : (s.execute q).2 = s := by
  have hrows := Edit.onList_of_misses hmisses
  cases q with
  | insertCheck c =>
    cases h
    exact hmisses.elim
  | updateCheck _ | enableCheck _ _ _ =>
    cases h
    exact congrArg (fun rows => { s with checks := rows }) hrows
  | deleteCheck id =>
    cases h
    -- without the check, its dependencies are not looked for
    show s.deleteCheck id = s
    unfold deleteCheck
    exact if_neg (by simpa using Register.ofList_eq_none_iff.mp hmisses)
  | _ => cases h

theorem execute_of_misses_windows {d : Edit WindowRow} (h : q.windowRowEdit? = some d)
    (hmisses : d.Misses (.ofList WindowRow.id s.windows)) : (s.execute q).2 = s := by
  have hrows := Edit.onList_of_misses hmisses
  cases q with
  | insertWindow w =>
    cases h
    exact hmisses.elim
  | updateWindow _ | deleteWindow _ =>
    cases h
    exact congrArg (fun rows => { s with windows := rows }) hrows
  | _ => cases h

theorem execute_of_misses_channels {d : Edit ChannelRow} (h : q.channelRowEdit? = some d)
    (hmisses : d.Misses (.ofList ChannelRow.id s.channels)) : (s.execute q).2 = s := by
  have hrows := Edit.onList_of_misses hmisses
  cases q with
  | insertChannel c =>
    cases h
    exact hmisses.elim
  | updateChannel _ | deleteChannel _ =>
    cases h
    exact congrArg (fun rows => { s with channels := rows }) hrows
  | _ => cases h

/-! ## Names that stay distinct -/

/-- A statement leaves the names of devices distinct. -/
theorem nodup_devices_execute {s : Store} (h : (s.devices.map (·.id)).Nodup) (q : Query) :
    ((s.execute q).2.devices.map (·.id)).Nodup := by
  cases q with
  | upsertDevice d =>
    show ((s.upsertDevice d).devices.map _).Nodup
    unfold upsertDevice
    dsimp only
    split
    · exact nodup_map_change (fun r hr => (beq_iff_eq.mp hr).symm) h
    · rename_i hfree
      exact nodup_map_concat h (by simpa [Device.toRow] using hfree)
  | touchDevice id t =>
    show ((s.touchDevice id t).devices.map _).Nodup
    unfold touchDevice
    split
    · exact nodup_map_change (fun _ _ => rfl) h
    · rename_i hfree
      exact nodup_map_concat h (by simpa using hfree)
  | _ =>
    rw [(execute_agrees s _).devices (by simp [Query.writes])]
    exact h

end Store

/-- A query leaves the names of alerts distinct. -/
theorem Query.nodup_alertsAfter {rows : List AlertRow} (h : (rows.map (·.id)).Nodup) (q : Query) :
    ((q.alertsAfter rows).map (·.id)).Nodup := by
  cases q with
  | insertAlert a =>
    show ((Store.entered AlertRow.id a.toRow rows).map _).Nodup
    exact Store.nodup_map_entered h
  | resolveAlert id time => exact Store.nodup_map_change (fun _ _ => rfl) h
  | acknowledgeAlert id time => exact Store.nodup_map_change (fun _ _ => rfl) h
  | deleteAlertsBefore cutoff => exact nodup_map_filter h _
  | _ => exact h

/-- A query leaves the severities of alerts readable. -/
theorem Query.readable_alertsAfter {rows : List AlertRow} (h : ∀ r ∈ rows, r.Readable) (q : Query) :
    ∀ r ∈ q.alertsAfter rows, r.Readable := by
  cases q with
  | insertAlert a =>
    show ∀ r ∈ Store.entered AlertRow.id a.toRow rows, r.Readable
    exact Store.of_mem_entered h ⟨a.severity, rfl⟩
  | resolveAlert id time => exact Store.of_mem_change h fun _ hr => hr
  | acknowledgeAlert id time => exact Store.of_mem_change h fun _ hr => hr
  | deleteAlertsBefore cutoff => exact fun r hr => h r (List.mem_filter.mp hr).1
  | _ => exact h

end NetWatch
