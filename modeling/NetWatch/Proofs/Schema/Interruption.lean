/-
NetWatch.Proofs.Schema.Interruption — migrations that are interrupted (`run_migrations`).

Every statement of a migration is kept once it has run, so a migration can leave
off anywhere between two of them. Wherever it is cut, and however often it is
taken up and cut again, the database stays on its way to the newest schema
(`OnItsWay.interrupted`): what is left to do leads there, and no row is lost.

Tables and indexes are made again without effect. A column is not: a migration
that was cut between the first column and the note of its version finds the
column there, and no later one gets any further (`migrate_of_left`).
-/
import NetWatch.Proofs.Schema.Resuming
import NetWatch.Proofs.Schema.Rows

namespace NetWatch.Schema

variable {d₀ d : Database} {final : Shape} {again rest : List Statement}

/-! ## On the way to the newest schema -/

/-- A database whose migration repeats what is there already, and then leads to a shape. -/
def OnItsWay (final : Shape) (d : Database) : Prop :=
  ∃ again rest, Resumes d again rest ∧ d.shape.executeAll rest = (final, .ok ())

/-- However much of the rest is done, the database is still on its way. -/
theorem Resumes.onItsWay_take (h : Resumes d again rest)
    (hrest : d.shape.executeAll rest = (final, .ok ())) (now : Timestamp) (count : Nat) :
    OnItsWay final (d.executeAll now (rest.take count)).1 := by
  induction count generalizing d again rest with
  | zero => exact ⟨again, rest, h, hrest⟩
  | succ count ih =>
    cases rest with
    | nil => exact ⟨again, [], h, hrest⟩
    | cons x rest =>
      have hx : x.sparesJournal = true :=
        sparesJournal_of_mem_script x (migration_subset d (by rw [h.splits]; simp))
      have hshape := Database.shape_execute d now hx
      rw [Shape.executeAll, ← hshape] at hrest
      rw [List.take_succ_cons, Database.executeAll]
      cases hd' : d.execute now x with
      | error e =>
        rw [hd'] at hrest
        cases hrest
      | ok d' =>
        rw [hd'] at hrest hshape
        obtain ⟨again', h'⟩ := h.next hshape.symm
        exact ih h' hrest

/-- **An interrupted migration leaves the database on its way**, wherever it was cut. -/
theorem OnItsWay.interrupted (h : OnItsWay final d) (now : Timestamp) (count : Nat) :
    OnItsWay final (interrupted d now count) := by
  obtain ⟨again, rest, h, hrest⟩ := h
  unfold Schema.interrupted
  rw [h.splits, List.take_append]
  have hthere : ∀ x ∈ again.take count, d.shape.IsThere x := fun x hx =>
    h.isThere x (List.mem_of_mem_take hx)
  have hplain : ∀ x ∈ again.take count, x.noted? = none := fun x hx =>
    h.plain x (List.mem_of_mem_take hx)
  obtain hagain | ⟨_, column, _, -, hagain⟩ := Database.executeAll_of_isThere hthere hplain now
  · rw [Database.executeAll_append_of_ok hagain]
    exact h.onItsWay_take hrest now _
  · rw [Database.executeAll_append_of_error hagain]
    exact ⟨again, rest, h, hrest⟩

/-- A database in which a column is there that a migration adds. -/
def Database.RepeatsColumn (d : Database) : Prop :=
  ∃ table column filling, .addColumn table column filling ∈ migration d ∧
    d.shape.IsThere (.addColumn table column filling)

instance (d : Database) : Decidable d.RepeatsColumn :=
  let adds : Statement → Bool
    | .addColumn .. => true
    | _ => false
  decidable_of_iff (∃ x ∈ migration d, adds x = true ∧ d.shape.IsThere x) <| by
    constructor
    · rintro ⟨x, hmem, hadds, hthere⟩
      cases x with
      | addColumn table column filling => exact ⟨table, column, filling, hmem, hthere⟩
      | _ => cases hadds
    · rintro ⟨table, column, filling, hmem, hthere⟩
      exact ⟨_, hmem, rfl, hthere⟩

/-- Nothing that has been added without failing was there before. -/
theorem not_isThere_of_executeAll {s s' : Shape} {xs : List Statement}
    {table column : String} {filling : Cell} (h : s.executeAll xs = (s', .ok ()))
    (hmem : .addColumn table column filling ∈ xs) :
    ¬ s.IsThere (.addColumn table column filling) := by
  intro hthere
  induction xs generalizing s with
  | nil => cases hmem
  | cons x xs ih =>
    rw [Shape.executeAll] at h
    cases hx : s.execute x with
    | error e =>
      rw [hx] at h
      cases h
    | ok s₁ =>
      rw [hx] at h
      cases hmem with
      | head =>
        rw [Shape.execute_addColumn_of_isThere hthere] at hx
        cases hx
      | tail _ hmem => exact ih h hmem ((Shape.execute_eq_ok hx).1.isThere hthere)

/-- A migration of a database that is on its way: it gets there, unless a column is there
that it adds. -/
theorem OnItsWay.migrate (h : OnItsWay final d) (now : Timestamp) :
    (¬ d.RepeatsColumn ∧ (migrate d now).2 = .ok () ∧ (migrate d now).1.shape = final) ∨
      (d.RepeatsColumn ∧ ∃ column, migrate d now = (d, .error (.duplicateColumn column))) := by
  obtain ⟨again, rest, h, hrest⟩ := h
  unfold Schema.migrate
  obtain hagain | ⟨table, column, filling, hmem, hagain⟩ :=
    Database.executeAll_of_isThere h.isThere h.plain now
  · have hdone : d.executeAll now (migration d) = d.executeAll now rest := by
      rw [h.splits, Database.executeAll_append_of_ok hagain]
    have hspares : ∀ x ∈ migration d, x.sparesJournal = true := fun x hx =>
      sparesJournal_of_mem_script x (migration_subset d hx)
    have hspares' : ∀ x ∈ rest, x.sparesJournal = true := fun x hx =>
      hspares x (by simp [h.splits, hx])
    have hshape := Database.shape_executeAll now hspares d
    have hshape' := Database.shape_executeAll now hspares' d
    rw [hdone, hshape', hrest] at hshape
    rw [hrest] at hshape'
    obtain ⟨hfinal, hok⟩ := Prod.mk.inj hshape'
    rw [hdone]
    refine .inl ⟨?_, hok, hfinal⟩
    rintro ⟨table, column, filling, hmem, hthere⟩
    exact not_isThere_of_executeAll hshape.symm hmem hthere
  · refine .inr ⟨⟨table, column, filling, ?_, h.isThere _ hmem⟩, column, ?_⟩
    · rw [h.splits]
      exact List.mem_append_left _ hmem
    · rw [h.splits, Database.executeAll_append_of_error hagain]

/-! ## Where a migration starts -/

/-- A database of the first version: made by its statements, with whatever rows. -/
def Database.HasVersion1 (d : Database) : Prop :=
  d.shape = (Database.empty.executeAll .epoch (createJournal :: version1.steps)).1.shape

/-- What is there before the first migration that is interrupted. -/
def Database.IsStart (d : Database) : Prop :=
  d = .empty ∨ d.HasVersion1

/-- What interrupted migrations leave of a database. -/
inductive Left (d₀ : Database) : Database → Prop
  | start : Left d₀ d₀
  | interrupted {d : Database} (h : Left d₀ d) (now : Timestamp) (count : Nat) :
    Left d₀ (interrupted d now count)

/-- The newest schema. -/
def newestShape : Shape :=
  (Database.empty.executeAll .epoch script).1.shape

theorem migration_of_shape {s : Shape} (h : d.shape = s) :
    migration d = createJournal :: remaining s.version := by
  rw [migration_eq, ← h]
  rfl

theorem Database.IsStart.shape_migration (h : d.IsStart) :
    d.shape.executeAll (migration d) = (newestShape, .ok ()) := by
  obtain rfl | h := h
  · rfl
  · rw [migration_of_shape h, h]
    rfl

theorem Database.IsStart.onItsWay (h : d.IsStart) : OnItsWay newestShape d :=
  ⟨[], migration d, .start d, h.shape_migration⟩

/-- A migration that starts there adds no column that is there. -/
theorem Database.IsStart.not_repeatsColumn (h : d.IsStart) : ¬ d.RepeatsColumn := by
  rintro ⟨table, column, filling, hmem, hthere⟩
  exact not_isThere_of_executeAll h.shape_migration hmem hthere

namespace Left

theorem onItsWay (h : Left d₀ d) (h₀ : d₀.IsStart) : OnItsWay newestShape d := by
  induction h with
  | start => exact h₀.onItsWay
  | interrupted _ now count ih => exact ih.interrupted now count

theorem keeps (h : Left d₀ d) : Database.Keeps script d₀ d := by
  induction h with
  | start => exact .refl script d₀
  | @interrupted d _ now count ih =>
    have hsubset : (migration d).take count ⊆ script := fun x hx =>
      migration_subset d (List.mem_of_mem_take hx)
    exact ih.trans (Database.keeps_executeAll hsubset d now)

end Left

/-! ### The alerts of the first version -/

/-- The columns of an alert that came with the second version. -/
def alertColumns : List (String × Cell) :=
  [("acknowledged_at", .null), ("suppressed", .integer 0), ("suppressed_by", .null)]

theorem mem_alertColumns {column : String} {filling : Cell}
    (h : .addColumn "alerts" column filling ∈ script) : (column, filling) ∈ alertColumns := by
  have hall : ∀ x ∈ script, ∀ column filling, x = .addColumn "alerts" column filling →
      (column, filling) ∈ alertColumns := by
    simp [script, createJournal, allVersions, version1, version2, version3, version4,
      Version.steps, alertColumns]
  exact hall _ h column filling rfl

theorem eq_alertColumns {added : List (String × Cell)}
    (hnames : added.map (·.1) = alertColumns.map (·.1)) (hadded : ∀ c ∈ added, c ∈ alertColumns) :
    added = alertColumns := by
  obtain ⟨⟨_, x⟩, added₂, rfl, rfl, hnames₂⟩ := List.map_eq_cons_iff.mp hnames
  obtain ⟨⟨_, y⟩, added₃, rfl, rfl, hnames₃⟩ := List.map_eq_cons_iff.mp hnames₂
  obtain ⟨⟨_, z⟩, added₄, rfl, rfl, hnames₄⟩ := List.map_eq_cons_iff.mp hnames₃
  obtain rfl := List.map_eq_nil_iff.mp hnames₄
  obtain ⟨rfl, rfl, rfl⟩ : x = .null ∧ y = .integer 0 ∧ z = .null := by
    simpa [alertColumns] using hadded
  rfl

/-- Every alert of a database of the first version is there in one of the newest schema that
keeps it, neither acknowledged nor suppressed. -/
theorem Database.HasVersion1.alerts {d' : Database} (h₀ : d₀.HasVersion1)
    (h : Keeps script d₀ d') (hshape : d'.shape = newestShape) :
    ∃ old new, d₀.relation? "alerts" = some old ∧ d'.relation? "alerts" = some new ∧
      old.Extends new alertColumns [] := by
  have hold : (d₀.relation? "alerts").map (·.columns) = some ["id", "check_id", "device_id",
      "severity", "message", "triggered_at", "resolved_at", "consecutive_failures"] := by
    rw [← columns?_shape, h₀]
    rfl
  have hnew : (d'.relation? "alerts").map (·.columns) = some ["id", "check_id", "device_id",
      "severity", "message", "triggered_at", "resolved_at", "consecutive_failures",
      "acknowledged_at", "suppressed", "suppressed_by"] := by
    rw [← columns?_shape, hshape]
    rfl
  obtain ⟨old, hr, hold⟩ := Option.map_eq_some_iff.mp hold
  obtain ⟨new, added, more, hr', hext, hadded, hmore⟩ := h "alerts" old hr
  rw [hr', Option.map_some, hext.columns, hold, Option.some_inj] at hnew
  obtain rfl := eq_alertColumns (List.append_cancel_left hnew) fun c hc =>
    mem_alertColumns (hadded c hc)
  exact ⟨old, new, hr, hr', hmore (by decide) ▸ hext⟩

/-! ## Where a cut is fatal -/

theorem shape_interrupted {d' : Database} (h : d.shape = d'.shape) (now now' : Timestamp)
    (count : Nat) : (interrupted d now count).shape = (interrupted d' now' count).shape := by
  have hcut (d : Database) (now : Timestamp) : (interrupted d now count).shape =
      (d.shape.executeAll ((migration d).take count)).1 :=
    congrArg Prod.fst (Database.shape_executeAll now (fun x hx =>
      sparesJournal_of_mem_script x (migration_subset d (List.mem_of_mem_take hx))) d)
  rw [hcut, hcut, migration_of_shape h, migration_of_shape rfl, h]

theorem Database.RepeatsColumn.of_shape {d' : Database} (h : d.RepeatsColumn)
    (hshape : d.shape = d'.shape) : d'.RepeatsColumn := by
  obtain ⟨table, column, filling, hmem, hthere⟩ := h
  rw [migration_of_shape hshape, ← migration_of_shape rfl] at hmem
  exact ⟨table, column, filling, hmem, hshape ▸ hthere⟩

/-- The columns of the second version are being added: the first is there, and the version has
not been noted down. -/
def AddsColumns (done : List Statement) : Prop :=
  .addColumn "alerts" "acknowledged_at" .null ∈ done ∧
    .note version2.number version2.description ∉ done

instance (done : List Statement) : Decidable (AddsColumns done) :=
  inferInstanceAs (Decidable (_ ∧ _))

/-- An interrupted migration leaves a column behind that the next one adds if it was cut while
the columns were being added, and only then. -/
theorem repeatsColumn_interrupted_iff (h₀ : d₀.IsStart) (now : Timestamp) (count : Nat) :
    (interrupted d₀ now count).RepeatsColumn ↔ AddsColumns ((migration d₀).take count) := by
  have hbare : ∃ d : Database, d₀.shape = d.shape ∧ (migration d).length ≤ 21 ∧
      ∀ count < 22, (interrupted d .epoch count).RepeatsColumn ↔
        AddsColumns ((migration d).take count) := by
    obtain rfl | h₀ := h₀
    · exact ⟨.empty, rfl, by decide, by decide⟩
    · exact ⟨_, h₀, by decide, by decide⟩
  obtain ⟨d, hshape, hlength, hcuts⟩ := hbare
  have hmigration : migration d₀ = migration d := by
    rw [migration_of_shape hshape, ← migration_of_shape rfl]
  have htake : (migration d).take count = (migration d).take (min count 21) :=
    List.take_eq_take_iff.mpr (by omega)
  have hcut : (interrupted d₀ now count).shape = (interrupted d .epoch (min count 21)).shape := by
    rw [shape_interrupted hshape now .epoch, interrupted, htake]
    rfl
  rw [hmigration, htake, ← hcuts _ (by omega)]
  exact ⟨fun h => h.of_shape hcut, fun h => h.of_shape hcut.symm⟩

/-! ## Taking up what was interrupted -/

/-- **Migrations that are interrupted** any number of times, each time after any number of their
statements, lose no row. The next one brings the database to the schema that a migration without
interruption reaches, with every row still there and the old alerts neither acknowledged nor
suppressed, unless a column is there that it adds: then it fails at that column and leaves the
database as it is. -/
theorem migrate_of_left (h₀ : d₀.IsStart) (h : Left d₀ d) (now now₀ : Timestamp) :
    (migrate d₀ now₀).2 = .ok () ∧ d₀.Keeps script d ∧
      (¬ d.RepeatsColumn →
        (migrate d now).2 = .ok () ∧
        (migrate d now).1.shape = (migrate d₀ now₀).1.shape ∧
        d.Keeps script (migrate d now).1 ∧
        d₀.Keeps script (migrate d now).1 ∧
        (d₀.HasVersion1 → ∃ old new, d₀.relation? "alerts" = some old ∧
          (migrate d now).1.relation? "alerts" = some new ∧ old.Extends new alertColumns [])) ∧
      (d.RepeatsColumn → ∃ column, migrate d now = (d, .error (.duplicateColumn column))) := by
  have hfirst : (migrate d₀ now₀).2 = .ok () ∧ (migrate d₀ now₀).1.shape = newestShape := by
    obtain ⟨-, h⟩ | ⟨hrepeats, -⟩ := h₀.onItsWay.migrate now₀
    · exact h
    · exact absurd hrepeats h₀.not_repeatsColumn
  have hkeeps : d.Keeps script (migrate d now).1 :=
    Database.keeps_executeAll (migration_subset d) d now
  refine ⟨hfirst.1, h.keeps, fun hnot => ?_, fun hrepeats => ?_⟩
  · obtain ⟨-, hok, hshape⟩ | ⟨hrepeats, -⟩ := (h.onItsWay h₀).migrate now
    · have hkeeps₀ := h.keeps.trans hkeeps
      exact ⟨hok, hshape.trans hfirst.2.symm, hkeeps, hkeeps₀,
        fun h₁ => h₁.alerts hkeeps₀ hshape⟩
    · exact absurd hrepeats hnot
  · obtain ⟨hnot, -⟩ | ⟨-, h⟩ := (h.onItsWay h₀).migrate now
    · exact absurd hrepeats hnot
    · exact h

/-- A database of the first version with an alert. -/
def oneAlert : Database :=
  (Database.empty.executeAll .epoch (createJournal :: version1.steps)).1.alter "alerts" fun r =>
    { r with rows := [[.text "a1", .text "c1", .text "d1", .text "warning", .text "timeout",
      .integer 0, .null, .integer 3]] }

theorem migrate_of_left_of_oneAlert :
    oneAlert.IsStart ∧ Left oneAlert (interrupted oneAlert .epoch 4) ∧
      ¬ (interrupted oneAlert .epoch 4).RepeatsColumn ∧
      (migrate (interrupted oneAlert .epoch 4) .epoch).2 = .ok () := by
  have h₀ : oneAlert.IsStart := .inr rfl
  have h : Left oneAlert (interrupted oneAlert .epoch 4) := .interrupted .start .epoch 4
  have hnot : ¬ (interrupted oneAlert .epoch 4).RepeatsColumn := by decide
  exact ⟨h₀, h, hnot, ((migrate_of_left h₀ h .epoch .epoch).2.2.1 hnot).1⟩

/-- A migration that was cut behind the first column is not taken up again. -/
theorem not_migrate_of_left : ¬ ∀ d₀ d : Database, ∀ now : Timestamp, d₀.IsStart → Left d₀ d →
    (migrate d now).2 = .ok () := by
  intro h
  have hok := h oneAlert (interrupted oneAlert .epoch 5) .epoch (.inr rfl)
    (.interrupted .start .epoch 5)
  have hfails : (migrate (interrupted oneAlert .epoch 5) .epoch).2 =
      .error (.duplicateColumn "acknowledged_at") := by decide
  exact nomatch hfails.symm.trans hok

end NetWatch.Schema
