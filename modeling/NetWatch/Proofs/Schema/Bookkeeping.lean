/-
NetWatch.Proofs.Schema.Bookkeeping — what migrations note down (`run_migrations`).

A migration goes through the versions that are ahead of the database, one after
the other (`Database.ahead`, `migrate_cases`). So the journal tells which
versions were made, whatever was in it before and however often the migration
ran (`migrate_bookkeeping`).

A database that has nothing but a journal comes to the newest version with the
first migration, unless the first version is the greatest in it: then every
migration fails, as the table of alerts that the second version changes is not
there (`migrate_migrated`). To see that, a migration is followed on the shape of
the database; whether it succeeds does not depend on the versions in the journal
but for the greatest (`migrate_of_shape`).
-/
import NetWatch.Proofs.Schema.Journal

namespace NetWatch.Schema

/-! ## Migrations -/

open Database

variable {d d₀ : Database} {now : Timestamp}

/-- The versions beyond the one that has been reached. -/
def Database.ahead (d : Database) : List Version :=
  allVersions.filter (d.version < ·.number)

theorem ahead_sorted (d : Database) : d.ahead.Pairwise (·.number < ·.number) := by
  have hall : allVersions.Pairwise (·.number < ·.number) := by decide
  exact hall.filter _

theorem isProper_of_mem_ahead {v : Version} (h : v ∈ d.ahead) : v.IsProper :=
  isProper_of_mem v (List.mem_of_mem_filter h)

theorem lt_of_mem_ahead {v : Version} (h : v ∈ d.ahead) : d.version < v.number := by
  simpa using (List.mem_filter.mp h).2

theorem numbers_ahead (d : Database) :
    d.ahead.map (·.number) = [1, 2, 3, 4].filter (d.version < ·) := by
  have hnumbers : [1, 2, 3, 4] = allVersions.map (·.number) := rfl
  rw [hnumbers, List.filter_map]
  rfl

theorem ahead_eq_nil (h : newest ≤ d.version) : d.ahead = [] := by
  have hle : ∀ v ∈ allVersions, v.number ≤ newest := by decide
  refine List.filter_eq_nil_iff.mpr fun v hv hlt => ?_
  have hnumber := hle v hv
  have hlt : d.version < v.number := by simpa using hlt
  omega

/-- A journal is made unless there is one, and nothing is noted down in it. -/
theorem execute_createJournal (d : Database) (now : Timestamp) :
    ∃ d', d.execute now createJournal = .ok d' ∧ (d'.relation? journal).isSome ∧
      d'.journalRows = d.journalRows ∧ ((d.relation? journal).isSome → d' = d) := by
  cases hrun : d.execute now createJournal with
  | error e =>
    rw [createJournal, execute] at hrun
    split at hrun <;> cases hrun
  | ok d' =>
    have hthere : d'.shape.IsThere createJournal :=
      (Shape.execute_eq_ok (by rw [← shape_execute d now rfl, hrun]; rfl)).2
    rw [createJournal, Shape.IsThere, columns?_shape, Option.isSome_map] at hthere
    refine ⟨d', rfl, hthere, journalRows_execute rfl rfl hrun, fun hjournal => ?_⟩
    rw [createJournal, execute, if_pos hjournal] at hrun
    exact (Except.ok.inj hrun).symm

/-- A migration makes the journal and goes through the versions that are ahead. -/
theorem migrate_eq (d : Database) (now : Timestamp) :
    ∃ d₁, d.executeAll now [createJournal] = (d₁, .ok ()) ∧
      (d₁.relation? journal).isSome ∧ d₁.journalRows = d.journalRows ∧
      ((d.relation? journal).isSome → d₁ = d) ∧
      migrate d now = d₁.executeAll now (d.ahead.flatMap Version.steps) := by
  obtain ⟨d₁, hrun, hjournal, hrows, hsame⟩ := execute_createJournal d now
  refine ⟨d₁, ?_, hjournal, hrows, hsame, ?_⟩
  · rw [executeAll, hrun]
    rfl
  · rw [migrate, migration_eq, executeAll, hrun]
    rfl

/-- **A migration** either makes up all the versions that are ahead, or some of them until a
statement of the next one fails. -/
theorem migrate_cases (d : Database) (now : Timestamp) :
    ∃ d₁, d.executeAll now [createJournal] = (d₁, .ok ()) ∧ d₁.journalRows = d.journalRows ∧
      ((∃ d', MadeUp now d₁ d.ahead d' ∧ migrate d now = (d', .ok ())) ∨
        ∃ done v rest d₂ d' e, d.ahead = done ++ v :: rest ∧ MadeUp now d₁ done d₂ ∧
          FailsIn now d₂ v d' e ∧ migrate d now = (d', .error e)) := by
  obtain ⟨d₁, hrun, hjournal, hrows, -, hmigrate⟩ := migrate_eq d now
  have hversion := version_eq_of_journalRows hrows
  refine ⟨d₁, hrun, hrows, ?_⟩
  obtain ⟨d', hmade⟩ | ⟨done, v, rest, d₂, d', e, hsplit, hdone, hfails, hall⟩ :=
    executeAll_steps (fun _ => isProper_of_mem_ahead) (ahead_sorted d) hjournal
      (fun _ hv => hversion ▸ lt_of_mem_ahead hv) now
  · exact .inl ⟨d', hmade, hmigrate.trans hmade.runs⟩
  · exact .inr ⟨done, v, rest, d₂, d', e, hsplit, hdone, hfails, hmigrate.trans hall⟩

/-- The newest version is reached with the versions that are ahead. -/
theorem newest_le_version {d' : Database} (h : d'.journalRows =
    d.journalRows ++ d.ahead.map (·.row now)) : newest ≤ d'.version := by
  have hversions : d'.versions = d.versions ++ d.ahead.map (·.number) := by
    rw [versions_eq_filterMap, h, List.filterMap_append, ← versions_eq_filterMap,
      List.filterMap_map, ← List.filterMap_eq_map]
    rfl
  have hle {version : Int} (hmem : version ∈ d'.versions) : version ≤ d'.version :=
    (version_of_ne_nil (List.ne_nil_of_mem hmem)).2 version hmem
  by_cases hnewest : newest ≤ d.version
  · refine Int.le_trans hnewest (hle ?_)
    have hne : d.versions ≠ [] := fun hnil => by
      rw [version_of_nil hnil] at hnewest
      exact absurd hnewest (by decide)
    rw [hversions]
    exact List.mem_append_left _ (version_of_ne_nil hne).1
  · have hmem : version4 ∈ d.ahead :=
      List.mem_filter.mpr ⟨by simp [allVersions], decide_eq_true (Int.not_le.mp hnewest)⟩
    refine hle (hversions ▸ List.mem_append_right _ ?_)
    exact List.mem_map_of_mem hmem

/-- With the newest version there is nothing left to do. -/
theorem migrate_of_newest (h : newest ≤ d.version) (now : Timestamp) :
    migrate d now = (d, .ok ()) := by
  obtain ⟨d₁, -, -, -, hsame, hmigrate⟩ := migrate_eq d now
  have hjournal : (d.relation? journal).isSome := by
    rw [Option.isSome_iff_ne_none]
    intro hnone
    have hnil : d.versions = [] := by rw [versions_eq, hnone]; rfl
    rw [version_of_nil hnil] at h
    exact absurd h (by decide)
  rw [hmigrate, ahead_eq_nil h, hsame hjournal]
  rfl

/-- After a migration that succeeded the versions that were ahead are noted down behind the rest. -/
theorem journalRows_migrate (h : (migrate d now).2 = .ok ()) :
    (migrate d now).1.journalRows = d.journalRows ++ d.ahead.map (·.row now) := by
  obtain ⟨d₁, -, hrows, ⟨d', hmade, hmigrate⟩ | ⟨-, -, -, -, d', e, -, -, -, hmigrate⟩⟩ :=
    migrate_cases d now
  · rw [hmigrate, hmade.rows, hrows]
  · rw [hmigrate] at h
    cases h

/-- After a migration that succeeded there is nothing left to do. -/
theorem migrate_migrate (h : (migrate d now).2 = .ok ()) (now' : Timestamp) :
    migrate (migrate d now).1 now' = ((migrate d now).1, .ok ()) :=
  migrate_of_newest (newest_le_version (journalRows_migrate h)) now'

/-! ## A database with nothing but a journal -/

/-- A database without tables, or with none but the journal. -/
inductive Database.IsBare : Database → Prop
  | empty : IsBare .empty
  | journal (rows : List Row) :
    IsBare ⟨[⟨Schema.journal, ["version", "applied_at", "description"], rows⟩], []⟩

/-- What migrations leave of a database, one after the other, each at its time. -/
def migrated (d : Database) (clocks : List Timestamp) : Database :=
  clocks.foldl (fun d now => (migrate d now).1) d

/-! ### Statements that need a table -/

/-- Whether a statement makes a table of a name. -/
def Statement.creates (name : String) : Statement → Bool
  | .createTable table _ => table == name
  | _ => false

section Missing

variable {d' : Database} {name column : String} {filling : Cell} {x : Statement}
  {xs : List Statement}

theorem relation?_execute_eq_none (hcreates : x.creates name = false)
    (h : d.relation? name = none) (hx : d.execute now x = .ok d') : d'.relation? name = none := by
  have haltered {table : String} {f : Relation → Relation} (hf : ∀ r, (f r).name = r.name) :
      (d.alter table f).relation? name = none := by
    rw [relation?_alter hf, h, Option.map_none, ite_self]
  cases x with
  | createTable table columns =>
    rw [execute] at hx
    split at hx <;> cases hx
    · exact h
    · rw [relation?_snoc, h, Option.none_or]
      exact if_neg (Bool.eq_false_iff.mp hcreates)
  | createIndex index table =>
    rw [execute] at hx
    repeat' split at hx
    all_goals cases hx
    all_goals exact h
  | addColumn table column filling =>
    rw [execute] at hx
    repeat' split at hx
    all_goals cases hx
    exact haltered fun _ => rfl
  | note version description =>
    rw [execute] at hx
    repeat' split at hx
    all_goals cases hx
    exact haltered fun _ => rfl

/-- A table that no statement makes is not there afterwards if it was not there before. -/
theorem relation?_executeAll_eq_none (hcreates : ∀ x ∈ xs, x.creates name = false)
    (h : d.relation? name = none) (now : Timestamp) :
    (d.executeAll now xs).1.relation? name = none :=
  (executeAll_keeps (I := fun d => d.relation? name = none) h
    fun x hx _ _ => relation?_execute_eq_none (hcreates x hx)).1

/-- No column is added to a table that was not there before and that no statement makes. -/
theorem executeAll_ne_ok (hcreates : ∀ x ∈ xs, x.creates name = false)
    (h : d.relation? name = none) (hadds : .addColumn name column filling ∈ xs)
    (now : Timestamp) : (d.executeAll now xs).2 ≠ .ok () := by
  intro hok
  obtain ⟨d₁, d₂, hnone, hrun⟩ := (executeAll_keeps (I := fun d => d.relation? name = none) h
    fun x hx _ _ => relation?_execute_eq_none (hcreates x hx)).2.2 hok _ hadds
  rw [execute, hnone] at hrun
  cases hrun

end Missing

/-- Without a table of alerts the second version is not made up. -/
theorem Database.MadeUp.not_mem_version2 {d' : Database} {vs : List Version}
    (h : MadeUp now d vs d') (hmissing : d.relation? "alerts" = none)
    (hcreates : ∀ x ∈ vs.flatMap Version.steps, x.creates "alerts" = false) : version2 ∉ vs := by
  intro hmem
  have hadds : .addColumn "alerts" "suppressed" (.integer 0) ∈ vs.flatMap Version.steps :=
    List.mem_flatMap.mpr ⟨version2, hmem, by decide⟩
  exact executeAll_ne_ok hcreates hmissing hadds now (congrArg Prod.snd h.runs)

/-- From the first version on, without a table of alerts, a migration fails and is where it was. -/
theorem migrate_of_missing_alerts (hversion : d.version = 1)
    (h : d.relation? "alerts" = none) (now : Timestamp) :
    (migrate d now).2 ≠ .ok () ∧ (migrate d now).1.version = 1 ∧
      (migrate d now).1.relation? "alerts" = none := by
  have hahead : d.ahead = [version2, version3, version4] := by
    rw [ahead, hversion]
    rfl
  have hcreates : ∀ x ∈ d.ahead.flatMap Version.steps, x.creates "alerts" = false := by
    rw [hahead]
    decide
  have hall : ∀ x ∈ migration d, x.creates "alerts" = false := by
    rw [migration_eq]
    exact List.forall_mem_cons.mpr ⟨rfl, hcreates⟩
  obtain ⟨d₁, hrun, hrows, hcases⟩ := migrate_cases d now
  have hmissing : d₁.relation? "alerts" = none := by
    have hjournal : ∀ x ∈ [createJournal], x.creates "alerts" = false := by decide
    have hafter := relation?_executeAll_eq_none hjournal h now
    rwa [hrun] at hafter
  obtain ⟨d', hmade, -⟩ | ⟨done, v, rest, d₂, d', e, hsplit, hdone, hfails, hmigrate⟩ := hcases
  · exact absurd (hahead ▸ List.mem_cons_self) (hmade.not_mem_version2 hmissing hcreates)
  · have hwithin : ∀ x ∈ done.flatMap Version.steps, x.creates "alerts" = false := by
      rw [hsplit, List.flatMap_append, List.forall_mem_append] at hcreates
      exact hcreates.1
    obtain rfl : done = [] := by
      cases done with
      | nil => rfl
      | cons w done =>
        obtain rfl : version2 = w := (List.cons.inj (hahead.symm.trans hsplit)).1
        exact absurd List.mem_cons_self (hdone.not_mem_version2 hmissing hwithin)
    have hsame : d'.journalRows = d.journalRows := by
      rw [hfails.rows, hdone.rows, hrows]
      exact List.append_nil _
    refine ⟨?_, ?_, relation?_executeAll_eq_none hall h now⟩
    · rw [hmigrate]
      exact nofun
    · rw [hmigrate, version_eq_of_journalRows hsame, hversion]

/-! ### Versions that do not stand in the way -/

namespace Shape

variable {s : Shape} {versions : List Int} {x : Statement} {xs : List Statement}

/-- What a statement makes of a shape does not depend on the versions that have been noted down,
if it does not note down one of them. -/
theorem execute_of_fresh (hfresh : ∀ n ∈ x.noted?, n ∉ s.versions ∧ n ∉ versions) :
    execute { s with versions } x =
      (s.execute x).map fun s' => { s' with versions := versions ++ x.noted?.toList } := by
  have hcolumns : columns? { s with versions } = s.columns? := rfl
  cases x with
  | createTable name columns =>
    rw [execute, execute, hcolumns]
    split <;> simp [Except.map, Statement.noted?]
  | createIndex name table =>
    rw [execute, execute, hcolumns]
    split
    · simp [Except.map, Statement.noted?]
    · split <;> simp [Except.map, Statement.noted?]
  | addColumn table column filling =>
    rw [execute, execute, hcolumns]
    split
    · rfl
    · split <;> simp [Except.map, Statement.noted?]
  | note version description =>
    obtain ⟨hs, hversions⟩ := hfresh version rfl
    rw [execute, execute, hcolumns]
    split
    · rfl
    · simp [hs, hversions, Except.map, Statement.noted?]

/-- Nor does it matter for statements one after the other, if they note down none twice. -/
theorem executeAll_of_fresh (hnodup : (xs.filterMap Statement.noted?).Nodup)
    (hfresh : ∀ n ∈ xs.filterMap Statement.noted?, n ∉ s.versions ∧ n ∉ versions) :
    (executeAll { s with versions } xs).2 = (s.executeAll xs).2 := by
  induction xs generalizing s versions with
  | nil => rfl
  | cons x xs ih =>
    have hhead : ∀ n ∈ x.noted?, n ∉ s.versions ∧ n ∉ versions := fun n hn =>
      hfresh n (List.mem_filterMap.mpr ⟨x, List.mem_cons_self, hn⟩)
    rw [executeAll, executeAll, execute_of_fresh hhead]
    cases hx : s.execute x with
    | error e => rfl
    | ok s' =>
      have hversions := versions_of_execute hx
      cases hnoted : x.noted? with
      | none =>
        rw [List.filterMap_cons_none hnoted] at hnodup hfresh
        rw [hnoted, Option.toList_none, List.append_nil] at hversions
        exact ih hnodup (by simpa [hversions] using hfresh)
      | some version =>
        rw [List.filterMap_cons_some hnoted, List.nodup_cons] at hnodup
        rw [List.filterMap_cons_some hnoted] at hfresh
        rw [hnoted, Option.toList_some] at hversions
        refine ih hnodup.2 fun n hn => ?_
        have hne : n ≠ version := fun h => hnodup.1 (h ▸ hn)
        have hn := hfresh n (List.mem_cons_of_mem version hn)
        simpa [hversions, hne] using hn

end Shape

theorem noted_of_flatMap_steps {vs : List Version} (hproper : ∀ v ∈ vs, v.IsProper) :
    (vs.flatMap Version.steps).filterMap Statement.noted? = vs.map (·.number) := by
  induction vs with
  | nil => rfl
  | cons v vs ih =>
    have hplain : v.statements.filterMap Statement.noted? = [] :=
      List.filterMap_eq_nil_iff.mpr fun x hx => (hproper v List.mem_cons_self x hx).1
    rw [List.flatMap_cons, List.filterMap_append, Version.steps, List.filterMap_append, hplain,
      ih fun w hw => hproper w (List.mem_cons_of_mem v hw)]
    rfl

/-- Whether a migration succeeds does not depend on what has been noted down but for the version
that has been reached. -/
theorem migrate_of_shape {d : Database} {s : Shape} (h : d.shape = { s with versions := d.versions })
    (hs : s.versions = []) (now : Timestamp) :
    (migrate d now).2 = (s.executeAll (createJournal :: remaining d.version)).2 := by
  have hnoted : (createJournal :: remaining d.version).filterMap Statement.noted? =
      d.ahead.map (·.number) :=
    noted_of_flatMap_steps fun _ => isProper_of_mem_ahead
  have hspares : ∀ x ∈ migration d, x.sparesJournal = true := fun x hx =>
    sparesJournal_of_mem_script x (migration_subset d hx)
  have hshape := congrArg Prod.snd (shape_executeAll now hspares d)
  rw [migrate, hshape, h, migration_eq]
  refine Shape.executeAll_of_fresh ?_ fun n hn => ?_
  · rw [hnoted]
    exact ((ahead_sorted d).imp fun h => Int.ne_of_lt h).map _ fun _ _ h => h
  · rw [hnoted] at hn
    obtain ⟨v, hv, rfl⟩ := List.mem_map.mp hn
    rw [hs]
    exact ⟨List.not_mem_nil, not_mem_of_version_lt (lt_of_mem_ahead hv)⟩

theorem remaining_of_nonpos {reached : Int} (h : reached ≤ 0) : remaining reached = remaining 0 := by
  have hall : ∀ v ∈ allVersions, 0 < v.number := by decide
  refine congrArg (List.flatMap Version.steps) (List.filter_congr fun v hv => ?_)
  have hpos := hall v hv
  rw [decide_eq_decide]
  exact ⟨fun _ => hpos, fun _ => Int.lt_of_le_of_lt h hpos⟩

/-- The shapes of bare databases, but for the versions. -/
def bareShapes : List Shape :=
  [⟨[], [], []⟩, ⟨[(journal, ["version", "applied_at", "description"])], [], []⟩]

theorem Database.IsBare.shape_eq (h : d.IsBare) :
    ∃ s ∈ bareShapes, d.shape = { s with versions := d.versions } := by
  cases h with
  | empty => exact ⟨_, List.mem_cons_self, rfl⟩
  | journal rows => exact ⟨_, List.mem_cons_of_mem _ List.mem_cons_self, rfl⟩

theorem Database.IsBare.relation?_alerts (h : d.IsBare) : d.relation? "alerts" = none := by
  cases h <;> rfl

/-- The first migration of a bare database comes to the newest version, unless the first one is
noted down as the greatest. -/
theorem migrate_of_isBare (h : d.IsBare) (hversion : d.version ≠ 1) (now : Timestamp) :
    (migrate d now).2 = .ok () := by
  by_cases hnewest : newest ≤ d.version
  · rw [migrate_of_newest hnewest]
  · obtain ⟨s, hs, hshape⟩ := h.shape_eq
    have hnil : ∀ s ∈ bareShapes, s.versions = [] := by decide
    have hruns : ∀ s ∈ bareShapes, ∀ reached ∈ ([0, 2, 3] : List Int),
        (s.executeAll (createJournal :: remaining reached)).2 = .ok () := by decide
    have hreached : d.version ≤ 0 ∨ d.version = 2 ∨ d.version = 3 := by
      rw [newest] at hnewest
      omega
    rw [migrate_of_shape hshape (hnil s hs)]
    obtain hle | heq | heq := hreached
    · rw [remaining_of_nonpos hle]
      exact hruns s hs 0 (by decide)
    · rw [heq]
      exact hruns s hs 2 (by decide)
    · rw [heq]
      exact hruns s hs 3 (by decide)

/-- Migrations that have nothing left to do. -/
theorem migrated_of_newest (h : newest ≤ d.version) (clocks : List Timestamp) :
    migrated d clocks = d := by
  induction clocks with
  | nil => rfl
  | cons now clocks ih => rw [migrated, List.foldl_cons, migrate_of_newest h, ← migrated, ih]

/-- A migration that fails for want of alerts makes none. -/
theorem migrated_of_missing_alerts (hversion : d.version = 1)
    (halerts : d.relation? "alerts" = none) (clocks : List Timestamp) :
    (migrated d clocks).version = 1 ∧ (migrated d clocks).relation? "alerts" = none := by
  induction clocks generalizing d with
  | nil => exact ⟨hversion, halerts⟩
  | cons now clocks ih =>
    obtain ⟨-, hversion', halerts'⟩ := migrate_of_missing_alerts hversion halerts now
    exact ih hversion' halerts'

/-- **Migrations of a bare database**, however many, succeed all or fail all. -/
theorem migrate_migrated (h₀ : d₀.IsBare) (clocks : List Timestamp) (now : Timestamp) :
    (migrate (migrated d₀ clocks) now).2 = .ok () ↔ d₀.version ≠ 1 := by
  by_cases hversion : d₀.version = 1
  · obtain ⟨hversion', halerts⟩ :=
      migrated_of_missing_alerts hversion h₀.relation?_alerts clocks
    have hfails := (migrate_of_missing_alerts hversion' halerts now).1
    exact ⟨fun hok => absurd hok hfails, fun hne => absurd hversion hne⟩
  · refine ⟨fun _ => hversion, fun _ => ?_⟩
    cases clocks with
    | nil => exact migrate_of_isBare h₀ hversion now
    | cons first clocks =>
      have hfirst := migrate_of_isBare h₀ hversion first
      have hnewest := newest_le_version (journalRows_migrate hfirst)
      rw [migrated, List.foldl_cons, ← migrated, migrated_of_newest hnewest,
        migrate_of_newest hnewest]

/-- **What migrations note down.** A migration goes by the greatest version that has been noted
down. When it succeeds, the versions beyond that one stand in the journal behind all that stood
there, with the time of the migration, and a later one changes nothing. When it fails, it does at
a statement of a version, and the versions noted down are those before it, each of which has run. It
never notes down a version again, and has nothing to do from the newest version on. With nothing
but a journal to start from, however many migrations have gone before, it succeeds unless the
first version was the greatest. -/
theorem migrate_bookkeeping (d : Database) (now : Timestamp) :
    (d.versions = [] → d.version = 0) ∧
    (d.versions ≠ [] → d.version ∈ d.versions ∧ ∀ v ∈ d.versions, v ≤ d.version) ∧
    d.ahead.map (·.number) = [1, 2, 3, 4].filter (d.version < ·) ∧
    (∀ v ∈ d.ahead, v.number ∉ d.versions) ∧
    ((migrate d now).2 = .ok () →
      (migrate d now).1.journalRows = d.journalRows ++ d.ahead.map (·.row now) ∧
      ∀ now', migrate (migrate d now).1 now' = ((migrate d now).1, .ok ())) ∧
    (∀ e, (migrate d now).2 = .error e → e ≠ .versionTaken ∧
      ∃ done v rest d₁, d.ahead = done ++ v :: rest ∧
        d.executeAll now (createJournal :: done.flatMap Version.steps) = (d₁, .ok ()) ∧
        d₁.executeAll now v.statements = ((migrate d now).1, .error e) ∧
        (migrate d now).1.journalRows = d.journalRows ++ done.map (·.row now)) ∧
    (4 ≤ d.version → migrate d now = (d, .ok ())) ∧
    ∀ d₀ clocks, d₀.IsBare → d = migrated d₀ clocks →
      ((migrate d now).2 = .ok () ↔ d₀.version ≠ 1) := by
  refine ⟨version_of_nil, version_of_ne_nil, numbers_ahead d,
    fun v hv => not_mem_of_version_lt (lt_of_mem_ahead hv),
    fun hok => ⟨journalRows_migrate hok, migrate_migrate hok⟩, fun e he => ?_,
    fun hnewest => migrate_of_newest hnewest now, ?_⟩
  · obtain ⟨d₁, hrun, hrows, ⟨d', -, hmigrate⟩ |
      ⟨done, v, rest, d₂, d', e', hsplit, hdone, hfails, hmigrate⟩⟩ := migrate_cases d now
    · rw [hmigrate] at he
      cases he
    · rw [hmigrate] at he ⊢
      cases he
      refine ⟨hfails.fault, done, v, rest, d₂, hsplit, ?_, hfails.fails, ?_⟩
      · exact (executeAll_append_of_ok hrun _).trans hdone.runs
      · rw [hfails.rows, hdone.rows, hrows]
  · rintro d₀ clocks h₀ rfl
    exact migrate_migrated h₀ clocks now

/-- With a gap in the journal the versions beyond its greatest one are made up. With the first
version alone a migration fails at the alerts, and with one beyond the newest it does nothing. -/
theorem migrate_bookkeeping_of_gaps :
    let before (versions : List Int) : Database :=
      ⟨[⟨journal, ["version", "applied_at", "description"],
        versions.map fun v => [.integer v, .integer 0, .text "seeded"]⟩], []⟩
    ((migrate (before [2, -3]) .epoch).2 = .ok () ∧
      (migrate (before [2, -3]) .epoch).1.journalRows = (before [2, -3]).journalRows ++
        [version3.row .epoch, version4.row .epoch]) ∧
    ((migrate (before [1]) .epoch).2 = .error (.noSuchTable "alerts") ∧
      ∃ done v rest, [version2, version3, version4] = done ++ v :: rest ∧
        (migrate (before [1]) .epoch).1.journalRows =
          (before [1]).journalRows ++ done.map (·.row .epoch)) ∧
    migrate (before [7]) .epoch = (before [7], .ok ()) := by
  intro before
  obtain ⟨-, -, -, -, hgrows, -, -, hbare⟩ := migrate_bookkeeping (before [2, -3]) .epoch
  obtain ⟨-, -, -, -, -, hstops, -, -⟩ := migrate_bookkeeping (before [1]) .epoch
  obtain ⟨-, -, -, -, -, -, hrests, -⟩ := migrate_bookkeeping (before [7]) .epoch
  have hok : (migrate (before [2, -3]) .epoch).2 = .ok () :=
    (hbare (before [2, -3]) [] (.journal _) rfl).mpr (by decide)
  have hfails : (migrate (before [1]) .epoch).2 = .error (.noSuchTable "alerts") := by decide
  obtain ⟨-, done, v, rest, d₁, hsplit, -, -, hrows⟩ := hstops _ hfails
  exact ⟨⟨hok, (hgrows hok).1⟩, ⟨hfails, done, v, rest, hsplit, hrows⟩, hrests (by decide)⟩

end NetWatch.Schema
