/-
NetWatch.Proofs.Schema.Journal — what versions leave in the journal (`record_migration`).

A version is noted down once all of its statements have run. They do not touch
the journal themselves (`Database.journalRows_executeAll`), so a version whose
statements all run has one row more to show for it (`Database.MadeUp`), and one
with a statement that fails has none (`Database.FailsIn`). There is nothing else
that can happen to versions one after the other, if each is beyond the one that
has been reached (`Database.executeAll_steps`): then the note itself never fails.
-/
import NetWatch.Proofs.Schema.Resuming
import NetWatch.Proofs.Schema.Rows

namespace NetWatch.Schema

/-! ## The journal -/

/-- What is noted down of a version. -/
def Version.row (v : Version) (now : Timestamp) : Row :=
  Database.journalRow v.number now v.description

/-- A version with statements that are no notes and leave the columns of the journal alone. -/
def Version.IsProper (v : Version) : Prop :=
  ∀ x ∈ v.statements, x.noted? = none ∧ x.sparesJournal = true

theorem isProper_of_mem : ∀ v ∈ allVersions, v.IsProper := by
  unfold Version.IsProper
  decide

namespace Database

variable {d d' : Database} {now : Timestamp} {x : Statement} {xs : List Statement}

/-- What has been noted down. -/
def journalRows (d : Database) : List Row :=
  ((d.relation? journal).map (·.rows)).getD []

theorem versions_eq_filterMap (d : Database) :
    d.versions = d.journalRows.filterMap versionOf? := by
  rw [versions_eq, journalRows]
  cases d.relation? journal <;> rfl

/-- Which version has been reached is told by the journal. -/
theorem version_eq_of_journalRows (h : d'.journalRows = d.journalRows) :
    d'.version = d.version := by
  rw [version, version, versions_eq_filterMap, h, ← versions_eq_filterMap]

theorem version_of_nil (h : d.versions = []) : d.version = 0 := by
  rw [version, h]
  rfl

/-- The version that has been reached is the greatest that was noted down. -/
theorem version_of_ne_nil (h : d.versions ≠ []) :
    d.version ∈ d.versions ∧ ∀ v ∈ d.versions, v ≤ d.version := by
  cases hmax : d.versions.max? with
  | none => exact absurd (List.max?_eq_none_iff.mp hmax) h
  | some m =>
    have hversion : d.version = m := by rw [version, hmax, Option.getD_some]
    rw [hversion]
    exact List.max?_eq_some_iff.mp hmax

/-- A version beyond the one that has been reached has not been noted down. -/
theorem not_mem_of_version_lt {version : Int} (h : d.version < version) :
    version ∉ d.versions := by
  intro hmem
  have hle := (version_of_ne_nil (List.ne_nil_of_mem hmem)).2 version hmem
  omega

/-! ### Statements one after the other -/

/-- **What every statement keeps** is kept by all of them, as far as they get. A fault is that of
one of them, and if there is none each of them has run. -/
theorem executeAll_keeps {I : Database → Prop} (h : I d)
    (hkeeps : ∀ x ∈ xs, ∀ d d', I d → d.execute now x = .ok d' → I d') :
    I (d.executeAll now xs).1 ∧
      (∀ e, (d.executeAll now xs).2 = .error e →
        ∃ x ∈ xs, ∃ d, I d ∧ d.execute now x = .error e) ∧
      ((d.executeAll now xs).2 = .ok () →
        ∀ x ∈ xs, ∃ d d', I d ∧ d.execute now x = .ok d') := by
  induction xs generalizing d with
  | nil =>
    refine ⟨h, fun e he => ?_, fun _ => List.forall_mem_nil _⟩
    cases he
  | cons x xs ih =>
    rw [executeAll]
    cases hx : d.execute now x with
    | error fault =>
      refine ⟨h, fun e he => ?_, fun hok => ?_⟩
      · cases he
        exact ⟨x, List.mem_cons_self, d, h, hx⟩
      · cases hok
    | ok d' =>
      obtain ⟨hlast, hfault, hran⟩ := ih (hkeeps x List.mem_cons_self d d' h hx)
        fun y hy => hkeeps y (List.mem_cons_of_mem x hy)
      refine ⟨hlast, fun e he => ?_, fun hok => List.forall_mem_cons.mpr ⟨?_, hran hok⟩⟩
      · obtain ⟨y, hy, hfails⟩ := hfault e he
        exact ⟨y, List.mem_cons_of_mem x hy, hfails⟩
      · exact ⟨d, d', h, hx⟩

/-! ### Statements and the journal -/

/-- A statement that is no note leaves the journal as it is. -/
theorem journalRows_execute (hspares : x.sparesJournal = true) (hplain : x.noted? = none)
    (h : d.execute now x = .ok d') : d'.journalRows = d.journalRows := by
  cases x with
  | createTable name columns =>
    rw [execute] at h
    split at h
    · cases h
      rfl
    · cases h
      rw [journalRows, relation?_snoc, journalRows]
      cases d.relation? journal with
      | some r => rfl
      | none =>
        rw [Option.none_or]
        split <;> rfl
  | createIndex name table =>
    rw [execute] at h
    split at h
    · cases h
      rfl
    · split at h <;> cases h
      rfl
  | addColumn table column filling =>
    have hne : table ≠ journal := by simpa [Statement.sparesJournal] using hspares
    rw [execute] at h
    split at h
    · cases h
    · split at h <;> cases h
      rw [journalRows, relation?_alter, if_neg hne.symm, journalRows]
      exact fun _ => rfl
  | note version description => cases hplain

/-- Statements without a note leave the journal as it is, as far as they get. -/
theorem journalRows_executeAll (hspares : ∀ x ∈ xs, x.sparesJournal = true)
    (hplain : ∀ x ∈ xs, x.noted? = none) (d : Database) (now : Timestamp) :
    (d.executeAll now xs).1.journalRows = d.journalRows :=
  (executeAll_keeps (I := fun d' => d'.journalRows = d.journalRows) rfl
    fun x hx _ _ hrows hrun =>
      (journalRows_execute (hspares x hx) (hplain x hx) hrun).trans hrows).1

/-- Only a note finds a version that has been noted down. -/
theorem execute_ne_versionTaken (hplain : x.noted? = none) :
    d.execute now x ≠ .error .versionTaken := by
  intro h
  cases x with
  | note version description => cases hplain
  | _ =>
    rw [execute] at h
    repeat' split at h
    all_goals cases h

theorem executeAll_ne_versionTaken (hplain : ∀ x ∈ xs, x.noted? = none) (d : Database)
    (now : Timestamp) : (d.executeAll now xs).2 ≠ .error .versionTaken := by
  intro h
  obtain ⟨x, hx, d', -, hfails⟩ :=
    (executeAll_keeps (I := fun _ => True) trivial fun _ _ _ _ _ _ => trivial).2.1 _ h
  exact execute_ne_versionTaken (hplain x hx) hfails

/-- A version that has not been noted down is noted down behind the others. -/
theorem execute_note {version : Int} (hjournal : (d.relation? journal).isSome)
    (hfresh : version ∉ d.versions) (now : Timestamp) (description : String) :
    ∃ d', d.execute now (.note version description) = .ok d' ∧
      d'.journalRows = d.journalRows ++ [journalRow version now description] := by
  obtain ⟨r, hr⟩ := Option.isSome_iff_exists.mp hjournal
  have hnot : ¬ d.versions.contains version = true := by simpa using hfresh
  rw [execute, hr]
  refine ⟨_, if_neg hnot, ?_⟩
  rw [journalRows, relation?_alter, if_pos rfl, journalRows, hr]
  · rfl
  · exact fun _ => rfl

/-- A table that is there is there after any statements. -/
theorem isSome_executeAll {name : String} (h : (d.relation? name).isSome) (now : Timestamp)
    (xs : List Statement) : ((d.executeAll now xs).1.relation? name).isSome := by
  obtain ⟨r, hr⟩ := Option.isSome_iff_exists.mp h
  obtain ⟨r', -, -, hr', -⟩ := keeps_executeAll (List.Subset.refl xs) d now name r hr
  exact Option.isSome_iff_exists.mpr ⟨r', hr'⟩

/-! ## From version to version -/

/-- The statements of versions have run, and the versions are noted down behind what had been
noted down. -/
structure MadeUp (now : Timestamp) (d : Database) (vs : List Version) (d' : Database) : Prop where
  runs : d.executeAll now (vs.flatMap Version.steps) = (d', .ok ())
  rows : d'.journalRows = d.journalRows ++ vs.map (·.row now)

/-- A statement of a version fails, and nothing is noted down. -/
structure FailsIn (now : Timestamp) (d : Database) (v : Version) (d' : Database) (e : Fault) :
    Prop where
  fails : d.executeAll now v.statements = (d', .error e)
  rows : d'.journalRows = d.journalRows
  fault : e ≠ .versionTaken

theorem MadeUp.nil (now : Timestamp) (d : Database) : MadeUp now d [] d :=
  ⟨rfl, by simp⟩

theorem MadeUp.cons {d₁ : Database} {v : Version} {vs : List Version} (h : MadeUp now d [v] d₁)
    (h' : MadeUp now d₁ vs d') : MadeUp now d (v :: vs) d' := by
  have hfirst : d.executeAll now v.steps = (d₁, .ok ()) := by simpa using h.runs
  refine ⟨?_, ?_⟩
  · rw [List.flatMap_cons, executeAll_append_of_ok hfirst, h'.runs]
  · rw [h'.rows, h.rows, List.append_assoc]
    rfl

/-- **A single version** that is ahead is made up and noted down, or one of its statements
fails. -/
theorem executeAll_version {v : Version} (hproper : v.IsProper)
    (hjournal : (d.relation? journal).isSome) (hahead : d.version < v.number) (now : Timestamp) :
    (∃ d', MadeUp now d [v] d') ∨ ∃ d' e, FailsIn now d v d' e := by
  have hplain : ∀ x ∈ v.statements, x.noted? = none := fun x hx => (hproper x hx).1
  have hrows := journalRows_executeAll (fun x hx => (hproper x hx).2) hplain d now
  have hfault := executeAll_ne_versionTaken hplain d now
  have hthere := isSome_executeAll hjournal now v.statements
  cases hrun : d.executeAll now v.statements with
  | mk d₁ result =>
    rw [hrun] at hrows hfault hthere
    cases result with
    | error e => exact .inr ⟨d₁, e, hrun, hrows, fun he => hfault (congrArg _ he)⟩
    | ok _ =>
      have hfresh : v.number ∉ d₁.versions :=
        not_mem_of_version_lt (version_eq_of_journalRows hrows ▸ hahead)
      obtain ⟨d', hnote, hrows'⟩ := execute_note hthere hfresh now v.description
      refine .inl ⟨d', ?_, ?_⟩
      · rw [List.flatMap_singleton, Version.steps, executeAll_append_of_ok hrun, executeAll, hnote]
        rfl
      · rw [hrows', hrows]
        rfl

/-- The version that has been reached with one that is made up. -/
theorem MadeUp.version_eq {v : Version} (h : MadeUp now d [v] d') (hahead : d.version < v.number) :
    d'.version = v.number := by
  have hversions : d'.versions = d.versions ++ [v.number] := by
    rw [versions_eq_filterMap, h.rows, List.filterMap_append, ← versions_eq_filterMap]
    rfl
  rw [version, hversions]
  exact max?_getD_append hahead

theorem MadeUp.isSome {vs : List Version} (h : MadeUp now d vs d')
    (hjournal : (d.relation? journal).isSome) : (d'.relation? journal).isSome := by
  have hthere := isSome_executeAll hjournal now (vs.flatMap Version.steps)
  rwa [h.runs] at hthere

/-- **Versions one after the other** are all made up, or some of them until a statement of the
next one fails. -/
theorem executeAll_steps {vs : List Version} (hproper : ∀ v ∈ vs, v.IsProper)
    (hsorted : vs.Pairwise (·.number < ·.number)) (hjournal : (d.relation? journal).isSome)
    (hahead : ∀ v ∈ vs, d.version < v.number) (now : Timestamp) :
    (∃ d', MadeUp now d vs d') ∨ ∃ done v rest d₁ d' e, vs = done ++ v :: rest ∧
      MadeUp now d done d₁ ∧ FailsIn now d₁ v d' e ∧
      d.executeAll now (vs.flatMap Version.steps) = (d', .error e) := by
  induction vs generalizing d with
  | nil => exact .inl ⟨d, .nil now d⟩
  | cons v vs ih =>
    obtain ⟨hfirst, hsorted⟩ := List.pairwise_cons.mp hsorted
    have hv := hahead v List.mem_cons_self
    obtain ⟨d₁, hmade⟩ | ⟨d', e, hfails⟩ :=
      executeAll_version (hproper v List.mem_cons_self) hjournal hv now
    · have hstep : d.executeAll now v.steps = (d₁, .ok ()) := by simpa using hmade.runs
      have hversion := hmade.version_eq hv
      obtain ⟨d', hrest⟩ | ⟨done, w, rest, d₂, d', e, rfl, hdone, hfails, hrun⟩ :=
        ih (fun w hw => hproper w (List.mem_cons_of_mem v hw)) hsorted (hmade.isSome hjournal)
          (fun w hw => hversion ▸ hfirst w hw)
      · exact .inl ⟨d', hmade.cons hrest⟩
      · refine .inr ⟨v :: done, w, rest, d₂, d', e, rfl, hmade.cons hdone, hfails, ?_⟩
        rw [List.flatMap_cons, executeAll_append_of_ok hstep, hrun]
    · refine .inr ⟨[], v, vs, d, d', e, rfl, .nil now d, hfails, ?_⟩
      rw [List.flatMap_cons, Version.steps, List.append_assoc,
        executeAll_append_of_error hfails.fails]

end Database

end NetWatch.Schema
