/-
NetWatch.Proofs.Schema.Resuming — a migration that goes on where one has stopped
(`run_migrations`).

A migration starts over with the version that has not been noted down yet, so
it first repeats what is there already of that version and then does the rest
(`Resumes`). With a statement of the rest that has run, a migration of what is
there now has this form again (`Resumes.next`): the statement is one of those
that are repeated, and the note of a version leaves nothing to repeat but the
making of the journal.

Repeating changes nothing, and fails only at a column
(`Database.executeAll_of_isThere`).
-/
import NetWatch.Proofs.Schema.Shape

namespace NetWatch.Schema

/-! ## What a migration consists of -/

/-- The version that a statement notes down. -/
def Statement.noted? : Statement → Option Int
  | .note version _ => some version
  | _ => none

/-- All that a migration may consist of. -/
def script : List Statement :=
  createJournal :: allVersions.flatMap Version.steps

/-- The journal is made without anything in it, so the version is what it was before. -/
theorem migration_eq (d : Database) : migration d = createJournal :: remaining d.version := by
  have hversion : (d.executeAll .epoch [createJournal]).1.version = d.version := by
    unfold Database.version
    rw [createJournal, Database.executeAll, Database.execute]
    split
    · rename_i h
      split at h <;> cases h
    · rename_i h
      split at h <;> cases h
      · rfl
      · exact congrArg (·.max?.getD 0) (Database.versions_snoc ..)
  rw [migration, hversion]

theorem migration_subset (d : Database) : migration d ⊆ script := by
  rw [migration_eq]
  refine List.cons_subset_cons _ fun x hx => ?_
  obtain ⟨v, hv, hx⟩ := List.mem_flatMap.mp hx
  exact List.mem_flatMap.mpr ⟨v, List.mem_of_mem_filter hv, hx⟩

theorem sparesJournal_of_mem_script : ∀ x ∈ script, x.sparesJournal = true := by
  decide

/-- A version notes down itself, last of all. -/
theorem eq_of_steps {v : Version} {before after : List Statement} {version : Int}
    {description : String} (hplain : ∀ x ∈ v.statements, x.noted? = none)
    (h : v.steps = before ++ .note version description :: after) :
    v.number = version ∧ after = [] := by
  obtain rfl | ⟨after, last, rfl⟩ := after.eq_nil_or_concat'
  · obtain ⟨-, hnote⟩ := List.append_inj' h rfl
    cases hnote
    exact ⟨rfl, rfl⟩
  · rw [← List.cons_append, ← List.append_assoc] at h
    obtain ⟨hstatements, -⟩ := List.append_inj' h rfl
    have hmem : .note version description ∈ v.statements := by simp [hstatements]
    exact nomatch hplain _ hmem

/-- What stands behind the note of a version are the versions after it. -/
theorem eq_of_flatMap_steps {vs : List Version} {before after : List Statement} {version : Int}
    {description : String} (hsorted : vs.Pairwise (·.number < ·.number))
    (hplain : ∀ v ∈ vs, ∀ x ∈ v.statements, x.noted? = none)
    (h : vs.flatMap Version.steps = before ++ .note version description :: after) :
    (∃ v ∈ vs, v.number = version) ∧
      after = (vs.filter (version < ·.number)).flatMap Version.steps := by
  induction vs generalizing before with
  | nil => simp at h
  | cons v vs ih =>
    obtain ⟨hfirst, hsorted⟩ := List.pairwise_cons.mp hsorted
    -- the note is one of a later version
    have hlater {before}
        (h : vs.flatMap Version.steps = before ++ .note version description :: after) :
        (∃ w ∈ v :: vs, w.number = version) ∧
          after = ((v :: vs).filter (version < ·.number)).flatMap Version.steps := by
      have hrest : ∀ w ∈ vs, ∀ x ∈ w.statements, x.noted? = none :=
        fun w hw => hplain w (List.mem_cons_of_mem v hw)
      obtain ⟨⟨w, hw, rfl⟩, hafter⟩ := ih hsorted hrest h
      have hle : ¬ w.number < v.number := Int.not_lt.mpr (Int.le_of_lt (hfirst w hw))
      rw [hafter, List.filter_cons_of_neg (by simpa using hle)]
      exact ⟨⟨w, List.mem_cons_of_mem v hw, rfl⟩, rfl⟩
    rw [List.flatMap_cons, List.append_eq_append_iff] at h
    obtain ⟨between, -, h⟩ | ⟨between, hv, h⟩ := h
    · exact hlater h
    · cases between with
      | nil => exact @hlater [] h.symm
      | cons note between =>
        -- the note is the one of the first version
        obtain ⟨rfl, hafter⟩ := List.cons.inj h
        obtain ⟨rfl, rfl⟩ := eq_of_steps (hplain v List.mem_cons_self) hv
        refine ⟨⟨v, List.mem_cons_self, rfl⟩, ?_⟩
        have hall : vs.filter (v.number < ·.number) = vs :=
          List.filter_eq_self.mpr fun w hw => decide_eq_true (hfirst w hw)
        rw [hafter, List.filter_cons_of_neg (by simp), hall]
        rfl

/-- Behind the note of a version stands what is left to do from that version on. -/
theorem eq_of_remaining {reached version : Int} {description : String}
    {before after : List Statement}
    (h : remaining reached = before ++ .note version description :: after) :
    reached < version ∧ after = remaining version := by
  have hsorted : allVersions.Pairwise (·.number < ·.number) := by decide
  have hplain : ∀ v ∈ allVersions, ∀ x ∈ v.statements, x.noted? = none := by decide
  obtain ⟨⟨v, hv, rfl⟩, rfl⟩ := eq_of_flatMap_steps (hsorted.filter _)
    (fun v hv => hplain v (List.mem_of_mem_filter hv)) h
  have hreached : reached < v.number := by simpa using (List.mem_filter.mp hv).2
  refine ⟨hreached, ?_⟩
  rw [remaining, List.filter_filter]
  refine congrArg (List.flatMap _) (List.filter_congr fun w _ => ?_)
  grind

/-! ## Taking up a migration -/

/-- A migration that repeats what is there already, and has the rest to do. -/
structure Resumes (d : Database) (again rest : List Statement) : Prop where
  splits : migration d = again ++ rest
  isThere : ∀ x ∈ again, d.shape.IsThere x
  plain : ∀ x ∈ again, x.noted? = none

/-- The versions that are noted down after a statement. -/
theorem Shape.versions_of_execute {s s' : Shape} {x : Statement} (h : s.execute x = .ok s') :
    s'.versions = s.versions ++ x.noted?.toList := by
  cases x with
  | createTable name columns =>
    rw [Shape.execute] at h
    split at h <;> cases h <;> exact (List.append_nil _).symm
  | createIndex name table =>
    rw [Shape.execute] at h
    split at h
    · cases h
      exact (List.append_nil _).symm
    · split at h <;> cases h
      exact (List.append_nil _).symm
  | addColumn table column filling =>
    rw [Shape.execute] at h
    split at h
    · cases h
    · split at h <;> cases h
      exact (List.append_nil _).symm
  | note version description =>
    rw [Shape.execute] at h
    split at h
    · cases h
    · split at h <;> cases h
      rfl

/-- A version beyond the one that was reached is the one that is reached with its note. -/
theorem max?_getD_append {versions : List Int} {version : Int}
    (h : versions.max?.getD 0 < version) : (versions ++ [version]).max?.getD 0 = version := by
  have hle : ∀ v ∈ versions, v ≤ version := by
    intro v hv
    cases hmax : versions.max? with
    | none =>
      rw [List.max?_eq_none_iff.mp hmax] at hv
      cases hv
    | some greatest =>
      rw [hmax, Option.getD_some] at h
      exact Int.le_trans ((List.max?_eq_some_iff.mp hmax).2 v hv) (Int.le_of_lt h)
  have hmax : (versions ++ [version]).max? = some version :=
    List.max?_eq_some_iff.mpr ⟨by simp, by simpa [or_imp, forall_and] using hle⟩
  rw [hmax, Option.getD_some]

namespace Resumes

variable {d d' : Database} {now : Timestamp} {again rest : List Statement} {x : Statement}

theorem start (d : Database) : Resumes d [] (migration d) :=
  ⟨rfl, by simp, by simp⟩

/-- A statement of the rest, once it has run, is one that is repeated, unless it is the note
of a version: then the rest is what is left to do from that version on. -/
theorem next (h : Resumes d again (x :: rest)) (hx : d.shape.execute x = .ok d'.shape) :
    ∃ again', Resumes d' again' rest := by
  obtain ⟨hwithin, hthere⟩ := Shape.execute_eq_ok hx
  have hversions : d'.versions = d.versions ++ x.noted?.toList := Shape.versions_of_execute hx
  cases hnoted : x.noted? with
  | none =>
    have hversion : d'.version = d.version := by
      rw [Database.version, hversions, hnoted, Option.toList_none, List.append_nil,
        Database.version]
    refine ⟨again ++ [x], ?_, fun y hy => ?_, fun y hy => ?_⟩
    · rw [migration_eq, hversion, ← migration_eq, h.splits, List.append_assoc]
      rfl
    · obtain hy | rfl := List.mem_append.mp hy |>.imp_right List.mem_singleton.mp
      · exact hwithin.isThere (h.isThere y hy)
      · exact hthere
    · obtain hy | rfl := List.mem_append.mp hy |>.imp_right List.mem_singleton.mp
      · exact h.plain y hy
      · exact hnoted
  | some version =>
    obtain ⟨description, rfl⟩ : ∃ description, x = .note version description := by
      cases x <;> cases hnoted
      exact ⟨_, rfl⟩
    have hmigration := h.splits
    rw [migration_eq] at hmigration
    cases again with
    | nil => cases hmigration
    | cons first again =>
      obtain ⟨rfl, hremaining⟩ := List.cons.inj hmigration
      obtain ⟨hreached, rfl⟩ := eq_of_remaining hremaining
      have hversion : d'.version = version := by
        rw [Database.version, hversions]
        exact max?_getD_append hreached
      refine ⟨[createJournal], ?_, fun y hy => ?_, fun y hy => ?_⟩
      · rw [migration_eq, hversion]
        rfl
      · exact hwithin.isThere (h.isThere y (List.mem_cons.mpr (.inl (List.mem_singleton.mp hy))))
      · obtain rfl := List.mem_singleton.mp hy
        rfl

end Resumes

/-! ### Statements one after the other -/

namespace Database

variable {d d' : Database} {now : Timestamp} {x : Statement} {xs ys again rest : List Statement}

theorem executeAll_append_of_ok (h : d.executeAll now xs = (d', .ok ())) (ys : List Statement) :
    d.executeAll now (xs ++ ys) = d'.executeAll now ys := by
  induction xs generalizing d with
  | nil => cases h; rfl
  | cons x xs ih =>
    rw [List.cons_append, executeAll]
    rw [executeAll] at h
    cases hx : d.execute now x with
    | error e => rw [hx] at h; cases h
    | ok d₁ =>
      rw [hx] at h
      exact ih h

theorem executeAll_append_of_error {e : Fault} (h : d.executeAll now xs = (d', .error e))
    (ys : List Statement) : d.executeAll now (xs ++ ys) = (d', .error e) := by
  induction xs generalizing d with
  | nil => cases h
  | cons x xs ih =>
    rw [List.cons_append, executeAll]
    rw [executeAll] at h
    cases hx : d.execute now x with
    | error e => rw [hx] at h; exact h
    | ok d₁ =>
      rw [hx] at h
      exact ih h

/-- What is there already is made once more without effect, a column apart. -/
theorem execute_of_isThere (hx : d.shape.IsThere x) (hplain : x.noted? = none) (now : Timestamp) :
    d.execute now x = .ok d ∨
      ∃ table column filling, x = .addColumn table column filling ∧
        d.execute now x = .error (.duplicateColumn column) := by
  cases x with
  | createTable name columns =>
    rw [Shape.IsThere, columns?_shape, Option.isSome_map] at hx
    exact .inl (if_pos hx)
  | createIndex name table => exact .inl (if_pos (List.contains_iff_mem.mpr hx))
  | addColumn table column filling =>
    obtain ⟨columns, hcolumns, hmem⟩ := hx
    rw [columns?_shape] at hcolumns
    obtain ⟨r, hr, rfl⟩ := Option.map_eq_some_iff.mp hcolumns
    refine .inr ⟨table, column, filling, rfl, ?_⟩
    rw [execute, hr]
    exact if_pos (List.contains_iff_mem.mpr hmem)
  | note version description => cases hplain

/-- Statements whose effect is there already change nothing, and fail only if one of them adds
a column. -/
theorem executeAll_of_isThere (hxs : ∀ x ∈ xs, d.shape.IsThere x)
    (hplain : ∀ x ∈ xs, x.noted? = none) (now : Timestamp) :
    d.executeAll now xs = (d, .ok ()) ∨
      ∃ table column filling, .addColumn table column filling ∈ xs ∧
        d.executeAll now xs = (d, .error (.duplicateColumn column)) := by
  induction xs with
  | nil => exact .inl rfl
  | cons x xs ih =>
    rw [executeAll]
    obtain hx | ⟨table, column, filling, rfl, hx⟩ :=
      execute_of_isThere (hxs x List.mem_cons_self) (hplain x List.mem_cons_self) now
    · rw [hx]
      refine (ih (fun y hy => hxs y (List.mem_cons_of_mem x hy))
        fun y hy => hplain y (List.mem_cons_of_mem x hy)).imp_right ?_
      rintro ⟨table, column, filling, hmem, h⟩
      exact ⟨table, column, filling, List.mem_cons_of_mem x hmem, h⟩
    · exact .inr ⟨table, column, filling, List.mem_cons_self, by rw [hx]⟩

end Database

end NetWatch.Schema
