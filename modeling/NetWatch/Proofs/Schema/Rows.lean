/-
NetWatch.Proofs.Schema.Rows — what statements leave of the rows.

No statement takes a row away. A table that is there stays, with columns added
behind the old ones, each of them filled alike in all the rows that are there;
and only the journal gets rows of its own (`Database.keeps_of_execute`). A
database that another one came from in this way is kept by it
(`Database.Keeps`), which goes on over statement after statement
(`Database.keeps_executeAll`).
-/
import NetWatch.Proofs.Schema.Shape

namespace NetWatch.Schema

/-- A table that has become another: there are columns behind the old ones, filled alike in
all the old rows, and rows behind these. -/
structure Relation.Extends (r r' : Relation) (added : List (String × Cell)) (more : List Row) :
    Prop where
  columns : r'.columns = r.columns ++ added.map (·.1)
  rows : r'.rows = r.rows.map (· ++ added.map (·.2)) ++ more

namespace Relation

variable {r r' r'' : Relation} {added added' : List (String × Cell)} {more more' : List Row}

theorem Extends.refl (r : Relation) : r.Extends r [] [] :=
  ⟨by simp, by simp⟩

theorem Extends.trans (h : r.Extends r' added more) (h' : r'.Extends r'' added' more') :
    r.Extends r'' (added ++ added') (more.map (· ++ added'.map (·.2)) ++ more') := by
  refine ⟨?_, ?_⟩
  · rw [h'.columns, h.columns, List.map_append, List.append_assoc]
  · simp [h'.rows, h.rows]

end Relation

namespace Database

variable {d d' d'' : Database} {now : Timestamp} {x : Statement} {script : List Statement}

/-- Every table of a database is there in the other, with its rows: what was added to it are
columns that the script declares, and rows only to the journal. -/
def Keeps (script : List Statement) (d d' : Database) : Prop :=
  ∀ name r, d.relation? name = some r → ∃ r' added more,
    d'.relation? name = some r' ∧ r.Extends r' added more ∧
      (∀ c ∈ added, .addColumn name c.1 c.2 ∈ script) ∧ (name ≠ journal → more = [])

theorem Keeps.refl (script : List Statement) (d : Database) : Keeps script d d :=
  fun _ r hr => ⟨r, [], [], hr, .refl r, by simp, fun _ => rfl⟩

theorem Keeps.trans (h : Keeps script d d') (h' : Keeps script d' d'') : Keeps script d d'' := by
  intro name r hr
  obtain ⟨r', added, more, hr', hext, hadded, hmore⟩ := h name r hr
  obtain ⟨r'', added', more', hr'', hext', hadded', hmore'⟩ := h' name r' hr'
  refine ⟨r'', _, _, hr'', hext.trans hext', fun c hc => ?_, fun hname => ?_⟩
  · exact (List.mem_append.mp hc).elim (hadded c) (hadded' c)
  · rw [hmore hname, hmore' hname, List.map_nil, List.append_nil]

/-- Every table that was found is found again with what was done to it. -/
theorem keeps_alter {table : String} {f : Relation → Relation} {added : List (String × Cell)}
    {more : List Row} (hname : ∀ r, (f r).name = r.name)
    (hf : ∀ r : Relation, r.Extends (f r) added more)
    (hadded : ∀ c ∈ added, .addColumn table c.1 c.2 ∈ script)
    (hmore : table ≠ journal → more = []) : Keeps script d (d.alter table f) := by
  intro name r hr
  rw [relation?_alter hname, hr]
  by_cases h : name = table
  · subst h
    exact ⟨f r, added, more, if_pos rfl, hf r, hadded, hmore⟩
  · exact ⟨r, [], [], if_neg h, .refl r, by simp, fun _ => rfl⟩

/-- **A statement keeps every row** of the database. -/
theorem keeps_of_execute (hx : x ∈ script) (h : d.execute now x = .ok d') : Keeps script d d' := by
  cases x with
  | createTable name columns =>
    rw [execute] at h
    split at h
    · cases h
      exact .refl script d
    · cases h
      intro table r hr
      exact ⟨r, [], [], by rw [relation?_snoc, hr, Option.some_or], .refl r, by simp, fun _ => rfl⟩
  | createIndex name table =>
    rw [execute] at h
    split at h
    · cases h
      exact .refl script d
    · split at h <;> cases h
      exact .refl script d
  | addColumn table column filling =>
    rw [execute] at h
    split at h
    · cases h
    · split at h <;> cases h
      have hadded : ∀ c ∈ [(column, filling)], .addColumn table c.1 c.2 ∈ script := by
        simpa using hx
      exact keeps_alter (fun _ => rfl) (fun _ => ⟨rfl, (List.append_nil _).symm⟩) hadded
        fun _ => rfl
  | note version description =>
    rw [execute] at h
    split at h
    · cases h
    · split at h <;> cases h
      have hrow (r : Relation) : r.Extends
          { r with rows := r.rows ++ [journalRow version now description] } []
          [journalRow version now description] := ⟨by simp, by simp⟩
      exact keeps_alter (fun _ => rfl) hrow (by simp) fun h => absurd rfl h

/-- Statements keep every row, as far as they get. -/
theorem keeps_executeAll {xs : List Statement} (hxs : xs ⊆ script) (d : Database)
    (now : Timestamp) : Keeps script d (d.executeAll now xs).1 := by
  induction xs generalizing d with
  | nil => exact .refl script d
  | cons x xs ih =>
    rw [executeAll]
    cases h : d.execute now x with
    | error e => exact .refl script d
    | ok d' =>
      exact (keeps_of_execute (hxs List.mem_cons_self) h).trans
        (ih (fun _ hy => hxs (List.mem_cons_of_mem x hy)) d')

end Database

end NetWatch.Schema
