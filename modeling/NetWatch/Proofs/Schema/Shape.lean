/-
NetWatch.Proofs.Schema.Shape — a database without its rows.

The shape of a database is what a migration looks at: which tables there are and
which columns they have, which indexes there are, and which versions have been
noted down. Whether a statement fails, and the shape that it leaves, depend on
the shape alone (`Database.shape_execute`, `Database.shape_executeAll`); so a
migration can be followed on shapes, whatever the rows are.

What a statement makes is there afterwards and stays there
(`Shape.isThere_of_execute`, `Shape.IsThere.execute`). Making it once more has no effect,
unless it is a column or a note, which cannot be made twice
(`Shape.execute_of_isThere`).
-/
import NetWatch.Schema.Migration
import NetWatch.Proofs.Keyed

namespace NetWatch.Schema

/-! ## Tables by name -/

namespace Database

variable {d : Database} {name table : String} {f : Relation → Relation}

theorem name_of_relation? {r : Relation} (h : d.relation? name = some r) : r.name = name := by
  simpa using List.find?_some h

/-- A table that is altered is altered where it is found. -/
theorem relation?_alter (hf : ∀ r, (f r).name = r.name) :
    (d.alter table f).relation? name =
      if name = table then (d.relation? name).map f else d.relation? name := by
  have hfound : (d.alter table f).relation? name =
      (d.relation? name).map fun r => if r.name == table then f r else r := by
    refine find?_map_of_key (fun r => ?_) d.relations name
    split
    · exact hf r
    · rfl
  rw [hfound]
  cases hr : d.relation? name with
  | none => simp
  | some r =>
    obtain rfl := name_of_relation? hr
    simp only [Option.map_some, beq_iff_eq]
    split <;> rfl

/-- A table that is made is found where no table was. -/
theorem relation?_snoc (r : Relation) :
    ({ d with relations := d.relations ++ [r] } : Database).relation? name =
      (d.relation? name).or (if r.name == name then some r else none) := by
  unfold relation?
  rw [List.find?_append, List.find?_singleton]

end Database

/-! ## Shapes -/

/-- A database without its rows. -/
structure Shape where
  /-- The tables with their columns. -/
  tables : List (String × List String)
  indexes : List String
  versions : List Int
  deriving DecidableEq, Repr

def Database.shape (d : Database) : Shape :=
  ⟨d.relations.map fun r => (r.name, r.columns), d.indexes, d.versions⟩

namespace Shape

/-- The columns of a table, if there is one of that name. -/
def columns? (s : Shape) (table : String) : Option (List String) :=
  (s.tables.find? (·.1 == table)).map (·.2)

/-- The version that has been reached. -/
def version (s : Shape) : Int :=
  s.versions.max?.getD 0

/-- What a statement makes of a shape. -/
def execute (s : Shape) : Statement → Except Fault Shape
  | .createTable name columns =>
    if (s.columns? name).isSome then .ok s
    else .ok { s with tables := s.tables ++ [(name, columns)] }
  | .createIndex name table =>
    if s.indexes.contains name then .ok s
    else if (s.columns? table).isSome then .ok { s with indexes := s.indexes ++ [name] }
    else .error (.noSuchTable ("main." ++ table))
  | .addColumn table column _ =>
    match s.columns? table with
    | none => .error (.noSuchTable table)
    | some columns =>
      if columns.contains column then .error (.duplicateColumn column)
      else .ok { s with tables := s.tables.map fun t =>
        if t.1 == table then (t.1, t.2 ++ [column]) else t }
  | .note version _ =>
    match s.columns? journal with
    | none => .error (.noSuchTable journal)
    | some _ =>
      if s.versions.contains version then .error .versionTaken
      else .ok { s with versions := s.versions ++ [version] }

/-- The shape after statements, one after the other up to the first that fails. -/
def executeAll (s : Shape) : List Statement → Shape × Except Fault Unit
  | [] => (s, .ok ())
  | x :: rest =>
    match s.execute x with
    | .error e => (s, .error e)
    | .ok s => s.executeAll rest

end Shape

/-! ### The shape of a database after statements -/

/-- Whether a statement leaves the columns of the journal as they are. -/
def Statement.sparesJournal : Statement → Bool
  | .addColumn table _ _ => table != journal
  | _ => true

namespace Database

variable {d : Database} {now : Timestamp} {x : Statement}

theorem columns?_shape (d : Database) (table : String) :
    d.shape.columns? table = (d.relation? table).map (·.columns) := by
  unfold Shape.columns? shape relation?
  rw [List.find?_map, Option.map_map]
  rfl

theorem versions_eq (d : Database) :
    d.versions = ((d.relation? journal).map fun r => r.rows.filterMap versionOf?).getD [] := by
  unfold versions
  cases d.relation? journal <;> rfl

/-- A table that is made has no rows, so nothing is noted down in it. -/
theorem versions_snoc (d : Database) (name : String) (columns : List String) :
    versions { d with relations := d.relations ++ [⟨name, columns, []⟩] } = d.versions := by
  rw [versions_eq, versions_eq, relation?_snoc]
  cases d.relation? journal with
  | some r => rfl
  | none =>
    rw [Option.none_or]
    split <;> rfl

theorem versions_alter_of_ne (hf : ∀ r, (f r).name = r.name) (hne : table ≠ journal) :
    (d.alter table f).versions = d.versions := by
  rw [versions_eq, relation?_alter hf, if_neg hne.symm, ← versions_eq]

/-- The shape of a database in which one table has been altered. -/
theorem shape_alter (d : Database) (table : String) (f : Relation → Relation)
    (hf : ∀ r, (f r).name = r.name) :
    (d.alter table f).shape =
      ⟨d.relations.map fun r => if r.name == table then (r.name, (f r).columns)
        else (r.name, r.columns), d.indexes, (d.alter table f).versions⟩ := by
  refine Shape.mk.injEq .. ▸ ⟨?_, rfl, rfl⟩
  unfold alter
  rw [List.map_map]
  refine List.map_congr_left fun r _ => ?_
  rw [Function.comp_apply]
  split
  · rw [hf]
  · rfl

/-- **What a statement makes of the shape** depends on the shape alone. -/
theorem shape_execute (d : Database) (now : Timestamp) (hx : x.sparesJournal = true) :
    (d.execute now x).map shape = d.shape.execute x := by
  cases x with
  | createTable name columns =>
    simp only [execute, Shape.execute, columns?_shape, Option.isSome_map]
    split
    · rfl
    · simp [Except.map, shape, versions_snoc]
  | createIndex name table =>
    simp only [execute, Shape.execute, columns?_shape, Option.isSome_map]
    show _ = if d.indexes.contains name then _ else _
    split
    · rfl
    · split <;> rfl
  | addColumn table column filling =>
    have hne : table ≠ journal := by simpa [Statement.sparesJournal] using hx
    simp only [execute, Shape.execute, columns?_shape]
    cases d.relation? table with
    | none => rfl
    | some r =>
      dsimp only [Option.map_some]
      split
      · rfl
      · refine congrArg Except.ok ?_
        rw [shape_alter, versions_alter_of_ne _ hne]
        · simp only [shape, List.map_map, Shape.mk.injEq, and_true]
          exact List.map_congr_left fun _ _ => rfl
        all_goals exact fun _ => rfl
  | note version description =>
    simp only [execute, Shape.execute, columns?_shape]
    cases hr : d.relation? journal with
    | none => rfl
    | some r =>
      dsimp only [Option.map_some]
      show _ = if d.versions.contains version then _ else _
      split
      · rfl
      · refine congrArg Except.ok ?_
        rw [shape_alter, versions_eq, relation?_alter, if_pos rfl, hr]
        · simp [shape, versionOf?, journalRow, versions_eq, hr]
        all_goals exact fun _ => rfl

/-- What statements one after the other make of the shape. -/
theorem shape_executeAll {xs : List Statement} (now : Timestamp)
    (hxs : ∀ x ∈ xs, x.sparesJournal = true) (d : Database) :
    ((d.executeAll now xs).1.shape, (d.executeAll now xs).2) = d.shape.executeAll xs := by
  induction xs generalizing d with
  | nil => rfl
  | cons x xs ih =>
    have hx := shape_execute d now (hxs x List.mem_cons_self)
    rw [executeAll, Shape.executeAll, ← hx]
    cases d.execute now x with
    | error e => rfl
    | ok d' => exact ih (fun y hy => hxs y (List.mem_cons_of_mem x hy)) d'

end Database

/-! ## What is there already -/

namespace Shape

variable {s s' : Shape} {x y : Statement}

/-- What a statement makes is there. -/
def IsThere (s : Shape) : Statement → Prop
  | .createTable name _ => (s.columns? name).isSome = true
  | .createIndex name _ => name ∈ s.indexes
  | .addColumn table column _ => ∃ columns, s.columns? table = some columns ∧ column ∈ columns
  | .note version _ => version ∈ s.versions

instance (s : Shape) (x : Statement) : Decidable (s.IsThere x) :=
  match x with
  | .createTable name _ => inferInstanceAs (Decidable ((s.columns? name).isSome = true))
  | .createIndex name _ => inferInstanceAs (Decidable (name ∈ s.indexes))
  | .addColumn table column _ =>
    decidable_of_iff (∃ columns ∈ s.columns? table, column ∈ columns) Iff.rfl
  | .note version _ => inferInstanceAs (Decidable (version ∈ s.versions))

/-- A shape that has become another: nothing of it is gone. -/
structure Within (s s' : Shape) : Prop where
  columns : ∀ {table columns}, s.columns? table = some columns →
    ∃ added, s'.columns? table = some (columns ++ added)
  indexes : s.indexes ⊆ s'.indexes
  versions : s.versions ⊆ s'.versions

@[refl]
theorem Within.refl (s : Shape) : s.Within s :=
  ⟨fun h => ⟨[], by rw [h, List.append_nil]⟩, List.Subset.refl _, List.Subset.refl _⟩

/-- Whatever is there stays there. -/
theorem Within.isThere (h : s.Within s') (hx : s.IsThere x) : s'.IsThere x := by
  cases x with
  | createTable name columns =>
    obtain ⟨columns, hcolumns⟩ := Option.isSome_iff_exists.mp hx
    obtain ⟨added, hadded⟩ := h.columns hcolumns
    exact Option.isSome_iff_exists.mpr ⟨_, hadded⟩
  | createIndex name table => exact h.indexes hx
  | addColumn table column filling =>
    obtain ⟨columns, hcolumns, hmem⟩ := hx
    obtain ⟨added, hadded⟩ := h.columns hcolumns
    exact ⟨_, hadded, List.mem_append_left _ hmem⟩
  | note version description => exact h.versions hx

/-- A table that is made is found where no table was. -/
theorem columns?_snoc (s : Shape) (name table : String) (columns : List String) :
    columns? { s with tables := s.tables ++ [(name, columns)] } table =
      (s.columns? table).or (if name = table then some columns else none) := by
  unfold columns?
  rw [List.find?_append, List.find?_singleton, Option.map_or]
  congr 1
  by_cases h : name = table <;> simp [h]

theorem columns?_addColumn (s : Shape) (name table column : String) :
    columns? { s with tables := s.tables.map fun t =>
      if t.1 == name then (t.1, t.2 ++ [column]) else t } table =
        (s.columns? table).map fun columns =>
          if table = name then columns ++ [column] else columns := by
  have hfound : ((s.tables.map fun t => if t.1 == name then (t.1, t.2 ++ [column]) else t).find?
      (·.1 == table)) = (s.tables.find? (·.1 == table)).map
        fun t => if t.1 == name then (t.1, t.2 ++ [column]) else t := by
    refine find?_map_of_key (fun t => ?_) s.tables table
    split <;> rfl
  unfold columns?
  rw [hfound, Option.map_map, Option.map_map]
  refine Option.map_congr fun t ht => ?_
  obtain rfl : t.1 = table := by simpa using List.find?_some ht
  simp only [Function.comp_apply, beq_iff_eq]
  split <;> rfl

/-- **What a statement makes is there afterwards**, and nothing else is gone. -/
theorem execute_eq_ok (h : s.execute x = .ok s') : s.Within s' ∧ s'.IsThere x := by
  cases x with
  | createTable name columns =>
    rw [execute] at h
    split at h
    · cases h
      exact ⟨Within.refl s, ‹_›⟩
    · cases h
      refine ⟨⟨fun h => ⟨[], ?_⟩, List.Subset.refl _, List.Subset.refl _⟩, ?_⟩
      · rw [columns?_snoc, h, List.append_nil, Option.some_or]
      · rw [IsThere, columns?_snoc, if_pos rfl, Option.isSome_or, Option.isSome_some, Bool.or_true]
  | createIndex name table =>
    rw [execute] at h
    split at h
    · cases h
      exact ⟨Within.refl s, List.contains_iff_mem.mp ‹_›⟩
    · split at h
      · cases h
        exact ⟨⟨fun h => ⟨[], by rw [List.append_nil]; exact h⟩, List.subset_append_left _ _,
          List.Subset.refl _⟩, List.mem_append_right _ List.mem_cons_self⟩
      · cases h
  | addColumn table column filling =>
    rw [execute] at h
    split at h
    · cases h
    · rename_i columns hcolumns
      split at h
      · cases h
      · cases h
        refine ⟨⟨fun {table' columns'} h => ⟨if table' = table then [column] else [], ?_⟩,
          List.Subset.refl _, List.Subset.refl _⟩, columns ++ [column], ?_, by simp⟩
        · rw [columns?_addColumn, h, Option.map_some]
          split <;> simp
        · rw [columns?_addColumn, hcolumns, Option.map_some, if_pos rfl]
  | note version description =>
    rw [execute] at h
    split at h
    · cases h
    · split at h
      · cases h
      · cases h
        exact ⟨⟨fun h => ⟨[], by rw [List.append_nil]; exact h⟩, List.Subset.refl _,
          List.subset_append_left _ _⟩, List.mem_append_right _ List.mem_cons_self⟩

/-- A column that is there is not added once more. -/
theorem execute_addColumn_of_isThere {table column : String} {filling : Cell}
    (h : s.IsThere (.addColumn table column filling)) :
    s.execute (.addColumn table column filling) = .error (.duplicateColumn column) := by
  obtain ⟨columns, hcolumns, hmem⟩ := h
  rw [execute, hcolumns]
  exact if_pos (List.contains_iff_mem.mpr hmem)

end Shape

end NetWatch.Schema
