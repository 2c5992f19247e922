/-
NetWatch.Schema.Basic — a database whose tables are still being made, as the
statements of `run_migrations` find it.

Tables have named columns and rows of cells. A statement makes a table, makes
an index, adds a column to a table with a cell for every row that is there
already, or notes down that a version of the schema has been reached. Making
what is there already has no effect, but a column is never added twice. A
statement does all of what it says or, failing, nothing.
-/
import NetWatch.Time.Timestamp

namespace NetWatch.Schema

/-- What a row holds in a column. -/
inductive Cell where
  | null
  | integer (i : Int)
  /-- A double, by its bits. -/
  | real (bits : UInt64)
  | text (s : String)
  deriving DecidableEq, Repr

/-- The cells of a row, in the order of the columns. -/
abbrev Row := List Cell

/-- A table with its rows. -/
structure Relation where
  name : String
  columns : List String
  rows : List Row
  deriving DecidableEq, Repr

structure Database where
  relations : List Relation
  indexes : List String
  deriving DecidableEq, Repr

/-- Why a statement fails. -/
inductive Fault where
  | noSuchTable (table : String)
  | duplicateColumn (column : String)
  /-- The version has been noted down already. -/
  | versionTaken
  deriving DecidableEq, Repr

/-- The table in which versions are noted down. -/
def journal : String := "schema_migrations"

def Fault.message : Fault → String
  | .noSuchTable table => "SQLite failure: `no such table: " ++ table ++ "`"
  | .duplicateColumn column => "SQLite failure: `duplicate column name: " ++ column ++ "`"
  | .versionTaken => "SQLite failure: `UNIQUE constraint failed: " ++ journal ++ ".version`"

/-- One change of the schema. -/
inductive Statement where
  | createTable (name : String) (columns : List String)
  | createIndex (name table : String)
  | addColumn (table column : String) (filling : Cell)
  | note (version : Int) (description : String)
  deriving DecidableEq, Repr

namespace Database

def empty : Database :=
  ⟨[], []⟩

/-- The table of a name. -/
def relation? (d : Database) (name : String) : Option Relation :=
  d.relations.find? (·.name == name)

/-- Changes the table of a name. -/
def alter (d : Database) (name : String) (f : Relation → Relation) : Database :=
  { d with relations := d.relations.map fun r => if r.name == name then f r else r }

/-- The version that a row of the journal is about. -/
def versionOf? : Row → Option Int
  | .integer v :: _ => some v
  | _ => none

/-- The versions that have been noted down. -/
def versions (d : Database) : List Int :=
  match d.relation? journal with
  | some r => r.rows.filterMap versionOf?
  | none => []

/-- The version that has been reached (`get_current_version`): the greatest that was noted down, or
zero. -/
def version (d : Database) : Int :=
  d.versions.max?.getD 0

def journalRow (version : Int) (now : Timestamp) (description : String) : Row :=
  [.integer version, .integer now.toMillis, .text description]

def execute (d : Database) (now : Timestamp) : Statement → Except Fault Database
  | .createTable name columns =>
    if (d.relation? name).isSome then .ok d
    else .ok { d with relations := d.relations ++ [⟨name, columns, []⟩] }
  | .createIndex name table =>
    if d.indexes.contains name then .ok d
    else if (d.relation? table).isSome then .ok { d with indexes := d.indexes ++ [name] }
    else .error (.noSuchTable ("main." ++ table))
  | .addColumn table column filling =>
    match d.relation? table with
    | none => .error (.noSuchTable table)
    | some r =>
      if r.columns.contains column then .error (.duplicateColumn column)
      else .ok (d.alter table fun r =>
        { r with columns := r.columns ++ [column], rows := r.rows.map (· ++ [filling]) })
  | .note version description =>
    match d.relation? journal with
    | none => .error (.noSuchTable journal)
    | some _ =>
      if d.versions.contains version then .error .versionTaken
      else .ok (d.alter journal fun r =>
        { r with rows := r.rows ++ [journalRow version now description] })

/-- The database after statements, one after the other up to the first that fails
(`execute_all`). -/
def executeAll (d : Database) (now : Timestamp) : List Statement → Database × Except Fault Unit
  | [] => (d, .ok ())
  | s :: rest =>
    match d.execute now s with
    | .error e => (d, .error e)
    | .ok d => d.executeAll now rest

end Database

end NetWatch.Schema
