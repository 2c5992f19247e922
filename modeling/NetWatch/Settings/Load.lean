/-
NetWatch.Settings.Load — settings that are kept in a file (`from_config`,
`write_config`).

Settings are read from a file with the ending `toml`. If the file is not there
it is written with the defaults first, along with the folders that lead to it.
-/
import NetWatch.Settings.Document
import NetWatch.Settings.Folder

namespace NetWatch

/-- Why settings could not be loaded or saved (`ConfigError`). -/
inductive LoadError where
  | unreadable
  | unwritable
  /-- The document is malformed or holds values that are no settings. -/
  | malformed
  /-- A number is too large to be written. -/
  | inexpressible
  /-- There is no place for settings. -/
  | nowhere
  | refused (fault : SettingsFault)
  deriving DecidableEq, Repr

def LoadError.message : LoadError → String
  | .unreadable => "failed to read the config file"
  | .unwritable => "failed to write the config file"
  | .malformed => "failed to parse the config file"
  | .inexpressible => "failed to serialize the config"
  | .nowhere => "no place for a config file"
  | .refused fault => fault.message

namespace Settings

/-- Where settings are kept if nothing else is said (`default_config_path`): in the folder for
settings of all programs, or in the one that is usual below the home of the user. -/
def usualPath (configHome home : Option (List String)) : Option (List String) :=
  match configHome, home with
  | some path, _ => some (path ++ ["pulse", "config.toml"])
  | none, some path => some (path ++ [".config", "pulse", "config.toml"])
  | none, none => none

/-- Saves settings to a file (`write_config`); what was done before it failed stays done. -/
def save (s : Settings) (t : FolderTree) (steps : List String) :
    FolderTree × Except LoadError Unit :=
  match s.toToml? with
  | none => (t, .error .inexpressible)
  | some text =>
    match t.makeFolders [] steps.dropLast with
    | (t, false) => (t, .error .unwritable)
    | (t, true) =>
      match t.write steps text with
      | none => (t, .error .unwritable)
      | some t => (t, .ok ())

/-- Settings once they have been found in bounds. -/
def checked (s : Settings) : Except LoadError Settings :=
  match s.validate with
  | .ok _ => .ok s
  | .error fault => .error (.refused fault)

def ofItem : Item → Except LoadError Settings
  | .folder => .error .unreadable
  | .bytes => .error .unreadable
  | .text s =>
    match ofToml? s with
    | none => .error .malformed
    | some s => s.checked

/-- Loads settings from a file, writing the defaults to it if it is not there. -/
def loadFrom (t : FolderTree) (steps : List String) : FolderTree × Except LoadError Settings :=
  match t.at? steps with
  | some (_, item) => (t, ofItem item)
  | none =>
    match usual.save t steps with
    | (t, .error e) => (t, .error e)
    | (t, .ok _) => (t, usual.checked)

/-- Where settings are looked for: at a path as given, or at the usual one. -/
def place? (path : Option (List String)) (configHome home : Option (List String)) :
    Option (List String) :=
  match path with
  | some steps => some (Path.toml steps)
  | none => usualPath configHome home

/-- Loads settings from a path as given, or from the usual one (`from_config`). -/
def load (t : FolderTree) (path : Option (List String)) (configHome home : Option (List String)) :
    FolderTree × Except LoadError Settings :=
  match place? path configHome home with
  | some steps => loadFrom t steps
  | none => (t, .error .nowhere)

end Settings

end NetWatch
