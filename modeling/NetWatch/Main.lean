/-
NetWatch.Main — the program (`main`).

It loads the settings, writing the defaults to their file if there is none, and
shows them if it was asked to. The part of the file system that matters is read
into a folder tree, the settings are loaded from there, and what is new in the
tree afterwards is written out.
-/
import NetWatch.CommandLine
import NetWatch.Settings.Load

namespace NetWatch

def Place.path (p : Place) : String :=
  "/" ++ "/".intercalate p

def Place.look (p : Place) : IO (Option Item) := do
  try
    let found ← IO.FS.realPath p.path
    if ← found.isDir then return some .folder
    let bytes ← IO.FS.readBinFile found
    return some ((String.fromUTF8? bytes).elim .bytes .text)
  catch _ => return none

/-- What is at some places. -/
def FolderTree.look (ps : List Place) : IO FolderTree := do
  let found ← ps.mapM fun p => return (← Place.look p).map (p, ·)
  return ⟨found.filterMap id⟩

/-- Makes an item that is new. -/
def Item.make (p : Place) : Item → IO Unit
  | .folder => IO.FS.createDir p.path
  | .text s => IO.FS.writeFile p.path s
  | .bytes => return ()

/-- The steps from the root to a path, which may start where the program was started. -/
def stepsFromRoot (path : String) : IO (List String) := do
  if path.startsWith "/" then return Path.steps path
  else return Path.steps (← IO.currentDir).toString ++ Path.steps path

/-- The steps to the folder that a variable of the environment names. -/
def stepsOfVariable (name : String) : IO (Option (List String)) := do
  match ← IO.getEnv name with
  | some path => return some (← stepsFromRoot path)
  | none => return none

/-- The settings, from a file or by default. -/
def loadSettings (config : Option String) : IO (Except LoadError Settings) := do
  let path ← config.mapM stepsFromRoot
  let configHome ← stepsOfVariable "XDG_CONFIG_HOME"
  let home ← stepsOfVariable "HOME"
  let places := Path.through [] ((Settings.place? path configHome home).getD [])
  let before ← FolderTree.look places
  let (after, result) := Settings.load before path configHome home
  try
    for (place, item) in after.items do
      if before.item? place ≠ some item then item.make place
    return result
  catch _ => return .error .unwritable

/-- Does what it was asked for and gives back whether that went well. -/
def CommandLine.follow (c : CommandLine) : IO UInt32 := do
  if c.help then
    IO.print CommandLine.usage
    return 0
  match ← loadSettings c.config with
  | .error e =>
    IO.eprintln ("Error: load config: " ++ e.message)
    return 1
  | .ok s =>
    if c.printConfig then IO.print (c.settings s).display
    return 0

end NetWatch

/-- Starts the program. -/
def main (args : List String) : IO UInt32 := do
  match NetWatch.CommandLine.plain.parse args with
  | .error fault =>
    IO.eprintln ("error: " ++ fault.message)
    return 2
  | .ok c => c.follow
