/-
NetWatch.CommandLine — what can be asked for when the program is started
(`Cli`).

Options stand in any order, and of one that is given twice the last counts. An
option with a value has it in the next word, or behind an equals sign in its
own.
-/
import NetWatch.Settings.Basic

namespace NetWatch

/-- What the program was asked for. -/
structure CommandLine where
  /-- The file that the settings are in, if not the usual one. -/
  config : Option String
  /-- The place of the data, instead of the one in the settings. -/
  database : Option String
  /-- Whether only the settings are to be shown. -/
  printConfig : Bool
  verbose : Bool
  help : Bool
  deriving DecidableEq, Repr

/-- What is wrong with the words that the program was started with. -/
inductive UsageFault where
  | unknown (word : String)
  | noValue (option : String)
  deriving DecidableEq, Repr

def UsageFault.message : UsageFault → String
  | .unknown word => "unexpected argument '" ++ word ++ "'"
  | .noValue option => "a value is required for '" ++ option ++ "'"

namespace CommandLine

/-- Nothing in particular. -/
def plain : CommandLine :=
  ⟨none, none, false, false, false⟩

/-- Sets the value of an option that has one; `none` if there is no such option. -/
def withValue? (c : CommandLine) (option value : String) : Option CommandLine :=
  if option = "-c" ∨ option = "--config" then some { c with config := some value }
  else if option = "--database" then some { c with database := some value }
  else none

/-- Sets an option that has no value; `none` if there is no such option. -/
def withFlag? (c : CommandLine) (option : String) : Option CommandLine :=
  if option = "--print-config" then some { c with printConfig := true }
  else if option = "-v" ∨ option = "--verbose" then some { c with verbose := true }
  else if option = "-h" ∨ option = "--help" then some { c with help := true }
  else none

/-- The parts of a word before and behind its first equals sign. -/
def splitAtEquals (word : String) : Option (String × String) :=
  match word.toList.dropWhile (· ≠ '=') with
  | [] => none
  | _ :: value => some (String.ofList (word.toList.takeWhile (· ≠ '=')), String.ofList value)

/-- Takes in a word that says all on its own. -/
def single (c : CommandLine) (word : String) : Except UsageFault CommandLine :=
  match c.withFlag? word with
  | some c => .ok c
  | none =>
    match (splitAtEquals word).bind fun r => c.withValue? r.1 r.2 with
    | some c => .ok c
    | none => .error (if (c.withValue? word "").isSome then .noValue word else .unknown word)

/-- Takes in the words that the program was started with. -/
def parse (c : CommandLine) : List String → Except UsageFault CommandLine
  | [] => .ok c
  | [word] => c.single word
  | word :: value :: rest =>
    match c.withValue? word value with
    | some c => c.parse rest
    | none =>
      match c.single word with
      | .ok c => c.parse (value :: rest)
      | .error fault => .error fault

def settings (c : CommandLine) (s : Settings) : Settings :=
  match c.database with
  | some path => { s with database := { s.database with path := path } }
  | none => s

/-- How the program is used. -/
def usage : String :=
  "Network monitoring core: scheduled probes, alerting and notifications\n\n" ++
  "Usage: pulse [OPTIONS]\n\n" ++
  "Options:\n" ++
  "  -c, --config <CONFIG>      Config file (defaults to $XDG_CONFIG_HOME/pulse/config.toml)\n" ++
  "      --database <DATABASE>  Database file, overriding `database.path` from the config\n" ++
  "      --print-config         Print the effective configuration and exit\n" ++
  "  -v, --verbose              Log at debug level\n" ++
  "  -h, --help                 Print help\n"

end CommandLine

end NetWatch
