import FlowRuns.Format
import FlowRuns.Program
import FlowRuns.Settings.Coercion
import FlowRuns.Settings.Environment

/-!
# Loading settings

Settings come from four layers, each above the one before:

* the defaults;
* a configuration file, the one that is asked for, or one in the usual place if there is one;
* environment variables;
* the two older variables.

A file that is asked for has to be there. What comes out has to pass `Settings.check`. Loading gives
up at a document that is hopeless, and at a value for an element of a sequence that can have no
place.
-/

namespace FlowRuns

/-- Where settings come from. -/
structure Surroundings where
  /-- the environment variables -/
  environment : Variables
  /-- the texts of the files that can be read -/
  files : String → Option String

namespace Surroundings

/-- The usual place of the configuration file, without its extension. -/
def usualPath : String := "config/dataflow"

/-- The file at a path, or at the path with an extension: its format and its text. A file at the
path itself has to have a known extension. -/
def locate? (sur : Surroundings) (path : String) : Option (FileFormat × String) :=
  match sur.files path with
  | some text => (FileFormat.ofPath? path).map fun f => (f, text)
  | none =>
    FileFormat.extensions.findSome? fun e =>
      (sur.files (path ++ "." ++ e.1)).map fun text => (e.2, text)

/-- A failure that comes from a fault in the configuration. -/
def faulty {α : Type} (fault : SettingsFault) : Except Failure α :=
  .error (.error (.configuration fault))

/-- The layer of a file. -/
def fileLayer (file : FileFormat × String) : Except Failure Layer :=
  match file.1.read file.2 with
  | .ok (.object es) => .ok (Layer.ofEntries es)
  | .ok _ => faulty .unreadable
  | .error .malformed => faulty .unreadable
  | .error .hopeless => .error .panic

/-- The layer of the file that is asked for, or of the one in the usual place. -/
def chosenLayer (sur : Surroundings) : Option String → Except Failure Layer
  | some path =>
    match sur.locate? path with
    | some file => fileLayer file
    | none => faulty .unreadable
  | none =>
    match sur.locate? usualPath with
    | some file => fileLayer file
    | none => .ok []

/-- What all layers but the defaults make together. -/
def layered (sur : Surroundings) (path : Option String) : Except Failure Json := do
  let file ← sur.chosenLayer path
  match Layer.stack? [file, sur.environment.environmentLayer, sur.environment.legacyLayer] with
  | some j => return j
  | none => throw .panic

/-- **The settings**, from a file that is asked for or from the usual place, and from the
environment. -/
def settings (sur : Surroundings) (path : Option String) : Except Failure Settings := do
  match Settings.decoder .coercing (← sur.layered path) with
  | .error _ => faulty .unreadable
  | .ok s =>
    match s.check with
    | .ok () => return s
    | .error fault => faulty fault

/-- Where the program runs. -/
def environmentName (sur : Surroundings) : String := sur.environment.environmentName

/-- What is reported of settings that were loaded. -/
def loaded (sur : Surroundings) (s : Settings) : Event :=
  .configurationLoaded sur.environmentName s.proxy.baseUrl s.runStats.historyLimit s.logs.pageSize

end Surroundings

end FlowRuns
