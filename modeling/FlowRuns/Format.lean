import FlowRuns.Format.Ini
import FlowRuns.Format.Json5
import FlowRuns.Format.Ron
import FlowRuns.Format.Toml.Document
import FlowRuns.Format.Yaml.Document
import FlowRuns.Json.Parser

/-!
# Formats of configuration files

A file's format is known by its extension. Whatever the format, the content is read as a JSON value
whose integers fit 64 bits with sign; greater ones are floating-point numbers.
-/

namespace FlowRuns

/-- The formats of configuration files. -/
inductive FileFormat where
  /-- TOML -/
  | toml
  /-- JSON -/
  | json
  /-- YAML -/
  | yaml
  /-- INI -/
  | ini
  /-- RON -/
  | ron
  /-- JSON5 -/
  | json5
  deriving DecidableEq, Inhabited

namespace FileFormat

/-- The extensions, in the order in which files are looked for. -/
def extensions : List (String × FileFormat) :=
  [("toml", toml), ("json", json), ("yaml", yaml), ("yml", yaml), ("ini", ini), ("ron", ron),
   ("json5", json5)]

mutual

/-- A value whose integers fit 64 bits with sign. -/
def narrowed : Json → Json
  | .int i => if i ≤ Int64.maxValue.toInt then .int i else .float (.ofInt i)
  | .array es => .array (narrowedElements es)
  | .object es => .object (narrowedEntries es)
  | j => j

/-- The same for elements. -/
def narrowedElements : List Json → List Json
  | [] => []
  | e :: es => narrowed e :: narrowedElements es

/-- The same for entries. -/
def narrowedEntries : List (String × Json) → List (String × Json)
  | [] => []
  | (k, v) :: es => (k, narrowed v) :: narrowedEntries es

end

/-- The value of a content. -/
def read : FileFormat → String → Except Refusal Json
  | toml, s => Refusal.unless (Toml.ofText? s)
  | json, s => Refusal.unless ((Json.ofText? s).map narrowed)
  | yaml, s => Yaml.ofText s
  | ini, s => Refusal.unless (Ini.ofText? s)
  | ron, s => Refusal.unless (Ron.ofText? s)
  | json5, s => Refusal.unless (Json5.ofText? s)

/-- The name at the end of a path. -/
def fileName (path : String) : List Char := (path.toList.reverse.takeWhile (· ≠ '/')).reverse

/-- The extension of a path: what follows the last point of the name, unless the name begins
there. -/
def extension? (path : String) : Option String :=
  let name := fileName path
  let last := (name.reverse.takeWhile (· ≠ '.')).reverse
  if last.length + 1 < name.length then some (String.ofList last) else none

/-- The format of a path. -/
def ofPath? (path : String) : Option FileFormat := extension? path >>= fun e => extensions.lookup e

end FileFormat

end FlowRuns
