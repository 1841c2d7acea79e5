import FlowRuns.Status
import FlowRuns.Text.Numeral

/-!
# The command line

`dataflow-stats [--config FILE] COMMAND`, where the command is `compute`, `sync`, `logs` or `help`
and has options of its own.

* Words are read from left to right; the first fault, or the first call for help or for the version,
  ends the reading.
* The value of an option is the next word, or stands after an equals sign. A next word that begins
  with a hyphen is no value, unless it is nothing but a hyphen.
* An option is given at most once, unless it is one of several values.
-/

namespace FlowRuns.Cli

/-! ## What is asked for -/

/-- What is to be done. -/
inductive Command where
  /-- statistics are computed and stored -/
  | compute (deploymentId : String) (limit : Option UInt32) (statuses : List Status)
  /-- flow runs are copied into the history -/
  | sync (deploymentId : String) (limit : Option UInt32)
  /-- the lines of a log are printed -/
  | logs (flowRunId : String) (taskRunId : Option String) (pageSize : Option UInt32)
  deriving DecidableEq, Inhabited

/-- A command, and the configuration file it is to use. -/
structure Invocation where
  /-- the file that is asked for -/
  config : Option String
  /-- what is to be done -/
  command : Command
  deriving DecidableEq, Inhabited

/-- Why nothing is to be done. -/
inductive Stop where
  /-- help is asked for -/
  | help
  /-- the version is asked for -/
  | version
  /-- the words make no command -/
  | misuse
  deriving DecidableEq, Inhabited

/-! ## Options -/

/-- An option with a value. -/
structure Opt where
  /-- its name -/
  name : String
  /-- its letter, if it has one -/
  letter : Option Char
  /-- whether it may be given more than once -/
  repeats : Bool
  /-- whether a text is a value of it -/
  accepts : String → Bool

/-- The values that were given, in order. -/
abbrev Given := List (String × String)

namespace Given

/-- The last value of an option. -/
def value? (g : Given) (name : String) : Option String := g.lookup name

/-- All values of an option. -/
def values (g : Given) (name : String) : List String :=
  (g.filter fun e => e.1 = name).map Prod.snd

end Given

/-- One more value of an option. -/
def Opt.give (o : Opt) (value : String) (g : Given) : Except Stop Given :=
  if (!o.repeats && (g.value? o.name).isSome) || !o.accepts value then .error .misuse
  else .ok (g ++ [(o.name, value)])

/-- A number of 32 bits. -/
def number? (s : String) : Option UInt32 :=
  (Text.int64Of? s).bind fun i =>
    if 0 ≤ i ∧ i < UInt32.size then some (UInt32.ofNat i.toNat) else none

/-- A state. -/
def status? (s : String) : Option Status := (Status.parse s).toOption

/-- An option whose value is any text. -/
def Opt.text (name : String) : Opt := ⟨name, none, false, fun _ => true⟩

/-- An option whose value is a number. -/
def Opt.number (name : String) : Opt := ⟨name, none, false, fun s => (number? s).isSome⟩

/-- The option that names the configuration file. -/
def Opt.config : Opt := ⟨"config", some 'c', false, fun s => !s.isEmpty⟩

/-- The option that names a state. -/
def Opt.status : Opt := ⟨"status", none, true, fun s => (status? s).isSome⟩

/-! ## Words -/

/-- What a word is. -/
inductive Word where
  /-- a word of its own -/
  | plain
  /-- the mark after which there are no options -/
  | mark
  /-- the name of an option, and its value if it is attached -/
  | long (name : String) (value : Option String)
  /-- a letter of an option, and what is attached -/
  | short (letter : Char) (attached : List Char)
  deriving DecidableEq, Inhabited

/-- What a word is. -/
def Word.ofText (s : String) : Word :=
  match s.toList with
  | ['-', '-'] => mark
  | '-' :: '-' :: rest =>
    let name := rest.takeWhile (· ≠ '=')
    long (String.ofList name)
      (if name.length < rest.length then some (String.ofList (rest.drop (name.length + 1)))
        else none)
  | '-' :: letter :: attached => short letter attached
  | _ => plain

/-- What can be given before or after a command. -/
structure Grammar where
  /-- the options -/
  opts : List Opt
  /-- whether the version can be asked for -/
  hasVersion : Bool

/-- The option of a name, or the reason why there is none. -/
def Grammar.long (g : Grammar) (name : String) (value : Option String) : Except Stop Opt :=
  if name = "help" then .error (if value.isNone then .help else .misuse)
  else if g.hasVersion && name = "version" then
    .error (if value.isNone then .version else .misuse)
  else
    match g.opts.find? fun o => o.name = name with
    | some o => .ok o
    | none => .error .misuse

/-- The option of a letter, or the reason why there is none. -/
def Grammar.short (g : Grammar) (letter : Char) : Except Stop Opt :=
  if letter = 'h' then .error .help
  else if g.hasVersion && letter = 'V' then .error .version
  else
    match g.opts.find? fun o => o.letter = some letter with
    | some o => .ok o
    | none => .error .misuse

/-- The value that is attached to a letter. -/
def attachedValue : List Char → Option String
  | [] => none
  | '=' :: rest => some (String.ofList rest)
  | cs => some (String.ofList cs)

/-- Reads options up to the first word that is none; gives the values and the words left. -/
def Grammar.read (g : Grammar) (given : Given) : List String → Except Stop (Given × List String)
  | [] => .ok (given, [])
  | word :: rest =>
    let found : Option (Except Stop Opt × Option String) := match Word.ofText word with
      | .plain => none
      | .mark => some (.error .misuse, none)
      | .long name value => some (g.long name value, value)
      | .short letter attached => some (g.short letter, attachedValue attached)
    match found with
    | none => .ok (given, word :: rest)
    | some (.error stop, _) =>
      if Word.ofText word = .mark && rest.isEmpty then .ok (given, []) else .error stop
    | some (.ok o, some value) => do g.read (← o.give value given) rest
    | some (.ok o, none) =>
      match rest with
      | [] => .error .misuse
      | value :: rest =>
        if Word.ofText value = .plain then do g.read (← o.give value given) rest
        else .error .misuse

/-! ## Commands -/

/-- The value of an option that has to be given. -/
def Given.required (g : Given) (name : String) : Except Stop String :=
  match g.value? name with
  | some s => .ok s
  | none => .error .misuse

/-- The number that an option gives. -/
def Given.number? (g : Given) (name : String) : Option UInt32 := (g.value? name).bind Cli.number?

/-- Reads the options of a command; nothing else may be there. -/
def ownOptions (opts : List Opt) (words : List String) : Except Stop Given := do
  let (given, rest) ← Grammar.read ⟨opts, false⟩ [] words
  if rest.isEmpty then return given else throw .misuse

/-- The names of the commands. -/
def commandNames : List String := ["compute", "sync", "logs", "help"]

/-- What is asked for by `help` and the words after it. -/
def helpOn : List String → Stop
  | [] => .help
  | [name] => if commandNames.contains name then .help else .misuse
  | _ => .misuse

/-- Reads a command. -/
def readCommand : List String → Except Stop Command
  | "compute" :: words => do
    let g ← ownOptions [.text "deployment-id", .number "limit", .status] words
    return .compute (← g.required "deployment-id") (g.number? "limit")
      ((g.values "status").filterMap status?)
  | "sync" :: words => do
    let g ← ownOptions [.text "deployment-id", .number "limit"] words
    return .sync (← g.required "deployment-id") (g.number? "limit")
  | "logs" :: words => do
    let g ← ownOptions [.text "flow-run-id", .text "task-run-id", .number "page-size"] words
    return .logs (← g.required "flow-run-id") (g.value? "task-run-id") (g.number? "page-size")
  | "help" :: words => .error (helpOn words)
  | _ => .error .misuse

/-- **Reads** the words of a command line. -/
def Invocation.ofWords (words : List String) : Except Stop Invocation := do
  let (given, rest) ← Grammar.read ⟨[.config], true⟩ [] words
  return ⟨given.value? "config", ← readCommand rest⟩

end FlowRuns.Cli
