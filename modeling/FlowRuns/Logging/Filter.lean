import FlowRuns.Event
import FlowRuns.Text.Blank
import FlowRuns.Text.Case
import FlowRuns.Text.Form
import FlowRuns.Text.Numeral

/-!
# Filters for events

A filter is a list of directives, each of which says down to which level events are written: all
events, those of the places whose name begins in a certain way, or those with a certain named
value. Of the directives that concern an event the most special one decides.

* `LogDirective.ofText` — reads a directive `place[span{name=value}]=level`, of which most parts
  may be missing.
* `LogFilter.ofText?` — reads a filter, all of whose directives have to be well-formed.
* `LogFilter.ofTextLossy` — reads a filter and leaves out directives that are not, about which
  `LogFilter.complaints` has something to say.
* `LogFilter.admits` — whether an event is written.
-/

namespace FlowRuns

/-- One rule of a filter. -/
structure LogDirective where
  /-- how the places begin that it is about; none for all places -/
  target : Option String
  /-- whether it is about named spans of the work only; no event belongs to one -/
  spanOnly : Bool
  /-- the name of a value that an event has to have -/
  field : Option String
  /-- the last level that is written, none for no events -/
  level : Option Level
  deriving DecidableEq, Inhabited

/-- The rules of a filter. -/
abbrev LogFilter := List LogDirective

/-- Why a text is no directive. -/
inductive DirectiveError where
  /-- its parts are not in order -/
  | malformed
  /-- there is no such level -/
  | noLevel
  deriving DecidableEq, Inhabited

/-- What is said about a text that is no directive. -/
def DirectiveError.message : DirectiveError → String
  | malformed => "invalid filter directive"
  | noLevel =>
    "error parsing level filter: expected one of \"off\", \"error\", \"warn\", "
      ++ "\"info\", \"debug\", \"trace\", or a number 0-5"

namespace LogDirective

/-- The names of the levels down to which events are written. -/
def levelNames : List (String × Option Level) :=
  [("off", none), ("error", some .error), ("warn", some .warn), ("info", some .info),
   ("debug", some .debug), ("trace", some .trace)]

/-- The levels by number, from no events on. -/
def levelsByNumber : List (Option Level) := none :: Level.all.map some

/-- The number that a text writes, without a minus sign. -/
def levelNumber? (s : List Char) : Option Nat :=
  match s with
  | '+' :: digits => Text.natOfDigits? digits
  | digits => Text.natOfDigits? digits

/-- The level that a name, in any letter case, or a number stands for. -/
def level? (s : List Char) : Option (Option Level) :=
  match levelNumber? s with
  | some n => levelsByNumber[n]?
  | none => levelNames.lookup (Text.lowerAscii (String.ofList s))

/-- Whether a directive may begin with a character. -/
def mayBegin (c : Char) : Bool :=
  c.isAlphanum || c = '-' || c = ':' || c = '_' || 0x80 ≤ c.toNat

/-- The level after an equals sign; nothing there stands for the last level. -/
def levelAfter (s : List Char) : Except DirectiveError (Option Level) :=
  if s.isEmpty then .ok (some .trace)
  else
    match level? s with
    | some l => .ok l
    | none => .error .noLevel

/-- The rest of a directive after a bracket, at the place `n`. What is left to read is `bare`, the
text without blanks at its ends; `s` is the text with them, of which the level is a part. -/
def afterBracket (d : LogDirective) (s bare : List Char) (n : Nat) :
    Except DirectiveError LogDirective :=
  match bare.drop n with
  | [] => .ok d
  | '=' :: _ => (levelAfter (s.drop (n + 1))).map fun l => { d with level := l }
  | _ => .error .malformed

/-- The rest of a directive that opens a bracket at the place `n`: the name of a span, in braces
the name of a value and possibly the value, and the rest after the closing bracket. -/
def bracketed (target : Option String) (s bare : List Char) (n : Nat) :
    Except DirectiveError LogDirective :=
  let span := (bare.drop (n + 1)).takeWhile fun c => c ≠ ']' && c ≠ '\x7b'
  let inner := n + 1 + span.length
  match bare.drop inner with
  | ']' :: _ => afterBracket ⟨target, true, none, some .trace⟩ s bare (inner + 1)
  | '\x7b' :: more =>
    let n := (more.takeWhile (· ≠ '\x7d')).length
    let field := (s.drop (inner + 1)).take n
    let name := field.takeWhile (· ≠ '=')
    match more.drop n with
    | '\x7d' :: ']' :: _ =>
      if n = 0 then .error .malformed
      else
        afterBracket
          ⟨target, !span.isEmpty || field.contains '=', some (String.ofList name), some .trace⟩
          s bare (inner + n + 3)
    | _ => .error .malformed
  | _ => .error .malformed

/-- **The directive** that a text writes. Where its parts are is counted without the blanks at its
ends, but the parts are taken from the text with them. -/
def ofText (s : List Char) : Except DirectiveError LogDirective :=
  let bare := Text.trimChars s
  match bare with
  | [] => .error .malformed
  | '[' :: _ => bracketed none s bare 0
  | first :: _ =>
    if !mayBegin first then .error .malformed
    else
      let n := (bare.takeWhile fun c => c ≠ '=' && c ≠ '[').length
      let target := some (String.ofList (s.take n))
      match bare.drop n with
      | '=' :: _ => (levelAfter (s.drop (n + 1))).map fun l => ⟨target, false, none, l⟩
      | '[' :: _ => bracketed target s bare n
      | _ =>
        match level? s with
        | some l => .ok ⟨none, false, none, l⟩
        | none => .ok ⟨some (String.ofList s), false, none, some .trace⟩

/-- Whether a directive is about an event. -/
def concerns (d : LogDirective) (e : Event) : Bool :=
  !d.spanOnly && (d.target.all fun t => t.toList.isPrefixOf e.target.toList)
    && d.field.all e.names.contains

/-- How much of a place's name a directive fixes. -/
def weight (d : LogDirective) : Nat := (d.target.map fun t => t.utf8ByteSize + 1).getD 0

/-- Whether a directive is less special than another one that concerns the same event: it fixes
less of the place, or as much and no value, or the value whose name comes first. -/
def lessSpecial (a b : LogDirective) : Bool :=
  a.weight < b.weight || (a.weight = b.weight &&
    match a.field, b.field with
    | some s, some t => s < t
    | none, some _ => true
    | _, none => false)

end LogDirective

namespace LogFilter

/-- The filter that lets no event pass. -/
def silent : LogFilter := [⟨none, false, none, none⟩]

/-- The filter that lets errors pass. -/
def errorsOnly : LogFilter := [⟨none, false, none, some .error⟩]

/-- The texts of directives, which stand between commas. -/
def parts (s : String) : List (List Char) :=
  (Text.Form.parts ',' s.toList).filter fun p => !p.isEmpty

/-- The filter that a text writes; without directives no event passes. -/
def ofText? (s : String) : Option LogFilter :=
  match (parts s).mapM LogDirective.ofText with
  | .ok [] => some silent
  | .ok ds => some ds
  | .error _ => none

/-- The filter that a text writes, as far as it can be read; without directives errors pass. -/
def ofTextLossy (s : String) : LogFilter :=
  match (parts s).filterMap fun p => (LogDirective.ofText p).toOption with
  | [] => errorsOnly
  | ds => ds

/-- What is said about the parts of a filter that cannot be read. -/
def complaints (s : String) : List String :=
  (parts s).filterMap fun p =>
    match LogDirective.ofText p with
    | .ok _ => none
    | .error e => some ("ignoring \x60" ++ String.ofList p ++ "\x60: " ++ e.message)

/-- The directive that decides about an event: the most special one, of equally special ones the
last. -/
def decisive? (f : LogFilter) (e : Event) : Option LogDirective :=
  (f.filter fun d => d.concerns e).foldl
    (fun best d => match best with
      | some b => if d.lessSpecial b then some b else some d
      | none => some d)
    none

/-- Whether an event is written. -/
def admits (f : LogFilter) (e : Event) : Bool :=
  match (f.decisive? e).bind LogDirective.level with
  | some l => e.level.rank ≤ l.rank
  | none => false

end LogFilter

end FlowRuns
