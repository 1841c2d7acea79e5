import FlowRuns.Json.Number

/-!
# Writing JSON text

The compact form: no blanks, objects by ascending key, numbers with the fewest digits that read
back. A floating-point number that is not finite is written `null`.
-/

namespace FlowRuns.Json

/-- One character inside a quoted text. Only quotes, backslashes and control characters are
escaped. -/
def escaped (c : Char) : List Char :=
  match c with
  | '"' => ['\\', '"']
  | '\\' => ['\\', '\\']
  | '\x08' => ['\\', 'b']
  | '\x0c' => ['\\', 'f']
  | '\n' => ['\\', 'n']
  | '\r' => ['\\', 'r']
  | '\t' => ['\\', 't']
  | c =>
    if c.toNat < 0x20 then
      ['\\', 'u', '0', '0', if c.toNat < 0x10 then '0' else '1'] ++ Nat.toDigits 16 (c.toNat % 16)
    else [c]

/-- A quoted text. -/
def stringText (s : String) : String :=
  String.ofList ('"' :: s.toList.flatMap escaped ++ ['"'])

/-- The text of a floating-point number. -/
def floatText : Binary64 → String
  | .finite s m => DecimalStyle.compact.text (.finite s m)
  | _ => "null"

mutual

/-- The compact text of a value. -/
def text : Json → String
  | null => "null"
  | bool b => if b then "true" else "false"
  | int i => toString i
  | float x => floatText x
  | string s => stringText s
  | array es => "[" ++ elementsText es ++ "]"
  | object es => "\x7b" ++ entriesText es ++ "\x7d"

/-- The texts of elements, joined by commas. -/
def elementsText : List Json → String
  | [] => ""
  | [e] => text e
  | e :: es => text e ++ "," ++ elementsText es

/-- The texts of entries, joined by commas. -/
def entriesText : List (String × Json) → String
  | [] => ""
  | [(k, v)] => stringText k ++ ":" ++ text v
  | (k, v) :: es => stringText k ++ ":" ++ text v ++ "," ++ entriesText es

end

end FlowRuns.Json
