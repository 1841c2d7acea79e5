import FlowRuns.Text.PrintTable

/-!
# Quoted text for diagnostics

The form in which a text is shown inside a message: between double quotes, the quote and the
backslash escaped, tab, line feed, carriage return and the null character by their letters, and
every character that does not print, or that would join the one before it, by its code point.
-/

namespace FlowRuns.Text

/-- A code point in lower-case hexadecimal digits between braces. -/
def codePointEscape (c : Char) : List Char :=
  ['\\', 'u', '\x7b'] ++ Nat.toDigits 16 c.toNat ++ ['\x7d']

/-- One character as it stands inside the quotes. -/
def escapeChar (c : Char) : List Char :=
  match c with
  | '\x00' => ['\\', '0']
  | '\t' => ['\\', 't']
  | '\n' => ['\\', 'n']
  | '\r' => ['\\', 'r']
  | '"' => ['\\', '"']
  | '\\' => ['\\', '\\']
  | c =>
    if 0x20 ≤ c.toNat && c.toNat < 0x7f then [c]
    else if graphemeExtendRanges.contains c || unprintableRanges.contains c then codePointEscape c
    else [c]

/-- A text between quotes. -/
def quoted (s : String) : String := String.ofList ('"' :: s.toList.flatMap escapeChar ++ ['"'])

end FlowRuns.Text
