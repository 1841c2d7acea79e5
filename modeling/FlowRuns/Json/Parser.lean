import FlowRuns.Json.Number
import FlowRuns.Text.Utf8

/-!
# Reading JSON text

A strict reader: one value, blanks around its parts, nothing else; no comments, no trailing commas,
no lone surrogates, at most 127 sequences and objects inside one another. Each function returns
what it read together with what is left, and that is shorter than what it was given, which is why
the reader ends.
-/

namespace FlowRuns.Json

/-- What is left of a text after something was read from it. -/
abbrev Rest (s : List Char) := { r : List Char // r.length < s.length }

/-- What is left is left of the longer text too. -/
def Rest.widen {r s : List Char} (h : r.length ≤ s.length) (rest : Rest r) : Rest s :=
  ⟨rest.1, Nat.lt_of_lt_of_le rest.2 h⟩

/-- What is left after the first character. -/
def Rest.tail (c : Char) (r : List Char) : Rest (c :: r) := ⟨r, Nat.lt_succ_self _⟩

/-- What is left of what is left. -/
def Rest.deeper {s : List Char} (rest : Rest s) (next : Rest rest.1) : Rest s :=
  ⟨next.1, Nat.lt_trans next.2 rest.2⟩

/-! ## Blanks -/

/-- The four characters that may stand between the parts of a value. -/
def isSpace (c : Char) : Bool := c = ' ' || c = '\n' || c = '\t' || c = '\r'

/-- The text from the first character that is no blank. -/
def skip (s : List Char) : List Char := s.dropWhile isSpace

theorem length_skip_le (s : List Char) : (skip s).length ≤ s.length := by
  unfold skip
  induction s with
  | nil => simp
  | cons c r ih =>
    by_cases h : isSpace c = true
    · simp only [List.dropWhile_cons, h, if_true, List.length_cons]; omega
    · simp [h]

/-! ## Texts -/

/-- The value of a hexadecimal digit. -/
def hexDigit? (c : Char) : Option Nat :=
  if '0' ≤ c && c ≤ '9' then some (c.toNat - 48)
  else if 'a' ≤ c && c ≤ 'f' then some (c.toNat - 87)
  else if 'A' ≤ c && c ≤ 'F' then some (c.toNat - 55)
  else none

/-- The value of four hexadecimal digits. -/
def hexUnit? (a b c d : Char) : Option Nat := do
  let a ← hexDigit? a
  let b ← hexDigit? b
  let c ← hexDigit? c
  let d ← hexDigit? d
  some (((a * 16 + b) * 16 + c) * 16 + d)

/-- Whether a 16-bit unit opens a surrogate pair. -/
def isHighSurrogate (n : Nat) : Bool := 0xD800 ≤ n && n ≤ 0xDBFF

/-- Whether a 16-bit unit closes a surrogate pair. -/
def isLowSurrogate (n : Nat) : Bool := 0xDC00 ≤ n && n ≤ 0xDFFF

/-- The character after a backslash. -/
def escape? (s : List Char) : Option (Char × Rest s) :=
  match s with
  | 'u' :: a :: b :: c :: d :: r =>
    match hexUnit? a b c d with
    | none => none
    | some high =>
      if isLowSurrogate high then none
      else if isHighSurrogate high then
        match r with
        | '\\' :: 'u' :: e :: f :: g :: h :: r' =>
          match hexUnit? e f g h with
          | none => none
          | some low =>
            if isLowSurrogate low then
              some (Char.ofNat ((high - 0xD800) * 0x400 + (low - 0xDC00) + 0x10000),
                ⟨r', by simp only [List.length_cons]; omega⟩)
            else none
        | _ => none
      else some (Char.ofNat high, ⟨r, by simp only [List.length_cons]; omega⟩)
  | c :: r =>
    let read? : Option Char := match c with
      | '"' => some '"'
      | '\\' => some '\\'
      | '/' => some '/'
      | 'b' => some '\x08'
      | 'f' => some '\x0c'
      | 'n' => some '\n'
      | 'r' => some '\r'
      | 't' => some '\t'
      | _ => none
    read?.map fun e => (e, Rest.tail c r)
  | [] => none

/-- The characters up to the closing quote. -/
def characters (s : List Char) : Option (List Char × Rest s) :=
  match s with
  | [] => none
  | c :: r =>
    if c = '"' then some ([], Rest.tail c r)
    else if c = '\\' then
      match escape? r with
      | none => none
      | some (e, r') =>
        match characters r'.1 with
        | none => none
        | some (more, r'') => some (e :: more, ((Rest.tail c r).deeper r').deeper r'')
    else if c.toNat < 0x20 then none
    else
      match characters r with
      | none => none
      | some (more, r') => some (c :: more, (Rest.tail c r).deeper r')
termination_by s.length
decreasing_by
  · exact ((Rest.tail c r).deeper r').2
  · exact (Rest.tail c r).2

/-! ## Numbers -/

/-- The digits that a text begins with, and what follows them. -/
def digitsOf (s : List Char) : List Nat × List Char :=
  let digits := s.takeWhile Char.isDigit
  (digits.map fun c => c.toNat - 48, s.drop digits.length)

/-- A fraction, if a point comes next: at least one digit. -/
def fractionText (s : List Char) : Option (Option (List Nat) × List Char) :=
  match s with
  | '.' :: r =>
    let (digits, rest) := digitsOf r
    if digits.isEmpty then none else some (some digits, rest)
  | _ => some (none, s)

/-- An exponent, if its letter comes next: a sign or none, and at least one digit. -/
def exponentText (s : List Char) : Option (Option (Bool × List Nat) × List Char) :=
  let after (r : List Char) : Option (Option (Bool × List Nat) × List Char) :=
    let (below, r) := match r with
      | '+' :: r => (false, r)
      | '-' :: r => (true, r)
      | r => (false, r)
    let (digits, rest) := digitsOf r
    if digits.isEmpty then none else some (some (below, digits), rest)
  match s with
  | 'e' :: r => after r
  | 'E' :: r => after r
  | _ => some (none, s)

/-- A number: a whole part without needless zeros, then a fraction and an exponent if they are
there. -/
def numberText? (s : List Char) : Option (NumberText × List Char) := do
  let (negative, r) := match s with
    | '-' :: r => (true, r)
    | r => (false, r)
  let (whole, r) := digitsOf r
  if whole.isEmpty || (whole.head? = some 0 && 1 < whole.length) then none
  else
    let (fraction, r) ← fractionText r
    let (exponent, r) ← exponentText r
    some (⟨negative, whole, fraction, exponent⟩, r)

/-! ## Values -/

/-- A word at the beginning of a text. -/
def word? (word : List Char) (value : Json) (s : List Char) : Option (Json × Rest s) :=
  if h : word.isPrefixOf s ∧ word ≠ [] then
    some (value, ⟨s.drop word.length, by
      have hw : 0 < word.length := List.length_pos_iff.2 h.2
      have hs : word.length ≤ s.length :=
        (List.isPrefixOf_iff_prefix.1 h.1).length_le
      rw [List.length_drop]; omega⟩)
  else none

/-- A number at the beginning of a text. -/
def number? (s : List Char) : Option (Json × Rest s) :=
  match numberText? s with
  | none => none
  | some (t, r) => if h : r.length < s.length then t.value?.map fun v => (v, ⟨r, h⟩) else none

/-- The text after a given mark, blanks before it skipped. -/
def mark? (c : Char) (s : List Char) : Option (Rest s) :=
  match hs : skip s with
  | d :: r =>
    if d = c then
      some ⟨r, by have := length_skip_le s; rw [hs, List.length_cons] at this; omega⟩
    else none
  | [] => none

mutual

/-- One value at the beginning of a text; `depth` more sequences and objects may be opened. -/
def value? (depth : Nat) (s : List Char) : Option (Json × Rest s) :=
  match hs : skip s with
  | [] => none
  | c :: r =>
    have hr : r.length < s.length := by
      have := length_skip_le s; rw [hs, List.length_cons] at this; omega
    if c = '"' then
      (characters r).map fun (cs, rest) =>
        (string (String.ofList cs), rest.widen (Nat.le_of_lt hr))
    else if c = '[' then
      match depth with
      | 0 => none
      | depth + 1 =>
        match mark? ']' r with
        | some rest => some (array [], rest.widen (Nat.le_of_lt hr))
        | none =>
          match elementsFrom depth r with
          | none => none
          | some (es, rest) => some (array es, rest.widen (Nat.le_of_lt hr))
    else if c = '{' then
      match depth with
      | 0 => none
      | depth + 1 =>
        match mark? '}' r with
        | some rest => some (object [], rest.widen (Nat.le_of_lt hr))
        | none =>
          match entriesFrom depth r with
          | none => none
          | some (es, rest) => some (ofEntries es, rest.widen (Nat.le_of_lt hr))
    else
      have hs' : (c :: r).length ≤ s.length := by rw [← hs]; exact length_skip_le s
      let read := (word? "null".toList null (c :: r)).or <|
        (word? "true".toList (bool true) (c :: r)).or <|
        (word? "false".toList (bool false) (c :: r)).or (number? (c :: r))
      read.map fun (v, rest) => (v, rest.widen hs')
termination_by (s.length, 0)

/-- The elements of a sequence up to its closing bracket. -/
def elementsFrom (depth : Nat) (s : List Char) : Option (List Json × Rest s) :=
  match value? depth s with
  | none => none
  | some (v, r) =>
    match mark? ']' r.1 with
    | some rest => some ([v], rest.widen (Nat.le_of_lt r.2))
    | none =>
      match mark? ',' r.1 with
      | none => none
      | some r' =>
        have := r.2
        have := r'.2
        match elementsFrom depth r'.1 with
        | none => none
        | some (vs, rest) => some (v :: vs, rest.widen (by omega))
termination_by (s.length, 1)

/-- The entries of an object up to its closing brace. -/
def entriesFrom (depth : Nat) (s : List Char) : Option (List (String × Json) × Rest s) :=
  match mark? '"' s with
  | none => none
  | some k =>
    match characters k.1 with
    | none => none
    | some (key, r) =>
      match mark? ':' r.1 with
      | none => none
      | some r' =>
        have := k.2
        have := r.2
        have := r'.2
        match value? depth r'.1 with
        | none => none
        | some (v, r'') =>
          have := r''.2
          match mark? '}' r''.1 with
          | some rest =>
            some ([(String.ofList key, v)], rest.widen (by omega))
          | none =>
            match mark? ',' r''.1 with
            | none => none
            | some next =>
              have := next.2
              match entriesFrom depth next.1 with
              | none => none
              | some (es, rest) =>
                some ((String.ofList key, v) :: es, rest.widen (by omega))
termination_by (s.length, 1)

end

/-- How many sequences and objects may stand inside one another. -/
def maxDepth : Nat := 127

/-- The value that a text denotes: one value with blanks around it. -/
def ofChars? (s : List Char) : Option Json :=
  match value? maxDepth s with
  | some (v, r) => if (skip r.1).isEmpty then some v else none
  | none => none

/-- The value that a text denotes. -/
def ofText? (s : String) : Option Json := ofChars? s.toList

/-- The value that a sequence of bytes denotes, read as UTF-8 without malformed parts. -/
def ofBytes? (bytes : List UInt8) : Option Json := Text.charsOfBytes? bytes >>= ofChars?

end FlowRuns.Json
