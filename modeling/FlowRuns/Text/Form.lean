import FlowRuns.Text.Percent

/-!
# Form encoding

How named values travel in a query: letters, digits and `*-._` stand for themselves, a space is a
plus sign, every other byte is percent-encoded; name and value are joined by an equals sign, pairs
by ampersands. Writing is `encodePairs`; reading, `decodePairs`, is its inverse.
-/

namespace FlowRuns.Text.Form

/-- The characters that stand for themselves. -/
def isPlain (c : Char) : Bool := c.isAlphanum || c = '*' || c = '-' || c = '.' || c = '_'

/-- One character. -/
def encodeChar (c : Char) : List Char :=
  if c = ' ' then ['+'] else if isPlain c then [c] else (bytesOfChar c).flatMap percentByte

/-- A name or a value. -/
def encode (s : String) : List Char := s.toList.flatMap encodeChar

/-- A pair. -/
def encodePair (p : String × String) : List Char := encode p.1 ++ '=' :: encode p.2

/-- Pairs in order. -/
def encodePairs : List (String × String) → List Char
  | [] => []
  | [p] => encodePair p
  | p :: ps => encodePair p ++ '&' :: encodePairs ps

/-- The text up to the first given mark, and what follows the mark. -/
def cut (mark : Char) (s : List Char) : List Char × List Char :=
  (s.takeWhile (· ≠ mark), (s.dropWhile (· ≠ mark)).drop 1)

/-- The name or the value that an encoded text stands for. -/
def decode (s : List Char) : String :=
  ofBytesLossy (percentDecode (s.map fun c => if c = '+' then ' ' else c))

/-- The pair that an encoded text stands for. -/
def decodePair (s : List Char) : String × String :=
  let (name, value) := cut '=' s
  (decode name, decode value)

/-- The parts of a text between given marks. -/
def parts (mark : Char) : List Char → List (List Char)
  | [] => [[]]
  | c :: rest =>
    if c = mark then [] :: parts mark rest
    else
      match parts mark rest with
      | [] => [[c]]
      | p :: ps => (c :: p) :: ps

/-- The pairs of a query, empty parts dropped. -/
def decodePairs (s : List Char) : List (String × String) :=
  ((parts '&' s).filter (! ·.isEmpty)).map decodePair

end FlowRuns.Text.Form
