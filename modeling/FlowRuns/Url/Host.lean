import FlowRuns.Url.Domain
import FlowRuns.Text.Form

/-!
# Hosts

The host of a URL: a domain, an address of four bytes, an address of eight 16-bit pieces, or, in a
URL whose scheme is not special, an uninterpreted text. Different spellings of one address or
domain are read as one host and written in one way.
-/

namespace FlowRuns

/-- Why a text is no URL. -/
inductive UrlError where
  /-- there is no scheme -/
  | relative
  /-- a host is wanted and there is none -/
  | emptyHost
  /-- the port is no number up to 65535 -/
  | badPort
  /-- the host ends in a number, but is no address of four bytes -/
  | badIpv4
  /-- the brackets hold no address of eight pieces -/
  | badIpv6
  /-- the domain holds a character that none may hold, or an ill-formed encoded label -/
  | badDomain
  /-- an uninterpreted host holds a character that none may hold -/
  | badHostCharacter
  deriving DecidableEq, Inhabited

/-- What is said about a text that is no URL. -/
def UrlError.message : UrlError → String
  | relative => "relative URL without a base"
  | emptyHost => "empty host"
  | badPort => "invalid port number"
  | badIpv4 => "invalid IPv4 address"
  | badIpv6 => "invalid IPv6 address"
  | badDomain => "invalid international domain name"
  | badHostCharacter => "invalid domain character"

namespace Url

open Text.Form (parts)

/-- The host of a URL. -/
inductive Host where
  /-- a domain, in lower-case ASCII, or an uninterpreted text; empty for none -/
  | domain (name : List Char)
  /-- an address of four bytes -/
  | ipv4 (address : Nat)
  /-- an address of eight pieces -/
  | ipv6 (pieces : List Nat)
  deriving DecidableEq, Inhabited

/-! ## Addresses of four bytes -/

/-- The value of a digit in bases up to sixteen. -/
def digitBelow? (base : Nat) (c : Char) : Option Nat :=
  (Text.hexValue? c).filter (· < base)

/-- The number that digits write in a base. -/
def digitsIn? (base : Nat) (s : List Char) : Option Nat :=
  s.foldlM (fun n c => (digitBelow? base c).map (base * n + ·)) 0

/-- A part of an address: hexadecimal after `0x`, octal after `0`, decimal otherwise. -/
def ipv4Part? (s : List Char) : Option Nat :=
  match s with
  | [] => none
  | '0' :: 'x' :: rest => digitsIn? 16 rest
  | '0' :: 'X' :: rest => digitsIn? 16 rest
  | '0' :: c :: rest => digitsIn? 8 (c :: rest)
  | s => digitsIn? 10 s

/-- The parts of a host between points, a point at its end aside. -/
def hostParts (s : List Char) : List (List Char) :=
  let ps := parts '.' s
  if ps.getLast? = some [] then ps.dropLast else ps

/-- Whether the last part of a host is a number, so that the host has to be an address. -/
def endsInNumber (s : List Char) : Bool :=
  match (hostParts s).getLast? with
  | some last => !last.isEmpty && (last.all Char.isDigit || (ipv4Part? last).isSome)
  | none => false

/-- What a byte counts with `n` bytes after it. -/
def byteWeight (n : Nat) : Nat := (List.replicate n 256).foldl (· * ·) 1

/-- The address of one to four parts; the last part fills all bytes that are left. -/
def ipv4? (s : List Char) : Option Nat := do
  let numbers ← (hostParts s).mapM ipv4Part?
  let last ← numbers.getLast?
  let before := numbers.dropLast
  if before.length ≤ 3 && before.all (· ≤ 255) && last < byteWeight (4 - before.length) then
    some ((before.zipIdx).foldl (fun sum p => sum + p.1 * byteWeight (3 - p.2)) last)
  else none

/-! ## Addresses of eight pieces -/

/-- A piece: one to four hexadecimal digits. -/
def ipv6Piece? (s : List Char) : Option Nat :=
  if 1 ≤ s.length && s.length ≤ 4 then digitsIn? 16 s else none

/-- Four decimal bytes without needless zeros, as two pieces. -/
def embedded? (s : List Char) : Option (List Nat) := do
  let bytes ← (parts '.' s).mapM fun p =>
    if p.isEmpty || (1 < p.length && p.head? = some '0') then none else digitsIn? 10 p
  match bytes with
  | [a, b, c, d] =>
    if a ≤ 255 && b ≤ 255 && c ≤ 255 && d ≤ 255 then some [a * 256 + b, c * 256 + d] else none
  | _ => none

/-- Pieces between colons; the last may be an embedded address of four bytes if `tail` allows. -/
def ipv6Pieces? (tail : Bool) (s : List Char) : Option (List Nat) :=
  if s.isEmpty then some []
  else
    let ps := parts ':' s
    match ps.getLast? with
    | some last =>
      if tail && last.contains '.' then do
        let front ← ps.dropLast.mapM ipv6Piece?
        let back ← embedded? last
        some (front ++ back)
      else ps.mapM ipv6Piece?
    | none => none

/-- The text before the first two colons in a row, and the text after them. -/
def cutDoubleColon : List Char → Option (List Char × List Char)
  | ':' :: ':' :: rest => some ([], rest)
  | c :: rest => (cutDoubleColon rest).map fun (a, b) => (c :: a, b)
  | [] => none

/-- The address that a text writes; two colons in a row stand for as many zeros as are missing. -/
def ipv6? (s : List Char) : Option (List Nat) :=
  match cutDoubleColon s with
  | none => (ipv6Pieces? true s).filter (·.length = 8)
  | some (a, b) => do
    let front ← ipv6Pieces? false a
    let back ← ipv6Pieces? true b
    let missing := 8 - (front.length + back.length)
    if front.length + back.length ≤ 7 then some (front ++ List.replicate missing 0 ++ back)
    else none

/-- How many zeros a list begins with. -/
def leadingZeros (ps : List Nat) : Nat := (ps.takeWhile (· = 0)).length

/-- The longest run of zeros, of equally long ones the first, as start and length. -/
def longestZeros (ps : List Nat) : Nat × Nat :=
  (List.range ps.length).foldl
    (fun best i => let n := leadingZeros (ps.drop i); if best.2 < n then (i, n) else best) (0, 0)

/-- Pieces joined by colons. -/
def piecesText (ps : List Nat) : List Char :=
  ":".toList.intercalate (ps.map (Nat.toDigits 16))

/-- An address of eight pieces, its longest run of two or more zeros left out. -/
def ipv6Text (ps : List Nat) : List Char :=
  let (start, n) := longestZeros ps
  if 2 ≤ n then piecesText (ps.take start) ++ [':', ':'] ++ piecesText (ps.drop (start + n))
  else piecesText ps

/-! ## Reading and writing -/

/-- Whether a character may not stand in an uninterpreted host. -/
def forbiddenInHost (c : Char) : Bool :=
  c.toNat = 0 || "\t\n\r #/:<>?@[\\]^|".toList.contains c

/-- The host that a text writes. -/
def Host.parse (special : Bool) (s : List Char) : Except UrlError Host :=
  match s with
  | '[' :: rest =>
    match rest.getLast? with
    | some ']' =>
      match ipv6? rest.dropLast with
      | some ps => .ok (.ipv6 ps)
      | none => .error .badIpv6
    | _ => .error .badIpv6
  | s =>
    if special then
      match Text.charsOfBytes? (Text.percentDecode s) >>= domainToAscii? with
      | none => .error .badDomain
      | some [] => .error .emptyHost
      | some name =>
        if endsInNumber name then
          match ipv4? name with
          | some a => .ok (.ipv4 a)
          | none => .error .badIpv4
        else .ok (.domain name)
    else if s.any forbiddenInHost then .error .badHostCharacter
    else .ok (.domain (Text.percentEncode .control s))

/-- The text of a host. -/
def Host.text : Host → List Char
  | domain name => name
  | ipv4 a =>
    ".".toList.intercalate
      ([a / byteWeight 3, a / byteWeight 2 % 256, a / byteWeight 1 % 256, a % 256].map
        (Nat.toDigits 10))
  | ipv6 ps => ['['] ++ ipv6Text ps ++ [']']

end Url

end FlowRuns
