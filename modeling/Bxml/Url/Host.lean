import Bxml.Text.Case
import Bxml.Url.Percent
import Bxml.Url.Punycode

/-!
# Hosts

A host is a domain, an IPv4 address or an IPv6 address. All three are kept in their serialised
form: domains in lowercase ASCII, addresses in their shortest notation.
-/

namespace Bxml.Url

/-- Why a text is no URL. -/
inductive ParseError
  | emptyHost
  | invalidDomain
  | invalidDomainCharacter
  | invalidPort
  | invalidIpv4
  | invalidIpv6
  | relativeWithoutBase
  | relativeToOpaque
deriving DecidableEq, Repr

/-- The wording of a parse error. -/
def ParseError.message : ParseError → String
  | .emptyHost => "empty host"
  | .invalidDomain => "invalid international domain name"
  | .invalidDomainCharacter => "invalid domain character"
  | .invalidPort => "invalid port number"
  | .invalidIpv4 => "invalid IPv4 address"
  | .invalidIpv6 => "invalid IPv6 address"
  | .relativeWithoutBase => "relative URL without a base"
  | .relativeToOpaque => "relative URL with a cannot-be-a-base base"

namespace Host

/-- The parts of `l` between separators. -/
def splitOn (sep : Char) : List Char → List (List Char)
  | [] => [[]]
  | c :: r =>
    if c = sep then [] :: splitOn sep r
    else
      match splitOn sep r with
      | [] => [[c]]
      | p :: ps => (c :: p) :: ps

/-- Reads digits of the given base. -/
def readBase? (base : Nat) (l : List Char) : Option Nat :=
  l.foldlM (fun n c =>
    match hexValue? c with
    | some d => if d < base then some (n * base + d) else none
    | none => none) 0

/-- One part of an IPv4 address: decimal, octal after a zero, or hexadecimal after `0x`. -/
def readIpv4Part? : List Char → Option Nat
  | [] => none
  | '0' :: 'x' :: r => readBase? 16 r
  | '0' :: 'X' :: r => readBase? 16 r
  | '0' :: c :: r => readBase? 8 (c :: r)
  | l => readBase? 10 l

/-- The parts of a domain, less one empty part at its end. -/
def ipv4Parts (l : List Char) : List (List Char) :=
  let parts := splitOn '.' l
  if 1 < parts.length && parts.getLast? == some [] then parts.dropLast else parts

/-- Whether the last part of a domain is a number, so that the whole must be an IPv4 address. -/
def endsInNumber (l : List Char) : Bool :=
  match (ipv4Parts l).getLast? with
  | none => false
  | some [] => false
  | some p => p.all Char.isDigit || (p.take 2 != p && (p.take 2 == ['0', 'x'] || p.take 2 == ['0', 'X'])
      && (readBase? 16 (p.drop 2)).isSome) || p == ['0', 'x'] || p == ['0', 'X']

/-- Reads an IPv4 address, whose last part fills the bytes that the others leave. -/
def readIpv4? (l : List Char) : Option Nat :=
  let parts := ipv4Parts l
  if 4 < parts.length then none
  else do
    let numbers ← parts.mapM readIpv4Part?
    let last ← numbers.getLast?
    let front := numbers.dropLast
    if front.any (255 < ·) || Nat.pow 256 (5 - numbers.length) ≤ last then none
    else some (front.zipIdx.foldl (fun n p => n + p.1 * Nat.pow 256 (3 - p.2)) last)

/-- An IPv4 address as four numbers with dots. -/
def writeIpv4 (n : Nat) : List Char :=
  let part (i : Nat) := Nat.toDigits 10 (n / Nat.pow 256 i % 256)
  part 3 ++ '.' :: part 2 ++ '.' :: part 1 ++ '.' :: part 0

/-- Reads one group of an IPv6 address. -/
def readGroup? (l : List Char) : Option Nat :=
  if l.isEmpty || 4 < l.length then none else readBase? 16 l

/-- Reads one decimal part of an IPv4 address at the end of an IPv6 address. -/
def readOctet? (l : List Char) : Option Nat :=
  match l with
  | [] => none
  | '0' :: _ :: _ => none
  | l => (readBase? 10 l).filter fun n => n < 256 && l.length ≤ 3

/-- Reads groups between colons; the last one may be an IPv4 address and counts for two. -/
def readGroups? : List (List Char) → Option (List Nat)
  | [] => some []
  | [p] =>
    if p.contains '.' then do
      match ← (splitOn '.' p).mapM readOctet? with
      | [a, b, c, d] => some [256 * a + b, 256 * c + d]
      | _ => none
    else (readGroup? p).map fun n => [n]
  | p :: r => do return (← readGroup? p) :: (← readGroups? r)

/-- The text before and after the first double colon. -/
def splitDouble : List Char → Option (List Char × List Char)
  | ':' :: ':' :: r => some ([], r)
  | c :: r => (splitDouble r).map fun p => (c :: p.1, p.2)
  | [] => none

/-- Reads the eight groups of an IPv6 address. -/
def readIpv6? (l : List Char) : Option (List Nat) :=
  let groups (t : List Char) := if t.isEmpty then some [] else readGroups? (splitOn ':' t)
  match splitDouble l with
  | none => (groups l).filter (·.length == 8)
  | some (front, back) => do
    if front.contains '.' then none
    let a ← groups front
    let b ← groups back
    if 8 ≤ a.length + b.length then none
    else some (a ++ List.replicate (8 - a.length - b.length) 0 ++ b)

/-- Start and length of the first longest run of zeros. -/
def longestZeros (l : List Nat) : Nat × Nat :=
  (List.range l.length).foldl (fun best i =>
    let n := ((l.drop i).takeWhile (· == 0)).length
    if best.2 < n then (i, n) else best) (0, 0)

/-- An IPv6 address with its longest run of at least two zeros left out. -/
def writeIpv6 (l : List Nat) : List Char :=
  let groups (t : List Nat) := (t.map (Nat.toDigits 16)).intersperse [':'] |>.flatten
  let (start, n) := longestZeros l
  if n < 2 then groups l
  else groups (l.take start) ++ [':', ':'] ++ groups (l.drop (start + n))

/-- Whether `c` may not stand in a domain. -/
def isForbidden (c : Char) : Bool :=
  c.toNat ≤ 0x20 || c.toNat == 0x7F || c == '#' || c == '%' || c == '/' || c == ':' || c == '<' ||
    c == '>' || c == '?' || c == '@' || c == '[' || c == '\\' || c == ']' || c == '^' || c == '|' ||
    c == '`' || c == '\x7b' || c == '\x7d'

/-- The characters a domain is compared by: lowercase, with the wide forms of ASCII narrowed and
the invisible ones dropped. -/
def foldDomain (l : List Char) : List Char :=
  l.flatMap fun c =>
    let n := c.toNat
    if n == 0x3002 || n == 0xFF61 then ['.']
    else if 0xFF01 ≤ n && n ≤ 0xFF5E then [(Char.ofNat (n - 0xFEE0)).toLower]
    else if n == 0xAD || n == 0x200B || n == 0x2060 || n == 0xFEFF then []
    else if n == 0xDF then ['s', 's']
    else Text.toLowercase c

/-- A label of a domain in ASCII. -/
def labelToAscii (l : List Char) : List Char :=
  if l.all (·.toNat < 128) then l else ['x', 'n', '-', '-'] ++ Punycode.encode l

/-- A domain in ASCII. -/
def domainToAscii (l : List Char) : List Char :=
  (((splitOn '.' (foldDomain l)).map labelToAscii).intersperse ['.']).flatten

/-- Reads the host of a URL whose scheme has hosts of the usual kind. -/
def parse (l : List Char) : Except ParseError (List Char) :=
  match l with
  | '[' :: r =>
    if r.getLast? == some ']' then
      match readIpv6? r.dropLast with
      | some a => .ok ('[' :: writeIpv6 a ++ [']'])
      | none => .error .invalidIpv6
    else .error .invalidIpv6
  | l =>
    match String.fromUTF8? (ByteArray.mk (percentDecode l).toArray) with
    | none => .error .invalidDomain
    | some s =>
      let d := domainToAscii s.toList
      if d.any isForbidden then .error .invalidDomain
      else if d.isEmpty then .error .emptyHost
      else if endsInNumber d then
        match readIpv4? d with
        | some a => .ok (writeIpv4 a)
        | none => .error .invalidIpv4
      else .ok d

/-- Reads the host of a URL of any other scheme. -/
def parseOpaque (l : List Char) : Except ParseError (List Char) :=
  match l with
  | '[' :: _ => parse l
  | l =>
    if l.any fun c => isForbidden c && c != '%' && c != '`' && c != '\x7b' && c != '\x7d' &&
        (c.toNat == 0 || c == ' ' || 0x20 < c.toNat) && c.toNat != 0x7F then
      .error .invalidDomainCharacter
    else .ok (percentEncode controlSet l)

end Host

end Bxml.Url
