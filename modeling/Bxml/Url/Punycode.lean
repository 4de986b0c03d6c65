/-!
# Punycode

The ASCII form of a domain label: its ASCII characters, and the others as deltas between code
points in order of size.
-/

namespace Bxml.Url.Punycode

/-- A digit in base 36. -/
def digit (n : Nat) : Char :=
  if n < 26 then Char.ofNat (n + 97) else Char.ofNat (n + 22)

/-- How many times a delta is divided while it is large, and what is left. -/
def adaptLoop (delta k : Nat) : Nat × Nat :=
  if delta ≤ 455 then (delta, k) else adaptLoop (delta / 35) (k + 36)
termination_by delta
decreasing_by omega

/-- The bias after writing `delta`. -/
def adapt (delta points : Nat) (first : Bool) : Nat :=
  let d := if first then delta / 700 else delta / 2
  let (d, k) := adaptLoop (d + d / points) 0
  k + 36 * d / (d + 38)

/-- A delta as digits, where the threshold of a digit depends on its place and the bias. -/
def variableLength (bias q k : Nat) (fuel : Nat) : List Char :=
  match fuel with
  | 0 => []
  | fuel + 1 =>
    let t := if k ≤ bias then 1 else if bias + 26 ≤ k then 26 else k - bias
    if q < t then [digit q]
    else digit (t + (q - t) % (36 - t)) :: variableLength bias ((q - t) / (36 - t)) (k + 36) fuel

/-- Where the encoder stands: the delta so far, the bias, how many characters are written, and the
output. -/
structure State where
  delta : Nat
  bias : Nat
  written : Nat
  out : List Char

/-- Passes over the label once for code point `n`. -/
def pass (basic n : Nat) (l : List Nat) (s : State) : State :=
  l.foldl (fun s c =>
    if c < n then { s with delta := s.delta + 1 }
    else if c = n then
      { delta := 0
        bias := adapt s.delta (s.written + 1) (s.written == basic)
        written := s.written + 1
        out := s.out ++ variableLength s.bias s.delta 36 (s.delta.log2 + 2) }
    else s) s

/-- Writes the code points of `todo`, smallest first; `n` is the least one not yet passed. -/
def encodeLoop (basic : Nat) (l : List Nat) : List Nat → Nat → State → State
  | [], _, s => s
  | m :: rest, n, s =>
    let s := { s with delta := s.delta + (m - n) * (s.written + 1) }
    let s := pass basic m l s
    encodeLoop basic l rest (m + 1) { s with delta := s.delta + 1 }

/-- A label in its ASCII form, without the mark at its start. -/
def encode (l : List Char) : List Char :=
  let basic := l.filter (·.toNat < 128)
  let points := l.map Char.toNat
  let larger := ((points.filter (128 ≤ ·)).mergeSort (· ≤ ·)).eraseDups
  let start := if basic.isEmpty then [] else basic ++ ['-']
  (encodeLoop basic.length points larger 128 ⟨0, 72, basic.length, start⟩).out

end Bxml.Url.Punycode
