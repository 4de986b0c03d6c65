/-!
# Whole numbers in decimal

Writing an integer uses the fewest digits and a minus sign; reading also takes a plus sign and
leading zeros. Main statement: `readInt? (writeInt i) = some i`.
-/

namespace Bxml.Text

/-- The number a run of decimal digits stands for; nothing else is read, and not the empty run. -/
def readDigits? (l : List Char) : Option Nat :=
  if l.isEmpty || !l.all Char.isDigit then none else some (Nat.ofDigitChars 10 l 0)

/-- Reads decimal digits after an optional sign. -/
def readInt? : List Char → Option Int
  | '-' :: r => (readDigits? r).map fun n => -(n : Int)
  | '+' :: r => (readDigits? r).map fun n => (n : Int)
  | r => (readDigits? r).map fun n => (n : Int)

/-- Reads decimal digits after an optional plus sign. -/
def readNat? : List Char → Option Nat
  | '+' :: r => readDigits? r
  | r => readDigits? r

/-- An integer in decimal. -/
def writeInt : Int → List Char
  | .ofNat n => Nat.toDigits 10 n
  | .negSucc n => '-' :: Nat.toDigits 10 (n + 1)

/-- Reads a 64-bit integer. -/
def readInt64? (l : List Char) : Option Int64 :=
  match readInt? l with
  | some i => if Int64.minValue.toInt ≤ i ∧ i ≤ Int64.maxValue.toInt then some (Int64.ofInt i) else none
  | none => none

/-- A 64-bit integer in decimal. -/
def writeInt64 (i : Int64) : String := String.ofList (writeInt i.toInt)

/-- Reads a position in a sequence: a number below 2^64. -/
def readIndex? (l : List Char) : Option Nat :=
  (readNat? l).filter (· < Nat.pow 2 64)

theorem readDigits?_toDigits (n : Nat) : readDigits? (Nat.toDigits 10 n) = some n := by
  have hall : (Nat.toDigits 10 n).all Char.isDigit = true :=
    List.all_eq_true.2 fun _ h => Nat.isDigit_of_mem_toDigits (by decide) (by decide) h
  have hne : (Nat.toDigits 10 n).isEmpty = false := by
    rw [Bool.eq_false_iff, ne_eq, List.isEmpty_iff]
    exact Nat.toDigits_ne_nil
  simp [readDigits?, hall, hne, Nat.ofDigitChars_ten_toDigits]

theorem readInt?_writeInt (i : Int) : readInt? (writeInt i) = some i := by
  cases i with
  | negSucc n => simp [writeInt, readInt?, readDigits?_toDigits, Int.negSucc_eq]
  | ofNat n =>
    have h := readDigits?_toDigits n
    simp only [writeInt]
    unfold readInt?
    split
    · next r e => rw [e] at h; simp [readDigits?] at h
    · next r e => rw [e] at h; simp [readDigits?] at h
    · simp [h]

end Bxml.Text
