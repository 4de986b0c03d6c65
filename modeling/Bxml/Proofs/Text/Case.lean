import Bxml.Text.Case

/-!
# Uppercase and lowercase exclude each other

No character is both.  A run of every second character has one parity, so that two runs are compared
by their ends and, where they overlap, by their parities.

`isUppercase_of_isLowercase` is the result.  The characters of either case are given by runs, in
`Text/CaseTable.lean`; that a run of the one table and a run of the other are apart is decided for
all pairs at once (`areApart_runs`), and used for any character that is on both.
-/

namespace Bxml.Text

open CaseTable

/-- Whether all characters of a run have the parity of its first one. -/
def hasParity (r : Nat × Nat × Nat) : Bool := r.2.2 == 2 || r.1 == r.2.1

/-- Whether two runs lie behind each other, or have different parities. -/
def areApart (r q : Nat × Nat × Nat) : Bool :=
  r.2.1 < q.1 || q.2.1 < r.1 || (hasParity r && hasParity q && (r.1 + q.1) % 2 == 1)

/-- Whether a code point is on a run. -/
def IsOn (n : Nat) (r : Nat × Nat × Nat) : Prop :=
  r.1 ≤ n ∧ n ≤ r.2.1 ∧ (n - r.1) % r.2.2 = 0

theorem onRun_iff {runs : List (Nat × Nat × Nat)} {n : Nat} :
    onRun runs n = true ↔ ∃ r ∈ runs, IsOn n r := by
  simp [onRun, IsOn, and_assoc]

theorem IsOn.mod_two {n : Nat} {r : Nat × Nat × Nat} (h : IsOn n r) (hr : hasParity r = true) :
    n % 2 = r.1 % 2 := by
  obtain ⟨first, last, step⟩ := r
  obtain ⟨hf, hl, hs⟩ := h
  dsimp only at hf hl hs
  rcases Bool.or_eq_true_iff.1 hr with hr | hr
  · obtain rfl : step = 2 := by simpa using hr
    change n % 2 = first % 2
    omega
  · obtain rfl : first = last := by simpa using hr
    rw [Nat.le_antisymm hl hf]

theorem not_isOn_of_areApart {n : Nat} {r q : Nat × Nat × Nat} (h : areApart r q = true)
    (hr : IsOn n r) : ¬ IsOn n q := by
  intro hq
  simp only [areApart, Bool.or_eq_true, Bool.and_eq_true, decide_eq_true_eq, beq_iff_eq] at h
  rcases h with (h | h) | ⟨⟨pr, pq⟩, h⟩
  · exact absurd (Nat.le_trans hq.1 hr.2.1) (Nat.not_le.2 h)
  · exact absurd (Nat.le_trans hr.1 hq.2.1) (Nat.not_le.2 h)
  · have er := hr.mod_two pr
    have eq := hq.mod_two pq
    omega

theorem areApart_runs : (upperRuns.all fun r => lowerRuns.all (areApart r)) = true := by
  decide +kernel

/-- A lowercase character is not uppercase. -/
theorem isUppercase_of_isLowercase {c : Char} (h : isLowercase c = true) :
    isUppercase c = false := by
  unfold isLowercase at h
  unfold isUppercase
  split
  · next hc =>
    rw [if_pos hc] at h
    have lower : 97 ≤ c.val := (Bool.and_eq_true_iff.1 h).1 |> of_decide_eq_true
    rw [Bool.eq_false_iff]
    intro hu
    have upper : c.val ≤ 90 := (of_decide_eq_true hu).2
    exact absurd (UInt32.le_trans lower upper) (by decide)
  · next hc =>
    rw [if_neg hc] at h
    obtain ⟨q, hq, hn⟩ := onRun_iff.1 h
    rw [Bool.eq_false_iff]
    intro hu
    obtain ⟨r, hr, hm⟩ := onRun_iff.1 hu
    have apart := List.all_eq_true.1 (List.all_eq_true.1 areApart_runs r hr) q hq
    exact not_isOn_of_areApart apart hm hn

end Bxml.Text
