import Bxml.Xml.Location

/-!
# What a tracker of lines gives

A tracker that has scanned a source up to some offset is determined by the two. Asked for a later
offset, it gives the location that is counted afresh, and has scanned up to there. So a tracker that
is asked for one offset after another gives for each what a fresh one gives for that offset alone,
and scans the bytes of the source between the two.

* `LineTracker.upTo` is the tracker that an offset determines, and `advance_upTo` the step from one
  to a later one.
* `LineTracker.past` asks for some offsets, and `slice?` is the stretch of the source between two.
* `advance_past_of_ordered` is the result, for all offsets in order.
-/

namespace Bxml

namespace Location

/-- The offset where the last line of a text starts. -/
def lastStart (l : List UInt8) : Nat :=
  l.length - (l.reverse.takeWhile (· != lineEnd)).length

theorem lastStart_append_lineEnd (l : List UInt8) :
    lastStart (l ++ [lineEnd]) = l.length + 1 := by
  unfold lastStart
  rw [List.reverse_append, List.length_append]
  rfl

theorem lastStart_append_of_ne {b : UInt8} (h : b ≠ lineEnd) (l : List UInt8) :
    lastStart (l ++ [b]) = lastStart l := by
  unfold lastStart
  have longer : ((l ++ [b]).reverse.takeWhile (· != lineEnd)).length =
      (l.reverse.takeWhile (· != lineEnd)).length + 1 := by
    rw [List.reverse_append, List.reverse_singleton, List.singleton_append, List.takeWhile_cons,
      if_pos (bne_iff_ne.2 h), List.length_cons]
  rw [longer, List.length_append, List.length_singleton, Nat.add_sub_add_right]

/-- A column is counted from the start of the line. -/
theorem length_sub_lastStart (l : List UInt8) :
    l.length - lastStart l = (l.reverse.takeWhile (· != lineEnd)).length := by
  have le : (l.reverse.takeWhile (· != lineEnd)).length ≤ l.length := by
    have shorter := (List.takeWhile_prefix (l := l.reverse) (· != lineEnd)).length_le
    rwa [List.length_reverse] at shorter
  exact Nat.sub_sub_self le

/-- A location is where a text ends: on the line after all the line ends, and in the column after the
bytes that follow the last of them, or follow the start if there is none. -/
structure IsEnd (at_ : Location) (text : List UInt8) : Prop where
  line : at_.line = 1 + text.count lineEnd
  column : ∃ front last, text = front ++ last ∧ (front = [] ∨ front.getLast? = some lineEnd) ∧
    lineEnd ∉ last ∧ at_.column = 1 + last.length

theorem isEnd_ofOffset (source : List UInt8) (offset : Nat) :
    (ofOffset source offset).IsEnd (source.take offset) where
  line := rfl
  column := by
    let text := source.take offset
    let last := text.reverse.takeWhile (· != lineEnd)
    let front := text.reverse.dropWhile (· != lineEnd)
    have parts : text = front.reverse ++ last.reverse := by
      rw [← List.reverse_append, List.takeWhile_append_dropWhile, List.reverse_reverse]
    have ended : front.reverse = [] ∨ front.reverse.getLast? = some lineEnd := by
      rw [List.reverse_eq_nil_iff, List.getLast?_reverse]
      cases h : front.head? with
      | none => exact .inl (List.head?_eq_none_iff.1 h)
      | some b =>
        have stops := List.head?_dropWhile_not (· != lineEnd) text.reverse
        rw [h] at stops
        exact .inr (congrArg some (by simpa using stops))
    have inside : lineEnd ∉ last.reverse := fun h => by
      have all := List.all_eq_true.1 (List.all_takeWhile (p := (· != lineEnd)) (l := text.reverse))
      exact bne_iff_ne.1 (all lineEnd (List.mem_reverse.1 h)) rfl
    exact ⟨front.reverse, last.reverse, parts, ended, inside, by rw [List.length_reverse]; rfl⟩

end Location

namespace LineTracker

open Location

/-- A tracker that has scanned a source up to an offset, or to the end if it is past that. -/
def upTo (source : List UInt8) (offset : Nat) : LineTracker where
  offset := (source.take offset).length
  line := 1 + (source.take offset).count lineEnd
  lineStart := lastStart (source.take offset)
  rest := source.drop offset

theorem start_eq_upTo (source : List UInt8) : start source = upTo source 0 := rfl

/-- Scanning on from what has been scanned is scanning all of it. -/
theorem scan_eq (before ahead : List UInt8) :
    scan before.length (1 + before.count lineEnd) (lastStart before) ahead =
      (1 + (before ++ ahead).count lineEnd, lastStart (before ++ ahead)) := by
  induction ahead generalizing before with
  | nil => rw [scan, List.append_nil]
  | cons b r ih =>
    have longer := ih (before ++ [b])
    rw [List.append_assoc, List.singleton_append, List.length_append, List.length_singleton,
      List.count_append] at longer
    rw [scan, ← longer]
    split
    · next h => rw [h, lastStart_append_lineEnd, List.count_singleton_self, Nat.add_assoc]
    · next h =>
      have none : [b].count lineEnd = 0 :=
        List.count_eq_zero_of_not_mem (mt List.mem_singleton.1 (Ne.symm h))
      rw [lastStart_append_of_ne h, none]
      rfl

/-- A later offset has the location that is counted afresh. -/
theorem advance_upTo (source : List UInt8) {offset later : Nat} (h : offset ≤ later) :
    (upTo source offset).advance later = (ofOffset source later, upTo source later) := by
  have short : (source.take offset).length ≤ later :=
    Nat.le_trans (List.length_take_le _ _) h
  let ahead := (source.drop offset).take (later - (source.take offset).length)
  have scanned : source.take later = source.take offset ++ ahead := calc
    source.take later = (source.take offset ++ source.drop offset).take later := by
      rw [List.take_append_drop]
    _ = source.take offset ++ ahead := by rw [List.take_append, List.take_of_length_le short]
  have unscanned : source.drop later =
      (source.drop offset).drop (later - (source.take offset).length) := calc
    source.drop later = (source.take offset ++ source.drop offset).drop later := by
      rw [List.take_append_drop]
    _ = _ := by rw [List.drop_append, List.drop_of_length_le short, List.nil_append]
  have reached : (source.take offset).length + ahead.length = (source.take later).length := by
    rw [scanned, List.length_append]
  have lines := scan_eq (source.take offset) ahead
  rw [← scanned] at lines
  have column : min later (source.take later).length - lastStart (source.take later) + 1 =
      (ofOffset source later).column := by
    rw [Nat.min_eq_right (List.length_take_le _ _), length_sub_lastStart, Nat.add_comm]
    rfl
  unfold advance upTo
  dsimp only
  rw [lines, reached, column, ← unscanned]
  rfl

/-! ## One offset after another -/

/-- The tracker after it has been asked for some offsets. -/
def past (t : LineTracker) (offsets : List Nat) : LineTracker :=
  offsets.foldl (fun t offset => (t.advance offset).2) t

/-- A tracker that is asked for offsets in order has scanned up to the last of them. -/
theorem exists_past_eq_upTo (source : List UInt8) {offset : Nat} {offsets : List Nat}
    (ordered : (offset :: offsets).Pairwise (· ≤ ·)) :
    ∃ reached ∈ offset :: offsets, (upTo source offset).past offsets = upTo source reached := by
  induction offsets generalizing offset with
  | nil => exact ⟨offset, List.mem_cons_self, rfl⟩
  | cons next rest ih =>
    obtain ⟨le, ordered⟩ := List.pairwise_cons.1 ordered
    obtain ⟨reached, later, same⟩ := ih ordered
    refine ⟨reached, List.mem_cons_of_mem _ later, ?_⟩
    unfold past at same ⊢
    rw [List.foldl_cons, advance_upTo source (le next List.mem_cons_self)]
    exact same

/-- The bytes of a source from one offset up to another, unless they are out of its bounds. -/
def slice? (source : List UInt8) (first last : Nat) : Option (List UInt8) :=
  if first ≤ last ∧ last ≤ source.length then some ((source.take last).drop first) else none

/-- What a tracker scans next is in the bounds of the source. -/
theorem slice?_upTo (source : List UInt8) {reached offset : Nat} (h : reached ≤ offset) :
    slice? source (upTo source reached).offset (min offset source.length) =
      some ((upTo source reached).rest.take (offset - (upTo source reached).offset)) := by
  have start : (upTo source reached).offset = min reached source.length := List.length_take
  have bounds : min reached source.length ≤ min offset source.length ∧
      min offset source.length ≤ source.length := by omega
  unfold slice?
  rw [start, if_pos bounds]
  refine congrArg some ?_
  rcases Nat.le_total reached source.length with short | long
  · calc ((source.take (min offset source.length)).drop (min reached source.length))
        = (source.take offset).drop reached := by
          rw [← List.take_eq_take_min, Nat.min_eq_left short]
      _ = (source.drop reached).take (offset - reached) := List.drop_take
      _ = _ := by rw [Nat.min_eq_left short]; rfl
  · have unscanned : (upTo source reached).rest = [] := List.drop_of_length_le long
    rw [unscanned, List.take_nil, List.drop_of_length_le]
    rw [List.length_take]
    omega

/-- A tracker of a source that is asked for one offset after another takes from its rest the bytes of
the source between two offsets, which are in the bounds. It is then on a line that starts there or
before, and gives the location where the bytes before the offset end, as a fresh tracker does. -/
theorem advance_past_of_ordered (source : List UInt8) {offsets before after : List Nat}
    {offset : Nat} (ordered : offsets.Pairwise (· ≤ ·))
    (h : offsets = before ++ offset :: after) :
    let t := (start source).past before
    slice? source t.offset (min offset source.length) = some (t.rest.take (offset - t.offset)) ∧
      (t.advance offset).2.lineStart ≤ min offset source.length ∧
      (t.advance offset).1.IsEnd (source.take (min offset source.length)) ∧
      (t.advance offset).1 = ((start source).advance offset).1 := by
  intro t
  subst h
  obtain ⟨before_ordered, -, between⟩ := List.pairwise_append.1 ordered
  have from_start : (0 :: before).Pairwise (· ≤ ·) :=
    List.pairwise_cons.2 ⟨fun _ _ => Nat.zero_le _, before_ordered⟩
  obtain ⟨reached, mem, same⟩ := exists_past_eq_upTo source from_start
  have le : reached ≤ offset := by
    rcases List.mem_cons.1 mem with rfl | mem
    · exact Nat.zero_le _
    · exact between reached mem offset List.mem_cons_self
  have scanned : t = upTo source reached := same
  have given := advance_upTo source le
  have fresh : (start source).advance offset = (ofOffset source offset, upTo source offset) :=
    advance_upTo source (Nat.zero_le offset)
  rw [scanned, given, fresh, ← List.take_eq_take_min]
  refine ⟨slice?_upTo source le, ?_, isEnd_ofOffset source offset, rfl⟩
  calc lastStart (source.take offset)
      ≤ (source.take offset).length := Nat.sub_le _ _
    _ = min offset source.length := List.length_take

/-- Offsets that are repeated, that stand on both sides of line ends, and that are past the end. -/
theorem advance_past_of_ordered_lines :
    let source : List UInt8 := [97, 10, 10, 98]
    let t := (start source).past [1, 1, 2, 3]
    [1, 1, 2, 3, 9].Pairwise (· ≤ ·) ∧ slice? source t.offset 4 = some [98] ∧
      (t.advance 9).1 = ⟨3, 2⟩ ∧ (t.advance 9).1 = ((start source).advance 9).1 := by
  have ordered : [1, 1, 2, 3, 9].Pairwise (· ≤ ·) := by decide
  have last : [1, 1, 2, 3, 9] = [1, 1, 2, 3] ++ 9 :: [] := rfl
  obtain ⟨slice, -, -, same⟩ := advance_past_of_ordered [97, 10, 10, 98] ordered last
  exact ⟨ordered, slice, by decide, same⟩

end LineTracker

end Bxml
