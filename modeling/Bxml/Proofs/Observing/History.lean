import Bxml.World.Basic
import Bxml.Proofs.Spreading

/-!
# Histories of changes

A history lists the changes of properties, the subscriptions and the calls of those who subscribed,
in the order in which they begin.  A change that is made while an earlier one is being told of is
told of in the meantime, so that the changes whose telling is not over form a stack.  `Orderly` is
what such a history satisfies at every moment; what it comes to when nothing is pending any more is
`Orderly.existsUnique_told` and `Orderly.lt_iff`.

* `Occurrence` is what a history lists, and `History.Tells` finds the call of one of the audience of
  a change.
* `Orderly` has the stack of pending changes, each with how many of its audience have been called;
  `changed`, `told`, `finished` and `subscribed` are its steps.
* `existsUnique_told` and `lt_iff` are what it comes to: each of the audience of a change is called
  once, and of two changes a subscriber is told of the earlier one first if and only if that was
  before the later one was made.
-/

namespace Bxml

/-- Something that happens to a property or to somebody who subscribed to it. -/
inductive Occurrence
  /-- Somebody subscribes to a property. -/
  | subscribed (p : Place) (s : Subscriber)
  /-- A property that held `old` comes to hold `new`. The audience are those who subscribed to it so
  far. -/
  | changed (p : Place) (old new : Value) (audience : List Subscriber)
  /-- The `i`-th of the audience of the `k`-th occurrence is called, and told that the property
  held `previous`. -/
  | told (k i : Nat) (s : Subscriber) (name : String) (previous : Value)
deriving DecidableEq, Repr

namespace Occurrence

/-- What an occurrence leaves in the trace. -/
def report? : Occurrence → Option Event
  | told _ _ s name previous => s.report? name previous
  | _ => none

/-- Who subscribes to a property. -/
def subscriber? (p : Place) : Occurrence → Option Subscriber
  | subscribed q s => if q = p then some s else none
  | _ => none

/-- The change of a property, from what it held to what it comes to hold. -/
def change? (p : Place) : Occurrence → Option (Value × Value)
  | changed q old new _ => if q = p then some (old, new) else none
  | _ => none

/-- Whether an occurrence is the call of somebody. -/
def IsCall : Occurrence → Prop
  | told .. => True
  | _ => False

end Occurrence

/-- What has happened, oldest first. -/
abbrev History := List Occurrence

namespace History

/-- Those who have subscribed to a property. -/
def joined (H : History) (p : Place) : List Subscriber := H.filterMap (·.subscriber? p)

/-- The changes of a property. -/
def changes (H : History) (p : Place) : List (Value × Value) := H.filterMap (·.change? p)

/-- Whether the `q`-th occurrence is the call of the `i`-th of the audience of the `k`-th one. -/
def Tells (H : History) (q k i : Nat) : Prop :=
  ∃ s name previous, H[q]? = some (.told k i s name previous)

variable {H : History} {pending : List (Nat × Nat)} {q k i l n : Nat} {p : Place} {name : String}
  {old new previous : Value} {audience : List Subscriber} {s : Subscriber} {x y : Occurrence}

theorem getElem?_concat_eq_some :
    (H ++ [x])[q]? = some y ↔ H[q]? = some y ∨ q = H.length ∧ x = y := by
  rcases Nat.lt_trichotomy q H.length with hq | rfl | hq
  · rw [List.getElem?_append_left hq]
    exact ⟨.inl, fun h => h.elim id fun h => absurd h.1 hq.ne⟩
  · simp
  · rw [List.getElem?_eq_none (by simpa using Nat.succ_le_of_lt hq), List.getElem?_eq_none hq.le]
    simpa using fun h => absurd h hq.ne'

/-- What has happened stays as it is. -/
theorem getElem?_concat (h : H[q]? = some y) (x : Occurrence) : (H ++ [x])[q]? = some y :=
  getElem?_concat_eq_some.2 (.inl h)

theorem getElem?_of_isPrefix {H' : History} (hp : H <+: H') (h : H[q]? = some y) :
    H'[q]? = some y := by
  obtain ⟨rest, rfl⟩ := hp
  rwa [List.getElem?_append_left (List.getElem?_eq_some_iff.1 h).1]

theorem lt_length (h : H[q]? = some y) : q < H.length := (List.getElem?_eq_some_iff.1 h).1

theorem Tells.lt_length (h : H.Tells q k i) : q < H.length :=
  let ⟨_, _, _, h⟩ := h
  History.lt_length h

/-- What is no call leaves the calls in a history as they are. -/
theorem tells_concat (hx : ¬ x.IsCall) : Tells (H ++ [x]) q k i ↔ H.Tells q k i := by
  unfold Tells
  simp only [getElem?_concat_eq_some]
  constructor
  · rintro ⟨s, name, v, h | ⟨-, rfl⟩⟩
    · exact ⟨s, name, v, h⟩
    · exact absurd trivial hx
  · rintro ⟨s, name, v, h⟩
    exact ⟨s, name, v, .inl h⟩

theorem tells_concat_told : Tells (H ++ [.told l n s name previous]) q k i ↔
    H.Tells q k i ∨ q = H.length ∧ l = k ∧ n = i := by
  unfold Tells
  simp only [getElem?_concat_eq_some]
  constructor
  · rintro ⟨s', name', v, h | ⟨hq, h⟩⟩
    · exact .inl ⟨s', name', v, h⟩
    · cases h
      exact .inr ⟨hq, rfl, rfl⟩
  · rintro (⟨s', name', v, h⟩ | ⟨hq, rfl, rfl⟩)
    · exact ⟨s', name', v, .inl h⟩
    · exact ⟨s, name, previous, .inr ⟨hq, rfl⟩⟩

/-- A call is no change. -/
theorem changed_of_concat_told
    (h : (H ++ [.told l n s name previous])[k]? = some (.changed p old new audience)) :
    H[k]? = some (.changed p old new audience) :=
  (getElem?_concat_eq_some.1 h).resolve_right nofun

/-! ## Calls -/

/-- Whether the calls in a history are calls of those who are to be told of its changes. -/
structure Sound (H : History) : Prop where
  /-- A call tells one of the audience of an earlier change what that change replaced. -/
  refers : ∀ {q k i : Nat} {s : Subscriber} {name : String} {previous : Value},
    H[q]? = some (.told k i s name previous) →
      k < q ∧ ∃ p new audience, H[k]? = some (.changed p previous new audience) ∧ p.key = name ∧
        audience[i]? = some s
  /-- Nobody is told of a change twice. -/
  once : ∀ {q q' k i : Nat}, H.Tells q k i → H.Tells q' k i → q = q'
  /-- Before somebody is told of a change, all are told of the changes that came in between. -/
  inner : ∀ {q k i l : Nat} {p : Place} {old new : Value} {audience : List Subscriber},
    H.Tells q k i → k < l → l < q → H[l]? = some (.changed p old new audience) →
      ∀ j < audience.length, ∃ q' < q, H.Tells q' l j

namespace Sound

theorem nil : Sound [] where
  refers h := by cases h
  once := by
    rintro q q' k i ⟨_, _, _, h⟩
    cases h
  inner := by
    rintro q k i l p old new audience ⟨_, _, _, h⟩
    cases h

theorem lt_of_tells (h : H.Sound) (ht : H.Tells q k i) : k < q :=
  let ⟨_, _, _, ht⟩ := ht
  (h.refers ht).1

/-- Something that is no call happens. -/
theorem concat (h : H.Sound) (hx : ¬ x.IsCall) : Sound (H ++ [x]) where
  refers ht := by
    obtain ht | ⟨-, rfl⟩ := getElem?_concat_eq_some.1 ht
    · obtain ⟨hk, p, new, audience, hc, hs⟩ := h.refers ht
      exact ⟨hk, p, new, audience, getElem?_concat hc x, hs⟩
    · exact absurd trivial hx
  once ht ht' := h.once ((tells_concat hx).1 ht) ((tells_concat hx).1 ht')
  inner ht hk hl hc j hj := by
    have ht := (tells_concat hx).1 ht
    obtain hc | ⟨rfl, -⟩ := getElem?_concat_eq_some.1 hc
    · obtain ⟨q', hq', called⟩ := h.inner ht hk hl hc j hj
      exact ⟨q', hq', (tells_concat hx).2 called⟩
    · exact absurd ht.lt_length (Nat.lt_asymm hl)

/-- Somebody is told of a change, after all have been told of the later ones. -/
theorem told (h : H.Sound) (hk : H[k]? = some (.changed p previous new audience))
    (hs : audience[i]? = some s) (untold : ∀ q, ¬ H.Tells q k i)
    (later : ∀ {l : Nat} {p : Place} {old new : Value} {audience : List Subscriber},
      k < l → H[l]? = some (.changed p old new audience) → ∀ j < audience.length, ∃ q, H.Tells q l j) :
    Sound (H ++ [.told k i s p.key previous]) where
  refers ht := by
    obtain ht | ⟨rfl, he⟩ := getElem?_concat_eq_some.1 ht
    · obtain ⟨hl, r, other, others, hc, hs'⟩ := h.refers ht
      exact ⟨hl, r, other, others, getElem?_concat hc _, hs'⟩
    · cases he
      exact ⟨History.lt_length hk, p, new, audience, getElem?_concat hk _, rfl, hs⟩
  once ht ht' := by
    rcases tells_concat_told.1 ht with ht | ⟨rfl, rfl, rfl⟩
    · rcases tells_concat_told.1 ht' with ht' | ⟨rfl, rfl, rfl⟩
      · exact h.once ht ht'
      · exact absurd ht (untold _)
    · rcases tells_concat_told.1 ht' with ht' | ⟨rfl, -, -⟩
      · exact absurd ht' (untold _)
      · rfl
  inner ht hl hq hc j hj := by
    have hc := changed_of_concat_told hc
    rcases tells_concat_told.1 ht with ht | ⟨rfl, rfl, rfl⟩
    · obtain ⟨q', hq', called⟩ := h.inner ht hl hq hc j hj
      exact ⟨q', hq', tells_concat_told.2 (.inl called)⟩
    · obtain ⟨q', called⟩ := later hl hc j hj
      exact ⟨q', called.lt_length, tells_concat_told.2 (.inl called)⟩

/-- Of two changes somebody is told of the earlier one first if and only if that was before the
later one was made. -/
theorem lt_iff (h : H.Sound) {q' : Nat} (hkl : k < l) (hq : H.Tells q k i)
    (hq' : H.Tells q' l i) : q < q' ↔ q < l := by
  constructor
  · intro hlt
    obtain ⟨s, name, previous, hs⟩ := hq'
    obtain ⟨-, p, new, audience, hl, -, hi⟩ := h.refers hs
    by_contra hn
    have hne : l ≠ q := by
      rintro rfl
      obtain ⟨_, _, _, hq⟩ := hq
      cases hl.symm.trans hq
    obtain ⟨q'', earlier, called⟩ := h.inner hq hkl (lt_of_le_of_ne (not_lt.1 hn) hne) hl i
      (List.getElem?_eq_some_iff.1 hi).1
    obtain rfl := h.once called ⟨s, name, previous, hs⟩
    exact lt_asymm hlt earlier
  · exact fun hlt => hlt.trans (h.lt_of_tells hq')

end Sound

/-! ## Pending changes -/

/-- Whether a history is in order while some changes are being told of, innermost first. A pending
change is given by its place in the history and how many of its audience have been called. -/
structure Orderly (H : History) (pending : List (Nat × Nat)) : Prop extends H.Sound where
  /-- All of the audience of a change have been told unless it is pending. -/
  full : ∀ {k : Nat} {p : Place} {old new : Value} {audience : List Subscriber},
    H[k]? = some (.changed p old new audience) → (∀ c ∈ pending, c.1 ≠ k) →
      ∀ i < audience.length, ∃ q, H.Tells q k i
  /-- Of the audience of a pending change the first ones have been told. -/
  partly : ∀ c ∈ pending, ∃ p old new audience, H[c.1]? = some (.changed p old new audience) ∧
    c.2 ≤ audience.length ∧ ∀ i, (∃ q, H.Tells q c.1 i) ↔ i < c.2
  nested : pending.Pairwise fun c d => d.1 < c.1

namespace Orderly

theorem nil : Orderly [] [] where
  toSound := .nil
  full h := by cases h
  partly _ h := by cases h
  nested := .nil

/-- No pending change is later than the innermost one. -/
theorem le_of_pending (h : H.Orderly ((k, n) :: pending)) {c : Nat × Nat}
    (hc : c ∈ (k, n) :: pending) : c.1 ≤ k := by
  rcases List.mem_cons.1 hc with rfl | hc
  · exact le_rfl
  · exact ((List.pairwise_cons.1 h.nested).1 c hc).le

theorem lt_length_of_pending (h : H.Orderly pending) {c : Nat × Nat} (hc : c ∈ pending) :
    c.1 < H.length :=
  let ⟨_, _, _, _, hk, _⟩ := h.partly c hc
  History.lt_length hk

/-- A subscription leaves everything in order. -/
theorem subscribed (h : H.Orderly pending) (p : Place) (s : Subscriber) :
    Orderly (H ++ [.subscribed p s]) pending where
  toSound := h.toSound.concat id
  full hk hp i hi := by
    obtain ⟨q, hq⟩ := h.full ((getElem?_concat_eq_some.1 hk).resolve_right nofun) hp i hi
    exact ⟨q, (tells_concat id).2 hq⟩
  partly c hc := by
    simp only [tells_concat (x := .subscribed p s) id]
    obtain ⟨r, old, new, audience, hk, calls⟩ := h.partly c hc
    exact ⟨r, old, new, audience, getElem?_concat hk _, calls⟩
  nested := h.nested

/-- A change is pending as soon as it is made. -/
theorem changed (h : H.Orderly pending) (p : Place) (old new : Value) (audience : List Subscriber) :
    Orderly (H ++ [.changed p old new audience]) ((H.length, 0) :: pending) where
  toSound := h.toSound.concat id
  full hk hp i hi := by
    obtain hk | ⟨rfl, -⟩ := getElem?_concat_eq_some.1 hk
    · obtain ⟨q, hq⟩ := h.full hk (fun c hc => hp c (List.mem_cons_of_mem _ hc)) i hi
      exact ⟨q, (tells_concat id).2 hq⟩
    · exact absurd rfl (hp _ List.mem_cons_self)
  partly c hc := by
    simp only [tells_concat (x := .changed p old new audience) id]
    rcases List.mem_cons.1 hc with rfl | hc
    · refine ⟨p, old, new, audience, by simp, Nat.zero_le _, fun i => ?_⟩
      -- a call would refer to an earlier change
      refine iff_of_false ?_ (Nat.not_lt_zero i)
      rintro ⟨q, hq⟩
      exact absurd ((h.lt_of_tells hq).trans hq.lt_length) (lt_irrefl _)
    · obtain ⟨r, old', new', others, hk, calls⟩ := h.partly c hc
      exact ⟨r, old', new', others, getElem?_concat hk _, calls⟩
  nested := List.pairwise_cons.2 ⟨fun _ hc => h.lt_length_of_pending hc, h.nested⟩

/-- The next one of the audience of the innermost pending change is called. -/
theorem told (h : H.Orderly ((k, i) :: pending))
    (hk : H[k]? = some (.changed p previous new audience)) (hs : audience[i]? = some s) :
    Orderly (H ++ [.told k i s p.key previous]) ((k, i + 1) :: pending) := by
  obtain ⟨outer, nested⟩ := List.pairwise_cons.1 h.nested
  obtain ⟨_, _, _, _, hk', -, calls⟩ := h.partly _ List.mem_cons_self
  cases hk.symm.trans hk'
  constructor
  case toSound =>
    refine h.toSound.told hk hs (fun q hq => lt_irrefl i ((calls i).1 ⟨q, hq⟩)) fun hl hc => ?_
    -- a change after the innermost pending one is not pending
    exact h.full hc fun c hc => ((h.le_of_pending hc).trans_lt hl).ne
  case full =>
    intro l r old new others hl hp j hj
    have apart : ∀ c ∈ (k, i) :: pending, c.1 ≠ l := by
      intro c hc
      rcases List.mem_cons.1 hc with rfl | hc
      · exact hp (k, i + 1) List.mem_cons_self
      · exact hp c (List.mem_cons_of_mem _ hc)
    obtain ⟨q, hq⟩ := h.full (changed_of_concat_told hl) apart j hj
    exact ⟨q, tells_concat_told.2 (.inl hq)⟩
  case partly =>
    intro c hc
    rcases List.mem_cons.1 hc with rfl | hc
    · refine ⟨p, previous, new, audience, getElem?_concat hk _, (List.getElem?_eq_some_iff.1 hs).1,
        fun j => ?_⟩
      constructor
      · rintro ⟨q, hq⟩
        rcases tells_concat_told.1 hq with hq | ⟨-, -, rfl⟩
        · exact Nat.lt_succ_of_lt ((calls j).1 ⟨q, hq⟩)
        · exact Nat.lt_succ_self i
      · intro hj
        rcases Nat.lt_succ_iff_lt_or_eq.1 hj with hj | rfl
        · obtain ⟨q, hq⟩ := (calls j).2 hj
          exact ⟨q, tells_concat_told.2 (.inl hq)⟩
        · exact ⟨H.length, tells_concat_told.2 (.inr ⟨rfl, rfl, rfl⟩)⟩
    · obtain ⟨r, old, new, others, hl, hn, called⟩ := h.partly c (List.mem_cons_of_mem _ hc)
      refine ⟨r, old, new, others, getElem?_concat hl _, hn, fun j => ?_⟩
      rw [← called j]
      refine exists_congr fun q => tells_concat_told.trans (or_iff_left ?_)
      rintro ⟨-, he, -⟩
      exact (outer c hc).ne he.symm
  case nested => exact List.pairwise_cons.2 ⟨outer, nested⟩

/-- The innermost pending change is over when all of its audience have been called. -/
theorem finished (h : H.Orderly ((k, audience.length) :: pending))
    (hk : H[k]? = some (.changed p old new audience)) : H.Orderly pending where
  toSound := h.toSound
  full {l} _ _ _ _ hl hp i hi := by
    by_cases he : k = l
    · subst he
      cases hk.symm.trans hl
      obtain ⟨_, _, _, _, -, -, calls⟩ := h.partly _ List.mem_cons_self
      exact (calls i).2 hi
    · refine h.full hl (fun c hc => ?_) i hi
      rcases List.mem_cons.1 hc with rfl | hc
      · exact he
      · exact hp c hc
  partly c hc := h.partly c (List.mem_cons_of_mem _ hc)
  nested := (List.pairwise_cons.1 h.nested).2

/-- When nothing is pending, each of the audience of a change has been called once. -/
theorem existsUnique_told (h : H.Orderly [])
    (hk : H[k]? = some (.changed p old new audience)) (hs : audience[i]? = some s) :
    ∃! q : Nat, H[q]? = some (.told k i s p.key old) := by
  obtain ⟨q, s', name, previous, hq⟩ :=
    h.full hk (fun _ hc => nomatch hc) i (List.getElem?_eq_some_iff.1 hs).1
  obtain ⟨-, _, _, _, hk', rfl, hs'⟩ := h.refers hq
  cases hk.symm.trans hk'
  cases hs.symm.trans hs'
  exact ⟨q, hq, fun q' hq' => h.once ⟨_, _, _, hq'⟩ ⟨_, _, _, hq⟩⟩

end Orderly

end History

end Bxml
