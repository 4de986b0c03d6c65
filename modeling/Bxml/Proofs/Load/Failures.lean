import Bxml.Proofs.Load.Steps

/-!
# Failures

A load that fails reports why, once for each document it is in, and does nothing else before it
ends.  So whatever makes an event fail is the root cause of the failure of the whole load.

`loadNested_of_error` is the result, by induction over moments and what is inside them
(`Load/Moments.lean`).  `FailsAs` is what the induction carries.
-/

namespace Bxml

/-- A result is the failure `e` in the world `v`, when wrappers and reports are left aside. -/
def FailsAs {α : Type} (e : LoadError) (v : World) (r : Except LoadError α × World) : Prop :=
  ∃ f u, r = (.error f, u) ∧ f.rootCause = e.rootCause ∧ u.objects = v.objects ∧
    u.tables = v.tables

variable {l : Loader} {m : Moment} {e : LoadError} {v : World}

theorem failsAs_error {α : Type} (e : LoadError) (v : World) :
    FailsAs e v ((.error e, v) : Except LoadError α × World) :=
  ⟨e, v, rfl, rfl, rfl, rfl⟩

theorem failsAs_reportFailure {α β : Type} {c : DocumentContext} {at_ : Location} {f : LoadError}
    {u : World} (h : FailsAs e v ((.error f, u) : Except LoadError α × World)) :
    FailsAs e v ((.error f, reportFailure c at_ f u) : Except LoadError β × World) := by
  obtain ⟨_, _, hr, hf, ho, ht⟩ := h
  cases hr
  exact ⟨_, _, rfl, hf, ho, ht⟩

/-- A failure inside a document that an event includes is the failure of the event. -/
theorem Moment.failsAs_of_inside {ms : List Moment}
    (hi : m.Inside l (fun _ _ _ ms r =>
      ∀ m ∈ ms, ∀ e v, m.result l = (.error e, v) → FailsAs e v r) ms)
    {m' : Moment} (hm : m' ∈ ms) (h : m'.result l = (.error e, v)) :
    FailsAs e v (m.result l) := by
  cases hi with
  | nothing => cases hm
  | unread => cases hm
  | document hn hr hq =>
    obtain ⟨f, u, hl, hf, ho, ht⟩ := hq m' hm e v h
    rw [result_of_load_error hn (Inclusion.load_of_error hr hl)]
    exact ⟨_, _, rfl, hf, ho, ht⟩

/-- The failure of an event is that of the load. -/
theorem loadNested_of_error (n : Nat) (c : DocumentContext) (parented : List ObjectId)
    (source : String) (w : World) (hm : m ∈ momentsNested l n c parented source w)
    (h : m.result l = (.error e, v)) :
    FailsAs e v ((loadNested l n c parented source).runIn w) := by
  refine loadNested_induction (l := l)
    (P := fun _ _ _ ms r => ∀ m ∈ ms, ∀ e v, m.result l = (.error e, v) → FailsAs e v r)
    (Q := fun _ _ _ ms r => ∀ m ∈ ms, ∀ e v, m.result l = (.error e, v) → FailsAs e v r)
    ?nil ?fail ?step ?abort ?complete n c parented source w m hm e v h
  case nil =>
    intro _ _ _ m hm
    cases hm
  case fail =>
    intro m ms e w hi hr m' hm e' v h
    apply failsAs_reportFailure (α := Draft)
    rw [← hr]
    rcases List.mem_cons.1 hm with rfl | hm
    · rw [h]
      exact failsAs_error e' v
    · exact Moment.failsAs_of_inside hi hm h
  case step =>
    intro m ms d w ns r hi hr ih m' hm e v h
    rw [List.cons_append, List.mem_cons, List.mem_append] at hm
    rcases hm with rfl | hm | hm
    · rw [hr] at h
      cases h
    · obtain ⟨f, u, hf, -⟩ := Moment.failsAs_of_inside hi hm h
      rw [hr] at hf
      cases hf
    · exact ih m' hm e v h
  case abort =>
    intro _ _ _ _ f u ih m hm e v h
    obtain ⟨_, _, hr, hf⟩ := ih m hm e v h
    cases hr
    exact ⟨f, u, rfl, hf⟩
  case complete =>
    intro _ _ _ _ _ _ _ ih m hm e v h
    obtain ⟨_, _, hr, -⟩ := ih m hm e v h
    cases hr

end Bxml
