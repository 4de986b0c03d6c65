import Bxml.Proofs.Load.Lasting
import Bxml.Proofs.Load.Moments

/-!
# What lasts through whole loads

A load changes a world by the operations of the documents in it, and by the registration of ids.  A
relation between a world and a later one that respects all of these holds between the worlds before
and after every event and every load, however it ends.

One lemma for each operation of `Load/Composition.lean` and the modules after it, up to
`loadNested`, by induction on the depth.  The changes themselves are those of `World/Lasting.lean`;
registration of ids is a hypothesis of its own, since the relations that matter differ in it: that
listener lists stay (`World/Listeners.lean`), that ids stay (`World/Gathering.lean`), that what is
exhausted stays so.
-/

namespace Bxml

open World (Lasting)

/-- A lasting relation that the registration of an id respects as well. -/
class World.Enduring (R : World → World → Prop) : Prop extends Lasting R where
  putId {w v : World} {t : TableId} {id : String} {a : Value} : w.putId t id a = .ok v → R w v

theorem Op.Keeps.update {ε : Type} {R : World → World → Prop} [Lasting R]
    {f : World → Except ε World} (hf : ∀ w v, f w = .ok v → R w v) : (Op.update f).Keeps R := by
  intro w
  rw [Op.update_runIn]
  cases h : f w with
  | error e => exact Lasting.refl w
  | ok v => exact hf w v h

namespace Loader.Keeps

variable {R : World → World → Prop} [World.Enduring R] {l : Loader} (hl : l.Keeps R)

include hl

theorem registerId (c : DocumentContext) (h : Held) (e : Element) :
    (registerId l c h e).Keeps R := by
  unfold Bxml.registerId
  split
  · refine .bind (.mapError _ (.update fun _ _ => World.Enduring.putId)) fun _ => ?_
    split
    · refine .bind (.read _) fun property => ?_
      split
      · exact .mapError _ (hl.host.setProperty _ _ _ _)
      · exact .pure _
    · exact .pure _
  · exact .pure _

theorem closeElement (c : DocumentContext) (d : Draft) (at_ : Location) :
    (d.closeElement l c at_).Keeps R := by
  unfold Draft.closeElement
  split
  · exact keeps_failAt _ _
  · exact .bind (hl.closeAs _ _ _) fun _ => .bind (hl.registerId _ _ _) fun _ => .pure _

section

variable {nested : Option NestedLoad}
  (hn : ∀ n, nested = some n → ∀ c parented source, (n c parented source).Keeps R)

include hn

/-- An element is opened with the value of an included document, which is loaded by what is there
for it, or with the value it has itself. -/
theorem openElement (c : DocumentContext) (d : Draft) (tag : Xml.StartTag) (at_ : Location) :
    (d.openElement l c nested tag at_).Keeps R := by
  intro w
  unfold Draft.openElement
  dsimp only
  rw [Op.bind_runIn]
  have started := hl.startElement c nested (d.settleLanguage l) tag at_ w
  cases hs : (Bxml.startElement l c nested (d.settleLanguage l) tag at_).runIn w with
  | mk r u =>
    rw [hs] at started
    cases r with
    | error e => exact started
    | ok a =>
      obtain ⟨x, origin⟩ := a
      refine Lasting.trans started ?_
      cases origin with
      | known v => exact Draft.keeps_push _ _ _ _ u
      | inclusion n i =>
        obtain ⟨_, hp⟩ := startElement_inclusion hs
        have loads (source : String) := hn n (prepareInclusion_fst hp) i.context d.parented source
        refine Op.Keeps.bind (.mapError _ ?_) (fun _ => Draft.keeps_push _ _ _ _) u
        exact .bind (.ofExcept _) fun source => .bind (loads source) fun _ => .pure _

theorem step (c : DocumentContext) (d : Draft) (x : Xml.Located) :
    (d.step l c nested x).Keeps R := by
  unfold Draft.step
  split
  · exact addInstruction _ _ _ _
  · exact hl.openElement hn _ _ _ _
  · exact hl.closeElement _ _ _
  · exact hl.addText _ _ _ _

theorem takeEvents (c : DocumentContext) (d : Draft) (items : List Xml.Located) :
    (takeEvents l c nested d items).Keeps R :=
  .foldlM fun _ _ => .onError (hl.step hn _ _ _) (reportFailure_lasts _ _)

theorem loadWith (c : DocumentContext) (parented : List ObjectId) (source : String) :
    (loadWith l nested c parented source).Keeps R := by
  refine .bind (.change fun w => Lasting.emit w _) fun _ => ?_
  exact .bind (hl.takeEvents hn _ _ _) fun d => hl.complete _ _ d

end

theorem loadNested (n : Nat) (c : DocumentContext) (parented : List ObjectId) (source : String) :
    (loadNested l n c parented source).Keeps R := by
  induction n generalizing c parented source with
  | zero => exact hl.loadWith (fun _ h => by cases h) _ _ _
  | succ n ih =>
    refine hl.loadWith (fun m h => ?_) _ _ _
    cases h
    exact ih

end Loader.Keeps

end Bxml
