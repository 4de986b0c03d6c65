import Bxml.Proofs.Load.Inlining
import Bxml.Proofs.World.Regions

/-!
# Hand-overs apart from what is attached

When an element ends, its value may go to an object, what is attached to it is applied to its value,
and its id is registered.  If nothing of this looks at what another part changes, the object may take
the value before or after the rest is done.

* `Separated` is the condition.  It names a region that taking the value is confined to, and asks of
  two parts of the rest that they skirt it: the attached attributes, with their values and setters, and
  the write of the property for the id, if something is bound to that.  Scripts of events and the
  registration of the id always do (`Separated.skirts_attachments`), so that the two may change places
  (`commutes_of_separated` in `Load/Handover.lean`).
* `Separated.of_unbound` meets the condition in the usual case: the value is another object than the
  one that takes it and the list in its default property, nothing is bound to it or to that property,
  and the attached attributes, if there are any, are texts or null that are stored in dictionaries.
-/

namespace Bxml

variable {l : Loader} {c : DocumentContext} {d : Draft} {e : Element} {o x : ObjectId} {v : Value}
  {at_ : Location} {h : Held} {language : String} {a : AttachedAttribute} {B : Region} {w u : World}

/-! ## Taking a value -/

/-- An object that takes a value, and the one it has as its default property. -/
def Region.taking (w : World) (o : ObjectId) : Region := fun p =>
  p = o ∨ ∃ property, (w.object o).defaultProperty = some property ∧
    (w.object o).getProperty property = .ok (.object p)

/-- Where nothing is bound to the default property of an object, adding a value to it is confined to
the object and what it has as its default property. -/
theorem confined_addChild (exist : ∀ p, B p → p.index < w.objects.size) (ho : B o)
    (current : ∀ property p, (w.object o).defaultProperty = some property →
      (w.object o).getProperty property = .ok (.object p) → B p)
    (unbound : ∀ property, (w.object o).defaultProperty = some property →
      (w.object o).IsUnbound property) :
    Op.Confined (fun h => addChild l h o v at_) B h w := by
  have same {u : World} (hu : w.Retains B u) : u.object o = w.object o := hu.object o ho
  cases hd : (w.object o).defaultProperty with
  | none =>
    cases hs : (w.object o).sequence? with
    | none =>
      refine ⟨none, fun h' u _ hu => ?_⟩
      dsimp only
      rw [addChild_of_noContainer (by rw [same hu, hd]) (by rw [same hu, hs])]
      exact .error
    | some items =>
      refine ⟨some fun p => (w.append o v).object p, fun h' u _ hu => ?_⟩
      dsimp only
      rw [addChild_of_item (by rw [same hu, hd]) (by rw [same hu, hs]; rfl)]
      exact Op.Confined.endsIn_modify hu exist ho _ (.refl _)
  | some property =>
    cases hp : (w.object o).getProperty property with
    | error f =>
      refine ⟨none, fun h' u _ hu => ?_⟩
      dsimp only
      rw [addChild_of_unreadable (by rw [same hu, hd]) (by rw [same hu, hp])]
      exact .error
    | ok b =>
      by_cases listed : ∃ q, b = .object q ∧ (w.object q).sequence?.isSome = true
      · obtain ⟨q, rfl, hq⟩ := listed
        have inside := current property q hd hp
        refine ⟨some fun p => (w.append q v).object p, fun h' u _ hu => ?_⟩
        dsimp only
        rw [addChild_of_listed (by rw [same hu, hd]) (by rw [same hu, hp])
          (by rw [hu.object q inside, hq])]
        exact Op.Confined.endsIn_modify hu exist inside _ (.refl _)
      · obtain ⟨r, hr⟩ := Op.Confined.setProperty l.host exist ho (unbound property hd) v h
        refine ⟨r, fun h' u hh hu => ?_⟩
        have unlisted (q : ObjectId) (hq : b = .object q) : (u.object q).sequence?.isSome = false := by
          rw [hu.object q (current property q hd (hq ▸ hp))]
          exact Bool.eq_false_iff.2 fun hs => listed ⟨q, hq, hs⟩
        have stored := hr h' u hh hu
        dsimp only
        rw [addChild_of_unlisted (by rw [same hu, hd]) (by rw [same hu, hp]) unlisted,
          Op.mapError_runIn]
        generalize (l.host.setProperty h' o property v).runIn u = i at stored
        cases stored with
        | ok outside inside => exact .ok outside inside
        | error => exact .error

/-! ## What is attached to an element -/

theorem skirts_failAt {α : Type} (at_ : Location) (f : StructureFault) :
    (failAt at_ f : Op LoadError α).Skirts B w := .throw _

theorem skirts_require (at_ : Location) (f : StructureFault) (p : Bool) :
    (require at_ f p).Skirts B w := by
  unfold require
  split
  · exact .pure ()
  · exact skirts_failAt _ _

/-- The script of an event is added to a list of the object. -/
theorem skirts_installEventScript (hx : ¬ B x) (property : String) (list : ListenerList) :
    (installEventScript l c language x property list a at_).Skirts B w := by
  unfold installEventScript
  refine .bind (skirts_require _ _ _) fun _ => .bind (.ofExcept _) fun _ => .bind (.log _ _) fun _ => ?_
  exact .modify hx fun _ => rfl

/-- An attribute that is attached to an object outside of a region skirts it if its value and its
setter do. -/
theorem skirts_applyAttachedAttribute (hx : ¬ B x)
    (value : (c.resolveAttribute a.value at_).Skirts B w)
    (setter : ∀ v u, (c.resolveAttribute a.value at_).runIn w = (.ok (.resolved v), u) →
      (l.factory.attach (h.keep [v]) a.ownerType a.member x v).Skirts B u) :
    (applyAttachedAttribute l c h language x at_ a).Skirts B w := by
  unfold applyAttachedAttribute
  refine .afterRead (fun u hu => by rw [hu.object x hx]) ?_
  split
  · exact skirts_installEventScript hx _ _
  · refine .bind value fun {b u} hb => ?_
    cases b with
    | binding => exact skirts_failAt _ _
    | resolved b =>
      refine .bind (.mapError (setter b u hb) _) fun _ => .afterRead (fun z hz => ?_) (.log _ _)
      unfold World.typeName
      rw [hz.object x hx]

/-- Whether an attached attribute is a text or null. -/
def AttachedAttribute.IsPlain (a : AttachedAttribute) : Prop :=
  ∃ form, AttributeForm.read a.value = .ok form ∧ ((∃ s, form = .literal s) ∨ form = .null)

/-- Texts and null stand for themselves, in every document. -/
theorem AttachedAttribute.IsPlain.resolved (ha : a.IsPlain) :
    ∃ v, ∀ (c : DocumentContext) at_, c.resolveAttribute a.value at_ = pure (.resolved v) := by
  obtain ⟨form, hr, hf⟩ := ha
  unfold DocumentContext.resolveAttribute
  rw [hr]
  obtain ⟨s, rfl⟩ | rfl := hf
  · exact ⟨.string s, fun _ _ => rfl⟩
  · exact ⟨.null, fun _ _ => rfl⟩

/-- A dictionary stores an attached property like any other. -/
theorem skirts_attach_of_dictionaries {host : Host} (hx : ¬ B x)
    (hb : ∀ name, (w.object x).IsUnbound name) (owner member : String) (v : Value) :
    ((TypeFactory.dictionaries host).attach h owner member x v).Skirts B w := by
  refine .afterRead (fun u hu => by rw [hu.object x hx]) ?_
  split
  · exact .mapError (Host.skirts_setProperty hx (hb _) _ _) _
  · exact .throw _

/-- An object in a dictionary to which nothing is bound keeps those who subscribed to it. -/
theorem subscribers_of_attached (hf : l.factory = .dictionaries l.host) (hp : a.IsPlain)
    (hb : ∀ name, (w.object x).IsUnbound name)
    (ha : (applyAttachedAttribute l c h language x at_ a).runIn w = (.ok (), u)) :
    (u.object x).subscribers = (w.object x).subscribers := by
  unfold applyAttachedAttribute at ha
  rw [Op.bind_runIn_of_ok (Op.read_runIn _ _)] at ha
  split at ha
  · simp only [installEventScript, Op.bind_runIn_eq_ok, require_eq_ok, Op.ofExcept_runIn_eq_ok] at ha
    obtain ⟨_, _, ⟨-, rfl⟩, _, _, ⟨-, rfl⟩, _, _, hl, ha⟩ := ha
    cases hl
    cases ha
    unfold World.addListener
    rw [World.object_modify_eq_ite]
    split
    · split
      · split <;> rfl
      · rfl
    · rfl
  · obtain ⟨b, resolved⟩ := hp.resolved
    rw [resolved, pure_bind, hf] at ha
    simp only [Op.bind_runIn_eq_ok, Op.mapError_runIn_eq_ok, Op.typeName_runIn] at ha
    obtain ⟨_, z, hz, _, _, ht, ha⟩ := ha
    cases ht
    cases ha
    change (z.object x).subscribers = _
    unfold TypeFactory.dictionaries at hz
    rw [Op.bind_runIn_of_ok (Op.read_runIn _ _)] at hz
    split at hz
    · rw [Op.mapError_runIn_eq_ok] at hz
      cases hx : w.assign x (qualified a.ownerType a.member) b with
      | error e =>
        rw [Host.setProperty_of_refused _ hx] at hz
        cases hz
      | ok y =>
        obtain ⟨v, run, hv⟩ := l.host.setProperty_of_unbound (hb _) hx (h.keep [b])
        rw [run] at hz
        cases hz
        rw [hv.object_eq]
        exact World.subscribers_of_assign (p := ⟨x, _⟩) hx x
    · cases hz

/-- Applies one of the attributes that are attached to a closed element. -/
def Draft.attach (d : Draft) (l : Loader) (c : DocumentContext) (e : Element) (x : ObjectId) :
    AttachedAttribute → Op LoadError Unit :=
  applyAttachedAttribute l c (d.held c e.heldValues) (d.languageIn l) x e.location

/-- An object to which nothing is bound stays so while plain attributes are stored in it. -/
theorem isUnbound_of_attached {before : List AttachedAttribute}
    (plain : ∀ a ∈ before, l.factory = .dictionaries l.host ∧ a.IsPlain)
    (hb : ∀ name, (w.object x).IsUnbound name)
    (hu : (before.forM (d.attach l c e x)).runIn w = (.ok (), u)) :
    ∀ name, (u.object x).IsUnbound name := by
  refine Op.forM_preserves (P := fun u => ∀ name, (u.object x).IsUnbound name)
    (fun a ha u v hu hv name => ?_) hb hu
  obtain ⟨hf, hp⟩ := plain a ha
  exact (hu name).of_subscribers (subscribers_of_attached hf hp hu hv)

/-! ## The condition -/

/-- Whether, for an element that ends in a world and the object that takes its value, the objects of a
region are all that taking the value looks at and changes, and all that is left to do with the element
neither looks at nor changes one of them. -/
structure Separated (l : Loader) (c : DocumentContext) (d : Draft) (e : Element) (o : ObjectId)
    (w : World) (B : Region) : Prop where
  taking : Op.Confined (fun h => addChild l h o e.value e.location) B (d.held c [e.value]) w
  apart : ∀ x, e.value = .object x → ¬ B x
  /-- Attached attributes other than scripts of events, where they are about to be applied. -/
  attaching : ∀ x before a after u, e.value = .object x → e.attached = before ++ a :: after →
    (before.forM (d.attach l c e x)).runIn w = (.ok (), u) →
    (u.object x).listeners? (listenersProperty a.owner) = none → (d.attach l c e x a).Skirts B u
  /-- The property for the id, if something is bound to it. -/
  naming : ∀ x id property y u, e.value = .object x → e.id = some id →
    (applyAttachedAttributes l c (d.held c e.heldValues) (d.languageIn l) e).runIn w = (.ok (), y) →
    y.putId c.table id e.value = .ok u → (u.object x).idProperty = some property →
    ¬ (u.object x).IsUnbound property →
    (l.host.setProperty (d.held c e.heldValues) x property (.string id)).Skirts B u

namespace Separated

/-- What is attached to the element skirts the region. -/
theorem skirts_attached (hs : Separated l c d e o w B) :
    (applyAttachedAttributes l c (d.held c e.heldValues) (d.languageIn l) e).Skirts B w := by
  unfold applyAttachedAttributes
  split
  · exact .pure ()
  · cases hv : e.value with
    | object x =>
      refine .bind (.pure x) fun {b z} hb => ?_
      cases hb
      refine .forM fun before a after u ha hu => ?_
      cases hl : (u.object x).listeners? (listenersProperty a.owner) with
      | none => exact hs.attaching x before a after u hv ha hu hl
      | some list =>
        have outside := hs.apart x hv
        unfold applyAttachedAttribute
        refine .afterRead (fun u hu => by rw [hu.object x outside]) ?_
        rw [hl]
        exact skirts_installEventScript outside _ _
    | _ => exact .bind (skirts_failAt _ _) fun hb => by cases hb

/-- The registration of the id skirts the region. -/
theorem skirts_registerId (hs : Separated l c d e o w B) {y : World}
    (hy : (applyAttachedAttributes l c (d.held c e.heldValues) (d.languageIn l) e).runIn w =
      (.ok (), y)) : (registerId l c (d.held c e.heldValues) e).Skirts B y := by
  unfold registerId
  cases hi : e.id with
  | none => exact .pure ()
  | some id =>
    refine .bind (.mapError (.putId _ _ _) _) fun {_ u} hu => ?_
    cases hv : e.value with
    | object x =>
      have outside := hs.apart x hv
      refine .afterRead (fun z hz => by rw [hz.object x outside]) ?_
      cases hp : (u.object x).idProperty with
      | none => exact .pure ()
      | some property =>
        refine .mapError ?_ _
        by_cases unbound : (u.object x).IsUnbound property
        · exact Host.skirts_setProperty outside unbound _ _
        · have put : y.putId c.table id e.value = .ok u := by
            rw [Op.mapError_runIn_eq_ok, Op.update_runIn] at hu
            split at hu
            · next h =>
              cases hu
              exact h
            · cases hu
          exact hs.naming x id property y u hv hi hy put hp unbound
    | _ => exact .pure ()

/-- All that is left to do with the element skirts the region. -/
theorem skirts_attachments (hs : Separated l c d e o w B) :
    (applyAttachments l c (d.held c e.heldValues) (d.languageIn l) e).Skirts B w :=
  .bind hs.skirts_attached fun hy => hs.skirts_registerId hy

/-- An element is apart from the object that takes its value if nothing is bound to their properties,
and all that is attached to the element is plain and stored in dictionaries. -/
theorem of_unbound (hv : e.value = .object x) (hx : x ≠ o) (ho : o.index < w.objects.size)
    (current : ∀ property p, (w.object o).defaultProperty = some property →
      (w.object o).getProperty property = .ok (.object p) → p ≠ x ∧ p.index < w.objects.size)
    (taker : ∀ property, (w.object o).defaultProperty = some property →
      (w.object o).IsUnbound property)
    (root : ∀ name, (w.object x).IsUnbound name)
    (plain : ∀ a ∈ e.attached, l.factory = .dictionaries l.host ∧ a.IsPlain) :
    Separated l c d e o w (.taking w o) := by
  have outside : ¬ Region.taking w o x := by
    rintro (same | ⟨property, hd, hp⟩)
    · exact hx same
    · exact (current property x hd hp).1 rfl
  have value {y : ObjectId} (hy : e.value = .object y) : x = y := by
    rw [hv] at hy
    exact Value.object.inj hy
  refine ⟨confined_addChild ?exist (.inl rfl) (fun property p hd hp => .inr ⟨property, hd, hp⟩) taker,
    fun y hy => value hy ▸ outside, fun y before a after u hy ha hu _ => ?attaching,
    fun y id property z u hy _ ha hu _ bound => absurd ?naming bound⟩
  case exist =>
    rintro p (rfl | ⟨property, hd, hp⟩)
    · exact ho
    · exact (current property p hd hp).2
  case attaching =>
    obtain rfl := value hy
    rw [ha] at plain
    have kept := isUnbound_of_attached
      (fun b hb => plain b (List.mem_append_left _ hb)) root hu
    obtain ⟨hf, hp⟩ := plain a (List.mem_append_right _ List.mem_cons_self)
    obtain ⟨b, resolved⟩ := hp.resolved
    refine skirts_applyAttachedAttribute outside (resolved c _ ▸ .pure _) fun b' z hz => ?_
    rw [resolved] at hz
    cases hz
    rw [hf]
    exact skirts_attach_of_dictionaries outside kept _ _ _
  case naming =>
    obtain rfl := value hy
    have same : u.object x = z.object x := by
      unfold World.object
      rw [World.objects_putId hu]
    rw [same]
    unfold applyAttachedAttributes at ha
    split at ha
    · cases ha
      exact root _
    · rw [hv] at ha
      exact isUnbound_of_attached plain root ha _

end Separated

end Bxml
