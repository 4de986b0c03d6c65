import Bxml.Proofs.Zones.Opening
import Bxml.Types.Registry

/-!
# Declared types in zones

An object of a declared type belongs to a zone if the values that its properties start with do.  So a
load that makes only such objects, and runs nothing from outside, stays in the zone.

`PropertySpec.IsIn` is the condition on a property, `TypeRegistry.StaysIn.register` adds a type, and
`TypeRegistry.StaysIn.loader` is the load.
-/

namespace Bxml

section

variable (Z : Zone)

/-- Whether the values that properties start with belong to a zone. -/
inductive PropertySpec.IsIn : PropertySpec → Prop
  | writable {t : ValueType} {v : Value} : Z.value v → IsIn (.writable t v)
  | readOnly {make : World → Value × World} :
      (∀ w, Z.world w → Z.value (make w).1 ∧ Z.world (make w).2) → IsIn (.readOnly make)
  | listeners {i : Interface} : IsIn (.listeners i)

/-- Whether the constructors and the setters of a registry stay in a zone. -/
structure TypeRegistry.StaysIn (r : TypeRegistry) : Prop where
  construct : r.constructors.All fun c => Op.StaysIn Z (fun o => Z.value (.object o)) c
  attach : r.attached.All fun setters => setters.All fun s : AttachedSetter =>
    ∀ h o v, Z.object o → Z.value v → (s h o v).Stays Z

end

variable {Z : Zone}

theorem PropertySpec.IsIn.newSlot {p : PropertySpec} (h : p.IsIn Z) {w : World} (hw : Z.world w) :
    (p.newSlot w).1.All Z.value ∧ Z.world (p.newSlot w).2 := by
  cases h with
  | writable hv =>
    refine ⟨?_, hw⟩
    rintro _ ⟨⟩
    exact hv
  | readOnly hm =>
    refine ⟨?_, (hm w hw).2⟩
    rintro _ ⟨⟩
    exact (hm w hw).1
  | listeners =>
    refine ⟨?_, hw⟩
    rintro _ ⟨⟩

namespace TypeDescriptor

theorem newSlots_in {ps : List (String × PropertySpec)} (h : ∀ p ∈ ps, p.2.IsIn Z) {w : World}
    (hw : Z.world w) :
    (∀ p ∈ (newSlots ps w).1, p.2.All Z.value) ∧ Z.world (newSlots ps w).2 := by
  induction ps generalizing w with
  | nil => exact ⟨nofun, hw⟩
  | cons p ps ih =>
    rw [List.forall_mem_cons] at h
    have first := h.1.newSlot hw
    have rest := ih h.2 first.2
    exact ⟨List.forall_mem_cons.2 ⟨first.1, rest.1⟩, rest.2⟩

/-- An object of a declared type belongs to a zone if its initial values do. -/
theorem stays_instantiate {ε : Type} {d : TypeDescriptor} (h : d.properties.All (PropertySpec.IsIn Z)) :
    Op.StaysIn Z (fun o => Z.value (.object o)) (.make d.instantiate : Op ε ObjectId) := by
  refine .make fun w hw => ?_
  have slots := newSlots_in (fun p hp => h.of_mem hp) hw
  have made := Z.alloc slots.2 (c := .bean ⟨d.name, d.defaultProperty, d.idProperty, _⟩)
    (.bean (.ofList slots.1))
  exact ⟨made.2.2, made.1⟩

end TypeDescriptor

namespace TypeRegistry.StaysIn

variable {r : TypeRegistry}

theorem empty : TypeRegistry.empty.StaysIn Z := ⟨.empty, .empty⟩

theorem register (h : r.StaysIn Z) {d : TypeDescriptor}
    (hd : d.properties.All (PropertySpec.IsIn Z)) : (r.register d).StaysIn Z where
  construct := h.construct.insert _ (TypeDescriptor.stays_instantiate hd)
  attach := h.attach

variable (h : r.StaysIn Z)

include h

theorem factory_construct (typeName : String) :
    (r.factory.construct typeName).StaysIn Z fun o => Z.value (.object o) := by
  unfold factory
  dsimp only
  split
  · next hc => exact h.construct _ _ hc
  · exact .throw _

theorem factory_attach (k : Held) (owner property : String) {o : ObjectId} {v : Value}
    (ho : Z.object o) (hv : Z.value v) : (r.factory.attach k owner property o v).Stays Z := by
  unfold factory
  dsimp only
  split
  · next hs =>
    obtain ⟨setters, hm, hs⟩ := Option.bind_eq_some_iff.1 hs
    exact .mapError (h.attach _ _ hm _ _ hs _ _ _ ho hv) _
  · exact .throw _

/-- A load of registered types stays in a zone if nothing from outside is run. -/
theorem loader {l : Loader} {language : String} (hh : l.host = .plain language)
    (hf : l.factory = r.factory) : l.StaysIn Z where
  host := by
    rw [hh]
    exact ⟨nofun⟩
  attach k owner property o v ho hv := by
    rw [hf]
    exact h.factory_attach k owner property ho hv
  evaluator := by
    rw [hh]
    nofun
  hook _ _ _ _ _ _ := by
    rw [hh]
    exact .pure trivial
  construct typeName := by
    rw [hf]
    exact h.factory_construct typeName

end TypeRegistry.StaysIn

end Bxml
