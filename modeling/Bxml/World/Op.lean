import Bxml.World.Alive
import Bxml.World.Table

/-!
# Operations on a world

An operation changes the world and may fail. What it did before it failed stays done, and stays in
the trace.
-/

namespace Bxml

/-- An operation that fails with an `ε` or gives an `α`. -/
abbrev Op (ε α : Type) := ExceptT ε (StateM World) α

namespace Op

variable {ε δ α : Type}

/-- What an operation does to a world. -/
def runIn (x : Op ε α) (w : World) : Except ε α × World := x w

/-- The operation that gives a known result and leaves the world alone. -/
def ofExcept (r : Except ε α) : Op ε α := fun w => (r, w)

/-- The operation that looks at the world. -/
def read (f : World → α) : Op ε α := fun w => (.ok (f w), w)

/-- The operation that looks at the world and may fail. -/
def check (f : World → Except ε α) : Op ε α := fun w => (f w, w)

/-- The operation that changes the world as `f` does. -/
def change (f : World → World) : Op ε Unit := fun w => (.ok (), f w)

/-- The operation that makes something new in the world. -/
def make (f : World → α × World) : Op ε α := fun w => (.ok (f w).1, (f w).2)

/-- The operation that changes the world, or fails and leaves it alone. -/
def update (f : World → Except ε World) : Op ε Unit := fun w =>
  match f w with
  | .ok v => (.ok (), v)
  | .error e => (.error e, w)

/-- The same operation with its failures seen as other failures. -/
def mapError (f : ε → δ) (x : Op ε α) : Op δ α := fun w =>
  match x w with
  | (.ok a, v) => (.ok a, v)
  | (.error e, v) => (.error (f e), v)

/-- The operation that gives what became of `x`. -/
def attempt (x : Op ε α) : Op δ (Except ε α) := fun w => (.ok (x w).1, (x w).2)

/-- The operation with a last step for its failures. -/
def onError (x : Op ε α) (f : ε → World → World) : Op ε α := fun w =>
  match x w with
  | (.ok a, v) => (.ok a, v)
  | (.error e, v) => (.error e, f e v)

/-- Adds to the trace. -/
def emit (e : Event) : Op ε Unit := change (·.emit e)

/-- Adds a log record to the trace. -/
def log (level : Level) (text : String) : Op ε Unit := change (·.log level text)

/-- The type name of an object. -/
def typeName (o : ObjectId) : Op ε String := read (·.typeName o)

@[simp] theorem pure_runIn (a : α) (w : World) : runIn (pure a : Op ε α) w = (.ok a, w) := rfl

@[simp] theorem throw_runIn (e : ε) (w : World) :
    runIn (throw e : Op ε α) w = (.error e, w) := rfl

@[simp] theorem ofExcept_runIn (r : Except ε α) (w : World) : (ofExcept r).runIn w = (r, w) := rfl

@[simp] theorem read_runIn (f : World → α) (w : World) :
    (read f : Op ε α).runIn w = (.ok (f w), w) := rfl

@[simp] theorem check_runIn (f : World → Except ε α) (w : World) :
    (check f).runIn w = (f w, w) := rfl

@[simp] theorem change_runIn (f : World → World) (w : World) :
    (change f : Op ε Unit).runIn w = (.ok (), f w) := rfl

@[simp] theorem make_runIn (f : World → α × World) (w : World) :
    (make f : Op ε α).runIn w = (.ok (f w).1, (f w).2) := rfl

@[simp] theorem log_runIn (level : Level) (text : String) (w : World) :
    (log level text : Op ε Unit).runIn w = (.ok (), w.log level text) := rfl

@[simp] theorem typeName_runIn (o : ObjectId) (w : World) :
    (typeName o : Op ε String).runIn w = (.ok (w.typeName o), w) := rfl

theorem update_runIn (f : World → Except ε World) (w : World) :
    (update f).runIn w =
      match f w with
      | .ok v => (.ok (), v)
      | .error e => (.error e, w) := rfl

theorem mapError_runIn (f : ε → δ) (x : Op ε α) (w : World) :
    (mapError f x).runIn w =
      match x.runIn w with
      | (.ok a, v) => (.ok a, v)
      | (.error e, v) => (.error (f e), v) := rfl

theorem mapError_runIn_eq_ok {f : ε → δ} {x : Op ε α} {w v : World} {a : α} :
    (mapError f x).runIn w = (.ok a, v) ↔ x.runIn w = (.ok a, v) := by
  rw [mapError_runIn]
  rcases x.runIn w with ⟨_ | _, _⟩ <;> simp

theorem mapError_runIn_of_error {f : ε → δ} {x : Op ε α} {w v : World} {e : ε}
    (h : x.runIn w = (.error e, v)) : (mapError f x).runIn w = (.error (f e), v) := by
  rw [mapError_runIn, h]

@[simp] theorem attempt_runIn (x : Op ε α) (w : World) :
    (attempt x : Op δ (Except ε α)).runIn w = (.ok (x.runIn w).1, (x.runIn w).2) := rfl

theorem onError_runIn (x : Op ε α) (f : ε → World → World) (w : World) :
    (onError x f).runIn w =
      match x.runIn w with
      | (.ok a, v) => (.ok a, v)
      | (.error e, v) => (.error e, f e v) := rfl

theorem bind_runIn {β : Type} (x : Op ε α) (f : α → Op ε β) (w : World) :
    runIn (x >>= f) w =
      match runIn x w with
      | (.ok a, v) => runIn (f a) v
      | (.error e, v) => (.error e, v) := by
  unfold runIn
  simp only [bind, ExceptT.bind, ExceptT.mk, StateT.bind, ExceptT.bindCont]
  rcases x w with ⟨_ | _, _⟩ <;> rfl

theorem ofExcept_runIn_eq_ok {r : Except ε α} {w v : World} {a : α} :
    (ofExcept r).runIn w = (.ok a, v) ↔ r = .ok a ∧ v = w := by
  rw [ofExcept_runIn, Prod.mk.injEq, eq_comm (a := w)]

/-- A sequence succeeds if both its parts do. -/
theorem bind_runIn_eq_ok {β : Type} {x : Op ε α} {f : α → Op ε β} {w v : World} {b : β} :
    (x >>= f).runIn w = (.ok b, v) ↔
      ∃ a u, x.runIn w = (.ok a, u) ∧ (f a).runIn u = (.ok b, v) := by
  rw [bind_runIn]
  rcases x.runIn w with ⟨e | a, u⟩
  · simp
  · constructor
    · exact fun h => ⟨a, u, rfl, h⟩
    · rintro ⟨_, _, h, k⟩
      cases h
      exact k

theorem bind_runIn_of_ok {β : Type} {x : Op ε α} {f : α → Op ε β} {w u : World} {a : α}
    (h : x.runIn w = (.ok a, u)) : (x >>= f).runIn w = (f a).runIn u := by
  rw [bind_runIn, h]

theorem bind_runIn_of_error {β : Type} {x : Op ε α} {f : α → Op ε β} {w u : World} {e : ε}
    (h : x.runIn w = (.error e, u)) : (x >>= f).runIn w = (.error e, u) := by
  rw [bind_runIn, h]

/-- A step for each of some things: once the first step has succeeded, the others follow. -/
theorem forM_cons_runIn_of_ok {f : α → Op ε Unit} {a : α} {r : List α} {w u : World}
    (h : (f a).runIn w = (.ok (), u)) : ((a :: r).forM f).runIn w = (r.forM f).runIn u := by
  change (f a >>= fun _ => r.forM f).runIn w = _
  exact bind_runIn_of_ok h

/-- What each of some steps keeps, all of them keep. -/
theorem forM_preserves {P : World → Prop} {f : α → Op ε Unit} {l : List α} {w v : World}
    (hf : ∀ a ∈ l, ∀ w v, P w → (f a).runIn w = (.ok (), v) → P v) (hw : P w)
    (h : (l.forM f).runIn w = (.ok (), v)) : P v := by
  induction l generalizing w with
  | nil =>
    cases h
    exact hw
  | cons a r ih =>
    obtain ⟨_, u, ha, hr⟩ := bind_runIn_eq_ok.1 h
    exact ih (fun b hb => hf b (List.mem_cons_of_mem _ hb)) (hf a List.mem_cons_self w u hw ha) hr

end Op

end Bxml
