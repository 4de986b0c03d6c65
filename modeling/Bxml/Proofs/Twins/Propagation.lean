import Bxml.Bundle.Loader
import Bxml.Proofs.Twins.Changes

/-!
# Writes and look-ups in twin worlds

A host is uniform if what it provides does the same in worlds that have come about by the same
steps: its engines and hooks depend on nothing but what they are given.  Then a write does the same,
with all that is passed on because of it, and so does a look-up in a bundle.

`Host.Uniform` is the condition, `SameWrite` says that a way to write does the same, and
`Uniform.write` is the induction on how often changes may be passed on.  Whether a binding copies
depends on its ends being alive; that they are on both sides or on neither is `SameHeld.isAlive_eq`
of `Twins/Worlds.lean`.
-/

namespace Bxml

/-- Whether what a host provides does the same in twin worlds. -/
structure Host.Uniform (S : Twins) (host : Host) : Prop where
  function {e : EngineId} {name : String} {f : ScriptFunction} :
    (host.engine e).functions.get? name = some f → ∀ {h h' args args'}, S.SameHeld h h' →
      List.Forall₂ S.SameValue args args' → S.SameOp (.exact _) S.SameValue (f h args) (f h' args')
  evaluator {e : EngineId} {f : Evaluator} :
    (host.engine e).evaluator = some f → ∀ {h h' t u} source, S.SameHeld h h' → S.SameTable t u →
      S.SameOp (.exact _) S.SameValue (f h source t) (f h' source u)
  hook (k : HookId) {h h' : Held} {o p : ObjectId} {t u : TableId} (location : Option Url) :
    S.SameHeld h h' → S.SameObject o p → S.SameTable t u →
      S.SameOp (.exact _) Eq (host.hook k h o t location) (host.hook k h' p u location)

/-- Whether a way to write a property does the same in twin worlds. -/
def Twins.SameWrite (S : Twins) (write : Write) : Prop :=
  ∀ {h h' : Held} {o p : ObjectId} (name : String) {v v' : Value}, S.SameHeld h h' →
    S.SameObject o p → S.SameValue v v' →
      S.SameOp (.exact _) Eq (write h o name v) (write h' p name v')

namespace Host.Uniform

open Twins

variable {S : Twins} {host : Host} (hh : host.Uniform S) {h h' : Held}

include hh

theorem invoke (e : EngineId) (name : String) {args args' : List Value} (held : S.SameHeld h h')
    (ha : List.Forall₂ S.SameValue args args') :
    S.SameOp (.exact _) S.SameValue ((host.engine e).invoke name h args)
      ((host.engine e).invoke name h' args') := by
  unfold Engine.invoke
  split
  · next hf => exact hh.function hf (held.keepSame ha) ha
  · exact .throwSame _

theorem eval (e : EngineId) (source : String) {t u : TableId} (held : S.SameHeld h h')
    (ht : S.SameTable t u) :
    S.SameOp (.exact _) S.SameValue ((host.engine e).eval h source t)
      ((host.engine e).eval h' source u) := by
  unfold Engine.eval
  split
  · next hf => exact hh.evaluator hf source held ht
  · exact .throwSame _

theorem mapped (m : Option Mapping) {v v' : Value} (held : S.SameHeld h h')
    (hv : S.SameValue v v') :
    S.SameOp (.exact _) S.SameValue (host.mapped h m v) (host.mapped h' m v') := by
  unfold Host.mapped
  cases m with
  | none => exact .pure hv
  | some m => exact (hh.invoke _ _ held (.cons hv .nil)).mapSame _

theorem copyAlong {write : Write} (hw : S.SameWrite write) {b b' : Binding}
    (held : S.SameHeld h h') (hb : S.SameBinding b b') :
    S.SameOp (.exact _) Eq (host.copyAlong write h b) (host.copyAlong write h' b') := by
  unfold Host.copyAlong
  rw [hb.sourceKey, hb.targetKey, hb.mapping]
  have alive {w w' : World} (hs : S.SameWorld w w') :
      (w.isAlive h b.source && w.isAlive h b.target) =
        (w'.isAlive h' b'.source && w'.isAlive h' b'.target) := by
    rw [hs.isAlive_eq held hb.source, hs.isAlive_eq held hb.target]
  refine .bind (.read alive) fun ha => .ite (by rw [ha]) ?_ (.pure rfl)
  have both := held.keepSame (.cons (.object hb.source) (.cons (.object hb.target) .nil))
  refine .bind (.mapSame (.check fun hw => (hw.object hb.source).getProperty _) _) fun hv => ?_
  refine .bind (hh.mapped _ both hv) fun hv => ?_
  refine .bind (.read fun hw => (hw.object hb.target).holds b'.targetKey hv) fun hc => ?_
  exact .ite (by rw [hc]) (.pure rfl) ((hw _ both hb.target hv).mapSame _)

theorem tell {write : Write} (hw : S.SameWrite write) (name : String) {previous previous' : Value}
    {s s' : Subscriber} (held : S.SameHeld h h') (hs : S.SameSubscriber s s') :
    S.SameOp (.exact _) Eq (host.tell write h name previous s)
      (host.tell write h' name previous' s') := by
  cases hs with
  | watcher label => exact .emit _ _
  | binding hb =>
    refine .bind (hh.copyAlong hw held hb).attempt fun hr => ?_
    cases hr with
    | ok _ => exact .pure rfl
    | error e => exact .log _ _ _ _

omit hh in
/-- A write does the same if the publication of a change does. -/
theorem writeThen {publish : Held → ObjectId → String → Value → Op PropertyError Unit}
    (hp : S.SameWrite publish) : S.SameWrite (Host.writeThen publish) := by
  intro h h' o p name v v' held ho hv w w' hw
  unfold Op.runIn Host.writeThen
  obtain ⟨⟨u, previous⟩, ⟨u', previous'⟩, hx, hx', same⟩ | ⟨e, hx, hx'⟩ :=
    (hw.assign ho name hv).ok_or_error
  · rw [hx, hx']
    obtain ⟨world, told⟩ := same
    cases told with
    | none => exact .ok rfl world
    | some told =>
      have more := held.keepSame (.cons (.object ho) (.cons hv (.cons told .nil)))
      exact hp name more ho told _ _ world
  · rw [hx, hx']
    exact .error rfl hw

theorem write (n : Nat) : S.SameWrite (host.write n) := by
  induction n with
  | zero =>
    refine writeThen ?_
    intro h h' o p name v v' held ho hv
    refine .change fun hw => ?_
    split <;> split <;> exact hw.congr rfl rfl rfl rfl
  | succ n ih =>
    refine writeThen ?_
    intro h h' o p name v v' held ho hv
    refine .bind (.read fun hw => (hw.object ho).subscribersOf name) fun hs => ?_
    exact .forM hs fun hs => hh.tell ih name held hs

theorem setProperty : S.SameWrite host.setProperty := hh.write host.nesting

end Host.Uniform

namespace Twins

variable (S : Twins)

/-! ## Bundles -/

/-- Whether two layers have the same keys with values that correspond. -/
inductive SameLayer : BundleLayer → BundleLayer → Prop
  | map {m m' : Entries Value} : Entries.Rel S.SameValue m m' → SameLayer (.map m) (.map m')
  | json (fields : Json.Fields) : SameLayer (.json fields) (.json fields)

/-- Whether two bundles have the same layers. -/
def SameBundle (b b' : Bundle) : Prop := List.Forall₂ S.SameLayer b.layers b'.layers

variable {S}

mutual

theorem SameWorld.toValue : ∀ (j : Json) {w w' : World}, S.SameWorld w w' →
    S.SameValue (j.toValue w).1 (j.toValue w').1 ∧ S.SameWorld (j.toValue w).2 (j.toValue w').2
  | .null, _, _, hw => ⟨.null, hw⟩
  | .bool b, _, _, hw => ⟨.bool b, hw⟩
  | .int i, _, _, hw => ⟨.int i, hw⟩
  | .float x, _, _, hw => ⟨.float x, hw⟩
  | .string s, _, _, hw => ⟨.string s, hw⟩
  | .array items, _, _, hw => by
    obtain ⟨values, hv⟩ := SameWorld.toValues items hw
    obtain ⟨ho, hv⟩ := hv.alloc (.ofItems values)
    exact ⟨.object ho, hv⟩
  | .object fields, w, w', hw => by
    obtain ⟨entries, hv⟩ := SameWorld.toEntries fields hw
    have state : S.SameState
        ⟨.dictionary ⟨Object.dictionaryType, .ofList (Json.toEntries fields w).1, none⟩, []⟩
        ⟨.dictionary ⟨Object.dictionaryType, .ofList (Json.toEntries fields w').1, none⟩, []⟩ :=
      ⟨.dictionary ⟨rfl, .ofList entries, rfl⟩, .nil⟩
    obtain ⟨ho, hv⟩ := hv.alloc state
    exact ⟨.object ho, hv⟩

theorem SameWorld.toValues : ∀ (js : List Json) {w w' : World}, S.SameWorld w w' →
    List.Forall₂ S.SameValue (Json.toValues js w).1 (Json.toValues js w').1 ∧
      S.SameWorld (Json.toValues js w).2 (Json.toValues js w').2
  | [], _, _, hw => ⟨.nil, hw⟩
  | j :: r, _, _, hw => by
    obtain ⟨value, hv⟩ := SameWorld.toValue j hw
    obtain ⟨values, hv⟩ := SameWorld.toValues r hv
    exact ⟨.cons value values, hv⟩

theorem SameWorld.toEntries : ∀ (fs : List (String × Json)) {w w' : World}, S.SameWorld w w' →
    List.Forall₂ (fun p q => p.1 = q.1 ∧ S.SameValue p.2 q.2) (Json.toEntries fs w).1
        (Json.toEntries fs w').1 ∧
      S.SameWorld (Json.toEntries fs w).2 (Json.toEntries fs w').2
  | [], _, _, hw => ⟨.nil, hw⟩
  | (k, j) :: r, _, _, hw => by
    obtain ⟨value, hv⟩ := SameWorld.toValue j hw
    obtain ⟨values, hv⟩ := SameWorld.toEntries r hv
    exact ⟨.cons ⟨rfl, value⟩ values, hv⟩

end

/-- A look-up gives the same. -/
theorem SameWorld.lookup {w w' : World} (hw : S.SameWorld w w') {b b' : Bundle}
    (hb : S.SameBundle b b') (key : String) :
    Option.Rel S.SameValue (b.lookup key w).1 (b'.lookup key w').1 ∧
      S.SameWorld (b.lookup key w).2 (b'.lookup key w').2 := by
  rw [Bundle.lookup_eq, Bundle.lookup_eq]
  unfold SameBundle at hb
  generalize b.layers = layers, b'.layers = layers' at hb
  induction hb with
  | nil => exact ⟨.none, hw⟩
  | @cons x x' _ _ hx _ ih =>
    have defines : x.defines key = x'.defines key := by
      cases hx with
      | map h => exact h.contains key
      | json fields => rfl
    rw [List.find?_cons, List.find?_cons, defines]
    cases x'.defines key with
    | false => exact ih
    | true =>
      cases hx with
      | map h => exact ⟨h.get? key, hw⟩
      | json fields =>
        simp only [BundleLayer.find?]
        cases fields.find? key with
        | none => exact ⟨.none, hw⟩
        | some j => exact ⟨.some (SameWorld.toValue j hw).1, (SameWorld.toValue j hw).2⟩

/-- A bundle is loaded in the same way on both sides. -/
theorem SameOp.loadBundle (l : BundleLoader) (name : String) {b b' : Option Bundle}
    (hb : Option.Rel S.SameBundle b b') :
    S.SameOp (.exact _) S.SameBundle (l.load name b) (l.load name b') := by
  unfold BundleLoader.load
  refine .bind (.ofExceptSame _) fun {u u'} hu => ?_
  obtain rfl := hu
  refine .bind (.ofExceptSame _) fun {bytes bytes'} hy => ?_
  obtain rfl := hy
  refine .bind (.ofExceptSame _) fun {fields fields'} hf => ?_
  obtain rfl := hf
  dsimp only
  refine .bind (R := Eq) (.foldlM (R := Eq) (List.forall₂_same.2 fun _ _ => rfl) rfl ?_) ?_
  · rintro fields _ suffix _ rfl rfl
    refine .bind (.ofExceptSame _) fun {u u'} hu => ?_
    obtain rfl := hu
    refine .ite Iff.rfl ?_ (.pure rfl)
    refine .bind (.log _ _ _ _) fun _ => .bind (.ofExceptSame _) fun {bytes bytes'} hy => ?_
    obtain rfl := hy
    refine .bind (.ofExceptSame _) fun {above above'} ha => ?_
    obtain rfl := ha
    exact .bind (.forM (R := Eq) (List.forall₂_same.2 fun _ _ => rfl) fun _ => .log _ _ _ _)
      fun _ => .pure rfl
  · rintro fields _ rfl
    refine .pure ?_
    cases hb with
    | none => exact .cons (.json fields) .nil
    | some hb => exact .cons (.json fields) hb

end Twins

end Bxml
