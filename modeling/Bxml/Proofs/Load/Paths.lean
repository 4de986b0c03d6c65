import Bxml.Load.Attribute
import Bxml.Proofs.Load.Bindings
import Bxml.Proofs.Watching
import Mathlib.Data.List.TakeWhile

/-!
# Bindings and references lead to the same value

A reference follows its path segment by segment.  A binding follows the segments before the last one
and reads a property of the object it comes to.  Both come to the same value: as long as nobody is
told of the change of its target, a binding can be applied exactly when a reference with its path
can be resolved, and its target reads what the reference stands for.

`bind_agrees_with_reference` is the result.  The two ways down a path part at the last segment,
where `follow_concat_eq_ok` takes a path apart.  Reading what the binding has written needs that its
target takes the value as it is, or converted to an equal one; `World.Shows` says so.
-/

namespace Bxml

/-- A property that leads to a value can be read. -/
theorem Object.getProperty_of_hasProperty {x : Object} {k : String} (h : x.hasProperty k = true) :
    ∃ a, x.getProperty k = .ok a := by
  unfold hasProperty propertyKind at h
  unfold getProperty
  cases hc : x.content with
  | bean b =>
    rw [hc] at h
    dsimp only at h ⊢
    cases hs : b.slots.get? k with
    | none => simp [hs] at h
    | some s =>
      rw [hs] at h
      cases s with
      | listeners l => cases h
      | writable t v => exact ⟨v, rfl⟩
      | readOnly v => exact ⟨v, rfl⟩
  | dictionary d => exact ⟨_, rfl⟩
  | list items =>
    rw [hc] at h
    dsimp only at h ⊢
    split_ifs at h ⊢ with hk
    · exact ⟨_, rfl⟩
    · cases hi : index? items k with
      | none => simp [hi] at h
      | some i =>
        rw [Option.bind_some, List.getElem?_eq_getElem (lt_of_index? hi)]
        exact ⟨_, rfl⟩

namespace World

variable {w : World} {v a : Value} {segments : List String} {k : String} {t : TableId}

/-! ## The last segment of a path -/

theorem follow_cons_eq_ok {s : String} : w.follow v (s :: segments) = .ok (some a) ↔
    ∃ o b, v = .object o ∧ (w.object o).hasProperty s = true ∧
      (w.object o).getProperty s = .ok b ∧ w.follow b segments = .ok (some a) := by
  cases v with
  | object o =>
    rw [follow]
    by_cases has : (w.object o).hasProperty s = true
    · obtain ⟨b, hb⟩ := Object.getProperty_of_hasProperty has
      simp [has, hb]
    · simp [has]
  | _ => simp [follow]

/-- The last segment of a path is a property of the object to which the others lead. -/
theorem follow_concat_eq_ok : w.follow v (segments ++ [k]) = .ok (some a) ↔
    ∃ o, w.follow v segments = .ok (some (.object o)) ∧ (w.object o).hasProperty k = true ∧
      (w.object o).getProperty k = .ok a := by
  induction segments generalizing v with
  | nil => simp [follow_cons_eq_ok, follow]
  | cons s r ih =>
    rw [List.cons_append]
    simp only [follow_cons_eq_ok, ih]
    constructor
    · rintro ⟨p, b, hv, hs, hb, o, ho, has, ha⟩
      exact ⟨o, ⟨p, b, hv, hs, hb, ho⟩, has, ha⟩
    · rintro ⟨o, ⟨p, b, hv, hs, hb, ho⟩, has, ha⟩
      exact ⟨p, b, hv, hs, hb, o, ho, has, ha⟩

theorem resolve_cons_eq_ok {id : String} : w.resolve t (id :: segments) = .ok a ↔
    ∃ b, (w.table t).get? id = some b ∧ w.follow b segments = .ok (some a) := by
  unfold resolve resolveIn
  dsimp only
  cases (w.table t).get? id with
  | none => simp
  | some b =>
    simp only [Option.some.injEq, exists_eq_left']
    cases w.follow b segments with
    | error e => simp
    | ok r => cases r <;> simp

theorem resolve_concat_eq_ok (h : segments ≠ []) : w.resolve t (segments ++ [k]) = .ok a ↔
    ∃ o, w.resolve t segments = .ok (.object o) ∧ (w.object o).hasProperty k = true ∧
      (w.object o).getProperty k = .ok a := by
  cases segments with
  | nil => exact absurd rfl h
  | cons id r =>
    rw [List.cons_append]
    simp only [resolve_cons_eq_ok, follow_concat_eq_ok]
    constructor
    · rintro ⟨b, hb, o, ho, has, ha⟩
      exact ⟨o, ⟨b, hb, ho⟩, has, ha⟩
    · rintro ⟨o, ⟨b, hb, ho⟩, has, ha⟩
      exact ⟨b, hb, o, ho, has, ha⟩

theorem lt_size_of_hasProperty {o : ObjectId} (h : (w.object o).hasProperty k = true) :
    o.index < w.objects.size := by
  refine Nat.lt_of_not_le fun hn => ?_
  unfold object at h
  rw [Array.getD_eq_getD_getElem?, Array.getElem?_eq_none hn] at h
  exact Bool.false_ne_true h

end World

/-! ## The text of a path -/

namespace AttributeForm

/-- The attribute value that binds a property to a path. -/
def bindingTo (path : String) : String :=
  String.ofList (referenceSentinel :: bindingOpen :: (path.toList ++ [bindingClose]))

/-- The attribute value that refers to what a path leads to. -/
def referenceTo (path : String) : String := String.ofList (referenceSentinel :: path.toList)

variable {path : String}

theorem read_bindingTo (he : path ≠ "") (ht : Text.trimChars path.toList = path.toList) :
    read (bindingTo path) = .ok (.binding path) := by
  have inside : bindingText? (bindingTo path).toList = some path.toList := by
    simp [bindingTo, bindingText?]
  unfold read
  rw [inside]
  dsimp only
  rw [ht]
  cases hp : path.toList with
  | nil => exact absurd (String.toList_eq_nil_iff.1 hp) he
  | cons c r =>
    dsimp only
    rw [← hp, String.ofList_toList]

theorem read_referenceTo (he : path ≠ "") (hc : mappingDelimiter ∉ path.toList)
    (hs : path.toList.head? ≠ some referenceSentinel)
    (hb : bindingText? (referenceTo path).toList = none) :
    read (referenceTo path) = .ok (.reference path) := by
  have chars : (referenceTo path).toList = referenceSentinel :: path.toList :=
    String.toList_ofList
  have named : path.toList ≠ nullPath := by
    intro hp
    rw [hp] at hc
    exact hc (by decide)
  unfold read
  rw [hb, chars]
  cases hp : path.toList with
  | nil => exact absurd (String.toList_eq_nil_iff.1 hp) he
  | cons c r =>
    rw [hp] at hs named
    have first : c ≠ referenceSentinel := fun h => hs (by rw [h]; rfl)
    have sentinel : ¬ referenceSentinel = locationSentinel ∧
      ¬ referenceSentinel = resourceSentinel := by decide
    simp only [readPlain, sentinel.1, sentinel.2, readAfter, first, if_false, if_true, ofReference,
      named]
    rw [← hp, String.ofList_toList]

end AttributeForm

/-- A reference stands for the value to which its path leads. -/
theorem resolveAttribute_referenceTo {c : DocumentContext} {w : World} {path : String}
    (he : path ≠ "") (hc : mappingDelimiter ∉ path.toList)
    (hs : path.toList.head? ≠ some AttributeForm.referenceSentinel)
    (hb : AttributeForm.bindingText? (AttributeForm.referenceTo path).toList = none)
    (at_ : Location) :
    (c.resolveAttribute (AttributeForm.referenceTo path) at_).runIn w =
      ((w.resolvePath c.table path).mapError .table |>.map .resolved, w) := by
  unfold DocumentContext.resolveAttribute
  rw [AttributeForm.read_referenceTo he hc hs hb]
  unfold DocumentContext.resolveForm
  simp only [Op.bind_runIn, Op.mapError_runIn, Op.ofExcept_runIn, Op.check_runIn]
  cases w.resolvePath c.table path <;> rfl

theorem splitMapping_of_not_mem {path : String} (h : mappingDelimiter ∉ path.toList) :
    splitMapping path = (none, path) := by
  have all : path.toList.takeWhile (· != mappingDelimiter) = path.toList :=
    List.takeWhile_eq_self_iff.2 fun c hc => bne_iff_ne.2 fun e => h (e ▸ hc)
  unfold splitMapping
  dsimp only
  rw [all, List.drop_length]

/-! ## Bindings to a target that nobody hears -/

variable {l : Loader} {c : DocumentContext} {h : Held} {language : String} {w : World}
  {p : PendingBinding} {b : Binding} {a : Value}

/-- Whether a place reads a value or one that is equal to it. -/
def World.Shows (w : World) (p : Place) (a : Value) : Prop :=
  ∃ c, w.read p = .ok c ∧ (c = a ∨ (c == a) = true)

theorem Object.holds_eq_true {x : Object} {k : String} :
    x.holds k a = true ↔ ∃ c, x.getProperty k = .ok c ∧ (c == a) = true := by
  unfold holds
  cases x.getProperty k <;> simp

/-- A binding between living objects copies the value at its source. -/
theorem shows_of_copyAlong (host : Host) (n : Nat) (hm : b.mapping = none)
    (hs : w.isAlive h b.source = true) (ht : w.isAlive h b.target = true)
    (ha : w.read b.origin = .ok a) (hc : w.converted b.goal a = .ok a)
    (hq : (w.object b.target).subscribersOf b.targetKey = []) :
    ∃ v, (host.copyAlong (host.write n) h b).runIn w = (.ok (), v) ∧ v.Shows b.goal a ∧
      v.objects.size = w.objects.size ∧ v.exhausted = w.exhausted := by
  have alive : (w.isAlive h b.source && w.isAlive h b.target) = true := by rw [hs, ht]; rfl
  have run := Host.copyAlong_runIn_of_unmapped host (host.write n) hm alive ha
  by_cases holds : (w.object b.target).holds b.targetKey a = true
  · rw [if_pos holds] at run
    obtain ⟨c, hc, same⟩ := Object.holds_eq_true.1 holds
    exact ⟨w, run, ⟨c, hc, .inr same⟩, rfl, rfl⟩
  · rw [if_neg holds] at run
    obtain ⟨v, hv, wrote⟩ := host.write_of_unheard (p := b.goal)
      (h := h.keep [.object b.source, .object b.target]) n (World.lt_size_of_isAlive ht) hc hq
    exact ⟨v, run.trans (Op.mapError_runIn_eq_ok.2 hv), ⟨a, wrote.read_self, .inl rfl⟩, wrote.size,
      wrote.exhausted⟩

/-- Once a connection is made, its target shows the value at its source. -/
theorem shows_of_connect (hm : b.mapping = none)
    (hs : w.isAlive h b.source = true) (ht : w.isAlive h b.target = true)
    (ha : w.read b.origin = .ok a) (hc : w.converted b.goal a = .ok a)
    (hq : (w.object b.target).subscribersOf b.targetKey = []) (path : String) :
    ∃ v, (connect l h b path).runIn w = (.ok (), v) ∧ v.Shows b.goal a ∧
      v.exhausted = w.exhausted := by
  obtain ⟨u, hu, shows, size, exhausted⟩ :=
    shows_of_copyAlong l.host l.host.nesting hm hs ht ha hc hq
  have ho : b.source.index < u.objects.size := by
    rw [size]
    exact World.lt_size_of_isAlive hs
  have copied : (l.host.copyAlong l.host.setProperty h b).runIn w = (.ok (), u) := hu
  unfold connect
  rw [Op.bind_runIn_of_ok (Op.mapError_runIn_eq_ok.2 copied)]
  simp only [Op.bind_runIn, Op.typeName_runIn, Op.read_runIn]
  cases (u.object b.source).publishes with
  | true =>
    obtain ⟨d, hd, same⟩ := shows
    exact ⟨_, rfl, ⟨d, (World.read_subscribe ho).trans hd, same⟩, exhausted⟩
  | false => exact ⟨_, rfl, shows, exhausted⟩

/-- A dictionary takes every value as it is. -/
theorem converted_of_dictionary {o : ObjectId} {k : String}
    (hd : (w.object o).dictionary?.isSome = true) : w.converted ⟨o, k⟩ a = .ok a := by
  unfold World.converted Object.converted
  unfold Object.dictionary? at hd
  cases hc : (w.object o).content with
  | dictionary d => rfl
  | _ =>
    rw [hc] at hd
    cases hd

/-- A binding whose target nobody hears can be applied if its path can be resolved, and its target
shows the value to which the path leads. -/
theorem shows_of_bind (hne : p.expression ≠ "") (hp : mappingDelimiter ∉ p.expression.toList)
    (ho : p.target.index < w.objects.size) (hd : (w.object p.target).dictionary?.isSome = true)
    (hq : (w.object p.target).subscribersOf p.targetKey = [])
    (ha : w.resolvePath c.table p.expression = .ok a) :
    ∃ v, (bind l c h language p).runIn w = (.ok (), v) ∧ v.Shows p.place a ∧
      v.exhausted = w.exhausted := by
  have plain := splitMapping_of_not_mem hp
  have unmapped : p.Unmapped := by rw [PendingBinding.Unmapped, plain]
  have written : (splitMapping p.expression).2.isEmpty = false := by
    rw [plain]
    simpa [String.isEmpty_iff] using hne
  have taken : w.converted p.place a = .ok a := converted_of_dictionary hd
  have path : w.resolve c.table p.segments = .ok a := by
    rw [PendingBinding.segments, plain]
    exact ha
  obtain ⟨front, key, hs⟩ : ∃ front key, p.segments = front ++ [key] :=
    (List.eq_nil_or_concat' _).resolve_left (pathSegments_ne_nil _)
  rw [hs] at path
  by_cases hf : front = []
  · subst hf
    obtain ⟨v, hv, wrote⟩ := l.host.write_of_unheard (h := h.keep [.object p.target])
      l.host.nesting (p := p.place) ho taken hq
    refine ⟨v, (bind_eq_ok_iff unmapped).2 ⟨written, .inl ⟨key, a, hs, ?_, hv⟩⟩,
      ⟨a, wrote.read_self, .inl rfl⟩, wrote.exhausted⟩
    exact resolve_singleton.1 path
  · obtain ⟨o, toObject, has, read⟩ := (World.resolve_concat_eq_ok hf).1 path
    have source := World.isAlive_of_held (h := (h.keep [.object p.target]).keep [.object o])
      (by simp [Held.keep]) (World.lt_size_of_hasProperty has)
    have target := World.isAlive_of_held (h := (h.keep [.object p.target]).keep [.object o])
      (by simp [Held.keep]) ho
    obtain ⟨v, hv, shows, exhausted⟩ :=
      shows_of_connect (l := l) (b := ⟨o, key, p.target, p.targetKey, none⟩) rfl source target read
        taken hq (splitMapping p.expression).2
    refine ⟨v, (bind_eq_ok_iff unmapped).2 ⟨written, .inr ?_⟩, shows, exhausted⟩
    exact ⟨front, key, o, hs, hf, toObject, has, hv⟩

/-- A binding that can be applied has a path that can be resolved. -/
theorem resolvePath_of_bind {v : World} (hp : mappingDelimiter ∉ p.expression.toList)
    (hr : (bind l c h language p).runIn w = (.ok (), v)) :
    ∃ a, w.resolvePath c.table p.expression = .ok a := by
  have plain := splitMapping_of_not_mem hp
  have unmapped : p.Unmapped := by rw [PendingBinding.Unmapped, plain]
  have segments : p.segments = pathSegments p.expression := by
    rw [PendingBinding.segments, plain]
  unfold World.resolvePath
  rw [← segments]
  rcases ((bind_eq_ok_iff unmapped).1 hr).2 with
    ⟨id, a, hs, ha, -⟩ | ⟨front, key, o, hs, hf, ho, has, -⟩
  · rw [hs]
    exact ⟨a, resolve_singleton.2 ha⟩
  · obtain ⟨a, ha⟩ := Object.getProperty_of_hasProperty has
    rw [hs]
    exact ⟨a, (World.resolve_concat_eq_ok hf).2 ⟨o, ho, has, ha⟩⟩

/-- A binding to a target that nobody hears can be applied exactly when its path can be resolved,
which is what a reference with the path does, and its target shows the same value then. -/
theorem bind_agrees_with_reference (l : Loader) (c : DocumentContext) (h : Held)
    (language : String) (w : World) (p : PendingBinding) (nonempty : p.expression ≠ "")
    (unmapped : mappingDelimiter ∉ p.expression.toList)
    (trimmed : Text.trimChars p.expression.toList = p.expression.toList)
    (exists_target : p.target.index < w.objects.size)
    (dictionary : (w.object p.target).dictionary?.isSome = true)
    (unheard : (w.object p.target).subscribersOf p.targetKey = []) :
    AttributeForm.read (AttributeForm.bindingTo p.expression) = .ok (.binding p.expression) ∧
    (p.expression.toList.head? ≠ some AttributeForm.referenceSentinel →
      AttributeForm.bindingText? (AttributeForm.referenceTo p.expression).toList = none →
      ∀ at_, (c.resolveAttribute (AttributeForm.referenceTo p.expression) at_).runIn w =
        ((w.resolvePath c.table p.expression).mapError .table |>.map .resolved, w)) ∧
    (((bind l c h language p).runIn w).1 = .ok () ↔
      ∃ a, w.resolvePath c.table p.expression = .ok a) ∧
    ∀ a, w.resolvePath c.table p.expression = .ok a →
      ∃ v, (bind l c h language p).runIn w = (.ok (), v) ∧ v.Shows p.place a ∧
        v.exhausted = w.exhausted := by
  have shows : ∀ a, w.resolvePath c.table p.expression = .ok a →
      ∃ v, (bind l c h language p).runIn w = (.ok (), v) ∧ v.Shows p.place a ∧
        v.exhausted = w.exhausted :=
    fun a => shows_of_bind nonempty unmapped exists_target dictionary unheard
  refine ⟨AttributeForm.read_bindingTo nonempty trimmed,
    resolveAttribute_referenceTo nonempty unmapped, ⟨fun hr => ?_, ?_⟩, shows⟩
  · exact resolvePath_of_bind unmapped (Prod.ext hr rfl)
  · rintro ⟨a, ha⟩
    obtain ⟨v, hv, -⟩ := shows a ha
    rw [hv]

/-- An item of a list in a dictionary. -/
theorem bind_agrees_with_reference_item :
    let dictionary (entries : Entries Value) : Object := ⟨.dictionary ⟨"A", entries, none⟩, []⟩
    let w : World := {
      World.empty with
      objects := #[dictionary (.ofList [("items", .object ⟨1⟩)]), .ofItems [.int 5, .int 7],
        dictionary .empty]
      tables := #[.ofList [("a", .object ⟨0⟩)]] }
    let c : DocumentContext := ⟨none, ⟨0⟩, none, 0, .nothing⟩
    let p : PendingBinding := ⟨⟨2⟩, "x", "a.items.1", ⟨1, 1⟩⟩
    w.resolvePath c.table p.expression = .ok (.int 7) ∧
      ∃ v, (bind .plain c .nothing defaultLanguage p).runIn w = (.ok (), v) ∧
        v.Shows p.place (.int 7) := by
  intro dictionary w c p
  have path : w.resolvePath c.table p.expression = .ok (.int 7) := by decide +kernel
  obtain ⟨-, -, -, shows⟩ := bind_agrees_with_reference .plain c .nothing defaultLanguage w p
    (by decide) (by decide +kernel) (by decide +kernel) (by decide) rfl rfl
  obtain ⟨v, hv, hs, -⟩ := shows _ path
  exact ⟨path, v, hv, hs⟩

end Bxml
