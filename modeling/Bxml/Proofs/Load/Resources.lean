import Bxml.Proofs.Bundle.Loader
import Bxml.Proofs.Load.Chains

/-!
# Which bundle a key is looked up in

An include element may name a bundle for the document it includes.  A key in that document is looked
up in this bundle, then in those that the include elements around it name, from the inside out, and
then in the bundle of the outermost document.  Which bundles these are is told by the chain of
include elements that leads to the document, and by nothing else in the load.

* `LeadsThrough` is a chain of included documents told by its include elements, and `Leads.through`
  says that there is one to every document of a load.
* `Moment.Includes.layers` is one step: the bundle that an element names goes in front of the layers
  around it.  `LeadsThrough.layers` puts the steps together, and `LeadsThrough.layers_congr` says
  that nothing else in the load counts.
* `resources_of_load` is the result, with the values (`DocumentContext.ReadsFrom`).

A bundle is loaded anew for each element that names it.  That it is the same each time is
`BundleLoader.layers_of_load`, by `Bundle/Loader.lean`.
-/

namespace Bxml

/-- What the last attribute of a name says, among those without the control prefix. -/
def lastNamed? (name : String) (as : List Xml.MarkupAttribute) : Option String :=
  (as.filter fun a => decide (a.space ≠ some Xml.controlPrefix) && a.name == name).getLast?.map
    (·.value)

/-- The bundle that an include element names. -/
def Xml.StartTag.resources? (tag : Xml.StartTag) : Option String :=
  lastNamed? resourcesAttribute tag.attributes

/-- The layers that a document looks keys up in. -/
def DocumentContext.layers (c : DocumentContext) : List BundleLayer :=
  (c.bundle.map Bundle.layers).getD []

/-- What the bundle of a name defines by itself. -/
def Loader.layer? (l : Loader) (name : String) : Option BundleLayer :=
  l.bundleLoader.bind fun b => (b.fields name).toOption.map .json

/-- A chain of included documents leads from a document to another one; it consists of the include
elements on the way. -/
inductive LeadsThrough (l : Loader) : Loading → List Xml.StartTag → Loading → Prop
  | refl (D : Loading) : LeadsThrough l D [] D
  | step {D D' D'' : Loading} {m : Moment} {u : Url} {tag : Xml.StartTag}
      {tags : List Xml.StartTag} : D.ComesTo l m → m.event.event = .start tag →
      D.depth = D'.depth + 1 → m.Includes l u D' → LeadsThrough l D' tags D'' →
      LeadsThrough l D (tag :: tags) D''

variable {l : Loader} {c : DocumentContext} {D D' : Loading} {m : Moment} {w v : World}

/-- Every document of a load is at the end of such a chain. -/
theorem Leads.through {us : List Url} (h : Leads l D us D') :
    ∃ tags, tags.length = us.length ∧ LeadsThrough l D tags D' := by
  induction h with
  | refl D => exact ⟨[], rfl, .refl D⟩
  | step hm depth included _ ih =>
    obtain ⟨tags, length, through⟩ := ih
    obtain ⟨i, hi, -⟩ := included.included
    obtain ⟨tag, x, he, -⟩ := Moment.included?_eq_some hi
    exact ⟨tag :: tags, congrArg (· + 1) length, .step hm he depth included through⟩

/-! ## Include elements -/

theorem lastNamed?_cons (name : String) (a : Xml.MarkupAttribute) (as : List Xml.MarkupAttribute) :
    lastNamed? name (a :: as) = (lastNamed? name as).or
      (if a.space ≠ some Xml.controlPrefix ∧ a.name = name then some a.value else none) := by
  unfold lastNamed?
  rw [List.filter_cons]
  by_cases h : a.space ≠ some Xml.controlPrefix ∧ a.name = name
  · rw [if_pos (by simpa using h), if_pos h, List.getLast?_cons]
    cases (as.filter fun a => decide (a.space ≠ some Xml.controlPrefix) && a.name == name).getLast? <;>
      rfl
  · rw [if_neg (by simpa using h), if_neg h, Option.or_none]

namespace Attributed

variable {uri : Option String} {x y : Attributed}

/-- An attribute that may steer an element does so, unless it has the control prefix. -/
theorem control_of_add {a : Xml.MarkupAttribute} {name : String}
    (hn : name ∈ x.element.kind.controlAttributes)
    (h : (Attributed.add c uri x a).runIn w = (.ok y, v)) :
    y.element.kind = x.element.kind ∧ y.element.control.get? name =
      (if a.space ≠ some Xml.controlPrefix ∧ a.name = name then some a.value else none).or
        (x.element.control.get? name) := by
  by_cases ha : a.name = name
  · subst ha
    unfold Attributed.add at h
    dsimp only at h
    by_cases hs : a.space = some Xml.controlPrefix
    · rw [if_pos hs] at h
      simp only [addId, Op.bind_runIn_eq_ok] at h
      obtain ⟨_, _, -, _, _, -, h⟩ := h
      cases h
      exact ⟨rfl, by simp [hs]⟩
    · rw [if_neg hs, if_pos (List.contains_iff_mem.2 hn)] at h
      cases h
      exact ⟨rfl, by simp [addControl, hs]⟩
  · -- an attribute of another name leaves what there is under this one
    rw [if_neg fun h => ha h.2, Option.none_or]
    cases takes_of_add h with
    | control => exact ⟨rfl, Entries.get?_insert_of_ne _ _ (Ne.symm ha)⟩
    | _ => exact ⟨rfl, rfl⟩

/-- After all attributes, the last one of a name that steers the element counts. -/
theorem control_of_foldlM_add {as : List Xml.MarkupAttribute} {name : String}
    (hn : name ∈ x.element.kind.controlAttributes)
    (h : (as.foldlM (Attributed.add c uri) x).runIn w = (.ok y, v)) :
    y.element.control.get? name = (lastNamed? name as).or (x.element.control.get? name) := by
  induction as generalizing x w with
  | nil =>
    cases h
    rfl
  | cons a as ih =>
    rw [List.foldlM_cons, Op.bind_runIn_eq_ok] at h
    obtain ⟨z, u, hz, h⟩ := h
    obtain ⟨kind, control⟩ := control_of_add hn hz
    rw [ih (kind ▸ hn) h, control, lastNamed?_cons, Option.or_assoc]

end Attributed

/-- An include element is one by its name, and its attributes steer which document is included. -/
theorem startElement_inclusion_control {α : Type} {nested : Option α} {d : Draft}
    {tag : Xml.StartTag} {at_ : Location} {x : Attributed} {a : α} {i : Inclusion}
    (h : (startElement l c nested d tag at_).runIn w = (.ok (x, .inclusion a i), v)) {name : String}
    (hn : name ∈ ElementKind.inclusion.controlAttributes) :
    x.element.control.get? name = lastNamed? name tag.attributes := by
  simp only [startElement, Op.bind_runIn_eq_ok] at h
  obtain ⟨found, _, -, y, u, hy, h⟩ := h
  split at h
  · next hk =>
    simp only [Op.bind_runIn_eq_ok] at h
    obtain ⟨_, _, -, h⟩ := h
    cases h
    rw [Attributed.control_of_foldlM_add (by simpa [Element.new, hk] using hn) hy]
    simp [Element.new]
  · simp only [Op.bind_runIn_eq_ok] at h
    obtain ⟨_, _, -, h⟩ := h
    cases h
  · cases h

/-- The layer of a bundle is the same whenever the bundle is loaded. -/
theorem BundleLoader.layers_of_load {b : BundleLoader} {name : String} {parent : Option Bundle}
    {x : Bundle} (h : (b.load name parent).runIn w = (.ok x, v)) :
    ∃ fs, b.fields name = .ok fs ∧ x = .ofLayer (.json fs) parent := by
  have given := (load_gives parent w).symm.trans (congrArg Prod.fst h)
  cases hf : b.fields name with
  | error e => simp [hf, Except.map] at given
  | ok fs =>
    rw [hf] at given
    exact ⟨fs, rfl, (Except.ok.inj given).symm⟩

theorem Bundle.layers_ofLayer (L : BundleLayer) (parent : Option Bundle) :
    (Bundle.ofLayer L parent).layers = L :: (parent.map Bundle.layers).getD [] := by
  cases parent <;> rfl

/-- An include element puts the bundle that it names in front of the others. -/
theorem includeBundle_eq_ok {e : Element} {b : Option Bundle}
    (h : (includeBundle l c e).runIn w = (.ok b, v)) :
    ∃ named : Option BundleLayer, (e.control.get? resourcesAttribute).map l.layer? = named.map some ∧
      (b.map Bundle.layers).getD [] = named.toList ++ c.layers := by
  unfold includeBundle at h
  split at h
  · next hr =>
    cases h
    exact ⟨none, by rw [hr]; rfl, rfl⟩
  · next name hr =>
    split at h
    · cases h
    · next loader hl =>
      simp only [Op.bind_runIn_eq_ok, Op.mapError_runIn_eq_ok] at h
      obtain ⟨x, _, hx, h⟩ := h
      cases h
      obtain ⟨fs, hf, rfl⟩ := BundleLoader.layers_of_load hx
      refine ⟨some (.json fs), ?_, Bundle.layers_ofLayer _ _⟩
      simp [hr, Loader.layer?, hl, hf, Except.toOption]

theorem prepareInclusion_layers {α : Type} {nested : Option α} {d : Draft} {e : Element} {a : α}
    {i : Inclusion} (h : (prepareInclusion l c nested d e).runIn w = (.ok (a, i), v)) :
    ∃ named : Option BundleLayer, (e.control.get? resourcesAttribute).map l.layer? = named.map some ∧
      i.context.layers = named.toList ++ c.layers := by
  simp only [prepareInclusion, Op.bind_runIn_eq_ok] at h
  obtain ⟨_, _, -, _, _, -, _, _, -, b, _, hb, _, _, -, _, _, -, _, _, -, _, _, -, h⟩ := h
  cases h
  exact includeBundle_eq_ok hb

/-! ## Chains -/

/-- The layers that an included document looks keys up in are those of the bundle that its element
names, if it names one, and those of the including document. -/
theorem Moment.Includes.layers {u : Url} {tag : Xml.StartTag} (h : m.Includes l u D)
    (he : m.event.event = .start tag) :
    ∃ named : Option BundleLayer, tag.resources?.map l.layer? = named.map some ∧
      D.context.layers = named.toList ++ m.context.layers := by
  obtain ⟨i, hi, -, hc, -⟩ := h.included
  obtain ⟨tag', x, he', hs⟩ := included?_eq_some hi
  obtain rfl := Xml.Event.start.inj (he.symm.trans he')
  obtain ⟨w, hp⟩ := startElement_inclusion hs
  obtain ⟨named, known, layers⟩ := prepareInclusion_layers hp
  rw [startElement_inclusion_control hs (by decide)] at known
  exact ⟨named, known, hc ▸ layers⟩

/-- The layers at the end of a chain: those of the bundles named on the way, the innermost first, and
then those of the document where the chain begins. -/
theorem LeadsThrough.layers {tags : List Xml.StartTag} (h : LeadsThrough l D tags D') :
    ∃ named : List BundleLayer,
      (tags.filterMap Xml.StartTag.resources?).map l.layer? = named.map some ∧
        D'.context.layers = named.reverse ++ D.context.layers := by
  induction h with
  | refl D => exact ⟨[], rfl, rfl⟩
  | @step D D' D'' m u tag tags hm he _ included _ ih =>
    obtain ⟨own, known, layers⟩ := included.layers he
    obtain ⟨named, known', layers'⟩ := ih
    rw [hm.context] at layers
    refine ⟨own.toList ++ named, ?_, ?_⟩
    · rw [List.map_append, ← known']
      cases hr : tag.resources? <;> cases own <;> simp_all
    · rw [layers', layers, List.reverse_append, List.append_assoc]
      cases own <;> rfl

/-! ## Keys -/

/-- The attribute value that stands for a key. -/
def keyValue (key : String) : String := String.ofList (AttributeForm.resourceSentinel :: key.toList)

/-- Whether a document takes every key for the value of the first of some layers that defines it, or
for its own text if none does. -/
def DocumentContext.ReadsFrom (c : DocumentContext) (layers : List BundleLayer) : Prop :=
  ∀ key at_ w, key ≠ "" → key.toList.head? ≠ some AttributeForm.resourceSentinel →
    ∃ v u, (c.resolveAttribute (keyValue key) at_).runIn w = (.ok (.resolved v), u) ∧
      match layers.find? (·.defines key) with
      | some L => L.find? key w = (some v, u)
      | none => v = .string key

theorem read_keyValue {key : String} (hk : key ≠ "")
    (hs : key.toList.head? ≠ some AttributeForm.resourceSentinel) :
    AttributeForm.read (keyValue key) = .ok (.resource key) := by
  cases hl : key.toList with
  | nil => exact absurd (String.toList_inj.1 hl) hk
  | cons a r =>
    rw [hl] at hs
    have other : a ≠ AttributeForm.resourceSentinel := fun e => hs (congrArg some e)
    have back : String.ofList (a :: r) = key := by rw [← hl, String.ofList_toList]
    have unbound : AttributeForm.bindingText? (AttributeForm.resourceSentinel :: a :: r) = none := by
      simp [AttributeForm.bindingText?, AttributeForm.resourceSentinel, AttributeForm.referenceSentinel]
    unfold AttributeForm.read keyValue
    rw [String.toList_ofList, hl, unbound]
    simp only [AttributeForm.readPlain, AttributeForm.readAfter, if_neg other, if_true, back]
    exact if_neg (by decide)

/-- A document takes keys for the values that its layers have. -/
theorem DocumentContext.readsFrom_layers (c : DocumentContext) : c.ReadsFrom c.layers := by
  intro key at_ w hk hs
  have looked : (c.bundle.map fun b => b.lookup key w).getD (none, w) =
      match c.layers.find? (·.defines key) with
      | some L => L.find? key w
      | none => (none, w) := by
    unfold layers
    cases c.bundle with
    | none => rfl
    | some b =>
      simp only [Option.map_some, Option.getD_some, Bundle.lookup_eq]
      cases b.layers.find? (·.defines key) <;> rfl
  have resolved : (c.resolveAttribute (keyValue key) at_).runIn w =
      (c.resolveForm (.resource key)).runIn w := by
    unfold resolveAttribute
    rw [read_keyValue hk hs]
    rfl
  rw [resolved, resolveForm, Op.bind_runIn, Op.make_runIn, looked]
  cases hf : c.layers.find? (·.defines key) with
  | none => exact ⟨_, _, rfl, rfl⟩
  | some L =>
    have known : L.defines key = true := by simpa using List.find?_some hf
    obtain ⟨v, u, hv⟩ := L.find?_of_defines known w
    exact ⟨v, u, by simp only [hv]; rfl, hv⟩

/-! ## Loads -/

/-- Whether keys are taken in every document that a document leads to as its chain says. -/
def Loading.IsScoped (l : Loader) (D : Loading) : Prop :=
  ∀ tags D', LeadsThrough l D tags D' → ∃ named : List BundleLayer,
    (tags.filterMap Xml.StartTag.resources?).map l.layer? = named.map some ∧
      ∀ m, D'.ComesTo l m → m.context.ReadsFrom (named.reverse ++ D.context.layers)

theorem Loading.isScoped (l : Loader) (D : Loading) : D.IsScoped l := by
  intro tags D' h
  obtain ⟨named, known, layers⟩ := h.layers
  refine ⟨named, known, fun m hm => ?_⟩
  rw [hm.context, ← layers]
  exact D'.context.readsFrom_layers

theorem Loader.bundle_of_outerContext {h : Held} {table : Option TableId} {bundle : Option Bundle}
    {location : Option Url} (hc : (l.outerContext h table bundle location).runIn w = (.ok c, v)) :
    c.bundle = (bundle <|> l.bundle) := by
  cases table <;> cases hc <;> rfl

/-- Two documents look keys up in the same layers if the chains that lead to them name the same
bundles, whatever else happens in their loads. -/
theorem LeadsThrough.layers_congr {E E' : Loading} {tags tags' : List Xml.StartTag}
    (h : LeadsThrough l D tags D') (h' : LeadsThrough l E tags' E')
    (outer : D.context.layers = E.context.layers)
    (same : tags.filterMap Xml.StartTag.resources? = tags'.filterMap Xml.StartTag.resources?) :
    D'.context.layers = E'.context.layers := by
  obtain ⟨named, known, layers⟩ := h.layers
  obtain ⟨named', known', layers'⟩ := h'.layers
  have equal : named = named' :=
    List.map_injective_iff.2 (Option.some_injective _) (known.symm.trans (same ▸ known'))
  rw [layers, layers', outer, equal]

/-- A key in a document stands for the value of the first bundle that defines it, or for its own text.
The bundles are the one that the include element of the document names, then those of the include
elements around it, from the inside out, and then the bundle of the outermost document with those
that it falls back on.  What other include elements name makes no difference. -/
theorem resources_of_load (l : Loader) (h : Held) (w : World) :
    (∀ source table location, ∃ c u,
      (l.outerContext h table none location).runIn w = (.ok c, u) ∧ c.bundle = l.bundle ∧
      (l.loadText h source table location).runIn w = (l.outermost c (.text source) u).outcome l ∧
      (l.outermost c (.text source) u).IsScoped l) ∧
    (∀ location table bundle, ∃ c u,
      (l.outerContext h table bundle (some location)).runIn w = (.ok c, u) ∧
      c.bundle = (bundle <|> l.bundle) ∧
      (l.loadUrl h location table bundle).runIn w =
        (l.outermost c (.resource location l.charset) u).outcome l ∧
      (l.outermost c (.resource location l.charset) u).IsScoped l) ∧
    ∀ D E tags tags' D' E', D.context.bundle = E.context.bundle →
      LeadsThrough l D tags D' → LeadsThrough l E tags' E' →
      tags.filterMap Xml.StartTag.resources? = tags'.filterMap Xml.StartTag.resources? →
      ∃ layers, (∀ m, D'.ComesTo l m → m.context.ReadsFrom layers) ∧
        ∀ m, E'.ComesTo l m → m.context.ReadsFrom layers := by
  refine ⟨fun source table location => ?text, fun location table bundle => ?url, ?apart⟩
  case text =>
    obtain ⟨c, u, -, -, hc, run⟩ := l.loadText_runIn h source table location w
    exact ⟨c, u, hc, Loader.bundle_of_outerContext hc, run, Loading.isScoped l _⟩
  case url =>
    obtain ⟨c, u, -, -, hc, run⟩ := l.loadUrl_runIn h location table bundle w
    exact ⟨c, u, hc, Loader.bundle_of_outerContext hc, run, Loading.isScoped l _⟩
  case apart =>
    intro D E tags tags' D' E' outer leads leads' same
    have equal := leads.layers_congr leads' (by unfold DocumentContext.layers; rw [outer]) same
    refine ⟨D'.context.layers, fun m hm => ?_, fun m hm => ?_⟩
    · rw [hm.context]
      exact D'.context.readsFrom_layers
    · rw [hm.context, equal]
      exact E'.context.readsFrom_layers

/-- In the included document, `a` is found in the bundle that the include element names, `b` in that
of the loader and `c` nowhere; the including document does not see the named bundle. -/
example :
    let store := MemoryStore.empty.insert .fileRoot (Url.utf8 "<A a='%a' b='%b' c='%c'/>".toList)
    let bundles := BundleLoader.serving [("/B.json", .object [("a", .string "inner")])] none
    let outer : Entries Value := (Entries.empty.insert "a" (.string "outer")).insert "b" (.string "outer")
    let l := { Loader.plain with
      provider := store.provider, bundle := some (.alone (.map outer)), bundleLoader := some bundles }
    let w := ((l.loadText .nothing "<A a='%a'><x><bxml:include src='/' resources='B'/></x></A>"
      none none).runIn .empty).2
    w.value ⟨⟨0⟩, "a"⟩ = .string "outer" ∧ w.value ⟨⟨1⟩, "a"⟩ = .string "inner" ∧
      w.value ⟨⟨1⟩, "b"⟩ = .string "outer" ∧ w.value ⟨⟨1⟩, "c"⟩ = .string "c" := by
  decide +kernel

end Bxml
