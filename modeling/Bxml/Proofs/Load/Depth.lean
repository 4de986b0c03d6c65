import Bxml.Proofs.Load.Nesting
import Bxml.Proofs.Load.Provenance
import Bxml.Proofs.Settling.Growing
import Mathlib

/-!
# How deep documents are included

Documents may be included as deep as the loader says, and no deeper: an include element in a
document at the greatest depth is refused before anything is looked for, and no other is refused for
its depth.  So only finitely many documents are loaded and only finitely many events taken, whatever
the documents include.

* `Leads.depth` counts the documents of a chain, and `Loading.IsBounded` collects what is said of a
  load.
* `ne_tooDeep`, `unresolved` and `included?_eq_none` are the exact boundary;
  `Moment.result_of_deepest` says that nothing is read there.
* `length_momentsNested_le` bounds the number of events, by induction on the depth.

`depth_of_load` is the result, with its exception: a binding whose mapping function changes every
value may keep a load from ending.  `growingGauge_endless` is such a load.  There is no end to a run
here, so it is shown that the load exhausts every number of nested changes that a host may allow
(`exhausted_of_growingGauge`).
-/

namespace Bxml

open World (StaysExhausted)

variable {l : Loader} {D D' : Loading} {m : Moment} {us : List Url} {e f : LoadError}

/-! ## Depths -/

/-- The context of an included document tells that it is one deeper. -/
theorem prepareInclusion_depth {α : Type} {c : DocumentContext} {nested : Option α} {d : Draft}
    {x : Element} {a : α} {i : Inclusion} {w v : World}
    (h : (prepareInclusion l c nested d x).runIn w = (.ok (a, i), v)) :
    i.context.depth = c.depth + 1 := by
  simp only [prepareInclusion, Op.bind_runIn_eq_ok] at h
  obtain ⟨_, _, -, _, _, -, _, _, -, _, _, -, _, _, -, _, _, -, _, _, -, _, _, -, h⟩ := h
  cases h
  rfl

theorem Moment.Includes.depth {u : Url} (h : m.Includes l u D) :
    D.context.depth = m.context.depth + 1 := by
  obtain ⟨i, hi, -, hc, -⟩ := h.included
  obtain ⟨tag, x, -, hs⟩ := included?_eq_some hi
  obtain ⟨w, hp⟩ := startElement_inclusion hs
  rw [← hc]
  exact prepareInclusion_depth hp

/-- Along a chain each document is one deeper than the one before. -/
theorem Leads.depth (h : Leads l D us D') :
    us.length + D'.depth = D.depth ∧ D'.context.depth = D.context.depth + us.length := by
  induction h with
  | refl D => exact ⟨Nat.zero_add _, rfl⟩
  | @step D D' D'' m u us hm depth included _ ih =>
    have inner := included.depth
    rw [hm.context] at inner
    rw [List.length_cons]
    exact ⟨by omega, by omega⟩

/-! ## The limit -/

/-- An event asks for a source if it starts an include element that has a source, written or looked
up, in the world `w`. -/
structure Moment.AsksFor (l : Loader) (m : Moment) (src : String) (x : Element) (w : World) :
    Prop where
  starts : ∃ tag found y u, m.event.event = .start tag ∧
    (classify l m.draft.stack tag m.event.location).runIn m.world = (.ok found, u) ∧
    found.kind = .inclusion ∧
    (tag.attributes.foldlM (Attributed.add m.context tag.namespaceUri)
      ⟨.new found.kind found.name found.value m.event.location, []⟩).runIn u = (.ok y, w) ∧
    y.element = x
  source : ∃ raw, x.control.get? srcAttribute = some raw ∧
    (includeSource m.context raw).runIn w = (.ok src, w)

theorem prepareInclusion_tooDeep {α : Type} {c : DocumentContext} {d : Draft} {x : Element}
    {raw src : String} {w v : World} (hr : x.control.get? srcAttribute = some raw)
    (hs : (includeSource c raw).runIn w = (.ok src, v)) :
    (prepareInclusion l c (none : Option α) d x).runIn w =
      (.error (.structural (.tooDeep src l.maxDepth) x.location), v) := by
  unfold prepareInclusion
  rw [hr, orFail_some, pure_bind, Op.bind_runIn_of_ok hs]
  rfl

namespace Loading.ComesTo

variable (h : D.ComesTo l m)

include h

/-- In a document inside which others may be included, no event is refused for the depth. -/
theorem ne_tooDeep (hd : 0 < D.depth) {v : World} (hf : m.result l = (.error f, v)) (src : String)
    (limit : Nat) (at_ : Location) : f ≠ .structural (.tooDeep src limit) at_ := by
  rintro rfl
  obtain beyond | ⟨n, i, w, hi, hl⟩ | ⟨_, _, _, -, -, -, -, unlisted⟩ :=
    Moment.result_error h.isSound hf
  · obtain ordinary | ⟨deepest, -⟩ := beyond
    · cases ordinary
    · have deeper := h.nested
      obtain ⟨n, hn⟩ := Nat.exists_eq_succ_of_ne_zero (Nat.pos_iff_ne_zero.1 hd)
      rw [deepest, hn] at deeper
      cases deeper
  · obtain ⟨_, -, wrapped⟩ := Op.mapError_runIn_eq_error hl
    cases wrapped
  · cases unlisted

/-- At the greatest depth nothing is included. -/
theorem included?_eq_none (hd : D.depth = 0) : m.included? l = none := by
  cases hi : m.included? l with
  | none => rfl
  | some x =>
    obtain ⟨n, i, w⟩ := x
    obtain ⟨D', -, depth, -⟩ := h.includes hi
    rw [hd] at depth
    cases depth

/-- At the greatest depth an include element is refused once its source is told. -/
theorem unresolved (hd : D.depth = 0) {src : String} {x : Element} {w : World}
    (asks : m.AsksFor l src x w) :
    m.Unresolved l (.structural (.tooDeep src l.maxDepth) m.event.location) := by
  obtain ⟨tag, found, y, u, he, classified, kind, attributes, rfl⟩ := asks.starts
  obtain ⟨raw, hr, hs⟩ := asks.source
  have location : y.element.location = m.event.location :=
    (Attributed.found_of_foldlM_add attributes).2.2.2
  have deepest : m.nested = none := by
    rw [h.nested, hd]
    rfl
  refine ⟨tag, found, y, u, w, w, he, classified, kind, attributes, ?_⟩
  rw [deepest, ← location]
  exact prepareInclusion_tooDeep hr hs

end Loading.ComesTo

/-- What is read from elsewhere makes no difference where nothing may be included. -/
theorem Moment.result_of_deepest (hn : m.nested = none) {tag : Xml.StartTag}
    (he : m.event.event = .start tag) (p : ResourceProvider) :
    m.result { l with provider := p } = m.result l := by
  rw [result_of_start he, result_of_start he, hn]
  unfold Draft.openElement
  dsimp only
  have started : startElement { l with provider := p } m.context (none : Option NestedLoad)
      (m.draft.settleLanguage { l with provider := p }) tag m.event.location =
      startElement l m.context none (m.draft.settleLanguage l) tag m.event.location := rfl
  rw [started, Op.bind_runIn, Op.bind_runIn]
  rcases hs : (startElement l m.context (none : Option NestedLoad) (m.draft.settleLanguage l) tag
      m.event.location).runIn m.world with ⟨e | ⟨x, origin⟩, u⟩
  · rfl
  · cases origin with
    | known v => rfl
    | inclusion n i =>
      obtain ⟨_, hp⟩ := startElement_inclusion hs
      cases prepareInclusion_fst hp

/-! ## Finitely many events -/

section

variable {E B : Nat} (moments : NestedMoments)

theorem length_inside_le (hm : ∀ u x t c parented w, l.readText u x = .ok t →
    (moments c parented t w).length ≤ B) : (m.inside l moments).length ≤ B := by
  unfold Moment.inside
  split
  · split
    · next hr => exact hm _ _ _ _ _ _ hr
    · exact Nat.zero_le B
  · exact Nat.zero_le B

/-- A document comes to as many moments as it has events, and at each of them to those of a document
that it includes. -/
theorem length_momentsFrom_le (hm : ∀ u x t c parented w, l.readText u x = .ok t →
    (moments c parented t w).length ≤ B) (c : DocumentContext) (nested : Option NestedLoad)
    (items : List Xml.Located) (d : Draft) (w : World) :
    (momentsFrom l c nested moments items d w).length ≤ items.length * (B + 1) := by
  induction items generalizing d w with
  | nil => exact Nat.zero_le _
  | cons x r ih =>
    have inside := length_inside_le (m := ⟨c, nested, d, x, w⟩) moments hm
    unfold momentsFrom
    rw [List.length_append, List.length_cons, List.length_cons, Nat.succ_mul]
    refine (Nat.add_comm _ _).trans_le (Nat.add_le_add ?_ (Nat.succ_le_succ inside))
    split
    · exact ih _ _
    · exact Nat.zero_le _

/-- The number of events is bounded by the greatest number of events in one document and the
depth. -/
theorem length_momentsNested_le
    (hE : ∀ u x t, l.readText u x = .ok t → (Xml.events t).items.length ≤ E) (n : Nat)
    (c : DocumentContext) (parented : List ObjectId) {source : String} (w : World)
    (hs : (Xml.events source).items.length ≤ E) :
    (momentsNested l n c parented source w).length ≤ ∑ k ∈ Finset.range (n + 1), E ^ (k + 1) := by
  induction n generalizing c parented source w with
  | zero =>
    have own := length_momentsFrom_le (l := l) (B := 0) (fun _ _ _ _ => [])
      (fun _ _ _ _ _ _ _ => Nat.le_refl 0) c none (Xml.events source).items (.start parented)
      (c.announce w)
    calc _ ≤ (Xml.events source).items.length * (0 + 1) := own
      _ ≤ ∑ k ∈ Finset.range (0 + 1), E ^ (k + 1) := by simpa using hs
  | succ n ih =>
    have own := length_momentsFrom_le (l := l) (momentsNested l n)
      (fun u x t c parented w hr => ih c parented w (hE u x t hr)) c (some (loadNested l n))
      (Xml.events source).items (.start parented) (c.announce w)
    calc _ ≤ (Xml.events source).items.length * (∑ k ∈ Finset.range (n + 1), E ^ (k + 1) + 1) := own
      _ ≤ E * (∑ k ∈ Finset.range (n + 1), E ^ (k + 1) + 1) := Nat.mul_le_mul_right _ hs
      _ = ∑ k ∈ Finset.range (n + 1), E ^ (k + 1 + 1) + E := by
        rw [Nat.mul_succ, Finset.mul_sum]
        exact congrArg (· + E) (Finset.sum_congr rfl fun k _ => (pow_succ' E (k + 1)).symm)
      _ = ∑ k ∈ Finset.range (n + 1 + 1), E ^ (k + 1) := by
        rw [Finset.sum_range_succ' _ (n + 1), Nat.zero_add, pow_one]

end

/-! ## Whole loads -/

/-- What is said of the depth and of the length of the load of a document that no other one
includes. -/
structure Loading.IsBounded (l : Loader) (D : Loading) : Prop where
  /-- No document is included deeper than the loader allows. -/
  depth {us : List Url} {D' : Loading} : Leads l D us D' →
    D'.context.depth = D.context.depth + us.length ∧ us.length ≤ l.maxDepth
  /-- In documents that are less deep no event is refused for the depth. -/
  admitted {us : List Url} {D' : Loading} {m : Moment} {f : LoadError} {v : World} :
    Leads l D us D' → us.length < l.maxDepth → D'.ComesTo l m → m.result l = (.error f, v) →
    ∀ src limit at_, f ≠ .structural (.tooDeep src limit) at_
  /-- In documents that are as deep as the loader allows, include elements make the load fail once
  their source is told, and what there is to be read makes no difference to any element. -/
  refused {us : List Url} {D' : Loading} {m : Moment} : Leads l D us D' → us.length = l.maxDepth →
    D'.ComesTo l m →
    m.included? l = none ∧
    (∀ src x w, m.AsksFor l src x w →
      FailsWith us (.structural (.tooDeep src l.maxDepth) m.event.location) (D.result l)) ∧
    ∀ tag, m.event.event = .start tag → ∀ p,
      m.result { l with provider := p } = m.result l
  /-- A load fails for the depth with as many wrappers as the loader allows. -/
  wrappers {us : List Url} {src : String} {limit : Nat} {at_ : Location} :
    FailsWith us (.structural (.tooDeep src limit) at_) (D.result l) → us.length = l.maxDepth
  /-- Where there are finitely many documents, finitely many events are taken. -/
  events {docs : Finset String} {source : String} :
    (∀ u e t, l.readText u e = .ok t → t ∈ docs) → D.source.read l = .ok source → source ∈ docs →
    (l.moments D.context source D.world).length ≤
      ∑ k ∈ Finset.range (l.maxDepth + 1), (docs.sup fun t => (Xml.events t).items.length) ^ (k + 1)
  /-- However much further changes may be passed on, the load comes to the same, unless it exhausts how
  far they are passed on now. -/
  changes {n : Nat} {attach : Held → String → String → ObjectId → Value → Op FactoryError Unit} :
    l.Within n attach → (D.result l).2.exhausted = true ∨ D.result l = D.result (l.allowing n attach)

theorem Loader.isBounded_outermost (c : DocumentContext) (s : Source) (w : World) :
    (l.outermost c s w).IsBounded l := by
  have depths {us : List Url} {D' : Loading} (leads : Leads l (l.outermost c s w) us D') :
      us.length + D'.depth = l.maxDepth := leads.depth.1
  constructor
  case depth =>
    intro us D' leads
    exact ⟨leads.depth.2, Nat.le.intro (depths leads)⟩
  case admitted =>
    intro us D' m f v leads less hm hf
    have admits : 0 < D'.depth := by
      have := depths leads
      omega
    exact hm.ne_tooDeep admits hf
  case refused =>
    intro us D' m leads deepest hm
    have none_deeper : D'.depth = 0 := by
      have := depths leads
      omega
    refine ⟨hm.included?_eq_none none_deeper, fun src x w asks => ?_, fun tag he p => ?_⟩
    · exact Loading.failsWith_iff.2 ⟨D', leads, (hm.unresolved none_deeper asks).failsItself hm⟩
    · have nested : m.nested = none := by
        rw [hm.nested, none_deeper]
        rfl
      exact Moment.result_of_deepest nested he p
  case wrappers =>
    intro us src limit at_ fails
    obtain ⟨D', leads, itself⟩ := Loading.failsWith_iff.1 fails
    have deepest : D'.depth = 0 := by
      cases itself with
      | reading read => cases Source.isOrdinary_of_read read
      | event hm hf _ =>
        by_contra deeper
        exact hm.ne_tooDeep (Nat.pos_of_ne_zero deeper) hf src limit at_ rfl
      | ending _ _ failed => cases Draft.isOrdinary_complete _ _ _ _ _ failed
    have := depths leads
    omega
  case events =>
    intro docs source all read known
    refine length_momentsNested_le (fun u e t ht => ?_) l.maxDepth c [] w ?_
    · exact Finset.le_sup (f := fun t => (Xml.events t).items.length) (all u e t ht)
    · exact Finset.le_sup (f := fun t => (Xml.events t).items.length) known
  case changes =>
    intro n attach within
    refine (Op.Within.bind (.refl (.ofExcept _)) fun source => ?_).same w
    exact within.loadNested l.maxDepth c [] source

/-- Documents are included as deep as the loader allows and no deeper, an error for the depth has as
many wrappers, and a load takes finitely many events; that it does not end can only be because changes
are passed on without end. -/
theorem depth_of_load (l : Loader) (h : Held) (w : World) :
    (∀ source table location, ∃ c u, c.depth = 0 ∧
      (l.outerContext h table none location).runIn w = (.ok c, u) ∧
      (l.loadText h source table location).runIn w = (l.outermost c (.text source) u).outcome l ∧
      (l.outermost c (.text source) u).IsBounded l) ∧
    ∀ location table bundle, ∃ c u, c.depth = 0 ∧
      (l.outerContext h table bundle (some location)).runIn w = (.ok c, u) ∧
      (l.loadUrl h location table bundle).runIn w =
        (l.outermost c (.resource location l.charset) u).outcome l ∧
      (l.outermost c (.resource location l.charset) u).IsBounded l := by
  constructor
  · intro source table location
    obtain ⟨c, u, depth, -, hc, run⟩ := l.loadText_runIn h source table location w
    exact ⟨c, u, depth, hc, run, Loader.isBounded_outermost _ _ _⟩
  · intro location table bundle
    obtain ⟨c, u, depth, -, hc, run⟩ := l.loadUrl_runIn h location table bundle w
    exact ⟨c, u, depth, hc, run, Loader.isBounded_outermost _ _ _⟩

/-- A document that includes itself fails inside the second inclusion if that is the deepest. -/
example :
    let source := "<A><x><bxml:include src='/'/></x></A>"
    let store := MemoryStore.empty.insert .fileRoot (Url.utf8 source.toList)
    let l := { Loader.plain with provider := store.provider, maxDepth := 2 }
    (l.loadText .nothing source none none).fails .empty
      (fun e _ => e.wrappers == [.fileRoot, .fileRoot]) = true := by
  decide +kernel

/-! ## A load that does not end -/

section

variable {c : DocumentContext} {d : Draft} {h : Held} {w : World}

/-- A binding to an id writes what the id stands for. -/
theorem bind_of_id {p : PendingBinding} {language id : String} {v : Value}
    (hs : splitMapping p.expression = (none, id)) (hi : pathSegments id = [id])
    (hv : w.resolve c.table [id] = .ok v) (he : id.isEmpty = false) :
    (bind l c h language p).runIn w =
      ((l.host.setProperty (h.keep [.object p.target]) p.target p.targetKey v).mapError
        .property).runIn w := by
  have resolved :
      ((Op.check (·.resolve c.table [id])).mapError LoadError.table).runIn w = (.ok v, w) :=
    Op.mapError_runIn_eq_ok.2 (congrArg (·, w) hv)
  unfold bind
  rw [hs]
  dsimp only
  rw [he, hi]
  change (bindId l c (h.keep [.object p.target]) p none [id]).runIn w = _
  unfold bindId
  rw [Op.bind_runIn_of_ok resolved]
  rfl

/-- The bindings of a complete document are not the last that is done. -/
theorem Draft.exhausted_complete (hl : l.Keeps StaysExhausted) {es : Xml.Events} {root : Value}
    (hf : es.fault = none) (hs : d.stack = []) (hr : d.root = some root)
    (exhausted : ((applyBindings l c
      ((c.held.keep (root :: d.parented.map .object)).keepTable c.table) (d.languageIn l)
      d.bindings).runIn w).2.exhausted = true) :
    ((d.complete l c es).runIn w).2.exhausted = true := by
  have unfaulted : (reportFault c es).runIn w = (.ok (), w) := by
    unfold reportFault
    rw [hf]
    rfl
  have finished : d.finish.runIn w = (.ok root, w) := by
    unfold Draft.finish
    rw [hs, hr]
    rfl
  unfold Draft.complete
  rw [Op.bind_runIn_of_ok unfaulted, Op.bind_runIn_of_ok finished]
  refine Op.exhausted_bind (Op.onError_runIn_exhausted (fun _ _ h => h) exhausted) fun _ => ?_
  · refine .bind (hl.completeRoot _ _ _) fun _ => .bind (.read _) fun _ => ?_
    exact .bind (.log _ _) fun _ => .pure _

end

/-- A type with a property that takes any value. -/
def gaugeType : TypeDescriptor where
  name := "Gauge"
  properties := Entries.empty.insert "value" (.writable .any .null)
  defaultProperty := none
  idProperty := none

/-- A host with a function that puts its argument into brackets. -/
def Host.wrapping (n : Nat) : Host where
  engine _ := ⟨defaultLanguage, Entries.empty.insert "wrap" fun _ args =>
    Op.read fun w => .string ("<" ++ w.text (args.head?.getD .null) ++ ">"), none⟩
  hook _ _ _ _ _ := pure ()
  nesting := n

/-- A loader of gauges whose host passes changes on `n` times in a row. -/
def Loader.gauges (n : Nat) : Loader :=
  { Loader.plain with
    host := .wrapping n
    factory := (TypeRegistry.empty.register gaugeType).factory
    languages := Languages.empty.register ⟨0⟩ defaultLanguage [] [] }

/-- A gauge whose value is bound to itself in brackets, and then to the gauge. -/
def growingGauge : String :=
  "<Gauge xmlns:p='p' bxml:id='g' value='$\x7bwrap:g.value\x7d' p:value='$\x7bg\x7d'/>"

/-- A host that only puts values into brackets leaves the world alone. -/
theorem Host.wrapping_keeps {R : World → World → Prop} [World.Lasting R] (n : Nat) :
    (Host.wrapping n).Keeps R where
  function hf _ _ := by
    change (Entries.insert _ _ _).get? _ = _ at hf
    rw [Entries.get?_insert] at hf
    split at hf
    · cases hf
      exact .read _
    · cases hf
  evaluator h := by cases h
  hook _ _ _ _ _ := .pure ()

/-- Gauges do not make their host pass changes on further. -/
theorem Loader.gauges_within (n : Nat) :
    (Loader.gauges 0).Within n (Loader.gauges n).factory.attach where
  keeps := Loader.keeps_of_single (Host.wrapping_keeps 0) rfl fun w => World.Lasting.alloc w _
  nesting := Nat.zero_le n
  attach _ _ _ _ _ := .refl (.throw _)

theorem String.ne_wrapped (s : String) : s ≠ "<" ++ s ++ ">" := by
  intro h
  have := congrArg String.length h
  simp only [String.length_append] at this
  change s.length = 1 + s.length + 1 at this
  omega

/-- Brackets change every value. -/
theorem Host.mapped_wrapping (n : Nat) (h : Held) (a : Value) (w : World) :
    ∃ b, ((Host.wrapping n).mapped h (some ⟨⟨0⟩, "wrap"⟩) a).runIn w = (.ok b, w) ∧
      ¬ (a == b) = true := by
  refine ⟨.string ("<" ++ w.text a ++ ">"), rfl, fun same => ?_⟩
  cases a with
  | string s => exact String.ne_wrapped s (beq_iff_eq.1 same)
  | _ => cases same

/-- The binding that makes the gauge grow. -/
def gaugeGrowth : PendingBinding := ⟨⟨0⟩, "value", "wrap:g.value", ⟨1, 1⟩⟩

/-- The binding that makes the gauge change. -/
def gaugeChange : PendingBinding := ⟨⟨0⟩, "value", "g", ⟨1, 1⟩⟩

/-- What is held while the bindings of the gauge are made. -/
def gaugeHeld : Held := (Held.nothing.keep [.object ⟨0⟩]).keepTable ⟨0⟩

/-- Whether a document is complete and consists of the gauge with its bindings. -/
def Draft.IsGauge (d : Draft) : Prop :=
  d.stack = [] ∧ d.root = some (.object ⟨0⟩) ∧ d.parented = [] ∧
    d.language = some defaultLanguage ∧ d.bindings = [gaugeGrowth, gaugeChange]

instance (d : Draft) : Decidable d.IsGauge :=
  inferInstanceAs (Decidable (_ ∧ _))

/-- Whether the gauge grows, and has not changed yet. -/
def World.GaugeGrows (w : World) : Prop :=
  w.exhausted = false ∧ w.slotType? ⟨⟨0⟩, "value"⟩ = some .any ∧
    ¬ (w.value ⟨⟨0⟩, "value"⟩ == .object ⟨0⟩) = true ∧
    (w.object ⟨0⟩).subscribersOf "value" =
      [.binding ⟨⟨0⟩, "value", ⟨0⟩, "value", some ⟨⟨0⟩, "wrap"⟩⟩] ∧
    (w.table ⟨0⟩).get? "g" = some (.object ⟨0⟩)

instance (w : World) : Decidable w.GaugeGrows :=
  inferInstanceAs (Decidable (_ ∧ _))

/-- Where changes are not passed on, the gauge is complete and its first binding is made. -/
theorem growingGauge_bound : let c := DocumentContext.outer none
    ∃ d v u, (takeEvents (.gauges 0) c ((Loader.gauges 0).deeper (Loader.gauges 0).maxDepth)
        (.start []) (Xml.events growingGauge).items).runIn (c.announce .blank) = (.ok d, v) ∧
      v.exhausted = false ∧ d.IsGauge ∧
      (bind (.gauges 0) c (gaugeHeld.keep [.object ⟨0⟩]) defaultLanguage gaugeGrowth).runIn v =
        (.ok (), u) ∧ u.GaugeGrows := by
  intro c
  have reached : (takeEvents (.gauges 0) c ((Loader.gauges 0).deeper (Loader.gauges 0).maxDepth)
      (.start []) (Xml.events growingGauge).items).succeeds (c.announce .blank) (fun d v =>
        decide (v.exhausted = false ∧ d.IsGauge) &&
          (bind (.gauges 0) c (gaugeHeld.keep [.object ⟨0⟩]) defaultLanguage gaugeGrowth).succeeds v
            (fun _ u => decide u.GaugeGrows)) = true := by
    decide +kernel
  obtain ⟨d, v, hd, reached⟩ := Op.exists_of_succeeds reached
  rw [Bool.and_eq_true, decide_eq_true_eq] at reached
  obtain ⟨⟨unexhausted, gauge⟩, reached⟩ := reached
  obtain ⟨_, u, hu, grows⟩ := Op.exists_of_succeeds reached
  exact ⟨d, v, u, hd, unexhausted, gauge, hu, of_decide_eq_true grows⟩

theorem Loader.gauges_keeps (n : Nat) : (Loader.gauges n).Keeps StaysExhausted :=
  Loader.keeps_of_single (Host.wrapping_keeps n) rfl fun w => World.Lasting.alloc w _

/-- The second binding changes a gauge that grows. -/
theorem World.GaugeGrows.exhausted {v u : World} (hu : u.GaugeGrows) (n : Nat)
    (bound : (bind (.gauges n) (.outer none) (gaugeHeld.keep [.object ⟨0⟩]) defaultLanguage
      gaugeGrowth).runIn v = (.ok (), u)) :
    ((applyBindings (.gauges n) (.outer none) gaugeHeld defaultLanguage
      [gaugeGrowth, gaugeChange]).runIn v).2.exhausted = true := by
  obtain ⟨-, slot, other, subscribers, id⟩ := hu
  have grows : u.Grows (.wrapping n) ⟨⟨0⟩, "value"⟩ :=
    ⟨slot, _, subscribers, Host.mapped_wrapping n⟩
  have resolved : u.resolve ⟨0⟩ ["g"] = .ok (.object ⟨0⟩) := by
    unfold World.resolve World.resolveIn
    dsimp only
    rw [id]
    rfl
  change ((bind (.gauges n) (.outer none) (gaugeHeld.keep [.object ⟨0⟩]) defaultLanguage
    gaugeGrowth >>= fun _ => applyBindings (.gauges n) (.outer none) gaugeHeld defaultLanguage
      [gaugeChange]).runIn v).2.exhausted = true
  rw [Op.bind_runIn_of_ok bound]
  refine Op.exhausted_bind ?_ fun _ => (Loader.gauges_keeps n).applyBindings _ _ _ _
  rw [bind_of_id (show splitMapping gaugeChange.expression = (none, "g") by decide +kernel)
    (by decide +kernel) resolved (by decide +kernel), Op.mapError_runIn_snd]
  exact World.exhausted_of_grows (h := (gaugeHeld.keep []).keep [.object ⟨0⟩]) n grows other
    List.mem_cons_self

/-- However far changes may be passed on, the load of the gauge exhausts that. -/
theorem exhausted_of_growingGauge (n : Nat) :
    (((Loader.gauges n).loadText .nothing growingGauge none none).runIn .empty).2.exhausted =
      true := by
  obtain ⟨c, w, -, -, hc, run⟩ :=
    (Loader.gauges n).loadText_runIn .nothing growingGauge none none .empty
  obtain ⟨rfl, rfl⟩ : c = .outer none ∧ w = .blank := by
    cases hc
    exact ⟨rfl, rfl⟩
  obtain ⟨d, v, u, opened, unexhausted, gauge, bound, grows⟩ := growingGauge_bound
  obtain ⟨stack, root, parented, language, bindings⟩ := gauge
  have within := Loader.gauges_within n
  -- what does not pass on changes is the same for every `n`
  have opened : (takeEvents (.gauges n) (.outer none)
      ((Loader.gauges n).deeper (Loader.gauges n).maxDepth) (.start [])
      (Xml.events growingGauge).items).runIn ((DocumentContext.outer none).announce .blank) =
        (.ok d, v) := by
    refine (within.takeEvents (some (loadNested (.gauges 0) 31, loadNested (.gauges n) 31))
      (fun p h => ?_) _ _ _).runIn_eq opened unexhausted
    cases h
    exact within.loadNested 31
  have changed := grows.exhausted n ((within.bind _ _ _ _).runIn_eq bound grows.1)
  rw [run, Loading.outcome, Loader.result_outermost_text, Op.bind_runIn_of_ok opened]
  have unfaulted : (Xml.events growingGauge).fault = none := by decide +kernel
  refine Draft.exhausted_complete (Loader.gauges_keeps n) unfaulted stack root ?_
  rw [parented, bindings]
  unfold Draft.languageIn
  rw [language]
  exact changed

/-- There is no end to the load of the gauge. -/
theorem growingGauge_endless : ¬ ∃ n,
    (((Loader.gauges n).loadText .nothing growingGauge none none).runIn .empty).2.exhausted =
      false := by
  rintro ⟨n, ends⟩
  rw [exhausted_of_growingGauge n] at ends
  cases ends

end Bxml
