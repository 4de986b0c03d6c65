import Bxml.Proofs.Text.Visible
import Bxml.Url.Parser

/-!
# What the text of a URL is made of

Whatever is read, each part of a URL is kept in a form that consists of visible ASCII characters.
Only in a path that is no list of segments spaces may remain, and not at the end of the URL: its text
is trimmed (`isTrimmed_chars_of_parse`).

* There is one lemma for each part that is read: `visible_of_parse` for the host, `visible_segments`
  for the path, `visible_of_readEnd` for what comes after it.
* `IsClean` says so of a whole URL but for its path; every way of reading one gives it.
* The hard part is a path that is no list of segments.  It keeps its spaces, and only those at the
  end of the URL are dropped (`endsVisible_controlSet`).
-/

namespace Bxml.Url

open Text

variable {c : Char} {l l' : List Char} {set : Char → Bool}

theorem visibleChar_hexDigit {n : Nat} (h : n < 16) : VisibleChar (hexDigit n) :=
  (by decide : ∀ n < 16, VisibleChar (hexDigit n)) n h

theorem visible_percentByte (b : UInt8) : Visible (percentByte b) := by
  have hb := b.toNat_lt
  refine .cons (by decide) (.cons (visibleChar_hexDigit ?_) (.cons (visibleChar_hexDigit ?_) .nil)) <;>
    omega

/-- Percent encoding leaves visible characters if it encodes all others. -/
theorem visible_percentEncode (h : ∀ c ∈ l, ¬ VisibleChar c → set c = true) :
    Visible (percentEncode set l) := by
  intro c hc
  obtain ⟨d, hd, hc⟩ := List.mem_flatMap.1 hc
  split at hc
  · obtain ⟨b, -, hc⟩ := List.mem_flatMap.1 hc
    exact visible_percentByte b c hc
  · next hset =>
    cases List.mem_singleton.1 hc
    exact Decidable.byContradiction fun hn => hset (h c hd hn)

/-! ## Encode sets -/

theorem eq_or_controlSet (h : ¬ VisibleChar c) : c = ' ' ∨ controlSet c = true := by
  unfold controlSet
  by_cases hc : c.toNat = 0x20
  · left
    rw [← Char.ofNat_toNat c, hc]
  · right
    unfold VisibleChar at h
    simp
    omega

theorem fragmentSet_of_not_visibleChar (h : ¬ VisibleChar c) : fragmentSet c = true := by
  rcases eq_or_controlSet h with rfl | h
  · rfl
  · simp [fragmentSet, h]

theorem pathSet_of_not_visibleChar (h : ¬ VisibleChar c) : pathSet c = true := by
  simp [pathSet, fragmentSet_of_not_visibleChar h]

theorem userInfoSet_of_not_visibleChar (h : ¬ VisibleChar c) : userInfoSet c = true := by
  simp [userInfoSet, pathSet_of_not_visibleChar h]

theorem querySet_of_not_visibleChar (special : Bool) (h : ¬ VisibleChar c) :
    querySet special c = true := by
  rcases eq_or_controlSet h with rfl | h
  · rfl
  · simp [querySet, h]

/-! ## Hosts -/

namespace Host

theorem visible_writeIpv4 (n : Nat) : Visible (writeIpv4 n) := by
  unfold writeIpv4
  have part (i : Nat) := visible_toDigits 10 (n / Nat.pow 256 i % 256)
  have dot : VisibleChar '.' := by decide
  exact (((part 3).append (.cons dot (part 2))).append (.cons dot (part 1))).append
    (.cons dot (part 0))

theorem visible_writeIpv6 (l : List Nat) : Visible (writeIpv6 l) := by
  have groups (t : List Nat) : Visible ((t.map (Nat.toDigits 16)).intersperse [':']).flatten := by
    refine .flatten (forall_mem_intersperse (P := Visible) (by decide) fun d hd => ?_)
    obtain ⟨n, -, rfl⟩ := List.mem_map.1 hd
    exact visible_toDigits 16 n
  unfold writeIpv6
  dsimp only
  split
  · exact groups l
  · exact ((groups _).append (by decide)).append (groups _)

end Host

namespace Punycode

theorem visibleChar_digit {n : Nat} (h : n < 36) : VisibleChar (digit n) :=
  (by decide : ∀ n < 36, VisibleChar (digit n)) n h

theorem visible_variableLength (bias q k fuel : Nat) : Visible (variableLength bias q k fuel) := by
  induction fuel generalizing q k with
  | zero => exact .nil
  | succ fuel ih =>
    unfold variableLength
    dsimp only
    have bound : (if k ≤ bias then 1 else if bias + 26 ≤ k then 26 else k - bias) ≤ 26 := by
      split
      · omega
      · split <;> omega
    generalize (if k ≤ bias then 1 else if bias + 26 ≤ k then 26 else k - bias) = t at bound ⊢
    split
    · exact .cons (visibleChar_digit (by omega)) .nil
    · have small : (q - t) % (36 - t) < 36 - t := Nat.mod_lt _ (by omega)
      exact .cons (visibleChar_digit (by omega)) (ih _ _)

theorem lt_of_mem_pass {basic n : Nat} (points : List Nat) {s : State}
    (hs : ∀ c ∈ s.out, c.toNat < 128) : ∀ c ∈ (pass basic n points s).out, c.toNat < 128 := by
  induction points generalizing s with
  | nil => exact hs
  | cons m points ih =>
    refine ih ?_
    dsimp only
    split
    · exact hs
    · split
      · refine List.forall_mem_append.2 ⟨hs, fun c hc => ?_⟩
        exact (visible_variableLength _ _ _ _ c hc).2.trans (by decide)
      · exact hs

theorem lt_of_mem_encodeLoop {basic : Nat} {points : List Nat} (todo : List Nat) {n : Nat}
    {s : State} (hs : ∀ c ∈ s.out, c.toNat < 128) :
    ∀ c ∈ (encodeLoop basic points todo n s).out, c.toNat < 128 := by
  induction todo generalizing n s with
  | nil => exact hs
  | cons m rest ih => exact ih (lt_of_mem_pass _ hs)

/-- A label is written in ASCII. -/
theorem lt_of_mem_encode (l : List Char) : ∀ c ∈ encode l, c.toNat < 128 := by
  unfold encode
  refine lt_of_mem_encodeLoop _ fun c hc => ?_
  have basic : ∀ c ∈ l.filter (·.toNat < 128), c.toNat < 128 := fun c hc => by
    simpa using (List.mem_filter.1 hc).2
  dsimp only at hc
  split at hc
  · cases hc
  · rcases List.mem_append.1 hc with hc | hc
    · exact basic c hc
    · cases List.mem_singleton.1 hc
      decide

end Punycode

namespace Host

theorem lt_of_mem_domainToAscii (l : List Char) : ∀ c ∈ domainToAscii l, c.toNat < 128 := by
  have label (l : List Char) : ∀ c ∈ labelToAscii l, c.toNat < 128 := by
    unfold labelToAscii
    split
    · next h => simpa using h
    · exact List.forall_mem_append.2 ⟨by simp, Punycode.lt_of_mem_encode l⟩
  intro c hc
  obtain ⟨m, hm, hc⟩ := List.mem_flatten.1 hc
  refine forall_mem_intersperse (P := fun m => ∀ c ∈ m, c.toNat < 128) (by simp) ?_ m hm c hc
  intro m hm
  obtain ⟨m, -, rfl⟩ := List.mem_map.1 hm
  exact label m

theorem visible_domainToAscii (h : (domainToAscii l).any isForbidden ≠ true) :
    Visible (domainToAscii l) := by
  intro c hc
  have allowed : isForbidden c = false := by
    simpa using fun hf => h (List.any_eq_true.2 ⟨c, hc, hf⟩)
  simp only [isForbidden, Bool.or_eq_false_iff, decide_eq_false_iff_not, beq_eq_false_iff_ne]
    at allowed
  have := lt_of_mem_domainToAscii l c hc
  unfold VisibleChar
  omega

/-- A host that is read is visible. -/
theorem visible_of_parse {h : List Char} (hp : parse l = .ok h) : Visible h := by
  unfold parse at hp
  split at hp
  · split at hp
    · split at hp
      · cases hp
        exact .append (.cons (by decide) (visible_writeIpv6 _)) (by decide)
      · cases hp
    · cases hp
  · split at hp
    · cases hp
    · next s _ =>
      dsimp only at hp
      split at hp
      · cases hp
      · next allowed =>
        split at hp
        · cases hp
        · split at hp
          · split at hp
            · cases hp
              exact visible_writeIpv4 _
            · cases hp
          · cases hp
            exact visible_domainToAscii allowed

theorem visible_of_parseOpaque {h : List Char} (hp : parseOpaque l = .ok h) : Visible h := by
  unfold parseOpaque at hp
  split at hp
  · exact visible_of_parse hp
  · split at hp
    · cases hp
    · next allowed =>
      cases hp
      refine visible_percentEncode fun c hc hn => ?_
      rcases eq_or_controlSet hn with rfl | h
      · exact absurd (List.any_eq_true.2 ⟨' ', hc, by decide⟩) allowed
      · exact h

end Host

/-! ## Parts -/

theorem exists_of_readAuthority {scheme : List Char} {a : Authority}
    (ha : readAuthority scheme l = .ok a) : ∃ user password host port, Visible host ∧
      a = ⟨percentEncode userInfoSet user, percentEncode userInfoSet password, host, port⟩ := by
  unfold readAuthority at ha
  simp only [bind, Except.bind, pure, Except.pure, throw, throwThe, MonadExceptOf.throw] at ha
  split at ha
  · cases ha
  split at ha
  · cases ha
  split at ha <;> split at ha
  · cases ha
  · next host hp =>
    have visible := Host.visible_of_parse hp
    repeat' split at ha
    all_goals cases ha
    exact ⟨_, _, host, _, visible, rfl⟩
  · cases ha
  · next host hp =>
    have visible := Host.visible_of_parseOpaque hp
    repeat' split at ha
    all_goals cases ha
    exact ⟨_, _, host, _, visible, rfl⟩

theorem visible_text {host : List Char} (hh : Visible host) (user password : List Char)
    (port : Option Nat) : Visible (Authority.text
      ⟨percentEncode userInfoSet user, percentEncode userInfoSet password, host, port⟩) := by
  have info (l : List Char) : Visible (percentEncode userInfoSet l) :=
    visible_percentEncode fun _ _ => userInfoSet_of_not_visibleChar
  unfold Authority.text
  refine .append (.append ?_ hh) ?_
  · have at_ : Visible ['@'] := by decide
    dsimp only
    split
    · exact .nil
    · split
      · exact (info user).append at_
      · exact ((info user).append (.cons (by decide) (info password))).append at_
  · dsimp only
    split
    · exact .cons (by decide) (visible_toDigits 10 _)
    · exact .nil

theorem visible_of_readAuthority {scheme : List Char} {a : Authority}
    (ha : readAuthority scheme l = .ok a) : Visible a.text := by
  obtain ⟨user, password, host, port, hh, rfl⟩ := exists_of_readAuthority ha
  exact visible_text hh user password port

/-- What ends a URL is visible. -/
theorem visible_of_readEnd (scheme l : List Char) :
    (∀ q, (readEnd scheme l).1 = some q → Visible q) ∧
      ∀ f, (readEnd scheme l).2 = some f → Visible f := by
  have fragment (t : List Char) : Visible (percentEncode fragmentSet t) :=
    visible_percentEncode fun _ _ => fragmentSet_of_not_visibleChar
  unfold readEnd
  split
  · refine ⟨?_, fun f hf => ?_⟩
    · rintro q ⟨⟩
      exact visible_percentEncode fun _ _ => querySet_of_not_visibleChar _
    · dsimp only at hf
      split at hf
      · cases hf
        exact fragment _
      · cases hf
  · refine ⟨fun q hq => ?_, fun f hf => ?_⟩
    · cases hq
    · dsimp only at hf
      split at hf
      · cases hf
        exact fragment _
      · cases hf

/-! ## Paths -/

theorem forall_mem_shorten {P : List Char → Prop} {file : Bool} {done : List (List Char)}
    (h : ∀ s ∈ done, P s) : ∀ s ∈ shorten file done, P s := by
  unfold shorten
  split
  · exact h
  · split
    · exact h
    · exact List.forall_mem_nil _
  · exact fun s hs => h s (List.mem_cons_of_mem _ hs)

theorem visible_addSegment {file more : Bool} {done : List (List Char)} {s : List Char}
    (hd : ∀ s ∈ done, Visible s) (hs : Visible s) : ∀ t ∈ addSegment file more done s, Visible t := by
  have shorter : ∀ s ∈ shorten file done, Visible s := forall_mem_shorten hd
  unfold addSegment
  dsimp only
  split
  · split
    · exact shorter
    · exact List.forall_mem_cons.2 ⟨.nil, shorter⟩
  · split
    · split
      · exact hd
      · exact List.forall_mem_cons.2 ⟨.nil, hd⟩
    · split
      · exact List.forall_mem_singleton.2 ((hs.mono (List.take_subset _ _)).append (by decide))
      · exact List.forall_mem_cons.2 ⟨hs, hd⟩

/-- The segments that are read are visible if those before are. -/
theorem visible_segments {special file : Bool} (l : List Char) {before : List (List Char)}
    {current : List Char} (hb : ∀ s ∈ before, Visible s) (hc : Visible current) :
    ∀ s ∈ (segments special file before current l).1, Visible s := by
  induction l generalizing before current with
  | nil => exact visible_addSegment hb hc.reverse
  | cons c l ih =>
    unfold segments
    split
    · exact visible_addSegment hb hc.reverse
    · split
      · exact ih (visible_addSegment hb hc.reverse) .nil
      · have read : Visible (percentEncode pathSet [c]) :=
          visible_percentEncode fun _ _ => pathSet_of_not_visibleChar
        exact ih hb (read.reverse.append hc)

theorem visible_joinSegments {file : Bool} {done : List (List Char)} (h : ∀ s ∈ done, Visible s) :
    Visible (joinSegments file done) := by
  have path : Visible (done.reverse.map fun s => '/' :: s).flatten := by
    refine .flatten fun t ht => ?_
    obtain ⟨s, hs, rfl⟩ := List.mem_map.1 ht
    exact .cons (by decide) (h s (List.mem_reverse.1 hs))
  unfold joinSegments
  dsimp only
  split
  · exact .cons (by decide) (path.mono (List.dropWhile_subset _))
  · exact path

theorem visible_readPath (scheme l : List Char) : Visible (readPath scheme [] l).1 :=
  visible_joinSegments (visible_segments l (List.forall_mem_nil _) .nil)

/-! ## Whole URLs -/

/-- Whether the parts of a URL are visible, but for a path inside of it. -/
structure IsClean (u : Url) : Prop where
  scheme : Visible u.scheme
  scheme_ne : u.scheme ≠ []
  authority : ∀ a, u.authority = some a → Visible a.text
  query : ∀ q, u.query = some q → Visible q
  fragment : ∀ f, u.fragment = some f → Visible f
  path : u.query = none → u.fragment = none → EndsVisible u.path

/-- What comes before the path of a URL. -/
theorem visible_front {scheme : List Char} (hs : Visible scheme) (authority : Option Authority)
    (path : List Char) : (∀ a, authority = some a → Visible a.text) → Visible (scheme ++ ':' ::
      match authority with
      | some a => '/' :: '/' :: a.text
      | none =>
        match path with
        | '/' :: '/' :: _ => ['/', '.']
        | _ => []) := by
  intro ha
  refine hs.append (.cons (by decide) ?_)
  cases authority with
  | some a => exact .cons (by decide) (.cons (by decide) (ha a rfl))
  | none =>
    dsimp only
    split <;> decide

theorem IsClean.isTrimmed {u : Url} (h : u.IsClean) : Text.IsTrimmed u.chars := by
  obtain ⟨scheme, authority, path, query, fragment⟩ := u
  have front := visible_front h.scheme authority path h.authority
  refine ⟨fun c hc => ?_, fun c hc => ?_⟩
  · obtain ⟨d, rest, hs⟩ := List.exists_cons_of_ne_nil h.scheme_ne
    have first : d = c := by
      unfold chars at hc
      simpa [show scheme = d :: rest from hs] using hc
    exact (h.scheme c (hs ▸ first ▸ List.mem_cons_self)).isBlank
  · refine VisibleChar.isBlank ?_
    revert c
    change EndsVisible _
    unfold chars
    dsimp only
    cases fragment with
    | some f => exact .append_cons (Visible.endsVisible (.cons (by decide) (h.fragment f rfl)))
    | none =>
      rw [List.append_nil]
      cases query with
      | some q => exact .append_cons (Visible.endsVisible (.cons (by decide) (h.query q rfl)))
      | none =>
        rw [List.append_nil]
        exact front.endsVisible.append (h.path rfl rfl)

theorem IsClean.finish {scheme path rest : List Char} {authority : Option Authority}
    (hs : Visible scheme) (hn : scheme ≠ []) (ha : ∀ a, authority = some a → Visible a.text)
    (hp : rest = [] → EndsVisible path)
    (hr : rest ≠ [] → rest.head? = some '?' ∨ rest.head? = some '#') :
    (finish scheme authority path rest).IsClean where
  scheme := hs
  scheme_ne := hn
  authority := ha
  query := (visible_of_readEnd scheme rest).1
  fragment := (visible_of_readEnd scheme rest).2
  path hq hf := by
    refine hp (Decidable.byContradiction fun hn => ?_)
    obtain ⟨c, rest, rfl⟩ := List.exists_cons_of_ne_nil hn
    rcases hr hn with hc | hc <;> cases hc
    · cases hq
    · cases hf

/-- After a path, or after an authority, a text is at an end, a query or a fragment. -/
def IsTail (rest : List Char) : Prop := rest ≠ [] → rest.head? = some '?' ∨ rest.head? = some '#'

theorem isTail_segments (special file : Bool) (before : List (List Char)) (current l : List Char) :
    IsTail (segments special file before current l).2 := by
  induction l generalizing before current with
  | nil => exact fun h => absurd rfl h
  | cons c l ih =>
    unfold segments
    split
    · next hc => exact fun _ => by simpa using hc
    · split
      · exact ih _ _
      · exact ih _ _

theorem isTail_readPath (scheme : List Char) (before : List (List Char)) (l : List Char) :
    IsTail (readPath scheme before l).2 := isTail_segments _ _ _ _ _

theorem isTail_dropWhile {p : Char → Bool} (l : List Char)
    (h : ∀ c, p c = false → c = '?' ∨ c = '#') : IsTail (l.dropWhile p) := by
  intro hn
  obtain ⟨c, rest, hc⟩ := List.exists_cons_of_ne_nil hn
  have end_ : p c = false := Text.head?_dropWhile_not p l c (by rw [hc]; rfl)
  rw [hc]
  rcases h c end_ with rfl | rfl
  · exact .inl rfl
  · exact .inr rfl

theorem isClean_of_afterSlashes {scheme : List Char} {u : Url} (hs : Visible scheme)
    (hn : scheme ≠ []) (h : afterSlashes scheme l = .ok u) : u.IsClean := by
  unfold afterSlashes at h
  simp only [bind, Except.bind, pure, Except.pure, drop_length_takeWhile] at h
  split at h
  · cases h
  · next a ha =>
    have authority : ∀ b, some a = some b → Visible b.text := by
      rintro _ ⟨⟩
      exact visible_of_readAuthority ha
    split at h
    · cases h
      exact .finish hs hn authority (fun _ => (visible_readPath _ _).endsVisible)
        (isTail_readPath _ _ _)
    · next special =>
      split at h
      · cases h
        exact .finish hs hn authority (fun _ => (visible_readPath _ _).endsVisible)
          (isTail_readPath _ _ _)
      · next other =>
        cases h
        refine .finish hs hn authority (fun _ => Visible.nil.endsVisible) fun hne => ?_
        obtain ⟨c, rest, hc⟩ := List.exists_cons_of_ne_nil hne
        have ends := Text.head?_dropWhile_not _ l c (congrArg List.head? hc)
        have slash : c ≠ '/' := fun h => other rest (h ▸ hc)
        rw [hc]
        simpa [endsAuthority, isSlash, special, slash, or_iff_not_imp_left] using ends

/-- A file URL with a visible host and any path. -/
theorem isClean_file {host : List Char} (hh : Visible host) (l : List Char) :
    (finish fileScheme (fileAuthority host) (readPath fileScheme [] l).1
      (readPath fileScheme [] l).2).IsClean := by
  refine .finish (by decide) (by decide) ?_ (fun _ => (visible_readPath _ _).endsVisible)
    (isTail_readPath _ _ _)
  rintro _ ⟨⟩
  simpa [Authority.text] using hh

theorem isClean_of_rooted {u : Url} (h : readFile.rooted none l = .ok u) : u.IsClean := by
  unfold readFile.rooted at h
  simp only [ite_self, Option.bind_none, Option.toList_none, Option.elim_none] at h
  cases h
  exact isClean_file .nil _

theorem isClean_of_relative {u : Url} (h : readFile.relative none l = .ok u) : u.IsClean := by
  cases h
  exact isClean_file .nil _

theorem isClean_of_readFile {u : Url} (h : readFile none l = .ok u) : u.IsClean := by
  unfold readFile at h
  simp only [bind, Except.bind, pure, Except.pure] at h
  split at h
  · next c d r =>
    split at h
    · split at h
      · cases h
        exact isClean_file (.ite .nil .nil) _
      · split at h
        · cases h
          exact isClean_file (.ite .nil .nil) _
        · cases hh : Host.parse (r.takeWhile fun c => !endsAuthority true c) with
          | error e =>
            rw [hh] at h
            cases h
          | ok host =>
            rw [hh] at h
            cases h
            exact isClean_file (.ite .nil (.ite .nil (Host.visible_of_parse hh))) _
    · split at h
      · exact isClean_of_rooted h
      · exact isClean_of_relative h
  · split at h
    · exact isClean_of_rooted h
    · exact isClean_of_relative h
  · exact isClean_of_relative h

theorem percentEncode_singleton_ne_nil (set : Char → Bool) (c : Char) :
    percentEncode set [c] ≠ [] := by
  have bytes : String.utf8EncodeChar c ≠ [] := by
    rw [← List.length_pos_iff, String.length_utf8EncodeChar]
    exact Char.utf8Size_pos c
  obtain ⟨b, bs, hb⟩ := List.exists_cons_of_ne_nil bytes
  unfold percentEncode
  rw [List.flatMap_singleton]
  split
  · rw [hb]
    exact List.cons_ne_nil _ _
  · exact List.cons_ne_nil _ _

/-- A path that is no list of segments keeps its spaces, but for those at the end of the URL. -/
theorem endsVisible_controlSet (h : ∀ c, l.getLast? = some c → 0x20 < c.toNat) :
    EndsVisible (percentEncode controlSet l) := by
  rcases l.eq_nil_or_concat with rfl | ⟨l, c, rfl⟩
  · exact Visible.nil.endsVisible
  · have last : Visible (percentEncode controlSet [c]) := by
      refine visible_percentEncode fun d hd hn => ?_
      cases List.mem_singleton.1 hd
      have hc := h c (by simp)
      rcases eq_or_controlSet hn with rfl | h
      · exact absurd hc (by decide)
      · exact h
    obtain ⟨d, ds, hd⟩ := List.exists_cons_of_ne_nil (percentEncode_singleton_ne_nil controlSet c)
    have split : percentEncode controlSet (l.concat c) = percentEncode controlSet l ++ d :: ds := by
      rw [← hd, List.concat_eq_append]
      exact List.flatMap_append
    rw [split]
    exact .append_cons (hd ▸ last).endsVisible

theorem exists_of_scheme? {scheme rest : List Char} (h : scheme? l = some (scheme, rest)) :
    Visible scheme ∧ scheme ≠ [] ∧ ∃ name, l = name ++ ':' :: rest := by
  unfold scheme? at h
  split at h
  · cases h
  · next c l =>
    split at h
    · next hc =>
      dsimp only at h
      split at h
      · next r hr =>
        cases h
        rw [drop_length_takeWhile] at hr
        refine ⟨?_, ?_, _, hr ▸ List.takeWhile_append_dropWhile.symm⟩
        · intro e he
          obtain ⟨d, hd, rfl⟩ := List.mem_map.1 he
          have named := List.mem_takeWhile_imp hd
          simp only [Bool.or_eq_true, beq_iff_eq] at named
          refine VisibleChar.toLower ?_
          rcases named with ((h | rfl) | rfl) | rfl
          · exact visibleChar_of_isAlphanum h
          all_goals decide
        · rw [List.takeWhile_cons_of_pos (by simp [Char.isAlphanum, hc])]
          exact List.cons_ne_nil _ _
      · cases h
    · cases h

theorem isClean_of_readAbsolute {scheme : List Char} {u : Url} (hs : Visible scheme)
    (hn : scheme ≠ []) (hl : ∀ c, l.getLast? = some c → 0x20 < c.toNat)
    (h : readAbsolute none scheme l = .ok u) : u.IsClean := by
  unfold readAbsolute at h
  split at h
  · exact isClean_of_readFile h
  · split at h
    · exact isClean_of_afterSlashes hs hn h
    · split at h
      · exact isClean_of_afterSlashes hs hn h
      · cases h
        exact .finish hs hn nofun (fun _ => (visible_readPath _ _).endsVisible)
          (isTail_readPath _ _ _)
      · cases h
        rw [drop_length_takeWhile]
        refine .finish hs hn nofun (fun hr => ?_) (isTail_dropWhile l fun c hc => ?_)
        · refine endsVisible_controlSet ?_
          rw [← List.takeWhile_append_dropWhile (p := fun c => c != '?' && c != '#') (l := l), hr,
            List.append_nil] at hl
          exact hl
        · simpa [or_iff_not_imp_left] using hc

theorem getLast?_cleaned {c : Char} (h : (cleaned l).getLast? = some c) : 0x20 < c.toNat := by
  unfold cleaned at h
  dsimp only at h
  rw [List.getLast?_eq_head?_reverse, ← List.filter_reverse, List.reverse_reverse] at h
  generalize (l.dropWhile fun c => decide (c.toNat ≤ 0x20)).reverse = back at h
  cases hb : back.dropWhile fun c => decide (c.toNat ≤ 0x20) with
  | nil =>
    rw [hb] at h
    cases h
  | cons d rest =>
    have visible : 0x20 < d.toNat := by
      have hd := Text.head?_dropWhile_not _ back d (congrArg List.head? hb)
      simpa using hd
    have kept : (d != '\t' && d != '\n' && d != '\r') = true := by
      simp only [Bool.and_eq_true, bne_iff_ne]
      refine ⟨⟨?_, ?_⟩, ?_⟩
      all_goals
        rintro rfl
        exact absurd visible (by decide)
    rw [hb, List.filter_cons, if_pos kept] at h
    cases h
    exact visible

theorem isTrimmed_chars_of_parse {s : String} {u : Url} (h : parse s = .ok u) :
    Text.IsTrimmed u.chars := by
  refine IsClean.isTrimmed ?_
  unfold parse readFrom at h
  dsimp only at h
  split at h
  · next scheme rest hs =>
    obtain ⟨visible, ne, name, hl⟩ := exists_of_scheme? hs
    refine isClean_of_readAbsolute visible ne (fun c hc => getLast?_cleaned (l := s.toList) ?_) h
    rw [hl, List.getLast?_append, List.getLast?_cons, hc]
    rfl
  · cases h

end Bxml.Url
