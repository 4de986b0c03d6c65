import Bxml.Resource.FileTree
import Mathlib.Data.List.Infix

/-!
# Walks through a file tree

A walk takes one step for each name: it stays, goes up, follows a link or goes down.  Where it ends
there is no link, neither there nor on the way from the root, so that a walk along the names of the
end comes to the same place: the names that `canonical?` gives are those of the file itself.

* `Walks` is a walk as an inductive relation, `walk_eq_ok` ties it to the function, and
  `Walks.split` and `Walks.plain` put walks together and leave out the names at which they stay.
* `IsStraight` says that names lead down a tree without links; a walk ends so (`Walks.isStraight`),
  and such names are a walk themselves, however few links it may follow (`IsStraight.walks`).
* `isStraight_of_canonical?` is what `Resource/Directory.lean` needs, and `Walks.isPrefix` that a
  walk which never goes up stays inside a directory without links.
-/

namespace Bxml

/-! ## The names of a path -/

theorem pathNames_ne_nil (path : List UInt8) : pathNames path ≠ [] := by
  fun_cases pathNames path <;> simp_all

theorem slash_not_mem_of_pathNames {path : List UInt8} {n : FileName} (h : n ∈ pathNames path) :
    pathSlash ∉ n := by
  fun_induction pathNames path generalizing n with
  | case1 =>
    rw [List.mem_singleton.1 h]
    exact List.not_mem_nil
  | case2 r ih =>
    rcases List.mem_cons.1 h with rfl | h
    · exact List.not_mem_nil
    · exact ih h
  | case3 b r hb m ns hr ih =>
    rw [hr] at ih
    rcases List.mem_cons.1 h with rfl | h
    · exact List.not_mem_cons_of_ne_of_not_mem (Ne.symm hb) (ih List.mem_cons_self)
    · exact ih (List.mem_cons_of_mem m h)
  | case4 b r hb hr ih => exact absurd hr (pathNames_ne_nil r)

theorem pathNames_eq_self {n : FileName} (h : pathSlash ∉ n) : pathNames n = [n] := by
  induction n with
  | nil => rfl
  | cons b n ih =>
    rw [List.mem_cons, not_or] at h
    rw [pathNames, if_neg (Ne.symm h.1), ih h.2]

theorem pathNames_append_slash {n : FileName} (h : pathSlash ∉ n) (r : List UInt8) :
    pathNames (n ++ pathSlash :: r) = n :: pathNames r := by
  induction n with
  | nil => rw [List.nil_append, pathNames, if_pos rfl]
  | cons b n ih =>
    rw [List.mem_cons, not_or] at h
    rw [List.cons_append, pathNames, if_neg (Ne.symm h.1), ih h.2]

/-- A path consists of the names of which it is made. -/
theorem pathNames_flatMap {names : List FileName} (h : ∀ n ∈ names, pathSlash ∉ n) {n : FileName}
    (hn : pathSlash ∉ n) : pathNames (n ++ names.flatMap (pathSlash :: ·)) = n :: names := by
  induction names generalizing n with
  | nil => rw [List.flatMap_nil, List.append_nil, pathNames_eq_self hn]
  | cons m names ih =>
    rw [List.flatMap_cons, List.cons_append, pathNames_append_slash hn,
      ih (fun n hn => h n (List.mem_cons_of_mem m hn)) (h m List.mem_cons_self)]

namespace FileTree

variable {t x : FileTree} {k : Nat} {here names out front rest base : List FileName} {n : FileName}
  {es : List (FileName × FileTree)} {path bytes : List UInt8}

/-- Whether a tree is a link. -/
def isLink : FileTree → Bool
  | .link _ => true
  | _ => false

/-- Whether a name can be that of an entry that a walk goes down to. -/
structure IsEntryName (n : FileName) : Prop where
  ne_nil : n ≠ []
  ne_self : n ≠ selfName
  ne_parent : n ≠ parentName
  length_le : n.length ≤ nameLimit

/-! ## What stands at the end of some names -/

theorem find?_nil (t : FileTree) : t.find? [] = some t := by
  cases t <;> rfl

theorem find?_directory (es : List (FileName × FileTree)) (n : FileName) (names : List FileName) :
    (directory es).find? (n :: names) = (es.lookup n).bind (·.find? names) := by
  rw [find?]
  cases es.lookup n <;> rfl

theorem find?_cons_eq_some : t.find? (n :: names) = some x ↔
    ∃ es y, t = .directory es ∧ es.lookup n = some y ∧ y.find? names = some x := by
  cases t with
  | directory es =>
    rw [find?_directory, Option.bind_eq_some_iff]
    constructor
    · rintro ⟨y, hy, hx⟩
      exact ⟨es, y, rfl, hy, hx⟩
    · rintro ⟨_, y, ⟨⟩, hy, hx⟩
      exact ⟨y, hy, hx⟩
  | _ => simp [find?]

theorem find?_append : t.find? (front ++ rest) = (t.find? front).bind (·.find? rest) := by
  induction front generalizing t with
  | nil => rw [List.nil_append, find?_nil, Option.bind_some]
  | cons n front ih =>
    cases t with
    | directory es =>
      rw [List.cons_append, find?_directory, find?_directory]
      cases es.lookup n with
      | none => rfl
      | some y => exact ih
    | _ => rfl

/-- Where something stands in a directory, or the directory itself, the tree is a directory. -/
theorem eq_directory_of_find? (h : t.find? here = some (.directory es)) :
    ∃ es', t = .directory es' := by
  cases here with
  | nil =>
    rw [find?_nil] at h
    exact ⟨es, Option.some.inj h⟩
  | cons n r =>
    obtain ⟨es', _, ht, -⟩ := find?_cons_eq_some.1 h
    exact ⟨es', ht⟩

/-! ## Steps of a walk -/

/-- Whether a walk from `here` over some names, which may follow at most so many links, ends at
`out`. -/
inductive Walks (t : FileTree) : Nat → List FileName → List FileName → List FileName → Prop
  | done {k : Nat} {here : List FileName} : Walks t k here [] here
  | stay {k : Nat} {here rest out : List FileName} {n : FileName}
    {es : List (FileName × FileTree)} : t.find? here = some (.directory es) →
    n = [] ∨ n = selfName → Walks t k here rest out → Walks t k here (n :: rest) out
  | up {k : Nat} {here rest out : List FileName} {es : List (FileName × FileTree)} :
    t.find? here = some (.directory es) → Walks t k here.dropLast rest out →
    Walks t k here (parentName :: rest) out
  | follow {k : Nat} {here rest out : List FileName} {n : FileName} {target : List UInt8}
    {es : List (FileName × FileTree)} : t.find? here = some (.directory es) → IsEntryName n →
    es.lookup n = some (.link target) →
    Walks t k (if target.head? = some pathSlash then [] else here) (pathNames target ++ rest) out →
    Walks t (k + 1) here (n :: rest) out
  | down {k : Nat} {here rest out : List FileName} {n : FileName} {x : FileTree}
    {es : List (FileName × FileTree)} : t.find? here = some (.directory es) → IsEntryName n →
    es.lookup n = some x → x.isLink = false → Walks t k (here ++ [n]) rest out →
    Walks t k here (n :: rest) out

theorem isEntryName_of_not (hn : ¬ (n = [] ∨ n = selfName)) (hp : ¬ n = parentName)
    (hl : ¬ nameLimit < n.length) : IsEntryName n :=
  ⟨fun h => hn (.inl h), fun h => hn (.inr h), hp, Nat.le_of_not_lt hl⟩

theorem walk_eq_ok : t.walk k here names = .ok out ↔ t.Walks k here names out := by
  constructor
  · intro h
    fun_induction walk t k here names with
    | case1 =>
      cases h
      exact .done
    | case2 _ _ _ _ _ hd hn ih => exact .stay hd hn (ih h)
    | case3 _ _ _ _ hd _ ih => exact .up hd (ih h)
    | case7 _ _ _ _ hd hn hp hl _ hlink _ ih =>
      refine .follow hd (isEntryName_of_not hn hp hl) hlink ?_
      simp only [dite_eq_ite] at ih
      exact ih h
    | case8 _ _ _ _ _ hd hn hp hl x hx hlookup ih =>
      refine .down hd (isEntryName_of_not hn hp hl) hlookup ?_ (ih h)
      cases x with
      | link target => exact absurd rfl (hx target)
      | _ => rfl
    | _ => cases h
  · intro h
    induction h with
    | done => rw [walk]
    | stay hd hn _ ih =>
      rw [walk, hd]
      simp only [hn, if_true, ih]
    | up hd _ ih =>
      have plain : ¬ (parentName = [] ∨ parentName = selfName) := by decide
      rw [walk, hd]
      simp only [plain, if_false, if_true, ih]
    | follow hd hn hl _ ih =>
      rw [walk, hd]
      simp only [hn.ne_nil, hn.ne_self, hn.ne_parent, Nat.not_lt.2 hn.length_le, or_self,
        if_false, hl, ih]
    | @down _ _ _ _ _ x _ hd hn hl hx _ ih =>
      rw [walk, hd]
      simp only [hn.ne_nil, hn.ne_self, hn.ne_parent, Nat.not_lt.2 hn.length_le, or_self,
        if_false, hl]
      cases x with
      | link => cases hx
      | _ => exact ih

/-! ## Where a walk ends -/

/-- Whether some names lead down a tree without links to something that is no link. -/
structure IsStraight (t : FileTree) (names : List FileName) : Prop where
  entries : ∀ n ∈ names, IsEntryName n ∧ pathSlash ∉ n
  ends : ∃ x, t.find? names = some x ∧ x.isLink = false

/-- A walk that starts where no link leads ends there too. -/
theorem Walks.isStraight (h : t.Walks k here names out) (hh : t.IsStraight here)
    (hn : ∀ n ∈ names, pathSlash ∉ n) : t.IsStraight out := by
  induction h with
  | done => exact hh
  | stay _ _ _ ih => exact ih hh fun n h => hn n (List.mem_cons_of_mem _ h)
  | @up _ here _ _ es hd _ ih =>
    refine ih ⟨fun n h => hh.entries n (List.mem_of_mem_dropLast h), ?_⟩
      fun n h => hn n (List.mem_cons_of_mem _ h)
    cases here using List.reverseRecOn with
    | nil => exact ⟨_, hd, rfl⟩
    | append_singleton front n =>
      rw [List.dropLast_concat]
      rw [find?_append, Option.bind_eq_some_iff] at hd
      obtain ⟨x, hx, hd⟩ := hd
      obtain ⟨es', rfl⟩ := eq_directory_of_find? hd
      exact ⟨_, hx, rfl⟩
  | @follow _ _ _ _ _ target _ hd _ _ _ ih =>
    refine ih ?_ fun n h => ?_
    · split
      · obtain ⟨es', rfl⟩ := eq_directory_of_find? hd
        exact ⟨List.forall_mem_nil _, _, find?_nil _, rfl⟩
      · exact hh
    · rcases List.mem_append.1 h with h | h
      · exact slash_not_mem_of_pathNames h
      · exact hn n (List.mem_cons_of_mem _ h)
  | @down _ here _ _ n x es hd he hl hx _ ih =>
    refine ih ⟨fun m h => ?_, x, ?_, hx⟩ fun n h => hn n (List.mem_cons_of_mem _ h)
    · rcases List.mem_append.1 h with h | h
      · exact hh.entries m h
      · rw [List.mem_singleton.1 h]
        exact ⟨he, hn n List.mem_cons_self⟩
    · rw [find?_append, hd, Option.bind_some, find?_directory, hl, Option.bind_some, find?_nil]

/-- A walk along names without links stays on them, however few links it may follow. -/
theorem IsStraight.walks (h : t.IsStraight (here ++ names)) (k : Nat) :
    t.Walks k here names (here ++ names) := by
  induction names generalizing here with
  | nil =>
    rw [List.append_nil]
    exact .done
  | cons n names ih =>
    obtain ⟨x, hx, nolink⟩ := h.ends
    rw [find?_append, Option.bind_eq_some_iff] at hx
    obtain ⟨d, hd, hx⟩ := hx
    obtain ⟨es, y, rfl, hy, hx⟩ := find?_cons_eq_some.1 hx
    have entry := (h.entries n (List.mem_append_right _ List.mem_cons_self)).1
    have below : y.isLink = false := by
      cases y with
      | link target =>
        cases names with
        | nil =>
          cases hx
          exact nolink
        | cons => cases hx
      | _ => rfl
    have again : here ++ [n] ++ names = here ++ n :: names := by simp
    rw [← again] at h ⊢
    exact .down hd entry hy below (ih h)

/-- A walk over some names is one over the first of them and then one over the others. -/
theorem Walks.split (h : t.Walks k here names out) (hs : names = front ++ rest) :
    ∃ mid j, t.Walks k here front mid ∧ t.Walks j mid rest out := by
  induction h generalizing front with
  | done =>
    obtain ⟨rfl, rfl⟩ := List.append_eq_nil_iff.1 hs.symm
    exact ⟨_, 0, .done, .done⟩
  | stay hd hn hw ih =>
    cases front with
    | nil =>
      obtain rfl : _ = rest := hs
      exact ⟨_, _, .done, .stay hd hn hw⟩
    | cons _ front =>
      cases hs
      obtain ⟨mid, j, first, last⟩ := ih rfl
      exact ⟨mid, j, .stay hd hn first, last⟩
  | up hd hw ih =>
    cases front with
    | nil =>
      obtain rfl : _ = rest := hs
      exact ⟨_, _, .done, .up hd hw⟩
    | cons _ front =>
      cases hs
      obtain ⟨mid, j, first, last⟩ := ih rfl
      exact ⟨mid, j, .up hd first, last⟩
  | follow hd hn hl hw ih =>
    cases front with
    | nil =>
      obtain rfl : _ = rest := hs
      exact ⟨_, _, .done, .follow hd hn hl hw⟩
    | cons _ front =>
      cases hs
      obtain ⟨mid, j, first, last⟩ := ih (List.append_assoc _ _ _).symm
      exact ⟨mid, j, .follow hd hn hl first, last⟩
  | down hd hn hl hx hw ih =>
    cases front with
    | nil =>
      obtain rfl : _ = rest := hs
      exact ⟨_, _, .done, .down hd hn hl hx hw⟩
    | cons _ front =>
      cases hs
      obtain ⟨mid, j, first, last⟩ := ih rfl
      exact ⟨mid, j, .down hd hn hl hx first, last⟩

/-- The names at which a walk stays may be left out. -/
theorem Walks.plain (h : t.Walks k here names out) (hs : names = front ++ rest) :
    t.Walks k here (front ++ rest.filter fun n => n != [] && n != selfName) out := by
  induction h generalizing front rest with
  | done =>
    obtain ⟨rfl, rfl⟩ := List.append_eq_nil_iff.1 hs.symm
    exact .done
  | stay hd hn _ ih =>
    cases front with
    | nil =>
      obtain rfl : _ = rest := hs
      rw [List.nil_append, List.filter_cons_of_neg (by simpa [or_iff_not_imp_left] using hn)]
      exact @ih [] _ rfl
    | cons _ front =>
      cases hs
      exact .stay hd hn (ih rfl)
  | up hd _ ih =>
    cases front with
    | nil =>
      obtain rfl : _ = rest := hs
      rw [List.nil_append, List.filter_cons_of_pos (by decide)]
      exact .up hd (@ih [] _ rfl)
    | cons _ front =>
      cases hs
      exact .up hd (ih rfl)
  | follow hd hn hl _ ih =>
    cases front with
    | nil =>
      obtain rfl : _ = rest := hs
      rw [List.nil_append, List.filter_cons_of_pos (by simp [hn.ne_nil, hn.ne_self])]
      exact .follow hd hn hl (ih rfl)
    | cons _ front =>
      cases hs
      have longer := ih (List.append_assoc _ front rest).symm
      rw [List.append_assoc] at longer
      exact .follow hd hn hl longer
  | down hd hn hl hx _ ih =>
    cases front with
    | nil =>
      obtain rfl : _ = rest := hs
      rw [List.nil_append, List.filter_cons_of_pos (by simp [hn.ne_nil, hn.ne_self])]
      exact .down hd hn hl hx (@ih [] _ rfl)
    | cons _ front =>
      cases hs
      exact .down hd hn hl hx (ih rfl)

/-- Below a directory without links, a walk that never goes up stays inside. -/
theorem Walks.isPrefix (h : t.Walks k here names out) (hh : base <+: here)
    (nolink : ∀ below target, t.find? (base ++ below) ≠ some (.link target))
    (hp : parentName ∉ names) : base <+: out := by
  induction h with
  | done => exact hh
  | stay _ _ _ ih => exact ih hh fun h => hp (List.mem_cons_of_mem _ h)
  | up => exact absurd List.mem_cons_self hp
  | @follow _ _ _ _ n target _ hd _ hl _ _ =>
    obtain ⟨below, rfl⟩ := hh
    refine absurd ?_ (nolink (below ++ [n]) target)
    rw [← List.append_assoc, find?_append, hd, Option.bind_some, find?_directory, hl,
      Option.bind_some, find?_nil]
  | down _ _ _ _ _ ih =>
    exact ih (hh.trans (List.prefix_append _ _)) fun h => hp (List.mem_cons_of_mem _ h)

/-! ## What a path leads to -/

theorem canonical?_eq_ok : t.canonical? path = .ok names ↔
    0 ∉ path ∧ path.length ≤ pathLimit ∧ t.Walks linkLimit [] (pathNames path) names := by
  rw [canonical?]
  split_ifs with hz hl
  · simp only [List.contains_iff_mem] at hz
    simp [hz]
  · simp [Nat.not_le.2 hl]
  · simp only [List.contains_iff_mem] at hz
    simp only [hz, Nat.le_of_not_lt hl, walk_eq_ok, not_false_eq_true, true_and]

/-- Only in a directory does a path lead anywhere. -/
theorem eq_directory_of_canonical? (h : t.canonical? path = .ok names) :
    ∃ es, t = .directory es := by
  have hw := (canonical?_eq_ok.1 h).2.2
  obtain ⟨es, hd⟩ : ∃ es, t.find? [] = some (.directory es) := by
    cases hs : pathNames path with
    | nil => exact absurd hs (pathNames_ne_nil path)
    | cons n ns =>
      rw [hs] at hw
      cases hw <;> exact ⟨_, ‹_›⟩
  exact eq_directory_of_find? hd

/-- No link leads to the names that a path has in the end. -/
theorem isStraight_of_canonical? (h : t.canonical? path = .ok names) : t.IsStraight names := by
  obtain ⟨es, rfl⟩ := eq_directory_of_canonical? h
  exact (canonical?_eq_ok.1 h).2.2.isStraight ⟨List.forall_mem_nil _, _, find?_nil _, rfl⟩
    fun _ => slash_not_mem_of_pathNames

theorem read_eq_ok : t.read path = .ok bytes ↔
    ∃ names, t.canonical? path = .ok names ∧ t.find? names = some (.file bytes) := by
  rw [read]
  cases t.canonical? path with
  | error e => simp [bind, Except.bind]
  | ok names =>
    simp only [bind, Except.bind, Except.ok.injEq, exists_eq_left']
    cases t.find? names with
    | none => simp [throw, throwThe, MonadExceptOf.throw]
    | some x => cases x <;> simp [throw, throwThe, MonadExceptOf.throw, pure, Except.pure]

end FileTree

end Bxml
