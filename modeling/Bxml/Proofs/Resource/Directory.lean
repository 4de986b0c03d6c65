import Bxml.Proofs.Resource.FileTree
import Bxml.Resource.Directory
import Mathlib

/-!
# What a directory serves

A provider whose base existed when it was created serves exactly the files whose link-free names lie
below those of the base. One that was created before its base has no link-free names to compare
with: it compares the names of the URL alone and then reads through the links that it meets, so that
it stays inside a base without links below it, but not inside every base.

* `contained_of_load` is the result, with one part for each of the two cases.  The files may be
  others by the time of the load than when the provider was created.
* `load_of_canonical` and `load_of_no_canonical` are the two arms of a load, and `load_eq_ok` says
  what a URL that is served stands for (`IsBehind`).
* `isPrefix_of_plainNames` is the step for paths that only go down.

`links_lead_outside` has providers without link-free names that read a file outside of their base.
-/

namespace Bxml

/-! ## The path of some names -/

theorem pathNames_joinNames {names : List FileName} (h : ∀ n ∈ names, pathSlash ∉ n)
    (hn : names ≠ []) : pathNames (BaseDirectory.joinNames names) = [] :: names := by
  cases names with
  | nil => exact absurd rfl hn
  | cons n names =>
    exact pathNames_flatMap h List.not_mem_nil

namespace FileTree

variable {t : FileTree} {path bytes : List UInt8} {names : List FileName}

/-- Whether the system opens the path that some names make. -/
def CanOpen (names : List FileName) : Prop :=
  0 ∉ BaseDirectory.joinNames names ∧ (BaseDirectory.joinNames names).length ≤ pathLimit

/-- The path of link-free names leads to those names. -/
theorem canonical?_joinNames (h : t.canonical? path = .ok names) (ho : CanOpen names) :
    t.canonical? (BaseDirectory.joinNames names) = .ok names := by
  have straight := isStraight_of_canonical? h
  obtain ⟨es, rfl⟩ := eq_directory_of_canonical? h
  refine canonical?_eq_ok.2 ⟨ho.1, ho.2, ?_⟩
  have root : (directory es).find? [] = some (directory es) := find?_nil _
  by_cases hn : names = []
  · subst hn
    exact .stay root (.inl rfl) (.stay root (.inl rfl) .done)
  · rw [pathNames_joinNames (fun n h => (straight.entries n h).2) hn]
    exact .stay root (.inl rfl) (IsStraight.walks straight _)

theorem read_joinNames (h : t.canonical? path = .ok names) :
    t.read (BaseDirectory.joinNames names) = .ok bytes ↔
      t.find? names = some (.file bytes) ∧ CanOpen names := by
  rw [read_eq_ok]
  constructor
  · rintro ⟨names', hc, hf⟩
    obtain ⟨hz, hl, -⟩ := canonical?_eq_ok.1 hc
    rw [canonical?_joinNames h ⟨hz, hl⟩] at hc
    cases hc
    exact ⟨hf, hz, hl⟩
  · rintro ⟨hf, ho⟩
    exact ⟨names, canonical?_joinNames h ho, hf⟩

/-- Whether a URL stands for the file that has these bytes and, once all links are followed, these
names. -/
def IsBehind (t : FileTree) (u : Url) (names : List FileName) (bytes : List UInt8) : Prop :=
  ∃ path, Url.isFile u.scheme = true ∧ u.filePath? = some path ∧ t.canonical? path = .ok names ∧
    t.find? names = some (.file bytes)

/-- Whether there is no link below a directory. -/
def IsLinkFree (t : FileTree) (base : List FileName) : Prop :=
  ∀ below target, t.find? (base ++ below) ≠ some (.link target)

/-- Below a path to a directory without links, a path that only goes down stays inside. -/
theorem isPrefix_of_plainNames {file : List UInt8} {base : List FileName}
    (hb : t.canonical? path = .ok base) (nolink : t.IsLinkFree base)
    (hf : t.canonical? file = .ok names) (hp : parentName ∉ plainNames file)
    (hs : plainNames path <+: plainNames file) : base <+: names := by
  obtain ⟨rest, hs⟩ := hs
  have toBase : t.Walks linkLimit [] (plainNames path) base :=
    (canonical?_eq_ok.1 hb).2.2.plain (List.nil_append _).symm
  have toFile : t.Walks linkLimit [] (plainNames file) names :=
    (canonical?_eq_ok.1 hf).2.2.plain (List.nil_append _).symm
  obtain ⟨mid, j, first, last⟩ := toFile.split hs.symm
  -- Both walks may follow as many links over the names of the base, so they end at one place.
  obtain rfl : mid = base :=
    Except.ok.inj ((walk_eq_ok.2 first).symm.trans (walk_eq_ok.2 toBase))
  exact last.isPrefix (List.prefix_refl _) nolink fun h =>
    hp (hs ▸ List.mem_append_right _ h)

end FileTree

namespace BaseDirectory

variable {b : BaseDirectory} {t : FileTree} {u : Url} {bytes : List UInt8}

theorem load_eq_ok : b.load t u = .ok bytes ↔
    ∃ path, b.safePath? t u = some path ∧ t.read path = .ok bytes := by
  rw [load]
  cases b.safePath? t u with
  | none => simp
  | some path =>
    simp only [Option.some.injEq, exists_eq_left']
    cases t.read path with
    | ok _ => simp
    | error e => cases e <;> simp

/-- A path that can be followed is compared with the base by its link-free names. -/
theorem load_of_canonical {base : List FileName} (hb : b.canonical = some base) :
    b.load t u = .ok bytes ↔
      ∃ names, t.IsBehind u names bytes ∧ base <+: names ∧ FileTree.CanOpen names := by
  rw [load_eq_ok]
  constructor
  · rintro ⟨path, hs, hr⟩
    simp only [safePath?, hb] at hs
    split at hs
    case isFalse => cases hs
    case isTrue hfile =>
    split at hs
    case h_2 => cases hs
    case h_1 file hpath =>
    split at hs
    case h_1 names base' hc heq =>
      obtain rfl : base = base' := Option.some.inj heq
      split_ifs at hs with hpre
      cases hs
      obtain ⟨hf, ho⟩ := (FileTree.read_joinNames hc).1 hr
      exact ⟨names, ⟨file, hfile, hpath, hc, hf⟩, List.isPrefixOf_iff_prefix.1 hpre, ho⟩
    case h_2 hno =>
      split_ifs at hs
      cases hs
      obtain ⟨names, hc, -⟩ := FileTree.read_eq_ok.1 hr
      exact (hno names base hc rfl).elim
  · rintro ⟨names, ⟨file, hfile, hpath, hc, hf⟩, hpre, ho⟩
    refine ⟨joinNames names, ?_, (FileTree.read_joinNames hc).2 ⟨hf, ho⟩⟩
    simp only [safePath?, hb, hfile, hpath, hc, List.isPrefixOf_iff_prefix.2 hpre, if_true]

theorem safePath?_of_no_canonical (hb : b.canonical = none) {path : List UInt8} :
    b.safePath? t u = some path ↔
      Url.isFile u.scheme = true ∧ u.filePath? = some path ∧ parentName ∉ plainNames path ∧
        b.names <+: plainNames path := by
  constructor
  · intro hs
    simp only [safePath?] at hs
    split at hs
    case isFalse => cases hs
    case isTrue hfile =>
    split at hs
    case h_2 => cases hs
    case h_1 file hpath =>
    split at hs
    case h_1 hbase =>
      rw [hb] at hbase
      cases hbase
    case h_2 =>
      split_ifs at hs with hup hpre
      cases hs
      exact ⟨hfile, hpath, fun h => hup (List.contains_iff_mem.2 h),
        List.isPrefixOf_iff_prefix.1 hpre⟩
  · rintro ⟨hfile, hpath, hup, hpre⟩
    have outside : ¬ (plainNames path).contains parentName = true :=
      fun h => hup (List.contains_iff_mem.1 h)
    rw [safePath?, if_pos hfile, hpath]
    dsimp only
    split
    case h_1 hbase =>
      rw [hb] at hbase
      cases hbase
    case h_2 => rw [if_neg outside, if_pos (List.isPrefixOf_iff_prefix.2 hpre)]

/-- Without link-free names of the base to compare with, a path is compared name by name. -/
theorem load_of_no_canonical (hb : b.canonical = none) :
    b.load t u = .ok bytes ↔
      ∃ file names, Url.isFile u.scheme = true ∧ u.filePath? = some file ∧
        t.canonical? file = .ok names ∧ t.find? names = some (.file bytes) ∧
        parentName ∉ plainNames file ∧ b.names <+: plainNames file := by
  rw [load_eq_ok]
  constructor
  · rintro ⟨path, hs, hr⟩
    obtain ⟨names, hc, hf⟩ := FileTree.read_eq_ok.1 hr
    obtain ⟨hfile, hpath, hup, hpre⟩ := (safePath?_of_no_canonical hb).1 hs
    exact ⟨path, names, hfile, hpath, hc, hf, hup, hpre⟩
  · rintro ⟨file, names, hfile, hpath, hc, hf, hup, hpre⟩
    exact ⟨file, (safePath?_of_no_canonical hb).2 ⟨hfile, hpath, hup, hpre⟩,
      FileTree.read_eq_ok.2 ⟨names, hc, hf⟩⟩

/-! ## Pages and links in a base directory -/

/-- The URL of the file at an absolute path. -/
def fileAt (path : String) : Url :=
  { Url.fileRoot with path := path.toList }

/-- The bytes of an ASCII text. -/
def ascii (text : String) : List UInt8 := Url.utf8 text.toList

/-- A directory with a page and nothing else. -/
def lonePage : FileTree :=
  .directory [(ascii "app", .directory [(ascii "page", .file (ascii "<A/>"))])]

/-- A directory with a page, a link to the page and a link to a file outside. -/
def linkedPages : FileTree :=
  .directory [
    (ascii "app", .directory [
      (ascii "page", .file (ascii "<A/>")),
      (ascii "again", .link (ascii "/app/page")),
      (ascii "out", .link (ascii "../secret"))]),
    (ascii "secret", .file (ascii "<B/>"))]

theorem isLinkFree_lonePage : lonePage.IsLinkFree [ascii "app"] := by
  have inside : lonePage.find? [ascii "app"] =
      some (.directory [(ascii "page", .file (ascii "<A/>"))]) := rfl
  intro below target h
  rw [FileTree.find?_append, inside, Option.bind_some] at h
  cases below with
  | nil => cases h
  | cons n below =>
    obtain ⟨_, x, ⟨⟩, hx, h⟩ := FileTree.find?_cons_eq_some.1 h
    obtain rfl : FileTree.file (ascii "<A/>") = x := by
      rw [List.lookup_cons] at hx
      split at hx <;> cases hx
      rfl
    cases below <;> cases h

/-- A provider whose base existed when it was created serves, from whatever the files are by then,
exactly those whose link-free names lie below those of the base and can be opened.  One that was
created before its base serves nothing outside it either, provided there is no link below it. -/
theorem contained_of_load (t₀ t : FileTree) (path : String) (u : Url) (bytes : List UInt8) :
    (∀ base, t₀.canonical? (Url.utf8 path.toList) = .ok base →
      ((create t₀ path).load t u = .ok bytes ↔
        ∃ names, t.IsBehind u names bytes ∧ base <+: names ∧ FileTree.CanOpen names)) ∧
    ∀ e base, t₀.canonical? (Url.utf8 path.toList) = .error e →
      t.canonical? (Url.utf8 path.toList) = .ok base → t.IsLinkFree base →
      (create t₀ path).load t u = .ok bytes →
        ∃ names, t.IsBehind u names bytes ∧ base <+: names := by
  constructor
  · intro base hb
    refine load_of_canonical ?_
    rw [create, hb, Except.toOption]
  · intro e base he hb nolink hload
    have hnone : (create t₀ path).canonical = none := by
      rw [create, he, Except.toOption]
    obtain ⟨file, names, hfile, hpath, hc, hf, hup, hpre⟩ := (load_of_no_canonical hnone).1 hload
    rw [BaseDirectory.names, hnone] at hpre
    exact ⟨names, ⟨file, hfile, hpath, hc, hf⟩,
      FileTree.isPrefix_of_plainNames hb nolink hc hup hpre⟩

/-- A link from the page to itself is followed, and a page that is made after the provider found. -/
theorem contained_of_load_again :
    linkedPages.canonical? (Url.utf8 "/app".toList) = .ok [ascii "app"] ∧
      (create linkedPages "/app").load linkedPages (fileAt "/app/again") = .ok (ascii "<A/>") ∧
      FileTree.empty.canonical? (Url.utf8 "/app".toList) = .error .notFound ∧
      lonePage.canonical? (Url.utf8 "/app".toList) = .ok [ascii "app"] ∧
      (create .empty "/app").load lonePage (fileAt "/app/page") = .ok (ascii "<A/>") ∧
      ∃ names, lonePage.IsBehind (fileAt "/app/page") names (ascii "<A/>") ∧
        [ascii "app"] <+: names := by
  have base : linkedPages.canonical? (Url.utf8 "/app".toList) = .ok [ascii "app"] := by cbv
  have none : FileTree.empty.canonical? (Url.utf8 "/app".toList) = .error .notFound := by cbv
  have later : lonePage.canonical? (Url.utf8 "/app".toList) = .ok [ascii "app"] := by cbv
  have page : (create .empty "/app").load lonePage (fileAt "/app/page") = .ok (ascii "<A/>") := by
    cbv
  refine ⟨base, ?_, none, later, page, ?_⟩
  · refine ((contained_of_load _ _ _ _ _).1 _ base).2 ⟨[ascii "app", ascii "page"], ?_, ?_⟩
    · exact ⟨ascii "/app/again", rfl, by cbv, by cbv, rfl⟩
    · exact ⟨⟨[ascii "page"], rfl⟩, by decide, by decide⟩
  · exact (contained_of_load _ _ _ _ _).2 _ _ none later isLinkFree_lonePage page

/-- A provider that was created before its base, or whose base is a path to a link that ends in a
slash, reads a file outside through a link. -/
theorem links_lead_outside :
    ((create .empty "/app").load linkedPages (fileAt "/app/out") = .ok (ascii "<B/>") ∧
      linkedPages.canonical? (Url.utf8 "/app".toList) = .ok [ascii "app"]) ∧
    ((create linkedPages "/app/out/").load linkedPages (fileAt "/app/out") = .ok (ascii "<B/>") ∧
      linkedPages.canonical? (Url.utf8 "/app/out/".toList) = .error .notDirectory) ∧
    linkedPages.IsBehind (fileAt "/app/out") [ascii "secret"] (ascii "<B/>") ∧
      ¬ [ascii "app"] <+: [ascii "secret"] := by
  exact ⟨⟨by cbv, by cbv⟩, ⟨by cbv, by cbv⟩, ⟨ascii "/app/out", rfl, by cbv, by cbv, rfl⟩,
    by decide⟩

end BaseDirectory

end Bxml
