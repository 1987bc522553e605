/-
SqlScript/Proofs/Files/Places.lean

Paths, and the places that they lead to.

A path that was read from a text is *proper*: its root is one of three, and none of its parts
would get lost or be cut if it were written and read again (`Path.ofString_proper`).  So a proper
path is read back from its text (`Path.ofString_toString`), and a path under a base is the base
and its relative path joined (`Path.join_relativeTo?`).

Following a path part by part leads where its parts say, and only through directories
(`Tree.follow_eq`, `Tree.follow_enclosed`).  The resolved path names the same place without dots,
so the same thing stands there, unless the resolved path is too long (`Tree.entry_resolve`).  A
path that leads to a file has the name of the file as its last part, so its suffix is kept
(`Tree.suffix_resolve`).
-/
import Mathlib.Data.List.Basic
import SqlScript.Files.Tree

namespace SqlScript.Files

namespace Path

/-! ### Reading paths -/

/-- A part that is there again when a path is written and read: it is neither empty nor a dot,
and has no slash in it. -/
structure IsPart (part : String) : Prop where
  some : part.toList ≠ []
  noDot : part.toList ≠ ['.']
  noSlash : '/' ∉ part.toList

/-- A path that is read back from its text. -/
structure Proper (p : Path) : Prop where
  root : p.root ∈ ["", "/", "//"]
  parts : ∀ part ∈ p.parts, IsPart part

theorem splitSlash_ne_nil (cs : List Char) : splitSlash cs ≠ [] := by
  cases cs with
  | nil => exact List.cons_ne_nil _ _
  | cons c cs =>
    rw [splitSlash]
    split
    · exact List.cons_ne_nil _ _
    · split <;> exact List.cons_ne_nil _ _

theorem splitSlash_cons {c : Char} (h : c ≠ '/') {cs piece : List Char} {rest : List (List Char)}
    (hcs : splitSlash cs = piece :: rest) : splitSlash (c :: cs) = (c :: piece) :: rest := by
  rw [splitSlash, if_neg h, hcs]

/-- Pieces have no slashes in them. -/
theorem slash_notMem_piece {cs piece : List Char} (h : piece ∈ splitSlash cs) : '/' ∉ piece := by
  induction cs generalizing piece with
  | nil =>
    rw [List.mem_singleton.mp h]
    exact List.not_mem_nil
  | cons c cs ih =>
    by_cases hc : c = '/'
    · rw [splitSlash, if_pos hc] at h
      rcases List.mem_cons.mp h with rfl | h
      · exact List.not_mem_nil
      · exact ih h
    · obtain ⟨first, rest, hcs⟩ := List.exists_cons_of_ne_nil (splitSlash_ne_nil cs)
      rw [splitSlash_cons hc hcs] at h
      rw [hcs] at ih
      rcases List.mem_cons.mp h with rfl | h
      · rw [List.mem_cons, not_or]
        exact ⟨Ne.symm hc, ih List.mem_cons_self⟩
      · exact ih (List.mem_cons_of_mem _ h)

/-- A slash cuts a piece off. -/
theorem splitSlash_append {piece : List Char} (h : '/' ∉ piece) (cs : List Char) :
    splitSlash (piece ++ '/' :: cs) = piece :: splitSlash cs := by
  induction piece with
  | nil => rw [List.nil_append, splitSlash, if_pos rfl]
  | cons c piece ih =>
    rw [List.mem_cons, not_or] at h
    exact splitSlash_cons (Ne.symm h.1) (ih h.2)

theorem splitSlash_piece {piece : List Char} (h : '/' ∉ piece) : splitSlash piece = [piece] := by
  induction piece with
  | nil => rfl
  | cons c piece ih =>
    rw [List.mem_cons, not_or] at h
    exact splitSlash_cons (Ne.symm h.1) (ih h.2)

/-- Pieces with slashes between them are cut where they were put together. -/
theorem splitSlash_intercalate {pieces : List (List Char)} (hne : pieces ≠ [])
    (h : ∀ piece ∈ pieces, '/' ∉ piece) : splitSlash (['/'].intercalate pieces) = pieces := by
  induction pieces with
  | nil => exact absurd rfl hne
  | cons piece pieces ih =>
    rw [List.forall_mem_cons] at h
    cases pieces with
    | nil =>
      rw [List.intercalate_singleton]
      exact splitSlash_piece h.1
    | cons next pieces =>
      rw [List.intercalate_cons_cons, List.append_assoc, List.singleton_append,
        splitSlash_append h.1, ih (List.cons_ne_nil _ _) h.2]

/-- The parts that a text has as a path. -/
def partsOf (cs : List Char) : List String :=
  ((splitSlash cs).filter fun p => p ≠ [] ∧ p ≠ ['.']).map String.ofList

theorem isPart_of_mem_partsOf {cs : List Char} {part : String} (h : part ∈ partsOf cs) :
    IsPart part := by
  obtain ⟨piece, hpiece, rfl⟩ := List.mem_map.mp h
  obtain ⟨hmem, hkept⟩ := List.mem_filter.mp hpiece
  have kept : piece ≠ [] ∧ piece ≠ ['.'] := by simpa using hkept
  exact
    { some := by rw [String.toList_ofList]; exact kept.1
      noDot := by rw [String.toList_ofList]; exact kept.2
      noSlash := by rw [String.toList_ofList]; exact slash_notMem_piece hmem }

theorem partsOf_slash (cs : List Char) : partsOf ('/' :: cs) = partsOf cs := by
  simp [partsOf, splitSlash]

/-- Parts are read back from the text that they make up. -/
theorem partsOf_intercalate {parts : List String} (h : ∀ part ∈ parts, IsPart part) :
    partsOf ("/".intercalate parts).toList = parts := by
  have text : ("/".intercalate parts).toList = ['/'].intercalate (parts.map String.toList) :=
    String.toList_intercalate
  rcases parts with - | ⟨part, parts⟩
  · rfl
  have pieces : splitSlash (['/'].intercalate ((part :: parts).map String.toList)) =
      (part :: parts).map String.toList := by
    refine splitSlash_intercalate (by simp) fun piece hpiece => ?_
    obtain ⟨q, hq, rfl⟩ := List.mem_map.mp hpiece
    exact (h q hq).noSlash
  have kept : ((part :: parts).map String.toList).filter (fun p => p ≠ [] ∧ p ≠ ['.']) =
      (part :: parts).map String.toList := by
    refine List.filter_eq_self.mpr fun piece hpiece => ?_
    obtain ⟨q, hq, rfl⟩ := List.mem_map.mp hpiece
    simp [(h q hq).some, (h q hq).noDot]
  rw [partsOf, text, pieces, kept, List.map_map]
  exact List.map_id'' (fun s => String.ofList_toList) _

theorem rootOf_mem (cs : List Char) : rootOf cs ∈ ["", "/", "//"] := by
  unfold rootOf
  repeat' split
  all_goals decide

theorem root_cases {root : String} (h : root ∈ ["", "/", "//"]) :
    root = "" ∨ root = "/" ∨ root = "//" := by
  simpa using h

/-- The root of a text is what stands in front of it up to the first other character. -/
theorem rootOf_append {root : String} (hroot : root ∈ ["", "/", "//"]) {cs : List Char}
    (h : ∀ c ∈ cs.head?, c ≠ '/') : rootOf (root.toList ++ cs) = root := by
  have other : ∀ c cs', cs = c :: cs' → c ≠ '/' := by
    rintro c cs' rfl
    exact h c rfl
  rcases cs with - | ⟨c, cs⟩
  · rcases root_cases hroot with rfl | rfl | rfl <;> rfl
  · have hc : c ≠ '/' := other c cs rfl
    rcases root_cases hroot with rfl | rfl | rfl <;> simp [rootOf, hc]

/-- What is read is proper. -/
theorem ofString_proper (s : String) : (ofString s).Proper where
  root := rootOf_mem s.toList
  parts := fun _ h => isPart_of_mem_partsOf h

/-- **A proper path is read back from its text.** -/
theorem ofString_toString {p : Path} (h : p.Proper) : ofString p.toString = p := by
  obtain ⟨root, parts⟩ := p
  obtain ⟨hroot, hparts⟩ := h
  by_cases hempty : root = "" ∧ parts = []
  · obtain ⟨rfl, rfl⟩ := hempty
    rfl
  have text : (toString ⟨root, parts⟩).toList = root.toList ++ ("/".intercalate parts).toList := by
    rw [toString, if_neg hempty, String.toList_append]
  have head : ∀ c ∈ ("/".intercalate parts).toList.head?, c ≠ '/' := by
    rintro c hc rfl
    rcases parts with - | ⟨part, parts⟩
    · cases hc
    · obtain ⟨d, ds, hd⟩ := List.exists_cons_of_ne_nil (hparts part List.mem_cons_self).some
      have first : ("/".intercalate (part :: parts)).toList.head? = some d := by
        rw [String.toList_intercalate, List.map_cons, hd]
        cases parts <;> rfl
      rw [first] at hc
      cases hc
      refine (hparts part List.mem_cons_self).noSlash ?_
      rw [hd]
      exact List.mem_cons_self
  have behind : partsOf (root.toList ++ ("/".intercalate parts).toList) = parts := by
    rcases root_cases hroot with rfl | rfl | rfl
    · exact partsOf_intercalate hparts
    · exact (partsOf_slash _).trans (partsOf_intercalate hparts)
    · exact (partsOf_slash _).trans ((partsOf_slash _).trans (partsOf_intercalate hparts))
  show Path.mk (rootOf (toString ⟨root, parts⟩).toList) (partsOf (toString ⟨root, parts⟩).toList)
    = ⟨root, parts⟩
  rw [text, rootOf_append hroot head, behind]

/-! ### Relative paths -/

theorem after?_eq_some {base parts rest : List String} (h : after? base parts = some rest) :
    parts = base ++ rest := by
  induction base generalizing parts with
  | nil => exact Option.some.inj h
  | cons b base ih =>
    rcases parts with - | ⟨x, parts⟩
    · cases h
    · rw [after?] at h
      split at h
      · next same => rw [same, ih h, List.cons_append]
      · cases h

section Relative

variable {p base r : Path} (h : p.relativeTo? base = some r)

include h

theorem relativeTo?_eq_some :
    r.root = "" ∧ p.root = base.root ∧ p.parts = base.parts ++ r.parts := by
  rw [relativeTo?] at h
  split at h
  · next same =>
    obtain ⟨rest, hrest, rfl⟩ := Option.map_eq_some_iff.mp h
    exact ⟨rfl, same, after?_eq_some hrest⟩
  · cases h

/-- **A base and the path relative to it, joined, are the path.** -/
theorem join_relativeTo? : base.join r = p := by
  obtain ⟨relative, root, parts⟩ := relativeTo?_eq_some h
  obtain ⟨proot, pparts⟩ := p
  simp only at root parts
  simp [join, isAbsolute, relative, root, parts]

theorem proper_relativeTo? (hp : p.Proper) : r.Proper := by
  obtain ⟨relative, -, parts⟩ := relativeTo?_eq_some h
  refine ⟨by simp [relative], fun part hpart => hp.parts part ?_⟩
  rw [parts]
  exact List.mem_append_right _ hpart

end Relative

/-! ### Characters of paths -/

/-- Between parts there are only slashes. -/
theorem mem_intercalate_iff {c : Char} (hc : c ≠ '/') {parts : List String} :
    c ∈ ("/".intercalate parts).toList ↔ ∃ part ∈ parts, c ∈ part.toList := by
  rw [String.toList_intercalate]
  induction parts with
  | nil => exact iff_of_false List.not_mem_nil (by simp)
  | cons part parts ih =>
    rw [List.exists_mem_cons_iff]
    rcases parts with - | ⟨next, parts⟩
    · rw [List.map_singleton, List.intercalate_singleton]
      simp
    · rw [List.map_cons, List.map_cons, List.intercalate_cons_cons, ← List.map_cons,
        List.mem_append, List.mem_append, ih, or_assoc, or_congr_right (or_iff_right _)]
      simpa using hc

/-- A zero character in a path is one in a part of it. -/
theorem zero_mem_toString_iff {p : Path} (h : p.Proper) :
    '\x00' ∈ p.toString.toList ↔ ∃ part ∈ p.parts, '\x00' ∈ part.toList := by
  obtain ⟨root, parts⟩ := p
  by_cases hempty : root = "" ∧ parts = []
  · obtain ⟨rfl, rfl⟩ := hempty
    exact iff_of_false (by decide) (by simp)
  have noZero : '\x00' ∉ root.toList := by
    rcases root_cases h.root with rfl | rfl | rfl <;> decide
  rw [toString, if_neg hempty, String.toList_append, List.mem_append, or_iff_right noZero]
  exact mem_intercalate_iff (by decide)

end Path

/-! ### Following paths -/

namespace Tree

variable {t : Tree}

/-- The place to which a part of a path leads. -/
def next (place : List String) (part : String) : List String :=
  if part = ".." then place.dropLast else place ++ [part]

/-- The place where a path starts. -/
def start (t : Tree) (p : Path) : List String := if p.isAbsolute then [] else t.current

theorem resolve_eq (t : Tree) (p : Path) : t.resolve p = ⟨"/", p.parts.foldl next (t.start p)⟩ :=
  rfl

theorem isDirectory_nil (t : Tree) : t.isDirectory [] = true := rfl

/-- What encloses a directory is one. -/
theorem isDirectory_outward {place inner : List String} (h : place <+: inner)
    (hinner : t.isDirectory inner = true) : t.isDirectory place = true := by
  simp only [isDirectory, List.isEmpty_iff, List.any_eq_true, Bool.or_eq_true, Bool.and_eq_true,
    decide_eq_true_eq, List.isPrefixOf_iff_prefix] at hinner ⊢
  rcases hinner with ((rfl | hcurrent) | ⟨d, hd, hprefix⟩) | ⟨f, hf, hprefix, hlt⟩
  · exact .inl (.inl (.inl (List.prefix_nil.mp h)))
  · exact .inl (.inl (.inr (h.trans hcurrent)))
  · exact .inl (.inr ⟨d, hd, h.trans hprefix⟩)
  · exact .inr ⟨f, hf, h.trans hprefix, Nat.lt_of_le_of_lt h.length_le hlt⟩

/-- A path starts in a directory. -/
theorem isDirectory_start (t : Tree) (p : Path) : t.isDirectory (t.start p) = true := by
  rw [start]
  split
  · exact t.isDirectory_nil
  · simp [isDirectory]

/-- One step on the way. -/
theorem follow_cons {place there : List String} {part : String} {rest : List String} :
    t.follow place (part :: rest) = .ok there ↔
      t.isDirectory place = true ∧ part.utf8ByteSize ≤ maxNameSize ∧
        t.follow (next place part) rest = .ok there := by
  rw [follow]
  split
  · next hdir =>
    rw [and_iff_right hdir]
    split
    · next hlong => exact iff_of_false nofun fun h => absurd h.1 (Nat.not_le.mpr hlong)
    · next hfits => exact (and_iff_right (Nat.not_lt.mp hfits)).symm
  · next hdir => exact iff_of_false nofun fun h => hdir h.1

/-- A path leads where its parts say. -/
theorem follow_eq {place there parts : List String} (h : t.follow place parts = .ok there) :
    there = parts.foldl next place := by
  induction parts generalizing place with
  | nil => exact (Except.ok.inj h).symm
  | cons part rest ih => exact ih (follow_cons.mp h).2.2

/-- What can be followed in a tree can be followed in one with more directories. -/
theorem follow_mono {u : Tree} (hmore : ∀ q, u.isDirectory q = true → t.isDirectory q = true)
    {place there parts : List String} (h : u.follow place parts = .ok there) :
    t.follow place parts = .ok there := by
  induction parts generalizing place with
  | nil => exact h
  | cons part rest ih =>
    obtain ⟨hdir, hfits, hrest⟩ := follow_cons.mp h
    exact follow_cons.mpr ⟨hmore place hdir, hfits, ih hrest⟩

/-- The last part of a path that can be followed leads on from a directory. -/
theorem follow_concat {place there init : List String} {last : String}
    (h : t.follow place (init ++ [last]) = .ok there) :
    ∃ q, t.isDirectory q = true ∧ there = next q last := by
  induction init generalizing place with
  | nil =>
    obtain ⟨hdir, -, hend⟩ := follow_cons.mp h
    exact ⟨place, hdir, (Except.ok.inj hend).symm⟩
  | cons part init ih => exact ih (follow_cons.mp h).2.2

/-- Directories enclose the places to which paths lead. -/
theorem follow_enclosed {place there parts : List String}
    (h : t.follow place parts = .ok there) (hplace : t.isDirectory place.dropLast = true) :
    t.isDirectory there.dropLast = true := by
  rcases List.eq_nil_or_concat' parts with rfl | ⟨init, last, rfl⟩
  · rwa [← Except.ok.inj h]
  · obtain ⟨q, hdir, rfl⟩ := follow_concat h
    rw [next]
    split
    · exact isDirectory_outward ((List.dropLast_prefix _).trans (List.dropLast_prefix _)) hdir
    · rwa [List.dropLast_concat]

/-- Parts without dots that directories enclose can be followed, unless one is too long. -/
theorem follow_straight {place rest : List String} (hnames : ".." ∉ rest)
    (hdir : t.isDirectory (place ++ rest).dropLast = true) :
    t.follow place rest = .ok (place ++ rest) ∨ t.follow place rest = .error .tooLong := by
  induction rest generalizing place with
  | nil => exact .inl (by rw [follow, List.append_nil])
  | cons part rest ih =>
    rw [List.mem_cons, not_or] at hnames
    have hplace : t.isDirectory place = true := by
      refine isDirectory_outward ?_ hdir
      rw [List.dropLast_append_of_ne_nil (List.cons_ne_nil _ _)]
      exact List.prefix_append _ _
    rw [follow, if_pos hplace, if_neg (Ne.symm hnames.1)]
    split
    · exact .inr rfl
    · have hcons : place ++ part :: rest = place ++ [part] ++ rest := List.append_cons ..
      rw [hcons] at hdir ⊢
      exact ih hnames.2 hdir

/-! ### Resolved paths -/

/-- The name of something in a directory. -/
structure IsName (name : String) : Prop extends Path.IsPart name where
  noDots : name ≠ ".."
  noZero : '\x00' ∉ name.toList

/-- The names of a place are among those of the place that the path starts at and the parts of
the path. -/
theorem mem_foldl_next {name : String} {place parts : List String}
    (h : name ∈ parts.foldl next place) : name ∈ place ∨ name ∈ parts ∧ name ≠ ".." := by
  induction parts generalizing place with
  | nil => exact .inl h
  | cons part rest ih =>
    rcases ih h with h | ⟨hrest, hdots⟩
    · rw [next] at h
      split at h
      · exact .inl ((List.dropLast_subset _ h))
      · next hpart =>
        rcases List.mem_append.mp h with h | h
        · exact .inl h
        · rw [List.mem_singleton.mp h]
          exact .inr ⟨List.mem_cons_self, hpart⟩
    · exact .inr ⟨List.mem_cons_of_mem _ hrest, hdots⟩

/-- Where a path leads is found by following its parts. -/
theorem locate_eq_ok {p : Path} {place : List String} (h : t.locate p = .ok place) :
    '\x00' ∉ p.toString.toList ∧ t.follow (t.start p) p.parts = .ok place := by
  rw [locate, String.contains_char_eq] at h
  split at h
  · cases h
  next hzero =>
  refine ⟨by simpa using hzero, ?_⟩
  split at h
  · cases h
  split at h
  · next hroot =>
    have absolute : t.start p = [] := by simp [start, Path.isAbsolute, hroot]
    rw [absolute]
    refine follow_mono (fun q hq => ?_) h
    have : q = [] := by simpa [isDirectory] using hq
    rw [this, isDirectory_nil]
  · exact h

/-- A path at which something stands leads to a place. -/
theorem exists_locate {p : Path} {e : Entry} (h : t.entry p = .ok e) :
    ∃ place, t.locate p = .ok place := by
  rw [entry] at h
  split at h
  · cases h
  · next place hlocate => exact ⟨place, hlocate⟩

section Resolve

variable {p : Path} (hp : p.Proper) (hcurrent : ∀ name ∈ t.current, IsName name)

include hp hcurrent

/-- The parts of a resolved path are not dots. -/
theorem resolve_parts : ∀ name ∈ (t.resolve p).parts,
    Path.IsPart name ∧ name ≠ ".." ∧ ('\x00' ∈ name.toList → '\x00' ∈ p.toString.toList) := by
  intro name h
  rw [resolve_eq] at h
  rcases mem_foldl_next h with h | ⟨h, hdots⟩
  · rw [start] at h
    split at h
    · exact absurd h List.not_mem_nil
    · exact ⟨(hcurrent name h).toIsPart, (hcurrent name h).noDots,
        fun hzero => absurd hzero (hcurrent name h).noZero⟩
  · exact ⟨hp.parts name h, hdots,
      fun hzero => (Path.zero_mem_toString_iff hp).mpr ⟨name, h, hzero⟩⟩

theorem resolve_proper : (t.resolve p).Proper where
  root := by simp [resolve_eq]
  parts := fun name h => (resolve_parts hp hcurrent name h).1

/-- **At the resolved path stands what stands at the path**, unless the resolved path is too long
to be looked up. -/
theorem entry_resolve {e : Entry} (h : t.entry p = .ok e) :
    t.entry (t.resolve p) = .ok e ∨ t.entry (t.resolve p) = .error .tooLong := by
  obtain ⟨place, hlocate⟩ := exists_locate h
  obtain ⟨hzero, hfollow⟩ := locate_eq_ok hlocate
  have hplace : t.resolve p = ⟨"/", place⟩ := by rw [resolve_eq, follow_eq hfollow]
  have parts := resolve_parts hp hcurrent
  have proper := resolve_proper hp hcurrent
  rw [hplace] at parts proper ⊢
  have enclosed : t.isDirectory ([] ++ place).dropLast = true :=
    follow_enclosed hfollow (isDirectory_outward (List.dropLast_prefix _) (t.isDirectory_start p))
  have noZero : '\x00' ∉ (Path.toString ⟨"/", place⟩).toList := by
    rw [Path.zero_mem_toString_iff proper]
    rintro ⟨name, hname, h⟩
    exact hzero ((parts name hname).2.2 h)
  have located : t.locate ⟨"/", place⟩ = .ok place ∨ t.locate ⟨"/", place⟩ = .error .tooLong := by
    rw [locate, String.contains_char_eq, if_neg (by simpa using noZero)]
    split
    · exact .inr rfl
    · rw [if_neg (by simp), if_pos (by rfl)]
      exact follow_straight (fun hdots => (parts ".." hdots).2.1 rfl) enclosed
  rcases located with located | located
  · left
    rw [entry, hlocate] at h
    rw [entry, located]
    exact h
  · right
    rw [entry, located]

end Resolve

/-- A path that leads to a file ends with the name of the file. -/
theorem suffix_resolve {p : Path} {c : Content} (h : t.entry p = .ok (.file c)) :
    (t.resolve p).suffix = p.suffix := by
  obtain ⟨place, hlocate⟩ := exists_locate h
  have hfollow := (locate_eq_ok hlocate).2
  have noDirectory : ¬ t.isDirectory place = true := by
    intro hdir
    rw [entry, hlocate] at h
    simp only [if_pos hdir] at h
    cases h
  have names : (t.resolve p).name = p.name := by
    rw [resolve_eq, ← follow_eq hfollow]
    simp only [Path.name]
    rcases List.eq_nil_or_concat' p.parts with hparts | ⟨init, last, hparts⟩
    · rw [hparts] at hfollow
      rw [← Except.ok.inj hfollow] at noDirectory
      exact absurd (t.isDirectory_start p) noDirectory
    · rw [hparts] at hfollow
      obtain ⟨q, hdir, rfl⟩ := follow_concat hfollow
      rw [next] at noDirectory ⊢
      split at noDirectory
      · exact absurd (isDirectory_outward (List.dropLast_prefix _) hdir) noDirectory
      · next hlast => rw [if_neg hlast, hparts, List.getLast?_concat, List.getLast?_concat]
  rw [Path.suffix, Path.suffix, names]

end Tree

end SqlScript.Files
