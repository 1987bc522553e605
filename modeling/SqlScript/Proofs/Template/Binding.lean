/-
SqlScript/Proofs/Template/Binding.lean

What binding keeps at the front of a statement.

Binding puts the bind marker in the places of placeholders and may double percent signs: the
bound statement is its pieces with markers between them (`joined`).  So a statement is kept
as it was written up to its first dollar or percent sign, whatever the marker is
(`bound_plain`).

Two things are read off the front of a bound statement: whether it is a select, and its
first word.  A select has neither sign in the white space and the letters that show it, so
it is a select once it is bound (`isSelect_bound`).  A first word without the two signs is
the first word of the bound statement too (`firstWord?_bound`).
-/
import SqlScript.Program.Validation
import SqlScript.Proofs.Template.Split

namespace SqlScript

namespace Template

/-! ### Binding piece by piece -/

/-- A piece with its percent signs doubled, or as it is. -/
def spread (double : Bool) (cs : List Char) : List Char :=
  if double then doublePercent cs else cs

/-- The pieces with markers between them, percent signs doubled or not. -/
def joined (marker : List Char) (double : Bool) (t : Template) : List Char :=
  spread double t.head ++ t.tail.flatMap fun p => marker ++ spread double p.2

section Joined

variable {marker cs : List Char} {d : Bool} {t : Template}

theorem intercalate_cons_map (marker head : List Char) (f : List Char → List Char)
    (ps : List (Placeholder × List Char)) :
    marker.intercalate (f head :: (ps.map Prod.snd).map f) =
      f head ++ ps.flatMap fun p => marker ++ f p.2 := by
  induction ps generalizing head with
  | nil => simp
  | cons p ps ih =>
    rw [List.map_cons, List.map_cons, List.intercalate_cons_cons, ih p.2]
    simp

theorem bound_eq_joined (t : Template) (marker : List Char) :
    t.bound marker = t.joined marker (!t.tail.isEmpty && marker.contains '%') := by
  rw [bound, joined, pieces]
  rcases !t.tail.isEmpty && marker.contains '%' with - | -
  · simpa [spread] using intercalate_cons_map marker t.head id t.tail
  · simpa [spread] using intercalate_cons_map marker t.head doublePercent t.tail

theorem spread_append (d : Bool) (xs ys : List Char) :
    spread d (xs ++ ys) = spread d xs ++ spread d ys := by
  cases d <;> simp [spread, doublePercent]

theorem spread_plain (d : Bool) (h : '%' ∉ cs) : spread d cs = cs := by
  induction cs with
  | nil => cases d <;> rfl
  | cons c cs ih =>
    rw [List.mem_cons, not_or] at h
    have hc : c ≠ '%' := Ne.symm h.1
    rw [← List.singleton_append, spread_append, ih h.2]
    cases d <;> simp [spread, doublePercent, hc]

theorem mem_spread {c : Char} : c ∈ spread d cs ↔ c ∈ cs := by
  cases d with
  | false => rfl
  | true =>
    simp only [spread, doublePercent, if_true, List.mem_flatMap]
    constructor
    · rintro ⟨x, hx, hc⟩
      split at hc
      · next hp =>
        obtain rfl : c = '%' := by simpa using hc
        exact hp ▸ hx
      · obtain rfl : c = x := by simpa using hc
        exact hx
    · intro hc
      refine ⟨c, hc, ?_⟩
      split
      · next hp => simp [hp]
      · simp

theorem spread_eq_nil : spread d cs = [] ↔ cs = [] := by
  rw [List.eq_nil_iff_forall_not_mem, List.eq_nil_iff_forall_not_mem]
  simp only [mem_spread]

@[simp] theorem joined_cons (c : Char) :
    (t.cons c).joined marker d = spread d [c] ++ t.joined marker d := by
  rw [joined, joined, cons, ← List.append_assoc, ← spread_append]
  rfl

@[simp] theorem joined_after (p : Placeholder) :
    (t.after p).joined marker d = marker ++ t.joined marker d := by
  simp [joined, after, spread_eq_nil.mpr]

theorem joined_nil : (parse []).joined marker d = [] := by
  rw [parse_nil]
  simp [joined, spread_eq_nil.mpr]

/-- What has neither sign in it is kept, whatever follows. -/
theorem joined_plain (hd : '$' ∉ cs) (hp : '%' ∉ cs) (rest : List Char) :
    (parse (cs ++ rest)).joined marker d = cs ++ (parse rest).joined marker d := by
  induction cs with
  | nil => rfl
  | cons c cs ih =>
    rw [List.mem_cons, not_or] at hd hp
    rw [List.cons_append, parse_plain (Ne.symm hd.1), joined_cons, ih hd.2 hp.2,
      spread_plain d (by simpa using hp.1), List.singleton_append, List.cons_append]

theorem tail_parse_plain (hd : '$' ∉ cs) (rest : List Char) :
    (parse (cs ++ rest)).tail = (parse rest).tail := by
  induction cs with
  | nil => rfl
  | cons c cs ih =>
    rw [List.mem_cons, not_or] at hd
    rw [List.cons_append, parse_plain (Ne.symm hd.1)]
    exact ih hd.2

/-- **Binding keeps what is plain**, whatever follows. -/
theorem bound_plain (hd : '$' ∉ cs) (hp : '%' ∉ cs) (rest marker : List Char) :
    (parse (cs ++ rest)).bound marker = cs ++ (parse rest).bound marker := by
  -- whether percent signs are doubled depends on the marker and on the placeholders alone
  rw [bound_eq_joined, bound_eq_joined, tail_parse_plain hd, joined_plain hd hp]

theorem bound_nil (marker : List Char) : (parse []).bound marker = [] := by
  rw [bound_eq_joined, joined_nil]

end Joined

end Template

/-! ### White space and words -/

namespace Text

/-- White space has nothing in it that binding changes. -/
theorem plain_of_blank {cs : List Char} (h : ∀ c ∈ cs, isBlank c = true) :
    '$' ∉ cs ∧ '%' ∉ cs :=
  ⟨fun hd => absurd (h '$' hd) (by decide), fun hp => absurd (h '%' hp) (by decide)⟩

theorem blank_of_mem_takeWhile (cs : List Char) :
    ∀ c ∈ cs.takeWhile isBlank, isBlank c = true :=
  fun _ hc => List.mem_takeWhile_imp hc

/-- Behind white space, what is plain is kept. -/
theorem bound_front {cs front rest : List Char} (h : cs.dropWhile isBlank = front ++ rest)
    (hd : '$' ∉ front) (hp : '%' ∉ front) (marker : List Char) :
    (Template.parse cs).bound marker =
      cs.takeWhile isBlank ++ (front ++ (Template.parse rest).bound marker) := by
  have parts : cs.takeWhile isBlank ++ (front ++ rest) = cs := by
    rw [← h, List.takeWhile_append_dropWhile]
  obtain ⟨hd', hp'⟩ := plain_of_blank (blank_of_mem_takeWhile cs)
  calc (Template.parse cs).bound marker
      = (Template.parse (cs.takeWhile isBlank ++ (front ++ rest))).bound marker := by rw [parts]
    _ = cs.takeWhile isBlank ++ (Template.parse (front ++ rest)).bound marker :=
      Template.bound_plain hd' hp' _ _
    _ = cs.takeWhile isBlank ++ (front ++ (Template.parse rest).bound marker) := by
      rw [Template.bound_plain hd hp]

/-- A run ends where the text ends or its class does. -/
theorem head_dropWhile (p : Char → Bool) (cs : List Char) :
    ∀ c ∈ (cs.dropWhile p).head?, p c = false := by
  intro c hc
  have hend := List.head?_dropWhile_not p cs
  rwa [Option.mem_def.mp hc] at hend

theorem firstWord?_eq_some {cs word : List Char} (h : firstWord? cs = some word) :
    word ≠ [] ∧ word = (cs.dropWhile isBlank).takeWhile fun c => !isBlank c := by
  rw [firstWord?] at h
  split at h
  · cases h
  · next hne =>
    obtain rfl := Option.some.inj h
    exact ⟨hne, rfl⟩

/-- White space in front, a word, and a rest that does not go on with it. -/
theorem firstWord?_append {blanks word rest : List Char} (hb : ∀ c ∈ blanks, isBlank c = true)
    (hne : word ≠ []) (hw : ∀ c ∈ word, isBlank c = false)
    (hr : ∀ c ∈ rest.head?, isBlank c = true) :
    firstWord? (blanks ++ (word ++ rest)) = some word := by
  have start : (word ++ rest).dropWhile isBlank = word ++ rest := by
    obtain ⟨c, word, rfl⟩ := List.exists_cons_of_ne_nil hne
    simp [hw c List.mem_cons_self]
  have stop : (word ++ rest).takeWhile (fun c => !isBlank c) = word := by
    rw [takeWhile_append_of_head fun c hc => by simp [hr c hc]]
    exact List.takeWhile_eq_self_iff.mpr fun c hc => by simp [hw c hc]
  rw [firstWord?, List.dropWhile_append_of_pos hb, start, stop]
  rcases word with - | ⟨c, word⟩
  · exact absurd rfl hne
  · rfl

/-- **The first word of a statement is that of the bound statement**, if binding changes
nothing in it. -/
theorem firstWord?_bound {cs word : List Char} (h : firstWord? cs = some word) (hd : '$' ∉ word)
    (hp : '%' ∉ word) (marker : List Char) :
    firstWord? ((Template.parse cs).bound marker) = some word := by
  obtain ⟨hne, hword⟩ := firstWord?_eq_some h
  set rest := (cs.dropWhile isBlank).dropWhile fun c => !isBlank c with hrest
  have parts : cs.dropWhile isBlank = word ++ rest := by
    rw [hword, hrest, List.takeWhile_append_dropWhile]
  have behind : ∀ c ∈ rest.head?, isBlank c = true := by
    intro c hc
    simpa using head_dropWhile _ _ c hc
  rw [bound_front parts hd hp]
  refine firstWord?_append (blank_of_mem_takeWhile cs) hne ?_ ?_
  · intro c hc
    rw [hword] at hc
    simpa using List.mem_takeWhile_imp hc
  -- what follows the word starts with the same blank as before, if with anything
  · intro c hc
    rcases hr : rest with - | ⟨d, rest'⟩
    · rw [hr, Template.bound_nil] at hc
      cases hc
    · have hblank : isBlank d = true := behind d (by rw [hr]; rfl)
      obtain ⟨hd', hp'⟩ := plain_of_blank (List.forall_mem_singleton.mpr hblank)
      rw [hr, ← List.singleton_append, Template.bound_plain hd' hp'] at hc
      obtain rfl : d = c := Option.some.inj hc
      exact hblank

/-! ### Selects -/

/-- A lower-case word is found at the front of a text if the characters there are case
variants of its letters. -/
theorem afterCaseless?_eq_some_iff {word cs rest : List Char} :
    afterCaseless? word cs = some rest ↔ ∃ front, cs = front ++ rest ∧ front.map foldCase = word := by
  induction word generalizing cs with
  | nil => simp [afterCaseless?, eq_comm]
  | cons w word ih =>
    rcases cs with - | ⟨c, cs⟩
    · simp [afterCaseless?]
    rw [afterCaseless?]
    constructor
    · intro h
      split at h
      · next hc =>
        obtain ⟨front, rfl, hf⟩ := ih.mp h
        exact ⟨c :: front, rfl, by rw [List.map_cons, hc, hf]⟩
      · cases h
    · rintro ⟨front, hcs, hf⟩
      rcases front with - | ⟨d, front⟩
      · cases hf
      · obtain ⟨rfl, rfl⟩ := List.cons.inj hcs
        obtain ⟨hd, hf⟩ := List.cons.inj hf
        rw [if_pos hd]
        exact ih.mpr ⟨front, rfl, hf⟩

end Text

/-- **A select is a select once it is bound**, whatever the marker is. -/
theorem isSelect_bound {statement : List Char} (h : isSelect statement = true)
    (marker : List Char) : isSelect ((Template.parse statement).bound marker) = true := by
  obtain ⟨rest, hrest⟩ := Option.isSome_iff_exists.mp h
  obtain ⟨front, hparts, hfold⟩ := Text.afterCaseless?_eq_some_iff.mp hrest
  have hne : front ≠ [] := by
    rintro rfl
    exact absurd hfold (by decide)
  -- neither sign is a case variant of a letter
  have letters : ∀ c ∈ front, Text.foldCase c ∈ "select".toList := by
    intro c hc
    rw [← hfold]
    exact List.mem_map_of_mem hc
  have hd : '$' ∉ front := fun hc => absurd (letters '$' hc) (by decide)
  have hp : '%' ∉ front := fun hc => absurd (letters '%' hc) (by decide)
  have start : (front ++ (Template.parse rest).bound marker).dropWhile Text.isBlank =
      front ++ (Template.parse rest).bound marker := by
    obtain ⟨c, front, rfl⟩ := List.exists_cons_of_ne_nil hne
    have hc : Text.isBlank c = false :=
      Text.head_dropWhile Text.isBlank statement c (by rw [hparts]; rfl)
    simp [hc]
  rw [isSelect, Text.bound_front hparts hd hp,
    List.dropWhile_append_of_pos (Text.blank_of_mem_takeWhile statement), start,
    Option.isSome_iff_exists]
  exact ⟨_, Text.afterCaseless?_eq_some_iff.mpr ⟨front, rfl, hfold⟩⟩

end SqlScript
