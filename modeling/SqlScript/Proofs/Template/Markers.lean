/-
SqlScript/Proofs/Template/Markers.lean

The first word of a statement under different bind markers.

Placeholders have no blanks in them and neither do markers, so a statement can be cut at a
blank before it is bound (`joined_append`).  The first word of a bound statement is therefore
the first word of the statement, bound by itself (`firstWord?_joined`).

What the word becomes depends on the marker if it has a placeholder or a percent sign in it,
and then the marker or a percent sign is in it once it is bound.  It becomes the marker alone
if it is a placeholder alone (`joined_eq_marker_iff`), or if it was written as the marker.  The
last cannot be with a marker that has a percent sign (`doublePercent_ne_format`).
-/
import SqlScript.Proofs.Template.Binding

namespace SqlScript

/-! ### White space and placeholders -/

theorem Placeholder.isNameChar_bounds {c : Char} (h : isNameChar c = true) :
    0x2d ≤ c.toNat ∧ c.toNat ≤ 0x7a := by
  delta isNameChar Char.isAlphanum Char.isAlpha Char.isUpper Char.isLower Char.isDigit at h
  simp only [Bool.or_eq_true, Bool.and_eq_true, decide_eq_true_eq, UInt32.le_iff_toNat_le,
    ge_iff_le] at h
  change ((((65 ≤ c.toNat ∧ c.toNat ≤ 90) ∨ (97 ≤ c.toNat ∧ c.toNat ≤ 122)) ∨
    (48 ≤ c.toNat ∧ c.toNat ≤ 57)) ∨ c = '_') ∨ c = '-' at h
  rcases h with (((h | h) | h) | rfl) | rfl
  · omega
  · omega
  · omega
  · decide
  · decide

namespace Text

theorem isDigit_bounds {c : Char} (h : isDigit c = true) :
    ∃ z ∈ digitZeros, z ≤ c.toNat ∧ c.toNat < z + 10 := by
  rw [isDigit, digitValue?, Option.isSome_map, List.find?_isSome] at h
  simpa using h

/-- No placeholder has white space in it or goes on behind it. -/
theorem cut_of_blank {rest : List Char} (h : ∀ c ∈ rest.head?, isBlank c = true) :
    Placeholder.Cut rest := by
  -- the tables of the classes have no code point in common
  have names : ∀ s ∈ blankRanges, s.2 < 0x2d ∨ 0x7a < s.1 := by decide
  have digits : ∀ s ∈ blankRanges, ∀ z ∈ digitZeros, s.2 < z ∨ z + 10 ≤ s.1 := by decide
  have words : ∀ s ∈ blankRanges, ∀ u ∈ wordRanges, s.2 < u.1 ∨ u.2 < s.1 := by decide +kernel
  intro c hc
  obtain ⟨s, hs, hlow, hhigh⟩ := (Ranges.has_iff blankRanges_increasing c).mp (h c hc)
  refine ⟨?_, ?_, ?_, ?_⟩
  · rintro rfl
    exact absurd (h '!' hc) (by decide)
  · rw [← Bool.not_eq_true]
    intro hname
    have := Placeholder.isNameChar_bounds hname
    have := names s hs
    omega
  · rw [← Bool.not_eq_true]
    intro hdigit
    obtain ⟨z, hz, _, _⟩ := isDigit_bounds hdigit
    have := digits s hs z hz
    omega
  · rw [← Bool.not_eq_true]
    intro hword
    obtain ⟨u, hu, _, _⟩ := (Ranges.has_iff wordRanges_increasing c).mp hword
    have := words s hs u hu
    omega

end Text

namespace Template

/-! ### Binding where a statement is cut -/

section Joined

variable {marker cs rest : List Char} {d : Bool} {t : Template}

/-- **Binding goes part by part** where a statement is cut. -/
theorem joined_append (h : Placeholder.Cut rest) (cs : List Char) :
    (parse (cs ++ rest)).joined marker d =
      (parse cs).joined marker d ++ (parse rest).joined marker d := by
  -- along the placeholders of the first part, which are found with `rest` as without it
  induction cs using parse.induct with
  | case1 => rw [joined_nil, List.nil_append, List.nil_append]
  | case2 cs p hp ih =>
    have hp' : Placeholder.afterDollar? (cs ++ rest) = some p :=
      (Placeholder.afterDollar?_append h cs).trans hp
    rw [List.cons_append, parse_placeholder hp', parse_placeholder hp,
      List.drop_append_of_le_length (Placeholder.length_of_afterDollar? hp), joined_after,
      joined_after, ih, List.append_assoc]
  | case3 cs hp ih =>
    have hp' : Placeholder.afterDollar? (cs ++ rest) = none :=
      (Placeholder.afterDollar?_append h cs).trans hp
    rw [List.cons_append, parse_lone hp', parse_lone hp, joined_cons, joined_cons, ih,
      List.append_assoc]
  | case4 c cs hc ih =>
    rw [List.cons_append, parse_plain hc, parse_plain hc, joined_cons, joined_cons, ih,
      List.append_assoc]

/-- A statement without placeholders is one piece. -/
theorem parse_of_no_placeholders (h : (parse cs).placeholders = []) : parse cs = ⟨cs, []⟩ := by
  have htail : (parse cs).tail = [] := List.map_eq_nil_iff.mp h
  have hsource := source_parse cs
  rw [source, htail, List.flatMap_nil, List.append_nil] at hsource
  calc parse cs = ⟨(parse cs).head, (parse cs).tail⟩ := rfl
    _ = ⟨cs, []⟩ := by rw [hsource, htail]

theorem joined_of_no_placeholders (h : (parse cs).placeholders = []) :
    (parse cs).joined marker d = spread d cs := by
  rw [parse_of_no_placeholders h, joined, List.flatMap_nil, List.append_nil]

theorem bound_of_no_placeholders (h : (parse cs).placeholders = []) (marker : List Char) :
    (parse cs).bound marker = cs := by
  rw [bound_eq_joined, joined_of_no_placeholders h, parse_of_no_placeholders h]
  rfl

/-- Where there is a placeholder there is the marker. -/
theorem mem_joined_of_mem_marker (h : t.placeholders ≠ []) {c : Char} (hc : c ∈ marker) :
    c ∈ t.joined marker d := by
  rcases htail : t.tail with - | ⟨p, ps⟩
  · exact absurd (by rw [placeholders, htail]; rfl) h
  · simp [joined, htail, hc]

/-- Nothing but the statement and the marker is in what is bound. -/
theorem mem_of_mem_joined {c : Char} (h : c ∈ (parse cs).joined marker d) :
    c ∈ cs ∨ c ∈ marker := by
  induction cs using parse.induct with
  | case1 =>
    rw [joined_nil] at h
    cases h
  | case2 cs p hp ih =>
    rw [parse_placeholder hp, joined_after, List.mem_append] at h
    rcases h with h | h
    · exact .inr h
    · rcases ih h with hc | hc
      · exact .inl (List.mem_cons_of_mem _ (List.mem_of_mem_drop hc))
      · exact .inr hc
  | case3 cs hp ih =>
    rw [parse_lone hp, joined_cons, List.mem_append, mem_spread, List.mem_singleton] at h
    rcases h with rfl | h
    · exact .inl List.mem_cons_self
    · exact (ih h).imp_left (List.mem_cons_of_mem _)
  | case4 d cs hd ih =>
    rw [parse_plain hd, joined_cons, List.mem_append, mem_spread, List.mem_singleton] at h
    rcases h with rfl | h
    · exact .inl List.mem_cons_self
    · exact (ih h).imp_left (List.mem_cons_of_mem _)

theorem joined_ne_nil (hm : marker ≠ []) (h : cs ≠ []) : (parse cs).joined marker d ≠ [] := by
  by_cases hp : (parse cs).placeholders = []
  · rw [joined_of_no_placeholders hp]
    exact mt spread_eq_nil.mp h
  · obtain ⟨c, hc⟩ := List.exists_mem_of_ne_nil marker hm
    exact List.ne_nil_of_mem (mem_joined_of_mem_marker hp hc)

/-- **Binding gives the marker alone** only for a placeholder alone, if there is one at all. -/
theorem joined_eq_marker_iff (hm : marker ≠ []) (h : t.placeholders ≠ []) :
    t.joined marker d = marker ↔ ∃ p, t = ⟨[], [(p, [])]⟩ := by
  obtain ⟨head, tail⟩ := t
  rcases tail with - | ⟨⟨p, piece⟩, rest⟩
  · exact absurd rfl h
  constructor
  · -- the first marker takes all the room there is
    intro heq
    have hlen := congrArg List.length heq
    simp only [joined, List.flatMap_cons, List.length_append] at hlen
    have hhead : spread d head = [] := List.length_eq_zero_iff.mp (by omega)
    have hpiece : spread d piece = [] := List.length_eq_zero_iff.mp (by omega)
    have hrest : (rest.flatMap fun p => marker ++ spread d p.2) = [] :=
      List.length_eq_zero_iff.mp (by omega)
    have hnone : rest = [] := by
      rcases rest with - | ⟨q, rest⟩
      · rfl
      · simp [hm] at hrest
    rw [spread_eq_nil] at hhead hpiece
    exact ⟨p, by rw [hhead, hpiece, hnone]⟩
  · rintro ⟨q, hq⟩
    cases hq
    simp [joined, spread_eq_nil.mpr]

/-- Writing a character twice takes one more place for each of its occurrences. -/
theorem length_flatMap_twice (d : Char) (cs : List Char) :
    (cs.flatMap fun c => if c = d then [c, c] else [c]).length = cs.length + cs.count d := by
  induction cs with
  | nil => rfl
  | cons c cs ih =>
    rw [List.flatMap_cons, List.length_append, ih, List.length_cons, List.count_cons]
    by_cases hc : c = d
    · simp only [hc, if_true, List.length_cons, List.length_nil, beq_self_eq_true]
      omega
    · simp only [hc, if_false, List.length_cons, List.length_nil, beq_iff_eq]
      omega

theorem doublePercent_eq (cs : List Char) :
    doublePercent cs = cs.flatMap fun c => if c = '%' then [c, c] else [c] := by
  rw [doublePercent]
  congr 1
  funext c
  by_cases hc : c = '%'
  · rw [if_pos hc, if_pos hc, hc]
  · rw [if_neg hc, if_neg hc]

theorem length_doublePercent (cs : List Char) :
    (doublePercent cs).length = cs.length + cs.count '%' := by
  rw [doublePercent_eq, length_flatMap_twice]

/-- The marker of the format style takes more room than the question mark: for each
placeholder, and for each percent sign. -/
theorem length_joined_format (t : Template) :
    (t.joined ['?'] false).length + t.tail.length + t.head.count '%' ≤
      (t.joined ['%', 's'] true).length := by
  have tails : ∀ ps : List (Placeholder × List Char),
      (ps.flatMap fun p => ['?'] ++ spread false p.2).length + ps.length ≤
        (ps.flatMap fun p => ['%', 's'] ++ spread true p.2).length := by
    intro ps
    induction ps with
    | nil => exact Nat.le_refl 0
    | cons p ps ih =>
      have hp : (spread true p.2).length = p.2.length + p.2.count '%' :=
        length_doublePercent p.2
      have hp' : spread false p.2 = p.2 := rfl
      simp only [List.flatMap_cons, List.length_append, List.length_cons, List.length_nil, hp,
        hp'] at ih ⊢
      omega
  have hhead : (spread true t.head).length = t.head.length + t.head.count '%' :=
    length_doublePercent t.head
  have hhead' : spread false t.head = t.head := rfl
  have htail := tails t.tail
  simp only [joined, List.length_append, hhead, hhead'] at htail ⊢
  omega

/-- No text with its percent signs doubled is the marker of the format style. -/
theorem doublePercent_ne_format (cs : List Char) : doublePercent cs ≠ ['%', 's'] := by
  rcases cs with - | ⟨c, cs⟩
  · simp [doublePercent]
  · by_cases hc : c = '%'
    · simp [doublePercent, hc]
    · simp [doublePercent, hc]

end Joined

end Template

/-! ### First words -/

namespace Text

open Template

variable {marker cs word : List Char} {d : Bool}

/-- **The first word of a bound statement is the bound first word**, for markers without
white space. -/
theorem firstWord?_joined (hm : marker ≠ []) (hb : ∀ c ∈ marker, isBlank c = false)
    (h : firstWord? cs = some word) :
    firstWord? ((parse cs).joined marker d) = some ((parse word).joined marker d) := by
  obtain ⟨hne, hword⟩ := firstWord?_eq_some h
  set rest := (cs.dropWhile isBlank).dropWhile fun c => !isBlank c with hrest
  have parts : cs = cs.takeWhile isBlank ++ (word ++ rest) := by
    rw [hword, hrest, List.takeWhile_append_dropWhile, List.takeWhile_append_dropWhile]
  have behind : ∀ c ∈ rest.head?, isBlank c = true := by
    intro c hc
    simpa using head_dropWhile _ _ c hc
  have solid : ∀ c ∈ word, isBlank c = false := by
    intro c hc
    rw [hword] at hc
    simpa using List.mem_takeWhile_imp hc
  obtain ⟨hd', hp'⟩ := plain_of_blank (blank_of_mem_takeWhile cs)
  rw [parts, joined_plain hd' hp', joined_append (cut_of_blank behind)]
  apply firstWord?_append (blank_of_mem_takeWhile cs) (joined_ne_nil hm hne)
  · intro c hc
    exact (mem_of_mem_joined hc).elim (solid c) (hb c)
  -- what follows the word starts with the same blank as before, if with anything
  · intro c hc
    rcases hr : rest with - | ⟨b, rest'⟩
    · rw [hr, joined_nil] at hc
      cases hc
    · have hblank : isBlank b = true := behind b (by rw [hr]; rfl)
      obtain ⟨hd', hp'⟩ := plain_of_blank (List.forall_mem_singleton.mpr hblank)
      rw [hr, ← List.singleton_append, joined_plain hd' hp'] at hc
      obtain rfl : b = c := Option.some.inj hc
      exact hblank

/-- A statement of white space alone is kept. -/
theorem firstWord?_joined_none (h : firstWord? cs = none) :
    firstWord? ((parse cs).joined marker d) = none := by
  have none : cs.dropWhile isBlank = [] := by
    rcases hr : cs.dropWhile isBlank with - | ⟨c, rest⟩
    · rfl
    · have hc : isBlank c = false := head_dropWhile isBlank cs c (by rw [hr]; rfl)
      simp [firstWord?, hr, hc] at h
  obtain ⟨hd', hp'⟩ := plain_of_blank (List.dropWhile_eq_nil_iff.mp none)
  have kept : (parse (cs ++ [])).joined marker d = cs ++ (parse []).joined marker d :=
    joined_plain hd' hp' []
  rw [List.append_nil, joined_nil, List.append_nil] at kept
  rw [kept, h]

/-- The first word of a statement with placeholders, once it is bound. -/
theorem firstWord?_bound_eq (hm : marker ≠ []) (hb : ∀ c ∈ marker, isBlank c = false)
    (h : (parse cs).placeholders ≠ []) :
    firstWord? ((parse cs).bound marker) =
      (firstWord? cs).map fun word => (parse word).joined marker (marker.contains '%') := by
  have htail : (parse cs).tail.isEmpty = false := by
    simpa [placeholders] using h
  rw [bound_eq_joined, htail, Bool.not_false, Bool.true_and]
  rcases hw : firstWord? cs with - | word
  · exact firstWord?_joined_none hw
  · exact firstWord?_joined hm hb hw

end Text

end SqlScript
