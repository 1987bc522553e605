/-
SqlScript/Text/Ranges.lean

Character classes given by code point ranges.

The classes that scripts and conditions are read with (white space, digits, word
characters) and the one that decides how a text is shown (printable characters)
are those of the Unicode character database, version 14.  Each is a table of
inclusive ranges in increasing order, and membership is one search through it.
-/
namespace SqlScript.Text

/-- Inclusive ranges of code points. -/
abbrev Ranges := List (Nat × Nat)

/-- Whether a character lies in one of the ranges.  The search stops at the first
range beyond the character. -/
def Ranges.has : Ranges → Char → Bool
  | [], _ => false
  | (low, high) :: rest, c =>
    if c.toNat < low then false
    else if c.toNat ≤ high then true
    else Ranges.has rest c

/-- Whether the ranges stand in increasing order, from a code point on. -/
def Ranges.increasingFrom : Nat → Ranges → Bool
  | _, [] => true
  | least, (low, high) :: rest =>
    least ≤ low && low ≤ high && Ranges.increasingFrom (high + 1) rest

/-- Ranges that start at a code point or later have no character before it. -/
theorem Ranges.le_of_mem {least : Nat} {ranges : Ranges}
    (h : ranges.increasingFrom least = true) {r : Nat × Nat} (hr : r ∈ ranges) :
    least ≤ r.1 := by
  induction ranges generalizing least with
  | nil => simp at hr
  | cons s rest ih =>
    obtain ⟨low, high⟩ := s
    simp only [increasingFrom, Bool.and_eq_true, decide_eq_true_eq] at h
    obtain ⟨⟨hlow, hhigh⟩, hrest⟩ := h
    rcases List.mem_cons.mp hr with rfl | hr
    · exact hlow
    · have := ih hrest hr
      omega

/-- In increasing ranges the search finds exactly the characters of some range. -/
theorem Ranges.has_iff {least : Nat} {ranges : Ranges}
    (h : ranges.increasingFrom least = true) (c : Char) :
    ranges.has c = true ↔ ∃ r ∈ ranges, r.1 ≤ c.toNat ∧ c.toNat ≤ r.2 := by
  induction ranges generalizing least with
  | nil => simp [has]
  | cons s rest ih =>
    obtain ⟨low, high⟩ := s
    simp only [increasingFrom, Bool.and_eq_true, decide_eq_true_eq] at h
    obtain ⟨⟨hlow, hhigh⟩, hrest⟩ := h
    simp only [has, List.mem_cons, exists_eq_or_imp]
    by_cases hbelow : c.toNat < low
    · simp only [hbelow, if_true]
      constructor
      · intro hfalse
        exact absurd hfalse (by simp)
      · rintro (⟨hge, -⟩ | ⟨r, hr, hge, -⟩)
        · omega
        · have := le_of_mem hrest hr
          omega
    · by_cases hin : c.toNat ≤ high
      · simp only [hbelow, hin, if_true, if_false]
        exact iff_of_true trivial (Or.inl ⟨by omega, trivial⟩)
      · simp only [hbelow, hin, if_false, and_false, false_or]
        exact ih hrest

end SqlScript.Text
