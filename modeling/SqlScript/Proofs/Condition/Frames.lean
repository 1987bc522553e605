/-
SqlScript/Proofs/Condition/Frames.lean

Completing what waits for an operand.

An infix operator, a closing parenthesis and the end of the text each complete frames on
top of the stack, from the innermost outwards (`completeAll`).  They differ in where they
stop: an infix operator before the first frame that does not yield to it, a closing
parenthesis at the innermost open one, the end of the text nowhere.  For each of the three
it is said what it does to a stack whose top it completes (`reduce?_append`,
`close?_append`, `finish?_append`) and, the other way round, how it has split a stack
(`reduce?_split`, `close?_split`, `finish?_split`).
-/
import SqlScript.Condition.Parser

namespace SqlScript.Condition

/-- A tree completed by frames, the innermost first. -/
def completeAll (frames : List Frame) (t : Tree) : Tree := frames.foldl (fun t f => f.complete t) t

theorem completeAll_append (frames frames' : List Frame) (t : Tree) :
    completeAll (frames ++ frames') t = completeAll frames' (completeAll frames t) :=
  List.foldl_append

variable {done rest stack : List Frame} {t t' : Tree} {next : BinaryOp}

/-! ### Infix operators -/

theorem reduce?_append (h : ∀ f ∈ done, f.yields? next = some true) (t : Tree) :
    reduce? next (done ++ rest) t = reduce? next rest (completeAll done t) := by
  induction done generalizing t with
  | nil => rfl
  | cons f done ih =>
    rw [List.forall_mem_cons] at h
    rw [List.cons_append, reduce?, h.1]
    exact ih h.2 (f.complete t)

theorem reduce?_stop (h : ∀ f ∈ rest.head?, f.yields? next = some false) (t : Tree) :
    reduce? next rest t = some (rest, t) := by
  rcases rest with - | ⟨f, rest⟩
  · rfl
  · rw [reduce?, h f rfl]

/-- An infix operator completes frames that yield to it, up to the first that does not. -/
theorem reduce?_split (h : reduce? next stack t = some (rest, t')) :
    ∃ done, stack = done ++ rest ∧ (∀ f ∈ done, f.yields? next = some true) ∧
      (∀ f ∈ rest.head?, f.yields? next = some false) ∧ completeAll done t = t' := by
  fun_induction reduce? next stack t with
  | case1 t =>
    cases h
    exact ⟨[], rfl, nofun, nofun, rfl⟩
  | case2 => cases h
  | case3 f stack t hf ih =>
    obtain ⟨done, rfl, hdone, hrest, ht⟩ := ih h
    exact ⟨f :: done, rfl, List.forall_mem_cons.mpr ⟨hf, hdone⟩, hrest, ht⟩
  | case4 f stack t hf =>
    cases h
    refine ⟨[], rfl, nofun, ?_, rfl⟩
    rintro g ⟨⟩
    exact hf

/-! ### Closing parentheses -/

theorem close?_append (h : .paren ∉ done) (t : Tree) :
    close? (done ++ rest) t = close? rest (completeAll done t) := by
  induction done generalizing t with
  | nil => rfl
  | cons f done ih =>
    rw [List.mem_cons, not_or] at h
    rw [List.cons_append, close?]
    · exact ih h.2 (f.complete t)
    · rintro rfl
      exact h.1 rfl

/-- A closing parenthesis completes the frames above the innermost open one. -/
theorem close?_split (h : close? stack t = some (rest, t')) :
    ∃ done, stack = done ++ .paren :: rest ∧ .paren ∉ done ∧ completeAll done t = t' := by
  fun_induction close? stack t with
  | case1 => cases h
  | case2 t stack =>
    cases h
    exact ⟨[], rfl, nofun, rfl⟩
  | case3 f stack t hf ih =>
    obtain ⟨done, rfl, hdone, ht⟩ := ih h
    refine ⟨f :: done, rfl, ?_, ht⟩
    rw [List.mem_cons, not_or]
    exact ⟨fun hp => hf hp.symm, hdone⟩

/-! ### The end of the text -/

theorem finish?_append (h : .paren ∉ done) (t : Tree) :
    finish? (done ++ rest) t = finish? rest (completeAll done t) := by
  induction done generalizing t with
  | nil => rfl
  | cons f done ih =>
    rw [List.mem_cons, not_or] at h
    rw [List.cons_append, finish?]
    · exact ih h.2 (f.complete t)
    · rintro rfl
      exact h.1 rfl

/-- The end of the text completes all frames, and none of them is a parenthesis. -/
theorem finish?_split (h : finish? stack t = some t') :
    .paren ∉ stack ∧ completeAll stack t = t' := by
  fun_induction finish? stack t with
  | case1 t =>
    cases h
    exact ⟨nofun, rfl⟩
  | case2 => cases h
  | case3 f stack t hf ih =>
    obtain ⟨hstack, ht⟩ := ih h
    refine ⟨?_, ht⟩
    rw [List.mem_cons, not_or]
    exact ⟨fun hp => hf hp.symm, hstack⟩

end SqlScript.Condition
