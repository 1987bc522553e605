/-
SqlScript/Proofs/Condition/Quoting.lean

Quoted texts: where they end, and what they hold.

Between its quotes a quoted text has a *body*: characters that are neither the quote nor a
backslash, and pairs of a backslash and any character but a line feed (`Body`).  A text has at
most one front that is a body with a quote behind it, and this is what is taken for a quoted text
(`closing?_eq_some_iff`).  So the end of a quoted text does not depend on what follows it.

Quoting puts a backslash in front of every backslash and every single quote.  It makes no
difference whether that is done in one pass or in two, as long as the backslashes come first
(`flatMap_escapeChar`).  What comes out is a body, whatever was quoted (`body_escape`): no
backslash stands alone in front of a line feed, and one at the end is the second of a pair.
-/
import SqlScript.Condition.Token

namespace SqlScript.Condition

/-! ### Bodies -/

/-- What may stand between two quotes. -/
inductive Body (q : Char) : List Char → Prop
  | nil : Body q []
  | plain {c : Char} {cs : List Char} : c ≠ q → c ≠ '\\' → Body q cs → Body q (c :: cs)
  | escaped {c : Char} {cs : List Char} : c ≠ '\n' → Body q cs → Body q ('\\' :: c :: cs)

theorem quote_ne_backslash {q : Char} (h : q = '\'' ∨ q = '"') : q ≠ '\\' := by
  rintro rfl
  exact absurd h (by decide)

theorem closing?_lineFeed (q : Char) (cs : List Char) : closing? q ('\\' :: '\n' :: cs) = none :=
  if_pos rfl

theorem closing?_escaped {c : Char} (h : c ≠ '\n') (q : Char) (cs : List Char) :
    closing? q ('\\' :: c :: cs) = (closing? q cs).map (· + 2) := if_neg h

/-- A backslash at the very end closes nothing. -/
theorem closing?_backslash {q : Char} (h : q ≠ '\\') : closing? q ['\\'] = none :=
  (if_neg h.symm).trans (if_pos rfl)

theorem closing?_plain {q c : Char} (hq : c ≠ q) (h : c ≠ '\\') (cs : List Char) :
    closing? q (c :: cs) = (closing? q cs).map (· + 1) := by
  rw [closing?, if_neg hq, if_neg h]
  rintro c' cs' rfl
  exact absurd rfl h

theorem closing?_quote {q : Char} (h : q ≠ '\\') (cs : List Char) :
    closing? q (q :: cs) = some 1 := by
  rw [closing?, if_pos rfl]
  rintro c' cs' rfl
  exact absurd rfl h

section Closing

variable {q : Char} (hq : q ≠ '\\')

include hq

/-- A body goes up to the quote behind it. -/
theorem Body.closing? {body : List Char} (h : Body q body) (rest : List Char) :
    closing? q (body ++ q :: rest) = some (body.length + 1) := by
  induction h with
  | nil => exact closing?_quote hq rest
  | @plain c cs hc hslash _ ih =>
    rw [List.cons_append, closing?_plain hc hslash, ih]
    rfl
  | @escaped c cs hc _ ih =>
    rw [List.cons_append, List.cons_append, closing?_escaped hc, ih]
    rfl

/-- **A quoted text is closed where a body ends, and only there.** -/
theorem closing?_eq_some_iff {cs : List Char} {n : Nat} :
    closing? q cs = some n ↔
      ∃ body rest, cs = body ++ q :: rest ∧ n = body.length + 1 ∧ Body q body := by
  constructor
  · intro h
    induction cs using closing?.induct q generalizing n with
    | case1 cs => cases (closing?_lineFeed q cs).symm.trans h
    | case2 c cs hc ih =>
      rw [closing?_escaped hc, Option.map_eq_some_iff] at h
      obtain ⟨k, hk, rfl⟩ := h
      obtain ⟨body, rest, rfl, rfl, inner⟩ := ih hk
      exact ⟨'\\' :: c :: body, rest, rfl, rfl, .escaped hc inner⟩
    | case3 cs _ =>
      rw [closing?_quote hq] at h
      cases h
      exact ⟨[], cs, rfl, rfl, .nil⟩
    | case4 cs hlast _ =>
      rcases cs with - | ⟨c, cs⟩
      · cases (closing?_backslash hq).symm.trans h
      · exact (hlast c cs rfl rfl).elim
    | case5 c cs _ hcq hc ih =>
      rw [closing?_plain hcq hc, Option.map_eq_some_iff] at h
      obtain ⟨k, hk, rfl⟩ := h
      obtain ⟨body, rest, rfl, rfl, inner⟩ := ih hk
      exact ⟨c :: body, rest, rfl, rfl, .plain hcq hc inner⟩
    | case6 => cases h
  · rintro ⟨body, rest, rfl, rfl, inner⟩
    exact inner.closing? hq rest

/-- A text has at most one body at its front. -/
theorem Body.unique {body body' rest rest' : List Char} (h : Body q body) (h' : Body q body')
    (same : body ++ q :: rest = body' ++ q :: rest') : body = body' ∧ rest = rest' := by
  have length : body.length = body'.length := by
    have closed := h.closing? hq rest
    rw [same, h'.closing? hq rest', Option.some.injEq, Nat.add_right_cancel_iff] at closed
    exact closed.symm
  obtain ⟨hbody, hrest⟩ := List.append_inj same length
  exact ⟨hbody, (List.cons.inj hrest).2⟩

/-- The end of a quoted text does not depend on what follows it. -/
theorem closing?_append {cs : List Char} {n : Nat} (h : closing? q cs = some n)
    (rest : List Char) : closing? q (cs ++ rest) = some n := by
  obtain ⟨body, behind, rfl, rfl, inner⟩ := (closing?_eq_some_iff hq).mp h
  rw [List.append_assoc, List.cons_append]
  exact inner.closing? hq (behind ++ rest)

/-- A quoted text that is cut off behind its end is still one. -/
theorem closing?_take {cs : List Char} {n : Nat} (h : closing? q cs = some n) :
    n ≤ cs.length ∧ closing? q (cs.take n) = some n := by
  obtain ⟨body, behind, rfl, rfl, inner⟩ := (closing?_eq_some_iff hq).mp h
  have length : (body ++ [q]).length = body.length + 1 := by simp
  rw [List.append_cons, List.take_left' length, List.length_append, length]
  exact ⟨Nat.le_add_right _ _, inner.closing? hq []⟩

end Closing

/-! ### Escaping -/

theorem escapeChar_plain {c : Char} (h : ¬ (c = '\\' ∨ c = '\'')) : escapeChar c = [c] := if_neg h

theorem escapeChar_special {c : Char} (h : c = '\\' ∨ c = '\'') : escapeChar c = ['\\', c] :=
  if_pos h

theorem unescape_plain {c : Char} (h : c ≠ '\\') (cs : List Char) :
    unescape (c :: cs) = c :: unescape cs := by
  rw [unescape]
  rintro c' cs' rfl
  exact absurd rfl h

/-- Escaped characters stand for the characters. -/
theorem unescape_escape (cs : List Char) : unescape (cs.flatMap escapeChar) = cs := by
  induction cs with
  | nil => rfl
  | cons c cs ih =>
    rw [List.flatMap_cons]
    by_cases hc : c = '\\' ∨ c = '\''
    · rw [escapeChar_special hc]
      show unescape ('\\' :: c :: cs.flatMap escapeChar) = c :: cs
      rw [unescape, ih]
    · rw [escapeChar_plain hc]
      show unescape (c :: cs.flatMap escapeChar) = c :: cs
      rw [unescape_plain fun h => hc (.inl h), ih]

/-- Escaped characters are a body, whatever they are. -/
theorem body_escape (cs : List Char) : Body '\'' (cs.flatMap escapeChar) := by
  induction cs with
  | nil => exact .nil
  | cons c cs ih =>
    rw [List.flatMap_cons]
    by_cases hc : c = '\\' ∨ c = '\''
    · have hn : c ≠ '\n' := by
        rintro rfl
        exact absurd hc (by decide)
      rw [escapeChar_special hc]
      exact .escaped hn ih
    · rw [escapeChar_plain hc]
      exact .plain (fun h => hc (.inr h)) (fun h => hc (.inl h)) ih

/-- A text with a backslash in front of every `c`. -/
def backslashed (c : Char) (cs : List Char) : List Char :=
  cs.flatMap fun d => if d = c then ['\\', d] else [d]

/-- **Escaping is done in one pass or in two**, backslashes first. -/
theorem flatMap_escapeChar (cs : List Char) :
    cs.flatMap escapeChar = backslashed '\'' (backslashed '\\' cs) := by
  rw [backslashed, backslashed, List.flatMap_assoc]
  congr 1
  funext c
  by_cases slash : c = '\\'
  · subst slash
    rfl
  · by_cases quote : c = '\''
    · subst quote
      rfl
    · simp [escapeChar, slash, quote]

end SqlScript.Condition
