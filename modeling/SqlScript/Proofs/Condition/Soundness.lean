/-
SqlScript/Proofs/Condition/Soundness.lean

What is read as a condition is a phrase of its tree.

At every point of reading, the tokens so far are accounted for: each frame of the stack
holds some of them (`Pending`), and behind these come the tokens of the operand, if there is
one (`Held`).  Completing a frame with its operand makes a longer phrase out of the two
(`Held.complete`).

That comparisons do not stand beside each other is kept along the way.  A comparison never
comes to lie directly on another one in the stack, and an operator that is a comparison
never completes one, since the two do not yield to each other (`yields?_comparison`).
-/
import SqlScript.Proofs.Condition.Frames
import SqlScript.Proofs.Condition.Phrases

namespace SqlScript.Condition

/-! ### What a stack holds -/

/-- Whether a frame waits for the right operand of a comparison. -/
def Frame.isComparison : Frame → Bool
  | .binary op _ => op.isComparison
  | _ => false

/-- Whether a comparison may be completed, or put, on top of a stack. -/
def Free (stack : List Frame) : Prop := ∀ f ∈ stack.head?, f.isComparison = false

/-- The tokens that the frames of a stack hold, those of the innermost at the end. -/
inductive Pending : List Frame → List Token → Prop
  | nil : Pending [] []
  | sign {t : Token} {s : Sign} {stack : List Frame} {us : List Token}
      (hs : t.kind.sign? = some s) (h : Pending stack us) : Pending (.sign s :: stack) (us ++ [t])
  | paren {t : Token} {stack : List Frame} {us : List Token} (hl : t.kind = .leftParen)
      (h : Pending stack us) : Pending (.paren :: stack) (us ++ [t])
  | binary {t : Token} {op : BinaryOp} {bare : Bool} {stack : List Frame} {us vs : List Token}
      {left : Tree} (ho : t.kind.binary? = some op) (hl : Phrase bare vs left)
      (apart : op.isComparison = true → bare = false ∧ Free stack) (h : Pending stack us) :
      Pending (.binary op left :: stack) (us ++ vs ++ [t])

/-- The tokens that a stack holds, and behind them those of an operand. -/
inductive Held (stack : List Frame) (bare : Bool) (x : Tree) : List Token → Prop
  | mk {us vs : List Token} (pending : Pending stack us) (phrase : Phrase bare vs x)
      (free : bare = true → Free stack) : Held stack bare x (us ++ vs)

variable {stack rest done : List Frame} {bare : Bool} {x : Tree} {ts : List Token}

/-- Completing a frame makes one phrase out of its tokens and those of the operand. -/
theorem Held.complete {f : Frame} (h : Held (f :: stack) bare x ts) (hf : f ≠ .paren) :
    Held stack f.isComparison (f.complete x) ts := by
  obtain ⟨pending, phrase, free⟩ := h
  cases pending with
  | @sign t s _ us hs pending =>
    rw [List.append_assoc]
    exact .mk pending (.signed hs phrase) nofun
  | paren => exact absurd rfl hf
  | @binary t op bareLeft _ us vs left ho hl apart pending =>
    -- the operand is no bare comparison if the frame is one
    have hbare : op.isComparison = true → bareLeft = false ∧ bare = false := by
      intro hc
      refine ⟨(apart hc).1, Bool.eq_false_iff.mpr ?_⟩
      intro hb
      exact Bool.eq_false_iff.mp (free hb _ rfl) hc
    rw [List.append_assoc, List.append_assoc]
    exact .mk pending (.joined ho hl phrase hbare) fun hc => (apart hc).2

/-- Completing frames makes one phrase of all their tokens.  It is a bare comparison only if
the operand was, or one of the frames is a comparison. -/
theorem Held.completeAll (h : Held (done ++ rest) bare x ts) (hd : .paren ∉ done) :
    ∃ bare', Held rest bare' (completeAll done x) ts ∧
      (bare' = true → bare = true ∨ ∃ f ∈ done, f.isComparison = true) := by
  induction done generalizing x bare with
  | nil => exact ⟨bare, h, .inl⟩
  | cons f done ih =>
    rw [List.mem_cons, not_or] at hd
    obtain ⟨bare', hheld, hbare⟩ := ih (h.complete (Ne.symm hd.1)) hd.2
    refine ⟨bare', hheld, ?_⟩
    intro hb
    rcases hbare hb with hc | ⟨g, hg, hc⟩
    · exact .inr ⟨f, List.mem_cons_self, hc⟩
    · exact .inr ⟨g, List.mem_cons_of_mem f hg, hc⟩

/-- Two comparisons cannot stand together. -/
theorem yields?_comparison {f : Frame} {op : BinaryOp} (hf : f.isComparison = true)
    (ho : op.isComparison = true) : f.yields? op = none := by
  have level : ∀ {op : BinaryOp}, op.isComparison = true → op.level = 4 := by
    intro op h
    cases op <;> first | rfl | cases h
  cases f with
  | binary op' left =>
    have hop' : op'.isComparison = true := hf
    rw [Frame.yields?, if_pos ⟨(level hop').trans (level ho).symm, ho⟩]
  | sign | paren => cases hf

/-! ### One token -/

/-- The tokens that have been read: those that the stack holds, and those of the operand. -/
def Reading.Holds (r : Reading) (ts : List Token) : Prop :=
  match r.operand with
  | none => Pending r.stack ts
  | some x => Held r.stack false x ts

theorem stepOperand_holds {t : Token} {r : Reading} (h : Pending stack ts)
    (hs : stepOperand stack t = some r) : r.Holds (ts ++ [t]) := by
  rw [stepOperand] at hs
  split at hs
  · next v hv =>
    cases hs
    exact Held.mk h (.atom hv) nofun
  split at hs
  · next s hsign =>
    cases hs
    exact Pending.sign hsign h
  split at hs
  · next hl =>
    cases hs
    exact Pending.paren hl h
  · cases hs

/-- An infix operator completes what yields to it and takes the result as its left
operand. -/
theorem operator_holds {t : Token} {op : BinaryOp} {x' : Tree} (h : Held stack false x ts)
    (ho : t.kind.binary? = some op) (hr : reduce? op stack x = some (rest, x')) :
    Pending (.binary op x' :: rest) (ts ++ [t]) := by
  obtain ⟨done, rfl, hdone, hrest, rfl⟩ := reduce?_split hr
  have hparen : .paren ∉ done := fun hp => absurd (hdone _ hp) (by simp [Frame.yields?])
  obtain ⟨bare, hheld, hbare⟩ := h.completeAll hparen
  -- what yields to a comparison is none itself, and neither is what stays below it
  have apart : op.isComparison = true → bare = false ∧ Free rest := by
    intro hc
    refine ⟨Bool.eq_false_iff.mpr ?_, ?_⟩
    · intro hb
      rcases hbare hb with hf | ⟨f, hf, hfc⟩
      · cases hf
      · exact absurd ((yields?_comparison hfc hc).symm.trans (hdone f hf)) nofun
    · intro f hf
      refine Bool.eq_false_iff.mpr ?_
      intro hfc
      exact absurd ((yields?_comparison hfc hc).symm.trans (hrest f hf)) nofun
  obtain ⟨pending, phrase, -⟩ := hheld
  exact .binary ho phrase apart pending

/-- A closing parenthesis makes a phrase that is not bare out of what it encloses. -/
theorem close_holds {t : Token} {x' : Tree} (h : Held stack false x ts)
    (ht : t.kind = .rightParen) (hc : close? stack x = some (rest, x')) :
    Held rest false x' (ts ++ [t]) := by
  obtain ⟨done, rfl, hparen, rfl⟩ := close?_split hc
  obtain ⟨bare, hheld, -⟩ := h.completeAll hparen
  obtain ⟨pending, phrase, -⟩ := hheld
  cases pending with
  | @paren lp _ us hl pending =>
    have whole := Held.mk pending (.enclosed hl ht phrase) nofun
    simpa using whole

/-- **Reading a token keeps all tokens accounted for.** -/
theorem Reading.Holds.step {r r' : Reading} {t : Token} (h : r.Holds ts)
    (hs : r.step? t = some r') : r'.Holds (ts ++ [t]) := by
  obtain ⟨stack, operand⟩ := r
  rcases operand with - | x
  · exact stepOperand_holds h hs
  replace hs : stepOperator stack x t = some r' := hs
  rw [stepOperator] at hs
  split at hs
  · next op ho =>
    obtain ⟨⟨rest, x'⟩, hr, rfl⟩ := Option.map_eq_some_iff.mp hs
    exact operator_holds h ho hr
  split at hs
  · next ht =>
    obtain ⟨⟨rest, x'⟩, hc, rfl⟩ := Option.map_eq_some_iff.mp hs
    exact close_holds h ht hc
  · cases hs

/-! ### Whole conditions -/

theorem Reading.Holds.run {r r' : Reading} (h : r.Holds ts) {us : List Token}
    (hr : r.run us = .ok r') : r'.Holds (ts ++ us) := by
  induction us generalizing r ts with
  | nil =>
    cases hr
    simpa using h
  | cons t us ih =>
    rw [Reading.run] at hr
    rcases hs : r.step? t with - | next
    · simp [hs] at hr
    · simp only [hs] at hr
      have hnext := ih (h.step hs) hr
      simpa using hnext

theorem Reading.Holds.phrase {r : Reading} (h : r.Holds ts) {tree : Tree}
    (ht : r.tree? = some tree) : ∃ bare, Phrase bare ts tree := by
  obtain ⟨stack, operand⟩ := r
  rcases operand with - | x
  · cases ht
  obtain ⟨hparen, rfl⟩ := finish?_split (show finish? stack x = some tree from ht)
  have hheld : Held (stack ++ []) false x ts := by
    rw [List.append_nil]
    exact h
  obtain ⟨bare, hwhole, -⟩ := hheld.completeAll hparen
  obtain ⟨pending, phrase, -⟩ := hwhole
  cases pending
  exact ⟨bare, phrase⟩

/-- The tokens of a text that is read are all there, and lead to its tree. -/
theorem tokens_of_parse {text : String} {tree : Tree} (h : parse text = .ok tree) :
    ∃ ts r, tokens text = .ok ts ∧ Reading.run {} ts = .ok r ∧ r.tree? = some tree := by
  simp only [parse] at h
  split at h
  · cases h
  next r hrun =>
  split at h
  · cases h
  · cases h
  next hend =>
  split at h
  · cases h
  next tree' ht =>
  cases h
  exact ⟨_, r, by simp only [tokens, hend], hrun, ht⟩

/-- Lexing comes to the end of a text that is read. -/
theorem ended_of_parse {text : String} {tree : Tree} (h : parse text = .ok tree) :
    (lex text.toList).2 = .ended := by
  obtain ⟨ts, r, htokens, -, -⟩ := tokens_of_parse h
  rw [tokens] at htokens
  split at htokens
  · cases htokens
  · cases htokens
  · assumption

/-- **Reading is sound.**  The tokens of a text that is read, without their parentheses, are
the yield of its tree.  The parentheses are balanced, and each pair of them encloses exactly
a subtree, at its place.  Wherever a comparison is an operand of another one, it stands in
parentheses. -/
theorem parse_sound {text : String} {tree : Tree} (h : parse text = .ok tree) :
    ∃ ts, tokens text = .ok ts ∧ strip ts = tree.yield ∧ Balanced ts ∧
      (∀ before inside after, Encloses ts before inside after →
        ∃ s, tree.Occurs (strip before) s (strip after) ∧ s.yield = strip inside) ∧
      ∀ front op l r back, tree.Occurs front (.binary op l r) back →
        (Tree.binary op l r).IsComparison → OperandsParenthesised ts front op l r back := by
  obtain ⟨ts, r, htokens, hrun, htree⟩ := tokens_of_parse h
  have start : Reading.Holds {} [] := Pending.nil
  obtain ⟨bare, phrase⟩ := (start.run hrun).phrase htree
  refine ⟨ts, htokens, phrase.strip_eq, phrase.balanced, ?_, ?_⟩
  · intro before inside after he
    exact phrase.encloses_subtree he
  · intro front op l r back ho hc
    exact phrase.operands_parenthesised ho hc

/-- A comparison of a comparison in parentheses with a sum.  The right operand of the sum is a
negation, which takes the comparison behind it although that is looser than the sum. -/
def looseOperand : Tree :=
  .binary (.number .eq) (.binary (.number .lt) (.literal (.int 1)) (.literal (.int 2)))
    (.binary (.arith .add) (.literal (.int 1))
      (.unary .not (.binary (.number .eq) (.literal (.int 2)) (.literal (.int 1)))))

theorem parse_looseOperand : parse "(1 < 2) == 1 + NOT 2 == true" = .ok looseOperand := by
  with_unfolding_all rfl

theorem looseOperand_sound : parse "(1 < 2) == 1 + NOT 2 == true" = .ok looseOperand ∧
    ∃ ts, tokens "(1 < 2) == 1 + NOT 2 == true" = .ok ts ∧ strip ts = looseOperand.yield ∧
      Balanced ts ∧
      (∀ before inside after, Encloses ts before inside after →
        ∃ s, looseOperand.Occurs (strip before) s (strip after) ∧ s.yield = strip inside) ∧
      ∀ front op l r back, looseOperand.Occurs front (.binary op l r) back →
        (Tree.binary op l r).IsComparison → OperandsParenthesised ts front op l r back :=
  ⟨parse_looseOperand, parse_sound parse_looseOperand⟩

end SqlScript.Condition
