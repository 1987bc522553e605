/-
SqlScript/Proofs/Condition/Phrases.lean

Phrases: the tokens of a condition and the tree that they make up.

A phrase is a value, a phrase behind a prefix operator, two phrases with an infix operator
between them, or a phrase in parentheses (`Phrase`).  A comparison does not have another
comparison as its operand unless that stands in parentheses; apart from this the grammar
says nothing about levels, so it holds many phrases that are never read, and one text may be
several phrases.

What a phrase has in common with its tree does not depend on the levels.  Without its
parentheses it is the yield of the tree (`Phrase.strip_eq`); its parentheses are balanced,
and each pair of them encloses a subtree (`Phrase.encloses_subtree`); and the comparisons
that are operands of comparisons stand in parentheses (`Phrase.operands_parenthesised`).
-/
import SqlScript.Condition.Parser

namespace SqlScript.Condition

/-! ### Symbols -/

/-- What a token stands for, if it is no parenthesis: a value, or the name of an
operator. -/
inductive Symbol where
  | operand (v : Value)
  | operator (name : String)

/-- The symbol of a token.  Both spellings of an operator have one name, and a minus sign is
the same in front of an operand and between two. -/
def Token.symbol? (t : Token) : Option Symbol :=
  match t.kind with
  | .leftParen | .rightParen => none
  | .float | .integer | .string | .word => some (.operand t.value)
  | .nullWord => some (.operand .null)
  | .trueWord => some (.operand (.int 1))
  | .falseWord => some (.operand (.int 0))
  | .orSymbol | .orWord => some (.operator "or")
  | .andSymbol | .andWord => some (.operator "and")
  | .bang | .notWord => some (.operator "not")
  | .relation r => some (.operator r.symbol)
  | .wordRelation r => some (.operator r.word)
  | .arith a => some (.operator a.symbol)
  | .dot => some (.operator ".")

/-- The symbols of tokens; parentheses are left out. -/
def strip (ts : List Token) : List Symbol := ts.filterMap Token.symbol?

/-- The symbol of a prefix operator. -/
def UnaryOp.symbol : UnaryOp → Symbol
  | .not => .operator "not"
  | .neg => .operator "-"

/-- The symbol of an infix operator. -/
def BinaryOp.symbol (op : BinaryOp) : Symbol := .operator op.name

/-- The symbols of a tree, from left to right. -/
def Tree.yield : Tree → List Symbol
  | .literal v => [.operand v]
  | .unary op t => op.symbol :: t.yield
  | .binary op left right => left.yield ++ op.symbol :: right.yield
  | .stray v => [.operand v]

/-- A tree has a subtree at a place, given by the symbols in front of it and behind it. -/
inductive Tree.Occurs : Tree → List Symbol → Tree → List Symbol → Prop
  | here (t : Tree) : Occurs t [] t []
  | operand {op : UnaryOp} {t s : Tree} {front back : List Symbol} (h : Occurs t front s back) :
      Occurs (.unary op t) (op.symbol :: front) s back
  | left {op : BinaryOp} {l r s : Tree} {front back : List Symbol} (h : Occurs l front s back) :
      Occurs (.binary op l r) front s (back ++ op.symbol :: r.yield)
  | right {op : BinaryOp} {l r s : Tree} {front back : List Symbol} (h : Occurs r front s back) :
      Occurs (.binary op l r) (l.yield ++ op.symbol :: front) s back

/-- Whether a tree is a comparison. -/
def Tree.IsComparison : Tree → Prop
  | .binary (.number _) _ _ => True
  | .binary (.text _) _ _ => True
  | _ => False

section Symbols

variable {t : Token}

theorem symbol?_atom {v : Value} (h : t.atom? = some v) : t.symbol? = some (.operand v) := by
  obtain ⟨kind, value, pos⟩ := t
  cases kind <;> simp_all [Token.atom?, Token.symbol?]

theorem symbol?_sign {s : Sign} (h : t.kind.sign? = some s) : t.symbol? = some s.op.symbol := by
  obtain ⟨kind, value, pos⟩ := t
  cases kind with
  | arith a =>
    cases a with
    | sub =>
      cases h
      rfl
    | _ => cases h
  | _ => cases h <;> rfl

theorem symbol?_binary {op : BinaryOp} (h : t.kind.binary? = some op) :
    t.symbol? = some op.symbol := by
  obtain ⟨kind, value, pos⟩ := t
  cases kind <;> cases h <;> rfl

theorem symbol?_paren (h : t.kind = .leftParen ∨ t.kind = .rightParen) : t.symbol? = none := by
  rcases h with h | h <;> simp [Token.symbol?, h]

end Symbols

@[simp] theorem strip_nil : strip [] = [] := rfl

@[simp] theorem strip_append (us vs : List Token) : strip (us ++ vs) = strip us ++ strip vs :=
  List.filterMap_append

theorem strip_symbol {t : Token} {s : Symbol} (h : t.symbol? = some s) (ts : List Token) :
    strip (t :: ts) = s :: strip ts :=
  List.filterMap_cons_some h

theorem strip_paren {t : Token} (h : t.kind = .leftParen ∨ t.kind = .rightParen) (ts : List Token) :
    strip (t :: ts) = strip ts :=
  List.filterMap_cons_none (symbol?_paren h)

theorem isComparison_binary {op : BinaryOp} {l r : Tree} :
    (Tree.binary op l r).IsComparison ↔ op.isComparison = true := by
  cases op <;> simp [Tree.IsComparison, BinaryOp.isComparison]

/-! ### Parentheses -/

/-- How many parentheses are open behind a token, if `depth` are open in front of it; none
if it closes one that is not open. -/
def Token.nest? (depth : Nat) (t : Token) : Option Nat :=
  match t.kind with
  | .leftParen => some (depth + 1)
  | .rightParen => if depth = 0 then none else some (depth - 1)
  | _ => some depth

/-- How many parentheses are open behind tokens. -/
def nesting (depth : Nat) (ts : List Token) : Option Nat := ts.foldlM Token.nest? depth

/-- Every parenthesis that is opened is closed, and the other way round. -/
def Balanced (ts : List Token) : Prop := nesting 0 ts = some 0

instance (ts : List Token) : Decidable (Balanced ts) := inferInstanceAs (Decidable (_ = _))

/-- A pair of parentheses that belong together, with the tokens before, between and behind
them. -/
def Encloses (ts before inside after : List Token) : Prop :=
  ∃ lp rp : Token, lp.kind = .leftParen ∧ rp.kind = .rightParen ∧ Balanced inside ∧
    ts = before ++ lp :: (inside ++ rp :: after)

/-- A tree stands in parentheses at a place, given by the symbols in front of it and behind
it. -/
def Parenthesised (ts : List Token) (front : List Symbol) (s : Tree) (back : List Symbol) : Prop :=
  ∃ before inside after, Encloses ts before inside after ∧ strip before = front ∧
    strip inside = s.yield ∧ strip after = back

/-- The operands of an infix operator at a place, as far as they are comparisons, stand in
parentheses. -/
structure OperandsParenthesised (ts : List Token) (front : List Symbol) (op : BinaryOp)
    (l r : Tree) (back : List Symbol) : Prop where
  left : l.IsComparison → Parenthesised ts front l (op.symbol :: r.yield ++ back)
  right : r.IsComparison → Parenthesised ts (front ++ l.yield ++ [op.symbol]) r back

section Nesting

variable {t lp rp : Token} {us vs : List Token} {depth : Nat}

theorem nesting_cons (depth : Nat) (t : Token) (us : List Token) :
    nesting depth (t :: us) = (t.nest? depth).bind fun d => nesting d us :=
  List.foldlM_cons

theorem nesting_append (depth : Nat) (us vs : List Token) :
    nesting depth (us ++ vs) = (nesting depth us).bind fun d => nesting d vs :=
  List.foldlM_append

theorem nesting_left (h : lp.kind = .leftParen) :
    nesting depth (lp :: us) = nesting (depth + 1) us := by
  simp [nesting_cons, Token.nest?, h]

theorem nesting_right (h : rp.kind = .rightParen) :
    nesting (depth + 1) (rp :: us) = nesting depth us := by
  simp [nesting_cons, Token.nest?, h]

theorem nesting_right_zero (h : rp.kind = .rightParen) : nesting 0 (rp :: us) = none := by
  simp [nesting_cons, Token.nest?, h]

theorem nesting_symbol {s : Symbol} (h : t.symbol? = some s) :
    nesting depth (t :: us) = nesting depth us := by
  have step : t.nest? depth = some depth := by
    obtain ⟨kind, value, pos⟩ := t
    cases kind <;> first | rfl | cases h
  rw [nesting_cons, step, Option.bind_some]

/-- Parentheses that are open all along make no difference. -/
theorem nesting_add (k : Nat) {d : Nat} (h : nesting depth us = some d) :
    nesting (depth + k) us = some (d + k) := by
  have step : ∀ {t : Token} {depth d : Nat}, t.nest? depth = some d →
      t.nest? (depth + k) = some (d + k) := by
    intro t depth d ht
    unfold Token.nest? at ht ⊢
    split at ht
    · cases ht
      simp only [Option.some.injEq]
      omega
    · split at ht
      · cases ht
      · cases ht
        rw [if_neg (by omega)]
        simp only [Option.some.injEq]
        omega
    · cases ht
      rfl
  induction us generalizing depth with
  | nil =>
    cases h
    rfl
  | cons t us ih =>
    rw [nesting_cons, Option.bind_eq_some_iff] at h
    obtain ⟨e, he, h⟩ := h
    rw [nesting_cons, step he, Option.bind_some, ih h]

theorem Balanced.nesting (h : Balanced us) (depth : Nat) : nesting depth us = some depth := by
  simpa using nesting_add depth h

theorem balanced_singleton {s : Symbol} (h : t.symbol? = some s) : Balanced [t] := nesting_symbol h

theorem Balanced.append (hu : Balanced us) (hv : Balanced vs) : Balanced (us ++ vs) := by
  rw [Balanced, nesting_append, hu.nesting, Option.bind_some, hv.nesting]

theorem Balanced.enclosed (h : Balanced us) (hl : lp.kind = .leftParen)
    (hr : rp.kind = .rightParen) : Balanced (lp :: (us ++ [rp])) := by
  rw [Balanced, nesting_left hl, nesting_append, h.nesting, Option.bind_some, nesting_right hr]
  rfl

/-- An opening parenthesis is closed before balanced tokens end, so what follows it there is
not the front of other balanced tokens. -/
theorem Balanced.closes {before rest : List Token} (h : Balanced (before ++ lp :: us))
    (hl : lp.kind = .leftParen) : ¬ Balanced (us ++ rest) := by
  intro hb
  rw [Balanced, nesting_append] at h hb
  obtain ⟨d, hd, h⟩ := Option.bind_eq_some_iff.mp h
  obtain ⟨e, he, -⟩ := Option.bind_eq_some_iff.mp hb
  -- by the second the parenthesis is still open there, by the first it is not
  have still := nesting_add (d + 1) he
  rw [nesting_left hl] at h
  rw [Nat.zero_add, h] at still
  simp at still

/-- Behind an opening parenthesis there is only one that closes it. -/
theorem closing_unique {us' vs' : List Token} {rp' : Token} (hu : Balanced us)
    (hu' : Balanced us') (hr : rp.kind = .rightParen) (hr' : rp'.kind = .rightParen)
    (h : us ++ rp :: vs = us' ++ rp' :: vs') : us = us' ∧ rp = rp' ∧ vs = vs' := by
  -- if one of the two went further it would close a parenthesis that is not open
  have further : ∀ {us rest : List Token} {rp : Token}, Balanced us → rp.kind = .rightParen →
      ¬ Balanced (us ++ rp :: rest) := by
    intro us rest rp hu hr hb
    rw [Balanced, nesting_append, hu.nesting, Option.bind_some, nesting_right_zero hr] at hb
    cases hb
  rcases List.append_eq_append_iff.mp h with ⟨- | ⟨t, rest⟩, rfl, hrest⟩ | ⟨- | ⟨t, rest⟩, rfl, hrest⟩
  · obtain ⟨rfl, rfl⟩ := List.cons.inj hrest
    exact ⟨(List.append_nil us).symm, rfl, rfl⟩
  · obtain ⟨rfl, -⟩ := List.cons.inj hrest
    exact absurd hu' (further hu hr)
  · obtain ⟨rfl, rfl⟩ := List.cons.inj hrest
    exact ⟨List.append_nil us', rfl, rfl⟩
  · obtain ⟨rfl, -⟩ := List.cons.inj hrest
    exact absurd hu (further hu' hr')

end Nesting

/-! ### Phrases -/

/-- Tokens that make up a tree.  The phrase is bare if it is a comparison that does not stand
in parentheses. -/
inductive Phrase : Bool → List Token → Tree → Prop
  | atom {t : Token} {v : Value} (h : t.atom? = some v) : Phrase false [t] (.literal v)
  | signed {t : Token} {s : Sign} {bare : Bool} {us : List Token} {x : Tree}
      (hs : t.kind.sign? = some s) (h : Phrase bare us x) : Phrase false (t :: us) (.unary s.op x)
  | joined {t : Token} {op : BinaryOp} {bareLeft bareRight : Bool} {us vs : List Token}
      {l r : Tree} (ho : t.kind.binary? = some op) (hl : Phrase bareLeft us l)
      (hr : Phrase bareRight vs r)
      (apart : op.isComparison = true → bareLeft = false ∧ bareRight = false) :
      Phrase op.isComparison (us ++ t :: vs) (.binary op l r)
  | enclosed {lp rp : Token} {bare : Bool} {us : List Token} {x : Tree}
      (hl : lp.kind = .leftParen) (hr : rp.kind = .rightParen) (h : Phrase bare us x) :
      Phrase false (lp :: (us ++ [rp])) x

namespace Phrase

variable {bare : Bool} {us : List Token} {x : Tree}

/-- **Without its parentheses a phrase is the yield of its tree.** -/
theorem strip_eq (h : Phrase bare us x) : strip us = x.yield := by
  induction h with
  | atom h => rw [strip_symbol (symbol?_atom h)]; rfl
  | signed hs _ ih => rw [strip_symbol (symbol?_sign hs), ih]; rfl
  | joined ho _ _ _ ihl ihr =>
    rw [strip_append, strip_symbol (symbol?_binary ho), ihl, ihr]
    rfl
  | enclosed hl hr _ ih =>
    rw [strip_paren (.inl hl), strip_append, strip_paren (.inr hr), ih]
    exact List.append_nil _

theorem balanced (h : Phrase bare us x) : Balanced us := by
  induction h with
  | atom h => exact balanced_singleton (symbol?_atom h)
  | signed hs _ ih => exact (balanced_singleton (symbol?_sign hs)).append ih
  | joined ho _ _ _ ihl ihr =>
    exact ihl.append ((balanced_singleton (symbol?_binary ho)).append ihr)
  | enclosed hl hr _ ih => exact ih.enclosed hl hr

end Phrase

/-! ### Pairs of parentheses -/

section Encloses

variable {t lp rp : Token} {us vs before inside after : List Token} {s : Symbol}

theorem not_paren_of_symbol {k : Kind} (h : t.symbol? = some s)
    (hk : k = .leftParen ∨ k = .rightParen) : t.kind ≠ k := by
  rintro rfl
  rw [symbol?_paren hk] at h
  cases h

/-- What stands in parentheses still does when more stands around it. -/
theorem Parenthesised.extend {front back : List Symbol} {s : Tree}
    (h : Parenthesised us front s back) (xs ys : List Token) :
    Parenthesised (xs ++ us ++ ys) (strip xs ++ front) s (back ++ strip ys) := by
  obtain ⟨before, inside, after, ⟨lp, rp, hl, hr, hb, rfl⟩, rfl, hy, rfl⟩ := h
  refine ⟨xs ++ before, inside, after ++ ys, ⟨lp, rp, hl, hr, hb, ?_⟩, ?_, hy, ?_⟩
  · simp
  · rw [strip_append]
  · rw [strip_append]

theorem OperandsParenthesised.extend {front back : List Symbol} {op : BinaryOp} {l r : Tree}
    (h : OperandsParenthesised us front op l r back) (xs ys : List Token) :
    OperandsParenthesised (xs ++ us ++ ys) (strip xs ++ front) op l r (back ++ strip ys) where
  left hc := by simpa using (h.left hc).extend xs ys
  right hc := by simpa using (h.right hc).extend xs ys

/-- A pair in tokens with a symbol in front of them is a pair in these tokens. -/
theorem Encloses.of_cons (h : Encloses (t :: us) before inside after) (ht : t.symbol? = some s) :
    ∃ before', before = t :: before' ∧ Encloses us before' inside after := by
  obtain ⟨lp, rp, hl, hr, hb, heq⟩ := h
  rcases before with - | ⟨t', before'⟩
  · obtain ⟨rfl, -⟩ := List.cons.inj heq
    exact absurd hl (not_paren_of_symbol ht (.inl rfl))
  · obtain ⟨rfl, htail⟩ := List.cons.inj heq
    exact ⟨before', rfl, lp, rp, hl, hr, hb, htail⟩

/-- A pair in tokens with a symbol between balanced parts is a pair in one of the parts. -/
theorem Encloses.of_append (h : Encloses (us ++ t :: vs) before inside after)
    (ht : t.symbol? = some s) (hu : Balanced us) :
    (∃ after', after = after' ++ t :: vs ∧ Encloses us before inside after') ∨
      ∃ before', before = us ++ t :: before' ∧ Encloses vs before' inside after := by
  obtain ⟨lp, rp, hl, hr, hb, heq⟩ := h
  rcases List.append_eq_append_iff.mp heq with ⟨rest, rfl, hrest⟩ | ⟨rest, rfl, hrest⟩
  -- it opens behind the left part, so behind the symbol
  · right
    obtain ⟨before', rfl, hv⟩ := Encloses.of_cons ⟨lp, rp, hl, hr, hb, hrest⟩ ht
    exact ⟨before', rfl, hv⟩
  left
  rcases rest with - | ⟨lp', rest⟩
  · obtain ⟨rfl, -⟩ := List.cons.inj hrest
    exact absurd hl (not_paren_of_symbol ht (.inl rfl))
  -- it opens in the left part, and closes there as well
  obtain ⟨rfl, htail⟩ := List.cons.inj hrest
  rcases List.append_eq_append_iff.mp htail with ⟨more, rfl, hmore⟩ | ⟨more, rfl, -⟩
  · rcases more with - | ⟨rp', after'⟩
    · obtain ⟨rfl, -⟩ := List.cons.inj hmore
      exact absurd hr (not_paren_of_symbol ht (.inr rfl))
    · obtain ⟨rfl, rfl⟩ := List.cons.inj hmore
      exact ⟨after', rfl, lp, rp, hl, hr, hb, rfl⟩
  · exact absurd hb (hu.closes hl)

/-- A pair in balanced tokens that stand in parentheses is these parentheses, or a pair in
the tokens. -/
theorem Encloses.of_enclosed (h : Encloses (lp :: (us ++ [rp])) before inside after)
    (hr : rp.kind = .rightParen) (hu : Balanced us) :
    (before = [] ∧ inside = us ∧ after = []) ∨
      ∃ before' after', before = lp :: before' ∧ after = after' ++ [rp] ∧
        Encloses us before' inside after' := by
  obtain ⟨lp', rp', hl', hr', hb, heq⟩ := h
  rcases before with - | ⟨t, before'⟩
  · obtain ⟨rfl, htail⟩ := List.cons.inj heq
    obtain ⟨rfl, -, rfl⟩ := closing_unique hu hb hr hr' htail
    exact .inl ⟨rfl, rfl, rfl⟩
  right
  obtain rfl : lp = t := (List.cons.inj heq).1
  have htail : us ++ [rp] = before' ++ lp' :: (inside ++ rp' :: after) := (List.cons.inj heq).2
  rcases List.eq_nil_or_concat after with rfl | ⟨after', rp'', rfl⟩
  -- it does not close with the last token, since it opens among balanced ones
  · have same : us ++ [rp] = (before' ++ lp' :: inside) ++ [rp'] := by simpa using htail
    obtain ⟨rfl, -⟩ := List.append_inj' same rfl
    rw [← List.append_nil inside] at hb
    exact absurd hb (hu.closes hl')
  · have same : us ++ [rp] = (before' ++ lp' :: (inside ++ rp' :: after')) ++ [rp''] := by
      simpa using htail
    obtain ⟨rfl, hlast⟩ := List.append_inj' same rfl
    obtain rfl := List.singleton_inj.mp hlast
    exact ⟨before', after', rfl, by simp, lp', rp', hl', hr', hb, rfl⟩

end Encloses

namespace Phrase

variable {bare : Bool} {us : List Token} {x : Tree}

/-- **Each pair of parentheses of a phrase encloses a subtree**, at its place. -/
theorem encloses_subtree (h : Phrase bare us x) {before inside after : List Token}
    (he : Encloses us before inside after) :
    ∃ s, x.Occurs (strip before) s (strip after) ∧ s.yield = strip inside := by
  induction h generalizing before after with
  | atom h =>
    obtain ⟨before', -, lp, rp, -, -, -, hnil⟩ := he.of_cons (symbol?_atom h)
    simp at hnil
  | signed hs _ ih =>
    obtain ⟨before', rfl, he'⟩ := he.of_cons (symbol?_sign hs)
    obtain ⟨s, hs', hy⟩ := ih he'
    rw [strip_symbol (symbol?_sign hs)]
    exact ⟨s, .operand hs', hy⟩
  | joined ho hl hr _ ihl ihr =>
    have symbol := symbol?_binary ho
    rcases he.of_append symbol hl.balanced with ⟨after', rfl, he'⟩ | ⟨before', rfl, he'⟩
    · obtain ⟨s, hs, hy⟩ := ihl he'
      rw [strip_append, strip_symbol symbol, hr.strip_eq]
      exact ⟨s, .left hs, hy⟩
    · obtain ⟨s, hs, hy⟩ := ihr he'
      rw [strip_append, strip_symbol symbol, hl.strip_eq]
      exact ⟨s, .right hs, hy⟩
  | @enclosed lp rp bare us x hl hr h ih =>
    rcases he.of_enclosed hr h.balanced with ⟨rfl, rfl, rfl⟩ | ⟨before', after', rfl, rfl, he'⟩
    · exact ⟨x, .here x, h.strip_eq.symm⟩
    · obtain ⟨s, hs, hy⟩ := ih he'
      have last : strip [rp] = [] := strip_paren (.inr hr) []
      rw [strip_paren (.inl hl), strip_append, last, List.append_nil]
      exact ⟨s, hs, hy⟩

/-- A comparison that is not bare stands in parentheses. -/
theorem parenthesised (h : Phrase false us x) (hx : x.IsComparison) : Parenthesised us [] x [] := by
  generalize hb : false = bare at h
  cases h with
  | atom | signed => exact hx.elim
  | joined =>
    rw [isComparison_binary, ← hb] at hx
    cases hx
  | enclosed hl hr h =>
    exact ⟨[], _, [], ⟨_, _, hl, hr, h.balanced, rfl⟩, rfl, h.strip_eq, rfl⟩

/-- **A comparison that is an operand of a comparison stands in parentheses.** -/
theorem operands_parenthesised (h : Phrase bare us x) {op : BinaryOp} {l r : Tree}
    {front back : List Symbol} (ho : x.Occurs front (.binary op l r) back)
    (hc : (Tree.binary op l r).IsComparison) : OperandsParenthesised us front op l r back := by
  induction h generalizing front back with
  | atom => cases ho
  | @signed t s _ us x hs _ ih =>
    have ht : strip [t] = [s.op.symbol] := strip_symbol (symbol?_sign hs) []
    cases ho with
    | operand ho => simpa [ht] using (ih ho).extend [t] []
  | @joined t op' _ _ us vs l' r' ht hl hr apart ihl ihr =>
    have hback : strip (t :: vs) = op'.symbol :: r'.yield := by
      rw [strip_symbol (symbol?_binary ht), hr.strip_eq]
    have hfront : strip (us ++ [t]) = l'.yield ++ [op'.symbol] := by
      rw [strip_append, hl.strip_eq, strip_symbol (symbol?_binary ht), strip_nil]
    cases ho with
    | here =>
      -- the operands of the node itself are not bare
      obtain ⟨rfl, rfl⟩ := apart (isComparison_binary.mp hc)
      constructor
      · intro hcl
        simpa [hback] using (hl.parenthesised hcl).extend [] (t :: vs)
      · intro hcr
        have hright := (hr.parenthesised hcr).extend (us ++ [t]) []
        rw [hfront] at hright
        simpa using hright
    | left ho => simpa [hback] using (ihl ho).extend [] (t :: vs)
    | right ho =>
      have hright := (ihr ho).extend (us ++ [t]) []
      rw [hfront] at hright
      simpa using hright
  | @enclosed lp rp _ us x hlp hrp _ ih =>
    have hfront : strip [lp] = [] := strip_paren (.inl hlp) []
    have hback : strip [rp] = [] := strip_paren (.inr hrp) []
    simpa [hfront, hback] using (ih ho).extend [lp] [rp]

end Phrase

end SqlScript.Condition
