/-
SqlScript/Proofs/Condition/Printing.lean

Reading a condition inverts writing it.

A tree is written as words with single spaces between them (`Written`).  Every operator
has a level, given by a table, and an operand stands in parentheses only if its level asks
for them.  There is some freedom: connectives have two spellings, `not` binds looser than
`!`, and letters may be of either case.  Whatever is chosen, the text is read as the tree
(`parse_written`).

Along the tokens the argument is this.  While an operand is read, the frames below it wait:
no operator in it is loose enough to complete them (`Waits`).  What is left on top of them
once the operand has been read are frames at least as tight as the operand itself, and
completing them makes the operand (`Spine`).  Whatever ends the operand completes them all.
-/
import Mathlib
import SqlScript.Proofs.Condition.Frames
import SqlScript.Proofs.Condition.Reading

namespace SqlScript.Condition

/-! ### Writing trees -/

/-- The infix operators as they are written, with their levels. -/
def operators : List (String × Nat × BinaryOp) :=
  [("or", 1, .or), ("||", 1, .or), ("and", 2, .and), ("&&", 2, .and),
   ("==", 4, .number .eq), ("!=", 4, .number .ne), ("<", 4, .number .lt),
   ("<=", 4, .number .le), (">", 4, .number .gt), (">=", 4, .number .ge),
   ("eq", 4, .text .eq), ("ne", 4, .text .ne), ("lt", 4, .text .lt),
   ("le", 4, .text .le), ("gt", 4, .text .gt), ("ge", 4, .text .ge),
   ("+", 5, .arith .add), ("-", 5, .arith .sub), (".", 5, .concat),
   ("*", 6, .arith .mul), ("/", 6, .arith .div), ("%", 6, .arith .mod)]

/-- The prefix operators as they are written, with their levels. -/
def signs : List (String × Nat × UnaryOp) := [("not", 3, .not), ("!", 7, .not), ("-", 7, .neg)]

/-- A word that is a symbol in any case of letters. -/
def Cased (symbol : String) (word : List Char) : Prop := word.map Char.toLower = symbol.toList

instance (symbol : String) (word : List Char) : Decidable (Cased symbol word) :=
  inferInstanceAs (Decidable (_ = _))

/-- Words in parentheses, if they are needed. -/
def enclosed (needed : Prop) [Decidable needed] (words : List (List Char)) : List (List Char) :=
  if needed then ['('] :: (words ++ [[')']]) else words

/-- A tree of a level is written as words.  A left operand stands in parentheses if it is
looser than its operator or, under a comparison, as loose; a right operand if it is not
tighter than its operator; the operand of a prefix operator if it is looser. -/
inductive Written : Tree → Nat → List (List Char) → Prop
  | null {symbol : String} {word : List Char} (hs : symbol ∈ ["null", "undef"])
      (hw : Cased symbol word) : Written (.literal .null) 8 [word]
  | int {n : Nat} (h : Text.digitCount n ≤ 4300) :
      Written (.literal (.int n)) 8 [Text.natDigits n]
  | text (s : String) : Written (.literal (.text s)) 8 [quote s.toList]
  | signed {symbol : String} {level inner : Nat} {op : UnaryOp} {t : Tree} {word : List Char}
      {words : List (List Char)} (hs : (symbol, level, op) ∈ signs) (hw : Cased symbol word)
      (h : Written t inner words) :
      Written (.unary op t) level (word :: enclosed (inner < level) words)
  | joined {symbol : String} {level l r : Nat} {op : BinaryOp} {left right : Tree}
      {word : List Char} {us vs : List (List Char)} (ho : (symbol, level, op) ∈ operators)
      (hw : Cased symbol word) (hl : Written left l us) (hr : Written right r vs) :
      Written (.binary op left right) level
        (enclosed (l < level ∨ l = level ∧ level = 4) us ++ word :: enclosed (r ≤ level) vs)

/-- The trees that can be written: of absent values, texts, and natural numbers that are
not too long, with any known operators. -/
def Tree.IsPlain : Tree → Prop
  | .literal .null => True
  | .literal (.int n) => 0 ≤ n ∧ Text.digitCount n.toNat ≤ 4300
  | .literal (.text _) => True
  | .literal _ => False
  | .unary _ t => t.IsPlain
  | .binary op left right => (∀ name, op ≠ .other name) ∧ left.IsPlain ∧ right.IsPlain
  | .stray _ => False

theorem mem_operators {op : BinaryOp} (h : ∀ name, op ≠ .other name) :
    (op.name, op.level, op) ∈ operators := by
  cases op with
  | number r => cases r <;> decide
  | text r => cases r <;> decide
  | arith a => cases a <;> decide
  | or | and | concat => decide
  | other name => exact absurd rfl (h name)

/-- The levels of the table are those of the reader. -/
theorem operators_level {symbol : String} {level : Nat} {op : BinaryOp}
    (h : (symbol, level, op) ∈ operators) :
    op.level = level ∧ 1 ≤ level ∧ level < 8 ∧ (op.isComparison = true → level = 4) := by
  have table : ∀ e ∈ operators, e.2.2.level = e.2.1 ∧ 1 ≤ e.2.1 ∧ e.2.1 < 8 ∧
      (e.2.2.isComparison = true → e.2.1 = 4) := by decide
  exact table _ h

/-- Every tree that is plain can be written. -/
theorem exists_written {t : Tree} (h : t.IsPlain) : ∃ level words, Written t level words := by
  induction t with
  | literal v =>
    cases v with
    | null =>
      have word : Cased "null" "null".toList := by decide
      exact ⟨8, _, .null List.mem_cons_self word⟩
    | int n =>
      obtain ⟨n, rfl⟩ := Int.eq_ofNat_of_zero_le h.1
      exact ⟨8, _, .int h.2⟩
    | text s => exact ⟨8, _, .text s⟩
    | _ => exact h.elim
  | unary op t ih =>
    obtain ⟨inner, words, ht⟩ := ih h
    cases op with
    | not =>
      have word : Cased "not" "not".toList := by decide
      exact ⟨3, _, .signed (by decide) word ht⟩
    | neg =>
      have word : Cased "-" "-".toList := by decide
      exact ⟨7, _, .signed (by decide) word ht⟩
  | binary op left right ihl ihr =>
    obtain ⟨l, us, hl⟩ := ihl h.2.1
    obtain ⟨r, vs, hr⟩ := ihr h.2.2
    have lower : ∀ e ∈ operators, Cased e.1 e.1.toList := by decide
    have ho := mem_operators h.1
    exact ⟨op.level, _, .joined ho (lower _ ho) hl hr⟩
  | stray => exact h.elim

/-! ### Words -/

theorem wordKind_toLower (word : List Char) : wordKind (word.map Char.toLower) = wordKind word := by
  have same : (word.map Char.toLower).map Char.toLower = word.map Char.toLower := by
    rw [List.map_map]
    exact List.map_congr_left fun c _ => Char.toLower_toLower_eq_toLower c
  rw [wordKind, wordKind, same]

theorem front?_letters {word : List Char} (hne : word ≠ []) (h : ∀ c ∈ word, c.isAlpha = true) :
    front? word = some (wordKind word, word.length) := by
  obtain ⟨c, cs, rfl⟩ := List.exists_cons_of_ne_nil hne
  have hc : isWordStart c = true := by simp [isWordStart, h c List.mem_cons_self]
  have hcs : cs.takeWhile isWordChar = cs := by
    rw [List.takeWhile_eq_self_iff]
    intro d hd
    simp [isWordChar, Char.isAlphanum, h d (List.mem_cons_of_mem c hd)]
  rw [List.length_cons, front?_cons, lexeme?_name hc, hcs]

/-- A symbol of letters alone or of no letters. -/
def isUniform (symbol : String) : Bool :=
  symbol.toList.all Char.isAlpha || symbol.toList.all fun c => !c.isAlpha

/-- Lexing a word does not depend on the case of its letters. -/
theorem front?_cased {symbol : String} {word : List Char} (h : Cased symbol word)
    (uniform : isUniform symbol = true) : front? word = front? symbol.toList := by
  rw [isUniform, ← h, List.all_map, List.all_map, Bool.or_eq_true, List.all_eq_true,
    List.all_eq_true] at uniform
  rw [← h]
  rcases uniform with letters | others
  · have hw : ∀ c ∈ word, c.isAlpha = true := by simpa using letters
    by_cases hne : word = []
    · rw [hne]
      rfl
    rw [front?_letters hne hw, front?_letters (by simpa using hne) (by simpa using hw),
      wordKind_toLower, List.length_map]
  -- a character that is no letter has no other case
  · have hw : ∀ c ∈ word, c.isAlpha = false := by simpa using others
    have same : word.map Char.toLower = word := by
      refine (List.map_congr_left ?_).trans (List.map_id word)
      intro c hc
      have hother := hw c hc
      rw [Char.isAlpha, Bool.or_eq_false_iff] at hother
      exact Char.toLower_eq_of_not_isUpper (by simp [hother.1])
    rw [same]

/-- A word that is a symbol in any case of letters is a lexeme with the role of the
symbol. -/
theorem lexeme_of_cased {α : Type} (role : Kind → Option α) {a : α} {symbol : String}
    {word : List Char} (h : Cased symbol word) (uniform : isUniform symbol = true)
    (front : (front? symbol.toList).map (fun f => (role f.1, f.2)) =
      some (some a, symbol.toList.length))
    (valued : ∀ kind, role kind = some a →
      tokenValue kind word = .ok (.text (String.ofList word))) :
    ∃ l : Lexeme, l.text = word ∧ role l.kind = some a := by
  obtain ⟨⟨kind, n⟩, hfront, hkind⟩ := Option.map_eq_some_iff.mp front
  obtain ⟨hrole, rfl⟩ := Prod.mk.inj hkind
  have whole : front? word = some (kind, word.length) := by
    rw [front?_cased h uniform, hfront, ← h, List.length_map]
  exact ⟨⟨word, kind, _, whole, valued kind hrole⟩, rfl, hrole⟩

theorem operator_lexeme {symbol : String} {level : Nat} {op : BinaryOp} {word : List Char}
    (ho : (symbol, level, op) ∈ operators) (hw : Cased symbol word) :
    ∃ l : Lexeme, l.text = word ∧ l.kind.binary? = some op := by
  have table : ∀ e ∈ operators, isUniform e.1 = true ∧
      (front? e.1.toList).map (fun f => (f.1.binary?, f.2)) =
        some (some e.2.2, e.1.toList.length) := by
    decide
  refine lexeme_of_cased Kind.binary? hw (table _ ho).1 (table _ ho).2 ?_
  intro kind hop
  cases kind <;> first | rfl | cases hop

theorem sign_lexeme {symbol : String} {level : Nat} {op : UnaryOp} {word : List Char}
    (hs : (symbol, level, op) ∈ signs) (hw : Cased symbol word) :
    ∃ (l : Lexeme) (s : Sign), l.text = word ∧ l.kind.sign? = some s ∧ s.level = level ∧
      s.op = op := by
  have table : ∀ e ∈ signs, isUniform e.1 = true ∧
      (front? e.1.toList).map (fun f => (f.1.sign?.map fun s => (s.level, s.op), f.2)) =
        some (some e.2, e.1.toList.length) := by
    decide
  obtain ⟨l, ht, hrole⟩ : ∃ l : Lexeme, l.text = word ∧
      (l.kind.sign?.map fun s => (s.level, s.op)) = some (level, op) := by
    refine lexeme_of_cased (fun kind => kind.sign?.map fun s => (s.level, s.op)) hw
      (table _ hs).1 (table _ hs).2 ?_
    intro kind hsign
    cases kind <;> first | rfl | cases hsign
  obtain ⟨s, hsign, hlevel⟩ := Option.map_eq_some_iff.mp hrole
  obtain ⟨rfl, rfl⟩ := Prod.mk.inj hlevel
  exact ⟨l, s, ht, hsign, rfl, rfl⟩

theorem null_lexeme {symbol : String} {word : List Char} (hs : symbol ∈ ["null", "undef"])
    (hw : Cased symbol word) : ∃ l : Lexeme, l.text = word ∧ l.token.atom? = some .null := by
  have table : ∀ e ∈ ["null", "undef"], isUniform e = true ∧
      (front? e.toList).map (fun f => (some f.1, f.2)) = some (some .nullWord, e.toList.length) := by
    decide
  obtain ⟨l, ht, hkind⟩ : ∃ l : Lexeme, l.text = word ∧ some l.kind = some .nullWord := by
    refine lexeme_of_cased some hw (table _ hs).1 (table _ hs).2 ?_
    rintro kind ⟨⟩
    rfl
  refine ⟨l, ht, ?_⟩
  rw [Token.atom?, show l.token.kind = .nullWord from Option.some.inj hkind]

theorem leftParen_lexeme : ∃ l : Lexeme, l.text = ['('] ∧ l.token.kind = .leftParen :=
  ⟨⟨['('], .leftParen, .text "(", by decide, rfl⟩, rfl, rfl⟩

theorem rightParen_lexeme : ∃ l : Lexeme, l.text = [')'] ∧ l.token.kind = .rightParen :=
  ⟨⟨[')'], .rightParen, .text ")", by decide, rfl⟩, rfl, rfl⟩

/-- Lexemes with single spaces between them are lexed to their tokens. -/
theorem spaced_lexes (ls : List Lexeme) :
    LexesTo ([' '].intercalate (ls.map Lexeme.text)) (ls.map Lexeme.token) := by
  induction ls with
  | nil => exact .nil
  | cons l ls ih =>
    rcases ls with - | ⟨l', ls⟩
    · have ended : Stops [] := nofun
      simpa using l.lexesTo (l.front?_append ended) .nil
    · have space : Stops (' ' :: [' '].intercalate ((l' :: ls).map Lexeme.text)) := by
        rintro c ⟨⟩
        decide
      simpa using l.lexesTo (l.front?_append space) (.gap rfl ih)

/-! ### One token -/

section Tokens

variable {t : Token} {stack rest : List Frame} {x x' : Tree}

theorem treeAfter?_sign {s : Sign} (h : t.kind.sign? = some s) (ts : List Token) :
    Reading.treeAfter? ⟨stack, none⟩ (t :: ts) =
      Reading.treeAfter? ⟨.sign s :: stack, none⟩ ts := by
  have step : Reading.step? ⟨stack, none⟩ t = some ⟨.sign s :: stack, none⟩ := by
    obtain ⟨kind, value, pos⟩ := t
    cases kind with
    | arith a =>
      cases a with
      | sub =>
        cases h
        rfl
      | _ => cases h
    | _ => cases h <;> rfl
  rw [Reading.treeAfter?_cons, step, Option.bind_some]

theorem treeAfter?_open (h : t.kind = .leftParen) (ts : List Token) :
    Reading.treeAfter? ⟨stack, none⟩ (t :: ts) =
      Reading.treeAfter? ⟨.paren :: stack, none⟩ ts := by
  have step : Reading.step? ⟨stack, none⟩ t = some ⟨.paren :: stack, none⟩ := by
    obtain ⟨kind, value, pos⟩ := t
    cases h
    rfl
  rw [Reading.treeAfter?_cons, step, Option.bind_some]

theorem treeAfter?_operator {op : BinaryOp} (h : t.kind.binary? = some op)
    (hr : reduce? op stack x = some (rest, x')) (ts : List Token) :
    Reading.treeAfter? ⟨stack, some x⟩ (t :: ts) =
      Reading.treeAfter? ⟨.binary op x' :: rest, none⟩ ts := by
  have step : Reading.step? ⟨stack, some x⟩ t = some ⟨.binary op x' :: rest, none⟩ := by
    show stepOperator stack x t = _
    rw [stepOperator, h]
    show (reduce? op stack x).map _ = _
    rw [hr]
    rfl
  rw [Reading.treeAfter?_cons, step, Option.bind_some]

theorem treeAfter?_close (h : t.kind = .rightParen) (hc : close? stack x = some (rest, x'))
    (ts : List Token) :
    Reading.treeAfter? ⟨stack, some x⟩ (t :: ts) = Reading.treeAfter? ⟨rest, some x'⟩ ts := by
  have step : Reading.step? ⟨stack, some x⟩ t = some ⟨rest, some x'⟩ := by
    obtain ⟨kind, value, pos⟩ := t
    cases h
    show (close? stack x).map _ = _
    rw [hc]
    rfl
  rw [Reading.treeAfter?_cons, step, Option.bind_some]

end Tokens

/-! ### Reading operands -/

/-- How tightly a frame binds. -/
def Frame.level : Frame → Nat
  | .binary op _ => op.level
  | .sign s => s.level
  | .paren => 0

/-- No infix operator that is at least as tight as a level completes anything of a stack. -/
def Waits (level : Nat) (stack : List Frame) : Prop :=
  ∀ op : BinaryOp, level ≤ op.level → ∀ f ∈ stack.head?, f.yields? op = some false

theorem waits_paren (level : Nat) (stack : List Frame) : Waits level (.paren :: stack) := by
  rintro op - f ⟨⟩
  rfl

theorem waits_sign {s : Sign} {level : Nat} (h : s.level ≤ level) (stack : List Frame) :
    Waits level (.sign s :: stack) := by
  rintro op hop f ⟨⟩
  have loose : ¬ op.level < s.level := by omega
  rw [Frame.yields?, decide_eq_false loose]

theorem waits_binary {op : BinaryOp} {level : Nat} (h : op.level < level) (left : Tree)
    (stack : List Frame) : Waits level (.binary op left :: stack) := by
  rintro next hnext f ⟨⟩
  have apart : ¬ (op.level = next.level ∧ next.isComparison) := by omega
  have loose : ¬ next.level ≤ op.level := by omega
  rw [Frame.yields?, if_neg apart, decide_eq_false loose]

theorem level_ne_sign (op : BinaryOp) (s : Sign) : op.level ≠ s.level := by
  cases op with
  | arith a => cases a <;> cases s <;> decide
  | _ => cases s <;> simp [BinaryOp.level, Sign.level]

/-- A frame yields to an operator that is not tighter, unless both are comparisons. -/
theorem yields?_of_le {op : BinaryOp} {f : Frame} (hop : 1 ≤ op.level) (h : op.level ≤ f.level)
    (apart : op.isComparison = true → op.level < f.level) : f.yields? op = some true := by
  cases f with
  | binary op' left =>
    have hne : ¬ (op'.level = op.level ∧ op.isComparison) :=
      fun hc => absurd (apart hc.2) (by simp [Frame.level, hc.1])
    rw [Frame.yields?, if_neg hne, decide_eq_true (show op.level ≤ op'.level from h)]
  | sign s =>
    have tighter : op.level < s.level := Nat.lt_of_le_of_ne h (level_ne_sign op s)
    rw [Frame.yields?, decide_eq_true tighter]
  | paren => exact absurd (hop.trans h) (by decide)

/-- Frames at least as tight as a level that complete `x` to `t`. -/
structure Spine (level : Nat) (spine : List Frame) (x t : Tree) : Prop where
  tight : ∀ f ∈ spine, level ≤ f.level
  completes : completeAll spine x = t

namespace Spine

variable {level : Nat} {spine : List Frame} {x t : Tree}

theorem no_paren (h : Spine level spine x t) (hl : 1 ≤ level) : .paren ∉ spine :=
  fun hp => absurd (hl.trans (h.tight _ hp)) (by decide)

/-- A looser frame below a spine makes a spine of the looser level. -/
theorem concat {f : Frame} (h : Spine level spine x t) (hf : f.level ≤ level) :
    Spine f.level (spine ++ [f]) x (f.complete t) where
  tight := by
    intro g hg
    rcases List.mem_append.mp hg with hg | hg
    · exact hf.trans (h.tight g hg)
    · obtain rfl := List.mem_singleton.mp hg
      exact Nat.le_refl _
  completes := by
    rw [completeAll_append, h.completes]
    rfl

end Spine

/-- The tokens of an operand of a level: read on top of a stack that waits, they leave a
spine that completes the tree. -/
def ReadAs (level : Nat) (us : List Token) (t : Tree) : Prop :=
  ∀ stack, Waits level stack → ∃ spine x, Spine level spine x t ∧
    ∀ ts, Reading.treeAfter? ⟨stack, none⟩ (us ++ ts) =
      Reading.treeAfter? ⟨spine ++ stack, some x⟩ ts

/-- Tokens that stand for a tree are an operand of whatever level. -/
theorem StandFor.readAs {us : List Token} {t : Tree} (h : StandFor us t) (level : Nat) :
    ReadAs level us t :=
  fun stack _ => ⟨[], t, ⟨nofun, rfl⟩, h stack⟩

namespace ReadAs

variable {level inner l r : Nat} {us vs : List Token} {t left right : Tree}

/-- In parentheses an operand stands for its tree. -/
theorem enclosed {lp rp : Token} (hlp : lp.kind = .leftParen) (hrp : rp.kind = .rightParen)
    (h : ReadAs level us t) (hl : 1 ≤ level) : StandFor (lp :: (us ++ [rp])) t := by
  intro stack ts
  obtain ⟨spine, x, hspine, hread⟩ := h _ (waits_paren level stack)
  have closed : close? (spine ++ .paren :: stack) x = some (stack, t) := by
    rw [close?_append (hspine.no_paren hl), hspine.completes]
    rfl
  rw [List.cons_append, treeAfter?_open hlp, List.append_assoc, hread, List.singleton_append,
    treeAfter?_close hrp closed]

/-- A prefix operator in front of an operand that is not looser. -/
theorem signed {tok : Token} {s : Sign} (hs : tok.kind.sign? = some s) (h : ReadAs inner us t)
    (hl : s.level ≤ inner) : ReadAs s.level (tok :: us) (.unary s.op t) := by
  intro stack _
  obtain ⟨spine, x, hspine, hread⟩ := h _ (waits_sign hl stack)
  have longer : Spine s.level (spine ++ [.sign s]) x (.unary s.op t) :=
    hspine.concat (f := .sign s) hl
  refine ⟨_, x, longer, ?_⟩
  intro ts
  rw [List.cons_append, treeAfter?_sign hs, hread, List.append_assoc, List.singleton_append]

/-- An infix operator between a left operand that is not looser, and tighter under a
comparison, and a right operand that is tighter. -/
theorem joined {tok : Token} {op : BinaryOp} (ho : tok.kind.binary? = some op)
    (hop : 1 ≤ op.level) (hl : ReadAs l us left) (hr : ReadAs r vs right) (looser : op.level ≤ l)
    (apart : op.isComparison = true → op.level < l) (tighter : op.level < r) :
    ReadAs op.level (us ++ tok :: vs) (.binary op left right) := by
  intro stack waits
  obtain ⟨done, x, hdone, hleft⟩ := hl stack fun next hn => waits next (looser.trans hn)
  obtain ⟨spine, y, hspine, hright⟩ := hr _ (waits_binary tighter left stack)
  -- the operator completes the left operand and nothing below it
  have reduced : reduce? op (done ++ stack) x = some (stack, left) := by
    have yields : ∀ f ∈ done, f.yields? op = some true := by
      intro f hf
      have tight := hdone.tight f hf
      exact yields?_of_le hop (looser.trans tight) fun hc => (apart hc).trans_le tight
    rw [reduce?_append yields, hdone.completes]
    exact reduce?_stop (waits op (Nat.le_refl _)) left
  have longer : Spine op.level (spine ++ [.binary op left]) y (.binary op left right) :=
    hspine.concat (f := .binary op left) tighter.le
  refine ⟨_, y, longer, ?_⟩
  intro ts
  rw [List.append_assoc, hleft, List.cons_append, treeAfter?_operator ho reduced, hright,
    List.append_assoc, List.singleton_append]

end ReadAs

/-! ### Reading what is written -/

/-- Parentheses, if they are put, make an operand as tight as there is. -/
theorem enclosed_reads (needed : Prop) [Decidable needed] {level : Nat} {ls : List Lexeme}
    {words : List (List Char)} {t : Tree} (ht : ls.map Lexeme.text = words)
    (h : ReadAs level (ls.map Lexeme.token) t) (hl : 1 ≤ level) :
    ∃ ls' : List Lexeme, ls'.map Lexeme.text = enclosed needed words ∧
      ReadAs (if needed then 8 else level) (ls'.map Lexeme.token) t := by
  by_cases hn : needed
  · obtain ⟨lp, htl, hlp⟩ := leftParen_lexeme
    obtain ⟨rp, htr, hrp⟩ := rightParen_lexeme
    refine ⟨lp :: (ls ++ [rp]), ?_, ?_⟩
    · rw [enclosed, if_pos hn, ← ht]
      simp [htl, htr]
    · have stand := (h.enclosed hlp hrp hl).readAs 8
      rw [if_pos hn]
      simpa using stand
  · refine ⟨ls, ?_, ?_⟩
    · rw [enclosed, if_neg hn, ht]
    · rwa [if_neg hn]

/-- **What is written as a tree is read as an operand of its level.** -/
theorem Written.reads {t : Tree} {level : Nat} {words : List (List Char)}
    (h : Written t level words) : 1 ≤ level ∧
      ∃ ls : List Lexeme, ls.map Lexeme.text = words ∧ ReadAs level (ls.map Lexeme.token) t := by
  induction h with
  | null hs hw =>
    obtain ⟨l, ht, ha⟩ := null_lexeme hs hw
    exact ⟨by decide, [l], by simp [ht], (StandFor.atom ha).readAs 8⟩
  | @int n h => exact ⟨by decide, [.numeral n h], rfl, StandFor.readAs (.atom rfl) 8⟩
  | text s => exact ⟨by decide, [.quoted s], rfl, StandFor.readAs (.atom rfl) 8⟩
  | @signed symbol level inner op t word words hs hw _ ih =>
    obtain ⟨hinner, ls, ht, hread⟩ := ih
    obtain ⟨l, s, hword, hsign, rfl, rfl⟩ := sign_lexeme hs hw
    obtain ⟨ls', ht', hread'⟩ := enclosed_reads (inner < s.level) ht hread hinner
    have bounds : 1 ≤ s.level ∧ s.level ≤ 8 := by cases s <;> decide
    refine ⟨bounds.1, l :: ls', by simp [hword, ht'], hread'.signed hsign ?_⟩
    split <;> omega
  | @joined symbol level l r op left right word us vs ho hw _ _ ihl ihr =>
    obtain ⟨hl, ls, htl, hreadl⟩ := ihl
    obtain ⟨hr, rs, htr, hreadr⟩ := ihr
    obtain ⟨o, hword, hop⟩ := operator_lexeme ho hw
    obtain ⟨rfl, hlow, hhigh, hcomp⟩ := operators_level ho
    obtain ⟨ls', htl', hreadl'⟩ :=
      enclosed_reads (l < op.level ∨ l = op.level ∧ op.level = 4) htl hreadl hl
    obtain ⟨rs', htr', hreadr'⟩ := enclosed_reads (r ≤ op.level) htr hreadr hr
    refine ⟨hlow, ls' ++ o :: rs', by simp [hword, htl', htr'], ?_⟩
    rw [List.map_append, List.map_cons]
    refine hreadl'.joined hop hlow hreadr' ?_ ?_ ?_
    · split <;> omega
    · intro hc
      have hlevel := hcomp hc
      split <;> omega
    · split <;> omega

/-- **Reading inverts writing.**  Every plain tree can be written, and however it is
written, with whatever spelling and case of its operators and with parentheses only where
the levels ask for them, the text is read as exactly that tree. -/
theorem parse_written {t : Tree} (plain : t.IsPlain) :
    (∃ level words, Written t level words) ∧
      ∀ level words, Written t level words →
        parse (String.ofList ([' '].intercalate words)) = .ok t := by
  refine ⟨exists_written plain, ?_⟩
  intro level words h
  obtain ⟨hl, ls, rfl, hread⟩ := h.reads
  have lexes := spaced_lexes ls
  rw [← String.toList_ofList (l := [' '].intercalate (ls.map Lexeme.text))] at lexes
  refine parse_of_lexesTo lexes ?_
  -- the whole text is an operand with nothing below it
  obtain ⟨spine, x, hspine, hafter⟩ := hread [] nofun
  have whole := hafter []
  rw [List.append_nil] at whole
  rw [whole, Reading.treeAfter?_nil]
  show finish? (spine ++ []) x = some t
  rw [finish?_append (hspine.no_paren hl), hspine.completes]
  rfl

/-- A comparison with a comparison on its left and a negation on its right. -/
def nestedComparison : Tree :=
  .binary (.text .le) (.binary (.number .eq) (.literal (.int 1)) (.literal (.text "it's")))
    (.unary .not (.literal .null))

/-- Words of it, with a word in mixed case. -/
def nestedComparisonWords : List (List Char) :=
  ["(", "1", "==", "'it\\'s'", ")", "Le", "!", "NULL"].map String.toList

theorem nestedComparison_written : Written nestedComparison 4 nestedComparisonWords := by
  have one : Written (.literal (.int (1 : Nat))) 8 ["1".toList] := .int (by decide)
  have its : Written (.literal (.text "it's")) 8 ["'it\\'s'".toList] := .text "it's"
  have absent : Written (.literal .null) 8 ["NULL".toList] :=
    .null List.mem_cons_self (by decide)
  have equal := Written.joined (show ("==", 4, .number .eq) ∈ operators by decide)
    (show Cased "==" "==".toList by decide) one its
  have negated := Written.signed (show ("!", 7, .not) ∈ signs by decide)
    (show Cased "!" "!".toList by decide) absent
  exact .joined (show ("le", 4, .text .le) ∈ operators by decide)
    (show Cased "le" "Le".toList by decide) equal negated

theorem parse_nestedComparison : nestedComparison.IsPlain ∧
    parse "( 1 == 'it\\'s' ) Le ! NULL" = .ok nestedComparison := by
  have short : Text.digitCount 1 ≤ 4300 := by decide
  have plain : nestedComparison.IsPlain := by
    simpa [nestedComparison, Tree.IsPlain] using short
  have text : String.ofList ([' '].intercalate nestedComparisonWords) =
      "( 1 == 'it\\'s' ) Le ! NULL" := by decide
  rw [← text]
  exact ⟨plain, (parse_written plain).2 4 _ nestedComparison_written⟩

end SqlScript.Condition
