/-
SqlScript/Proofs/Condition/Reading.lean

Reading conditions, whatever their leaves are.

`Reading.treeAfter? r ts` is the tree of a text of which `r` has been read and the tokens
`ts` are to come.  Tokens *stand for* a tree (`StandFor`) if, wherever an operand is due,
they lead on as that tree does.  A number or a text stands for its literal; and since the
minus sign binds tighter than every infix operator, a minus sign in front of tokens that
stand for a tree makes tokens that stand for its negation (`StandFor.neg`), whatever they
are surrounded by.

The machine never looks into a tree: putting other leaves into its trees (`Tree.graft`)
commutes with completing frames, and so with every step behind an operand
(`stepOperator_graft`).

A condition with holes is read as usual, each hole being a literal whose value marks it
(`hole`).  Filling the holes of a tree (`Tree.fill`) puts other leaves into it, so it commutes
with every step of reading (`step?_fill`).
-/
import SqlScript.Proofs.Condition.Lexing
import SqlScript.Condition.Parser

namespace SqlScript.Condition

/-! ### The tree of what is to come -/

/-- The tree of a text, of which something has been read and tokens are to come. -/
def Reading.treeAfter? (r : Reading) (ts : List Token) : Option Tree :=
  match r.run ts with
  | .ok r' => r'.tree?
  | .error _ => none

namespace Reading

theorem treeAfter?_nil (r : Reading) : r.treeAfter? [] = r.tree? := rfl

theorem treeAfter?_cons (r : Reading) (t : Token) (ts : List Token) :
    r.treeAfter? (t :: ts) = (r.step? t).bind fun next => next.treeAfter? ts := by
  rw [treeAfter?, run]
  rcases r.step? t with - | next <;> rfl

theorem step?_unplaced (r : Reading) (t : Token) : r.step? t.unplaced = r.step? t := rfl

theorem treeAfter?_unplaced (r : Reading) (ts : List Token) :
    r.treeAfter? (ts.map Token.unplaced) = r.treeAfter? ts := by
  induction ts generalizing r with
  | nil => rfl
  | cons t ts ih =>
    rw [List.map_cons, treeAfter?_cons, treeAfter?_cons, step?_unplaced]
    congr 1
    funext next
    exact ih next

theorem run_of_treeAfter? {r : Reading} {ts : List Token} {tree : Tree}
    (h : r.treeAfter? ts = some tree) : ∃ r', r.run ts = .ok r' ∧ r'.tree? = some tree := by
  rw [treeAfter?] at h
  split at h
  · rename_i r' hr
    exact ⟨r', hr, h⟩
  · cases h

end Reading

/-- A text is read as the tree of its tokens. -/
theorem parse_of_lexesTo {text : String} {ts : List Token} {tree : Tree}
    (hl : LexesTo text.toList ts) (ht : Reading.treeAfter? {} ts = some tree) :
    parse text = .ok tree := by
  obtain ⟨hts, hend⟩ := hl 0
  rw [← hts, Reading.treeAfter?_unplaced] at ht
  obtain ⟨r, hr, hrt⟩ := Reading.run_of_treeAfter? ht
  simp only [parse, lex, hr, hend, hrt]

/-! ### Tokens that stand for a tree -/

/-- Where an operand is due, the tokens lead on as the tree does. -/
def StandFor (us : List Token) (tree : Tree) : Prop :=
  ∀ stack ts, Reading.treeAfter? ⟨stack, none⟩ (us ++ ts) =
    Reading.treeAfter? ⟨stack, some tree⟩ ts

namespace StandFor

theorem atom {t : Token} {v : Value} (h : t.atom? = some v) : StandFor [t] (.literal v) := by
  intro stack ts
  rw [List.singleton_append, Reading.treeAfter?_cons]
  show ((stepOperand stack t).bind fun next => next.treeAfter? ts) = _
  rw [stepOperand, h]
  rfl

theorem level_lt_minus (op : BinaryOp) : op.level < Sign.minus.level := by
  cases op with
  | arith a => cases a <;> decide
  | _ => simp [BinaryOp.level, Sign.level]

/-- A minus sign takes the operand behind it and nothing more. -/
theorem treeAfter?_minus (stack : List Frame) (tree : Tree) (ts : List Token) :
    Reading.treeAfter? ⟨.sign .minus :: stack, some tree⟩ ts =
      Reading.treeAfter? ⟨stack, some (.unary .neg tree)⟩ ts := by
  -- every infix operator completes the minus sign first
  have reduce (op : BinaryOp) :
      reduce? op (.sign .minus :: stack) tree = reduce? op stack (.unary .neg tree) := by
    rw [reduce?]
    simp only [Frame.yields?, decide_eq_true (level_lt_minus op)]
    rfl
  rcases ts with - | ⟨t, ts⟩
  · rfl
  -- whatever comes next, the two machines are in the same state after it
  · rw [Reading.treeAfter?_cons, Reading.treeAfter?_cons]
    congr 1
    show stepOperator (.sign .minus :: stack) tree t = stepOperator stack (.unary .neg tree) t
    rw [stepOperator, stepOperator]
    split
    · rw [reduce]
    · rfl

/-- **A minus sign in front of an operand makes an operand**, whatever surrounds it. -/
theorem neg {us : List Token} {tree : Tree} (h : StandFor us tree) :
    StandFor (Lexeme.minus.token :: us) (.unary .neg tree) := by
  intro stack ts
  rw [List.cons_append, Reading.treeAfter?_cons, ← treeAfter?_minus]
  exact h (.sign .minus :: stack) ts

end StandFor

/-! ### Other leaves -/

/-- A condition with trees in the places of its literals. -/
def Tree.graft (f : Value → Tree) : Tree → Tree
  | .literal v => f v
  | .unary op t => .unary op (t.graft f)
  | .binary op left right => .binary op (left.graft f) (right.graft f)
  | .stray v => .stray v

/-- What waits for an operand, with trees in the places of its literals. -/
def Frame.graft (f : Value → Tree) : Frame → Frame
  | .binary op left => .binary op (left.graft f)
  | .sign s => .sign s
  | .paren => .paren

/-- What has been read, with trees in the places of its literals. -/
def Reading.graft (f : Value → Tree) (r : Reading) : Reading :=
  ⟨r.stack.map (Frame.graft f), r.operand.map (Tree.graft f)⟩

section Graft

variable (f : Value → Tree)

@[simp] theorem Frame.yields?_graft (next : BinaryOp) (w : Frame) :
    (w.graft f).yields? next = w.yields? next := by
  cases w <;> rfl

@[simp] theorem Frame.complete_graft (w : Frame) (t : Tree) :
    (w.graft f).complete (t.graft f) = (w.complete t).graft f := by
  cases w <;> rfl

theorem reduce?_graft (next : BinaryOp) (stack : List Frame) (t : Tree) :
    reduce? next (stack.map (Frame.graft f)) (t.graft f) =
      (reduce? next stack t).map fun r => (r.1.map (Frame.graft f), r.2.graft f) := by
  induction stack generalizing t with
  | nil => rfl
  | cons w rest ih =>
    rw [List.map_cons, reduce?, reduce?, Frame.yields?_graft]
    rcases w.yields? next with - | - | -
    · rfl
    · rfl
    · show reduce? next (rest.map (Frame.graft f)) ((w.graft f).complete (t.graft f)) = _
      rw [Frame.complete_graft, ih]

theorem close?_graft (stack : List Frame) (t : Tree) :
    close? (stack.map (Frame.graft f)) (t.graft f) =
      (close? stack t).map fun r => (r.1.map (Frame.graft f), r.2.graft f) := by
  induction stack generalizing t with
  | nil => rfl
  | cons w rest ih =>
    rcases w with ⟨op, left⟩ | s | -
    · exact ih (.binary op left t)
    · exact ih (.unary s.op t)
    · rfl

theorem finish?_graft (stack : List Frame) (t : Tree) :
    finish? (stack.map (Frame.graft f)) (t.graft f) = (finish? stack t).map (Tree.graft f) := by
  induction stack generalizing t with
  | nil => rfl
  | cons w rest ih =>
    rcases w with ⟨op, left⟩ | s | -
    · exact ih (.binary op left t)
    · exact ih (.unary s.op t)
    · rfl

/-- **Behind an operand reading does not look into trees.** -/
theorem stepOperator_graft (stack : List Frame) (tree : Tree) (t : Token) :
    stepOperator (stack.map (Frame.graft f)) (tree.graft f) t =
      (stepOperator stack tree t).map (Reading.graft f) := by
  rw [stepOperator, stepOperator]
  rcases t.kind.binary? with - | op
  · by_cases hp : t.kind = .rightParen
    · simp only [if_pos hp, close?_graft, Option.map_map]
      rfl
    · simp only [if_neg hp]
      rfl
  · simp only [reduce?_graft, Option.map_map]
    rfl

theorem Reading.tree?_graft (r : Reading) : (r.graft f).tree? = r.tree?.map (Tree.graft f) := by
  obtain ⟨stack, operand⟩ := r
  rcases operand with - | t
  · rfl
  · exact finish?_graft f stack t

end Graft

/-! ### Tokens that reading does not tell apart -/

/-- Two tokens are operands whose values have the same tree in their place, or they are of the
same kind and no operands. -/
inductive Token.Matches (f : Value → Tree) (t u : Token) : Prop
  | atoms {v w : Value} (ht : t.atom? = some v) (hu : u.atom? = some w) (same : f v = f w)
  | kinds (ht : t.atom? = none) (same : t.kind = u.kind)

theorem Token.atom?_of_kind {t u : Token} (h : t.kind = u.kind) :
    t.atom?.isSome = u.atom?.isSome := by
  rw [Token.atom?, Token.atom?, h]
  split <;> rfl

/-- An operand is no operator and closes no parenthesis. -/
theorem Token.role_of_atom {t : Token} {v : Value} (h : t.atom? = some v) :
    t.kind.binary? = none ∧ t.kind ≠ .rightParen := by
  obtain ⟨kind, value, pos⟩ := t
  cases kind <;> cases h <;> exact ⟨rfl, nofun⟩

section Matching

variable {f : Value → Tree} {t u : Token}

theorem stepOperand_matches {stack stack' : List Frame}
    (frames : stack.map (Frame.graft f) = stack'.map (Frame.graft f)) (h : t.Matches f u) :
    (stepOperand stack t).map (Reading.graft f) = (stepOperand stack' u).map (Reading.graft f) := by
  rw [stepOperand, stepOperand]
  cases h with
  | atoms ht hu same => simp [ht, hu, Reading.graft, Tree.graft, frames, same]
  | kinds ht same =>
    have hu : u.atom? = none := by
      have hsome := Token.atom?_of_kind same
      rw [ht] at hsome
      simpa using hsome.symm
    rw [ht, hu, ← same]
    rcases t.kind.sign? with - | s
    · by_cases hp : t.kind = .leftParen
      · simp [hp, Reading.graft, Frame.graft, frames]
      · simp [hp]
    · simp [Reading.graft, Frame.graft, frames]

theorem stepOperator_matches (h : t.Matches f u) (stack : List Frame) (x : Tree) :
    stepOperator stack x t = stepOperator stack x u := by
  rw [stepOperator, stepOperator]
  cases h with
  | atoms ht hu same =>
    obtain ⟨hbinary, hparen⟩ := Token.role_of_atom ht
    obtain ⟨hbinary', hparen'⟩ := Token.role_of_atom hu
    rw [hbinary, hbinary', if_neg hparen, if_neg hparen']
  | kinds ht same => rw [same]

/-- **Reading goes on alike** from readings that differ in their leaves only, over tokens that
are not told apart. -/
theorem Reading.step?_matches {r s : Reading} (hr : r.graft f = s.graft f) (h : t.Matches f u) :
    (r.step? t).map (Reading.graft f) = (s.step? u).map (Reading.graft f) := by
  obtain ⟨stack, operand⟩ := r
  obtain ⟨stack', operand'⟩ := s
  obtain ⟨frames, operands⟩ := Reading.mk.inj hr
  rcases operand with - | x <;> rcases operand' with - | y
  · exact stepOperand_matches frames h
  · cases operands
  · cases operands
  · show (stepOperator stack x t).map _ = (stepOperator stack' y u).map _
    rw [← stepOperator_graft, ← stepOperator_graft, frames, Option.some.inj operands,
      stepOperator_matches h]

end Matching

/-! ### Holes -/

/-- The value that marks a hole.  No lexeme has a list as its value. -/
def hole (i : Nat) : Value := .list [.int i]

/-- The hole that a value marks. -/
def holeIndex? : Value → Option Nat
  | .list [.int i] => some i.toNat
  | _ => none

theorem tokenValue_not_hole {kind : Kind} {text : List Char} {v : Value}
    (h : tokenValue kind text = .ok v) : holeIndex? v = none := by
  unfold tokenValue at h
  split at h
  · split at h <;> cases h
    rfl
  · cases h
    rfl
  · cases h
    rfl
  · cases h
    rfl

/-- No lexeme is a hole. -/
theorem Lexeme.atom_not_hole (l : Lexeme) {v : Value} (h : l.token.atom? = some v) :
    holeIndex? v = none := by
  have value : holeIndex? l.token.value = none := tokenValue_not_hole l.valued
  unfold Token.atom? at h
  split at h <;> cases h
  -- numbers, texts and words have the value of the lexeme, the other operands one of their own
  case h_1 | h_2 | h_3 | h_4 => exact value
  case h_5 | h_6 | h_7 => rfl

/-- A condition with trees put into its holes. -/
def Tree.fill (leaves : List Tree) : Tree → Tree
  | .literal v =>
    match holeIndex? v with
    | some i => leaves.getD i (.literal v)
    | none => .literal v
  | .unary op t => .unary op (t.fill leaves)
  | .binary op left right => .binary op (left.fill leaves) (right.fill leaves)
  | .stray v => .stray v

/-- What waits for an operand, with trees put into its holes. -/
def Frame.fill (leaves : List Tree) : Frame → Frame
  | .binary op left => .binary op (left.fill leaves)
  | .sign s => .sign s
  | .paren => .paren

/-- What has been read, with trees put into its holes. -/
def Reading.fill (leaves : List Tree) (r : Reading) : Reading :=
  ⟨r.stack.map (Frame.fill leaves), r.operand.map (Tree.fill leaves)⟩

section Fill

variable (leaves : List Tree)

theorem Tree.fill_literal {v : Value} (h : holeIndex? v = none) :
    (Tree.literal v).fill leaves = .literal v := by
  rw [Tree.fill, h]

theorem Tree.fill_hole {i : Nat} {t : Tree} (h : leaves[i]? = some t) :
    (Tree.literal (hole i)).fill leaves = t := by
  show leaves.getD i (.literal (hole i)) = t
  rw [List.getD_eq_getElem?_getD, h, Option.getD_some]

/-- The tree that a literal is filled with. -/
def leafOf (v : Value) : Tree := (Tree.literal v).fill leaves

theorem Tree.fill_eq_graft (t : Tree) : t.fill leaves = t.graft (leafOf leaves) := by
  induction t with
  | literal v => rfl
  | unary op t ih => rw [Tree.fill, Tree.graft, ih]
  | binary op left right ihl ihr => rw [Tree.fill, Tree.graft, ihl, ihr]
  | stray v => rfl

theorem Frame.fill_eq_graft (w : Frame) : w.fill leaves = w.graft (leafOf leaves) := by
  rcases w with ⟨op, left⟩ | s | -
  · rw [Frame.fill, Frame.graft, Tree.fill_eq_graft]
  · rfl
  · rfl

namespace Reading

theorem fill_eq_graft (r : Reading) : r.fill leaves = r.graft (leafOf leaves) := by
  rw [fill, graft, funext (Frame.fill_eq_graft leaves), funext (Tree.fill_eq_graft leaves)]

theorem tree?_fill (r : Reading) : (r.fill leaves).tree? = r.tree?.map (Tree.fill leaves) := by
  rw [fill_eq_graft, tree?_graft, funext (Tree.fill_eq_graft leaves)]

/-- **Filling holes commutes with reading a token**, unless the token is a hole. -/
theorem step?_fill (r : Reading) {t : Token} (h : ∀ v, t.atom? = some v → holeIndex? v = none) :
    (r.fill leaves).step? t = (r.step? t).map (Reading.fill leaves) := by
  obtain ⟨stack, operand⟩ := r
  rcases operand with - | tree
  -- an operand is due
  · show stepOperand (stack.map (Frame.fill leaves)) t = (stepOperand stack t).map _
    rw [stepOperand, stepOperand]
    rcases ha : t.atom? with - | v
    · rcases t.kind.sign? with - | s
      · by_cases hp : t.kind = .leftParen
        · simp only [if_pos hp]
          rfl
        · simp only [if_neg hp]
          rfl
      · rfl
    · show some _ = some _
      rw [Reading.fill, Option.map_some, Tree.fill_literal leaves (h v ha)]
  -- an operator or a closing parenthesis is due
  · rw [fill_eq_graft, funext (fill_eq_graft leaves)]
    exact stepOperator_graft (leafOf leaves) stack tree t

end Reading

end Fill

end SqlScript.Condition
