/-
SqlScript/Proofs/Condition/Faults.lean

What can go wrong with a condition.

Reading a condition fails in its form, and evaluating it fails in an operator or at a
number beyond its limits.  Nothing else ends either of them (`contained_holds`), so a
guard that turns the first two into errors of its script leaves nothing but numbers.

An operator that is known fails in arithmetic alone, at a division by zero or at a number
(`fault_of_apply`).  So a condition that fails otherwise has an operator in it that is not
known, or a bare value in the place of a node (`fault_of_eval`).
-/
import SqlScript.Condition.Eval

namespace SqlScript

/-- The faults that conditions have. -/
def Fault.inCondition : Fault → Bool
  | .form _ | .evaluation _ | .number _ => true
  | _ => false

/-- The faults of arithmetic: divisions by zero, and numbers beyond their limits. -/
def Fault.isArithmetic : Fault → Bool
  | .evaluation .divisionByZero | .evaluation .modulusByZero | .number _ => true
  | _ => false

theorem Fault.inCondition_of_isArithmetic {f : Fault} (h : f.isArithmetic = true) :
    f.inCondition = true := by
  cases f with
  | evaluation e => rfl
  | number f => rfl
  | form e | crash message | longName path | damaged d => cases h

namespace Condition

/-- A computation that has no faults but those of conditions. -/
def Contained {α : Type} (x : Except Fault α) : Prop := ∀ f, x = .error f → f.inCondition = true

/-- A computation that has no faults but those of arithmetic. -/
def Arithmetical {α : Type} (x : Except Fault α) : Prop :=
  ∀ f, x = .error f → f.isArithmetic = true

variable {α : Type}

theorem contained_ok (a : α) : Contained (.ok a) := by
  intro f h
  cases h

theorem contained_error {f : Fault} (hf : f.inCondition = true) :
    Contained (.error f : Except Fault α) := by
  intro g h
  cases h
  exact hf

/-! ### Operators -/

theorem arithmetical_ok (a : α) : Arithmetical (.ok a) := by
  intro f h
  cases h

theorem arithmetical_error {f : Fault} (hf : f.isArithmetic = true) :
    Arithmetical (.error f : Except Fault α) := by
  intro g h
  cases h
  exact hf

theorem arithmetical_bothFloats (a b : Number) : Arithmetical (bothFloats a b) := by
  -- an integer that is too large is the only trouble, on either side
  cases a with
  | float x =>
    cases b with
    | float y => exact arithmetical_ok _
    | int n =>
      simp only [bothFloats]
      rcases Binary64.ofInt? n with - | y
      · exact arithmetical_error rfl
      · exact arithmetical_ok _
  | int m =>
    simp only [bothFloats]
    rcases Binary64.ofInt? m with - | x
    · exact arithmetical_error rfl
    cases b with
    | float y => exact arithmetical_ok _
    | int n =>
      simp only
      rcases Binary64.ofInt? n with - | y
      · exact arithmetical_error rfl
      · exact arithmetical_ok _

theorem arithmetical_intArith (op : Arith) (a b : Int) : Arithmetical (intArith op a b) := by
  cases op with
  | add | sub | mul | mod => exact arithmetical_ok _
  | div =>
    rw [intArith]
    rcases Binary64.quotient? a b with - | x
    · exact arithmetical_error rfl
    · exact arithmetical_ok _

theorem arithmetical_arith (op : Arith) (a b : Number) : Arithmetical (arith op a b) := by
  unfold arith
  split
  · exact arithmetical_error rfl
  split
  · exact arithmetical_error rfl
  split
  · exact arithmetical_intArith op _ _
  · rcases h : bothFloats a b with f | ⟨x, y⟩
    · exact arithmetical_error (arithmetical_bothFloats a b f h)
    · exact arithmetical_ok _

theorem arithmetical_bothNumbers (left right : Value) : Arithmetical (bothNumbers left right) := by
  rw [bothNumbers]
  split
  · exact arithmetical_ok _
  · exact arithmetical_error rfl
  · exact arithmetical_error rfl

/-- **An operator that is known fails in arithmetic alone.**  The connectives are not applied to
values. -/
theorem fault_of_apply {op : BinaryOp} {left right : Value} {f : Fault}
    (h : apply op left right = .error f) (strict : op ≠ .and ∧ op ≠ .or) :
    f.isArithmetic = true ∨ (∃ name, op = .other name) ∧ f.inCondition = true := by
  have numbers := arithmetical_bothNumbers left right
  cases op with
  | concat | text r =>
    rw [apply] at h
    split at h <;> cases h
    · exact .inl rfl
    · exact .inl rfl
  | number r =>
    rw [apply] at h
    rcases hn : bothNumbers left right with g | ⟨a, b⟩ <;> rw [hn] at h <;> cases h
    exact .inl (numbers f hn)
  | arith o =>
    rw [apply] at h
    rcases hn : bothNumbers left right with g | ⟨a, b⟩
    · rw [hn] at h
      cases h
      exact .inl (numbers f hn)
    rcases ha : arith o a b with g | n <;> simp only [hn, ha] at h <;> cases h
    exact .inl (arithmetical_arith o a b f ha)
  | and => exact absurd rfl strict.1
  | or => exact absurd rfl strict.2
  | other name =>
    simp only [apply] at h
    rcases hn : bothNumbers left right with g | ⟨a, b⟩ <;> rw [hn] at h <;> cases h
    · exact .inl (numbers f hn)
    · exact .inr ⟨⟨name, rfl⟩, rfl⟩

theorem arithmetical_applyUnary (op : UnaryOp) (v : Value) : Arithmetical (applyUnary op v) := by
  cases op with
  | not =>
    rw [applyUnary]
    rcases truth? v with f | b
    · exact arithmetical_error rfl
    · exact arithmetical_ok _
  | neg =>
    rw [applyUnary]
    rcases number? v with f | n
    · exact arithmetical_error rfl
    · exact arithmetical_ok _

/-! ### Trees -/

/-- Whether a condition has no operator but those that are known, and no bare value in the
place of a node. -/
def Tree.IsKnown : Tree → Prop
  | .literal _ => True
  | .unary _ t => t.IsKnown
  | .binary op left right => (∀ name, op ≠ .other name) ∧ left.IsKnown ∧ right.IsKnown
  | .stray _ => False

/-- **Why a condition has no value**: a fault of arithmetic, unless there is something in it
that is not known. -/
theorem fault_of_eval {t : Tree} {f : Fault} (h : t.eval = .error f) :
    f.isArithmetic = true ∨ ¬ t.IsKnown ∧ f.inCondition = true := by
  induction t generalizing f with
  | literal v => cases h
  | stray v =>
    cases h
    exact .inr ⟨id, rfl⟩
  | unary op t ih =>
    rw [Tree.eval] at h
    rcases ht : t.eval with g | v
    · simp only [ht] at h
      cases h
      exact ih ht
    · simp only [ht] at h
      exact .inl (arithmetical_applyUnary op v f h)
  | binary op l r ihl ihr =>
    -- a fault of an operand is that of the condition, and so is what is not known in it
    have left (hl : l.eval = .error f) :
        f.isArithmetic = true ∨ ¬ (Tree.binary op l r).IsKnown ∧ f.inCondition = true :=
      (ihl hl).imp_right fun hf => ⟨fun known => hf.1 known.2.1, hf.2⟩
    have right (hr : r.eval = .error f) :
        f.isArithmetic = true ∨ ¬ (Tree.binary op l r).IsKnown ∧ f.inCondition = true :=
      (ihr hr).imp_right fun hf => ⟨fun known => hf.1 known.2.2, hf.2⟩
    rcases hl : l.eval with g | v
    · have hg : g = f := by
        cases op <;> simpa only [Tree.eval, hl, Except.error.injEq] using h
      exact left (hg ▸ hl)
    cases op with
    -- a connective looks at the truth of its left operand first
    | and | or =>
      simp only [Tree.eval, hl] at h
      rcases ht : truth? v with g | b
      · simp only [ht] at h
        cases h
        exact .inl rfl
      · cases b <;> simp only [ht, Bool.false_eq_true, if_false, if_true, reduceCtorEq] at h
        exact right h
    | number | text | arith | concat | other =>
      simp only [Tree.eval, hl] at h
      rcases hr : r.eval with g | w
      · simp only [hr] at h
        cases h
        exact right hr
      simp only [hr] at h
      -- both operands have values, so it is the operator that fails
      exact (fault_of_apply h ⟨nofun, nofun⟩).imp_right
        fun ⟨⟨name, ho⟩, hf⟩ => ⟨fun known => known.1 name ho, hf⟩

/-! ### Texts -/

theorem contained_parse (text : String) : Contained (parse text) := by
  simp only [parse]
  rcases Reading.run {} (lex text.toList).1 with e | r
  · exact contained_error rfl
  rcases (lex text.toList).2 with - | ⟨c, pos⟩ | digits
  · simp only
    rcases r.tree? with - | tree
    · exact contained_error rfl
    · exact contained_ok _
  · exact contained_error rfl
  · exact contained_error rfl

/-- A condition fails in its form, in its evaluation, or at a number. -/
theorem contained_holds (text : String) : Contained (holds text) := by
  rw [holds]
  split
  · exact contained_ok _
  rcases hp : parse text with f | tree
  · exact contained_error (contained_parse text f hp)
  rcases he : tree.eval with f | v
  · simp only [he]
    rcases fault_of_eval he with hf | ⟨-, hf⟩
    · exact contained_error (Fault.inCondition_of_isArithmetic hf)
    · exact contained_error hf
  simp only [he]
  rcases truth? v with f | b
  · exact contained_error rfl
  · exact contained_ok _

end Condition

end SqlScript
