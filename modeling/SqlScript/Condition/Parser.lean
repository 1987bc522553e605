/-
SqlScript/Condition/Parser.lean

Reading conditions.

Operators bind in seven levels, from loosest to tightest: `or`; `and`; `not`;
comparisons; `+ - .`; `* / %`; `!` and the minus sign in front of an operand.  Infix
operators group to the left, except that comparisons do not group at all: a
comparison cannot be an operand of another one without parentheses.  A prefix
operator takes everything that binds tighter than itself.

The reader is a machine that is fed one token at a time.  It keeps a stack of
operators whose right operand is not complete yet and, between operands, the tree
read last.  When an infix operator arrives, the operators on the stack that bind at
least as tightly are completed first.  Since the machine looks at nothing but its
stack and the next token, it refuses a text at the first token that cannot continue
it.

The language itself is given by a grammar that has one rule for each operator, with a
whole condition on either side of it, and by the table of levels above.  A parser
generator makes a shift-reduce parser from the two, and the machine stands for that
parser.  It takes for granted how the table settles a conflict between completing an
operator and reading on: the operator is completed if it binds tighter than the next one,
or as tightly in a level that groups to the left; the next one is read if it binds
tighter; and in a level that does not group the token is refused.  It also takes for
granted that a parser which completes operators before it looks at a token refuses the
same token, and that nothing is read after a refusal.
-/
import SqlScript.Fault

namespace SqlScript.Condition

/-! ### Levels -/

/-- How tightly an infix operator binds.  Operators that are not known do not occur
in conditions that are read. -/
def BinaryOp.level : BinaryOp → Nat
  | .or => 1
  | .and => 2
  | .number _ => 4
  | .text _ => 4
  | .arith .add => 5
  | .arith .sub => 5
  | .concat => 5
  | .arith _ => 6
  | .other _ => 0

/-- Whether an operator cannot stand beside another one of its level. -/
def BinaryOp.isComparison : BinaryOp → Bool
  | .number _ => true
  | .text _ => true
  | _ => false

/-- A prefix operator as it is written. -/
inductive Sign where
  /-- The word `not`. -/
  | notWord
  /-- The exclamation mark. -/
  | bang
  /-- The minus sign. -/
  | minus
  deriving DecidableEq, Repr

/-- How tightly a prefix operator binds. -/
def Sign.level : Sign → Nat
  | .notWord => 3
  | .bang => 7
  | .minus => 7

/-- What a prefix operator does. -/
def Sign.op : Sign → UnaryOp
  | .notWord => .not
  | .bang => .not
  | .minus => .neg

/-! ### Tokens by role -/

/-- The infix operator of a token. -/
def Kind.binary? : Kind → Option BinaryOp
  | .relation r => some (.number r)
  | .wordRelation r => some (.text r)
  | .arith a => some (.arith a)
  | .dot => some .concat
  | .andSymbol => some .and
  | .andWord => some .and
  | .orSymbol => some .or
  | .orWord => some .or
  | _ => none

/-- The prefix operator of a token. -/
def Kind.sign? : Kind → Option Sign
  | .notWord => some .notWord
  | .bang => some .bang
  | .arith .sub => some .minus
  | _ => none

/-- The value of a token that is an operand by itself. -/
def Token.atom? (t : Token) : Option Value :=
  match t.kind with
  | .float | .integer | .string | .word => some t.value
  | .nullWord => some .null
  | .trueWord => some (.int 1)
  | .falseWord => some (.int 0)
  | _ => none

/-! ### The machine -/

/-- What waits for an operand. -/
inductive Frame where
  /-- An infix operator with its left operand. -/
  | binary (op : BinaryOp) (left : Tree)
  /-- A prefix operator. -/
  | sign (s : Sign)
  /-- An opening parenthesis. -/
  | paren
  deriving Repr

/-- What has been read: what waits for an operand, innermost first, and the operand
read last, unless one is due. -/
structure Reading where
  stack : List Frame := []
  operand : Option Tree := none
  deriving Repr

/-- Whether a frame has to be completed before an infix operator: some operator of
the frame binds tighter, or as tightly.  None if the two cannot stand together. -/
def Frame.yields? (next : BinaryOp) : Frame → Option Bool
  | .paren => some false
  | .sign s => some (next.level < s.level)
  | .binary op _ =>
    if op.level = next.level ∧ next.isComparison then none
    else some (next.level ≤ op.level)

/-- Completes a frame with its operand. -/
def Frame.complete : Frame → Tree → Tree
  | .binary op left, t => .binary op left t
  | .sign s, t => .unary s.op t
  | .paren, t => t

/-- Completes the frames that an infix operator ends.  None if the operator cannot
stand beside one of them. -/
def reduce? (next : BinaryOp) : List Frame → Tree → Option (List Frame × Tree)
  | [], t => some ([], t)
  | f :: rest, t =>
    match f.yields? next with
    | none => none
    | some true => reduce? next rest (f.complete t)
    | some false => some (f :: rest, t)

/-- Completes the frames up to the innermost open parenthesis and closes that.  None
if no parenthesis is open. -/
def close? : List Frame → Tree → Option (List Frame × Tree)
  | [], _ => none
  | .paren :: rest, t => some (rest, t)
  | f :: rest, t => close? rest (f.complete t)

/-- Completes all frames.  None if a parenthesis is open. -/
def finish? : List Frame → Tree → Option Tree
  | [], t => some t
  | .paren :: _, _ => none
  | f :: rest, t => finish? rest (f.complete t)

/-- One token where an operand is due. -/
def stepOperand (stack : List Frame) (t : Token) : Option Reading :=
  match t.atom? with
  | some v => some ⟨stack, some (.literal v)⟩
  | none =>
    match t.kind.sign? with
    | some s => some ⟨.sign s :: stack, none⟩
    | none => if t.kind = .leftParen then some ⟨.paren :: stack, none⟩ else none

/-- One token behind an operand. -/
def stepOperator (stack : List Frame) (operand : Tree) (t : Token) : Option Reading :=
  match t.kind.binary? with
  | some op => (reduce? op stack operand).map fun r => ⟨.binary op r.2 :: r.1, none⟩
  | none =>
    if t.kind = .rightParen then (close? stack operand).map fun r => ⟨r.1, some r.2⟩
    else none

/-- One token. -/
def Reading.step? (r : Reading) (t : Token) : Option Reading :=
  match r.operand with
  | none => stepOperand r.stack t
  | some operand => stepOperator r.stack operand t

/-- The tree of a text that ends here. -/
def Reading.tree? (r : Reading) : Option Tree := r.operand.bind (finish? r.stack)

/-- Reads tokens one by one; the first that cannot be read is the error. -/
def Reading.run (r : Reading) : List Token → Except FormError Reading
  | [] => .ok r
  | t :: ts =>
    match r.step? t with
    | none => .error (.unexpected t)
    | some next => next.run ts

/-- Reads a condition.  Of a token that cannot stand where it does and a place where
lexing stopped, the one further left is the error. -/
def parse (text : String) : Except Fault Tree :=
  let lexed := lex text.toList
  match Reading.run {} lexed.1 with
  | .error e => .error (.form e)
  | .ok r =>
    match lexed.2 with
    | .illegal c pos => .error (.form (.illegal c pos))
    | .overlong digits => .error (.number (.longNumeral digits))
    | .ended =>
      match r.tree? with
      | none => .error (.form .unexpectedEnd)
      | some tree => .ok tree

/-- The tokens of a condition, if lexing reaches its end. -/
def tokens (text : String) : Except Fault (List Token) :=
  let lexed := lex text.toList
  match lexed.2 with
  | .illegal c pos => .error (.form (.illegal c pos))
  | .overlong digits => .error (.number (.longNumeral digits))
  | .ended => .ok lexed.1

end SqlScript.Condition
