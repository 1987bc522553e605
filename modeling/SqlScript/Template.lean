/-
SqlScript/Template.lean

Statements with placeholders.

A statement is a sequence of literal pieces with placeholders between them:
`$!name` for a named parameter and `$N` for a positional one.  A positional
placeholder takes the whole run of digits, and is one only if no word character
follows.  `Template.parse` finds the pieces, and both uses of a statement start
from them:

* *binding* replaces each placeholder by the bind marker of the database and
  collects the values to bind, in textual order.  If the marker has a percent sign,
  the database interpolates the whole text, so percent signs of the pieces are
  doubled (only if something is bound at all);
* *filling* replaces placeholders by given texts, each inserted once and never
  looked at again; placeholders beyond the given texts stay as they are.

`Template.source` puts the placeholders' own texts back, which gives the statement.
-/
import SqlScript.Bindings
import SqlScript.Text.Word

namespace SqlScript

/-- A reference to a parameter. -/
inductive Placeholder where
  /-- The parameter with a name. -/
  | named (name : List Char)
  /-- The parameter at the position that a run of digits spells. -/
  | positional (digits : List Char)
  deriving DecidableEq, Repr

/-- Literal text, and placeholders each followed by literal text. -/
structure Template where
  head : List Char
  tail : List (Placeholder × List Char)
  deriving DecidableEq, Repr

namespace Placeholder

/-- The text of a placeholder. -/
def source : Placeholder → List Char
  | .named name => '$' :: '!' :: name
  | .positional digits => '$' :: digits

/-- Whether a character may stand in the name of a parameter. -/
def isNameChar (c : Char) : Bool := c.isAlphanum || c = '_' || c = '-'

/-- Whether a text goes on with a word character. -/
def startsWord : List Char → Bool
  | [] => false
  | c :: _ => Text.isWord c

/-- The placeholder that follows a dollar sign, if one does. -/
def afterDollar? : List Char → Option Placeholder
  | '!' :: cs =>
    match cs.takeWhile isNameChar with
    | [] => none
    | name => some (.named name)
  | cs =>
    match cs.takeWhile Text.isDigit with
    | [] => none
    | digits =>
      if startsWord (cs.dropWhile Text.isDigit) then none else some (.positional digits)

/-- The value of a placeholder: absent names and positions have the value `null`.
A position of too many digits cannot be read. -/
def value? (passed : List Value) (custom : Bindings) : Placeholder → Except NumberFault Value
  | .named name => .ok ((custom.get? (String.ofList name)).getD .null)
  | .positional digits =>
    if integerLimit < digits.length then .error (.longNumeral digits.length)
    else .ok (passed[Text.digitsValue digits]?.getD .null)

end Placeholder

namespace Template

/-- Puts a character in front of a template. -/
def cons (c : Char) (t : Template) : Template := { t with head := c :: t.head }

/-- The pieces and placeholders of a statement. -/
def parse : List Char → Template
  | [] => ⟨[], []⟩
  | c :: cs =>
    if c = '$' then
      match Placeholder.afterDollar? cs with
      | some p =>
        let rest := parse (cs.drop (p.source.length - 1))
        ⟨[], (p, rest.head) :: rest.tail⟩
      | none => (parse cs).cons c
    else (parse cs).cons c
termination_by cs => cs.length
decreasing_by all_goals simp only [List.length_drop, List.length_cons]; omega

/-- The placeholders in textual order. -/
def placeholders (t : Template) : List Placeholder := t.tail.map Prod.fst

/-- The literal pieces in textual order. -/
def pieces (t : Template) : List (List Char) := t.head :: t.tail.map Prod.snd

/-- The statement that the pieces and placeholders make up. -/
def source (t : Template) : List Char :=
  t.head ++ t.tail.flatMap fun p => p.1.source ++ p.2

/-! ### Binding -/

/-- Doubles percent signs. -/
def doublePercent (cs : List Char) : List Char :=
  cs.flatMap fun c => if c = '%' then ['%', '%'] else [c]

/-- The statement with every placeholder replaced by the bind marker. -/
def bound (t : Template) (marker : List Char) : List Char :=
  let pieces :=
    if !t.tail.isEmpty && marker.contains '%' then t.pieces.map doublePercent else t.pieces
  marker.intercalate pieces

/-! ### Filling -/

/-- Pieces with placeholders replaced by texts, as far as these go. -/
def fillTail : List (Placeholder × List Char) → List (List Char) → List Char
  | [], _ => []
  | (p, piece) :: rest, [] => p.source ++ piece ++ fillTail rest []
  | (_, piece) :: rest, text :: texts => text ++ piece ++ fillTail rest texts

/-- The statement with placeholders replaced by texts, as far as these go. -/
def fill (t : Template) (texts : List (List Char)) : List Char := t.head ++ fillTail t.tail texts

end Template

/-! ### Resolved statements -/

/-- The bind marker unless the database has another one. -/
def defaultBindMarker : String := "?"

/-- A statement ready for the database. -/
structure Resolved where
  /-- The text with bind markers. -/
  text : String
  /-- The values to bind. -/
  args : List Value
  /-- The statement as written. -/
  statement : String
  deriving Repr, Inhabited

/-- Binds the placeholders of a statement. -/
def resolve (statement : String) (passed : List Value) (custom : Bindings) (marker : String) :
    Except NumberFault Resolved :=
  let template := Template.parse statement.toList
  match template.placeholders.mapM (Placeholder.value? passed custom) with
  | .error fault => .error fault
  | .ok args => .ok ⟨String.ofList (template.bound marker.toList), args, statement⟩

/-- Fills the placeholders of a statement with texts. -/
def fillPlaceholders (statement : String) (texts : List String) : String :=
  String.ofList ((Template.parse statement.toList).fill (texts.map String.toList))

end SqlScript
