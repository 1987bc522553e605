/-
SqlScript/Condition/Token.lean

Tokens of conditions.

At each place that is not a gap (space, tab, carriage return, line feed) the first
rule that applies takes the token: a decimal fraction, an integer, a point, a quoted
text, a word, an operator of two characters, an operator of one.  Words are letters,
digits and underscores of ASCII; some of them, in any case of letters, are operators
or constants.  In a quoted text a backslash makes the next character literal, and
that character must not be a line feed.

Lexing gives the tokens up to the first place where it cannot go on, and why it
stopped there.  Readers take the tokens in order, so a fault of theirs that comes
earlier in the text is found first.
-/
import SqlScript.Condition.Tree
import SqlScript.Number.Fault

namespace SqlScript.Condition

/-- The kinds of tokens. -/
inductive Kind where
  | float
  | integer
  | string
  | word
  | nullWord
  | trueWord
  | falseWord
  /-- A comparison of numbers. -/
  | relation (r : Relation)
  /-- A comparison of texts. -/
  | wordRelation (r : Relation)
  | arith (a : Arith)
  | dot
  | andSymbol
  | orSymbol
  | andWord
  | orWord
  | bang
  | notWord
  | leftParen
  | rightParen
  deriving DecidableEq, Repr, Inhabited

/-- The name of a kind. -/
def Kind.name : Kind → String
  | .float => "FLOAT"
  | .integer => "INTEGER"
  | .string => "STRING"
  | .word => "WORD"
  | .nullWord => "NULL"
  | .trueWord => "TRUE"
  | .falseWord => "FALSE"
  | .relation .eq => "EQ"
  | .relation .ne => "NEQ"
  | .relation .lt => "LT"
  | .relation .le => "LTE"
  | .relation .gt => "GT"
  | .relation .ge => "GTE"
  | .wordRelation .eq => "STR_EQ"
  | .wordRelation .ne => "STR_NE"
  | .wordRelation .lt => "STR_LT"
  | .wordRelation .le => "STR_LE"
  | .wordRelation .gt => "STR_GT"
  | .wordRelation .ge => "STR_GE"
  | .arith .add => "PLUS"
  | .arith .sub => "MINUS"
  | .arith .mul => "STAR"
  | .arith .div => "SLASH"
  | .arith .mod => "PERCENT"
  | .dot => "DOT"
  | .andSymbol => "LAND"
  | .orSymbol => "LOR"
  | .andWord => "AND"
  | .orWord => "OR"
  | .bang => "BANG"
  | .notWord => "NOT"
  | .leftParen => "LPAREN"
  | .rightParen => "RPAREN"

/-- A token: its kind, its value and the position of its first character. -/
structure Token where
  kind : Kind
  value : Value
  pos : Nat
  deriving Repr, Inhabited

/-- Why lexing stopped. -/
inductive Stop where
  /-- The text is at its end. -/
  | ended
  /-- No rule applies to the character at a position. -/
  | illegal (c : Char) (pos : Nat)
  /-- An integer has too many digits. -/
  | overlong (digits : Nat)
  deriving DecidableEq, Repr

/-! ### Quoted texts -/

/-- The text that escaped characters stand for: a backslash is dropped and the
character after it kept.  A backslash at the very end stands for itself. -/
def unescape : List Char → List Char
  | '\\' :: c :: cs => c :: unescape cs
  | c :: cs => c :: unescape cs
  | [] => []

/-- A character of a text that is going to stand between single quotes. -/
def escapeChar (c : Char) : List Char := if c = '\\' ∨ c = '\'' then ['\\', c] else [c]

/-- The quoted text that reads back as `cs`. -/
def quote (cs : List Char) : List Char := '\'' :: (cs.flatMap escapeChar ++ ['\''])

/-- The number of characters up to and including the quote that ends a quoted text,
counted from behind the one that starts it. -/
def closing? (q : Char) : List Char → Option Nat
  | '\\' :: c :: cs => if c = '\n' then none else (closing? q cs).map (· + 2)
  | c :: cs =>
    if c = q then some 1
    else if c = '\\' then none
    else (closing? q cs).map (· + 1)
  | [] => none

/-! ### Lexemes -/

/-- The characters between tokens. -/
def isGap (c : Char) : Bool := c = ' ' || c = '\t' || c = '\r' || c = '\n'

/-- Whether a character starts a word. -/
def isWordStart (c : Char) : Bool := c.isAlpha || c = '_'

/-- Whether a character continues a word. -/
def isWordChar (c : Char) : Bool := c.isAlphanum || c = '_'

/-- The words with a meaning of their own, in lower case. -/
def reserved : List (String × Kind) :=
  Relation.all.map (fun r => (r.word, Kind.wordRelation r)) ++
  [("and", .andWord), ("or", .orWord), ("not", .notWord), ("null", .nullWord),
   ("undef", .nullWord), ("true", .trueWord), ("false", .falseWord)]

/-- The kind of a word. -/
def wordKind (word : List Char) : Kind :=
  ((reserved.find? fun p => p.1.toList = word.map Char.toLower).map Prod.snd).getD .word

/-- The operator at `c` followed by `next`, with the number of characters it takes
after `c`. -/
def operator? (c : Char) (next : Option Char) : Option (Kind × Nat) :=
  match c, next with
  | '=', some '=' => some (.relation .eq, 1)
  | '!', some '=' => some (.relation .ne, 1)
  | '<', some '=' => some (.relation .le, 1)
  | '>', some '=' => some (.relation .ge, 1)
  | '&', some '&' => some (.andSymbol, 1)
  | '|', some '|' => some (.orSymbol, 1)
  | '<', _ => some (.relation .lt, 0)
  | '>', _ => some (.relation .gt, 0)
  | '!', _ => some (.bang, 0)
  | '+', _ => some (.arith .add, 0)
  | '-', _ => some (.arith .sub, 0)
  | '*', _ => some (.arith .mul, 0)
  | '/', _ => some (.arith .div, 0)
  | '%', _ => some (.arith .mod, 0)
  | '(', _ => some (.leftParen, 0)
  | ')', _ => some (.rightParen, 0)
  | _, _ => none

/-- The number at a digit that `cs` follows: a fraction if a point and a digit come
after the run of digits. -/
def numberLexeme (cs : List Char) : Kind × Nat :=
  let whole := (cs.takeWhile Text.isDigit).length
  match cs.dropWhile Text.isDigit with
  | '.' :: rest =>
    match (rest.takeWhile Text.isDigit).length with
    | 0 => (.integer, whole)
    | places => (.float, whole + 1 + places)
  | _ => (.integer, whole)

/-- The token at `c` followed by `cs`: its kind and the number of characters that it
takes from `cs`. -/
def lexeme? (c : Char) (cs : List Char) : Option (Kind × Nat) :=
  if Text.isDigit c then some (numberLexeme cs)
  else if c = '.' then some (.dot, 0)
  else if c = '\'' ∨ c = '"' then (closing? c cs).map fun n => (.string, n)
  else if isWordStart c then
    let rest := cs.takeWhile isWordChar
    some (wordKind (c :: rest), rest.length)
  else operator? c cs.head?

/-- The value of a token: a number, the content of a quoted text, or the characters
themselves.  An integer may have too many digits; their number is the error. -/
def tokenValue (kind : Kind) (lexeme : List Char) : Except Nat Value :=
  match kind with
  | .integer =>
    if integerLimit < lexeme.length then .error lexeme.length
    else .ok (.int (Text.digitsValue lexeme))
  | .float =>
    .ok (.float (((Numeral.ofText? lexeme).map Numeral.toBinary64).getD .nan))
  | .string => .ok (.text (String.ofList (unescape (lexeme.drop 1).dropLast)))
  | _ => .ok (.text (String.ofList lexeme))

/-! ### Lexing -/

/-- The tokens of a text from position `pos` on, and why lexing stopped. -/
def lexFrom (pos : Nat) : List Char → List Token × Stop
  | [] => ([], .ended)
  | c :: cs =>
    if isGap c then lexFrom (pos + 1) cs
    else
      match lexeme? c cs with
      | none => ([], .illegal c pos)
      | some (kind, n) =>
        match tokenValue kind (c :: cs.take n) with
        | .error digits => ([], .overlong digits)
        | .ok value =>
          let rest := lexFrom (pos + n + 1) (cs.drop n)
          (⟨kind, value, pos⟩ :: rest.1, rest.2)
termination_by cs => cs.length
decreasing_by
  · simp
  · simp only [List.length_drop, List.length_cons]; omega

/-- The tokens of a text, and why lexing stopped. -/
def lex (cs : List Char) : List Token × Stop := lexFrom 0 cs

end SqlScript.Condition
