/-
SqlScript/Proofs/Condition/Spacing.lean

Spaces around the symbols of operators.

The literals of integers, truth values and texts have one of three forms (`Form`): a numeral, a
minus sign in front of a numeral, or a quoted text.  A quoted text ends where its quote does.
A numeral goes on with a digit, and with a point that a digit follows, and with nothing else
(`Ends`); and no symbol goes on with a digit, a minus sign or a quote (`symbol_front`).  So a
symbol between two literals is read as the operator that it is, with spaces around it or
without (`parse_operands`), unless it is the point and stands between two digits: then the two
literals are read as one fraction (`parse_fused`).

For every symbol and any two such values, a condition without the spaces is therefore read as
the one with the spaces, exactly if the values do not fuse in this way (`parse_unspaced`).
-/
import Mathlib
import SqlScript.Proofs.Condition.Numerals
import SqlScript.Proofs.Condition.Printing
import SqlScript.Proofs.Template.Scanning

namespace SqlScript.Condition

/-! ### Values and symbols -/

/-- The operators that are written as symbols. -/
def symbols : List (String × BinaryOp) :=
  [("+", .arith .add), ("-", .arith .sub), ("*", .arith .mul), ("/", .arith .div),
   ("%", .arith .mod), (".", .concat), ("==", .number .eq), ("!=", .number .ne),
   ("<", .number .lt), ("<=", .number .le), (">", .number .gt), (">=", .number .ge),
   ("&&", .and), ("||", .or)]

/-- Whether a value is an integer, a truth value or a text. -/
def IsScalar : Value → Prop
  | .bool _ => True
  | .int _ => True
  | .text _ => True
  | _ => False

/-- Whether a value has a literal that ends in a digit. -/
def EndsInDigit : Value → Prop
  | .bool _ => True
  | .int n => Text.digitCount n.natAbs ≤ integerLimit
  | _ => False

/-- Whether a value has a literal that starts with a digit. -/
def StartsWithDigit : Value → Prop
  | .bool _ => True
  | .int n => 0 ≤ n ∧ Text.digitCount n.natAbs ≤ integerLimit
  | _ => False

theorem EndsInDigit.simple {v : Value} (h : EndsInDigit v) : Simple v := by
  cases v with
  | bool b => trivial
  | int n => exact h
  | null | float _ | text _ | bytes _ | decimal _ | list _ => exact h.elim

theorem StartsWithDigit.simple {v : Value} (h : StartsWithDigit v) : Simple v := by
  cases v with
  | bool b => trivial
  | int n => exact h.2
  | null | float _ | text _ | bytes _ | decimal _ | list _ => exact h.elim

/-- What a condition is read as when it has been rendered. -/
def parseRendered (statement : String) (args : List Value) (blank : Blank) :
    Except Fault Tree :=
  match render statement args blank with
  | .error f => .error (.number f)
  | .ok text => parse text

/-! ### The forms of literals -/

/-- The literal of a value is a numeral, a minus sign in front of one, or a quoted text; and
the tree that it is read as. -/
inductive Form (v : Value) : List Char → Tree → Prop
  | numeral {n : Nat} (short : Text.digitCount n ≤ integerLimit) (starts : StartsWithDigit v)
      (ends : EndsInDigit v) : Form v (Text.natDigits n) (.literal (.int n))
  | negative {n : Nat} (short : Text.digitCount n ≤ integerLimit) (starts : ¬ StartsWithDigit v)
      (ends : EndsInDigit v) :
      Form v ('-' :: Text.natDigits n) (.unary .neg (.literal (.int n)))
  | quoted {s : String} (starts : ¬ StartsWithDigit v) (ends : ¬ EndsInDigit v) :
      Form v (quote s.toList) (.literal (.text s))

theorem literal_form (blank : Blank) {v : Value} (scalar : IsScalar v) (simple : Simple v) :
    ∃ text, literal? blank v = .ok text ∧ Form v text.toList (leaf blank v) := by
  cases v with
  | bool b =>
    refine ⟨_, rfl, ?_⟩
    cases b with
    | false => exact Form.numeral (n := 0) (by decide) trivial trivial
    | true => exact Form.numeral (n := 1) (by decide) trivial trivial
  | int n =>
    refine ⟨_, literal?_int blank simple, ?_⟩
    rcases intText_cases blank n with ⟨hn, text, tree⟩ | ⟨hn, text, tree⟩
    · rw [text, tree]
      exact .negative simple (fun h => absurd h.1 (not_le.mpr hn)) simple
    · rw [text, tree]
      exact .numeral simple ⟨hn, simple⟩ simple
  | text s =>
    refine ⟨_, rfl, ?_⟩
    rw [String.toList_ofList]
    exact .quoted not_false not_false
  | null | float _ | bytes _ | decimal _ | list _ => exact scalar.elim

/-- A scalar that is not written without loss is an integer of too many digits. -/
theorem literal_overlong (blank : Blank) {v : Value} (scalar : IsScalar v) (h : ¬ Simple v) :
    literal? blank v = .error .longInteger := by
  cases v with
  | int n =>
    have long : integerLimit < Text.digitCount n.natAbs := not_le.mp h
    rw [literal?, Value.text?, if_pos (by simpa [Value.overlong] using long)]
  | bool b => exact absurd trivial h
  | text s => exact absurd trivial h
  | null | float _ | bytes _ | decimal _ | list _ => exact scalar.elim

/-! ### Numerals and what follows them -/

/-- Whether no numeral goes on with what a text starts with: a digit, or a point that a digit
follows. -/
def Ends (rest : List Char) : Prop :=
  (∀ c ∈ rest.head?, Text.isDigit c = false) ∧
    ∀ c cs, rest = '.' :: c :: cs → Text.isDigit c = false

theorem front?_numeral {ds rest : List Char} (hne : ds ≠ [])
    (hd : ∀ d ∈ ds, Text.isDigit d = true) (h : Ends rest) :
    front? (ds ++ rest) = some (.integer, ds.length) := by
  obtain ⟨d, ds, rfl⟩ := List.exists_cons_of_ne_nil hne
  have digits : ∀ c ∈ ds, Text.isDigit c = true := fun c hc => hd c (List.mem_cons_of_mem d hc)
  have first : Text.isDigit d = true := hd d List.mem_cons_self
  have whole : numberLexeme (ds ++ rest) = (.integer, ds.length) := by
    rw [numberLexeme, takeWhile_append_of_head h.1, dropWhile_append_of_head h.1,
      List.takeWhile_eq_self_iff.mpr digits, List.dropWhile_eq_nil_iff.mpr digits,
      List.nil_append]
    split
    -- no digit follows the point, so it is none of the number
    · next places =>
      rcases places with - | ⟨c, cs⟩
      · rfl
      · rw [List.takeWhile_cons_of_neg (by rw [h.2 c cs rfl]; exact Bool.false_ne_true)]
        rfl
    · rfl
  rw [List.cons_append, List.length_cons, front?_cons, lexeme?, if_pos first, whole]

namespace Form

variable {v : Value} {text : List Char} {tree : Tree}

/-- In front of what no numeral goes on with, if it ends in one, a literal lexes to tokens that
stand for its tree. -/
theorem lexes (h : Form v text tree) :
    ∃ us, StandFor us tree ∧ ∀ rest ts, (EndsInDigit v → Ends rest) → LexesTo rest ts →
      LexesTo (text ++ rest) (us ++ ts) := by
  have numeral {n : Nat} (short : Text.digitCount n ≤ integerLimit) {rest : List Char}
      (hr : Ends rest) {ts : List Token} (ht : LexesTo rest ts) :
      LexesTo (Text.natDigits n ++ rest) ((Lexeme.numeral n short).token :: ts) :=
    (Lexeme.numeral n short).lexesTo
      (front?_numeral Nat.toDigits_ne_nil (Text.isDigit_natDigits n) hr) ht
  cases h with
  | @numeral n short starts ends =>
    refine ⟨[(Lexeme.numeral n short).token], .atom rfl, ?_⟩
    intro rest ts hr ht
    exact numeral short (hr ends) ht
  | @negative n short starts ends =>
    have stand : StandFor [(Lexeme.numeral n short).token] (.literal (.int n)) := .atom rfl
    refine ⟨Lexeme.minus.token :: [(Lexeme.numeral n short).token], stand.neg, ?_⟩
    intro rest ts hr ht
    exact Lexeme.minus.lexesTo (Lexeme.minus_closed _) (numeral short (hr ends) ht)
  | @quoted s starts ends =>
    refine ⟨[(Lexeme.quoted s).token], .atom rfl, ?_⟩
    intro rest ts _ ht
    exact (Lexeme.quoted s).lexesTo (front?_quote s.toList rest) ht

/-- A literal starts with a digit, a minus sign or a quote. -/
theorem head (h : Form v text tree) :
    ∃ c cs, text = c :: cs ∧ (Text.isDigit c = true ∧ StartsWithDigit v ∨
      (c = '-' ∨ c = '\'') ∧ ¬ StartsWithDigit v) := by
  cases h with
  | @numeral n short starts ends =>
    obtain ⟨c, cs, hc⟩ := List.exists_cons_of_ne_nil (@Nat.toDigits_ne_nil n 10)
    have first : Text.isDigit c = true := by
      refine Text.isDigit_natDigits n c ?_
      rw [Text.natDigits, hc]
      exact List.mem_cons_self
    exact ⟨c, cs, hc, .inl ⟨first, starts⟩⟩
  | negative short starts ends => exact ⟨_, _, rfl, .inr ⟨.inl rfl, starts⟩⟩
  | quoted starts ends => exact ⟨_, _, rfl, .inr ⟨.inr rfl, starts⟩⟩

end Form

/-! ### Symbols and what follows them -/

section Symbols

variable {symbol : String} {op : BinaryOp} (hs : (symbol, op) ∈ symbols)

include hs

theorem symbol_lexeme : ∃ l : Lexeme, l.text = symbol.toList ∧ l.kind.binary? = some op := by
  have table : ∀ e ∈ symbols, (e.1, e.2.level, e.2) ∈ operators ∧ Cased e.1 e.1.toList := by
    decide
  obtain ⟨known, cased⟩ := table _ hs
  exact operator_lexeme known cased

theorem symbol_no_dollar : '$' ∉ symbol.toList := by
  obtain ⟨l, hl, role⟩ := symbol_lexeme hs
  rw [← hl]
  refine l.no_dollar ?_
  intro quoted
  rw [quoted] at role
  cases role

/-- A symbol starts with no character of a number, a word or a quoted text, unless it is the
point. -/
theorem symbol_head : ∀ c ∈ symbol.toList.head?,
    Text.isDigit c = false ∧ Text.isWord c = false ∧ isWordStart c = false ∧
      ¬ (c = '\'' ∨ c = '"') ∧ (c = '.' → symbol = ".") := by
  have table : ∀ e ∈ symbols, e.1.toList.head?.all (fun c => !Text.isDigit c && !Text.isWord c &&
      !isWordStart c && c != '\'' && c != '"' && (c != '.' || e.1 == ".")) = true := by
    decide
  intro c hc
  have row := table _ hs
  rw [hc] at row
  simpa [and_assoc, not_or, imp_iff_not_or] using row

/-- **No symbol goes on** with a digit, a minus sign or a quote. -/
theorem symbol_front {l : Lexeme} (hl : l.text = symbol.toList) {rest : List Char}
    (hr : ∀ d ∈ rest.head?, d ∉ ['=', '&', '|']) :
    front? (l.text ++ rest) = some (l.kind, l.text.length) := by
  obtain ⟨c, cs, htext, whole⟩ := l.split
  obtain ⟨digit, -, word, quote, -⟩ := symbol_head hs c (by rw [← hl, htext]; rfl)
  rw [htext, List.cons_append, List.length_cons, front?_cons]
  cases rule c with
  | number h => exact absurd h (by rw [digit]; exact Bool.false_ne_true)
  | point _ taken =>
    rw [taken] at whole ⊢
    exact whole
  | quoted h => exact absurd h quote
  | word h => exact absurd h (by rw [word]; exact Bool.false_ne_true)
  | operator taken =>
    rw [taken] at whole ⊢
    rcases cs with - | ⟨d, cs⟩
    · exact (operator?_ends hr c).trans whole
    · exact whole

end Symbols

/-! ### Two operands -/

section Operands

variable {symbol : String} {op : BinaryOp} {a b : Value} {left right : List Char} {x y : Tree}

/-- **A symbol between two literals** is read as its operator, whatever gaps there are, if the
left literal ends where it does by itself. -/
theorem parse_operands (hs : (symbol, op) ∈ symbols) (ha : Form a left x) (hb : Form b right y)
    (gs : List Char) (hg : ∀ c ∈ gs, isGap c = true)
    (apart : EndsInDigit a → Ends (gs ++ (symbol.toList ++ (gs ++ right)))) :
    parse (String.ofList (left ++ (gs ++ (symbol.toList ++ (gs ++ right)))))
      = .ok (.binary op x y) := by
  obtain ⟨us, standLeft, lexLeft⟩ := ha.lexes
  obtain ⟨vs, standRight, lexRight⟩ := hb.lexes
  obtain ⟨l, hl, role⟩ := symbol_lexeme hs
  obtain ⟨c, cs, hright, first⟩ := hb.head
  -- the text from its end: the right operand, the symbol, the left operand
  have lexes : LexesTo (gs ++ right) vs := by
    have alone := lexRight [] [] (fun _ => ⟨nofun, nofun⟩) .nil
    rw [List.append_nil, List.append_nil] at alone
    exact .gaps hg alone
  have follows : ∀ d ∈ (gs ++ right).head?, d ∉ ['=', '&', '|'] := by
    intro d hd hmem
    have table : ['=', '&', '|'].all (fun d => !isGap d && !Text.isDigit d && d != '-' &&
        d != '\'') = true := by
      decide
    have row := List.all_eq_true.mp table d hmem
    obtain ⟨⟨⟨gap, digit⟩, minus⟩, quote⟩ :
        ((isGap d = false ∧ Text.isDigit d = false) ∧ d ≠ '-') ∧ d ≠ '\'' := by
      simpa using row
    rcases gs with - | ⟨g, gs⟩
    · rw [hright] at hd
      cases hd
      rcases first with ⟨hc, -⟩ | ⟨rfl | rfl, -⟩
      · exact absurd hc (by rw [digit]; exact Bool.false_ne_true)
      · exact minus rfl
      · exact quote rfl
    · obtain rfl : g = d := by simpa using hd
      exact absurd (hg g List.mem_cons_self) (by rw [gap]; exact Bool.false_ne_true)
  have operator := l.lexesTo (symbol_front hs hl follows) lexes
  rw [hl] at operator
  have whole := lexLeft _ _ apart (.gaps hg operator)
  refine parse_of_lexesTo (by rw [String.toList_ofList]; exact whole) ?_
  -- the tokens in order: they stand for the operands of the operator
  have empty : reduce? op [] x = some ([], x) := rfl
  rw [standLeft, treeAfter?_operator role empty, ← List.append_nil vs, standRight,
    Reading.treeAfter?_nil]
  rfl

/-- **A point between two digits** makes one fraction of the literals on both sides. -/
theorem parse_fused (ha : Form a left x) (hb : Form b right y) (ends : EndsInDigit a)
    (starts : StartsWithDigit b) :
    ∃ z, parse (String.ofList (left ++ ('.' :: right))) = .ok (.literal (.float z)) ∨
      parse (String.ofList (left ++ ('.' :: right))) = .ok (.unary .neg (.literal (.float z))) := by
  have fraction (n m : Nat) : ∃ z,
      Spells (Text.natDigits n ++ '.' :: Text.natDigits m) (.literal (.float z)) := by
    refine ⟨_, .atom (Lexeme.fraction (Text.natDigits n) (Text.natDigits m) Nat.toDigits_ne_nil
      Nat.toDigits_ne_nil ?_) rfl⟩
    intro d hd
    rcases List.mem_append.mp hd with hd | hd
    · exact Text.isDigit_natDigits n d hd
    · exact Text.isDigit_natDigits m d hd
  cases hb with
  | @numeral m =>
    cases ha with
    | @numeral n =>
      obtain ⟨z, spells⟩ := fraction n m
      exact ⟨z, .inl (parse_of_spells (by rw [String.toList_ofList]; exact spells))⟩
    | @negative n =>
      obtain ⟨z, spells⟩ := fraction n m
      exact ⟨z, .inr (parse_of_spells (by rw [String.toList_ofList]; exact spells.neg))⟩
    | quoted _ notEnds => exact absurd ends notEnds
  | negative _ notStarts => exact absurd starts notStarts
  | quoted notStarts => exact absurd starts notStarts

/-- Without spaces the left literal ends where it does by itself, unless the point fuses it
with the right one. -/
theorem ends_of_symbol (hs : (symbol, op) ∈ symbols) (hb : Form b right y)
    (apart : ¬ (symbol = "." ∧ StartsWithDigit b)) : Ends (symbol.toList ++ right) := by
  obtain ⟨l, hl, -⟩ := symbol_lexeme hs
  obtain ⟨c, cs, htext, -⟩ := l.split
  rw [hl] at htext
  obtain ⟨digit, -, -, -, point⟩ := symbol_head hs c (by rw [htext]; rfl)
  obtain ⟨d, ds, hright, first⟩ := hb.head
  rw [htext, hright]
  refine ⟨?_, ?_⟩
  · rintro _ ⟨⟩
    exact digit
  · intro e es he
    obtain ⟨rfl, rest⟩ := List.cons.inj he
    have alone := point rfl
    rw [alone] at htext
    cases htext
    cases rest
    rcases first with ⟨-, starts⟩ | ⟨rfl | rfl, -⟩
    · exact absurd ⟨alone, starts⟩ apart
    · decide
    · decide

end Operands

/-! ### Rendering -/

section Rendering

variable {blank : Blank} {a b : Value} {symbol : String} {op : BinaryOp}

theorem render_operands {left right statement : String} {middle : List Char}
    (hl : literal? blank a = .ok left) (hr : literal? blank b = .ok right)
    (hst : statement.toList = '$' :: '0' :: (middle ++ ['$', '1']))
    (dollar : '$' ∉ middle) (word : ∀ c ∈ middle.head?, Text.isWord c = false) :
    render statement [a, b] blank
      = .ok (String.ofList (left.toList ++ (middle ++ right.toList))) := by
  have literals : [a, b].mapM (literal? blank) = .ok [left, right] := by
    rw [List.mapM_cons, hl, List.mapM_cons, hr]
    rfl
  have zero : (Placeholder.positional ['0']).WellFormed :=
    ⟨by decide, List.forall_mem_singleton.mpr (by decide)⟩
  have one : (Placeholder.positional ['1']).WellFormed :=
    ⟨by decide, List.forall_mem_singleton.mpr (by decide)⟩
  have ends : (Placeholder.positional ['0']).EndsBefore (middle ++ ['$', '1']) := by
    rcases middle with - | ⟨c, cs⟩
    · rintro c ⟨⟩
      decide
    · exact word
  have first : Template.parse statement.toList =
      (Template.parse (middle ++ ['$', '1'])).after (.positional ['0']) := by
    rw [hst]
    exact Template.parse_source_append zero ends
  have second : Template.parse ['$', '1'] = (Template.parse []).after (.positional ['1']) :=
    Template.parse_source_append one nofun
  rw [render, literals]
  simp only [fillPlaceholders, first, List.map_cons, List.map_nil, Template.fill_after_cons]
  rw [Template.fill_plain dollar, second, Template.fill_after_cons, Template.parse_nil]
  simp [Template.fill, Template.fillTail]

theorem render_overlong (statement : String) (ha : IsScalar a) (hb : IsScalar b)
    (h : ¬ (Simple a ∧ Simple b)) :
    render statement [a, b] blank = .error .longInteger := by
  have literals : [a, b].mapM (literal? blank) = .error .longInteger := by
    by_cases simple : Simple a
    · obtain ⟨left, hl, -⟩ := literal_form blank ha simple
      have long := literal_overlong blank hb fun hs => h ⟨simple, hs⟩
      rw [List.mapM_cons, hl, List.mapM_cons, long]
      rfl
    · rw [List.mapM_cons, literal_overlong blank ha simple]
      rfl
  rw [render, literals]

/-- **Spaces around a symbol.**  With spaces around it the symbol is the operator between the
two literals, unless one of these is an integer of too many digits.  Without spaces the
condition is read in the same way, or fails in the same way, exactly if the symbol is not a
point between two digits. -/
theorem parse_unspaced (blank : Blank) (hs : (symbol, op) ∈ symbols) (ha : IsScalar a)
    (hb : IsScalar b) :
    (Simple a ∧ Simple b → parseRendered ("$0 " ++ symbol ++ " $1") [a, b] blank
      = .ok (.binary op (leaf blank a) (leaf blank b))) ∧
    (¬ (Simple a ∧ Simple b) → parseRendered ("$0 " ++ symbol ++ " $1") [a, b] blank
      = .error (.number .longInteger)) ∧
    (parseRendered ("$0" ++ symbol ++ "$1") [a, b] blank
        = parseRendered ("$0 " ++ symbol ++ " $1") [a, b] blank ↔
      ¬ (symbol = "." ∧ EndsInDigit a ∧ StartsWithDigit b)) := by
  have long : ¬ (Simple a ∧ Simple b) → ∀ statement,
      parseRendered statement [a, b] blank = .error (.number .longInteger) := by
    intro h statement
    rw [parseRendered, render_overlong statement ha hb h]
  by_cases simple : Simple a ∧ Simple b
  · obtain ⟨left, hl, formLeft⟩ := literal_form blank ha simple.1
    obtain ⟨right, hr, formRight⟩ := literal_form blank hb simple.2
    have spaced : parseRendered ("$0 " ++ symbol ++ " $1") [a, b] blank
        = .ok (.binary op (leaf blank a) (leaf blank b)) := by
      have rendered := @render_operands blank a b left right ("$0 " ++ symbol ++ " $1")
        (' ' :: (symbol.toList ++ [' '])) hl hr (by simp) (by simpa using symbol_no_dollar hs)
        (by rintro c ⟨⟩; decide)
      have read := parse_operands hs formLeft formRight [' ']
        (List.forall_mem_singleton.mpr rfl) fun _ => ⟨by rintro c ⟨⟩; decide, nofun⟩
      rw [parseRendered, rendered, ← read]
      simp
    refine ⟨fun _ => spaced, fun h => absurd simple h, ?_⟩
    have rendered := @render_operands blank a b left right ("$0" ++ symbol ++ "$1")
      symbol.toList hl hr (by simp) (symbol_no_dollar hs) fun c hc => (symbol_head hs c hc).2.1
    rw [spaced, parseRendered, rendered]
    by_cases fused : symbol = "." ∧ EndsInDigit a ∧ StartsWithDigit b
    · obtain ⟨rfl, ends, starts⟩ := fused
      refine iff_of_false ?_ (not_not.mpr ⟨rfl, ends, starts⟩)
      -- a number is no concatenation
      obtain ⟨z, read | read⟩ := parse_fused formLeft formRight ends starts
      · exact fun same => nomatch read.symm.trans same
      · exact fun same => nomatch read.symm.trans same
    · refine iff_of_true ?_ fused
      exact parse_operands hs formLeft formRight [] nofun fun ends =>
        ends_of_symbol hs formRight fun h => fused ⟨h.1, ends, h.2⟩
  · refine ⟨fun h => absurd h simple, fun h => long h _, ?_⟩
    rw [long simple, long simple]
    exact iff_of_true rfl fun h => simple ⟨h.2.1.simple, h.2.2.simple⟩

/-- A minus sign between an integer and a negative one. -/
theorem parse_unspaced_minus :
    ("-", .arith .sub) ∈ symbols ∧ IsScalar (.int 3) ∧ IsScalar (.int (-2)) ∧
      parseRendered "$0-$1" [.int 3, .int (-2)] .empty
        = .ok (.binary (.arith .sub) (.literal (.int 3)) (.unary .neg (.literal (.int 2)))) := by
  have hs : ("-", .arith .sub) ∈ symbols := by decide
  have three : Simple (.int 3) := show Text.digitCount 3 ≤ integerLimit by decide
  have two : Simple (.int (-2)) := show Text.digitCount 2 ≤ integerLimit by decide
  obtain ⟨spaced, -, same⟩ := @parse_unspaced (.int 3) (.int (-2)) "-" _ .empty hs trivial trivial
  have minus : "-" ≠ "." := by decide
  exact ⟨hs, trivial, trivial, (same.mpr fun h => minus h.1).trans (spaced ⟨three, two⟩)⟩

/-- Two zeros with a point between them are no concatenation but the number zero, which is
false, while the text of two zeros is true. -/
theorem zeros_fused :
    parseRendered "$0.$1" [.int 0, .int 0] .empty = .ok (.literal (.float (.zero false))) ∧
      parseRendered "$0 . $1" [.int 0, .int 0] .empty
        = .ok (.binary .concat (.literal (.int 0)) (.literal (.int 0))) ∧
      holds "0.0" = .ok false ∧ holds "0 . 0" = .ok true := by
  refine ⟨?_, ?_, ?_, ?_⟩
  · with_unfolding_all rfl
  · with_unfolding_all rfl
  · with_unfolding_all rfl
  · with_unfolding_all rfl

end Rendering

end SqlScript.Condition
