/-
SqlScript/Proofs/Condition/Blanks.lean

Absent values and empty texts in conditions.

No operator tells the absent value and the empty text apart: as a number both are zero, as a
text both are empty, and neither is true.  So putting empty texts in the place of absent values
changes the value of a condition in this way at most (`Tree.eval_emptied`).

A condition is therefore as true with empty texts for its absent arguments as with the word for
the absent value (`blanks_alike`), if the literals are read as such: white space has to stand
around them (`Separate`), and no quote may be open (`Unquoted`).  A condition that is malformed
is malformed under both policies, at the same token.  But the errors name the token, if it is
such a literal, and its place (`misplaced_blank_differs`).
-/
import SqlScript.Proofs.Condition.Pieces
import SqlScript.Proofs.Condition.Numerals
import SqlScript.Proofs.Template.Interpolation
import SqlScript.Proofs.Template.Markers

namespace SqlScript.Condition

/-! ### Values -/

/-- A value, with the empty text for the absent value. -/
def emptied : Value → Value
  | .null => .text ""
  | v => v

@[simp] theorem signals_emptied (v : Value) : signals (emptied v) = signals v := by
  cases v <;> rfl

@[simp] theorem number?_emptied (v : Value) : number? (emptied v) = number? v := by
  cases v <;> rfl

@[simp] theorem toText?_emptied (v : Value) : toText? (emptied v) = toText? v := by
  cases v <;> rfl

@[simp] theorem truth?_emptied (v : Value) : truth? (emptied v) = truth? v := by
  cases v <;> rfl

@[simp] theorem apply_emptied (op : BinaryOp) (v w : Value) :
    apply op (emptied v) (emptied w) = apply op v w := by
  cases op <;> simp only [apply, bothNumbers, number?_emptied, toText?_emptied]

@[simp] theorem applyUnary_emptied (op : UnaryOp) (v : Value) :
    applyUnary op (emptied v) = applyUnary op v := by
  cases op <;> simp only [applyUnary, number?_emptied, truth?_emptied]

theorem emptied_ofNumber (n : Number) : emptied (ofNumber n) = ofNumber n := by
  cases n <;> rfl

/-- No operator has the absent value for its result. -/
theorem map_emptied_apply (op : BinaryOp) (v w : Value) :
    (apply op v w).map emptied = apply op v w := by
  cases op with
  | concat | text r =>
    rw [apply]
    split <;> rfl
  | number r =>
    rw [apply]
    split <;> rfl
  | arith o =>
    rw [apply]
    rcases bothNumbers v w with f | ⟨a, b⟩
    · rfl
    simp only
    rcases arith o a b with f | n
    · rfl
    · exact congrArg Except.ok (emptied_ofNumber n)
  | or | and | other name =>
    simp only [apply]
    split <;> rfl

theorem map_emptied_applyUnary (op : UnaryOp) (v : Value) :
    (applyUnary op v).map emptied = applyUnary op v := by
  cases op with
  | not =>
    rw [applyUnary]
    split <;> rfl
  | neg =>
    rw [applyUnary]
    rcases number? v with f | n
    · rfl
    · exact congrArg Except.ok (emptied_ofNumber n.neg)

/-! ### Trees -/

/-- A condition, with empty texts for the absent values in it. -/
def Tree.emptied : Tree → Tree := Tree.graft fun v => .literal (Condition.emptied v)

/-- **Conditions do not tell absent values and empty texts apart.** -/
theorem Tree.eval_emptied (t : Tree) : t.emptied.eval = t.eval.map Condition.emptied := by
  induction t with
  | literal v => rfl
  | stray v => rfl
  | unary op t ih =>
    show (Tree.unary op t.emptied).eval = _
    rw [Tree.eval, Tree.eval, ih]
    rcases t.eval with f | v
    · rfl
    · exact (applyUnary_emptied op v).trans (map_emptied_applyUnary op v).symm
  | binary op l r ihl ihr =>
    show (Tree.binary op l.emptied r.emptied).eval = _
    rcases hl : l.eval with f | v
    · rw [hl] at ihl
      cases op <;> simp only [Tree.eval, ihl, hl] <;> rfl
    rw [hl] at ihl
    have left : l.emptied.eval = .ok (Condition.emptied v) := ihl
    cases op with
    -- the value of a connective is that of one of its operands
    | and =>
      simp only [Tree.eval, left, hl, truth?_emptied]
      rcases truth? v with f | b
      · rfl
      cases b with
      | false => rfl
      | true => exact ihr
    | or =>
      simp only [Tree.eval, left, hl, truth?_emptied]
      rcases truth? v with f | b
      · rfl
      cases b with
      | false => exact ihr
      | true => rfl
    | number | text | arith | concat | other =>
      simp only [Tree.eval, left, hl, ihr]
      rcases r.eval with f | w
      · rfl
      · exact (apply_emptied _ v w).trans (map_emptied_apply _ v w).symm

/-- The second condition is the first one with empty texts in the place of some of its absent
values. -/
inductive Blanked : Tree → Tree → Prop
  | literal (v : Value) : Blanked (.literal v) (.literal v)
  | blank : Blanked (.literal .null) (.literal (.text ""))
  | stray (v : Value) : Blanked (.stray v) (.stray v)
  | unary (op : UnaryOp) {t t' : Tree} (operand : Blanked t t') :
      Blanked (.unary op t) (.unary op t')
  | binary (op : BinaryOp) {l l' r r' : Tree} (left : Blanked l l') (right : Blanked r r') :
      Blanked (.binary op l r) (.binary op l' r')

theorem Blanked.emptied {t u : Tree} (h : Blanked t u) : t.emptied = u.emptied := by
  induction h with
  | literal v => rfl
  | blank => rfl
  | stray v => rfl
  | unary op _ ih => exact congrArg (Tree.unary op) ih
  | binary op _ _ ihl ihr => exact congrArg₂ (Tree.binary op) ihl ihr

/-- Two evaluations have the same error, or values that are equally true. -/
inductive SameTruth : Except Fault Value → Except Fault Value → Prop
  | value {v w : Value} (same : truth? v = truth? w) : SameTruth (.ok v) (.ok w)
  | fault (f : Fault) : SameTruth (.error f) (.error f)

/-- Conditions that are the same but for absent values and empty texts are equally true. -/
theorem sameTruth_of_emptied {t u : Tree} (h : t.emptied = u.emptied) :
    SameTruth t.eval u.eval := by
  have same : t.eval.map emptied = u.eval.map emptied := by
    rw [← Tree.eval_emptied, ← Tree.eval_emptied, h]
  rcases ht : t.eval with f | v <;> rcases hu : u.eval with g | w <;> rw [ht, hu] at same
  · cases same
    exact .fault f
  · cases same
  · cases same
  · refine .value ?_
    rw [← truth?_emptied v, ← truth?_emptied w, Except.ok.inj same]

/-! ### Literals -/

/-- Tokens that are the same but for their places, or the literals of the absent value. -/
inductive BlankAlike : Token → Token → Prop
  | same {t u : Token} (kind : t.kind = u.kind) (value : t.value = u.value) : BlankAlike t u
  | blank (p q : Nat) : BlankAlike ⟨.string, .text "", p⟩ ⟨.nullWord, .text "NULL", q⟩

theorem placeless_blankAlike : Placeless BlankAlike := by
  rintro ⟨kind, value, p⟩ ⟨kind', value', q⟩ h
  obtain ⟨hkind, hvalue, -⟩ := Token.mk.inj h
  exact .same hkind hvalue

/-- Reading does not tell the literals of the absent value apart. -/
theorem BlankAlike.matches {t u : Token} (h : BlankAlike t u) :
    t.Matches (fun v => .literal (emptied v)) u := by
  cases h with
  | same kind value =>
    have atoms : t.atom? = u.atom? := by
      rw [Token.atom?, Token.atom?, kind, value]
    rcases ht : t.atom? with - | v
    · exact .kinds ht kind
    · exact .atoms ht (atoms ▸ ht) rfl
  | blank p q => exact .atoms rfl rfl rfl

/-- The literals of a value under the two policies: those of the absent value, or the same
text, in which every quote is closed. -/
inductive LiteralAlike : List Char → List Char → Prop
  | blank : LiteralAlike Blank.empty.literal.toList Blank.null.literal.toList
  | same {cs : List Char} (closed : openAfter none cs = none) : LiteralAlike cs cs

theorem not_quote_of_isDigit {c : Char} (h : Text.isDigit c = true) : ¬ (c = '\'' ∨ c = '"') := by
  rintro (rfl | rfl) <;> exact absurd h (by decide)

theorem openAfter_signed (negative : Bool) {cs : List Char}
    (h : ∀ c ∈ cs, ¬ (c = '\'' ∨ c = '"')) :
    openAfter none (Number.signed negative cs).toList = none := by
  apply openAfter_of_no_quote
  cases negative with
  | false => simpa [Number.signed] using h
  | true => simpa [Number.signed] using h

/-- A coefficient that is laid out has no quote in it. -/
theorem not_quote_of_mem_positional {c : Nat} {e : Int} {d : Char}
    (h : d ∈ Decimal.positional c e) : ¬ (d = '\'' ∨ d = '"') := by
  by_cases he : 0 ≤ e
  · rw [Decimal.positional_of_nonneg c he] at h
    exact not_quote_of_isDigit (Text.isDigit_natDigits _ d h)
  · obtain ⟨whole, places, layout, -, -, digits, -⟩ := Decimal.positional_of_neg c (not_le.mp he)
    rw [layout, List.mem_append, List.mem_cons] at h
    rcases h with h | rfl | h
    · exact not_quote_of_isDigit (digits d (List.mem_append_left _ h))
    · decide
    · exact not_quote_of_isDigit (digits d (List.mem_append_right _ h))

theorem openAfter_fixedText_decimal (d : Decimal) : openAfter none d.fixedText.toList = none := by
  cases d with
  | nan s q k =>
    apply openAfter_signed
    intro c hc
    rcases List.mem_append.mp hc with hc | hc
    · have plain : ∀ c ∈ (if q = true then "sNaN".toList else "NaN".toList),
          ¬ (c = '\'' ∨ c = '"') := by
        cases q <;> simp
      exact plain c hc
    · split at hc
      · cases hc
      · exact not_quote_of_isDigit (Text.isDigit_natDigits k c hc)
  | infinite s => exact openAfter_signed s (by simp)
  | finite s c e => exact openAfter_signed s fun _ => not_quote_of_mem_positional

theorem openAfter_fixedText_float (x : Binary64) : openAfter none x.fixedText.toList = none := by
  cases x with
  | nan => decide
  | infinite s => exact openAfter_signed s (by simp)
  | finite s m e => exact openAfter_signed s fun _ => not_quote_of_mem_positional (e := -6)

theorem openAfter_intText (n : Int) : openAfter none (Text.intText n).toList = none := by
  have digits (k : Nat) : ∀ c ∈ Text.natDigits k, ¬ (c = '\'' ∨ c = '"') :=
    fun c hc => not_quote_of_isDigit (Text.isDigit_natDigits k c hc)
  apply openAfter_of_no_quote
  rw [Text.intText]
  split
  · simpa [Text.natText] using digits n.natAbs
  · simpa [Text.natText] using digits n.natAbs

theorem literal?_closed {blank : Blank} {v : Value} {text : String} (hv : v ≠ .null)
    (h : literal? blank v = .ok text) : openAfter none text.toList = none := by
  have quoted (s : String) : openAfter none (String.ofList (quote s.toList)).toList = none := by
    rw [String.toList_ofList]
    exact (Lexeme.quoted s).openAfter_text
  cases v with
  | null => exact absurd rfl hv
  | bool b =>
    cases h
    cases b <;> decide
  | int n =>
    rw [literal?, Value.text?] at h
    split at h <;> cases h
    exact openAfter_intText n
  | float x =>
    cases h
    exact openAfter_fixedText_float x
  | decimal d =>
    cases h
    exact openAfter_fixedText_decimal d
  | text s | bytes bs | list vs =>
    simp only [literal?] at h
    split at h <;> cases h
    exact quoted _

/-- Only the absent value is written as the policy says. -/
theorem literal?_of_ne_null {v : Value} (h : v ≠ .null) (b b' : Blank) :
    literal? b v = literal? b' v := by
  cases v with
  | null => exact absurd rfl h
  | bool _ | int _ | float _ | text _ | bytes _ | decimal _ | list _ => rfl

/-- The literals of a value are alike under the two policies, unless it cannot be written. -/
theorem literal_alike (v : Value) :
    (∃ f, literal? .empty v = .error f ∧ literal? .null v = .error f) ∨
      ∃ x y, literal? .empty v = .ok x ∧ literal? .null v = .ok y ∧
        LiteralAlike x.toList y.toList := by
  by_cases hv : v = .null
  · subst hv
    exact .inr ⟨_, _, rfl, rfl, .blank⟩
  rw [literal?_of_ne_null hv .null .empty]
  rcases hx : literal? .empty v with f | x
  · exact .inl ⟨f, rfl, rfl⟩
  · exact .inr ⟨x, x, rfl, rfl, .same (literal?_closed hv hx)⟩

/-- The literals of values are alike, one by one, or the same value cannot be written. -/
theorem literals_alike (args : List Value) :
    (∃ f, args.mapM (literal? .empty) = .error f ∧ args.mapM (literal? .null) = .error f) ∨
      ∃ xs ys, args.mapM (literal? .empty) = .ok xs ∧ args.mapM (literal? .null) = .ok ys ∧
        List.Forall₂ LiteralAlike (xs.map String.toList) (ys.map String.toList) := by
  induction args with
  | nil => exact .inr ⟨[], [], rfl, rfl, .nil⟩
  | cons v args ih =>
    rw [List.mapM_cons, List.mapM_cons]
    rcases literal_alike v with ⟨f, hx, hy⟩ | ⟨x, y, hx, hy, alike⟩
    · rw [hx, hy]
      exact .inl ⟨f, rfl, rfl⟩
    rcases ih with ⟨f, hxs, hys⟩ | ⟨xs, ys, hxs, hys, rest⟩
    · rw [hx, hy, hxs, hys]
      exact .inl ⟨f, rfl, rfl⟩
    · rw [hx, hy, hxs, hys]
      exact .inr ⟨x :: xs, y :: ys, rfl, rfl, .cons alike rest⟩

/-! ### White space around placeholders -/

/-- White space stands around every placeholder, unless the statement starts or ends there. -/
structure Separate (t : Template) : Prop where
  before : ∀ piece ∈ t.pieces.dropLast, piece.getLast?.all Text.isBlank = true
  behind : ∀ piece ∈ t.pieces.tail, piece.head?.all Text.isBlank = true
  between : ∀ piece ∈ t.pieces.tail.dropLast, piece ≠ []

instance (t : Template) : Decidable (Separate t) :=
  decidable_of_iff
    ((∀ piece ∈ t.pieces.dropLast, piece.getLast?.all Text.isBlank = true) ∧
      (∀ piece ∈ t.pieces.tail, piece.head?.all Text.isBlank = true) ∧
      ∀ piece ∈ t.pieces.tail.dropLast, piece ≠ [])
    ⟨fun ⟨before, behind, between⟩ => ⟨before, behind, between⟩,
      fun ⟨before, behind, between⟩ => ⟨before, behind, between⟩⟩

theorem separate_next {head next : List Char} {p : Placeholder}
    {tail : List (Placeholder × List Char)} (h : Separate ⟨head, (p, next) :: tail⟩) :
    Separate ⟨next, tail⟩ ∧ head.getLast?.all Text.isBlank = true ∧
      next.head?.all Text.isBlank = true ∧ (tail ≠ [] → next ≠ []) := by
  obtain ⟨before, behind, between⟩ := h
  have pieces : (Template.pieces ⟨head, (p, next) :: tail⟩).dropLast =
      head :: (Template.pieces ⟨next, tail⟩).dropLast := rfl
  rw [pieces, List.forall_mem_cons] at before
  have inner : (Template.pieces ⟨next, tail⟩).tail.dropLast ⊆
      (Template.pieces ⟨next, tail⟩).dropLast := by
    rw [← List.tail_dropLast]
    exact List.tail_subset _
  refine ⟨⟨before.2, ?_, ?_⟩, before.1, behind next List.mem_cons_self, ?_⟩
  · exact fun piece hp => behind piece (List.mem_cons_of_mem _ hp)
  · exact fun piece hp => between piece (inner hp)
  · intro hne
    obtain ⟨q, tail, rfl⟩ := List.exists_cons_of_ne_nil hne
    exact between next List.mem_cons_self

section Space

variable {c : Char} {cs a b : List Char} {R : Token → Token → Prop}

theorem parted_of_blank (h : ∀ c ∈ cs.head?, Text.isBlank c = true) : Parted cs := by
  have cut := Text.cut_of_blank h
  intro c hc
  obtain ⟨-, name, digit, -⟩ := cut c hc
  refine ⟨digit, ?_, ?_⟩
  · rw [Placeholder.isNameChar, Bool.or_eq_false_iff] at name
    exact name.1
  · intro hmem
    simp only [List.mem_cons, List.not_mem_nil, or_false] at hmem
    rcases hmem with rfl | rfl | rfl | rfl <;> exact absurd (h _ hc) (by decide)

/-- No lexeme starts with white space. -/
theorem lexeme?_blank (h : Text.isBlank c = true) (cs : List Char) : lexeme? c cs = none := by
  have parted : Parted [c] := parted_of_blank (by simpa using h)
  obtain ⟨digit, word, -⟩ := parted c rfl
  have start : ¬ isWordStart c = true := by
    intro hs
    simp_all [isWordStart, isWordChar, Char.isAlphanum]
  have quote : ¬ (c = '\'' ∨ c = '"') := by
    rintro (rfl | rfl) <;> exact absurd h (by decide)
  have point : c ≠ '.' := by
    rintro rfl
    exact absurd h (by decide)
  rw [lexeme?, if_neg (by simp [digit]), if_neg point, if_neg quote, if_neg start]
  exact operator?_of_class (p := Text.isBlank) (by decide) h _

/-- White space may stand in front of both texts. -/
theorem InStep.blank (hc : Text.isBlank c = true) (h : InStep R a b) :
    InStep R (c :: a) (c :: b) := by
  by_cases gap : isGap c = true
  · exact h.gap gap
  -- white space that is no gap is illegal
  intro p q
  rw [lexFrom, lexFrom, if_neg gap, if_neg gap, lexeme?_blank hc, lexeme?_blank hc]
  exact ⟨.nil, rfl⟩

/-- The same piece may stand in front of both, if it leaves no quote open and ends in white
space. -/
theorem InStep.piece_blank (hR : Placeless R) (closed : openAfter none cs = none)
    (hcs : cs.getLast?.all Text.isBlank = true) (h : InStep R a b) :
    InStep R (cs ++ a) (cs ++ b) := by
  rcases List.eq_nil_or_concat cs with rfl | ⟨front, c, rfl⟩
  · exact h
  have hc : Text.isBlank c = true := by simpa using hcs
  have quote : ¬ (c = '\'' ∨ c = '"') := by
    rintro (rfl | rfl) <;> exact absurd hc (by decide)
  rw [List.concat_eq_append, openAfter_concat quote (by simp)] at closed
  rw [List.concat_eq_append, List.append_assoc, List.append_assoc]
  exact InStep.piece hR closed (parted_of_blank (by simpa using hc))
    (parted_of_blank (by simpa using hc)) (h.blank hc)

end Space

/-! ### Statements -/

theorem parted_of_blank_append {cs rest : List Char} (h : cs.head?.all Text.isBlank = true)
    (hr : cs = [] → rest = []) : Parted (cs ++ rest) := by
  apply parted_of_blank
  rcases cs with - | ⟨c, cs⟩
  · rw [hr rfl]
    exact nofun
  · simpa using h

/-- Literals of one value may stand in front of two texts that start with white space. -/
theorem InStep.literal {x y a b : List Char} (alike : LiteralAlike x y) (ha : Parted a)
    (hb : Parted b) (h : InStep BlankAlike a b) : InStep BlankAlike (x ++ a) (y ++ b) := by
  cases alike with
  | blank =>
    exact InStep.lexeme (.quoted "") .nullWord BlankAlike.blank
      (front?_quote [] a) (Lexeme.nullWord.front?_parted hb) h
  | same closed => exact InStep.piece placeless_blankAlike closed ha hb h

/-- **A statement is lexed in step** with the literals of either policy. -/
theorem inStep_blanks {t : Template} (separate : Separate t) (unquoted : Unquoted t)
    {xs ys : List (List Char)} (h : List.Forall₂ LiteralAlike xs ys) :
    InStep BlankAlike (t.fill xs) (t.fill ys) := by
  obtain ⟨head, tail⟩ := t
  -- along the placeholders: a piece that ends in white space, a literal, and the rest
  induction tail generalizing head xs ys with
  | nil => apply InStep.refl placeless_blankAlike
  | cons p tail ih =>
    obtain ⟨p, next⟩ := p
    cases h with
    | nil => exact InStep.refl placeless_blankAlike _
    | @cons x y xs ys alike h =>
      have pieces : (Template.pieces ⟨head, (p, next) :: tail⟩).dropLast =
          head :: (Template.pieces ⟨next, tail⟩).dropLast := rfl
      rw [Unquoted, pieces, List.forall_mem_cons] at unquoted
      obtain ⟨separate, before, behind, between⟩ := separate_next separate
      have rest := ih h next separate unquoted.2
      have parted (zs : List (List Char)) : Parted (Template.fill ⟨next, tail⟩ zs) := by
        refine parted_of_blank_append behind fun empty => ?_
        rcases tail with - | ⟨q, tail⟩
        · rfl
        · exact absurd empty (between (List.cons_ne_nil q tail))
      rw [Template.fill_cons_tail, Template.fill_cons_tail]
      exact ((rest.literal alike (parted xs) (parted ys)).piece_blank placeless_blankAlike
        unquoted.1 before)

/-- Statements whose literals are alike consist of white space together. -/
theorem allBlank_fill (t : Template) {xs ys : List (List Char)}
    (h : List.Forall₂ LiteralAlike xs ys) :
    Text.allBlank (t.fill xs) = Text.allBlank (t.fill ys) := by
  obtain ⟨head, tail⟩ := t
  induction tail generalizing head xs ys with
  | nil => rfl
  | cons p tail ih =>
    obtain ⟨p, next⟩ := p
    cases h with
    | nil => rfl
    | @cons x y xs ys alike h =>
      have literals : Text.allBlank x = Text.allBlank y := by
        cases alike with
        | blank => decide
        | same => rfl
      have rest := ih h next
      rw [Template.fill_cons_tail, Template.fill_cons_tail]
      simp only [Text.allBlank, List.all_append] at literals rest ⊢
      rw [literals, rest]

/-- The answer of a statement as a condition, with given arguments. -/
def answer (statement : String) (args : List Value) (blank : Blank) : Except Fault Bool :=
  match render statement args blank with
  | .error f => .error (.number f)
  | .ok text => holds text

/-- Errors of form of the same kind: at the same character or the same token, or at the literals
of the absent value, though not in the same place. -/
inductive FormAlike : FormError → FormError → Prop
  | illegal (c : Char) (p q : Nat) : FormAlike (.illegal c p) (.illegal c q)
  | unexpected {t u : Token} (alike : BlankAlike t u) : FormAlike (.unexpected t) (.unexpected u)
  | unexpectedEnd : FormAlike .unexpectedEnd .unexpectedEnd

/-- The same answer, the same error, or errors of form that are alike. -/
inductive SameAnswer : Except Fault Bool → Except Fault Bool → Prop
  | same (x : Except Fault Bool) : SameAnswer x x
  | form {e e' : FormError} (alike : FormAlike e e') :
      SameAnswer (.error (.form e)) (.error (.form e'))

/-- Conditions that are read alike have the same answer. -/
theorem ReadAlike.sameAnswer {s t : String} (blank : Text.allBlank s.toList = Text.allBlank t.toList)
    (h : ReadAlike (fun v => .literal (emptied v)) BlankAlike (parse s) (parse t)) :
    SameAnswer (holds s) (holds t) := by
  rw [holds, holds, ← blank]
  by_cases hb : Text.allBlank s.toList = true
  · rw [if_pos hb, if_pos hb]
    exact .same _
  rw [if_neg hb, if_neg hb]
  generalize parse s = x at h
  generalize parse t = y at h
  cases h with
  | @tree t u same =>
    have truth := sameTruth_of_emptied same
    simp only
    generalize t.eval = v at truth
    generalize u.eval = w at truth
    cases truth with
    | value same =>
      simp only [same]
      exact .same _
    | fault f => exact .same _
  | unexpected related => exact .form (.unexpected related)
  | illegal c p q => exact .form (.illegal c p q)
  | unexpectedEnd => exact .form .unexpectedEnd
  | overlong digits => exact .same _

/-- **Absent values are as good as empty texts.**  In a condition, putting empty texts for any
of its absent values changes neither its error nor whether it is true.  So a statement with
white space around its placeholders, none of which stands in quotes, has the same answer under
the policies that write absent values in the one way and in the other. -/
theorem blanks_alike :
    (∀ {t u : Tree}, Blanked t u → SameTruth t.eval u.eval) ∧
      ∀ {statement : String}, Separate (Template.parse statement.toList) →
        Unquoted (Template.parse statement.toList) → ∀ args : List Value,
        SameAnswer (answer statement args .empty) (answer statement args .null) := by
  refine ⟨fun h => sameTruth_of_emptied h.emptied, fun separate unquoted args => ?_⟩
  rw [answer, answer, render, render]
  rcases literals_alike args with ⟨f, hx, hy⟩ | ⟨xs, ys, hx, hy, alike⟩
  · rw [hx, hy]
    exact .same _
  rw [hx, hy]
  refine ReadAlike.sameAnswer ?_ (parse_inStep (fun _ _ => BlankAlike.matches) ?_)
  · rw [fillPlaceholders, fillPlaceholders, String.toList_ofList, String.toList_ofList]
    exact allBlank_fill _ alike
  · rw [fillPlaceholders, fillPlaceholders, String.toList_ofList, String.toList_ofList]
    exact inStep_blanks separate unquoted alike

/-- A comparison of an absent value with a number, and the negation of another one. -/
theorem absentRole_alike :
    SameTruth
        (Tree.binary (.number .eq) (.literal .null) (.unary .neg (.literal .null))).eval
        (Tree.binary (.number .eq) (.literal (.text "")) (.unary .neg (.literal .null))).eval ∧
      Separate (Template.parse "$!role == 0 and not $1".toList) ∧
      Unquoted (Template.parse "$!role == 0 and not $1".toList) ∧
      SameAnswer (answer "$!role == 0 and not $1" [.null, .null] .empty)
        (answer "$!role == 0 and not $1" [.null, .null] .null) ∧
      answer "$!role == 0 and not $1" [.null, .null] .null = .ok true := by
  have separate : Separate (Template.parse "$!role == 0 and not $1".toList) := by
    decide +kernel
  have unquoted : Unquoted (Template.parse "$!role == 0 and not $1".toList) := by
    decide +kernel
  have blanked : Blanked (.binary (.number .eq) (.literal .null) (.unary .neg (.literal .null)))
      (.binary (.number .eq) (.literal (.text "")) (.unary .neg (.literal .null))) :=
    .binary _ .blank (.unary _ (.literal _))
  refine ⟨blanks_alike.1 blanked, separate, unquoted,
    blanks_alike.2 separate unquoted [.null, .null], ?_⟩
  with_unfolding_all rfl

/-- An absent value that stands where no operand can: the errors name its literal. -/
theorem misplaced_blank_differs :
    Separate (Template.parse "1 $0".toList) ∧ Unquoted (Template.parse "1 $0".toList) ∧
      ∃ f g, answer "1 $0" [.null] .empty = .error f ∧ answer "1 $0" [.null] .null = .error g ∧
        f.message = "Syntax error at '' (position 2)" ∧
        g.message = "Syntax error at 'NULL' (position 2)" := by
  refine ⟨by decide +kernel, by decide +kernel, .form (.unexpected ⟨.string, .text "", 2⟩),
    .form (.unexpected ⟨.nullWord, .text "NULL", 2⟩), ?_, ?_, ?_, ?_⟩
  · with_unfolding_all rfl
  · with_unfolding_all rfl
  · with_unfolding_all rfl
  · with_unfolding_all rfl

end SqlScript.Condition
