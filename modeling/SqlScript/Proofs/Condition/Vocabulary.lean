/-
SqlScript/Proofs/Condition/Vocabulary.lean

The vocabulary of conditions: what is read is known to evaluation, in any case of letters.

Every operator of a tree that is read comes from a token, and the operators of tokens are known
(`Phrase.known`).  So the value of a condition fails in arithmetic alone.

Where lexemes end does not depend on the case of letters (`front?_map_toLower`): letters make up
words alone, and whether a character is a letter does not depend on its case.  The kind of a
word does not depend on it either.  A text in which words with a meaning of their own have been
written in another case (`Recased`) is therefore lexed in step with the text itself, and read
as the same tree (`parsed_vocabulary`).
-/
import SqlScript.Proofs.Condition.Faults
import SqlScript.Proofs.Condition.Pieces
import SqlScript.Proofs.Condition.Printing
import SqlScript.Proofs.Condition.Soundness
import SqlScript.Proofs.Template.Markers

namespace SqlScript.Condition

/-! ### Operators -/

/-- The operators of tokens are known. -/
theorem Kind.known_of_binary? {kind : Kind} {op : BinaryOp} (h : kind.binary? = some op)
    (name : String) : op ≠ .other name := by
  rintro rfl
  cases kind <;> cases h

/-- **What is read is known.** -/
theorem Phrase.known {bare : Bool} {us : List Token} {x : Tree} (h : Phrase bare us x) :
    x.IsKnown := by
  induction h with
  | atom h => trivial
  | signed hs _ ih => exact ih
  | joined ho _ _ _ ihl ihr => exact ⟨Kind.known_of_binary? ho, ihl, ihr⟩
  | enclosed hl hr _ ih => exact ih

theorem known_of_parse {text : String} {tree : Tree} (h : parse text = .ok tree) :
    tree.IsKnown := by
  obtain ⟨ts, r, -, run, last⟩ := tokens_of_parse h
  have start : Reading.Holds {} [] := Pending.nil
  obtain ⟨bare, phrase⟩ := (start.run run).phrase last
  exact phrase.known

/-! ### The case of letters -/

section Case

variable {c : Char} {cs : List Char}

/-- A property that all letters have or none does not depend on the case of a letter. -/
theorem class_toLower {p : Char → Bool} {b : Bool} (letters : ∀ c, c.isAlpha = true → p c = b)
    (c : Char) : p c.toLower = p c := by
  by_cases h : c.isAlpha = true
  · rw [letters c h, letters _ (by rw [Char.isAlpha_toLower_eq_isAlpha, h])]
  · rw [Char.toLower_eq_of_not_isUpper fun hu => h (by simp [Char.isAlpha, hu])]

theorem isDigit_toLower (c : Char) : Text.isDigit c.toLower = Text.isDigit c :=
  class_toLower (fun _ => isDigit_letter) c

theorem isWordStart_toLower (c : Char) : isWordStart c.toLower = isWordStart c :=
  class_toLower (b := true) (fun c h => by simp [isWordStart, h]) c

theorem isWordChar_toLower (c : Char) : isWordChar c.toLower = isWordChar c :=
  class_toLower (b := true) (fun c h => by simp [isWordChar, Char.isAlphanum, h]) c

/-- A character that is no letter is the lower case of itself alone. -/
theorem toLower_eq_iff {x : Char} (hx : x.isAlpha = false) : c.toLower = x ↔ c = x := by
  have same : decide (c.toLower = x) = decide (c = x) := by
    refine class_toLower (p := fun c => decide (c = x)) (b := false) ?_ c
    intro d hd
    rw [decide_eq_false_iff_not]
    rintro rfl
    rw [hx] at hd
    cases hd
  simpa using same

theorem isBlank_letter (h : c.isAlpha = true) : Text.isBlank c = false := by
  rw [← Bool.not_eq_true]
  intro blank
  have cut : Placeholder.Cut [c] := Text.cut_of_blank (by simpa using blank)
  have name := (cut c rfl).2.1
  simp [Placeholder.isNameChar, Char.isAlphanum, h] at name

theorem isBlank_toLower (c : Char) : Text.isBlank c.toLower = Text.isBlank c :=
  class_toLower (fun _ => isBlank_letter) c

theorem takeWhile_toLower {p : Char → Bool} (hp : ∀ c, p c.toLower = p c) (cs : List Char) :
    (cs.map Char.toLower).takeWhile p = (cs.takeWhile p).map Char.toLower := by
  have same : p ∘ Char.toLower = p := funext hp
  rw [List.takeWhile_map, same]

theorem dropWhile_toLower {p : Char → Bool} (hp : ∀ c, p c.toLower = p c) (cs : List Char) :
    (cs.map Char.toLower).dropWhile p = (cs.dropWhile p).map Char.toLower := by
  have same : p ∘ Char.toLower = p := funext hp
  rw [List.dropWhile_map, same]

theorem numberLexeme_toLower (cs : List Char) :
    numberLexeme (cs.map Char.toLower) = numberLexeme cs := by
  rw [numberLexeme, numberLexeme, takeWhile_toLower isDigit_toLower,
    dropWhile_toLower isDigit_toLower, List.length_map]
  rcases cs.dropWhile Text.isDigit with - | ⟨d, places⟩
  · rfl
  by_cases point : d = '.'
  · subst point
    have digits : ((places.map Char.toLower).takeWhile Text.isDigit).length =
        (places.takeWhile Text.isDigit).length := by
      rw [takeWhile_toLower isDigit_toLower, List.length_map]
    simp only [List.map_cons, Char.reduceToLower, digits]
  · have point' : d.toLower ≠ '.' := by
      rwa [Ne, toLower_eq_iff (by decide)]
    simp [point, point']

theorem closing?_toLower {q : Char} (hq : q = '\'' ∨ q = '"') (cs : List Char) :
    closing? q (cs.map Char.toLower) = closing? q cs := by
  have quote : q.isAlpha = false := by
    rcases hq with rfl | rfl <;> decide
  induction cs using closing?.induct q with
  | case1 cs =>
    show closing? q ('\\' :: '\n' :: cs.map Char.toLower) = _
    rw [closing?_lineFeed, closing?_lineFeed]
  | case2 c cs hc ih =>
    have newline : c.toLower ≠ '\n' := by
      rwa [Ne, toLower_eq_iff (by decide)]
    show closing? q ('\\' :: c.toLower :: cs.map Char.toLower) = _
    rw [closing?_escaped newline, closing?_escaped hc, ih]
  | case3 cs _ =>
    have same : q.toLower = q := (toLower_eq_iff quote).mpr rfl
    rw [List.map_cons, same, closing?_quote (quote_ne_backslash hq),
      closing?_quote (quote_ne_backslash hq)]
  | case4 cs hlast _ =>
    -- a backslash at the very end closes nothing
    rcases cs with - | ⟨c, cs⟩
    · rfl
    · exact (hlast c cs rfl rfl).elim
  | case5 c cs _ hcq hc ih =>
    have other : c.toLower ≠ q := by
      rwa [Ne, toLower_eq_iff quote]
    have plain : c.toLower ≠ '\\' := by
      rwa [Ne, toLower_eq_iff (by decide)]
    rw [List.map_cons, closing?_plain other plain, closing?_plain hcq hc, ih]
  | case6 => rfl

/-- No operator starts with a letter. -/
theorem operator?_letter (h : c.isAlpha = true) (next : Option Char) : operator? c next = none :=
  operator?_of_class (p := Char.isAlpha) (by decide) h next

theorem operator?_toLower (c : Char) (next : Option Char) :
    operator? c.toLower (next.map Char.toLower) = operator? c next := by
  by_cases hc : c.isAlpha = true
  · rw [operator?_letter hc, operator?_letter (by rwa [Char.isAlpha_toLower_eq_isAlpha])]
  rw [Char.toLower_eq_of_not_isUpper fun hu => hc (by simp [Char.isAlpha, hu])]
  rcases next with - | d
  · rfl
  -- an operator goes on with no letter either
  by_cases hd : d.isAlpha = true
  · have ends {d : Char} (hd : d.isAlpha = true) : ∀ e ∈ some d, e ∉ ['=', '&', '|'] := by
      rintro e ⟨⟩ he
      simp only [List.mem_cons, List.not_mem_nil, or_false] at he
      rcases he with rfl | rfl | rfl <;> exact absurd hd (by decide)
    rw [operator?_ends (ends hd), Option.map_some,
      operator?_ends (ends (by rwa [Char.isAlpha_toLower_eq_isAlpha]))]
  · rw [Option.map_some, Char.toLower_eq_of_not_isUpper fun hu => hd (by simp [Char.isAlpha, hu])]

theorem lexeme?_toLower (c : Char) (cs : List Char) :
    lexeme? c.toLower (cs.map Char.toLower) = lexeme? c cs := by
  by_cases hq : c = '\'' ∨ c = '"'
  · have same : c.toLower = c := by
      rcases hq with rfl | rfl <;> rfl
    rw [same, lexeme?_quote hq, lexeme?_quote hq, closing?_toLower hq]
  have quoted : ¬ (c.toLower = '\'' ∨ c.toLower = '"') := by
    rwa [toLower_eq_iff (by decide), toLower_eq_iff (by decide)]
  have point : c.toLower = '.' ↔ c = '.' := toLower_eq_iff (by decide)
  have word : wordKind (c.toLower :: (cs.takeWhile isWordChar).map Char.toLower) =
      wordKind (c :: cs.takeWhile isWordChar) := by
    rw [← List.map_cons, wordKind_toLower]
  simp only [lexeme?, isDigit_toLower, if_neg hq, if_neg quoted, point, isWordStart_toLower, word,
    numberLexeme_toLower, takeWhile_toLower isWordChar_toLower, List.length_map, List.head?_map,
    operator?_toLower]

/-- **Where lexemes end and of which kinds they are does not depend on the case of letters.** -/
theorem front?_map_toLower (cs : List Char) : front? (cs.map Char.toLower) = front? cs := by
  rcases cs with - | ⟨c, cs⟩
  · rfl
  · rw [List.map_cons, front?, front?, lexeme?_toLower]

theorem front?_of_toLower_eq {ds : List Char} (h : cs.map Char.toLower = ds.map Char.toLower) :
    front? cs = front? ds := by
  rw [← front?_map_toLower cs, h, front?_map_toLower]

end Case

/-! ### Words in another case -/

/-- The second text is the first one with some of its words that have a meaning of their own
written in another case of letters. -/
inductive Recased : List Char → List Char → Prop
  | nil : Recased [] []
  | gap {c : Char} (hc : isGap c = true) {a b : List Char} (rest : Recased a b) :
      Recased (c :: a) (c :: b)
  | lexeme (l : Lexeme) {a b : List Char}
      (front : front? (l.text ++ a) = some (l.kind, l.text.length)) (rest : Recased a b) :
      Recased (l.text ++ a) (l.text ++ b)
  | word (l : Lexeme) (meaning : l.kind ∈ reserved.map Prod.snd) {word a b : List Char}
      (cased : word.map Char.toLower = l.text.map Char.toLower)
      (front : front? (l.text ++ a) = some (l.kind, l.text.length)) (rest : Recased a b) :
      Recased (l.text ++ a) (word ++ b)

/-- Tokens of one kind that are operands of the same value, or none. -/
def SameAtom (t u : Token) : Prop := t.kind = u.kind ∧ t.atom? = u.atom?

theorem placeless_sameAtom : Placeless SameAtom := by
  rintro ⟨kind, value, p⟩ ⟨kind', value', q⟩ h
  obtain ⟨rfl, rfl, -⟩ := Token.mk.inj h
  exact ⟨rfl, rfl⟩

theorem SameAtom.matches {t u : Token} (h : SameAtom t u) : t.Matches .literal u := by
  rcases ht : t.atom? with - | v
  · exact .kinds ht h.1
  · exact .atoms ht (h.2 ▸ ht) rfl

namespace Recased

variable {a b : List Char}

theorem toLower_eq (h : Recased a b) : a.map Char.toLower = b.map Char.toLower := by
  induction h with
  | nil => rfl
  | gap _ _ ih => rw [List.map_cons, List.map_cons, ih]
  | lexeme l _ _ ih => rw [List.map_append, List.map_append, ih]
  | word l _ cased _ _ ih => rw [List.map_append, List.map_append, ih, cased]

/-- Every text that lexing gets through is made up of gaps and lexemes, so words of it can be
written in another case. -/
theorem refl_of_ended {cs : List Char} {p : Nat} (h : (lexFrom p cs).2 = .ended) :
    Recased cs cs := by
  fun_induction lexFrom p cs with
  | case1 p => exact .nil
  | case2 p c cs hc ih => exact .gap hc (ih h)
  | case3 p c cs hc hl => cases h
  | case4 p c cs hc kind n hl digits hv => cases h
  | case5 p c cs hc kind n hl value hv tail ih =>
    have text : c :: cs = (c :: cs.take n) ++ cs.drop n := by
      rw [List.cons_append, List.take_append_drop]
    have front := front?_of_lexeme? hl
    rw [text] at front ⊢
    exact .lexeme ⟨c :: cs.take n, kind, value, front?_take hl, hv⟩ front (ih h)

/-- A word with a meaning is no operand, or one whose value is that of its kind. -/
theorem sameAtom_word {kind : Kind} (meaning : kind ∈ reserved.map Prod.snd) (v w : Value)
    (p q : Nat) : SameAtom ⟨kind, v, p⟩ ⟨kind, w, q⟩ := by
  refine ⟨rfl, ?_⟩
  cases kind
  all_goals first | rfl | exact absurd meaning (by decide)

/-- **A text is lexed in step with itself in another case.** -/
theorem inStep (h : Recased a b) : InStep SameAtom a b := by
  induction h with
  | nil => exact InStep.refl placeless_sameAtom []
  | gap hc _ ih => exact ih.gap hc
  | @lexeme l a b front rest ih =>
    refine InStep.lexeme l l (fun _ _ => ⟨rfl, rfl⟩) front ?_ ih
    rw [← front]
    apply front?_of_toLower_eq
    rw [List.map_append, List.map_append, rest.toLower_eq]
  | @word l meaning word a b cased front rest ih =>
    have length : word.length = l.text.length := by
      simpa using congrArg List.length cased
    have whole : front? word = some (l.kind, word.length) := by
      rw [front?_of_toLower_eq cased, l.whole, length]
    refine InStep.lexeme l ⟨word, l.kind, _, whole, tokenValue_word meaning word⟩
      (sameAtom_word meaning _ _) front ?_ ih
    show front? (word ++ b) = some (l.kind, word.length)
    rw [length, ← front]
    apply front?_of_toLower_eq
    rw [List.map_append, List.map_append, rest.toLower_eq, cased]

end Recased

theorem Tree.graft_literal (t : Tree) : t.graft .literal = t := by
  induction t with
  | literal v => rfl
  | unary op t ih => rw [Tree.graft, ih]
  | binary op l r ihl ihr => rw [Tree.graft, ihl, ihr]
  | stray v => rfl

/-- White space does not depend on the case of letters. -/
theorem allBlank_of_toLower_eq {cs ds : List Char}
    (h : cs.map Char.toLower = ds.map Char.toLower) : Text.allBlank cs = Text.allBlank ds := by
  have lower (cs : List Char) : Text.allBlank (cs.map Char.toLower) = Text.allBlank cs := by
    have same : Text.isBlank ∘ Char.toLower = Text.isBlank := funext isBlank_toLower
    rw [Text.allBlank, Text.allBlank, List.all_map, same]
  rw [← lower cs, h, lower]

/-- **Reading and evaluation have one vocabulary.**  The value of a condition that is read fails
at a division by zero or in a number alone, not at an operator or a node that is not known.  The
text is made up of gaps and lexemes; and the same tree is read, with the same answer, if those
of its words that have a meaning of their own are written in another case of letters. -/
theorem parsed_vocabulary {s : String} {tree : Tree} (h : parse s = .ok tree) :
    (∀ e, tree.eval = .error (.evaluation e) → e = .divisionByZero ∨ e = .modulusByZero) ∧
      Recased s.toList s.toList ∧
      ∀ t : String, Recased s.toList t.toList → parse t = .ok tree ∧ holds t = holds s := by
  refine ⟨?_, .refl_of_ended (ended_of_parse h), ?_⟩
  · intro e he
    rcases fault_of_eval he with arithmetic | ⟨unknown, -⟩
    · cases e with
      | divisionByZero => exact .inl rfl
      | modulusByZero => exact .inr rfl
      | unknownOperator name => cases arithmetic
      | unknownNode v => cases arithmetic
    · exact absurd (known_of_parse h) unknown
  · intro t recased
    have alike := parse_inStep (fun _ _ => SameAtom.matches) recased.inStep
    have same : parse t = .ok tree := by
      rw [h] at alike
      generalize parse t = y at alike
      cases alike with
      | tree same =>
        rw [Tree.graft_literal, Tree.graft_literal] at same
        rw [same]
    refine ⟨same, ?_⟩
    rw [holds, holds, ← allBlank_of_toLower_eq recased.toLower_eq, h, same]

/-- A remainder by zero with a word and a keyword behind it, in another case. -/
theorem remainder_recased :
    parse "1 % 0 or Null" = .ok (.binary .or
        (.binary (.arith .mod) (.literal (.int 1)) (.literal (.int 0))) (.literal .null)) ∧
      Recased "1 % 0 or Null".toList "1 % 0 oR nULL".toList ∧
      parse "1 % 0 oR nULL" = .ok (.binary .or
        (.binary (.arith .mod) (.literal (.int 1)) (.literal (.int 0))) (.literal .null)) ∧
      holds "1 % 0 oR nULL" = .error (.evaluation .modulusByZero) := by
  have parsed : parse "1 % 0 or Null" = .ok (.binary .or
      (.binary (.arith .mod) (.literal (.int 1)) (.literal (.int 0))) (.literal .null)) := by
    with_unfolding_all rfl
  have answer : holds "1 % 0 or Null" = .error (.evaluation .modulusByZero) := by
    with_unfolding_all rfl
  have recased : Recased "1 % 0 or Null".toList "1 % 0 oR nULL".toList := by
    have text : "1 % 0 or Null".toList = ['1'] ++ (' ' :: (['%'] ++ (' ' :: (['0'] ++ (' ' ::
        (['o', 'r'] ++ (' ' :: (['N', 'u', 'l', 'l'] ++ [])))))))) := by decide
    have text' : "1 % 0 oR nULL".toList = ['1'] ++ (' ' :: (['%'] ++ (' ' :: (['0'] ++ (' ' ::
        (['o', 'R'] ++ (' ' :: (['n', 'U', 'L', 'L'] ++ [])))))))) := by decide
    rw [text, text']
    refine .lexeme ⟨['1'], .integer, .int 1, by decide, rfl⟩ (by decide) (.gap rfl ?_)
    refine .lexeme ⟨['%'], .arith .mod, .text "%", by decide, rfl⟩ (by decide) (.gap rfl ?_)
    refine .lexeme ⟨['0'], .integer, .int 0, by decide, rfl⟩ (by decide) (.gap rfl ?_)
    refine .word ⟨['o', 'r'], .orWord, .text "or", by decide, rfl⟩ (by decide) (by decide)
      (by decide) (.gap rfl ?_)
    exact .word ⟨['N', 'u', 'l', 'l'], .nullWord, .text "Null", by decide, rfl⟩ (by decide)
      (by decide) (by decide) .nil
  obtain ⟨-, -, same⟩ := parsed_vocabulary parsed
  obtain ⟨parsed', answer'⟩ := same "1 % 0 oR nULL" recased
  exact ⟨parsed, recased, parsed', answer'.trans answer⟩

end SqlScript.Condition
