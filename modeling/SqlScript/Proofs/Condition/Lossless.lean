/-
SqlScript/Proofs/Condition/Lossless.lean

Lexing cuts a text into gaps and lexemes, and nothing is lost.

`Denotes lexeme kind value` is what the rules of tokens say: which characters make a token,
of which kind, and with which value.  It does not speak of texts around a lexeme and of no
order of rules.  `Divided pos text os rest` says that a text is cut from its front, up to
`rest`, into gaps and lexemes that denote tokens, each at its place, where every lexeme is
the longest one that stands there.

Lexing finds just that: the lexeme that it takes denotes its token (`exists_denotes`), and
whatever else denotes one at the same place is no longer (`Denotes.front?`).  So where it
takes nothing, nothing denotes a token.  Every text is therefore divided up to its end or up
to a character that starts no token (`tokens_lossless`).
-/
import SqlScript.Condition.Parser
import SqlScript.Proofs.Condition.Numerals
import SqlScript.Proofs.Condition.Printing

namespace SqlScript.Condition

/-! ### What the rules say -/

/-- The symbols of operators, and parentheses. -/
def symbolKinds : List (String × Kind) :=
  [("==", .relation .eq), ("!=", .relation .ne), ("<=", .relation .le), (">=", .relation .ge),
   ("&&", .andSymbol), ("||", .orSymbol), ("<", .relation .lt), (">", .relation .gt),
   ("!", .bang), ("+", .arith .add), ("-", .arith .sub), ("*", .arith .mul),
   ("/", .arith .div), ("%", .arith .mod), ("(", .leftParen), (")", .rightParen)]

/-- Whether characters make up a word. -/
def IsName : List Char → Prop
  | [] => False
  | c :: cs => isWordStart c = true ∧ ∀ d ∈ cs, isWordChar d = true

/-- Characters denote a token of a kind with a value. -/
inductive Denotes : List Char → Kind → Value → Prop
  /-- Digits on both sides of a point are the nearest binary64 number. -/
  | float {whole places : List Char} : whole ≠ [] → places ≠ [] →
      (∀ d ∈ whole ++ places, Text.isDigit d = true) →
      Denotes (whole ++ '.' :: places) .float
        (.float (.ofDecimal false (Text.digitsValue (whole ++ places)) (-places.length)))
  | integer {ds : List Char} : ds ≠ [] → (∀ d ∈ ds, Text.isDigit d = true) →
      Denotes ds .integer (.int (Text.digitsValue ds))
  | point : Denotes ['.'] .dot (.text ".")
  /-- Between quotes a backslash is dropped and the character behind it kept. -/
  | quoted {q : Char} {body : List Char} : q = '\'' ∨ q = '"' → Body q body →
      Denotes (q :: (body ++ [q])) .string (.text (String.ofList (unescape body)))
  /-- A word with a meaning of its own, in any case of letters. -/
  | reserved {word : List Char} {symbol : String} {kind : Kind} : IsName word →
      (symbol, kind) ∈ reserved → Cased symbol word →
      Denotes word kind (.text (String.ofList word))
  | word {word : List Char} : IsName word → (∀ e ∈ Condition.reserved, ¬ Cased e.1 word) →
      Denotes word .word (.text (String.ofList word))
  | symbol {symbol : String} {kind : Kind} : (symbol, kind) ∈ symbolKinds →
      Denotes symbol.toList kind (.text symbol)

/-! ### Lexemes denote their tokens -/

/-- The kind of a word is that of the reserved word that it is, if it is one. -/
theorem wordKind_cases (word : List Char) :
    (∃ symbol, (symbol, wordKind word) ∈ reserved ∧ Cased symbol word) ∨
      wordKind word = .word ∧ ∀ e ∈ reserved, ¬ Cased e.1 word := by
  rcases found : reserved.find? fun p => p.1.toList = word.map Char.toLower with - | ⟨symbol, kind⟩
  · refine .inr ⟨by rw [wordKind, found]; rfl, fun e he cased => ?_⟩
    exact List.find?_eq_none.mp found e he (decide_eq_true cased.symm)
  · refine .inl ⟨symbol, ?_, ?_⟩
    · rw [wordKind, found]
      exact List.mem_of_find?_eq_some found
    · have same := List.find?_some found
      exact (of_decide_eq_true same).symm

theorem IsName.denotes {word : List Char} (h : IsName word) :
    Denotes word (wordKind word) (.text (String.ofList word)) ∧
      tokenValue (wordKind word) word = .ok (.text (String.ofList word)) := by
  rcases wordKind_cases word with ⟨symbol, known, cased⟩ | ⟨plain, unknown⟩
  · exact ⟨.reserved h known cased, tokenValue_word (List.mem_map_of_mem known) word⟩
  · rw [plain]
    exact ⟨.word h unknown, rfl⟩

/-- An operator and nothing else is one of the symbols. -/
theorem operator?_symbol {c : Char} {cs : List Char} {kind : Kind}
    (h : operator? c cs.head? = some (kind, cs.length)) :
    (String.ofList (c :: cs), kind) ∈ symbolKinds := by
  rcases cs with - | ⟨d, - | ⟨e, cs⟩⟩
  · unfold operator? at h
    split at h <;> cases h <;> decide
  · unfold operator? at h
    split at h
    all_goals first
      | (rename_i next; cases next; cases h; decide)
      | cases h
  · rcases operator?_takes h with ⟨short, -⟩ | ⟨short, -⟩ <;> simp at short

/-- **A lexeme denotes its token.**  The value is that of the token unless the lexeme is an
integer of too many digits. -/
theorem exists_denotes {text : List Char} {kind : Kind}
    (whole : front? text = some (kind, text.length)) :
    ∃ value, Denotes text kind value ∧
      (tokenValue kind text = .ok value ∨
        (∀ c ∈ text, Text.isDigit c = true) ∧ integerLimit < text.length ∧
          tokenValue kind text = .error text.length) := by
  rcases text with - | ⟨c, cs⟩
  · cases whole
  rw [List.length_cons, front?_cons] at whole
  cases rule c with
  | number hc taken =>
    rw [taken, Option.some.injEq] at whole
    rcases numberLexeme_cases cs with ⟨ds, rest, rfl, digits, hn⟩ |
      ⟨ds, ps, rest, rfl, digits, places, hp, hn⟩
    · obtain ⟨rfl, length⟩ := Prod.mk.inj (hn.symm.trans whole)
      obtain rfl : rest = [] := by simpa using length
      rw [List.append_nil]
      have all : ∀ d ∈ c :: ds, Text.isDigit d = true := List.forall_mem_cons.mpr ⟨hc, digits⟩
      refine ⟨_, .integer (List.cons_ne_nil c ds) all, ?_⟩
      by_cases long : integerLimit < (c :: ds).length
      · exact .inr ⟨all, long, if_pos long⟩
      · exact .inl (if_neg long)
    · obtain ⟨rfl, length⟩ := Prod.mk.inj (hn.symm.trans whole)
      obtain rfl : rest = [] := by simpa using length
      have all : ∀ d ∈ (c :: ds) ++ ps, Text.isDigit d = true := by
        rw [List.cons_append, List.forall_mem_cons, List.forall_mem_append]
        exact ⟨hc, digits, places⟩
      have hw : c :: ds ≠ [] := List.cons_ne_nil c ds
      rw [List.append_nil, ← List.cons_append]
      exact ⟨_, .float hw hp all, .inl (Lexeme.fraction (c :: ds) ps hw hp all).valued⟩
  | point hc taken =>
    rw [taken] at whole
    obtain ⟨rfl, length⟩ := Prod.mk.inj (Option.some.inj whole)
    obtain rfl : cs = [] := List.length_eq_zero_iff.mp length.symm
    subst hc
    exact ⟨_, .point, .inl rfl⟩
  | quoted hc taken =>
    rw [taken] at whole
    obtain ⟨n, hn, found⟩ := Option.map_eq_some_iff.mp whole
    obtain ⟨rfl, rfl⟩ := Prod.mk.inj found
    obtain ⟨body, rest, rfl, length, inner⟩ :=
      (closing?_eq_some_iff (quote_ne_backslash hc)).mp hn
    obtain rfl : rest = [] := by simpa using length
    refine ⟨_, .quoted hc inner, .inl ?_⟩
    rw [tokenValue, List.drop_one, List.tail_cons, List.dropLast_concat]
  | word hc taken =>
    rw [taken] at whole
    obtain ⟨hkind, length⟩ := Prod.mk.inj (Option.some.inj whole)
    have chars := mem_of_takeWhile_length length
    rw [List.takeWhile_eq_self_iff.mpr chars] at hkind
    subst hkind
    have name : IsName (c :: cs) := ⟨hc, chars⟩
    exact ⟨_, name.denotes.1, .inl name.denotes.2⟩
  | operator taken =>
    rw [taken] at whole
    have known := operator?_symbol whole
    have table : ∀ e ∈ symbolKinds, e.2 ∉ [.integer, .float, .string] := by decide
    have denotes := Denotes.symbol known
    rw [String.toList_ofList] at denotes
    exact ⟨_, denotes, .inl (tokenValue_plain (table _ known) _)⟩

/-! ### Lexemes are the longest -/

/-- A run of digits goes on as far as there are digits. -/
theorem length_le_numberLexeme {ds : List Char} (digits : ∀ c ∈ ds, Text.isDigit c = true)
    (rest : List Char) : ds.length ≤ (numberLexeme (ds ++ rest)).2 := by
  rw [numberLexeme, List.takeWhile_append_of_pos digits, List.length_append]
  split
  · split <;> simp only <;> omega
  · exact Nat.le_add_right _ _

/-- So do the digits behind a point. -/
theorem length_le_numberLexeme_fraction {ds ps : List Char}
    (digits : ∀ c ∈ ds, Text.isDigit c = true) (places : ∀ c ∈ ps, Text.isDigit c = true)
    (hp : ps ≠ []) (rest : List Char) :
    (ds ++ '.' :: ps).length ≤ (numberLexeme (ds ++ '.' :: (ps ++ rest))).2 := by
  obtain ⟨p, ps, rfl⟩ := List.exists_cons_of_ne_nil hp
  rw [numberLexeme, takeWhile_append_of_head (point_no_digit _),
    dropWhile_append_of_head (point_no_digit _), List.takeWhile_eq_self_iff.mpr digits,
    List.dropWhile_eq_nil_iff.mpr digits, List.nil_append]
  simp only [List.takeWhile_append_of_pos places, List.length_append, List.length_cons]
  split
  · simp only; omega
  · simp only; omega

/-- The characters that are operators whatever follows them. -/
def loneOperators : List Char := ['<', '>', '!', '+', '-', '*', '/', '%', '(', ')']

theorem loneOperators_subset : loneOperators ⊆ operatorStarts := by
  simp [loneOperators, operatorStarts]

theorem exists_operator? {c : Char} (h : c ∈ loneOperators) (next : Option Char) :
    ∃ found, operator? c next = some found := by
  simp only [loneOperators, List.mem_cons, List.not_mem_nil, or_false] at h
  rcases h with rfl | rfl | rfl | rfl | rfl | rfl | rfl | rfl | rfl | rfl
  all_goals
    unfold operator?
    split <;> simp_all

/-- A symbol is one of these characters, or an operator of two. -/
theorem symbol_cases {symbol : String} {kind : Kind} (h : (symbol, kind) ∈ symbolKinds) :
    (∃ c ∈ loneOperators, symbol.toList = [c]) ∨
      ∃ c d, symbol.toList = [c, d] ∧ c ∈ operatorStarts ∧
        operator? c (some d) = some (kind, 1) := by
  have table : symbolKinds.all (fun e =>
      e.1.toList.length = 1 && e.1.toList.all (· ∈ loneOperators) ||
      e.1.toList.length = 2 && e.1.toList.head?.all fun c => c ∈ operatorStarts &&
        operator? c e.1.toList.tail.head? = some (e.2, 1)) = true := by
    decide
  have row := List.all_eq_true.mp table _ h
  simp only [Bool.or_eq_true, Bool.and_eq_true, decide_eq_true_eq, List.all_eq_true,
    Option.all_eq_true] at row
  rcases row with ⟨one, lone⟩ | ⟨two, starts⟩
  · obtain ⟨c, spelt⟩ := List.length_eq_one_iff.mp one
    rw [spelt] at lone
    exact .inl ⟨c, lone c List.mem_cons_self, spelt⟩
  · obtain ⟨c, d, spelt⟩ := List.length_eq_two.mp two
    rw [spelt] at starts
    exact .inr ⟨c, d, spelt, starts c rfl⟩

/-- What denotes a token is there at the front of a text, or something that is longer. -/
theorem Denotes.front? {lexeme : List Char} {kind : Kind} {value : Value}
    (h : Denotes lexeme kind value) (rest : List Char) :
    ∃ found, Condition.front? (lexeme ++ rest) = some found ∧ lexeme.length ≤ found.2 := by
  have name {word : List Char} (h : IsName word) :
      ∃ found, Condition.front? (word ++ rest) = some found ∧ word.length ≤ found.2 := by
    rcases word with - | ⟨c, cs⟩
    · exact h.elim
    refine ⟨_, front?_cons.mpr (lexeme?_name h.1 (cs ++ rest)), ?_⟩
    rw [List.takeWhile_append_of_pos h.2, List.length_cons, List.length_append]
    omega
  cases h with
  | @float whole places hw hp digits =>
    obtain ⟨d, ds, rfl⟩ := List.exists_cons_of_ne_nil hw
    rw [List.cons_append, List.forall_mem_cons, List.forall_mem_append] at digits
    have long := length_le_numberLexeme_fraction digits.2.1 digits.2.2 hp rest
    rw [List.append_assoc, List.cons_append, List.cons_append]
    exact ⟨_, front?_cons.mpr (lexeme?_digit digits.1 _), Nat.succ_le_succ long⟩
  | integer hne digits =>
    obtain ⟨d, ds, rfl⟩ := List.exists_cons_of_ne_nil hne
    rw [List.forall_mem_cons] at digits
    have long := length_le_numberLexeme digits.2 rest
    exact ⟨_, front?_cons.mpr (lexeme?_digit digits.1 _), Nat.succ_le_succ long⟩
  | point => exact ⟨_, front?_cons.mpr rfl, le_rfl⟩
  | @quoted q body hq inner =>
    have taken : lexeme? q (body ++ [q] ++ rest) = some (.string, body.length + 1) := by
      rw [lexeme?_quote hq, List.append_assoc, List.singleton_append,
        inner.closing? (quote_ne_backslash hq), Option.map_some]
    exact ⟨_, front?_cons.mpr taken, by simp⟩
  | reserved h => exact name h
  | word h => exact name h
  | symbol h =>
    rcases symbol_cases h with ⟨c, hc, spelt⟩ | ⟨c, d, spelt, hc, two⟩
    · obtain ⟨⟨taken, n⟩, found⟩ := exists_operator? hc rest.head?
      rw [← lexeme?_operator (loneOperators_subset hc)] at found
      rw [spelt]
      exact ⟨_, front?_cons.mpr found, Nat.le_add_left 1 n⟩
    · have found : lexeme? c (d :: rest) = some (_, 1) := (lexeme?_operator hc _).trans two
      rw [spelt]
      exact ⟨_, front?_cons.mpr found, le_rfl⟩

/-! ### Texts cut into lexemes -/

/-- No longer front of a text denotes a token. -/
def Longest (lexeme text : List Char) : Prop :=
  ∀ other kind value, other <+: text → Denotes other kind value → other.length ≤ lexeme.length

/-- No front of a text denotes a token. -/
def Barren (text : List Char) : Prop :=
  ∀ lexeme kind value, lexeme <+: text → ¬ Denotes lexeme kind value

theorem longest_of_front? {text : List Char} {kind : Kind} {lexeme : List Char}
    (h : front? text = some (kind, lexeme.length)) : Longest lexeme text := by
  rintro other kind' value ⟨rest, rfl⟩ denotes
  obtain ⟨found, hfound, long⟩ := denotes.front? rest
  obtain rfl := Option.some.inj (hfound.symm.trans h)
  exact long

theorem barren_of_front? {text : List Char} (h : front? text = none) : Barren text := by
  rintro lexeme kind value ⟨rest, rfl⟩ denotes
  obtain ⟨found, hfound, -⟩ := denotes.front? rest
  cases hfound.symm.trans h

/-- A token with the characters that it was made from. -/
structure Occurrence where
  lexeme : List Char
  token : Token

/-- A text from a place on is cut into gaps and lexemes, up to a rest.  Every lexeme denotes its
token, which has its place, and is the longest at that place. -/
inductive Divided : Nat → List Char → List Occurrence → List Char → Prop
  | rest (pos : Nat) (rest : List Char) : Divided pos rest [] rest
  | gap {pos : Nat} {c : Char} {text : List Char} {os : List Occurrence} {rest : List Char} :
      isGap c = true → Divided (pos + 1) text os rest → Divided pos (c :: text) os rest
  | lexeme {pos : Nat} {lexeme text : List Char} {kind : Kind} {value : Value}
      {os : List Occurrence} {rest : List Char} :
      Denotes lexeme kind value → Longest lexeme (lexeme ++ text) →
      Divided (pos + lexeme.length) text os rest →
      Divided pos (lexeme ++ text) (⟨lexeme, ⟨kind, value, pos⟩⟩ :: os) rest

/-- Why lexing stops in front of a text, at a place. -/
inductive Halts (pos : Nat) : List Char → Stop → Prop
  | ended : Halts pos [] .ended
  | illegal {c : Char} {behind : List Char} : isGap c = false → Barren (c :: behind) →
      Halts pos (c :: behind) (.illegal c pos)
  | overlong {ds behind : List Char} : (∀ d ∈ ds, Text.isDigit d = true) →
      integerLimit < ds.length → Halts pos (ds ++ behind) (.overlong ds.length)

/-- **Lexing divides a text** up to where it stops. -/
theorem lexFrom_divided (pos : Nat) (text : List Char) :
    ∃ os before rest, text = before ++ rest ∧ Divided pos text os rest ∧
      (lexFrom pos text).1 = os.map Occurrence.token ∧
      Halts (pos + before.length) rest (lexFrom pos text).2 := by
  fun_induction lexFrom pos text with
  | case1 pos => exact ⟨[], [], [], rfl, .rest pos [], rfl, .ended⟩
  | case2 pos c cs hc ih =>
    obtain ⟨os, before, rest, rfl, divided, tokens, halts⟩ := ih
    refine ⟨os, c :: before, rest, rfl, .gap hc divided, tokens, ?_⟩
    rwa [List.length_cons, Nat.add_comm before.length, ← Nat.add_assoc]
  | case3 pos c cs hc hl =>
    have barren : Barren (c :: cs) := barren_of_front? (by rw [front?, hl]; rfl)
    exact ⟨[], [], c :: cs, rfl, .rest pos _, rfl, .illegal (Bool.not_eq_true _ ▸ hc) barren⟩
  | case4 pos c cs hc kind n hl digits hv =>
    obtain ⟨value, -, valued | ⟨all, long, overlong⟩⟩ := exists_denotes (front?_take hl)
    · cases hv.symm.trans valued
    · cases hv.symm.trans overlong
      refine ⟨[], [], c :: cs, rfl, .rest pos _, rfl, ?_⟩
      have halts := @Halts.overlong pos _ (cs.drop n) all long
      rwa [List.cons_append, List.take_append_drop] at halts
  | case5 pos c cs hc kind n hl value hv tail ih =>
    obtain ⟨os, before, rest, text, divided, tokens, halts⟩ := ih
    obtain ⟨value', denotes, valued | ⟨-, -, overlong⟩⟩ := exists_denotes (front?_take hl)
    · obtain rfl := Except.ok.inj (hv.symm.trans valued)
      have front := front?_of_lexeme? hl
      have length : (cs.take n).length = n := List.length_take_of_le (lexeme?_take hl).1
      have split : c :: cs = (c :: cs.take n) ++ cs.drop n := by
        rw [List.cons_append, List.take_append_drop]
      have further : pos + n + 1 = pos + (c :: cs.take n).length := by
        rw [List.length_cons, length, Nat.add_assoc]
      rw [split] at front ⊢
      rw [further] at divided
      refine ⟨⟨c :: cs.take n, ⟨kind, value, pos⟩⟩ :: os, (c :: cs.take n) ++ before, rest, ?_,
        .lexeme denotes (longest_of_front? front) divided, ?_, ?_⟩
      · rw [List.append_assoc, ← text]
      · rw [List.map_cons, ← tokens]
      · rwa [List.length_append, ← Nat.add_assoc, ← further]
    · cases hv.symm.trans overlong

/-- Every lexeme of a text that is divided stands at the place of its token. -/
theorem Divided.exists_split {pos : Nat} {text : List Char} {os : List Occurrence}
    {rest : List Char} (h : Divided pos text os rest) :
    ∀ o ∈ os, ∃ before behind, text = before ++ (o.lexeme ++ behind) ∧
      o.token.pos = pos + before.length ∧ Denotes o.lexeme o.token.kind o.token.value ∧
      Longest o.lexeme (o.lexeme ++ behind) := by
  induction h with
  | rest => exact nofun
  | @gap pos c text os rest hc _ ih =>
    intro o ho
    obtain ⟨before, behind, rfl, place, denotes, longest⟩ := ih o ho
    refine ⟨c :: before, behind, rfl, ?_, denotes, longest⟩
    rw [place, List.length_cons, Nat.add_assoc, Nat.add_comm 1]
  | @lexeme pos lexeme text kind value os rest denotes longest _ ih =>
    intro o ho
    rcases List.mem_cons.mp ho with rfl | ho
    · exact ⟨[], text, rfl, rfl, denotes, longest⟩
    · obtain ⟨before, behind, rfl, place, denotes, longest⟩ := ih o ho
      refine ⟨lexeme ++ before, behind, (List.append_assoc ..).symm, ?_, denotes, longest⟩
      rw [place, List.length_append, Nat.add_assoc]

/-! ### Operators and fractions -/

section Places

variable {lexeme text : List Char} {kind : Kind} {value : Value}

theorem symbolKinds_head {symbol : String} (h : (symbol, kind) ∈ symbolKinds) :
    ∃ c cs, symbol.toList = c :: cs ∧ c ∈ operatorStarts := by
  rcases symbol_cases h with ⟨c, hc, spelt⟩ | ⟨c, d, spelt, hc, -⟩
  · exact ⟨c, [], spelt, loneOperators_subset hc⟩
  · exact ⟨c, [d], spelt, hc⟩

/-- What starts like an operator and denotes a token is a symbol. -/
theorem Denotes.symbol_of_head (h : Denotes lexeme kind value)
    (head : ∀ c ∈ lexeme.head?, c ∈ operatorStarts) :
    ∃ symbol, (symbol, kind) ∈ symbolKinds ∧ lexeme = symbol.toList := by
  have name {word : List Char} (h : IsName word) (head : ∀ c ∈ word.head?, c ∈ operatorStarts) :
      False := by
    rcases word with - | ⟨c, cs⟩
    · exact h
    · exact absurd h.1 (by simp [(operatorStarts_apart (head c rfl)).2.2.2])
  cases h with
  | float hw _ digits =>
    obtain ⟨d, ds, rfl⟩ := List.exists_cons_of_ne_nil hw
    exact absurd (digits d List.mem_cons_self) (by simp [(operatorStarts_apart (head d rfl)).1])
  | integer hne digits =>
    obtain ⟨d, ds, rfl⟩ := List.exists_cons_of_ne_nil hne
    exact absurd (digits d List.mem_cons_self) (by simp [(operatorStarts_apart (head d rfl)).1])
  | point => exact absurd (head '.' rfl) (by decide)
  | @quoted q body hq => exact absurd hq (operatorStarts_apart (head q rfl)).2.2.1
  | reserved h => exact (name h head).elim
  | word h => exact (name h head).elim
  | @symbol symbol kind hs => exact ⟨symbol, hs, rfl⟩

/-- What starts with a digit and denotes a token is a number. -/
theorem Denotes.number_of_head (h : Denotes lexeme kind value)
    (head : ∀ c ∈ lexeme.head?, Text.isDigit c = true) :
    (∀ d ∈ lexeme, Text.isDigit d = true) ∨
      ∃ whole places, lexeme = whole ++ '.' :: places ∧ kind = .float ∧
        ∀ d ∈ whole ++ places, Text.isDigit d = true := by
  have name {word : List Char} (h : IsName word) (head : ∀ c ∈ word.head?, Text.isDigit c = true) :
      False := by
    rcases word with - | ⟨c, cs⟩
    · exact h
    · exact absurd (head c rfl) (by simp [isDigit_of_isWordStart h.1])
  cases h with
  | @float whole places _ _ digits => exact .inr ⟨whole, places, rfl, rfl, digits⟩
  | integer _ digits => exact .inl digits
  | point => exact absurd (head '.' rfl) (by decide)
  | @quoted q body hq =>
    rcases hq with rfl | rfl <;> exact absurd (head _ rfl) (by decide)
  | reserved h => exact (name h head).elim
  | word h => exact (name h head).elim
  | symbol hs =>
    obtain ⟨c, cs, spelt, hc⟩ := symbolKinds_head hs
    rw [spelt] at head
    exact absurd (head c rfl) (by simp [(operatorStarts_apart hc).1])

/-- The first of two fronts of a text is a front of the longest. -/
theorem Longest.prefix_of_denotes (h : Longest lexeme text) (front : lexeme <+: text)
    {other : List Char} {kind' : Kind} {value' : Value} (denotes : Denotes other kind' value')
    (hother : other <+: text) : other <+: lexeme :=
  List.prefix_of_prefix_length_le hother front (h other kind' value' hother denotes)

/-- **An operator of two characters** is taken where it stands. -/
theorem Longest.symbol (h : Longest lexeme text) (front : lexeme <+: text)
    (denotes : Denotes lexeme kind value) {symbol : String} {kind' : Kind}
    (hs : (symbol, kind') ∈ symbolKinds) (two : symbol.length = 2)
    (stands : symbol.toList <+: text) : lexeme = symbol.toList ∧ kind = kind' := by
  obtain ⟨more, rfl⟩ := h.prefix_of_denotes front (.symbol hs) stands
  obtain ⟨c, cs, spelt, hc⟩ := symbolKinds_head hs
  obtain ⟨symbol', hs', same⟩ := denotes.symbol_of_head (by
    rw [spelt]
    rintro d ⟨⟩
    exact hc)
  -- no symbol goes on behind one of two characters
  have table : ∀ e ∈ symbolKinds, ∀ e' ∈ symbolKinds, e.1.length = 2 → e.1.toList <+: e'.1.toList →
      e'.1.toList = e.1.toList ∧ e'.2 = e.2 := by
    decide
  obtain ⟨text', kinds⟩ := table _ hs _ hs' two ⟨more, same⟩
  exact ⟨same.trans text', kinds⟩

/-- A text that is cut at a point behind digits is cut there in one way. -/
theorem fraction_inj {whole whole' places places' : List Char}
    (digits : ∀ d ∈ whole, Text.isDigit d = true) (digits' : ∀ d ∈ whole', Text.isDigit d = true)
    (same : whole ++ '.' :: places = whole' ++ '.' :: places') :
    whole = whole' ∧ places = places' := by
  have wholes := congrArg (List.takeWhile Text.isDigit) same
  rw [takeWhile_append_of_head (point_no_digit _), takeWhile_append_of_head (point_no_digit _),
    List.takeWhile_eq_self_iff.mpr digits, List.takeWhile_eq_self_iff.mpr digits'] at wholes
  subst wholes
  exact ⟨rfl, (List.cons.inj (List.append_cancel_left same)).2⟩

/-- **Digits on both sides of a point** are taken as one number, with all of them. -/
theorem Longest.fraction (h : Longest lexeme text) (front : lexeme <+: text)
    (denotes : Denotes lexeme kind value) {whole places behind : List Char} (hw : whole ≠ [])
    (hp : places ≠ []) (digits : ∀ d ∈ whole ++ places, Text.isDigit d = true)
    (ends : ∀ c ∈ behind.head?, Text.isDigit c = false)
    (stands : text = whole ++ '.' :: places ++ behind) :
    lexeme = whole ++ '.' :: places ∧ kind = .float := by
  obtain ⟨more, rfl⟩ := h.prefix_of_denotes front (.float hw hp digits) ⟨behind, stands.symm⟩
  have begins : ∀ c ∈ (whole ++ '.' :: places ++ more).head?, Text.isDigit c = true := by
    obtain ⟨d, ds, rfl⟩ := List.exists_cons_of_ne_nil hw
    rintro c ⟨⟩
    exact digits d List.mem_cons_self
  rw [List.forall_mem_append] at digits
  rcases denotes.number_of_head begins with all | ⟨whole', places', same, rfl, all⟩
  · exact absurd (all '.' (by simp)) (by decide)
  · rw [List.forall_mem_append] at all
    rw [List.append_assoc, List.cons_append] at same
    obtain ⟨rfl, rfl⟩ := fraction_inj digits.1 all.1 same
    -- what is behind the places goes on with no digit, so the lexeme does not go on
    rw [stands] at front
    obtain ⟨last, further⟩ := (List.prefix_append_right_inj _).mp front
    cases more with
    | nil => exact ⟨List.append_nil _, rfl⟩
    | cons d ds =>
      rw [← further] at ends
      have digit := all.2 d (by simp)
      exact absurd digit (by simp [ends d rfl])

end Places

/-! ### Whole texts -/

/-- A lexeme is no mere part of what stands at its place in a text: an operator of two
characters, or digits on both sides of a point. -/
structure Unbroken (text : List Char) (o : Occurrence) : Prop where
  symbol : ∀ symbol kind, (symbol, kind) ∈ symbolKinds → symbol.length = 2 →
    symbol.toList <+: text.drop o.token.pos → o.lexeme = symbol.toList ∧ o.token.kind = kind
  fraction : ∀ whole places behind, whole ≠ [] → places ≠ [] →
    (∀ d ∈ whole ++ places, Text.isDigit d = true) →
    (∀ c ∈ behind.head?, Text.isDigit c = false) →
    text.drop o.token.pos = whole ++ '.' :: places ++ behind →
    o.lexeme = whole ++ '.' :: places ∧ o.token.kind = .float

theorem Divided.unbroken {text : List Char} {os : List Occurrence} {rest : List Char}
    (h : Divided 0 text os rest) : ∀ o ∈ os, Unbroken text o := by
  intro o ho
  obtain ⟨before, behind, rfl, place, denotes, longest⟩ := h.exists_split o ho
  have here : (before ++ (o.lexeme ++ behind)).drop o.token.pos = o.lexeme ++ behind := by
    rw [place, Nat.zero_add, List.drop_left]
  have front : o.lexeme <+: o.lexeme ++ behind := List.prefix_append _ _
  constructor
  · intro symbol kind hs two stands
    rw [here] at stands
    exact longest.symbol front denotes hs two stands
  · intro whole places further hw hp digits ends stands
    rw [here] at stands
    exact longest.fraction front denotes hw hp digits ends stands

/-- **Lexing is lossless.**  A text without overlong runs of digits is cut into gaps and
lexemes, and the tokens are those that the lexemes denote, each at its place, or it is so cut
up to the character that the failure tells, where nothing denotes a token. -/
theorem tokens_lossless (text : String)
    (short : ∀ run, run <:+: text.toList → (∀ d ∈ run, Text.isDigit d = true) →
      run.length ≤ integerLimit) :
    ∃ os rest, Divided 0 text.toList os rest ∧ (∀ o ∈ os, Unbroken text.toList o) ∧
      (rest = [] ∧ tokens text = .ok (os.map Occurrence.token) ∨
        ∃ before c behind, text.toList = before ++ rest ∧ rest = c :: behind ∧
          isGap c = false ∧ Barren rest ∧
          tokens text = .error (.form (.illegal c before.length))) := by
  obtain ⟨os, before, rest, split, divided, found, halts⟩ := lexFrom_divided 0 text.toList
  refine ⟨os, rest, divided, divided.unbroken, ?_⟩
  rw [Nat.zero_add] at halts
  unfold tokens lex
  generalize lexFrom 0 text.toList = lexed at found halts
  obtain ⟨ts, stop⟩ := lexed
  subst found
  cases halts with
  | ended => exact .inl ⟨rfl, rfl⟩
  | @illegal c behind hc barren => exact .inr ⟨before, c, behind, split, rfl, hc, barren, rfl⟩
  | @overlong ds behind digits long =>
    have run : ds <:+: text.toList := ⟨before, behind, by rw [split, List.append_assoc]⟩
    exact absurd (short ds run digits) (Nat.not_le_of_lt long)

theorem tokens_lossless_fraction :
    (∀ run, run <:+: "2.50<=x =".toList → (∀ d ∈ run, Text.isDigit d = true) →
      run.length ≤ integerLimit) ∧
    ∃ os, Divided 0 "2.50<=x =".toList os ['='] ∧ (∀ o ∈ os, Unbroken "2.50<=x =".toList o) ∧
      tokens "2.50<=x =" = .error (.form (.illegal '=' 8)) := by
  have short : ∀ run, run <:+: "2.50<=x =".toList → (∀ d ∈ run, Text.isDigit d = true) →
      run.length ≤ integerLimit :=
    fun run within _ => within.length_le.trans (by decide)
  have stops : tokens "2.50<=x =" = .error (.form (.illegal '=' 8)) := by
    with_unfolding_all rfl
  refine ⟨short, ?_⟩
  obtain ⟨os, rest, divided, unbroken, ⟨-, none⟩ | ⟨before, c, behind, split, rfl, -, -, told⟩⟩ :=
    tokens_lossless "2.50<=x =" short
  · cases stops.symm.trans none
  · have place := stops.symm.trans told
    simp only [Except.error.injEq, Fault.form.injEq, FormError.illegal.injEq] at place
    obtain ⟨rfl, length⟩ := place
    have last := congrArg (List.drop 8) split
    rw [List.drop_left' length.symm] at last
    obtain rfl : behind = [] := by simpa using last.symm
    exact ⟨os, divided, unbroken, stops⟩

end SqlScript.Condition
