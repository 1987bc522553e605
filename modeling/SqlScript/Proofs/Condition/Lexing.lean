/-
SqlScript/Proofs/Condition/Lexing.lean

Lexemes, and what may follow them.

`front? text` is the lexeme at the front of a text.  A *lexeme* is a text that is all front
of its own and has a value (`Lexeme`).  Whether it is still the front when other text
follows depends on the two: a gap or a parenthesis ends every lexeme (`Stops`,
`Lexeme.front?_append`), and so does every other character that no number, word or operator
goes on with (`Parted`), while parentheses and the minus sign are *closed*, so that anything
may follow them (`Lexeme.Closed`).  So is a quoted text (`front?_quote`).

`LexesTo text ts` says that lexing a text reaches its end and gives the tokens `ts`, their
places aside.  It is shown from the back of the text to its front: gaps in front of a text
add nothing (`LexesTo.gaps`), and a lexeme adds its token (`Lexeme.lexesTo`).

The literals of a condition are lexemes again: a quoted text whose value is the text
(`Lexeme.quoted`) and a numeral whose value is the number (`Lexeme.numeral`).  A quoted text is
read back as it is whatever follows it, and lexing goes on right behind it (`lex_quote`).
-/
import Mathlib.Data.List.TakeWhile
import SqlScript.Proofs.Condition.Quoting
import SqlScript.Proofs.Template.Split

namespace SqlScript

/-! ### Decimal digits -/

namespace Text

theorem digitValue?_ascii {c : Char} (h : c.isDigit = true) :
    digitValue? c = some (c.toNat - '0'.toNat) := by
  have lower : 0x30 ≤ c.toNat := by
    simpa using (Char.isDigit_iff_toNat.mp h).1
  have upper : c.toNat < 0x30 + 10 := by
    have := (Char.isDigit_iff_toNat.mp h).2
    simp at this
    omega
  simp [digitValue?, digitZeros, lower, upper]

theorem isDigit_natDigits (n : Nat) : ∀ c ∈ natDigits n, isDigit c = true := by
  intro c hc
  have ascii : c.isDigit = true := Nat.isDigit_of_mem_toDigits (by decide) (by decide) hc
  rw [isDigit, digitValue?_ascii ascii, Option.isSome_some]

theorem isBlank_of_mem_natDigits {n : Nat} {c : Char} (h : c ∈ natDigits n) :
    isBlank c = false := by
  have apart : ∀ s ∈ blankRanges, s.2 < 0x30 ∨ 0x39 < s.1 := by decide
  have hascii : c.isDigit = true := Nat.isDigit_of_mem_toDigits (by decide) (by decide) h
  have hdigit : 0x30 ≤ c.toNat ∧ c.toNat ≤ 0x39 := Char.isDigit_iff_toNat.mp hascii
  rw [← Bool.not_eq_true, isBlank, Ranges.has_iff blankRanges_increasing]
  rintro ⟨s, hs, hlow, hhigh⟩
  have hapart := apart s hs
  omega

theorem not_mem_natDigits {n : Nat} {c : Char} (h : isDigit c = false) : c ∉ natDigits n := by
  intro hmem
  rw [isDigit_natDigits n c hmem] at h
  cases h

/-- The digits of a number spell it. -/
theorem digitsValue_natDigits (n : Nat) : digitsValue (natDigits n) = n := by
  -- on ASCII digits the value is the one that the library gives them
  have spelled : ∀ (ds : List Char) (k : Nat), (∀ c ∈ ds, c.isDigit = true) →
      ds.foldl (fun n c => 10 * n + (digitValue? c).getD 0) k = Nat.ofDigitChars 10 ds k := by
    intro ds
    induction ds with
    | nil => intro k _; rw [Nat.ofDigitChars_nil]; rfl
    | cons d ds ih =>
      intro k h
      rw [List.foldl_cons, digitValue?_ascii (h d List.mem_cons_self), Option.getD_some,
        ih _ fun c hc => h c (List.mem_cons_of_mem d hc), Nat.ofDigitChars_cons]
  have ascii : ∀ c ∈ natDigits n, c.isDigit = true := fun c hc =>
    Nat.isDigit_of_mem_toDigits (by decide) (by decide) hc
  rw [digitsValue, spelled (natDigits n) 0 ascii, natDigits, Nat.ofDigitChars_ten_toDigits]

end Text

theorem Numeral.sign_of_none {cs : List Char} (hm : '-' ∉ cs) (hp : '+' ∉ cs) :
    sign cs = (false, cs) := by
  unfold sign
  split
  · exact absurd List.mem_cons_self hm
  · exact absurd List.mem_cons_self hp
  · rfl

namespace Condition

/-! ### The rule for a character -/

/-- What is done at a character that is no gap.  The character alone decides on the rule;
what follows it decides how much the rule takes. -/
inductive Rule (c : Char) : Prop
  | number (h : Text.isDigit c = true) (taken : ∀ cs, lexeme? c cs = some (numberLexeme cs))
  | point (h : c = '.') (taken : ∀ cs, lexeme? c cs = some (.dot, 0))
  | quoted (h : c = '\'' ∨ c = '"')
      (taken : ∀ cs, lexeme? c cs = (closing? c cs).map fun n => (.string, n))
  | word (h : isWordStart c = true)
      (taken : ∀ cs, lexeme? c cs =
        some (wordKind (c :: cs.takeWhile isWordChar), (cs.takeWhile isWordChar).length))
  | operator (taken : ∀ cs, lexeme? c cs = operator? c cs.head?)

theorem rule (c : Char) : Rule c := by
  by_cases digit : Text.isDigit c = true
  · exact .number digit fun cs => by rw [lexeme?, if_pos digit]
  by_cases point : c = '.'
  · exact .point point fun cs => by rw [lexeme?, if_neg digit, if_pos point]
  by_cases quoted : c = '\'' ∨ c = '"'
  · exact .quoted quoted fun cs => by rw [lexeme?, if_neg digit, if_neg point, if_pos quoted]
  by_cases word : isWordStart c = true
  · refine .word word fun cs => ?_
    rw [lexeme?, if_neg digit, if_neg point, if_neg quoted, if_pos word]
  · refine .operator fun cs => ?_
    rw [lexeme?, if_neg digit, if_neg point, if_neg quoted, if_neg word]

/-! ### What ends a lexeme -/

/-- The characters that end every lexeme: gaps and parentheses. -/
def stops : List Char := [' ', '\t', '\r', '\n', '(', ')']

/-- Whether a text is empty or goes on with a character that ends every lexeme. -/
def Stops (rest : List Char) : Prop := ∀ c ∈ rest.head?, c ∈ stops

instance (rest : List Char) : Decidable (Stops rest) :=
  decidable_of_iff (rest.head?.all stops.contains = true) (by simp [Stops, Option.all_eq_true])

/-- What no stop is, the character behind a lexeme is not. -/
theorem Stops.not {rest : List Char} (h : Stops rest) {p : Char → Bool}
    (hp : stops.any p = false) : ∀ c ∈ rest.head?, p c = false := by
  intro c hc
  simpa using List.any_eq_false.mp hp c (h c hc)

/-- No placeholder goes on behind a lexeme. -/
theorem Stops.cut {rest : List Char} (h : Stops rest) : Placeholder.Cut rest := by
  have bang := h.not (p := (· == '!')) (by decide)
  have name := h.not (p := Placeholder.isNameChar) (by decide)
  have digit := h.not (p := Text.isDigit) (by decide)
  have word := h.not (p := Text.isWord) (by decide)
  intro c hc
  exact ⟨by simpa using bang c hc, name c hc, digit c hc, word c hc⟩

/-- Whether no lexeme but a quoted text goes on with what a text starts with. -/
def Parted (rest : List Char) : Prop :=
  ∀ c ∈ rest.head?, Text.isDigit c = false ∧ isWordChar c = false ∧ c ∉ ['.', '=', '&', '|']

theorem Stops.parted {rest : List Char} (h : Stops rest) : Parted rest := by
  have digit := h.not (p := Text.isDigit) (by decide)
  have word := h.not (p := isWordChar) (by decide)
  have sign := h.not (p := ['.', '=', '&', '|'].contains) (by decide)
  intro c hc
  exact ⟨digit c hc, word c hc, by simpa using sign c hc⟩

theorem numberLexeme_append {rest : List Char} (h : Parted rest) (cs : List Char) :
    numberLexeme (cs ++ rest) = numberLexeme cs := by
  have digits : ∀ c ∈ rest.head?, Text.isDigit c = false := fun c hc => (h c hc).1
  rw [numberLexeme, numberLexeme, takeWhile_append_of_head digits,
    dropWhile_append_of_head digits]
  rcases cs.dropWhile Text.isDigit with - | ⟨c, places⟩
  -- all digits: what follows is no point, so no places follow
  · rcases rest with - | ⟨d, r⟩
    · rfl
    · have hd : d ≠ '.' := by
        rintro rfl
        exact (h '.' rfl).2.2 (by decide)
      split
      · rename_i heq
        exact absurd (List.cons.inj heq).1 hd
      · rfl
  · by_cases hc : c = '.'
    · subst hc
      simp only [List.cons_append, takeWhile_append_of_head digits]
    · simp [hc]

/-- The characters that operators start with. -/
def operatorStarts : List Char :=
  ['=', '!', '<', '>', '&', '|', '+', '-', '*', '/', '%', '(', ')']

/-- No operator starts with a character of a class that none of these is in. -/
theorem operator?_of_class {p : Char → Bool} (hp : operatorStarts.all (fun x => !p x) = true)
    {c : Char} (hc : p c = true) (next : Option Char) : operator? c next = none := by
  have apart : ∀ x ∈ operatorStarts, p x ≠ true := by
    simpa using hp
  unfold operator?
  split
  all_goals first | rfl | exact absurd hc (apart _ (by decide))

/-- An operator goes on with three characters only. -/
theorem operator?_ends {next : Option Char} (h : ∀ d ∈ next, d ∉ ['=', '&', '|']) (c : Char) :
    operator? c next = operator? c none := by
  rcases next with - | d
  · rfl
  · have hd := h d rfl
    have he : d ≠ '=' ∧ d ≠ '&' ∧ d ≠ '|' := by
      refine ⟨?_, ?_, ?_⟩ <;> rintro rfl <;> exact hd (by decide)
    obtain ⟨h1, h2, h3⟩ := he
    unfold operator?
    split <;> simp_all

theorem operator?_parted {rest : List Char} (h : Parted rest) (c : Char) :
    operator? c rest.head? = operator? c none :=
  operator?_ends (fun d hd hmem => (h d hd).2.2 (List.mem_cons_of_mem _ hmem)) c

/-- A lexeme is still there when something follows that it does not go on with. -/
theorem lexeme?_append {rest : List Char} (h : Parted rest) {c : Char} {cs : List Char}
    {found : Kind × Nat} (hl : lexeme? c cs = some found) : lexeme? c (cs ++ rest) = some found := by
  -- the first character chooses the same rule again
  cases rule c with
  | number _ taken =>
    rw [taken] at hl ⊢
    rw [numberLexeme_append h, hl]
  | point _ taken =>
    rw [taken] at hl ⊢
    exact hl
  | quoted hc taken =>
    rw [taken] at hl ⊢
    obtain ⟨n, hn, rfl⟩ := Option.map_eq_some_iff.mp hl
    rw [closing?_append (quote_ne_backslash hc) hn]
    rfl
  | word _ taken =>
    rw [taken] at hl ⊢
    rw [takeWhile_append_of_head fun c hc => (h c hc).2.1, hl]
  | operator taken =>
    rw [taken] at hl ⊢
    rcases cs with - | ⟨d, cs⟩
    · exact (operator?_parted h c).trans hl
    · exact hl

/-! ### Lexemes without what follows -/

section Take

variable {c : Char} {cs : List Char} {kind : Kind} {n : Nat}

theorem point_no_digit (ps : List Char) : ∀ c ∈ ('.' :: ps).head?, Text.isDigit c = false := by
  rintro c ⟨⟩
  decide

/-- Digits on both sides of a point are one number. -/
theorem numberLexeme_fraction {ds ps : List Char} (whole : ∀ c ∈ ds, Text.isDigit c = true)
    (places : ∀ c ∈ ps, Text.isDigit c = true) (hp : ps ≠ []) :
    numberLexeme (ds ++ '.' :: ps) = (.float, ds.length + 1 + ps.length) := by
  obtain ⟨p, ps, rfl⟩ := List.exists_cons_of_ne_nil hp
  rw [numberLexeme, takeWhile_append_of_head (point_no_digit _),
    dropWhile_append_of_head (point_no_digit _), List.takeWhile_eq_self_iff.mpr whole,
    List.dropWhile_eq_nil_iff.mpr whole, List.nil_append]
  simp only [List.takeWhile_eq_self_iff.mpr places, List.length_cons]

/-- A run of digits alone is an integer. -/
theorem numberLexeme_digits {ds : List Char} (digits : ∀ c ∈ ds, Text.isDigit c = true) :
    numberLexeme ds = (.integer, ds.length) := by
  rw [numberLexeme, List.takeWhile_eq_self_iff.mpr digits, List.dropWhile_eq_nil_iff.mpr digits]

/-- A number takes the digits at the front, and if a point and a digit follow them, the point
and the digits behind it. -/
theorem numberLexeme_cases (cs : List Char) :
    (∃ ds rest, cs = ds ++ rest ∧ (∀ c ∈ ds, Text.isDigit c = true) ∧
      numberLexeme cs = (.integer, ds.length)) ∨
    ∃ ds ps rest, cs = ds ++ '.' :: ps ++ rest ∧ (∀ c ∈ ds, Text.isDigit c = true) ∧
      (∀ c ∈ ps, Text.isDigit c = true) ∧ ps ≠ [] ∧
      numberLexeme cs = (.float, (ds ++ '.' :: ps).length) := by
  have parts : cs.takeWhile Text.isDigit ++ cs.dropWhile Text.isDigit = cs :=
    List.takeWhile_append_dropWhile
  have digits : ∀ c ∈ cs.takeWhile Text.isDigit, Text.isDigit c = true :=
    fun _ hc => List.mem_takeWhile_imp hc
  rw [numberLexeme]
  split
  · next rest hd =>
    split
    · exact .inl ⟨_, _, parts.symm, digits, rfl⟩
    -- a point with places
    · next hne =>
      refine .inr ⟨_, rest.takeWhile Text.isDigit, rest.dropWhile Text.isDigit, ?_, digits,
        fun _ hc => List.mem_takeWhile_imp hc,
        List.ne_nil_of_length_pos (Nat.pos_of_ne_zero hne), ?_⟩
      · rw [List.append_assoc, List.cons_append, List.takeWhile_append_dropWhile, ← hd, parts]
      · rw [List.length_append, List.length_cons, Nat.add_assoc, Nat.add_comm 1]
  · exact .inl ⟨_, _, parts.symm, digits, rfl⟩

theorem numberLexeme_take (h : numberLexeme cs = (kind, n)) :
    n ≤ cs.length ∧ numberLexeme (cs.take n) = (kind, n) := by
  rcases numberLexeme_cases cs with ⟨ds, rest, rfl, digits, hn⟩ |
    ⟨ds, ps, rest, rfl, digits, places, hp, hn⟩
  · obtain ⟨rfl, rfl⟩ := Prod.mk.inj (hn.symm.trans h)
    rw [List.take_left]
    exact ⟨by simp, numberLexeme_digits digits⟩
  · obtain ⟨rfl, rfl⟩ := Prod.mk.inj (hn.symm.trans h)
    rw [List.take_left, numberLexeme_fraction digits places hp]
    exact ⟨by simp, by rw [List.length_append, List.length_cons, Nat.add_assoc, Nat.add_comm 1]⟩

/-- An operator is one character, whatever follows it, or two. -/
theorem operator?_takes {next : Option Char} (h : operator? c next = some (kind, n)) :
    n = 0 ∧ operator? c none = some (kind, 0) ∨ n = 1 ∧ next ≠ none := by
  unfold operator? at h
  split at h <;> cases h <;> simp [operator?]

/-- **A lexeme does not need what follows it.**  A text that is cut off behind a lexeme still
has it. -/
theorem lexeme?_take (h : lexeme? c cs = some (kind, n)) :
    n ≤ cs.length ∧ lexeme? c (cs.take n) = some (kind, n) := by
  cases rule c with
  | number _ taken =>
    rw [taken, Option.some.injEq] at h ⊢
    exact numberLexeme_take h
  | point _ taken =>
    rw [taken] at h
    cases h
    exact ⟨Nat.zero_le _, taken _⟩
  | quoted hc taken =>
    rw [taken] at h ⊢
    obtain ⟨k, hk, hn⟩ := Option.map_eq_some_iff.mp h
    cases hn
    obtain ⟨hle, htake⟩ := closing?_take (quote_ne_backslash hc) hk
    rw [htake]
    exact ⟨hle, rfl⟩
  | word _ taken =>
    rw [taken] at h ⊢
    cases h
    have run := List.takeWhile_prefix (l := cs) isWordChar
    have all : (cs.takeWhile isWordChar).takeWhile isWordChar = cs.takeWhile isWordChar :=
      List.takeWhile_eq_self_iff.mpr fun _ hc => List.mem_takeWhile_imp hc
    rw [← List.prefix_iff_eq_take.mp run, all]
    exact ⟨run.length_le, rfl⟩
  | operator taken =>
    rw [taken] at h ⊢
    rcases operator?_takes h with ⟨rfl, hop⟩ | ⟨rfl, hnext⟩
    · exact ⟨Nat.zero_le _, hop⟩
    · rcases cs with - | ⟨d, cs⟩
      · exact absurd rfl hnext
      · exact ⟨by simp, h⟩

end Take

/-! ### The characters of lexemes -/

theorem mem_of_takeWhile_length {p : Char → Bool} {cs : List Char}
    (h : (cs.takeWhile p).length = cs.length) : ∀ c ∈ cs, p c = true := by
  have all : cs.takeWhile p = cs := (List.takeWhile_prefix p).eq_of_length h
  exact List.takeWhile_eq_self_iff.mp all

theorem numberLexeme_chars {cs : List Char} (h : (numberLexeme cs).2 = cs.length) :
    ∀ c ∈ cs, Text.isDigit c = true ∨ c = '.' := by
  rcases numberLexeme_cases cs with ⟨ds, rest, rfl, digits, hn⟩ |
    ⟨ds, ps, rest, rfl, digits, places, -, hn⟩
  -- nothing is left over, so the digits go on to the end
  · rw [hn] at h
    obtain rfl : rest = [] := by simpa using h
    intro c hc
    rw [List.append_nil] at hc
    exact .inl (digits c hc)
  · rw [hn] at h
    obtain rfl : rest = [] := by simpa using h
    intro c hc
    rw [List.append_nil, List.mem_append, List.mem_cons] at hc
    rcases hc with hc | rfl | hc
    · exact .inl (digits c hc)
    · exact .inr rfl
    · exact .inl (places c hc)

/-- The characters that occur in quoted texts only. -/
def quotedOnly : List Char := ['$', '\'', '"']

theorem mem_quotedOnly {x : Char} : x ∈ quotedOnly ↔ x = '$' ∨ x = '\'' ∨ x = '"' := by
  simp [quotedOnly]

theorem operator?_chars {x : Char} (hx : x ∈ quotedOnly) {c : Char} {cs : List Char} {kind : Kind}
    (h : operator? c cs.head? = some (kind, cs.length)) : x ∉ c :: cs := by
  -- an operator takes at most one character behind its first
  have takes : ∀ next n, operator? c next = some (kind, n) →
      c ≠ x ∧ (n = 0 ∨ n = 1 ∧ next ≠ some x) := by
    intro next n hn
    unfold operator? at hn
    rcases mem_quotedOnly.mp hx with rfl | rfl | rfl <;> split at hn <;> cases hn <;> simp
  obtain ⟨hc, short⟩ := takes _ _ h
  rcases cs with - | ⟨d, - | ⟨e, cs⟩⟩
  · simpa using hc.symm
  · have hd : d ≠ x := by simpa using short
    simp [hc.symm, hd.symm]
  · simp at short

/-- A lexeme that no quote starts has no dollar sign and no quote in it. -/
theorem lexeme?_chars {x : Char} (hx : x ∈ quotedOnly) {c : Char} {cs : List Char} {kind : Kind}
    (h : lexeme? c cs = some (kind, cs.length)) (hc : ¬ (c = '\'' ∨ c = '"')) : x ∉ c :: cs := by
  -- none of the three is a digit, a point or part of a word
  have digit : ¬ (Text.isDigit x = true ∨ x = '.') := by
    rcases mem_quotedOnly.mp hx with rfl | rfl | rfl <;> decide
  have word : ¬ isWordChar x = true ∧ ¬ isWordStart x = true := by
    rcases mem_quotedOnly.mp hx with rfl | rfl | rfl <;> decide
  cases rule c with
  | number hd taken =>
    rw [taken, Option.some.injEq] at h
    have chars := numberLexeme_chars (congrArg Prod.snd h)
    rintro (_ | ⟨_, hm⟩)
    · exact digit (.inl hd)
    · exact digit (chars x hm)
  | point hp taken =>
    rw [taken, Option.some.injEq] at h
    have none : cs.length = 0 := (congrArg Prod.snd h).symm
    rw [List.length_eq_zero_iff.mp none, hp, List.mem_singleton]
    exact fun he => digit (.inr he)
  | quoted hq => exact absurd hq hc
  | word hw taken =>
    rw [taken, Option.some.injEq] at h
    have chars := mem_of_takeWhile_length (congrArg Prod.snd h)
    rintro (_ | ⟨_, hm⟩)
    · exact word.2 hw
    · exact word.1 (chars x hm)
  | operator taken =>
    rw [taken] at h
    exact operator?_chars hx h

/-- What a quote starts ends at the quote that closes it. -/
theorem lexeme?_quote {q : Char} (h : q = '\'' ∨ q = '"') (cs : List Char) :
    lexeme? q cs = (closing? q cs).map fun n => (.string, n) := by
  have hd : ¬ Text.isDigit q = true := by
    rcases h with rfl | rfl <;> decide
  have hp : q ≠ '.' := by
    rcases h with rfl | rfl <;> decide
  rw [lexeme?, if_neg hd, if_neg hp, if_pos h]

theorem lexeme?_digit {c : Char} (h : Text.isDigit c = true) (cs : List Char) :
    lexeme? c cs = some (numberLexeme cs) := by
  rw [lexeme?, if_pos h]

/-- A letter is no digit of any script. -/
theorem isDigit_letter {c : Char} (h : c.isAlpha = true) : Text.isDigit c = false := by
  have zeros : ∀ z ∈ Text.digitZeros, z = 0x30 ∨ 0x660 ≤ z := by decide
  have range : 65 ≤ c.toNat ∧ c.toNat ≤ 122 := by
    rcases Bool.or_eq_true _ _ ▸ h with upper | lower
    · have within : 'A'.toNat ≤ c.toNat ∧ c.toNat ≤ 'Z'.toNat := of_decide_eq_true upper
      exact ⟨within.1, within.2.trans (by decide)⟩
    · obtain ⟨low, high⟩ := Bool.and_eq_true_iff.mp lower
      have within : 'a'.toNat ≤ c.toNat ∧ c.toNat ≤ 'z'.toNat :=
        ⟨of_decide_eq_true low, of_decide_eq_true high⟩
      exact ⟨Nat.le_trans (by decide) within.1, within.2⟩
  have unfound : Text.digitZeros.find? (fun z => z ≤ c.toNat && c.toNat < z + 10) = none := by
    rw [List.find?_eq_none]
    intro z hz
    have hz' := zeros z hz
    simp only [Bool.and_eq_true, decide_eq_true_eq, not_and, Nat.not_lt]
    omega
  rw [Text.isDigit, Text.digitValue?, unfound]
  rfl

theorem isDigit_of_isWordStart {c : Char} (h : isWordStart c = true) : Text.isDigit c = false := by
  rcases Bool.or_eq_true _ _ ▸ h with letter | underscore
  · exact isDigit_letter letter
  · rw [of_decide_eq_true underscore]
    decide

theorem lexeme?_name {c : Char} (h : isWordStart c = true) (cs : List Char) :
    lexeme? c cs
      = some (wordKind (c :: cs.takeWhile isWordChar), (cs.takeWhile isWordChar).length) := by
  have point : c ≠ '.' := by
    rintro rfl
    exact absurd h (by decide)
  have quote : ¬ (c = '\'' ∨ c = '"') := by
    rintro (rfl | rfl) <;> exact absurd h (by decide)
  have digit : ¬ Text.isDigit c = true := by
    rw [isDigit_of_isWordStart h]
    exact Bool.false_ne_true
  rw [lexeme?, if_neg digit, if_neg point, if_neg quote, if_pos h]

/-- The other rules are for other characters than those that operators start with. -/
theorem operatorStarts_apart {c : Char} (h : c ∈ operatorStarts) :
    Text.isDigit c = false ∧ c ≠ '.' ∧ ¬ (c = '\'' ∨ c = '"') ∧ isWordStart c = false := by
  have table : operatorStarts.all (fun x => !Text.isDigit x && x != '.' && x != '\'' && x != '"' &&
      !isWordStart x) = true := by
    decide
  have row := List.all_eq_true.mp table c h
  simpa [and_assoc] using row

theorem lexeme?_operator {c : Char} (h : c ∈ operatorStarts) (cs : List Char) :
    lexeme? c cs = operator? c cs.head? := by
  obtain ⟨digit, point, quote, word⟩ := operatorStarts_apart h
  simp [lexeme?, digit, point, quote, word]

/-- No lexeme starts with a gap. -/
theorem lexeme?_gap {c : Char} (h : isGap c = true) (cs : List Char) : lexeme? c cs = none := by
  have gap : c = ' ' ∨ c = '\t' ∨ c = '\r' ∨ c = '\n' := by simpa [isGap, or_assoc] using h
  rcases gap with rfl | rfl | rfl | rfl
  all_goals
    rw [lexeme?, if_neg (by decide), if_neg (by decide), if_neg (by decide), if_neg (by decide)]
    rfl

/-! ### Lexemes -/

/-- The lexeme at the front of a text: its kind and its length. -/
def front? : List Char → Option (Kind × Nat)
  | [] => none
  | c :: cs => (lexeme? c cs).map fun found => (found.1, found.2 + 1)

theorem front?_cons {c : Char} {cs : List Char} {kind : Kind} {n : Nat} :
    front? (c :: cs) = some (kind, n + 1) ↔ lexeme? c cs = some (kind, n) := by
  simp [front?]

section Front

variable {c : Char} {cs : List Char} {kind : Kind} {n : Nat}

theorem front?_of_lexeme? (h : lexeme? c cs = some (kind, n)) :
    front? (c :: cs) = some (kind, (c :: cs.take n).length) := by
  rw [List.length_cons, front?_cons, List.length_take_of_le (lexeme?_take h).1]
  exact h

/-- A lexeme is still the front of a text that is cut off behind it. -/
theorem front?_take (h : lexeme? c cs = some (kind, n)) :
    front? (c :: cs.take n) = some (kind, (c :: cs.take n).length) := by
  obtain ⟨hle, htake⟩ := lexeme?_take h
  rw [List.length_cons, front?_cons, List.length_take_of_le hle]
  exact htake

end Front

/-- The value of a token is its lexeme, unless it is a number or a quoted text. -/
theorem tokenValue_plain {kind : Kind} (h : kind ∉ [.integer, .float, .string])
    (text : List Char) : tokenValue kind text = .ok (.text (String.ofList text)) := by
  cases kind
  all_goals first | rfl | exact absurd h (by decide)

theorem tokenValue_word {kind : Kind} (meaning : kind ∈ reserved.map Prod.snd)
    (text : List Char) : tokenValue kind text = .ok (.text (String.ofList text)) := by
  have table : ∀ k ∈ reserved.map Prod.snd, k ∉ [.integer, .float, .string] := by decide
  exact tokenValue_plain (table kind meaning) text

/-- A lexeme with its token: it is all front of its own, and has a value. -/
structure Lexeme where
  text : List Char
  kind : Kind
  value : Value
  whole : front? text = some (kind, text.length)
  valued : tokenValue kind text = .ok value

namespace Lexeme

/-- The token of a lexeme, its place aside. -/
def token (l : Lexeme) : Token := ⟨l.kind, l.value, 0⟩

/-- Whether a lexeme is the front whatever follows it. -/
def Closed (l : Lexeme) : Prop :=
  ∀ rest, front? (l.text ++ rest) = some (l.kind, l.text.length)

/-- Whether a lexeme is a parenthesis. -/
def IsParen (l : Lexeme) : Prop := l.text = ['('] ∨ l.text = [')']

/-- A lexeme has a first character. -/
theorem split (l : Lexeme) : ∃ c cs, l.text = c :: cs ∧ lexeme? c cs = some (l.kind, cs.length) := by
  have whole := l.whole
  rcases h : l.text with - | ⟨c, cs⟩
  · rw [h] at whole
    cases whole
  · rw [h, List.length_cons, front?_cons] at whole
    exact ⟨c, cs, rfl, whole⟩

theorem front?_parted (l : Lexeme) {rest : List Char} (h : Parted rest) :
    front? (l.text ++ rest) = some (l.kind, l.text.length) := by
  obtain ⟨c, cs, ht, hl⟩ := l.split
  rw [ht, List.cons_append, List.length_cons, front?_cons]
  exact lexeme?_append h hl

theorem front?_append (l : Lexeme) {rest : List Char} (h : Stops rest) :
    front? (l.text ++ rest) = some (l.kind, l.text.length) := l.front?_parted h.parted

theorem IsParen.closed {l : Lexeme} (h : l.IsParen) : l.Closed := by
  intro rest
  have whole := l.whole
  rcases h with h | h <;> rw [h] at whole ⊢ <;> exact whole

/-- Dollar signs occur in quoted texts only. -/
theorem no_dollar (l : Lexeme) (h : l.kind ≠ .string) : '$' ∉ l.text := by
  obtain ⟨c, cs, ht, hl⟩ := l.split
  rw [ht]
  refine lexeme?_chars (by decide) hl ?_
  intro hq
  rw [lexeme?_quote hq, Option.map_eq_some_iff] at hl
  obtain ⟨n, -, hn⟩ := hl
  exact h (congrArg Prod.fst hn).symm

end Lexeme

/-! ### Lexing a text -/

/-- A token without its place. -/
def Token.unplaced (t : Token) : Token := { t with pos := 0 }

/-- Lexing a text, from whatever position, reaches its end and gives tokens. -/
def LexesTo (text : List Char) (ts : List Token) : Prop :=
  ∀ pos, (lexFrom pos text).1.map Token.unplaced = ts ∧ (lexFrom pos text).2 = .ended

namespace LexesTo

theorem nil : LexesTo [] [] := by
  intro pos
  rw [lexFrom]
  exact ⟨rfl, rfl⟩

theorem gap {c : Char} (hc : isGap c = true) {text : List Char} {ts : List Token}
    (h : LexesTo text ts) : LexesTo (c :: text) ts := by
  intro pos
  rw [lexFrom, if_pos hc]
  exact h (pos + 1)

/-- Gaps in front of a text add no token. -/
theorem gaps {gs : List Char} (hg : ∀ c ∈ gs, isGap c = true) {text : List Char}
    {ts : List Token} (h : LexesTo text ts) : LexesTo (gs ++ text) ts := by
  induction gs with
  | nil => exact h
  | cons c gs ih =>
    exact gap (hg c List.mem_cons_self) (ih fun d hd => hg d (List.mem_cons_of_mem c hd))

end LexesTo

/-- Lexing takes a lexeme off the front of a text and goes on behind it. -/
theorem Lexeme.lexFrom_append (l : Lexeme) {rest : List Char}
    (hf : front? (l.text ++ rest) = some (l.kind, l.text.length)) (pos : Nat) :
    lexFrom pos (l.text ++ rest) =
      (⟨l.kind, l.value, pos⟩ :: (lexFrom (pos + l.text.length) rest).1,
        (lexFrom (pos + l.text.length) rest).2) := by
  obtain ⟨c, cs, ht, -⟩ := l.split
  have valued := l.valued
  rw [ht] at hf valued ⊢
  have hl : lexeme? c (cs ++ rest) = some (l.kind, cs.length) := front?_cons.mp hf
  have hc : ¬ isGap c = true := by
    intro hc
    rw [lexeme?_gap hc] at hl
    cases hl
  rw [List.cons_append, lexFrom, if_neg hc]
  simp only [hl, List.take_left, List.drop_left, valued]
  rfl

/-- A lexeme that is the front of a text adds its token. -/
theorem Lexeme.lexesTo (l : Lexeme) {rest : List Char} {ts : List Token}
    (hf : front? (l.text ++ rest) = some (l.kind, l.text.length)) (h : LexesTo rest ts) :
    LexesTo (l.text ++ rest) (l.token :: ts) := by
  intro pos
  obtain ⟨hts, hend⟩ := h (pos + l.text.length)
  rw [l.lexFrom_append hf]
  refine ⟨?_, hend⟩
  rw [List.map_cons, hts]
  rfl

/-! ### Literals -/

theorem front?_quote (cs rest : List Char) :
    front? (quote cs ++ rest) = some (.string, (quote cs).length) := by
  have closed : lexeme? '\'' (cs.flatMap escapeChar ++ ['\''] ++ rest) =
      some (.string, (cs.flatMap escapeChar ++ ['\'']).length) := by
    rw [List.append_assoc, List.singleton_append, lexeme?, if_neg (by decide), if_neg (by decide),
      if_pos (by decide), (body_escape cs).closing? (by decide), List.length_append]
    rfl
  exact front?_cons.mpr closed

theorem front?_digits {ds : List Char} (hne : ds ≠ []) (h : ∀ c ∈ ds, Text.isDigit c = true) :
    front? ds = some (.integer, ds.length) := by
  obtain ⟨d, ds, rfl⟩ := List.exists_cons_of_ne_nil hne
  have hds : ∀ c ∈ ds, Text.isDigit c = true := fun c hc => h c (List.mem_cons_of_mem d hc)
  rw [List.length_cons, front?_cons, lexeme?_digit (h d List.mem_cons_self),
    numberLexeme_digits hds]

namespace Lexeme

/-- The quoted form of a text is a lexeme that has the text as its value. -/
def quoted (s : String) : Lexeme where
  text := quote s.toList
  kind := .string
  value := .text s
  whole := by
    have front := front?_quote s.toList []
    rwa [List.append_nil] at front
  valued := by
    rw [tokenValue, quote, List.drop_one, List.tail_cons, List.dropLast_concat, unescape_escape,
      String.ofList_toList]

/-- The digits of a number, if they are not too many, are a lexeme that has the number as
its value. -/
def numeral (n : Nat) (h : Text.digitCount n ≤ integerLimit) : Lexeme where
  text := Text.natDigits n
  kind := .integer
  value := .int n
  whole := front?_digits Nat.toDigits_ne_nil (Text.isDigit_natDigits n)
  valued := by
    have short : ¬ integerLimit < (Text.natDigits n).length := Nat.not_lt.mpr h
    rw [tokenValue, if_neg short, Text.digitsValue_natDigits]

/-- The minus sign. -/
def minus : Lexeme where
  text := ['-']
  kind := .arith .sub
  value := .text "-"
  whole := by decide
  valued := by rfl

/-- Anything may follow a minus sign. -/
theorem minus_closed : minus.Closed := by
  intro rest
  exact front?_cons.mpr (lexeme?_operator (by decide) rest)

/-- The word for the absent value. -/
def nullWord : Lexeme where
  text := "NULL".toList
  kind := .nullWord
  value := .text "NULL"
  whole := by decide
  valued := by rfl

end Lexeme

/-- **Quoted texts are read back exactly.**  Whatever follows a quoted text, the first token is a
text at the very beginning that has the quoted characters as its value, and lexing goes on right
behind the closing quote.  Between the quotes stand the characters with a backslash in front of
every backslash and then of every quote, from which the characters are won back; and no other
front of the text is a quoted text. -/
theorem lex_quote (s : String) (rest : List Char) :
    lex (quote s.toList ++ rest) =
        (⟨.string, .text s, 0⟩ :: (lexFrom (quote s.toList).length rest).1,
          (lexFrom (quote s.toList).length rest).2) ∧
      unescape ((quote s.toList).drop 1).dropLast = s.toList ∧
      quote s.toList = '\'' :: (backslashed '\'' (backslashed '\\' s.toList) ++ ['\'']) ∧
      ∀ body behind, Body '\'' body →
        quote s.toList ++ rest = '\'' :: (body ++ '\'' :: behind) →
          '\'' :: (body ++ ['\'']) = quote s.toList ∧ behind = rest := by
  refine ⟨?_, ?_, ?_, ?_⟩
  · have read := (Lexeme.quoted s).lexFrom_append (front?_quote s.toList rest) 0
    rw [Nat.zero_add] at read
    exact read
  · rw [quote, List.drop_one, List.tail_cons, List.dropLast_concat, unescape_escape]
  · rw [quote, flatMap_escapeChar]
  · intro body behind inner same
    rw [quote, List.cons_append, List.append_assoc, List.singleton_append, List.cons.injEq] at same
    obtain ⟨rfl, rfl⟩ := Body.unique (by decide) (body_escape s.toList) inner same.2
    exact ⟨rfl, rfl⟩

end Condition

end SqlScript
