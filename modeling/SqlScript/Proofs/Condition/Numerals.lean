/-
SqlScript/Proofs/Condition/Numerals.lean

Numbers as literals of conditions.

A floating-point number and a decimal are written without a power of ten: a coefficient laid
out around the decimal point, the floating-point number with six places and the decimal with
all its digits.  If there are places, the text is a lexeme that is read as the nearest binary64
number (`Lexeme.fraction`); if there are none, it is the numeral of an integer, which is read
exactly unless it has too many digits (`positional_of_nonneg`).  A minus sign in front negates
what is read, and a number is as true as its negation (`holds_signed`).

So writing a number and reading it again keeps its truth but for three kinds of numbers: a
floating-point number of at most one half of the sixth place and a decimal of at most one half
of the least binary64 number, both of which are false afterwards, and a decimal without places
and with too many digits, which cannot be read at all (`literal_truth`).
-/
import Mathlib
import SqlScript.Proofs.Condition.Hygiene
import SqlScript.Proofs.Number.Underflow

namespace SqlScript

open Number

/-! ### Digits with zeros -/

namespace Text

theorem isDigit_zeros (n : Nat) : ∀ c ∈ zeros n, isDigit c = true := by
  intro c hc
  rw [List.eq_of_mem_replicate hc]
  decide

/-- Zeros in front of digits do not count. -/
theorem digitsValue_zeros_append (n : Nat) (ds : List Char) :
    digitsValue (zeros n ++ ds) = digitsValue ds := by
  have zero : (digitValue? '0').getD 0 = 0 := by decide
  induction n with
  | zero => rfl
  | succ n ih =>
    rw [← ih, zeros, List.replicate_succ, List.cons_append, digitsValue, List.foldl_cons, zero]
    rfl

/-- Zeros behind the digits of a number multiply it. -/
theorem natDigits_mul_pow {n : Nat} (h : n ≠ 0) (k : Nat) :
    natDigits (n * 10 ^ k) = natDigits n ++ zeros k := by
  induction k with
  | zero => simp [zeros]
  | succ k ih =>
    have positive : 0 < n * 10 ^ k := Nat.mul_pos (Nat.pos_of_ne_zero h) (Nat.pow_pos (by decide))
    have digit : natDigits (10 * (n * 10 ^ k)) = natDigits (n * 10 ^ k) ++ ['0'] :=
      (@Nat.toDigits_append_toDigits 10 (n * 10 ^ k) 0 (by decide) positive (by decide)).symm
    rw [pow_succ, ← Nat.mul_assoc, Nat.mul_comm, digit, ih, List.append_assoc, zeros, zeros,
      List.replicate_succ']

end Text

/-! ### Layout around the point -/

namespace Decimal

/-- Without places a coefficient is laid out as the digits of an integer. -/
theorem positional_of_nonneg (c : Nat) {e : Int} (h : 0 ≤ e) :
    positional c e = Text.natDigits (c * 10 ^ e.toNat) := by
  rw [positional, if_pos h]
  by_cases hc : c = 0
  · simp [hc]
  · rw [if_neg hc, Text.natDigits_mul_pow hc]

/-- With places there are digits on both sides of the point, which together spell the
coefficient. -/
theorem positional_of_neg (c : Nat) {e : Int} (h : e < 0) :
    ∃ whole places, positional c e = whole ++ '.' :: places ∧
      whole ≠ [] ∧ (places.length : Int) = -e ∧
      (∀ d ∈ whole ++ places, Text.isDigit d = true) ∧
      Text.digitsValue (whole ++ places) = c := by
  set count := (-e).toNat with hcount
  set padded := zeros (count + 1 - (Text.natDigits c).length) ++ Text.natDigits c with hpadded
  have long : count + 1 ≤ padded.length := by
    rw [hpadded, List.length_append, zeros, List.length_replicate]
    omega
  have parts : padded.take (padded.length - count) ++ padded.drop (padded.length - count)
      = padded := List.take_append_drop _ _
  refine ⟨padded.take (padded.length - count), padded.drop (padded.length - count), ?_, ?_, ?_,
    ?_, ?_⟩
  · rw [positional, if_neg (not_le.mpr h)]
  · rw [← List.length_pos_iff, List.length_take]
    omega
  · rw [List.length_drop]
    omega
  · rw [parts]
    intro d hd
    rcases List.mem_append.mp hd with hd | hd
    · exact Text.isDigit_zeros _ d hd
    · exact Text.isDigit_natDigits c d hd
  · rw [parts, hpadded, Text.digitsValue_zeros_append, Text.digitsValue_natDigits]

/-- A coefficient that is laid out is something to be seen. -/
theorem exists_solid (c : Nat) (e : Int) : ∃ d ∈ positional c e, Text.isBlank d = false := by
  by_cases he : 0 ≤ e
  · rw [positional_of_nonneg c he]
    obtain ⟨d, ds, digits⟩ := List.exists_cons_of_ne_nil (@Nat.toDigits_ne_nil (c * 10 ^ e.toNat) 10)
    have first : d ∈ Text.natDigits (c * 10 ^ e.toNat) := by
      rw [Text.natDigits, digits]
      exact List.mem_cons_self
    exact ⟨d, first, Text.isBlank_of_mem_natDigits first⟩
  · obtain ⟨whole, places, layout, -⟩ := positional_of_neg c (not_le.mp he)
    refine ⟨'.', ?_, by decide⟩
    rw [layout]
    exact List.mem_append_right _ List.mem_cons_self

end Decimal

namespace Condition

/-! ### Fractions -/

section Fraction

variable {whole places : List Char} (hw : whole ≠ [])
  (digits : ∀ d ∈ whole ++ places, Text.isDigit d = true)

include hw digits

theorem front?_fraction (hp : places ≠ []) :
    front? (whole ++ '.' :: places) = some (.float, (whole ++ '.' :: places).length) := by
  obtain ⟨d, ds, rfl⟩ := List.exists_cons_of_ne_nil hw
  have front : ∀ x ∈ ds, Text.isDigit x = true := fun x hx =>
    digits x (List.mem_append_left _ (List.mem_cons_of_mem d hx))
  have behind : ∀ x ∈ places, Text.isDigit x = true := fun x hx =>
    digits x (List.mem_append_right _ hx)
  have first : Text.isDigit d = true := digits d List.mem_cons_self
  rw [List.cons_append, List.length_cons, front?_cons, lexeme?_digit first,
    numberLexeme_fraction front behind hp, List.length_append, List.length_cons, Nat.add_assoc,
    Nat.add_comm 1]

theorem ofText?_fraction :
    Numeral.ofText? (whole ++ '.' :: places) = some ⟨false, whole, some places, none⟩ := by
  have front : ∀ x ∈ whole, Text.isDigit x = true := fun x hx =>
    digits x (List.mem_append_left _ hx)
  have behind : ∀ x ∈ places, Text.isDigit x = true := fun x hx =>
    digits x (List.mem_append_right _ hx)
  have point := point_no_digit places
  have unsigned : ∀ c, Text.isDigit c = false → c ≠ '.' → c ∉ whole ++ '.' :: places := by
    intro c hc hdot hmem
    rw [List.mem_append, List.mem_cons] at hmem
    rcases hmem with hmem | hmem | hmem
    · exact absurd (front c hmem) (by simp [hc])
    · exact hdot hmem
    · exact absurd (behind c hmem) (by simp [hc])
  have sign : Numeral.sign (whole ++ '.' :: places) = (false, whole ++ '.' :: places) :=
    Numeral.sign_of_none (unsigned '-' (by decide) (by decide))
      (unsigned '+' (by decide) (by decide))
  have body : Numeral.body? (whole ++ '.' :: places) = some ((whole, some places), []) := by
    obtain ⟨d, ds, rfl⟩ := List.exists_cons_of_ne_nil hw
    rw [Numeral.body?, Numeral.digits, takeWhile_append_of_head point,
      dropWhile_append_of_head point, List.takeWhile_eq_self_iff.mpr front,
      List.dropWhile_eq_nil_iff.mpr front, List.nil_append]
    simp only [Numeral.digits, List.takeWhile_eq_self_iff.mpr behind,
      List.dropWhile_eq_nil_iff.mpr behind]
  simp only [Numeral.ofText?, Numeral.scan?, sign, body, Numeral.power?]

end Fraction

/-- Digits with a point between them are a lexeme that has the nearest binary64 number as its
value. -/
def Lexeme.fraction (whole places : List Char) (hw : whole ≠ []) (hp : places ≠ [])
    (digits : ∀ d ∈ whole ++ places, Text.isDigit d = true) : Lexeme where
  text := whole ++ '.' :: places
  kind := .float
  value := .float (.ofDecimal false (Text.digitsValue (whole ++ places)) (-places.length))
  whole := front?_fraction hw digits hp
  valued := by
    simp only [tokenValue, ofText?_fraction hw digits, Option.map_some, Option.getD_some,
      Numeral.toBinary64, Numeral.coefficient, Numeral.exponent, zero_sub]

/-- A coefficient with places spells the nearest binary64 number. -/
theorem Spells.fraction (c : Nat) {e : Int} (h : e < 0) :
    Spells (Decimal.positional c e) (.literal (.float (.ofDecimal false c e))) := by
  obtain ⟨whole, places, layout, hw, length, digits, value⟩ := Decimal.positional_of_neg c h
  have hp : places ≠ [] := by
    rintro rfl
    rw [List.length_nil] at length
    omega
  have nearest : (Lexeme.fraction whole places hw hp digits).value =
      .float (.ofDecimal false c e) := by
    show Value.float (.ofDecimal false (Text.digitsValue (whole ++ places)) (-places.length)) = _
    rw [value, length, neg_neg]
  rw [layout, ← nearest]
  exact .atom (Lexeme.fraction whole places hw hp digits) rfl

/-! ### Conditions that are a number -/

theorem parse_of_spells {text : String} {tree : Tree} (h : Spells text.toList tree) :
    parse text = .ok tree := by
  obtain ⟨us, stand, lexes⟩ := h
  have ended : Stops [] := nofun
  have all := lexes [] [] ended .nil
  have tree := stand [] []
  rw [List.append_nil, List.append_nil] at all
  rw [List.append_nil] at tree
  exact parse_of_lexesTo all tree

/-- A text with something else than white space in it is no blank condition, with a sign in
front or without. -/
theorem allBlank_signed {cs : List Char} (h : ∃ c ∈ cs, Text.isBlank c = false)
    (negative : Bool) : Text.allBlank (signed negative cs).toList = false := by
  obtain ⟨c, hc, solid⟩ := h
  rw [← Bool.not_eq_true, Text.allBlank, List.all_eq_true]
  intro all
  have blank : Text.isBlank c = true := by
    refine all c ?_
    cases negative <;> simp [signed, hc]
  rw [solid] at blank
  cases blank

/-- **A condition that is a number** holds if the number is not zero, whatever its sign. -/
theorem holds_signed {cs : List Char} {n : Number} (h : Spells cs (.literal (ofNumber n)))
    (solid : ∃ c ∈ cs, Text.isBlank c = false) (negative : Bool) :
    holds (signed negative cs) = .ok !n.isZero := by
  have unsigned (n : Number) : truth? (ofNumber n) = .ok !n.isZero := by
    cases n <;> rfl
  have turned : n.neg.isZero = n.isZero := by
    cases n with
    | int k => simp [Number.neg, Number.isZero]
    | float x => cases x <;> rfl
  have number : number? (ofNumber n) = .ok n := by
    cases n <;> rfl
  rw [holds, allBlank_signed solid, if_neg Bool.false_ne_true]
  cases negative with
  | false =>
    have tree : parse (signed false cs) = .ok (.literal (ofNumber n)) :=
      parse_of_spells (by simpa [signed] using h)
    simp only [tree, Tree.eval, unsigned]
  | true =>
    have tree : parse (signed true cs) = .ok (.unary .neg (.literal (ofNumber n))) :=
      parse_of_spells (by simpa [signed] using h.neg)
    simp only [tree, Tree.eval, applyUnary, number, unsigned, turned]

/-- A condition that is digits, too many of them, cannot be read. -/
theorem holds_overlong {ds : List Char} (digits : ∀ d ∈ ds, Text.isDigit d = true)
    (solid : ∃ d ∈ ds, Text.isBlank d = false) (long : integerLimit < ds.length)
    (negative : Bool) :
    holds (signed negative ds) = .error (.number (.longNumeral ds.length)) := by
  have hne : ds ≠ [] := by
    rintro rfl
    cases long
  have stopped (pos : Nat) : lexFrom pos ds = ([], .overlong ds.length) := by
    have front := front?_digits hne digits
    obtain ⟨d, rest, rfl⟩ := List.exists_cons_of_ne_nil hne
    have hl : lexeme? d rest = some (.integer, rest.length) := front?_cons.mp front
    have hd : ¬ isGap d = true := by
      intro hd
      rw [lexeme?_gap hd] at hl
      cases hl
    rw [lexFrom, if_neg hd]
    simp only [hl, List.take_length, tokenValue, if_pos long]
  rw [holds, allBlank_signed solid, if_neg Bool.false_ne_true]
  cases negative with
  | false =>
    have lexed : lex (signed false ds).toList = ([], .overlong ds.length) := by
      simpa [lex, signed] using stopped 0
    simp only [parse, lexed, Reading.run]
  | true =>
    have lexed : lex (signed true ds).toList
        = ([⟨.arith .sub, .text "-", 0⟩], .overlong ds.length) := by
      have minus := Lexeme.minus.lexFrom_append (Lexeme.minus_closed ds) 0
      rw [stopped] at minus
      rw [signed, if_pos rfl, String.toList_ofList]
      exact minus
    have read : Reading.run {} [⟨.arith .sub, .text "-", 0⟩] = .ok ⟨[.sign .minus], none⟩ := rfl
    simp only [parse, lexed, read]

/-! ### Numbers and their literals -/

/-- The absolute value of a finite floating-point number or decimal. -/
def size? : Value → Option ℚ
  | .float (.finite _ m e) => some (m * 2 ^ e)
  | .decimal (.finite _ c e) => some (c * 10 ^ e)
  | _ => none

/-- The greatest absolute value that is lost when a number is written and read again: one half
of the sixth place of a floating-point number, and of the least binary64 number otherwise. -/
def loss : Value → ℚ
  | .float _ => 1 / 2000000
  | _ => Binary64.halfLeast

/-- Whether a number is written as an integer of too many digits to be read. -/
def Unreadable : Value → Prop
  | .decimal (.finite _ c e) => 0 ≤ e ∧ integerLimit < Text.digitCount (c * 10 ^ e.toNat)
  | _ => False

theorem truthy_eq_decide {v : Value} {size : ℚ} (hv : size? v = some size) :
    truthy v = decide (size ≠ 0) := by
  unfold size? at hv
  split at hv
  · next m e =>
    cases hv
    have power : (2 : ℚ) ^ e ≠ 0 := zpow_ne_zero e two_ne_zero
    rw [Bool.eq_iff_iff]
    simp [truthy, Binary64.isZero, power]
  · next c e =>
    cases hv
    have power : (10 : ℚ) ^ e ≠ 0 := zpow_ne_zero e (by norm_num)
    rw [Bool.eq_iff_iff]
    simp [truthy, Decimal.isZero, power]
  · cases hv

/-- Up to six places no number but zero is too small for a binary64 number. -/
theorem le_halfLeast_iff {c : Nat} {e : Int} (h : -6 ≤ e) :
    (c * 10 ^ e : ℚ) ≤ Binary64.halfLeast ↔ c = 0 := by
  constructor
  · intro small
    by_contra some
    have one : (1 : ℚ) ≤ c := by exact_mod_cast Nat.one_le_iff_ne_zero.mpr some
    have visible : Binary64.halfLeast < c * 10 ^ e := by
      calc Binary64.halfLeast < 2 ^ (-20 : Int) := zpow_lt_zpow_right₀ one_lt_two (by decide)
        _ ≤ 1 * 10 ^ (-6 : Int) := by norm_num
        _ ≤ c * 10 ^ e := by gcongr; norm_num
    exact absurd small (not_le.mpr visible)
  · rintro rfl
    simpa using Binary64.halfLeast_pos.le

theorem not_eq_decide_lt {b : Bool} {x y : ℚ} (h : b = true ↔ x ≤ y) :
    (!b) = decide (y < x) := by
  cases b with
  | false => exact (decide_eq_true (not_le.mp fun hle => Bool.false_ne_true (h.mpr hle))).symm
  | true => exact (decide_eq_false (not_lt.mpr (h.mp rfl))).symm

/-- A finite floating-point number as a condition: its sixth place is all that counts. -/
theorem holds_fixed_float (negative : Bool) (m : Nat) (e : Int) :
    holds (Binary64.finite negative m e).fixedText
      = .ok (decide ((1 / 2000000 : ℚ) < m * 2 ^ e)) := by
  set ratio := Binary64.magnitude m e with hratio
  set millionths := roundDiv (ratio.1 * Nat.pow 10 6) ratio.2 with hmillionths
  have text : (Binary64.finite negative m e).fixedText =
      signed negative (Decimal.positional millionths (-6)) := rfl
  -- a number of millionths is read as zero only if there are none
  have read : (Binary64.ofDecimal false millionths (-6)).isZero = true ↔ millionths = 0 := by
    rw [Binary64.isZero_ofDecimal_iff, le_halfLeast_iff le_rfl]
  have rounded : millionths = 0 ↔ (m * 2 ^ e : ℚ) ≤ 1 / 2000000 := by
    have positive : 0 < ratio.2 := scaled_pos (by decide) (by decide) m e
    have size : (ratio.1 / ratio.2 : ℚ) = m * 2 ^ e := by
      rw [hratio, Binary64.magnitude, scaled_ratio, Nat.cast_one, div_one, Nat.cast_ofNat]
    have shifted : ((ratio.1 * Nat.pow 10 6 : Nat) / ratio.2 : ℚ) = m * 2 ^ e * 1000000 := by
      rw [← size]
      push_cast
      ring
    rw [hmillionths, roundDiv_eq_zero_iff _ positive, shifted]
    constructor <;> intro <;> linarith
  have fraction := Spells.fraction millionths (show (-6 : Int) < 0 by decide)
  rw [text, holds_signed (n := .float _) fraction (Decimal.exists_solid millionths (-6))]
  exact congrArg Except.ok (not_eq_decide_lt (read.trans rounded))

section Decimals

variable (negative : Bool) (c : Nat) (e : Int)

/-- A decimal that is written without places is an integer of as many digits as it is
written with. -/
theorem holds_fixed_overlong (long : Unreadable (.decimal (.finite negative c e))) :
    holds (Decimal.finite negative c e).fixedText
      = .error (.number (.longNumeral (Text.digitCount (c * 10 ^ e.toNat)))) := by
  have solid := Decimal.exists_solid c e
  rw [Decimal.positional_of_nonneg c long.1] at solid
  rw [Decimal.fixedText, Decimal.positional_of_nonneg c long.1]
  exact holds_overlong (Text.isDigit_natDigits _) solid long.2 negative

/-- A finite decimal as a condition: it holds unless the decimal is too small for a
binary64 number. -/
theorem holds_fixed_decimal (short : ¬ Unreadable (.decimal (.finite negative c e))) :
    holds (Decimal.finite negative c e).fixedText
      = .ok (decide (Binary64.halfLeast < c * 10 ^ e)) := by
  have solid := Decimal.exists_solid c e
  rw [Decimal.fixedText]
  by_cases he : 0 ≤ e
  · have digits : Text.digitCount (c * 10 ^ e.toNat) ≤ integerLimit := by
      by_contra long
      exact short ⟨he, not_le.mp long⟩
    have numeral := Spells.numeral digits
    rw [← Decimal.positional_of_nonneg c he] at numeral
    rw [holds_signed (n := .int _) numeral solid]
    refine congrArg Except.ok (not_eq_decide_lt ?_)
    rw [le_halfLeast_iff (by omega)]
    simp [Number.isZero]
  · rw [holds_signed (n := .float _) (Spells.fraction c (not_le.mp he)) solid]
    exact congrArg Except.ok (not_eq_decide_lt (Binary64.isZero_ofDecimal_iff false c e))

end Decimals

/-- **Writing a number and its truth.**  Every finite floating-point number and decimal has a
literal.  As a condition the literal cannot be read if it is an integer of too many digits,
and otherwise it holds exactly if the number is larger than what is lost.  So it is as true as
the number exactly if it can be read and the number is zero or larger than what is lost. -/
theorem literal_truth (blank : Blank) {v : Value} {size : ℚ} (hv : size? v = some size) :
    truthy v = decide (size ≠ 0) ∧
    ∃ text, literal? blank v = .ok text ∧
      (Unreadable v → ∃ digits, holds text = .error (.number (.longNumeral digits))) ∧
      (¬ Unreadable v → holds text = .ok (decide (loss v < size))) ∧
      (holds text = .ok (truthy v) ↔ ¬ Unreadable v ∧ (size = 0 ∨ loss v < size)) := by
  obtain ⟨text, literal, long, short⟩ : ∃ text, literal? blank v = .ok text ∧
      (Unreadable v → ∃ digits, holds text = .error (.number (.longNumeral digits))) ∧
      (¬ Unreadable v → holds text = .ok (decide (loss v < size))) := by
    unfold size? at hv
    split at hv
    · next s m e =>
      cases hv
      exact ⟨_, rfl, False.elim, fun _ => holds_fixed_float s m e⟩
    · next s c e =>
      cases hv
      exact ⟨_, rfl, fun h => ⟨_, holds_fixed_overlong s c e h⟩, holds_fixed_decimal s c e⟩
    · cases hv
  have truth := truthy_eq_decide hv
  refine ⟨truth, text, literal, long, short, ?_⟩
  by_cases h : Unreadable v
  · obtain ⟨digits, hdigits⟩ := long h
    rw [hdigits]
    exact iff_of_false (fun he => by cases he) fun hs => hs.1 h
  · have nonneg : 0 ≤ loss v := by
      unfold loss
      split
      · norm_num
      · exact Binary64.halfLeast_pos.le
    rw [short h, truth, Except.ok.injEq, decide_eq_decide]
    constructor
    · intro same
      exact ⟨h, (eq_or_ne size 0).imp_right same.mpr⟩
    · rintro ⟨-, zero | large⟩
      · rw [zero]
        exact iff_of_false (not_lt.mpr nonneg) (not_not.mpr rfl)
      · exact iff_of_true large (nonneg.trans_lt large).ne'

/-- A negative decimal with two places is as true as its literal. -/
theorem literal_truth_price :
    size? (.decimal (.finite true 150 (-2))) = some (3 / 2) ∧
      literal? .empty (.decimal (.finite true 150 (-2))) = .ok "-1.50" ∧
      holds "-1.50" = .ok (truthy (.decimal (.finite true 150 (-2)))) := by
  have size : size? (.decimal (.finite true 150 (-2))) = some (3 / 2) := by
    norm_num [size?]
  have written : literal? .empty (.decimal (.finite true 150 (-2))) = .ok "-1.50" := by
    with_unfolding_all rfl
  obtain ⟨-, text, literal, -, -, kept⟩ := literal_truth .empty size
  cases written.symm.trans literal
  refine ⟨size, written, kept.mpr ⟨fun h => absurd h.1 (by decide), .inr ?_⟩⟩
  calc Binary64.halfLeast < 2 ^ (0 : Int) := zpow_lt_zpow_right₀ one_lt_two (by decide)
    _ ≤ 3 / 2 := by norm_num

/-- A floating-point number that is not zero and has no sixth place is written as zero, and is
false. -/
theorem tenMillionth_lost :
    truthy (.float (.ofDecimal false 1 (-7))) = true ∧
      literal? .empty (.float (.ofDecimal false 1 (-7))) = .ok "0.000000" ∧
      holds "0.000000" = .ok false := by
  refine ⟨by decide, ?_, ?_⟩
  · with_unfolding_all rfl
  · with_unfolding_all rfl

end Condition

end SqlScript
