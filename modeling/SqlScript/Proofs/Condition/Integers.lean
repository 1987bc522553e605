/-
SqlScript/Proofs/Condition/Integers.lean

Integers and their texts are compared alike.

The text of an integer is a sign, if the integer is negative, and digits.  As a number, a text
counts for the numeral at its front, and the numeral of such a text is all of it, whatever
follows that is neither a digit nor a point nor a power of ten (`Numeral.scan?_intText`).  It has
neither point nor power, so it is read as an integer and no digit is lost, provided that there
are not more of them than can be read (`leadingNumber_intText`).

So an integer is won back from its text, different integers have different texts, and it makes
no difference whether two integers are tested for being the same as numbers or as texts, and
which of them is given as a text (`integers_compared_alike`).
-/
import SqlScript.Condition.Eval
import SqlScript.Proofs.Condition.Hygiene

namespace SqlScript

/-! ### Reading the text of an integer -/

namespace Text

theorem toList_intText (n : Int) :
    (intText n).toList = if n < 0 then '-' :: natDigits n.natAbs else natDigits n.natAbs := by
  rw [intText]
  split <;> simp [natText]

theorem intText_ne_nil (n : Int) : (intText n).toList ≠ [] := by
  rw [toList_intText]
  split
  · exact List.cons_ne_nil _ _
  · exact Nat.toDigits_ne_nil

theorem isBlank_of_mem_intText {n : Int} {c : Char} (h : c ∈ (intText n).toList) :
    isBlank c = false := by
  rw [toList_intText] at h
  split at h
  · rcases List.mem_cons.mp h with rfl | h
    · decide
    · exact isBlank_of_mem_natDigits h
  · exact isBlank_of_mem_natDigits h

end Text

/-- Whether the numeral of an integer does not go on with what a text starts with. -/
def EndsInteger (rest : List Char) : Prop :=
  ∀ c ∈ rest.head?, Text.isDigit c = false ∧ c ∉ ['.', 'e', 'E']

instance (rest : List Char) : Decidable (EndsInteger rest) :=
  decidable_of_iff (rest.head?.all fun c => !Text.isDigit c && !(['.', 'e', 'E'].contains c))
    (by simp [EndsInteger, Option.all_eq_true])

namespace Numeral

theorem digits_natDigits (n : Nat) {rest : List Char} (h : EndsInteger rest) :
    digits (Text.natDigits n ++ rest) = (Text.natDigits n, rest) := by
  have stop : ∀ c ∈ rest.head?, Text.isDigit c = false := fun c hc => (h c hc).1
  have all : ∀ c ∈ Text.natDigits n, Text.isDigit c = true := Text.isDigit_natDigits n
  rw [digits, takeWhile_append_of_head stop, dropWhile_append_of_head stop,
    List.takeWhile_eq_self_iff.mpr all, List.dropWhile_eq_nil_iff.mpr all, List.nil_append]

theorem body?_natDigits (n : Nat) {rest : List Char} (h : EndsInteger rest) :
    body? (Text.natDigits n ++ rest) = some ((Text.natDigits n, none), rest) := by
  have some : Text.natDigits n ≠ [] := Nat.toDigits_ne_nil
  have point : ∀ cs, rest ≠ '.' :: cs := by
    rintro cs rfl
    exact (h '.' rfl).2 (by decide)
  rw [body?, digits_natDigits n h]
  split
  · rename_i heq
    exact absurd (congrArg Prod.fst heq) some
  · rename_i heq
    exact absurd (congrArg Prod.fst heq) some
  · rename_i heq
    exact absurd (congrArg Prod.snd heq) (point _)
  · rename_i heq
    cases heq
    rfl

theorem power?_eq_none {rest : List Char} (h : EndsInteger rest) : power? rest = (none, rest) := by
  rcases rest with - | ⟨c, cs⟩
  · rfl
  · have mark : ¬ (c = 'e' ∨ c = 'E') := by
      rintro (rfl | rfl) <;> exact (h _ rfl).2 (by decide)
    rw [power?, if_neg mark]

theorem sign_intText (n : Int) (rest : List Char) :
    sign ((Text.intText n).toList ++ rest) = (decide (n < 0), Text.natDigits n.natAbs ++ rest) := by
  rw [Text.toList_intText]
  by_cases hn : n < 0
  · rw [if_pos hn, List.cons_append, sign, decide_eq_true hn]
  · rw [if_neg hn, decide_eq_false hn]
    obtain ⟨d, ds, digits⟩ := List.exists_cons_of_ne_nil (@Nat.toDigits_ne_nil n.natAbs 10)
    have isDigit : Text.isDigit d = true := by
      refine Text.isDigit_natDigits n.natAbs d ?_
      rw [Text.natDigits, digits]
      exact List.mem_cons_self
    rw [Text.natDigits, digits, List.cons_append]
    unfold sign
    split
    · rename_i heq
      rw [(List.cons.inj heq).1] at isDigit
      exact absurd isDigit (by decide)
    · rename_i heq
      rw [(List.cons.inj heq).1] at isDigit
      exact absurd isDigit (by decide)
    · rfl

/-- The text of an integer is a numeral, with what follows left over. -/
theorem scan?_intText (n : Int) {rest : List Char} (h : EndsInteger rest) :
    scan? ((Text.intText n).toList ++ rest) =
      some (⟨decide (n < 0), Text.natDigits n.natAbs, none, none⟩, rest) := by
  simp only [scan?, sign_intText, body?_natDigits n.natAbs h, power?_eq_none h]

end Numeral

namespace Condition

/-- **An integer is won back from its text**, with white space in front of it and other text
behind it. -/
theorem leadingNumber_intText {n : Int} (short : Text.digitCount n.natAbs ≤ integerLimit)
    {blanks rest : List Char} (hb : Text.allBlank blanks = true) (h : EndsInteger rest) :
    leadingNumber (blanks ++ (Text.intText n).toList ++ rest) = .int n := by
  have front : (blanks ++ (Text.intText n).toList ++ rest).dropWhile Text.isBlank =
      (Text.intText n).toList ++ rest := by
    obtain ⟨c, cs, text⟩ := List.exists_cons_of_ne_nil (Text.intText_ne_nil n)
    have solid : Text.isBlank c = false :=
      Text.isBlank_of_mem_intText (by rw [text]; exact List.mem_cons_self)
    rw [text, List.append_assoc, List.dropWhile_append_of_pos (List.all_eq_true.mp hb),
      List.cons_append, List.dropWhile_cons_of_neg (by simp [solid])]
  have value : (if decide (n < 0) = true then -(n.natAbs : Int) else n.natAbs) = n := by
    by_cases hneg : n < 0
    · rw [if_pos (decide_eq_true hneg)]
      omega
    · rw [if_neg (by simpa using hneg)]
      omega
  rw [leadingNumber, front, Numeral.scan?_intText n h]
  show Numeral.toNumber _ = _
  rw [Numeral.toNumber]
  simp only [Text.digitsValue_natDigits]
  have few : (Text.natDigits n.natAbs).length ≤ integerLimit := short
  rw [if_pos few, value]

/-! ### Comparing integers -/

/-- An integer, as it is or as its text. -/
inductive IntegerForm (n : Int) : Value → Prop
  | int : IntegerForm n (.int n)
  | text : IntegerForm n (.text (Text.intText n))

section Forms

variable {n : Int} {v : Value} (short : Text.digitCount n.natAbs ≤ integerLimit)
  (h : IntegerForm n v)

include short h

theorem IntegerForm.number? : number? v = .ok (.int n) := by
  cases h with
  | int => rfl
  | text =>
    have read := @leadingNumber_intText n short [] [] rfl nofun
    rw [List.nil_append, List.append_nil] at read
    exact congrArg Except.ok read

theorem IntegerForm.toText? : toText? v = .ok (Text.intText n) := by
  cases h with
  | int => exact literal?_int .empty short
  | text => rfl

end Forms

/-- Different integers have different texts. -/
theorem intText_inj {n m : Int} (hn : Text.digitCount n.natAbs ≤ integerLimit)
    (hm : Text.digitCount m.natAbs ≤ integerLimit) :
    Text.intText n = Text.intText m ↔ n = m := by
  constructor
  · intro same
    have first := IntegerForm.number? hn .text
    rw [same, IntegerForm.number? hm .text] at first
    cases first
    rfl
  · rintro rfl
    rfl

theorem compareTexts_eq_iff (a b : String) : compareTexts a b = .eq ↔ a = b := by
  rw [compareTexts]
  split
  · rename_i less
    refine iff_of_false nofun ?_
    rintro rfl
    exact String.lt_irrefl a less
  · split <;> simp [*]

theorem compareNumbers_int (r : Relation) (n m : Int) :
    compareNumbers r (.int n) (.int m) = r.holds (compare n m) := by
  simp [compareNumbers, Number.compare?, Number.extent?, Number.Extent.compare]

/-- Orders that agree on sameness agree on whether things are the same and whether they
differ. -/
theorem holds_same {o : Ordering} {p : Prop} [Decidable p] (h : o = .eq ↔ p) :
    Relation.eq.holds o = decide p ∧ Relation.ne.holds o = decide (¬ p) := by
  by_cases hp : p
  · rw [h.mpr hp]
    simp [Relation.holds, hp]
  · have other : o ≠ .eq := mt h.mp hp
    simp [Relation.holds, hp, other]

/-- **Integers are compared alike as numbers and as texts.**  A text counts for the integer at
its front, with white space before it and anything behind it that the numeral does not go on
with.  So two integers, each given as it is or as its text, are the same for the comparison of
numbers exactly if they are for that of texts, which is exactly if they are the same, and
likewise they differ. -/
theorem integers_compared_alike {n m : Int} (hn : Text.digitCount n.natAbs ≤ integerLimit)
    (hm : Text.digitCount m.natAbs ≤ integerLimit) :
    (∀ blanks rest, Text.allBlank blanks = true → EndsInteger rest →
      number? (.text (String.ofList (blanks ++ (Text.intText n).toList ++ rest))) =
        .ok (.int n)) ∧
    ∀ left right v w, left.eval = .ok v → right.eval = .ok w →
      IntegerForm n v → IntegerForm m w →
      (Tree.binary (.text .eq) left right).eval = .ok (.bool (n = m)) ∧
      (Tree.binary (.number .eq) left right).eval = .ok (.bool (n = m)) ∧
      (Tree.binary (.text .ne) left right).eval = .ok (.bool (n ≠ m)) ∧
      (Tree.binary (.number .ne) left right).eval = .ok (.bool (n ≠ m)) := by
  constructor
  · intro blanks rest hb hr
    show Except.ok (leadingNumber (String.ofList _).toList) = _
    rw [String.toList_ofList, leadingNumber_intText hn hb hr]
  · intro left right v w hleft hright hv hw
    have texts := holds_same ((compareTexts_eq_iff _ _).trans (intText_inj hn hm))
    have numbers := holds_same (Std.LawfulEqOrd.compare_eq_iff_eq (a := n) (b := m))
    simp only [Tree.eval, hleft, hright, apply, bothNumbers, hv.number? hn, hw.number? hm,
      hv.toText? hn, hw.toText? hm, compareNumbers_int, texts, numbers, and_self]

/-- A negative number that is computed, and its text. -/
theorem minusSeven_compared_alike :
    Text.digitCount (-7 : Int).natAbs ≤ integerLimit ∧
      Text.allBlank ['\t', ' '] = true ∧ EndsInteger " offers".toList ∧
      number? (.text "\t -7 offers") = .ok (.int (-7)) ∧
      (Tree.unary .neg (.literal (.int 7))).eval = .ok (.int (-7)) ∧
      (Tree.binary (.text .eq) (.unary .neg (.literal (.int 7))) (.literal (.text "-7"))).eval =
        .ok (.bool true) ∧
      (Tree.binary (.number .eq) (.unary .neg (.literal (.int 7))) (.literal (.text "-7"))).eval =
        .ok (.bool true) := by
  have short : Text.digitCount (-7 : Int).natAbs ≤ integerLimit := by decide
  have blank : Text.allBlank ['\t', ' '] = true := by decide
  have ends : EndsInteger " offers".toList := by decide
  have text : Text.intText (-7) = "-7" := by decide
  obtain ⟨read, compared⟩ := integers_compared_alike short short
  have same := compared (.unary .neg (.literal (.int 7))) (.literal (.text "-7")) _ _ rfl rfl .int
    (text ▸ .text)
  have whole : String.ofList (['\t', ' '] ++ (Text.intText (-7)).toList ++ " offers".toList)
      = "\t -7 offers" := by
    rw [text]
    decide
  exact ⟨short, blank, ends, whole ▸ read _ _ blank ends, rfl, same.1, same.2.1⟩

end Condition

end SqlScript
