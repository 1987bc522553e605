/-
SqlScript/Proofs/Engine/Operands.lean

Operands under different bind markers.

Addresses, settings and script names are read from the bound statement, so they may depend on
the marker that is bound.  The two markers of positional styles are compared here, the question
mark and the marker of the format style.

No setting has a marker in it, so a setting with a placeholder is unknown under both
(`setting?_rebound`).  A word with a marker or a percent sign in it is no integer, so it is an
address only if it is the marker alone, and then the first bound value is the address
(`addressOperand_rebound`).  What is left is a statement with placeholders whose first word was
written as a question mark: under one marker it stands for a value, under the other it does not
(`addressOperand_question`).
The name of a script is any word, so it depends on the marker whenever the word has a
placeholder or a percent sign in it and there is something to bind (`firstWord?_rebound_iff`).
-/
import SqlScript.Proofs.Engine.Simulation
import SqlScript.Proofs.Template.Markers

namespace SqlScript

/-! ### Words that are integers -/

theorem mem_dropWhile_of_not {p : Char → Bool} {c : Char} {cs : List Char} (h : c ∈ cs)
    (hc : p c = false) : c ∈ cs.dropWhile p := by
  rw [← List.takeWhile_append_dropWhile (p := p) (l := cs), List.mem_append] at h
  refine h.resolve_left fun ht => ?_
  rw [List.mem_takeWhile_imp ht] at hc
  cases hc

theorem mem_unpad {c : Char} {cs : List Char} (h : c ∈ cs) (hc : isPadding c = false) :
    c ∈ unpad cs := by
  rw [unpad, List.mem_reverse]
  exact mem_dropWhile_of_not (List.mem_reverse.mpr (mem_dropWhile_of_not h hc)) hc

theorem mem_of_dropUnderscores? {c : Char} {afterDigit : Bool} {cs ds : List Char}
    (h : dropUnderscores? afterDigit cs = some ds) (hc : c ∈ cs) (hu : c ≠ '_') : c ∈ ds := by
  fun_induction dropUnderscores? afterDigit cs generalizing ds with
  | case1 => cases hc
  | case2 afterDigit d cs hd ih =>
    obtain ⟨rest, hrest, rfl⟩ := Option.map_eq_some_iff.mp h
    rcases List.mem_cons.mp hc with hc | hc
    · exact absurd hc hu
    rcases List.mem_cons.mp hc with rfl | hc
    · exact List.mem_cons_self
    · exact List.mem_cons_of_mem _ (ih hrest hc)
  | case3 => cases h
  | case4 => cases h
  | case5 afterDigit d cs _ hd ih =>
    obtain ⟨rest, hrest, rfl⟩ := Option.map_eq_some_iff.mp h
    rcases List.mem_cons.mp hc with rfl | hc
    · exact List.mem_cons_self
    · exact List.mem_cons_of_mem _ (ih hrest hc)

/-- A word with any other character in it than digits, underscores, a sign and padding is
no integer. -/
theorem readInteger_malformed {c : Char} {cs : List Char} (h : c ∈ cs)
    (hp : isPadding c = false) (hu : c ≠ '_') (hs : c ≠ '-' ∧ c ≠ '+')
    (hd : Text.isDigit c = false) : readInteger cs = .error .malformed := by
  have hsigned : c ∈ (Numeral.sign (unpad cs)).2 := by
    have hc := mem_unpad h hp
    unfold Numeral.sign
    split
    · next rest hrest =>
      rw [hrest] at hc
      exact (List.mem_cons.mp hc).resolve_left hs.1
    · next rest hrest =>
      rw [hrest] at hc
      exact (List.mem_cons.mp hc).resolve_left hs.2
    · exact hc
  rw [readInteger]
  rcases hds : dropUnderscores? false (Numeral.sign (unpad cs)).2 with - | ds
  · rfl
  · have hmem : c ∈ ds := mem_of_dropUnderscores? hds hsigned hu
    have hall : ds.all Text.isDigit = false := by
      rw [List.all_eq_false]
      exact ⟨c, hmem, by simp [hd]⟩
    simp [hall]

/-- A word that is no integer is no address. -/
theorem Value.toAddress_malformed {cs : List Char} (h : readInteger cs = .error .malformed) :
    (Value.text (String.ofList cs)).toAddress =
      .error (.of (.invalidIndex (.text (String.ofList cs)))) := by
  simp [toAddress, h, Except.toOption, overlong]

/-! ### Statements that are bound again -/

/-- The text of a statement with a marker in the places of its placeholders. -/
def boundText (statement marker : String) : String :=
  String.ofList ((Template.parse statement.toList).bound marker.toList)

/-- What a statement resolves to under another marker. -/
def Resolved.rebound (marker : String) (r : Resolved) : Resolved :=
  { r with text := boundText r.statement marker }

/-- A statement has its values, one for each placeholder, and the marker in their places. -/
structure Resolved.IsBound (marker : String) (r : Resolved) : Prop where
  text : r.text = boundText r.statement marker
  args : r.args.length = (Template.parse r.statement.toList).placeholders.length

/-- The characters of a statement that is bound under the question mark. -/
theorem Resolved.IsBound.toList_text {r : Resolved} (h : r.IsBound "?") :
    r.text.toList = (Template.parse r.statement.toList).bound ['?'] := by
  rw [h.text, boundText, String.toList_ofList]
  rfl

/-- The characters of a statement that is bound again under the marker of the format style. -/
theorem Resolved.toList_rebound (r : Resolved) :
    (r.rebound "%s").text.toList = (Template.parse r.statement.toList).bound ['%', 's'] := by
  rw [Resolved.rebound, boundText, String.toList_ofList]
  rfl

theorem Resolved.IsBound.args_eq_nil_iff {marker : String} {r : Resolved} (h : r.IsBound marker) :
    r.args = [] ↔ (Template.parse r.statement.toList).placeholders = [] := by
  rw [← List.length_eq_zero_iff, h.args, List.length_eq_zero_iff]

namespace Text

open Template

section Words

variable {cs word : List Char}

theorem firstWord?_question (h : (parse cs).placeholders ≠ []) :
    firstWord? ((parse cs).bound ['?']) =
      (firstWord? cs).map fun word => (parse word).joined ['?'] false := by
  apply firstWord?_bound_eq (List.cons_ne_nil _ _) _ h
  simp only [List.mem_singleton, forall_eq]
  decide

theorem firstWord?_format (h : (parse cs).placeholders ≠ []) :
    firstWord? ((parse cs).bound ['%', 's']) =
      (firstWord? cs).map fun word => (parse word).joined ['%', 's'] true := by
  apply firstWord?_bound_eq (List.cons_ne_nil _ _) _ h
  simp only [List.mem_cons, List.not_mem_nil, or_false, forall_eq_or_imp, forall_eq]
  decide

/-- A word that either marker changes is an integer under neither. -/
theorem malformed_of_changed (h : ¬ ((parse word).placeholders = [] ∧ '%' ∉ word)) :
    readInteger ((parse word).joined ['?'] false) = .error .malformed ∧
      readInteger ((parse word).joined ['%', 's'] true) = .error .malformed := by
  have question : ∀ xs : List Char, '?' ∈ xs → readInteger xs = .error .malformed := fun xs hx =>
    readInteger_malformed hx (by decide) (by decide) (by decide) (by decide)
  have percent : ∀ xs : List Char, '%' ∈ xs → readInteger xs = .error .malformed := fun xs hx =>
    readInteger_malformed hx (by decide) (by decide) (by decide) (by decide)
  by_cases hp : (parse word).placeholders = []
  · have hmem : '%' ∈ word := by
      by_contra hmem
      exact h ⟨hp, hmem⟩
    rw [joined_of_no_placeholders hp, joined_of_no_placeholders hp]
    exact ⟨percent _ (mem_spread.mpr hmem), percent _ (mem_spread.mpr hmem)⟩
  · exact ⟨question _ (mem_joined_of_mem_marker hp (by decide)),
      percent _ (mem_joined_of_mem_marker hp (by decide))⟩

/-- A word that was not written as the question mark becomes the marker under both markers, if
it is a placeholder alone, or under neither. -/
theorem joined_eq_marker_cases (h : word ≠ ['?']) :
    ((parse word).joined ['?'] false = ['?'] ∧
        (parse word).joined ['%', 's'] true = ['%', 's']) ∨
      (parse word).joined ['?'] false ≠ ['?'] ∧
        (parse word).joined ['%', 's'] true ≠ ['%', 's'] := by
  by_cases hp : (parse word).placeholders = []
  · rw [joined_of_no_placeholders hp, joined_of_no_placeholders hp]
    exact .inr ⟨h, doublePercent_ne_format word⟩
  · by_cases lone : ∃ p, parse word = ⟨[], [(p, [])]⟩
    · exact .inl ⟨(joined_eq_marker_iff (by decide) hp).mpr lone,
        (joined_eq_marker_iff (by decide) hp).mpr lone⟩
    · exact .inr ⟨mt (joined_eq_marker_iff (by decide) hp).mp lone,
        mt (joined_eq_marker_iff (by decide) hp).mp lone⟩

/-- The two markers change a word alike only if they do not change it at all. -/
theorem joined_rebound_iff :
    (parse word).joined ['?'] false = (parse word).joined ['%', 's'] true ↔
      (parse word).placeholders = [] ∧ '%' ∉ word := by
  constructor
  · intro h
    have hgrown := length_joined_format (parse word)
    rw [← h] at hgrown
    have hnone : (parse word).placeholders = [] := by
      rw [placeholders, List.map_eq_nil_iff, ← List.length_eq_zero_iff]
      omega
    have hcount : (parse word).head.count '%' = 0 := by omega
    rw [parse_of_no_placeholders hnone] at hcount
    exact ⟨hnone, List.count_eq_zero.mp hcount⟩
  · rintro ⟨hnone, hplain⟩
    rw [joined_of_no_placeholders hnone, joined_of_no_placeholders hnone, spread_plain _ hplain,
      spread_plain _ hplain]

/-- **The first word is the same under both markers** exactly if there is nothing to bind, or
neither marker changes it. -/
theorem firstWord?_rebound_iff :
    firstWord? ((parse cs).bound ['?']) = firstWord? ((parse cs).bound ['%', 's']) ↔
      (parse cs).placeholders = [] ∨
        ∀ word ∈ firstWord? cs, (parse word).placeholders = [] ∧ '%' ∉ word := by
  by_cases hp : (parse cs).placeholders = []
  · rw [bound_of_no_placeholders hp, bound_of_no_placeholders hp]
    exact iff_of_true rfl (.inl hp)
  rw [firstWord?_question hp, firstWord?_format hp, or_iff_right hp]
  rcases hw : firstWord? cs with - | word
  · simp
  · simpa using joined_rebound_iff

end Words

end Text

/-! ### Operands -/

/-- Two failures of the same kind: errors of one kind in the same context, or the same
fault. -/
inductive Failure.SameKind : Failure → Failure → Prop
  | error {e e' : ProcedureError} : e.kind = e'.kind → e.context = e'.context →
      SameKind (.error e) (.error e')
  | fault (f : Fault) : SameKind (.fault f) (.fault f)

theorem Failure.SameKind.refl (f : Failure) : f.SameKind f := by
  cases f with
  | error e => exact .error rfl rfl
  | fault f => exact .fault f

section Operands

open Template

variable {r : Resolved}

theorem addressOperand_eq {word : List Char} (h : Text.firstWord? r.text.toList = some word)
    (marker : String) :
    addressOperand r marker =
      (addressValue word r.args marker.toList).1.toAddress.map
        fun target => (target, (addressValue word r.args marker.toList).2) := by
  simp only [addressOperand, h]
  rcases (addressValue word r.args marker.toList).1.toAddress with f | target
  · rfl
  · rfl

/-- A word that is not the marker is the address itself, and leaves all bound values. -/
theorem addressValue_of_ne {word marker : List Char} (h : word ≠ marker) (args : List Value) :
    addressValue word args marker = (.text (String.ofList word), args) := by
  rcases args with - | ⟨first, rest⟩
  · rfl
  · rw [addressValue, if_neg h]

section FirstWords

variable {word : List Char} (hp : (parse r.statement.toList).placeholders ≠ [])
variable (hword : Text.firstWord? r.statement.toList = some word)

include hp hword

/-- The first word under the question mark. -/
theorem Resolved.IsBound.firstWord?_text (hr : r.IsBound "?") :
    Text.firstWord? r.text.toList = some ((parse word).joined ['?'] false) := by
  rw [hr.toList_text, Text.firstWord?_question hp, hword, Option.map_some]

/-- The first word under the marker of the format style. -/
theorem Resolved.firstWord?_rebound :
    Text.firstWord? (r.rebound "%s").text.toList =
      some ((parse word).joined ['%', 's'] true) := by
  rw [r.toList_rebound, Text.firstWord?_format hp, hword, Option.map_some]

/-- Under both markers a word that was not written as a question mark is the same address, the
first value, or no address. -/
theorem addressOperand_of_word (hr : r.IsBound "?") (hne : word ≠ ['?']) :
    Agree Failure.SameKind (addressOperand r "?") (addressOperand (r.rebound "%s") "%s") := by
  have hsame : (r.rebound "%s").args = r.args := rfl
  rw [addressOperand_eq (hr.firstWord?_text hp hword),
    addressOperand_eq (r.firstWord?_rebound hp hword), hsame]
  rcases Text.joined_eq_marker_cases hne with ⟨hm, hm'⟩ | ⟨hm, hm'⟩
  -- a placeholder alone: the first value, under both markers
  · obtain ⟨first, rest, hargs⟩ := List.exists_cons_of_ne_nil (mt hr.args_eq_nil_iff.mp hp)
    rw [hm, hm', hargs]
    exact .refl .refl _
  · have hvalue : addressValue ((parse word).joined ['?'] false) r.args "?".toList = _ :=
      addressValue_of_ne hm r.args
    have hvalue' : addressValue ((parse word).joined ['%', 's'] true) r.args "%s".toList = _ :=
      addressValue_of_ne hm' r.args
    rw [hvalue, hvalue']
    by_cases hplain : (parse word).placeholders = [] ∧ '%' ∉ word
    · rw [Text.joined_rebound_iff.mpr hplain]
      exact .refl .refl _
    · obtain ⟨hbad, hbad'⟩ := Text.malformed_of_changed hplain
      rw [Value.toAddress_malformed hbad, Value.toAddress_malformed hbad']
      exact .error (.error rfl rfl)

end FirstWords

/-- **An address does not depend on the marker**, unless a statement with placeholders has the
question mark for its first word. -/
theorem addressOperand_rebound (hr : r.IsBound "?")
    (hw : (parse r.statement.toList).placeholders = [] ∨
      Text.firstWord? r.statement.toList ≠ some ['?']) :
    Agree Failure.SameKind (addressOperand r "?") (addressOperand (r.rebound "%s") "%s") := by
  by_cases hp : (parse r.statement.toList).placeholders = []
  -- nothing is bound: the same word, and no value that it could stand for
  · have hargs : r.args = [] := hr.args_eq_nil_iff.mpr hp
    have hargs' : (r.rebound "%s").args = [] := hargs
    rw [addressOperand, addressOperand, hr.toList_text, r.toList_rebound,
      bound_of_no_placeholders hp, bound_of_no_placeholders hp, hargs, hargs']
    exact .refl .refl _
  rcases hword : Text.firstWord? r.statement.toList with - | word
  · rw [addressOperand, addressOperand, hr.toList_text, r.toList_rebound,
      Text.firstWord?_question hp, Text.firstWord?_format hp, hword]
    exact .refl .refl _
  · have hmark := hw.resolve_left hp
    rw [hword] at hmark
    exact addressOperand_of_word hp hword hr fun h => hmark (by rw [h])

/-- An address that was written as a question mark stands for the first value under the one
marker, and for nothing under the other. -/
theorem addressOperand_question (hr : r.IsBound "?")
    (hp : (parse r.statement.toList).placeholders ≠ [])
    (hw : Text.firstWord? r.statement.toList = some ['?']) :
    (∃ first rest, r.args = first :: rest ∧
      addressOperand r "?" = first.toAddress.map fun target => (target, rest)) ∧
    addressOperand (r.rebound "%s") "%s" = .error (.of (.invalidIndex (.text "?"))) := by
  have hnone : (parse ['?']).placeholders = [] := by with_unfolding_all decide
  have hfirst := hr.firstWord?_text hp hw
  have hfirst' := r.firstWord?_rebound hp hw
  rw [joined_of_no_placeholders hnone] at hfirst hfirst'
  constructor
  · obtain ⟨first, rest, hargs⟩ := List.exists_cons_of_ne_nil (mt hr.args_eq_nil_iff.mp hp)
    refine ⟨first, rest, hargs, ?_⟩
    rw [addressOperand_eq hfirst, hargs]
    rfl
  · have hbad : readInteger ['?'] = .error .malformed := by decide
    have hne : spread true ['?'] ≠ "%s".toList := by decide
    rw [addressOperand_eq hfirst', addressValue_of_ne hne]
    exact congrArg _ (Value.toAddress_malformed hbad)

/-! ### Settings -/

/-- What follows a word has the characters that the word does not have. -/
theorem Text.mem_of_afterCaseless? {c : Char} {word cs rest : List Char}
    (hword : Text.foldCase c ∉ word) (h : Text.afterCaseless? word cs = some rest)
    (hc : c ∈ cs) : c ∈ rest := by
  obtain ⟨front, rfl, hfold⟩ := Text.afterCaseless?_eq_some_iff.mp h
  refine (List.mem_append.mp hc).resolve_left fun hfront => hword ?_
  rw [← hfold]
  exact List.mem_map_of_mem hfront

/-- The characters of the two markers that are no letters. -/
def IsSign (c : Char) : Prop := c = '?' ∨ c = '%'

theorem IsSign.not_blank {c : Char} (h : IsSign c) : Text.isBlank c = false := by
  rcases h with rfl | rfl <;> decide

theorem mem_afterBlankWord {c : Char} {cs : List Char} (hs : IsSign c) (h : c ∈ cs) :
    c ∈ afterBlankWord cs := by
  have hword : Text.foldCase c ∉ "blank".toList := by
    rcases hs with rfl | rfl <;> decide
  have hne : c ≠ '=' := by
    rcases hs with rfl | rfl <;> decide
  rw [afterBlankWord]
  split
  · exact h
  next rest hrest =>
  have hmem := mem_dropWhile_of_not (Text.mem_of_afterCaseless? hword hrest h) hs.not_blank
  split
  · next tail htail =>
    rw [htail] at hmem
    exact mem_dropWhile_of_not ((List.mem_cons.mp hmem).resolve_left hne) hs.not_blank
  · exact hmem

/-- No setting has a sign in it. -/
theorem setting?_eq_none {c : Char} {cs : List Char} (hs : IsSign c) (h : c ∈ cs) :
    setting? cs = none := by
  have kept := mem_afterBlankWord hs (mem_dropWhile_of_not h hs.not_blank)
  rw [setting?, policy?, List.find?_eq_none]
  intro policy _
  split
  · next rest hrest =>
    have hname : Text.foldCase c ∉ policy.name.toList := by
      rcases hs with rfl | rfl <;> cases policy <;> decide
    have hmem := Text.mem_of_afterCaseless? hname hrest kept
    -- so there is more than white space behind the name
    intro hall
    have hblank : Text.isBlank c = true := List.all_eq_true.mp hall c hmem
    rw [hs.not_blank] at hblank
    cases hblank
  · simp

/-- **A setting does not depend on the marker**: with a placeholder it is unknown. -/
theorem setting?_rebound (cs : List Char) :
    setting? ((parse cs).bound ['?']) = setting? ((parse cs).bound ['%', 's']) := by
  by_cases hp : (parse cs).placeholders = []
  · rw [bound_of_no_placeholders hp, bound_of_no_placeholders hp]
  · rw [bound_eq_joined, bound_eq_joined,
      setting?_eq_none (.inl rfl) (mem_joined_of_mem_marker hp List.mem_cons_self),
      setting?_eq_none (.inr rfl) (mem_joined_of_mem_marker hp List.mem_cons_self)]

end Operands

end SqlScript
