/-
SqlScript/Proofs/Template/Split.lean

Where a statement can be cut.

A placeholder takes as many characters as it can, so a statement cannot be cut at any
place.  But it can be cut in front of a character that no placeholder goes on with
(`Cut`): then both parts have the placeholders that they have on their own, and the first
part uses up as many of the given texts as it has placeholders (`fill_parse_append`).

Main results: the pieces and placeholders make up the statement (`source_parse`), filling a
statement without placeholders changes nothing (`fill_of_no_placeholders`), and filling
goes part by part.
-/
import Mathlib.Data.List.TakeWhile
import SqlScript.Template

namespace SqlScript

/-! ### Runs of characters that end at a cut -/

section Runs

variable {α : Type} {p : α → Bool} {rest : List α}

theorem takeWhile_append_of_head (h : ∀ c ∈ rest.head?, p c = false) (xs : List α) :
    (xs ++ rest).takeWhile p = xs.takeWhile p := by
  have stop : rest.takeWhile p = [] := by
    rcases rest with - | ⟨c, r⟩
    · rfl
    · simp [h c rfl]
  rw [List.takeWhile_append, stop, List.append_nil]
  -- the run takes all of `xs`, or it has ended before `rest`
  split
  · rename_i all
    exact ((List.takeWhile_prefix p).eq_of_length all).symm
  · rfl

theorem dropWhile_append_of_head (h : ∀ c ∈ rest.head?, p c = false) (xs : List α) :
    (xs ++ rest).dropWhile p = xs.dropWhile p ++ rest := by
  have stop : rest.dropWhile p = rest := by
    rcases rest with - | ⟨c, r⟩
    · rfl
    · simp [h c rfl]
  rw [List.dropWhile_append, stop]
  split
  · rename_i none
    rw [List.isEmpty_iff.mp none, List.nil_append]
  · rfl

end Runs

namespace Placeholder

/-! ### Placeholders and what follows them -/

/-- Whether a text goes on with no character that a placeholder has or that keeps one from
ending. -/
def Cut (rest : List Char) : Prop :=
  ∀ c ∈ rest.head?, c ≠ '!' ∧ isNameChar c = false ∧ Text.isDigit c = false ∧ Text.isWord c = false

/-- A named placeholder has a name, a positional one has digits. -/
def WellFormed : Placeholder → Prop
  | .named name => name ≠ [] ∧ ∀ c ∈ name, isNameChar c = true
  | .positional digits => digits ≠ [] ∧ ∀ c ∈ digits, Text.isDigit c = true

theorem afterDollar?_bang (cs : List Char) :
    afterDollar? ('!' :: cs) =
      if cs.takeWhile isNameChar = [] then none else some (.named (cs.takeWhile isNameChar)) := by
  rw [afterDollar?]
  rcases cs.takeWhile isNameChar with - | ⟨c, name⟩ <;> rfl

theorem afterDollar?_digits {cs : List Char} (h : cs.head? ≠ some '!') :
    afterDollar? cs =
      if cs.takeWhile Text.isDigit = [] ∨ startsWord (cs.dropWhile Text.isDigit) = true then none
      else some (.positional (cs.takeWhile Text.isDigit)) := by
  rw [afterDollar?]
  · rcases cs.takeWhile Text.isDigit with - | ⟨c, digits⟩ <;> simp
  · rintro cs' rfl
    exact h rfl

theorem bang_or_not (cs : List Char) : (∃ cs', cs = '!' :: cs') ∨ cs.head? ≠ some '!' := by
  rcases cs with - | ⟨c, cs'⟩
  · exact .inr (by simp)
  · by_cases hc : c = '!'
    · exact .inl ⟨cs', by rw [hc]⟩
    · exact .inr (by simpa using hc)

/-- A placeholder ends at a cut, or has ended before. -/
theorem afterDollar?_append {rest : List Char} (h : Cut rest) (cs : List Char) :
    afterDollar? (cs ++ rest) = afterDollar? cs := by
  have digits : ∀ c ∈ rest.head?, Text.isDigit c = false := fun c hc => (h c hc).2.2.1
  have words : ∀ xs, startsWord (xs ++ rest) = startsWord xs := by
    intro xs
    rcases xs with - | ⟨c, xs⟩
    · rcases rest with - | ⟨c, r⟩
      · rfl
      · exact (h c rfl).2.2.2
    · rfl
  -- a name or digits: the run of either kind ends at the cut
  obtain ⟨cs', rfl⟩ | hb := bang_or_not cs
  · rw [List.cons_append, afterDollar?_bang, afterDollar?_bang,
      takeWhile_append_of_head fun c hc => (h c hc).2.1]
  · have hb' : (cs ++ rest).head? ≠ some '!' := by
      rcases cs with - | ⟨c, cs'⟩
      · intro hr
        exact (h '!' hr).1 rfl
      · exact hb
    rw [afterDollar?_digits hb, afterDollar?_digits hb', takeWhile_append_of_head digits,
      dropWhile_append_of_head digits, words]

/-- The text of a placeholder stands at its dollar sign. -/
theorem source_of_afterDollar? {cs : List Char} {p : Placeholder} (h : afterDollar? cs = some p) :
    p.source ++ cs.drop (p.source.length - 1) = '$' :: cs := by
  have run : ∀ (q : Char → Bool) (xs : List Char),
      xs.takeWhile q ++ xs.drop (xs.takeWhile q).length = xs := fun q xs =>
    List.prefix_iff_eq_append.mp (List.takeWhile_prefix q)
  obtain ⟨cs', rfl⟩ | hb := bang_or_not cs
  · rw [afterDollar?_bang] at h
    split at h <;> cases h
    simpa [source] using run isNameChar cs'
  · rw [afterDollar?_digits hb] at h
    split at h <;> cases h
    simpa [source] using run Text.isDigit cs

theorem length_of_afterDollar? {cs : List Char} {p : Placeholder} (h : afterDollar? cs = some p) :
    p.source.length - 1 ≤ cs.length := by
  have hl := congrArg List.length (source_of_afterDollar? h)
  simp only [List.length_append, List.length_drop, List.length_cons] at hl
  omega

/-- A well-formed placeholder is found at its dollar sign. -/
theorem WellFormed.afterDollar? {p : Placeholder} (h : p.WellFormed) :
    Placeholder.afterDollar? p.source.tail = some p := by
  rcases p with name | digits
  · obtain ⟨hne, hname⟩ := h
    have run : name.takeWhile isNameChar = name := List.takeWhile_eq_self_iff.mpr hname
    rw [source, List.tail_cons, afterDollar?_bang, run, if_neg hne]
  · obtain ⟨hne, hdigits⟩ := h
    have run : digits.takeWhile Text.isDigit = digits := List.takeWhile_eq_self_iff.mpr hdigits
    have none : digits.dropWhile Text.isDigit = [] := List.dropWhile_eq_nil_iff.mpr hdigits
    have hb : digits.head? ≠ some '!' := by
      intro hd
      have bang : Text.isDigit '!' = true := hdigits '!' (List.mem_of_mem_head? hd)
      exact absurd bang (by decide)
    rw [source, List.tail_cons, afterDollar?_digits hb, run, none, if_neg (by simp [startsWord, hne])]

end Placeholder

namespace Template

/-! ### Reading a statement character by character -/

/-- A placeholder in front of a template. -/
def after (t : Template) (p : Placeholder) : Template := ⟨[], (p, t.head) :: t.tail⟩

theorem parse_nil : parse [] = ⟨[], []⟩ := by rw [parse]

theorem parse_plain {c : Char} (h : c ≠ '$') (cs : List Char) :
    parse (c :: cs) = (parse cs).cons c := by
  rw [parse, if_neg h]

theorem parse_lone {cs : List Char} (h : Placeholder.afterDollar? cs = none) :
    parse ('$' :: cs) = (parse cs).cons '$' := by
  rw [parse, if_pos rfl, h]

theorem parse_placeholder {cs : List Char} {p : Placeholder}
    (h : Placeholder.afterDollar? cs = some p) :
    parse ('$' :: cs) = (parse (cs.drop (p.source.length - 1))).after p := by
  rw [parse, if_pos rfl, h]
  rfl

@[simp] theorem placeholders_cons (c : Char) (t : Template) :
    (t.cons c).placeholders = t.placeholders := rfl

@[simp] theorem placeholders_after (p : Placeholder) (t : Template) :
    (t.after p).placeholders = p :: t.placeholders := rfl

@[simp] theorem source_cons (c : Char) (t : Template) : (t.cons c).source = c :: t.source := rfl

@[simp] theorem source_after (p : Placeholder) (t : Template) :
    (t.after p).source = p.source ++ t.source := by
  simp [source, after]

@[simp] theorem fill_cons (c : Char) (t : Template) (texts : List (List Char)) :
    (t.cons c).fill texts = c :: t.fill texts := rfl

@[simp] theorem fill_after_nil (p : Placeholder) (t : Template) :
    (t.after p).fill [] = p.source ++ t.fill [] := by
  simp [fill, after, fillTail]

@[simp] theorem fill_after_cons (p : Placeholder) (t : Template) (text : List Char)
    (texts : List (List Char)) : (t.after p).fill (text :: texts) = text ++ t.fill texts := by
  simp [fill, after, fillTail]

/-! ### The statement and its parts -/

/-- The pieces and placeholders of a statement make it up. -/
theorem source_parse (cs : List Char) : (parse cs).source = cs := by
  induction cs using parse.induct with
  | case1 => rw [parse_nil]; rfl
  | case2 cs p hp ih =>
    rw [parse_placeholder hp, source_after, ih, Placeholder.source_of_afterDollar? hp]
  | case3 cs hp ih => rw [parse_lone hp, source_cons, ih]
  | case4 c cs hc ih => rw [parse_plain hc, source_cons, ih]

/-- Filling a statement without placeholders changes nothing. -/
theorem fill_of_no_placeholders {cs : List Char} (h : (parse cs).placeholders = [])
    (texts : List (List Char)) : (parse cs).fill texts = cs := by
  have none : (parse cs).tail = [] := List.map_eq_nil_iff.mp h
  have whole : (parse cs).head = cs := by
    have hs := source_parse cs
    rwa [source, none, List.flatMap_nil, List.append_nil] at hs
  rw [fill, none, whole, fillTail, List.append_nil]

/-- **Filling goes part by part** where a statement is cut: the first part uses up as many
texts as it has placeholders. -/
theorem fill_parse_append {rest : List Char} (h : Placeholder.Cut rest) (cs : List Char)
    (texts : List (List Char)) :
    (parse (cs ++ rest)).fill texts =
      (parse cs).fill texts ++ (parse rest).fill (texts.drop (parse cs).placeholders.length) := by
  -- along the placeholders of the first part, which are found with `rest` as without it
  induction cs using parse.induct generalizing texts with
  | case1 => simp [parse_nil, fill, fillTail, placeholders]
  | case2 cs p hp ih =>
    have hp' : Placeholder.afterDollar? (cs ++ rest) = some p :=
      (Placeholder.afterDollar?_append h cs).trans hp
    rw [List.cons_append, parse_placeholder hp', parse_placeholder hp,
      List.drop_append_of_le_length (Placeholder.length_of_afterDollar? hp)]
    -- without a text to fill it, the placeholder stays
    rcases texts with - | ⟨text, texts⟩
    · rw [fill_after_nil, fill_after_nil, ih, List.drop_nil, List.drop_nil, List.append_assoc]
    · rw [fill_after_cons, fill_after_cons, ih, placeholders_after, List.length_cons,
        List.drop_succ_cons, List.append_assoc]
  | case3 cs hp ih =>
    have hp' : Placeholder.afterDollar? (cs ++ rest) = none :=
      (Placeholder.afterDollar?_append h cs).trans hp
    rw [List.cons_append, parse_lone hp', parse_lone hp, fill_cons, fill_cons, ih,
      placeholders_cons, List.cons_append]
  | case4 c cs hc ih =>
    rw [List.cons_append, parse_plain hc, parse_plain hc, fill_cons, fill_cons, ih,
      placeholders_cons, List.cons_append]

/-- What has no dollar sign is kept, whatever follows. -/
theorem fill_plain {cs : List Char} (h : '$' ∉ cs) (rest : List Char) (texts : List (List Char)) :
    (parse (cs ++ rest)).fill texts = cs ++ (parse rest).fill texts := by
  induction cs with
  | nil => rfl
  | cons c cs ih =>
    rw [List.mem_cons, not_or] at h
    obtain ⟨hc, hcs⟩ := h
    rw [List.cons_append, parse_plain (Ne.symm hc), fill_cons, ih hcs, List.cons_append]

/-- The text that fills a placeholder at a cut stands in its place. -/
theorem fill_placeholder {rest : List Char} (h : Placeholder.Cut rest) {p : Placeholder}
    (hp : p.WellFormed) (text : List Char) (texts : List (List Char)) :
    (parse (p.source ++ rest)).fill (text :: texts) = text ++ (parse rest).fill texts := by
  have alone : parse p.source = (parse []).after p := by
    have dollar : p.source = '$' :: p.source.tail := by cases p <;> rfl
    rw [dollar, parse_placeholder hp.afterDollar?, ← List.length_tail, List.drop_length]
  rw [fill_parse_append h, alone, fill_after_cons, placeholders_after, parse_nil]
  simp [fill, fillTail, placeholders]

end Template

/-! ### Resolved statements -/

section Resolved

variable {statement : String} {passed : List Value} {custom : Bindings} {marker : String}
variable {r : Resolved}

/-- The text of a resolved statement has nothing to do with the parameters. -/
theorem resolve_text (h : resolve statement passed custom marker = .ok r) :
    r.text = String.ofList ((Template.parse statement.toList).bound marker.toList) := by
  rw [resolve] at h
  split at h
  · cases h
  · cases h
    rfl

theorem resolve_statement (h : resolve statement passed custom marker = .ok r) :
    r.statement = statement := by
  rw [resolve] at h
  split at h
  · cases h
  · cases h
    rfl

end Resolved

end SqlScript
