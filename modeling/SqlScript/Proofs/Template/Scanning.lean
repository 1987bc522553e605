/-
SqlScript/Proofs/Template/Scanning.lean

The one way to cut a statement into pieces and placeholders.

A placeholder *starts* a text if it stands at the front and the text does not go on with
anything that it would take as well; behind the digits of a position no word character may
follow at all (`Starts`).  A template is *scanned* if each of its placeholders starts what is
left of the statement there, and none starts inside a piece (`Scanned`).  These two say what is
wanted of a reading, from left to right and as long as possible, and not how it is done.

Main results: a statement has exactly one scanned template, and that is the one which is read
(`scanned_iff`).  Digits in front of another word character belong to no placeholder
(`not_starts_of_word`).  Once the bind marker stands in the places of the placeholders, no
placeholder is left and none has come into being where the pieces meet the marker
(`placeholders_parse_joined`), so a bound statement is bound to itself.
-/
import SqlScript.Proofs.Template.Markers

namespace SqlScript

theorem Text.isWord_of_isDigit {c : Char} (h : isDigit c = true) : isWord c = true := by
  -- a Boolean test, because the tables are long
  have table : (digitZeros.all fun z => wordRanges.any fun u => u.1.ble z && (z + 9).ble u.2)
      = true := by decide +kernel
  have inside : ∀ z ∈ digitZeros, ∃ u ∈ wordRanges, u.1 ≤ z ∧ z + 9 ≤ u.2 := by
    simpa using table
  obtain ⟨z, hz, hlow, hhigh⟩ := isDigit_bounds h
  obtain ⟨u, hu, hul, huh⟩ := inside z hz
  exact (Ranges.has_iff wordRanges_increasing c).mpr ⟨u, hu, by omega, by omega⟩

/-- A run is empty if the text starts with nothing of its class. -/
theorem takeWhile_eq_nil_iff_head {α : Type} {p : α → Bool} {xs : List α} :
    xs.takeWhile p = [] ↔ ∀ c ∈ xs.head?, p c = false := by
  rcases xs with - | ⟨x, xs⟩
  · simp
  · simp [List.takeWhile_cons]

namespace Placeholder

/-! ### Placeholders at the front of a text -/

/-- What may follow a placeholder: no further character of its name, and behind digits no word
character. -/
def EndsBefore (rest : List Char) : Placeholder → Prop
  | .named _ => ∀ c ∈ rest.head?, isNameChar c = false
  | .positional _ => ∀ c ∈ rest.head?, Text.isWord c = false

/-- A placeholder starts a text. -/
def Starts (p : Placeholder) (text : List Char) : Prop :=
  p.WellFormed ∧ ∃ rest, text = p.source ++ rest ∧ p.EndsBefore rest

/-- The value that a placeholder stands for. -/
def lookup (passed : List Value) (custom : Bindings) : Placeholder → Value
  | .named name => (custom.get? (String.ofList name)).getD .null
  | .positional digits => passed[Text.digitsValue digits]?.getD .null

variable {p : Placeholder} {cs rest : List Char} {c : Char}

theorem startsWord_eq_false_iff :
    startsWord rest = false ↔ ∀ c ∈ rest.head?, Text.isWord c = false := by
  rcases rest with - | ⟨c, rest⟩
  · simp [startsWord]
  · simp [startsWord]

theorem starts_of_afterDollar? (h : afterDollar? cs = some p) : p.Starts ('$' :: cs) := by
  obtain ⟨cs', rfl⟩ | hb := bang_or_not cs
  · rw [afterDollar?_bang] at h
    split at h
    · cases h
    next hne =>
    obtain rfl := Option.some.inj h
    refine ⟨⟨hne, fun c hc => List.mem_takeWhile_imp hc⟩, cs'.dropWhile isNameChar, ?_,
      Text.head_dropWhile isNameChar cs'⟩
    rw [source, List.cons_append, List.cons_append, List.takeWhile_append_dropWhile]
  · rw [afterDollar?_digits hb] at h
    split at h
    · cases h
    next hne =>
    obtain ⟨hne, hword⟩ := not_or.mp hne
    obtain rfl := Option.some.inj h
    refine ⟨⟨hne, fun c hc => List.mem_takeWhile_imp hc⟩, cs.dropWhile Text.isDigit, ?_,
      startsWord_eq_false_iff.mp (Bool.not_eq_true _ ▸ hword)⟩
    rw [source, List.cons_append, List.takeWhile_append_dropWhile]

/-- **The placeholder behind a dollar sign** is the one that starts the text there. -/
theorem afterDollar?_eq_some_iff : afterDollar? cs = some p ↔ p.Starts ('$' :: cs) := by
  refine ⟨starts_of_afterDollar?, ?_⟩
  rintro ⟨hw, rest, htext, hends⟩
  have alone := hw.afterDollar?
  cases p with
  | named name =>
    obtain rfl : cs = '!' :: (name ++ rest) := (List.cons.inj htext).2
    rw [source, List.tail_cons, afterDollar?_bang] at alone
    rw [afterDollar?_bang, takeWhile_append_of_head hends, alone]
  | positional digits =>
    obtain rfl : cs = digits ++ rest := (List.cons.inj htext).2
    obtain ⟨hne, hdigits⟩ := hw
    have hstop : ∀ c ∈ rest.head?, Text.isDigit c = false := by
      intro c hc
      rw [← Bool.not_eq_true]
      intro hd
      exact absurd (Text.isWord_of_isDigit hd) (by simp [hends c hc])
    have hb : (digits ++ rest).head? ≠ some '!' := by
      obtain ⟨d, digits, rfl⟩ := List.exists_cons_of_ne_nil hne
      rintro ⟨⟩
      exact absurd (hdigits '!' List.mem_cons_self) (by decide)
    rw [afterDollar?_digits hb, takeWhile_append_of_head hstop, dropWhile_append_of_head hstop,
      List.takeWhile_eq_self_iff.mpr hdigits, List.dropWhile_eq_nil_iff.mpr hdigits,
      List.nil_append, startsWord_eq_false_iff.mpr hends]
    simp [hne]

theorem afterDollar?_eq_none_iff :
    afterDollar? cs = none ↔ ∀ p : Placeholder, ¬ p.Starts ('$' :: cs) := by
  rw [Option.eq_none_iff_forall_not_mem]
  exact forall_congr' fun p => not_congr afterDollar?_eq_some_iff

/-- A placeholder starts at a dollar sign. -/
theorem not_starts_of_ne (hc : c ≠ '$') : ¬ p.Starts (c :: cs) := by
  rintro ⟨-, rest, htext, -⟩
  cases p with
  | named | positional => exact hc (List.cons.inj htext).1

/-- **A run of digits is not taken in part.**  If another word character follows it, no
placeholder starts there. -/
theorem not_starts_of_word {digits after : List Char}
    (hdigits : ∀ d ∈ digits, Text.isDigit d = true) (hword : Text.isWord c = true)
    (hc : Text.isDigit c = false) :
    ¬ p.Starts ('$' :: (digits ++ c :: after)) := by
  have hstop : ∀ x ∈ (c :: after).head?, Text.isDigit x = false := by
    rintro x ⟨⟩
    exact hc
  have hb : (digits ++ c :: after).head? ≠ some '!' := by
    rcases digits with - | ⟨d, digits⟩
    · rintro ⟨⟩
      exact absurd hword (by decide)
    · rintro ⟨⟩
      exact absurd (hdigits '!' List.mem_cons_self) (by decide)
  rw [← afterDollar?_eq_some_iff, afterDollar?_digits hb, dropWhile_append_of_head hstop,
    List.dropWhile_eq_nil_iff.mpr hdigits, List.nil_append]
  simp [startsWord, hword]

end Placeholder

namespace Template

open Placeholder

variable {marker cs rest piece : List Char} {c : Char} {d : Bool} {p : Placeholder} {t : Template}

/-! ### Scanned templates -/

/-- No placeholder starts inside a piece that `rest` follows. -/
def Bare (piece rest : List Char) : Prop :=
  ∀ before after p, piece = before ++ after → after ≠ [] → ¬ Starts p (after ++ rest)

/-- Each placeholder starts what is left of the statement, and none starts inside a piece. -/
inductive Scanned : Template → Prop
  /-- A piece without placeholders behind it. -/
  | last {head : List Char} : Bare head [] → Scanned ⟨head, []⟩
  /-- A piece with a placeholder behind it. -/
  | next {head : List Char} {p : Placeholder} {rest : Template} :
      Bare head (p.source ++ rest.source) → p.WellFormed → p.EndsBefore rest.source →
      Scanned rest → Scanned ⟨head, (p, rest.head) :: rest.tail⟩

theorem bare_nil (rest : List Char) : Bare [] rest := by
  intro before after p hparts hne
  exact absurd (List.append_eq_nil_iff.mp hparts.symm).2 hne

theorem bare_cons : Bare (c :: piece) rest ↔
    (∀ p, ¬ Starts p (c :: (piece ++ rest))) ∧ Bare piece rest := by
  constructor
  · intro h
    refine ⟨fun p => h [] (c :: piece) p rfl (List.cons_ne_nil _ _), ?_⟩
    rintro before after p rfl hne
    exact h (c :: before) after p rfl hne
  · rintro ⟨hc, hpiece⟩ before after p hparts hne
    rcases before with - | ⟨b, before⟩
    · obtain rfl : c :: piece = after := hparts
      exact hc p
    · exact hpiece before after p (List.cons.inj hparts).2 hne

theorem source_next (head : List Char) (p : Placeholder) (rest : Template) :
    source ⟨head, (p, rest.head) :: rest.tail⟩ = head ++ (p.source ++ rest.source) := by
  simp [source]

theorem source_last (head : List Char) : source ⟨head, []⟩ = head := by
  simp [source]

theorem Scanned.cons (h : t.Scanned) (hc : ∀ p, ¬ Starts p (c :: t.source)) :
    (t.cons c).Scanned := by
  cases h with
  | last hbare =>
    rw [source_last] at hc
    exact .last (bare_cons.mpr ⟨by simpa using hc, hbare⟩)
  | next hbare hw hends hrest =>
    rw [source_next] at hc
    exact .next (bare_cons.mpr ⟨hc, hbare⟩) hw hends hrest

/-- What is read of a statement is scanned. -/
theorem scanned_parse (cs : List Char) : (parse cs).Scanned := by
  induction cs using parse.induct with
  | case1 =>
    rw [parse_nil]
    exact .last (bare_nil [])
  | case2 cs p hp ih =>
    rw [parse_placeholder hp]
    obtain ⟨hw, rest, htext, hends⟩ := starts_of_afterDollar? hp
    -- what is left behind the placeholder is what it ends before
    have hrest : cs.drop (p.source.length - 1) = rest :=
      List.append_cancel_left ((source_of_afterDollar? hp).trans htext)
    exact .next (bare_nil _) hw (by rwa [source_parse, hrest]) ih
  | case3 cs hp ih =>
    rw [parse_lone hp]
    exact ih.cons (by rw [source_parse]; exact afterDollar?_eq_none_iff.mp hp)
  | case4 c cs hc ih =>
    rw [parse_plain hc]
    exact ih.cons fun p => not_starts_of_ne hc

/-! ### One template for each statement -/

/-- A bare piece is read as it is. -/
theorem parse_bare (h : Bare piece rest) :
    parse (piece ++ rest) = ⟨piece ++ (parse rest).head, (parse rest).tail⟩ := by
  induction piece with
  | nil => rfl
  | cons c piece ih =>
    obtain ⟨hc, hpiece⟩ := bare_cons.mp h
    rw [List.cons_append]
    by_cases hdollar : c = '$'
    · subst hdollar
      rw [parse_lone (afterDollar?_eq_none_iff.mpr hc), ih hpiece]
      rfl
    · rw [parse_plain hdollar, ih hpiece]
      rfl

theorem parse_source_append (hw : p.WellFormed) (hends : p.EndsBefore rest) :
    parse (p.source ++ rest) = (parse rest).after p := by
  have dollar : p.source = '$' :: p.source.tail := by cases p <;> rfl
  have hp : afterDollar? (p.source.tail ++ rest) = some p :=
    afterDollar?_eq_some_iff.mpr ⟨hw, rest, by rw [← List.cons_append, ← dollar], hends⟩
  rw [dollar, List.cons_append, parse_placeholder hp, ← List.length_tail, List.drop_left]

theorem Scanned.parse_source (h : t.Scanned) : parse t.source = t := by
  induction h with
  | last hbare =>
    rw [source_last]
    simpa [parse_nil] using parse_bare hbare
  | next hbare hw hends _ ih =>
    rw [source_next, parse_bare hbare, parse_source_append hw hends, ih]
    simp [after]

/-- **A statement is cut in exactly one way** into pieces and placeholders. -/
theorem scanned_iff : t.source = cs ∧ t.Scanned ↔ t = parse cs := by
  constructor
  · rintro ⟨rfl, h⟩
    exact h.parse_source.symm
  · rintro rfl
    exact ⟨source_parse cs, scanned_parse cs⟩

/-! ### Where the placeholders stand -/

/-- A placeholder of a template stands at an offset of its statement. -/
def PlacedAt (t : Template) (offset : Nat) (p : Placeholder) : Prop :=
  ∃ front piece back, t.tail = front ++ (p, piece) :: back ∧
    (source ⟨t.head, front⟩).length = offset

theorem Scanned.endsBefore (h : t.Scanned) {front back : List (Placeholder × List Char)}
    (htail : t.tail = front ++ (p, piece) :: back) :
    p.WellFormed ∧ p.EndsBefore (source ⟨piece, back⟩) := by
  induction front generalizing t with
  | nil =>
    cases h with
    | last => cases htail
    | next _ hw hends _ =>
      cases htail
      exact ⟨hw, hends⟩
  | cons f front ih =>
    cases h with
    | last => cases htail
    | next _ _ _ hrest => exact ih hrest (List.cons.inj htail).2

/-- A placeholder starts the statement from its offset on. -/
theorem Scanned.starts (h : t.Scanned) {offset : Nat} (hp : t.PlacedAt offset p) :
    p.Starts (t.source.drop offset) := by
  obtain ⟨front, piece, back, htail, rfl⟩ := hp
  obtain ⟨hw, hends⟩ := h.endsBefore htail
  have parts : t.source = source ⟨t.head, front⟩ ++ (p.source ++ source ⟨piece, back⟩) := by
    rw [source, htail]
    simp [source]
  rw [parts, List.drop_left]
  exact ⟨hw, _, rfl, hends⟩

/-! ### Bound statements -/

/-- A bound statement starts with what the statement starts with, or with the marker. -/
theorem head?_joined (hm : marker ≠ []) (cs : List Char) :
    ((parse cs).joined marker d).head? = cs.head? ∨
      cs.head? = some '$' ∧ ((parse cs).joined marker d).head? = marker.head? := by
  have front : ∀ (c : Char) (xs : List Char), (spread d [c] ++ xs).head? = some c := by
    intro c xs
    by_cases hc : c = '%'
    · cases d <;> simp [spread, doublePercent, hc]
    · rw [spread_plain d (by simpa using Ne.symm hc)]
      rfl
  rcases cs with - | ⟨c, cs⟩
  · exact .inl (by rw [joined_nil])
  by_cases hc : c = '$'
  · subst hc
    rcases hp : afterDollar? cs with - | p
    · exact .inl (by rw [parse_lone hp, joined_cons, front]; rfl)
    · obtain ⟨m, marker, rfl⟩ := List.exists_cons_of_ne_nil hm
      exact .inr ⟨rfl, by rw [parse_placeholder hp, joined_after]; rfl⟩
  · exact .inl (by rw [parse_plain hc, joined_cons, front]; rfl)

/-- Neither a dollar sign nor the marker starts a run of a class that has neither of them. -/
theorem head_joined_iff {q : Char → Bool} (hm : marker ≠ []) (hdollar : q '$' = false)
    (hmarker : ∀ c ∈ marker.head?, q c = false) (cs : List Char) :
    (∀ c ∈ ((parse cs).joined marker d).head?, q c = false) ↔ ∀ c ∈ cs.head?, q c = false := by
  rcases head?_joined (d := d) hm cs with heq | ⟨hcs, hjoined⟩
  · rw [heq]
  · rw [hcs, hjoined]
    refine iff_of_true hmarker ?_
    rintro c ⟨⟩
    exact hdollar

/-- A run of a class that has none of the two signs and does not start the marker is the same
once the statement is bound. -/
theorem run_joined {q : Char → Bool} (hm : marker ≠ []) (hdollar : q '$' = false)
    (hpercent : q '%' = false) (hmarker : ∀ c ∈ marker.head?, q c = false) (cs : List Char) :
    ((parse cs).joined marker d).takeWhile q = cs.takeWhile q ∧
      ((parse cs).joined marker d).dropWhile q = (parse (cs.dropWhile q)).joined marker d := by
  induction cs with
  | nil => simp [joined_nil]
  | cons c cs ih =>
    by_cases hq : q c = true
    · have hc : c ≠ '$' := fun h => by simp [h, hdollar] at hq
      have hc' : c ≠ '%' := fun h => by simp [h, hpercent] at hq
      rw [parse_plain hc, joined_cons, spread_plain d (by simpa using Ne.symm hc'),
        List.singleton_append, List.takeWhile_cons_of_pos hq, List.takeWhile_cons_of_pos hq,
        List.dropWhile_cons_of_pos hq, List.dropWhile_cons_of_pos hq, ih.1]
      exact ⟨rfl, ih.2⟩
    · -- the run is empty on both sides
      have hstop := (head_joined_iff (d := d) hm hdollar hmarker (c :: cs)).mpr
        (by rintro x ⟨⟩; simpa using hq)
      have hnone := takeWhile_eq_nil_iff_head.mpr hstop
      rw [hnone, List.takeWhile_cons_of_neg hq, List.dropWhile_cons_of_neg hq]
      refine ⟨rfl, ?_⟩
      have hparts :=
        List.takeWhile_append_dropWhile (p := q) (l := (parse (c :: cs)).joined marker d)
      rwa [hnone, List.nil_append] at hparts

/-- A dollar sign in front of no placeholder is in front of none once the rest is bound. -/
theorem afterDollar?_joined (hm : marker ≠ []) (hcut : Cut marker) (h : afterDollar? cs = none) :
    afterDollar? ((parse cs).joined marker d) = none := by
  have hbang : ∀ c ∈ marker.head?, (c == '!') = false := fun c hc => by simpa using (hcut c hc).1
  obtain ⟨cs', rfl⟩ | hb := bang_or_not cs
  · have hname : cs'.takeWhile isNameChar = [] := by
      rw [afterDollar?_bang] at h
      by_contra hne
      simp [hne] at h
    have hstop := (head_joined_iff (q := isNameChar) (d := d) hm (by decide)
      (fun c hc => (hcut c hc).2.1) cs').mpr (takeWhile_eq_nil_iff_head.mp hname)
    rw [parse_plain (by decide), joined_cons, spread_plain d (by decide), List.singleton_append,
      afterDollar?_bang, if_pos (takeWhile_eq_nil_iff_head.mpr hstop)]
  · have hb' : ((parse cs).joined marker d).head? ≠ some '!' := by
      have hstop := (head_joined_iff (q := (· == '!')) (d := d) hm (by decide) hbang cs).mpr
        (by intro x hx; rw [beq_eq_false_iff_ne]; rintro rfl; exact hb hx)
      intro hhead
      exact absurd (hstop '!' hhead) (by decide)
    obtain ⟨htake, hdrop⟩ := run_joined (q := Text.isDigit) (d := d) hm (by decide) (by decide)
      (fun c hc => (hcut c hc).2.2.1) cs
    have hword : startsWord ((parse (cs.dropWhile Text.isDigit)).joined marker d)
        = startsWord (cs.dropWhile Text.isDigit) := by
      rw [Bool.eq_iff_iff, ← not_iff_not, Bool.not_eq_true, Bool.not_eq_true,
        startsWord_eq_false_iff, startsWord_eq_false_iff]
      exact head_joined_iff hm (by decide) (fun c hc => (hcut c hc).2.2.2) _
    rw [afterDollar?_digits hb] at h
    rw [afterDollar?_digits hb', htake, hdrop, hword, h]

theorem placeholders_parse_plain (h : '$' ∉ cs) (rest : List Char) :
    (parse (cs ++ rest)).placeholders = (parse rest).placeholders := by
  rw [placeholders, tail_parse_plain h, placeholders]

/-- **No placeholder is left in a bound statement**, if the marker has no dollar sign and
starts with nothing that a placeholder goes on with. -/
theorem placeholders_parse_joined (hm : marker ≠ []) (hcut : Cut marker) (hd : '$' ∉ marker)
    (cs : List Char) : (parse ((parse cs).joined marker d)).placeholders = [] := by
  induction cs using parse.induct with
  | case1 =>
    rw [joined_nil, parse_nil]
    rfl
  | case2 cs p hp ih => rw [parse_placeholder hp, joined_after, placeholders_parse_plain hd, ih]
  | case3 cs hp ih =>
    rw [parse_lone hp, joined_cons, spread_plain d (by decide), List.singleton_append,
      parse_lone (afterDollar?_joined hm hcut hp), placeholders_cons, ih]
  | case4 c cs hc ih =>
    have hplain : '$' ∉ spread d [c] := by simpa [mem_spread] using Ne.symm hc
    rw [parse_plain hc, joined_cons, placeholders_parse_plain hplain, ih]

end Template

/-! ### Resolving a statement -/

/-- No placeholder goes on with a marker. -/
theorem Placeholder.cut_of_marker {marker : String} (h : marker = "?" ∨ marker = "%s") :
    Cut marker.toList := by
  rcases h with rfl | rfl
  · rintro c ⟨⟩
    decide
  · rintro c ⟨⟩
    decide

theorem mapM_value?_eq_lookup (passed : List Value) (custom : Bindings) {ps : List Placeholder}
    (h : ∀ digits, .positional digits ∈ ps → digits.length ≤ integerLimit) :
    ps.mapM (Placeholder.value? passed custom)
      = .ok (ps.map (Placeholder.lookup passed custom)) := by
  induction ps with
  | nil => rfl
  | cons p ps ih =>
    have hp : p.value? passed custom = .ok (p.lookup passed custom) := by
      cases p with
      | named name => rfl
      | positional digits =>
        have hshort : ¬ integerLimit < digits.length :=
          Nat.not_lt.mpr (h digits List.mem_cons_self)
        rw [Placeholder.value?, if_neg hshort, Placeholder.lookup]
    rw [List.mapM_cons, hp, ih fun digits hd => h digits (List.mem_cons_of_mem _ hd)]
    rfl

theorem resolve_of_no_placeholders {text : List Char}
    (h : (Template.parse text).placeholders = []) (passed : List Value) (custom : Bindings)
    (marker : String) :
    resolve (String.ofList text) passed custom marker
      = .ok ⟨String.ofList text, [], String.ofList text⟩ := by
  have hargs : ([] : List Placeholder).mapM (Placeholder.value? passed custom) = .ok [] := rfl
  simp only [resolve, String.toList_ofList, h, hargs, Template.bound_of_no_placeholders h]

/-- **Resolving loses nothing, keeps the order and is complete.**  A statement is cut in exactly
one way into pieces and placeholders, and digits in front of another word character are in no
placeholder.  If no position has too many digits, the statement is resolved: to its pieces with
the marker between them, and to the values of its placeholders in their order.  What comes out
has no placeholder in it and stays as it is, whatever parameters it is resolved with. -/
theorem resolve_lossless (statement : String) (passed : List Value) (custom : Bindings)
    (marker : String) (hmarker : marker = "?" ∨ marker = "%s")
    (hshort : ∀ digits,
      .positional digits ∈ (Template.parse statement.toList).placeholders →
        digits.length ≤ integerLimit) :
    ∃ t : Template,
      (∀ t' : Template, t'.source = statement.toList ∧ t'.Scanned ↔ t' = t) ∧
      (∀ before digits c after,
        statement.toList = before ++ '$' :: (digits ++ c :: after) →
        (∀ x ∈ digits, Text.isDigit x = true) → Text.isWord c = true → Text.isDigit c = false →
        ∀ p, ¬ t.PlacedAt before.length p) ∧
      ∃ text, text.toList = t.bound marker.toList ∧
        resolve statement passed custom marker
          = .ok ⟨text, t.placeholders.map (Placeholder.lookup passed custom), statement⟩ ∧
        ∀ passed' custom', resolve text passed' custom' marker = .ok ⟨text, [], text⟩ := by
  refine ⟨Template.parse statement.toList, fun t' => Template.scanned_iff, ?_,
    String.ofList ((Template.parse statement.toList).bound marker.toList),
    String.toList_ofList, ?_, ?_⟩
  · intro before digits c after hparts hdigits hword hc p hp
    have hstarts := (Template.scanned_parse statement.toList).starts hp
    rw [Template.source_parse, hparts, List.drop_left] at hstarts
    exact Placeholder.not_starts_of_word hdigits hword hc hstarts
  · simp only [resolve, mapM_value?_eq_lookup passed custom hshort]
  · intro passed' custom'
    apply resolve_of_no_placeholders
    rw [Template.bound_eq_joined]
    apply Template.placeholders_parse_joined
    · rcases hmarker with rfl | rfl <;> decide
    · exact Placeholder.cut_of_marker hmarker
    · rcases hmarker with rfl | rfl <;> decide

/-- A statement with a percent sign, a name that ends at a dollar sign, digits in front of a
letter, and a dollar sign in front of a position. -/
def crowdedStatement : String := "like '5%' $!a-b$12abc$$١"

theorem crowdedStatement_placeholders :
    (Template.parse crowdedStatement.toList).placeholders
      = [.named ['a', '-', 'b'], .positional ['١']] := by
  with_unfolding_all decide

/-- Two values are bound, and the result is bound to itself. -/
theorem crowdedStatement_lossless :
    ∃ text, resolve crowdedStatement [.int 7, .int 8] [("a-b", .text "x")] "%s"
        = .ok ⟨text, [.text "x", .int 8], crowdedStatement⟩ ∧
      ∀ passed custom, resolve text passed custom "%s" = .ok ⟨text, [], text⟩ := by
  obtain ⟨t, hunique, -, text, -, hresolve, hagain⟩ :=
    resolve_lossless crowdedStatement [.int 7, .int 8] [("a-b", .text "x")] "%s" (.inr rfl) (by
      rw [crowdedStatement_placeholders]
      simp [integerLimit])
  obtain rfl := (hunique (Template.parse crowdedStatement.toList)).mp
    ⟨Template.source_parse _, Template.scanned_parse _⟩
  rw [crowdedStatement_placeholders] at hresolve
  exact ⟨text, hresolve, hagain⟩

end SqlScript
