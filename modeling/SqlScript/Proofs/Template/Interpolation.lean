/-
SqlScript/Proofs/Template/Interpolation.lean

Binding a statement and filling it agree.

A driver of a percent style interpolates the text of a statement: it reads it from left to
right, takes two percent signs for one, and puts the next literal in the place of each marker
(`interpolate?`).  It does not know where the placeholders were.  What binding leaves for it
to read has percent signs only in pairs and in markers, and a marker starts with the sign that
could be taken for the end of a pair; reading from the left keeps the two apart, also where a
piece ends in percent signs (`interpolate?_double`).  So interpolating a bound statement gives
the statement filled with the literals (`interpolate?_joined`).  A driver of the question mark
style gets the statement filled with question marks (`joined_eq_fill`).

Filling puts each literal between two pieces of the statement and looks at none of them: the
pieces are those of the statement alone (`fill_eq_zip`).

A position of too many digits has no value, so a statement with one is not bound at all
(`exists_resolve_iff`), though it is filled.
-/
import SqlScript.Proofs.Template.Scanning

namespace SqlScript

namespace Template

variable {cs rest : List Char} {texts : List (List Char)} {t : Template}

/-! ### Filling, placeholder by placeholder -/

theorem fill_cons_tail (head piece text : List Char) (p : Placeholder)
    (tail : List (Placeholder × List Char)) (texts : List (List Char)) :
    fill ⟨head, (p, piece) :: tail⟩ (text :: texts) = head ++ (text ++ fill ⟨piece, tail⟩ texts) := by
  simp [fill, fillTail]

/-- A text for each placeholder stands between the pieces of the statement. -/
theorem fill_eq_zip (h : texts.length = t.placeholders.length) :
    t.fill texts = t.head ++ (texts.zip t.tail).flatMap fun p => p.1 ++ p.2.2 := by
  obtain ⟨head, tail⟩ := t
  induction tail generalizing head texts with
  | nil => simp [fill, fillTail]
  | cons p tail ih =>
    obtain ⟨text, texts, rfl⟩ := List.exists_cons_of_length_eq_add_one h
    rw [fill_cons_tail, ih p.2 (Nat.succ.inj h)]
    simp

theorem joined_cons_tail (marker head piece : List Char) (d : Bool) (p : Placeholder)
    (tail : List (Placeholder × List Char)) :
    joined marker d ⟨head, (p, piece) :: tail⟩
      = spread d head ++ (marker ++ joined marker d ⟨piece, tail⟩) := by
  simp [joined]

/-- Without percent signs doubled, binding fills every placeholder with the marker. -/
theorem joined_eq_fill (t : Template) (marker : List Char) :
    t.joined marker false = t.fill (t.placeholders.map fun _ => marker) := by
  obtain ⟨head, tail⟩ := t
  induction tail generalizing head with
  | nil => simp [joined, spread, fill, fillTail]
  | cons p tail ih =>
    have hplaceholders : placeholders ⟨head, p :: tail⟩ = p.1 :: placeholders ⟨p.2, tail⟩ := rfl
    rw [joined_cons_tail, ih p.2, hplaceholders, List.map_cons, fill_cons_tail]
    rfl

/-! ### Interpolation -/

/-- What a driver of a percent style makes of a statement and literals.  A percent sign starts
a pair or a marker, a marker needs a literal, and no literal is left over. -/
def interpolate? : List Char → List (List Char) → Option (List Char)
  | '%' :: '%' :: cs, texts => (interpolate? cs texts).map ('%' :: ·)
  | '%' :: 's' :: cs, text :: texts => (interpolate? cs texts).map (text ++ ·)
  | '%' :: _, _ => none
  | c :: cs, texts => (interpolate? cs texts).map (c :: ·)
  | [], [] => some []
  | [], _ :: _ => none

theorem interpolate?_plain {c : Char} (h : c ≠ '%') (cs : List Char) (texts : List (List Char)) :
    interpolate? (c :: cs) texts = (interpolate? cs texts).map (c :: ·) := by
  rw [interpolate?]
  all_goals simp [h]

/-- **Doubled percent signs are read as what was doubled**, whatever follows. -/
theorem interpolate?_double (cs rest : List Char) (texts : List (List Char)) :
    interpolate? (doublePercent cs ++ rest) texts = (interpolate? rest texts).map (cs ++ ·) := by
  induction cs with
  | nil => simp [doublePercent]
  | cons c cs ih =>
    have hcons : doublePercent (c :: cs) = (if c = '%' then ['%', '%'] else [c]) ++
        doublePercent cs := rfl
    rw [hcons]
    by_cases hc : c = '%'
    · subst hc
      show interpolate? ('%' :: '%' :: (doublePercent cs ++ rest)) texts = _
      rw [interpolate?, ih, Option.map_map]
      rfl
    · rw [if_neg hc, List.singleton_append, List.cons_append, interpolate?_plain hc, ih,
        Option.map_map]
      rfl

theorem interpolate?_marker (rest text : List Char) (texts : List (List Char)) :
    interpolate? (['%', 's'] ++ rest) (text :: texts)
      = (interpolate? rest texts).map (text ++ ·) := by
  show interpolate? ('%' :: 's' :: rest) (text :: texts) = _
  rw [interpolate?]

/-- **Interpolating a bound statement fills the statement.** -/
theorem interpolate?_joined (h : texts.length = t.placeholders.length) :
    interpolate? (t.joined ['%', 's'] true) texts = some (t.fill texts) := by
  obtain ⟨head, tail⟩ := t
  -- along the placeholders: a doubled piece, a marker with its literal, and the rest
  induction tail generalizing head texts with
  | nil =>
    obtain rfl : texts = [] := List.length_eq_zero_iff.mp h
    have hend : interpolate? (doublePercent head ++ []) [] = some (head ++ []) :=
      interpolate?_double head [] []
    simpa [joined, spread, fill, fillTail] using hend
  | cons p tail ih =>
    obtain ⟨p, piece⟩ := p
    obtain ⟨text, texts, rfl⟩ := List.exists_cons_of_length_eq_add_one h
    rw [joined_cons_tail, spread, if_pos rfl, interpolate?_double, interpolate?_marker,
      ih piece (Nat.succ.inj h), fill_cons_tail]
    rfl

theorem bound_format (h : t.placeholders ≠ []) :
    t.bound ['%', 's'] = t.joined ['%', 's'] true := by
  have htail : t.tail.isEmpty = false := by simpa [placeholders] using h
  rw [bound_eq_joined, htail]
  rfl

theorem bound_question (t : Template) : t.bound ['?'] = t.joined ['?'] false := by
  rw [bound_eq_joined, show ['?'].contains '%' = false from rfl, Bool.and_false]

/-- No position has more digits than can be read. -/
def Readable (t : Template) : Prop :=
  ∀ digits, .positional digits ∈ t.placeholders → digits.length ≤ integerLimit

end Template

/-! ### Resolving -/

section Resolving

variable {statement : String} {passed : List Value} {custom : Bindings}

theorem short_of_mapM_value? {ps : List Placeholder} {args : List Value}
    (h : ps.mapM (Placeholder.value? passed custom) = .ok args) :
    ∀ digits, .positional digits ∈ ps → digits.length ≤ integerLimit := by
  induction ps generalizing args with
  | nil => simp
  | cons p ps ih =>
    intro digits hmem
    rw [List.mapM_cons] at h
    rcases hp : p.value? passed custom with f | v
    · rw [hp] at h
      cases h
    rcases hps : ps.mapM (Placeholder.value? passed custom) with f | vs
    · rw [hp, hps] at h
      cases h
    rcases List.mem_cons.mp hmem with rfl | hmem
    · by_contra hlong
      rw [Placeholder.value?, if_pos (by omega)] at hp
      cases hp
    · exact ih hps digits hmem

theorem resolve_eq_ok (h : (Template.parse statement.toList).Readable) (marker : String) :
    resolve statement passed custom marker =
      .ok ⟨String.ofList ((Template.parse statement.toList).bound marker.toList),
        (Template.parse statement.toList).placeholders.map (Placeholder.lookup passed custom),
        statement⟩ := by
  simp only [resolve, mapM_value?_eq_lookup passed custom h]

/-- **A statement is resolved** exactly if its positions can be read. -/
theorem exists_resolve_iff {marker : String} :
    (∃ r, resolve statement passed custom marker = .ok r) ↔
      (Template.parse statement.toList).Readable := by
  refine ⟨?_, fun h => ⟨_, resolve_eq_ok h marker⟩⟩
  rintro ⟨r, hr⟩
  rcases hargs : (Template.parse statement.toList).placeholders.mapM
    (Placeholder.value? passed custom) with f | args
  · simp [resolve, hargs] at hr
  · exact short_of_mapM_value? hargs

end Resolving

/-- **Binding and filling agree.**  A statement with placeholders is bound exactly if its
positions can be read.  Then a driver of a percent style that interpolates it with literals, one
for each placeholder, gets the statement filled with them, and a driver of the question mark
style gets it filled with question marks.  Each literal stands between two pieces of the
statement as it is, whatever characters it has. -/
theorem bound_agrees_with_filled (statement : String) (passed : List Value) (custom : Bindings)
    (literals : List String) (hsome : (Template.parse statement.toList).placeholders ≠ [])
    (hall : literals.length = (Template.parse statement.toList).placeholders.length) :
    (∀ marker, (∃ r, resolve statement passed custom marker = .ok r) ↔
      (Template.parse statement.toList).Readable) ∧
    (∀ r, resolve statement passed custom "%s" = .ok r →
      Template.interpolate? r.text.toList (literals.map String.toList)
        = some (fillPlaceholders statement literals).toList) ∧
    (∀ r, resolve statement passed custom "?" = .ok r →
      r.text = fillPlaceholders statement (literals.map fun _ => "?")) ∧
    (fillPlaceholders statement literals).toList =
      (Template.parse statement.toList).head ++
        (literals.zip (Template.parse statement.toList).tail).flatMap
          fun p => p.1.toList ++ p.2.2 := by
  set t := Template.parse statement.toList with ht
  have hlen : (literals.map String.toList).length = t.placeholders.length := by
    rw [List.length_map, hall]
  have hfilled : (fillPlaceholders statement literals).toList
      = t.fill (literals.map String.toList) := by
    rw [fillPlaceholders, String.toList_ofList]
  refine ⟨fun marker => exists_resolve_iff, ?_, ?_, ?_⟩
  · intro r hr
    have hbound : t.bound "%s".toList = t.joined ['%', 's'] true := Template.bound_format hsome
    rw [resolve_text hr, ← ht, String.toList_ofList, hbound, hfilled,
      Template.interpolate?_joined hlen]
  · intro r hr
    have hbound : t.bound "?".toList = t.joined ['?'] false := Template.bound_question t
    have hmarks : t.placeholders.map (fun _ => "?".toList)
        = (literals.map fun _ => "?").map String.toList := by
      rw [List.map_const', List.map_const', List.map_replicate, hall]
    rw [resolve_text hr, ← ht, hbound, Template.joined_eq_fill, fillPlaceholders, ← hmarks]
    rfl
  · rw [hfilled, Template.fill_eq_zip hlen, List.zip_map_left]
    simp [List.flatMap_map]

/-- A statement with percent signs around its placeholders. -/
def steepStatement : String := "5%$!a%%$0%s"

theorem steepStatement_placeholders :
    (Template.parse steepStatement.toList).placeholders = [.named ['a'], .positional ['0']] := by
  with_unfolding_all rfl

/-- The pairs and the markers run together, and the literals have percent signs, a marker and a
placeholder in them. -/
theorem steepStatement_agrees :
    ∃ r, resolve steepStatement [.int 8] [("a", .null)] "%s" = .ok r ∧
      r.text = "5%%%s%%%%%s%%s" ∧
      Template.interpolate? r.text.toList ["'9%s'".toList, "$0%".toList]
        = some "5%'9%s'%%$0%%s".toList := by
  have hsome : (Template.parse steepStatement.toList).placeholders ≠ [] := by
    rw [steepStatement_placeholders]
    exact List.cons_ne_nil _ _
  obtain ⟨hresolves, hformat, -, -⟩ := bound_agrees_with_filled steepStatement [.int 8]
    [("a", .null)] ["'9%s'", "$0%"] hsome (by rw [steepStatement_placeholders]; rfl)
  obtain ⟨r, hr⟩ := (hresolves "%s").mpr (by
    rw [Template.Readable, steepStatement_placeholders]
    simp [integerLimit])
  have htext : (Template.parse steepStatement.toList).bound "%s".toList
      = "5%%%s%%%%%s%%s".toList := by with_unfolding_all rfl
  have hfilled : fillPlaceholders steepStatement ["'9%s'", "$0%"] = "5%'9%s'%%$0%%s" := by
    with_unfolding_all rfl
  have hinterpolated := hformat r hr
  rw [hfilled] at hinterpolated
  exact ⟨r, hr, by rw [resolve_text hr, htext, String.ofList_toList], hinterpolated⟩

/-- The position that is written with a given number of ones. -/
def onesPosition (count : Nat) : Placeholder := .positional (List.replicate count '1')

theorem parse_onesPosition {count : Nat} (h : count ≠ 0) :
    Template.parse (onesPosition count).source = ⟨[], [(onesPosition count, [])]⟩ := by
  have hw : (onesPosition count).WellFormed := by
    refine ⟨by simp [h], fun c hc => ?_⟩
    rw [List.eq_of_mem_replicate hc]
    decide
  have hends : (onesPosition count).EndsBefore [] := by rintro c ⟨⟩
  have hparse := Template.parse_source_append hw hends
  rwa [List.append_nil, Template.parse_nil] at hparse

theorem resolve_onesPosition {count : Nat} (h : integerLimit < count) (passed : List Value)
    (custom : Bindings) (marker : String) :
    resolve (String.ofList (onesPosition count).source) passed custom marker
      = .error (.longNumeral count) := by
  have hvalue : (onesPosition count).value? passed custom = .error (.longNumeral count) := by
    rw [onesPosition, Placeholder.value?, List.length_replicate, if_pos h]
  have hvalues : (Template.placeholders ⟨[], [(onesPosition count, [])]⟩).mapM
      (Placeholder.value? passed custom) = .error (.longNumeral count) := by
    rw [Template.placeholders, List.map_singleton, List.mapM_cons, hvalue]
    rfl
  simp only [resolve, String.toList_ofList, parse_onesPosition (Nat.ne_zero_of_lt h), hvalues]

/-- A position of more digits than can be read is past the end of every list of parameters, but
it does not count as absent: the statement is not bound, though it is filled. -/
theorem longPosition_unbound :
    (∀ marker, resolve (String.ofList (onesPosition 4301).source) [] [] marker
      = .error (.longNumeral 4301)) ∧
      fillPlaceholders (String.ofList (onesPosition 4301).source) ["x"] = "x" := by
  refine ⟨resolve_onesPosition (by decide) [] [], ?_⟩
  rw [fillPlaceholders, String.toList_ofList, parse_onesPosition (by decide)]
  rfl

end SqlScript
