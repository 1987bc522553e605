/-
SqlScript/Proofs/Condition/Pieces.lean

Lexing piece by piece, and texts that are lexed in step.

`openAfter` follows the quotes along a text.  Where none is open, lexing does not look back:
a piece behind which no quote is open is lexed as it is by itself, and lexing goes on with what
follows it (`lexFrom_append`).

Two texts are lexed *in step* (`InStep`) if their tokens correspond one by one and lexing them
stops for the same reason.  Their pieces may be put together: a piece that both have
(`InStep.piece`), or two lexemes that correspond (`InStep.lexeme`).  If reading does not tell
corresponding tokens apart, then the two texts are read as trees that differ in their leaves
only, or both are refused, at corresponding tokens (`parse_inStep`).
-/
import Mathlib.Data.List.Forall2
import SqlScript.Condition.Render
import SqlScript.Proofs.Condition.Reading

namespace SqlScript.Condition

/-! ### Quotes that are open -/

/-- The quote that is open behind a text, if one is, given the one that is open in front of
it.  Inside quotes a backslash hides the character behind it. -/
def openAfter : Option Char → List Char → Option Char
  | q?, [] => q?
  | none, c :: cs => openAfter (if c = '\'' ∨ c = '"' then some c else none) cs
  | some q, '\\' :: _ :: cs => openAfter (some q) cs
  | some q, c :: cs => openAfter (if c = q then none else some q) cs

/-- No quote is open where a placeholder stands. -/
def Unquoted (t : Template) : Prop := ∀ piece ∈ t.pieces.dropLast, openAfter none piece = none

instance (t : Template) : Decidable (Unquoted t) :=
  inferInstanceAs (Decidable (∀ piece ∈ t.pieces.dropLast, openAfter none piece = none))

section Open

variable {q c : Char} {cs rest : List Char}

theorem openAfter_none_cons (h : ¬ (c = '\'' ∨ c = '"')) (cs : List Char) :
    openAfter none (c :: cs) = openAfter none cs :=
  congrArg (openAfter · cs) (if_neg h)

theorem openAfter_opening (h : c = '\'' ∨ c = '"') (cs : List Char) :
    openAfter none (c :: cs) = openAfter (some c) cs :=
  congrArg (openAfter · cs) (if_pos h)

theorem openAfter_hidden (q c : Char) (cs : List Char) :
    openAfter (some q) ('\\' :: c :: cs) = openAfter (some q) cs := rfl

/-- A character closes its quote unless a backslash hides what is behind it. -/
theorem openAfter_some_cons (h : ∀ d ds, c = '\\' → cs ≠ d :: ds) :
    openAfter (some q) (c :: cs) = openAfter (if c = q then none else some q) cs := by
  rw [openAfter]
  exact h

theorem openAfter_plain (hq : c ≠ q) (h : c ≠ '\\') (cs : List Char) :
    openAfter (some q) (c :: cs) = openAfter (some q) cs := by
  rw [openAfter_some_cons fun _ _ hc => absurd hc h, if_neg hq]

theorem openAfter_quote (h : q ≠ '\\') (cs : List Char) :
    openAfter (some q) (q :: cs) = openAfter none cs := by
  rw [openAfter_some_cons fun _ _ hq => absurd hq h, if_pos rfl]

theorem openAfter_singleton (q c : Char) :
    openAfter (some q) [c] = if c = q then none else some q :=
  openAfter_some_cons fun _ _ _ => (List.cons_ne_nil _ _).symm

/-- A text without quotes opens none. -/
theorem openAfter_append_of_no_quote (h : ∀ c ∈ cs, ¬ (c = '\'' ∨ c = '"')) (rest : List Char) :
    openAfter none (cs ++ rest) = openAfter none rest := by
  induction cs with
  | nil => rfl
  | cons c cs ih =>
    rw [List.forall_mem_cons] at h
    rw [List.cons_append, openAfter_none_cons h.1, ih h.2]

theorem openAfter_of_no_quote (h : ∀ c ∈ cs, ¬ (c = '\'' ∨ c = '"')) :
    openAfter none cs = none := by
  have plain := openAfter_append_of_no_quote h []
  rwa [List.append_nil] at plain

/-- What is no quote leaves open what is open in front of it. -/
theorem openAfter_concat (hc : ¬ (c = '\'' ∨ c = '"')) {q? : Option Char}
    (hq : ∀ q ∈ q?, q = '\'' ∨ q = '"') : openAfter q? (cs ++ [c]) = openAfter q? cs := by
  fun_induction openAfter q? cs with
  | case1 q? =>
    rcases q? with - | q
    · exact openAfter_none_cons hc []
    have other : c ≠ q := by
      rintro rfl
      exact hc (hq c rfl)
    rw [List.nil_append, openAfter_singleton, if_neg other]
  | case2 d cs ih =>
    show openAfter (if d = '\'' ∨ d = '"' then some d else none) (cs ++ [c]) = _
    apply ih
    split
    · next quote => simpa using quote
    · exact nofun
  | case3 q d cs ih => exact ih hq
  | case4 q d cs hlast ih =>
    by_cases last : d = '\\' ∧ cs = []
    -- a backslash at the end hides what is added
    · obtain ⟨rfl, rfl⟩ := last
      have other : '\\' ≠ q := (quote_ne_backslash (hq q rfl)).symm
      rw [if_neg other]
      rfl
    · have seen : ∀ e es, d = '\\' → cs ++ [c] ≠ e :: es := by
        intro e es hd he
        rcases cs with - | ⟨f, fs⟩
        · exact last ⟨hd, rfl⟩
        · exact hlast f fs hd rfl
      rw [List.cons_append, openAfter_some_cons seen]
      apply ih
      split
      · exact nofun
      · exact hq

/-- A body leaves its quote open for what is behind it. -/
theorem Body.openAfter_append {body : List Char} (h : Body q body) (rest : List Char) :
    openAfter (some q) (body ++ rest) = openAfter (some q) rest := by
  induction h with
  | nil => rfl
  | plain hc hslash _ ih => rw [List.cons_append, openAfter_plain hc hslash, ih]
  | escaped _ _ ih => rw [List.cons_append, List.cons_append, openAfter_hidden, ih]

/-- A quoted text ends with no quote open. -/
theorem openAfter_of_closing? (hq : q ≠ '\\') {n : Nat} (h : closing? q cs = some n) :
    openAfter (some q) cs = openAfter none (cs.drop n) := by
  obtain ⟨body, rest, rfl, rfl, inner⟩ := (closing?_eq_some_iff hq).mp h
  have length : (body ++ [q]).length = body.length + 1 := by simp
  rw [inner.openAfter_append, openAfter_quote hq, List.append_cons, List.drop_left' length]

/-- Whether and where a quoted text ends is settled once its quote is closed. -/
theorem closing?_append_of_closed (hq : q ≠ '\\') (h : openAfter (some q) cs = none) :
    closing? q (cs ++ rest) = closing? q cs := by
  induction cs using closing?.induct q with
  | case1 cs => rw [List.cons_append, List.cons_append, closing?_lineFeed, closing?_lineFeed]
  | case2 c cs hc ih =>
    rw [List.cons_append, List.cons_append, closing?_escaped hc, closing?_escaped hc, ih h]
  | case3 cs _ => rw [List.cons_append, closing?_quote hq, closing?_quote hq]
  | case4 cs hlast _ =>
    -- a backslash at the very end leaves the quote open
    rcases cs with - | ⟨c, cs⟩
    · rw [openAfter_singleton, if_neg hq.symm] at h
      cases h
    · exact (hlast c cs rfl rfl).elim
  | case5 c cs _ hcq hc ih =>
    rw [openAfter_plain hcq hc] at h
    rw [List.cons_append, closing?_plain hcq hc, closing?_plain hcq hc, ih h]
  | case6 => cases h

/-! ### Lexing piece by piece -/

/-- A lexeme takes no quote with it that stays open. -/
theorem openAfter_of_lexeme? {kind : Kind} {n : Nat} (h : lexeme? c cs = some (kind, n)) :
    openAfter none (c :: cs) = openAfter none (cs.drop n) := by
  by_cases hc : c = '\'' ∨ c = '"'
  · rw [lexeme?_quote hc, Option.map_eq_some_iff] at h
    obtain ⟨k, hk, hn⟩ := h
    cases hn
    rw [openAfter_opening hc]
    exact openAfter_of_closing? (quote_ne_backslash hc) hk
  -- no other lexeme has a quote in it
  · have whole : lexeme? c (cs.take n) = some (kind, (cs.take n).length) :=
      front?_cons.mp (front?_take h)
    have plain : ∀ d ∈ c :: cs.take n, ¬ (d = '\'' ∨ d = '"') := by
      rintro d hd (rfl | rfl)
      · exact lexeme?_chars (by decide) whole hc hd
      · exact lexeme?_chars (by decide) whole hc hd
    calc openAfter none (c :: cs)
        = openAfter none ((c :: cs.take n) ++ cs.drop n) := by
          rw [List.cons_append, List.take_append_drop]
      _ = openAfter none (cs.drop n) := openAfter_append_of_no_quote plain _

/-- A lexeme closes its quotes. -/
theorem Lexeme.openAfter_text (l : Lexeme) : openAfter none l.text = none := by
  obtain ⟨c, cs, ht, hl⟩ := l.split
  rw [ht, openAfter_of_lexeme? hl, List.drop_length]
  rfl

/-- Where no quote is left open, the lexeme at the front does not depend on what follows. -/
theorem lexeme?_append_of_closed (hr : Parted rest) (h : openAfter none (c :: cs) = none) :
    lexeme? c (cs ++ rest) = lexeme? c cs := by
  cases rule c with
  | number _ taken => rw [taken, taken, numberLexeme_append hr]
  | point _ taken => rw [taken, taken]
  | quoted hc taken =>
    rw [openAfter_opening hc] at h
    rw [taken, taken, closing?_append_of_closed (quote_ne_backslash hc) h]
  | word _ taken =>
    rw [taken, taken, takeWhile_append_of_head fun c hc => (hr c hc).2.1]
  | operator taken =>
    rw [taken, taken]
    rcases cs with - | ⟨d, cs⟩
    · exact operator?_parted hr c
    · rfl

/-- **Lexing goes piece by piece.**  A piece behind which no quote is open is lexed as it is
by itself; if its end is reached, lexing goes on with what follows. -/
theorem lexFrom_append (hr : Parted rest) (pos : Nat) (h : openAfter none cs = none) :
    lexFrom pos (cs ++ rest) =
      if (lexFrom pos cs).2 = .ended then
        ((lexFrom pos cs).1 ++ (lexFrom (pos + cs.length) rest).1,
          (lexFrom (pos + cs.length) rest).2)
      else lexFrom pos cs := by
  fun_induction lexFrom pos cs with
  | case1 pos => simp
  | case2 pos c cs hc ih =>
    have hq : ¬ (c = '\'' ∨ c = '"') := by
      rintro (rfl | rfl) <;> exact absurd hc (by decide)
    rw [openAfter_none_cons hq] at h
    rw [List.cons_append, lexFrom, if_pos hc, ih h, List.length_cons, Nat.add_assoc,
      Nat.add_comm 1]
  | case3 pos c cs hc hl =>
    rw [List.cons_append, lexFrom, if_neg hc, lexeme?_append_of_closed hr h, hl]
    simp
  | case4 pos c cs hc kind n hl digits hv =>
    rw [List.cons_append, lexFrom, if_neg hc, lexeme?_append_of_closed hr h, hl]
    simp only [List.take_append_of_le_length (lexeme?_take hl).1, hv]
    simp
  | case5 pos c cs hc kind n hl value hv tail ih =>
    have hle : n ≤ cs.length := (lexeme?_take hl).1
    rw [openAfter_of_lexeme? hl] at h
    have behind : pos + n + 1 + (cs.drop n).length = pos + (cs.length + 1) := by
      rw [List.length_drop]
      omega
    rw [List.cons_append, lexFrom, if_neg hc,
      lexeme?_append_of_closed hr (by rw [openAfter_of_lexeme? hl, h]), hl]
    simp only [List.take_append_of_le_length hle, List.drop_append_of_le_length hle, hv, ih h,
      behind, List.length_cons]
    split <;> rfl

end Open

/-! ### Texts that are lexed in step -/

/-- Why lexing stopped, the place aside. -/
def Stop.unplaced : Stop → Stop
  | .illegal c _ => .illegal c 0
  | stop => stop

theorem Stop.ended_iff_unplaced (stop : Stop) : stop = .ended ↔ stop.unplaced = .ended := by
  cases stop <;> simp [Stop.unplaced]

/-- Lexing two texts, from wherever, gives tokens that are related one by one, and stops for
the same reason. -/
def InStep (R : Token → Token → Prop) (a b : List Char) : Prop :=
  ∀ p q, List.Forall₂ R (lexFrom p a).1 (lexFrom q b).1 ∧
    (lexFrom p a).2.unplaced = (lexFrom q b).2.unplaced

/-- Tokens that differ in their places only are related. -/
def Placeless (R : Token → Token → Prop) : Prop := ∀ t u, t.unplaced = u.unplaced → R t u

namespace InStep

variable {R : Token → Token → Prop} {a b : List Char}

/-- Where a text stands does not matter to its tokens. -/
theorem refl (hR : Placeless R) (cs : List Char) : InStep R cs cs := by
  intro p q
  fun_induction lexFrom p cs generalizing q with
  | case1 p => simp [lexFrom]
  | case2 p c cs hc ih =>
    rw [lexFrom.eq_2 q, if_pos hc]
    exact ih (q + 1)
  | case3 p c cs hc hl =>
    rw [lexFrom.eq_2 q, if_neg hc, hl]
    exact ⟨.nil, rfl⟩
  | case4 p c cs hc kind n hl digits hv =>
    rw [lexFrom.eq_2 q, if_neg hc, hl]
    simp [hv]
  | case5 p c cs hc kind n hl value hv tail ih =>
    rw [lexFrom.eq_2 q, if_neg hc, hl]
    simp only [hv]
    obtain ⟨tokens, stop⟩ := ih (q + n + 1)
    exact ⟨.cons (hR _ _ rfl) tokens, stop⟩

/-- Gaps may stand in front of both texts. -/
theorem gap {c : Char} (hc : isGap c = true) (h : InStep R a b) :
    InStep R (c :: a) (c :: b) := by
  intro p q
  rw [lexFrom, lexFrom, if_pos hc, if_pos hc]
  exact h (p + 1) (q + 1)

/-- Lexemes that are related may stand in front of the two texts. -/
theorem lexeme (l l' : Lexeme)
    (related : ∀ p q, R { l.token with pos := p } { l'.token with pos := q })
    (front : front? (l.text ++ a) = some (l.kind, l.text.length))
    (front' : front? (l'.text ++ b) = some (l'.kind, l'.text.length)) (h : InStep R a b) :
    InStep R (l.text ++ a) (l'.text ++ b) := by
  intro p q
  rw [l.lexFrom_append front, l'.lexFrom_append front']
  obtain ⟨tokens, stop⟩ := h (p + l.text.length) (q + l'.text.length)
  exact ⟨.cons (related p q) tokens, stop⟩

/-- The same piece may stand in front of both, if it leaves no quote open. -/
theorem piece (hR : Placeless R) {cs : List Char} (hcs : openAfter none cs = none)
    (ha : Parted a) (hb : Parted b) (h : InStep R a b) : InStep R (cs ++ a) (cs ++ b) := by
  intro p q
  obtain ⟨front, same⟩ := refl hR cs p q
  have ended : (lexFrom p cs).2 = .ended ↔ (lexFrom q cs).2 = .ended := by
    rw [Stop.ended_iff_unplaced, same, ← Stop.ended_iff_unplaced]
  rw [lexFrom_append ha p hcs, lexFrom_append hb q hcs]
  by_cases hp : (lexFrom p cs).2 = .ended
  · obtain ⟨tokens, stop⟩ := h (p + cs.length) (q + cs.length)
    rw [if_pos hp, if_pos (ended.mp hp)]
    exact ⟨List.rel_append front tokens, stop⟩
  · rw [if_neg hp, if_neg fun hq => hp (ended.mpr hq)]
    exact ⟨front, same⟩

end InStep

/-! ### Reading in step -/

section Reading

variable {f : Value → Tree} {R : Token → Token → Prop}

/-- What two texts are read as: trees that differ in their leaves only, or errors that differ
in their places and in the tokens that are refused. -/
inductive ReadAlike (f : Value → Tree) (R : Token → Token → Prop) :
    Except Fault Tree → Except Fault Tree → Prop
  | tree {t u : Tree} (same : t.graft f = u.graft f) : ReadAlike f R (.ok t) (.ok u)
  | unexpected {t u : Token} (related : R t u) :
      ReadAlike f R (.error (.form (.unexpected t))) (.error (.form (.unexpected u)))
  | illegal (c : Char) (p q : Nat) :
      ReadAlike f R (.error (.form (.illegal c p))) (.error (.form (.illegal c q)))
  | unexpectedEnd :
      ReadAlike f R (.error (.form .unexpectedEnd)) (.error (.form .unexpectedEnd))
  | overlong (digits : Nat) :
      ReadAlike f R (.error (.number (.longNumeral digits)))
        (.error (.number (.longNumeral digits)))

/-- Reading tokens that are not told apart ends in readings that differ in their leaves only,
or stops at corresponding tokens. -/
theorem run_matches (hR : ∀ t u, R t u → t.Matches f u) {ts us : List Token}
    (h : List.Forall₂ R ts us) {r s : Reading} (hr : r.graft f = s.graft f) :
    (∃ r' s', r.run ts = .ok r' ∧ s.run us = .ok s' ∧ r'.graft f = s'.graft f) ∨
      ∃ t u, r.run ts = .error (.unexpected t) ∧ s.run us = .error (.unexpected u) ∧ R t u := by
  induction h generalizing r s with
  | nil => exact .inl ⟨r, s, rfl, rfl, hr⟩
  | @cons t u ts us htu h ih =>
    have step := Reading.step?_matches hr (hR t u htu)
    rw [Reading.run, Reading.run]
    rcases ht : r.step? t with - | next <;> rcases hu : s.step? u with - | next'
    · exact .inr ⟨t, u, rfl, rfl, htu⟩
    · simp [ht, hu] at step
    · simp [ht, hu] at step
    · rw [ht, hu] at step
      exact ih (Option.some.inj step)

/-- **Texts that are lexed in step are read alike**, if reading does not tell corresponding
tokens apart. -/
theorem parse_inStep (hR : ∀ t u, R t u → t.Matches f u) {a b : String}
    (h : InStep R a.toList b.toList) : ReadAlike f R (parse a) (parse b) := by
  obtain ⟨tokens, stop⟩ := h 0 0
  simp only [parse, lex]
  rcases run_matches hR tokens (rfl : (Reading.graft f {}) = Reading.graft f {}) with
    ⟨r, s, hr, hs, same⟩ | ⟨t, u, ht, hu, related⟩
  · rw [hr, hs]
    rcases ha : (lexFrom 0 a.toList).2 with - | ⟨c, p⟩ | digits <;>
      rcases hb : (lexFrom 0 b.toList).2 with - | ⟨d, q⟩ | digits' <;>
      rw [ha, hb] at stop <;> cases stop
    · have trees : r.tree?.map (Tree.graft f) = s.tree?.map (Tree.graft f) := by
        rw [← Reading.tree?_graft, ← Reading.tree?_graft, same]
      simp only
      rcases hrt : r.tree? with - | x <;> rcases hst : s.tree? with - | y
      · exact .unexpectedEnd
      · simp [hrt, hst] at trees
      · simp [hrt, hst] at trees
      · rw [hrt, hst] at trees
        exact .tree (Option.some.inj trees)
    · exact .illegal c p q
    · exact .overlong digits
  · rw [ht, hu]
    exact .unexpected related

end Reading

end SqlScript.Condition
