/-
SqlScript/Proofs/Condition/Continuation.lean

A condition is refused at the first token that cannot continue it.

Tokens are *continuable* if some condition that is read starts with them, and *complete* if
some condition that is read consists of them (`Continuable`, `Complete`).  Places do not
count, since they say where a token stands and not what it is.

Whatever has been read can be continued: a number where an operand is due, and then as many
closing parentheses as are open (`Reading.exists_rest`).  No operator and no level stands in
the way, since a closing parenthesis and the end of the text complete every frame.  So reading
fails no earlier than it has to.  It fails no later either: what the machine does with the
tokens of a text it does with them at the front of every other text
(`Continuable.exists_run`).

All this is about texts, so the tokens must be written again.  Each token of a text is that
of a lexeme, which does not need what followed it (`front?_take`), and lexemes with spaces
between them are lexed one by one.
-/
import SqlScript.Proofs.Condition.Printing
import SqlScript.Proofs.Condition.Soundness

namespace SqlScript.Condition

/-! ### Lexemes by themselves -/

/-- Every token that lexing gives is that of a lexeme. -/
theorem lexFrom_lexemes (pos : Nat) (cs : List Char) :
    ∃ ls : List Lexeme, (lexFrom pos cs).1.map Token.unplaced = ls.map Lexeme.token := by
  fun_induction lexFrom pos cs with
  | case1 | case3 | case4 => exact ⟨[], rfl⟩
  | case2 pos c cs _ ih => exact ih
  | case5 pos c cs _ kind n hl value hv rest ih =>
    obtain ⟨ls, hls⟩ := ih
    refine ⟨⟨c :: cs.take n, kind, value, front?_take hl, hv⟩ :: ls, ?_⟩
    rw [List.map_cons, hls]
    rfl

/-! ### Continuing what has been read -/

namespace Reading

variable {r r' : Reading} {us vs : List Token}

theorem run_append (h : r.run us = .ok r') (vs : List Token) : r.run (us ++ vs) = r'.run vs := by
  induction us generalizing r with
  | nil =>
    cases h
    rfl
  | cons t us ih =>
    rw [run] at h
    rw [List.cons_append, run]
    rcases hs : r.step? t with - | next
    · simp [hs] at h
    · simp only [hs] at h ⊢
      exact ih h

/-- What can be read can be read up to any point. -/
theorem exists_run_of_append (h : r.run (us ++ vs) = .ok r') : ∃ s, r.run us = .ok s := by
  induction us generalizing r with
  | nil => exact ⟨r, rfl⟩
  | cons t us ih =>
    rw [List.cons_append, run] at h
    rw [run]
    rcases hs : r.step? t with - | next
    · simp [hs] at h
    · simp only [hs] at h ⊢
      exact ih h

/-- Reading fails at a token that cannot be read behind the tokens in front of it. -/
theorem run_eq_error {e : FormError} (h : r.run us = .error e) :
    ∃ before t after s, us = before ++ t :: after ∧ e = .unexpected t ∧
      r.run before = .ok s ∧ s.step? t = none := by
  induction us generalizing r with
  | nil => cases h
  | cons t us ih =>
    rw [run] at h
    rcases hs : r.step? t with - | next
    · simp only [hs] at h
      cases h
      exact ⟨[], t, us, r, rfl, rfl, rfl, hs⟩
    · simp only [hs] at h
      obtain ⟨before, u, after, s, rfl, he, hrun, hstep⟩ := ih h
      refine ⟨t :: before, u, after, s, rfl, he, ?_, hstep⟩
      rw [run, hs]
      exact hrun

/-- Reading does not look at places. -/
theorem run_unplaced : r.run (us.map Token.unplaced) = .ok r' ↔ r.run us = .ok r' := by
  induction us generalizing r with
  | nil => rfl
  | cons t us ih =>
    rw [List.map_cons, run, run, step?_unplaced]
    rcases r.step? t with - | next
    · simp
    · exact ih

/-- Closing parentheses, as many as are open, complete a condition behind an operand. -/
theorem exists_closers {rp : Token} (hrp : rp.kind = .rightParen) (stack : List Frame)
    (x : Tree) : ∃ n tree, treeAfter? ⟨stack, some x⟩ (List.replicate n rp) = some tree := by
  induction stack generalizing x with
  | nil => exact ⟨0, x, rfl⟩
  | cons f stack ih =>
    by_cases hf : f = .paren
    · subst hf
      obtain ⟨n, tree, h⟩ := ih x
      refine ⟨n + 1, tree, ?_⟩
      rw [List.replicate_succ, treeAfter?_close hrp rfl]
      exact h
    -- any other frame is completed on the way, by a parenthesis or by the end
    · obtain ⟨n, tree, h⟩ := ih (f.complete x)
      refine ⟨n, tree, ?_⟩
      rw [← h]
      have closes : close? (f :: stack) x = close? stack (f.complete x) := by
        rw [close?]
        exact fun hp => hf hp
      have ends : finish? (f :: stack) x = finish? stack (f.complete x) := by
        rw [finish?]
        exact fun hp => hf hp
      rcases n with - | n
      · exact ends
      · obtain ⟨kind, value, pos⟩ := rp
        cases hrp
        rw [List.replicate_succ, treeAfter?_cons, treeAfter?_cons]
        show (Option.map _ (close? (f :: stack) x)).bind _ = _
        rw [closes]
        rfl

/-- **Whatever has been read can be continued** to a condition, with tokens that can be
written. -/
theorem exists_rest (r : Reading) :
    ∃ (ls : List Lexeme) (tree : Tree), r.treeAfter? (ls.map Lexeme.token) = some tree := by
  obtain ⟨rp, -, hrp⟩ := rightParen_lexeme
  obtain ⟨stack, operand⟩ := r
  rcases operand with - | x
  -- an operand is due: a number, and then its closing parentheses
  · have one : Text.digitCount 1 ≤ integerLimit := by decide
    obtain ⟨n, tree, h⟩ := exists_closers hrp stack (.literal (.int (1 : Nat)))
    refine ⟨.numeral 1 one :: List.replicate n rp, tree, ?_⟩
    rw [List.map_cons, List.map_replicate]
    exact (StandFor.atom rfl stack _).trans h
  · obtain ⟨n, tree, h⟩ := exists_closers hrp stack x
    refine ⟨List.replicate n rp, tree, ?_⟩
    rw [List.map_replicate]
    exact h

end Reading

/-! ### Conditions that start with given tokens -/

/-- Whether some condition that is read starts with the tokens, places aside. -/
def Continuable (ts : List Token) : Prop :=
  ∃ text us tree, parse text = .ok tree ∧ tokens text = .ok us ∧
    ts.map Token.unplaced <+: us.map Token.unplaced

/-- Whether some condition that is read consists of the tokens, places aside. -/
def Complete (ts : List Token) : Prop :=
  ∃ text us tree, parse text = .ok tree ∧ tokens text = .ok us ∧
    ts.map Token.unplaced = us.map Token.unplaced

variable {ts : List Token}

/-- The tokens that a condition starts with can be read. -/
theorem Continuable.exists_run (h : Continuable ts) : ∃ r, Reading.run {} ts = .ok r := by
  obtain ⟨text, us, tree, hparse, htokens, rest, hrest⟩ := h
  obtain ⟨us', r, htokens', hrun, -⟩ := tokens_of_parse hparse
  obtain rfl : us = us' := Except.ok.inj (htokens.symm.trans htokens')
  rw [← Reading.run_unplaced, ← hrest] at hrun
  obtain ⟨s, hs⟩ := Reading.exists_run_of_append hrun
  exact ⟨s, Reading.run_unplaced.mp hs⟩

/-- The tokens of a condition make up a tree. -/
theorem Complete.exists_tree (h : Complete ts) :
    ∃ tree, Reading.treeAfter? {} ts = some tree := by
  obtain ⟨text, us, tree, hparse, htokens, hus⟩ := h
  obtain ⟨us', r, htokens', hrun, htree⟩ := tokens_of_parse hparse
  obtain rfl : us = us' := Except.ok.inj (htokens.symm.trans htokens')
  refine ⟨tree, ?_⟩
  rw [← Reading.treeAfter?_unplaced, hus, Reading.treeAfter?_unplaced, Reading.treeAfter?, hrun]
  exact htree

/-- **Tokens that can be written and read are continuable.** -/
theorem continuable_of_run {ls : List Lexeme} (hls : ts.map Token.unplaced = ls.map Lexeme.token)
    {r : Reading} (hr : Reading.run {} ts = .ok r) : Continuable ts := by
  obtain ⟨more, tree, htree⟩ := r.exists_rest
  have whole : Reading.treeAfter? {} ((ls ++ more).map Lexeme.token) = some tree := by
    rw [List.map_append, ← hls, Reading.treeAfter?,
      Reading.run_append (Reading.run_unplaced.mpr hr)]
    exact htree
  -- the lexemes with spaces between them are a condition
  set text := String.ofList ([' '].intercalate ((ls ++ more).map Lexeme.text)) with htext
  have lexes : LexesTo text.toList ((ls ++ more).map Lexeme.token) := by
    rw [htext, String.toList_ofList]
    exact spaced_lexes (ls ++ more)
  obtain ⟨hus, hend⟩ := lexes 0
  refine ⟨text, (lex text.toList).1, tree, parse_of_lexesTo lexes whole, ?_, ?_⟩
  · simp only [tokens, lex, hend]
  · rw [lex, hus, List.map_append, hls]
    exact List.prefix_append _ _

/-- Tokens at the front of a text that have been read are continuable. -/
theorem continuable_of_lex {text : String} {after : List Token} {r : Reading}
    (hts : (lex text.toList).1 = ts ++ after) (hr : Reading.run {} ts = .ok r) :
    Continuable ts := by
  obtain ⟨ls, hls⟩ := lexFrom_lexemes 0 text.toList
  rw [← lex, hts, List.map_append, eq_comm, List.map_eq_append_iff] at hls
  obtain ⟨front, rest, -, hfront, -⟩ := hls
  exact continuable_of_run hfront.symm hr

/-! ### Where conditions are refused -/

/-- How a condition is refused: at a token, at its end, or at a character. -/
inductive Refused (text : String) : FormError → Prop
  | token {before after : List Token} {t : Token} {r : Reading}
      (hts : (lex text.toList).1 = before ++ t :: after) (hr : Reading.run {} before = .ok r)
      (ht : r.step? t = none) : Refused text (.unexpected t)
  | ending {r : Reading} (hr : Reading.run {} (lex text.toList).1 = .ok r)
      (hstop : (lex text.toList).2 = .ended) (htree : r.tree? = none) :
      Refused text .unexpectedEnd
  | character {c : Char} {pos : Nat} {r : Reading}
      (hr : Reading.run {} (lex text.toList).1 = .ok r)
      (hstop : (lex text.toList).2 = .illegal c pos) : Refused text (.illegal c pos)

theorem refused_of_parse {text : String} {e : FormError} (h : parse text = .error (.form e)) :
    Refused text e := by
  simp only [parse] at h
  split at h
  · next e' hrun =>
    cases h
    obtain ⟨before, t, after, r, hts, rfl, hr, ht⟩ := Reading.run_eq_error hrun
    exact .token hts hr ht
  next r hr =>
  split at h
  · next c pos hstop =>
    cases h
    exact .character hr hstop
  · cases h
  next hstop =>
  split at h
  · next htree =>
    cases h
    exact .ending hr hstop htree
  · cases h

/-- **A condition is refused at the first token that cannot continue it.**  If a token is
unexpected, some condition starts with the tokens in front of it, and none with these and the
token.  If the end is unexpected, some condition starts with all the tokens, but none consists
of them.  If a character is illegal, some condition starts with the tokens in front of it. -/
theorem parse_refuses_first (text : String) :
    (∀ t, parse text = .error (.form (.unexpected t)) →
      ∃ before after, (lex text.toList).1 = before ++ t :: after ∧ Continuable before ∧
        ¬ Continuable (before ++ [t])) ∧
    (parse text = .error (.form .unexpectedEnd) →
      ∃ ts, tokens text = .ok ts ∧ Continuable ts ∧ ¬ Complete ts) ∧
    ∀ c pos, parse text = .error (.form (.illegal c pos)) →
      (lex text.toList).2 = .illegal c pos ∧ Continuable (lex text.toList).1 := by
  have all : (lex text.toList).1 = (lex text.toList).1 ++ [] := (List.append_nil _).symm
  refine ⟨?_, ?_, ?_⟩
  · intro t h
    cases refused_of_parse h with
    | @token before after _ r hts hr ht =>
      refine ⟨before, after, hts, continuable_of_lex hts hr, ?_⟩
      -- the machine would have to read the token behind the others
      intro hc
      obtain ⟨s, hs⟩ := hc.exists_run
      rw [Reading.run_append hr, Reading.run, ht] at hs
      cases hs
  · intro h
    cases refused_of_parse h with
    | ending hr hstop htree =>
      refine ⟨_, by simp only [tokens, hstop], continuable_of_lex all hr, ?_⟩
      intro hc
      obtain ⟨tree, hsome⟩ := hc.exists_tree
      rw [Reading.treeAfter?, hr] at hsome
      cases htree.symm.trans hsome
  · intro c pos h
    cases refused_of_parse h with
    | character hr hstop => exact ⟨hstop, continuable_of_lex all hr⟩

/-- A second comparison, a negation without operand in an open parenthesis, and a character
that starts no token. -/
theorem chain_refused_first :
    (parse "1 == 2 == 3" = .error (.form (.unexpected ⟨.relation .eq, .text "==", 7⟩)) ∧
      ∃ before after,
        (lex "1 == 2 == 3".toList).1 = before ++ ⟨.relation .eq, .text "==", 7⟩ :: after ∧
          Continuable before ∧ ¬ Continuable (before ++ [⟨.relation .eq, .text "==", 7⟩])) ∧
    (parse "1 + (not" = .error (.form .unexpectedEnd) ∧
      ∃ ts, tokens "1 + (not" = .ok ts ∧ Continuable ts ∧ ¬ Complete ts) ∧
    parse "(1 = 1" = .error (.form (.illegal '=' 3)) ∧
      (lex "(1 = 1".toList).2 = .illegal '=' 3 ∧ Continuable (lex "(1 = 1".toList).1 := by
  have chain : parse "1 == 2 == 3" =
      .error (.form (.unexpected ⟨.relation .eq, .text "==", 7⟩)) := by with_unfolding_all rfl
  have unfinished : parse "1 + (not" = .error (.form .unexpectedEnd) := by with_unfolding_all rfl
  have illegal : parse "(1 = 1" = .error (.form (.illegal '=' 3)) := by with_unfolding_all rfl
  exact ⟨⟨chain, (parse_refuses_first _).1 _ chain⟩,
    ⟨unfinished, (parse_refuses_first _).2.1 unfinished⟩,
    illegal, (parse_refuses_first _).2.2 _ _ illegal⟩

end SqlScript.Condition
