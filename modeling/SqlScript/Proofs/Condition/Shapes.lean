/-
SqlScript/Proofs/Condition/Shapes.lean

Texts that fill a condition do not change its shape, if no placeholder stands in quotes.

The *shape* of a condition is its tree with the values left out (`Tree.shape`).  A text is
filled in as a quoted literal, which is closed whatever the text is.  So the tokens of what is
rendered have the same kinds for all texts, provided that lexing gets to the placeholders: it
must not stand inside a quoted text of the template when it comes to one.  `openAfter` follows
the quotes along a text, and a template is `Unquoted` if none is open where a placeholder
stands.

Along the text: lexing goes piece by piece where no quote is open, so the results for any two
lists of texts are lexed in step (`inStep_fill`), and the kinds of their tokens are the same
(`SameKinds`).  Along the tokens: reading does not look at the values of tokens
(`treeAfter?_shape`).

Inside quotes the theorem fails.  The placeholder is found there as well, and a literal starts
and ends with single quotes and does not escape double ones: a text with double quotes in it
ends the quoted text that it is filled into, and what follows is read as operators.
-/
import SqlScript.Proofs.Condition.Hygiene
import SqlScript.Proofs.Condition.Pieces
import SqlScript.Proofs.Template.Interpolation

namespace SqlScript.Condition

/-! ### Texts whose tokens have the same kinds -/

/-- Lexing two texts, from wherever, gives tokens of the same kinds, and reaches the ends of
both texts or of neither. -/
def SameKinds (a b : List Char) : Prop :=
  ∀ p q, (lexFrom p a).1.map Token.kind = (lexFrom q b).1.map Token.kind ∧
    ((lexFrom p a).2 = .ended ↔ (lexFrom q b).2 = .ended)

/-- Texts that are lexed in step, up to the kinds of their tokens. -/
theorem InStep.sameKinds {a b : List Char} (h : InStep (fun t u => t.kind = u.kind) a b) :
    SameKinds a b := by
  intro p q
  obtain ⟨tokens, stop⟩ := h p q
  have kinds : List.Forall₂ Eq ((lexFrom p a).1.map Token.kind)
      ((lexFrom q b).1.map Token.kind) := by
    rw [List.forall₂_map_left_iff, List.forall₂_map_right_iff]
    exact tokens
  refine ⟨by rwa [List.forall₂_eq_eq_eq] at kinds, ?_⟩
  rw [Stop.ended_iff_unplaced, stop, ← Stop.ended_iff_unplaced]

theorem parted_quote (cs rest : List Char) : Parted (quote cs ++ rest) := by
  rintro c ⟨⟩
  decide

/-- What a template is filled with does not change the kinds of its tokens, if texts are
quoted and no placeholder stands in quotes. -/
theorem inStep_fill {t : Template} (ht : Unquoted t) {xs ys : List String}
    (hx : xs.length = t.placeholders.length) (hy : ys.length = t.placeholders.length) :
    InStep (fun t u => t.kind = u.kind) (t.fill (xs.map fun s => quote s.toList))
      (t.fill (ys.map fun s => quote s.toList)) := by
  have placeless : Placeless fun t u : Token => t.kind = u.kind := by
    intro t u h
    have kinds : t.unplaced.kind = u.unplaced.kind := congrArg Token.kind h
    exact kinds
  obtain ⟨head, tail⟩ := t
  -- along the placeholders: a piece that closes its quotes, a quoted text, and the rest
  induction tail generalizing head xs ys with
  | nil =>
    apply InStep.refl placeless
  | cons p tail ih =>
    obtain ⟨p, next⟩ := p
    rcases xs with - | ⟨x, xs⟩
    · cases hx
    rcases ys with - | ⟨y, ys⟩
    · cases hy
    have hpieces : (Template.pieces ⟨head, (p, next) :: tail⟩).dropLast =
        head :: (Template.pieces ⟨next, tail⟩).dropLast := rfl
    rw [Unquoted, hpieces, List.forall_mem_cons] at ht
    have rest := ih next ht.2 (Nat.succ.inj hx) (Nat.succ.inj hy)
    rw [List.map_cons, List.map_cons, Template.fill_cons_tail, Template.fill_cons_tail]
    apply InStep.piece placeless ht.1 (parted_quote _ _) (parted_quote _ _)
    exact InStep.lexeme (.quoted x) (.quoted y) (fun _ _ => rfl)
      (front?_quote x.toList _) (front?_quote y.toList _) rest

/-- **What a template is filled with does not change the kinds of its tokens**, if texts are
quoted and no placeholder stands in quotes. -/
theorem sameKinds_fill {t : Template} (ht : Unquoted t) {xs ys : List String}
    (hx : xs.length = t.placeholders.length) (hy : ys.length = t.placeholders.length) :
    SameKinds (t.fill (xs.map fun s => quote s.toList))
      (t.fill (ys.map fun s => quote s.toList)) :=
  (inStep_fill ht hx hy).sameKinds

/-! ### Shapes -/

/-- A condition with its values left out. -/
def Tree.shape : Tree → Tree := Tree.graft fun _ => .literal .null

/-- What has been read, with the values left out. -/
def Reading.shape : Reading → Reading := Reading.graft fun _ => .literal .null

/-- Tokens of the same kind are not told apart if values are left out. -/
theorem Token.matches_of_kind {t u : Token} (h : t.kind = u.kind) :
    t.Matches (fun _ => .literal .null) u := by
  have hsome := Token.atom?_of_kind h
  rcases ht : t.atom? with - | v <;> rcases hu : u.atom? with - | w
  · exact .kinds ht h
  · simp [ht, hu] at hsome
  · simp [ht, hu] at hsome
  · exact .atoms ht hu rfl

namespace Reading

/-- Tokens of the same kinds make up trees of the same shape, or none. -/
theorem treeAfter?_shape {r s : Reading} (hr : r.shape = s.shape) {ts us : List Token}
    (h : ts.map Token.kind = us.map Token.kind) :
    (r.treeAfter? ts).map Tree.shape = (s.treeAfter? us).map Tree.shape := by
  have tokens : List.Forall₂ (fun t u : Token => t.kind = u.kind) ts us := by
    rw [← List.forall₂_eq_eq_eq, List.forall₂_map_left_iff, List.forall₂_map_right_iff] at h
    exact h
  rw [treeAfter?, treeAfter?]
  rcases run_matches (fun _ _ => Token.matches_of_kind) tokens hr with
    ⟨r', s', hr', hs', same⟩ | ⟨t, u, ht, hu, -⟩
  · rw [hr', hs']
    show r'.tree?.map _ = s'.tree?.map _
    rw [Tree.shape, ← tree?_graft, ← tree?_graft, same]
  · rw [ht, hu]

end Reading

/-- The tree of a condition, if it is read: that of its tokens, if lexing reaches its end. -/
theorem toOption_parse (text : String) :
    (parse text).toOption =
      if (lexFrom 0 text.toList).2 = .ended then
        Reading.treeAfter? {} (lexFrom 0 text.toList).1
      else none := by
  simp only [parse, lex, Reading.treeAfter?]
  rcases Reading.run {} (lexFrom 0 text.toList).1 with e | r
  · simp [Except.toOption]
  rcases (lexFrom 0 text.toList).2 with - | ⟨c, pos⟩ | digits
  · simp only [if_true]
    rcases r.tree? with - | tree <;> rfl
  · simp [Except.toOption]
  · simp [Except.toOption]

theorem shape_parse_of_sameKinds {s t : String} (h : SameKinds s.toList t.toList) :
    (parse s).toOption.map Tree.shape = (parse t).toOption.map Tree.shape := by
  obtain ⟨hkinds, hstop⟩ := h 0 0
  rw [toOption_parse, toOption_parse]
  by_cases hend : (lexFrom 0 s.toList).2 = .ended
  · rw [if_pos hend, if_pos (hstop.mp hend)]
    exact Reading.treeAfter?_shape rfl hkinds
  · rw [if_neg hend, if_neg fun ht => hend (hstop.mpr ht)]

/-! ### Rendering -/

/-- Texts are rendered quoted, whatever the policy for absent values is. -/
theorem render_texts (statement : String) (xs : List String) (blank : Blank) :
    render statement (xs.map .text) blank =
      .ok (String.ofList ((Template.parse statement.toList).fill
        (xs.map fun s => quote s.toList))) := by
  have literals : (xs.map Value.text).mapM (literal? blank) =
      .ok (xs.map fun s => String.ofList (quote s.toList)) := by
    induction xs with
    | nil => rfl
    | cons x xs ih =>
      rw [List.map_cons, List.mapM_cons, ih]
      rfl
  rw [render, literals]
  simp [fillPlaceholders, Function.comp_def]

/-- **Texts do not change the shape of a condition** that has no placeholder in quotes.
Whatever texts fill its placeholders, one for each, rendering succeeds, and the two results
are both refused or both read as trees of the same shape. -/
theorem render_shape_eq {statement : String} (unquoted : Unquoted (Template.parse statement.toList))
    {xs ys : List String}
    (hx : xs.length = (Template.parse statement.toList).placeholders.length)
    (hy : ys.length = (Template.parse statement.toList).placeholders.length) (blank : Blank) :
    ∃ s t, render statement (xs.map .text) blank = .ok s ∧
      render statement (ys.map .text) blank = .ok t ∧
      (parse s).toOption.map Tree.shape = (parse t).toOption.map Tree.shape := by
  refine ⟨_, _, render_texts statement xs blank, render_texts statement ys blank, ?_⟩
  apply shape_parse_of_sameKinds
  rw [String.toList_ofList, String.toList_ofList]
  exact sameKinds_fill unquoted hx hy

/-- Two placeholders beside quoted texts, filled with plain texts and with quotes, operators
and a backslash. -/
theorem role_shape_eq :
    Unquoted (Template.parse "$0 eq 'admin' or not ($!role . \"$\" ne \"x\")".toList) ∧
      ∃ s t, render "$0 eq 'admin' or not ($!role . \"$\" ne \"x\")" [.text "ann", .text "b"] .empty
          = .ok s ∧
        render "$0 eq 'admin' or not ($!role . \"$\" ne \"x\")"
          [.text "' or '1", .text "\" or (\\"] .empty = .ok t ∧
        (parse s).toOption.map Tree.shape = (parse t).toOption.map Tree.shape := by
  have unquoted :
      Unquoted (Template.parse "$0 eq 'admin' or not ($!role . \"$\" ne \"x\")".toList) := by
    decide +kernel
  exact ⟨unquoted, @render_shape_eq _ unquoted ["ann", "b"] ["' or '1", "\" or (\\"]
    (by decide +kernel) (by decide +kernel) .empty⟩

/-- In quotes a text becomes operators: a comparison turns into an alternative. -/
theorem quoted_placeholder_reshapes :
    render "\"$0\" eq \"admin\"" [.text "ann"] .empty = .ok "\"'ann'\" eq \"admin\"" ∧
    parse "\"'ann'\" eq \"admin\"" =
      .ok (.binary (.text .eq) (.literal (.text "'ann'")) (.literal (.text "admin"))) ∧
    render "\"$0\" eq \"admin\"" [.text "\" or \"1"] .empty
      = .ok "\"'\" or \"1'\" eq \"admin\"" ∧
    parse "\"'\" or \"1'\" eq \"admin\"" =
      .ok (.binary .or (.literal (.text "'"))
        (.binary (.text .eq) (.literal (.text "1'")) (.literal (.text "admin")))) := by
  refine ⟨by decide +kernel, ?_, by decide +kernel, ?_⟩
  · with_unfolding_all rfl
  · with_unfolding_all rfl

end SqlScript.Condition
