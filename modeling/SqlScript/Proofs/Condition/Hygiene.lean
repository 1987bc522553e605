/-
SqlScript/Proofs/Condition/Hygiene.lean

Arguments never change the shape of a condition.

A condition template is a sequence of lexemes and placeholders with gaps between them;
parentheses need no gaps (`Spaced`).  Reading its tokens, with every placeholder as a
hole, gives a tree.  Rendering puts the literals of the arguments in the places of the
placeholders, as text; and the rendered text is read as the same tree with the arguments'
leaves in its holes (`render_hygienic`), whatever quotes, backslashes, operators or dollar
signs the arguments have.

The argument goes in two parts.  Along the text: filling the template keeps its lexemes,
and each literal lexes to tokens that stand for its leaf (`filled_lexes`).  Along the
tokens: reading these leads to the tree with its holes filled (`filled_reads`).
-/
import Mathlib.Data.List.Forall2
import SqlScript.Condition.Render
import SqlScript.Proofs.Condition.Reading

namespace SqlScript.Condition

/-! ### Literals and their leaves -/

/-- The arguments that are written without loss: absent values, truth values, texts, and
integers that are not too long. -/
def Simple : Value → Prop
  | .null => True
  | .bool _ => True
  | .int n => Text.digitCount n.natAbs ≤ integerLimit
  | .text _ => True
  | _ => False

/-- The tree that an argument stands for in a condition. -/
def leaf (blank : Blank) : Value → Tree
  | .null =>
    match blank with
    | .empty => .literal (.text "")
    | .null => .literal .null
    | .zero => .literal (.int 0)
  | .bool b => .literal (.int (if b then 1 else 0))
  | .int n => if n < 0 then .unary .neg (.literal (.int (-n))) else .literal (.int n)
  | v => .literal v

/-- Whether a text, in front of anything that stops a lexeme, lexes to tokens that stand
for a tree. -/
def Spells (text : List Char) (tree : Tree) : Prop :=
  ∃ us, StandFor us tree ∧
    ∀ rest ts, Stops rest → LexesTo rest ts → LexesTo (text ++ rest) (us ++ ts)

namespace Spells

theorem atom (l : Lexeme) {v : Value} (h : l.token.atom? = some v) :
    Spells l.text (.literal v) :=
  ⟨[l.token], .atom h, fun _ _ hr ht => l.lexesTo (l.front?_append hr) ht⟩

theorem neg {text : List Char} {tree : Tree} (h : Spells text tree) :
    Spells ('-' :: text) (.unary .neg tree) := by
  obtain ⟨us, stand, lexes⟩ := h
  refine ⟨Lexeme.minus.token :: us, stand.neg, ?_⟩
  intro rest ts hr ht
  exact Lexeme.minus.lexesTo (Lexeme.minus_closed _) (lexes rest ts hr ht)

theorem numeral {n : Nat} (h : Text.digitCount n ≤ integerLimit) :
    Spells (Text.natDigits n) (.literal (.int n)) :=
  atom (Lexeme.numeral n h) rfl

end Spells

/-- A negative number is written as the negation of a numeral, and is read as one. -/
theorem intText_cases (blank : Blank) (n : Int) :
    (n < 0 ∧ (Text.intText n).toList = '-' :: Text.natDigits n.natAbs ∧
      leaf blank (.int n) = .unary .neg (.literal (.int n.natAbs))) ∨
    (0 ≤ n ∧ (Text.intText n).toList = Text.natDigits n.natAbs ∧
      leaf blank (.int n) = .literal (.int n.natAbs)) := by
  rw [Text.intText, leaf]
  by_cases hn : n < 0
  · have habs : ((n.natAbs : Nat) : Int) = -n := by omega
    rw [if_pos hn, if_pos hn, habs]
    exact .inl ⟨hn, by simp [Text.natText], rfl⟩
  · have habs : ((n.natAbs : Nat) : Int) = n := by omega
    rw [if_neg hn, if_neg hn, habs]
    exact .inr ⟨Int.not_lt.mp hn, by simp [Text.natText], rfl⟩

theorem int_spells (blank : Blank) {n : Int} (h : Text.digitCount n.natAbs ≤ integerLimit) :
    Spells (Text.intText n).toList (leaf blank (.int n)) := by
  have digits := Spells.numeral h
  rcases intText_cases blank n with ⟨-, text, tree⟩ | ⟨-, text, tree⟩
  · rw [text, tree]
    exact digits.neg
  · rw [text, tree]
    exact digits

theorem literal?_int (blank : Blank) {n : Int} (h : Text.digitCount n.natAbs ≤ integerLimit) :
    literal? blank (.int n) = .ok (Text.intText n) := by
  have short : ¬ integerLimit < Text.digitCount n.natAbs := Nat.not_lt.mpr h
  rw [literal?, Value.text?, if_neg (by simpa [Value.overlong] using short)]
  rfl

/-- A literal spells the leaf of its value. -/
theorem literal_spells (blank : Blank) {v : Value} (h : Simple v) :
    ∃ text, literal? blank v = .ok text ∧ Spells text.toList (leaf blank v) := by
  cases v with
  | null =>
    refine ⟨blank.literal, rfl, ?_⟩
    cases blank with
    | empty => exact .atom (Lexeme.quoted "") rfl
    | null => exact .atom Lexeme.nullWord rfl
    | zero => exact Spells.numeral (n := 0) (by decide)
  | bool b =>
    refine ⟨_, rfl, ?_⟩
    cases b with
    | false => exact Spells.numeral (n := 0) (by decide)
    | true => exact Spells.numeral (n := 1) (by decide)
  | int n => exact ⟨Text.intText n, literal?_int blank h, int_spells blank h⟩
  | text s =>
    refine ⟨String.ofList (quote s.toList), rfl, ?_⟩
    rw [String.toList_ofList]
    exact .atom (Lexeme.quoted s) rfl
  | float x => exact h.elim
  | bytes bs => exact h.elim
  | decimal d => exact h.elim
  | list vs => exact h.elim

theorem literals_spell (blank : Blank) {args : List Value} (h : ∀ v ∈ args, Simple v) :
    ∃ texts, args.mapM (literal? blank) = .ok texts ∧
      List.Forall₂ Spells (texts.map String.toList) (args.map (leaf blank)) := by
  induction args with
  | nil => exact ⟨[], rfl, .nil⟩
  | cons v args ih =>
    obtain ⟨text, htext, spells⟩ := literal_spells blank (h v List.mem_cons_self)
    obtain ⟨texts, htexts, all⟩ := ih fun u hu => h u (List.mem_cons_of_mem v hu)
    refine ⟨text :: texts, ?_, .cons spells all⟩
    rw [List.mapM_cons, htext, htexts]
    rfl

/-! ### Templates of conditions -/

/-- A part of a condition template: a lexeme, which has no placeholder in it if it is a
quoted text, or a placeholder. -/
inductive Piece where
  | lexeme (l : Lexeme) (plain : l.kind = .string → (Template.parse l.text).placeholders = [])
  | hole (p : Placeholder) (formed : p.WellFormed)

namespace Piece

/-- The text of a part. -/
def text : Piece → List Char
  | .lexeme l _ => l.text
  | .hole p _ => p.source

/-- Whether a part is a parenthesis. -/
def IsParen : Piece → Prop
  | .lexeme l _ => l.IsParen
  | .hole _ _ => False

/-- How many placeholders there are. -/
def holeCount : List Piece → Nat
  | [] => 0
  | .lexeme _ _ :: ps => holeCount ps
  | .hole _ _ :: ps => holeCount ps + 1

/-- The tokens of parts, every placeholder being an operand that marks a hole.  Holes are
numbered from `i` on. -/
def tokens (i : Nat) : List Piece → List Token
  | [] => []
  | .lexeme l _ :: ps => l.token :: tokens i ps
  | .hole _ _ :: ps => ⟨.word, Condition.hole i, 0⟩ :: tokens (i + 1) ps

end Piece

/-- The text is the parts in order with gaps between them.  A part that is no parenthesis
has a gap or a parenthesis behind it, or ends the text. -/
inductive Spaced : List Piece → List Char → Prop
  | nil {gs : List Char} (hg : ∀ c ∈ gs, isGap c = true) : Spaced [] gs
  | cons {gs : List Char} {p : Piece} {ps : List Piece} {rest : List Char}
      (hg : ∀ c ∈ gs, isGap c = true) (ends : p.IsParen ∨ Stops rest) (h : Spaced ps rest) :
      Spaced (p :: ps) (gs ++ (p.text ++ rest))

/-! ### Along the text -/

theorem no_dollar_of_gaps {gs : List Char} (hg : ∀ c ∈ gs, isGap c = true) : '$' ∉ gs :=
  fun h => absurd (hg '$' h) (by decide)

/-- What stops a lexeme still does when its placeholders are filled. -/
theorem Stops.fill {rest : List Char} (h : Stops rest) (texts : List (List Char)) :
    Stops ((Template.parse rest).fill texts) := by
  rcases rest with - | ⟨c, rest⟩
  · rw [Template.parse_nil]
    exact h
  · have hc : c ≠ '$' := by
      rintro rfl
      exact absurd (h '$' rfl) (by decide)
    rw [Template.parse_plain hc, Template.fill_cons]
    exact h

/-- Filling keeps the lexemes of a template. -/
theorem fill_lexeme {l : Lexeme}
    (plain : l.kind = .string → (Template.parse l.text).placeholders = []) {rest : List Char}
    (ends : l.IsParen ∨ Stops rest) (texts : List (List Char)) :
    (Template.parse (l.text ++ rest)).fill texts = l.text ++ (Template.parse rest).fill texts := by
  by_cases hd : '$' ∈ l.text
  -- a dollar sign shows a quoted text, and that has a gap or a parenthesis behind it
  · have quoted : l.kind = .string := by
      by_contra hk
      exact l.no_dollar hk hd
    have stops : Stops rest := by
      refine ends.resolve_left ?_
      rintro (hp | hp) <;> rw [hp] at hd <;> exact absurd hd (by decide)
    rw [Template.fill_parse_append stops.cut, Template.fill_of_no_placeholders (plain quoted),
      plain quoted]
    rfl
  · exact Template.fill_plain hd rest texts

/-- The tokens are those of the parts, with tokens that stand for leaves in the places of
the placeholders. -/
inductive Filled : List Piece → List Tree → List Token → Prop
  | nil {leaves : List Tree} : Filled [] leaves []
  | lexeme {l : Lexeme} {plain} {ps : List Piece} {leaves : List Tree} {us : List Token}
      (h : Filled ps leaves us) : Filled (.lexeme l plain :: ps) leaves (l.token :: us)
  | hole {p : Placeholder} {formed} {ps : List Piece} {tree : Tree} {leaves : List Tree}
      {ts us : List Token} (stand : StandFor ts tree) (h : Filled ps leaves us) :
      Filled (.hole p formed :: ps) (tree :: leaves) (ts ++ us)

/-- **A filled template lexes part by part**: to its own lexemes, and to what stands for
the leaves. -/
theorem filled_lexes {ps : List Piece} {cs : List Char} (hs : Spaced ps cs)
    {texts : List (List Char)} {leaves : List Tree} (spell : List.Forall₂ Spells texts leaves)
    (enough : Piece.holeCount ps ≤ texts.length) :
    ∃ us, Filled ps leaves us ∧ LexesTo ((Template.parse cs).fill texts) us := by
  -- along the parts, from the last to the first; each hole uses up one text and one leaf
  induction hs generalizing texts leaves with
  | @nil gs hg =>
    refine ⟨[], .nil, ?_⟩
    have kept := Template.fill_plain (no_dollar_of_gaps hg) [] texts
    rw [List.append_nil] at kept
    rw [kept, Template.parse_nil]
    exact LexesTo.gaps hg .nil
  | @cons gs p ps rest hg ends hs ih =>
    rw [Template.fill_plain (no_dollar_of_gaps hg)]
    cases p with
    | lexeme l plain =>
      obtain ⟨us, filled, lexes⟩ := ih spell enough
      refine ⟨l.token :: us, .lexeme filled, .gaps hg ?_⟩
      have front : front? (l.text ++ (Template.parse rest).fill texts) =
          some (l.kind, l.text.length) := by
        rcases ends with paren | stops
        · exact Lexeme.IsParen.closed paren _
        · exact l.front?_append (stops.fill texts)
      rw [Piece.text, fill_lexeme plain ends]
      exact l.lexesTo front lexes
    | hole p formed =>
      have stops : Stops rest := ends.resolve_left id
      cases spell with
      | nil => cases enough
      | @cons text tree texts leaves spells spell =>
        obtain ⟨us, filled, lexes⟩ := ih spell (Nat.le_of_succ_le_succ enough)
        obtain ⟨ts, stand, front⟩ := spells
        refine ⟨ts ++ us, .hole stand filled, .gaps hg ?_⟩
        rw [Piece.text, Template.fill_placeholder stops.cut formed]
        exact front _ us (stops.fill texts) lexes

/-! ### Along the tokens -/

/-- **Reading what a template is filled with** gives the tree of the template with its
holes filled. -/
theorem filled_reads {leaves : List Tree} {ps : List Piece} {rest : List Tree} {us : List Token}
    (filled : Filled ps rest us) {i : Nat} (hrest : leaves.drop i = rest) {r : Reading}
    {tree : Tree} (h : r.treeAfter? (Piece.tokens i ps) = some tree) :
    (r.fill leaves).treeAfter? us = some (tree.fill leaves) := by
  -- along the tokens; `i` is the number of the next hole, and `r` what has been read
  induction filled generalizing i r with
  | nil =>
    rw [Piece.tokens, Reading.treeAfter?_nil] at h
    rw [Reading.treeAfter?_nil, Reading.tree?_fill, h]
    rfl
  | @lexeme l plain ps rest us filled ih =>
    rw [Piece.tokens, Reading.treeAfter?_cons, Option.bind_eq_some_iff] at h
    obtain ⟨next, hnext, h⟩ := h
    rw [Reading.treeAfter?_cons, Reading.step?_fill leaves r fun v => l.atom_not_hole, hnext]
    exact ih hrest h
  | @hole p formed ps leaf rest ts us stand filled ih =>
    rw [Piece.tokens, Reading.treeAfter?_cons, Option.bind_eq_some_iff] at h
    obtain ⟨next, hnext, h⟩ := h
    obtain ⟨stack, operand⟩ := r
    rcases operand with - | operand
    · -- the machine with the hole as its operand is the one with the leaf, once filled
      cases hnext
      have here : leaves[i]? = some leaf := by
        rw [← Nat.add_zero i, ← List.getElem?_drop, hrest]
        rfl
      have later : leaves.drop (i + 1) = rest := by
        rw [← List.drop_drop, hrest]
        rfl
      have read := ih later h
      rw [Reading.fill, Option.map_some, Tree.fill_hole leaves here] at read
      exact (stand _ us).trans read
    · -- behind an operand no placeholder can stand
      cases hnext

/-! ### Rendering -/

/-- **Rendering is hygienic.**  If the tokens of a condition template, with its
placeholders as holes, make up a tree, then the template rendered with arguments is read
as that tree with the leaves of the arguments in its holes. -/
theorem render_hygienic {ps : List Piece} {template : String} {tree : Tree} {args : List Value}
    (blank : Blank) (hs : Spaced ps template.toList)
    (ht : Reading.treeAfter? {} (Piece.tokens 0 ps) = some tree)
    (simple : ∀ v ∈ args, Simple v) (enough : Piece.holeCount ps ≤ args.length) :
    ∃ text, render template args blank = .ok text ∧
      parse text = .ok (tree.fill (args.map (leaf blank))) := by
  obtain ⟨texts, hrender, spell⟩ := literals_spell blank simple
  have same : (texts.map String.toList).length = args.length := by
    rw [spell.length_eq, List.length_map]
  -- first along the text, then along its tokens
  obtain ⟨us, filled, lexes⟩ := filled_lexes hs spell (enough.trans_eq same.symm)
  refine ⟨fillPlaceholders template texts, ?_, ?_⟩
  · rw [render, hrender]
  · refine parse_of_lexesTo ?_ (filled_reads filled rfl ht)
    rw [fillPlaceholders, String.toList_ofList]
    exact lexes

/-- The parts of the template `not ($0 * $!n)`. -/
def negatedProduct : List Piece :=
  [.lexeme ⟨['n', 'o', 't'], .notWord, .text "not", by decide, rfl⟩ nofun,
   .lexeme ⟨['('], .leftParen, .text "(", by decide, rfl⟩ nofun,
   .hole (.positional ['0']) ⟨by decide, List.forall_mem_singleton.mpr (by decide)⟩,
   .lexeme ⟨['*'], .arith .mul, .text "*", by decide, rfl⟩ nofun,
   .hole (.named ['n']) ⟨by decide, List.forall_mem_singleton.mpr (by decide)⟩,
   .lexeme ⟨[')'], .rightParen, .text ")", by decide, rfl⟩ nofun]

theorem negatedProduct_spaced : Spaced negatedProduct "not ($0 * $!n)".toList := by
  have text : "not ($0 * $!n)".toList =
      [] ++ (['n', 'o', 't'] ++ ([' '] ++ (['('] ++ ([] ++ (['$', '0'] ++ ([' '] ++ (['*'] ++
        ([' '] ++ (['$', '!', 'n'] ++ ([] ++ ([')'] ++ []))))))))))) := by decide
  have space : ∀ c ∈ [' '], isGap c = true := List.forall_mem_singleton.mpr (by decide)
  rw [text]
  refine .cons nofun (.inr (by decide)) ?_
  refine .cons space (.inl (.inl rfl)) ?_
  refine .cons nofun (.inr (by decide)) ?_
  refine .cons space (.inr (by decide)) ?_
  refine .cons space (.inr (by decide)) ?_
  exact .cons nofun (.inl (.inr rfl)) (.nil nofun)

/-- A text with quotes, an operator, a dollar sign and a backslash, and a negative number,
inside a product. -/
theorem render_negatedProduct :
    Spaced negatedProduct "not ($0 * $!n)".toList ∧
      Reading.treeAfter? {} (Piece.tokens 0 negatedProduct) =
        some (.unary .not (.binary (.arith .mul) (.literal (hole 0)) (.literal (hole 1)))) ∧
      ∃ text, render "not ($0 * $!n)" [.text "' or '1' == $0 \\", .int (-5)] .empty = .ok text ∧
        parse text = .ok (.unary .not (.binary (.arith .mul)
          (.literal (.text "' or '1' == $0 \\")) (.unary .neg (.literal (.int 5))))) := by
  have read : Reading.treeAfter? {} (Piece.tokens 0 negatedProduct) =
      some (.unary .not (.binary (.arith .mul) (.literal (hole 0)) (.literal (hole 1)))) := rfl
  have simple : ∀ v ∈ [Value.text "' or '1' == $0 \\", Value.int (-5)], Simple v := by
    intro v hv
    simp only [List.mem_cons, List.not_mem_nil, or_false] at hv
    rcases hv with rfl | rfl
    · trivial
    · show Text.digitCount 5 ≤ integerLimit
      decide
  exact ⟨negatedProduct_spaced, read,
    render_hygienic .empty negatedProduct_spaced read simple (by decide)⟩

end SqlScript.Condition
