/-
SqlScript/Proofs/Program/RoundTrip.lean

Scripts that are written and read again.

Writing puts each instruction on a line of its own and ends the line with a line
feed.  Reading cuts a text at every line break, and the line feed is only one of ten
characters that are one.  A statement comes back whole exactly if no cut goes through
it, so the condition of the round trip is `Unbroken`: no character that ends a line,
be it a line feed, a form feed or a paragraph separator.

A line that is cut inside its statement is still an instruction, with what stands
before the break as its statement.  Nothing is reported, and what stands behind the
break is read as a line of its own.
-/
import SqlScript.Program.Reader
import Mathlib.Data.List.TakeWhile

namespace SqlScript

namespace Text

/-! ### Lines and line breaks -/

/-- No character ends a line. -/
def Unbroken (cs : List Char) : Prop := ∀ c ∈ cs, isLineBreak c = false

instance (cs : List Char) : Decidable (Unbroken cs) :=
  decidable_of_iff (cs.all (fun c => !isLineBreak c) = true) (by simp [Unbroken])

@[simp] theorem unbroken_nil : Unbroken [] := by
  simp [Unbroken]

@[simp] theorem unbroken_cons {c : Char} {cs : List Char} :
    Unbroken (c :: cs) ↔ isLineBreak c = false ∧ Unbroken cs := by
  simp [Unbroken]

@[simp] theorem unbroken_append {l r : List Char} :
    Unbroken (l ++ r) ↔ Unbroken l ∧ Unbroken r := by
  simp [Unbroken, or_imp, forall_and]

@[simp] theorem isLineBreak_space : isLineBreak ' ' = false := by decide

/-- Line feed and carriage return are line breaks, so a character that is none is
neither. -/
theorem ne_lineEnd {c : Char} (h : isLineBreak c = false) : c ≠ '\n' ∧ c ≠ '\r' := by
  constructor
  · rintro rfl
    exact absurd h (by decide)
  · rintro rfl
    exact absurd h (by decide)

/-- A text with a line break has a first one. -/
theorem exists_first_break {cs : List Char} (h : ¬ Unbroken cs) :
    ∃ l b rest, cs = l ++ b :: rest ∧ Unbroken l ∧ isLineBreak b = true := by
  induction cs with
  | nil => exact absurd unbroken_nil h
  | cons c cs ih =>
    cases hc : isLineBreak c with
    | true => exact ⟨[], c, cs, rfl, unbroken_nil, hc⟩
    | false =>
      have hcs : ¬ Unbroken cs := fun hu => h (unbroken_cons.2 ⟨hc, hu⟩)
      obtain ⟨l, b, rest, rfl, hl, hb⟩ := ih hcs
      exact ⟨c :: l, b, rest, rfl, unbroken_cons.2 ⟨hc, hl⟩, hb⟩

theorem lines_nil : lines [] = [] := rfl

/-- Only a carriage return can make one break with the character behind it. -/
theorem lines_of_ne_return {c : Char} (hc : c ≠ '\r') (cs : List Char) :
    lines (c :: cs) = if isLineBreak c then [] :: lines cs else extendFirst c (lines cs) := by
  rw [lines.eq_def]
  split
  · rename_i heq
    cases heq
  · rename_i heq
    exact absurd (List.cons.inj heq).1 hc
  · rename_i heq
    cases heq
    rfl

theorem lines_cons {c : Char} (hc : isLineBreak c = false) (cs : List Char) :
    lines (c :: cs) = extendFirst c (lines cs) := by
  simp [lines_of_ne_return (ne_lineEnd hc).2, hc]

theorem lines_newline (cs : List Char) : lines ('\n' :: cs) = [] :: lines cs :=
  lines_of_ne_return (by decide) cs

/-- A line break ends an empty line. -/
theorem exists_lines_break {b : Char} (hb : isLineBreak b = true) (cs : List Char) :
    ∃ rest, lines (b :: cs) = [] :: lines rest := by
  rw [lines.eq_def]
  split
  · rename_i heq
    cases heq
  · rename_i rest _
    exact ⟨rest, rfl⟩
  · rename_i heq
    cases heq
    exact ⟨cs, by rw [if_pos hb]⟩

/-- What stands before the first line break extends the first line. -/
theorem lines_append {l : List Char} (hl : Unbroken l) (cs : List Char) :
    lines (l ++ cs) = l.foldr extendFirst (lines cs) := by
  induction l with
  | nil => rfl
  | cons c l ih =>
    obtain ⟨hc, hl⟩ := unbroken_cons.1 hl
    rw [List.cons_append, lines_cons hc, ih hl]
    rfl

theorem foldr_extendFirst (l line : List Char) (rest : List (List Char)) :
    l.foldr extendFirst (line :: rest) = (l ++ line) :: rest := by
  induction l with
  | nil => rfl
  | cons c l ih => rw [List.foldr_cons, ih, extendFirst, List.cons_append]

/-- A text without line breaks is one line. -/
theorem lines_unbroken {c : Char} {l : List Char} (h : Unbroken (c :: l)) :
    lines (c :: l) = [c :: l] := by
  induction l generalizing c with
  | nil =>
    rw [lines_cons (unbroken_cons.1 h).1]
    rfl
  | cons d l ih =>
    obtain ⟨hc, h⟩ := unbroken_cons.1 h
    rw [lines_cons hc, ih h]
    rfl

/-- The first line of a text ends at its first line break. -/
theorem exists_lines_append_break {l : List Char} (hl : Unbroken l) {b : Char}
    (hb : isLineBreak b = true) (cs : List Char) :
    ∃ rest, lines (l ++ b :: cs) = l :: lines rest := by
  obtain ⟨rest, hrest⟩ := exists_lines_break hb cs
  exact ⟨rest, by rw [lines_append hl, hrest, foldr_extendFirst, List.append_nil]⟩

theorem lines_append_newline {l : List Char} (hl : Unbroken l) (cs : List Char) :
    lines (l ++ '\n' :: cs) = l :: lines cs := by
  rw [lines_append hl, lines_newline, foldr_extendFirst, List.append_nil]

theorem unbroken_extendFirst {c : Char} (hc : isLineBreak c = false) {ls : List (List Char)}
    (h : ∀ line ∈ ls, Unbroken line) : ∀ line ∈ extendFirst c ls, Unbroken line := by
  cases ls with
  | nil => simpa [extendFirst] using hc
  | cons first rest =>
    obtain ⟨hfirst, hrest⟩ := List.forall_mem_cons.1 h
    exact List.forall_mem_cons.2 ⟨unbroken_cons.2 ⟨hc, hfirst⟩, hrest⟩

/-- No line has a line break in it. -/
theorem unbroken_of_mem_lines (cs : List Char) : ∀ line ∈ lines cs, Unbroken line := by
  fun_induction lines cs with
  | case1 => simp
  | case2 cs ih => exact List.forall_mem_cons.2 ⟨unbroken_nil, ih⟩
  | case3 c cs _ _ ih => exact List.forall_mem_cons.2 ⟨unbroken_nil, ih⟩
  | case4 c cs _ hc ih => exact unbroken_extendFirst (by simpa using hc) ih

/-- A line has no line end to be dropped. -/
theorem dropLineEnd_unbroken {cs : List Char} (h : Unbroken cs) : dropLineEnd cs = cs := by
  have hkeep : cs.reverse.dropWhile (fun c => c = '\n' || c = '\r') = cs.reverse := by
    cases hr : cs.reverse with
    | nil => rfl
    | cons c rest =>
      have hc : c ∈ cs := List.mem_reverse.1 (by rw [hr]; exact List.mem_cons_self)
      have := ne_lineEnd (h c hc)
      simp [this]
  rw [dropLineEnd, hkeep, List.reverse_reverse]

end Text

open Text

namespace Program

/-! ### Lines that are written -/

theorem afterMarker?_append (marker cs : List Char) :
    afterMarker? marker (marker ++ cs) = some cs := by
  induction marker with
  | nil => rfl
  | cons m ms ih => simpa [afterMarker?] using ih

/-- What the marker is found in has every character of the marker. -/
theorem unbroken_of_afterMarker? {marker cs rest : List Char}
    (h : afterMarker? marker cs = some rest) (hcs : Unbroken cs) : Unbroken marker := by
  induction marker generalizing cs with
  | nil => exact unbroken_nil
  | cons m ms ih =>
    cases cs with
    | nil => cases h
    | cons c cs =>
      rw [afterMarker?] at h
      split at h
      case isTrue heq =>
        obtain ⟨hc, hcs⟩ := unbroken_cons.1 hcs
        exact unbroken_cons.2 ⟨heq ▸ hc, ih h hcs⟩
      case isFalse => cases h

theorem afterBlank?_space (cs : List Char) : afterBlank? (' ' :: cs) = some cs := by
  simp [afterBlank?, isBlank_space]

theorem isWord_keyword (c : Command) : ∀ x ∈ c.keyword.toList, isWord x = true := by
  have hall : c.keyword.toList.all isWord = true := by
    cases c <;> decide
  exact List.all_eq_true.mp hall

theorem keyword_ne_nil (c : Command) : c.keyword.toList ≠ [] := by
  cases c <;> decide

theorem unbroken_keyword (c : Command) : Unbroken c.keyword.toList := by
  cases c <;> decide

/-- The line of an instruction is broken nowhere but in its marker and statement. -/
theorem unbroken_printLine {marker : List Char} {i : Instruction} :
    Unbroken (printLine marker i) ↔ Unbroken marker ∧ Unbroken i.statement.toList := by
  simp [printLine, unbroken_keyword]

/-- The keyword of a line that is written ends at the blank behind it. -/
theorem span_keyword (c : Command) (rest : List Char) :
    (c.keyword.toList ++ ' ' :: rest).takeWhile isWord = c.keyword.toList ∧
      (c.keyword.toList ++ ' ' :: rest).dropWhile isWord = ' ' :: rest := by
  have hspace : isWord ' ' = false := by decide
  constructor
  · rw [List.takeWhile_append_of_pos (isWord_keyword c),
      List.takeWhile_cons_of_neg (by simp [hspace]), List.append_nil]
  · rw [List.dropWhile_append_of_pos (isWord_keyword c),
      List.dropWhile_cons_of_neg (by simp [hspace])]

/-- The line of an instruction has its keyword and its statement. -/
theorem lineParts?_printLine {marker : List Char} {i : Instruction}
    (hmarker : Unbroken marker) (hi : Unbroken i.statement.toList) :
    lineParts? marker (printLine marker i)
      = some (i.command.keyword.toList, i.statement.toList) := by
  obtain ⟨htake, hdrop⟩ := span_keyword i.command i.statement.toList
  have hall : i.statement.toList.takeWhile (· ≠ '\n') = i.statement.toList :=
    List.takeWhile_eq_self_iff.2 fun c hc => by simpa using (ne_lineEnd (hi c hc)).1
  rw [lineParts?, dropLineEnd_unbroken (unbroken_printLine.2 ⟨hmarker, hi⟩), printLine,
    afterMarker?_append]
  simp only [Option.bind_eq_bind, Option.bind_some, afterBlank?_space, htake, hdrop, hall,
    List.isEmpty_iff, keyword_ne_nil, if_false]

/-- The line of an instruction is read as that instruction. -/
theorem readLine_printLine {marker : List Char} {i : Instruction}
    (hmarker : Unbroken marker) (hi : Unbroken i.statement.toList) (number : Option Int) :
    readLine marker (printLine marker i) number = .instruction { i with line := number } := by
  rw [readLine, lineParts?_printLine hmarker hi]
  simp only [String.ofList_toList, Command.ofKeyword?_keyword]

/-! ### Scripts that are written -/

/-- The instructions among some lines. -/
def instructionsFrom (marker : List Char) (number : Int) (ls : List (List Char)) :
    List Instruction :=
  (readLines marker number ls).filterMap fun r => r.2.toInstruction?

/-- Instructions with the lines that they have when they stand one a line. -/
def numberedFrom : Int → List Instruction → List Instruction
  | _, [] => []
  | number, i :: rest => { i with line := some number } :: numberedFrom (number + 1) rest

theorem instructionsFrom_cons {marker : List Char} {i : Instruction}
    (hmarker : Unbroken marker) (hi : Unbroken i.statement.toList) (number : Int)
    (ls : List (List Char)) :
    instructionsFrom marker number (printLine marker i :: ls)
      = { i with line := some number } :: instructionsFrom marker (number + 1) ls := by
  rw [instructionsFrom, readLines, List.filterMap_cons, readLine_printLine hmarker hi]
  rfl

/-- A marker with a line break in it stands at the front of no line. -/
theorem instructionsFrom_of_broken {marker : List Char} (hmarker : ¬ Unbroken marker)
    (number : Int) {ls : List (List Char)} (hls : ∀ line ∈ ls, Unbroken line) :
    instructionsFrom marker number ls = [] := by
  induction ls generalizing number with
  | nil => rfl
  | cons line rest ih =>
    obtain ⟨hline, hrest⟩ := List.forall_mem_cons.1 hls
    have hnone : afterMarker? marker (dropLineEnd line) = none := by
      rw [dropLineEnd_unbroken hline, Option.eq_none_iff_forall_ne_some]
      intro rest h
      exact hmarker (unbroken_of_afterMarker? h hline)
    have hfree : readLine marker line (some number) = .free := by
      simp [readLine, lineParts?, hnone]
    rw [instructionsFrom, readLines, List.filterMap_cons, hfree]
    exact ih (number + 1) hrest

theorem printLines_cons_cons (marker : List Char) (i j : Instruction) (rest : List Instruction) :
    printLines marker (i :: j :: rest)
      = printLine marker i ++ '\n' :: printLines marker (j :: rest) := by
  simp [printLines, List.intercalate]

/-- An instruction whose statement has a line break is read as the one that ends
there, whatever follows. -/
theorem exists_instructionsFrom_cut {marker : List Char} {i : Instruction}
    (hmarker : Unbroken marker) (hi : ¬ Unbroken i.statement.toList) (number : Int)
    (cs : List Char) :
    ∃ statement rest, statement ≠ i.statement ∧
      instructionsFrom marker number (lines (printLine marker i ++ cs))
        = { i with statement, line := some number } :: rest := by
  obtain ⟨l, b, r, heq, hl, hb⟩ := exists_first_break hi
  have hcut : printLine marker i ++ cs
      = printLine marker { i with statement := String.ofList l } ++ b :: (r ++ cs) := by
    simp [printLine, heq]
  have hline : Unbroken (printLine marker { i with statement := String.ofList l }) :=
    unbroken_printLine.2 ⟨hmarker, by simpa using hl⟩
  obtain ⟨rest, hrest⟩ := exists_lines_append_break hline hb (r ++ cs)
  refine ⟨String.ofList l, instructionsFrom marker (number + 1) (lines rest), ?_, ?_⟩
  · intro hsame
    have := congrArg (List.length ∘ String.toList) hsame
    simp [heq] at this
  · rw [hcut, hrest, instructionsFrom_cons hmarker (by simpa using hl)]

/-- The instructions that are read are those that were written, provided that no
statement is cut. -/
theorem instructionsFrom_printLines_iff {marker : List Char} (hmarker : Unbroken marker)
    (number : Int) (is : List Instruction) :
    instructionsFrom marker number (lines (printLines marker is)) = numberedFrom number is
      ↔ ∀ i ∈ is, Unbroken i.statement.toList := by
  -- the first statement with a line break is the first that comes back changed
  induction is generalizing number with
  | nil => simp [printLines, lines_nil, instructionsFrom, readLines, numberedFrom]
  | cons i rest ih =>
    by_cases hi : Unbroken i.statement.toList
    · have hline : Unbroken (printLine marker i) := unbroken_printLine.2 ⟨hmarker, hi⟩
      rw [List.forall_mem_cons]
      cases rest with
      | nil =>
        obtain ⟨c, l, hcl⟩ : ∃ c l, printLine marker i = c :: l := by
          cases marker with
          | nil => exact ⟨_, _, rfl⟩
          | cons m ms => exact ⟨_, _, rfl⟩
        have hone : lines (printLines marker [i]) = [printLine marker i] := by
          rw [show printLines marker [i] = printLine marker i by simp [printLines], hcl]
          exact lines_unbroken (hcl ▸ hline)
        rw [hone, instructionsFrom_cons hmarker hi]
        simp [numberedFrom, instructionsFrom, readLines, hi]
      | cons j rest =>
        rw [printLines_cons_cons, lines_append_newline hline, instructionsFrom_cons hmarker hi,
          numberedFrom, List.cons_inj_right, ih]
        exact (and_iff_right hi).symm
    · have hfalse : ¬ ∀ j ∈ i :: rest, Unbroken j.statement.toList :=
        fun h => hi (h i List.mem_cons_self)
      have htext : ∃ cs, printLines marker (i :: rest) = printLine marker i ++ cs := by
        cases rest with
        | nil => exact ⟨[], by simp [printLines]⟩
        | cons j rest => exact ⟨_, printLines_cons_cons marker i j rest⟩
      obtain ⟨cs, hcs⟩ := htext
      obtain ⟨statement, read, hne, hread⟩ := exists_instructionsFrom_cut hmarker hi number cs
      rw [hcs, hread, numberedFrom]
      refine iff_of_false ?_ hfalse
      intro heq
      exact hne (congrArg Instruction.statement (List.cons.inj heq).1)

/-- **Which scripts survive being written and read.**  Instructions that are written
one a line under some marker come back as they were, numbered from one on, exactly if
there are none, or neither the marker nor any statement has a line break of any kind
in it. -/
theorem parse_printLines_iff (marker source : String) (is : List Instruction) :
    (parse marker (String.ofList (printLines marker.toList is)) source).instructions
        = numberedFrom 1 is
      ↔ is = [] ∨ Unbroken marker.toList ∧ ∀ i ∈ is, Unbroken i.statement.toList := by
  have hparse : (parse marker (String.ofList (printLines marker.toList is)) source).instructions
      = instructionsFrom marker.toList 1 (lines (printLines marker.toList is)) := by
    rw [parse, readings, String.toList_ofList, instructionsFrom]
  rw [hparse]
  by_cases hmarker : Unbroken marker.toList
  · rw [instructionsFrom_printLines_iff hmarker, and_iff_right hmarker, iff_or_self]
    rintro rfl
    simp
  · rw [instructionsFrom_of_broken hmarker 1 (unbroken_of_mem_lines _)]
    cases is with
    | nil => simp [numberedFrom]
    | cons i rest => simp [numberedFrom, hmarker]

/-- A form feed has neither line feed nor carriage return in it, and still cuts a
statement: the second half of the text is gone. -/
theorem formFeed_cuts_statement :
    '\n' ∉ "insert into t values ('a\x0cb')".toList ∧
    '\r' ∉ "insert into t values ('a\x0cb')".toList ∧
    (parse "!" (String.ofList (printLines "!".toList
        [⟨.execute, "insert into t values ('a\x0cb')", none⟩])) "main").instructions
      = [⟨.execute, "insert into t values ('a", some 1⟩] := by
  refine ⟨by decide, by decide, by decide⟩

end Program

end SqlScript
