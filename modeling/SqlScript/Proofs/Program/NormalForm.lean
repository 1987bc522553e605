/-
SqlScript/Proofs/Program/NormalForm.lean

The normal form of a script: its instructions, one a line.

A program is read line by line, and what a line is depends on nothing but the line
(`parse_alone_iff`).  So the instructions of a script are those of its lines, in their order
(`mem_instructionsFrom`, `instructionsFrom_increasing`).

A statement is part of a line, so no line break is in it (`unbroken_statement`).  That is what a
script needs to survive being written and read again: printing what has been read, and reading
it, gives the same instructions, numbered from one on (`parse_normal_form`).
-/
import SqlScript.Proofs.Program.RoundTrip

namespace SqlScript

open Text

namespace Program

/-! ### The parts of a line -/

theorem afterMarker?_suffix {marker cs rest : List Char}
    (h : afterMarker? marker cs = some rest) : rest <:+ cs := by
  induction marker generalizing cs with
  | nil =>
    cases h
    exact List.suffix_rfl
  | cons m ms ih =>
    rcases cs with - | ⟨c, cs⟩
    · cases h
    rw [afterMarker?] at h
    split at h
    · exact (ih h).trans (List.suffix_cons c cs)
    · cases h

theorem afterBlank?_suffix {cs rest : List Char} (h : afterBlank? cs = some rest) :
    rest <:+ cs := by
  rcases cs with - | ⟨c, cs⟩
  · cases h
  rw [afterBlank?] at h
  split at h
  · cases h
    exact List.suffix_cons _ _
  · cases h

/-- The statement of a line is part of the line. -/
theorem lineParts?_subset {marker line keyword statement : List Char} (hline : Unbroken line)
    (h : lineParts? marker line = some (keyword, statement)) : statement ⊆ line := by
  rw [lineParts?, dropLineEnd_unbroken hline] at h
  simp only [Option.bind_eq_bind, Option.bind_eq_some_iff] at h
  obtain ⟨behind, hmarker, rest, hblank, h⟩ := h
  split at h
  · cases h
  rw [Option.bind_eq_some_iff] at h
  obtain ⟨last, hlast, h⟩ := h
  cases h
  calc last.takeWhile (· ≠ '\n')
      ⊆ last := (List.takeWhile_sublist _).subset
    _ ⊆ rest.dropWhile isWord := (afterBlank?_suffix hlast).subset
    _ ⊆ rest := (List.dropWhile_sublist _).subset
    _ ⊆ behind := (afterBlank?_suffix hblank).subset
    _ ⊆ line := (afterMarker?_suffix hmarker).subset

/-- A line is an instruction if it has a known keyword. -/
theorem readLine_eq_instruction_iff {marker line : List Char} {number : Option Int}
    {i : Instruction} :
    readLine marker line number = .instruction i ↔
      ∃ keyword statement, lineParts? marker line = some (keyword, statement) ∧
        Command.ofKeyword? (String.ofList keyword) = some i.command ∧
        i.statement = String.ofList statement ∧ i.line = number := by
  rw [readLine]
  constructor
  · intro h
    split at h
    · cases h
    next keyword statement parts =>
    split at h
    · cases h
    next command known =>
    cases h
    exact ⟨keyword, statement, parts, known, rfl, rfl⟩
  · rintro ⟨keyword, statement, parts, known, text, rfl⟩
    obtain ⟨command, _, line⟩ := i
    obtain rfl := text
    simp only [parts, known]

theorem unbroken_statement {marker line : List Char} {number : Option Int} {i : Instruction}
    (hline : Unbroken line) (h : readLine marker line number = .instruction i) :
    Unbroken i.statement.toList := by
  obtain ⟨keyword, statement, parts, -, text, -⟩ := readLine_eq_instruction_iff.mp h
  rw [text, String.toList_ofList]
  exact fun c hc => hline c (lineParts?_subset hline parts hc)

/-- The number of a line does not matter to what it is. -/
theorem readLine_renumbered {marker line : List Char} {number : Option Int} {i : Instruction}
    (h : readLine marker line number = .instruction i) (other : Option Int) :
    readLine marker line other = .instruction { i with line := other } := by
  obtain ⟨keyword, statement, parts, known, text, -⟩ := readLine_eq_instruction_iff.mp h
  exact readLine_eq_instruction_iff.mpr ⟨keyword, statement, parts, known, text, rfl⟩

/-! ### The lines of instructions -/

theorem toInstruction?_eq_some {reading : LineReading} {i : Instruction} :
    reading.toInstruction? = some i ↔ reading = .instruction i := by
  cases reading <;> simp [LineReading.toInstruction?]

theorem instructionsFrom_line (marker line : List Char) (number : Int) (ls : List (List Char)) :
    instructionsFrom marker number (line :: ls) =
      (readLine marker line (some number)).toInstruction?.toList ++
        instructionsFrom marker (number + 1) ls := by
  rw [instructionsFrom, readLines, List.filterMap_cons]
  cases readLine marker line (some number) <;> rfl

/-- **The instructions of some lines** are those of each line, with its number. -/
theorem mem_instructionsFrom {marker : List Char} {number : Int} {ls : List (List Char)}
    {i : Instruction} :
    i ∈ instructionsFrom marker number ls ↔
      ∃ (n : Nat) (line : List Char), ls[n]? = some line ∧ i.line = some (number + n) ∧
        readLine marker line i.line = .instruction i := by
  induction ls generalizing number with
  | nil => simp [instructionsFrom, readLines]
  | cons first ls ih =>
    have next (n : Nat) : number + 1 + n = number + (n + 1 : Nat) := by omega
    rw [instructionsFrom_line, List.mem_append, Option.mem_toList,
      toInstruction?_eq_some, ih]
    constructor
    · rintro (h | ⟨n, line, hline, hnumber, h⟩)
      · obtain ⟨-, -, -, -, -, hnumber⟩ := readLine_eq_instruction_iff.mp h
        exact ⟨0, first, rfl, by simpa using hnumber, by rwa [hnumber]⟩
      · refine ⟨n + 1, line, hline, ?_, h⟩
        rw [hnumber, next]
    · rintro ⟨n, line, hline, hnumber, h⟩
      rcases n with - | n
      · cases hline
        rw [hnumber] at h
        exact .inl (by simpa using h)
      · refine .inr ⟨n, line, hline, ?_, h⟩
        rw [hnumber, next]

/-- Two instructions with lines, the first one above the second one. -/
def Above (i j : Instruction) : Prop := ∃ m n, i.line = some m ∧ j.line = some n ∧ m < n

theorem instructionsFrom_increasing (marker : List Char) (number : Int)
    (ls : List (List Char)) : (instructionsFrom marker number ls).Pairwise Above := by
  induction ls generalizing number with
  | nil => exact .nil
  | cons first ls ih =>
    rw [instructionsFrom_line, List.pairwise_append]
    refine ⟨?_, ih (number + 1), ?_⟩
    · rcases (readLine marker first (some number)).toInstruction? with - | i
      · exact .nil
      · exact List.pairwise_singleton _ i
    -- the lines behind have greater numbers
    · intro i hi j hj
      rw [Option.mem_toList, toInstruction?_eq_some] at hi
      obtain ⟨-, -, -, -, -, hnumber⟩ := readLine_eq_instruction_iff.mp hi
      obtain ⟨n, line, -, below, -⟩ := mem_instructionsFrom.mp hj
      exact ⟨number, number + 1 + n, hnumber, below, by omega⟩

theorem instructions_parse (marker text source : String) :
    (parse marker text source).instructions =
      instructionsFrom marker.toList 1 (lines text.toList) := by
  rw [parse, readings, instructionsFrom]

/-! ### Scripts -/

/-- A line alone is the program of its instruction, if it is one. -/
theorem parse_alone_iff {marker source : String} {line : List Char} (hline : Unbroken line)
    {i : Instruction} :
    (parse marker (String.ofList line) source).instructions = [{ i with line := some 1 }] ↔
      readLine marker.toList line i.line = .instruction i := by
  rw [instructions_parse, String.toList_ofList]
  rcases line with - | ⟨c, cs⟩
  -- no instruction is empty
  · refine iff_of_false (by simp [lines_nil, instructionsFrom, readLines]) ?_
    intro h
    obtain ⟨keyword, statement, parts, -⟩ := readLine_eq_instruction_iff.mp h
    cases hm : marker.toList <;>
      simp [hm, lineParts?, dropLineEnd, afterMarker?, afterBlank?] at parts
  have one : instructionsFrom marker.toList 1 (lines (c :: cs)) =
      (readLine marker.toList (c :: cs) (some 1)).toInstruction?.toList := by
    rw [lines_unbroken hline, instructionsFrom_line]
    exact List.append_nil _
  rw [one]
  constructor
  · intro h
    have read : readLine marker.toList (c :: cs) (some 1) =
        .instruction { i with line := some 1 } := by
      rw [← toInstruction?_eq_some, ← Option.mem_toList, h]
      exact List.mem_singleton_self _
    exact readLine_renumbered read i.line
  · intro h
    rw [readLine_renumbered h (some 1)]
    rfl

/-- **Instructions, one a line, are a normal form of scripts.**  A script that is printed from
its instructions has the same instructions, numbered from one on.  The lines of instructions
increase, and the instructions are those that some line of the script is, read alone.  A line
alone is the program of an instruction exactly if the marker, the keyword and the statement of
that instruction are the parts of the line. -/
theorem parse_normal_form (marker text source : String) :
    (parse marker
        (String.ofList (printLines marker.toList (parse marker text source).instructions))
        source).instructions =
      numberedFrom 1 (parse marker text source).instructions ∧
    (parse marker text source).instructions.Pairwise Above ∧
    (∀ i, i ∈ (parse marker text source).instructions ↔
      ∃ (n : Nat) (line : List Char), (lines text.toList)[n]? = some line ∧
        i.line = some (1 + n : Int) ∧
        (parse marker (String.ofList line) source).instructions = [{ i with line := some 1 }]) ∧
    ∀ line ∈ lines text.toList, ∀ i : Instruction,
      (parse marker (String.ofList line) source).instructions = [{ i with line := some 1 }] ↔
      ∃ keyword statement, lineParts? marker.toList line = some (keyword, statement) ∧
        Command.ofKeyword? (String.ofList keyword) = some i.command ∧
        i.statement = String.ofList statement := by
  have unbroken := unbroken_of_mem_lines text.toList
  refine ⟨?_, ?_, ?_, ?_⟩
  · rw [instructions_parse marker (String.ofList _), String.toList_ofList, instructions_parse]
    by_cases hmarker : Unbroken marker.toList
    · rw [instructionsFrom_printLines_iff hmarker]
      intro i hi
      obtain ⟨n, line, hline, -, h⟩ := mem_instructionsFrom.mp hi
      exact unbroken_statement (unbroken line (List.mem_of_getElem? hline)) h
    -- nothing is an instruction under a marker with a line break
    · rw [instructionsFrom_of_broken hmarker 1 unbroken]
      rfl
  · rw [instructions_parse]
    exact instructionsFrom_increasing _ _ _
  · intro i
    rw [instructions_parse, mem_instructionsFrom]
    constructor
    · rintro ⟨n, line, hline, hnumber, h⟩
      have hu := unbroken line (List.mem_of_getElem? hline)
      exact ⟨n, line, hline, hnumber, (parse_alone_iff hu).mpr h⟩
    · rintro ⟨n, line, hline, hnumber, h⟩
      have hu := unbroken line (List.mem_of_getElem? hline)
      exact ⟨n, line, hline, hnumber, (parse_alone_iff hu).mp h⟩
  · intro line hline i
    rw [parse_alone_iff (unbroken line hline), readLine_eq_instruction_iff]
    simp only [and_true]

/-- The third line of a script, read alone, is a setting, and so the script has this setting in
its third line. -/
theorem setting_parses_alone :
    let text := "! execute delete from t\nfree text\n! setting null\n! remove t"
    let setting : Instruction := ⟨.setting, "null", some 3⟩
    "! setting null".toList ∈ lines text.toList ∧
      (parse "!" "! setting null" "main").instructions = [{ setting with line := some 1 }] ∧
      setting ∈ (parse "!" text "main").instructions := by
  intro text setting
  have third : (lines text.toList)[2]? = some "! setting null".toList := by decide
  have hline := List.mem_of_getElem? third
  obtain ⟨-, -, members, parts⟩ := parse_normal_form "!" text "main"
  have alone := (parts _ hline setting).mpr
    ⟨"setting".toList, "null".toList, by decide, by decide, rfl⟩
  exact ⟨hline, alone, (members setting).mpr ⟨2, _, third, rfl, alone⟩⟩

end Program

end SqlScript
