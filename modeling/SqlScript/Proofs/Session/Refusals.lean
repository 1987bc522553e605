/-
SqlScript/Proofs/Session/Refusals.lean

What a refused program leaves behind.

A program comes to a machine in four ways: it is loaded from a source, loaded from a text, put
together from single commands, or handed over to be run.  Each of them can be *refused*
(`Refused`).  Loading and running look at the new program before they put it in the place of the
old one, so that a refusal leaves everything as it was.  Adding a command to a machine without a
program starts an empty program first, and looks at the command then; if the command is refused,
the empty program stays (`refused_command_starts_program`).

The main result says that there is no other exception: a refused operation leaves the program,
the captures and the state of the last run exactly as they were unless it is a command and there
was no program (`refused_all_or_nothing`).
-/
import SqlScript.Proofs.Session.History

namespace SqlScript

/-- Whether an operation adds a single command. -/
def Operation.isCommand : Operation → Bool
  | .command .. => true
  | _ => false

namespace Machine

variable {σ : Type} {setup : Setup σ} {m : Machine} {w : World σ} {op : Operation}

/-- An operation is refused: it fails to load a program, to add a command to one, or to run a
program that breaks the rule of programs. -/
inductive Refused (setup : Setup σ) (m : Machine) (w : World σ) : Operation → Prop
  | load {name : String} {origin : Option CallSite} {f : Failure} :
      (load setup name origin m w).outcome = .failed f → Refused setup m w (.load name origin)
  | loadText {text source : String} {origin : Option CallSite} {f : Failure} :
      (loadText setup text source origin m w).outcome = .failed f →
      Refused setup m w (.loadText text source origin)
  | command {keyword statement : String} {e : ProcedureError} :
      (command keyword statement m).1 = .error e → Refused setup m w (.command keyword statement)
  | run {fuel : Nat} {p : Program} {args : List Value} {custom : Bindings}
      {origin : Option CallSite} {e : ProcedureError} :
      p.error? = some e →
      (run setup fuel (some p) args custom origin m w).outcome = .failed (.error e) →
      Refused setup m w (.run fuel (some p) args custom origin)

/-- Machines with the same program, or none, the same captures and the same state. -/
structure Unchanged (m m' : Machine) : Prop where
  program : m'.program = m.program
  captures : m'.captures = m.captures
  state : m'.state = m.state

/-- A machine after a command was refused. -/
def withAnyProgram (m : Machine) : Machine :=
  { m with program := some (m.program.getD commandProgram) }

/-! ### One way after the other -/

theorem adopt_failed {read : Except Failure Program × World σ} {origin : Option CallSite}
    {f : Failure} (h : (m.adopt origin read).outcome = .failed f) :
    (m.adopt origin read).machine = m := by
  obtain ⟨g | p, w'⟩ := read
  · rfl
  · cases h

/-- Only the call site is kept of a script that could not be loaded. -/
theorem load_failed {name : String} {origin : Option CallSite} {f : Failure}
    (h : (load setup name origin m w).outcome = .failed f) :
    (load setup name origin m w).machine = { m with origin := origin <|> m.origin } :=
  adopt_failed h

theorem loadText_failed {text source : String} {origin : Option CallSite} {f : Failure}
    (h : (loadText setup text source origin m w).outcome = .failed f) :
    (loadText setup text source origin m w).machine = m :=
  adopt_failed h

theorem command_failed {keyword statement : String} {e : ProcedureError}
    (h : (command keyword statement m).1 = .error e) :
    (command keyword statement m).2 = m.withAnyProgram := by
  simp only [command] at h ⊢
  rcases hc : Command.ofKeyword? keyword with - | c
  · rfl
  · simp only [hc] at h ⊢
    rcases he : Instruction.error? ⟨c, statement, none⟩ (m.program.getD commandProgram).size
      (m.program.getD commandProgram).source with - | e
    · simp [he] at h
    · rfl

theorem run_refused {p : Program} {e : ProcedureError} (h : p.error? = some e) (fuel : Nat)
    (args : List Value) (custom : Bindings) (origin : Option CallSite) :
    run setup fuel (some p) args custom origin m w = ⟨.failed (.error e), m, w⟩ := by
  rw [run, h]

/-! ### All of them -/

/-- The machine after a refused operation, up to its call site. -/
theorem Refused.operate_eq (h : Refused setup m w op) :
    ∃ origin, (operate setup m w op).1
      = { (if op.isCommand then m.withAnyProgram else m) with origin := origin } := by
  cases h with
  | load hf => exact ⟨_, load_failed hf⟩
  | loadText hf => exact ⟨m.origin, loadText_failed hf⟩
  | command hf => exact ⟨m.origin, command_failed hf⟩
  | run he _ => exact ⟨m.origin, congrArg Result.machine (run_refused he _ _ _ _)⟩

/-- **Loading is all or nothing, except for the first command.**  A refused operation leaves the
captures and the state of the last run as they were.  It leaves the program as it was too, or
absent as it was, exactly if it is not a command or there was a program; a refused command
without a program leaves an empty one. -/
theorem refused_all_or_nothing (setup : Setup σ) (m : Machine) (w : World σ) (op : Operation)
    (h : Refused setup m w op) :
    let after := (operate setup m w op).1
    after.captures = m.captures ∧ after.state = m.state ∧
      (Unchanged m after ↔ op.isCommand = false ∨ m.program ≠ none) ∧
      (op.isCommand = true → m.program = none → after.program = some commandProgram) := by
  intro after
  obtain ⟨origin, hafter⟩ : ∃ origin, after = _ := h.operate_eq
  rcases hc : op.isCommand with - | -
  · -- no command: everything is as it was
    have hsame : after = { m with origin := origin } := by simpa [hc] using hafter
    rw [hsame]
    exact ⟨rfl, rfl, iff_of_true ⟨rfl, rfl, rfl⟩ (.inl rfl), nofun⟩
  · have hsome : after = { m.withAnyProgram with origin := origin } := by simpa [hc] using hafter
    rw [hsome]
    refine ⟨rfl, rfl, ?_, ?_⟩
    · constructor
      · intro hunchanged
        refine .inr ?_
        rw [← hunchanged.program]
        exact nofun
      · rintro (hno | hp)
        · cases hno
        · obtain ⟨p, hp⟩ := Option.ne_none_iff_exists'.mp hp
          exact ⟨by simp [withAnyProgram, hp], rfl, rfl⟩
    · rintro - hp
      simp [withAnyProgram, hp]

/-- A command that is not a select is refused by a machine that has a program and captures. -/
theorem refused_command_keeps_program :
    let m : Machine :=
      { program := some { source := "main", instructions := [⟨.execute, "select 1", some 1⟩] }
        captures := [[]]
        state := { cursor := 1, gate := .skip } }
    let w : World Rehearsal := { database := .ofRules [] }
    Refused interrupted m w (.command "capture" "update t") ∧
      Unchanged m (operate interrupted m w (.command "capture" "update t")).1 := by
  intro m w
  have hrefused : Refused interrupted m w (.command "capture" "update t") := .command rfl
  obtain ⟨-, -, hunchanged, -⟩ := refused_all_or_nothing interrupted m w _ hrefused
  exact ⟨hrefused, hunchanged.mpr (.inr nofun)⟩

/-- A new machine has no program, and after a keyword that is no command it has one. -/
theorem refused_command_starts_program :
    let m : Machine := {}
    let w : World Rehearsal := { database := .ofRules [] }
    Refused interrupted m w (.command "remove" "offers") ∧
      m.program = none ∧
      (operate interrupted m w (.command "remove" "offers")).1.program = some commandProgram := by
  intro m w
  exact ⟨.command rfl, rfl, rfl⟩

end Machine

end SqlScript
