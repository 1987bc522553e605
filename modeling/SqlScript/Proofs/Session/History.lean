/-
SqlScript/Proofs/Session/History.lean

Runs do not depend on what happened before.

A machine is used by one operation after the other, and any of them may fail midway,
deep inside calls and includes.  Between operations a machine is *settled* all the same:
no call or include is under way, and its program, if it has one, keeps the rule of
programs.  So a run starts from nothing but the program and the parameters, and it goes
as it would on a new machine (`run_after_history`).  What the past leaves behind is the
older captures and the call site.

A program that is handed over to be run and breaks the rule is refused before the run
starts; then the state of the last run stays (`refused_run_keeps_state`).
-/
import SqlScript.Client.Rehearsal
import SqlScript.Client.Style
import SqlScript.Proofs.Engine.Lockstep
import SqlScript.Proofs.Engine.Trace
import SqlScript.Session

namespace SqlScript

/-! ### Operations -/

/-- An operation of a machine. -/
inductive Operation where
  | load (name : String) (origin : Option CallSite)
  | loadText (text source : String) (origin : Option CallSite)
  | command (keyword statement : String)
  | run (fuel : Nat) (program : Option Program) (args : List Value) (custom : Bindings)
      (origin : Option CallSite)
  | runAt (fuel : Nat) (index : Int) (args : List Value) (custom : Bindings)
  | clearCaptures
  | reset

namespace Machine

variable {σ : Type}

/-- The machine and the world after an operation, however it ended. -/
def operate (setup : Setup σ) (m : Machine) (w : World σ) : Operation → Machine × World σ
  | .load name origin =>
    let ended := load setup name origin m w
    (ended.machine, ended.world)
  | .loadText text source origin =>
    let ended := loadText setup text source origin m w
    (ended.machine, ended.world)
  | .command keyword statement => ((command keyword statement m).2, w)
  | .run fuel program args custom origin =>
    let ended := run setup fuel program args custom origin m w
    (ended.machine, ended.world)
  | .runAt fuel index args custom =>
    let ended := runAt setup fuel index args custom m w
    (ended.machine, ended.world)
  | .clearCaptures => (m.clearCaptures, w)
  | .reset => (m.reset, w)

/-- The machine and the world after operations in turn. -/
def afterAll (setup : Setup σ) (m : Machine) (w : World σ) : List Operation → Machine × World σ
  | [] => (m, w)
  | op :: ops =>
    let next := operate setup m w op
    afterAll setup next.1 next.2 ops

/-! ### Settled machines -/

/-- A machine between operations: nothing is under way, and its program keeps the rule. -/
structure Settled (m : Machine) : Prop where
  depth : m.depth = 0
  processDepth : m.processDepth = 0
  valid : ∀ p, m.program = some p → p.IsValid

theorem settled_new : Settled {} := ⟨rfl, rfl, by simp⟩

variable {setup : Setup σ} {m : Machine} {w : World σ}

theorem Settled.of_framed {m' : Machine} (h : Settled m) (hf : Framed m m') : Settled m' where
  depth := hf.depth.trans h.depth
  processDepth := hf.processDepth.trans h.processDepth
  valid := fun p hp => h.valid p (hf.program.symm.trans hp)

theorem Settled.withProgram (h : Settled m) {p : Program} (hp : p.IsValid) :
    Settled { m with program := some p } :=
  ⟨h.depth, h.processDepth, fun q hq => by cases hq; exact hp⟩

theorem Settled.withOrigin (h : Settled m) (origin : Option CallSite) :
    Settled { m with origin := origin } :=
  ⟨h.depth, h.processDepth, h.valid⟩

theorem Settled.adopt (h : Settled m) (origin : Option CallSite)
    {read : Except Failure Program × World σ}
    (hread : ∀ p w', read = (.ok p, w') → p.IsValid) :
    Settled (m.adopt origin read).machine := by
  obtain ⟨f | p, w'⟩ := read
  · exact h
  · exact h.withProgram (hread p w' rfl)

theorem Settled.load (h : Settled m) (name : String) (origin : Option CallSite) :
    Settled (load setup name origin m w).machine := by
  refine (h.withOrigin _).adopt origin ?_
  intro p w' hread
  obtain ⟨text, -, -, hv⟩ := readScript_eq_ok hread
  exact p.error?_eq_none_iff.mp hv

theorem Settled.loadText (h : Settled m) (text source : String) (origin : Option CallSite) :
    Settled (loadText setup text source origin m w).machine := by
  refine h.adopt origin ?_
  intro p w' hread
  exact p.error?_eq_none_iff.mp (readText_eq_ok hread).2

/-- Adding an instruction keeps the rule, since one that breaks it is refused. -/
theorem Settled.command (h : Settled m) (keyword statement : String) :
    Settled (command keyword statement m).2 := by
  -- a new program has no instructions yet, so it keeps the rule as well
  have hp : (m.program.getD commandProgram).IsValid := by
    rcases hm : m.program with - | p
    · intro i hi
      cases hi
    · exact h.valid p hm
  rw [Machine.command]
  rcases Command.ofKeyword? keyword with - | c
  · exact h.withProgram hp
  simp only [Instruction.error?]
  split
  · exact h.withProgram hp
  · next hv =>
    refine h.withProgram ?_
    intro i hi
    rcases List.mem_append.mp hi with hi | hi
    · exact hp i hi
    · obtain rfl := List.mem_singleton.mp hi
      simpa using hv

theorem Settled.runLoaded (h : Settled m) (fuel : Nat) (args : List Value) (custom : Bindings) :
    Settled (runLoaded setup fuel args custom m w).machine := by
  rcases hm : m.program with - | p
  · simpa [Machine.runLoaded, hm] using h
  by_cases hz : p.size = 0
  · simpa [Machine.runLoaded, hm, hz] using h
  · rw [runLoaded_eq hm hz]
    have hframe : Framed m (m.started args custom) := ⟨rfl, rfl, rfl, rfl⟩
    exact h.of_framed (hframe.trans (loop_framed setup fuel _ w))

theorem Settled.run (h : Settled m) (fuel : Nat) (program : Option Program) (args : List Value)
    (custom : Bindings) (origin : Option CallSite) :
    Settled (run setup fuel program args custom origin m w).machine := by
  rcases program with - | p
  · exact (h.withOrigin _).runLoaded fuel args custom
  rw [Machine.run]
  split
  · exact h
  · next hv =>
    exact ((h.withProgram (p.error?_eq_none_iff.mp hv)).withOrigin _).runLoaded fuel args custom

theorem Settled.runAt (h : Settled m) (fuel : Nat) (index : Int) (args : List Value)
    (custom : Bindings) : Settled (runAt setup fuel index args custom m w).machine := by
  rw [Machine.runAt]
  rcases m.fetch? index with - | i
  · exact h
  have hm : Settled (m.withParameters args custom) := ⟨h.depth, h.processDepth, h.valid⟩
  simp only
  split
  · exact hm.of_framed (dispatch_framed setup fuel _ i _ w)
  · exact hm

/-- What one operation keeps. -/
theorem Settled.operate (h : Settled m) (op : Operation) :
    Settled (operate setup m w op).1 := by
  cases op with
  | load name origin => exact h.load name origin
  | loadText text source origin => exact h.loadText text source origin
  | command keyword statement => exact h.command keyword statement
  | run fuel program args custom origin => exact h.run fuel program args custom origin
  | runAt fuel index args custom => exact h.runAt fuel index args custom
  | clearCaptures => exact ⟨h.depth, h.processDepth, h.valid⟩
  | reset => exact ⟨h.depth, h.processDepth, by simp [Machine.operate, Machine.reset]⟩

/-- What any number of operations keeps. -/
theorem Settled.afterAll (h : Settled m) (ops : List Operation) :
    Settled (afterAll setup m w ops).1 := by
  induction ops generalizing m w with
  | nil => exact h
  | cons op ops ih => exact ih (h.operate op)

/-! ### Runs after other operations -/

end Machine

/-- An outcome without the call site of its failure. -/
def Outcome.withoutOrigin {α : Type} : Outcome α → Outcome α
  | .failed f => .failed f.withoutOrigin
  | o => o

theorem Outcome.Alike.withoutOrigin_eq {α : Type} {o o' : Outcome α} (h : o.Alike 0 o') :
    o.withoutOrigin = o'.withoutOrigin := by
  cases h with
  | done a => rfl
  | failed hf => exact congrArg Outcome.failed (hf rfl)
  | cutOff => rfl

/-- Without a difference of depth, worlds that are alike after the same trace are the
same. -/
theorem World.Alike.eq {σ : Type} {t : List Event} {w w' : World σ} (h : w.Alike 0 t t w') :
    w = w' := by
  obtain ⟨hd, es, ht, ht'⟩ := h
  obtain ⟨database, trace⟩ := w
  obtain ⟨database', trace'⟩ := w'
  dsimp only at hd ht ht'
  rw [hd, ht, ht', Event.deepen_zero, List.map_id]

namespace Machine

variable {σ : Type} {setup : Setup σ} {m : Machine} {w : World σ}

/-- A settled machine runs a program of its own as a new machine does. -/
theorem runLoaded_alike_new (h : Settled m) {p : Program} (hp : m.program = some p)
    (hz : p.size ≠ 0) (setup : Setup σ) (fuel : Nat) (args : List Value) (custom : Bindings)
    (origin : Option CallSite) (w : World σ) :
    (runLoaded setup fuel args custom m w).Alike 0 m.captures w.trace w.trace
      (runLoaded setup fuel args custom { program := some p, origin := origin } w) := by
  have hstart : (m.started args custom).Alike 0 m.captures
      (({ program := some p, origin := origin } : Machine).started args custom) :=
    ⟨hp, rfl, h.processDepth, h.depth, (List.append_nil _).symm⟩
  have hrun := runLoaded_alike hp hz setup fuel args custom hstart (World.Alike.refl w)
  rwa [Setup.lowered_zero] at hrun

theorem run_alike_new (h : Settled m) {program : Option Program} {p : Program}
    (hp : (program <|> m.program) = some p) (hz : p.size ≠ 0) (hv : p.IsValid)
    (setup : Setup σ) (fuel : Nat) (args : List Value) (custom : Bindings)
    (origin : Option CallSite) (w : World σ) :
    (run setup fuel program args custom origin m w).Alike 0 m.captures w.trace w.trace
      (run setup fuel (some p) args custom origin {} w) := by
  have hnone : p.error? = none := p.error?_eq_none_iff.mpr hv
  have hfresh : run setup fuel (some p) args custom origin {} w
      = runLoaded setup fuel args custom { program := some p, origin := origin <|> none } w := by
    rw [run, hnone]
  rw [hfresh]
  rcases program with - | q
  · rw [run]
    exact runLoaded_alike_new (h.withOrigin (origin <|> m.origin)) (by simpa using hp) hz setup
      fuel args custom _ w
  · obtain rfl : q = p := by simpa using hp
    rw [run, hnone]
    exact runLoaded_alike_new ((h.withProgram hv).withOrigin _) rfl hz setup fuel args custom _ w

/-- **Runs do not depend on history.**  After any operations, running a program that has
instructions sends the same statements to the same database and ends in the same way, up to
the call site of an error, as on a new machine, and adds the same captures.  If the program
keeps the rule of programs it leaves the same state; if not, the run is refused and the
machine stays in the state it had. -/
theorem run_after_history (setup : Setup σ) (ops : List Operation) (start w : World σ)
    (fuel : Nat) (program : Option Program) (p : Program) (args : List Value)
    (custom : Bindings) (origin : Option CallSite)
    (hp : (program <|> (afterAll setup {} start ops).1.program) = some p)
    (hz : p.size ≠ 0) :
    let m := (afterAll setup {} start ops).1
    let after := run setup fuel program args custom origin m w
    let fresh := run setup fuel (some p) args custom origin {} w
    after.world = fresh.world ∧
      after.outcome.withoutOrigin = fresh.outcome.withoutOrigin ∧
      after.machine.captures = m.captures ++ fresh.machine.captures ∧
      (p.IsValid → after.machine.state = fresh.machine.state) ∧
      (¬p.IsValid → after.machine.state = m.state) := by
  intro m after fresh
  have hsettled : Settled m := settled_new.afterAll ops
  by_cases hv : p.IsValid
  · obtain ⟨ho, hm, hw⟩ := run_alike_new hsettled hp hz hv setup fuel args custom origin w
    exact ⟨hw.eq, ho.withoutOrigin_eq, hm.captures, fun _ => hm.state, fun hn => absurd hv hn⟩
  · -- a program of the machine's own keeps the rule, so this one was handed over
    rcases program with - | q
    · exact absurd (hsettled.valid p (by simpa using hp)) hv
    obtain rfl : q = p := by simpa using hp
    rcases he : q.error? with - | e
    · exact absurd (q.error?_eq_none_iff.mp he) hv
    have hafter : after = ⟨.failed (.error e), m, w⟩ := by simp only [after, run, he]
    have hfresh : fresh = ⟨.failed (.error e), {}, w⟩ := by simp only [fresh, run, he]
    rw [hafter, hfresh]
    exact ⟨rfl, rfl, (List.append_nil _).symm, fun h => absurd h hv, fun _ => rfl⟩

/-- A script that stops in the middle of a call of a call of an include. -/
def interrupted : Setup Rehearsal where
  client := .ofStyle .qmark Rehearsal.query
  source := (Scripts.ofList [("part", "! process 1\n! process 2\n! examine $0")]).toSource

theorem run_after_interruption :
    let ops := [.loadText "! process 1 5\n! include part $0" "main" none,
      .run 100 none [.int 1] [] none, .runAt 100 0 [] []]
    let w : World Rehearsal := { database := .ofRules [] }
    let p : Program := { source := "next", instructions := [⟨.capture, "select $0", none⟩] }
    let m := (afterAll interrupted {} w ops).1
    let after := run interrupted 100 (some p) [.int 2] [] none m w
    let fresh := run interrupted 100 (some p) [.int 2] [] none {} w
    after.world = fresh.world ∧
      after.outcome.withoutOrigin = fresh.outcome.withoutOrigin ∧
      after.machine.captures = m.captures ++ fresh.machine.captures ∧
      (p.IsValid → after.machine.state = fresh.machine.state) ∧
      (¬p.IsValid → after.machine.state = m.state) :=
  run_after_history interrupted _ _ _ 100 (some _) _ [.int 2] [] none rfl (by decide)

/-- A program that is refused leaves the state of the run before, here a cursor behind
the one instruction that was carried out; a new machine has its cursor at the start. -/
theorem refused_run_keeps_state :
    let w : World Rehearsal := { database := .ofRules [] }
    let first : Program := { source := "first", instructions := [⟨.setting, "null", none⟩] }
    let refused : Program := { source := "refused", instructions := [⟨.capture, "update t", none⟩] }
    let m := (afterAll interrupted {} w [.run 100 (some first) [.int 1] [] none]).1
    refused.size ≠ 0 ∧
      (run interrupted 100 (some refused) [.int 2] [] none m w).machine.state.cursor = 1 ∧
      (run interrupted 100 (some refused) [.int 2] [] none {} w).machine.state.cursor = 0 := by
  refine ⟨by decide, ?_, ?_⟩
  · decide +kernel
  · decide

end Machine

end SqlScript
