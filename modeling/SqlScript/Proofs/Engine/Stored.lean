/-
SqlScript/Proofs/Engine/Stored.lean

Stored statements are inert unless they are addressed.

A `storage` instruction is stepped over by the loop, whether it is reached in turn or by a
jump, and with the gate open or closed.  Only a call carries it out.  So in a program without
calls its statement is never read: the program can be *restocked* with any other texts in its
place, and every run goes exactly as before (`stored_statements_inert`).  Addresses are kept,
because restocking neither adds nor removes an instruction, and the check of programs is too,
because a stored statement may be anything.
-/
import SqlScript.Proofs.Engine.Cursor
import SqlScript.Proofs.Engine.Footprint
import SqlScript.Proofs.Engine.Unseen

namespace SqlScript

/-! ### Programs with other texts in store -/

/-- An instruction with another statement, if it is one that is stored. -/
def Instruction.restocked (text : String) (i : Instruction) : Instruction :=
  if i.command = .storage then { i with statement := text } else i

/-- A program with the text `texts n` in place of the statement at each address `n` that has
a stored one; one that is to stay is given again. -/
def Program.restocked (texts : Nat → String) (p : Program) : Program :=
  { p with instructions := p.instructions.mapIdx fun n i => i.restocked (texts n) }

namespace Instruction

variable {i : Instruction}

@[simp] theorem command_restocked (text : String) (i : Instruction) :
    (i.restocked text).command = i.command := by
  rw [restocked]
  split <;> rfl

theorem restocked_of_ne (h : i.command ≠ .storage) (text : String) : i.restocked text = i :=
  if_neg h

/-- A stored statement may be anything, so the check of an instruction is the same. -/
theorem error?_restocked (text : String) (i : Instruction) (index : Nat) (source : String) :
    (i.restocked text).error? index source = i.error? index source := by
  by_cases h : i.command = .storage
  · have valid : ∀ j : Instruction, j.command = .storage → j.error? index source = none := by
      intro j hj
      simp [error?, isValid, hj, Command.requiresSelect]
    rw [valid i h, valid _ ((command_restocked text i).trans h)]
  · rw [restocked_of_ne h]

end Instruction

namespace Program

@[simp] theorem size_restocked (texts : Nat → String) (p : Program) :
    (p.restocked texts).size = p.size := List.length_mapIdx

theorem firstError?_restocked (texts : Nat → String) (source : String) (index : Nat)
    (is : List Instruction) :
    firstError? source index (is.mapIdx fun n i => i.restocked (texts n))
      = firstError? source index is := by
  induction is generalizing texts index with
  | nil => rfl
  | cons i rest ih =>
    rw [List.mapIdx_cons, firstError?, firstError?, Instruction.error?_restocked]
    rcases i.error? index source with - | e
    · exact ih (fun n => texts (n + 1)) (index + 1)
    · rfl

@[simp] theorem error?_restocked (texts : Nat → String) (p : Program) :
    (p.restocked texts).error? = p.error? :=
  firstError?_restocked texts p.source 0 p.instructions

theorem get?_restocked (texts : Nat → String) (p : Program) (n : Nat) :
    (p.restocked texts).get? n = (p.get? n).map (Instruction.restocked (texts n)) :=
  List.getElem?_mapIdx

end Program

namespace Machine

variable {σ : Type} {setup : Setup σ} {m : Machine} {w : World σ} {i : Instruction}
variable {p : Program} (texts : Nat → String)

/-! ### Machines with such programs -/

/-- A machine whose program has other texts in store. -/
def restocked (m : Machine) : Machine :=
  { m with program := m.program.map (Program.restocked texts) }

theorem source_restocked (m : Machine) :
    (m.restocked texts).program.map Program.source = m.program.map Program.source := by
  simp only [restocked, Option.map_map]
  rfl

theorem unseen_restocked : Unseen (restocked texts) where
  gate _ := rfl
  passed _ := rfl
  custom _ := rfl
  blank _ := rfl
  depth _ := rfl
  origin _ := rfl
  size m := by
    have hsize : Program.size ∘ Program.restocked texts = Program.size := by
      funext p
      exact p.size_restocked texts
    rw [restocked, Option.map_map, hsize]
  absorb m c rs := by cases c <;> rfl
  decide _ _ := rfl
  set _ _ := rfl

theorem fetch?_restocked (m : Machine) (n : Nat) :
    (m.restocked texts).fetch? n = (m.fetch? n).map (Instruction.restocked (texts n)) := by
  rcases hm : m.program with - | p
  · simp [fetch?, restocked, hm]
  · simpa [fetch?, restocked, hm] using p.get?_restocked texts n

theorem contextOf_restocked (m : Machine) (index : Nat) (i : Instruction) (r : Resolved) :
    (m.restocked texts).contextOf index i r = m.contextOf index i r := by
  simp only [contextOf, source_restocked]
  rfl

theorem begun_restocked (m : Machine) (index : Nat) (i : Instruction) (r : Resolved)
    (w : World σ) : (m.restocked texts).begun index i r w = m.begun index i r w := by
  simp only [begun, dispatchEvent, source_restocked]
  rfl

/-! ### Runs -/

/-- An instruction that is no call ends in the same way. -/
theorem dispatch_restocked (hc : i.command ≠ .process) (fuel index : Nat) :
    dispatch setup fuel index i (m.restocked texts) w
      = (dispatch setup fuel index i m w).mapMachine (restocked texts) := by
  have unseen := unseen_restocked texts
  rcases fuel with - | fuel
  · rfl
  rcases ha : m.admits i.command with - | -
  · rw [dispatch_skipped ha, dispatch_skipped ((unseen.admits m _).trans ha)]
    rfl
  rcases hr : resolve i.statement m.state.passed m.state.custom setup.client.bindMarker with f | r
  · rw [dispatch_unresolved ha hr, dispatch_unresolved ((unseen.admits m _).trans ha) hr]
    rfl
  have hb : m.Begins setup i r := ⟨ha, hr⟩
  rw [dispatch_begun hb, dispatch_begun (unseen.begins setup r m hb), begun_restocked,
    plan_unseen unseen _ _ _ _ hc]
  rcases hp : m.plan setup i.command r (m.begun index i r w)
    with ended | ⟨target, called, args⟩ | ⟨program, v⟩
  · simp only [Plan.mapMachine, carriedOut, contextOf_restocked]
    rfl
  · cases planned_of_eq hp with
    | call hprocess => exact absurd hprocess hc
  · simp only [Plan.mapMachine, carriedOut, contextOf_restocked, unseen.child]
    rfl

/-- The loop finds the same instruction at its cursor, unless that is one it steps over. -/
theorem fetch?_restocked_active (hf : m.fetch? m.state.cursor = some i)
    (hp : i.command.isPassive = false) :
    (m.restocked texts).fetch? (m.restocked texts).state.cursor = some i := by
  have hstored : i.command ≠ .storage := by
    intro hc
    rw [hc] at hp
    cases hp
  have hfetch := fetch?_restocked texts m m.state.cursor
  rw [hf, Option.map_some, Instruction.restocked_of_ne hstored] at hfetch
  exact hfetch

/-- **A loop** through a program without calls goes the same way, whatever is in store. -/
theorem loop_restocked (hno : ¬ p.Uses .process) :
    ∀ fuel m w, m.program = some p →
      loop setup fuel (m.restocked texts) w
        = (loop setup fuel m w).mapMachine (restocked texts) := by
  have uncalled : ∀ {m : Machine} {i}, m.program = some p → m.fetch? m.state.cursor = some i →
      i.command ≠ .process := fun hprog hf hc => hno ⟨_, mem_of_fetch? hprog hf, hc⟩
  apply loop_induction (L := fun fuel m w ended => m.program = some p →
    loop setup fuel (m.restocked texts) w = ended.mapMachine (restocked texts))
  case halted => exact fun _ _ _ => rfl
  case ended =>
    intro fuel m w hf _
    have hended := fetch?_restocked texts m m.state.cursor
    rw [hf] at hended
    rw [loop_ended hended]
    rfl
  case passive =>
    intro fuel m w i hf hp ih hprog
    have hpassed := fetch?_restocked texts m m.state.cursor
    rw [hf] at hpassed
    rw [loop_passive hpassed (by simpa using hp)]
    exact ih hprog
  -- what is carried out is not stored and no call, so it ends in the same way
  case cutOff =>
    rintro fuel m w i e hf hp rfl ho hprog
    rw [loop_cutOff (fetch?_restocked_active texts hf hp) hp
      (dispatch_restocked texts (uncalled hprog hf) fuel _) ho]
    rfl
  case failed =>
    rintro fuel m w i e f hf hp rfl ho hprog
    rw [loop_failed (fetch?_restocked_active texts hf hp) hp
      (dispatch_restocked texts (uncalled hprog hf) fuel _) ho]
    rfl
  case next =>
    rintro fuel m w i e m' hf hp rfl ho rfl ih hprog
    rw [loop_next (fetch?_restocked_active texts hf hp) hp
      (dispatch_restocked texts (uncalled hprog hf) fuel _) ho]
    exact ih ((dispatch_framed setup fuel m.state.cursor i m w).program.trans hprog)
  case jump =>
    rintro fuel m w i e m' w' target hf hp rfl ho rfl rfl ih hprog
    rw [loop_jump (fetch?_restocked_active texts hf hp) hp
      (dispatch_restocked texts (uncalled hprog hf) fuel _) ho]
    exact ih ((dispatch_framed setup fuel m.state.cursor i m w).program.trans hprog)

end Machine

/-- Two results that cannot be told apart but by the program of the machine. -/
structure Result.SameAs {σ α : Type} (e e' : Result σ α) : Prop where
  outcome : e.outcome = e'.outcome
  /-- The database, the statements that it got, and everything else that happened. -/
  world : e.world = e'.world
  state : e.machine.state = e'.machine.state
  captures : e.machine.captures = e'.machine.captures

namespace Machine

variable {σ : Type} {m : Machine} {p : Program}

theorem runLoaded_restocked (hp : m.program = some p) (hno : ¬ p.Uses .process)
    (texts : Nat → String) (setup : Setup σ) (fuel : Nat) (args : List Value) (custom : Bindings)
    (w : World σ) :
    (runLoaded setup fuel args custom m w).SameAs
      (runLoaded setup fuel args custom (m.restocked texts) w) := by
  have hp' : (m.restocked texts).program = some (p.restocked texts) := by
    rw [restocked, hp, Option.map_some]
  by_cases hz : p.size = 0
  · simp only [runLoaded, hp, hp', hz, p.size_restocked, if_true]
    exact ⟨rfl, rfl, rfl, rfl⟩
  · rw [runLoaded_eq hp hz, runLoaded_eq hp' (by simpa using hz)]
    have hloop : loop setup fuel ((m.restocked texts).started args custom) w = _ :=
      loop_restocked texts hno fuel (m.started args custom) w hp
    rw [hloop]
    exact ⟨rfl, rfl, rfl, rfl⟩

/-- **Stored statements are inert unless they are addressed.**  In a program without calls the
statements that are stored may be replaced by any other texts.  Running the program, be it
handed over or loaded before, gives the same outcome in the same world, so the same statements
were sent, and leaves the same state and the same captures. -/
theorem stored_statements_inert (setup : Setup σ) (fuel : Nat) (p : Program)
    (texts : Nat → String) (args : List Value) (custom : Bindings) (origin : Option CallSite)
    (m : Machine) (w : World σ) (hno : ¬ p.Uses .process) :
    (run setup fuel (some p) args custom origin m w).SameAs
        (run setup fuel (some (p.restocked texts)) args custom origin m w) ∧
      (run setup fuel none args custom origin { m with program := some p } w).SameAs
        (run setup fuel none args custom origin
          { m with program := some (p.restocked texts) } w) := by
  constructor
  · rw [run, run]
    simp only [p.error?_restocked]
    rcases p.error? with - | e
    · have hp : ({ m with program := some p, origin := origin <|> m.origin } : Machine).program
          = some p := rfl
      exact runLoaded_restocked hp hno texts setup fuel args custom w
    · exact ⟨rfl, rfl, rfl, rfl⟩
  · have hp : ({ m with program := some p, origin := origin <|> m.origin } : Machine).program
        = some p := rfl
    exact runLoaded_restocked hp hno texts setup fuel args custom w

/-- A program that jumps onto a stored statement and has another one behind a closed gate. -/
def stocked : Program where
  source := "main"
  instructions :=
    [⟨.forward, "2", none⟩, ⟨.examine, "x", none⟩, ⟨.storage, "drop $0", none⟩,
     ⟨.proceed, "0", none⟩, ⟨.storage, "drop $1", none⟩, ⟨.ifvalid, "1", none⟩,
     ⟨.capture, "select $0", none⟩]

theorem stocked_inert :
    let w : World Rehearsal := { database := .ofRules [] }
    let after := run bare 99 (some stocked) [.int 7] [] none {} w
    let after' := run bare 99 (some (stocked.restocked fun _ => "select")) [.int 7] [] none {} w
    stocked.restocked (fun _ => "select") ≠ stocked ∧ ¬ stocked.Uses .process ∧
      after.machine.captures.length = 1 ∧ after.SameAs after' := by
  intro w after after'
  refine ⟨by decide, by decide, by decide +kernel, ?_⟩
  exact (stored_statements_inert bare 99 stocked (fun _ => "select") [.int 7] [] none {} w
    (by decide)).1

end Machine

end SqlScript
