/-
SqlScript/Proofs/Engine/Evolution.lean

What becomes of a machine while it carries out its program.

An *evolution* is a relation between a machine in its world and a later state of both that
can be followed along a program: it is reflexive and transitive, the moves of the cursor and
of the count of calls keep it, and so does every instruction of the program that ends by
itself, the handing over of arguments by a call, and the whole of an include as it is seen
from outside.  What a run of the program does is then related as well, through any jumps and
calls, however it ends (`Evolution.execution`, `Evolution.run`).

An included script runs on a machine of its own, so nothing is asked of its instructions but
what they do to the world.
-/
import SqlScript.Proofs.Engine.Unwinding

namespace SqlScript

namespace Machine

variable {σ : Type}

/-- A relation between a machine in its world and what becomes of them in the program `p`. -/
structure Evolution (setup : Setup σ) (p : Program)
    (R : Machine → World σ → Machine → World σ → Prop) : Prop where
  refl : ∀ m w, R m w m w
  trans : ∀ {m₁ w₁ m₂ w₂ m₃ w₃}, R m₁ w₁ m₂ w₂ → R m₂ w₂ m₃ w₃ → R m₁ w₁ m₃ w₃
  /-- The loop moves the cursor, and notes jumps. -/
  goTo : ∀ m w cursor, R m w (m.goTo cursor) w
  jumped : ∀ m w origin target, R m w m (w.note (.jumped origin target))
  /-- The gate is closed for an instruction. -/
  skipped : ∀ m w index c, R m w m (w.note (.skipped index c))
  /-- An instruction of the program ends by itself. -/
  finish : ∀ {m w index i r ended}, i ∈ p.instructions → m.Begins setup i r →
    m.plan setup i.command r (m.begun index i r w) = .finish ended →
    R m w ended.machine ended.world
  /-- A call of the program hands its arguments over, and counts back when it returns. -/
  call : ∀ {m w index i r target called args}, i ∈ p.instructions → m.Begins setup i r →
    m.plan setup i.command r (m.begun index i r w) = .call target called args →
    R m w (m.entered args) (m.begun index i r w)
  counted : ∀ m w count, R m w { m with processDepth := count } w
  /-- An include of the program runs another one. -/
  enter : ∀ {m w index i r program w'} (fuel : Nat), i ∈ p.instructions → m.Begins setup i r →
    m.plan setup i.command r (m.begun index i r w) = .enter program w' →
    R m w m (Machine.loop setup fuel (m.child program r.args) w').world

namespace Evolution

variable {setup : Setup σ} {p : Program} {R : Machine → World σ → Machine → World σ → Prop}

/-- **One instruction**, with everything that it calls. -/
theorem dispatch (ev : Evolution setup p R) :
    ∀ fuel index i m w, m.program = some p → i ∈ p.instructions →
      R m w (Machine.dispatch setup fuel index i m w).machine
        (Machine.dispatch setup fuel index i m w).world := by
  apply dispatch_induction (D := fun _ _ i m w ended => m.program = some p →
    i ∈ p.instructions → R m w ended.machine ended.world)
  case exhausted => exact fun _ _ m w _ _ => ev.refl m w
  case skipped => exact fun _ index i m w _ _ _ => ev.skipped m w index i.command
  case unresolved => exact fun _ _ _ m w _ _ _ _ _ => ev.refl m w
  case finish =>
    intro fuel index i m w r ended hb hp _ hi
    have hended : R m w ended.machine ended.world := ev.finish hi hb hp
    exact hended
  case call =>
    intro fuel index i m w r target called args hb hp ih hprog hi
    have hcalled : called ∈ p.instructions := by
      cases planned_of_eq hp with
      | call _ _ hf => exact mem_of_fetch? hprog hf
    -- into the call, through it, and back to the level of before
    exact ev.trans (ev.trans (ev.call hi hb hp) (ih hprog hcalled)) (ev.counted _ _ _)
  case enter => exact fun fuel _ _ _ _ _ _ _ hb hp _ hi => ev.enter fuel hi hb hp

/-- **A loop** through the program. -/
theorem loop (ev : Evolution setup p R) :
    ∀ fuel m w, m.program = some p →
      R m w (Machine.loop setup fuel m w).machine (Machine.loop setup fuel m w).world := by
  apply loop_induction (L := fun _ m w ended => m.program = some p →
    R m w ended.machine ended.world)
  case halted => exact fun m w _ => ev.refl m w
  case ended => exact fun _ m w _ _ => ev.refl m w
  case passive => exact fun _ m w _ _ _ ih hprog => ev.trans (ev.goTo m w _) (ih hprog)
  case cutOff =>
    rintro fuel m w i e hf _ rfl _ hprog
    exact ev.dispatch _ _ _ _ _ hprog (mem_of_fetch? hprog hf)
  case failed =>
    rintro fuel m w i e f hf _ rfl _ hprog
    exact ev.dispatch _ _ _ _ _ hprog (mem_of_fetch? hprog hf)
  -- the instruction, the move of the cursor, and the rest of the loop in the same program
  case next =>
    rintro fuel m w i e m' hf _ rfl _ rfl ih hprog
    have hturn := ev.dispatch fuel m.state.cursor i m w hprog (mem_of_fetch? hprog hf)
    have hsame := (dispatch_framed setup fuel m.state.cursor i m w).program.trans hprog
    exact ev.trans (ev.trans hturn (ev.goTo _ _ _)) (ih hsame)
  case jump =>
    rintro fuel m w i e m' w' target hf _ rfl _ rfl rfl ih hprog
    have hturn := ev.dispatch fuel m.state.cursor i m w hprog (mem_of_fetch? hprog hf)
    have hsame := (dispatch_framed setup fuel m.state.cursor i m w).program.trans hprog
    exact ev.trans (ev.trans (ev.trans hturn (ev.jumped _ _ _ _)) (ev.goTo _ _ _)) (ih hsame)

/-- **A run** of the program, from the state that it starts with. -/
theorem run (ev : Evolution setup p R) {program : Option Program} {m : Machine}
    (hp : (program <|> m.program) = some p) (hv : ∀ q, program = some q → q.error? = none)
    (hz : p.size ≠ 0) (fuel : Nat) (args : List Value) (custom : Bindings)
    (origin : Option CallSite) (w : World σ) :
    R (m.launched p args custom origin) w
      (Machine.run setup fuel program args custom origin m w).machine
      (Machine.run setup fuel program args custom origin m w).world := by
  rw [run_eq_loop hp hv hz]
  exact ev.loop fuel _ w rfl

end Evolution

end Machine

end SqlScript
