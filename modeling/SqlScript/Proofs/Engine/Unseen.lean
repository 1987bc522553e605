/-
SqlScript/Proofs/Engine/Unseen.lean

Changes of a machine that its instructions do not see.

An instruction reads the parameters, the gate, the blank policy and the depth of its machine,
and of the program its size.  Only a call reads more: the number of calls under way, and the
instruction at an address.  A change of machines is *unseen* if it keeps what the other
instructions read and can be made before or after what they do to the machine.  Then they ask
for the same on the machine that was changed, and leave it changed in the same way
(`plan_unseen`).
-/
import SqlScript.Proofs.Engine.Induction

namespace SqlScript

/-- A result with its machine changed. -/
def Result.mapMachine {σ α : Type} (change : Machine → Machine) (ended : Result σ α) :
    Result σ α :=
  { ended with machine := change ended.machine }

namespace Machine

variable {σ : Type}

/-- A plan with the machine changed that it leaves, if it leaves one. -/
def Plan.mapMachine (change : Machine → Machine) : Plan σ → Plan σ
  | .finish ended => .finish (ended.mapMachine change)
  | plan => plan

/-- A change of machines that is seen by calls at most. -/
structure Unseen (change : Machine → Machine) : Prop where
  gate : ∀ m, (change m).state.gate = m.state.gate
  passed : ∀ m, (change m).state.passed = m.state.passed
  custom : ∀ m, (change m).state.custom = m.state.custom
  blank : ∀ m, (change m).state.blank = m.state.blank
  depth : ∀ m, (change m).depth = m.depth
  origin : ∀ m, (change m).origin = m.origin
  size : ∀ m, (change m).program.map Program.size = m.program.map Program.size
  /-- What instructions do to the machine can be done before the change as well. -/
  absorb : ∀ m c rs, (change m).absorb c rs = change (m.absorb c rs)
  decide : ∀ m gate, { change m with state := { (change m).state with gate := gate } }
    = change { m with state := { m.state with gate := gate } }
  set : ∀ m blank, { change m with state := { (change m).state with blank := blank } }
    = change { m with state := { m.state with blank := blank } }

/-- The target of a jump depends on the size of the program only. -/
theorem jumpTarget_congr {m m' : Machine}
    (h : m.program.map Program.size = m'.program.map Program.size) (r : Resolved)
    (marker : String) : m.jumpTarget r marker = m'.jumpTarget r marker := by
  rw [jumpTarget, jumpTarget]
  rcases hm : m.program with - | p <;> rcases hm' : m'.program with - | p' <;>
    simp only [hm, hm', Option.map_none, Option.map_some, reduceCtorEq, Option.some.injEq] at h
  · rfl
  · simp only [h]

variable {change : Machine → Machine}

namespace Unseen

variable (h : Unseen change) (setup : Setup σ) (r : Resolved) (m : Machine) (w : World σ)
include h

theorem admits (c : Command) : (change m).admits c = m.admits c := by
  rw [Machine.admits, Machine.admits, h.gate]

theorem begins {i : Instruction} (hb : m.Begins setup i r) : (change m).Begins setup i r :=
  ⟨(h.admits m _).trans hb.admitted, by rw [h.passed, h.custom, hb.resolved]⟩

theorem child (program : Program) (args : List Value) :
    (change m).child program args = m.child program args := by
  simp only [Machine.child, h.custom, h.depth, h.origin]

theorem query (c : Command) :
    (change m).query setup c r w = (m.query setup c r w).mapMachine change := by
  rw [Machine.query, Machine.query]
  rcases (setup.client.query r.text r.args w.database).1 with rs | message | message
  · simp only [h.absorb]
    rfl
  · rfl
  · rfl

theorem perform (c : Command) :
    (change m).perform setup c r w = (m.perform setup c r w).mapMachine change := by
  cases c with
  | proceed | ifvalid | validif =>
    have hdecide : decideGate r (change m).state.blank = decideGate r m.state.blank := by
      rw [h.blank]
    simp only [Machine.perform, hdecide]
    rcases decideGate r m.state.blank with f | gate
    · rfl
    · simp only [h.decide]
      rfl
  | forward =>
    simp only [Machine.perform, jumpTarget_congr (h.size m)]
    rcases m.jumpTarget r setup.client.bindMarker with f | target
    · rfl
    · rfl
  | setting =>
    simp only [Machine.perform, h.set]
    rcases setting? r.text.toList with - | blank
    · rfl
    · rfl
  | examine => rfl
  | _ => exact h.query setup r m w _

theorem includeName : (change m).includeName setup r = m.includeName setup r := by
  rw [Machine.includeName, Machine.includeName, h.depth]

theorem includePlan :
    (change m).includePlan setup r w = (m.includePlan setup r w).mapMachine change := by
  rw [Machine.includePlan, Machine.includePlan, h.includeName, h.depth]
  rcases m.includeName setup r with f | name
  · rfl
  simp only [h.origin]
  rcases readScript setup name (w.note (.including name (m.depth + 1))) with ⟨f | program, v⟩
  · rfl
  simp only
  split
  · rfl
  · rfl

end Unseen

/-- **An unseen change makes no difference.**  Any instruction but a call asks for the same on
a machine that was changed, and ends with its machine changed in the same way. -/
theorem plan_unseen (h : Unseen change) (setup : Setup σ) (r : Resolved) (m : Machine)
    (w : World σ) {c : Command} (hc : c ≠ .process) :
    (change m).plan setup c r w = (m.plan setup c r w).mapMachine change := by
  cases c with
  | process => exact absurd rfl hc
  | «include» => exact h.includePlan setup r m w
  | _ => exact congrArg Plan.finish (h.perform setup r m w _)

end Machine

end SqlScript
