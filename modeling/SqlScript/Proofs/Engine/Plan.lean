/-
SqlScript/Proofs/Engine/Plan.lean

What an instruction asks for, case by case.

`Performed` has one constructor for each way in which an instruction ends that
addresses neither an instruction nor a script, and `Planned` one for each plan.  Both
say under which condition the case arises and what machine and world it leaves, so that
later proofs take an instruction apart by these constructors and never open `perform`
or `plan` again.
-/
import SqlScript.Engine.Run

namespace SqlScript

namespace Machine

variable {σ : Type}

/-! ### Instructions that end by themselves -/

/-- How an instruction ends that addresses no others. -/
inductive Performed (setup : Setup σ) (c : Command) (r : Resolved) (m : Machine) (w : World σ) :
    Result σ (Option Nat) → Prop
  /-- A query command sends its statement. -/
  | queried : c.isQuery = true → Performed setup c r m w (m.query setup c r w)
  /-- A guard decides on the gate. -/
  | decided {gate : Gate} : c.isGuard = true → decideGate r m.state.blank = .ok gate →
      Performed setup c r m w ⟨.done none, { m with state := { m.state with gate := gate } }, w⟩
  /-- The condition of a guard is no good. -/
  | undecided {f : Failure} : c.isGuard = true → decideGate r m.state.blank = .error f →
      Performed setup c r m w ⟨.failed f, m, w⟩
  /-- A jump has its target. -/
  | jumped {target : Nat} : c = .forward →
      m.jumpTarget r setup.client.bindMarker = .ok target →
      Performed setup c r m w ⟨.done (some target), m, w⟩
  /-- A jump has no target. -/
  | lost {f : Failure} : c = .forward → m.jumpTarget r setup.client.bindMarker = .error f →
      Performed setup c r m w ⟨.failed f, m, w⟩
  /-- A setting chooses a blank policy. -/
  | set {blank : Blank} : c = .setting → setting? r.text.toList = some blank →
      Performed setup c r m w ⟨.done none, { m with state := { m.state with blank := blank } }, w⟩
  /-- A setting is not known. -/
  | unset : c = .setting → setting? r.text.toList = none →
      Performed setup c r m w ⟨.failed (.of (.unknownSetting r.text)), m, w⟩
  /-- A script asks to see a statement. -/
  | examined : c = .examine →
      Performed setup c r m w
        ⟨.failed (.of (.examined (fillPlaceholders r.statement (r.args.map setup.client.quote)))),
         m, w⟩

theorem performed (setup : Setup σ) {c : Command} (r : Resolved) (m : Machine) (w : World σ)
    (hp : c ≠ .process) (hi : c ≠ .include) :
    Performed setup c r m w (m.perform setup c r w) := by
  cases c with
  | process => exact absurd rfl hp
  | «include» => exact absurd rfl hi
  | execute | capture | replace | declare | storage => exact .queried rfl
  | proceed | ifvalid | validif =>
    rw [perform]
    rcases h : decideGate r m.state.blank with f | gate
    · exact .undecided rfl h
    · exact .decided rfl h
  | forward =>
    rw [perform]
    rcases h : m.jumpTarget r setup.client.bindMarker with f | target
    · exact .lost rfl h
    · exact .jumped rfl h
  | setting =>
    rw [perform]
    rcases h : setting? r.text.toList with - | blank
    · exact .unset rfl h
    · exact .set rfl h
  | examine => exact .examined rfl

/-! ### Plans -/

/-- What an instruction asks for. -/
inductive Planned (setup : Setup σ) (c : Command) (r : Resolved) (m : Machine) (w : World σ) :
    Plan σ → Prop
  /-- It ends by itself. -/
  | performed {ended : Result σ (Option Nat)} : c ≠ .process → c ≠ .include →
      Performed setup c r m w ended → Planned setup c r m w (.finish ended)
  /-- A call has no address. -/
  | noAddress {f : Failure} : c = .process →
      addressOperand r setup.client.bindMarker = .error f →
      Planned setup c r m w (.finish ⟨.failed f, m, w⟩)
  /-- A call finds no instruction. -/
  | noTarget {target : Int} {args : List Value} : c = .process →
      addressOperand r setup.client.bindMarker = .ok (target, args) →
      m.fetch? target = none → Planned setup c r m w (.finish (m.missTarget setup target w))
  /-- A call is nested too deeply. -/
  | callTooDeep {target : Int} {args : List Value} {called : Instruction} : c = .process →
      addressOperand r setup.client.bindMarker = .ok (target, args) →
      m.fetch? target = some called → maxProcessDepth ≤ m.processDepth →
      Planned setup c r m w (.finish ⟨.failed (.of (.processTooDeep maxProcessDepth)), m, w⟩)
  /-- A call finds its instruction. -/
  | call {target : Int} {args : List Value} {called : Instruction} : c = .process →
      addressOperand r setup.client.bindMarker = .ok (target, args) →
      m.fetch? target = some called → m.processDepth < maxProcessDepth →
      Planned setup c r m w (.call target.toNat called args)
  /-- An include may not ask for a script. -/
  | noName {f : Failure} : c = .include → m.includeName setup r = .error f →
      Planned setup c r m w (.finish ⟨.failed f, m, w⟩)
  /-- The script of an include cannot be loaded. -/
  | unread {name : String} {f : Failure} {w' : World σ} : c = .include →
      m.includeName setup r = .ok name →
      readScript setup name (w.note (.including name (m.depth + 1))) = (.error f, w') →
      Planned setup c r m w (.finish ⟨.failed (includeFailure name f), m, w'⟩)
  /-- The script of an include has no instructions. -/
  | noCommands {name : String} {program : Program} {w' : World σ} : c = .include →
      m.includeName setup r = .ok name →
      readScript setup name (w.note (.including name (m.depth + 1))) = (.ok program, w') →
      program.size = 0 →
      Planned setup c r m w
        (.finish ⟨.failed (.error (noCommands (some program.source) m.origin)), m, w'⟩)
  /-- The script of an include is loaded. -/
  | enter {name : String} {program : Program} {w' : World σ} : c = .include →
      m.includeName setup r = .ok name →
      readScript setup name (w.note (.including name (m.depth + 1))) = (.ok program, w') →
      program.size ≠ 0 → Planned setup c r m w (.enter program w')

variable (setup : Setup σ) (r : Resolved) (m : Machine) (w : World σ)

variable {setup r m} in
/-- A call that finds its instruction carries it out below the limit. -/
theorem plan_call {target : Int} {args : List Value} {called : Instruction}
    (ha : addressOperand r setup.client.bindMarker = .ok (target, args))
    (hf : m.fetch? target = some called) :
    m.plan setup .process r w
      = if m.processDepth < maxProcessDepth then .call target.toNat called args
        else .finish ⟨.failed (.of (.processTooDeep maxProcessDepth)), m, w⟩ := by
  rw [plan, callPlan, ha]
  simp only [hf]
  by_cases free : m.processDepth < maxProcessDepth
  · rw [if_neg (Nat.not_le.mpr free), if_pos free]
  · rw [if_pos (Nat.not_lt.mp free), if_neg free]

theorem planned_process :
    Planned setup .process r m w (m.callPlan setup r w) := by
  rw [callPlan]
  rcases ha : addressOperand r setup.client.bindMarker with f | ⟨target, args⟩
  · exact .noAddress rfl ha
  rcases hf : m.fetch? target with - | called
  · simp only [hf]
    exact .noTarget rfl ha hf
  by_cases hd : maxProcessDepth ≤ m.processDepth
  · simp only [hf, hd, if_true]
    exact .callTooDeep rfl ha hf hd
  · simp only [hf, hd, if_false]
    exact .call rfl ha hf (by omega)

theorem planned_include :
    Planned setup .include r m w (m.includePlan setup r w) := by
  rw [includePlan]
  rcases hn : m.includeName setup r with f | name
  · exact .noName rfl hn
  rcases hs : readScript setup name (w.note (.including name (m.depth + 1))) with ⟨f | program, w'⟩
  · simp only [hs]
    exact .unread rfl hn hs
  by_cases hz : program.size = 0
  · simp only [hs, hz, if_true]
    exact .noCommands rfl hn hs hz
  · simp only [hs, hz, if_false]
    exact .enter rfl hn hs hz

theorem planned (c : Command) : Planned setup c r m w (m.plan setup c r w) := by
  by_cases hp : c = .process
  · subst hp
    exact planned_process setup r m w
  by_cases hi : c = .include
  · subst hi
    exact planned_include setup r m w
  -- all other commands are carried out at once
  have hplan : m.plan setup c r w = .finish (m.perform setup c r w) := by
    cases c <;> first | rfl | exact absurd rfl hp | exact absurd rfl hi
  rw [hplan]
  exact .performed hp hi (performed setup r m w hp hi)

variable {setup r m w} in
/-- A plan that is known is one of the cases. -/
theorem planned_of_eq {c : Command} {plan : Plan σ} (h : m.plan setup c r w = plan) :
    Planned setup c r m w plan := by
  rw [← h]
  exact planned setup r m w c

end Machine

end SqlScript
