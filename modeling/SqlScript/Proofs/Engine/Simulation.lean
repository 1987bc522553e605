/-
SqlScript/Proofs/Engine/Simulation.lean

Two ways of running that go on together.

A simulation relates the machines, worlds and failures of two setups.  The two may differ in
how they bind statements (`translate` turns what a statement resolves to on one side into what
it resolves to on the other), in the depth of includes, in the state of the database, and in
what their errors say.  What has to be shown of them is small: that an instruction finds the
same operands on both sides, that it ends alike if it addresses no others, and that the moves
of a machine and the events that are noted keep the relation.

From this follows that the plans of an instruction are related (`Simulation.plan`), and that
whole runs are (`Simulation.execution`).  The two sides carry out the same instructions and
take the same turns, and end in the same way, with machines, worlds and failures that are
related.

Machines are related at a *place* (`κ`), which may change on the way into an included script.
-/
import SqlScript.Proofs.Engine.Induction
import SqlScript.Proofs.Engine.Trace
import SqlScript.Session

namespace SqlScript

variable {σ σ' κ α β : Type}

/-! ### What is related -/

/-- Two outcomes of the same kind, with the same value or with related failures. -/
inductive Outcome.Related (F : Failure → Failure → Prop) : Outcome α → Outcome α → Prop
  | done (a : α) : Related F (.done a) (.done a)
  | failed {f f' : Failure} : F f f' → Related F (.failed f) (.failed f')
  | cutOff : Related F .cutOff .cutOff

/-- Two attempts that find the same, or fail with related failures. -/
inductive Agree (F : Failure → Failure → Prop) : Except Failure α → Except Failure α → Prop
  | ok (a : α) : Agree F (.ok a) (.ok a)
  | error {f f' : Failure} : F f f' → Agree F (.error f) (.error f')

theorem Agree.refl {F : Failure → Failure → Prop} (hF : ∀ f, F f f) (x : Except Failure α) :
    Agree F x x := by
  cases x with
  | error f => exact .error (hF f)
  | ok a => exact .ok a

/-- Two results that are related in each part. -/
structure Result.Related (M : Machine → Machine → Prop) (W : World σ → World σ' → Prop)
    (F : Failure → Failure → Prop) (e : Result σ α) (e' : Result σ' α) : Prop where
  outcome : e.outcome.Related F e'.outcome
  machine : M e.machine e'.machine
  world : W e.world e'.world

/-- Two plans that ask for the same. -/
inductive Machine.Plan.Related (M : Machine → Machine → Prop) (W : World σ → World σ' → Prop)
    (F : Failure → Failure → Prop) : Plan σ → Plan σ' → Prop
  | finish {e : Result σ (Option Nat)} {e' : Result σ' (Option Nat)} : e.Related M W F e' →
      Related M W F (.finish e) (.finish e')
  | call (target : Nat) (called : Instruction) (args : List Value) :
      Related M W F (.call target called args) (.call target called args)
  | enter (program : Program) {w : World σ} {w' : World σ'} : W w w' →
      Related M W F (.enter program w) (.enter program w')

section Related

variable {M : Machine → Machine → Prop} {W : World σ → World σ' → Prop}
variable {F : Failure → Failure → Prop}

namespace Outcome.Related

theorem map {o o' : Outcome α} (h : o.Related F o') (g : α → β) :
    (o.map g).Related F (o'.map g) := by
  cases h with
  | done a => exact .done (g a)
  | failed hf => exact .failed hf
  | cutOff => exact .cutOff

theorem attach {o o' : Outcome α} {c c' : Context} (h : o.Related F o')
    (hc : ∀ f f', F f f' → F (f.attach c) (f'.attach c')) :
    (o.attach c).Related F (o'.attach c') := by
  cases h with
  | done a => exact .done a
  | failed hf => exact .failed (hc _ _ hf)
  | cutOff => exact .cutOff

theorem eq_done {a : α} {o : Outcome α} (h : Outcome.Related F (.done a) o) : o = .done a := by
  cases h
  rfl

theorem eq_failed {f : Failure} {o : Outcome α} (h : Outcome.Related F (.failed f) o) :
    ∃ f', o = .failed f' ∧ F f f' := by
  cases h with
  | failed hf => exact ⟨_, rfl, hf⟩

theorem eq_cutOff {o : Outcome α} (h : Outcome.Related F .cutOff o) : o = .cutOff := by
  cases h
  rfl

end Outcome.Related

namespace Machine.Plan.Related

theorem eq_finish {e : Result σ (Option Nat)} {p : Plan σ'}
    (h : Plan.Related M W F (.finish e) p) : ∃ e', p = .finish e' ∧ e.Related M W F e' := by
  cases h with
  | finish he => exact ⟨_, rfl, he⟩

theorem eq_call {target : Nat} {called : Instruction} {args : List Value} {p : Plan σ'}
    (h : Plan.Related M W F (.call target called args : Plan σ) p) :
    p = .call target called args := by
  cases h
  rfl

theorem eq_enter {program : Program} {w : World σ} {p : Plan σ'}
    (h : Plan.Related M W F (.enter program w) p) :
    ∃ w', p = .enter program w' ∧ W w w' := by
  cases h with
  | enter _ hw => exact ⟨_, rfl, hw⟩

end Machine.Plan.Related

end Related

/-! ### Runs from the top -/

namespace Machine

/-- A machine at the start of a run. -/
def started (m : Machine) (args : List Value) (custom : Bindings) : Machine :=
  { m with state := { passed := args, custom := custom } }

theorem runLoaded_eq {m : Machine} {program : Program} (hp : m.program = some program)
    (hz : program.size ≠ 0) (setup : Setup σ) (fuel : Nat) (args : List Value)
    (custom : Bindings) (w : World σ) :
    runLoaded setup fuel args custom m w
      = ⟨(loop setup fuel (m.started args custom) w).outcome.map
           fun _ => (loop setup fuel (m.started args custom) w).machine.state.last,
         (loop setup fuel (m.started args custom) w).machine,
         (loop setup fuel (m.started args custom) w).world⟩ := by
  obtain ⟨own, captures, state, inner, processDepth, origin⟩ := m
  dsimp only at hp
  subst hp
  simp only [runLoaded, hz, if_false, started]

end Machine

/-! ### Simulations -/

/-- The events that look the same however a statement is bound and however deep it is
carried out. -/
def Event.isPlain : Event → Bool
  | .dispatched _ | .including .. | .queried .. => false
  | _ => true

/-- What it takes that two setups run together. -/
structure Simulation (setup : Setup σ) (setup' : Setup σ') (translate : Resolved → Resolved)
    (M : κ → Machine → Machine → Prop) (W : World σ → World σ' → Prop)
    (F : Failure → Failure → Prop) : Prop where
  source : setup.source = setup'.source
  marker : setup.marker = setup'.marker
  writesLog : setup.writesLog = setup'.writesLog
  /-- A statement resolves on both sides, or fails alike. -/
  unresolved : ∀ {statement passed custom f},
    resolve statement passed custom setup.client.bindMarker = .error f →
    resolve statement passed custom setup'.client.bindMarker = .error f
  resolves : ∀ {statement passed custom r},
    resolve statement passed custom setup.client.bindMarker = .ok r →
    resolve statement passed custom setup'.client.bindMarker = .ok (translate r)
  /-- Related machines have the same program in the same state. -/
  program : ∀ {k m m'}, M k m m' → m.program = m'.program
  state : ∀ {k m m'}, M k m m' → m.state = m'.state
  processDepth : ∀ {k m m'}, M k m m' → m.processDepth = m'.processDepth
  /-- The moves of a machine keep the relation. -/
  goTo : ∀ {k m m'} (cursor : Nat), M k m m' → M k (m.goTo cursor) (m'.goTo cursor)
  entered : ∀ {k m m'} (args : List Value), M k m m' → M k (m.entered args) (m'.entered args)
  exited : ∀ {k m m'}, M k m m' → M k m.exited m'.exited
  /-- So do events. -/
  note : ∀ {w w'} {e : Event}, e.isPlain = true → W w w' → W (w.note e) (w'.note e)
  begun : ∀ {k m m' w w' i r} (index : Nat), M k m m' → W w w' → m.Begins setup i r →
    W (m.begun index i r w) (m'.begun index i (translate r) w')
  including : ∀ {k m m' w w'} (name : String), M k m m' → W w w' →
    W (w.note (.including name (m.depth + 1))) (w'.note (.including name (m'.depth + 1)))
  /-- Failures are related to themselves, and reported alike. -/
  same : ∀ f, F f f
  attach : ∀ {k m m' r f f'} (index : Nat) (i : Instruction), M k m m' → F f f' →
    F (f.attach (m.contextOf index i r)) (f'.attach (m'.contextOf index i (translate r)))
  noCommands : ∀ {k m m'} (name : Option String), M k m m' →
    F (.error (Machine.noCommands name m.origin)) (.error (Machine.noCommands name m'.origin))
  /-- An instruction of the program finds the same operands, or ends by itself. -/
  address : ∀ {k m m' a i r}, M k m m' → m.fetch? a = some i → m.Begins setup i r →
    i.command = .process →
    Agree F (addressOperand r setup.client.bindMarker)
      (addressOperand (translate r) setup'.client.bindMarker)
  includeName : ∀ {k m m' a i r}, M k m m' → m.fetch? a = some i → m.Begins setup i r →
    i.command = .include →
    Agree F (m.includeName setup r) (m'.includeName setup' (translate r))
  perform : ∀ {k m m' w w' a i r}, M k m m' → W w w' → m.fetch? a = some i →
    m.Begins setup i r → i.command ≠ .process → i.command ≠ .include →
    (m.perform setup i.command r w).Related (M k) W F
      (m'.perform setup' i.command (translate r) w')
  /-- The machines of an included script are related at some place. -/
  child : ∀ {k m m' a i r name text}, M k m m' → m.fetch? a = some i → m.Begins setup i r →
    i.command = .include → m.includeName setup r = .ok name → setup.source name = .ok text →
    ∃ k', M k' (m.child (Program.parse setup.marker text name) r.args)
      (m'.child (Program.parse setup.marker text name) (translate r).args)

namespace Simulation

open Machine

variable {setup : Setup σ} {setup' : Setup σ'} {translate : Resolved → Resolved}
variable {M : κ → Machine → Machine → Prop} {W : World σ → World σ' → Prop}
variable {F : Failure → Failure → Prop} {k : κ} {m m' : Machine} {w : World σ} {w' : World σ'}
variable {i : Instruction} {r : Resolved}

theorem fetch? (sim : Simulation setup setup' translate M W F) (h : M k m m') (address : Int) :
    m.fetch? address = m'.fetch? address := by
  rw [Machine.fetch?, Machine.fetch?, sim.program h]

theorem admits (sim : Simulation setup setup' translate M W F) (h : M k m m') (c : Command) :
    m.admits c = m'.admits c := by
  rw [Machine.admits, Machine.admits, sim.state h]

theorem begins (sim : Simulation setup setup' translate M W F) (h : M k m m')
    (hb : m.Begins setup i r) : m'.Begins setup' i (translate r) where
  admitted := by rw [← sim.admits h, hb.admitted]
  resolved := by
    apply sim.resolves
    rw [← sim.state h]
    exact hb.resolved

/-! ### Scripts and plans -/

theorem noteAll (sim : Simulation setup setup' translate M W F) {es : List Event}
    (hes : ∀ e ∈ es, e.isPlain = true) (hw : W w w') : W (w.noteAll es) (w'.noteAll es) := by
  induction es generalizing w w' with
  | nil => exact hw
  | cons e es ih =>
    rw [List.forall_mem_cons] at hes
    exact ih hes.2 (sim.note hes.1 hw)

/-- Both sides read the same script. -/
theorem readScript (sim : Simulation setup setup' translate M W F) (hw : W w w')
    (name : String) :
    (Machine.readScript setup name w).1 = (Machine.readScript setup' name w').1 ∧
      W (Machine.readScript setup name w).2 (Machine.readScript setup' name w').2 := by
  have hreq : W (w.note (.requested name)) (w'.note (.requested name)) := sim.note rfl hw
  rw [Machine.readScript, Machine.readScript, ← sim.source]
  rcases setup.source.fetch name with f | text
  · exact ⟨rfl, hreq⟩
  have plain : ∀ e ∈ (Program.unknownKeywords (Program.readings setup.marker text)).map
      (fun d => Event.dropped d.1 (some d.2)), e.isPlain = true := by
    intro e he
    obtain ⟨d, -, rfl⟩ := List.mem_map.mp he
    rfl
  have hdropped := sim.noteAll plain hreq
  simp only [readText, ← sim.marker]
  rcases (Program.parse setup.marker text name).error? with - | e
  · exact ⟨rfl, sim.note rfl hdropped⟩
  · exact ⟨rfl, hdropped⟩

theorem missTarget (sim : Simulation setup setup' translate M W F) (h : M k m m')
    (hw : W w w') (target : Int) :
    (m.missTarget setup target w).Related (M k) W F (m'.missTarget setup' target w') := by
  have hnoted : W (w.note (.noTarget target)) (w'.note (.noTarget target)) := sim.note rfl hw
  rw [Machine.missTarget, Machine.missTarget, ← sim.writesLog]
  rcases (Value.int target).text? with f | text
  · rcases setup.writesLog with - | -
    · exact ⟨.done none, h, hnoted⟩
    · exact ⟨.failed (sim.same _), h, hw⟩
  · exact ⟨.done none, h, hnoted⟩

theorem callPlan (sim : Simulation setup setup' translate M W F) (h : M k m m') (hw : W w w')
    {r' : Resolved}
    (hfound : Agree F (addressOperand r setup.client.bindMarker)
      (addressOperand r' setup'.client.bindMarker)) :
    Plan.Related (M k) W F (m.callPlan setup r w) (m'.callPlan setup' r' w') := by
  rw [Machine.callPlan, Machine.callPlan]
  generalize addressOperand r setup.client.bindMarker = x at hfound ⊢
  generalize addressOperand r' setup'.client.bindMarker = x' at hfound ⊢
  rcases hfound with ⟨target, args⟩ | hf
  · simp only [← sim.fetch? h, ← sim.processDepth h]
    rcases m.fetch? target with - | called
    · exact .finish (sim.missTarget h hw target)
    by_cases hp : maxProcessDepth ≤ m.processDepth
    · simp only [hp, if_true]
      exact .finish ⟨.failed (sim.same _), h, hw⟩
    · simp only [hp, if_false]
      exact .call _ called args
  · exact .finish ⟨.failed hf, h, hw⟩

theorem includePlan (sim : Simulation setup setup' translate M W F) (h : M k m m')
    (hw : W w w') {r' : Resolved}
    (hfound : Agree F (m.includeName setup r) (m'.includeName setup' r')) :
    Plan.Related (M k) W F (m.includePlan setup r w) (m'.includePlan setup' r' w') := by
  rw [Machine.includePlan, Machine.includePlan]
  generalize m.includeName setup r = x at hfound ⊢
  generalize m'.includeName setup' r' = x' at hfound ⊢
  rcases hfound with name | hf
  -- both read the same script, each under its own depth
  · obtain ⟨hread, hworld⟩ := sim.readScript (sim.including name h hw) name
    rcases hs : Machine.readScript setup name (w.note (.including name (m.depth + 1)))
      with ⟨read, v⟩
    rcases hs' : Machine.readScript setup' name (w'.note (.including name (m'.depth + 1)))
      with ⟨read', v'⟩
    rw [hs, hs'] at hread hworld
    obtain rfl : read = read' := hread
    rcases read with f | program
    · simp only [hs, hs']
      exact .finish ⟨.failed (sim.same _), h, hworld⟩
    by_cases hz : program.size = 0
    · simp only [hs, hs', hz, if_true]
      exact .finish ⟨.failed (sim.noCommands _ h), h, hworld⟩
    · simp only [hs, hs', hz, if_false]
      exact .enter program hworld
  · exact .finish ⟨.failed hf, h, hw⟩

/-- **The plans of an instruction are related.** -/
theorem plan (sim : Simulation setup setup' translate M W F) (h : M k m m') (hw : W w w')
    {address : Int} (hi : m.fetch? address = some i) (hb : m.Begins setup i r) :
    Plan.Related (M k) W F (m.plan setup i.command r w)
      (m'.plan setup' i.command (translate r) w') := by
  by_cases hp : i.command = .process
  · have hfound := sim.address h hi hb hp
    rw [hp]
    exact sim.callPlan h hw hfound
  by_cases hc : i.command = .include
  · have hfound := sim.includeName h hi hb hc
    rw [hc]
    exact sim.includePlan h hw hfound
  have hended := sim.perform h hw hi hb hp hc
  rcases hcommand : i.command
  case process => exact absurd hcommand hp
  case «include» => exact absurd hcommand hc
  all_goals
    rw [hcommand] at hended
    exact .finish hended

/-! ### Runs -/

/-- Related machines have the same instruction at their cursors, so carrying it out on both
sides is the same turn. -/
theorem turn (sim : Simulation setup setup' translate M W F) (h : M k m m') {fuel : Nat}
    {e : Result σ (Option Nat)} (hf : m.fetch? m.state.cursor = some i)
    (he : e.Related (M k) W F (dispatch setup' fuel m.state.cursor i m' w')) :
    m'.fetch? m'.state.cursor = some i ∧
      e.Related (M k) W F (dispatch setup' fuel m'.state.cursor i m' w') := by
  rw [sim.fetch? h, sim.state h] at hf
  rw [sim.state h] at he
  exact ⟨hf, he⟩

/-- **Related machines stay related.**  Carrying out an instruction of the program, or running
to the end, gives related results on both sides. -/
theorem execution (sim : Simulation setup setup' translate M W F) :
    (∀ fuel index i m w k m' w', (∃ address, m.fetch? address = some i) → M k m m' → W w w' →
      (dispatch setup fuel index i m w).Related (M k) W F (dispatch setup' fuel index i m' w')) ∧
    ∀ fuel m w k m' w', M k m m' → W w w' →
      (loop setup fuel m w).Related (M k) W F (loop setup' fuel m' w') := by
  apply execution_induction
    (D := fun fuel index i m w ended => ∀ k m' w', (∃ address, m.fetch? address = some i) →
      M k m m' → W w w' → ended.Related (M k) W F (dispatch setup' fuel index i m' w'))
    (L := fun fuel m w ended => ∀ k m' w', M k m m' → W w w' →
      ended.Related (M k) W F (loop setup' fuel m' w'))
  case exhausted =>
    intro index i m w k m' w' _ h hw
    simp only [dispatch]
    exact ⟨.cutOff, h, hw⟩
  case skipped =>
    intro fuel index i m w ha k m' w' _ h hw
    rw [dispatch_skipped (sim.admits h _ ▸ ha)]
    exact ⟨.done none, h, sim.note rfl hw⟩
  case unresolved =>
    intro fuel index i m w f ha hr k m' w' _ h hw
    rw [dispatch_unresolved (sim.admits h _ ▸ ha) (sim.unresolved (sim.state h ▸ hr))]
    exact ⟨.failed (sim.same _), h, hw⟩
  case finish =>
    intro fuel index i m w r ended hb hp k m' w' hi h hw
    obtain ⟨address, hi⟩ := hi
    have hplan := sim.plan h (sim.begun index h hw hb) hi hb
    rw [hp] at hplan
    obtain ⟨e', hp', he⟩ := hplan.eq_finish
    rw [dispatch_finish (sim.begins h hb) hp']
    exact ⟨he.outcome.attach fun _ _ => sim.attach index i h, he.machine, he.world⟩
  case call =>
    intro fuel index i m w r target called args hb hp ih k m' w' hi h hw
    obtain ⟨address, hi⟩ := hi
    have hplan := sim.plan h (sim.begun index h hw hb) hi hb
    rw [hp] at hplan
    rw [dispatch_call (sim.begins h hb) hplan.eq_call]
    have hcalled : ∃ address, (m.entered args).fetch? address = some called := by
      cases planned_of_eq hp with
      | call _ _ hf => exact ⟨_, hf⟩
    obtain ⟨ho, hm, hworld⟩ :=
      ih k _ _ hcalled (sim.entered args h) (sim.begun index h hw hb)
    -- on return each side counts its call out
    exact ⟨(ho.map _).attach fun _ _ => sim.attach index i h, sim.exited hm, hworld⟩
  case enter =>
    intro fuel index i m w r program v hb hp ih k m' w' hi h hw
    obtain ⟨address, hi⟩ := hi
    have hplan := sim.plan h (sim.begun index h hw hb) hi hb
    rw [hp] at hplan
    obtain ⟨v', hp', hv⟩ := hplan.eq_enter
    rw [dispatch_enter (sim.begins h hb) hp']
    -- of the included run only its outcome and its world come back
    cases planned_of_eq hp with
    | enter hc hn hs =>
      obtain ⟨text, htext, rfl, -⟩ := readScript_eq_ok hs
      obtain ⟨k', hchild⟩ := sim.child h hi hb hc hn htext
      obtain ⟨ho, -, hworld⟩ := ih k' _ _ hchild hv
      exact ⟨(ho.map _).attach fun _ _ => sim.attach index i h, h, hworld⟩
  case halted =>
    intro m w k m' w' h hw
    simp only [loop]
    exact ⟨.cutOff, h, hw⟩
  case ended =>
    intro fuel m w hf k m' w' h hw
    rw [sim.fetch? h, sim.state h] at hf
    rw [loop_ended hf]
    exact ⟨.done (), h, hw⟩
  case passive =>
    intro fuel m w i hf hp ih k m' w' h hw
    rw [sim.fetch? h, sim.state h] at hf
    rw [loop_passive hf hp]
    apply ih k _ _ _ hw
    rw [sim.state h]
    exact sim.goTo _ h
  -- in the remaining cases both machines carry out the instruction at their cursor, and
  -- the outcome on the first decides which turn the second takes
  case cutOff =>
    intro fuel m w i e hf hp _ ih ho k m' w' h hw
    obtain ⟨hf, hkind, hm, hworld⟩ := sim.turn h hf (ih k m' w' ⟨_, hf⟩ h hw)
    rw [ho] at hkind
    rw [loop_cutOff hf hp rfl hkind.eq_cutOff]
    exact ⟨.cutOff, hm, hworld⟩
  case failed =>
    intro fuel m w i e f hf hp _ ih ho k m' w' h hw
    obtain ⟨hf, hkind, hm, hworld⟩ := sim.turn h hf (ih k m' w' ⟨_, hf⟩ h hw)
    rw [ho] at hkind
    obtain ⟨f', ho', hfail⟩ := hkind.eq_failed
    rw [loop_failed hf hp rfl ho']
    exact ⟨.failed hfail, hm, hworld⟩
  case next =>
    rintro fuel m w i e n hf hp _ ih ho rfl ihL k m' w' h hw
    obtain ⟨hf, hkind, hm, hworld⟩ := sim.turn h hf (ih k m' w' ⟨_, hf⟩ h hw)
    rw [ho] at hkind
    rw [loop_next hf hp rfl hkind.eq_done]
    apply ihL k _ _ _ hworld
    rw [sim.state hm]
    exact sim.goTo _ hm
  case jump =>
    rintro fuel m w i e n v target hf hp _ ih ho rfl rfl ihL k m' w' h hw
    obtain ⟨hf, hkind, hm, hworld⟩ := sim.turn h hf (ih k m' w' ⟨_, hf⟩ h hw)
    rw [ho] at hkind
    rw [loop_jump hf hp rfl hkind.eq_done]
    apply ihL k _ _ (sim.goTo target hm)
    rw [sim.state hm]
    exact sim.note rfl hworld

theorem loop (sim : Simulation setup setup' translate M W F) (h : M k m m') (hw : W w w')
    (fuel : Nat) :
    (Machine.loop setup fuel m w).Related (M k) W F (Machine.loop setup' fuel m' w') :=
  sim.execution.2 fuel m w k m' w' h hw

/-- Runs from the top are related, whatever state the machines were in. -/
theorem runLoaded (sim : Simulation setup setup' translate M W F) {program : Program}
    (hp : m.program = some program) (hz : program.size ≠ 0) {args : List Value}
    {custom : Bindings} (h : M k (m.started args custom) (m'.started args custom)) (hw : W w w')
    (fuel : Nat) :
    (Machine.runLoaded setup fuel args custom m w).Related (M k) W F
      (Machine.runLoaded setup' fuel args custom m' w') := by
  have hp' : m'.program = some program := by
    rw [← hp]
    exact (sim.program h).symm
  rw [runLoaded_eq hp hz, runLoaded_eq hp' hz]
  obtain ⟨ho, hm, hworld⟩ := sim.loop h hw fuel
  refine ⟨?_, hm, hworld⟩
  rw [sim.state hm]
  exact ho.map _

end Simulation

end SqlScript
