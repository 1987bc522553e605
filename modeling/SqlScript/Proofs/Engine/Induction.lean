/-
SqlScript/Proofs/Engine/Induction.lean

Runs, case by case.

An instruction is skipped, or its statement cannot be resolved, or it *begins*; then its
plan says whether it ends by itself, calls another instruction or enters another
program.  A loop ends, steps over a passive instruction, or goes where the instruction
at the cursor sends it.  Each case is an equation here, and `execution_induction` is the
induction over all of them together: what holds of an activity in each case, given that
it holds of the activities nested in it, holds of `dispatch` and of `loop`.
`dispatch_induction` is the part of it that stays in one program, and `loop_induction` the
part that follows one loop.

`dispatch_framed` and `loop_framed` are the first use of it.  They say which parts of a
machine no activity changes: its program, its two depths and its call site.
-/
import SqlScript.Proofs.Engine.Plan

namespace SqlScript

/-- A result in which an error is reported against a context. -/
def Result.attach {σ α : Type} (c : Context) (ended : Result σ α) : Result σ α :=
  { ended with outcome := ended.outcome.attach c }

namespace Machine

variable {σ : Type} {setup : Setup σ} {m : Machine} {w : World σ} {i : Instruction}
variable {r : Resolved} {fuel index : Nat}

/-! ### One instruction -/

/-- An instruction begins: the gate admits it, and its statement resolves to `r`. -/
structure Begins (setup : Setup σ) (m : Machine) (i : Instruction) (r : Resolved) : Prop where
  admitted : m.admits i.command = true
  resolved : resolve i.statement m.state.passed m.state.custom setup.client.bindMarker = .ok r

/-- The world in which an instruction begins. -/
def begun (m : Machine) (index : Nat) (i : Instruction) (r : Resolved) (w : World σ) : World σ :=
  w.note (m.dispatchEvent index i r)

/-- The end of a call, from the end of the instruction that was called. -/
def returned (c : Context) (ended : Result σ (Option Nat)) : Result σ (Option Nat) :=
  ⟨(ended.outcome.map fun _ => none).attach c, ended.machine.exited, ended.world⟩

/-- The end of an include, from the end of the program that was entered. -/
def left (m : Machine) (c : Context) (ended : Result σ Unit) : Result σ (Option Nat) :=
  ⟨(ended.outcome.map fun _ => none).attach c, m, ended.world⟩

theorem dispatch_skipped (h : m.admits i.command = false) :
    dispatch setup (fuel + 1) index i m w
      = ⟨.done none, m, w.note (.skipped index i.command)⟩ := by
  simp [dispatch, h]

theorem dispatch_unresolved {f : NumberFault} (ha : m.admits i.command = true)
    (hr : resolve i.statement m.state.passed m.state.custom setup.client.bindMarker
      = .error f) :
    dispatch setup (fuel + 1) index i m w = ⟨.failed (.fault (.number f)), m, w⟩ := by
  simp [dispatch, ha, hr]

/-- The end of an instruction that has begun, from its plan. -/
def carriedOut (setup : Setup σ) (fuel index : Nat) (i : Instruction) (r : Resolved)
    (m : Machine) (w : World σ) : Plan σ → Result σ (Option Nat)
  | .finish ended => ended.attach (m.contextOf index i r)
  | .call target called args =>
    returned (m.contextOf index i r)
      (dispatch setup fuel target called (m.entered args) (m.begun index i r w))
  | .enter program w' =>
    m.left (m.contextOf index i r) (loop setup fuel (m.child program r.args) w')

theorem dispatch_begun (h : m.Begins setup i r) :
    dispatch setup (fuel + 1) index i m w
      = m.carriedOut setup fuel index i r w (m.plan setup i.command r (m.begun index i r w)) := by
  simp only [dispatch, h.admitted, h.resolved, if_true, begun]
  rcases m.plan setup i.command r (w.note (m.dispatchEvent index i r)) with
    ended | ⟨target, called, args⟩ | ⟨program, w'⟩
  · rfl
  · rfl
  · rfl

theorem dispatch_finish {ended : Result σ (Option Nat)} (h : m.Begins setup i r)
    (hp : m.plan setup i.command r (m.begun index i r w) = .finish ended) :
    dispatch setup (fuel + 1) index i m w = ended.attach (m.contextOf index i r) := by
  rw [dispatch_begun h, hp]
  rfl

theorem dispatch_call {target : Nat} {called : Instruction} {args : List Value}
    (h : m.Begins setup i r)
    (hp : m.plan setup i.command r (m.begun index i r w) = .call target called args) :
    dispatch setup (fuel + 1) index i m w
      = returned (m.contextOf index i r)
          (dispatch setup fuel target called (m.entered args) (m.begun index i r w)) := by
  rw [dispatch_begun h, hp]
  rfl

theorem dispatch_enter {program : Program} {w' : World σ} (h : m.Begins setup i r)
    (hp : m.plan setup i.command r (m.begun index i r w) = .enter program w') :
    dispatch setup (fuel + 1) index i m w
      = m.left (m.contextOf index i r) (loop setup fuel (m.child program r.args) w') := by
  rw [dispatch_begun h, hp]
  rfl

/-! ### One turn of the loop -/

theorem loop_ended (h : m.fetch? m.state.cursor = none) :
    loop setup (fuel + 1) m w = ⟨.done (), m, w⟩ := by
  simp [loop, h]

theorem loop_passive (h : m.fetch? m.state.cursor = some i) (hp : i.command.isPassive = true) :
    loop setup (fuel + 1) m w = loop setup fuel (m.goTo (m.state.cursor + 1)) w := by
  simp [loop, h, hp]

/-- The rest of a loop, from the end of the instruction at the cursor. -/
def continued (setup : Setup σ) (fuel : Nat) : Result σ (Option Nat) → Result σ Unit
  | ⟨.cutOff, m, w⟩ => ⟨.cutOff, m, w⟩
  | ⟨.failed f, m, w⟩ => ⟨.failed f, m, w⟩
  | ⟨.done none, m, w⟩ => loop setup fuel (m.goTo (m.state.cursor + 1)) w
  | ⟨.done (some target), m, w⟩ =>
    loop setup fuel (m.goTo target) (w.note (.jumped m.state.cursor target))

variable {ended : Result σ (Option Nat)}

theorem loop_turn (h : m.fetch? m.state.cursor = some i) (hp : i.command.isPassive = false)
    (hd : dispatch setup fuel m.state.cursor i m w = ended) :
    loop setup (fuel + 1) m w = continued setup fuel ended := by
  simp only [loop, h, hp, hd, Bool.false_eq_true, if_false]
  obtain ⟨(- | target) | f | -, machine, world⟩ := ended
  · rfl
  · rfl
  · rfl
  · rfl

theorem loop_cutOff (h : m.fetch? m.state.cursor = some i) (hp : i.command.isPassive = false)
    (hd : dispatch setup fuel m.state.cursor i m w = ended) (ho : ended.outcome = .cutOff) :
    loop setup (fuel + 1) m w = ⟨.cutOff, ended.machine, ended.world⟩ := by
  obtain ⟨outcome, machine, world⟩ := ended
  subst ho
  exact loop_turn h hp hd

theorem loop_failed {f : Failure} (h : m.fetch? m.state.cursor = some i)
    (hp : i.command.isPassive = false)
    (hd : dispatch setup fuel m.state.cursor i m w = ended) (ho : ended.outcome = .failed f) :
    loop setup (fuel + 1) m w = ⟨.failed f, ended.machine, ended.world⟩ := by
  obtain ⟨outcome, machine, world⟩ := ended
  subst ho
  exact loop_turn h hp hd

theorem loop_next (h : m.fetch? m.state.cursor = some i) (hp : i.command.isPassive = false)
    (hd : dispatch setup fuel m.state.cursor i m w = ended) (ho : ended.outcome = .done none) :
    loop setup (fuel + 1) m w
      = loop setup fuel (ended.machine.goTo (ended.machine.state.cursor + 1)) ended.world := by
  obtain ⟨outcome, machine, world⟩ := ended
  subst ho
  exact loop_turn h hp hd

theorem loop_jump {target : Nat} (h : m.fetch? m.state.cursor = some i)
    (hp : i.command.isPassive = false)
    (hd : dispatch setup fuel m.state.cursor i m w = ended)
    (ho : ended.outcome = .done (some target)) :
    loop setup (fuel + 1) m w
      = loop setup fuel (ended.machine.goTo target)
          (ended.world.note (.jumped ended.machine.state.cursor target)) := by
  obtain ⟨outcome, machine, world⟩ := ended
  subst ho
  exact loop_turn h hp hd

/-! ### The induction over runs -/

variable {D : Nat → Nat → Instruction → Machine → World σ → Result σ (Option Nat) → Prop}
variable {L : Nat → Machine → World σ → Result σ Unit → Prop}

/-- What holds of an activity in each case, given that it holds of the activities
nested in it, holds of every activity. -/
theorem execution_induction
    (exhausted : ∀ index i m w, D 0 index i m w ⟨.cutOff, m, w⟩)
    (skipped : ∀ fuel index i m w, m.admits i.command = false →
      D (fuel + 1) index i m w ⟨.done none, m, w.note (.skipped index i.command)⟩)
    (unresolved : ∀ fuel index i m w f, m.admits i.command = true →
      resolve i.statement m.state.passed m.state.custom setup.client.bindMarker = .error f →
      D (fuel + 1) index i m w ⟨.failed (.fault (.number f)), m, w⟩)
    (finish : ∀ fuel index i m w r ended, m.Begins setup i r →
      m.plan setup i.command r (m.begun index i r w) = .finish ended →
      D (fuel + 1) index i m w (ended.attach (m.contextOf index i r)))
    (call : ∀ fuel index i m w r target called args, m.Begins setup i r →
      m.plan setup i.command r (m.begun index i r w) = .call target called args →
      D fuel target called (m.entered args) (m.begun index i r w)
        (dispatch setup fuel target called (m.entered args) (m.begun index i r w)) →
      D (fuel + 1) index i m w (returned (m.contextOf index i r)
        (dispatch setup fuel target called (m.entered args) (m.begun index i r w))))
    (enter : ∀ fuel index i m w r program w', m.Begins setup i r →
      m.plan setup i.command r (m.begun index i r w) = .enter program w' →
      L fuel (m.child program r.args) w' (loop setup fuel (m.child program r.args) w') →
      D (fuel + 1) index i m w (m.left (m.contextOf index i r)
        (loop setup fuel (m.child program r.args) w')))
    (halted : ∀ m w, L 0 m w ⟨.cutOff, m, w⟩)
    (ended : ∀ fuel m w, m.fetch? m.state.cursor = none →
      L (fuel + 1) m w ⟨.done (), m, w⟩)
    (passive : ∀ fuel m w i, m.fetch? m.state.cursor = some i → i.command.isPassive = true →
      L fuel (m.goTo (m.state.cursor + 1)) w (loop setup fuel (m.goTo (m.state.cursor + 1)) w) →
      L (fuel + 1) m w (loop setup fuel (m.goTo (m.state.cursor + 1)) w))
    (cutOff : ∀ fuel m w i e, m.fetch? m.state.cursor = some i → i.command.isPassive = false →
      dispatch setup fuel m.state.cursor i m w = e → D fuel m.state.cursor i m w e →
      e.outcome = .cutOff → L (fuel + 1) m w ⟨.cutOff, e.machine, e.world⟩)
    (failed : ∀ fuel m w i e f, m.fetch? m.state.cursor = some i →
      i.command.isPassive = false → dispatch setup fuel m.state.cursor i m w = e →
      D fuel m.state.cursor i m w e → e.outcome = .failed f →
      L (fuel + 1) m w ⟨.failed f, e.machine, e.world⟩)
    (next : ∀ fuel m w i e m', m.fetch? m.state.cursor = some i → i.command.isPassive = false →
      dispatch setup fuel m.state.cursor i m w = e → D fuel m.state.cursor i m w e →
      e.outcome = .done none → e.machine.goTo (e.machine.state.cursor + 1) = m' →
      L fuel m' e.world (loop setup fuel m' e.world) →
      L (fuel + 1) m w (loop setup fuel m' e.world))
    (jump : ∀ fuel m w i e m' w' target, m.fetch? m.state.cursor = some i →
      i.command.isPassive = false → dispatch setup fuel m.state.cursor i m w = e →
      D fuel m.state.cursor i m w e → e.outcome = .done (some target) →
      e.machine.goTo target = m' → e.world.note (.jumped e.machine.state.cursor target) = w' →
      L fuel m' w' (loop setup fuel m' w') → L (fuel + 1) m w (loop setup fuel m' w')) :
    (∀ fuel index i m w, D fuel index i m w (dispatch setup fuel index i m w)) ∧
      ∀ fuel m w, L fuel m w (loop setup fuel m w) := by
  -- both at once, along the fuel: nested activities have less of it
  rw [← forall_and]
  intro fuel
  induction fuel with
  | zero =>
    constructor
    · intro index i m w
      simpa [dispatch] using exhausted index i m w
    · intro m w
      simpa [loop] using halted m w
  | succ fuel ih =>
    obtain ⟨ihD, ihL⟩ := ih
    constructor
    · intro index i m w
      rcases ha : m.admits i.command with - | -
      · rw [dispatch_skipped ha]
        exact skipped fuel index i m w ha
      rcases hr : resolve i.statement m.state.passed m.state.custom setup.client.bindMarker
        with f | r
      · rw [dispatch_unresolved ha hr]
        exact unresolved fuel index i m w f ha hr
      have hb : m.Begins setup i r := ⟨ha, hr⟩
      rcases hp : m.plan setup i.command r (m.begun index i r w) with e | ⟨t, c, args⟩ | ⟨p, w'⟩
      · rw [dispatch_finish hb hp]
        exact finish fuel index i m w r e hb hp
      · rw [dispatch_call hb hp]
        exact call fuel index i m w r t c args hb hp (ihD _ _ _ _)
      · rw [dispatch_enter hb hp]
        exact enter fuel index i m w r p w' hb hp (ihL _ _)
    · intro m w
      rcases hf : m.fetch? m.state.cursor with - | i
      · rw [loop_ended hf]
        exact ended fuel m w hf
      rcases hp : i.command.isPassive with - | -
      -- how the instruction ended decides where the loop goes on
      · have hD := ihD m.state.cursor i m w
        rcases ho : (dispatch setup fuel m.state.cursor i m w).outcome
          with (- | target) | f | -
        · rw [loop_next hf hp rfl ho]
          exact next fuel m w i _ _ hf hp rfl hD ho rfl (ihL _ _)
        · rw [loop_jump hf hp rfl ho]
          exact jump fuel m w i _ _ _ target hf hp rfl hD ho rfl rfl (ihL _ _)
        · rw [loop_failed hf hp rfl ho]
          exact failed fuel m w i _ f hf hp rfl hD ho
        · rw [loop_cutOff hf hp rfl ho]
          exact cutOff fuel m w i _ hf hp rfl hD ho
      · rw [loop_passive hf hp]
        exact passive fuel m w i hf hp (ihL _ _)

/-- The induction along calls alone, where the programs of includes are not looked into. -/
theorem dispatch_induction
    (exhausted : ∀ index i m w, D 0 index i m w ⟨.cutOff, m, w⟩)
    (skipped : ∀ fuel index i m w, m.admits i.command = false →
      D (fuel + 1) index i m w ⟨.done none, m, w.note (.skipped index i.command)⟩)
    (unresolved : ∀ fuel index i m w f, m.admits i.command = true →
      resolve i.statement m.state.passed m.state.custom setup.client.bindMarker = .error f →
      D (fuel + 1) index i m w ⟨.failed (.fault (.number f)), m, w⟩)
    (finish : ∀ fuel index i m w r ended, m.Begins setup i r →
      m.plan setup i.command r (m.begun index i r w) = .finish ended →
      D (fuel + 1) index i m w (ended.attach (m.contextOf index i r)))
    (call : ∀ fuel index i m w r target called args, m.Begins setup i r →
      m.plan setup i.command r (m.begun index i r w) = .call target called args →
      D fuel target called (m.entered args) (m.begun index i r w)
        (dispatch setup fuel target called (m.entered args) (m.begun index i r w)) →
      D (fuel + 1) index i m w (returned (m.contextOf index i r)
        (dispatch setup fuel target called (m.entered args) (m.begun index i r w))))
    (enter : ∀ fuel index i m w r program w', m.Begins setup i r →
      m.plan setup i.command r (m.begun index i r w) = .enter program w' →
      D (fuel + 1) index i m w (m.left (m.contextOf index i r)
        (loop setup fuel (m.child program r.args) w'))) :
    ∀ fuel index i m w, D fuel index i m w (dispatch setup fuel index i m w) := by
  refine (execution_induction (D := D) (L := fun _ _ _ _ => True) exhausted skipped unresolved
    finish call ?_ ?_ ?_ ?_ ?_ ?_ ?_ ?_).1
  · intro fuel index i m w r program w' hb hp _
    exact enter fuel index i m w r program w' hb hp
  all_goals
    intros
    trivial

/-- The induction along one loop, where what its instructions start is not looked into. -/
theorem loop_induction
    (halted : ∀ m w, L 0 m w ⟨.cutOff, m, w⟩)
    (ended : ∀ fuel m w, m.fetch? m.state.cursor = none →
      L (fuel + 1) m w ⟨.done (), m, w⟩)
    (passive : ∀ fuel m w i, m.fetch? m.state.cursor = some i → i.command.isPassive = true →
      L fuel (m.goTo (m.state.cursor + 1)) w (loop setup fuel (m.goTo (m.state.cursor + 1)) w) →
      L (fuel + 1) m w (loop setup fuel (m.goTo (m.state.cursor + 1)) w))
    (cutOff : ∀ fuel m w i e, m.fetch? m.state.cursor = some i → i.command.isPassive = false →
      dispatch setup fuel m.state.cursor i m w = e → e.outcome = .cutOff →
      L (fuel + 1) m w ⟨.cutOff, e.machine, e.world⟩)
    (failed : ∀ fuel m w i e f, m.fetch? m.state.cursor = some i →
      i.command.isPassive = false → dispatch setup fuel m.state.cursor i m w = e →
      e.outcome = .failed f → L (fuel + 1) m w ⟨.failed f, e.machine, e.world⟩)
    (next : ∀ fuel m w i e m', m.fetch? m.state.cursor = some i → i.command.isPassive = false →
      dispatch setup fuel m.state.cursor i m w = e → e.outcome = .done none →
      e.machine.goTo (e.machine.state.cursor + 1) = m' →
      L fuel m' e.world (loop setup fuel m' e.world) →
      L (fuel + 1) m w (loop setup fuel m' e.world))
    (jump : ∀ fuel m w i e m' w' target, m.fetch? m.state.cursor = some i →
      i.command.isPassive = false → dispatch setup fuel m.state.cursor i m w = e →
      e.outcome = .done (some target) → e.machine.goTo target = m' →
      e.world.note (.jumped e.machine.state.cursor target) = w' →
      L fuel m' w' (loop setup fuel m' w') → L (fuel + 1) m w (loop setup fuel m' w')) :
    ∀ fuel m w, L fuel m w (loop setup fuel m w) := by
  refine (execution_induction (D := fun _ _ _ _ _ _ => True) (L := L) ?_ ?_ ?_ ?_ ?_ ?_ halted
    ended passive (fun fuel m w i e hf hp hd _ => cutOff fuel m w i e hf hp hd)
    (fun fuel m w i e f hf hp hd _ => failed fuel m w i e f hf hp hd)
    (fun fuel m w i e m' hf hp hd _ => next fuel m w i e m' hf hp hd)
    (fun fuel m w i e m' w' target hf hp hd _ => jump fuel m w i e m' w' target hf hp hd)).2
  all_goals
    intros
    trivial

/-! ### What no activity changes -/

/-- Two machines with the same program, the same depths and the same call site. -/
structure Framed (m m' : Machine) : Prop where
  program : m'.program = m.program
  depth : m'.depth = m.depth
  processDepth : m'.processDepth = m.processDepth
  origin : m'.origin = m.origin

theorem Framed.refl (m : Machine) : Framed m m := ⟨rfl, rfl, rfl, rfl⟩

theorem Framed.trans {m₁ m₂ m₃ : Machine} (h : Framed m₁ m₂) (h' : Framed m₂ m₃) :
    Framed m₁ m₃ :=
  ⟨h'.program.trans h.program, h'.depth.trans h.depth,
   h'.processDepth.trans h.processDepth, h'.origin.trans h.origin⟩

theorem framed_goTo (m : Machine) (cursor : Nat) : Framed m (m.goTo cursor) :=
  ⟨rfl, rfl, rfl, rfl⟩

theorem framed_absorb (m : Machine) (c : Command) (rs : Resultset) : Framed m (m.absorb c rs) := by
  cases c <;> exact ⟨rfl, rfl, rfl, rfl⟩

theorem framed_query (c : Command) : Framed m (m.query setup c r w).machine := by
  rw [query]
  rcases (setup.client.query r.text r.args w.database).1 with rs | message | message
  · exact framed_absorb m c rs
  · exact .refl m
  · exact .refl m

theorem machine_missTarget (target : Int) : (m.missTarget setup target w).machine = m := by
  rw [missTarget]
  split
  · rfl
  · split <;> rfl

theorem Performed.framed {c : Command} (h : Performed setup c r m w ended) :
    Framed m ended.machine := by
  cases h with
  | queried => exact framed_query c
  | decided | undecided | jumped | lost | set | unset | examined => exact ⟨rfl, rfl, rfl, rfl⟩

theorem Planned.framed {c : Command} (h : Planned setup c r m w (.finish ended)) :
    Framed m ended.machine := by
  cases h with
  | performed _ _ h => exact h.framed
  | noTarget =>
    rw [machine_missTarget]
    exact .refl m
  | noAddress | callTooDeep | noName | unread | noCommands => exact .refl m

theorem execution_framed (setup : Setup σ) :
    (∀ fuel index i m w, Framed m (dispatch setup fuel index i m w).machine) ∧
      ∀ fuel m w, Framed m (loop setup fuel m w).machine := by
  apply execution_induction (D := fun _ _ _ m _ ended => Framed m ended.machine)
    (L := fun _ m _ ended => Framed m ended.machine)
  case exhausted => exact fun _ _ m _ => .refl m
  case skipped => exact fun _ _ _ m _ _ => .refl m
  case unresolved => exact fun _ _ _ m _ _ _ _ => .refl m
  case finish =>
    intro fuel index i m w r ended _ hp
    exact (planned_of_eq hp).framed
  case call =>
    -- the call counts itself in, what it calls counts back to that, and it counts itself out
    intro fuel index i m w r target called args _ _ ih
    have hinner : (m.entered args).processDepth = m.processDepth + 1 := rfl
    exact ⟨ih.program, ih.depth, by rw [returned, exited, ih.processDepth, hinner,
      Nat.add_sub_cancel], ih.origin⟩
  case enter => exact fun _ _ _ m _ _ _ _ _ _ _ => .refl m
  case halted => exact fun m _ => .refl m
  case ended => exact fun _ m _ _ => .refl m
  case passive => exact fun _ m _ _ _ _ ih => (framed_goTo m _).trans ih
  case cutOff => exact fun _ _ _ _ _ _ _ _ ih _ => ih
  case failed => exact fun _ _ _ _ _ _ _ _ _ ih _ => ih
  -- the instruction, the move of the cursor, and the rest of the loop
  case next =>
    rintro fuel m w i e m' _ _ _ ih _ rfl ihL
    exact (ih.trans (framed_goTo _ _)).trans ihL
  case jump =>
    rintro fuel m w i e m' w' target _ _ _ ih _ rfl rfl ihL
    exact (ih.trans (framed_goTo _ _)).trans ihL

theorem dispatch_framed (setup : Setup σ) (fuel index : Nat) (i : Instruction) (m : Machine)
    (w : World σ) : Framed m (dispatch setup fuel index i m w).machine :=
  (execution_framed setup).1 fuel index i m w

theorem loop_framed (setup : Setup σ) (fuel : Nat) (m : Machine) (w : World σ) :
    Framed m (loop setup fuel m w).machine :=
  (execution_framed setup).2 fuel m w

end Machine

end SqlScript
