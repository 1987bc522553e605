/-
SqlScript/Proofs/Engine/Lockstep.lean

Two runs that go on step by step together.

The first machine is `depth` includes further in than the second, and its limit for
includes is higher by as much.  It may have older captures and another call site.
Nothing that either machine does depends on these differences, so the two do the same:
they send the same statements, get the same replies, and end in the same way.

Where they still differ is fixed by the difference of depth.  The events of the first
are those of the second with all depths of includes raised (`Event.deepen`).  Errors
differ in the call site and, if the depths do differ, in the limit that they name.

`alike_simulation` is the comparison of whole runs.  Its two uses are an include, which
is compared with a run of its own, and a run after others, which is compared with a
first run.
-/
import SqlScript.Proofs.Engine.Simulation

namespace SqlScript

/-! ### What is compared -/

/-- An event seen from further out: the depths of includes are greater. -/
def Event.deepen (depth : Nat) : Event → Event
  | .dispatched d => .dispatched { d with includeDepth := d.includeDepth + depth }
  | .including name inner => .including name (inner + depth)
  | e => e

@[simp] theorem Event.query?_deepen (depth : Nat) (e : Event) :
    (e.deepen depth).query? = e.query? := by
  cases e <;> rfl

/-- Most events do not tell how deep they happen. -/
theorem Event.deepen_of_isPlain (depth : Nat) {e : Event} (h : e.isPlain = true) :
    e.deepen depth = e := by
  cases e with
  | dispatched | including | queried => cases h
  | _ => rfl

@[simp] theorem Event.deepen_zero : Event.deepen 0 = id := by
  funext e
  cases e <;> rfl

/-- A setup with a lower limit for includes. -/
def Setup.lowered {σ : Type} (setup : Setup σ) (depth : Nat) : Setup σ :=
  { setup with maxIncludeDepth := setup.maxIncludeDepth - depth }

@[simp] theorem Setup.lowered_zero {σ : Type} (setup : Setup σ) : setup.lowered 0 = setup := by
  simp [Setup.lowered]

/-- A context without its call site. -/
def Context.withoutOrigin (c : Context) : Context := { c with origin := none }

/-- A failure without its call site. -/
def Failure.withoutOrigin : Failure → Failure
  | .error e => .error { e with context := e.context.withoutOrigin }
  | .fault f => .fault f

theorem Failure.withoutOrigin_attach (f : Failure) (c : Context) :
    (f.attach c).withoutOrigin = f.withoutOrigin.attach c.withoutOrigin := by
  cases f <;> rfl

/-- Two failures that differ in the call site at most, if the depths are the same. -/
def Failure.Alike (depth : Nat) (f f' : Failure) : Prop :=
  depth = 0 → f.withoutOrigin = f'.withoutOrigin

/-- Two outcomes of the same kind, with the same value or with failures that are
alike. -/
inductive Outcome.Alike {α : Type} (depth : Nat) : Outcome α → Outcome α → Prop
  | done (a : α) : Alike depth (.done a) (.done a)
  | failed {f f' : Failure} : f.Alike depth f' → Alike depth (.failed f) (.failed f')
  | cutOff : Alike depth .cutOff .cutOff

/-- Two machines in the same state of the same program. -/
structure Machine.Alike (depth : Nat) (older : Captures) (m m' : Machine) : Prop where
  program : m.program = m'.program
  state : m.state = m'.state
  processDepth : m.processDepth = m'.processDepth
  depth : m.depth = m'.depth + depth
  captures : m.captures = older ++ m'.captures

/-- Two worlds with the same database, in which the same events came after the traces
`t` and `t'`. -/
structure World.Alike {σ : Type} (depth : Nat) (t t' : List Event) (w w' : World σ) : Prop where
  database : w.database = w'.database
  trace : ∃ es, w.trace = es.map (Event.deepen depth) ++ t ∧ w'.trace = es ++ t'

/-- Two results that are alike in each part. -/
structure Result.Alike {σ α : Type} (depth : Nat) (older : Captures) (t t' : List Event)
    (e e' : Result σ α) : Prop where
  outcome : e.outcome.Alike depth e'.outcome
  machine : e.machine.Alike depth older e'.machine
  world : e.world.Alike depth t t' e'.world

variable {σ : Type} {depth : Nat} {older : Captures} {t t' : List Event}

/-! ### Outcomes -/

theorem Failure.Alike.refl (f : Failure) : f.Alike depth f := fun _ => rfl

theorem Failure.Alike.attach {f f' : Failure} {c c' : Context} (h : f.Alike depth f')
    (hc : c.withoutOrigin = c'.withoutOrigin) : (f.attach c).Alike depth (f'.attach c') := by
  intro hz
  rw [withoutOrigin_attach, withoutOrigin_attach, h hz, hc]

/-- Outcomes that are alike are related outcomes, seen at a difference of depth. -/
theorem Outcome.alike_iff_related {α : Type} {o o' : Outcome α} :
    o.Alike depth o' ↔ o.Related (Failure.Alike depth) o' := by
  constructor
  · rintro (a | hf | -)
    · exact .done a
    · exact .failed hf
    · exact .cutOff
  · rintro (a | hf | -)
    · exact .done a
    · exact .failed hf
    · exact .cutOff

theorem Result.alike_iff_related {α : Type} {e e' : Result σ α} :
    e.Alike depth older t t' e' ↔
      e.Related (Machine.Alike depth older) (World.Alike depth t t') (Failure.Alike depth) e' :=
  ⟨fun h => ⟨Outcome.alike_iff_related.mp h.outcome, h.machine, h.world⟩,
    fun h => ⟨Outcome.alike_iff_related.mpr h.outcome, h.machine, h.world⟩⟩

/-! ### Worlds -/

namespace World

variable {w w' : World σ}

theorem Alike.refl (w : World σ) : w.Alike depth w.trace w.trace w :=
  ⟨rfl, [], rfl, rfl⟩

theorem Alike.note_deepen (h : w.Alike depth t t' w') (e : Event) :
    (w.note (e.deepen depth)).Alike depth t t' (w'.note e) := by
  obtain ⟨hd, es, ht, ht'⟩ := h
  exact ⟨hd, e :: es, by simp [note, ht], by simp [note, ht']⟩

theorem Alike.note (h : w.Alike depth t t' w') {e : Event} (he : e.deepen depth = e) :
    (w.note e).Alike depth t t' (w'.note e) := by
  have hnote := h.note_deepen e
  rwa [he] at hnote

end World

namespace Machine

variable {setup : Setup σ} {m m' : Machine} {w w' : World σ} {r : Resolved}

/-! ### Machines -/

theorem Alike.contextOf (h : m.Alike depth older m') (index : Nat) (i : Instruction)
    (r : Resolved) :
    (m.contextOf index i r).withoutOrigin = (m'.contextOf index i r).withoutOrigin := by
  simp only [Machine.contextOf, Context.withoutOrigin, h.program]

theorem Alike.dispatchEvent (h : m.Alike depth older m') (index : Nat) (i : Instruction)
    (r : Resolved) :
    m.dispatchEvent index i r = (m'.dispatchEvent index i r).deepen depth := by
  simp only [Machine.dispatchEvent, Event.deepen, h.program, h.depth, h.processDepth]

theorem Alike.begun (h : m.Alike depth older m') (hw : w.Alike depth t t' w') (index : Nat)
    (i : Instruction) (r : Resolved) :
    (m.begun index i r w).Alike depth t t' (m'.begun index i r w') := by
  rw [Machine.begun, Machine.begun, h.dispatchEvent]
  exact hw.note_deepen _

/-- The two include a script each under its own depth. -/
theorem Alike.including (h : m.Alike depth older m') (hw : w.Alike depth t t' w')
    (name : String) :
    (w.note (.including name (m.depth + 1))).Alike depth t t'
      (w'.note (.including name (m'.depth + 1))) := by
  have hnote := hw.note_deepen (.including name (m'.depth + 1))
  rwa [Event.deepen, Nat.add_right_comm, ← h.depth] at hnote

theorem Alike.withState (h : m.Alike depth older m') {s s' : RunState} (hs : s = s') :
    ({ m with state := s }).Alike depth older { m' with state := s' } :=
  ⟨h.program, hs, h.processDepth, h.depth, h.captures⟩

theorem Alike.goTo (h : m.Alike depth older m') {cursor cursor' : Nat} (hc : cursor = cursor') :
    (m.goTo cursor).Alike depth older (m'.goTo cursor') :=
  h.withState (by rw [h.state, hc])

theorem Alike.entered (h : m.Alike depth older m') (args : List Value) :
    (m.entered args).Alike depth older (m'.entered args) where
  program := h.program
  state := by simp only [Machine.entered, h.state]
  processDepth := by simp only [Machine.entered, h.processDepth]
  depth := h.depth
  captures := h.captures

/-- The machine of an included script has no older captures on either side. -/
theorem Alike.child (h : m.Alike depth older m') (program : Program) (args : List Value) :
    (m.child program args).Alike depth [] (m'.child program args) where
  program := rfl
  state := by simp only [Machine.child, h.state]
  processDepth := rfl
  depth := by
    have hd := h.depth
    simp only [Machine.child]
    omega
  captures := rfl

theorem Alike.absorb (h : m.Alike depth older m') (c : Command) (rs : Resultset) :
    (m.absorb c rs).Alike depth older (m'.absorb c rs) := by
  have hs := h.state
  have hc := h.captures
  cases c with
  | capture =>
    exact ⟨h.program, by simp only [Machine.absorb, hs], h.processDepth, h.depth,
      by simp only [Machine.absorb, Captures.push, hc, List.append_assoc]⟩
  | _ => exact h.withState (by simp only [hs])

/-! ### Instructions that end by themselves -/

theorem Alike.query (h : m.Alike depth older m') (hw : w.Alike depth t t' w') (c : Command)
    (r : Resolved) :
    (m.query setup c r w).Alike depth older t t' (m'.query (setup.lowered depth) c r w') := by
  have hsame : (setup.lowered depth).client = setup.client := rfl
  have hsent : (w.note (.queried r.text r.args)).Alike depth t t'
      (w'.note (.queried r.text r.args)) := hw.note rfl
  obtain ⟨-, es, ht, ht'⟩ := hsent
  simp only [Machine.query, hsame, hw.database]
  rcases (setup.client.query r.text r.args w'.database).1 with rs | message | message
  · exact ⟨.done none, h.absorb c rs, rfl, es, ht, ht'⟩
  · exact ⟨.failed (.refl _), h, rfl, es, ht, ht'⟩
  · exact ⟨.failed (.refl _), h, rfl, es, ht, ht'⟩

theorem Alike.jumpTarget (h : m.Alike depth older m') (r : Resolved) (marker : String) :
    m.jumpTarget r marker = m'.jumpTarget r marker := by
  rw [Machine.jumpTarget, Machine.jumpTarget, h.program]

theorem Alike.perform (h : m.Alike depth older m') (hw : w.Alike depth t t' w') (c : Command)
    (r : Resolved) :
    (m.perform setup c r w).Alike depth older t t'
      (m'.perform (setup.lowered depth) c r w') := by
  have hsame : (setup.lowered depth).client = setup.client := rfl
  have hfail : ∀ f : Failure, (⟨.failed f, m, w⟩ : Result σ (Option Nat)).Alike depth older t t'
      ⟨.failed f, m', w'⟩ := fun f => ⟨.failed (.refl f), h, hw⟩
  cases c with
  | proceed | ifvalid | validif =>
    simp only [Machine.perform, h.state]
    rcases decideGate r m'.state.blank with f | gate
    · exact hfail f
    · exact ⟨.done none, h.withState rfl, hw⟩
  | forward =>
    simp only [Machine.perform, hsame, h.jumpTarget]
    rcases m'.jumpTarget r setup.client.bindMarker with f | target
    · exact hfail f
    · exact ⟨.done (some target), h, hw⟩
  | setting =>
    simp only [Machine.perform, h.state]
    rcases setting? r.text.toList with - | blank
    · exact hfail _
    · exact ⟨.done none, h.withState rfl, hw⟩
  | examine => exact hfail _
  | _ => exact h.query hw _ r

/-! ### Includes -/

/-- Both machines may include a script, or neither may: the first has the higher limit
but is further in. -/
theorem Alike.includeName (h : m.Alike depth older m') (setup : Setup σ) (r : Resolved) :
    Agree (Failure.Alike depth) (m.includeName setup r)
      (m'.includeName (setup.lowered depth) r) := by
  rw [Machine.includeName, Machine.includeName]
  rcases Text.firstWord? r.text.toList with - | name
  · exact .error (.refl _)
  -- as much as the first is further in, its limit is higher
  have hd := h.depth
  have hiff : setup.maxIncludeDepth ≤ m.depth ↔
      (setup.lowered depth).maxIncludeDepth ≤ m'.depth := by
    simp only [Setup.lowered]
    omega
  by_cases hle : setup.maxIncludeDepth ≤ m.depth
  · simp only [if_pos hle, if_pos (hiff.mp hle)]
    refine .error fun hz => ?_
    simp only [hz, Setup.lowered_zero]
  · simp only [if_neg hle, if_neg (mt hiff.mpr hle)]
    exact .ok _

/-! ### Runs -/

/-- **Machines that are alike run together**, the second one under the lower limit. -/
theorem alike_simulation (setup : Setup σ) (depth : Nat) (t t' : List Event) :
    Simulation setup (setup.lowered depth) id (Machine.Alike depth) (World.Alike depth t t')
      (Failure.Alike depth) where
  source := rfl
  marker := rfl
  writesLog := rfl
  unresolved := id
  resolves := id
  program h := h.program
  state h := h.state
  processDepth h := h.processDepth
  goTo _ h := h.goTo rfl
  entered args h := h.entered args
  exited h := ⟨h.program, h.state, congrArg (· - 1) h.processDepth, h.depth, h.captures⟩
  note he hw := hw.note (Event.deepen_of_isPlain depth he)
  begun index h hw _ := h.begun hw index _ _
  including name h hw := h.including hw name
  same := .refl
  attach index i h hf := hf.attach (h.contextOf index i _)
  noCommands _ _ _ := rfl
  address _ _ _ _ := .refl .refl _
  includeName h _ _ _ := h.includeName setup _
  perform h hw _ _ _ _ := Result.alike_iff_related.mp (h.perform hw _ _)
  -- of the captures of the machine around it, an included script sees none
  child h _ _ _ _ _ := ⟨[], h.child _ _⟩

theorem readScript_alike (setup : Setup σ) (hw : w.Alike depth t t' w') (name : String) :
    (readScript setup name w).1 = (readScript (setup.lowered depth) name w').1 ∧
      (readScript setup name w).2.Alike depth t t'
        (readScript (setup.lowered depth) name w').2 :=
  (alike_simulation setup depth t t').readScript hw name

theorem loop_alike (h : m.Alike depth older m') (hw : w.Alike depth t t' w')
    (setup : Setup σ) (fuel : Nat) :
    (loop setup fuel m w).Alike depth older t t' (loop (setup.lowered depth) fuel m' w') :=
  Result.alike_iff_related.mpr ((alike_simulation setup depth t t').loop h hw fuel)

/-- Runs from the top are alike, whatever state the machines were in. -/
theorem runLoaded_alike {program : Program} (hp : m.program = some program)
    (hz : program.size ≠ 0) (setup : Setup σ) (fuel : Nat) (args : List Value)
    (custom : Bindings)
    (h : (m.started args custom).Alike depth older (m'.started args custom))
    (hw : w.Alike depth t t' w') :
    (runLoaded setup fuel args custom m w).Alike depth older t t'
      (runLoaded (setup.lowered depth) fuel args custom m' w') := by
  exact Result.alike_iff_related.mpr ((alike_simulation setup depth t t').runLoaded hp hz h hw fuel)

end Machine

end SqlScript
