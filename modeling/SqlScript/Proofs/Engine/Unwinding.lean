/-
SqlScript/Proofs/Engine/Unwinding.lean

How a failure leaves nested activities.

A run carries out instructions, a call carries out another instruction, and an include
runs another program.  `Leads` relates an activity to the ones that it starts, with the
context that it adds to their failures, and `Within` is any number of such steps.  The
contexts on the way are the *frames* of the inner activity, the innermost first.

A failure passes its frames from the inside out, and each fills in what is still missing
(`Failure.unwind`).  So an activity fails exactly if an activity within it breaks by
itself, and its failure is the one of the inner activity after all frames
(`failure?_eq_some_iff`).  What errors of runs report follows from this equivalence and
from two facts on contexts: what is filled in stays (`Context.extends_unwind`), and the
parameters are those of the nearest context that has any (`Context.parameters_unwind`).
-/
import SqlScript.Proofs.Engine.Lockstep
import SqlScript.Proofs.Engine.Statements

namespace SqlScript

/-! ### Contexts behind frames -/

namespace Context

/-- What is filled in in the first context is the same in the second. -/
structure Extends (c c' : Context) : Prop where
  source : ∀ s, c.source = some s → c'.source = some s
  index : ∀ n, c.index = some n → c'.index = some n
  line : ∀ n, c.line = some n → c'.line = some n
  command : ∀ k, c.command = some k → c'.command = some k
  statement : ∀ s, c.statement = some s → c'.statement = some s

theorem Extends.refl (c : Context) : c.Extends c where
  source _ h := h
  index _ h := h
  line _ h := h
  command _ h := h
  statement _ h := h

theorem Extends.trans {c₁ c₂ c₃ : Context} (h : c₁.Extends c₂) (h' : c₂.Extends c₃) :
    c₁.Extends c₃ where
  source s hs := h'.source s (h.source s hs)
  index n hn := h'.index n (h.index n hn)
  line n hn := h'.line n (h.line n hn)
  command k hk := h'.command k (h.command k hk)
  statement s hs := h'.statement s (h.statement s hs)

theorem extends_attach (c d : Context) : c.Extends (c.attach d) := by
  constructor <;> intro x hx <;> simp [attach, hx]

/-- A context after some frames, the innermost first. -/
def unwind (c : Context) (frames : List Context) : Context := frames.foldl attach c

theorem extends_unwind (c : Context) (frames : List Context) : c.Extends (c.unwind frames) := by
  induction frames generalizing c with
  | nil => exact .refl c
  | cons d frames ih => exact (c.extends_attach d).trans (ih (c.attach d))

/-- The parameters of the first of some contexts that has any. -/
def nearest : List Context → List Value
  | [] => []
  | c :: outer => if c.parameters.isEmpty then nearest outer else c.parameters

theorem nearest_eq_nil_iff {cs : List Context} :
    nearest cs = [] ↔ ∀ c ∈ cs, c.parameters = [] := by
  induction cs with
  | nil => simp [nearest]
  | cons c outer ih => cases h : c.parameters <;> simp [nearest, h, ih]

/-- The first context counts if it has parameters, and also if none has. -/
theorem nearest_eq_head_iff {c : Context} {outer : List Context} :
    nearest (c :: outer) = c.parameters ↔
      c.parameters ≠ [] ∨ ∀ d ∈ outer, d.parameters = [] := by
  cases h : c.parameters <;> simp [nearest, h, nearest_eq_nil_iff]

theorem parameters_unwind (c : Context) (frames : List Context) :
    (c.unwind frames).parameters = nearest (c :: frames) := by
  induction frames generalizing c with
  | nil => cases h : c.parameters <;> simp [unwind, nearest, h]
  | cons d frames ih =>
    have hstep : (c.unwind (d :: frames)).parameters = nearest (c.attach d :: frames) :=
      ih (c.attach d)
    rw [hstep]
    -- the frame `d` counts exactly if `c` has no parameters yet
    cases h : c.parameters <;> simp [nearest, attach, h]

end Context

namespace Failure

/-- A failure after some frames, the innermost first. -/
def unwind (frames : List Context) : Failure → Failure
  | .error e => .error { e with context := e.context.unwind frames }
  | .fault f => .fault f

@[simp] theorem unwind_nil (f : Failure) : f.unwind [] = f := by
  cases f <;> rfl

@[simp] theorem unwind_append (f : Failure) (inner outer : List Context) :
    f.unwind (inner ++ outer) = (f.unwind inner).unwind outer := by
  cases f <;> simp [unwind, Context.unwind]

theorem unwind_singleton (f : Failure) (c : Context) : f.unwind [c] = f.attach c := by
  cases f <;> rfl

end Failure

/-! ### Outcomes -/

/-- The failure of an activity that failed. -/
def Outcome.failure? {α : Type} : Outcome α → Option Failure
  | .failed f => some f
  | _ => none

/-- The value of an activity that is done. -/
def Outcome.value? {α : Type} : Outcome α → Option α
  | .done a => some a
  | .failed _ => none
  | .cutOff => none

namespace Outcome

variable {α β : Type} {o : Outcome α} {f : Failure}

theorem value?_eq_some {a : α} : o.value? = some a ↔ o = .done a := by
  cases o <;> simp [value?]

theorem failure?_eq_some : o.failure? = some f ↔ o = .failed f := by
  cases o <;> simp [failure?]

theorem map_eq_done {g : α → β} {b : β} : o.map g = .done b ↔ ∃ a, o = .done a ∧ g a = b := by
  cases o <;> simp [map]

theorem map_eq_failed {g : α → β} : o.map g = .failed f ↔ o = .failed f := by
  cases o <;> simp [map]

theorem exists_attach_eq_failed {c : Context} :
    (∃ f, o.attach c = .failed f) ↔ ∃ f, o = .failed f := by
  cases o <;> simp [attach]

@[simp] theorem failure?_map (g : α → β) : (o.map g).failure? = o.failure? := by
  cases o <;> rfl

@[simp] theorem failure?_attach (c : Context) :
    (o.attach c).failure? = o.failure?.map (Failure.attach c) := by
  cases o <;> rfl

end Outcome

namespace Machine

variable {σ : Type}

/-! ### Activities -/

/-- Something that is under way. -/
inductive Activity (σ : Type) where
  /-- A program is run from the top. -/
  | run (fuel : Nat) (program : Option Program) (args : List Value) (custom : Bindings)
      (origin : Option CallSite) (m : Machine) (w : World σ)
  /-- A program is run from the cursor on. -/
  | loop (fuel : Nat) (m : Machine) (w : World σ)
  /-- An instruction is carried out. -/
  | dispatch (fuel index : Nat) (i : Instruction) (m : Machine) (w : World σ)

/-- The failure that an activity ends with, if it fails. -/
def Activity.failure? (setup : Setup σ) : Activity σ → Option Failure
  | .run fuel program args custom origin m w =>
    (Machine.run setup fuel program args custom origin m w).outcome.failure?
  | .loop fuel m w => (Machine.loop setup fuel m w).outcome.failure?
  | .dispatch fuel index i m w => (Machine.dispatch setup fuel index i m w).outcome.failure?

/-- The machine on which a run of `p` starts. -/
def launched (m : Machine) (p : Program) (args : List Value) (custom : Bindings)
    (origin : Option CallSite) : Machine :=
  ({ m with program := some p, origin := origin <|> m.origin } : Machine).started args custom

/-- What an activity starts, and the context that it adds to the failures of that. -/
inductive Leads (setup : Setup σ) : Activity σ → List Context → Activity σ → Prop
  /-- A run of a program that has instructions and was not refused. -/
  | start {fuel program args custom origin m w p} : (program <|> m.program) = some p →
      (∀ q, program = some q → q.error? = none) → p.size ≠ 0 →
      Leads setup (.run fuel program args custom origin m w) []
        (.loop fuel (m.launched p args custom origin) w)
  /-- The instruction at the cursor is carried out. -/
  | turn {fuel m w i} : m.fetch? m.state.cursor = some i → i.command.isPassive = false →
      Leads setup (.loop (fuel + 1) m w) [] (.dispatch fuel m.state.cursor i m w)
  /-- A passive instruction is stepped over. -/
  | passive {fuel m w i} : m.fetch? m.state.cursor = some i → i.command.isPassive = true →
      Leads setup (.loop (fuel + 1) m w) [] (.loop fuel (m.goTo (m.state.cursor + 1)) w)
  /-- The loop goes on behind an instruction. -/
  | next {fuel m w i e} : m.fetch? m.state.cursor = some i → i.command.isPassive = false →
      Machine.dispatch setup fuel m.state.cursor i m w = e → e.outcome = .done none →
      Leads setup (.loop (fuel + 1) m w) []
        (.loop fuel (e.machine.goTo (e.machine.state.cursor + 1)) e.world)
  /-- The loop goes on where a jump leads. -/
  | jump {fuel m w i e target} : m.fetch? m.state.cursor = some i →
      i.command.isPassive = false → Machine.dispatch setup fuel m.state.cursor i m w = e →
      e.outcome = .done (some target) →
      Leads setup (.loop (fuel + 1) m w) []
        (.loop fuel (e.machine.goTo target)
          (e.world.note (.jumped e.machine.state.cursor target)))
  /-- A call carries out the instruction that it addresses. -/
  | call {fuel index i m w r target called args} : m.Begins setup i r →
      m.plan setup i.command r (m.begun index i r w) = .call target called args →
      Leads setup (.dispatch (fuel + 1) index i m w) [m.contextOf index i r]
        (.dispatch fuel target called (m.entered args) (m.begun index i r w))
  /-- An include runs the program of its script. -/
  | enter {fuel index i m w r program w'} : m.Begins setup i r →
      m.plan setup i.command r (m.begun index i r w) = .enter program w' →
      Leads setup (.dispatch (fuel + 1) index i m w) [m.contextOf index i r]
        (.loop fuel (m.child program r.args) w')

/-- The second activity takes place within the first one, behind these frames. -/
inductive Within (setup : Setup σ) : Activity σ → List Context → Activity σ → Prop
  | self (a : Activity σ) : Within setup a [] a
  | inside {a b c : Activity σ} {inner outer : List Context} : Leads setup a outer b →
      Within setup b inner c → Within setup a (inner ++ outer) c

theorem Within.trans {setup : Setup σ} {a b c : Activity σ} {outer inner : List Context}
    (h : Within setup a outer b) (h' : Within setup b inner c) :
    Within setup a (inner ++ outer) c := by
  induction h with
  | self a => rwa [List.append_nil]
  | inside hl _ ih =>
    rw [← List.append_assoc]
    exact .inside hl (ih h')

/-- A program that is handed over and follows the rule of programs is run. -/
theorem Leads.start_valid {setup : Setup σ} {p : Program} (hv : p.error? = none)
    (hz : p.size ≠ 0) (fuel : Nat) (args : List Value) (custom : Bindings)
    (origin : Option CallSite) (m : Machine) (w : World σ) :
    Leads setup (.run fuel (some p) args custom origin m w) []
      (.loop fuel (m.launched p args custom origin) w) := by
  refine .start rfl ?_ hz
  intro q hq
  obtain rfl := Option.some.inj hq
  exact hv

/-! ### Activities that break by themselves -/

/-- An instruction fails by itself: it begins, and it ends with the failure `f` without
carrying out another instruction or running another program. -/
structure FailsAlone (setup : Setup σ) (index : Nat) (i : Instruction) (m : Machine)
    (w : World σ) (r : Resolved) (f : Failure) : Prop where
  begins : m.Begins setup i r
  ends : ∃ ended, m.plan setup i.command r (m.begun index i r w) = .finish ended ∧
    ended.outcome = .failed f

/-- An activity fails, and no activity within it does. -/
inductive Breaks (setup : Setup σ) : Activity σ → Failure → Prop
  /-- The program that is to be run breaks the rule of programs. -/
  | refused {fuel args custom origin m w} {p : Program} {e : ProcedureError} :
      p.error? = some e → Breaks setup (.run fuel (some p) args custom origin m w) (.error e)
  /-- There is nothing to run. -/
  | idle {fuel program args custom origin m w} :
      (∀ p, (program <|> m.program) = some p → p.size = 0) →
      Breaks setup (.run fuel program args custom origin m w)
        (.error (noCommands ((program <|> m.program).map Program.source) (origin <|> m.origin)))
  /-- The placeholders of a statement cannot be resolved. -/
  | unresolved {fuel index i m w} {f : NumberFault} : m.admits i.command = true →
      resolve i.statement m.state.passed m.state.custom setup.client.bindMarker = .error f →
      Breaks setup (.dispatch (fuel + 1) index i m w) (.fault (.number f))
  /-- An instruction fails by itself, and is the first to report it. -/
  | alone {fuel index i m w r f} : m.FailsAlone setup index i w r f →
      Breaks setup (.dispatch (fuel + 1) index i m w) (f.attach (m.contextOf index i r))

/-- The failure of an activity goes back to one within it. -/
def Broken (setup : Setup σ) (a : Activity σ) (f : Failure) : Prop :=
  ∃ frames b f₀, Within setup a frames b ∧ Breaks setup b f₀ ∧ f = f₀.unwind frames

variable {setup : Setup σ} {a b c : Activity σ} {f : Failure} {frames : List Context}

theorem Breaks.broken (h : Breaks setup a f) : Broken setup a f :=
  ⟨[], a, f, .self a, h, f.unwind_nil.symm⟩

theorem Broken.outward (hl : Leads setup a frames b) (h : Broken setup b f) :
    Broken setup a (f.unwind frames) := by
  obtain ⟨inner, c, f₀, hw, hb, rfl⟩ := h
  exact ⟨inner ++ frames, c, f₀, .inside hl hw, hb, (f₀.unwind_append inner frames).symm⟩

/-- Where nothing is added on the way, the failure is the same. -/
theorem Broken.through (hl : Leads setup a [] b) (h : Broken setup b f) : Broken setup a f := by
  simpa using h.outward hl

/-! ### Runs as loops -/

variable {m : Machine} {w : World σ}

theorem runLoaded_nothing (hz : ∀ p, m.program = some p → p.size = 0) (fuel : Nat)
    (args : List Value) (custom : Bindings) :
    (runLoaded setup fuel args custom m w).outcome
      = .failed (.error (noCommands (m.program.map Program.source) m.origin)) := by
  rcases hm : m.program with - | p
  · simp [runLoaded, hm]
  · simp [runLoaded, hm, hz p hm]

theorem run_unrefused {program : Option Program}
    (hv : ∀ q, program = some q → q.error? = none) (fuel : Nat) (args : List Value)
    (custom : Bindings) (origin : Option CallSite) :
    run setup fuel program args custom origin m w
      = runLoaded setup fuel args custom
          { m with program := program <|> m.program, origin := origin <|> m.origin } w := by
  rcases program with - | p
  · simp [run]
  · simp [run, hv p rfl]

theorem run_eq_loop {program : Option Program} {p : Program}
    (hp : (program <|> m.program) = some p) (hv : ∀ q, program = some q → q.error? = none)
    (hz : p.size ≠ 0) (fuel : Nat) (args : List Value) (custom : Bindings)
    (origin : Option CallSite) :
    let ended := loop setup fuel (m.launched p args custom origin) w
    run setup fuel program args custom origin m w
      = ⟨ended.outcome.map fun _ => ended.machine.state.last, ended.machine, ended.world⟩ := by
  rw [run_unrefused hv, hp, runLoaded_eq rfl hz]
  rfl

/-- A run begins, or it fails at once: then nothing happens, whatever it would work with, and
the machine stays in its state. -/
theorem run_begins_or_idle (σ : Type) (program : Option Program) (origin : Option CallSite)
    (m : Machine) :
    (∃ p, (program <|> m.program) = some p ∧ (∀ q, program = some q → q.error? = none) ∧
      p.size ≠ 0) ∨
    ∃ f m', m'.state = m.state ∧ m'.captures = m.captures ∧
      ∀ (setup : Setup σ) fuel args custom w,
        run setup fuel program args custom origin m w = ⟨.failed f, m', w⟩ := by
  rcases hr : program.bind Program.error? with - | e
  · have hv : ∀ q, program = some q → q.error? = none := by
      rintro q rfl
      exact hr
    rcases hp : (program <|> m.program) with - | p
    · refine .inr ⟨.error (noCommands none (origin <|> m.origin)),
        { m with program := none, origin := origin <|> m.origin }, rfl, rfl, ?_⟩
      intro setup fuel args custom w
      rw [run_unrefused hv, hp, runLoaded]
    by_cases hz : p.size = 0
    · refine .inr ⟨.error (noCommands (some p.source) (origin <|> m.origin)),
        { m with program := some p, origin := origin <|> m.origin }, rfl, rfl, ?_⟩
      intro setup fuel args custom w
      rw [run_unrefused hv, hp]
      simp only [runLoaded, hz, if_true]
    · exact .inl ⟨p, rfl, hv, hz⟩
  · obtain ⟨p, rfl, he⟩ := Option.bind_eq_some_iff.mp hr
    exact .inr ⟨.error e, m, rfl, rfl, fun setup fuel args custom w => by simp only [run, he]⟩

theorem run_launched {program : Option Program} {p : Program}
    (hp : (program <|> m.program) = some p) (hv : ∀ q, program = some q → q.error? = none)
    (hz : p.size ≠ 0) (fuel : Nat) (args : List Value) (custom : Bindings)
    (origin : Option CallSite) :
    (run setup fuel program args custom origin m w).outcome.failure?
      = (loop setup fuel (m.launched p args custom origin) w).outcome.failure? := by
  rw [run_eq_loop hp hv hz, Outcome.failure?_map]

/-! ### Failures from the inside out -/

/-- One step: the failure of what an activity starts is its own, with the context that it
adds. -/
theorem Leads.failure? (h : Leads setup a frames b) (hb : b.failure? setup = some f) :
    a.failure? setup = some (f.unwind frames) := by
  cases h with
  | start hp hv hz =>
    rw [Activity.failure?, run_launched hp hv hz, Failure.unwind_nil]
    exact hb
  | turn hf hp =>
    have ho := Outcome.failure?_eq_some.mp hb
    rw [Activity.failure?, loop_failed hf hp rfl ho, Failure.unwind_nil]
    rfl
  | passive hf hp =>
    rw [Activity.failure?, loop_passive hf hp, Failure.unwind_nil]
    exact hb
  | next hf hp hd ho =>
    rw [Activity.failure?, loop_next hf hp hd ho, Failure.unwind_nil]
    exact hb
  | jump hf hp hd ho =>
    rw [Activity.failure?, loop_jump hf hp hd ho, Failure.unwind_nil]
    exact hb
  | call hbegins hplan =>
    rw [Activity.failure?] at hb
    rw [Activity.failure?, dispatch_call hbegins hplan, returned, Outcome.failure?_attach,
      Outcome.failure?_map, hb, Failure.unwind_singleton]
    rfl
  | enter hbegins hplan =>
    rw [Activity.failure?] at hb
    rw [Activity.failure?, dispatch_enter hbegins hplan, left, Outcome.failure?_attach,
      Outcome.failure?_map, hb, Failure.unwind_singleton]
    rfl

/-- Any number of steps: a failure within an activity is its own after all frames. -/
theorem Within.failure? (h : Within setup a frames b) (hb : b.failure? setup = some f) :
    a.failure? setup = some (f.unwind frames) := by
  induction h with
  | self a => rwa [Failure.unwind_nil]
  | inside hl _ ih =>
    rw [Failure.unwind_append]
    exact hl.failure? (ih hb)

theorem Breaks.failure? (h : Breaks setup a f) : a.failure? setup = some f := by
  cases h with
  | refused he => simp [Activity.failure?, run, he, Outcome.failure?]
  | @idle _ program _ _ _ _ _ hz =>
    -- a program without instructions is not refused
    have hv : ∀ q, program = some q → q.error? = none := by
      intro q hq
      have hsize := hz q (by simp [hq])
      simp [Program.error?, List.length_eq_zero_iff.mp hsize, Program.firstError?]
    rw [Activity.failure?, run_unrefused hv, runLoaded_nothing hz]
    rfl
  | unresolved ha hr =>
    rw [Activity.failure?, dispatch_unresolved ha hr]
    rfl
  | alone h =>
    obtain ⟨ended, hplan, ho⟩ := h.ends
    rw [Activity.failure?, dispatch_finish h.begins hplan, Result.attach,
      Outcome.failure?_attach, ho]
    rfl

/-! ### Failures from the outside in -/

theorem execution_broken (setup : Setup σ) :
    (∀ fuel index i m w f, (dispatch setup fuel index i m w).outcome.failure? = some f →
      Broken setup (.dispatch fuel index i m w) f) ∧
    ∀ fuel m w f, (loop setup fuel m w).outcome.failure? = some f →
      Broken setup (.loop fuel m w) f := by
  apply execution_induction
    (D := fun fuel index i m w ended => ∀ f, ended.outcome.failure? = some f →
      Broken setup (.dispatch fuel index i m w) f)
    (L := fun fuel m w ended => ∀ f, ended.outcome.failure? = some f →
      Broken setup (.loop fuel m w) f)
  case exhausted => simp [Outcome.failure?]
  case skipped => simp [Outcome.failure?]
  case unresolved =>
    intro fuel index i m w f ha hr g hg
    obtain rfl : Failure.fault (.number f) = g := by simpa [Outcome.failure?] using hg
    exact (Breaks.unresolved ha hr).broken
  case finish =>
    intro fuel index i m w r ended hb hp g hg
    rw [Result.attach, Outcome.failure?_attach, Option.map_eq_some_iff] at hg
    obtain ⟨f, hf, rfl⟩ := hg
    exact (Breaks.alone ⟨hb, ended, hp, Outcome.failure?_eq_some.mp hf⟩).broken
  case call =>
    intro fuel index i m w r target called args hb hp ih g hg
    rw [returned, Outcome.failure?_attach, Outcome.failure?_map, Option.map_eq_some_iff] at hg
    obtain ⟨f, hf, rfl⟩ := hg
    rw [← Failure.unwind_singleton]
    exact (ih f hf).outward (.call hb hp)
  case enter =>
    intro fuel index i m w r program w' hb hp ih g hg
    rw [left, Outcome.failure?_attach, Outcome.failure?_map, Option.map_eq_some_iff] at hg
    obtain ⟨f, hf, rfl⟩ := hg
    rw [← Failure.unwind_singleton]
    exact (ih f hf).outward (.enter hb hp)
  case halted => simp [Outcome.failure?]
  case ended => simp [Outcome.failure?]
  case passive =>
    intro fuel m w i hf hp ih g hg
    exact (ih g hg).through (.passive hf hp)
  case cutOff => simp [Outcome.failure?]
  case failed =>
    intro fuel m w i e f hf hp hd ih ho g hg
    obtain rfl : f = g := by simpa [Outcome.failure?] using hg
    exact (ih f (Outcome.failure?_eq_some.mpr ho)).through (.turn hf hp)
  case next =>
    rintro fuel m w i e m' hf hp hd ih ho rfl ihL g hg
    exact (ihL g hg).through (.next hf hp hd ho)
  case jump =>
    rintro fuel m w i e m' w' target hf hp hd ih ho rfl rfl ihL g hg
    exact (ihL g hg).through (.jump hf hp hd ho)

theorem run_broken {fuel : Nat} {program : Option Program} {args : List Value}
    {custom : Bindings} {origin : Option CallSite}
    (h : (Activity.run fuel program args custom origin m w).failure? setup = some f) :
    Broken setup (.run fuel program args custom origin m w) f := by
  rcases hr : program.bind Program.error? with - | e
  · -- nothing is refused: there is nothing to run, or there is a loop
    have hv : ∀ q, program = some q → q.error? = none := by
      rintro q rfl
      exact hr
    by_cases hz : ∀ p, (program <|> m.program) = some p → p.size = 0
    · have hidle : Breaks setup (.run fuel program args custom origin m w) _ := .idle hz
      rw [hidle.failure?] at h
      obtain rfl := Option.some.inj h
      exact hidle.broken
    · obtain ⟨p, hex⟩ := Classical.not_forall.mp hz
      obtain ⟨hp, hz⟩ := Classical.not_imp.mp hex
      have hloop := h
      rw [Activity.failure?, run_launched hp hv hz] at hloop
      exact ((execution_broken setup).2 fuel _ w f hloop).through (.start hp hv hz)
  · obtain ⟨p, rfl, he⟩ := Option.bind_eq_some_iff.mp hr
    have hrefused : Breaks setup (.run fuel (some p) args custom origin m w) _ := .refused he
    rw [hrefused.failure?] at h
    obtain rfl := Option.some.inj h
    exact hrefused.broken

/-- **Where failures come from.**  An activity fails with `f` exactly if an activity within
it breaks by itself and `f` is what its failure becomes behind its frames. -/
theorem failure?_eq_some_iff : a.failure? setup = some f ↔ Broken setup a f := by
  constructor
  · intro h
    cases a with
    | run => exact run_broken h
    | loop fuel m w => exact (execution_broken setup).2 fuel m w f h
    | dispatch fuel index i m w => exact (execution_broken setup).1 fuel index i m w f h
  · rintro ⟨frames, b, f₀, hw, hb, rfl⟩
    exact hw.failure? hb.failure?

/-! ### Where activities take place -/

/-- An activity takes place in a program that `top` reaches, and an instruction that is
carried out stands in it at its address. -/
def Activity.Placed (setup : Setup σ) (top : Program) : Activity σ → Prop
  | .run _ program _ _ _ m _ => (program <|> m.program) = some top
  | .loop _ m _ => ∃ p, m.program = some p ∧
      top.Reaches setup.source setup.marker setup.client.bindMarker p
  | .dispatch _ index i m _ => ∃ p, m.program = some p ∧
      top.Reaches setup.source setup.marker setup.client.bindMarker p ∧ p.get? index = some i

variable {p top : Program} {i : Instruction}

theorem get?_of_fetch? (hp : m.program = some p) {index : Int} (h : m.fetch? index = some i) :
    p.get? index = some i := by
  simpa [fetch?, hp] using h

/-- Only addresses from zero on have instructions. -/
theorem get?_toNat {index : Int} (h : p.get? index = some i) : p.get? index.toNat = some i := by
  cases index with
  | ofNat n => exact h
  | negSucc n => cases h

theorem mem_of_get? {index : Int} (h : p.get? index = some i) : i ∈ p.instructions := by
  cases index with
  | ofNat n => exact List.mem_of_getElem? h
  | negSucc n => cases h

/-- What an activity starts takes place in the same program, or in the next one that the
program reaches. -/
theorem Leads.placed (h : Leads setup a frames b) (ha : a.Placed setup top) :
    b.Placed setup top := by
  cases h with
  | start hp hv hz =>
    have htop : some top = some _ := ha.symm.trans hp
    obtain rfl := Option.some.inj htop
    exact ⟨top, rfl, .top⟩
  | turn hf hp =>
    obtain ⟨p, hm, hr⟩ := ha
    exact ⟨p, hm, hr, get?_of_fetch? hm hf⟩
  | passive hf hp => exact ha
  | next hf hp hd ho =>
    obtain ⟨p, hm, hr⟩ := ha
    subst hd
    exact ⟨p, (dispatch_framed setup _ _ _ _ _).program.trans hm, hr⟩
  | jump hf hp hd ho =>
    obtain ⟨p, hm, hr⟩ := ha
    subst hd
    exact ⟨p, (dispatch_framed setup _ _ _ _ _).program.trans hm, hr⟩
  | call hbegins hplan =>
    obtain ⟨p, hm, hr, -⟩ := ha
    cases planned_of_eq hplan with
    | call _ _ hf => exact ⟨p, hm, hr, get?_toNat (get?_of_fetch? hm hf)⟩
  | enter hbegins hplan =>
    obtain ⟨p, hm, hr, hi⟩ := ha
    cases planned_of_eq hplan with
    | enter hc hn hs =>
      obtain ⟨text, htext, rfl, -⟩ := readScript_eq_ok hs
      have hname := hbegins.includeName?_eq hc hn
      exact ⟨_, rfl, .included hr (mem_of_get? hi) hname htext⟩

theorem Within.placed (h : Within setup a frames b) (ha : a.Placed setup top) :
    b.Placed setup top := by
  induction h with
  | self a => exact ha
  | inside hl _ ih => exact ih (hl.placed ha)

/-- No activity starts a run from the top, so a run is within itself only. -/
theorem Within.eq_run {fuel : Nat} {program : Option Program} {args : List Value}
    {custom : Bindings} {origin : Option CallSite}
    (h : Within setup a frames (.run fuel program args custom origin m w)) :
    a = .run fuel program args custom origin m w ∧ frames = [] := by
  generalize hb : Activity.run fuel program args custom origin m w = b at h
  induction h with
  | self a => exact ⟨rfl, rfl⟩
  | inside hl _ ih =>
    obtain ⟨rfl, -⟩ := ih hb
    subst hb
    cases hl

/-- A run within which an instruction is carried out has a program. -/
theorem Within.exists_top {fuel : Nat} {program : Option Program} {args : List Value}
    {custom : Bindings} {origin : Option CallSite} {fuel' index : Nat} {m' : Machine}
    {w' : World σ}
    (h : Within setup (.run fuel program args custom origin m w) frames
      (.dispatch fuel' index i m' w')) :
    ∃ top, (program <|> m.program) = some top := by
  cases h with
  | inside hl _ =>
    cases hl with
    | start hp hv hz => exact ⟨_, hp⟩

end Machine

end SqlScript
