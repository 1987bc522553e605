/-
SqlScript/Proofs/Session/Nesting.lean

How deeply activities are nested.

A machine counts the calls that are under way on it, and the includes that enclose its
script.  The frames of an activity tell both: a call adds one to the calls, and an include
adds one to the includes and starts from no call (`Within.counts`).  A call is carried out
only below its limit, and so is an include, so neither count exceeds its limit
(`Within.shallow`).

An instruction leaves both counts as it found them, whether it is done, fails or is cut off
(`dispatch_framed`), so between operations both are zero, however the operations ended
(`Settled`).  What counts towards a limit is therefore nested in the same operation: a run
that fails within calls takes nothing away from the runs after it (`session_nesting`).
-/
import SqlScript.Client.Rehearsal
import SqlScript.Client.Style
import SqlScript.Proofs.Engine.Isolation
import SqlScript.Proofs.Engine.Unwinding
import SqlScript.Proofs.Session.History

namespace SqlScript

/-! ### Sessions -/

/-- An operation, with what it works with.  Scripts and databases may change from one
operation to the next. -/
structure Occasion (σ : Type) where
  setup : Setup σ
  world : World σ
  operation : Operation

namespace Machine

variable {σ : Type}

/-- The machine after operations in turn. -/
def afterOccasions (m : Machine) (past : List (Occasion σ)) : Machine :=
  past.foldl (fun m o => (operate o.setup m o.world o.operation).1) m

theorem Settled.afterOccasions {m : Machine} (h : Settled m) (past : List (Occasion σ)) :
    Settled (m.afterOccasions past) := by
  induction past generalizing m with
  | nil => exact h
  | cons o past ih => exact ih (h.operate o.operation)

/-- What an operation starts, if it runs a program or carries out an instruction. -/
def activity? (m : Machine) (w : World σ) : Operation → Option (Activity σ)
  | .run fuel program args custom origin => some (.run fuel program args custom origin m w)
  | .runAt fuel index args custom =>
    (m.fetch? index).bind fun i =>
      let m := m.withParameters args custom
      if m.admits i.command then some (.dispatch fuel index.toNat i m w) else none
  | _ => none

/-- The machine on which an activity starts. -/
def Activity.machine : Activity σ → Machine
  | .run _ _ _ _ _ m _ => m
  | .loop _ m _ => m
  | .dispatch _ _ _ m _ => m

theorem machine_of_activity? {m : Machine} {w : World σ} {op : Operation} {a : Activity σ}
    (h : m.activity? w op = some a) :
    a.machine.processDepth = m.processDepth ∧ a.machine.depth = m.depth := by
  cases op with
  | run =>
    cases h
    exact ⟨rfl, rfl⟩
  | runAt =>
    obtain ⟨i, -, h⟩ := Option.bind_eq_some_iff.mp h
    obtain ⟨-, started⟩ := Option.ite_none_right_eq_some.mp h
    cases started
    exact ⟨rfl, rfl⟩
  | _ => cases h

end Machine

/-! ### Counting frames -/

/-- Whether a frame is that of an include. -/
def Context.isInclude (c : Context) : Bool := c.command = some Command.include.keyword

/-- How many includes are among frames. -/
def includesAround (frames : List Context) : Nat := frames.countP Context.isInclude

/-- How many calls are under way behind frames, the innermost first, with `calls` of them
outside of the frames.  Those outside of an include are under way on another machine. -/
def callsAround (calls : Nat) (frames : List Context) : Nat :=
  frames.foldr (fun c calls => if c.isInclude then 0 else calls + 1) calls

theorem includesAround_append (inner outer : List Context) :
    includesAround (inner ++ outer) = includesAround inner + includesAround outer :=
  List.countP_append

theorem callsAround_append (calls : Nat) (inner outer : List Context) :
    callsAround calls (inner ++ outer) = callsAround (callsAround calls outer) inner :=
  List.foldr_append

namespace Machine

variable {σ : Type} {setup : Setup σ} {a b : Activity σ} {frames : List Context}

theorem isInclude_contextOf (m : Machine) (index : Nat) (i : Instruction) (r : Resolved) :
    (m.contextOf index i r).isInclude = decide (i.command = .include) := by
  rw [Context.isInclude, contextOf]
  cases i.command <;> rfl

/-! ### Counts and limits -/

/-- A machine is nested no deeper than it may be. -/
structure Shallow (setup : Setup σ) (m : Machine) : Prop where
  processDepth : m.processDepth ≤ maxProcessDepth
  depth : (m.depth : Int) ≤ max 0 setup.maxIncludeDepth

theorem Settled.shallow {m : Machine} (h : Settled m) (setup : Setup σ) : m.Shallow setup where
  processDepth := h.processDepth.trans_le (Nat.zero_le _)
  depth := by
    rw [h.depth]
    exact Int.le_max_left 0 _

/-- One step: the counts grow by the frame. -/
theorem Leads.counts (h : Leads setup a frames b) :
    b.machine.processDepth = callsAround a.machine.processDepth frames ∧
      b.machine.depth = a.machine.depth + includesAround frames := by
  cases h with
  | start => exact ⟨rfl, rfl⟩
  | turn => exact ⟨rfl, rfl⟩
  | passive => exact ⟨rfl, rfl⟩
  | @next fuel m w i e _ _ hd | @jump fuel m w i e _ _ _ hd =>
    -- the instruction that was carried out left the counts alone
    have framed : Framed m e.machine := hd ▸ dispatch_framed setup fuel m.state.cursor i m w
    exact ⟨framed.processDepth, framed.depth⟩
  | call _ hplan =>
    cases planned_of_eq hplan with
    | call hc =>
      simp [callsAround, includesAround, isInclude_contextOf, hc, Activity.machine, entered]
  | enter _ hplan =>
    cases planned_of_eq hplan with
    | enter hc =>
      simp [callsAround, includesAround, isInclude_contextOf, hc, Activity.machine, child]

/-- One step: the counts stay within the limits. -/
theorem Leads.shallow (h : Leads setup a frames b) (ha : a.machine.Shallow setup) :
    b.machine.Shallow setup := by
  cases h with
  | start => exact ⟨ha.processDepth, ha.depth⟩
  | turn => exact ha
  | passive => exact ⟨ha.processDepth, ha.depth⟩
  | @next fuel m w i e _ _ hd | @jump fuel m w i e _ _ _ hd =>
    have framed : Framed m e.machine := hd ▸ dispatch_framed setup fuel m.state.cursor i m w
    exact ⟨framed.processDepth.trans_le ha.processDepth,
      (congrArg Int.ofNat framed.depth).trans_le ha.depth⟩
  | call _ hplan =>
    cases planned_of_eq hplan with
    | call _ _ _ free => exact ⟨free, ha.depth⟩
  | @enter _ _ _ m _ _ _ _ _ hplan =>
    cases planned_of_eq hplan with
    | enter _ hn =>
      have free : m.depth < setup.maxIncludeDepth := depth_lt_of_includeName hn
      have further : ((m.depth + 1 : Nat) : Int) ≤ setup.maxIncludeDepth := by omega
      exact ⟨Nat.zero_le _, Int.le_trans further (Int.le_max_right 0 _)⟩

/-- Any number of steps: the counts grow by the frames. -/
theorem Within.counts (h : Within setup a frames b) :
    b.machine.processDepth = callsAround a.machine.processDepth frames ∧
      b.machine.depth = a.machine.depth + includesAround frames := by
  induction h with
  | self a => exact ⟨rfl, rfl⟩
  | inside hl _ ih =>
    obtain ⟨calls, includes⟩ := hl.counts
    rw [callsAround_append, ← calls, includesAround_append, Nat.add_comm (includesAround _),
      ← Nat.add_assoc, ← includes]
    exact ih

/-- Any number of steps: the counts stay within the limits. -/
theorem Within.shallow (h : Within setup a frames b) (ha : a.machine.Shallow setup) :
    b.machine.Shallow setup := by
  induction h with
  | self a => exact ha
  | inside hl _ ih => exact ih (hl.shallow ha)

/-! ### Sessions, and what is nested in them -/

/-- **Nesting is bounded and leaves no trace.**  After any operations, failed ones included,
no call and no include is under way.  Wherever an instruction is carried out in the next
operation, the counts are within the limits and are those of its frames, and the instruction
leaves them as it finds them.  So the limit for calls is the same in every run: a call is
refused only behind as many calls of its own run as there may be. -/
theorem session_nesting (past : List (Occasion σ)) (now : Occasion σ) :
    let m := afterOccasions {} past
    (m.processDepth = 0 ∧ m.depth = 0) ∧
    ∀ a frames fuel index i m' w', m.activity? now.world now.operation = some a →
      Within now.setup a frames (.dispatch fuel index i m' w') →
      let left := (dispatch now.setup fuel index i m' w').machine
      m'.Shallow now.setup ∧
      (m'.processDepth = callsAround 0 frames ∧ m'.depth = includesAround frames) ∧
      (left.processDepth = m'.processDepth ∧ left.depth = m'.depth) ∧
      ∀ r target args called, i.command = .process →
        addressOperand r now.setup.client.bindMarker = .ok (target, args) →
        m'.fetch? target = some called →
        ∀ w'', m'.plan now.setup i.command r w''
          = if callsAround 0 frames < maxProcessDepth then .call target.toNat called args
            else .finish ⟨.failed (.of (.processTooDeep maxProcessDepth)), m', w''⟩ := by
  intro m
  have settled : Settled m := settled_new.afterOccasions past
  refine ⟨⟨settled.processDepth, settled.depth⟩, ?_⟩
  intro a frames fuel index i m' w' starts within left
  obtain ⟨processDepth, depth⟩ := machine_of_activity? starts
  have shallow : m.Shallow now.setup := settled.shallow now.setup
  have started : a.machine.Shallow now.setup :=
    ⟨processDepth.trans_le shallow.processDepth,
      (congrArg Int.ofNat depth).trans_le shallow.depth⟩
  obtain ⟨calls, includes⟩ := within.counts
  rw [processDepth, settled.processDepth] at calls
  rw [depth, settled.depth, Nat.zero_add] at includes
  have framed : Framed m' left := dispatch_framed now.setup fuel index i m' w'
  refine ⟨within.shallow started, ⟨calls, includes⟩,
    ⟨framed.processDepth, framed.depth⟩, ?_⟩
  intro r target args called hc ha hf w''
  rw [hc, plan_call w'' ha hf, ← calls]
  rfl

/-- A source with a script of nested calls, and a database that may break down. -/
def chained : Setup Rehearsal where
  client := .ofStyle .qmark Rehearsal.query
  source := (Scripts.ofList [("part", "! process 1\n! process 2\n! setting null")]).toSource

/-- A program that calls itself. -/
def endless : Program := Program.parse "!" "! process 0" "endless"

/-- A program whose database breaks down in a call. -/
def broken : Program := Program.parse "!" "! process 1\n! execute boom" "broken"

/-- A program that includes the script. -/
def chainedMain : Program := Program.parse "!" "! include part" "main"

/-- On a machine on which no include is under way, the program comes to the second call of
the script, behind its first call and behind the include. -/
theorem chained_within (m : Machine) (hd : m.depth = 0) (w : World Rehearsal) :
    ∃ frames fuel m' w',
      Within chained (.run 100 (some chainedMain) [] [] none m w) frames
        (.dispatch fuel 1 ⟨.process, "2", some 2⟩ m' w') ∧
      m'.fetch? 2 = some ⟨.setting, "null", some 3⟩ ∧
      callsAround 0 frames = 1 ∧ includesAround frames = 1 := by
  have part : Template.parse "part".toList = ⟨['p', 'a', 'r', 't'], []⟩ := by
    with_unfolding_all decide
  have one : Template.parse "1".toList = ⟨['1'], []⟩ := by with_unfolding_all decide
  have resolved_part : resolve "part" [] [] "?" = .ok ⟨"part", [], "part"⟩ := by
    rw [resolve, part]
    rfl
  have resolved_one : resolve "1" [] [] "?" = .ok ⟨"1", [], "1"⟩ := by
    rw [resolve, one]
    rfl
  obtain ⟨program, captures, state, depth, processDepth, origin⟩ := m
  obtain rfl : depth = 0 := hd
  exact ⟨_, 96, _, _,
    .inside (.start_valid rfl (by decide) ..) (.inside (.turn rfl rfl)
      (.inside (.enter ⟨rfl, resolved_part⟩ rfl) (.inside (.turn rfl rfl)
        (.inside (.call ⟨rfl, resolved_one⟩ rfl) (.self _))))), rfl, rfl, rfl⟩

/-- Neither a run whose calls were nested too deeply nor one whose database broke down within
a call takes anything away from the calls of the next run. -/
theorem session_nesting_after_failures :
    let w : World Rehearsal := { database := .ofRules [⟨"boom", [.crash "gone"]⟩] }
    let past : List (Occasion Rehearsal) :=
      [⟨chained, w, .run 100 (some endless) [] [] none⟩,
       ⟨chained, w, .run 100 (some broken) [] [] none⟩]
    let m := afterOccasions {} past
    (run chained 100 (some endless) [] [] none {} w).outcome.failure?.isSome = true ∧
    (run chained 100 (some broken) [] [] none {} w).outcome.failure?.isSome = true ∧
    ∃ frames fuel m' w',
      Within chained (.run 100 (some chainedMain) [] [] none m w) frames
        (.dispatch fuel 1 ⟨.process, "2", some 2⟩ m' w') ∧
      m'.processDepth = 1 ∧ m'.depth = 1 ∧
      (dispatch chained fuel 1 ⟨.process, "2", some 2⟩ m' w').machine.processDepth = 1 ∧
      m'.plan chained .process ⟨"2", [], "2"⟩ w'
        = .call 2 ⟨.setting, "null", some 3⟩ [] := by
  intro w past m
  have nested := session_nesting past ⟨chained, w, .run 100 (some chainedMain) [] [] none⟩
  obtain ⟨⟨-, depth⟩, counts⟩ := nested
  obtain ⟨frames, fuel, m', w', within, hf, calls, includes⟩ := chained_within m depth w
  obtain ⟨-, ⟨processDepth, depth'⟩, ⟨same, -⟩, limit⟩ := counts _ _ _ _ _ _ _ rfl within
  have goes := limit ⟨"2", [], "2"⟩ 2 [] _ rfl rfl hf w'
  refine ⟨by decide +kernel, by decide +kernel, frames, fuel, m', w', within,
    processDepth.trans calls, depth'.trans includes, same.trans (processDepth.trans calls), ?_⟩
  rw [calls] at goes
  exact goes

end Machine

end SqlScript
