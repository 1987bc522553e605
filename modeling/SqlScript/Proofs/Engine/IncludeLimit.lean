/-
SqlScript/Proofs/Engine/IncludeLimit.lean

Raising the limit for includes.

The limit is read in one place only: where an include asks for its script.  As long as no
include is refused there, a higher limit gives the same name (`includeName_withLimit`), so the
same plan, and the machines of included scripts, which work under the same limit, do the same
at every depth.  A run within which no include was refused is therefore exactly the same under
any higher limit, whether it ends well or fails (`run_withLimit`).

A refusal fails the whole run.  So a run that did not end with the failure of a refusal had no
include refused (`unrefused_of_failure?`).
-/
import SqlScript.Client.Rehearsal
import SqlScript.Client.Style
import SqlScript.Proofs.Engine.Unwinding

namespace SqlScript

/-- A setup with another limit for includes. -/
def Setup.withLimit {σ : Type} (setup : Setup σ) (limit : Int) : Setup σ :=
  { setup with maxIncludeDepth := limit }

namespace Machine

variable {σ : Type} {setup : Setup σ} {m : Machine} {w : World σ} {i : Instruction}
variable {r : Resolved} {a b : Activity σ} {frames : List Context} {limit : Int}

/-! ### Refusals -/

/-- An instruction is an include that begins and is refused, because includes are nested as
deeply as they may be. -/
def RefusesInclude (setup : Setup σ) (m : Machine) (i : Instruction) : Prop :=
  i.command = .include ∧ ∃ r, m.Begins setup i r ∧
    m.includeName setup r = .error (refusal setup.maxIncludeDepth)

/-- No include that is carried out within an activity is refused. -/
def Activity.Unrefused (setup : Setup σ) (a : Activity σ) : Prop :=
  ∀ frames fuel index i m w, Within setup a frames (.dispatch (fuel + 1) index i m w) →
    ¬ m.RefusesInclude setup i

theorem Activity.Unrefused.inward (h : a.Unrefused setup) (hl : Leads setup a frames b) :
    b.Unrefused setup :=
  fun _ fuel index i m w hw => h _ fuel index i m w (.inside hl hw)

/-- An include that is refused fails the activities around it, with its refusal. -/
theorem unrefused_of_failure?
    (h : ∀ frames, a.failure? setup ≠ some ((refusal setup.maxIncludeDepth).unwind frames)) :
    a.Unrefused setup := by
  rintro frames fuel index i m w hw ⟨hc, r, hb, hn⟩
  have hplan : m.plan setup i.command r (m.begun index i r w)
      = .finish ⟨.failed (refusal setup.maxIncludeDepth), m, m.begun index i r w⟩ := by
    rw [hc, plan, includePlan, hn]
  have hbreaks : Breaks setup (.dispatch (fuel + 1) index i m w) _ := .alone ⟨hb, _, hplan, rfl⟩
  apply h ([m.contextOf index i r] ++ frames)
  rw [Failure.unwind_append, Failure.unwind_singleton]
  exact hw.failure? hbreaks.failure?

/-! ### One instruction under a higher limit -/

theorem includeName_withLimit (hle : setup.maxIncludeDepth ≤ limit)
    (hno : m.includeName setup r ≠ .error (refusal setup.maxIncludeDepth)) :
    m.includeName (setup.withLimit limit) r = m.includeName setup r := by
  rw [includeName] at hno
  rw [includeName, includeName]
  rcases hw : Text.firstWord? r.text.toList with - | name
  · rfl
  simp only [hw] at hno ⊢
  by_cases hd : setup.maxIncludeDepth ≤ m.depth
  · rw [if_pos hd] at hno
    exact absurd rfl hno
  · have hd' : ¬ (setup.withLimit limit).maxIncludeDepth ≤ m.depth := by
      simp only [Setup.withLimit]
      omega
    rw [if_neg hd, if_neg hd']

theorem begins_withLimit (hb : m.Begins setup i r) (limit : Int) :
    m.Begins (setup.withLimit limit) i r := ⟨hb.admitted, hb.resolved⟩

/-- An instruction that is not refused asks for the same. -/
theorem plan_withLimit (hle : setup.maxIncludeDepth ≤ limit) (hb : m.Begins setup i r)
    (hno : ¬ m.RefusesInclude setup i) (w : World σ) :
    m.plan (setup.withLimit limit) i.command r w = m.plan setup i.command r w := by
  rcases hc : i.command
  case «include» =>
    have hname := includeName_withLimit hle fun hn => hno ⟨hc, r, hb, hn⟩
    rw [plan, plan, includePlan, includePlan, hname]
    rfl
  all_goals rfl

/-! ### Runs under a higher limit -/

/-- **An activity within which no include is refused** is the same under a higher limit. -/
theorem execution_withLimit (hle : setup.maxIncludeDepth ≤ limit) :
    (∀ fuel index i m w, (Activity.dispatch fuel index i m w).Unrefused setup →
      dispatch (setup.withLimit limit) fuel index i m w = dispatch setup fuel index i m w) ∧
    ∀ fuel m w, (Activity.loop fuel m w).Unrefused setup →
      loop (setup.withLimit limit) fuel m w = loop setup fuel m w := by
  have planned : ∀ {fuel index i m w r},
      (Activity.dispatch (fuel + 1) index i m w).Unrefused setup →
      m.Begins setup i r → m.plan (setup.withLimit limit) i.command r (m.begun index i r w)
        = m.plan setup i.command r (m.begun index i r w) :=
    fun h hb => plan_withLimit hle hb (h _ _ _ _ _ _ (.self _)) _
  apply execution_induction
    (D := fun fuel index i m w ended => (Activity.dispatch fuel index i m w).Unrefused setup →
      dispatch (setup.withLimit limit) fuel index i m w = ended)
    (L := fun fuel m w ended => (Activity.loop fuel m w).Unrefused setup →
      loop (setup.withLimit limit) fuel m w = ended)
  case exhausted => exact fun _ _ _ _ _ => rfl
  case skipped => exact fun _ _ _ _ _ ha _ => dispatch_skipped ha
  case unresolved => exact fun _ _ _ _ _ _ ha hr _ => dispatch_unresolved ha hr
  case finish =>
    intro fuel index i m w r ended hb hp h
    exact dispatch_finish (begins_withLimit hb limit) ((planned h hb).trans hp)
  -- what is started under the one limit is started under the other, and nothing in it is refused
  case call =>
    intro fuel index i m w r target called args hb hp ih h
    rw [dispatch_call (begins_withLimit hb limit) ((planned h hb).trans hp),
      ih (h.inward (.call hb hp))]
  case enter =>
    intro fuel index i m w r program w' hb hp ih h
    rw [dispatch_enter (begins_withLimit hb limit) ((planned h hb).trans hp),
      ih (h.inward (.enter hb hp))]
  case halted => exact fun _ _ _ => rfl
  case ended => exact fun _ _ _ hf _ => loop_ended hf
  case passive =>
    intro fuel m w i hf hp ih h
    rw [loop_passive hf hp, ih (h.inward (.passive hf hp))]
  case cutOff =>
    intro fuel m w i e hf hp hd ih ho h
    exact loop_cutOff hf hp (ih (h.inward (.turn hf hp))) ho
  case failed =>
    intro fuel m w i e f hf hp hd ih ho h
    exact loop_failed hf hp (ih (h.inward (.turn hf hp))) ho
  case next =>
    rintro fuel m w i e m' hf hp hd ih ho rfl ihL h
    rw [loop_next hf hp (ih (h.inward (.turn hf hp))) ho, ihL (h.inward (.next hf hp hd ho))]
  case jump =>
    rintro fuel m w i e m' w' target hf hp hd ih ho rfl rfl ihL h
    rw [loop_jump hf hp (ih (h.inward (.turn hf hp))) ho, ihL (h.inward (.jump hf hp hd ho))]

/-- **Raising the limit for includes does not change a run that did not hit it.**  If no
include is refused within a run, at whatever depth, then under any higher limit the run gives
the same outcome, be it a result or an error, in the same world, so the same statements were
sent, and leaves the same machine. -/
theorem run_withLimit (setup : Setup σ) (limit : Int) (fuel : Nat) (program : Option Program)
    (args : List Value) (custom : Bindings) (origin : Option CallSite) (m : Machine) (w : World σ)
    (hle : setup.maxIncludeDepth ≤ limit)
    (h : (Activity.run fuel program args custom origin m w).Unrefused setup) :
    run (setup.withLimit limit) fuel program args custom origin m w
      = run setup fuel program args custom origin m w := by
  rcases run_begins_or_idle σ program origin m with ⟨p, hp, hv, hz⟩ | ⟨f, m', -, -, hidle⟩
  · rw [run_eq_loop hp hv hz, run_eq_loop hp hv hz,
      (execution_withLimit hle).2 fuel _ w (h.inward (.start hp hv hz))]
  · rw [hidle, hidle]

/-- A script that includes another one, at the limit of two. -/
def layered : Setup Rehearsal where
  client := .ofStyle .qmark Rehearsal.query
  source := (Scripts.ofList
    [("outer", "! include inner $0"), ("inner", "! execute insert $0")]).toSource
  maxIncludeDepth := 2

/-- The run goes two includes deep, which is as deep as it may. -/
theorem layered_withLimit :
    let p : Program := { source := "main", instructions := [⟨.include, "outer $0", none⟩] }
    let w : World Rehearsal := { database := .ofRules [] }
    let after := run layered 99 (some p) [.int 7] [] none {} w
    (calls after.world.trace).length = 1 ∧
      (Activity.run 99 (some p) [.int 7] [] none {} w).Unrefused layered ∧
      run (layered.withLimit 9) 99 (some p) [.int 7] [] none {} w = after := by
  intro p w after
  have hfinishes : after.outcome.failure?.isNone = true := by decide +kernel
  have hunrefused : (Activity.run 99 (some p) [.int 7] [] none {} w).Unrefused layered := by
    apply unrefused_of_failure?
    intro frames he
    rw [Activity.failure?, Option.isNone_iff_eq_none.mp hfinishes] at he
    cases he
  refine ⟨by decide +kernel, hunrefused, ?_⟩
  exact run_withLimit layered 9 99 (some p) [.int 7] [] none {} w (by decide) hunrefused

end Machine

end SqlScript
