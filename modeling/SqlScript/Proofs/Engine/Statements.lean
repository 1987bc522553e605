/-
SqlScript/Proofs/Engine/Statements.lean

The statements that a run sends are known before it starts.

Parameters, named values and returned rows are bound to statements, never written into
them, and the names of included scripts do not depend on them either.  So there is a
least set of programs that a run can reach, which is fixed by the texts of the scripts
and the bind marker alone (`Program.Reaches`), and every statement that is sent is the
text of a query instruction of one of these programs, whatever the values are
(`run_sends_static`).  The run may end, fail or be cut off at any point.
-/
import SqlScript.Program.Includes
import SqlScript.Proofs.Engine.Induction
import SqlScript.Proofs.Engine.Trace
import SqlScript.Proofs.Template.Split
import SqlScript.Session

namespace SqlScript

/-! ### What is known before a run -/

/-- The programs that a run of `top` can reach: `top` itself, and with each program those
of the scripts that its includes name. -/
inductive Program.Reaches (source : Source) (marker bindMarker : String) (top : Program) :
    Program → Prop
  | top : Reaches source marker bindMarker top top
  | included {p : Program} {i : Instruction} {name text : String} :
      Reaches source marker bindMarker top p → i ∈ p.instructions →
      i.includeName? bindMarker = some name → source name = .ok text →
      Reaches source marker bindMarker top (Program.parse marker text name)

/-- An instruction sends a text: it is a query, there are parameters with which its
statement resolves to that text, and with all other parameters with which it resolves at
all the text is the same. -/
structure Instruction.Sends (bindMarker : String) (i : Instruction) (text : String) : Prop where
  isQuery : i.command.isQuery = true
  resolves : ∃ passed custom r, resolve i.statement passed custom bindMarker = .ok r ∧
    r.text = text
  unique : ∀ passed custom r, resolve i.statement passed custom bindMarker = .ok r →
    r.text = text

namespace Machine

variable {σ : Type} {setup : Setup σ} {m : Machine} {w : World σ} {i : Instruction}
variable {r : Resolved} {p top : Program}

theorem Begins.sends (h : m.Begins setup i r) (hq : i.command.isQuery = true) :
    i.Sends setup.client.bindMarker r.text where
  isQuery := hq
  resolves := ⟨_, _, r, h.resolved, rfl⟩
  unique := by
    intro passed custom r' h'
    rw [resolve_text h', resolve_text h.resolved]

/-- The script that an include asks for is the one that its statement names. -/
theorem Begins.includeName?_eq {name : String} (h : m.Begins setup i r)
    (hc : i.command = .include) (hn : m.includeName setup r = .ok name) :
    i.includeName? setup.client.bindMarker = some name := by
  rw [includeName, resolve_text h.resolved, String.toList_ofList] at hn
  rw [Instruction.includeName?, if_pos hc]
  rcases hw : Text.firstWord?
    ((Template.parse i.statement.toList).bound setup.client.bindMarker.toList) with - | word
  · simp [hw] at hn
  · simp only [hw] at hn
    split at hn
    · cases hn
    · cases hn
      rfl

theorem mem_of_fetch? (hp : m.program = some p) {index : Int} (h : m.fetch? index = some i) :
    i ∈ p.instructions := by
  rw [fetch?, hp] at h
  cases index with
  | ofNat k => exact List.mem_of_getElem? h
  | negSucc k => cases h

/-! ### Every statement is known -/

/-- The rule of events that a run keeps: a statement that is sent is sent by an
instruction of a program that the one that is run reaches. -/
def Known (setup : Setup σ) (program : Option Program) (e : Event) : Prop :=
  ∀ call, e.query? = some call → ∃ top p i, program = some top ∧
    top.Reaches setup.source setup.marker setup.client.bindMarker p ∧
    i ∈ p.instructions ∧ i.Sends setup.client.bindMarker call.1

theorem allowsSilence_known (program : Option Program) : AllowsSilence (Known setup program) := by
  intro e he call hcall
  rw [he] at hcall
  cases hcall

theorem begun_follows {P : Event → Prop} (hP : AllowsSilence P) (index : Nat) :
    World.Follows setup.client P w (m.begun index i r w) :=
  World.follows_note w rfl (hP _ rfl)

theorem execution_known (setup : Setup σ) (top : Program) :
    (∀ fuel index i m w p, m.program = some p →
      top.Reaches setup.source setup.marker setup.client.bindMarker p → i ∈ p.instructions →
      World.Follows setup.client (Known setup (some top)) w (dispatch setup fuel index i m w).world) ∧
    ∀ fuel m w p, m.program = some p →
      top.Reaches setup.source setup.marker setup.client.bindMarker p →
      World.Follows setup.client (Known setup (some top)) w (loop setup fuel m w).world := by
  have silent : AllowsSilence (Known setup (some top)) := allowsSilence_known _
  apply execution_induction
    (D := fun _ _ i m w ended => ∀ p, m.program = some p →
      top.Reaches setup.source setup.marker setup.client.bindMarker p → i ∈ p.instructions →
      World.Follows setup.client (Known setup (some top)) w ended.world)
    (L := fun _ m w ended => ∀ p, m.program = some p →
      top.Reaches setup.source setup.marker setup.client.bindMarker p →
      World.Follows setup.client (Known setup (some top)) w ended.world)
  case exhausted => exact fun _ _ _ w _ _ _ _ => .refl w
  case skipped => exact fun _ _ _ _ w _ _ _ _ _ => World.follows_note w rfl (silent _ rfl)
  case unresolved => exact fun _ _ _ _ w _ _ _ _ _ _ _ => .refl w
  case finish =>
    intro fuel index i m w r ended hb hp p hprog hreach hi
    have hknown : i.command.isQuery = true → Known setup (some top) (.queried r.text r.args) := by
      intro hq call hcall
      cases hcall
      exact ⟨top, p, i, rfl, hreach, hi, hb.sends hq⟩
    have hend := (planned_of_eq hp).follows silent hknown
    exact (begun_follows silent index).trans hend
  case call =>
    intro fuel index i m w r target called args hb hp ih p hprog hreach hi
    -- a call stays in the program
    refine (begun_follows silent index).trans (ih p hprog hreach ?_)
    cases planned_of_eq hp with
    | call _ _ hf => exact mem_of_fetch? hprog hf
  case enter =>
    intro fuel index i m w r program w' hb hp ih p hprog hreach hi
    cases planned_of_eq hp with
    | enter hc hn hs =>
      -- the program that is entered is the next one of the closure
      obtain ⟨text, htext, rfl, -⟩ := readScript_eq_ok hs
      have hname := hb.includeName?_eq hc hn
      have hloop := ih _ rfl (.included hreach hi hname htext)
      exact (begun_follows silent index).trans ((including_follows silent hs).trans hloop)
  case halted => exact fun _ w _ _ _ => .refl w
  case ended => exact fun _ _ w _ _ _ _ => .refl w
  case passive => exact fun _ _ _ _ _ _ ih p hprog hreach => ih p hprog hreach
  case cutOff =>
    intro fuel m w i e hf _ _ ih _ p hprog hreach
    exact ih p hprog hreach (mem_of_fetch? hprog hf)
  case failed =>
    intro fuel m w i e f hf _ _ ih _ p hprog hreach
    exact ih p hprog hreach (mem_of_fetch? hprog hf)
  -- what was carried out left the program in place, so the rest of the loop runs the same one
  case next =>
    rintro fuel m w i e m' hf _ rfl ih _ rfl ihL p hprog hreach
    have hprog' := (dispatch_framed setup fuel m.state.cursor i m w).program.trans hprog
    exact (ih p hprog hreach (mem_of_fetch? hprog hf)).trans (ihL p hprog' hreach)
  case jump =>
    rintro fuel m w i e m' w' target hf _ rfl ih _ rfl rfl ihL p hprog hreach
    have hprog' := (dispatch_framed setup fuel m.state.cursor i m w).program.trans hprog
    exact (ih p hprog hreach (mem_of_fetch? hprog hf)).trans
      ((World.follows_note _ rfl (silent _ rfl)).trans (ihL p hprog' hreach))

theorem runLoaded_known (setup : Setup σ) (fuel : Nat) (args : List Value) (custom : Bindings)
    (m : Machine) (w : World σ) :
    World.Follows setup.client (Known setup m.program) w
      (runLoaded setup fuel args custom m w).world := by
  rw [runLoaded]
  rcases hm : m.program with - | top
  · exact .refl w
  by_cases hz : top.size = 0
  · simp only [hz, if_true]
    exact .refl w
  · simp only [hz, if_false]
    exact (execution_known setup top).2 fuel _ w top rfl .top

theorem run_known (setup : Setup σ) (fuel : Nat) (program : Option Program) (args : List Value)
    (custom : Bindings) (origin : Option CallSite) (m : Machine) (w : World σ) :
    World.Follows setup.client (Known setup (program <|> m.program)) w
      (run setup fuel program args custom origin m w).world := by
  rcases program with - | p
  · simpa [run] using runLoaded_known setup fuel args custom
      { m with origin := origin <|> m.origin } w
  · rw [run]
    split
    · exact .refl w
    · simpa using runLoaded_known setup fuel args custom
        { m with program := some p, origin := origin <|> m.origin } w

/-- **No value enters a statement.**  The database gets exactly the statements of the
events that a run adds to the trace, and each of them is the text of a query instruction,
the same for all parameters, in a program that the one that is run reaches. -/
theorem run_sends_static (setup : Setup σ) (fuel : Nat) (program : Option Program)
    (args : List Value) (custom : Bindings) (origin : Option CallSite) (m : Machine)
    (w : World σ) :
    ∃ events,
      (run setup fuel program args custom origin m w).world.trace = events ++ w.trace ∧
      (run setup fuel program args custom origin m w).world.database
        = setup.client.after w.database (calls events) ∧
      ∀ call ∈ calls events, ∃ top p i, (program <|> m.program) = some top ∧
        top.Reaches setup.source setup.marker setup.client.bindMarker p ∧
        i ∈ p.instructions ∧ i.Sends setup.client.bindMarker call.1 := by
  obtain ⟨events, htrace, hdata, hknown⟩ :=
    run_known setup fuel program args custom origin m w
  refine ⟨events, htrace, hdata, ?_⟩
  intro call hcall
  obtain ⟨e, he, hquery⟩ := mem_calls.mp hcall
  exact hknown e he call hquery

end Machine

end SqlScript
