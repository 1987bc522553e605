/-
SqlScript/Proofs/Engine/Cursor.lean

Where the cursor of a run can be.

Carrying out an instruction does not move the cursor, whatever it calls or includes
(`dispatch_cursor`).  Only the loop does, to the next address or to the target of a jump.  The
target may come from any text or value, but a negative one is refused, and one past the end
is taken for the end (`jumpTarget_eq_ok`).  So in every loop that a run starts, at any depth
of includes, the cursor stays between zero and the size of the program, and every
instruction that is carried out stands in it.  A loop that is done has its cursor at the end,
and one that failed has it at the instruction that it was carrying out (`run_cursor_inside`).

A program that is refused is not run at all, so the cursor stays where the run before left
it, which may be no address of that program (`refused_run_leaves_cursor`).
-/
import SqlScript.Client.Rehearsal
import SqlScript.Client.Style
import SqlScript.Proofs.Engine.Unwinding

namespace SqlScript

/-! ### Outcomes of nested activities -/

theorem Outcome.attach_eq_done {α : Type} {c : Context} {o : Outcome α} {a : α} :
    o.attach c = .done a ↔ o = .done a := by
  cases o <;> simp [Outcome.attach]

theorem Outcome.map_none_ne_done {α β : Type} {o : Outcome α} {b : β} :
    o.map (fun _ => none) ≠ .done (some b) := by
  cases o <;> simp [Outcome.map]

namespace Machine

variable {σ : Type} {setup : Setup σ} {m : Machine} {w : World σ} {i : Instruction}
variable {r : Resolved} {p : Program} {index fuel : Nat} {f : Failure}

/-! ### How an instruction ends by itself -/

/-- The ways in which an instruction can end by itself: it fails, it is done, or it is a jump
that has its target. -/
inductive EndsAlone (setup : Setup σ) (c : Command) (r : Resolved) (m : Machine) :
    Outcome (Option Nat) → Prop
  | failed (f : Failure) : EndsAlone setup c r m (.failed f)
  | done : EndsAlone setup c r m (.done none)
  | jump {target : Nat} : c = .forward → m.jumpTarget r setup.client.bindMarker = .ok target →
      EndsAlone setup c r m (.done (some target))

theorem query_endsAlone (c : Command) : EndsAlone setup c r m (m.query setup c r w).outcome := by
  rw [query]
  split
  · exact .done
  · exact .failed _
  · exact .failed _

theorem missTarget_endsAlone (c : Command) (target : Int) :
    EndsAlone setup c r m (m.missTarget setup target w).outcome := by
  rw [missTarget]
  split
  · exact .done
  · split
    · exact .failed _
    · exact .done

theorem Planned.endsAlone {c : Command} {ended : Result σ (Option Nat)}
    (h : Planned setup c r m w (.finish ended)) : EndsAlone setup c r m ended.outcome := by
  cases h with
  | performed _ _ h =>
    cases h with
    | queried => exact query_endsAlone c
    | jumped hc ht => exact .jump hc ht
    | decided | set => exact .done
    | undecided | lost | unset | examined => exact .failed _
  | noTarget => exact missTarget_endsAlone c _
  | noAddress | callTooDeep | noName | unread | noCommands => exact .failed _

/-- Only a jump ends with an address. -/
theorem dispatch_target {target : Nat}
    (h : (dispatch setup fuel index i m w).outcome = .done (some target)) :
    i.command = .forward ∧
      ∃ r, m.Begins setup i r ∧ m.jumpTarget r setup.client.bindMarker = .ok target := by
  revert h
  apply dispatch_induction
    (D := fun _ _ i m _ ended => ended.outcome = .done (some target) → i.command = .forward ∧
      ∃ r, m.Begins setup i r ∧ m.jumpTarget r setup.client.bindMarker = .ok target)
  case exhausted => exact fun _ _ _ _ h => nomatch h
  case skipped => exact fun _ _ _ _ _ _ h => nomatch h
  case unresolved => exact fun _ _ _ _ _ _ _ _ h => nomatch h
  case finish =>
    intro fuel index i m w r ended hb hp h
    have hends := (planned_of_eq hp).endsAlone
    rw [Outcome.attach_eq_done.mp h] at hends
    cases hends with
    | jump hc ht => exact ⟨hc, r, hb, ht⟩
  -- calls and includes drop the address of a jump in them
  case call =>
    intro fuel index i m w r _ called args _ _ _ h
    exact absurd (Outcome.attach_eq_done.mp h) Outcome.map_none_ne_done
  case enter =>
    intro fuel index i m w r program w' _ _ h
    exact absurd (Outcome.attach_eq_done.mp h) Outcome.map_none_ne_done

theorem cursor_absorb (c : Command) (rs : Resultset) :
    (m.absorb c rs).state.cursor = m.state.cursor := by
  cases c <;> rfl

theorem Planned.cursor {c : Command} {ended : Result σ (Option Nat)}
    (h : Planned setup c r m w (.finish ended)) :
    ended.machine.state.cursor = m.state.cursor := by
  cases h with
  | performed _ _ h =>
    cases h with
    | queried =>
      rw [query]
      split
      · exact cursor_absorb c _
      · rfl
      · rfl
    | decided | undecided | jumped | lost | set | unset | examined => rfl
  | noTarget => rw [machine_missTarget]
  | noAddress | callTooDeep | noName | unread | noCommands => rfl

/-- Carrying out an instruction does not move the cursor. -/
theorem dispatch_cursor (setup : Setup σ) (fuel index : Nat) (i : Instruction) (m : Machine)
    (w : World σ) : (dispatch setup fuel index i m w).machine.state.cursor = m.state.cursor := by
  apply dispatch_induction (D := fun _ _ _ m _ ended => ended.machine.state.cursor = m.state.cursor)
  case exhausted => exact fun _ _ _ _ => rfl
  case skipped => exact fun _ _ _ _ _ _ => rfl
  case unresolved => exact fun _ _ _ _ _ _ _ _ => rfl
  case finish =>
    intro fuel index i m w r ended _ hp
    exact (planned_of_eq hp).cursor
  case call =>
    intro fuel index i m w r target called args _ _ ih
    have hentered : (m.entered args).state.cursor = m.state.cursor := by
      rw [entered]
      split <;> rfl
    exact ih.trans hentered
  case enter => exact fun _ _ _ _ _ _ _ _ _ _ => rfl

/-! ### Targets of jumps -/

/-- The target of a jump is its address, which is not negative, or the end of the program. -/
theorem jumpTarget_eq_ok (hp : m.program = some p) {marker : String} {target : Nat}
    (h : m.jumpTarget r marker = .ok target) :
    ∃ n args, addressOperand r marker = .ok (n, args) ∧ 0 ≤ n ∧ (target : Int) = min n p.size := by
  rw [jumpTarget] at h
  split at h
  · cases h
  next n args hoperand =>
  rw [hp] at h
  split at h
  · cases h
  next hn =>
  obtain rfl := Except.ok.inj h
  refine ⟨n, args, hoperand, by omega, ?_⟩
  omega

/-! ### Where activities take place -/

variable {a b : Activity σ} {frames : List Context}

/-- The cursor of a loop is within its program, and an instruction that is carried out stands
in its program. -/
def Activity.Bounded : Activity σ → Prop
  | .run .. => True
  | .loop _ m _ => ∃ p, m.program = some p ∧ m.state.cursor ≤ p.size
  | .dispatch _ index i m _ => ∃ p, m.program = some p ∧ p.instructions[index]? = some i

theorem size_of_fetch? (hp : m.program = some p) (h : m.fetch? index = some i) :
    p.instructions[index]? = some i ∧ index < p.size := by
  have hget : p.get? index = some i := get?_of_fetch? hp h
  exact ⟨hget, (List.getElem?_eq_some_iff.mp hget).1⟩

theorem cursor_le_of_target (hp : m.program = some p) {target : Nat}
    (h : (dispatch setup fuel index i m w).outcome = .done (some target)) : target ≤ p.size := by
  obtain ⟨-, r, -, ht⟩ := dispatch_target h
  obtain ⟨n, args, -, -, htarget⟩ := jumpTarget_eq_ok hp ht
  omega

/-- One step: what an activity starts takes place inside a program as well. -/
theorem Leads.bounded (h : Leads setup a frames b) (ha : a.Bounded) : b.Bounded := by
  cases h with
  | start => exact ⟨_, rfl, Nat.zero_le _⟩
  | turn hf =>
    obtain ⟨p, hp, -⟩ := ha
    exact ⟨p, hp, (size_of_fetch? hp hf).1⟩
  | passive hf =>
    obtain ⟨p, hp, -⟩ := ha
    exact ⟨p, hp, (size_of_fetch? hp hf).2⟩
  -- the instruction left the program and the cursor as they were
  | next hf _ hd =>
    obtain ⟨p, hp, -⟩ := ha
    subst hd
    refine ⟨p, (dispatch_framed setup _ _ _ _ _).program.trans hp, ?_⟩
    show (dispatch setup _ _ _ _ _).machine.state.cursor + 1 ≤ p.size
    rw [dispatch_cursor]
    exact (size_of_fetch? hp hf).2
  | jump _ _ hd ho =>
    obtain ⟨p, hp, -⟩ := ha
    subst hd
    exact ⟨p, (dispatch_framed setup _ _ _ _ _).program.trans hp, cursor_le_of_target hp ho⟩
  | call hb hplan =>
    obtain ⟨p, hp, -⟩ := ha
    cases planned_of_eq hplan with
    | call _ _ hf => exact ⟨p, hp, get?_toNat (get?_of_fetch? hp hf)⟩
  | enter => exact ⟨_, rfl, Nat.zero_le _⟩

/-- Any number of steps. -/
theorem Within.bounded (h : Within setup a frames b) (ha : a.Bounded) : b.Bounded := by
  induction h with
  | self a => exact ha
  | inside hl _ ih => exact ih (hl.bounded ha)

/-! ### Where loops end -/

/-- An activity stopped at the cursor of the machine `m`: it carried out the instruction
there, itself and in no call or include, and that failed with `f`. -/
def StopsAt (setup : Setup σ) (a : Activity σ) (m : Machine) (f : Failure) : Prop :=
  ∃ fuel i before w, Within setup a [] (.dispatch fuel m.state.cursor i before w) ∧
    before.state.cursor = m.state.cursor ∧ m.fetch? m.state.cursor = some i ∧
    (dispatch setup fuel m.state.cursor i before w).outcome = .failed f

theorem StopsAt.through (hl : Leads setup a [] b) (h : StopsAt setup b m f) :
    StopsAt setup a m f := by
  obtain ⟨fuel, i, before, w, hin, hrest⟩ := h
  exact ⟨fuel, i, before, w, .inside hl hin, hrest⟩

theorem stopsAt_of_failed (hf : m.fetch? m.state.cursor = some i)
    (hp : i.command.isPassive = false)
    (ho : (dispatch setup fuel m.state.cursor i m w).outcome = .failed f) :
    StopsAt setup (.loop (fuel + 1) m w) (dispatch setup fuel m.state.cursor i m w).machine f := by
  have hcursor := dispatch_cursor setup fuel m.state.cursor i m w
  have hprogram := (dispatch_framed setup fuel m.state.cursor i m w).program
  refine ⟨fuel, i, m, w, ?_, hcursor.symm, ?_, ?_⟩
  · rw [hcursor]
    exact .inside (.turn hf hp) (.self _)
  · rw [fetch?, hcursor, hprogram]
    exact hf
  · rw [hcursor]
    exact ho

/-- The cursor is at the end of the program. -/
def AtEnd (m : Machine) : Prop := ∃ p, m.program = some p ∧ m.state.cursor = p.size

theorem atEnd_of_fetch? (hp : m.program = some p) (hc : m.state.cursor ≤ p.size)
    (h : m.fetch? m.state.cursor = none) : m.AtEnd := by
  have hget : p.instructions[m.state.cursor]? = none := by
    simpa [fetch?, hp, Program.get?] using h
  have hsize : p.size ≤ m.state.cursor := List.getElem?_eq_none_iff.mp hget
  exact ⟨p, hp, Nat.le_antisymm hc hsize⟩

theorem loop_done_atEnd (setup : Setup σ) :
    ∀ fuel m w, (Activity.loop fuel m w).Bounded → (loop setup fuel m w).outcome = .done () →
      (loop setup fuel m w).machine.AtEnd := by
  apply @loop_induction σ setup (fun fuel m w ended =>
    (Activity.loop fuel m w).Bounded → ended.outcome = .done () → ended.machine.AtEnd)
  case halted => exact fun _ _ _ h => nomatch h
  case ended =>
    rintro fuel m w hf ⟨p, hp, hc⟩ -
    exact atEnd_of_fetch? hp hc hf
  case passive =>
    intro fuel m w i hf hp ih hb h
    have hl : Leads setup (.loop (fuel + 1) m w) [] _ := .passive hf hp
    exact ih (hl.bounded hb) h
  case cutOff => exact fun _ _ _ _ _ _ _ _ _ _ h => nomatch h
  case failed => exact fun _ _ _ _ _ _ _ _ _ _ _ h => nomatch h
  case next =>
    rintro fuel m w i e m' hf hp hd ho rfl ih hb h
    exact ih ((Leads.next hf hp hd ho).bounded hb) h
  case jump =>
    rintro fuel m w i e m' w' target hf hp hd ho rfl rfl ih hb h
    exact ih ((Leads.jump hf hp hd ho).bounded hb) h

/-- A loop that is done has its cursor at the end of the program that it started with. -/
theorem loop_done_cursor (hp : m.program = some p) (hc : m.state.cursor ≤ p.size)
    (ho : (loop setup fuel m w).outcome = .done ()) :
    (loop setup fuel m w).machine.state.cursor = p.size := by
  obtain ⟨q, hq, hend⟩ := loop_done_atEnd setup fuel m w ⟨p, hp, hc⟩ ho
  have hsame : some q = some p :=
    hq.symm.trans ((loop_framed setup fuel m w).program.trans hp)
  rw [hend, Option.some.inj hsame]

/-- A loop that failed has it at the instruction that failed. -/
theorem loop_failed_stopsAt (setup : Setup σ) :
    ∀ fuel m w f, (loop setup fuel m w).outcome = .failed f →
      StopsAt setup (.loop fuel m w) (loop setup fuel m w).machine f := by
  apply loop_induction (L := fun fuel m w ended => ∀ f, ended.outcome = .failed f →
    StopsAt setup (.loop fuel m w) ended.machine f)
  case halted => exact fun _ _ _ h => nomatch h
  case ended => exact fun _ _ _ _ _ h => nomatch h
  case passive =>
    intro fuel m w i hf hp ih f h
    exact (ih f h).through (.passive hf hp)
  case cutOff => exact fun _ _ _ _ _ _ _ _ _ _ h => nomatch h
  case failed =>
    rintro fuel m w i e g hf hp rfl ho f h
    obtain rfl : g = f := by simpa using h
    exact stopsAt_of_failed hf hp ho
  case next =>
    rintro fuel m w i e m' hf hp hd ho rfl ih f h
    exact (ih f h).through (.next hf hp hd ho)
  case jump =>
    rintro fuel m w i e m' w' target hf hp hd ho rfl rfl ih f h
    exact (ih f h).through (.jump hf hp hd ho)

/-! ### Runs -/

/-- A loop through `p` keeps its cursor in it. -/
structure LoopInBounds (setup : Setup σ) (fuel : Nat) (m : Machine) (w : World σ)
    (p : Program) : Prop where
  program : m.program = some p
  /-- Where the loop tests whether it goes on, the cursor is an address or the end. -/
  cursor : m.state.cursor ≤ p.size
  done : (loop setup fuel m w).outcome = .done () →
    (loop setup fuel m w).machine.state.cursor = p.size
  failed : ∀ f, (loop setup fuel m w).outcome = .failed f →
    StopsAt setup (.loop fuel m w) (loop setup fuel m w).machine f

/-- An instruction that is carried out stands in `p`, and leaves the cursor alone. -/
structure DispatchInBounds (setup : Setup σ) (fuel index : Nat) (i : Instruction) (m : Machine)
    (w : World σ) (p : Program) : Prop where
  program : m.program = some p
  inside : index < p.size
  fetched : p.instructions[index]? = some i
  cursor : (dispatch setup fuel index i m w).machine.state.cursor = m.state.cursor
  /-- If it is a jump, its address is not negative, and it leads there or to the end. -/
  target : ∀ target, (dispatch setup fuel index i m w).outcome = .done (some target) →
    ∃ r n args, m.Begins setup i r ∧ addressOperand r setup.client.bindMarker = .ok (n, args) ∧
      0 ≤ n ∧ (target : Int) = min n p.size

theorem loop_inBounds (h : (Activity.loop fuel m w).Bounded) (setup : Setup σ) :
    ∃ p, LoopInBounds setup fuel m w p := by
  obtain ⟨p, hp, hc⟩ := h
  exact ⟨p, hp, hc, loop_done_cursor hp hc, loop_failed_stopsAt setup fuel m w⟩

theorem dispatch_inBounds (h : (Activity.dispatch fuel index i m w).Bounded) (setup : Setup σ) :
    ∃ p, DispatchInBounds setup fuel index i m w p := by
  obtain ⟨p, hp, hi⟩ := h
  refine ⟨p, hp, (List.getElem?_eq_some_iff.mp hi).1, hi, dispatch_cursor setup .., ?_⟩
  intro target ho
  obtain ⟨-, r, hb, ht⟩ := dispatch_target ho
  obtain ⟨n, args, hoperand, hn, htarget⟩ := jumpTarget_eq_ok hp ht
  exact ⟨r, n, args, hb, hoperand, hn, htarget⟩

theorem runAt_cursor (setup : Setup σ) (fuel : Nat) (index : Int) (args : List Value)
    (custom : Bindings) (m : Machine) (w : World σ) :
    (runAt setup fuel index args custom m w).machine.state.cursor = m.state.cursor := by
  rw [runAt]
  rcases m.fetch? index with - | i
  · rfl
  simp only
  split
  · exact dispatch_cursor setup fuel _ i _ w
  · rfl

section Run

variable {program : Option Program} {args : List Value} {custom : Bindings}
variable {origin : Option CallSite}

theorem run_done_cursor (hp : (program <|> m.program) = some p)
    (hv : ∀ q, program = some q → q.error? = none) (hz : p.size ≠ 0) {v : Option Resultset}
    (ho : (run setup fuel program args custom origin m w).outcome = .done v) :
    (run setup fuel program args custom origin m w).machine.state.cursor = p.size := by
  rw [run_eq_loop hp hv hz] at ho ⊢
  obtain ⟨u, hloop, -⟩ := Outcome.map_eq_done.mp ho
  exact loop_done_cursor rfl (Nat.zero_le _) hloop

theorem run_failed_stopsAt (hp : (program <|> m.program) = some p)
    (hv : ∀ q, program = some q → q.error? = none) (hz : p.size ≠ 0)
    (ho : (run setup fuel program args custom origin m w).outcome = .failed f) :
    StopsAt setup (.run fuel program args custom origin m w)
      (run setup fuel program args custom origin m w).machine f := by
  have hl : Leads setup (.run fuel program args custom origin m w) [] _ := .start hp hv hz
  rw [run_eq_loop hp hv hz] at ho ⊢
  exact (loop_failed_stopsAt setup fuel _ w f (Outcome.map_eq_failed.mp ho)).through hl

end Run

/-- **The cursor stays in bounds.**  In a run of a program that has instructions, every loop,
at whatever depth of includes, has its cursor between zero and the size of its program, and
every instruction that is carried out stands in its program.  A run that is done has its
cursor at the end.  A run that fails was refused before it began, and then nothing has
changed; or it has its cursor at the instruction that it was carrying out.  An instruction
that is carried out by its address leaves the cursor where it is. -/
theorem run_cursor_inside (setup : Setup σ) (fuel : Nat) (program : Option Program) (p : Program)
    (args : List Value) (custom : Bindings) (origin : Option CallSite) (m : Machine) (w : World σ)
    (hp : (program <|> m.program) = some p) (hz : p.size ≠ 0) :
    let a : Activity σ := .run fuel program args custom origin m w
    let after := run setup fuel program args custom origin m w
    (∀ frames fuel' m' w', Within setup a frames (.loop fuel' m' w') →
      ∃ q, LoopInBounds setup fuel' m' w' q) ∧
    (∀ frames fuel' index i m' w', Within setup a frames (.dispatch fuel' index i m' w') →
      ∃ q, DispatchInBounds setup fuel' index i m' w' q) ∧
    (∀ v, after.outcome = .done v → after.machine.state.cursor = p.size) ∧
    (∀ e, program.bind Program.error? = some e → after = ⟨.failed (.error e), m, w⟩) ∧
    (program.bind Program.error? = none → ∀ f, after.outcome = .failed f →
      StopsAt setup a after.machine f) ∧
    ∀ index args custom,
      (runAt setup fuel index args custom m w).machine.state.cursor = m.state.cursor := by
  intro a after
  have unrefused : program.bind Program.error? = none →
      ∀ q, program = some q → q.error? = none := by
    rintro hr q rfl
    exact hr
  have hrefused : ∀ e, program.bind Program.error? = some e →
      after = ⟨.failed (.error e), m, w⟩ := by
    intro e hr
    obtain ⟨q, rfl, he⟩ := Option.bind_eq_some_iff.mp hr
    simp only [after, run, he]
  refine ⟨fun frames fuel' m' w' h => loop_inBounds (h.bounded trivial) setup,
    fun frames fuel' index i m' w' h => dispatch_inBounds (h.bounded trivial) setup, ?_, ?_, ?_,
    fun index args custom => runAt_cursor setup fuel index args custom m w⟩
  · intro v ho
    rcases hr : program.bind Program.error? with - | e
    · exact run_done_cursor hp (unrefused hr) hz ho
    · rw [hrefused e hr] at ho
      cases ho
  · exact hrefused
  · intro hr f ho
    exact run_failed_stopsAt hp (unrefused hr) hz ho

/-- A database without rules and no scripts. -/
def bare : Setup Rehearsal where
  client := .ofStyle .qmark Rehearsal.query
  source := (Scripts.ofList []).toSource

/-- A program that jumps to an address that is handed over. -/
def leaping : Program := Program.parse "!" "! forward $0\n! examine x\n! forward x" "leap"

/-- The address is a text with blanks and a sign; the run fails at the jump that it leads to. -/
theorem leaping_stops :
    let after := run bare 9 (some leaping) [.text " +2 "] [] none {} { database := .ofRules [] }
    after.machine.state.cursor = 2 ∧
      ∃ f, after.outcome = .failed f ∧
        StopsAt bare (.run 9 (some leaping) [.text " +2 "] [] none {} { database := .ofRules [] })
          after.machine f := by
  intro after
  have hfails : after.outcome.failure?.isSome = true := by decide +kernel
  obtain ⟨f, hf⟩ := Option.isSome_iff_exists.mp hfails
  have ho := Outcome.failure?_eq_some.mp hf
  obtain ⟨-, -, -, -, hstops, -⟩ := run_cursor_inside bare 9 (some leaping) leaping [.text " +2 "]
    [] none {} { database := .ofRules [] } rfl (by decide)
  refine ⟨?_, f, ho, hstops rfl f ho⟩
  decide +kernel

/-- A program of one instruction is refused after a run of two: the cursor is at 2, which is
no address of it, and no instruction was carried out. -/
theorem refused_run_leaves_cursor :
    let first : Program :=
      { source := "first", instructions := [⟨.setting, "null", none⟩, ⟨.setting, "zero", none⟩] }
    let refused : Program :=
      { source := "refused", instructions := [⟨.capture, "update t", none⟩] }
    let w : World Rehearsal := { database := .ofRules [] }
    let m := (run bare 9 (some first) [] [] none {} w).machine
    let after := run bare 9 (some refused) [] [] none m w
    refused.size ≠ 0 ∧ (∃ f, after.outcome = .failed f) ∧
      after.machine.state.cursor = 2 ∧ refused.get? 2 = none ∧
      ∀ frames fuel index i m' w', ¬ Within bare (.run 9 (some refused) [] [] none m w) frames
        (.dispatch fuel index i m' w') := by
  intro first refused w m after
  refine ⟨by decide, ⟨_, rfl⟩, by decide +kernel, rfl, ?_⟩
  intro frames fuel index i m' w' h
  cases h with
  | inside hl _ =>
    cases hl with
    | start _ hv _ => exact absurd (hv refused rfl) (by decide)

end Machine

end SqlScript
