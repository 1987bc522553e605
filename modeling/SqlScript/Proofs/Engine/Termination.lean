/-
SqlScript/Proofs/Engine/Termination.lean

Runs without backward jumps end.

Three things nest in a run.  The loop goes through a program; a jump that names an address
ahead of itself only takes it further (`jumpTarget_ahead`).  A call carries out one more
instruction, but calls in calls are limited.  An include runs another program, where calls
are counted from the start again, but includes in includes are limited too.  So the fuel
that a run can use up is bounded by the sizes of the programs it can reach
(`fuelFor`), whatever scripts include each other, and whatever parameters there are and
answers the database gives.

An activity that has ended is the same with more fuel (`execution_settles`), so with any
fuel from the bound on a run ends in one and the same way (`run_finishes`).
-/
import Mathlib.Algebra.Order.BigOperators.Group.List
import Mathlib.Algebra.Order.Group.Nat
import SqlScript.Client.Rehearsal
import SqlScript.Client.Style
import SqlScript.Proofs.Engine.Cursor
import SqlScript.Proofs.Engine.Isolation
import SqlScript.Proofs.Engine.Operands

namespace SqlScript

/-! ### Words that are integers -/

theorem BindStyle.marker_malformed (style : BindStyle) :
    readInteger style.marker.toList = .error .malformed := by
  cases style <;> decide

/-- A word that is an integer and, unless it is too long to be read, an address beyond
another one. -/
structure PointsBeyond (index : Nat) (word : List Char) : Prop where
  isInteger : readInteger word ≠ .error .malformed
  beyond : ∀ n, readInteger word = .ok n → (index : Int) < n

/-- Binding changes nothing in a word that is an integer. -/
theorem PointsBeyond.plain {index : Nat} {word : List Char} (h : PointsBeyond index word) :
    '$' ∉ word ∧ '%' ∉ word := by
  constructor
  · intro hc
    exact h.isInteger (readInteger_malformed hc (by decide) (by decide) (by decide) (by decide))
  · intro hc
    exact h.isInteger (readInteger_malformed hc (by decide) (by decide) (by decide) (by decide))

/-- Whether every jump of a program names a target ahead of itself: its first word is an
integer greater than its own address. -/
def Program.JumpsAhead (p : Program) : Prop :=
  ∀ (index : Nat) (i : Instruction), p.get? index = some i → i.command = .forward →
    ∃ word, Text.firstWord? i.statement.toList = some word ∧ PointsBeyond index word

namespace Machine

variable {σ : Type} {setup : Setup σ} {m : Machine} {w : World σ} {i : Instruction}
variable {r : Resolved} {p top : Program} {index : Nat}

/-! ### Jumps -/

/-- An address that is written out is read from the word itself. -/
theorem addressOperand_written {word : List Char} {marker : String}
    (hw : Text.firstWord? r.text.toList = some word) (hm : word ≠ marker.toList) {target : Int}
    {args : List Value} (h : addressOperand r marker = .ok (target, args)) :
    readInteger word = .ok target := by
  have hvalue : addressValue word r.args marker.toList = (.text (String.ofList word), r.args) := by
    rcases hargs : r.args with - | ⟨first, rest⟩
    · rfl
    · rw [addressValue, if_neg hm]
  rw [addressOperand, hw] at h
  simp only [hvalue, Value.toAddress, String.toList_ofList] at h
  rcases hr : readInteger word with e | n
  · simp [hr, Except.toOption] at h
  · simp only [hr, Except.toOption, Except.ok.injEq, Prod.mk.injEq] at h
    rw [h.1]

/-- A jump that names a target ahead of itself goes ahead. -/
theorem jumpTarget_ahead (hb : m.Begins setup i r) (hp : m.program = some p)
    (hi : p.get? index = some i) (hc : i.command = .forward) (ahead : p.JumpsAhead)
    (hmarker : readInteger setup.client.bindMarker.toList = .error .malformed) {target : Nat}
    (h : m.jumpTarget r setup.client.bindMarker = .ok target) : index < target := by
  obtain ⟨word, hword, hbeyond⟩ := ahead index i hi hc
  have hsize : index < p.size := (List.getElem?_eq_some_iff.mp hi).1
  have hfirst : Text.firstWord? r.text.toList = some word := by
    rw [resolve_text hb.resolved, String.toList_ofList]
    exact Text.firstWord?_bound hword hbeyond.plain.1 hbeyond.plain.2 _
  have hne : word ≠ setup.client.bindMarker.toList := by
    rintro rfl
    exact hbeyond.isInteger hmarker
  rw [jumpTarget] at h
  split at h
  · cases h
  next n args hoperand =>
  have hn : (index : Int) < n := hbeyond.beyond n (addressOperand_written hfirst hne hoperand)
  rw [if_neg (by omega), hp] at h
  obtain rfl := Except.ok.inj h
  simp only [Nat.lt_min]
  omega

/-! ### More fuel -/

/-- **An activity that has ended is the same with more fuel.** -/
theorem execution_settles (setup : Setup σ) :
    (∀ fuel index i m w, (dispatch setup fuel index i m w).outcome ≠ .cutOff →
      ∀ more, fuel ≤ more →
        dispatch setup more index i m w = dispatch setup fuel index i m w) ∧
    ∀ fuel m w, (loop setup fuel m w).outcome ≠ .cutOff →
      ∀ more, fuel ≤ more → loop setup more m w = loop setup fuel m w := by
  have spare : ∀ {fuel more : Nat}, fuel + 1 ≤ more → ∃ rest, more = rest + 1 ∧ fuel ≤ rest :=
    fun {fuel more} h => ⟨more - 1, by omega, by omega⟩
  apply execution_induction
    (D := fun fuel index i m w ended => ended.outcome ≠ .cutOff →
      ∀ more, fuel ≤ more → dispatch setup more index i m w = ended)
    (L := fun fuel m w ended => ended.outcome ≠ .cutOff →
      ∀ more, fuel ≤ more → loop setup more m w = ended)
  case exhausted => exact fun _ _ _ _ h => absurd rfl h
  case skipped =>
    intro fuel index i m w ha _ more hm
    obtain ⟨rest, rfl, -⟩ := spare hm
    exact dispatch_skipped ha
  case unresolved =>
    intro fuel index i m w f ha hr _ more hm
    obtain ⟨rest, rfl, -⟩ := spare hm
    exact dispatch_unresolved ha hr
  case finish =>
    intro fuel index i m w r ended hb hp _ more hm
    obtain ⟨rest, rfl, -⟩ := spare hm
    exact dispatch_finish hb hp
  -- what is nested has ended, so it is the same with what is left of the greater fuel
  case call =>
    intro fuel index i m w r target called args hb hp ih ho more hm
    obtain ⟨rest, rfl, hrest⟩ := spare hm
    have hinner := ih (fun hc => ho (Outcome.attach_eq_cutOff.mpr (Outcome.map_eq_cutOff.mpr hc)))
    rw [dispatch_call hb hp, hinner rest hrest]
  case enter =>
    intro fuel index i m w r program w' hb hp ih ho more hm
    obtain ⟨rest, rfl, hrest⟩ := spare hm
    have hinner := ih (fun hc => ho (Outcome.attach_eq_cutOff.mpr (Outcome.map_eq_cutOff.mpr hc)))
    rw [dispatch_enter hb hp, hinner rest hrest]
  case halted => exact fun _ _ h => absurd rfl h
  case ended =>
    intro fuel m w hf _ more hm
    obtain ⟨rest, rfl, -⟩ := spare hm
    exact loop_ended hf
  case passive =>
    intro fuel m w i hf hp ih ho more hm
    obtain ⟨rest, rfl, hrest⟩ := spare hm
    rw [loop_passive hf hp, ih ho rest hrest]
  case cutOff => exact fun _ _ _ _ _ _ _ _ _ _ h => absurd rfl h
  case failed =>
    intro fuel m w i e f hf hp _ ih ho _ more hm
    obtain ⟨rest, rfl, hrest⟩ := spare hm
    exact loop_failed hf hp (ih (by simp [ho]) rest hrest) ho
  case next =>
    rintro fuel m w i e m' hf hp _ ih ho rfl ihL hend more hm
    obtain ⟨rest, rfl, hrest⟩ := spare hm
    rw [loop_next hf hp (ih (by simp [ho]) rest hrest) ho, ihL hend rest hrest]
  case jump =>
    rintro fuel m w i e m' w' target hf hp _ ih ho rfl rfl ihL hend more hm
    obtain ⟨rest, rfl, hrest⟩ := spare hm
    rw [loop_jump hf hp (ih (by simp [ho]) rest hrest) ho, ihL hend rest hrest]

/-- A run that has ended is the same with more fuel. -/
theorem run_settles {program : Option Program} {args : List Value} {custom : Bindings}
    {origin : Option CallSite} {fuel more : Nat}
    (h : (run setup fuel program args custom origin m w).outcome ≠ .cutOff) (hm : fuel ≤ more) :
    run setup more program args custom origin m w
      = run setup fuel program args custom origin m w := by
  obtain ⟨p, hp, hv, hz⟩ | ⟨f, m', -, -, hidle⟩ := run_begins_or_idle σ program origin m
  · rw [run_eq_loop hp hv hz] at h
    have hloop := (execution_settles setup).2 fuel (m.launched p args custom origin) w
      (fun hcut => h (Outcome.map_eq_cutOff.mpr hcut)) more hm
    rw [run_eq_loop hp hv hz, run_eq_loop hp hv hz, hloop]
  · rw [hidle, hidle]

end Machine

/-! ### A bound on the fuel -/

namespace Setup

variable {σ : Type}

/-- The program of the script that an instruction includes, if it includes one that there
is. -/
def included? (setup : Setup σ) (i : Instruction) : Option Program :=
  (i.includeName? setup.client.bindMarker).bind fun name =>
    (setup.source name).toOption.map fun text => Program.parse setup.marker text name

theorem included?_eq {setup : Setup σ} {i : Instruction} {name text : String}
    (hn : i.includeName? setup.client.bindMarker = some name) (ht : setup.source name = .ok text) :
    setup.included? i = some (Program.parse setup.marker text name) := by
  rw [included?, hn]
  simp [ht, Except.toOption]

/-- Fuel for all the includes of a program, which may be nested `depth` deep. -/
def fuelWithin (setup : Setup σ) : Nat → Program → Nat
  | 0, _ => 0
  | depth + 1, p =>
    ((p.instructions.filterMap setup.included?).map fun q =>
      q.size + maxProcessDepth + 2 + fuelWithin setup depth q).sum

/-- Fuel for a program: a turn of the loop for each instruction and one at the end, calls as
deep as they may be, and the includes. -/
def fuelFor (setup : Setup σ) (depth : Nat) (p : Program) : Nat :=
  p.size + maxProcessDepth + 2 + setup.fuelWithin depth p

theorem fuelFor_le_within (setup : Setup σ) {p q : Program} {i : Instruction}
    (hi : i ∈ p.instructions) (hq : setup.included? i = some q) (depth : Nat) :
    setup.fuelFor depth q ≤ setup.fuelWithin (depth + 1) p := by
  have hmem : q ∈ p.instructions.filterMap setup.included? := List.mem_filterMap.mpr ⟨i, hi, hq⟩
  exact List.single_le_sum (fun n _ => Nat.zero_le n) _ (List.mem_map_of_mem hmem)

end Setup

namespace Machine

variable {σ : Type} {setup : Setup σ} {m : Machine} {w : World σ} {i : Instruction}
variable {r : Resolved} {p top : Program} {index : Nat}

/-- How many more includes may be nested in what a machine runs. -/
def includesLeft (setup : Setup σ) (m : Machine) : Nat := (setup.maxIncludeDepth - m.depth).toNat

theorem Framed.includesLeft_eq {m' : Machine} (h : Framed m m') :
    m'.includesLeft setup = m.includesLeft setup := by
  rw [includesLeft, includesLeft, h.depth]

/-- An include uses up one of the includes that are left. -/
theorem includesLeft_child {name : String} (h : m.includeName setup r = .ok name) (q : Program)
    (args : List Value) :
    m.includesLeft setup = (m.child q args).includesLeft setup + 1 := by
  have hdepth : m.depth < setup.maxIncludeDepth := depth_lt_of_includeName h
  simp only [includesLeft, child]
  omega

/-- A turn of the loop that moves the cursor on leaves fuel for what is behind it. -/
theorem turn_fuel {m' : Machine} {fuel target : Nat} (hp : m.program = some p)
    (hf : m.fetch? m.state.cursor = some i) (hframe : Framed m m')
    (htarget : m.state.cursor < target)
    (hfuel : p.size - m.state.cursor + maxProcessDepth + 2
      + setup.fuelWithin (m.includesLeft setup) p ≤ fuel + 1) :
    p.size - (m'.goTo target).state.cursor + maxProcessDepth + 2
      + setup.fuelWithin ((m'.goTo target).includesLeft setup) p ≤ fuel := by
  have hsize : m.state.cursor < p.size := (List.getElem?_eq_some_iff.mp (get?_of_fetch? hp hf)).1
  have hcursor : (m'.goTo target).state.cursor = target := rfl
  rw [(hframe.trans (framed_goTo m' target)).includesLeft_eq, hcursor]
  omega

/-- **Enough fuel is never used up.**  An instruction needs fuel for the calls that may still
be nested, a loop for the instructions from the cursor on, and both for the includes. -/
theorem execution_finishes (setup : Setup σ) (top : Program)
    (hmarker : readInteger setup.client.bindMarker.toList = .error .malformed)
    (ahead : ∀ p, top.Reaches setup.source setup.marker setup.client.bindMarker p →
      p.JumpsAhead) :
    (∀ fuel (index : Nat) i m w p, m.program = some p →
      top.Reaches setup.source setup.marker setup.client.bindMarker p → p.get? index = some i →
      maxProcessDepth - m.processDepth + 1 + setup.fuelWithin (m.includesLeft setup) p ≤ fuel →
      (dispatch setup fuel index i m w).outcome ≠ .cutOff) ∧
    ∀ fuel m w p, m.program = some p →
      top.Reaches setup.source setup.marker setup.client.bindMarker p →
      p.size - m.state.cursor + maxProcessDepth + 2
        + setup.fuelWithin (m.includesLeft setup) p ≤ fuel →
      (loop setup fuel m w).outcome ≠ .cutOff := by
  apply execution_induction
    (D := fun fuel index i m _ ended => ∀ p, m.program = some p →
      top.Reaches setup.source setup.marker setup.client.bindMarker p → p.get? index = some i →
      maxProcessDepth - m.processDepth + 1 + setup.fuelWithin (m.includesLeft setup) p ≤ fuel →
      ended.outcome ≠ .cutOff)
    (L := fun fuel m _ ended => ∀ p, m.program = some p →
      top.Reaches setup.source setup.marker setup.client.bindMarker p →
      p.size - m.state.cursor + maxProcessDepth + 2
        + setup.fuelWithin (m.includesLeft setup) p ≤ fuel →
      ended.outcome ≠ .cutOff)
  case exhausted =>
    intro index i m w p _ _ _ hfuel
    omega
  case skipped => exact fun _ _ _ _ _ _ _ _ _ _ _ h => nomatch h
  case unresolved => exact fun _ _ _ _ _ _ _ _ _ _ _ _ _ h => nomatch h
  case finish =>
    intro fuel index i m w r ended _ hp p _ _ _ _ hcut
    have hends := (planned_of_eq hp).endsAlone
    rw [Outcome.attach_eq_cutOff.mp hcut] at hends
    cases hends
  case call =>
    intro fuel index i m w r target called args _ hp ih p hprog hreach _ hfuel hcut
    cases planned_of_eq hp with
    | call _ _ hf hdepth =>
      -- one call more is under way, and one fewer may be nested in it
      refine ih p hprog hreach (get?_toNat (get?_of_fetch? hprog hf)) ?_
        (Outcome.map_eq_cutOff.mp (Outcome.attach_eq_cutOff.mp hcut))
      have hinner : (m.entered args).processDepth = m.processDepth + 1 := rfl
      have hleft : (m.entered args).includesLeft setup = m.includesLeft setup := rfl
      rw [hinner, hleft]
      omega
  case enter =>
    intro fuel index i m w r program w' hb hp ih p hprog hreach hi hfuel hcut
    cases planned_of_eq hp with
    | enter hc hn hs =>
      obtain ⟨text, htext, hprogram, -⟩ := readScript_eq_ok hs
      have hname := hb.includeName?_eq hc hn
      have hmem := mem_of_get? hi
      have hincluded : setup.included? i = some program :=
        (Setup.included?_eq hname htext).trans (congrArg some hprogram.symm)
      refine ih program rfl (hprogram ▸ .included hreach hmem hname htext) ?_
        (Outcome.map_eq_cutOff.mp (Outcome.attach_eq_cutOff.mp hcut))
      -- calls and instructions count afresh, out of the fuel for this include
      have hbound := setup.fuelFor_le_within hmem hincluded
        ((m.child program r.args).includesLeft setup)
      rw [← includesLeft_child hn, Setup.fuelFor] at hbound
      have hcursor : (m.child program r.args).state.cursor = 0 := rfl
      rw [hcursor]
      omega
  case halted =>
    intro m w p _ _ hfuel
    omega
  case ended => exact fun _ _ _ _ _ _ _ _ h => nomatch h
  case passive =>
    intro fuel m w i hf _ ih p hprog hreach hfuel
    exact ih p hprog hreach (turn_fuel hprog hf (.refl m) (Nat.lt_succ_self _) hfuel)
  case cutOff =>
    intro fuel m w i e hf _ _ ih hcut p hprog hreach hfuel _
    exact ih p hprog hreach (get?_of_fetch? hprog hf) (by omega) hcut
  case failed => exact fun _ _ _ _ _ _ _ _ _ _ _ _ _ _ _ h => nomatch h
  -- whether it jumps or not, the loop goes on behind the cursor in the same program
  case next =>
    rintro fuel m w i e m' hf _ rfl _ _ rfl ihL p hprog hreach hfuel
    have hframe := dispatch_framed setup fuel m.state.cursor i m w
    refine ihL p (hframe.program.trans hprog) hreach (turn_fuel hprog hf hframe ?_ hfuel)
    rw [dispatch_cursor]
    exact Nat.lt_succ_self _
  case jump =>
    rintro fuel m w i e m' w' target hf _ rfl _ ho rfl rfl ihL p hprog hreach hfuel
    have hframe := dispatch_framed setup fuel m.state.cursor i m w
    refine ihL p (hframe.program.trans hprog) hreach (turn_fuel hprog hf hframe ?_ hfuel)
    obtain ⟨hc, r, hb, ht⟩ := dispatch_target ho
    exact jumpTarget_ahead hb hprog (get?_of_fetch? hprog hf) hc (ahead p hreach) hmarker ht

/-! ### Runs -/

/-- Fuel for a run of a program, if there is one. -/
def fuelToRun (setup : Setup σ) (program : Option Program) (m : Machine) : Nat :=
  (program.map (setup.fuelFor (m.includesLeft setup))).getD 0

theorem runLoaded_finishes (setup : Setup σ) (m : Machine)
    (hmarker : readInteger setup.client.bindMarker.toList = .error .malformed)
    (ahead : ∀ top p, m.program = some top →
      top.Reaches setup.source setup.marker setup.client.bindMarker p → p.JumpsAhead)
    (args : List Value) (custom : Bindings) (w : World σ) :
    ∃ ended : Result σ (Option Resultset), ended.outcome ≠ .cutOff ∧
      ∀ fuel, fuelToRun setup m.program m ≤ fuel →
        runLoaded setup fuel args custom m w = ended := by
  rcases hm : m.program with - | top
  · refine ⟨⟨.failed (.error (noCommands none m.origin)), m, w⟩, by simp, ?_⟩
    intro fuel _
    simp [runLoaded, hm]
  by_cases hz : top.size = 0
  · refine ⟨⟨.failed (.error (noCommands (some top.source) m.origin)), m, w⟩, by simp, ?_⟩
    intro fuel _
    simp [runLoaded, hm, hz]
  -- the loop ends with the fuel of the bound, and settles
  have hends : (loop setup (setup.fuelFor (m.includesLeft setup) top) (m.started args custom) w).outcome
      ≠ .cutOff :=
    (execution_finishes setup top hmarker (fun p => ahead top p hm)).2 _ _ w top hm .top
      (Nat.le_refl _)
  refine ⟨runLoaded setup (setup.fuelFor (m.includesLeft setup) top) args custom m w, ?_, ?_⟩
  · rw [runLoaded_eq hm hz]
    exact fun hcut => hends (Outcome.map_eq_cutOff.mp hcut)
  · intro fuel hfuel
    rw [runLoaded_eq hm hz, runLoaded_eq hm hz,
      (execution_settles setup).2 _ _ w hends fuel hfuel]

/-- **Runs without backward jumps end.**  Let every jump of the programs that a run reaches
name a target ahead of itself.  Then there is an amount of fuel with which the run ends, in a
result or a failure, whatever the parameters and the answers of the database are, and with
more fuel it ends in the same way.  Scripts may include themselves or each other and calls
may form cycles.  The bind marker must not be an integer, so that no jump takes a bound value
for its target. -/
theorem run_finishes (setup : Setup σ) (program : Option Program) (m : Machine)
    (hmarker : readInteger setup.client.bindMarker.toList = .error .malformed)
    (ahead : ∀ top p, (program <|> m.program) = some top →
      top.Reaches setup.source setup.marker setup.client.bindMarker p → p.JumpsAhead) :
    ∃ enough, ∀ args custom origin w, ∃ ended,
      ((∃ result, ended.outcome = .done result) ∨ ∃ f, ended.outcome = .failed f) ∧
        ∀ fuel, enough ≤ fuel → run setup fuel program args custom origin m w = ended := by
  refine ⟨fuelToRun setup (program <|> m.program) m, ?_⟩
  intro args custom origin w
  have finished : ∃ ended : Result σ (Option Resultset), ended.outcome ≠ .cutOff ∧
      ∀ fuel, fuelToRun setup (program <|> m.program) m ≤ fuel →
        run setup fuel program args custom origin m w = ended := by
    rcases hr : program.bind Program.error? with - | e
    · have hv : ∀ q, program = some q → q.error? = none := by
        rintro q rfl
        exact hr
      obtain ⟨ended, hne, hrun⟩ := runLoaded_finishes setup
        { m with program := program <|> m.program, origin := origin <|> m.origin } hmarker ahead
        args custom w
      refine ⟨ended, hne, ?_⟩
      intro fuel hfuel
      rw [run_unrefused hv]
      exact hrun fuel hfuel
    · -- a program that is refused is not run at all
      obtain ⟨q, rfl, he⟩ := Option.bind_eq_some_iff.mp hr
      refine ⟨⟨.failed (.error e), m, w⟩, by simp, ?_⟩
      intro fuel _
      rw [run, he]
  obtain ⟨ended, hne, hrun⟩ := finished
  refine ⟨ended, ?_, hrun⟩
  rcases ho : ended.outcome with result | f | -
  · exact .inl ⟨result, rfl⟩
  · exact .inr ⟨f, rfl⟩
  · exact absurd ho hne

/-- A script that includes itself, with two calls that call each other and a jump with a
bound value behind its target. -/
def tangledText : String := "! include tangled\n! process 2\n! process 1\n! forward 9 $0"

/-- The script, under a driver that interpolates statements. -/
def tangled : Setup Rehearsal where
  client := .ofStyle .format Rehearsal.query
  source := (Scripts.ofList [("tangled", tangledText)]).toSource

def tangledMain : Program := Program.parse "!" tangledText "tangled"

theorem tangledMain_instructions : tangledMain.instructions =
    [⟨.include, "tangled", some 1⟩, ⟨.process, "2", some 2⟩, ⟨.process, "1", some 3⟩,
     ⟨.forward, "9 $0", some 4⟩] := by decide

/-- The script reaches nothing but itself. -/
theorem tangledMain_reaches {p : Program}
    (h : tangledMain.Reaches tangled.source tangled.marker tangled.client.bindMarker p) :
    p = tangledMain := by
  have names : tangledMain.includeNames tangled.client.bindMarker = ["tangled"] := by
    rw [Program.includeNames, tangledMain_instructions]
    with_unfolding_all decide
  induction h with
  | top => rfl
  | @included _ i name text _ hi hname htext ih =>
    subst ih
    have hmem : name ∈ tangledMain.includeNames tangled.client.bindMarker :=
      List.mem_filterMap.mpr ⟨i, hi, hname⟩
    rw [names, List.mem_singleton] at hmem
    subst hmem
    obtain rfl : tangledText = text := Except.ok.inj htext
    rfl

theorem tangledMain_jumpsAhead : tangledMain.JumpsAhead := by
  intro index i hi hc
  have hat : tangledMain.instructions[index]? = some i := hi
  rw [tangledMain_instructions] at hat
  match index with
  | 0 | 1 | 2 =>
    obtain rfl := Option.some.inj hat
    cases hc
  | 3 =>
    obtain rfl := Option.some.inj hat
    refine ⟨['9'], by decide, by decide, ?_⟩
    intro n hn
    have hnine : readInteger ['9'] = .ok 9 := by decide
    obtain rfl := Except.ok.inj (hnine.symm.trans hn)
    decide
  | index + 4 => cases hat

/-- Whatever the parameters are, the script that includes itself runs to an end. -/
theorem tangled_finishes : ∃ enough, ∀ args custom origin w, ∃ ended,
    ((∃ result, ended.outcome = .done result) ∨ ∃ f, ended.outcome = .failed f) ∧
      ∀ fuel, enough ≤ fuel →
        run tangled fuel (some tangledMain) args custom origin {} w = ended := by
  refine run_finishes tangled (some tangledMain) {} (BindStyle.marker_malformed .format) ?_
  intro top p htop hreach
  obtain rfl : tangledMain = top := Option.some.inj htop
  rw [tangledMain_reaches hreach]
  exact tangledMain_jumpsAhead

end Machine

end SqlScript
