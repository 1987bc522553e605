/-
SqlScript/Proofs/Engine/Footprint.lean

Which commands change what.

Each part of the state of a run belongs to a few commands: only `declare` binds names, only
`capture` stores rows, only a setting chooses the blank policy, only guards move the gate, only
queries leave a result, and the positional parameters are replaced by `replace` and handed over
by calls.  A machine is *changed by* some commands if it differs at most in what belongs to
them.  One instruction changes what belongs to its own command (`Planned.changedBy`), and an
included script changes nothing, because it runs on a machine of its own.  So at the end of a
run everything that belongs to no command of its program is as it was at the start
(`run_changes_only_by_commands`).

Names are bound and bound again, but never taken away: those that a run started with are bound
at its end, whatever the program.
-/
import SqlScript.Client.Rehearsal
import SqlScript.Client.Style
import SqlScript.Proofs.Engine.Evolution
import SqlScript.Proofs.Engine.Intact

namespace SqlScript

/-! ### Names stay bound -/

namespace Bindings

variable {b other : Bindings} {name : String}

theorem mem_names_set (h : name ∈ b.names) (bound : String) (value : Value) :
    name ∈ (b.set bound value).names := by
  induction b with
  | nil => cases h
  | cons p rest ih =>
    obtain ⟨n, v⟩ := p
    rw [set]
    split
    · exact h
    · rcases List.mem_cons.mp h with rfl | h
      · exact List.mem_cons_self
      · exact List.mem_cons_of_mem n (ih h)

theorem mem_names_update (h : name ∈ b.names) : name ∈ (b.update other).names := by
  induction other generalizing b with
  | nil => exact h
  | cons p other ih => exact ih (mem_names_set h p.1 p.2)

end Bindings

/-- A program has an instruction with this command. -/
def Program.Uses (p : Program) (c : Command) : Prop := ∃ i ∈ p.instructions, i.command = c

instance (p : Program) (c : Command) : Decidable (p.Uses c) :=
  inferInstanceAs (Decidable (∃ i ∈ p.instructions, i.command = c))

namespace Machine

variable {σ : Type} {setup : Setup σ} {m : Machine} {w : World σ} {r : Resolved}
variable {p : Program} {c : Command} {ended : Result σ (Option Nat)}

/-! ### What belongs to which command -/

/-- The second machine differs from the first at most in what belongs to these commands. -/
structure ChangedBy (uses : Command → Prop) (m m' : Machine) : Prop where
  custom : ¬ uses .declare → m'.state.custom = m.state.custom
  names : ∀ name ∈ m.state.custom.names, name ∈ m'.state.custom.names
  captures : ¬ uses .capture → m'.captures = m.captures
  passed : ¬ uses .replace → ¬ uses .process → m'.state.passed = m.state.passed
  blank : ¬ uses .setting → m'.state.blank = m.state.blank
  gate : (∀ c, c.isGuard = true → ¬ uses c) → m'.state.gate = m.state.gate
  last : (∀ c, c.isQuery = true → ¬ uses c) → m'.state.last = m.state.last

namespace ChangedBy

variable {uses uses' : Command → Prop} {m₁ m₂ m₃ : Machine}

theorem refl (m : Machine) : ChangedBy uses m m where
  custom _ := rfl
  names _ h := h
  captures _ := rfl
  passed _ _ := rfl
  blank _ := rfl
  gate _ := rfl
  last _ := rfl

theorem trans (h : ChangedBy uses m₁ m₂) (h' : ChangedBy uses m₂ m₃) : ChangedBy uses m₁ m₃ where
  custom hno := (h'.custom hno).trans (h.custom hno)
  names name hname := h'.names name (h.names name hname)
  captures hno := (h'.captures hno).trans (h.captures hno)
  passed hno hno' := (h'.passed hno hno').trans (h.passed hno hno')
  blank hno := (h'.blank hno).trans (h.blank hno)
  gate hno := (h'.gate hno).trans (h.gate hno)
  last hno := (h'.last hno).trans (h.last hno)

/-- More commands may change more. -/
theorem mono (huses : ∀ c, uses c → uses' c) (h : ChangedBy uses m₁ m₂) :
    ChangedBy uses' m₁ m₂ where
  custom hno := h.custom (mt (huses _) hno)
  names := h.names
  captures hno := h.captures (mt (huses _) hno)
  passed hno hno' := h.passed (mt (huses _) hno) (mt (huses _) hno')
  blank hno := h.blank (mt (huses _) hno)
  gate hno := h.gate fun c hc => mt (huses c) (hno c hc)
  last hno := h.last fun c hc => mt (huses c) (hno c hc)

end ChangedBy

/-! ### One instruction -/

theorem changedBy_absorb (hc : c.isQuery = true) (m : Machine) (rs : Resultset) :
    ChangedBy (· = c) m (m.absorb c rs) := by
  have last : ∀ s : Option Resultset, (∀ c', c'.isQuery = true → c' ≠ c) → s = m.state.last :=
    fun _ hno => absurd rfl (hno c hc)
  have same : ChangedBy (· = c) m m := .refl m
  cases c with
  | execute | storage => exact { same with last := last _ }
  | capture => exact { same with captures := fun hno => absurd rfl hno, last := last _ }
  | replace => exact { same with passed := fun hno _ => absurd rfl hno, last := last _ }
  | declare =>
    exact { same with
      custom := fun hno => absurd rfl hno
      names := fun _ => Bindings.mem_names_update
      last := last _ }
  | proceed | ifvalid | validif | forward | process | «include» | setting | examine => cases hc

theorem changedBy_query (hc : c.isQuery = true) :
    ChangedBy (· = c) m (m.query setup c r w).machine := by
  rw [query]
  split
  · exact changedBy_absorb hc m _
  · exact .refl m
  · exact .refl m

theorem changedBy_decided (hc : c.isGuard = true) (m : Machine) (gate : Gate) :
    ChangedBy (· = c) m { m with state := { m.state with gate := gate } } :=
  { (ChangedBy.refl m : ChangedBy (· = c) m m) with gate := fun hno => absurd rfl (hno c hc) }

theorem changedBy_set (m : Machine) (blank : Blank) :
    ChangedBy (· = .setting) m { m with state := { m.state with blank := blank } } :=
  { (ChangedBy.refl m : ChangedBy (· = .setting) m m) with blank := fun hno => absurd rfl hno }

/-- An instruction that ends by itself changes what belongs to its command. -/
theorem Planned.changedBy (h : Planned setup c r m w (.finish ended)) :
    ChangedBy (· = c) m ended.machine := by
  cases h with
  | performed _ _ h =>
    cases h with
    | queried hc => exact changedBy_query hc
    | decided hc => exact changedBy_decided hc m _
    | set hc =>
      subst hc
      exact changedBy_set m _
    | undecided | jumped | lost | unset | examined => exact .refl m
  | noTarget =>
    rw [machine_missTarget]
    exact .refl m
  | noAddress | callTooDeep | noName | unread | noCommands => exact .refl m

/-- A call hands its arguments over. -/
theorem changedBy_entered (m : Machine) (args : List Value) :
    ChangedBy (· = .process) m (m.entered args) := by
  obtain ⟨passed, hentered⟩ := m.exists_entered_eq args
  rw [hentered]
  exact { (ChangedBy.refl m : ChangedBy (· = .process) m m) with
    passed := fun _ hno => absurd rfl hno }

/-! ### Runs -/

/-- A program changes what belongs to its commands. -/
theorem evolution_changedBy (setup : Setup σ) (p : Program) :
    Evolution setup p fun m _ m' _ => ChangedBy p.Uses m m' where
  refl m _ := .refl m
  trans h h' := h.trans h'
  goTo m _ _ := { (ChangedBy.refl m : ChangedBy p.Uses m m) with }
  jumped m _ _ _ := .refl m
  skipped m _ _ _ := .refl m
  finish hi _ hp := by
    refine (planned_of_eq hp).changedBy.mono ?_
    rintro c rfl
    exact ⟨_, hi, rfl⟩
  call hi _ hp := by
    refine (changedBy_entered _ _).mono ?_
    rintro c rfl
    cases planned_of_eq hp with
    | call hc => exact ⟨_, hi, hc⟩
  counted m _ _ := { (ChangedBy.refl m : ChangedBy p.Uses m m) with }
  enter _ _ _ _ := .refl _

/-- **Each part of the state is changed by its own commands only.**  At the end of a run of a
valid program that has instructions, however it ends and whatever the scripts do that it
includes: without a `declare` the named parameters are those that were given, and in any case
their names are bound; without a `capture` the captures are those of before; with neither
`replace` nor `process` the positional parameters are those that were given; without a
`setting` the blank policy is the first one; without a guard the gate is open; and without a
query there is no result. -/
theorem run_changes_only_by_commands (setup : Setup σ) (fuel : Nat) (program : Option Program)
    (p : Program) (args : List Value) (custom : Bindings) (origin : Option CallSite)
    (m : Machine) (w : World σ) (hp : (program <|> m.program) = some p) (hv : p.IsValid)
    (hz : p.size ≠ 0) :
    let after := (run setup fuel program args custom origin m w).machine
    (¬ p.Uses .declare → after.state.custom = custom) ∧
    (∀ name ∈ custom.names, name ∈ after.state.custom.names) ∧
    (¬ p.Uses .capture → after.captures = m.captures) ∧
    (¬ p.Uses .replace → ¬ p.Uses .process → after.state.passed = args) ∧
    (¬ p.Uses .setting → after.state.blank = .empty) ∧
    (¬ p.Uses .proceed → ¬ p.Uses .ifvalid → ¬ p.Uses .validif → after.state.gate = .run) ∧
    (¬ p.Uses .execute → ¬ p.Uses .capture → ¬ p.Uses .replace → ¬ p.Uses .declare →
      ¬ p.Uses .storage → after.state.last = none) := by
  intro after
  have unrefused : ∀ q, program = some q → q.error? = none := by
    rintro q rfl
    obtain rfl : q = p := by simpa using hp
    exact q.error?_eq_none_iff.mpr hv
  have hchanged : ChangedBy p.Uses (m.launched p args custom origin) after :=
    (evolution_changedBy setup p).run hp unrefused hz fuel args custom origin w
  refine ⟨hchanged.custom, hchanged.names, hchanged.captures, hchanged.passed, hchanged.blank,
    ?_, ?_⟩
  · intro hproceed hifvalid hvalidif
    apply hchanged.gate
    intro c hc
    cases c with
    | proceed => exact hproceed
    | ifvalid => exact hifvalid
    | validif => exact hvalidif
    | _ => cases hc
  · intro hexecute hcapture hreplace hdeclare hstorage
    apply hchanged.last
    intro c hc
    cases c with
    | execute => exact hexecute
    | capture => exact hcapture
    | replace => exact hreplace
    | declare => exact hdeclare
    | storage => exact hstorage
    | _ => cases hc

/-- A script that binds a name, replaces the parameters, stores rows, chooses a policy and
closes the gate. -/
def busy : Setup Rehearsal where
  client := .ofStyle .qmark Rehearsal.query
  source := (Scripts.ofList [("part",
    "! declare select 1\n! replace select 2\n! capture select 3\n" ++
      "! setting null\n! process 2\n! validif 0")]).toSource

/-- A program that stores rows once and includes the script: all else is as it was. -/
theorem busy_changes_captures_only :
    let w : World Rehearsal :=
      { database := .ofRules [⟨"select", [.rows ["a"] [[.value (.int 9)]]]⟩] }
    let p : Program :=
      { source := "main"
        instructions :=
          [⟨.include, "part $0", none⟩, ⟨.capture, "select $!a", none⟩, ⟨.forward, "7", none⟩] }
    let after := (run busy 99 (some p) [.int 7] [("a", .int 1)] none {} w).machine
    after.state.custom = [("a", .int 1)] ∧ after.state.passed = [.int 7] ∧
      after.state.blank = .empty ∧ after.state.gate = .run ∧ after.captures.length = 1 := by
  intro w p after
  obtain ⟨custom, -, -, passed, blank, gate, -⟩ :=
    run_changes_only_by_commands busy 99 (some p) p [.int 7] [("a", .int 1)] none {} w rfl
      (p.error?_eq_none_iff.mp (by decide)) (by decide)
  refine ⟨custom (by decide), passed (by decide) (by decide), blank (by decide),
    gate (by decide) (by decide) (by decide), ?_⟩
  decide +kernel

end Machine

end SqlScript
