/-
SqlScript/Proofs/Engine/Isolation.lean

An include is a run of its own.

The machine that includes a script is the same before and after.  What the included
script does to the database, and whether it ends well, is what loading and running it on
a new machine does, with the bound values as positional and the current named parameters
as named ones, and with as much of the limit for includes as is left
(`dispatch_include_isolated`).
-/
import SqlScript.Client.Rehearsal
import SqlScript.Client.Style
import SqlScript.Proofs.Engine.Lockstep
import SqlScript.Proofs.Engine.Trace
import SqlScript.Session

namespace SqlScript

/-! ### Ways of ending -/

theorem Outcome.exists_map_eq_done {α β : Type} {f : α → β} {o : Outcome α} :
    (∃ b, o.map f = .done b) ↔ ∃ a, o = .done a := by
  cases o <;> simp [Outcome.map]

theorem Outcome.exists_attach_eq_done {α : Type} {c : Context} {o : Outcome α} :
    (∃ a, o.attach c = .done a) ↔ ∃ a, o = .done a := by
  cases o <;> simp [Outcome.attach]

theorem Outcome.map_eq_cutOff {α β : Type} {f : α → β} {o : Outcome α} :
    o.map f = .cutOff ↔ o = .cutOff := by
  cases o <;> simp [Outcome.map]

theorem Outcome.attach_eq_cutOff {α : Type} {c : Context} {o : Outcome α} :
    o.attach c = .cutOff ↔ o = .cutOff := by
  cases o <;> simp [Outcome.attach]

theorem Outcome.Alike.exists_done {α : Type} {depth : Nat} {o o' : Outcome α}
    (h : o.Alike depth o') : (∃ a, o = .done a) ↔ ∃ a, o' = .done a := by
  cases h <;> simp

theorem Outcome.Alike.cutOff_iff {α : Type} {depth : Nat} {o o' : Outcome α}
    (h : o.Alike depth o') : o = .cutOff ↔ o' = .cutOff := by
  cases h <;> simp

theorem calls_map_deepen (depth : Nat) (es : List Event) :
    calls (es.map (Event.deepen depth)) = calls es := by
  have hquery : Event.query? ∘ Event.deepen depth = Event.query? := by
    funext e
    exact Event.query?_deepen depth e
  rw [calls, ← List.map_reverse, List.filterMap_map, hquery, calls]

/-- Where one side starts with events that send nothing, the statements after them are
the same on both sides. -/
theorem World.Alike.calls_eq {σ : Type} {depth : Nat} {silent t : List Event} {w w' : World σ}
    (h : w.Alike depth (silent ++ t) [] w') (hsilent : calls silent = []) :
    ∃ es, w.trace = es ++ t ∧ calls es = calls w'.trace := by
  obtain ⟨-, es, ht, ht'⟩ := h
  refine ⟨es.map (Event.deepen depth) ++ silent, ?_, ?_⟩
  · rw [ht, List.append_assoc]
  · rw [calls_append, hsilent, calls_map_deepen, ht', List.append_nil, List.nil_append]

namespace Machine

variable {σ : Type} {setup : Setup σ} {m : Machine} {w : World σ} {i : Instruction}
variable {r : Resolved} {name text : String}

/-! ### Loading the script on both sides -/

theorem includeName_eq_ok (hn : Text.firstWord? r.text.toList = some name.toList)
    (hd : m.depth < setup.maxIncludeDepth) : m.includeName setup r = .ok name := by
  rw [includeName, hn]
  simp only [String.ofList_toList]
  exact if_neg (by omega)

theorem depth_lt_of_includeName (h : m.includeName setup r = .ok name) :
    m.depth < setup.maxIncludeDepth := by
  refine Int.not_le.mp fun hd => ?_
  rw [includeName] at h
  split at h
  · cases h
  · rw [if_pos hd] at h
    cases h

theorem readScript_of_valid (hs : setup.source name = .ok text)
    (hv : (Program.parse setup.marker text name).error? = none) (w : World σ) :
    ∃ w', readScript setup name w = (.ok (Program.parse setup.marker text name), w') := by
  simp only [readScript, Source.fetch, hs, readText, hv]
  exact ⟨_, rfl⟩

theorem load_of_read {program : Program} {w' : World σ} {m : Machine}
    (h : readScript setup name w = (.ok program, w')) :
    load setup name none m w = ⟨.done program, { m with program := some program }, w'⟩ := by
  simp [load, adopt, h]

theorem plan_include {program : Program} {w' : World σ} (hc : i.command = .include)
    (hn : m.includeName setup r = .ok name)
    (hread : readScript setup name (w.note (.including name (m.depth + 1)))
      = (.ok program, w')) :
    m.plan setup i.command r w
      = if program.size = 0 then
          .finish ⟨.failed (.error (noCommands (some program.source) m.origin)), m, w'⟩
        else .enter program w' := by
  rw [hc, plan, includePlan, hn]
  simp only [hread]

/-! ### The include as a run -/

/-- **An include is isolated.**  An include that may ask for its script, and whose script
can be read and keeps the rule of programs, leaves the machine as it is.  A new machine
that loads the script and runs it, under the rest of the limit, sends the same statements
to the same database and ends well exactly if the include does. -/
theorem dispatch_include_isolated (setup : Setup σ) (fuel index : Nat) (i : Instruction)
    (m : Machine) (w : World σ) (r : Resolved) (name text : String)
    (hb : m.Begins setup i r) (hc : i.command = .include)
    (hn : Text.firstWord? r.text.toList = some name.toList)
    (hd : m.depth < setup.maxIncludeDepth) (hs : setup.source name = .ok text)
    (hv : (Program.parse setup.marker text name).error? = none) :
    let ended := dispatch setup (fuel + 1) index i m w
    let rest := setup.lowered (m.depth + 1)
    let loaded := load rest name none {} { database := w.database }
    let alone := run rest fuel none r.args m.state.custom none loaded.machine loaded.world
    ended.machine = m ∧
      ended.world.database = alone.world.database ∧
      (∃ es, ended.world.trace = es ++ w.trace ∧ calls es = calls alone.world.trace) ∧
      ((∃ v, ended.outcome = .done v) ↔ ∃ v, alone.outcome = .done v) ∧
      (ended.outcome = .cutOff ↔ alone.outcome = .cutOff) := by
  intro ended rest loaded alone
  generalize hprogram : Program.parse setup.marker text name = program at hv
  -- both sides read the script, the include after two events of its own
  have hstart : ((m.begun index i r w).note (.including name (m.depth + 1))).Alike (m.depth + 1)
      ([.including name (m.depth + 1), m.dispatchEvent index i r] ++ w.trace) []
      { database := w.database } := ⟨rfl, [], rfl, rfl⟩
  obtain ⟨v, hread⟩ := readScript_of_valid hs (hprogram ▸ hv)
    ((m.begun index i r w).note (.including name (m.depth + 1)))
  obtain ⟨v', hread'⟩ : ∃ v', readScript rest name { database := w.database }
      = (.ok (Program.parse setup.marker text name), v') :=
    readScript_of_valid hs (hprogram ▸ hv) _
  have hworld : v.Alike (m.depth + 1)
      ([.including name (m.depth + 1), m.dispatchEvent index i r] ++ w.trace) [] v' := by
    have halike := (readScript_alike setup hstart name).2
    rwa [hread, hread'] at halike
  rw [hprogram] at hread hread'
  have hplan := plan_include hc (includeName_eq_ok hn hd) hread
  have hloaded : loaded = ⟨.done program, { ({} : Machine) with program := some program }, v'⟩ :=
    load_of_read hread'
  have halone : alone = runLoaded rest fuel r.args m.state.custom
      { ({} : Machine) with program := some program } v' := by
    simp only [alone, hloaded, run]
    rfl
  by_cases hz : program.size = 0
  · rw [if_pos hz] at hplan
    have hended : ended = _ := dispatch_finish hb hplan
    rw [hended, halone]
    simp only [runLoaded, hz, if_true, Result.attach, Outcome.attach]
    exact ⟨trivial, hworld.database, hworld.calls_eq rfl, by simp, by simp⟩
  · rw [if_neg hz] at hplan
    have hended : ended = _ := dispatch_enter hb hplan
    have hmachine : (m.child program r.args).Alike (m.depth + 1) []
        (({ program := some program } : Machine).started r.args m.state.custom) :=
      ⟨rfl, rfl, rfl, (Nat.zero_add _).symm, rfl⟩
    obtain ⟨ho, -, hend⟩ := loop_alike hmachine hworld setup fuel
    rw [hended, halone, runLoaded_eq rfl hz]
    simp only [left, Outcome.exists_attach_eq_done, Outcome.exists_map_eq_done,
      Outcome.attach_eq_cutOff, Outcome.map_eq_cutOff]
    exact ⟨trivial, hend.database, hend.calls_eq rfl, ho.exists_done, ho.cutOff_iff⟩

/-- A script that sends one statement and then includes itself, three includes deep at
most. -/
def selfIncluding : Setup Rehearsal where
  client := .ofStyle .qmark Rehearsal.query
  source := (Scripts.ofList [("part", "! capture select $0\n! include part $0")]).toSource
  maxIncludeDepth := 3

/-- The include of a script that will fail: of the three includes that are allowed, one
lies behind it. -/
theorem selfIncluding_isolated :
    let m : Machine := { state := { passed := [.int 7] }, captures := [[]], depth := 1 }
    let w : World Rehearsal := { database := .ofRules [] }
    let ended := dispatch selfIncluding 101 4 { command := .include, statement := "part $0" } m w
    let rest := selfIncluding.lowered 2
    let loaded := load rest "part" none {} { database := w.database }
    let alone := run rest 100 none [.int 7] [] none loaded.machine loaded.world
    ended.machine = m ∧
      ended.world.database = alone.world.database ∧
      (∃ es, ended.world.trace = es ++ w.trace ∧ calls es = calls alone.world.trace) ∧
      ((∃ v, ended.outcome = .done v) ↔ ∃ v, alone.outcome = .done v) ∧
      (ended.outcome = .cutOff ↔ alone.outcome = .cutOff) := by
  have parsed : Template.parse "part $0".toList =
      ⟨['p', 'a', 'r', 't', ' '], [(.positional ['0'], [])]⟩ := by decide +kernel
  have resolved : resolve "part $0" [.int 7] [] "?" =
      .ok ⟨"part ?", [.int 7], "part $0"⟩ := by
    rw [resolve, parsed]
    rfl
  exact dispatch_include_isolated selfIncluding 100 4 _ _ _ ⟨"part ?", [.int 7], "part $0"⟩
    "part" _ ⟨by decide, resolved⟩ rfl (by decide) (by decide) rfl (by rfl)

end Machine

end SqlScript
