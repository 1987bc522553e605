/-
SqlScript/Proofs/Engine/Reports.lean

What the error of a run reports.

An error leaves the instruction that fails with the script, address, line, command and
statement of that instruction, and no frame around it changes them.  So whatever calls and
includes enclose it, the innermost instruction is the one reported
(`run_reports_innermost`).

Two things get mixed up on the way out.  An empty list of parameters counts as missing, so
an instruction without placeholders is reported with the parameters of the nearest
instruction around it that has some (`run_reports_nearest_parameters`).  And a script without
instructions gives its name to an error whose other fields are those of the include
(`run_error_coordinates`).  In every other case the fields of an error belong together.
-/
import SqlScript.Client.Rehearsal
import SqlScript.Client.Style
import SqlScript.Files.Tree
import SqlScript.Proofs.Engine.Failures
import SqlScript.Proofs.Program.NormalForm

namespace SqlScript

/-! ### Sources -/

/-- A source whose errors say that a script cannot be loaded, and nothing else. -/
def Source.OnlyLoadErrors (source : Source) : Prop :=
  ∀ name e, source name = .error (.error e) → e.kind = .sourceLoad

theorem Scripts.onlyLoadErrors (scripts : Scripts) : scripts.toSource.OnlyLoadErrors := by
  intro name e h
  rw [toSource] at h
  split at h
  · cases h
  · cases h
    rfl

theorem Files.onlyLoadErrors (t : Files.Tree) (root : Files.Path) :
    (Files.scripts t root).OnlyLoadErrors := by
  intro name e h
  simp only [Files.scripts, Files.readScript] at h
  split at h
  · cases h
  split at h
  · cases h
    rfl
  split at h
  next te _ =>
    rcases te with e | e
    · cases h
      rfl
    · cases e <;> cases h <;> rfl
  · cases h

/-! ### Lines -/

/-- Every instruction has the number of its line, as in a program read from a text. -/
def Program.Numbered (p : Program) : Prop := ∀ i ∈ p.instructions, ∃ n, i.line = some n

theorem Program.numbered_parse (marker text source : String) :
    (Program.parse marker text source).Numbered := by
  intro i hi
  rw [instructions_parse] at hi
  obtain ⟨n, line, -, number, -⟩ := mem_instructionsFrom.mp hi
  exact ⟨1 + n, number⟩

/-- Included programs are read from texts, so only the program that is run matters. -/
theorem Program.Reaches.numbered {source : Source} {marker bindMarker : String}
    {top p : Program} (h : top.Reaches source marker bindMarker p) (htop : top.Numbered) :
    p.Numbered := by
  cases h with
  | top => exact htop
  | included => exact Program.numbered_parse marker _ _

/-! ### Contexts of instructions -/

/-- A context that is filled in for the instruction `i` at an address. -/
structure Context.Locates (c : Context) (index : Int) (i : Instruction) : Prop where
  index : c.index = some index
  line : c.line = i.line
  command : c.command = some i.command.keyword
  statement : c.statement = some i.statement

theorem Context.Locates.extend {c c' : Context} {index : Int} {i : Instruction}
    (h : c.Locates index i) (hl : ∃ n, i.line = some n) (he : c.Extends c') :
    c'.Locates index i where
  index := he.index _ h.index
  line := by
    obtain ⟨n, hn⟩ := hl
    rw [hn]
    exact he.line n (h.line.trans hn)
  command := he.command _ h.command
  statement := he.statement _ h.statement

namespace Machine

variable {σ : Type} {setup : Setup σ} {m m' : Machine} {w w' : World σ} {i : Instruction}
variable {r : Resolved} {e : ProcedureError} {frames : List Context} {a : Activity σ}
variable {k index : Nat} {p top : Program}

/-- The context of an error that an instruction has by itself, when it has left all
frames. -/
def reported (m : Machine) (index : Nat) (i : Instruction) (r : Resolved) (frames : List Context)
    (c : Context) : Context :=
  (c.attach (m.contextOf index i r)).unwind frames

/-- The error that leaves an activity, from the one that an instruction within it has by
itself. -/
theorem Within.failure?_of_alone (hin : Within setup a frames (.dispatch (k + 1) index i m' w'))
    (hf : m'.FailsAlone setup index i w' r (.error e)) :
    a.failure? setup
      = some (.error { e with context := m'.reported index i r frames e.context }) :=
  hin.failure? (Breaks.alone hf).failure?

/-- An error that is filled in for an instruction when it leaves it stays so, whatever
frames it passes. -/
theorem reported_locates (hp : p.Numbered) (hi : p.get? index = some i) {c : Context}
    (hc : (c.attach (m.contextOf index i r)).Locates index i) (frames : List Context) :
    (m.reported index i r frames c).Locates index i :=
  hc.extend (hp i (mem_of_get? hi)) (Context.extends_unwind _ frames)

theorem reported_extends (c : Context) (frames : List Context) :
    c.Extends (m.reported index i r frames c) :=
  (c.extends_attach _).trans (Context.extends_unwind _ frames)

/-- An error without a context of its own reports the program of its instruction. -/
theorem reported_source (hm : m.program = some p) (frames : List Context) :
    (m.reported index i r frames {}).source = some p.source := by
  have hsource : (({} : Context).attach (m.contextOf index i r)).source = some p.source := by
    rw [contextOf, hm]
    rfl
  exact (Context.extends_unwind _ frames).source _ hsource

/-- What an include passes on from its source is no error of its own: either it says that
the script cannot be included, or it names the script. -/
theorem includeFailure_ne_own {name : String} {f : Failure} {cause : Cause}
    (hc : cause.isOwn = true) :
    includeFailure name (f.attach { source := some name }) ≠ .of cause := by
  intro h
  cases f with
  | fault g => cases h
  | error e =>
    simp only [Failure.attach, includeFailure] at h
    split at h
    · cases h
      cases hc
    · have hsource := congrArg (fun e => e.context.source) (Failure.error.inj h)
      simp [ProcedureError.attach, Context.attach] at hsource

/-- An error without parameters of its own reports those of the nearest instruction that
has some. -/
theorem parameters_reported {c : Context} (hc : c.parameters = []) (frames : List Context) :
    (m.reported index i r frames c).parameters
      = Context.nearest (m.contextOf index i r :: frames) := by
  rw [reported, Context.parameters_unwind]
  simp [Context.nearest, Context.attach, hc]

/-- The kind of an error of an instruction's own tells whether it was an examine. -/
theorem FailsAlone.kind {cause : Cause} (h : m.FailsAlone setup index i w r (.of cause))
    (hc : cause.isOwn = true) :
    cause.kind = if i.command = .examine then .diagnosticAbort else .execution := by
  have hraised := h.raised
  generalize hf : Failure.of cause = f at hraised
  cases hraised with
  | own hne hown =>
    cases hown with
    | error _ hk =>
      cases hf
      rw [hk, if_neg hne]
    | number => cases hf
  | examined he =>
    cases hf
    rw [if_pos he]
    rfl
  | crashed => cases hf
  | unread => exact absurd hf.symm (includeFailure_ne_own hc)
  | invalid _ _ he =>
    obtain ⟨_, _, _, rfl⟩ := Program.error?_eq_some he
    cases hf
  | empty => cases hf

/-! ### The innermost instruction -/

/-- **The innermost instruction that fails is the one reported.**  If an instruction that is
carried out within a run fails by itself with an error of its own, the run fails with an
error of that cause, an examine with the kind of its own, and the error names the program of
the instruction and its address, line, command and statement, whatever calls and includes
enclose it. -/
theorem run_reports_innermost (setup : Setup σ) (fuel : Nat) (program : Option Program)
    (args : List Value) (custom : Bindings) (origin : Option CallSite) (m : Machine)
    (w : World σ) (frames : List Context) (k index : Nat) (i : Instruction) (m' : Machine)
    (w' : World σ) (r : Resolved) (cause : Cause)
    (hn : ∀ top, (program <|> m.program) = some top → top.Numbered)
    (hin : Within setup (.run fuel program args custom origin m w) frames
      (.dispatch (k + 1) index i m' w'))
    (hf : m'.FailsAlone setup index i w' r (.of cause)) (hc : cause.isOwn = true) :
    ∃ top p e, (program <|> m.program) = some top ∧
      top.Reaches setup.source setup.marker setup.client.bindMarker p ∧
      m'.program = some p ∧ p.get? index = some i ∧
      (run setup fuel program args custom origin m w).outcome = .failed (.error e) ∧
      e.kind = (if i.command = .examine then .diagnosticAbort else .execution) ∧
      e.detail = cause.detail ∧ e.context.source = some p.source ∧
      e.context.Locates index i := by
  obtain ⟨top, htop⟩ := hin.exists_top
  obtain ⟨p, hp, hreach, hi⟩ := hin.placed htop
  have hnumbered : p.Numbered := hreach.numbered (hn top htop)
  have hfailure := hin.failure?_of_alone hf
  refine ⟨top, p, _, htop, hreach, hp, hi, Outcome.failure?_eq_some.mp hfailure, hf.kind hc, rfl,
    reported_source hp frames, reported_locates hnumbered hi ⟨rfl, rfl, rfl, rfl⟩ frames⟩

/-- A source with one script, whose jump has no address. -/
def nested : Setup Rehearsal where
  client := .ofStyle .qmark Rehearsal.query
  source := (Scripts.ofList [("part", "! forward x")]).toSource

/-- A program that calls its own include of that script. -/
def nestedMain : Program := Program.parse "!" "! process 1\n! include part $0" "main"

/-- The jump of the script. -/
def nestedJump : Instruction := ⟨.forward, "x", some 1⟩

/-- The jump is reached through a call and an include, of which the include has a
parameter, and fails by itself. -/
theorem nested_fails :
    ∃ frames k m' w',
      Within nested (.run 100 (some nestedMain) [.int 7] [] none {} { database := .ofRules [] })
        frames (.dispatch (k + 1) 0 nestedJump m' w') ∧
      m'.FailsAlone nested 0 nestedJump w' ⟨"x", [], "x"⟩ (.of (.invalidIndex (.text "x"))) ∧
      m'.program = some ⟨"part", [nestedJump]⟩ ∧ Context.nearest frames = [.int 7] := by
  have one : Template.parse "1".toList = ⟨['1'], []⟩ := by with_unfolding_all decide
  have part : Template.parse "part $0".toList
      = ⟨['p', 'a', 'r', 't', ' '], [(.positional ['0'], [])]⟩ := by with_unfolding_all decide
  have x : Template.parse "x".toList = ⟨['x'], []⟩ := by with_unfolding_all decide
  have resolved_one : resolve "1" [.int 7] [] "?" = .ok ⟨"1", [], "1"⟩ := by
    rw [resolve, one]
    rfl
  have resolved_part : resolve "part $0" [.int 7] [] "?"
      = .ok ⟨"part ?", [.int 7], "part $0"⟩ := by
    rw [resolve, part]
    rfl
  have resolved_x : resolve "x" [.int 7] [] "?" = .ok ⟨"x", [], "x"⟩ := by
    rw [resolve, x]
    rfl
  -- the run, its first instruction, the one that it calls, the included program, the jump
  exact ⟨_, 95, _, _,
    .inside (.start_valid rfl (by decide) ..) (.inside (.turn rfl rfl)
      (.inside (.call ⟨rfl, resolved_one⟩ rfl) (.inside (.enter ⟨rfl, resolved_part⟩ rfl)
        (.inside (.turn rfl rfl) (.self _))))),
    ⟨⟨rfl, resolved_x⟩, _, rfl, rfl⟩, rfl, rfl⟩

theorem nestedJump_numbered : (⟨"part", [nestedJump]⟩ : Program).Numbered := by
  intro i hi
  obtain rfl := List.mem_singleton.mp hi
  exact ⟨1, rfl⟩

theorem nestedMain_numbered (top : Program)
    (h : (some nestedMain <|> ({} : Machine).program) = some top) : top.Numbered := by
  obtain rfl : nestedMain = top := Option.some.inj h
  exact Program.numbered_parse _ _ _

theorem nested_reports_jump :
    ∃ e, (run nested 100 (some nestedMain) [.int 7] [] none {} { database := .ofRules [] }).outcome
        = .failed (.error e) ∧
      e.kind = .execution ∧ e.detail = "invalid instruction index 'x'" ∧
      e.context.source = some "part" ∧ e.context.Locates 0 nestedJump := by
  obtain ⟨frames, k, m', w', hin, hf, hp, -⟩ := nested_fails
  obtain ⟨top, p, e, -, -, hprogram, -, he, hkind, hdetail, hsource, hlocates⟩ :=
    run_reports_innermost nested 100 (some nestedMain) [.int 7] [] none {} _ frames k 0 nestedJump
      m' w' _ _ nestedMain_numbered hin hf rfl
  obtain rfl : (⟨"part", [nestedJump]⟩ : Program) = p := by simpa [hp] using hprogram
  refine ⟨e, he, hkind, ?_, hsource, hlocates⟩
  rw [hdetail]
  decide +kernel

/-! ### Parameters -/

/-- Under a source that has no errors but those of loading, no error has parameters before
it is reported. -/
theorem Raised.parameters_eq_nil (hs : setup.source.OnlyLoadErrors)
    (h : Raised setup m i r (.error e)) : e.context.parameters = [] := by
  generalize hf : Failure.error e = f at h
  cases h with
  | own _ hown =>
    cases hown with
    | error => cases hf; rfl
    | number => cases hf
  | examined => cases hf; rfl
  | crashed => cases hf
  | @unread name g hn hsource =>
    cases g with
    | fault g => cases hf
    | error e₀ =>
      have hkind : (e₀.attach { source := some name }).kind = .sourceLoad := hs name e₀ hsource
      simp only [Failure.attach, includeFailure, hkind, if_true] at hf
      cases hf
      rfl
  | invalid _ _ he =>
    obtain ⟨_, _, _, rfl⟩ := Program.error?_eq_some he
    cases hf
    rfl
  | empty => cases hf; rfl

/-- **Parameters are those of the nearest instruction that has some.**  An error that an
instruction has by itself leaves the run with the parameters of that instruction if it has
placeholders, and otherwise with those of the nearest call or include around it that has
some.  So they are the instruction's own exactly if it has placeholders, or nothing around
it has parameters. -/
theorem run_reports_nearest_parameters (setup : Setup σ) (fuel : Nat) (program : Option Program)
    (args : List Value) (custom : Bindings) (origin : Option CallSite) (m : Machine)
    (w : World σ) (frames : List Context) (k index : Nat) (i : Instruction) (m' : Machine)
    (w' : World σ) (r : Resolved) (f : Failure) (e : ProcedureError)
    (hs : setup.source.OnlyLoadErrors)
    (hin : Within setup (.run fuel program args custom origin m w) frames
      (.dispatch (k + 1) index i m' w'))
    (hf : m'.FailsAlone setup index i w' r f)
    (he : (run setup fuel program args custom origin m w).outcome = .failed (.error e)) :
    e.context.parameters = Context.nearest (m'.contextOf index i r :: frames) ∧
      (e.context.parameters = r.args ↔
        i.placeholders ≠ [] ∨ ∀ c ∈ frames, c.parameters = []) := by
  -- the error of the run is that of the instruction behind its frames
  have hrun := hin.failure? (Breaks.alone hf).failure?
  rw [Activity.failure?, Outcome.failure?_eq_some.mpr he, Option.some.injEq] at hrun
  cases f with
  | fault g => cases hrun
  | error e₀ =>
    cases hrun
    have hempty : e₀.context.parameters = [] := hf.raised.parameters_eq_nil hs
    have hnearest : (m'.reported index i r frames e₀.context).parameters
        = Context.nearest (m'.contextOf index i r :: frames) := parameters_reported hempty frames
    refine ⟨hnearest, ?_⟩
    show (m'.reported index i r frames e₀.context).parameters = r.args ↔ _
    rw [hnearest, ← hf.begins.args_ne_nil_iff]
    exact Context.nearest_eq_head_iff

theorem nested_reports_parameters :
    ∃ e, (run nested 100 (some nestedMain) [.int 7] [] none {} { database := .ofRules [] }).outcome
        = .failed (.error e) ∧ e.context.parameters = [.int 7] := by
  obtain ⟨frames, k, m', w', hin, hf, -, hnearest⟩ := nested_fails
  have he := Outcome.failure?_eq_some.mp (hin.failure?_of_alone hf)
  have hreport := run_reports_nearest_parameters nested 100 (some nestedMain) [.int 7] [] none {}
    _ frames k 0 nestedJump m' w' _ _ _ (Scripts.onlyLoadErrors _) hin hf he
  exact ⟨_, he, hreport.1.trans hnearest⟩

/-- The jump has no placeholder and was carried out without parameters, but the error that
tells it has those of the include. -/
theorem nested_parameters_misreported :
    ∃ frames k m' w' r f e,
      Within nested (.run 100 (some nestedMain) [.int 7] [] none {} { database := .ofRules [] })
        frames (.dispatch (k + 1) 0 nestedJump m' w') ∧
      m'.FailsAlone nested 0 nestedJump w' r f ∧
      (run nested 100 (some nestedMain) [.int 7] [] none {} { database := .ofRules [] }).outcome
        = .failed (.error e) ∧
      e.context.source = some "part" ∧ e.context.index = some 0 ∧
      r.args = [] ∧ e.context.parameters = [.int 7] := by
  obtain ⟨frames, k, m', w', hin, hf, hp, hnearest⟩ := nested_fails
  have he := Outcome.failure?_eq_some.mp (hin.failure?_of_alone hf)
  have hlocates : (m'.reported 0 nestedJump ⟨"x", [], "x"⟩ frames {}).Locates 0 nestedJump :=
    reported_locates nestedJump_numbered rfl ⟨rfl, rfl, rfl, rfl⟩ frames
  exact ⟨frames, k, m', w', _, _, _, hin, hf, he, reported_source hp frames, hlocates.index, rfl,
    (parameters_reported rfl frames).trans hnearest⟩

/-! ### Coordinates -/

/-- A context tells an instruction of a program that `top` reaches: the program of its
script has that instruction at its address. -/
def Tells (setup : Setup σ) (top : Program) (index : Int) (c : Context) : Prop :=
  ∃ p i, top.Reaches setup.source setup.marker setup.client.bindMarker p ∧
    p.get? index = some i ∧ c.source = some p.source ∧ c.Locates index i

/-- A context mixes two scripts up: it names one that has no instructions, and otherwise
tells the instruction by which a program that `top` reaches includes it. -/
def Mixes (setup : Setup σ) (top : Program) (index : Int) (c : Context) : Prop :=
  ∃ p i name text, top.Reaches setup.source setup.marker setup.client.bindMarker p ∧
    p.get? index = some i ∧ i.includeName? setup.client.bindMarker = some name ∧
    setup.source name = .ok text ∧ (Program.parse setup.marker text name).size = 0 ∧
    c.source = some name ∧ c.Locates index i

/-- The error of an instruction that breaks the rule of programs tells that instruction. -/
theorem tells_of_error? (hr : top.Reaches setup.source setup.marker setup.client.bindMarker p)
    (hp : p.Numbered) (he : p.error? = some e) {c : Context} (hc : e.context.Extends c)
    {index : Int} (hi : c.index = some index) : Tells setup top index c := by
  obtain ⟨k, j, hj, rfl⟩ := Program.error?_eq_some he
  have hindex : c.index = some (k : Int) := hc.index _ rfl
  obtain rfl : (k : Int) = index := by simpa [hindex] using hi
  have hlocates : (j.selectError k p.source).context.Locates k j := ⟨rfl, rfl, rfl, rfl⟩
  exact ⟨p, j, hr, hj, hc.source _ rfl, hlocates.extend (hp j (mem_of_get? hj)) hc⟩

theorem Raised.tells_or_mixes (hs : setup.source.OnlyLoadErrors) (hm : m.program = some p)
    (hr : top.Reaches setup.source setup.marker setup.client.bindMarker p) (hp : p.Numbered)
    (hi : p.get? index = some i) (h : Raised setup m i r (.error e)) (frames : List Context)
    {n : Int} (hn : (m.reported index i r frames e.context).index = some n) :
    (e.cause ≠ .noCommands → Tells setup top n (m.reported index i r frames e.context)) ∧
    (e.cause = .noCommands → Mixes setup top n (m.reported index i r frames e.context)) := by
  -- an error without a context of its own tells the instruction that has it
  have bare : ∀ cause : Cause, cause ≠ .noCommands → Failure.error e = .of cause →
      (e.cause ≠ .noCommands → Tells setup top n (m.reported index i r frames e.context)) ∧
      (e.cause = .noCommands → Mixes setup top n (m.reported index i r frames e.context)) := by
    intro cause hcause he
    cases he
    have hlocates : (m.reported index i r frames {}).Locates index i :=
      reported_locates hp hi ⟨rfl, rfl, rfl, rfl⟩ frames
    obtain rfl : (index : Int) = n := by simpa [hlocates.index] using hn
    exact ⟨fun _ => ⟨p, i, hr, hi, reported_source hm frames, hlocates⟩,
      fun h => absurd h hcause⟩
  generalize hf : Failure.error e = f at h
  cases h with
  | own _ hown =>
    cases hown with
    | error hc =>
      refine bare _ ?_ hf
      rintro rfl
      cases hc
    | number => cases hf
  | examined => exact bare _ (by simp) hf
  | crashed => cases hf
  | @unread name g hname hsource =>
    cases g with
    | fault g => cases hf
    | error e₀ =>
      have hkind : (e₀.attach { source := some name }).kind = .sourceLoad := hs name e₀ hsource
      simp only [Failure.attach, includeFailure, hkind, if_true] at hf
      exact bare _ (by simp) hf
  | invalid hname hsource he =>
    cases hf
    have hreach := Program.Reaches.included hr (mem_of_get? hi) hname hsource
    have htells := tells_of_error? hreach (Program.numbered_parse _ _ _) he
      (reported_extends e.context frames) hn
    obtain ⟨_, _, _, rfl⟩ := Program.error?_eq_some he
    exact ⟨fun _ => htells, fun h => by cases h⟩
  | @empty name text hname hsource hz =>
    cases hf
    -- the script is named before the include fills in the rest
    have hlocates : (m.reported index i r frames (noCommands (some name) m.origin).context).Locates
        index i := reported_locates hp hi ⟨rfl, rfl, rfl, rfl⟩ frames
    have hsourced : (m.reported index i r frames (noCommands (some name) m.origin).context).source
        = some name := (reported_extends _ frames).source name rfl
    obtain rfl : (index : Int) = n := by simpa [hlocates.index] using hn
    exact ⟨fun h => absurd rfl h,
      fun _ => ⟨p, i, name, text, hr, hi, hname, hsource, hz, hsourced, hlocates⟩⟩

/-- **The fields of an error belong together, unless an empty script was included.**  If the
error of a run has an address, a program that the run reaches has that instruction at that
address, under the name and with the line, command and statement of the error.  The one
exception is an included script without instructions: then the error names that script,
and address, line, command and statement are those of the include. -/
theorem run_error_coordinates (setup : Setup σ) (fuel : Nat) (program : Option Program)
    (args : List Value) (custom : Bindings) (origin : Option CallSite) (m : Machine)
    (w : World σ) (e : ProcedureError) (index : Int)
    (hs : setup.source.OnlyLoadErrors)
    (hn : ∀ top, (program <|> m.program) = some top → top.Numbered)
    (he : (run setup fuel program args custom origin m w).outcome = .failed (.error e))
    (hi : e.context.index = some index) :
    ∃ top, (program <|> m.program) = some top ∧
      (e.cause ≠ .noCommands → Tells setup top index e.context) ∧
      (e.cause = .noCommands → Mixes setup top index e.context) := by
  have hrun : (Activity.run fuel program args custom origin m w).failure? setup
      = some (.error e) := Outcome.failure?_eq_some.mpr he
  obtain ⟨frames, b, f₀, hin, hb, hf⟩ := failure?_eq_some_iff.mp hrun
  cases hb with
  | @refused _ _ _ _ _ _ p e₀ hp =>
    -- the program was handed over, and the error is that of its first bad instruction
    obtain ⟨heq, rfl⟩ := hin.eq_run
    cases heq
    cases hf
    have htells : Tells setup p index _ := tells_of_error? .top (hn p rfl) hp (.refl _) hi
    obtain ⟨_, _, _, rfl⟩ := Program.error?_eq_some hp
    exact ⟨p, rfl, fun _ => htells, fun h => by cases h⟩
  | idle hz =>
    -- without anything to run there is no address
    obtain ⟨heq, rfl⟩ := hin.eq_run
    cases heq
    cases hf
    cases hi
  | unresolved => cases hf
  | @alone k index' i m' w' r f hfa =>
    obtain ⟨top, htop⟩ := hin.exists_top
    obtain ⟨p, hp, hreach, hget⟩ := hin.placed htop
    cases f with
    | fault g => cases hf
    | error e₀ =>
      cases hf
      exact ⟨top, htop, hfa.raised.tells_or_mixes hs hp hreach (hreach.numbered (hn top htop))
        hget frames hi⟩

theorem nested_tells_jump :
    ∃ e, (run nested 100 (some nestedMain) [.int 7] [] none {} { database := .ofRules [] }).outcome
        = .failed (.error e) ∧
      e.context.index = some 0 ∧ Tells nested nestedMain 0 e.context := by
  obtain ⟨frames, k, m', w', hin, hf, -, -⟩ := nested_fails
  have he := Outcome.failure?_eq_some.mp (hin.failure?_of_alone hf)
  have hlocates : (m'.reported 0 nestedJump ⟨"x", [], "x"⟩ frames {}).Locates 0 nestedJump :=
    reported_locates nestedJump_numbered rfl ⟨rfl, rfl, rfl, rfl⟩ frames
  obtain ⟨top, htop, htells, -⟩ := run_error_coordinates nested 100 (some nestedMain) [.int 7] []
    none {} _ _ 0 (Scripts.onlyLoadErrors _) nestedMain_numbered he hlocates.index
  obtain rfl : nestedMain = top := Option.some.inj htop
  exact ⟨_, he, hlocates.index, htells (by simp)⟩

/-- A source with one script, which has no instructions. -/
def hollow : Setup Rehearsal where
  client := .ofStyle .qmark Rehearsal.query
  source := (Scripts.ofList [("part", "free text")]).toSource

/-- A program that includes that script. -/
def hollowMain : Program := Program.parse "!" "! include part" "main"

/-- The error names the script without instructions and has the address of the include, so
it tells no instruction. -/
theorem hollow_coordinates_mixed :
    ∃ e, (run hollow 100 (some hollowMain) [] [] none {} { database := .ofRules [] }).outcome
        = .failed (.error e) ∧
      e.context.source = some "part" ∧ e.context.index = some 0 ∧
      e.context.command = some "include" ∧
      (∃ text, hollow.source "part" = .ok text ∧
        (Program.parse hollow.marker text "part").get? 0 = none) ∧
      ¬ Tells hollow hollowMain 0 e.context := by
  have parsed : Template.parse "part".toList = ⟨['p', 'a', 'r', 't'], []⟩ := by decide +kernel
  have resolved : resolve "part" [] [] "?" = .ok ⟨"part", [], "part"⟩ := by
    rw [resolve, parsed]
    rfl
  have hin : Within hollow
      (.run 100 (some hollowMain) [] [] none {} { database := .ofRules [] }) []
      (.dispatch 99 0 ⟨.include, "part", some 1⟩ _ _) :=
    .inside (.start_valid rfl (by decide) ..) (.inside (.turn rfl rfl) (.self _))
  have he := hin.failure?_of_alone ⟨⟨rfl, resolved⟩, _, rfl, rfl⟩
  refine ⟨_, Outcome.failure?_eq_some.mp he, rfl, rfl, rfl, ⟨_, rfl, rfl⟩, ?_⟩
  -- of the programs that are reached, only the one without instructions has that name
  rintro ⟨p, i, hreach, hi, hsource, -⟩
  have hname : p.source = "part" := (Option.some.inj hsource).symm
  cases hreach with
  | top =>
    have hmain : hollowMain.source = "main" := rfl
    simp [hmain] at hname
  | @included _ _ name text _ _ _ htext =>
    obtain rfl : name = "part" := hname
    cases htext
    cases hi

end Machine

end SqlScript
