/-
SqlScript/Proofs/CommandLine/Transaction.lean

The transaction of the command.

Between the arguments and the database lie four checks, of the options, the script file, the
assignments and the address, and then the connection.  `Opened` says that all of them went well.
If so, the command is one transaction in which the script is loaded, run and printed
(`Opened.execute_eq`), and if not, the database is never called (`execute_of_not_opens`).

How a transaction is closed depends on how it went (`Concluded`): it stays open as long as the
script goes on, it is committed if nothing was raised (`Completes`), and it is rolled back
otherwise.  The main result puts the two together: the command commits exactly the runs that
succeed (`commits_exactly_successful_runs`).  A command that has ended is the same with more fuel
(`execute_settles`), so it makes no difference how long a script that ends is followed.
-/
import SqlScript.CommandLine.Run
import SqlScript.Proofs.Engine.Termination

namespace SqlScript.CommandLine

variable {σ : Type}

/-! ### Opening the connection -/

/-- The options are read, the script exists, the assignments are right, and the database at the
address is connected. -/
structure Opened (host : Host σ) (argv : List String) (o : Options) (root : Files.Path)
    (custom : Bindings) : Prop where
  options : Options.parse argv = .ok o
  script : host.tree.has o.scriptPath = .ok true
  assigned : assignments o.assignments = .ok custom
  root : o.rootPath? = some root
  address : ∃ url, o.url.getD (.text (host.url.getD defaultUrl)) = .text url ∧
    openAddress url = .ok ()
  connects : host.connectError = none

/-- The command opens a connection. -/
def Opens (host : Host σ) (argv : List String) : Prop :=
  ∃ o root custom, Opened host argv o root custom

/-- What keeps the command from opening a connection, whatever the script says. -/
inductive Barred (host : Host σ) (argv : List String) : Prop
  | usage {r : Refusal} : Options.parse argv = .error r → Barred host argv
  | script {o : Options} : Options.parse argv = .ok o → host.tree.has o.scriptPath ≠ .ok true →
      Barred host argv
  | assignment {o : Options} {e : AssignmentError} : Options.parse argv = .ok o →
      assignments o.assignments = .error e → Barred host argv
  | connection {message : String} : host.connectError = some message → Barred host argv

/-! ### Success and failure -/

/-- The setup of a transaction. -/
def transactionSetup (host : Host σ) (root : Files.Path) : Setup σ where
  client := .ofStyle .qmark host.query
  source := Files.scripts host.tree root

/-- With an open connection the script is loaded and run, and the run comes to an outcome and
leaves a machine. -/
def Runs (host : Host σ) (fuel : Nat) (argv : List String) (o : Options)
    (outcome : Outcome (Option Resultset)) (ended : Machine) : Prop :=
  ∃ root custom program loaded w w', Opened host argv o root custom ∧
    Machine.load (transactionSetup host root) (scriptName host.tree o.scriptPath root) none {}
      { database := host.database } = ⟨.done program, loaded, w⟩ ∧
    loaded.run (transactionSetup host root) fuel none (o.args.map Given.toValue) custom none w
      = ⟨outcome, ended, w'⟩

/-- The command **succeeds**: a connection is opened, and loading the script, running it and
printing its result and captures raise nothing. -/
def Succeeds (host : Host σ) (fuel : Nat) (argv : List String) : Prop :=
  ∃ o result ended, Runs host fuel argv o (.done result) ended ∧
    (printAll o.showCaptures result ended.captures).fault = none

/-- The script goes on when the fuel is used up. -/
def GoesOn (host : Host σ) (fuel : Nat) (argv : List String) : Prop :=
  ∃ o ended, Runs host fuel argv o .cutOff ended

/-- The command returns an exit code.  The exits of the description and of a usage error happen
while the options are read, and nothing is returned then. -/
def Returns (host : Host σ) (fuel : Nat) (argv : List String) (code : Nat) : Prop :=
  (∃ o, Options.parse argv = .ok o) ∧ (execute host fuel argv).ending = .exit code

/-- The command ends without returning anything. -/
inductive Raises (host : Host σ) (fuel : Nat) (argv : List String) : Prop
  | exit {r : Refusal} : Options.parse argv = .error r → Raises host fuel argv
  | fault {f : Fault} : (execute host fuel argv).ending = .fault f → Raises host fuel argv
  | breakdown {b : Breakdown} : (execute host fuel argv).ending = .breakdown b →
      Raises host fuel argv

/-! ### Closing the transaction -/

/-- The statements that the database received. -/
def statements (w : World σ) : List Call :=
  (w.trace.reverse.filterMap Event.query?).map fun q => .statement q.1 q.2

theorem commit_notMem_statements (w : World σ) : Call.commit ∉ statements w := by
  simp [statements]

theorem rollback_notMem_statements (w : World σ) : Call.rollback ∉ statements w := by
  simp [statements]

/-- A run came to its end without a failure, and what is to be printed can be printed. -/
def Completes (showCaptures : Bool) (ended : Result σ (Option Resultset)) : Prop :=
  ∃ result, ended.outcome = .done result ∧
    (printAll showCaptures result ended.machine.captures).fault = none

/-- How a transaction is closed, and what becomes of the command. -/
inductive Concluded (commitError : Option String) (showCaptures : Bool)
    (ended : Result σ (Option Resultset)) (a : Account) : Prop
  | cutOff : ended.outcome = .cutOff → ¬ Completes showCaptures ended → a.ending = .cutOff →
      a.calls = statements ended.world → Concluded commitError showCaptures ended a
  | rolledBack : ended.outcome ≠ .cutOff → ¬ Completes showCaptures ended →
      a.ending ≠ .cutOff → a.ending ≠ .exit 0 →
      a.calls = statements ended.world ++ [.rollback] →
      Concluded commitError showCaptures ended a
  | committed : ended.outcome ≠ .cutOff → Completes showCaptures ended → a.ending ≠ .cutOff →
      (a.ending = .exit 0 ↔ commitError = none) →
      a.calls = statements ended.world ++ [.commit] →
      Concluded commitError showCaptures ended a

theorem Concluded.ending_eq_cutOff_iff {commitError : Option String} {showCaptures : Bool}
    {ended : Result σ (Option Resultset)} {a : Account}
    (h : Concluded commitError showCaptures ended a) :
    a.ending = .cutOff ↔ ended.outcome = .cutOff := by
  cases h with
  | cutOff houtcome _ hending _ => exact iff_of_true hending houtcome
  | rolledBack houtcome _ hending _ _ => exact iff_of_false hending houtcome
  | committed houtcome _ hending _ _ => exact iff_of_false hending houtcome

/-- What is not done does not complete. -/
theorem not_completes {showCaptures : Bool} {ended : Result σ (Option Resultset)}
    (h : ∀ result, ended.outcome ≠ .done result) : ¬ Completes showCaptures ended := by
  rintro ⟨result, hdone, -⟩
  exact h result hdone

/-- A transaction is closed in one of three ways. -/
theorem conclude_concluded (commitError : Option String) (verbose showCaptures : Bool)
    (ended : Result σ (Option Resultset)) :
    Concluded commitError showCaptures ended
      (conclude commitError verbose showCaptures ended) := by
  obtain ⟨outcome, m, w⟩ := ended
  cases outcome with
  | cutOff => exact .cutOff rfl (not_completes nofun) rfl rfl
  | failed f =>
    rcases f with e | f
    · rcases hlong : Value.anyOverlong e.context.parameters with - | - <;>
        exact .rolledBack nofun (not_completes nofun) (by simp [conclude, hlong])
          (by simp [conclude, hlong]) (by simp [conclude, hlong, statements])
    · exact .rolledBack nofun (not_completes nofun) nofun nofun rfl
  | done result =>
    rcases hfault : (printAll showCaptures result m.captures).fault with - | f
    · -- everything is printed, and only the commit can still go wrong
      rcases commitError with - | message <;>
        exact .committed nofun ⟨result, rfl, hfault⟩ (by simp [conclude, hfault])
          (by simp [conclude, hfault]) (by simp [conclude, hfault, statements])
    · have hnot : ¬ Completes showCaptures ⟨.done result, m, w⟩ := by
        rintro ⟨_, ⟨rfl⟩, hnone⟩
        exact nomatch hfault.symm.trans hnone
      exact .rolledBack nofun hnot (by simp [conclude, hfault]) (by simp [conclude, hfault])
        (by simp [conclude, hfault, statements])

/-! ### The transaction of the command -/

/-- Loading comes to an end. -/
theorem load_ne_cutOff (setup : Setup σ) (name : String) (origin : Option CallSite) (m : Machine)
    (w : World σ) : (Machine.load setup name origin m w).outcome ≠ .cutOff := by
  rw [Machine.load]
  obtain ⟨f | p, w'⟩ := Machine.readScript setup name w
  · rintro ⟨⟩
  · rintro ⟨⟩

/-- Loading and running does not fail exactly if loading is done and running does not fail. -/
theorem loadAndRun_eq_iff {setup : Setup σ} {fuel : Nat} {name : String} {args : List Value}
    {custom : Bindings} {w w' : World σ} {outcome : Outcome (Option Resultset)} {ended : Machine}
    (h : outcome.failure? = none) :
    loadAndRun setup fuel name args custom w = ⟨outcome, ended, w'⟩ ↔
      ∃ program loaded w₁, Machine.load setup name none {} w = ⟨.done program, loaded, w₁⟩ ∧
        loaded.run setup fuel none args custom none w₁ = ⟨outcome, ended, w'⟩ := by
  rw [loadAndRun]
  rcases hload : Machine.load setup name none {} w with ⟨program | f | -, loaded, w₁⟩
  · constructor
    · exact fun hrun => ⟨program, loaded, w₁, rfl, hrun⟩
    · rintro ⟨_, _, _, ⟨rfl⟩, hrun⟩
      exact hrun
  · refine iff_of_false ?_ (by simp)
    rintro ⟨rfl⟩
    cases h
  · exact absurd (congrArg Result.outcome hload) (load_ne_cutOff setup name none {} w)

theorem loadAndRun_settles {setup : Setup σ} {fuel more : Nat} {name : String} {args : List Value}
    {custom : Bindings} {w : World σ}
    (h : (loadAndRun setup fuel name args custom w).outcome ≠ .cutOff) (hm : fuel ≤ more) :
    loadAndRun setup more name args custom w = loadAndRun setup fuel name args custom w := by
  simp only [loadAndRun] at h ⊢
  rcases hload : Machine.load setup name none {} w with ⟨program | f | -, loaded, w₁⟩
  · rw [hload] at h
    exact Machine.run_settles h hm
  · rfl
  · rfl

/-- The script is loaded and run in a transaction. -/
def transaction (host : Host σ) (fuel : Nat) (o : Options) (root : Files.Path)
    (custom : Bindings) : Result σ (Option Resultset) :=
  loadAndRun (transactionSetup host root) fuel (scriptName host.tree o.scriptPath root)
    (o.args.map Given.toValue) custom { database := host.database }

section Opened

variable {host : Host σ} {argv : List String} {o : Options} {root : Files.Path}
  {custom : Bindings}

theorem Opened.opens (h : Opened host argv o root custom) : Opens host argv :=
  ⟨o, root, custom, h⟩

/-- With an open connection, the command is its transaction. -/
theorem Opened.execute_eq (h : Opened host argv o root custom) (fuel : Nat) :
    execute host fuel argv
      = conclude host.commitError o.verbose o.showCaptures
          (transaction host fuel o root custom) := by
  obtain ⟨url, hurl, hopen⟩ := h.address
  have hfile : runFile host fuel o custom = runConnected host fuel o root custom := by
    simp only [runFile, h.root, hurl, hopen, h.connects]
  simp only [execute, h.options, h.script, h.assigned, hfile]
  rfl

/-- The options, the root and the parameters of an open connection are determined. -/
theorem Opened.unique {o' : Options} {root' : Files.Path} {custom' : Bindings}
    (h : Opened host argv o root custom) (h' : Opened host argv o' root' custom') :
    o' = o ∧ root' = root ∧ custom' = custom := by
  obtain rfl : o' = o := Except.ok.inj (h'.options.symm.trans h.options)
  obtain rfl : root' = root := Option.some.inj (h'.root.symm.trans h.root)
  exact ⟨rfl, rfl, Except.ok.inj (h'.assigned.symm.trans h.assigned)⟩

theorem Opened.options_eq (h : Opened host argv o root custom) {fuel : Nat} {o' : Options}
    {outcome : Outcome (Option Resultset)} {ended : Machine}
    (hruns : Runs host fuel argv o' outcome ended) : o' = o := by
  obtain ⟨root', custom', _, _, _, _, h', -⟩ := hruns
  exact (h.unique h').1

theorem Opened.runs_iff (h : Opened host argv o root custom) {fuel : Nat} {ended : Machine}
    (outcome : Outcome (Option Resultset)) (ho : outcome.failure? = none) :
    Runs host fuel argv o outcome ended ↔
      ∃ w, transaction host fuel o root custom = ⟨outcome, ended, w⟩ := by
  constructor
  · rintro ⟨root', custom', program, loaded, w, w', h', hload, hrun⟩
    obtain ⟨-, rfl, rfl⟩ := h.unique h'
    exact ⟨w', (loadAndRun_eq_iff ho).mpr ⟨program, loaded, w, hload, hrun⟩⟩
  · rintro ⟨w', ht⟩
    obtain ⟨program, loaded, w, hload, hrun⟩ := (loadAndRun_eq_iff ho).mp ht
    exact ⟨root, custom, program, loaded, w, w', h, hload, hrun⟩

/-- With an open connection, the command succeeds exactly if its transaction completes. -/
theorem Opened.succeeds_iff (h : Opened host argv o root custom) (fuel : Nat) :
    Succeeds host fuel argv ↔
      Completes o.showCaptures (transaction host fuel o root custom) := by
  constructor
  · rintro ⟨o', result, ended, hruns, hprint⟩
    obtain rfl : o' = o := h.options_eq hruns
    obtain ⟨w, ht⟩ := (h.runs_iff (.done result) rfl).mp hruns
    exact ⟨result, congrArg Result.outcome ht, by rwa [ht]⟩
  · rintro ⟨result, hdone, hprint⟩
    rcases ht : transaction host fuel o root custom with ⟨outcome, ended, w⟩
    rw [ht] at hdone hprint
    cases hdone
    exact ⟨o, result, ended, (h.runs_iff (.done result) rfl).mpr ⟨w, ht⟩, hprint⟩

/-- With an open connection, the script goes on exactly if its transaction is cut off. -/
theorem Opened.goesOn_iff (h : Opened host argv o root custom) (fuel : Nat) :
    GoesOn host fuel argv ↔ (transaction host fuel o root custom).outcome = .cutOff := by
  constructor
  · rintro ⟨o', ended, hruns⟩
    obtain rfl : o' = o := h.options_eq hruns
    obtain ⟨w, ht⟩ := (h.runs_iff .cutOff rfl).mp hruns
    exact congrArg Result.outcome ht
  · intro hcut
    rcases ht : transaction host fuel o root custom with ⟨outcome, ended, w⟩
    rw [ht] at hcut
    cases hcut
    exact ⟨o, ended, (h.runs_iff .cutOff rfl).mpr ⟨w, ht⟩⟩

end Opened

/-! ### Without a connection -/

section NotOpens

variable {host : Host σ} {argv : List String}

/-- An account of a command that never reached the database and did not exit with zero. -/
structure Account.Fruitless (a : Account) : Prop where
  calls : a.calls = []
  ended : a.ending ≠ .cutOff
  unsuccessful : a.ending ≠ .exit 0

theorem Account.refuse_fruitless (message : String) : (Account.refuse message).Fruitless :=
  ⟨rfl, nofun, nofun⟩

theorem Account.breakdown_fruitless (b : Breakdown) :
    Account.Fruitless { ending := .breakdown b } :=
  ⟨rfl, nofun, nofun⟩

/-- If the address or the connection is no good, nothing comes of it, whatever the fuel. -/
theorem runFile_fruitless {o : Options} {custom : Bindings}
    (h : ∀ root, o.rootPath? = some root → host.connectError = none →
      ∀ url, o.url.getD (.text (host.url.getD defaultUrl)) = .text url → openAddress url ≠ .ok ()) :
    ∃ a : Account, (∀ fuel, runFile host fuel o custom = a) ∧ a.Fruitless := by
  rcases hroot : o.rootPath? with - | root
  · simp only [runFile, hroot]
    exact ⟨_, fun _ => rfl, Account.breakdown_fruitless _⟩
  rcases hurl : o.url.getD (.text (host.url.getD defaultUrl)) with url | -
  · rcases hopen : openAddress url with (e | f) | ⟨⟩
    · simp only [runFile, hroot, hurl, hopen]
      exact ⟨_, fun _ => rfl, Account.refuse_fruitless _⟩
    · simp only [runFile, hroot, hurl, hopen]
      exact ⟨_, fun _ => rfl, Account.breakdown_fruitless _⟩
    · rcases hconnect : host.connectError with - | message
      · exact absurd hopen (h root hroot hconnect url hurl)
      · simp only [runFile, hroot, hurl, hopen, hconnect]
        exact ⟨_, fun _ => rfl, Account.refuse_fruitless _⟩
  · simp only [runFile, hroot, hurl]
    exact ⟨_, fun _ => rfl, Account.refuse_fruitless _⟩

/-- The account of a command that read its options and opens no connection. -/
theorem execute_fruitless (h : ¬ Opens host argv) {o : Options}
    (ho : Options.parse argv = .ok o) :
    ∃ a : Account, (∀ fuel, execute host fuel argv = a) ∧ a.Fruitless := by
  simp only [execute, ho]
  rcases hscript : host.tree.has o.scriptPath with f | (- | -)
  · exact ⟨_, fun _ => rfl, rfl, nofun, nofun⟩
  · exact ⟨_, fun _ => rfl, Account.refuse_fruitless _⟩
  rcases hassigned : assignments o.assignments with (s | -) | custom
  · exact ⟨_, fun _ => rfl, Account.refuse_fruitless _⟩
  · exact ⟨_, fun _ => rfl, Account.breakdown_fruitless _⟩
  refine runFile_fruitless fun root hroot hconnect url hurl hopen => h ?_
  exact ⟨o, root, custom, ho, hscript, hassigned, hroot, ⟨url, hurl, hopen⟩, hconnect⟩

/-- Without a connection, the command never calls the database, ends and does not return zero,
and it is the same for any fuel. -/
theorem execute_of_not_opens (h : ¬ Opens host argv) :
    ∃ a : Account, (∀ fuel, execute host fuel argv = a) ∧ a.calls = [] ∧ a.ending ≠ .cutOff ∧
      ∀ fuel, ¬ Returns host fuel argv 0 := by
  rcases ho : Options.parse argv with r | o
  · have hnothing : ∀ fuel, ¬ Returns host fuel argv 0 := fun fuel hzero => by
      simp [Returns, ho] at hzero
    rcases r with e | -
    · simp only [execute, ho]
      exact ⟨_, fun _ => rfl, rfl, nofun, hnothing⟩
    · simp only [execute, ho]
      exact ⟨_, fun _ => rfl, rfl, nofun, hnothing⟩
  · obtain ⟨a, hexecute, hcalls, hended, hzero⟩ := execute_fruitless h ho
    refine ⟨a, hexecute, hcalls, hended, fun fuel hreturns => hzero ?_⟩
    rw [← hexecute fuel]
    exact hreturns.2

/-- Nothing that bars the command opens a connection. -/
theorem Barred.not_opens (h : Barred host argv) : ¬ Opens host argv := by
  rintro ⟨o, root, custom, hopened⟩
  cases h with
  | usage hr => exact nomatch hr.symm.trans hopened.options
  | script ho hmissing =>
    cases ho.symm.trans hopened.options
    exact hmissing hopened.script
  | assignment ho herror =>
    cases ho.symm.trans hopened.options
    exact nomatch herror.symm.trans hopened.assigned
  | connection herror => exact nomatch herror.symm.trans hopened.connects

end NotOpens

/-! ### The whole command -/

theorem Runs.opens {host : Host σ} {fuel : Nat} {argv : List String} {o : Options}
    {outcome : Outcome (Option Resultset)} {ended : Machine}
    (h : Runs host fuel argv o outcome ended) : Opens host argv := by
  obtain ⟨root, custom, _, _, _, _, hopened, -⟩ := h
  exact hopened.opens

/-- The courses that the command can take. -/
inductive Course (host : Host σ) (fuel : Nat) (argv : List String) : Prop
  | unopened : ¬ Opens host argv → ¬ Succeeds host fuel argv →
      (execute host fuel argv).ending ≠ .cutOff → ¬ Returns host fuel argv 0 →
      (execute host fuel argv).calls = [] → Course host fuel argv
  | unfinished (w : World σ) : Opens host argv → ¬ Succeeds host fuel argv →
      (execute host fuel argv).ending = .cutOff →
      (execute host fuel argv).calls = statements w → Course host fuel argv
  | rolledBack (w : World σ) : Opens host argv → ¬ Succeeds host fuel argv →
      (execute host fuel argv).ending ≠ .cutOff → ¬ Returns host fuel argv 0 →
      (execute host fuel argv).calls = statements w ++ [.rollback] → Course host fuel argv
  | committed (w : World σ) : Opens host argv → Succeeds host fuel argv →
      (execute host fuel argv).ending ≠ .cutOff →
      (Returns host fuel argv 0 ↔ host.commitError = none) →
      (execute host fuel argv).calls = statements w ++ [.commit] → Course host fuel argv

theorem execute_course (host : Host σ) (fuel : Nat) (argv : List String) :
    Course host fuel argv := by
  by_cases hopens : Opens host argv
  · obtain ⟨o, root, custom, hopened⟩ := hopens
    have hconcluded := conclude_concluded host.commitError o.verbose o.showCaptures
      (transaction host fuel o root custom)
    rw [← hopened.execute_eq fuel] at hconcluded
    have hsucceeds := hopened.succeeds_iff fuel
    cases hconcluded with
    | cutOff _ hnot hending hcalls =>
      exact .unfinished _ hopened.opens (mt hsucceeds.mp hnot) hending hcalls
    | rolledBack _ hnot hended hzero hcalls =>
      exact .rolledBack _ hopened.opens (mt hsucceeds.mp hnot) hended (fun h => hzero h.2) hcalls
    | committed _ hcompletes hended hzero hcalls =>
      have hreturns : Returns host fuel argv 0 ↔ host.commitError = none :=
        ⟨fun h => hzero.mp h.2, fun h => ⟨⟨o, hopened.options⟩, hzero.mpr h⟩⟩
      exact .committed _ hopened.opens (hsucceeds.mpr hcompletes) hended hreturns hcalls
  · obtain ⟨a, hexecute, hcalls, hended, hzero⟩ := execute_of_not_opens hopens
    rw [← hexecute fuel] at hcalls hended
    have hfails : ¬ Succeeds host fuel argv := by
      rintro ⟨o, result, ended, hruns, -⟩
      exact hopens hruns.opens
    exact .unopened hopens hfails hended (hzero fuel) hcalls

section Courses

variable {host : Host σ} {fuel : Nat} {argv : List String}

/-- The transaction is closed once, at the end, unless it was never opened or goes on. -/
theorem Course.closed_once (h : Course host fuel argv) :
    ∃ sent closing, (execute host fuel argv).calls = sent ++ closing ∧
      .commit ∉ sent ∧ .rollback ∉ sent ∧
      (closing = [] ∨ closing = [.commit] ∨ closing = [.rollback]) ∧
      (closing = [] ↔ ¬ Opens host argv ∨ (execute host fuel argv).ending = .cutOff) := by
  cases h with
  | unopened hopens _ _ _ hcalls =>
    exact ⟨[], [], hcalls, nofun, nofun, .inl rfl, iff_of_true rfl (.inl hopens)⟩
  | unfinished w _ _ hending hcalls =>
    exact ⟨statements w, [], by rw [hcalls, List.append_nil], commit_notMem_statements w,
      rollback_notMem_statements w, .inl rfl, iff_of_true rfl (.inr hending)⟩
  | rolledBack w hopens _ hended _ hcalls =>
    exact ⟨statements w, [.rollback], hcalls, commit_notMem_statements w,
      rollback_notMem_statements w, .inr (.inr rfl),
      iff_of_false nofun (not_or.mpr ⟨fun h => h hopens, hended⟩)⟩
  | committed w hopens _ hended _ hcalls =>
    exact ⟨statements w, [.commit], hcalls, commit_notMem_statements w,
      rollback_notMem_statements w, .inr (.inl rfl),
      iff_of_false nofun (not_or.mpr ⟨fun h => h hopens, hended⟩)⟩

/-- A commit is attempted exactly for a success. -/
theorem Course.commit_mem_iff (h : Course host fuel argv) :
    .commit ∈ (execute host fuel argv).calls ↔ Succeeds host fuel argv := by
  cases h with
  | unopened _ hfails _ _ hcalls =>
    rw [hcalls]
    exact iff_of_false nofun hfails
  | unfinished w _ hfails _ hcalls =>
    rw [hcalls]
    exact iff_of_false (commit_notMem_statements w) hfails
  | rolledBack w _ hfails _ _ hcalls =>
    rw [hcalls]
    exact iff_of_false (by simp [commit_notMem_statements]) hfails
  | committed w _ hsucceeds _ _ hcalls =>
    rw [hcalls]
    exact iff_of_true (by simp) hsucceeds

/-- Zero is returned exactly for a success that could be committed. -/
theorem Course.returns_zero_iff (h : Course host fuel argv) :
    Returns host fuel argv 0 ↔ Succeeds host fuel argv ∧ host.commitError = none := by
  cases h with
  | unopened _ hfails _ hzero _ => exact iff_of_false hzero fun h => hfails h.1
  | unfinished _ _ hfails hending _ =>
    refine iff_of_false (fun h => ?_) fun h => hfails h.1
    exact nomatch hending.symm.trans h.2
  | rolledBack _ _ hfails _ hzero _ => exact iff_of_false hzero fun h => hfails h.1
  | committed _ _ hsucceeds _ hzero _ => exact hzero.trans (by simp [hsucceeds])

/-- The command is cut off exactly if the script goes on. -/
theorem ending_eq_cutOff_iff :
    (execute host fuel argv).ending = .cutOff ↔ GoesOn host fuel argv := by
  by_cases hopens : Opens host argv
  · obtain ⟨o, root, custom, hopened⟩ := hopens
    rw [hopened.execute_eq, hopened.goesOn_iff]
    exact (conclude_concluded _ _ _ _).ending_eq_cutOff_iff
  · obtain ⟨a, hexecute, -, hended, -⟩ := execute_of_not_opens hopens
    rw [hexecute]
    refine iff_of_false hended ?_
    rintro ⟨o, ended, hruns⟩
    exact hopens hruns.opens

/-- **A command that has ended is the same with more fuel.**  So the fuel only says how long the
script is followed. -/
theorem execute_settles {more : Nat} (h : ¬ GoesOn host fuel argv) (hm : fuel ≤ more) :
    execute host more argv = execute host fuel argv := by
  by_cases hopens : Opens host argv
  · obtain ⟨o, root, custom, hopened⟩ := hopens
    rw [hopened.goesOn_iff] at h
    rw [hopened.execute_eq, hopened.execute_eq, transaction, transaction,
      loadAndRun_settles h hm]
  · obtain ⟨a, hexecute, -⟩ := execute_of_not_opens hopens
    rw [hexecute, hexecute]

/-- A command that ends returns a code or raises. -/
theorem returns_or_raises (hended : (execute host fuel argv).ending ≠ .cutOff) :
    (∃ code, Returns host fuel argv code) ∨ Raises host fuel argv := by
  rcases ho : Options.parse argv with r | o
  · exact .inr (.exit ho)
  rcases hending : (execute host fuel argv).ending with code | f | b | -
  · exact .inl ⟨code, ⟨o, ho⟩, hending⟩
  · exact .inr (.fault hending)
  · exact .inr (.breakdown hending)
  · exact absurd hending hended

end Courses

/-- **The command commits exactly the runs that succeed.**  The calls of the database are
statements and then at most one call that closes the transaction; there is none only if no
connection was opened or the script goes on, and what has ended is the same for any greater
fuel.  A commit is attempted exactly if loading, running and printing raised nothing.  Zero is
returned exactly if the commit was attempted and went well, and otherwise the command goes on,
returns another code or raises.  If the options are refused, the script is missing, an assignment
is wrong or there is no connection, the database is never called. -/
theorem commits_exactly_successful_runs (host : Host σ) (fuel : Nat) (argv : List String) :
    let account := execute host fuel argv
    (∃ sent closing, account.calls = sent ++ closing ∧ .commit ∉ sent ∧ .rollback ∉ sent ∧
      (closing = [] ∨ closing = [.commit] ∨ closing = [.rollback]) ∧
      (closing = [] ↔ ¬ Opens host argv ∨ GoesOn host fuel argv)) ∧
    (¬ GoesOn host fuel argv → ∀ more, fuel ≤ more → execute host more argv = account) ∧
    (.commit ∈ account.calls ↔ Succeeds host fuel argv) ∧
    (Returns host fuel argv 0 ↔ .commit ∈ account.calls ∧ host.commitError = none) ∧
    (Returns host fuel argv 0 ∨ GoesOn host fuel argv ∨
      (∃ code, code ≠ 0 ∧ Returns host fuel argv code) ∨ Raises host fuel argv) ∧
    (Barred host argv → account.calls = []) := by
  intro account
  have hcourse := execute_course host fuel argv
  have hgoes : account.ending = .cutOff ↔ GoesOn host fuel argv := ending_eq_cutOff_iff
  refine ⟨?_, fun hended _ => execute_settles hended, hcourse.commit_mem_iff, ?_, ?_, ?_⟩
  · rw [← hgoes]
    exact hcourse.closed_once
  · rw [hcourse.commit_mem_iff]
    exact hcourse.returns_zero_iff
  · by_cases hended : account.ending = .cutOff
    · exact .inr (.inl (hgoes.mp hended))
    obtain ⟨code, hcode⟩ | hraises := returns_or_raises hended
    · rcases code with - | code
      · exact .inl hcode
      · exact .inr (.inr (.inl ⟨code + 1, Nat.succ_ne_zero code, hcode⟩))
    · exact .inr (.inr (.inr hraises))
  · intro hbarred
    obtain ⟨a, hexecute, hcalls, -⟩ := execute_of_not_opens hbarred.not_opens
    exact (congrArg Account.calls (hexecute fuel)).trans hcalls

end SqlScript.CommandLine
