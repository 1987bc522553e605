/-
SqlScript/Proofs/CommandLine/GivenFile.lean

The file that the command runs.

The path of the script is made into a name, under the root directory if it lies there and
absolute otherwise, and the scripts of the tree are asked for that name.  So the script is looked
up at another path than the one that was given (`lookupPath`), and if there is no file, endings
are tried.  What stands at the given path stands at that path too (`entry_lookupPath`), and so the
text that is found is the text of the given file (`scripts_given`).

There is one exception.  The command only checks that something is there, and a directory is
enough.  A directory is no file, so the endings are tried, and a script beside the directory is
run in its place (`Beside`).  The main result is about everything else: a program that is loaded
is the program of the given file and is the one that is run, and without such a file the command
fails (`execute_runs_given_file`).
-/
import SqlScript.Proofs.CommandLine.Transaction
import SqlScript.Proofs.Files.Places
import SqlScript.Proofs.Program.Sources

namespace SqlScript

/-! ### Scripts in trees -/

namespace Files

theorem firstFile_eq_ok {t : Tree} {default path : Path} {candidates : List Path}
    (h : firstFile t default candidates = .ok path) :
    path = default ∨ path ∈ candidates ∧ t.isFile path = .ok true := by
  induction candidates with
  | nil => exact .inl (Except.ok.inj h).symm
  | cons p rest ih =>
    rw [firstFile] at h
    split at h
    · cases h
    · next hfile =>
      cases h
      exact .inr ⟨List.mem_cons_self, hfile⟩
    · exact (ih h).imp_right (And.imp_left (List.mem_cons_of_mem p))

theorem Tree.exists_entry {t : Tree} {path : Path} (h : t.has path = .ok true) :
    ∃ e, t.entry path = .ok e := by
  rw [has, test] at h
  split at h
  · next e he => exact ⟨e, he⟩
  · cases h
  · cases h

/-- Without a file there is no text. -/
theorem readScript_of_no_file {t : Tree} {path : Path} (h : ∀ c, t.entry path ≠ .ok (.file c)) :
    readScript t path = .error (.of (.cannotOpen path.toString)) := by
  have nothing : t.file? path = none := by
    rw [Tree.file?]
    split
    · next c hc => exact absurd hc (h c)
    · rfl
  rw [readScript, nothing]

/-- The same file has the same text at two paths that end alike. -/
theorem readScript_alike {t : Tree} {p q : Path} {c : Content} (hp : t.entry p = .ok (.file c))
    (hq : t.entry q = .ok (.file c)) (hsuffix : p.suffix = q.suffix) {text : String} :
    readScript t p = .ok text ↔ readScript t q = .ok text := by
  have hpc : t.file? p = some c := by rw [Tree.file?, hp]
  have hqc : t.file? q = some c := by rw [Tree.file?, hq]
  rw [readScript, readScript, hpc, hqc, hsuffix]
  dsimp only
  generalize (if q.suffix = ".gz" then packedText c else plainText c) = result
  cases result with
  | ok cs => exact Iff.rfl
  | error e => exact iff_of_false (by simp) (by simp)

end Files

/-! ### Loading -/

namespace Machine

variable {σ : Type} {setup : Setup σ} {name : String} {w : World σ}

/-- What is loaded is the valid program of a text that the source has, and the machine has it and
nothing else. -/
theorem load_eq_done {program : Program} {loaded : Machine} {w' : World σ}
    (h : load setup name none {} w = ⟨.done program, loaded, w'⟩) :
    loaded = { program := some program } ∧
      ∃ text, setup.source name = .ok text ∧ program = Program.parse setup.marker text name ∧
        program.error? = none := by
  rw [load] at h
  rcases hread : readScript setup name w with ⟨f | p, w₁⟩
  · rw [hread] at h
    cases h
  · rw [hread] at h
    cases h
    exact ⟨rfl, readScript_eq_ok hread⟩

theorem load_done_iff (setup : Setup σ) (name : String) (w : World σ) {program : Program} :
    (∃ loaded w', load setup name none {} w = ⟨.done program, loaded, w'⟩) ↔
      ∃ text, setup.source name = .ok text ∧ program = Program.parse setup.marker text name ∧
        program.error? = none := by
  constructor
  · rintro ⟨loaded, w', h⟩
    exact (load_eq_done h).2
  · rintro ⟨text, hsource, rfl, hvalid⟩
    rw [load_of_source hsource, loadText, readText, hvalid]
    exact ⟨_, _, rfl⟩

/-- A source without the script is asked for it, and that is all. -/
theorem load_of_no_source {f : Failure} (h : setup.source name = .error f) (w : World σ) :
    ∃ f', load setup name none {} w = ⟨.failed f', {}, w.note (.requested name)⟩ := by
  have fetched : setup.source.fetch name = .error (f.attach { source := some name }) := by
    rw [Source.fetch, h]
  rw [load, readScript, fetched]
  exact ⟨_, rfl⟩

end Machine

namespace CommandLine

/-! ### Where the script is looked up -/

/-- The path at which the script is looked up first. -/
def lookupPath (tree : Files.Tree) (script root : Files.Path) : Files.Path :=
  root.join (.ofString (scriptName tree script root))

/-- The text that is found for the script. -/
def scriptText (tree : Files.Tree) (script root : Files.Path) : Except Failure String :=
  Files.scripts tree root (scriptName tree script root)

/-- A directory stands at the path of the script, and a script with an ending stands beside it. -/
structure Beside (tree : Files.Tree) (script root : Files.Path) : Prop where
  directory : tree.entry script = .ok .directory
  bare : (lookupPath tree script root).suffix = ""
  script : ∃ ending ∈ Files.scriptEndings,
    tree.isFile ((lookupPath tree script root).append ending) = .ok true

section Text

variable {tree : Files.Tree} {script root : Files.Path}

theorem scriptText_eq (tree : Files.Tree) (script root : Files.Path) :
    scriptText tree script root =
      match Files.firstFile tree (lookupPath tree script root) (lookupPath tree script root ::
        (if (lookupPath tree script root).suffix = "" then Files.scriptEndings else []).map
          (lookupPath tree script root).append) with
      | .error f => .error (.fault f)
      | .ok path => Files.readScript tree path :=
  rfl

/-- A file is found where it is looked up first. -/
theorem scriptText_of_file {c : Files.Content}
    (h : tree.entry (lookupPath tree script root) = .ok (.file c)) :
    scriptText tree script root = Files.readScript tree (lookupPath tree script root) := by
  have hfile : tree.isFile (lookupPath tree script root) = .ok true := by
    rw [Files.Tree.isFile, Files.Tree.test, h]
  rw [scriptText_eq, Files.firstFile, hfile]

/-- A directory is passed over, and nothing is found if no script stands beside it. -/
theorem scriptText_of_directory (hentry : tree.entry script = .ok .directory)
    (h : tree.entry (lookupPath tree script root) = .ok .directory)
    (hbeside : ¬ Beside tree script root) (text : String) :
    scriptText tree script root ≠ .ok text := by
  have hfile : tree.isFile (lookupPath tree script root) = .ok false := by
    rw [Files.Tree.isFile, Files.Tree.test, h]
  rw [scriptText_eq, Files.firstFile, hfile]
  dsimp only
  split
  · simp
  next path hpath =>
  rcases Files.firstFile_eq_ok hpath with rfl | ⟨hmem, hending⟩
  · rw [Files.readScript_of_no_file (by simp [h])]
    simp
  · split at hmem
    · next hbare =>
      obtain ⟨ending, hin, rfl⟩ := List.mem_map.mp hmem
      exact absurd ⟨hentry, hbare, ending, hin, hending⟩ hbeside
    · exact absurd hmem List.not_mem_nil

theorem scriptText_of_tooLong (h : tree.entry (lookupPath tree script root) = .error .tooLong)
    (text : String) : scriptText tree script root ≠ .ok text := by
  have hfault : tree.isFile (lookupPath tree script root) =
      .error (.longName (lookupPath tree script root).toString) := by
    rw [Files.Tree.isFile, Files.Tree.test, h]
  rw [scriptText_eq, Files.firstFile, hfault]
  simp

end Text

section Lookup

variable {tree : Files.Tree} {script : Files.Path} (hscript : script.Proper)
  (hcurrent : ∀ name ∈ tree.current, Files.Tree.IsName name) (root : Files.Path)

include hscript hcurrent

/-- The script is looked up at its path or at its resolved path. -/
theorem lookupPath_eq :
    lookupPath tree script root = script ∨ lookupPath tree script root = tree.resolve script := by
  rw [lookupPath, scriptName]
  rcases hrelative : script.relativeTo? root with - | r
  · right
    have proper := Files.Tree.resolve_proper hscript hcurrent
    rw [Option.getD_none, Files.Path.ofString_toString proper, Files.Path.join, if_pos (by rfl)]
  · left
    have proper := Files.Path.proper_relativeTo? hrelative hscript
    rw [Option.getD_some, Files.Path.ofString_toString proper,
      Files.Path.join_relativeTo? hrelative]

/-- What stands at the path of the script is found, unless the path is too long then. -/
theorem entry_lookupPath {e : Files.Entry} (h : tree.entry script = .ok e) :
    tree.entry (lookupPath tree script root) = .ok e ∨
      tree.entry (lookupPath tree script root) = .error .tooLong := by
  rcases lookupPath_eq hscript hcurrent root with hpath | hpath
  · rw [hpath]
    exact .inl h
  · rw [hpath]
    exact Files.Tree.entry_resolve hscript hcurrent h

theorem suffix_lookupPath {c : Files.Content} (h : tree.entry script = .ok (.file c)) :
    (lookupPath tree script root).suffix = script.suffix := by
  rcases lookupPath_eq hscript hcurrent root with hpath | hpath
  · rw [hpath]
  · rw [hpath]
    exact Files.Tree.suffix_resolve h

/-- **The text that is found for the script is the text of the given file**, unless a directory
was given and a script stands beside it. -/
theorem scripts_given (hexists : tree.has script = .ok true)
    (hbeside : ¬ Beside tree script root) {text : String} :
    scriptText tree script root = .ok text ↔
      Files.readScript tree script = .ok text ∧
        tree.entry (lookupPath tree script root) ≠ .error .tooLong := by
  obtain ⟨e, hentry⟩ := Files.Tree.exists_entry hexists
  rcases entry_lookupPath hscript hcurrent root hentry with hfound | hlong
  · rcases e with c | -
    · have hsame : Files.readScript tree (lookupPath tree script root) = .ok text ↔
          Files.readScript tree script = .ok text :=
        Files.readScript_alike hfound hentry (suffix_lookupPath hscript hcurrent root hentry)
      rw [scriptText_of_file hfound]
      exact hsame.trans (and_iff_left (by simp [hfound])).symm
    · refine iff_of_false (scriptText_of_directory hentry hfound hbeside text) fun h => ?_
      rw [Files.readScript_of_no_file (by simp [hentry])] at h
      cases h.1
  · exact iff_of_false (scriptText_of_tooLong hlong text) fun h => h.2 hlong

end Lookup

/-! ### What the command loads -/

variable {σ : Type} {host : Host σ} {argv : List String} {o : Options} {root : Files.Path}
  {custom : Bindings} {program : Program}

/-- The command opens a connection and loads a program. -/
def Loads (host : Host σ) (argv : List String) (program : Program) : Prop :=
  ∃ o root custom loaded w, Opened host argv o root custom ∧
    Machine.load (transactionSetup host root) (scriptName host.tree o.scriptPath root) none {}
      { database := host.database } = ⟨.done program, loaded, w⟩

theorem Opened.loads_iff (h : Opened host argv o root custom) :
    Loads host argv program ↔
      ∃ text, scriptText host.tree o.scriptPath root = .ok text ∧
        program = Program.parse defaultMarker text (scriptName host.tree o.scriptPath root) ∧
        program.error? = none := by
  refine Iff.trans ⟨?_, fun ⟨loaded, w, hload⟩ => ⟨o, root, custom, loaded, w, h, hload⟩⟩
    (Machine.load_done_iff (transactionSetup host root) _ { database := host.database })
  rintro ⟨o', root', custom', loaded, w, h', hload⟩
  obtain ⟨rfl, rfl, -⟩ := h.unique h'
  exact ⟨loaded, w, hload⟩

/-- The account of a run of a program that was loaded. -/
def accountOf (host : Host σ) (fuel : Nat) (o : Options) (root : Files.Path) (custom : Bindings)
    (program : Program) (w : World σ) : Account :=
  conclude host.commitError o.verbose o.showCaptures
    (Machine.run (transactionSetup host root) fuel none (o.args.map Given.toValue) custom none
      { program := some program } w)

/-- **The program that is loaded is the one that is run.** -/
theorem Loads.execute_eq (h : Loads host argv program) (ho : Options.parse argv = .ok o) :
    ∃ root custom w, ∀ fuel,
      execute host fuel argv = accountOf host fuel o root custom program w := by
  obtain ⟨o', root, custom, loaded, w, hopened, hload⟩ := h
  obtain rfl : o' = o := Except.ok.inj (hopened.options.symm.trans ho)
  refine ⟨root, custom, w, fun fuel => ?_⟩
  rw [hopened.execute_eq, transaction, loadAndRun, hload, (Machine.load_eq_done hload).1]
  rfl

/-- A command that finds no text fails, and the database is called only to roll back. -/
theorem Opened.execute_of_no_text (h : Opened host argv o root custom)
    (hnone : ∀ text, scriptText host.tree o.scriptPath root ≠ .ok text) (fuel : Nat) :
    (execute host fuel argv).ending ≠ .cutOff ∧ (execute host fuel argv).ending ≠ .exit 0 ∧
      (execute host fuel argv).calls = [.rollback] := by
  rcases hsource : scriptText host.tree o.scriptPath root with f | text
  · have hno : (transactionSetup host root).source (scriptName host.tree o.scriptPath root) =
        .error f := hsource
    obtain ⟨f', hload⟩ := Machine.load_of_no_source hno { database := host.database }
    have ended : transaction host fuel o root custom = ⟨.failed f', {},
        World.note { database := host.database }
          (.requested (scriptName host.tree o.scriptPath root))⟩ := by
      rw [transaction, loadAndRun, hload]
    have hconcluded := conclude_concluded host.commitError o.verbose o.showCaptures
      (transaction host fuel o root custom)
    rw [← h.execute_eq fuel, ended] at hconcluded
    cases hconcluded with
    | cutOff houtcome => cases houtcome
    | committed _ hcompletes =>
      obtain ⟨result, hdone, -⟩ := hcompletes
      cases hdone
    | rolledBack _ _ hended hzero hcalls => exact ⟨hended, hzero, hcalls⟩
  · exact absurd hsource (hnone text)

/-- **The command runs the file that it was given and no other.**  Unless a directory is given
that a script stands beside, a program that is loaded is the program of the file at the given path
and is the one that is run.  If there is no such file, or it has no text, nothing is loaded, and
the command fails without sending a statement.  And a file with a valid program is loaded once a
connection is open, unless the path at which it is looked up is too long. -/
theorem execute_runs_given_file (host : Host σ) (argv : List String) {o : Options}
    (ho : Options.parse argv = .ok o)
    (hcurrent : ∀ name ∈ host.tree.current, Files.Tree.IsName name)
    (hbeside : ∀ root, o.rootPath? = some root → ¬ Beside host.tree o.scriptPath root) :
    (∀ program, Loads host argv program →
      (∃ text, Files.readScript host.tree o.scriptPath = .ok text ∧
        program = Program.parse defaultMarker text program.source) ∧
      ∃ root custom w, ∀ fuel,
        execute host fuel argv = accountOf host fuel o root custom program w) ∧
    ((∀ text, Files.readScript host.tree o.scriptPath ≠ .ok text) →
      (∀ program, ¬ Loads host argv program) ∧
      ∀ fuel, (execute host fuel argv).ending ≠ .cutOff ∧
        (execute host fuel argv).ending ≠ .exit 0 ∧
        ((execute host fuel argv).calls = [] ∨ (execute host fuel argv).calls = [.rollback])) ∧
    ∀ root custom text, Opened host argv o root custom →
      Files.readScript host.tree o.scriptPath = .ok text →
      host.tree.entry (lookupPath host.tree o.scriptPath root) ≠ .error .tooLong →
      let program := Program.parse defaultMarker text (scriptName host.tree o.scriptPath root)
      program.error? = none → Loads host argv program := by
  have given : ∀ root custom, Opened host argv o root custom → ∀ text,
      scriptText host.tree o.scriptPath root = .ok text ↔
        Files.readScript host.tree o.scriptPath = .ok text ∧
          host.tree.entry (lookupPath host.tree o.scriptPath root) ≠ .error .tooLong :=
    fun root custom hopened text =>
      scripts_given (Files.Path.ofString_proper o.script) hcurrent root hopened.script
        (hbeside root hopened.root)
  have loaded : ∀ program, Loads host argv program →
      ∃ text, Files.readScript host.tree o.scriptPath = .ok text ∧
        program = Program.parse defaultMarker text program.source := by
    intro program hloads
    obtain ⟨o', root, custom, -, -, hopened, -⟩ := id hloads
    obtain rfl : o' = o := Except.ok.inj (hopened.options.symm.trans ho)
    obtain ⟨text, htext, hprogram, -⟩ := hopened.loads_iff.mp hloads
    refine ⟨text, ((given root custom hopened text).mp htext).1, ?_⟩
    rw [hprogram]
    rfl
  refine ⟨fun program hloads => ⟨loaded program hloads, hloads.execute_eq ho⟩, fun hnone => ?_, ?_⟩
  · refine ⟨fun program hloads => ?_, fun fuel => ?_⟩
    · obtain ⟨text, htext, -⟩ := loaded program hloads
      exact hnone text htext
    · by_cases hopens : Opens host argv
      · obtain ⟨o', root, custom, hopened⟩ := hopens
        obtain rfl : o' = o := Except.ok.inj (hopened.options.symm.trans ho)
        obtain ⟨hended, hzero, hcalls⟩ := hopened.execute_of_no_text
          (fun text htext => hnone text ((given root custom hopened text).mp htext).1) fuel
        exact ⟨hended, hzero, .inr hcalls⟩
      · obtain ⟨a, hexecute, hcalls, hended, hzero⟩ := execute_fruitless hopens ho
        rw [hexecute fuel]
        exact ⟨hended, hzero, .inl hcalls⟩
  · intro root custom text hopened htext hfits program hvalid
    exact hopened.loads_iff.mpr
      ⟨text, (given root custom hopened text).mpr ⟨htext, hfits⟩, rfl, hvalid⟩

/-- The text of a job. -/
def jobText : String := "! execute delete from offers\n"

/-- The job in the current directory, beside a directory with its name but for the ending, and a
database without rows. -/
def jobHost : Host Unit where
  tree :=
    { files := [(["work", "job.sql"], .raw (Text.encodeUtf8 jobText.toList))]
      directories := [["work", "job"]]
      current := ["work"] }
  query := fun _ _ s => (.result { rowcount := 0 }, s)
  database := ()

/-- The program of the job under a name. -/
def jobProgram (name : String) : Program := ⟨name, [⟨.execute, "delete from offers", some 1⟩]⟩

/-- The options of the job with a root directory that it does not lie under. -/
def jobOptions : Options := { script := "job.sql", root := some (.text "lib") }

theorem jobHost_current : ∀ name ∈ jobHost.tree.current, Files.Tree.IsName name := by
  intro name h
  rw [List.mem_singleton.mp h]
  exact
    { some := by decide
      noDot := by decide
      noSlash := by decide
      noDots := by decide
      noZero := by decide }

/-- What stands in the current directory. -/
theorem jobHost_entries :
    jobHost.tree.entry ⟨"", ["job"]⟩ = .ok .directory ∧
      ∀ path ∈ [Files.Path.mk "" ["job.sql"], ⟨"/", ["work", "job.sql"]⟩], jobHost.tree.entry path =
        .ok (.file (.raw (Text.encodeUtf8 jobText.toList))) := by
  rw [List.forall_mem_cons, List.forall_mem_singleton]
  refine ⟨?_, ?_, ?_⟩
  all_goals
    rw [Files.Tree.entry, Files.Tree.locate, String.contains_char_eq, if_neg (by decide),
      if_neg (by decide), if_neg (by decide)]
    rfl

theorem jobHost_readScript :
    Files.readScript jobHost.tree ⟨"", ["job.sql"]⟩ = .ok jobText := by
  have stored : Files.Stores ⟨"", ["job.sql"]⟩ jobText (.raw (Text.encodeUtf8 jobText.toList)) :=
    .plain (by decide)
  have file : jobHost.tree.file? ⟨"", ["job.sql"]⟩ =
      some (.raw (Text.encodeUtf8 jobText.toList)) := by
    rw [Files.Tree.file?, jobHost_entries.2 _ (by decide)]
  rw [Files.readScript_stored file stored]
  with_unfolding_all rfl

/-- Nothing but the script can keep the command from opening a connection. -/
theorem jobHost_opened {argv : List String} {o : Options} {root : Files.Path}
    (ho : Options.parse argv = .ok o) (hscript : jobHost.tree.has o.scriptPath = .ok true)
    (hassigned : o.assignments = []) (hroot : o.rootPath? = some root) (hurl : o.url = none) :
    Opened jobHost argv o root [] where
  options := ho
  script := hscript
  assigned := by rw [hassigned]; rfl
  root := hroot
  address := ⟨defaultUrl, by rw [hurl]; rfl, by decide⟩
  connects := rfl

/-- The job is looked up at its absolute path. -/
theorem job_runs_given_file :
    Options.parse ["--root", "lib", "job.sql"] = .ok jobOptions ∧
      (∀ name ∈ jobHost.tree.current, Files.Tree.IsName name) ∧
      (∀ root, jobOptions.rootPath? = some root →
        ¬ Beside jobHost.tree jobOptions.scriptPath root) ∧
      Loads jobHost ["--root", "lib", "job.sql"] (jobProgram "/work/job.sql") ∧
      ∃ root custom w, ∀ fuel, execute jobHost fuel ["--root", "lib", "job.sql"] =
        accountOf jobHost fuel jobOptions root custom (jobProgram "/work/job.sql") w := by
  have ho : Options.parse ["--root", "lib", "job.sql"] = .ok jobOptions := by decide +kernel
  have path : jobOptions.scriptPath = ⟨"", ["job.sql"]⟩ := by decide
  have root : jobOptions.rootPath? = some ⟨"", ["lib"]⟩ := by decide
  have lookup : lookupPath jobHost.tree ⟨"", ["job.sql"]⟩ ⟨"", ["lib"]⟩ =
      ⟨"/", ["work", "job.sql"]⟩ := by decide
  have name : scriptName jobHost.tree ⟨"", ["job.sql"]⟩ ⟨"", ["lib"]⟩ = "/work/job.sql" := by
    decide
  have entry := jobHost_entries.2 ⟨"", ["job.sql"]⟩ (by decide)
  have hbeside : ∀ root, jobOptions.rootPath? = some root →
      ¬ Beside jobHost.tree jobOptions.scriptPath root := by
    intro root _ h
    have := h.directory
    rw [path, entry] at this
    cases this
  have hopened : Opened jobHost ["--root", "lib", "job.sql"] jobOptions ⟨"", ["lib"]⟩ [] :=
    jobHost_opened ho (by rw [Files.Tree.has, Files.Tree.test, path, entry]) rfl root rfl
  have program : Program.parse defaultMarker jobText "/work/job.sql" =
      jobProgram "/work/job.sql" := by
    with_unfolding_all rfl
  obtain ⟨given, -, loads⟩ := execute_runs_given_file jobHost _ ho jobHost_current hbeside
  have loaded : Loads jobHost ["--root", "lib", "job.sql"] (jobProgram "/work/job.sql") := by
    have := loads ⟨"", ["lib"]⟩ [] jobText hopened
    rw [path, lookup, name, program] at this
    refine this jobHost_readScript ?_ (by with_unfolding_all rfl)
    rw [jobHost_entries.2 _ (by decide)]
    simp
  exact ⟨ho, jobHost_current, hbeside, loaded, (given _ loaded).2⟩

/-- A directory is no script, but a script beside it is run and committed. -/
theorem directory_runs_neighbour :
    Options.parse ["job"] = .ok { script := "job" } ∧
      jobHost.tree.entry (.ofString "job") = .ok .directory ∧
      Files.readScript jobHost.tree (.ofString "job") = .error (.of (.cannotOpen "job")) ∧
      Loads jobHost ["job"] (jobProgram "job") ∧
      (execute jobHost 3 ["job"]).calls = [.statement "delete from offers" [], .commit] := by
  have ho : Options.parse ["job"] = .ok { script := "job" } := by decide
  have path : Files.Path.ofString "job" = ⟨"", ["job"]⟩ := by decide
  have entry : jobHost.tree.entry (.ofString "job") = .ok .directory := by
    rw [path]
    exact jobHost_entries.1
  have unread : Files.readScript jobHost.tree (.ofString "job") =
      .error (.of (.cannotOpen "job")) := by
    rw [Files.readScript_of_no_file (by simp [entry]), path]
    rfl
  have name : scriptName jobHost.tree (Options.scriptPath { script := "job" }) ⟨"", []⟩ =
      "job" := by decide
  have found : Files.scriptPath jobHost.tree ⟨"", []⟩ "job" = .ok ⟨"", ["job.sql"]⟩ := by
    have bare : Files.Path.suffix ⟨"", ["job"]⟩ = "" := by decide
    have joined : Files.Path.join ⟨"", []⟩ (.ofString "job") = ⟨"", ["job"]⟩ := by decide
    have endings : Files.scriptEndings.map (Files.Path.append ⟨"", ["job"]⟩) =
        [⟨"", ["job.sql"]⟩, ⟨"", ["job.sql.gz"]⟩] := by decide
    rw [Files.scriptPath, joined]
    simp only [bare, if_true, endings, Files.firstFile, Files.Tree.isFile, Files.Tree.test,
      jobHost_entries.1, jobHost_entries.2 ⟨"", ["job.sql"]⟩ (by decide)]
  have hopened : Opened jobHost ["job"] { script := "job" } ⟨"", []⟩ [] := by
    refine jobHost_opened ho ?_ rfl (by decide) rfl
    rw [Options.scriptPath, Files.Tree.has, Files.Tree.test, entry]
  have source : (transactionSetup jobHost ⟨"", []⟩).source "job" = .ok jobText := by
    show Files.scripts jobHost.tree ⟨"", []⟩ "job" = .ok jobText
    rw [Files.scripts, found]
    exact jobHost_readScript
  have loaded : Loads jobHost ["job"] (jobProgram "job") := by
    rw [hopened.loads_iff, name]
    exact ⟨jobText, source, by with_unfolding_all rfl, by with_unfolding_all rfl⟩
  refine ⟨ho, entry, unread, loaded, ?_⟩
  rw [hopened.execute_eq, transaction, loadAndRun, name, Machine.load_of_source source]
  with_unfolding_all rfl

end CommandLine

end SqlScript
