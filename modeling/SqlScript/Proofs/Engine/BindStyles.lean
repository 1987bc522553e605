/-
SqlScript/Proofs/Engine/BindStyles.lean

Runs under the two bind markers.

A driver has one of two positional markers, the question mark or the marker of the format
style, and the second one doubles the percent signs of a statement that binds something.  A
script is not meant to depend on which it is: if two databases answer the two texts of each
query alike, a run of one and a run of the other should differ in nothing but these texts.

Conditions are read from statements as they were written, and settings and most addresses do
not depend on the marker, though they are read from the bound text.  So runs are the same,
step by step (`run_parallel`), for scripts whose instructions are *portable*: if an instruction
has a placeholder at all, the script that it includes has a name without placeholders and
percent signs, and the address that it goes to was not written as a question mark.

All other instructions do depend on the marker (`Instruction.portable_iff`).  A run under one
marker may then find a script that a run under the other does not (`percentName_unportable`).
-/
import SqlScript.Client.Rehearsal
import SqlScript.Client.Style
import SqlScript.Proofs.Engine.Failures
import SqlScript.Proofs.Engine.Operands
import SqlScript.Proofs.Engine.Statements
import SqlScript.Proofs.Engine.Unwinding

namespace SqlScript

variable {σ σ' : Type}

/-! ### Portable scripts -/

/-- An instruction that finds the same script and the same address under both markers. -/
structure Instruction.Portable (i : Instruction) : Prop where
  name : i.command = .include → i.placeholders = [] ∨
    ∀ word ∈ Text.firstWord? i.statement.toList,
      (Template.parse word).placeholders = [] ∧ '%' ∉ word
  address : i.command = .forward ∨ i.command = .process → i.placeholders = [] ∨
    Text.firstWord? i.statement.toList ≠ some ['?']

instance (i : Instruction) : Decidable i.Portable :=
  decidable_of_iff (_ ∧ _) ⟨fun h => ⟨h.1, h.2⟩, fun h => ⟨h.name, h.address⟩⟩

/-- A program of portable instructions. -/
def Program.Portable (p : Program) : Prop := ∀ i ∈ p.instructions, i.Portable

instance (p : Program) : Decidable p.Portable :=
  inferInstanceAs (Decidable (∀ i ∈ p.instructions, i.Portable))

/-- An include names the same script under both markers exactly if it is portable. -/
theorem Instruction.includeName?_eq_iff {i : Instruction} :
    i.includeName? "?" = i.includeName? "%s" ↔ (i.command = .include → i.placeholders = [] ∨
      ∀ word ∈ Text.firstWord? i.statement.toList,
        (Template.parse word).placeholders = [] ∧ '%' ∉ word) := by
  by_cases hc : i.command = .include
  · have hinjective : Function.Injective (Option.map String.ofList) :=
      Option.map_injective fun _ _ h => String.ofList_injective h
    rw [includeName?, includeName?, if_pos hc, if_pos hc, hinjective.eq_iff, imp_iff_right hc]
    exact Text.firstWord?_rebound_iff
  · rw [includeName?, includeName?, if_neg hc, if_neg hc]
    exact iff_of_true rfl fun h => absurd h hc

/-- **What portable instructions are.**  They are those that name the same script under both
markers, and that find the same address in all values that can be bound to them. -/
theorem Instruction.portable_iff {i : Instruction} :
    i.Portable ↔ i.includeName? "?" = i.includeName? "%s" ∧
      (i.command = .forward ∨ i.command = .process → ∀ r : Resolved, r.statement = i.statement →
        r.IsBound "?" →
        Agree Failure.SameKind (addressOperand r "?") (addressOperand (r.rebound "%s") "%s")) := by
  rw [includeName?_eq_iff]
  constructor
  · intro h
    refine ⟨h.name, fun hc r hr hbound => ?_⟩
    apply addressOperand_rebound hbound
    rw [hr]
    exact h.address hc
  · rintro ⟨hname, haddress⟩
    refine ⟨hname, fun hc => ?_⟩
    by_contra hcon
    rw [not_or, not_not] at hcon
    -- zeros for the placeholders: an address under one marker, none under the other
    let zeros : Resolved :=
      ⟨boundText i.statement "?", List.replicate i.placeholders.length (.int 0), i.statement⟩
    have hbound : zeros.IsBound "?" := ⟨rfl, List.length_replicate⟩
    obtain ⟨⟨first, rest, hargs, hfound⟩, hlost⟩ := addressOperand_question hbound hcon.1 hcon.2
    have hfirst : first = .int 0 := by
      have hmem : first ∈ zeros.args := by
        rw [hargs]
        exact List.mem_cons_self
      exact List.eq_of_mem_replicate hmem
    have hagree := haddress hc zeros rfl hbound
    rw [hfound, hlost, hfirst] at hagree
    cases hagree

/-! ### Two databases -/

/-- The programs that a run can reach. -/
def Setup.Reaches (setup : Setup σ) (program : Option Program) (p : Program) : Prop :=
  ∃ top, program = some top ∧
    top.Reaches setup.source setup.marker setup.client.bindMarker p

theorem Setup.Reaches.included {setup : Setup σ} {program : Option Program} {p : Program}
    {i : Instruction} {name text : String} (h : setup.Reaches program p)
    (hi : i ∈ p.instructions) (hname : i.includeName? setup.client.bindMarker = some name)
    (htext : setup.source name = .ok text) :
    setup.Reaches program (Program.parse setup.marker text name) := by
  obtain ⟨top, htop, h⟩ := h
  exact ⟨top, htop, h.included hi hname htext⟩

/-- Two setups that differ in their databases, which have different markers.  States that are
related by `R` give the same answers to the two texts of each query in the programs, and get
into related states. -/
structure Setup.Parallel (R : σ → σ' → Prop) (programs : Program → Prop) (setup : Setup σ)
    (setup' : Setup σ') : Prop where
  question : setup.client.bindMarker = "?"
  format : setup'.client.bindMarker = "%s"
  source : setup.source = setup'.source
  marker : setup.marker = setup'.marker
  maxIncludeDepth : setup.maxIncludeDepth = setup'.maxIncludeDepth
  writesLog : setup.writesLog = setup'.writesLog
  answers : ∀ {p i args s s'}, programs p → i ∈ p.instructions → i.command.isQuery = true →
    args.length = i.placeholders.length → R s s' →
    (setup.client.query (boundText i.statement "?") args s).1 =
        (setup'.client.query (boundText i.statement "%s") args s').1 ∧
      R (setup.client.query (boundText i.statement "?") args s).2
        (setup'.client.query (boundText i.statement "%s") args s').2

/-! ### Statements and events -/

/-- Whether a statement resolves, and with which values, has nothing to do with the marker. -/
theorem resolve_rebound (statement : String) (passed : List Value) (custom : Bindings)
    (marker marker' : String) :
    resolve statement passed custom marker' =
      (resolve statement passed custom marker).map (Resolved.rebound marker') := by
  rw [resolve, resolve]
  rcases (Template.parse statement.toList).placeholders.mapM (Placeholder.value? passed custom)
    with f | args
  · rfl
  · rfl

/-- What an instruction begins with is bound under the first marker. -/
theorem Setup.Parallel.isBound {R : σ → σ' → Prop} {programs : Program → Prop} {setup : Setup σ}
    {setup' : Setup σ'} (h : setup.Parallel R programs setup') {m : Machine} {i : Instruction}
    {r : Resolved} (hb : m.Begins setup i r) : r.IsBound "?" where
  text := by
    rw [resolve_statement hb.resolved, ← h.question]
    exact resolve_text hb.resolved
  args := by
    rw [resolve_statement hb.resolved]
    exact resolve_length hb.resolved

/-- An event as it is under a marker, from the statements as they were written. -/
def Event.boundAs (marker : String) : Event → Event
  | .dispatched d => .dispatched { d with resolved := d.resolved.rebound marker }
  | .queried statement args => .queried (boundText statement marker) args
  | e => e

/-- Most events have no statement in them. -/
theorem Event.boundAs_of_isPlain {e : Event} (h : e.isPlain = true) (marker : String) :
    e.boundAs marker = e := by
  cases e with
  | dispatched | including | queried => cases h
  | _ => rfl

/-- Two worlds with related databases, in which the same events came after the traces `t` and
`t'`, each under its own marker. -/
structure World.Rebound (R : σ → σ' → Prop) (t t' : List Event) (w : World σ) (w' : World σ') :
    Prop where
  database : R w.database w'.database
  trace : ∃ es : List Event, w.trace = es.map (Event.boundAs "?") ++ t ∧
    w'.trace = es.map (Event.boundAs "%s") ++ t'

section Worlds

variable {R : σ → σ' → Prop} {t t' : List Event} {w : World σ} {w' : World σ'}

theorem World.Rebound.note_boundAs (h : w.Rebound R t t' w') (e : Event) :
    (w.note (e.boundAs "?")).Rebound R t t' (w'.note (e.boundAs "%s")) := by
  obtain ⟨hd, es, ht, ht'⟩ := h
  exact ⟨hd, e :: es, by simp [note, ht], by simp [note, ht']⟩

theorem World.Rebound.note (h : w.Rebound R t t' w') {e : Event}
    (he : ∀ marker, e.boundAs marker = e) : (w.note e).Rebound R t t' (w'.note e) := by
  have hnote := h.note_boundAs e
  rwa [he, he] at hnote

end Worlds

theorem Failure.SameKind.attach {f f' : Failure} (h : f.SameKind f') (c : Context) :
    (f.attach c).SameKind (f'.attach c) := by
  cases h with
  | error hk hc => exact .error hk (by rw [ProcedureError.attach, ProcedureError.attach, hc])
  | fault f => exact .fault f

namespace Machine

/-! ### Instructions -/

/-- One machine, seen from both sides, that runs one of the programs. -/
structure Shared (programs : Program → Prop) (m m' : Machine) : Prop where
  eq : m = m'
  runs : ∃ p, m.program = some p ∧ programs p

section Instructions

variable {R : σ → σ' → Prop} {programs : Program → Prop} {setup : Setup σ} {setup' : Setup σ'}
variable {m : Machine} {w : World σ} {w' : World σ'} {t t' : List Event} {p : Program}
variable {i : Instruction} {r : Resolved}

/-- A change of a machine that is made on both sides, and leaves its program. -/
theorem Shared.change {m m' : Machine} (h : Shared programs m m') {g : Machine → Machine}
    (hg : (g m).program = m.program) : Shared programs (g m) (g m') := by
  obtain ⟨rfl, p, hp, hmem⟩ := h
  exact ⟨rfl, p, hg.trans hp, hmem⟩

theorem query_parallel (h : setup.Parallel R programs setup') (hp : m.program = some p)
    (hmem : programs p) (hi : i ∈ p.instructions) (hq : i.command.isQuery = true)
    (hb : m.Begins setup i r) (hw : w.Rebound R t t' w') :
    (m.query setup i.command r w).Related (Shared programs) (World.Rebound R t t')
      Failure.SameKind (m.query setup' i.command (r.rebound "%s") w') := by
  have hm : Shared programs m m := ⟨rfl, p, hp, hmem⟩
  have hstatement : r.statement = i.statement := resolve_statement hb.resolved
  have htext : r.text = boundText i.statement "?" := by
    rw [← hstatement, (h.isBound hb).text]
  have htext' : (r.rebound "%s").text = boundText i.statement "%s" := by
    rw [Resolved.rebound, hstatement]
  have hargs : (r.rebound "%s").args = r.args := rfl
  obtain ⟨hreply, hstate⟩ :=
    h.answers hmem hi hq (resolve_length hb.resolved) hw.database
  obtain ⟨-, es, ht, ht'⟩ := hw.note_boundAs (.queried i.statement r.args)
  rw [query, query, htext, htext', hargs, ← hreply]
  rcases (setup.client.query (boundText i.statement "?") r.args w.database).1
    with rs | message | message
  · exact ⟨.done none, hm.change (g := fun m => m.absorb i.command rs)
      (framed_absorb m i.command rs).program, hstate, es, ht, ht'⟩
  · exact ⟨.failed (.refl _), hm, hstate, es, ht, ht'⟩
  · exact ⟨.failed (.refl _), hm, hstate, es, ht, ht'⟩

/-- The two sides read the address of a jump or a call alike. -/
theorem addressOperand_parallel (h : setup.Parallel R programs setup') (hi : i.Portable)
    (hc : i.command = .forward ∨ i.command = .process) (hb : m.Begins setup i r) :
    Agree Failure.SameKind (addressOperand r setup.client.bindMarker)
      (addressOperand (r.rebound "%s") setup'.client.bindMarker) := by
  rw [h.question, h.format]
  exact (Instruction.portable_iff.mp hi).2 hc r (resolve_statement hb.resolved) (h.isBound hb)

theorem jumpTarget_agree {marker marker' : String} {r' : Resolved}
    (h : Agree Failure.SameKind (addressOperand r marker) (addressOperand r' marker')) :
    Agree Failure.SameKind (m.jumpTarget r marker) (m.jumpTarget r' marker') := by
  rw [jumpTarget, jumpTarget]
  generalize addressOperand r marker = x at h ⊢
  generalize addressOperand r' marker' = x' at h ⊢
  rcases h with a | hf
  · exact .refl .refl _
  · exact .error hf

theorem perform_parallel (h : setup.Parallel R programs setup')
    (hp : m.program = some p) (hmem : programs p) (hi : i ∈ p.instructions) (hport : i.Portable)
    (hb : m.Begins setup i r) (hprocess : i.command ≠ .process) (hinclude : i.command ≠ .include)
    (hw : w.Rebound R t t' w') :
    (m.perform setup i.command r w).Related (Shared programs) (World.Rebound R t t')
      Failure.SameKind (m.perform setup' i.command (r.rebound "%s") w') := by
  have hm : Shared programs m m := ⟨rfl, p, hp, hmem⟩
  have hquery := fun hq => query_parallel h hp hmem hi hq hb hw
  cases hc : i.command with
  | proceed | ifvalid | validif =>
    -- conditions are rendered from the statement as it was written
    have hdecide : decideGate (r.rebound "%s") m.state.blank = decideGate r m.state.blank := rfl
    simp only [perform, hdecide]
    rcases decideGate r m.state.blank with f | gate
    · exact ⟨.failed (.refl f), hm, hw⟩
    · exact ⟨.done none,
        hm.change (g := fun m => { m with state := { m.state with gate := gate } }) rfl, hw⟩
  | forward =>
    have hfound := jumpTarget_agree (m := m)
      (addressOperand_parallel h hport (.inl hc) hb)
    simp only [perform]
    generalize m.jumpTarget r setup.client.bindMarker = x at hfound ⊢
    generalize m.jumpTarget (r.rebound "%s") setup'.client.bindMarker = x' at hfound ⊢
    rcases hfound with target | hf
    · exact ⟨.done (some target), hm, hw⟩
    · exact ⟨.failed hf, hm, hw⟩
  | setting =>
    have hset : setting? r.text.toList = setting? (r.rebound "%s").text.toList := by
      rw [(h.isBound hb).toList_text, r.toList_rebound]
      exact setting?_rebound r.statement.toList
    simp only [perform, ← hset]
    rcases setting? r.text.toList with - | blank
    · exact ⟨.failed (.error rfl rfl), hm, hw⟩
    · exact ⟨.done none,
        hm.change (g := fun m => { m with state := { m.state with blank := blank } }) rfl, hw⟩
  | examine => exact ⟨.failed (.error rfl rfl), hm, hw⟩
  | process => exact absurd hc hprocess
  | «include» => exact absurd hc hinclude
  | execute | capture | replace | declare | storage =>
    rw [hc] at hquery
    exact hquery rfl

theorem includeName_parallel (h : setup.Parallel R programs setup') (hi : i.Portable)
    (hc : i.command = .include) (hb : m.Begins setup i r) :
    m.includeName setup r = m.includeName setup' (r.rebound "%s") := by
  have hname := hi.name hc
  rw [Instruction.placeholders, ← resolve_statement hb.resolved] at hname
  have hword : Text.firstWord? r.text.toList = Text.firstWord? (r.rebound "%s").text.toList := by
    rw [(h.isBound hb).toList_text, r.toList_rebound]
    exact Text.firstWord?_rebound_iff.mpr hname
  rw [includeName, includeName, hword, h.maxIncludeDepth]

end Instructions

/-! ### Runs -/

section Runs

variable {R : σ → σ' → Prop} {setup : Setup σ} {setup' : Setup σ'} {program : Option Program}
variable {m : Machine} {w : World σ} {w' : World σ'}

/-- **Portable programs run together** under the two markers. -/
theorem parallel_simulation (h : setup.Parallel R (setup.Reaches program) setup')
    (hport : ∀ p, setup.Reaches program p → p.Portable) (t t' : List Event) :
    Simulation setup setup' (Resolved.rebound "%s")
      (fun _ : Unit => Shared (setup.Reaches program)) (World.Rebound R t t')
      Failure.SameKind where
  source := h.source
  marker := h.marker
  writesLog := h.writesLog
  unresolved hf := by
    rw [resolve_rebound _ _ _ setup.client.bindMarker, hf]
    rfl
  resolves hr := by
    rw [resolve_rebound _ _ _ setup.client.bindMarker, hr, h.format]
    rfl
  program hm := congrArg Machine.program hm.eq
  state hm := congrArg Machine.state hm.eq
  processDepth hm := congrArg Machine.processDepth hm.eq
  goTo cursor hm := hm.change (g := fun m => m.goTo cursor) rfl
  entered args hm := hm.change (g := fun m => m.entered args) rfl
  exited hm := hm.change (g := exited) rfl
  note he hw := hw.note (Event.boundAs_of_isPlain he)
  begun := by
    intro _ m m' w w' i r index hm hw hb
    obtain ⟨rfl, -⟩ := hm
    have hself : r.rebound "?" = r := by
      rw [Resolved.rebound, ← (h.isBound hb).text]
    have hnote := hw.note_boundAs (m.dispatchEvent index i r)
    simp only [dispatchEvent, Event.boundAs, hself] at hnote
    exact hnote
  including name hm hw := by
    obtain ⟨rfl, -⟩ := hm
    exact hw.note fun _ => rfl
  same := .refl
  attach index i hm hf := by
    obtain ⟨rfl, -⟩ := hm
    exact hf.attach _
  noCommands name hm := by
    obtain ⟨rfl, -⟩ := hm
    exact .refl _
  address := by
    intro _ m m' a i r hm hi hb hc
    obtain ⟨rfl, p, hp, hmem⟩ := hm
    exact addressOperand_parallel h (hport p hmem i (mem_of_fetch? hp hi)) (.inr hc) hb
  includeName := by
    intro _ m m' a i r hm hi hb hc
    obtain ⟨rfl, p, hp, hmem⟩ := hm
    rw [includeName_parallel h (hport p hmem i (mem_of_fetch? hp hi)) hc hb]
    exact .refl .refl _
  perform := by
    intro _ m m' w w' a i r hm hw hi hb hprocess hinclude
    obtain ⟨rfl, p, hp, hmem⟩ := hm
    have hin := mem_of_fetch? hp hi
    exact perform_parallel h hp hmem hin (hport p hmem i hin) hb hprocess hinclude hw
  child := by
    intro _ m m' a i r name text hm hi hb hc hn htext
    obtain ⟨rfl, p, hp, hmem⟩ := hm
    have hreach := hmem.included (mem_of_fetch? hp hi) (hb.includeName?_eq hc hn) htext
    exact ⟨(), rfl, _, rfl, hreach⟩

theorem runLoaded_parallel
    (h : setup.Parallel R (setup.Reaches m.program) setup')
    (hport : ∀ p, setup.Reaches m.program p → p.Portable)
    (hw : R w.database w'.database) (fuel : Nat) (args : List Value) (custom : Bindings) :
    (runLoaded setup fuel args custom m w).Related Eq (World.Rebound R w.trace w'.trace)
      Failure.SameKind (runLoaded setup' fuel args custom m w') := by
  have hworld : w.Rebound R w.trace w'.trace w' := ⟨hw, [], rfl, rfl⟩
  rcases hm : m.program with - | top
  · simp only [runLoaded, hm]
    exact ⟨.failed (.refl _), rfl, hworld⟩
  by_cases hz : top.size = 0
  · simp only [runLoaded, hm, hz, if_true]
    exact ⟨.failed (.refl _), rfl, hworld⟩
  have hstart : Shared (setup.Reaches m.program) (m.started args custom)
      (m.started args custom) := ⟨rfl, top, hm, top, hm, .top⟩
  obtain ⟨ho, heq, hended⟩ :=
    (parallel_simulation h hport w.trace w'.trace).runLoaded (k := ()) hm hz hstart hworld fuel
  exact ⟨ho, heq.eq, hended⟩

/-- **A run does not depend on the marker of the database**, if the programs that it can reach
are portable: the same instructions are carried out, skipped and jumped to in the same order
with the same values, the same scripts are asked for, and the run ends in the same state and
in the same way.  What differs are the texts of statements and of errors. -/
theorem run_parallel
    (h : setup.Parallel R (setup.Reaches (program <|> m.program)) setup')
    (hport : ∀ p, setup.Reaches (program <|> m.program) p → p.Portable)
    (hw : R w.database w'.database) (fuel : Nat) (args : List Value) (custom : Bindings)
    (origin : Option CallSite) :
    ∃ (events : List Event) (ended : Result σ _) (ended' : Result σ' _),
      run setup fuel program args custom origin m w = ended ∧
      run setup' fuel program args custom origin m w' = ended' ∧
      ended.world.trace = events.map (Event.boundAs "?") ++ w.trace ∧
      ended'.world.trace = events.map (Event.boundAs "%s") ++ w'.trace ∧
      R ended.world.database ended'.world.database ∧
      ended.machine = ended'.machine ∧
      ended.outcome.Related Failure.SameKind ended'.outcome := by
  have hended : (run setup fuel program args custom origin m w).Related Eq
      (World.Rebound R w.trace w'.trace) Failure.SameKind
      (run setup' fuel program args custom origin m w') := by
    rcases hr : program.bind Program.error? with - | e
    · have hv : ∀ q, program = some q → q.error? = none := Option.bind_eq_none_iff.mp hr
      rw [run_unrefused hv, run_unrefused hv]
      exact runLoaded_parallel h hport hw fuel args custom
    · -- a program that is refused is not run at all
      obtain ⟨q, rfl, he⟩ := Option.bind_eq_some_iff.mp hr
      rw [run, run, he]
      exact ⟨.failed (.refl _), rfl, hw, [], rfl, rfl⟩
  obtain ⟨ho, heq, hd, events, ht, ht'⟩ := hended
  exact ⟨events, _, _, rfl, rfl, ht, ht', hd, heq, ho⟩

end Runs

/-! ### A portable script -/

/-- A script that is handed a value, and sends it with a percent sign in the statement. -/
def remainderText : String := "! capture select $0 % 2"

/-- The script, under a driver with a style. -/
def remainder (style : BindStyle) : Setup Rehearsal where
  client := .ofStyle style Rehearsal.query
  source := (Scripts.ofList [("remainder", remainderText)]).toSource

def remainderPart : Program := Program.parse "!" remainderText "remainder"

/-- A program that includes the script, and then jumps to an address that is handed over. -/
def remainderMain : Program := Program.parse "!" "! include remainder $0\n! forward $0" "main"

theorem remainderPart_instructions :
    remainderPart.instructions = [⟨.capture, "select $0 % 2", some 1⟩] := by decide

theorem remainderMain_instructions : remainderMain.instructions =
    [⟨.include, "remainder $0", some 1⟩, ⟨.forward, "$0", some 2⟩] := by decide

theorem remainderMain_reaches {p : Program}
    (h : (remainder .qmark).Reaches (some remainderMain) p) :
    p = remainderMain ∨ p = remainderPart := by
  have names : remainderMain.includeNames "?" = ["remainder"] ∧
      remainderPart.includeNames "?" = [] := by
    rw [Program.includeNames, Program.includeNames, remainderMain_instructions,
      remainderPart_instructions]
    with_unfolding_all decide
  obtain ⟨top, htop, h⟩ := h
  obtain rfl : remainderMain = top := Option.some.inj htop
  induction h with
  | top => exact .inl rfl
  | @included q i name text _ hi hname htext ih =>
    have hmem : name ∈ q.includeNames "?" := List.mem_filterMap.mpr ⟨i, hi, hname⟩
    rcases ih with rfl | rfl
    · rw [names.1, List.mem_singleton] at hmem
      subst hmem
      obtain rfl : remainderText = text := Except.ok.inj htext
      exact .inr rfl
    · rw [names.2] at hmem
      cases hmem

/-- The database echoes the values that are sent to it with a select. -/
def echo : Rule where
  pattern := "select"
  answers := [.rows ["remainder"] [[.arg 0]]]

/-- Both databases have answered as often. -/
def EchoedAlike (s s' : Rehearsal) : Prop := ∃ uses, s = [⟨echo, uses⟩] ∧ s' = [⟨echo, uses⟩]

theorem remainder_parallel :
    (remainder .qmark).Parallel EchoedAlike ((remainder .qmark).Reaches (some remainderMain))
      (remainder .format) where
  question := rfl
  format := rfl
  source := rfl
  marker := rfl
  maxIncludeDepth := rfl
  writesLog := rfl
  answers := by
    rintro p i args _ _ hp hi hq - ⟨uses, rfl, rfl⟩
    have silent : ∀ i ∈ remainderMain.instructions, i.command.isQuery = false := by
      rw [remainderMain_instructions]
      decide
    have applies : ∀ marker ∈ ["?", "%s"], ∀ i ∈ remainderPart.instructions,
        Rehearsal.contains "select".toList (boundText i.statement marker).toList = true := by
      rw [remainderPart_instructions]
      with_unfolding_all decide
    rcases remainderMain_reaches hp with rfl | rfl
    · rw [silent i hi] at hq
      cases hq
    · simp only [remainder, Client.ofStyle, Rehearsal.query, Rehearsal.answer, echo,
        applies "?" (by decide) i hi, applies "%s" (by decide) i hi, if_true]
      exact ⟨trivial, uses + 1, rfl, rfl⟩

theorem remainder_run_parallel :
    ∃ (events : List Event) (ended ended' : Result Rehearsal _),
      run (remainder .qmark) 100 (some remainderMain) [.int 5] [] none {}
        { database := .ofRules [echo] } = ended ∧
      run (remainder .format) 100 (some remainderMain) [.int 5] [] none {}
        { database := .ofRules [echo] } = ended' ∧
      ended.world.trace = events.map (Event.boundAs "?") ++ [] ∧
      ended'.world.trace = events.map (Event.boundAs "%s") ++ [] ∧
      EchoedAlike ended.world.database ended'.world.database ∧
      ended.machine = ended'.machine ∧
      ended.outcome.Related Failure.SameKind ended'.outcome := by
  refine run_parallel remainder_parallel ?_ ⟨0, rfl, rfl⟩ 100 [.int 5] [] none
  intro p hp
  rcases remainderMain_reaches hp with rfl | rfl
  · rw [Program.Portable, remainderMain_instructions]
    decide +kernel
  · rw [Program.Portable, remainderPart_instructions]
    decide

/-! ### A script that is not portable -/

/-- A script with a percent sign in its name, under a driver with a style. -/
def percentNamed (style : BindStyle) : Setup Rehearsal where
  client := .ofStyle style Rehearsal.query
  source := (Scripts.ofList [("50%", "! execute delete from offers")]).toSource

/-- A program that includes the script, and hands it a value. -/
def percentMain : Program := Program.parse "!" "! include 50% $0" "main"

/-- The databases answer everything alike, and yet the script is found under the question
mark alone. -/
theorem percentName_unportable :
    (percentNamed .qmark).Parallel (fun s s' => s = [] ∧ s' = [])
      ((percentNamed .qmark).Reaches (some percentMain)) (percentNamed .format) ∧
    (∃ result, (run (percentNamed .qmark) 100 (some percentMain) [.int 1] [] none {}
      { database := [] }).outcome = .done result) ∧
    ∃ f, (run (percentNamed .format) 100 (some percentMain) [.int 1] [] none {}
      { database := [] }).outcome = .failed f := by
  refine ⟨⟨rfl, rfl, rfl, rfl, rfl, rfl, ?_⟩, ?_, ?_⟩
  · rintro p i args _ _ - - - - ⟨rfl, rfl⟩
    exact ⟨rfl, rfl, rfl⟩
  · have hdone : (match (run (percentNamed .qmark) 100 (some percentMain) [.int 1] [] none {}
        { database := [] }).outcome with | .done _ => true | _ => false) = true := by
      decide +kernel
    rcases ho : (run (percentNamed .qmark) 100 (some percentMain) [.int 1] [] none {}
      { database := [] }).outcome with result | f | -
    · exact ⟨result, rfl⟩
    · rw [ho] at hdone
      cases hdone
    · rw [ho] at hdone
      cases hdone
  · have hfailed : (run (percentNamed .format) 100 (some percentMain) [.int 1] [] none {}
        { database := [] }).outcome.failure?.isSome = true := by
      decide +kernel
    obtain ⟨f, hf⟩ := Option.isSome_iff_exists.mp hfailed
    exact ⟨f, Outcome.failure?_eq_some.mp hf⟩

end Machine

end SqlScript
