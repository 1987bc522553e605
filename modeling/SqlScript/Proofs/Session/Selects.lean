/-
SqlScript/Proofs/Session/Selects.lean

Select-only commands send nothing but selects.

Programs come to a machine in several ways: they are loaded, put together from single
commands, handed over to be run, or included.  Each way has its own check, made on the
statements as they are written, while what is sent is the statement with its placeholders
bound.  Binding keeps a select a select (`isSelect_bound`), and a program that breaks the
rule is never run, so the check holds of what is sent as well (`selects_only`).

A statement that is sent is attributed to the instruction that sends it by the trace:
right before it the instruction is carried out (`Attributed`).
-/
import SqlScript.Proofs.Engine.Statements
import SqlScript.Proofs.Session.History
import SqlScript.Proofs.Template.Binding

namespace SqlScript

/-! ### Statements and the instructions that send them -/

/-- An instruction that is carried out sends a text: it is a query, the text is its
statement with the placeholders bound, and a select if the command asks for one. -/
structure Dispatch.Sends (bindMarker : String) (d : Dispatch) (text : String) : Prop where
  isQuery : d.instruction.command.isQuery = true
  bound : text = String.ofList
    ((Template.parse d.instruction.statement.toList).bound bindMarker.toList)
  isSelect : d.instruction.command.requiresSelect = true → isSelect text.toList = true

/-- Right before each statement that is sent, an instruction is carried out that sends it.
The newest event is the first one. -/
def Attributed (bindMarker : String) (events : List Event) : Prop :=
  ∀ later earlier text args, events = later ++ .queried text args :: earlier →
    ∃ d before, earlier = .dispatched d :: before ∧ d.Sends bindMarker text

variable {bindMarker : String}

theorem attributed_of_silent {es : List Event} (h : ∀ e ∈ es, e.query? = none) :
    Attributed bindMarker es := by
  rintro later earlier text args rfl
  have hsilent := h (.queried text args) (List.mem_append_right _ List.mem_cons_self)
  cases hsilent

theorem attributed_pair {d : Dispatch} {text : String} (h : d.Sends bindMarker text)
    (args : List Value) : Attributed bindMarker [.queried text args, .dispatched d] := by
  intro later earlier text' args' heq
  match later with
  | [] =>
    cases heq
    exact ⟨d, [], rfl, h⟩
  | [e] => cases heq
  | e :: e' :: later => simp at heq

theorem Attributed.append {es es' : List Event} (h' : Attributed bindMarker es')
    (h : Attributed bindMarker es) : Attributed bindMarker (es' ++ es) := by
  intro later earlier text args heq
  rcases List.append_eq_append_iff.mp heq with ⟨front, rfl, hes⟩ | ⟨back, rfl, hback⟩
  -- among the older events
  · exact h front earlier text args hes
  rcases back with - | ⟨e, back⟩
  · exact h [] earlier text args hback.symm
  -- among the newer ones, and so is the dispatch
  · obtain ⟨rfl, rfl⟩ := List.cons.inj hback
    obtain ⟨d, before, rfl, hd⟩ := h' later back text args rfl
    exact ⟨d, before ++ es, rfl, hd⟩

/-- `w'` comes after `w`: events were added in which each statement is attributed, and the
database got exactly the statements of these events. -/
def World.Attributes {σ : Type} (client : Client σ) (w w' : World σ) : Prop :=
  ∃ es, w'.trace = es ++ w.trace ∧ w'.database = client.after w.database (calls es) ∧
    Attributed client.bindMarker es

namespace World

variable {σ : Type} {client : Client σ} {w w₁ w₂ w₃ : World σ}

theorem Follows.attributes (h : Follows client (fun e => e.query? = none) w₁ w₂) :
    Attributes client w₁ w₂ := by
  obtain ⟨es, ht, hd, hsilent⟩ := h
  exact ⟨es, ht, hd, attributed_of_silent hsilent⟩

theorem attributes_note (w : World σ) {e : Event} (hq : e.query? = none) :
    Attributes client w (w.note e) :=
  (follows_note w hq hq).attributes

theorem Attributes.refl (w : World σ) : Attributes client w w := (Follows.refl w).attributes

theorem Attributes.trans (h : Attributes client w₁ w₂) (h' : Attributes client w₂ w₃) :
    Attributes client w₁ w₃ := by
  obtain ⟨es, ht, hd, hes⟩ := h
  obtain ⟨es', ht', hd', hes'⟩ := h'
  refine ⟨es' ++ es, ?_, ?_, hes'.append hes⟩
  · rw [ht', ht, List.append_assoc]
  · rw [hd', hd, calls_append, Client.after_append]

end World

namespace Machine

variable {σ : Type} {setup : Setup σ} {m : Machine} {w : World σ} {i : Instruction}
variable {r : Resolved} {p : Program} {index : Nat}

/-! ### One instruction -/

theorem allowsSilence_silent : AllowsSilence fun e => e.query? = none := fun _ h => h

/-- A query is sent right after its dispatch, and of a valid instruction that is
select-only it is a select. -/
theorem query_attributes (hv : i.isValid = true) (hb : m.Begins setup i r)
    (hq : i.command.isQuery = true) :
    World.Attributes setup.client w (m.query setup i.command r (m.begun index i r w)).world := by
  have hsends : Dispatch.Sends setup.client.bindMarker
      ⟨(m.program.map Program.source).getD "", m.depth, m.processDepth, index, i, r⟩ r.text := by
    refine ⟨hq, resolve_text hb.resolved, ?_⟩
    intro hselect
    rw [resolve_text hb.resolved, String.toList_ofList]
    exact isSelect_bound (by simpa [Instruction.isValid, hselect] using hv) _
  refine ⟨_, ?_, ?_, attributed_pair hsends r.args⟩
  · rw [query]
    split <;> rfl
  · rw [query]
    split <;> rfl

theorem finish_attributes (hv : i.isValid = true) (hb : m.Begins setup i r)
    {ended : Result σ (Option Nat)}
    (hp : m.plan setup i.command r (m.begun index i r w) = .finish ended) :
    World.Attributes setup.client w ended.world := by
  have begun : World.Attributes setup.client w (m.begun index i r w) :=
    (begun_follows allowsSilence_silent index).attributes
  cases planned_of_eq hp with
  | performed _ _ h =>
    cases h with
    | queried hq => exact query_attributes hv hb hq
    | decided | undecided | jumped | lost | set | unset | examined => exact begun
  | noTarget => exact begun.trans (missTarget_follows allowsSilence_silent _ m _).attributes
  | unread _ _ hs => exact begun.trans (including_follows allowsSilence_silent hs).attributes
  | noCommands _ _ hs => exact begun.trans (including_follows allowsSilence_silent hs).attributes
  | noAddress | callTooDeep | noName => exact begun

theorem isValid_of_fetch? (hp : ∀ p, m.program = some p → p.IsValid) {target : Int}
    (h : m.fetch? target = some i) : i.isValid = true := by
  rcases hm : m.program with - | p
  · simp [fetch?, hm] at h
  · exact hp p hm i (mem_of_fetch? hm h)

/-! ### Whole runs -/

/-- Whatever a machine with a valid program carries out, the statements are attributed.
Included programs were checked when they were read. -/
theorem execution_attributes (setup : Setup σ) :
    (∀ fuel index i m w, (∀ p, m.program = some p → p.IsValid) → i.isValid = true →
      World.Attributes setup.client w (dispatch setup fuel index i m w).world) ∧
    ∀ fuel m w, (∀ p, m.program = some p → p.IsValid) →
      World.Attributes setup.client w (loop setup fuel m w).world := by
  apply execution_induction
    (D := fun _ _ i m w ended => (∀ p, m.program = some p → p.IsValid) → i.isValid = true →
      World.Attributes setup.client w ended.world)
    (L := fun _ m w ended => (∀ p, m.program = some p → p.IsValid) →
      World.Attributes setup.client w ended.world)
  case exhausted => exact fun _ _ _ w _ _ => .refl w
  case skipped => exact fun _ _ _ _ w _ _ _ => World.attributes_note w rfl
  case unresolved => exact fun _ _ _ _ w _ _ _ _ _ => .refl w
  case finish =>
    intro fuel index i m w r ended hb hp _ hv
    have hend : World.Attributes setup.client w ended.world := finish_attributes hv hb hp
    exact hend
  case call =>
    intro fuel index i m w r target called args hb hp ih hprog _
    refine (begun_follows allowsSilence_silent index).attributes.trans (ih hprog ?_)
    cases planned_of_eq hp with
    | call _ _ hf => exact isValid_of_fetch? hprog hf
  case enter =>
    intro fuel index i m w r program w' hb hp ih hprog _
    cases planned_of_eq hp with
    | enter _ _ hs =>
      obtain ⟨text, -, -, hvalid⟩ := readScript_eq_ok hs
      have hentered : ∀ p, (m.child program r.args).program = some p → p.IsValid := by
        rintro p ⟨⟩
        exact program.error?_eq_none_iff.mp hvalid
      have read := (begun_follows allowsSilence_silent index).trans
        (including_follows allowsSilence_silent hs)
      exact read.attributes.trans (ih hentered)
  case halted => exact fun _ w _ => .refl w
  case ended => exact fun _ _ w _ _ => .refl w
  case passive => exact fun _ _ _ _ _ _ ih hprog => ih hprog
  case cutOff =>
    intro fuel m w i e hf _ _ ih _ hprog
    exact ih hprog (isValid_of_fetch? hprog hf)
  case failed =>
    intro fuel m w i e f hf _ _ ih _ hprog
    exact ih hprog (isValid_of_fetch? hprog hf)
  -- what was carried out left the program in place, so the rest of the loop runs the same one
  case next =>
    rintro fuel m w i e m' hf _ rfl ih _ rfl ihL hprog
    have hframe := (dispatch_framed setup fuel m.state.cursor i m w).program
    exact (ih hprog (isValid_of_fetch? hprog hf)).trans
      (ihL fun p hp => hprog p (hframe.symm.trans hp))
  case jump =>
    rintro fuel m w i e m' w' target hf _ rfl ih _ rfl rfl ihL hprog
    have hframe := (dispatch_framed setup fuel m.state.cursor i m w).program
    exact (ih hprog (isValid_of_fetch? hprog hf)).trans
      ((World.attributes_note _ rfl).trans
        (ihL fun p hp => hprog p (hframe.symm.trans hp)))

theorem runLoaded_attributes (hp : ∀ p, m.program = some p → p.IsValid) (fuel : Nat)
    (args : List Value) (custom : Bindings) :
    World.Attributes setup.client w (runLoaded setup fuel args custom m w).world := by
  rcases hm : m.program with - | p
  · simpa [runLoaded, hm] using World.Attributes.refl w
  by_cases hz : p.size = 0
  · simpa [runLoaded, hm, hz] using World.Attributes.refl w
  · rw [runLoaded_eq hm hz]
    exact (execution_attributes setup).2 fuel (m.started args custom) w hp

/-! ### Operations -/

/-- A program that is handed over and breaks the rule is refused before anything is
sent. -/
theorem run_attributes (h : Settled m) (fuel : Nat) (program : Option Program)
    (args : List Value) (custom : Bindings) (origin : Option CallSite) :
    World.Attributes setup.client w (run setup fuel program args custom origin m w).world := by
  rcases program with - | p
  · exact runLoaded_attributes (h.withOrigin _).valid fuel args custom
  rw [run]
  split
  · exact .refl w
  · next hv =>
    have hsettled := (h.withProgram (p.error?_eq_none_iff.mp hv)).withOrigin (origin <|> m.origin)
    exact runLoaded_attributes hsettled.valid fuel args custom

theorem runAt_attributes (h : Settled m) (fuel : Nat) (index : Int) (args : List Value)
    (custom : Bindings) :
    World.Attributes setup.client w (runAt setup fuel index args custom m w).world := by
  rw [runAt]
  rcases hf : m.fetch? index with - | i
  · exact .refl w
  simp only
  split
  · exact (execution_attributes setup).1 fuel _ i _ w h.valid (isValid_of_fetch? h.valid hf)
  · exact .refl w

/-- What one operation adds to the trace. -/
theorem operate_attributes (h : Settled m) (op : Operation) :
    World.Attributes setup.client w (operate setup m w op).2 := by
  have adopted : ∀ (m : Machine) (origin : Option CallSite)
      (read : Except Failure Program × World σ), (m.adopt origin read).world = read.2 := by
    rintro m origin ⟨f | p, w'⟩ <;> rfl
  cases op with
  | load name origin =>
    rw [operate, load, adopted]
    exact (readScript_follows allowsSilence_silent name w).attributes
  | loadText text source origin =>
    rw [operate, loadText, adopted]
    exact (readText_follows allowsSilence_silent text source w).attributes
  | run fuel program args custom origin => exact run_attributes h fuel program args custom origin
  | runAt fuel index args custom => exact runAt_attributes h fuel index args custom
  | command | clearCaptures | reset => exact .refl w

/-- What any number of operations adds to the trace. -/
theorem afterAll_attributes (h : Settled m) (ops : List Operation) :
    World.Attributes setup.client w (afterAll setup m w ops).2 := by
  induction ops generalizing m w with
  | nil => exact .refl w
  | cons op ops ih => exact (operate_attributes h op).trans (ih (h.operate op))

/-- **Select-only commands send only selects.**  After any operations on a new machine,
whether they succeeded or failed, every select-only instruction of the program it has is a
select.  The database got exactly the statements of the trace; right before each of them
there is the instruction that sends it, at whatever depth of calls and includes, and if that
is select-only the text that is sent, with the placeholders bound, is a select. -/
theorem selects_only (setup : Setup σ) (ops : List Operation) (w : World σ) :
    let after := afterAll setup {} w ops
    (∀ p, after.1.program = some p → ∀ i ∈ p.instructions,
      i.command.requiresSelect = true → isSelect i.statement.toList = true) ∧
    ∃ events, after.2.trace = events ++ w.trace ∧
      after.2.database = setup.client.after w.database (calls events) ∧
      ∀ later earlier text args, events = later ++ .queried text args :: earlier →
        ∃ d before, earlier = .dispatched d :: before ∧
          d.instruction.command.isQuery = true ∧
          text = String.ofList ((Template.parse d.instruction.statement.toList).bound
            setup.client.bindMarker.toList) ∧
          (d.instruction.command.requiresSelect = true → isSelect text.toList = true) := by
  intro after
  have hsettled : Settled after.1 := settled_new.afterAll ops
  refine ⟨?_, ?_⟩
  · intro p hp i hi hselect
    simpa [Instruction.isValid, hselect] using hsettled.valid p hp i hi
  have hworld : World.Attributes setup.client w after.2 := afterAll_attributes settled_new ops
  obtain ⟨events, htrace, hdata, hsent⟩ := hworld
  refine ⟨events, htrace, hdata, ?_⟩
  intro later earlier text args hevents
  obtain ⟨d, before, hbefore, hd⟩ := hsent later earlier text args hevents
  exact ⟨d, before, hbefore, hd.isQuery, hd.bound, hd.isSelect⟩

end Machine

end SqlScript
