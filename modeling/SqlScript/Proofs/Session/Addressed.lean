/-
SqlScript/Proofs/Session/Addressed.lean

Three ways to carry out one instruction.

The loop carries out the instruction at its cursor (`turn` is one turn of it), a caller of the
machine can name an instruction by its address (`runAt`), and an instruction that calls can
name it too.  These differ in the cursor of the machine and in the number of calls under way,
and the instruction of the call has been noted in the trace.

Only a call asks how many calls are under way, and no instruction reads the cursor or the
trace.  So what any other instruction does is the same at another cursor and level
(`plan_moved`) and behind another trace (`plan_alike`).  The three ways send the same
statements, and end in the same way with the same machine, but for the cursor that only the
loop moves (`addressed_three_ways`).
-/
import SqlScript.Proofs.Condition.Lexing
import SqlScript.Proofs.Engine.Cursor
import SqlScript.Proofs.Engine.Operands
import SqlScript.Proofs.Engine.Unseen

namespace SqlScript

/-! ### Addresses that are written out -/

namespace Text

theorem firstWord?_natText (n : Nat) : firstWord? (natText n).toList = some (natDigits n) := by
  have hword := @firstWord?_append [] (natDigits n) [] nofun Nat.toDigits_ne_nil
    (fun _ => isBlank_of_mem_natDigits) nofun
  rw [natText, String.toList_ofList]
  rwa [List.append_nil, List.nil_append] at hword

end Text

theorem unpad_of_solid {cs : List Char} (h : ∀ c ∈ cs, isPadding c = false) : unpad cs = cs := by
  have kept : ∀ ds : List Char, (∀ c ∈ ds, isPadding c = false) → ds.dropWhile isPadding = ds := by
    intro ds hds
    rcases ds with - | ⟨d, ds⟩
    · rfl
    · simp [hds d List.mem_cons_self]
  rw [unpad, kept cs h, kept cs.reverse fun c hc => h c (List.mem_reverse.mp hc),
    List.reverse_reverse]

theorem dropUnderscores?_of_none {cs : List Char} (h : '_' ∉ cs) (afterDigit : Bool) :
    dropUnderscores? afterDigit cs = some cs := by
  induction cs generalizing afterDigit with
  | nil => rfl
  | cons c cs ih =>
    rw [List.mem_cons, not_or] at h
    rw [dropUnderscores?, if_neg (Ne.symm h.1), ih h.2]
    · rfl
    · rintro - - rfl
      exact absurd rfl h.1

/-- The digits of a number are read as the number, unless there are too many. -/
theorem readInteger_natDigits {n : Nat} (h : Text.digitCount n ≤ integerLimit) :
    readInteger (Text.natDigits n) = .ok n := by
  have hpadding : ∀ c ∈ Text.natDigits n, isPadding c = false := fun c hc => by
    simp [isPadding, Text.isBlank_of_mem_natDigits hc]
  have hsign : Numeral.sign (Text.natDigits n) = (false, Text.natDigits n) :=
    Numeral.sign_of_none (Text.not_mem_natDigits (by decide)) (Text.not_mem_natDigits (by decide))
  have hplain : dropUnderscores? false (Text.natDigits n) = some (Text.natDigits n) :=
    dropUnderscores?_of_none (Text.not_mem_natDigits (by decide)) false
  have hne : (Text.natDigits n).isEmpty = false := by
    simp [Text.natDigits, Nat.toDigits_ne_nil]
  have hall : (Text.natDigits n).all Text.isDigit = true :=
    List.all_eq_true.mpr (Text.isDigit_natDigits n)
  have hshort : ¬ integerLimit < (Text.natDigits n).length := Nat.not_lt.mpr h
  rw [readInteger, unpad_of_solid hpadding, hsign]
  simp [hplain, hne, hall, hshort, Text.digitsValue_natDigits]

theorem resolve_natText (n : Nat) (passed : List Value) (custom : Bindings) (marker : String) :
    resolve (Text.natText n) passed custom marker
      = .ok ⟨Text.natText n, [], Text.natText n⟩ := by
  have hd : '$' ∉ Text.natDigits n := Text.not_mem_natDigits (by decide)
  have hp : '%' ∉ Text.natDigits n := Text.not_mem_natDigits (by decide)
  have htail := Template.tail_parse_plain hd []
  have hbound := Template.bound_plain hd hp [] marker.toList
  rw [List.append_nil, Template.parse_nil] at htail
  rw [List.append_nil, Template.bound_nil, List.append_nil] at hbound
  simp only [resolve, Text.natText, String.toList_ofList, Template.placeholders, htail, hbound]
  rfl

/-! ### What is compared -/

/-- A failure without what it is reported against: the cause of an error, which fixes its kind
and detail, or the fault. -/
def Failure.withoutContext : Failure → Failure
  | .error e => .error { cause := e.cause }
  | .fault f => .fault f

@[simp] theorem Failure.withoutContext_attach (f : Failure) (c : Context) :
    (f.attach c).withoutContext = f.withoutContext := by
  cases f <;> rfl

@[simp] theorem Failure.withoutContext_withoutOrigin (f : Failure) :
    f.withoutOrigin.withoutContext = f.withoutContext := by
  cases f <;> rfl

/-- Two outcomes of the same kind, with any values or with failures for the same cause. -/
inductive Outcome.Matches {α β : Type} : Outcome α → Outcome β → Prop
  | done (a : α) (b : β) : Matches (.done a) (.done b)
  | failed {f f' : Failure} : f.withoutContext = f'.withoutContext →
      Matches (.failed f) (.failed f')
  | cutOff : Matches .cutOff .cutOff

/-- Since the world `w`, these statements were sent. -/
def World.Sent {σ : Type} (w w' : World σ) (sent : List (String × List Value)) : Prop :=
  ∃ es, w'.trace = es ++ w.trace ∧ calls es = sent

/-- Two results that look alike from outside, in the worlds since `w` and `w'`: they end in
the same way, with the same database, and the same statements were sent. -/
structure Result.Matches {σ α β : Type} (w w' : World σ) (e : Result σ α) (e' : Result σ β) :
    Prop where
  outcome : e.outcome.Matches e'.outcome
  database : e.world.database = e'.world.database
  sent : ∃ sent, w.Sent e.world sent ∧ w'.Sent e'.world sent

section Matching

variable {σ α β γ : Type} {w w' : World σ}

namespace Outcome.Matches

variable {o : Outcome α} {o' : Outcome β}

theorem map_left (h : o.Matches o') (g : α → γ) : (o.map g).Matches o' := by
  cases h with
  | done a b => exact .done (g a) b
  | failed hf => exact .failed hf
  | cutOff => exact .cutOff

theorem map_right (h : o.Matches o') (g : β → γ) : o.Matches (o'.map g) := by
  cases h with
  | done a b => exact .done a (g b)
  | failed hf => exact .failed hf
  | cutOff => exact .cutOff

theorem attach_left (h : o.Matches o') (c : Context) : (o.attach c).Matches o' := by
  cases h with
  | done a b => exact .done a b
  | failed hf => exact .failed ((Failure.withoutContext_attach _ c).trans hf)
  | cutOff => exact .cutOff

theorem attach_right (h : o.Matches o') (c : Context) : o.Matches (o'.attach c) := by
  cases h with
  | done a b => exact .done a b
  | failed hf => exact .failed (hf.trans (Failure.withoutContext_attach _ c).symm)
  | cutOff => exact .cutOff

end Outcome.Matches

theorem Outcome.Related.matches {o o' : Outcome α} (h : o.Related (Failure.Alike 0) o') :
    o.Matches o' := by
  cases h with
  | done a => exact .done a a
  | failed hf =>
    have hcause := congrArg Failure.withoutContext (hf rfl)
    rw [Failure.withoutContext_withoutOrigin, Failure.withoutContext_withoutOrigin] at hcause
    exact .failed hcause
  | cutOff => exact .cutOff

namespace World

theorem Sent.refl (w : World σ) : w.Sent w [] := ⟨[], rfl, rfl⟩

/-- What sends nothing may also have happened before. -/
theorem Sent.of_note {v : World σ} {e : Event} {sent : List (String × List Value)}
    (h : (w.note e).Sent v sent) (he : e.query? = none) : w.Sent v sent := by
  obtain ⟨es, ht, rfl⟩ := h
  refine ⟨es ++ [e], ?_, ?_⟩
  · rw [ht, note, List.append_assoc]
    rfl
  · simp [calls, he]

theorem Sent.note {v : World σ} {sent : List (String × List Value)} (h : w.Sent v sent)
    {e : Event} (he : e.query? = none) : w.Sent (v.note e) sent := by
  obtain ⟨es, ht, rfl⟩ := h
  refine ⟨e :: es, ?_, ?_⟩
  · rw [World.note, ht]
    rfl
  · simp [calls, he]

theorem Alike.sent {v v' : World σ} (h : v.Alike 0 w.trace w'.trace v') :
    ∃ sent, w.Sent v sent ∧ w'.Sent v' sent := by
  obtain ⟨-, es, ht, ht'⟩ := h
  rw [Event.deepen_zero, List.map_id] at ht
  exact ⟨calls es, ⟨es, ht, rfl⟩, es, ht', rfl⟩

end World

/-- Results that are alike from the two worlds on match. -/
theorem Result.Related.matches {M : Machine → Machine → Prop} {e e' : Result σ α}
    (h : e.Related M (World.Alike 0 w.trace w'.trace) (Failure.Alike 0) e') :
    e.Matches w w' e' :=
  ⟨h.outcome.matches, h.world.database, h.world.sent⟩

/-- Results match from earlier worlds on if nothing was sent in between. -/
theorem Result.Matches.of_note {e : Result σ α} {e' : Result σ β} {event event' : Event}
    (h : e.Matches (w.note event) (w'.note event') e') (he : event.query? = none)
    (he' : event'.query? = none) : e.Matches w w' e' := by
  obtain ⟨sent, hsent, hsent'⟩ := h.sent
  exact ⟨h.outcome, h.database, sent, hsent.of_note he, hsent'.of_note he'⟩

theorem Result.Matches.attach {e : Result σ α} {e' : Result σ β} (h : e.Matches w w' e')
    (c c' : Context) : (e.attach c).Matches w w' (e'.attach c') :=
  ⟨(h.outcome.attach_left c).attach_right c', h.database, h.sent⟩

end Matching

namespace Machine

variable {σ : Type} {setup : Setup σ} {m m' : Machine} {w w' : World σ} {i : Instruction}
variable {r : Resolved} {index fuel : Nat}

/-! ### Machines that were moved -/

/-- A machine with its cursor at another address and another number of calls under way. -/
def moved (m : Machine) (cursor level : Nat) : Machine :=
  { m with state := { m.state with cursor := cursor }, processDepth := level }

theorem goTo_eq_moved (m : Machine) (cursor : Nat) :
    m.goTo cursor = m.moved cursor m.processDepth := rfl

/-- A call that hands nothing over only counts one level up. -/
theorem entered_nil (m : Machine) : m.entered [] = m.moved m.state.cursor (m.processDepth + 1) :=
  rfl

/-- The end of an instruction, on the machine that was moved. -/
def movedEnd (cursor level : Nat) (ended : Result σ (Option Nat)) : Result σ (Option Nat) :=
  { ended with machine := ended.machine.moved cursor level }

/-- A plan, on the machine that was moved. -/
def movedPlan (cursor level : Nat) : Plan σ → Plan σ
  | .finish ended => .finish (movedEnd cursor level ended)
  | plan => plan

/-- Moving a machine is seen by calls only. -/
theorem unseen_moved (cursor level : Nat) : Unseen fun m => m.moved cursor level where
  gate _ := rfl
  passed _ := rfl
  custom _ := rfl
  blank _ := rfl
  depth _ := rfl
  origin _ := rfl
  size _ := rfl
  absorb m c rs := by cases c <;> rfl
  decide _ _ := rfl
  set _ _ := rfl

/-- **Only calls depend on the place.**  Any other instruction has the same plan wherever the
cursor is and however many calls are under way. -/
theorem plan_moved {c : Command} (hc : c ≠ .process) (cursor level : Nat) :
    (m.moved cursor level).plan setup c r w = movedPlan cursor level (m.plan setup c r w) := by
  refine (plan_unseen (unseen_moved cursor level) setup r m w hc).trans ?_
  rcases m.plan setup c r w with ended | ⟨target, called, args⟩ | ⟨program, v⟩
  · rfl
  · rfl
  · rfl

/-! ### Behind another trace -/

theorem Alike.refl (m : Machine) : m.Alike 0 [] m := ⟨rfl, rfl, rfl, rfl, rfl⟩

theorem Alike.eq (h : m.Alike 0 [] m') (ho : m.origin = m'.origin) : m = m' := by
  obtain ⟨program, captures, state, depth, level, origin⟩ := m
  obtain ⟨program', captures', state', depth', level', origin'⟩ := m'
  obtain ⟨hp, hs, hl, hd, hc⟩ := h
  simp only [Nat.add_zero, List.nil_append] at hp hs hl hd hc ho
  rw [hp, hs, hl, hd, hc, ho]

/-- Machines that are alike run together behind any two traces. -/
theorem trace_simulation (setup : Setup σ) (t t' : List Event) :
    Simulation setup setup id (Machine.Alike 0) (World.Alike 0 t t') (Failure.Alike 0) := by
  simpa using alike_simulation setup 0 t t'

/-- The plans of an instruction in two worlds with the same database. -/
theorem plan_alike {address : Int} (hf : m.fetch? address = some i) (hb : m.Begins setup i r)
    (hw : w.database = w'.database) :
    Plan.Related (Machine.Alike 0 []) (World.Alike 0 w.trace w'.trace) (Failure.Alike 0)
      (m.plan setup i.command r w) (m.plan setup i.command r w') :=
  (trace_simulation setup w.trace w'.trace).plan (.refl m) ⟨hw, [], rfl, rfl⟩ hf hb

theorem loop_matches {v v' : World σ} (hw : v.Alike 0 w.trace w'.trace v') (setup : Setup σ)
    (fuel : Nat) : (loop setup fuel m v).Matches w w' (loop setup fuel m v') :=
  ((trace_simulation setup w.trace w'.trace).loop (.refl m) hw fuel).matches

/-! ### One instruction at two places -/

/-- That an instruction begins is noted, but nothing is sent by it. -/
theorem matches_of_begun {α β : Type} {e : Result σ α} {e' : Result σ β}
    (h : e.Matches (m.begun index i r w) (m'.begun index i r w') e') : e.Matches w w' e' :=
  h.of_note rfl rfl

theorem carriedOut_moved {address : Int} (hf : m.fetch? address = some i)
    (hb : m.Begins setup i r) (hc : i.command ≠ .process) (hw : w.database = w'.database)
    (fuel index cursor level : Nat) :
    let there := m.moved cursor level
    let ended := m.carriedOut setup fuel index i r w
      (m.plan setup i.command r (m.begun index i r w))
    let ended' := there.carriedOut setup fuel index i r w'
      (movedPlan cursor level (m.plan setup i.command r (there.begun index i r w')))
    ended.Matches w w' ended' ∧ ended'.machine = ended.machine.moved cursor level := by
  intro there ended ended'
  have hplans : Plan.Related _ _ _ (m.plan setup i.command r (m.begun index i r w))
      (m.plan setup i.command r (there.begun index i r w')) := plan_alike hf hb hw
  rcases hp : m.plan setup i.command r (m.begun index i r w)
    with first | ⟨target, called, args⟩ | ⟨program, v⟩
  · rw [hp] at hplans
    obtain ⟨second, hp', hrelated⟩ := hplans.eq_finish
    have hsame : first.machine = second.machine := hrelated.machine.eq
      ((planned_of_eq hp).framed.origin.trans (planned_of_eq hp').framed.origin.symm)
    have hends := hrelated.matches.attach (m.contextOf index i r) (there.contextOf index i r)
    simp only [ended, ended', hp, hp', movedPlan, carriedOut]
    refine ⟨matches_of_begun ⟨hends.outcome, hends.database, hends.sent⟩, ?_⟩
    simp only [Result.attach, movedEnd, hsame]
  · cases planned_of_eq hp with
    | call hprocess => exact absurd hprocess hc
  -- the included script runs on the same machine at both places
  · rw [hp] at hplans
    obtain ⟨v', hp', hworld⟩ := hplans.eq_enter
    have hchild : there.child program r.args = m.child program r.args := rfl
    have hloop := loop_matches (m := m.child program r.args) hworld setup fuel
    simp only [ended, ended', hp, hp', movedPlan, carriedOut, hchild]
    refine ⟨matches_of_begun ⟨?_, hloop.database, hloop.sent⟩, rfl⟩
    exact (((hloop.outcome.map_left _).map_right _).attach_left _).attach_right _

/-- **One instruction at two places.**  An instruction that is no call ends in the same way
and sends the same statements, wherever the cursor is, however many calls are under way and
whatever happened before, and leaves the same machine but for its place. -/
theorem dispatch_moved {address : Int} (hf : m.fetch? address = some i)
    (hc : i.command ≠ .process) (w w' : World σ) (hw : w.database = w'.database)
    (setup : Setup σ) (fuel index cursor level : Nat) :
    let ended := dispatch setup fuel index i m w
    let ended' := dispatch setup fuel index i (m.moved cursor level) w'
    ended.Matches w w' ended' ∧ ended'.machine = ended.machine.moved cursor level := by
  intro ended ended'
  rcases fuel with - | fuel
  · simp only [ended, ended', dispatch]
    exact ⟨⟨.cutOff, hw, [], .refl w, .refl w'⟩, trivial⟩
  rcases ha : m.admits i.command with - | -
  · have hends : ended = _ := dispatch_skipped ha
    have hends' : ended' = _ := dispatch_skipped (m := m.moved cursor level) ha
    rw [hends, hends']
    exact ⟨⟨.done _ _, hw, [], (World.Sent.refl w).note rfl, (World.Sent.refl w').note rfl⟩, rfl⟩
  rcases hr : resolve i.statement m.state.passed m.state.custom setup.client.bindMarker
    with f | r
  · have hends : ended = _ := dispatch_unresolved ha hr
    have hends' : ended' = _ := dispatch_unresolved (m := m.moved cursor level) ha hr
    rw [hends, hends']
    exact ⟨⟨.failed rfl, hw, [], .refl w, .refl w'⟩, rfl⟩
  have hb : m.Begins setup i r := ⟨ha, hr⟩
  have hb' : (m.moved cursor level).Begins setup i r := ⟨ha, hr⟩
  have hends : ended = _ := dispatch_begun hb
  have hends' : ended' = _ := dispatch_begun hb'
  rw [hends, hends', plan_moved hc]
  exact carriedOut_moved hf hb hc hw fuel index cursor level

/-! ### By the loop -/

/-- The end of a turn of the loop, from the end of the instruction at the cursor. -/
def turned : Result σ (Option Nat) → Result σ Unit
  | ⟨.done none, m, w⟩ => ⟨.done (), m.goTo (m.state.cursor + 1), w⟩
  | ⟨.done (some target), m, w⟩ =>
    ⟨.done (), m.goTo target, w.note (.jumped m.state.cursor target)⟩
  | ⟨.failed f, m, w⟩ => ⟨.failed f, m, w⟩
  | ⟨.cutOff, m, w⟩ => ⟨.cutOff, m, w⟩

/-- One turn of the loop. -/
def turn (setup : Setup σ) (fuel : Nat) (m : Machine) (w : World σ) : Result σ Unit :=
  match m.fetch? m.state.cursor with
  | none => ⟨.done (), m, w⟩
  | some i =>
    if i.command.isPassive then ⟨.done (), m.goTo (m.state.cursor + 1), w⟩
    else turned (dispatch setup fuel m.state.cursor i m w)

/-- The rest of a loop, from the end of its first turn. -/
def furtherTurns (setup : Setup σ) (fuel : Nat) : Result σ Unit → Result σ Unit
  | ⟨.done (), m, w⟩ => loop setup fuel m w
  | ended => ended

theorem furtherTurns_done {ended : Result σ Unit} (h : ended.outcome = .done ()) :
    furtherTurns setup fuel ended = loop setup fuel ended.machine ended.world := by
  obtain ⟨outcome, machine, world⟩ := ended
  subst h
  rfl

/-- The loop takes one turn after the other. -/
theorem loop_eq_turn (hf : m.fetch? m.state.cursor = some i) (setup : Setup σ) (fuel : Nat)
    (w : World σ) :
    loop setup (fuel + 1) m w = furtherTurns setup fuel (turn setup fuel m w) := by
  rcases hp : i.command.isPassive with - | -
  · rw [loop_turn hf hp rfl, turn, hf]
    simp only [hp, Bool.false_eq_true, if_false]
    obtain ⟨(- | target) | f | -, machine, world⟩ := dispatch setup fuel m.state.cursor i m w
    · rfl
    · rfl
    · rfl
    · rfl
  · rw [loop_passive hf hp, turn, hf]
    simp only [hp, if_true]
    rfl

theorem turned_matches {α : Type} {ended : Result σ (Option Nat)} {e' : Result σ α}
    (h : e'.Matches w' w ended) : e'.Matches w' w (turned ended) := by
  obtain ⟨ho, hd, sent, hsent', hsent⟩ := h
  obtain ⟨(- | target) | f | -, machine, world⟩ := ended
  · exact ⟨ho.map_right fun _ => (), hd, sent, hsent', hsent⟩
  · exact ⟨ho.map_right fun _ => (), hd, sent, hsent', hsent.note rfl⟩
  · exact ⟨ho.map_right fun _ => (), hd, sent, hsent', hsent⟩
  · exact ⟨ho.map_right fun _ => (), hd, sent, hsent', hsent⟩

/-- A turn of the loop moves the cursor at most. -/
theorem machine_turned (ended : Result σ (Option Nat)) :
    (turned ended).machine = ended.machine.goTo (turned ended).machine.state.cursor := by
  obtain ⟨(- | target) | f | -, machine, world⟩ := ended
  · rfl
  · rfl
  · rfl
  · rfl

/-- Where the loop goes on behind the instruction `i` at an address: at the next address, or
at its target if it is a jump. -/
inductive GoesTo (setup : Setup σ) (m : Machine) (i : Instruction) (index : Nat) : Nat → Prop
  | next : i.command ≠ .forward → GoesTo setup m i index (index + 1)
  | target {r : Resolved} {target : Nat} : i.command = .forward → m.Begins setup i r →
      m.jumpTarget r setup.client.bindMarker = .ok target → GoesTo setup m i index target

/-- A jump that the gate lets through has a target, or fails. -/
theorem dispatch_forward (hc : i.command = .forward) (ha : m.admits i.command = true)
    (setup : Setup σ) (fuel index : Nat) (w : World σ) :
    (dispatch setup fuel index i m w).outcome ≠ .done none := by
  rcases fuel with - | fuel
  · simp [dispatch]
  rcases hr : resolve i.statement m.state.passed m.state.custom setup.client.bindMarker
    with f | r
  · rw [dispatch_unresolved ha hr]
    intro h
    cases h
  have hplan : m.plan setup i.command r (m.begun index i r w)
      = .finish (m.perform setup .forward r (m.begun index i r w)) := by
    rw [hc]
    rfl
  rw [dispatch_finish ⟨ha, hr⟩ hplan, perform]
  rcases m.jumpTarget r setup.client.bindMarker with f | target
  · intro h
    cases h
  · intro h
    cases h

theorem turned_cursor {ended : Result σ (Option Nat)} (ha : m.admits i.command = true)
    (hd : dispatch setup fuel index i (m.goTo index) w = ended)
    (ho : (turned ended).outcome = .done ()) :
    m.GoesTo setup i index (turned ended).machine.state.cursor := by
  have hcursor : ended.machine.state.cursor = index := by
    rw [← hd]
    exact dispatch_cursor setup fuel index i (m.goTo index) w
  have hjumps : i.command = .forward → ended.outcome ≠ .done none := by
    rw [← hd]
    exact fun hc => dispatch_forward (m := m.goTo index) hc ha setup fuel index w
  obtain ⟨(- | target) | f | -, machine, world⟩ := ended
  · have hgoes : m.GoesTo setup i index (index + 1) := .next fun hc => hjumps hc rfl
    rw [← hcursor] at hgoes
    exact hcursor ▸ hgoes
  · obtain ⟨hc, r, hb, ht⟩ := dispatch_target (congrArg Result.outcome hd)
    exact .target hc ⟨hb.admitted, hb.resolved⟩ ht
  · cases ho
  · cases ho

theorem turned_failed {ended : Result σ (Option Nat)} {f : Failure}
    (h : (turned ended).outcome = .failed f) : (turned ended).machine = ended.machine := by
  obtain ⟨(- | target) | f | -, machine, world⟩ := ended
  · cases h
  · cases h
  · rfl
  · cases h

/-- A turn of the loop carries out the instruction at the cursor, and moves the cursor. -/
theorem turn_matches (hf : m.fetch? index = some i) (hp : i.command.isPassive = false)
    (hc : i.command ≠ .process) (ha : m.admits i.command = true) (setup : Setup σ) (fuel : Nat)
    (w : World σ) :
    let ended := dispatch setup fuel index i m w
    let looped := turn setup fuel (m.goTo index) w
    ended.Matches w w looped ∧
      looped.machine = ended.machine.goTo looped.machine.state.cursor ∧
      (looped.outcome = .done () → m.GoesTo setup i index looped.machine.state.cursor) ∧
      ((∃ f, looped.outcome = .failed f) → looped.machine.state.cursor = index) := by
  intro ended looped
  obtain ⟨hmatches, hmachine⟩ :=
    dispatch_moved hf hc w w rfl setup fuel index index m.processDepth
  rw [← goTo_eq_moved] at hmatches hmachine
  have hlooped : looped = turned (dispatch setup fuel index i (m.goTo index) w) := by
    have hfetch : (m.goTo index).fetch? (m.goTo index).state.cursor = some i := hf
    simp only [looped, turn, hfetch, hp, Bool.false_eq_true, if_false]
    rfl
  rw [hlooped]
  refine ⟨turned_matches hmatches, ?_, turned_cursor ha rfl, ?_⟩
  · have hlevel := (dispatch_framed setup fuel index i m w).processDepth
    have hplaced : ∀ cursor, (dispatch setup fuel index i (m.goTo index) w).machine.goTo cursor
        = ended.machine.goTo cursor := by
      intro cursor
      rw [hmachine, ← hlevel]
      rfl
    rw [← hplaced]
    exact machine_turned _
  · rintro ⟨f, ho⟩
    rw [turned_failed ho]
    exact dispatch_cursor setup fuel index i (m.goTo index) w

/-! ### By its address -/

theorem runAt_eq (hf : m.fetch? index = some i) (ha : m.admits i.command = true)
    (setup : Setup σ) (fuel : Nat) (w : World σ) :
    let ended := dispatch setup fuel index i m w
    runAt setup fuel index [] [] m w
      = ⟨ended.outcome.map fun _ => ended.machine.state.last, ended.machine, ended.world⟩ := by
  have hsame : m.withParameters [] [] = m := rfl
  simp only [runAt, hf, hsame, ha, if_true, Int.toNat_natCast]

/-! ### By a call -/

/-- An instruction begins that calls the one at `index` and hands nothing over. -/
structure Calls (setup : Setup σ) (m : Machine) (caller : Instruction) (r : Resolved)
    (index : Nat) : Prop extends m.Begins setup caller r where
  isCall : caller.command = .process
  operand : addressOperand r setup.client.bindMarker = .ok (index, [])

/-- A call names an address of up to as many digits as a number may have by writing it out. -/
theorem calls_written (hg : m.state.gate = .run) (h : Text.digitCount index ≤ integerLimit)
    (setup : Setup σ) (line : Option Int) :
    m.Calls setup ⟨.process, Text.natText index, line⟩
      ⟨Text.natText index, [], Text.natText index⟩ index where
  admitted := by simp [admits, hg]
  resolved := resolve_natText index _ _ _
  isCall := rfl
  operand := by
    let r : Resolved := ⟨Text.natText index, [], Text.natText index⟩
    have hword : Text.firstWord? r.text.toList = some (Text.natDigits index) :=
      Text.firstWord?_natText index
    have hread := readInteger_natDigits h
    rw [addressOperand_eq hword]
    simp [r, addressValue, Value.toAddress, hread, Except.toOption, Except.map]

theorem plan_calls {caller : Instruction} (h : m.Calls setup caller r index)
    (hf : m.fetch? index = some i) (hd : m.processDepth < maxProcessDepth) (w : World σ) :
    m.plan setup caller.command r w = .call index i [] := by
  rw [h.isCall, plan_call w h.operand hf, if_pos hd, Int.toNat_natCast]

theorem dispatch_calls {caller : Instruction} (h : m.Calls setup caller r index)
    (hf : m.fetch? index = some i) (hc : i.command ≠ .process)
    (hd : m.processDepth < maxProcessDepth) (fuel place : Nat) (w : World σ) :
    let ended := dispatch setup fuel index i m w
    let called := dispatch setup (fuel + 1) place caller m w
    ended.Matches w w called ∧ called.machine = ended.machine := by
  intro ended called
  obtain ⟨hmatches, hmachine⟩ := dispatch_moved hf hc w (m.begun place caller r w) rfl setup fuel
    index m.state.cursor (m.processDepth + 1)
  obtain ⟨ho, hdb, sent, hsent, hsent'⟩ := hmatches
  have hcalled : called = _ := dispatch_call h.toBegins (plan_calls h hf hd _)
  rw [hcalled, entered_nil]
  refine ⟨⟨(ho.map_right _).attach_right _, hdb, sent, hsent, hsent'.of_note rfl⟩, ?_⟩
  have hplace := dispatch_cursor setup fuel index i m w
  have hlevel := (dispatch_framed setup fuel index i m w).processDepth
  rw [returned, hmachine]
  -- the level of calls is put back, and the cursor is where it was
  show ended.machine.moved m.state.cursor m.processDepth = ended.machine
  rw [← hplace, ← hlevel]
  rfl

/-! ### The three ways -/

/-- **An instruction is carried out in the same way however it is named.**  Let the gate let
the instruction at an address through, and let it be no call and not be stepped over.  Whether
it is named by its address, the loop comes to it, or an instruction calls it that hands
nothing over, the same statements are sent, it ends in the same way, and the machine is the
same.  Only the loop moves the cursor: to where it goes on, or to the instruction if that
fails.  The loop that comes to the instruction takes this turn first, and the further turns
behind it. -/
theorem addressed_three_ways (setup : Setup σ) (fuel index : Nat) (i : Instruction)
    (m : Machine) (w : World σ) (hf : m.fetch? index = some i)
    (hp : i.command.isPassive = false) (hc : i.command ≠ .process)
    (ha : m.admits i.command = true) :
    let alone := runAt setup fuel index [] [] m w
    let looped := turn setup fuel (m.goTo index) w
    alone.machine.state.cursor = m.state.cursor ∧
      (loop setup (fuel + 1) (m.goTo index) w = furtherTurns setup fuel looped ∧
        alone.Matches w w looped ∧
        looped.machine = alone.machine.goTo looped.machine.state.cursor ∧
        (looped.outcome = .done () → m.GoesTo setup i index looped.machine.state.cursor) ∧
        ((∃ f, looped.outcome = .failed f) → looped.machine.state.cursor = index)) ∧
      ∀ caller r place, m.Calls setup caller r index → m.processDepth < maxProcessDepth →
        let called := dispatch setup (fuel + 1) place caller m w
        alone.Matches w w called ∧ called.machine = alone.machine := by
  intro alone looped
  have halone : alone = _ := runAt_eq hf ha setup fuel w
  rw [halone]
  refine ⟨dispatch_cursor setup fuel index i m w, ?_, ?_⟩
  · obtain ⟨hmatches, hrest⟩ := turn_matches hf hp hc ha setup fuel w
    have hfetch : (m.goTo index).fetch? (m.goTo index).state.cursor = some i := hf
    exact ⟨loop_eq_turn hfetch setup fuel w,
      ⟨hmatches.outcome.map_left _, hmatches.database, hmatches.sent⟩, hrest⟩
  · intro caller r place hcalls hd called
    obtain ⟨hmatches, hmachine⟩ := dispatch_calls hcalls hf hc hd fuel place w
    exact ⟨⟨hmatches.outcome.map_left _, hmatches.database, hmatches.sent⟩, hmachine⟩

/-- A program that calls its other instruction, which sends a statement. -/
def calling : Program := Program.parse "!" "! process 1\n! capture select $0" "call"

/-- Each way the result is kept as a capture, and only the loop is at another address behind
it. -/
theorem capture_three_ways :
    let m : Machine := { program := some calling, state := { passed := [.int 7] } }
    let w : World Rehearsal := { database := .ofRules [] }
    let alone := runAt bare 3 1 [] [] m w
    let looped := turn bare 3 (m.goTo 1) w
    let called := dispatch bare 4 0 ⟨.process, Text.natText 1, some 1⟩ m w
    alone.machine.captures.length = 1 ∧ alone.machine.state.cursor = 0 ∧
      (loop bare 4 (m.goTo 1) w = loop bare 3 looped.machine looped.world ∧
        alone.Matches w w looped ∧ looped.machine = alone.machine.goTo 2) ∧
      (alone.Matches w w called ∧ called.machine = alone.machine) := by
  intro m w alone looped called
  obtain ⟨hstays, ⟨hturns, hmatches, hmachine, -, -⟩, hcalls⟩ :=
    addressed_three_ways bare 3 1 ⟨.capture, "select $0", some 2⟩ m w (by decide) rfl
      nofun rfl
  have hcursor : looped.machine.state.cursor = 2 := by decide +kernel
  rw [hcursor] at hmachine
  have hdone : looped.outcome.value? = some () := by decide +kernel
  refine ⟨by decide +kernel, hstays, ⟨?_, hmatches, hmachine⟩, ?_⟩
  · rw [hturns, furtherTurns_done (Outcome.value?_eq_some.mp hdone)]
  exact hcalls _ _ 0 (calls_written rfl (by decide) bare (some 1)) (by decide)

end Machine

end SqlScript
