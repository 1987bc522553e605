/-
SqlScript/Proofs/Session/Captures.lean

Captures come from a machine's own queries.

The trace of a run mixes the queries of the machine with those of the scripts that it
includes.  Which ones are its own can be told from the trace: right before a statement is sent
its instruction is noted, with the depth of includes at which that is carried out.  What the
database answered can be told too, because its state is known from the statements before.  So
the results that the machine *took* for itself are a function of the events
(`takenIn`).

What an instruction takes is what it adds to the captures and leaves as the last result
(`finish_tells`), and what an included script takes counts at a greater depth
(`execution_tells_nothing`).  Over a whole run, however it ends, the captures grow by the rows
of the results that `capture` took, in their order and each once, and the value of the run is
the last result of all (`captures_are_own`).
-/
import SqlScript.Proofs.Engine.Footprint

namespace SqlScript

/-! ### Results in a trace -/

/-- A result that a machine took for one of its instructions. -/
structure Taken where
  command : Command
  result : Resultset

variable {σ : Type} {client : Client σ} {depth : Nat} {s : σ}

/-- What was taken at a depth of includes, from an event and the one before it: a statement
was sent for an instruction carried out at this depth, and the database, in the state `s`,
answered with a result. -/
def taken? (client : Client σ) (depth : Nat) (s : σ) : Event → Option Event → Option Taken
  | .queried text args, some (.dispatched d) =>
    if d.includeDepth = depth then
      match (client.query text args s).1 with
      | .result rs => some ⟨d.instruction.command, rs⟩
      | _ => none
    else none
  | _, _ => none

/-- What was taken at a depth of includes, the oldest first.  The events are given as in a
trace, the newest first, and the database was in the state `s` before them. -/
def takenIn (client : Client σ) (depth : Nat) (s : σ) : List Event → List Taken
  | [] => []
  | e :: earlier =>
    takenIn client depth s earlier
      ++ (taken? client depth (client.after s (calls earlier)) e earlier.head?).toList

/-- The rows that are captured of what was taken. -/
def captured (taken : List Taken) : Captures :=
  (taken.filter fun t => t.command = .capture).map fun t => t.result.rows

/-- The last result of what was taken. -/
def lastTaken (taken : List Taken) : Option Resultset := taken.getLast?.map Taken.result

theorem taken?_of_silent {e : Event} (h : e.query? = none) (before : Option Event) :
    taken? client depth s e before = none := by
  cases e with
  | queried => cases h
  | _ => rfl

/-- The oldest of some events sends nothing, so that no statement is separated from the
instruction that sends it. -/
def Whole (es : List Event) : Prop := ∀ e, es.getLast? = some e → e.query? = none

theorem Whole.append {es es' : List Event} (h' : Whole es') (h : Whole es) :
    Whole (es' ++ es) := by
  intro e he
  rw [List.getLast?_append] at he
  rcases hlast : es.getLast? with - | e'
  · exact h' e (by simpa [hlast] using he)
  · exact h e (by simpa [hlast] using he)

/-- Events tell what the older and the newer ones among them tell. -/
theorem takenIn_append {es' : List Event} (h : Whole es') (es : List Event) :
    takenIn client depth s (es' ++ es)
      = takenIn client depth s es ++ takenIn client depth (client.after s (calls es)) es' := by
  induction es' with
  | nil => simp [takenIn]
  | cons e newer ih =>
    rcases newer with - | ⟨e', newer⟩
    · have hsilent : e.query? = none := h e rfl
      simp [takenIn, taken?_of_silent hsilent]
    · have hnewer : Whole (e' :: newer) := by
        intro x hx
        exact h x (by simpa using hx)
      rw [List.cons_append, takenIn, ih hnewer, calls_append, Client.after_append,
        List.append_assoc, takenIn]
      rfl

theorem takenIn_of_silent {es : List Event} (h : ∀ e ∈ es, e.query? = none) :
    takenIn client depth s es = [] := by
  induction es with
  | nil => rfl
  | cons e earlier ih =>
    rw [List.forall_mem_cons] at h
    rw [takenIn, ih h.2, taken?_of_silent h.1]
    rfl

/-- What an instruction and its statement tell. -/
theorem takenIn_pair (text : String) (args : List Value) (d : Dispatch) :
    takenIn client depth s [.queried text args, .dispatched d]
      = (taken? client depth s (.queried text args) (some (.dispatched d))).toList := rfl

theorem captured_append (taken taken' : List Taken) :
    captured (taken ++ taken') = captured taken ++ captured taken' := by
  simp [captured]

theorem lastTaken_append (taken taken' : List Taken) :
    lastTaken (taken ++ taken') = (lastTaken taken').or (lastTaken taken) := by
  simp only [lastTaken, List.getLast?_append]
  rcases taken'.getLast? with - | t
  · rfl
  · rfl

/-! ### Worlds that follow one another -/

/-- `w'` comes after `w`, the database got exactly the statements of the events since, and these
events tell what was taken at a depth of includes. -/
def World.Tells (client : Client σ) (depth : Nat) (w w' : World σ) (taken : List Taken) : Prop :=
  ∃ es, w'.trace = es ++ w.trace ∧ w'.database = client.after w.database (calls es) ∧ Whole es ∧
    takenIn client depth w.database es = taken

namespace World

variable {w w₁ w₂ w₃ : World σ} {taken taken' : List Taken}

theorem Follows.tells (h : Follows client (fun e => e.query? = none) w₁ w₂) (depth : Nat) :
    Tells client depth w₁ w₂ [] := by
  obtain ⟨es, ht, hd, hsilent⟩ := h
  exact ⟨es, ht, hd, fun e he => hsilent e (List.mem_of_getLast? he), takenIn_of_silent hsilent⟩

theorem tells_note (w : World σ) {e : Event} (h : e.query? = none) (depth : Nat) :
    Tells client depth w (w.note e) [] := (follows_note w h h).tells depth

theorem Tells.refl (w : World σ) : Tells client depth w w [] := (Follows.refl w).tells depth

theorem Tells.trans (h : Tells client depth w₁ w₂ taken) (h' : Tells client depth w₂ w₃ taken') :
    Tells client depth w₁ w₃ (taken ++ taken') := by
  obtain ⟨es, ht, hd, hwhole, rfl⟩ := h
  obtain ⟨es', ht', hd', hwhole', rfl⟩ := h'
  refine ⟨es' ++ es, ?_, ?_, hwhole'.append hwhole, ?_⟩
  · rw [ht', ht, List.append_assoc]
  · rw [hd', hd, calls_append, Client.after_append]
  · rw [takenIn_append hwhole', hd]

end World

namespace Machine

variable {setup : Setup σ} {m : Machine} {w : World σ} {i : Instruction} {r : Resolved}
variable {index : Nat} {ended : Result σ (Option Nat)}

/-! ### One instruction -/

/-- A machine after it took some results: the rows of captures are behind the older ones, and
the last result of all is kept. -/
structure Took (taken : List Taken) (m m' : Machine) : Prop where
  captures : m'.captures = m.captures ++ captured taken
  last : m'.state.last = (lastTaken taken).or m.state.last

theorem Took.nothing {m' : Machine} (hc : m'.captures = m.captures)
    (hl : m'.state.last = m.state.last) : Took [] m m' :=
  ⟨hc.trans (List.append_nil _).symm, hl⟩

theorem Took.trans {taken taken' : List Taken} {m₁ m₂ m₃ : Machine} (h : Took taken m₁ m₂)
    (h' : Took taken' m₂ m₃) : Took (taken ++ taken') m₁ m₃ where
  captures := by rw [h'.captures, h.captures, captured_append, List.append_assoc]
  last := by rw [h'.last, h.last, lastTaken_append, Option.or_assoc]

theorem took_absorb (c : Command) (m : Machine) (rs : Resultset) :
    Took [⟨c, rs⟩] m (m.absorb c rs) := by
  cases c with
  | capture => exact ⟨rfl, rfl⟩
  | _ => exact ⟨(List.append_nil _).symm, rfl⟩

/-- A query takes the result that it gets, at the depth of its machine and at no other. -/
theorem query_tells (depth index : Nat) :
    ∃ taken, World.Tells setup.client depth w
        (m.query setup i.command r (m.begun index i r w)).world taken ∧
      (depth ≠ m.depth → taken = []) ∧
      (depth = m.depth →
        Took taken m (m.query setup i.command r (m.begun index i r w)).machine) := by
  refine ⟨_, ⟨[.queried r.text r.args, m.dispatchEvent index i r], ?_, ?_, ?_, rfl⟩, ?_, ?_⟩
  · rw [query]
    split <;> rfl
  · rw [query]
    split <;> rfl
  · rintro e ⟨⟩
    rfl
  · intro hd
    rw [dispatchEvent, takenIn_pair, taken?, if_neg (Ne.symm hd)]
    rfl
  · rintro rfl
    have hdatabase : (m.begun index i r w).database = w.database := rfl
    rw [dispatchEvent, takenIn_pair, taken?, if_pos rfl, query, hdatabase]
    rcases (setup.client.query r.text r.args w.database).1 with rs | message | message
    · exact took_absorb i.command m rs
    · exact .nothing rfl rfl
    · exact .nothing rfl rfl

theorem plan_query {c : Command} (hc : c.isQuery = true) (r : Resolved) (m : Machine)
    (w : World σ) : m.plan setup c r w = .finish (m.query setup c r w) := by
  cases c with
  | execute | capture | replace | declare | storage => rfl
  | _ => cases hc

/-- **One instruction** that ends by itself: what its events tell is what it took. -/
theorem finish_tells (depth : Nat)
    (hp : m.plan setup i.command r (m.begun index i r w) = .finish ended) :
    ∃ taken, World.Tells setup.client depth w ended.world taken ∧
      (depth ≠ m.depth → taken = []) ∧ (depth = m.depth → Took taken m ended.machine) := by
  rcases hq : i.command.isQuery with - | -
  · have hnone : ∀ c : Command, c.isQuery = true → c ≠ i.command := by
      rintro c hc rfl
      rw [hq] at hc
      cases hc
    have hchanged := (planned_of_eq hp).changedBy
    have hsilent := (planned_of_eq hp).follows (P := fun e => e.query? = none) (fun _ h => h)
      (fun hc => absurd rfl (hnone _ hc))
    have hbegun : World.Tells setup.client depth w (m.begun index i r w) [] :=
      World.tells_note w rfl depth
    exact ⟨[], hbegun.trans (hsilent.tells depth), fun _ => rfl,
      fun _ => .nothing (hchanged.captures (hnone .capture rfl)) (hchanged.last hnone)⟩
  · rw [plan_query hq] at hp
    obtain rfl := Plan.finish.inj hp
    exact query_tells depth index

/-! ### Included scripts -/

/-- Until an included script is entered, nothing is sent. -/
theorem enter_tells (depth : Nat) {program : Program} {w' : World σ}
    (hp : m.plan setup i.command r (m.begun index i r w) = .enter program w') :
    World.Tells setup.client depth w w' [] := by
  cases planned_of_eq hp with
  | enter _ _ hs =>
    have hread := including_follows (P := fun e => e.query? = none) (fun _ h => h) hs
    exact (World.tells_note w rfl depth).trans (hread.tells depth)

/-- At a depth above that of the machine nothing is taken, neither by the machine itself nor by
the scripts that it includes. -/
theorem execution_tells_nothing (setup : Setup σ) (depth : Nat) :
    (∀ fuel index i m w, depth < m.depth →
      World.Tells setup.client depth w (dispatch setup fuel index i m w).world []) ∧
    ∀ fuel m w, depth < m.depth →
      World.Tells setup.client depth w (loop setup fuel m w).world [] := by
  apply execution_induction
    (D := fun _ _ _ m w ended => depth < m.depth → World.Tells setup.client depth w ended.world [])
    (L := fun _ m w ended => depth < m.depth → World.Tells setup.client depth w ended.world [])
  case exhausted => exact fun _ _ _ w _ => .refl w
  case skipped => exact fun _ _ _ _ w _ _ => World.tells_note w rfl depth
  case unresolved => exact fun _ _ _ _ w _ _ _ _ => .refl w
  case finish =>
    intro fuel index i m w r ended _ hp hd
    obtain ⟨taken, htells, hnone, -⟩ := finish_tells depth hp
    obtain rfl := hnone (Nat.ne_of_lt hd)
    exact htells
  case call =>
    intro fuel index i m w r target called args _ _ ih hd
    exact (World.tells_note w rfl depth).trans (ih hd)
  -- the included script is one level further in
  case enter =>
    intro fuel index i m w r program w' _ hp ih hd
    exact (enter_tells depth hp).trans (ih (Nat.lt_succ_of_lt hd))
  case halted => exact fun _ w _ => .refl w
  case ended => exact fun _ _ w _ _ => .refl w
  case passive => exact fun _ _ _ _ _ _ ih hd => ih hd
  case cutOff => exact fun _ _ _ _ _ _ _ _ ih _ hd => ih hd
  case failed => exact fun _ _ _ _ _ _ _ _ _ ih _ hd => ih hd
  case next =>
    rintro fuel m w i e m' _ _ rfl ih _ rfl ihL hd
    have hdepth := (dispatch_framed setup fuel m.state.cursor i m w).depth
    exact (ih hd).trans (ihL (Nat.lt_of_lt_of_eq hd hdepth.symm))
  case jump =>
    rintro fuel m w i e m' w' target _ _ rfl ih _ rfl rfl ihL hd
    have hdepth := (dispatch_framed setup fuel m.state.cursor i m w).depth
    have hnext := ihL (Nat.lt_of_lt_of_eq hd hdepth.symm)
    exact ((ih hd).trans (World.tells_note _ rfl depth)).trans hnext

/-! ### Runs -/

/-- What becomes of a machine is what its events tell, at its own depth. -/
def Accounts (client : Client σ) (m : Machine) (w : World σ) (m' : Machine) (w' : World σ) :
    Prop :=
  m'.depth = m.depth ∧ ∃ taken, World.Tells client m.depth w w' taken ∧ Took taken m m'

theorem Accounts.nothing {m' : Machine} {w' : World σ} (hd : m'.depth = m.depth)
    (hc : m'.captures = m.captures) (hl : m'.state.last = m.state.last)
    (hw : World.Tells setup.client m.depth w w' []) : Accounts setup.client m w m' w' :=
  ⟨hd, [], hw, .nothing hc hl⟩

theorem evolution_accounts (setup : Setup σ) (p : Program) :
    Evolution setup p (Accounts setup.client) where
  refl m w := .nothing rfl rfl rfl (.refl w)
  trans := by
    rintro m₁ w₁ m₂ w₂ m₃ w₃ ⟨hd, taken, htells, htook⟩ ⟨hd', taken', htells', htook'⟩
    rw [hd] at htells'
    exact ⟨hd'.trans hd, taken ++ taken', htells.trans htells', htook.trans htook'⟩
  goTo m w _ := .nothing rfl rfl rfl (.refl w)
  jumped m w _ _ := .nothing rfl rfl rfl (World.tells_note w rfl _)
  skipped m w _ _ := .nothing rfl rfl rfl (World.tells_note w rfl _)
  finish {m w index i r ended} _ _ hp := by
    obtain ⟨taken, htells, -, htook⟩ := finish_tells m.depth hp
    exact ⟨(planned_of_eq hp).framed.depth, taken, htells, htook rfl⟩
  call {m w index i r target called args} _ _ _ := by
    have hchanged := changedBy_entered m args
    exact .nothing rfl (hchanged.captures nofun) (hchanged.last (by rintro c hc rfl; cases hc))
      (World.tells_note w rfl _)
  counted m w _ := .nothing rfl rfl rfl (.refl w)
  enter {m w index i r program w'} fuel _ _ hp := by
    have hrun := (execution_tells_nothing setup m.depth).2 fuel (m.child program r.args) w'
      (Nat.lt_succ_self _)
    exact .nothing rfl rfl rfl ((enter_tells m.depth hp).trans hrun)

/-- A run accounts for itself, from the state that it starts with. -/
theorem run_accounts (setup : Setup σ) (fuel : Nat) (program : Option Program)
    (args : List Value) (custom : Bindings) (origin : Option CallSite) (m : Machine)
    (w : World σ) :
    let after := run setup fuel program args custom origin m w
    ∃ taken, World.Tells setup.client m.depth w after.world taken ∧
      after.machine.captures = m.captures ++ captured taken ∧
      ∀ v, after.outcome = .done v → v = lastTaken taken := by
  intro after
  rcases run_begins_or_idle σ program origin m with ⟨p, hp, hv, hz⟩ | ⟨f, m', -, hc, hidle⟩
  · obtain ⟨-, taken, htells, htook⟩ :=
      (evolution_accounts setup p).run hp hv hz fuel args custom origin w
    refine ⟨taken, htells, htook.captures, ?_⟩
    intro v ho
    have hlast := htook.last
    simp only [after] at ho
    rw [run_eq_loop hp hv hz] at ho hlast
    obtain ⟨-, -, rfl⟩ := Outcome.map_eq_done.mp ho
    exact hlast.trans Option.or_none
  -- a run that does not begin fails, and takes nothing
  · simp only [after, hidle]
    exact ⟨[], .refl w, hc.trans (List.append_nil _).symm, nofun⟩

theorem runAt_accounts (setup : Setup σ) (fuel : Nat) (index : Int) (args : List Value)
    (custom : Bindings) (m : Machine) (w : World σ) :
    let after := runAt setup fuel index args custom m w
    ∃ taken, World.Tells setup.client m.depth w after.world taken ∧
      after.machine.captures = m.captures ++ captured taken ∧
      ∀ v, after.outcome = .done v →
        v = (lastTaken taken).or m.state.last ∨ v = none ∧ after.world = w := by
  intro after
  rcases hf : m.fetch? index with - | i
  · have hafter : after = ⟨.done none, m, w⟩ := by simp only [after, runAt, hf]
    rw [hafter]
    exact ⟨[], .refl w, (List.append_nil _).symm,
      fun v ho => .inr ⟨(Outcome.done.inj ho).symm, rfl⟩⟩
  rcases ha : (m.withParameters args custom).admits i.command with - | -
  · have hafter : after = ⟨.done none, m.withParameters args custom, w⟩ := by
      simp [after, runAt, hf, ha]
    rw [hafter]
    exact ⟨[], .refl w, (List.append_nil _).symm,
      fun v ho => .inr ⟨(Outcome.done.inj ho).symm, rfl⟩⟩
  rcases hm : m.program with - | p
  · simp [fetch?, hm] at hf
  obtain ⟨-, taken, htells, htook⟩ := (evolution_accounts setup p).dispatch fuel index.toNat i
    (m.withParameters args custom) w hm (mem_of_fetch? hm hf)
  simp only [after, runAt, hf, ha, if_true]
  refine ⟨taken, htells, htook.captures, ?_⟩
  intro v ho
  obtain ⟨-, -, rfl⟩ := Outcome.map_eq_done.mp ho
  exact .inl htook.last

/-- **Captures and results are a machine's own.**  Take any machine, whatever was done with it
before, and let it run a program or carry out an instruction by its address.  However that
ends, the events since tell what the machine took for itself, at its own depth of includes.
The captures are those of before and then the rows of every result that `capture` took, in
their order.  A run that is done gives the last result that it took, if it took any.  An
instruction that is carried out by its address gives the last result as well, which may be one
of before; if there is none to carry out, nothing happens and it gives nothing. -/
theorem captures_are_own (setup : Setup σ) (fuel : Nat) (args : List Value) (custom : Bindings)
    (m : Machine) (w : World σ) :
    (∀ program origin,
      let after := run setup fuel program args custom origin m w
      ∃ events, after.world.trace = events ++ w.trace ∧
        after.world.database = setup.client.after w.database (calls events) ∧
        after.machine.captures
          = m.captures ++ captured (takenIn setup.client m.depth w.database events) ∧
        ∀ v, after.outcome = .done v →
          v = lastTaken (takenIn setup.client m.depth w.database events)) ∧
    ∀ index,
      let after := runAt setup fuel index args custom m w
      ∃ events, after.world.trace = events ++ w.trace ∧
        after.world.database = setup.client.after w.database (calls events) ∧
        after.machine.captures
          = m.captures ++ captured (takenIn setup.client m.depth w.database events) ∧
        ∀ v, after.outcome = .done v →
          v = (lastTaken (takenIn setup.client m.depth w.database events)).or m.state.last ∨
            v = none ∧ after.world = w := by
  constructor
  · intro program origin after
    obtain ⟨taken, ⟨events, ht, hd, -, rfl⟩, hcaptures, hvalue⟩ :=
      run_accounts setup fuel program args custom origin m w
    exact ⟨events, ht, hd, hcaptures, hvalue⟩
  · intro index after
    obtain ⟨taken, ⟨events, ht, hd, -, rfl⟩, hcaptures, hvalue⟩ :=
      runAt_accounts setup fuel index args custom m w
    exact ⟨events, ht, hd, hcaptures, hvalue⟩

/-- A script that captures twice, once through a call. -/
def capturing : Setup Rehearsal where
  client := .ofStyle .qmark Rehearsal.query
  source := (Scripts.ofList [("part", "! capture select 1\n! process 0")]).toSource

/-- Of four queries two are the machine's own, one of them made through a call: the other two
are those of the script that it includes. -/
example :
    let p : Program :=
      { source := "main"
        instructions :=
          [⟨.process, "2", none⟩, ⟨.include, "part", none⟩, ⟨.capture, "select 2", none⟩] }
    let after := run capturing 99 (some p) [] [] none {} { database := .ofRules [] }
    (calls after.world.trace).length = 4 ∧
      (takenIn capturing.client 0 (.ofRules []) after.world.trace).length = 2 ∧
      after.machine.captures.length = 2 := by
  with_unfolding_all decide

end Machine

end SqlScript
