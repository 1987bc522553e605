/-
SqlScript/Proofs/Engine/Trace.lean

Worlds that follow one another.

A world follows another one if events were added to its trace and the database got the
statements of these events, in their order, and no others.  So the trace of a run is no
mere record beside it: it accounts for every state of the database
(`World.Follows`).  Each event that was added may have to keep a rule.
-/
import SqlScript.Proofs.Engine.Plan

namespace SqlScript

/-- The statements that events send, with the values they bind, the oldest first.  The
events are given as in a trace, the newest first. -/
def calls (events : List Event) : List (String × List Value) :=
  events.reverse.filterMap Event.query?

@[simp] theorem calls_append (es es' : List Event) : calls (es ++ es') = calls es' ++ calls es := by
  simp [calls]

theorem mem_calls {call : String × List Value} {es : List Event} :
    call ∈ calls es ↔ ∃ e ∈ es, e.query? = some call := by
  simp [calls]

/-- The state of a database after some statements were sent to it. -/
def Client.after {σ : Type} (client : Client σ) (s : σ) (sent : List (String × List Value)) : σ :=
  sent.foldl (fun s call => (client.query call.1 call.2 s).2) s

@[simp] theorem Client.after_append {σ : Type} (client : Client σ) (s : σ)
    (sent sent' : List (String × List Value)) :
    client.after s (sent ++ sent') = client.after (client.after s sent) sent' := by
  simp [Client.after]

/-- `w'` comes after `w`: events were added that keep the rule `P`, and the database got
exactly the statements of these events. -/
def World.Follows {σ : Type} (client : Client σ) (P : Event → Prop) (w w' : World σ) : Prop :=
  ∃ es, w'.trace = es ++ w.trace ∧ w'.database = client.after w.database (calls es) ∧
    ∀ e ∈ es, P e

namespace World

variable {σ : Type} {client : Client σ} {P : Event → Prop}

theorem Follows.refl (w : World σ) : Follows client P w w :=
  ⟨[], rfl, rfl, by simp⟩

theorem Follows.trans {w₁ w₂ w₃ : World σ} (h : Follows client P w₁ w₂)
    (h' : Follows client P w₂ w₃) : Follows client P w₁ w₃ := by
  obtain ⟨es, ht, hd, hP⟩ := h
  obtain ⟨es', ht', hd', hP'⟩ := h'
  refine ⟨es' ++ es, ?_, ?_, ?_⟩
  · rw [ht', ht, List.append_assoc]
  · rw [hd', hd, calls_append, Client.after_append]
  · intro e he
    rcases List.mem_append.mp he with he | he
    · exact hP' e he
    · exact hP e he

/-- Where nothing may be sent, the database is the same. -/
theorem Follows.database_eq {w w' : World σ} (h : Follows client P w w')
    (hP : ∀ e, P e → e.query? = none) : w'.database = w.database := by
  obtain ⟨es, -, hd, hrule⟩ := h
  have hnone : calls es = [] :=
    List.filterMap_eq_nil_iff.mpr fun e he => hP e (hrule e (List.mem_reverse.mp he))
  rw [hd, hnone]
  rfl

/-- An event that sends nothing leaves the database alone. -/
theorem follows_note (w : World σ) {e : Event} (hq : e.query? = none) (hP : P e) :
    Follows client P w (w.note e) := by
  refine ⟨[e], rfl, ?_, by simpa using hP⟩
  simp [note, calls, hq, Client.after]

theorem follows_noteAll (w : World σ) {es : List Event} (hq : ∀ e ∈ es, e.query? = none)
    (hP : ∀ e ∈ es, P e) : Follows client P w (w.noteAll es) := by
  induction es generalizing w with
  | nil => exact .refl w
  | cons e es ih =>
    have first : Follows client P w (w.note e) :=
      follows_note w (hq e (by simp)) (hP e (by simp))
    exact first.trans (ih (w.note e) (fun e he => hq e (by simp [he]))
      fun e he => hP e (by simp [he]))

end World

/-! ### Reading scripts -/

namespace Machine

variable {σ : Type} {setup : Setup σ} {P : Event → Prop}

/-- A rule that allows every event by which nothing is sent. -/
def AllowsSilence (P : Event → Prop) : Prop := ∀ e : Event, e.query? = none → P e

theorem readText_follows (hP : AllowsSilence P) (text source : String) (w : World σ) :
    World.Follows setup.client P w (readText setup text source w).2 := by
  have dropped : World.Follows setup.client P w
      (w.noteAll ((Program.unknownKeywords (Program.readings setup.marker text)).map
        fun d => .dropped d.1 (some d.2))) := by
    apply World.follows_noteAll
    · intro e he
      obtain ⟨d, -, rfl⟩ := List.mem_map.mp he
      rfl
    · intro e he
      obtain ⟨d, -, rfl⟩ := List.mem_map.mp he
      exact hP _ rfl
  -- what was dropped is noted in any case, what was loaded only of a good program
  rw [readText]
  split
  · exact dropped
  · exact dropped.trans (World.follows_note _ rfl (hP _ rfl))

theorem readScript_follows (hP : AllowsSilence P) (name : String) (w : World σ) :
    World.Follows setup.client P w (readScript setup name w).2 := by
  have requested : World.Follows setup.client P w (w.note (.requested name)) :=
    World.follows_note w rfl (hP _ rfl)
  rw [readScript]
  split
  · exact requested
  · exact requested.trans (readText_follows hP _ _ _)

/-- Reading a script for an include sends nothing. -/
theorem including_follows (hP : AllowsSilence P) {name : String} {depth : Nat} {w w' : World σ}
    {read : Except Failure Program}
    (h : readScript setup name (w.note (.including name depth)) = (read, w')) :
    World.Follows setup.client P w w' := by
  have including : World.Follows setup.client P w (w.note (.including name depth)) :=
    World.follows_note w rfl (hP _ rfl)
  have reading := including.trans (readScript_follows hP name _)
  rwa [h] at reading

/-- A text that is read is the program of its lines, and that keeps the rule of
programs. -/
theorem readText_eq_ok {text source : String} {w w' : World σ} {program : Program}
    (h : readText setup text source w = (.ok program, w')) :
    program = Program.parse setup.marker text source ∧ program.error? = none := by
  rw [readText] at h
  split at h
  · cases h
  · next hv =>
    cases h
    exact ⟨rfl, hv⟩

theorem readScript_eq_ok {name : String} {w w' : World σ} {program : Program}
    (h : readScript setup name w = (.ok program, w')) :
    ∃ text, setup.source name = .ok text ∧ program = Program.parse setup.marker text name ∧
      program.error? = none := by
  rw [readScript, Source.fetch] at h
  rcases hs : setup.source name with f | text
  · simp [hs] at h
  · simp only [hs] at h
    exact ⟨text, rfl, readText_eq_ok h⟩

/-! ### Queries and other instructions -/

/-- A query sends its statement with its values, once. -/
theorem query_follows (c : Command) (r : Resolved) (m : Machine) (w : World σ)
    (hP : P (.queried r.text r.args)) :
    World.Follows setup.client P w (m.query setup c r w).world := by
  refine ⟨[.queried r.text r.args], ?_, ?_, by simpa using hP⟩
  · rw [query]
    split <;> rfl
  · rw [query]
    split <;> rfl

theorem missTarget_follows (hP : AllowsSilence P) (target : Int) (m : Machine) (w : World σ) :
    World.Follows setup.client P w (m.missTarget setup target w).world := by
  have noted : World.Follows setup.client P w (w.note (.noTarget target)) :=
    World.follows_note w rfl (hP _ rfl)
  rw [missTarget]
  split
  · exact noted
  · split
    · exact .refl w
    · exact noted

/-- An instruction that ends by itself sends nothing, unless it is a query. -/
theorem Performed.follows {c : Command} {r : Resolved} {m : Machine} {w : World σ}
    {ended : Result σ (Option Nat)} (h : Performed setup c r m w ended)
    (hP : c.isQuery = true → P (.queried r.text r.args)) :
    World.Follows setup.client P w ended.world := by
  cases h with
  | queried hc => exact query_follows c r m w (hP hc)
  | decided | undecided | jumped | lost | set | unset | examined => exact .refl w

theorem Planned.follows {c : Command} {r : Resolved} {m : Machine} {w : World σ}
    {ended : Result σ (Option Nat)} (hS : AllowsSilence P)
    (h : Planned setup c r m w (.finish ended))
    (hP : c.isQuery = true → P (.queried r.text r.args)) :
    World.Follows setup.client P w ended.world := by
  cases h with
  | performed _ _ h => exact h.follows hP
  | noTarget => exact missTarget_follows hS _ m w
  | unread _ _ hs => exact including_follows hS hs
  | noCommands _ _ hs => exact including_follows hS hs
  | noAddress | callTooDeep | noName => exact .refl w

end Machine

end SqlScript
