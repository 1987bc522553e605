/-
SqlScript/Proofs/Engine/Escapes.lean

What leaves a run without being an error of a script.

A run turns what goes wrong in it into errors, but not all of it.  With a client and a source
that answer, the only faults left are those of numbers: an infinite number as an address, an
integer with too many digits, a result beyond binary64.  A fault passes all frames as it is,
so it goes back to one instruction that is carried out within the run, and that instruction
handles numbers: it evaluates a condition, takes its address from a bound value, has a
position of too many digits, or is an include under a limit that cannot be written
(`run_escapes_only_numbers`).  Scripts without such instructions have no escapes at all.
-/
import SqlScript.Client.Style
import SqlScript.Proofs.Engine.Failures

namespace SqlScript

/-- A client that answers every statement, with rows or with an error. -/
def Client.Answers {σ : Type} (client : Client σ) : Prop :=
  ∀ text args s message, (client.query text args s).1 ≠ .crash message

/-- A source that has a script or says that it cannot be loaded. -/
def Source.Answers (source : Source) : Prop := ∀ name f, source name ≠ .error (.fault f)

theorem Scripts.answers (scripts : Scripts) : scripts.toSource.Answers := by
  intro name f h
  rw [toSource] at h
  split at h
  · cases h
  · cases h

namespace Machine

variable {σ : Type} {setup : Setup σ} {m : Machine} {i : Instruction} {r : Resolved}
variable {a : Activity σ} {g : Fault}

/-- The faults of an instruction are those of numbers. -/
theorem Raised.eq_number (hc : setup.client.Answers) (hs : setup.source.Answers)
    (h : Raised setup m i r (.fault g)) :
    (∃ f, g = .number f) ∧ i.HandlesNumbers setup.maxIncludeDepth := by
  generalize hg : Failure.fault g = failure at h
  cases h with
  | own _ hown =>
    cases hown with
    | error => cases hg
    | @number f hnumbers =>
      cases hg
      exact ⟨⟨f, rfl⟩, hnumbers⟩
  | examined => cases hg
  | crashed hq => exact absurd hq (hc _ _ _ _)
  | @unread name f _ hsource =>
    cases f with
    | fault f => exact absurd hsource (hs name f)
    | error e =>
      -- whatever the error of the source is, it stays an error
      simp only [Failure.attach, includeFailure] at hg
      split at hg <;> cases hg
  | invalid => cases hg
  | empty => cases hg

/-- Only carrying out an instruction can break with a fault. -/
theorem Breaks.eq_number (hc : setup.client.Answers) (hs : setup.source.Answers)
    (h : Breaks setup a (.fault g)) :
    (∃ f, g = .number f) ∧
      ∃ fuel index i m w, a = .dispatch fuel index i m w ∧
        i.HandlesNumbers setup.maxIncludeDepth := by
  generalize hg : Failure.fault g = failure at h
  cases h with
  | refused => cases hg
  | idle => cases hg
  | @unresolved fuel index i m w f _ hresolve =>
    cases hg
    exact ⟨⟨f, rfl⟩, _, _, i, m, w, rfl, handlesNumbers_of_unresolved hresolve _⟩
  | @alone fuel index i m w r f hfails =>
    cases f with
    | error e => cases hg
    | fault f =>
      cases hg
      obtain ⟨hnumber, hi⟩ := hfails.raised.eq_number hc hs
      exact ⟨hnumber, _, _, i, m, w, rfl, hi⟩

/-- A fault passes all frames as it is. -/
theorem Broken.exists_fault (h : Broken setup a (.fault g)) :
    ∃ frames b, Within setup a frames b ∧ Breaks setup b (.fault g) := by
  obtain ⟨frames, b, f₀, hin, hb, hf⟩ := h
  cases f₀ with
  | error e => cases hf
  | fault f =>
    cases hf
    exact ⟨frames, b, hin, hb⟩

/-- **Only numbers escape from a run.**  With a client and a source that answer, a run is
cut off, or it is done, or it fails with an error, or it fails with a fault of numbers.  In
the last case a program that the run reaches has an instruction that handles numbers. -/
theorem run_escapes_only_numbers (setup : Setup σ) (fuel : Nat) (program : Option Program)
    (args : List Value) (custom : Bindings) (origin : Option CallSite) (m : Machine)
    (w : World σ) (hc : setup.client.Answers) (hs : setup.source.Answers) :
    (run setup fuel program args custom origin m w).outcome = .cutOff ∨
    (∃ v, (run setup fuel program args custom origin m w).outcome = .done v) ∨
    (∃ e, (run setup fuel program args custom origin m w).outcome = .failed (.error e)) ∨
    ∃ f top p i,
      (run setup fuel program args custom origin m w).outcome = .failed (.fault (.number f)) ∧
      (program <|> m.program) = some top ∧
      top.Reaches setup.source setup.marker setup.client.bindMarker p ∧
      i ∈ p.instructions ∧ i.HandlesNumbers setup.maxIncludeDepth := by
  rcases ho : (run setup fuel program args custom origin m w).outcome with v | (e | g) | -
  · exact .inr (.inl ⟨v, rfl⟩)
  · exact .inr (.inr (.inl ⟨e, rfl⟩))
  · -- the fault is that of an instruction within the run
    have hrun : (Activity.run fuel program args custom origin m w).failure? setup
        = some (.fault g) := Outcome.failure?_eq_some.mpr ho
    obtain ⟨frames, b, hin, hb⟩ := Broken.exists_fault (failure?_eq_some_iff.mp hrun)
    obtain ⟨⟨f, rfl⟩, k, index, i, m', w', rfl, hi⟩ := hb.eq_number hc hs
    obtain ⟨top, htop⟩ := hin.exists_top
    obtain ⟨p, -, hreach, hget⟩ := hin.placed htop
    exact .inr (.inr (.inr ⟨f, top, p, i, rfl, htop, hreach, mem_of_get? hget, hi⟩))
  · exact .inl rfl

/-- A database without rows, and no scripts. -/
def vacant : Setup Unit where
  client := .ofStyle .qmark fun _ _ s => (.result { rowcount := 0 }, s)
  source := (Scripts.ofList []).toSource

theorem vacant_client_answers : vacant.client.Answers := by
  intro text args s message h
  cases h

theorem vacant_source_answers : vacant.source.Answers := Scripts.answers (Scripts.ofList [])

/-- A program that jumps to an address that is handed over. -/
def jumpToArgument : Program := Program.parse "!" "! forward $0" "main"

/-- The address is infinite, and the jump fails by itself. -/
theorem jumpToArgument_infinite :
    (run vacant 100 (some jumpToArgument) [.float (.infinite false)] [] none {}
      { database := () }).outcome = .failed (.fault (.number .infiniteFloat)) := by
  have parsed : Template.parse "$0".toList = ⟨[], [(.positional ['0'], [])]⟩ := by with_unfolding_all decide
  have resolved : resolve "$0" [.float (.infinite false)] [] "?"
      = .ok ⟨"?", [.float (.infinite false)], "$0"⟩ := by
    rw [resolve, parsed]
    rfl
  have hin : Within vacant
      (.run 100 (some jumpToArgument) [.float (.infinite false)] [] none {} { database := () }) []
      (.dispatch 99 0 ⟨.forward, "$0", some 1⟩
        (launched {} jumpToArgument [.float (.infinite false)] [] none) { database := () }) :=
    .inside (.start_valid rfl (by decide) ..) (.inside (.turn rfl rfl) (.self _))
  have hfails : FailsAlone vacant 0 ⟨.forward, "$0", some 1⟩
      (launched {} jumpToArgument [.float (.infinite false)] [] none) { database := () }
      ⟨"?", [.float (.infinite false)], "$0"⟩ (.fault (.number .infiniteFloat)) :=
    ⟨⟨rfl, resolved⟩, _, rfl, rfl⟩
  exact Outcome.failure?_eq_some.mp (hin.failure? (Breaks.alone hfails).failure?)

theorem jumpToArgument_escapes_at_number :
    ∃ f p i,
      (run vacant 100 (some jumpToArgument) [.float (.infinite false)] [] none {}
        { database := () }).outcome = .failed (.fault (.number f)) ∧
      jumpToArgument.Reaches vacant.source vacant.marker vacant.client.bindMarker p ∧
      i ∈ p.instructions ∧ i.HandlesNumbers vacant.maxIncludeDepth := by
  obtain h | ⟨v, h⟩ | ⟨e, h⟩ | ⟨f, top, p, i, hf, htop, hreach, hi, hnumbers⟩ :=
    run_escapes_only_numbers vacant 100 (some jumpToArgument) [.float (.infinite false)] [] none {}
      { database := () } vacant_client_answers vacant_source_answers
  · cases jumpToArgument_infinite.symm.trans h
  · cases jumpToArgument_infinite.symm.trans h
  · cases jumpToArgument_infinite.symm.trans h
  · obtain rfl : jumpToArgument = top := Option.some.inj htop
    exact ⟨f, p, i, hf, hreach, hi, hnumbers⟩

/-- Client and source answer, and yet the run ends with no error of a script. -/
theorem jumpToArgument_escapes :
    vacant.client.Answers ∧ vacant.source.Answers ∧
      ∃ f, (run vacant 100 (some jumpToArgument) [.float (.infinite false)] [] none {}
        { database := () }).outcome = .failed (.fault f) :=
  ⟨vacant_client_answers, vacant_source_answers, _, jumpToArgument_infinite⟩

end Machine

end SqlScript
