/-
SqlScript/Proofs/Engine/Skipping.lean

What happens while the gate is closed.

A loop passes by every instruction that the gate does not let through (`exists_passed`).  Its
statement is not resolved and its operands are not read, so it does not matter what it asks
for and whether it could be carried out.  Only guards are let through.  So a loop with its
gate closed comes to the next guard, or to the end if there is none, and all that has
happened until then is that the cursor moved and the trace has a note of what was skipped
(`closed_gate_inert`).
-/
import SqlScript.Proofs.Engine.Cursor

namespace SqlScript

/-! ### The next guard -/

/-- The first address from `i` on that has a guard is `j`, or `j` is the end and there is no
guard. -/
structure Program.NextGuard (p : Program) (i j : Nat) : Prop where
  ahead : i ≤ j
  inside : j ≤ p.size
  between : ∀ n instruction, i ≤ n → n < j → p.instructions[n]? = some instruction →
    instruction.command.isGuard = false
  found : ∀ instruction, p.instructions[j]? = some instruction →
    instruction.command.isGuard = true

/-- What is no guard is passed over. -/
theorem Program.NextGuard.of_succ {p : Program} {i j : Nat} {instruction : Instruction}
    (h : p.NextGuard (i + 1) j) (hget : p.instructions[i]? = some instruction)
    (hguard : instruction.command.isGuard = false) : p.NextGuard i j where
  ahead := Nat.le_of_succ_le h.ahead
  inside := h.inside
  between := by
    intro n other hle hlt hother
    rcases Nat.eq_or_lt_of_le hle with rfl | hlt'
    · rw [hget] at hother
      obtain rfl := Option.some.inj hother
      exact hguard
    · exact h.between n other hlt' hlt hother
  found := h.found

theorem Program.exists_nextGuard (p : Program) {i : Nat} (h : i ≤ p.size) :
    ∃ j, p.NextGuard i j := by
  -- from the end of the program back to `i`
  induction hn : p.size - i generalizing i with
  | zero =>
    have hi : p.size ≤ i := by omega
    refine ⟨i, Nat.le_refl i, h, fun n _ hle hlt => absurd hlt (by omega), fun _ hget => ?_⟩
    have hlt : i < p.size := (List.getElem?_eq_some_iff.mp hget).1
    exact absurd hlt (Nat.not_lt.mpr hi)
  | succ n ih =>
    have hlt : i < p.size := by omega
    have hget : p.instructions[i]? = some p.instructions[i] := List.getElem?_eq_getElem hlt
    rcases hguard : p.instructions[i].command.isGuard with - | -
    · obtain ⟨j, hnext⟩ := ih hlt (by omega)
      exact ⟨j, hnext.of_succ hget hguard⟩
    · refine ⟨i, Nat.le_refl i, h, fun n _ hle hlt => absurd hlt (by omega), fun _ hfound => ?_⟩
      rw [hget] at hfound
      obtain rfl := Option.some.inj hfound
      exact hguard

namespace Machine

variable {σ : Type} {setup : Setup σ} {m : Machine} {w : World σ} {i : Instruction}
variable {p : Program} {fuel : Nat}

/-! ### Passing by -/

/-- A note of an instruction that was skipped. -/
def IsSkip (e : Event) : Prop := ∃ index c, e = .skipped index c

theorem IsSkip.silent {e : Event} (h : IsSkip e) : e.query? = none := by
  obtain ⟨index, c, rfl⟩ := h
  rfl

/-- One loop that goes on as another one ends as that one does. -/
theorem Leads.loop_eq {fuel' : Nat} {m' : Machine} {w' : World σ}
    (h : Leads setup (.loop fuel m w) [] (.loop fuel' m' w')) :
    loop setup fuel m w = loop setup fuel' m' w' := by
  cases h with
  | passive hf hp => exact loop_passive hf hp
  | next hf hp hd ho => exact loop_next hf hp hd ho
  | jump hf hp hd ho => exact loop_jump hf hp hd ho

/-- **One step with the gate closed.**  The loop passes by an instruction that is no guard. -/
theorem exists_passed (setup : Setup σ) (w : World σ) (hf : m.fetch? m.state.cursor = some i)
    (hg : m.state.gate = .skip) (hi : i.command.isGuard = false) :
    ∃ w', World.Follows setup.client IsSkip w w' ∧
      ∀ fuel, Leads setup (.loop (fuel + 2) m w) []
        (.loop (fuel + 1) (m.goTo (m.state.cursor + 1)) w') := by
  rcases hp : i.command.isPassive with - | -
  · have hadmits : m.admits i.command = false := by simp [admits, hg, hi]
    refine ⟨w.note (.skipped m.state.cursor i.command),
      World.follows_note w rfl ⟨_, _, rfl⟩, fun fuel => ?_⟩
    exact .next hf hp (dispatch_skipped hadmits) rfl
  · exact ⟨w, .refl w, fun fuel => .passive hf hp⟩

/-- **A stretch with the gate closed.**  The loop passes by any number of instructions that
are no guards, and goes on behind them. -/
theorem exists_passed_stretch (setup : Setup σ) (hp : m.program = some p)
    (hg : m.state.gate = .skip) (n : Nat) (w : World σ) (hn : m.state.cursor + n ≤ p.size)
    (hno : ∀ k i, m.state.cursor ≤ k → k < m.state.cursor + n → p.instructions[k]? = some i →
      i.command.isGuard = false) :
    ∃ w', World.Follows setup.client IsSkip w w' ∧
      ∀ fuel, Within setup (.loop (fuel + n + 1) m w) []
          (.loop (fuel + 1) (m.goTo (m.state.cursor + n)) w') ∧
        loop setup (fuel + n + 1) m w
          = loop setup (fuel + 1) (m.goTo (m.state.cursor + n)) w' := by
  induction n generalizing m w with
  | zero => exact ⟨w, .refl w, fun fuel => ⟨.self _, rfl⟩⟩
  | succ n ih =>
    have hlt : m.state.cursor < p.size := by omega
    obtain ⟨i, hi⟩ : ∃ i, p.instructions[m.state.cursor]? = some i :=
      ⟨_, List.getElem?_eq_getElem hlt⟩
    have hf : m.fetch? m.state.cursor = some i := by
      simpa [fetch?, hp, Program.get?] using hi
    obtain ⟨v, hpassed, hstep⟩ :=
      exists_passed setup w hf hg (hno _ i (Nat.le_refl _) (by omega) hi)
    have hcursor : m.state.cursor + 1 + n = m.state.cursor + (n + 1) := by omega
    -- the rest of the stretch begins one address further on, with the same gate
    obtain ⟨w', hrest, hreach⟩ := @ih (m.goTo (m.state.cursor + 1)) hp hg v
      (hcursor ▸ hn) fun k i hle hlt => hno k i (Nat.le_of_succ_le hle) (hcursor ▸ hlt)
    refine ⟨w', hpassed.trans hrest, fun fuel => ?_⟩
    obtain ⟨hwithin, hends⟩ := hreach fuel
    have hgoes : Leads setup (.loop (fuel + n + 2) m w) [] _ := hstep (fuel + n)
    rw [← hcursor]
    exact ⟨.inside hgoes hwithin, hgoes.loop_eq.trans hends⟩

/-- **With the gate closed nothing happens up to the next guard.**  Let the gate be closed in a
loop that takes place within some activity, at whatever depth of includes.  The activity may be
any run; `Bounded` asks nothing of that.  Then the loop comes to the next guard, or to the end
of its program if there is none, whatever lies in between.  The machine is the same but for its
cursor, and the database is the same.  All that happened is that instructions were skipped:
nothing was sent, no script was asked for, and nothing failed. -/
theorem closed_gate_inert (setup : Setup σ) (a : Activity σ) (ha : a.Bounded)
    (frames : List Context) (fuel : Nat) (m : Machine) (w : World σ)
    (hin : Within setup a frames (.loop fuel m w)) (hg : m.state.gate = .skip) :
    ∃ p j w', m.program = some p ∧ p.NextGuard m.state.cursor j ∧
      w'.database = w.database ∧
      (∃ es, w'.trace = es ++ w.trace ∧ ∀ e ∈ es, IsSkip e) ∧
      (∀ rest, loop setup (rest + (j - m.state.cursor) + 1) m w
        = loop setup (rest + 1) (m.goTo j) w') ∧
      (j - m.state.cursor < fuel →
        Within setup a frames (.loop (fuel - (j - m.state.cursor)) (m.goTo j) w')) := by
  obtain ⟨p, hp, hc⟩ := hin.bounded ha
  obtain ⟨j, hnext⟩ := p.exists_nextGuard hc
  obtain ⟨n, rfl⟩ := Nat.exists_eq_add_of_le hnext.ahead
  obtain ⟨w', hfollows, hreach⟩ := exists_passed_stretch setup hp hg n w hnext.inside hnext.between
  refine ⟨p, _, w', hp, hnext, hfollows.database_eq fun _ => IsSkip.silent, ?_, ?_, ?_⟩
  · obtain ⟨es, htrace, -, hskips⟩ := hfollows
    exact ⟨es, htrace, hskips⟩
  · rw [Nat.add_sub_cancel_left]
    exact fun rest => (hreach rest).2
  · rw [Nat.add_sub_cancel_left]
    intro hlt
    obtain ⟨rest, rfl⟩ := Nat.exists_eq_add_of_lt hlt
    have hmore : n + rest + 1 - n = rest + 1 := by omega
    have hfuel : rest + n + 1 = n + rest + 1 := by omega
    rw [hmore]
    exact hin.trans (hfuel ▸ (hreach rest).1)

/-- A program that closes the gate, in front of a jump to itself, an include of itself and
an instruction that always fails. -/
def gated : Program := Program.parse "!"
  "! proceed 0\n! forward 1\n! include main\n! storage s\n! examine $0\n! validif 1" "main"

/-- Behind its first instruction the gate is closed, and nothing happens up to the guard. -/
theorem gated_inert :
    let a : Activity Rehearsal := .run 9 (some gated) [] [] none {} { database := .ofRules [] }
    ∃ m w, Within bare a [] (.loop 8 m w) ∧ m.state.gate = .skip ∧ m.state.cursor = 1 ∧
      ∃ p j w', m.program = some p ∧ p.NextGuard m.state.cursor j ∧ w'.database = w.database ∧
        (∃ es, w'.trace = es ++ w.trace ∧ ∀ e ∈ es, IsSkip e) ∧
        (∀ rest, loop bare (rest + (j - m.state.cursor) + 1) m w
          = loop bare (rest + 1) (m.goTo j) w') ∧
        (j - m.state.cursor < 8 →
          Within bare a [] (.loop (8 - (j - m.state.cursor)) (m.goTo j) w')) := by
  intro a
  let first : Instruction := ⟨.proceed, "0", some 1⟩
  let start : Machine := ({} : Machine).launched gated [] [] none
  let ended := dispatch bare 8 0 first start { database := .ofRules [] }
  have hnext : ended.outcome.value? = some none := by decide +kernel
  have ho : ended.outcome = .done none := Outcome.value?_eq_some.mp hnext
  have hf : start.fetch? start.state.cursor = some first := by decide
  have hin : Within bare a [] (.loop 8 (ended.machine.goTo (ended.machine.state.cursor + 1))
      ended.world) :=
    .inside (.start_valid (by decide) (by decide) 9 [] [] none {} _)
      (.inside (.next hf rfl rfl ho) (.self _))
  have hg : ended.machine.state.gate = .skip := by decide +kernel
  refine ⟨_, _, hin, hg, by decide +kernel, ?_⟩
  exact closed_gate_inert bare a trivial [] 8 _ _ hin hg

end Machine

end SqlScript
