/-
SqlScript/Proofs/Engine/Failures.lean

What an instruction can fail with by itself.

`Raised` has one constructor for each kind of failure.  An error of the instruction's own
has a cause from a closed list (`Cause.isOwn`) and no context yet.  An include passes on
what is wrong with its script: that it cannot be loaded, that it breaks the rule of
programs, or that it has no instructions.  All other failures are faults: a number beyond
its limits, a breakdown of the database, or a fault of the source.

A number can be the trouble only of an instruction that has to do with numbers
(`Instruction.HandlesNumbers`): a guard, a jump or call whose address may be a bound value,
a positional placeholder of too many digits, or an include under a limit that cannot be
written.  An address that is written out never is, since a text of too many digits is no
address.
-/
import Mathlib.Data.Nat.Digits.Defs
import SqlScript.Proofs.Condition.Faults
import SqlScript.Proofs.Engine.Unwinding

namespace SqlScript

/-! ### Integers that can be written -/

namespace Text

theorem digitValue?_lt {c : Char} {n : Nat} (h : digitValue? c = some n) : n < 10 := by
  rw [digitValue?, Option.map_eq_some_iff] at h
  obtain ⟨first, hfound, rfl⟩ := h
  have hrange := List.find?_some hfound
  simp only [Bool.and_eq_true, decide_eq_true_eq] at hrange
  omega

theorem digitsValue_lt (ds : List Char) : digitsValue ds < 10 ^ ds.length := by
  have above : ∀ k, ds.foldl (fun n c => 10 * n + (digitValue? c).getD 0) k
      < (k + 1) * 10 ^ ds.length := by
    induction ds with
    | nil => simp
    | cons c ds ih =>
      intro k
      have hdigit : (digitValue? c).getD 0 < 10 := by
        rcases h : digitValue? c with - | n
        · simp
        · exact digitValue?_lt h
      calc ds.foldl (fun n c => 10 * n + (digitValue? c).getD 0)
              (10 * k + (digitValue? c).getD 0)
          < (10 * k + (digitValue? c).getD 0 + 1) * 10 ^ ds.length := ih _
        _ ≤ (10 * (k + 1)) * 10 ^ ds.length := Nat.mul_le_mul_right _ (by omega)
        _ = (k + 1) * 10 ^ (c :: ds).length := by rw [List.length_cons, Nat.pow_succ]; ring
  simpa [digitsValue] using above 0

end Text

/-- An integer that was read is short enough to be written. -/
theorem readInteger_writable {cs : List Char} {n : Int} (h : readInteger cs = .ok n) :
    (Value.int n).overlong = false := by
  have short : ∀ ds : List Char, ¬ integerLimit < ds.length →
      Text.digitCount (Text.digitsValue ds) ≤ integerLimit := by
    intro ds hds
    have hlt : Text.digitsValue ds < 10 ^ integerLimit :=
      Nat.lt_of_lt_of_le (Text.digitsValue_lt ds)
        (Nat.pow_le_pow_right (by decide) (Nat.not_lt.mp hds))
    exact Nat.toDigits_length 10 _ integerLimit (by decide) hlt
  simp only [readInteger] at h
  split at h
  · cases h
  split at h
  · cases h
  split at h
  · cases h
  next ds _ _ hds =>
    cases h
    have habs : (if (Numeral.sign (unpad cs)).1 = true then -(Text.digitsValue ds : Int)
        else Text.digitsValue ds).natAbs = Text.digitsValue ds := by
      split <;> simp
    simp only [Value.overlong, habs, decide_eq_false_iff_not, Nat.not_lt]
    exact short ds hds

/-! ### Errors of an instruction's own -/

/-- The causes of the errors that an instruction has by itself: a statement that is
rejected, an operand that is no good, a condition without a value, a limit of nesting, and
the wish to see a statement. -/
def Cause.isOwn : Cause → Bool
  | .rejected _ | .missingIndex | .invalidIndex _ | .negativeTarget _ | .processTooDeep _
  | .missingScriptName | .includeTooDeep _ | .unknownSetting _ | .invalidCondition ..
  | .examined _ => true
  | _ => false

/-- A failure that an instruction has by itself: an error with a cause of its own, or, if
it has to do with numbers, a number beyond its limits. -/
inductive Failure.Own (numbers : Prop) : Failure → Prop
  | error {cause : Cause} : cause.isOwn = true → cause.kind = .execution → Own numbers (.of cause)
  | number {f : NumberFault} : numbers → Own numbers (.fault (.number f))

theorem Failure.Own.imp {p q : Prop} {f : Failure} (h : f.Own p) (hpq : p → q) : f.Own q := by
  cases h with
  | error hc hk => exact .error hc hk
  | number hp => exact .number (hpq hp)

/-! ### Addresses -/

theorem Value.toAddress_own {v : Value} {f : Failure} (h : v.toAddress = .error f) :
    f.Own True := by
  -- a value that is no address is invalid, infinite, or too long to be shown
  simp only [toAddress] at h
  repeat' split at h
  all_goals first
    | cases h; done
    | cases h; exact .number trivial
    | cases h; exact .error rfl rfl

theorem Value.toAddress_text {s : String} {f : Failure}
    (h : (Value.text s).toAddress = .error f) : f.Own False := by
  rcases hr : (readInteger s.toList).toOption with - | n
  · simp only [toAddress, hr, overlong] at h
    cases h
    exact .error rfl rfl
  · simp [toAddress, hr] at h

theorem Value.writable_of_text {s : String} {n : Int} (h : (Value.text s).toAddress = .ok n) :
    (Value.int n).overlong = false := by
  rcases hr : readInteger s.toList with e | k
  · simp [toAddress, hr, Except.toOption] at h
  · simp only [toAddress, hr, Except.toOption, Except.ok.injEq] at h
    subst h
    exact readInteger_writable hr

section Operands

variable {r : Resolved} {marker : String} {f : Failure}

theorem addressOperand_own (h : addressOperand r marker = .error f) : f.Own (r.args ≠ []) := by
  rw [addressOperand] at h
  split at h
  · cases h
    exact .error rfl rfl
  next word _ =>
  -- without bound values the address is the word itself
  rcases hargs : r.args with - | ⟨first, rest⟩
  · simp only [hargs, addressValue] at h
    split at h
    next g hg =>
      cases h
      exact (Value.toAddress_text hg).imp False.elim
    · cases h
  · simp only [hargs] at h
    split at h
    next g hg =>
      cases h
      exact (Value.toAddress_own hg).imp fun _ => by simp
    · cases h

/-- An address that no bound value is involved in can be written. -/
theorem addressOperand_writable {target : Int} {args : List Value}
    (h : addressOperand r marker = .ok (target, args)) :
    (Value.int target).overlong = false ∨ r.args ≠ [] := by
  rw [addressOperand] at h
  split at h
  · cases h
  next word _ =>
  rcases hargs : r.args with - | ⟨first, rest⟩
  · simp only [hargs, addressValue] at h
    split at h
    · cases h
    next target hg =>
      cases h
      exact .inl (Value.writable_of_text hg)
  · exact .inr (by simp)

end Operands

/-! ### Instructions -/

/-- The placeholders of an instruction. -/
def Instruction.placeholders (i : Instruction) : List Placeholder :=
  (Template.parse i.statement.toList).placeholders

/-- An instruction that has to do with numbers: it evaluates a condition, it may take an
address from a bound value, it has a position of too many digits, or it is an include under
a limit that cannot be written. -/
def Instruction.HandlesNumbers (limit : Int) (i : Instruction) : Prop :=
  i.command.isGuard = true ∨
  ((i.command = .forward ∨ i.command = .process) ∧ i.placeholders ≠ []) ∨
  (∃ digits, .positional digits ∈ i.placeholders ∧ integerLimit < digits.length) ∨
  i.command = .include ∧ (Value.int limit).overlong = true

section Resolving

/-- Values are found for all placeholders, unless one has too many digits. -/
theorem mapM_value?_cases (passed : List Value) (custom : Bindings) (ps : List Placeholder) :
    (∃ args, ps.mapM (Placeholder.value? passed custom) = .ok args ∧ args.length = ps.length) ∨
    ∃ digits f, ps.mapM (Placeholder.value? passed custom) = .error f ∧
      .positional digits ∈ ps ∧ integerLimit < digits.length := by
  induction ps with
  | nil => exact .inl ⟨[], rfl, rfl⟩
  | cons p ps ih =>
    rw [List.mapM_cons]
    rcases hv : p.value? passed custom with f | v
    · -- only a position can fail
      cases p with
      | named name => cases hv
      | positional digits =>
        by_cases hl : integerLimit < digits.length
        · exact .inr ⟨digits, f, rfl, by simp, hl⟩
        · simp [Placeholder.value?, hl] at hv
    · obtain ⟨args, hargs, hlen⟩ | ⟨digits, f, hf, hmem, hl⟩ := ih
      · exact .inl ⟨v :: args, by simp [hargs, bind, Except.bind, pure, Except.pure],
          by simp [hlen]⟩
      · exact .inr ⟨digits, f, by simp [hf, bind, Except.bind], by simp [hmem], hl⟩

variable {i : Instruction} {passed : List Value} {custom : Bindings} {bindMarker : String}

/-- A resolved statement has one value for each placeholder. -/
theorem resolve_length {r : Resolved}
    (h : resolve i.statement passed custom bindMarker = .ok r) :
    r.args.length = i.placeholders.length := by
  obtain ⟨args, hargs, hlen⟩ | ⟨digits, f, hf, -⟩ :=
    mapM_value?_cases passed custom i.placeholders
  · rw [Instruction.placeholders] at hargs hlen
    simp only [resolve, hargs, Except.ok.injEq] at h
    rw [← h]
    exact hlen
  · rw [Instruction.placeholders] at hf
    simp [resolve, hf] at h

theorem handlesNumbers_of_unresolved {f : NumberFault}
    (h : resolve i.statement passed custom bindMarker = .error f) (limit : Int) :
    i.HandlesNumbers limit := by
  obtain ⟨args, hargs, -⟩ | ⟨digits, g, -, hmem, hl⟩ :=
    mapM_value?_cases passed custom i.placeholders
  · rw [Instruction.placeholders] at hargs
    simp [resolve, hargs] at h
  · exact .inr (.inr (.inl ⟨digits, hmem, hl⟩))

end Resolving

/-! ### Programs and scripts -/

namespace Program

theorem firstError?_eq_some {source : String} {start : Nat} {is : List Instruction}
    {e : ProcedureError} (h : firstError? source start is = some e) :
    ∃ (k : Nat) (i : Instruction), is[k]? = some i ∧ e = i.selectError (start + k) source := by
  induction is generalizing start with
  | nil => cases h
  | cons i rest ih =>
    rw [firstError?] at h
    by_cases hv : i.isValid
    · simp only [Instruction.error?, hv, if_true] at h
      obtain ⟨k, j, hj, rfl⟩ := ih h
      exact ⟨k + 1, j, by simpa using hj, by rw [Nat.add_right_comm, Nat.add_assoc]⟩
    · simp only [Instruction.error?, hv] at h
      exact ⟨0, i, rfl, by simpa using h.symm⟩

/-- The error of a program is that of an instruction at its address. -/
theorem error?_eq_some {p : Program} {e : ProcedureError} (h : p.error? = some e) :
    ∃ (k : Nat) (i : Instruction), p.get? k = some i ∧ e = i.selectError k p.source := by
  obtain ⟨k, i, hi, rfl⟩ := firstError?_eq_some h
  exact ⟨k, i, hi, by rw [Nat.zero_add]⟩

end Program

namespace Machine

variable {σ : Type} {setup : Setup σ} {m : Machine} {w : World σ} {i : Instruction}
variable {r : Resolved} {f : Failure}

theorem readScript_eq_error {name : String} {w' : World σ}
    (h : readScript setup name w = (.error f, w')) :
    (∃ f₀, setup.source name = .error f₀ ∧ f = f₀.attach { source := some name }) ∨
    ∃ text e, setup.source name = .ok text ∧
      (Program.parse setup.marker text name).error? = some e ∧ f = .error e := by
  simp only [readScript, Source.fetch] at h
  rcases hs : setup.source name with f₀ | text
  · simp only [hs, Prod.mk.injEq, Except.error.injEq] at h
    exact .inl ⟨f₀, rfl, h.1.symm⟩
  · simp only [hs, readText] at h
    rcases he : (Program.parse setup.marker text name).error? with - | e
    · simp [he] at h
    · simp only [he, Prod.mk.injEq, Except.error.injEq] at h
      exact .inr ⟨text, e, rfl, he, h.1.symm⟩

/-! ### The failures of single steps -/

theorem decideGate_own {blank : Blank} (h : decideGate r blank = .error f) : f.Own True := by
  rw [decideGate] at h
  split at h
  · cases h
    exact .number trivial
  next condition _ =>
  have hcontained := Condition.contained_holds condition
  split at h
  · cases h
  · cases h
  · cases h
    exact .error rfl rfl
  · cases h
    exact .error rfl rfl
  next g hform heval hg =>
    cases h
    -- of the faults of conditions only numbers are left
    cases g with
    | number n => exact .number trivial
    | form e => exact absurd rfl (hform e)
    | evaluation e => exact absurd rfl (heval e)
    | crash | longName | damaged => cases hcontained _ hg

theorem jumpTarget_own {marker : String} (h : m.jumpTarget r marker = .error f) :
    f.Own (r.args ≠ []) := by
  rw [jumpTarget] at h
  rcases ha : addressOperand r marker with g | ⟨target, args⟩
  · simp only [ha, Except.error.injEq] at h
    exact h ▸ addressOperand_own ha
  simp only [ha] at h
  split at h
  · simp only [negativeJump, Value.text?] at h
    rcases addressOperand_writable ha with hshort | hargs
    · rw [hshort] at h
      cases h
      exact .error rfl rfl
    · split at h
      · cases h
        exact .number hargs
      · cases h
        exact .error rfl rfl
  · split at h <;> cases h

theorem missTarget_own {marker : String} {target : Int} {args : List Value}
    (ha : addressOperand r marker = .ok (target, args))
    (h : (m.missTarget setup target w).outcome = .failed f) : f.Own (r.args ≠ []) := by
  simp only [missTarget, Value.text?] at h
  rcases addressOperand_writable ha with hshort | hargs
  · simp [hshort] at h
  · split at h
    · cases h
    · split at h
      · cases h
        exact .number hargs
      · cases h

theorem refusal_own (limit : Int) :
    (refusal limit).Own ((Value.int limit).overlong = true) := by
  rw [refusal, Value.text?]
  split
  next f failed =>
    split at failed
    next long => exact .number long
    · cases failed
  · exact .error rfl rfl

theorem includeName_own (h : m.includeName setup r = .error f) :
    f.Own ((Value.int setup.maxIncludeDepth).overlong = true) := by
  rw [includeName] at h
  split at h
  · cases h
    exact .error rfl rfl
  split at h
  · cases h
    exact refusal_own setup.maxIncludeDepth
  · cases h

/-! ### The failures of an instruction -/

/-- What an instruction can fail with by itself. -/
inductive Raised (setup : Setup σ) (m : Machine) (i : Instruction) (r : Resolved) :
    Failure → Prop
  /-- An error of its own, or a number beyond its limits. -/
  | own {f : Failure} : i.command ≠ .examine →
      f.Own (i.HandlesNumbers setup.maxIncludeDepth) → Raised setup m i r f
  /-- A script asks to see a statement. -/
  | examined {rendered : String} : i.command = .examine →
      Raised setup m i r (.of (.examined rendered))
  /-- The database broke down. -/
  | crashed {message : String} {s : σ} :
      (setup.client.query r.text r.args s).1 = .crash message →
      Raised setup m i r (.fault (.crash message))
  /-- The script of an include cannot be loaded. -/
  | unread {name : String} {f : Failure} :
      i.includeName? setup.client.bindMarker = some name → setup.source name = .error f →
      Raised setup m i r (includeFailure name (f.attach { source := some name }))
  /-- The script of an include breaks the rule of programs. -/
  | invalid {name text : String} {e : ProcedureError} :
      i.includeName? setup.client.bindMarker = some name → setup.source name = .ok text →
      (Program.parse setup.marker text name).error? = some e → Raised setup m i r (.error e)
  /-- The script of an include has no instructions. -/
  | empty {name text : String} :
      i.includeName? setup.client.bindMarker = some name → setup.source name = .ok text →
      (Program.parse setup.marker text name).size = 0 →
      Raised setup m i r (.error (noCommands (some name) m.origin))

/-- Bound values come from placeholders. -/
theorem Begins.args_ne_nil_iff (hb : m.Begins setup i r) :
    r.args ≠ [] ↔ i.placeholders ≠ [] := by
  rw [← List.length_pos_iff, ← List.length_pos_iff, resolve_length hb.resolved]

theorem Performed.raised {w : World σ} {ended : Result σ (Option Nat)}
    (hb : m.Begins setup i r) (h : Performed setup i.command r m w ended)
    (hf : ended.outcome = .failed f) : Raised setup m i r f := by
  cases h with
  | queried hc =>
    have hne : i.command ≠ .examine := fun he => by simp [he, Command.isQuery] at hc
    rw [query] at hf
    rcases hq : (setup.client.query r.text r.args w.database).1 with rs | message | message
    · simp [hq] at hf
    · simp only [hq, Outcome.failed.injEq] at hf
      exact hf ▸ .own hne (.error rfl rfl)
    · simp only [hq, Outcome.failed.injEq] at hf
      exact hf ▸ .crashed hq
  | decided | jumped | set => cases hf
  | undecided hc hd =>
    cases hf
    have hne : i.command ≠ .examine := fun he => by simp [he, Command.isGuard] at hc
    exact .own hne ((decideGate_own hd).imp fun _ => .inl hc)
  | lost hc hj =>
    cases hf
    exact .own (by simp [hc]) ((jumpTarget_own hj).imp fun hargs =>
      .inr (.inl ⟨.inl hc, hb.args_ne_nil_iff.mp hargs⟩))
  | unset hc =>
    cases hf
    exact .own (by simp [hc]) (.error rfl rfl)
  | examined hc =>
    cases hf
    exact .examined hc

theorem Planned.raised {w : World σ} {ended : Result σ (Option Nat)}
    (hb : m.Begins setup i r) (h : Planned setup i.command r m w (.finish ended))
    (hf : ended.outcome = .failed f) : Raised setup m i r f := by
  cases h with
  | performed _ _ h => exact h.raised hb hf
  | noAddress hc ha =>
    cases hf
    exact .own (by simp [hc]) ((addressOperand_own ha).imp fun hargs =>
      .inr (.inl ⟨.inr hc, hb.args_ne_nil_iff.mp hargs⟩))
  | noTarget hc ha _ =>
    exact .own (by simp [hc]) ((missTarget_own ha hf).imp fun hargs =>
      .inr (.inl ⟨.inr hc, hb.args_ne_nil_iff.mp hargs⟩))
  | callTooDeep hc =>
    cases hf
    exact .own (by simp [hc]) (.error rfl rfl)
  | noName hc hn =>
    cases hf
    exact .own (by simp [hc]) ((includeName_own hn).imp fun long => .inr (.inr (.inr ⟨hc, long⟩)))
  | unread hc hn hs =>
    cases hf
    have hname := hb.includeName?_eq hc hn
    obtain ⟨f₀, hsource, rfl⟩ | ⟨text, e, hsource, he, rfl⟩ := readScript_eq_error hs
    · exact .unread hname hsource
    · -- an error of validation is passed on as it is
      obtain ⟨k, j, -, rfl⟩ := Program.error?_eq_some he
      exact .invalid hname hsource he
  | noCommands hc hn hs hz =>
    cases hf
    obtain ⟨text, hsource, rfl, -⟩ := readScript_eq_ok hs
    exact .empty (hb.includeName?_eq hc hn) hsource hz

/-- **What an instruction can fail with** by itself is one of the cases of `Raised`. -/
theorem FailsAlone.raised {index : Nat} (h : m.FailsAlone setup index i w r f) :
    Raised setup m i r f := by
  obtain ⟨ended, hplan, hf⟩ := h.ends
  exact (planned_of_eq hplan).raised h.begins hf

end Machine

end SqlScript
