/-
SqlScript/Bindings.lean

Names bound to values, in the order in which the names first appeared.

Rows of a result and the named parameters of a run are bindings.  Binding a name
again changes its value and keeps its place, so the order of the names is that of
their first occurrences.
-/
import SqlScript.Value

namespace SqlScript

/-- Values by name, in insertion order. -/
abbrev Bindings := List (String × Value)

namespace Bindings

/-- The value of a name. -/
def get? : Bindings → String → Option Value
  | [], _ => none
  | (n, v) :: rest, name => if n = name then some v else get? rest name

/-- Binds a name: in its place if it has one, at the end otherwise. -/
def set : Bindings → String → Value → Bindings
  | [], name, value => [(name, value)]
  | (n, v) :: rest, name, value =>
    if n = name then (n, value) :: rest else (n, v) :: set rest name value

/-- Binds the names of `other`, in their order. -/
def update (b other : Bindings) : Bindings := other.foldl (fun b p => b.set p.1 p.2) b

/-- The bindings of a list of names and values in which names may repeat. -/
def ofList (pairs : List (String × Value)) : Bindings := update [] pairs

/-- The names. -/
def names (b : Bindings) : List String := b.map Prod.fst

/-- The values, in the order of the names. -/
def values (b : Bindings) : List Value := b.map Prod.snd

/-! ### Laws -/

@[simp] theorem get?_set_self (b : Bindings) (name : String) (value : Value) :
    (b.set name value).get? name = some value := by
  induction b with
  | nil => simp [set, get?]
  | cons p rest ih =>
    obtain ⟨n, v⟩ := p
    by_cases h : n = name
    · simp [set, get?, h]
    · simp [set, get?, h, ih]

theorem get?_set_of_ne (b : Bindings) {name other : String} (value : Value)
    (h : name ≠ other) : (b.set name value).get? other = b.get? other := by
  induction b with
  | nil => simp [set, get?, h]
  | cons p rest ih =>
    obtain ⟨n, v⟩ := p
    by_cases hn : n = name
    · subst hn
      simp [set, get?, h]
    · by_cases ho : n = other
      · subst ho
        simp [set, get?, hn]
      · simp [set, get?, hn, ho, ih]

end Bindings

end SqlScript
