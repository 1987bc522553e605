/-
SqlScript/Proofs/Engine/Columns.lean

Columns of a result as positional parameters.

`replace` makes the last row of a result the positional parameters.  The cells of a row are
bound to the names of their columns before that, and of columns with one name the first fixes
the place and the last the value.  So the parameters are one for each *name*, in the order of
the names' first columns (`values_ofList`).  That is one for each column only if no name
repeats: the position of a parameter is the position of its column exactly then
(`replace_binds_names`).  With two columns of one name, as a join has them, a value is lost and
every later one moves up (`join_loses_column`).
-/
import Mathlib.Data.List.Induction
import Mathlib.Data.List.Nodup
import SqlScript.Client.Rehearsal
import SqlScript.Client.Style
import SqlScript.Proofs.Engine.Induction

namespace SqlScript

namespace Bindings

/-! ### Bindings of names that may repeat -/

variable {b : Bindings} {name : String} {pairs : List (String × Value)}

theorem ofList_concat (pairs : List (String × Value)) (p : String × Value) :
    ofList (pairs ++ [p]) = (ofList pairs).set p.1 p.2 := by
  simp [ofList, update]

theorem set_of_notMem (h : name ∉ b.names) (value : Value) :
    b.set name value = b ++ [(name, value)] := by
  induction b with
  | nil => rfl
  | cons p rest ih =>
    obtain ⟨n, v⟩ := p
    obtain ⟨hne, hrest⟩ : name ≠ n ∧ name ∉ names rest := by simpa [names] using h
    rw [set, if_neg (Ne.symm hne), ih hrest, List.cons_append]

theorem names_set_of_mem (h : name ∈ b.names) (value : Value) :
    (b.set name value).names = b.names := by
  induction b with
  | nil => cases h
  | cons p rest ih =>
    obtain ⟨n, v⟩ := p
    rw [set]
    split
    · rfl
    · next hne =>
      have hrest : name ∈ names rest := (List.mem_cons.mp h).resolve_left (Ne.symm hne)
      exact congrArg (n :: ·) (ih hrest)

theorem length_set_of_mem (h : name ∈ b.names) (value : Value) :
    (b.set name value).length = b.length := by
  simpa [names] using congrArg List.length (names_set_of_mem h value)

/-- The names are the first ones of their kind. -/
theorem names_ofList (pairs : List (String × Value)) :
    (ofList pairs).names = (pairs.map Prod.fst).eraseDups := by
  induction pairs using List.reverseRecOn with
  | nil => rfl
  | append_singleton pairs p ih =>
    rw [ofList_concat, List.map_append, List.eraseDups_append, ← ih]
    have hmem : p.1 ∈ (ofList pairs).names ↔ p.1 ∈ pairs.map Prod.fst := by
      rw [ih, List.mem_eraseDups]
    by_cases h : p.1 ∈ (ofList pairs).names
    · have hnone : (List.map Prod.fst [p]).removeAll (pairs.map Prod.fst) = [] := by
        simp [List.removeAll, hmem.mp h]
      rw [names_set_of_mem h, hnone]
      simp
    · have hnew : (List.map Prod.fst [p]).removeAll (pairs.map Prod.fst) = [p.1] := by
        simpa [List.removeAll] using mt hmem.mpr h
      rw [set_of_notMem h, hnew]
      simp [names, List.eraseDups_cons]

theorem nodup_names_ofList (pairs : List (String × Value)) : (ofList pairs).names.Nodup := by
  induction pairs using List.reverseRecOn with
  | nil => exact List.nodup_nil
  | append_singleton pairs p ih =>
    rw [ofList_concat]
    by_cases h : p.1 ∈ (ofList pairs).names
    · rwa [names_set_of_mem h]
    · rw [set_of_notMem h, names, List.map_append, List.map_singleton, ← List.concat_eq_append]
      exact ih.concat h

/-- The value of a name is the last one that it was given. -/
theorem get?_ofList (pairs : List (String × Value)) (name : String) :
    (ofList pairs).get? name = get? pairs.reverse name := by
  induction pairs using List.reverseRecOn with
  | nil => rfl
  | append_singleton pairs p ih =>
    rw [ofList_concat, List.reverse_append, List.reverse_singleton, List.singleton_append, get?]
    split
    · next h => rw [h, get?_set_self]
    · next h => rw [get?_set_of_ne _ _ h, ih]

theorem values_eq_map_names (h : b.names.Nodup) :
    b.values = b.names.map fun name => (b.get? name).getD .null := by
  induction b with
  | nil => rfl
  | cons p rest ih =>
    obtain ⟨n, v⟩ := p
    obtain ⟨hn, hrest⟩ := List.nodup_cons.mp h
    have hlater : (names rest).map (fun name => (get? ((n, v) :: rest) name).getD .null)
        = (names rest).map fun name => (get? rest name).getD .null := by
      apply List.map_congr_left
      intro name hname
      have hne : n ≠ name := fun heq => hn (heq ▸ hname)
      rw [get?, if_neg hne]
    calc values ((n, v) :: rest) = v :: values rest := rfl
      _ = v :: (names rest).map fun name => (get? rest name).getD .null := by rw [ih hrest]
      _ = (names ((n, v) :: rest)).map fun name => (get? ((n, v) :: rest) name).getD .null := by
        rw [← hlater]
        simp [names, get?]

/-- **One value for each name**, in the order of the first occurrences: the last one that the
name was given. -/
theorem values_ofList (pairs : List (String × Value)) :
    (ofList pairs).values
      = (pairs.map Prod.fst).eraseDups.map fun name => (get? pairs.reverse name).getD .null := by
  rw [values_eq_map_names (nodup_names_ofList pairs), names_ofList]
  simp only [get?_ofList]

/-! ### Names that do not repeat -/

theorem ofList_of_nodup (h : (pairs.map Prod.fst).Nodup) : ofList pairs = pairs := by
  induction pairs using List.reverseRecOn with
  | nil => rfl
  | append_singleton pairs p ih =>
    rw [List.map_append, List.map_singleton, List.nodup_append] at h
    obtain ⟨hpairs, -, hnew⟩ := h
    have hp : p.1 ∉ names pairs := fun hmem => hnew p.1 hmem p.1 List.mem_cons_self rfl
    rw [ofList_concat, ih hpairs, set_of_notMem hp]

theorem length_ofList_le (pairs : List (String × Value)) :
    (ofList pairs).length ≤ pairs.length := by
  induction pairs using List.reverseRecOn with
  | nil => exact Nat.le_refl 0
  | append_singleton pairs p ih =>
    rw [ofList_concat, List.length_append, List.length_singleton]
    by_cases h : p.1 ∈ (ofList pairs).names
    · rw [length_set_of_mem h]
      omega
    · rw [set_of_notMem h, List.length_append, List.length_singleton]
      omega

/-- A repeated name costs a place. -/
theorem length_ofList_eq_iff :
    (ofList pairs).length = pairs.length ↔ (pairs.map Prod.fst).Nodup := by
  refine ⟨?_, fun h => by rw [ofList_of_nodup h]⟩
  induction pairs using List.reverseRecOn with
  | nil => exact fun _ => List.nodup_nil
  | append_singleton pairs p ih =>
    rw [ofList_concat, List.length_append, List.length_singleton]
    have hle := length_ofList_le pairs
    intro hlen
    by_cases h : p.1 ∈ (ofList pairs).names
    · rw [length_set_of_mem h] at hlen
      omega
    · rw [set_of_notMem h, List.length_append, List.length_singleton] at hlen
      have hpairs : (pairs.map Prod.fst).Nodup := ih (by omega)
      rw [ofList_of_nodup hpairs] at h
      rw [List.map_append, List.map_singleton, ← List.concat_eq_append]
      exact hpairs.concat h

end Bindings

/-! ### Replaced parameters -/

/-- Parameters that are the cells of a row: as many, and each position stands for the cell
there, or for nothing if there is none. -/
structure BindCells (passed row : List Value) : Prop where
  length : passed.length = row.length
  cell : ∀ digits custom, digits.length ≤ integerLimit →
    Placeholder.value? passed custom (.positional digits)
      = .ok (row[Text.digitsValue digits]?.getD .null)

theorem BindCells.refl (row : List Value) : BindCells row row where
  length := rfl
  cell digits custom h := by rw [Placeholder.value?, if_neg (Nat.not_lt.mpr h)]

/-- The cells of a row are bound as they stand if no name of a column repeats, and only then. -/
theorem bindCells_values_iff {columns : List String} {row : List Value}
    (h : row.length = columns.length) :
    BindCells (Bindings.ofList (columns.zip row)).values row ↔ columns.Nodup := by
  have hcolumns : (columns.zip row).map Prod.fst = columns := List.map_fst_zip (by omega)
  have hcells : (columns.zip row).map Prod.snd = row := List.map_snd_zip (by omega)
  constructor
  · intro hbound
    have hlen : (Bindings.ofList (columns.zip row)).length = (columns.zip row).length := by
      have hall := hbound.length
      rw [Bindings.values, List.length_map] at hall
      rw [hall, List.length_zip]
      omega
    have hnodup := Bindings.length_ofList_eq_iff.mp hlen
    rwa [hcolumns] at hnodup
  · intro hnodup
    have hsame : Bindings.ofList (columns.zip row) = columns.zip row :=
      Bindings.ofList_of_nodup (by rwa [hcolumns])
    rw [hsame, Bindings.values, hcells]
    exact .refl row

namespace Machine

variable {σ : Type} {setup : Setup σ} {m : Machine} {w : World σ} {i : Instruction} {r : Resolved}

/-- A replacement that gets a result makes its last row the parameters. -/
theorem dispatch_replace (rs : Resultset) {s : σ} (hc : i.command = .replace)
    (hb : m.Begins setup i r)
    (hq : setup.client.query r.text r.args w.database = (.result rs, s)) (fuel index : Nat) :
    let after := dispatch setup (fuel + 1) index i m w
    after.outcome = .done none ∧
      after.machine.state.passed = (rs.last?.map Bindings.values).getD [] := by
  have hplan : m.plan setup i.command r (m.begun index i r w)
      = .finish (m.query setup .replace r (m.begun index i r w)) := by
    rw [hc]
    rfl
  have hdatabase : (m.begun index i r w).database = w.database := rfl
  rw [dispatch_finish hb hplan, query, hdatabase, hq]
  exact ⟨rfl, rfl⟩

/-- **A replacement binds one parameter for each column name.**  Without rows it leaves no
parameters.  Otherwise these are the values of the last row: one for each name of a column, in
the order of the names' first columns, and of columns with one name the last one's.  They are
the cells of the row, each at the position of its column, exactly if no name repeats. -/
theorem replace_binds_names (setup : Setup σ) (fuel index : Nat) (i : Instruction) (m : Machine)
    (w : World σ) (r : Resolved) (columns : List String) (cells : List (List Value)) (s : σ)
    (hc : i.command = .replace) (hb : m.Begins setup i r)
    (hq : setup.client.query r.text r.args w.database = (.result (.ofCells columns cells), s))
    (hrows : ∀ row ∈ cells, row.length = columns.length) :
    let after := dispatch setup (fuel + 1) index i m w
    after.outcome = .done none ∧
      (cells = [] → after.machine.state.passed = []) ∧
      ∀ row, cells.getLast? = some row →
        after.machine.state.passed = columns.eraseDups.map (fun name =>
          (Bindings.get? (columns.zip row).reverse name).getD .null) ∧
        (BindCells after.machine.state.passed row ↔ columns.Nodup) := by
  intro after
  obtain ⟨houtcome, hpassed⟩ := dispatch_replace _ hc hb hq fuel index
  refine ⟨houtcome, ?_, ?_⟩
  · rintro rfl
    exact hpassed
  · intro row hrow
    have hlength : row.length = columns.length := hrows row (List.mem_of_getLast? hrow)
    have hvalues : after.machine.state.passed = (Bindings.ofList (columns.zip row)).values := by
      rw [hpassed, Resultset.last?, Resultset.ofCells, List.getLast?_map, hrow]
      rfl
    have hcolumns : (columns.zip row).map Prod.fst = columns := List.map_fst_zip (by omega)
    rw [hvalues]
    refine ⟨?_, bindCells_values_iff hlength⟩
    rw [Bindings.values_ofList, hcolumns]

/-- Surroundings with a database that follows rules and without scripts. -/
def joining : Setup Rehearsal where
  client := .ofStyle .qmark Rehearsal.query
  source := (Scripts.ofList []).toSource

/-- A database that answers each select with one row of three cells, under given names. -/
def joinRules (columns : List String) : Rehearsal :=
  .ofRules [⟨"select", [.rows columns [[.value (.int 1), .value (.text "ann"), .value (.int 7)]]]⟩]

theorem joining_begins :
    Begins joining { state := { passed := [.int 5] } } ⟨.replace, "select $0", none⟩
      ⟨"select ?", [.int 5], "select $0"⟩ where
  admitted := rfl
  resolved := by with_unfolding_all rfl

/-- Three columns of three names are three parameters. -/
theorem distinct_columns_bound :
    let after := dispatch joining 1 0 ⟨.replace, "select $0", none⟩
      { state := { passed := [.int 5] } } { database := joinRules ["id", "name", "owner"] }
    BindCells after.machine.state.passed [.int 1, .text "ann", .int 7] := by
  obtain ⟨-, -, hrow⟩ := replace_binds_names joining 0 0 _ _
    { database := joinRules ["id", "name", "owner"] } _ ["id", "name", "owner"]
    [[.int 1, .text "ann", .int 7]] _ rfl joining_begins rfl (by simp)
  exact (hrow _ rfl).2.mpr (by decide)

/-- Three columns of two names are two parameters: the first cell is lost, and the last one
stands in its place. -/
theorem join_loses_column :
    let after := dispatch joining 1 0 ⟨.replace, "select $0", none⟩
      { state := { passed := [.int 5] } } { database := joinRules ["id", "name", "id"] }
    after.machine.state.passed = [.int 7, .text "ann"] ∧
      ¬ BindCells after.machine.state.passed [.int 1, .text "ann", .int 7] := by
  intro after
  have hpassed : after.machine.state.passed = [.int 7, .text "ann"] :=
    (dispatch_replace (.ofCells ["id", "name", "id"] [[.int 1, .text "ann", .int 7]]) rfl
      joining_begins rfl 0 0).2
  refine ⟨hpassed, ?_⟩
  rw [hpassed]
  intro hbound
  exact absurd hbound.length (by decide)

end Machine

end SqlScript
