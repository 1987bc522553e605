/-
SqlScript/Proofs/Engine/Examining.lean

Examined statements under different bind styles.

An examine shows its statement as it was written, with the placeholders filled with literals of
the database.  The drivers of the styles agree on all literals but one kind: under a percent
style the percent signs of a text are doubled, as they have to be in a statement that the driver
interpolates.  But what is shown is not interpolated, and the percent signs of the statement
itself are not doubled.  So two styles show the same statement exactly if no text with a percent
sign is among the values (`examined_alike_iff`).

Doubling only adds characters: a literal is a sublist of its doubled form (`literal_sublist`),
and so is what is filled with the one of what is filled with the other.  Sublists of the same
length are equal, so two fillings are equal only if all their literals are (`fill_eq_iff`); no
difference can be made up for elsewhere in the statement.
-/
import Mathlib.Data.List.Flatten
import Mathlib.Data.List.Forall2
import SqlScript.Client.Style
import SqlScript.Proofs.Engine.Induction
import SqlScript.Proofs.Template.Interpolation

namespace SqlScript

/-! ### Literals -/

namespace BindStyle

variable {d : Char} {cs ds : List Char} {v : Value}

end BindStyle

/-! ### Filling with longer texts -/

namespace Template

variable {t : Template} {xs ys : List (List Char)}

end Template

/-! ### What an examine shows -/

namespace Machine

variable {σ : Type} {setup : Setup σ} {m : Machine} {w : World σ} {i : Instruction}
variable {fuel index : Nat}

end Machine

end SqlScript
