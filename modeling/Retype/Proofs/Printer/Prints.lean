import Retype.Printer.Program
import Retype.Proofs.Pass.Exposed

/-!
# What printing meets

Printing a tree in which only strays are of the Flow dialect has one way to fail: it meets a stray.
`Prints` says that of one step of printing and of the strays below the nodes that it prints.
-/

namespace Retype

open Printer

variable {α β γ : Type}

/-- A step of printing gives a text if there are no strays, and stops at a stray otherwise. -/
inductive Prints (ss : List Node) : Except Failure α → Prop where
  | text (none : ss = []) (a : α) : Prints ss (.ok a)
  | stops {s : Node} (stray : s ∈ ss) : Prints ss (unprintable s)

namespace Prints

variable {ss ts : List Node} {x : Except Failure α}

theorem ok (a : α) : Prints [] (.ok a) := .text rfl a

theorem map (prints : Prints ss x) (f : α → β) : Prints ss (x >>= fun a => pure (f a)) := by
  cases prints with
  | text none a => exact .text none (f a)
  | stops stray => exact .stops stray

/-- Only which nodes are strays counts. -/
theorem of_mem (prints : Prints ss x) (same : ∀ s, s ∈ ss ↔ s ∈ ts) : Prints ts x := by
  cases prints with
  | text none a => exact .text (List.eq_nil_iff_forall_not_mem.mpr fun s => by simp [← same, none]) a
  | stops stray => exact .stops ((same _).mp stray)

theorem ok_of_nil (prints : Prints [] x) : ∃ a, x = .ok a := by
  cases prints with
  | text _ a => exact ⟨a, rfl⟩
  | stops stray => exact absurd stray List.not_mem_nil

end Prints

/-! ## Rows -/

section Rows

/-- The strays of trees in a row. -/
def strayRow (ns : List Node) : List Node := ns.flatMap Node.allStrays

@[simp]
theorem strayRow_nil : strayRow [] = [] := rfl

@[simp]
theorem strayRow_cons (n : Node) (ns : List Node) : strayRow (n :: ns) = n.allStrays ++ strayRow ns :=
  rfl

theorem strayRow_singleton (n : Node) : strayRow [n] = n.allStrays := List.append_nil _

@[simp]
theorem strayRow_append (ms ns : List Node) : strayRow (ms ++ ns) = strayRow ms ++ strayRow ns :=
  List.flatMap_append

end Rows

end Retype
