/-
  Histories: what becomes of a tree when one thing after another is asked for.

  An action takes a tree and something that is asked for, and gives a tree and an answer.  What is
  asked for next finds the tree that was left.  So a history is a list of steps, and what an action
  promises for ONE step in a well-formed tree it promises for every step of every history, provided
  that it leaves a well-formed tree behind (`forall_mem_history`).  This induction is done here once.
-/
import ClassLift.Proofs.Trees

namespace ClassLift

variable {α β : Type}

/-- One step: what was asked for and answered, and the tree before and after. -/
structure Step (α β : Type) where
  before : FileTree
  asked : α
  after : FileTree
  answer : β

/-- One thing after another is asked for, each in the tree that the one before it left. -/
def history (act : FileTree → α → FileTree × β) : FileTree → List α → List (Step α β)
  | _, [] => []
  | t, a :: rest => ⟨t, a, (act t a).1, (act t a).2⟩ :: history act (act t a).1 rest

/-- The tree that is left in the end. -/
def lastTree (act : FileTree → α → FileTree × β) (t : FileTree) (asked : List α) : FileTree :=
  asked.foldl (fun t a => (act t a).1) t

variable {act : FileTree → α → FileTree × β}

@[simp]
theorem history_cons (t : FileTree) (a : α) (rest : List α) :
    history act t (a :: rest) =
      ⟨t, a, (act t a).1, (act t a).2⟩ :: history act (act t a).1 rest := rfl

@[simp]
theorem lastTree_cons (t : FileTree) (a : α) (rest : List α) :
    lastTree act t (a :: rest) = lastTree act (act t a).1 rest := rfl

/-- **What holds of one step holds of every step of a history.** -/
theorem forall_mem_history {p : Step α β → Prop} {t : FileTree} (hwf : t.WellFormed)
    (hkeep : ∀ t : FileTree, t.WellFormed → ∀ a, (act t a).1.WellFormed)
    (hstep : ∀ t : FileTree, t.WellFormed → ∀ a, p ⟨t, a, (act t a).1, (act t a).2⟩)
    (asked : List α) : ∀ step ∈ history act t asked, p step := by
  induction asked generalizing t with
  | nil => exact fun step h => absurd h List.not_mem_nil
  | cons a rest ih =>
    intro step h
    rw [history_cons] at h
    rcases List.mem_cons.mp h with rfl | h
    · exact hstep t hwf a
    · exact ih (hkeep t hwf a) step h

end ClassLift
