/-
  What stays untouched.

  1. **Files.**  A file at a place stays as it is if the same bytes are there before and after, and
     none is there after if none was there before (`FileTree.SameFileAt`).  Directories that are
     made on the way are no file, so making them touches no file at all.

  2. **A failed append touches no file.**  The stylesheet is written last, and it is made only where
     nothing can fail any more.  So what a failed append leaves behind are directories at most
     (`sameFileAt_of_appendRule_error`), and a rejected target leaves the very same tree
     (`appendRule_rejected`), since targets are judged before anything is made.
-/
import ClassLift.Proofs.Containment

namespace ClassLift

namespace FileTree

variable {t t₁ t₂ : FileTree} {place q : Place}

/-! ## Files -/

/-- The file at a place stays as it is: one that is there keeps its bytes, and none is made. -/
def SameFileAt (t t' : FileTree) (q : Place) : Prop :=
  ∀ bytes, t'.get? q = some (.file bytes) ↔ t.get? q = some (.file bytes)

theorem SameFileAt.refl (t : FileTree) (q : Place) : t.SameFileAt t q := fun _ => Iff.rfl

theorem SameFileAt.trans (h₁ : t.SameFileAt t₁ q) (h₂ : t₁.SameFileAt t₂ q) :
    t.SameFileAt t₂ q := fun bytes => (h₂ bytes).trans (h₁ bytes)

/-- Where nothing has changed, or a directory is where nothing was, the file is the same. -/
theorem sameFileAt_of_get?
    (h : t₁.get? q = t.get? q ∨ (t.get? q = none ∧ t₁.get? q = some .directory)) :
    t.SameFileAt t₁ q := by
  intro bytes
  rcases h with hsame | ⟨hnone, hmade⟩
  · rw [hsame]
  · rw [hnone, hmade]
    simp

theorem DirectoriesAdded.sameFileAt (h : t.DirectoriesAdded t₁ place) (q : Place) :
    t.SameFileAt t₁ q := by
  rcases h q with hsame | ⟨hnone, hmade, -⟩
  · exact sameFileAt_of_get? (Or.inl hsame)
  · exact sameFileAt_of_get? (Or.inr ⟨hnone, hmade⟩)

theorem ChangedAt.sameFileAt (h : t.ChangedAt t₁ place) (hq : q ≠ place) : t.SameFileAt t₁ q := by
  rcases h.elsewhere q hq with hsame | ⟨hnone, hmade, -⟩
  · exact sameFileAt_of_get? (Or.inl hsame)
  · exact sameFileAt_of_get? (Or.inr ⟨hnone, hmade⟩)

/-- Where a file was there is a file still. -/
theorem ChangedAt.file_stays {bytes : ByteArray} (h : t.ChangedAt t₁ place)
    (hfile : t.get? q = some (.file bytes)) : ∃ bytes', t₁.get? q = some (.file bytes') := by
  by_cases hq : q = place
  · subst hq
    rcases h.here with hsame | hmade
    · exact ⟨bytes, hsame.trans hfile⟩
    · exact hmade
  · rcases h.elsewhere q hq with hsame | ⟨hnone, -⟩
    · exact ⟨bytes, hsame.trans hfile⟩
    · exact absurd (hnone.symm.trans hfile) (by simp)

end FileTree

/-! ## Failed appends -/

section

variable {t t' : FileTree} {root place : Place} {target css : Text} {e : StylesheetError}

/-- Opening a file fails before it is made, and never for the sake of the target. -/
theorem openFile_error (h : openFile t place = (t', .error e)) :
    t' = t ∧ ∀ target root why, e ≠ .rejected target root why := by
  have hkept : ∀ failed : StylesheetError, (∀ target root why, failed ≠ .rejected target root why) →
      ((t, .error failed) : FileTree × Except StylesheetError (ByteArray × Text)) =
        (t', .error e) → t' = t ∧ ∀ target root why, e ≠ .rejected target root why := by
    intro failed hreason hfailed
    obtain ⟨htree, herror⟩ := Prod.mk.inj hfailed
    rw [← Except.error.inj herror]
    exact ⟨htree.symm, hreason⟩
  rw [openFile] at h
  split at h
  case h_1 => exact hkept _ (by simp) h
  case h_2 => exact absurd (Prod.mk.inj h).2 (by simp)
  case h_3 => exact hkept _ (by simp) h
  case h_4 =>
    split at h
    case h_1 => exact hkept _ (by simp) h
    case h_2 => exact absurd (Prod.mk.inj h).2 (by simp)

/-- A stylesheet that could not be opened leaves every file as it was. -/
theorem openStylesheet_error (hwf : t.WellFormed) (hplace : IsPlace place)
    (h : openStylesheet t place = (t', .error e)) :
    (∀ q, t.SameFileAt t' q) ∧ ∀ target root why, e ≠ .rejected target root why := by
  have habove : IsPlace place.dropLast.reverse.reverse := by
    rw [List.reverse_reverse]
    exact hplace.dropLast
  rw [openStylesheet] at h
  split at h
  case h_1 t₁ failed hmade =>
    obtain ⟨rfl, hfailed⟩ := Prod.mk.inj h
    obtain rfl := Except.error.inj hfailed
    obtain ⟨-, hadded, -⟩ := hwf.makeDirectories_eq habove hmade
    exact ⟨hadded.sameFileAt, fun _ _ _ hne => by simp at hne⟩
  case h_2 t₁ hmade =>
    obtain ⟨-, hadded, -⟩ := hwf.makeDirectories_eq habove hmade
    obtain ⟨rfl, hreason⟩ := openFile_error h
    exact ⟨hadded.sameFileAt, hreason⟩

/-- An append fails because its target is not accepted, and then leaves the tree alone, or because
    the stylesheet cannot be opened. -/
theorem appendRule_error (h : appendRule t root target css = (t', .error e)) :
    (resolveStylesheet t root target = .error e ∧ t' = t) ∨
      ∃ place, resolveStylesheet t root target = .ok place ∧
        openStylesheet t place = (t', .error e) := by
  rw [appendRule] at h
  split at h
  case h_1 hresolved =>
    obtain ⟨rfl, hfailed⟩ := Prod.mk.inj h
    obtain rfl := Except.error.inj hfailed
    exact Or.inl ⟨hresolved, rfl⟩
  case h_2 place hresolved =>
    split at h
    case isTrue => exact absurd (Prod.mk.inj h).2 (by simp)
    case isFalse =>
      split at h
      case h_1 hopen =>
        obtain ⟨rfl, hfailed⟩ := Prod.mk.inj h
        obtain rfl := Except.error.inj hfailed
        exact Or.inr ⟨place, hresolved, hopen⟩
      case h_2 => exact absurd (Prod.mk.inj h).2 (by simp)

variable (hwf : t.WellFormed) (hroot : IsPlace root)
include hwf hroot

/-- **A failed append leaves every file as it was.** -/
theorem sameFileAt_of_appendRule_error (h : appendRule t root target css = (t', .error e))
    (q : Place) : t.SameFileAt t' q := by
  rcases appendRule_error h with ⟨-, rfl⟩ | ⟨place, hresolved, hopen⟩
  · exact FileTree.SameFileAt.refl _ q
  · obtain ⟨hplace, -⟩ := resolveStylesheet_again hwf hroot hresolved
    exact (openStylesheet_error hwf hplace hopen).1 q

/-- **A rejected target leaves the tree as it was.** -/
theorem appendRule_rejected {shown : Text} {above : Place} {why : Rejection}
    (h : appendRule t root target css = (t', .error (.rejected shown above why))) : t' = t := by
  rcases appendRule_error h with ⟨-, rfl⟩ | ⟨place, hresolved, hopen⟩
  · rfl
  · obtain ⟨hplace, -⟩ := resolveStylesheet_again hwf hroot hresolved
    exact absurd rfl ((openStylesheet_error hwf hplace hopen).2 shown above why)

/-- Appending keeps a tree well-formed, also where it fails. -/
theorem wellFormed_of_appendRule {result : Except StylesheetError Place}
    (h : appendRule t root target css = (t', result)) : t'.WellFormed := by
  cases hresolved : resolveStylesheet t root target with
  | error e =>
    rw [appendRule, hresolved] at h
    exact (Prod.mk.inj h).1 ▸ hwf
  | ok place => exact (appendRule_accepted hwf hroot hresolved h).1

end

end ClassLift
