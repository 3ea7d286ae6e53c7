/-
  Appending to a stylesheet: what it changes in the tree.

  1. **Frame.**  Appending at a place changes the file at that place and makes directories that were
     missing on the way to it; every other place stays as it was (`FileTree.ChangedAt`).  The frame
     holds for each of the steps (making directories, opening the file, writing it) and is kept when
     one step follows another, so it holds for the whole, also where a step fails halfway.

  2. **Contents.**  Where the file could be opened, it is there with the bytes it had, or is new
     and holds none (`openStylesheet_eq`).  So what it holds in the end are these bytes, the
     separator and the rule (`appendRule_eq`).
-/
import ClassLift.Stylesheet
import ClassLift.Proofs.Trees

namespace ClassLift

/-! ## The frame -/

/-- `t'` is `t` with another file at a place, and directories that were missing on the way to it. -/
structure FileTree.ChangedAt (t t' : FileTree) (place : Place) : Prop where
  elsewhere : ∀ q, q ≠ place →
    t'.get? q = t.get? q ∨ (t.get? q = none ∧ t'.get? q = some .directory ∧ q <+: place)
  here : t'.get? place = t.get? place ∨ ∃ bytes, t'.get? place = some (.file bytes)

namespace FileTree.ChangedAt

variable {t t₁ t₂ : FileTree} {place : Place}

theorem refl (t : FileTree) (place : Place) : t.ChangedAt t place :=
  ⟨fun _ _ => Or.inl rfl, Or.inl rfl⟩

/-- The frame is kept from step to step.  A directory that was made by the first step is not missing for
    the second. -/
theorem trans (h₁ : t.ChangedAt t₁ place) (h₂ : t₁.ChangedAt t₂ place) : t.ChangedAt t₂ place := by
  constructor
  · intro q hq
    rcases h₂.elsewhere q hq with hsame | ⟨hnone, hmade, hway⟩
    · rw [hsame]
      exact h₁.elsewhere q hq
    · rcases h₁.elsewhere q hq with hsame | ⟨hnone', -, -⟩
      · exact Or.inr ⟨hsame.symm.trans hnone, hmade, hway⟩
      · exact Or.inr ⟨hnone', hmade, hway⟩
  · rcases h₂.here with hsame | hfile
    · rw [hsame]
      exact h₁.here
    · exact Or.inr hfile

/-- A file that is put at a place. -/
theorem set_file (hne : place ≠ []) (bytes : ByteArray) :
    t.ChangedAt (t.set place (.file bytes)) place :=
  ⟨fun _ hq => Or.inl (get?_set_ne hne _ hq), Or.inr ⟨bytes, get?_set_self hne _⟩⟩

/-- Directories on the way to the parent of a place; the place itself is none of them. -/
theorem of_directories (hne : place ≠ []) (h : t.DirectoriesAdded t₁ place.dropLast) :
    t.ChangedAt t₁ place := by
  constructor
  · intro q _
    rcases h q with hsame | ⟨hnone, hmade, hway⟩
    · exact Or.inl hsame
    · exact Or.inr ⟨hnone, hmade, hway.trans (List.dropLast_prefix place)⟩
  · exact Or.inl (h.get?_eq hne)

end FileTree.ChangedAt

/-! ## Opening -/

/-- What a stylesheet holds before a rule is appended: the bytes of the file that is there, or
    none. -/
structure IsOpened (t t' : FileTree) (place : Place) (bytes : ByteArray) (existing : Text) :
    Prop where
  text : readText? bytes = some existing
  old : t.get? place = some (.file bytes) ∨ t.get? place = none ∧ bytes = utf8 []
  new : t'.get? place = some (.file bytes)

section

variable {t t' : FileTree} {place : Place}
  {result : Except StylesheetError (ByteArray × Text)}

/-- Opening the file changes it only by making it, in a directory. -/
theorem openFile_eq (hwf : t.WellFormed) (hplace : IsPlace place)
    (hparent : t.get? place.dropLast = some .directory) (hfree : t.get? place ≠ some .directory)
    (h : openFile t place = (t', result)) :
    t'.WellFormed ∧ t.ChangedAt t' place ∧
      ∀ bytes existing, result = .ok (bytes, existing) →
        IsOpened t t' place bytes existing := by
  have hne : place ≠ [] := FileTree.ne_nil_of_get? hfree
  have hrefl : t.ChangedAt t place := FileTree.ChangedAt.refl t place
  rw [openFile] at h
  split at h
  case h_1 =>
    obtain ⟨rfl, rfl⟩ := Prod.mk.inj h
    exact ⟨hwf, hrefl, fun _ _ hok => by simp at hok⟩
  case h_2 hfound =>
    -- nothing is there, so the file is made
    obtain ⟨rfl, rfl⟩ := Prod.mk.inj h
    have hnone : t.get? place = none := hwf.get?_of_findIfAny hplace hfound
    have hname : FileTree.CanName place := by
      refine hwf.canName_of_findPlace hplace hparent fun hlong => ?_
      rw [FileTree.findIfAny, hlong] at hfound
      exact absurd hfound (by simp)
    refine ⟨hwf.set hname hparent hfree _, FileTree.ChangedAt.set_file hne _, ?_⟩
    intro bytes existing hok
    obtain ⟨rfl, rfl⟩ := Prod.mk.inj (Except.ok.inj hok)
    exact ⟨by decide, Or.inr ⟨hnone, rfl⟩, FileTree.get?_set_self hne _⟩
  case h_3 =>
    -- a directory is there
    obtain ⟨rfl, rfl⟩ := Prod.mk.inj h
    exact ⟨hwf, hrefl, fun _ _ hok => by simp at hok⟩
  case h_4 held hfound =>
    have hfile : t.get? place = some (.file held) := hwf.get?_of_findIfAny hplace hfound
    split at h
    case h_1 =>
      obtain ⟨rfl, rfl⟩ := Prod.mk.inj h
      exact ⟨hwf, hrefl, fun _ _ hok => by simp at hok⟩
    case h_2 read hread =>
      obtain ⟨rfl, rfl⟩ := Prod.mk.inj h
      refine ⟨hwf, hrefl, fun bytes existing hok => ?_⟩
      obtain ⟨rfl, rfl⟩ := Prod.mk.inj (Except.ok.inj hok)
      exact ⟨hread, Or.inl hfile, hfile⟩

/-- **Opening a stylesheet** makes what is missing on the way to it, and the file if there is none.
    -/
theorem openStylesheet_eq (hwf : t.WellFormed) (hplace : IsPlace place)
    (hfree : t.get? place ≠ some .directory) (h : openStylesheet t place = (t', result)) :
    t'.WellFormed ∧ t.ChangedAt t' place ∧
      ∀ bytes existing, result = .ok (bytes, existing) →
        IsOpened t t' place bytes existing := by
  have hne : place ≠ [] := FileTree.ne_nil_of_get? hfree
  have habove : IsPlace place.dropLast.reverse.reverse := by
    rw [List.reverse_reverse]
    exact hplace.dropLast
  rw [openStylesheet] at h
  split at h
  case h_1 t₁ e hmade =>
    -- the directories could not all be made, and some of them may have been
    obtain ⟨rfl, rfl⟩ := Prod.mk.inj h
    obtain ⟨hwf₁, hadded, -⟩ := hwf.makeDirectories_eq habove hmade
    rw [List.reverse_reverse] at hadded
    exact ⟨hwf₁, FileTree.ChangedAt.of_directories hne hadded, fun _ _ hok => by simp at hok⟩
  case h_2 t₁ hmade =>
    obtain ⟨hwf₁, hadded, hthere⟩ := hwf.makeDirectories_eq habove hmade
    rw [List.reverse_reverse] at hadded hthere
    have hchanged := FileTree.ChangedAt.of_directories hne hadded
    have hsame : t₁.get? place = t.get? place := hadded.get?_eq hne
    obtain ⟨hwf', hchanged', hopened⟩ :=
      openFile_eq hwf₁ hplace (hthere rfl) (by rw [hsame]; exact hfree) h
    refine ⟨hwf', hchanged.trans hchanged', fun bytes existing hok => ?_⟩
    obtain ⟨htext, hold, hnew⟩ := hopened bytes existing hok
    rw [hsame] at hold
    exact ⟨htext, hold, hnew⟩

/-- A text file is opened as it is: its directory is there, so nothing is made. -/
theorem openStylesheet_of_file {bytes : ByteArray} {existing : Text} (hwf : t.WellFormed)
    (hfile : t.get? place = some (.file bytes)) (hread : readText? bytes = some existing) :
    openStylesheet t place = (t, .ok (bytes, existing)) := by
  have hparent : t.get? place.dropLast.reverse.reverse = some .directory := by
    rw [List.reverse_reverse]
    exact hwf.parent hfile
  rw [openStylesheet, hwf.makeDirectories_of_directory hparent]
  show openFile t place = _
  rw [openFile, FileTree.findIfAny, hwf.findPlace_of_get? hfile]
  dsimp only
  rw [hread]

end

/-! ## Appending -/

/-- A place that is answered was resolved, in the tree as it was before anything was made. -/
theorem resolve_of_appendRule {t t' : FileTree} {root place : Place} {target css : Text}
    (h : appendRule t root target css = (t', .ok place)) :
    resolveStylesheet t root target = .ok place := by
  rw [appendRule] at h
  split at h
  case h_1 => exact absurd (Prod.mk.inj h).2 (by simp)
  case h_2 resolved hresolved =>
    rw [hresolved]
    split at h
    case isTrue => exact (Prod.mk.inj h).2
    case isFalse =>
      split at h
      case h_1 => exact absurd (Prod.mk.inj h).2 (by simp)
      case h_2 => exact (Prod.mk.inj h).2

/-- **What appending a rule does** once the stylesheet is known: it changes nothing but the
    stylesheet and what is missing on the way to it, and if it succeeds with a rule that is not
    empty, the stylesheet holds what it held, the separator and the rule. -/
theorem appendRule_eq {t t' : FileTree} {root place : Place} {target css : Text}
    {result : Except StylesheetError Place} (hwf : t.WellFormed) (hplace : IsPlace place)
    (hresolved : resolveStylesheet t root target = .ok place)
    (hfree : t.get? place ≠ some .directory)
    (h : appendRule t root target css = (t', result)) :
    t'.WellFormed ∧ t.ChangedAt t' place ∧
      ∀ p, result = .ok p → p = place ∧ (css ≠ [] → ∃ bytes existing,
        readText? bytes = some existing ∧
        (t.get? place = some (.file bytes) ∨ t.get? place = none ∧ bytes = utf8 []) ∧
        t'.get? place = some (.file (bytes ++ utf8 (separator existing ++ css)))) := by
  have hne : place ≠ [] := FileTree.ne_nil_of_get? hfree
  rw [appendRule, hresolved] at h
  dsimp only at h
  split at h
  case isTrue hempty =>
    -- an empty rule is not appended
    obtain ⟨rfl, rfl⟩ := Prod.mk.inj h
    refine ⟨hwf, FileTree.ChangedAt.refl t place, fun p hp => ?_⟩
    exact ⟨(Except.ok.inj hp).symm, fun hsome => absurd (List.isEmpty_iff.mp hempty) hsome⟩
  case isFalse =>
    split at h
    case h_1 t₁ e hopen =>
      obtain ⟨rfl, rfl⟩ := Prod.mk.inj h
      obtain ⟨hwf₁, hchanged, -⟩ := openStylesheet_eq hwf hplace hfree hopen
      exact ⟨hwf₁, hchanged, fun _ hok => by simp at hok⟩
    case h_2 t₁ bytes existing hopen =>
      obtain ⟨rfl, rfl⟩ := Prod.mk.inj h
      obtain ⟨hwf₁, hchanged, hopened⟩ := openStylesheet_eq hwf hplace hfree hopen
      obtain ⟨htext, hold, hnew⟩ := hopened bytes existing rfl
      -- what was opened is a file, so it may be written again
      have hparent := hwf₁.parent hnew
      have hfile : t₁.get? place ≠ some .directory := by
        rw [hnew]
        simp
      refine ⟨hwf₁.set (hwf₁.named hnew) hparent hfile _,
        hchanged.trans (FileTree.ChangedAt.set_file hne _), fun p hp => ?_⟩
      exact ⟨(Except.ok.inj hp).symm, fun _ =>
        ⟨bytes, existing, htext, hold, FileTree.get?_set_self hne _⟩⟩

/-- **Appending to a text file succeeds** and writes nothing but that file. -/
theorem appendRule_of_file {t : FileTree} {root place : Place} {target css existing : Text}
    {bytes : ByteArray} (hwf : t.WellFormed)
    (hresolved : resolveStylesheet t root target = .ok place) (hcss : css ≠ [])
    (hfile : t.get? place = some (.file bytes)) (hread : readText? bytes = some existing) :
    appendRule t root target css =
      (t.set place (.file (bytes ++ utf8 (separator existing ++ css))), .ok place) := by
  have hsome : ¬css.isEmpty = true := mt List.isEmpty_iff.mp hcss
  rw [appendRule, hresolved]
  dsimp only
  rw [if_neg hsome, openStylesheet_of_file hwf hfile hread]

end ClassLift
