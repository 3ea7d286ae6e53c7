/-
  Appends that stop halfway.

  1. **Only directories are ever made too early.**  The stylesheet itself is made where nothing can
     fail any more, so what a failed append may leave behind are directories on the way to it.

  2. **And only one fault comes that late.**  A file in the way, a directory in the place of the
     stylesheet and bytes that are no text are met where everything above them is there already, so
     nothing had to be made.  An overlong name is DIFFERENT: a missing part hides it from the first
     look (the first obstacle is the fault), and it comes to light when all that is missing above it
     is made (`FileTree.StoppedAt`).

  3. **By induction on the names**, making directories fails without having made any, or has stopped at
     an overlong name (`makeDirectories_error`).  The name of the stylesheet is one more name
     behind them, so the same two cases are left for the whole append (`failed_append_leaves`).
-/
import ClassLift.Proofs.Untouched
import ClassLift.Rule

namespace ClassLift

namespace FileTree

variable {t t' : FileTree} {place above q : Place} {name : Text}

/-! ## What is left of a step that was stopped -/

/-- `t'` is `t` with a directory wherever nothing was on the way to a place, and at the place. -/
def FilledTo (t t' : FileTree) (above : Place) : Prop :=
  ∀ q, t'.get? q = if q <+: above then (t.get? q).or (some .directory) else t.get? q

/-- Something on the way to `place` was stopped at an overlong name: what was missing above that name
    has been made, and nothing else. -/
structure StoppedAt (t t' : FileTree) (place above : Place) (name : Text) : Prop where
  way : above ++ [name] <+: place
  overlong : nameLimit < utf8Length name
  missing : t.get? above = none
  made : t.FilledTo t' above

/-- Above a directory there are directories. -/
theorem WellFormed.get?_of_prefix (hwf : t.WellFormed) (h : t.get? place = some .directory)
    (hq : q <+: place) : t.get? q = some .directory := by
  induction place using List.reverseRecOn with
  | nil =>
    rw [List.prefix_nil.mp hq]
    exact get?_nil t
  | append_singleton above name ih =>
    rcases List.prefix_concat_iff.mp hq with rfl | hq
    · exact h
    · have hparent := hwf.parent h
      rw [List.dropLast_concat] at hparent
      exact ih hparent hq

/-- Directories that were added on the way to a place that is one now fill the way. -/
theorem DirectoriesAdded.filledTo (hadded : t.DirectoriesAdded t' above) (hwf : t'.WellFormed)
    (hthere : t'.get? above = some .directory) : t.FilledTo t' above := by
  intro q
  rcases hadded q with hsame | ⟨hnone, hmade, hway⟩
  · split
    case isTrue hway =>
      have hdirectory := hwf.get?_of_prefix hthere hway
      rw [← hsame, hdirectory]
      rfl
    case isFalse => exact hsame
  · rw [if_pos hway, hnone, hmade]
    rfl

/-! ## One name -/

theorem settle_of_overlong {fault : PathFault} (h : t.findPlace place = .error .nameTooLong) :
    t.settle place fault = .error ⟨.nameTooLong, placeText place⟩ := by
  rw [settle, isDirectory, findIfAny, h]
  rfl

section

variable (hwf : t.WellFormed)
include hwf

/-- A name that could not be made for want of its parent. -/
theorem WellFormed.missing_of_makeDirectory (h : t.makeDirectory place = .error .noEntry) :
    t.findPlace place = .error .noEntry ∧ t.get? place.dropLast = none := by
  rw [makeDirectory] at h
  split at h
  case h_1 => exact absurd h (by simp)
  case h_2 hmissing =>
    split at h
    case h_1 => exact absurd h (by simp)
    case h_2 hparent => exact ⟨hmissing, hwf.get?_eq_none hparent⟩
  case h_3 hother _ => exact absurd (Except.error.inj h) hother

/-- **In a directory, only an overlong name keeps a directory from being made** where nothing is. -/
theorem WellFormed.makeDirectory_concat (hname : IsName name)
    (hdirectory : t.get? above = some .directory) (hnone : t.get? (above ++ [name]) = none)
    (hpath : utf8Length (placeText (above ++ [name])) ≤ pathLimit) :
    t.makeDirectory (above ++ [name]) =
      if nameLimit < utf8Length name then .error .nameTooLong
      else .ok (t.set (above ++ [name]) .directory) := by
  rw [makeDirectory, hwf.findPlace_concat hname hdirectory hpath, List.dropLast_concat,
    hwf.findPlace_of_get? hdirectory, hnone]
  by_cases hlong : nameLimit < utf8Length name
  · rw [if_pos hlong, if_pos hlong]
  · rw [if_neg hlong, if_neg hlong]

/-! ## All names -/

/-- **Making directories fails without having made any, or was stopped at an overlong name.**  The
    names are given from the last one to the first. -/
theorem WellFormed.makeDirectories_error {names : List Text} {e : PathError}
    (hplace : IsPlace names.reverse) (h : t.makeDirectories names = (t', .error e)) :
    t' = t ∨ ∃ above name, t.StoppedAt t' names.reverse above name ∧
      e = ⟨.nameTooLong, placeText (above ++ [name])⟩ := by
  induction names generalizing t' e with
  | nil => exact absurd (Prod.mk.inj h).2 (by simp)
  | cons name above ih =>
    rw [List.reverse_cons] at hplace ⊢
    obtain ⟨habove, hname⟩ := isPlace_concat.mp hplace
    rw [makeDirectories, List.reverse_cons] at h
    split at h
    case h_1 => exact absurd (Prod.mk.inj h).2 (by simp)
    case h_2 hmake =>
      split at h
      case h_1 stopped e' hstopped =>
        -- what is above it could not be made
        obtain ⟨rfl, hfailed⟩ := Prod.mk.inj h
        obtain rfl := Except.error.inj hfailed
        rcases ih habove hstopped with hsame | ⟨above', name', hstop, htold⟩
        · exact Or.inl hsame
        · have hway := hstop.way.trans (List.prefix_append above.reverse [name])
          exact Or.inr ⟨above', name', { hstop with way := hway }, htold⟩
      case h_2 ready hready =>
        -- what is above it is there now, so it is this name that is overlong
        obtain ⟨hlost, hmissing⟩ := hwf.missing_of_makeDirectory hmake
        rw [List.dropLast_concat] at hmissing
        obtain ⟨hwf', hadded, hthere⟩ := hwf.makeDirectories_eq habove hready
        have hdirectory := hthere rfl
        have hpath := path_of_findPlace (by rw [hlost]; simp)
        have hway : t.DirectoriesAdded ready (above.reverse ++ [name]).dropLast := by
          rw [List.dropLast_concat]
          exact hadded
        have hnone : ready.get? (above.reverse ++ [name]) = none := by
          rw [hway.get?_eq (List.concat_ne_nil name above.reverse), hwf.get?_eq_none hlost]
        rw [hwf'.makeDirectory_concat hname hdirectory hnone hpath] at h
        by_cases hlong : nameLimit < utf8Length name
        · rw [if_pos hlong] at h
          have hshown : ready.findPlace (above.reverse ++ [name]) = .error .nameTooLong := by
            rw [hwf'.findPlace_concat hname hdirectory hpath, if_pos hlong]
          dsimp only at h
          rw [settle_of_overlong hshown] at h
          obtain ⟨rfl, hfailed⟩ := Prod.mk.inj h
          obtain rfl := Except.error.inj hfailed
          exact Or.inr ⟨above.reverse, name, ⟨List.prefix_refl _, hlong, hmissing,
            hadded.filledTo hwf' hdirectory⟩, rfl⟩
        · rw [if_neg hlong] at h
          exact absurd (Prod.mk.inj h).2 (by simp)
    case h_3 =>
      obtain ⟨rfl, -⟩ := Prod.mk.inj h
      exact Or.inl rfl

end

end FileTree

/-! ## The append -/

section

variable {t t' : FileTree} {root place : Place} {target css : Text} {e : StylesheetError}

/-- **Opening a stylesheet fails without having made anything, or was stopped at an overlong name**: one
    of a directory or that of the stylesheet. -/
theorem openStylesheet_leaves (hwf : t.WellFormed) (hplace : IsPlace place)
    (hfree : t.get? place ≠ some .directory) (hshort : t.findPlace place ≠ .error .nameTooLong)
    (h : openStylesheet t place = (t', .error e)) :
    t' = t ∨ ∃ above name, t.StoppedAt t' place above name ∧
      e = .system ⟨.nameTooLong, placeText (above ++ [name])⟩ := by
  cases place using List.reverseRecOn with
  | nil => exact absurd (FileTree.get?_nil t) hfree
  | append_singleton above name =>
    obtain ⟨habove, hname⟩ := isPlace_concat.mp hplace
    have hreverse : IsPlace above.reverse.reverse := by
      rw [List.reverse_reverse]
      exact habove
    rw [openStylesheet, List.dropLast_concat] at h
    split at h
    case h_1 t₁ failed hmade =>
      obtain ⟨rfl, hfailed⟩ := Prod.mk.inj h
      obtain rfl := Except.error.inj hfailed
      have hleft := hwf.makeDirectories_error hreverse hmade
      rw [List.reverse_reverse] at hleft
      rcases hleft with hsame | ⟨above', name', hstop, rfl⟩
      · exact Or.inl hsame
      · have hway := hstop.way.trans (List.prefix_append above [name])
        exact Or.inr ⟨above', name', { hstop with way := hway }, rfl⟩
    case h_2 t₁ hmade =>
      obtain ⟨rfl, -⟩ := openFile_error h
      by_cases hparent : t.get? above = some .directory
      · -- nothing had to be made
        rw [← List.reverse_reverse above] at hparent
        rw [hwf.makeDirectories_of_directory hparent] at hmade
        exact Or.inl (Prod.mk.inj hmade).1.symm
      · -- all that is missing is made, and the file is to be made in it
        obtain ⟨hwf', hadded, hthere⟩ := hwf.makeDirectories_eq hreverse hmade
        rw [List.reverse_reverse] at hadded hthere
        have hdirectory := hthere rfl
        have hmissing : t.get? above = none := by
          rcases hadded above with hsame | ⟨hnone, -, -⟩
          · exact absurd (hsame.symm.trans hdirectory) hparent
          · exact hnone
        have hnone : t.get? (above ++ [name]) = none := by
          by_contra hnode
          obtain ⟨node, hnode⟩ := Option.ne_none_iff_exists'.mp hnode
          have habove := hwf.parent hnode
          rw [List.dropLast_concat] at habove
          exact hparent habove
        have hway : t.DirectoriesAdded t' (above ++ [name]).dropLast := by
          rw [List.dropLast_concat]
          exact hadded
        rw [openFile, FileTree.findIfAny,
          hwf'.findPlace_concat hname hdirectory (FileTree.path_of_findPlace hshort),
          hway.get?_eq (List.concat_ne_nil name above), hnone] at h
        by_cases hlong : FileTree.nameLimit < utf8Length name
        · rw [if_pos hlong] at h
          obtain rfl := Except.error.inj (Prod.mk.inj h).2
          exact Or.inr ⟨above, name, ⟨List.prefix_refl _, hlong, hmissing,
            hadded.filledTo hwf' hdirectory⟩, rfl⟩
        · rw [if_neg hlong] at h
          exact absurd (Prod.mk.inj h).2 (by simp)

/-- **A failed append leaves the workspace as it was, unless a name is too long below a directory that is
    missing.**  No file is changed or made in any case.  If anything is different afterwards, the target
    leads to a place in the workspace, some name on the way to it is overlong and is what the error
    tells, and the difference is that the directories above that name, which were missing, have been
    made. -/
theorem failed_append_leaves (hwf : t.WellFormed) (hroot : IsPlace root)
    (h : appendRule t root target css = (t', .error e)) :
    (t' = t ∨ ∃ place above name, resolveStylesheet t root target = .ok place ∧
      t.StoppedAt t' place above name ∧
      e = .system ⟨.nameTooLong, placeText (above ++ [name])⟩) ∧
    ∀ q, t.SameFileAt t' q := by
  refine ⟨?_, sameFileAt_of_appendRule_error hwf hroot h⟩
  rcases appendRule_error h with ⟨-, rfl⟩ | ⟨place, hresolved, hopen⟩
  · exact Or.inl rfl
  · obtain ⟨hplace, -⟩ := resolveStylesheet_again hwf hroot hresolved
    obtain ⟨-, -, -, -, hfree, hshort⟩ := (resolveStylesheet_eq_ok_iff hwf hroot).mp hresolved
    rcases openStylesheet_leaves hwf hplace hfree hshort hopen with hsame | ⟨above, name, hstop, he⟩
    · exact Or.inl hsame
    · exact Or.inr ⟨place, above, name, hresolved, hstop, he⟩

end

/-- A rule to append. -/
def cardRule : Text := flatRule "card".toList ["flex".toList]

/-- A file in the way of a directory is met before anything is made. -/
theorem failed_append_leaves_sheet :
    ∃ t', appendRule (sheetTree "a".toList) ["w".toList] "app.css/x.css".toList cardRule =
        (t', .error (.system ⟨.alreadyThere, "/w/app.css".toList⟩)) ∧
      t' = sheetTree "a".toList := by
  have hfails : (appendRule (sheetTree "a".toList) ["w".toList] "app.css/x.css".toList
      cardRule).2 = .error (.system ⟨.alreadyThere, "/w/app.css".toList⟩) := by decide +kernel
  rcases happend : appendRule (sheetTree "a".toList) ["w".toList] "app.css/x.css".toList
    cardRule with ⟨t', result⟩
  rw [happend] at hfails
  obtain rfl : result = .error (.system ⟨.alreadyThere, "/w/app.css".toList⟩) := hfails
  refine ⟨t', rfl, ?_⟩
  obtain ⟨hsame | ⟨place, above, name, -, -, hlong⟩, -⟩ :=
    failed_append_leaves (wellFormed_sheetTree _) (by decide) happend
  · exact hsame
  · have hfault : PathFault.alreadyThere = .nameTooLong :=
      congrArg PathError.fault (StylesheetError.system.inj hlong)
    exact absurd hfault (by decide)

/-- **A name of 256 bytes in a missing directory**: the directory is made, the stylesheet is not. -/
theorem overlong_name_leaves_directory :
    workspaceTree.get? ["w".toList, "x".toList] = none ∧
    ∃ t' e, appendRule workspaceTree ["w".toList] ("x/".toList ++ List.replicate 256 'n')
        cardRule = (t', .error e) ∧
      t'.get? ["w".toList, "x".toList] = some .directory := by
  have hfails : (appendRule workspaceTree ["w".toList] ("x/".toList ++ List.replicate 256 'n')
      cardRule).2 = .error (.system ⟨.nameTooLong, "/w/x/".toList ++ List.replicate 256 'n'⟩) := by
    decide +kernel
  have hthere : (appendRule workspaceTree ["w".toList] ("x/".toList ++ List.replicate 256 'n')
      cardRule).1.isDirectory ["w".toList, "x".toList] = .ok true := by
    decide +kernel
  rcases happend : appendRule workspaceTree ["w".toList]
    ("x/".toList ++ List.replicate 256 'n') cardRule with ⟨t', result⟩
  have hwf : t'.WellFormed := wellFormed_of_appendRule wellFormed_workspaceTree (by decide) happend
  rw [happend] at hfails hthere
  obtain rfl : result = _ := hfails
  exact ⟨rfl, t', _, rfl, (hwf.get?_of_isDirectory (by decide) hthere).mp rfl⟩

end ClassLift
