/-
  Stylesheets stay inside the workspace.

  1. **The place is settled first.**  A target leads to a place by its parts alone, without a look
     at the tree, and the root is compared with that place part by part.  So no spelling of a
     target leads out of the workspace, and the place is accepted exactly if it lies strictly below
     the root, no directory stands there and the system can look it up
     (`resolveStylesheet_eq_ok_iff`).

  2. **Resolving twice.**  The text of an accepted place is absolute and spells that place, so it
     leads there again.

  3. **Appending** changes the tree at the accepted place and on the way to it, and a target that is
     rejected changes nothing (`get?_appendRule`).
-/
import ClassLift.Proofs.Appending

namespace ClassLift

variable {t : FileTree} {workingDirectory root place : Place} {rootText target css : Text}

/-! ## Targets -/

/-- The root of a workspace is a place. -/
theorem isPlace_of_workspacePlace (hdirectory : IsPlace workingDirectory)
    (h : workspacePlace workingDirectory rootText = .ok root) : IsPlace root := by
  rw [workspacePlace] at h
  split at h
  case isTrue => exact absurd h (by simp)
  case isFalse hnul =>
    obtain rfl := Except.ok.inj h
    exact isPlace_placeFrom hdirectory (by simpa using hnul)

/-- No target with NUL is accepted. -/
theorem nul_not_mem_of_resolve (h : resolveStylesheet t root target = .ok place) :
    '\x00' ∉ target := by
  rw [resolveStylesheet] at h
  split at h
  case isTrue => exact absurd h (by simp)
  case isFalse hnul => simpa using hnul

/-- A target without NUL is judged by its place. -/
theorem resolveStylesheet_eq (htarget : '\x00' ∉ target)
    (hplace : (Path.ofText target).placeFrom root = place) :
    resolveStylesheet t root target =
      if place == root then .error (.rejected target root .atRoot)
      else if !root.isPrefixOf place then .error (.rejected target root .outside)
      else
        match t.isDirectory place with
        | .error fault => .error (.system ⟨fault, placeText place⟩)
        | .ok true => .error (.rejected target root .directory)
        | .ok false => .ok place := by
  subst hplace
  have hnul : ¬target.contains '\x00' = true := by simpa using htarget
  unfold resolveStylesheet
  exact if_neg hnul

/-! ## Rejected targets -/

section

variable {normal : Place} (htarget : '\x00' ∉ target)
  (hnormal : (Path.ofText target).placeFrom root = normal)
include htarget hnormal

theorem resolveStylesheet_atRoot (hsame : normal = root) :
    resolveStylesheet t root target = .error (.rejected target root .atRoot) := by
  rw [resolveStylesheet_eq htarget hnormal, if_pos (beq_iff_eq.mpr hsame)]

theorem resolveStylesheet_outside (houtside : ¬root <+: normal) :
    resolveStylesheet t root target = .error (.rejected target root .outside) := by
  -- a place outside the root is in particular not the root
  have hother : normal ≠ root := by
    rintro rfl
    exact houtside (List.prefix_refl normal)
  have hcompare : (!root.isPrefixOf normal) = true := by
    rw [Bool.not_eq_true', ← Bool.not_eq_true, List.isPrefixOf_iff_prefix]
    exact houtside
  rw [resolveStylesheet_eq htarget hnormal, if_neg (mt beq_iff_eq.mp hother), if_pos hcompare]

/-- Strictly below the root the tree decides. -/
theorem resolveStylesheet_inside (hbelow : root <+: normal) (hother : normal ≠ root) :
    resolveStylesheet t root target =
      match t.isDirectory normal with
      | .error fault => .error (.system ⟨fault, placeText normal⟩)
      | .ok true => .error (.rejected target root .directory)
      | .ok false => .ok normal := by
  have hcompare : root.isPrefixOf normal = true := List.isPrefixOf_iff_prefix.mpr hbelow
  rw [resolveStylesheet_eq htarget hnormal, if_neg (mt beq_iff_eq.mp hother), hcompare]
  rfl

theorem resolveStylesheet_directory (hwf : t.WellFormed) (hbelow : root <+: normal)
    (hother : normal ≠ root) (hnode : t.get? normal = some .directory) :
    resolveStylesheet t root target = .error (.rejected target root .directory) := by
  rw [resolveStylesheet_inside htarget hnormal hbelow hother, hwf.isDirectory_of_get? hnode]

end

/-! ## Accepted targets -/

section

variable (hwf : t.WellFormed) (hroot : IsPlace root)
include hwf hroot

/-- **A target is accepted exactly if** it holds no NUL, its place lies strictly below the root, no
    directory stands there and neither a name nor the path is overlong. -/
theorem resolveStylesheet_eq_ok_iff :
    resolveStylesheet t root target = .ok place ↔
      '\x00' ∉ target ∧ (Path.ofText target).placeFrom root = place ∧ root <+: place ∧
        place ≠ root ∧ t.get? place ≠ some .directory ∧
        t.findPlace place ≠ .error .nameTooLong := by
  constructor
  · intro h
    have htarget : '\x00' ∉ target := nul_not_mem_of_resolve h
    have hplace : IsPlace ((Path.ofText target).placeFrom root) :=
      isPlace_placeFrom hroot htarget
    by_cases hother : (Path.ofText target).placeFrom root = root
    · rw [resolveStylesheet_atRoot htarget rfl hother] at h
      exact absurd h (by simp)
    by_cases hbelow : root <+: (Path.ofText target).placeFrom root
    · rw [resolveStylesheet_inside htarget rfl hbelow hother] at h
      split at h
      case h_1 => exact absurd h (by simp)
      case h_2 => exact absurd h (by simp)
      case h_3 hanswer =>
        obtain rfl := Except.ok.inj h
        obtain ⟨hfree, hshort⟩ := (hwf.isDirectory_eq_false_iff hplace).mp hanswer
        exact ⟨htarget, rfl, hbelow, hother, hfree, hshort⟩
    · rw [resolveStylesheet_outside htarget rfl hbelow] at h
      exact absurd h (by simp)
  · rintro ⟨htarget, rfl, hbelow, hother, hfree, hshort⟩
    have hplace : IsPlace ((Path.ofText target).placeFrom root) :=
      isPlace_placeFrom hroot htarget
    have hanswer := (hwf.isDirectory_eq_false_iff hplace).mpr ⟨hfree, hshort⟩
    rw [resolveStylesheet_inside htarget rfl hbelow hother, hanswer]

/-- **An accepted place** is spelled by an absolute path without dots, and resolving that path gives
    the place again. -/
theorem resolveStylesheet_again (h : resolveStylesheet t root target = .ok place) :
    IsPlace place ∧ Path.ofText (placeText place) = Place.path place ∧
      resolveStylesheet t root (placeText place) = .ok place := by
  obtain ⟨htarget, hleads, hrest⟩ := (resolveStylesheet_eq_ok_iff hwf hroot).mp h
  have hplace : IsPlace place := by
    rw [← hleads]
    exact isPlace_placeFrom hroot htarget
  have hspelled : Path.ofText (placeText place) = Place.path place := ofText_placeText hplace
  refine ⟨hplace, hspelled, ?_⟩
  rw [resolveStylesheet_eq_ok_iff hwf hroot]
  refine ⟨nul_not_mem_placeText hplace, ?_, hrest⟩
  rw [hspelled, placeFrom_path hplace]

/-! ## Appending -/

/-- **What appending to an accepted target does**, in the tree and to the file. -/
theorem appendRule_accepted {t' : FileTree} {result : Except StylesheetError Place}
    (hresolved : resolveStylesheet t root target = .ok place)
    (h : appendRule t root target css = (t', result)) :
    t'.WellFormed ∧ t.ChangedAt t' place ∧
      ∀ p, result = .ok p → p = place ∧ (css ≠ [] → ∃ bytes existing,
        readText? bytes = some existing ∧
        (t.get? place = some (.file bytes) ∨ t.get? place = none ∧ bytes = utf8 []) ∧
        t'.get? place = some (.file (bytes ++ utf8 (separator existing ++ css)))) := by
  obtain ⟨hplace, -⟩ := resolveStylesheet_again hwf hroot hresolved
  obtain ⟨-, -, -, -, hfree, -⟩ := (resolveStylesheet_eq_ok_iff hwf hroot).mp hresolved
  exact appendRule_eq hwf hplace hresolved hfree h

/-- **What appending changes**: the accepted file, and directories that were missing on the way to
    it. -/
theorem get?_appendRule {q : Place}
    (hq : (appendRule t root target css).1.get? q ≠ t.get? q) :
    ∃ place, resolveStylesheet t root target = .ok place ∧
      ((q = place ∧ ∃ bytes, (appendRule t root target css).1.get? q = some (.file bytes)) ∨
        (q ≠ place ∧ q <+: place ∧ t.get? q = none ∧
          (appendRule t root target css).1.get? q = some .directory)) := by
  cases hresolved : resolveStylesheet t root target with
  | error e =>
    rw [appendRule, hresolved] at hq
    exact absurd rfl hq
  | ok place =>
    rcases happend : appendRule t root target css with ⟨t', result⟩
    rw [happend] at hq
    obtain ⟨-, hchanged, -⟩ := appendRule_accepted hwf hroot hresolved happend
    refine ⟨place, rfl, ?_⟩
    by_cases hhere : q = place
    · subst hhere
      rcases hchanged.here with hsame | hfile
      · exact absurd hsame hq
      · exact Or.inl ⟨rfl, hfile⟩
    · rcases hchanged.elsewhere q hhere with hsame | ⟨hnone, hmade, hway⟩
      · exact absurd hsame hq
      · exact Or.inr ⟨hhere, hway, hnone, hmade⟩

end

/-! ## Containment -/

/-- **Stylesheets stay inside the workspace.**  Whatever the root and the target are:

    * a place that is answered is the normal form of the target, is spelled by an absolute path
      without dots, lies strictly below the root part by part, is no directory, and is answered for
      its own spelling again;
    * a target that leads to the root, out of it or to a directory is rejected for that reason, and
      any other that is not overlong is answered;
    * appending changes no file but the one at the answered place, and makes no directory but those
      missing on the way to it. -/
theorem stylesheet_contained {normal : Place} (hwf : t.WellFormed)
    (hdirectory : IsPlace workingDirectory)
    (hroot : workspacePlace workingDirectory rootText = .ok root) (htarget : '\x00' ∉ target)
    (hnormal : (Path.ofText target).placeFrom root = normal) :
    (∀ place, resolveStylesheet t root target = .ok place →
      place = normal ∧ IsPlace place ∧ Path.ofText (placeText place) = Place.path place ∧
      root <+: place ∧ place ≠ root ∧ t.get? place ≠ some .directory ∧
      resolveStylesheet t root (placeText place) = .ok place) ∧
    (normal = root →
      resolveStylesheet t root target = .error (.rejected target root .atRoot)) ∧
    (¬root <+: normal →
      resolveStylesheet t root target = .error (.rejected target root .outside)) ∧
    (root <+: normal → normal ≠ root → t.get? normal = some .directory →
      resolveStylesheet t root target = .error (.rejected target root .directory)) ∧
    (root <+: normal → normal ≠ root → t.get? normal ≠ some .directory →
      t.findPlace normal ≠ .error .nameTooLong →
      resolveStylesheet t root target = .ok normal) ∧
    ∀ css q, (appendRule t root target css).1.get? q ≠ t.get? q →
      ∃ place, resolveStylesheet t root target = .ok place ∧
        ((q = place ∧ ∃ bytes, (appendRule t root target css).1.get? q = some (.file bytes)) ∨
          (q ≠ place ∧ q <+: place ∧ t.get? q = none ∧
            (appendRule t root target css).1.get? q = some .directory)) := by
  have hplace : IsPlace root := isPlace_of_workspacePlace hdirectory hroot
  refine ⟨fun place h => ?_, resolveStylesheet_atRoot htarget hnormal,
    resolveStylesheet_outside htarget hnormal,
    resolveStylesheet_directory htarget hnormal hwf, fun hbelow hother hfree hshort => ?_,
    fun css q hq => get?_appendRule hwf hplace hq⟩
  · obtain ⟨hnames, hspelled, hagain⟩ := resolveStylesheet_again hwf hplace h
    obtain ⟨-, hleads, hbelow, hother, hfree, -⟩ :=
      (resolveStylesheet_eq_ok_iff hwf hplace).mp h
    exact ⟨hleads.symm.trans hnormal, hnames, hspelled, hbelow, hother, hfree, hagain⟩
  · exact (resolveStylesheet_eq_ok_iff hwf hplace).mpr
      ⟨htarget, hnormal, hbelow, hother, hfree, hshort⟩

/-- A workspace with an empty directory in it. -/
def workspaceTree : FileTree :=
  ((FileTree.mk []).set ["w".toList] .directory).set ["w".toList, "css".toList] .directory

theorem wellFormed_workspaceTree : workspaceTree.WellFormed := by
  have hmissing : ∀ {t : FileTree} {place : Place}, t.get? place = none →
      t.get? place ≠ some .directory := by
    intro t place hnone
    rw [hnone]
    simp
  have htop : ((FileTree.mk []).set ["w".toList] .directory).WellFormed :=
    FileTree.wellFormed_empty.set (by decide) rfl (hmissing rfl) .directory
  exact htop.set (by decide) rfl (hmissing rfl) .directory

/-- That workspace with a stylesheet. -/
def sheetTree (raw : Text) : FileTree :=
  workspaceTree.set ["w".toList, "app.css".toList] (.file (utf8 raw))

theorem wellFormed_sheetTree (raw : Text) : (sheetTree raw).WellFormed := by
  have hnone : workspaceTree.get? ["w".toList, "app.css".toList] = none := rfl
  exact wellFormed_workspaceTree.set (by decide) rfl (by rw [hnone]; simp) _

theorem stylesheet_contained_nested :
    resolveStylesheet workspaceTree ["w".toList] "css".toList =
      .error (.rejected "css".toList ["w".toList] .directory) ∧
    resolveStylesheet workspaceTree ["w".toList] "../w2/x.css".toList =
      .error (.rejected "../w2/x.css".toList ["w".toList] .outside) ∧
    resolveStylesheet workspaceTree ["w".toList] "//w/./css/..//".toList =
      .error (.rejected "//w/./css/..//".toList ["w".toList] .atRoot) ∧
    resolveStylesheet workspaceTree ["w".toList]
      (placeText ["w".toList, "css".toList, "x.css".toList]) =
        .ok ["w".toList, "css".toList, "x.css".toList] := by
  have hroot : workspacePlace ["w".toList] ".".toList = .ok ["w".toList] := by decide
  have hplace : IsPlace ["w".toList] := by decide
  refine ⟨?_, ?_, ?_, ?_⟩
  · obtain ⟨-, -, -, hdirectory, -⟩ := stylesheet_contained wellFormed_workspaceTree
      hplace hroot (show '\x00' ∉ "css".toList by decide) rfl
    exact hdirectory (by decide) (by decide) rfl
  · obtain ⟨-, -, houtside, -⟩ := stylesheet_contained wellFormed_workspaceTree
      hplace hroot (show '\x00' ∉ "../w2/x.css".toList by decide) rfl
    exact houtside (by decide)
  · obtain ⟨-, hsame, -⟩ := stylesheet_contained wellFormed_workspaceTree
      hplace hroot (show '\x00' ∉ "//w/./css/..//".toList by decide) rfl
    exact hsame (by decide)
  · obtain ⟨hanswer, -⟩ := stylesheet_contained wellFormed_workspaceTree
      hplace hroot (show '\x00' ∉ "no/../css/x.css/".toList by decide) rfl
    have hok : resolveStylesheet workspaceTree ["w".toList] "no/../css/x.css/".toList =
        .ok ["w".toList, "css".toList, "x.css".toList] := by decide +kernel
    obtain ⟨-, -, -, -, -, -, hagain⟩ := hanswer _ hok
    exact hagain

end ClassLift
