/-
  What runs of the program change.

  1. **Only an extraction with `--write` gets to the tree.**  A scan, a preview, a call for help and
     wrong arguments leave it alone (`run_fst`).

  2. **Nothing fails between the two writes.**  The stylesheet is written first, and it is the last
     thing that may fail.  So a run that ends with an error has touched no file: either the rule was
     never reached, or appending it failed, which leaves directories at most (`run_failed`).

  3. **A run that ends well** has stored two files, the markup and the stylesheet (`run_written`).

  One run keeps the tree well-formed, since the markup file is put where a file was read.  So the
  promises hold along every history of runs.
-/
import ClassLift.Proofs.Arguments
import ClassLift.Proofs.History
import ClassLift.Proofs.Untouched
import ClassLift.Proofs.Writing

namespace ClassLift.CommandLine

variable {s : Surroundings} {settings : Settings} {workingDirectory : Place} {t t' : FileTree}
  {args : List Text} {stylesheet : Supplied Text} {outcome : Outcome}

/-! ## Runs that do not write -/

/-- An extraction without `--write` leaves the tree alone. -/
theorem runExtract_fst {file : Path} {line : Option Int} {request : Int → Request} :
    (runExtract s t file line request false stylesheet).1 = t := by
  rw [runExtract]
  split
  case h_1 => rfl
  case h_2 =>
    split
    case h_1 => rfl
    case h_2 =>
      rw [extractFrom]
      split <;> rfl

/-- **Only an extraction with `--write` gets to the tree.** -/
theorem run_fst (settings : Settings) (workingDirectory : Place) (t : FileTree)
    (h : ¬IsWriting args) : (run settings workingDirectory t args).1 = t := by
  rw [run]
  split
  case h_1 => rfl
  case h_2 =>
    split
    case h_1 => rfl
    case h_2 => rfl
    case h_3 command hcommand =>
      cases command with
      | scan file threshold => rfl
      | extract file line name flat preserveStates force write stylesheet =>
        cases write with
        | false => exact runExtract_fst
        | true => exact absurd ⟨_, _, _, _, _, _, _, hcommand⟩ h

/-! ## Runs that fail -/

/-- **A run that fails** leaves the tree as it was, but for an append that failed. -/
theorem run_failed (hrun : run settings workingDirectory t args = (t', outcome))
    (hexit : outcome.ending ≠ .exit 0) :
    t' = t ∨ ∃ root target css e,
      workspacePlace workingDirectory settings.workspaceRoot = .ok root ∧
      appendRule t root target css = (t', .error e) := by
  by_cases hwriting : IsWriting args
  · obtain ⟨file, line, name, flat, preserveStates, force, stylesheet, hargs⟩ := hwriting
    rcases run_extracting hargs hrun with ⟨hsame, -⟩ | ⟨_, _, _, p, _, -, -, -, -, ⟨hshown, -⟩ |
      ⟨-, t₁, appended, root, hroot, happended, hend⟩⟩
    · exact Or.inl hsame
    · exact absurd hshown (by decide)
    · rcases hend with ⟨e, rfl, rfl, -⟩ | ⟨place, -, -, hexit'⟩
      · exact Or.inr ⟨root, _, p.css, e, hroot, happended⟩
      · exact absurd hexit' hexit
  · have hsame := run_fst settings workingDirectory t hwriting
    rw [hrun] at hsame
    exact Or.inl hsame

section

variable (hwf : t.WellFormed) (hdirectory : IsPlace workingDirectory)
include hwf hdirectory

/-- **A run that fails leaves every file as it was.** -/
theorem sameFileAt_of_run_failed (hrun : run settings workingDirectory t args = (t', outcome))
    (hexit : outcome.ending ≠ .exit 0) (q : Place) : t.SameFileAt t' q := by
  rcases run_failed hrun hexit with rfl | ⟨root, target, css, e, hroot, happend⟩
  · exact FileTree.SameFileAt.refl _ q
  · exact sameFileAt_of_appendRule_error hwf (isPlace_of_workspacePlace hdirectory hroot) happend q

/-- One run keeps a tree well-formed. -/
theorem wellFormed_run : (run settings workingDirectory t args).1.WellFormed := by
  rcases hrun : run settings workingDirectory t args with ⟨t', outcome⟩
  by_cases hexit : outcome.ending = .exit 0
  · by_cases hwriting : IsWriting args
    · obtain ⟨file, line, name, flat, preserveStates, force, stylesheet, hargs⟩ := hwriting
      obtain ⟨source, raw, n, p, t₁, place, root, hfound, -, -, hroot, happended, rfl, -⟩ :=
        run_written hargs hrun hexit
      obtain ⟨hwf₁, hchanged, -⟩ := appendRule_accepted hwf
        (isPlace_of_workspacePlace hdirectory hroot) (resolve_of_appendRule happended) happended
      -- the markup file is still there when it is stored
      obtain ⟨bytes, hfile⟩ := hchanged.file_stays (FileTree.get?_of_find hfound)
      exact hwf₁.set (hwf₁.named hfile) (hwf₁.parent hfile) (by rw [hfile]; simp) _
    · have hsame := run_fst settings workingDirectory t hwriting
      rw [hrun] at hsame
      exact hsame ▸ hwf
  · rcases run_failed hrun hexit with rfl | ⟨root, target, css, e, hroot, happend⟩
    · exact hwf
    · exact wellFormed_of_appendRule hwf (isPlace_of_workspacePlace hdirectory hroot) happend

end

/-! ## Runs that end well -/

/-- **A run with `--write` that ends with status 0** touches no other file than the markup file and
    the stylesheet. -/
theorem sameFileAt_of_run_written {fileText : Text} {line : Option Int} {name : Option Text}
    {flat preserveStates force : Bool} (hwf : t.WellFormed) (hdirectory : IsPlace workingDirectory)
    (hargs : readArgv args =
      .ok (.extract fileText line name flat preserveStates force true stylesheet))
    (hrun : run settings workingDirectory t args = (t', outcome))
    (hexit : outcome.ending = .exit 0) :
    ∃ source raw root place,
      t.find workingDirectory (Path.ofText fileText) = .ok (source, .file raw) ∧
      workspacePlace workingDirectory settings.workspaceRoot = .ok root ∧
      resolveStylesheet t root (stylesheet.value?.getD settings.targetStylesheet) = .ok place ∧
      root <+: place ∧ place ≠ root ∧
      ∀ q, q ≠ source → q ≠ place → t.SameFileAt t' q := by
  obtain ⟨source, raw, n, p, t₁, place, root, hfound, -, -, hroot, happended, rfl, -⟩ :=
    run_written hargs hrun hexit
  have hrootPlace := isPlace_of_workspacePlace hdirectory hroot
  have hresolved := resolve_of_appendRule happended
  obtain ⟨-, -, hbelow, hother, -⟩ := (resolveStylesheet_eq_ok_iff hwf hrootPlace).mp hresolved
  obtain ⟨-, hchanged, -⟩ := appendRule_accepted hwf hrootPlace hresolved happended
  have hsource : source ≠ [] :=
    FileTree.ne_nil_of_get? (by rw [FileTree.get?_of_find hfound]; simp)
  refine ⟨source, _, root, place, hfound, hroot, hresolved, hbelow, hother, fun q hq hqplace => ?_⟩
  exact (hchanged.sameFileAt hqplace).trans
    (FileTree.sameFileAt_of_get? (Or.inl (FileTree.get?_set_ne hsource _ hq)))

/-! ## Histories -/

/-- **Runs change files only when they say so.**  Along every history of runs:

    * whatever is not an extraction with `--write` leaves the very same tree: a scan, a preview, a
      call for help, wrong arguments; in particular, a run without an argument that starts like
      `--write` does;
    * a run that ends in any other way than with status 0 keeps every file and makes none;
    * an extraction with `--write` that ends with status 0 keeps every file but the markup file and
      the stylesheet, which lies strictly below the workspace root, and makes no other. -/
theorem runs_change_what_they_say (settings : Settings) (hwf : t.WellFormed)
    (hdirectory : IsPlace workingDirectory) (runs : List (List Text)) :
    ∀ step ∈ history (run settings workingDirectory) t runs,
      (¬IsWriting step.asked → step.after = step.before) ∧
      ((∀ arg ∈ step.asked, ¬"--w".toList <+: arg) → step.after = step.before) ∧
      (step.answer.ending ≠ .exit 0 → ∀ q, step.before.SameFileAt step.after q) ∧
      ∀ file line name flat preserveStates force stylesheet,
        readArgv step.asked =
          .ok (.extract file line name flat preserveStates force true stylesheet) →
        step.answer.ending = .exit 0 →
        ∃ source raw root place,
          step.before.find workingDirectory (Path.ofText file) = .ok (source, .file raw) ∧
          workspacePlace workingDirectory settings.workspaceRoot = .ok root ∧
          resolveStylesheet step.before root
            (stylesheet.value?.getD settings.targetStylesheet) = .ok place ∧
          root <+: place ∧ place ≠ root ∧
          ∀ q, q ≠ source → q ≠ place → step.before.SameFileAt step.after q := by
  refine forall_mem_history hwf (fun t hwf args => wellFormed_run hwf hdirectory) ?_ runs
  intro t hwf args
  refine ⟨run_fst _ _ _, fun hwords => run_fst _ _ _ fun hwriting => ?_,
    fun hexit q => sameFileAt_of_run_failed hwf hdirectory rfl hexit q,
    fun file line name flat preserveStates force stylesheet hargs hexit =>
      sameFileAt_of_run_written hwf hdirectory hargs rfl hexit⟩
  obtain ⟨arg, harg, hstarts⟩ := exists_arg_of_isWriting hwriting
  exact hwords arg harg hstarts

/-- A scan of the markup file. -/
def scanArguments : List Text := ["scan", "t.html"].map String.toList

/-- An extraction with `--write` whose stylesheet is left out. -/
def misusedArguments : List Text :=
  ["extract", "t.html", "1", "card", "--write", "--css"].map String.toList

theorem runs_change_what_they_say_markup :
    ∃ scanned misused written,
      history (run {} ["w".toList]) (markupTree plainMarkup)
          [scanArguments, misusedArguments, writeArguments] = [scanned, misused, written] ∧
      scanned.after = scanned.before ∧
      (∀ q, misused.before.SameFileAt misused.after q) ∧
      ∀ q, q ≠ ["w".toList, "t.html".toList] → q ≠ ["w".toList, "app.css".toList] →
        written.before.SameFileAt written.after q := by
  have hsteps := runs_change_what_they_say {} (wellFormed_markupTree plainMarkup)
    (show IsPlace ["w".toList] by decide) [scanArguments, misusedArguments, writeArguments]
  obtain ⟨-, hscan, -⟩ := hsteps _ List.mem_cons_self
  obtain ⟨hidle, -, hfailed, -⟩ := hsteps _ (List.mem_cons_of_mem _ List.mem_cons_self)
  obtain ⟨-, -, -, hwritten⟩ :=
    hsteps _ (List.mem_cons_of_mem _ (List.mem_cons_of_mem _ List.mem_cons_self))
  have hscanned := hscan (by decide)
  have hmisused := hidle (by
    rintro ⟨file, line, name, flat, preserveStates, force, stylesheet, hargs⟩
    have hrefused : (readArgv misusedArguments).toOption = none := by decide +kernel
    rw [hargs] at hrefused
    exact absurd hrefused (by simp [Except.toOption]))
  refine ⟨_, _, _, rfl, hscanned, hfailed (by decide +kernel), ?_⟩
  -- the two runs before have left the tree alone
  dsimp only at hscanned hmisused hwritten ⊢
  rw [hscanned] at hmisused
  rw [hscanned, hmisused] at hwritten ⊢
  have hplan : (plan {} (unifyLineEnds plainMarkup)
      (extractRequest (some "card".toList) true false true 1)).toOption.map Plan.className =
        some "card".toList := by
    decide +kernel
  obtain ⟨p, hp, -⟩ := exists_ok_of_map_toOption hplan
  obtain ⟨source, raw, root, place, hfound, hroot, hresolved, -, -, hkept⟩ :=
    hwritten _ _ _ _ _ _ _ readArgv_writeArguments (run_markupTree hp).1
  obtain ⟨rfl, -⟩ : ["w".toList, "t.html".toList] = source ∧
      Node.file (utf8 plainMarkup) = Node.file raw := Prod.mk.inj (Except.ok.inj hfound)
  obtain rfl : ["w".toList] = root := Except.ok.inj hroot
  obtain rfl : ["w".toList, "app.css".toList] = place := Except.ok.inj hresolved
  exact hkept

end ClassLift.CommandLine
