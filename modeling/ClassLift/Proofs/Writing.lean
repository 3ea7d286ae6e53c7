/-
  What an extraction with `--write` leaves behind.

  A run goes through reading, planning, showing, appending and storing, and each of these may end it.
  The proofs follow the stages in that order and keep, at each of them, the two facts that matter
  later: whether the tree has changed so far, and whether the status can still be 0.

  1. **Stages.**  A run with `--write` ends with status 0 exactly if the markup file could be read,
     the extraction planned and the rule appended.  Each stage is turned into what it says about
     the tree (`readSource_eq_ok`, `writeRule_eq`, `extractFrom_eq`), and the stages into what a
     whole run does (`run_extracting`).

  2. **The markup file** gets the text that was read, with one value replaced.  What was read has
     its line ends unified, so a file with carriage returns loses them, and a file without keeps
     every byte outside the value.

  3. **The stylesheet** keeps its bytes and gets the rule behind them.  The markup file is stored
     after that, so the two updates stand side by side where the two are different files.  Where
     they are one file, storing overwrites the rule; of that case nothing is said here.

  4. **Carriage returns.**  The last section works a run out on a file whose lines end in them, and shows
     that more than the value has changed (`carriage_returns_are_lost`).  So what is said of the markup
     file cannot be said of its bytes without a condition.
-/
import ClassLift.CommandLine.Run
import ClassLift.Proofs.Bytes
import ClassLift.Proofs.Containment
import ClassLift.Proofs.Plan

namespace ClassLift

/-- What separates a rule from what stands above it are line feeds, at most two of them; how many depends
    on how the text above ends. -/
theorem eq_feed_of_mem_separator {existing : Text} {c : Char} (h : c ∈ separator existing) :
    c = '\n' := by
  rw [separator] at h
  split at h
  case isTrue => exact absurd h List.not_mem_nil
  case isFalse =>
    split at h
    case isTrue => exact List.mem_singleton.mp h
    case isFalse =>
      -- two feeds where the text does not end in one
      rcases List.mem_cons.mp h with rfl | h
      · rfl
      · exact List.mem_singleton.mp h

namespace CommandLine

variable {s : Surroundings} {t t' : FileTree} {file : Path} {source place : Place}
  {text css : Text} {write : Bool} {stylesheet : Supplied Text} {outcome : Outcome} {r : Request}

/-! ## Stages -/

/-- A markup file that could be read is there, with the bytes of a text.  What the run goes on with is
    that text with its line ends unified. -/
theorem readSource_eq_ok (h : readSource s t file = .ok (source, text)) :
    ∃ raw, t.find s.workingDirectory file = .ok (source, .file (utf8 raw)) ∧
      text = unifyLineEnds raw := by
  rw [readSource] at h
  split at h
  case isTrue => exact absurd h (by simp)
  case isFalse =>
    split at h
    case h_1 => exact absurd h (by simp)
    case h_2 => exact absurd h (by simp)
    case h_3 found read hread =>
      obtain ⟨rfl, rfl⟩ := Prod.mk.inj (Except.ok.inj h)
      rw [FileTree.readFile] at hread
      split at hread
      case h_1 => exact absurd hread (by simp)
      case h_2 => exact absurd hread (by simp)
      case h_3 bytes hfound =>
        obtain ⟨rfl, htext⟩ := Prod.mk.inj (Except.ok.inj hread)
        obtain ⟨raw, rfl, hunified⟩ := readText?_eq_some htext
        exact ⟨raw, hfound, hunified⟩

/-- A markup file that cannot be read ends the run with another status than 0: with status 1 where the
    system says why, and abruptly where the path or the bytes are no text. -/
theorem readSource_eq_error (h : readSource s t file = .error outcome) :
    outcome.ending ≠ .exit 0 := by
  rw [readSource] at h
  split at h
  case isTrue =>
    -- a path with a NUL character in it is no path
    obtain rfl := Except.error.inj h
    simp
  case isFalse =>
    split at h
    case h_1 =>
      obtain rfl := Except.error.inj h
      simp [Surroundings.fail]
    case h_2 =>
      obtain rfl := Except.error.inj h
      simp
    case h_3 => exact absurd h (by simp)

/-- A run without a plan ends with another status than 0, whatever the reason: what the user can mend is
    told with status 1, and a number that cannot be shown ends the run abruptly. -/
theorem Surroundings.ending_failPlan (events : List Event) (e : PlanError) :
    (s.failPlan events e).ending ≠ .exit 0 := by
  cases e <;> simp [failPlan, fail]

/-- **How writing a rule goes**: it fails before the tree is looked at, or the rule is appended to
    the stylesheet that was given, or to the one of the settings.  Appending may still fail, and what it
    has made by then stays. -/
theorem writeRule_eq {result : Except WriteError Place}
    (h : writeRule s t stylesheet css = (t', result)) :
    (t' = t ∧ ∃ e, result = .error e) ∨
      ∃ root appended, workspacePlace s.workingDirectory s.settings.workspaceRoot = .ok root ∧
        appendRule t root (stylesheet.value?.getD s.settings.targetStylesheet) css =
          (t', appended) ∧
        result = appended.mapError .stylesheet := by
  rw [writeRule] at h
  split at h
  case h_1 =>
    obtain ⟨rfl, rfl⟩ := Prod.mk.inj h
    exact Or.inl ⟨rfl, _, rfl⟩
  case h_2 root hroot =>
    cases stylesheet with
    | nothing =>
      obtain ⟨rfl, rfl⟩ := Prod.mk.inj h
      exact Or.inr ⟨root, _, hroot, rfl, rfl⟩
    | hollow =>
      -- an option without a value is no path, which is noticed before the tree is
      obtain ⟨rfl, rfl⟩ := Prod.mk.inj h
      exact Or.inl ⟨rfl, _, rfl⟩
    | value target =>
      obtain ⟨rfl, rfl⟩ := Prod.mk.inj h
      exact Or.inr ⟨root, _, hroot, rfl, rfl⟩

/-- **How an extraction ends**: it fails before there is a plan; or it shows the rule and the changed
    line.  Then it is done, unless it writes; and if it writes, its rule is not written, and nothing
    else is, or the text with the new value is stored behind it. -/
theorem extractFrom_eq
    (h : extractFrom s t file source text r write stylesheet = (t', outcome)) :
    (t' = t ∧ outcome.ending ≠ .exit 0) ∨
      ∃ p rest, plan s.settings text r = .ok p ∧
        outcome.printed = p.css ++ changedLine file p.location.lineIndex (p.apply text) ++ rest ∧
        ((write = false ∧ rest = [] ∧ t' = t ∧ outcome.ending = .exit 0) ∨
          write = true ∧ ∃ t₁ written, writeRule s t stylesheet p.css = (t₁, written) ∧
            ((∃ e, written = .error e ∧ t' = t₁ ∧ outcome.ending ≠ .exit 0) ∨
              ∃ place, written = .ok place ∧
                t' = t₁.set source (.file (utf8 (p.apply text))) ∧ outcome.ending = .exit 0)) := by
  rw [extractFrom] at h
  dsimp only at h
  split at h
  case h_1 =>
    -- no plan: nothing is shown and nothing is touched
    obtain ⟨rfl, rfl⟩ := Prod.mk.inj h
    exact Or.inl ⟨rfl, s.ending_failPlan _ _⟩
  case h_2 p hp =>
    cases write with
    | false =>
      obtain ⟨rfl, rfl⟩ := Prod.mk.inj h
      exact Or.inr ⟨p, [], hp, (List.append_nil _).symm, Or.inl ⟨rfl, rfl, rfl, rfl⟩⟩
    | true =>
      rw [if_neg (by decide)] at h
      split at h
      case h_1 t₁ e hwritten =>
        -- the rule is not appended, which may have made directories all the same
        obtain ⟨rfl, rfl⟩ := Prod.mk.inj h
        refine Or.inr ⟨p, [], hp, ?_, Or.inr ⟨rfl, t₁, _, hwritten, Or.inl ⟨_, rfl, rfl, ?_⟩⟩⟩
        · cases e <;> exact (List.append_nil _).symm
        · cases e <;> simp [Surroundings.failStylesheet, Surroundings.fail]
      case h_2 t₁ hwritten =>
        -- a hollow stylesheet ends the run where it is needed
        obtain ⟨rfl, rfl⟩ := Prod.mk.inj h
        exact Or.inr ⟨p, [], hp, (List.append_nil _).symm,
          Or.inr ⟨rfl, t₁, _, hwritten, Or.inl ⟨_, rfl, rfl, by simp⟩⟩⟩
      case h_3 t₁ place hwritten =>
        -- the rule is appended, so the text is stored and the run says so
        obtain ⟨rfl, rfl⟩ := Prod.mk.inj h
        refine Or.inr ⟨p, "Wrote .".toList ++ p.className ++ " to ".toList ++ placeText place ++
          ['\n'], hp, ?_, Or.inr ⟨rfl, t₁, _, hwritten, Or.inr ⟨place, rfl, rfl, rfl⟩⟩⟩
        simp only [List.append_assoc]

/-- And where the stages succeed, so does the extraction.  The markup file is stored into the tree that
    appending left, not into the one at the start. -/
theorem extractFrom_of_written {p : Plan} {t₁ : FileTree} (file : Path) (source : Place)
    (hp : plan s.settings text r = .ok p)
    (hwritten : writeRule s t stylesheet p.css = (t₁, .ok place)) :
    (extractFrom s t file source text r true stylesheet).1 =
        t₁.set source (.file (utf8 (p.apply text))) ∧
      (extractFrom s t file source text r true stylesheet).2.ending = .exit 0 := by
  rw [extractFrom, hp]
  dsimp only
  rw [if_neg (by decide), hwritten]
  exact ⟨rfl, rfl⟩

/-! ## The command -/

/-- The request of an extract command for a line.  Lines are counted from one by the user; an option that
    is left out leaves the choice to the settings. -/
def extractRequest (name : Option Text) (flat preserveStates force : Bool) (line : Int) :
    Request where
  line := line - 1
  name := name
  grouping := if flat then some false else none
  preserving := if preserveStates then some true else none
  threshold := none
  force := force

section

variable {settings : Settings} {workingDirectory root : Place} {args : List Text}
  {fileText : Text} {line : Option Int} {name : Option Text}
  {flat preserveStates force : Bool}

/-- What a run with an extract command is, once the level of the journal is known.  The level decides what
    of the journal is shown, and nothing else. -/
theorem run_extract {level : Nat} (hlevel : thresholdOfName? settings.logLevel = some level)
    (hargs : readArgv args =
      .ok (.extract fileText line name flat preserveStates force write stylesheet)) :
    run settings workingDirectory t args =
      runExtract ⟨settings, workingDirectory, level⟩ t (Path.ofText fileText) line
        (extractRequest name flat preserveStates force) write stylesheet := by
  rw [run, hlevel, hargs]
  rfl

/-- **How a run of `extract` ends**: it fails before its rule is reached; or it has read the markup
    file, planned the extraction of a line and shown it.  Then it is done, unless it writes; and if it
    writes, the rule is not appended, or it is, and then the file is stored. -/
theorem run_extracting
    (hargs : readArgv args =
      .ok (.extract fileText line name flat preserveStates force write stylesheet))
    (hrun : run settings workingDirectory t args = (t', outcome)) :
    (t' = t ∧ outcome.ending ≠ .exit 0) ∨
      ∃ source raw n p rest,
        t.find workingDirectory (Path.ofText fileText) = .ok (source, .file (utf8 raw)) ∧
        line = some n ∧
        plan settings (unifyLineEnds raw) (extractRequest name flat preserveStates force n) =
          .ok p ∧
        outcome.printed = p.css ++ changedLine (Path.ofText fileText) p.location.lineIndex
          (p.apply (unifyLineEnds raw)) ++ rest ∧
        ((write = false ∧ rest = [] ∧ t' = t ∧ outcome.ending = .exit 0) ∨
          write = true ∧ ∃ t₁ appended root,
            workspacePlace workingDirectory settings.workspaceRoot = .ok root ∧
            appendRule t root (stylesheet.value?.getD settings.targetStylesheet) p.css =
              (t₁, appended) ∧
            ((∃ e, appended = .error e ∧ t' = t₁ ∧ outcome.ending ≠ .exit 0) ∨
              ∃ place, appended = .ok place ∧
                t' = t₁.set source (.file (utf8 (p.apply (unifyLineEnds raw)))) ∧
                outcome.ending = .exit 0)) := by
  cases hlevel : thresholdOfName? settings.logLevel with
  | none =>
    -- a level that is not known ends the run before the arguments are read
    rw [run, hlevel] at hrun
    obtain ⟨rfl, rfl⟩ := Prod.mk.inj hrun
    exact Or.inl ⟨rfl, by simp⟩
  | some level =>
    rw [run_extract hlevel hargs, runExtract] at hrun
    split at hrun
    case h_1 refused hrefused =>
      obtain ⟨rfl, rfl⟩ := Prod.mk.inj hrun
      exact Or.inl ⟨rfl, readSource_eq_error hrefused⟩
    case h_2 source text hread =>
      obtain ⟨raw, hfound, rfl⟩ := readSource_eq_ok hread
      split at hrun
      case h_1 =>
        -- a hollow line number ends the run when it is counted from
        obtain ⟨rfl, rfl⟩ := Prod.mk.inj hrun
        exact Or.inl ⟨rfl, by simp⟩
      case h_2 n =>
        rcases extractFrom_eq hrun with hfailed | ⟨p, rest, hp, hprinted, hshown | ⟨hwrite, t₁,
          written, hwritten, hend⟩⟩
        · exact Or.inl hfailed
        · exact Or.inr ⟨source, raw, n, p, rest, hfound, rfl, hp, hprinted, Or.inl hshown⟩
        · rcases writeRule_eq hwritten with ⟨rfl, e, rfl⟩ | ⟨root, appended, hroot, happended, rfl⟩
          · -- the rule did not get to the tree, so the run did not end well
            rcases hend with ⟨-, -, rfl, hexit⟩ | ⟨place, hok, -⟩
            · exact Or.inl ⟨rfl, hexit⟩
            · exact absurd hok (by simp)
          · refine Or.inr ⟨source, raw, n, p, rest, hfound, rfl, hp, hprinted,
              Or.inr ⟨hwrite, t₁, appended, root, hroot, happended, ?_⟩⟩
            rcases hend with ⟨e, he, hfailed⟩ | ⟨place, hok, hstored⟩
            · obtain ⟨failed, rfl, -⟩ := mapError_eq_error_iff.mp he
              exact Or.inl ⟨failed, rfl, hfailed⟩
            · exact Or.inr ⟨place, mapError_eq_ok_iff.mp hok, hstored⟩

/-- **A run with `--write` that ends with status 0** has read the markup file, planned the
    extraction of a line and written the rule and the file.  Of the ways in which a run can end, only the
    last is left. -/
theorem run_written
    (hargs : readArgv args =
      .ok (.extract fileText line name flat preserveStates force true stylesheet))
    (hrun : run settings workingDirectory t args = (t', outcome))
    (hexit : outcome.ending = .exit 0) :
    ∃ source raw n p t₁ place root,
      t.find workingDirectory (Path.ofText fileText) = .ok (source, .file (utf8 raw)) ∧
      line = some n ∧
      plan settings (unifyLineEnds raw) (extractRequest name flat preserveStates force n) =
        .ok p ∧
      workspacePlace workingDirectory settings.workspaceRoot = .ok root ∧
      appendRule t root (stylesheet.value?.getD settings.targetStylesheet) p.css =
        (t₁, .ok place) ∧
      t' = t₁.set source (.file (utf8 (p.apply (unifyLineEnds raw)))) ∧
      p.css <+: outcome.printed := by
  rcases run_extracting hargs hrun with ⟨-, hfailed⟩ | ⟨source, raw, n, p, rest, hfound, hline, hp,
    hprinted, ⟨hshown, -⟩ | ⟨-, t₁, appended, root, hroot, happended, hend⟩⟩
  · exact absurd hexit hfailed
  · -- it was asked to write
    exact absurd hshown (by decide)
  · rcases hend with ⟨-, -, -, hfailed⟩ | ⟨place, rfl, htree, -⟩
    · exact absurd hexit hfailed
    · have hcss : p.css <+: outcome.printed := by
        rw [hprinted, List.append_assoc]
        exact List.prefix_append _ _
      exact ⟨source, raw, n, p, t₁, place, root, hfound, hline, hp, hroot, happended, htree, hcss⟩

/-! ## What is left behind -/

/-- **A run with `--write` that ends with status 0 makes both updates** and touches nothing else.

    * The markup file holds the text that was read, with the located value replaced.  The text that
      was read has its line ends unified; without carriage returns its bytes are those of the file.
    * The stylesheet holds what it held, some line feeds and the rule that was printed.
    * Every other place is as it was, but for directories that were missing above the stylesheet.

    The first two are said where the stylesheet is another file than the markup.  The last holds in any
    case, because both updates are to one of the two places. -/
theorem extract_write_updates_both (hwf : t.WellFormed) (hdirectory : IsPlace workingDirectory)
    (hargs : readArgv args =
      .ok (.extract fileText line name flat preserveStates force true stylesheet))
    (hrun : run settings workingDirectory t args = (t', outcome))
    (hexit : outcome.ending = .exit 0) :
    ∃ source raw text n p root place,
      t.find workingDirectory (Path.ofText fileText) = .ok (source, .file (utf8 raw)) ∧
      text = unifyLineEnds raw ∧ ('\r' ∉ raw → text = raw) ∧ line = some n ∧
      plan settings text (extractRequest name flat preserveStates force n) = .ok p ∧
      workspacePlace workingDirectory settings.workspaceRoot = .ok root ∧
      resolveStylesheet t root (stylesheet.value?.getD settings.targetStylesheet) = .ok place ∧
      p.css <+: outcome.printed ∧
      (place ≠ source →
        (∃ front behind, front = text.take p.location.documentStart ∧
          behind = text.drop p.location.documentEnd ∧
          utf8 text = utf8 front ++ utf8 (p.location.span text) ++ utf8 behind ∧
          t'.get? source =
            some (.file (utf8 front ++ utf8 p.replacementValue ++ utf8 behind))) ∧
        ∃ old feeds, (t.get? place = some (.file old) ∨ t.get? place = none ∧ old = utf8 []) ∧
          (∀ c ∈ feeds, c = '\n') ∧
          t'.get? place = some (.file (old ++ utf8 (feeds ++ p.css)))) ∧
      ∀ q, q ≠ source → q ≠ place → t'.get? q = t.get? q ∨
        (t.get? q = none ∧ t'.get? q = some .directory ∧ q <+: place) := by
  obtain ⟨source, raw, n, p, t₁, place, root, hfound, hline, hp, hroot, happended, rfl,
    hprinted⟩ := run_written hargs hrun hexit
  have hplan := plan_eq_ok_iff.mp hp
  have hresolved := resolve_of_appendRule happended
  have hrootPlace : IsPlace root := isPlace_of_workspacePlace hdirectory hroot
  obtain ⟨-, hchanged, hresult⟩ := appendRule_accepted hwf hrootPlace hresolved happended
  -- the markup file is a file, and at the top is a directory
  have hsource : source ≠ [] := by
    rintro rfl
    exact absurd (FileTree.get?_of_find hfound) (by rw [FileTree.get?_nil]; simp)
  refine ⟨source, raw, _, n, p, root, place, hfound, rfl, unifyLineEnds_of_not_mem, hline, hp,
    hroot, hresolved, hprinted, fun hother => ⟨?_, ?_⟩, fun q hq hqplace => ?_⟩
  · -- the bytes of a text are those of its parts, one behind the other
    refine ⟨_, _, rfl, rfl, ?_, ?_⟩
    · rw [← utf8_append, ← utf8_append, List.append_assoc, ← hplan.text_eq]
    · rw [FileTree.get?_set_self hsource, ← utf8_append, ← utf8_append]
      rfl
  · -- the markup file is stored after the stylesheet, and elsewhere
    obtain ⟨-, hrule⟩ := hresult place rfl
    obtain ⟨old, existing, -, hold, hnew⟩ := hrule hplan.css_ne_nil
    refine ⟨old, separator existing, hold, fun c hc => eq_feed_of_mem_separator hc, ?_⟩
    rw [FileTree.get?_set_ne hsource _ hother]
    exact hnew
  · -- elsewhere only appending has changed anything
    rw [FileTree.get?_set_ne hsource _ hq]
    exact hchanged.elsewhere q hqplace

end

/-! ## Runs at hand -/

/-- A workspace with a markup file in it.  Its stylesheet is not there yet, so appending to it succeeds
    whatever the markup is. -/
def markupTree (raw : Text) : FileTree :=
  workspaceTree.set ["w".toList, "t.html".toList] (.file (utf8 raw))

/-- The file stands in a directory of the workspace, and nothing stood in its place. -/
theorem wellFormed_markupTree (raw : Text) : (markupTree raw).WellFormed := by
  have hnone : workspaceTree.get? ["w".toList, "t.html".toList] = none := rfl
  exact wellFormed_workspaceTree.set (by decide) rfl (by rw [hnone]; simp) _

/-- The arguments that extract the class list on its first line, forced because two classes are below the
    usual threshold. -/
def writeArguments : List Text :=
  ["extract", "t.html", "1", "card", "--write", "--flat", "--force", "--css", "app.css"].map
    String.toList

/-- They are read as one extract command, with every option in its place. -/
theorem readArgv_writeArguments :
    readArgv writeArguments = .ok (.extract "t.html".toList (some 1) (some "card".toList) true false
      true true (.value "app.css".toList)) := by
  decide +kernel

/-- Appending to a new stylesheet in that workspace succeeds, and the rule may even be empty. -/
theorem appendRule_markupTree (raw css : Text) :
    (appendRule (markupTree raw) ["w".toList] "app.css".toList css).2 =
      .ok ["w".toList, "app.css".toList] := by
  cases css <;> rfl

/-- The markup file of that workspace is read as its text, whatever the text is. -/
theorem readSource_markupTree (raw : Text) :
    readSource ⟨{}, ["w".toList], 20⟩ (markupTree raw) (Path.ofText "t.html".toList) =
      .ok (["w".toList, "t.html".toList], unifyLineEnds raw) := by
  have hfile : (markupTree raw).readFile ["w".toList] (Path.ofText "t.html".toList) =
      .ok (["w".toList, "t.html".toList], readText? (utf8 raw)) := rfl
  rw [readSource, if_neg (by decide), hfile, readText?_utf8]

/-- The run with these arguments succeeds if the extraction can be planned, and stores the text
    with the new value. -/
theorem run_markupTree {raw : Text} {p : Plan}
    (hp : plan {} (unifyLineEnds raw) (extractRequest (some "card".toList) true false true 1) =
      .ok p) :
    (run {} ["w".toList] (markupTree raw) writeArguments).2.ending = .exit 0 ∧
      (run {} ["w".toList] (markupTree raw) writeArguments).1.get?
          ["w".toList, "t.html".toList] =
        some (.file (utf8 (p.apply (unifyLineEnds raw)))) := by
  have hwritten : writeRule ⟨{}, ["w".toList], 20⟩ (markupTree raw) (.value "app.css".toList)
      p.css = ((appendRule (markupTree raw) ["w".toList] "app.css".toList p.css).1,
        .ok ["w".toList, "app.css".toList]) := by
    have hok := appendRule_markupTree raw p.css
    show (_, (appendRule (markupTree raw) ["w".toList] "app.css".toList p.css).2.mapError
      WriteError.stylesheet) = _
    rw [hok]
    rfl
  have hlevel : thresholdOfName? (Settings.logLevel {}) = some 20 := by decide
  obtain ⟨htree, hexit⟩ := extractFrom_of_written (Path.ofText "t.html".toList)
    ["w".toList, "t.html".toList] hp hwritten
  rw [run_extract hlevel readArgv_writeArguments, runExtract, readSource_markupTree]
  refine ⟨hexit, ?_⟩
  show (extractFrom _ _ _ _ _ _ _ _).1.get? _ = _
  rw [htree, FileTree.get?_set_self (by decide)]

/-- A markup file without carriage returns, so what is read is what is there. -/
def plainMarkup : Text := "<i class=\"flex p-4\">\n<p>\n".toList

/-- The value is replaced where it stood, and the rule is all that the new stylesheet holds. -/
theorem extract_write_updates_both_plain :
    ∃ final outcome, run {} ["w".toList] (markupTree plainMarkup) writeArguments =
        (final, outcome) ∧
      final.get? ["w".toList, "t.html".toList] =
        some (.file (utf8 "<i class=\"card\">\n<p>\n".toList)) ∧
      ∃ feeds, (∀ c ∈ feeds, c = '\n') ∧
        final.get? ["w".toList, "app.css".toList] =
          some (.file (utf8 [] ++
            utf8 (feeds ++ ".card \x7b\n  @apply flex p-4;\n\x7d\n".toList))) := by
  have hplan : (plan {} (unifyLineEnds plainMarkup)
      (extractRequest (some "card".toList) true false true 1)).toOption.map
      (fun p => (p.location.documentStart, p.location.documentEnd, p.replacementValue, p.css)) =
        some (10, 18, "card".toList, ".card \x7b\n  @apply flex p-4;\n\x7d\n".toList) := by
    decide +kernel
  obtain ⟨p, hp, hfacts⟩ := exists_ok_of_map_toOption hplan
  obtain ⟨hstart, hend, hvalue, hcss⟩ : p.location.documentStart = 10 ∧
      p.location.documentEnd = 18 ∧ p.replacementValue = "card".toList ∧
      p.css = ".card \x7b\n  @apply flex p-4;\n\x7d\n".toList := by simpa using hfacts
  obtain ⟨hexit, -⟩ := run_markupTree hp
  rcases hrun : run {} ["w".toList] (markupTree plainMarkup) writeArguments with ⟨final, outcome⟩
  rw [hrun] at hexit
  obtain ⟨source, raw, text, n, p', root, place, hfound, -, htext, hline, hp', hroot, hresolved,
    -, hboth, -⟩ := extract_write_updates_both (wellFormed_markupTree plainMarkup)
      (show IsPlace ["w".toList] by decide) readArgv_writeArguments hrun hexit
  -- what the theorem speaks of is what is at hand
  obtain ⟨rfl, hbytes⟩ : ["w".toList, "t.html".toList] = source ∧
      Node.file (utf8 plainMarkup) = Node.file (utf8 raw) := Prod.mk.inj (Except.ok.inj hfound)
  obtain rfl : plainMarkup = raw := utf8_injective (Node.file.inj hbytes)
  obtain rfl : text = plainMarkup := htext (by decide)
  obtain rfl : 1 = n := Option.some.inj hline
  obtain rfl : ["w".toList] = root := Except.ok.inj hroot
  obtain rfl : ["w".toList, "app.css".toList] = place := Except.ok.inj hresolved
  obtain rfl : p = p' := Except.ok.inj (hp.symm.trans hp')
  obtain ⟨⟨front, behind, hfront, hbehind, -, hfile⟩, old, feeds, hold, hfeeds, hstylesheet⟩ :=
    hboth (by decide)
  have hempty : old = utf8 [] := by
    rcases hold with hold | ⟨-, hold⟩
    · exact absurd (show none = some (Node.file old) from hold) (by simp)
    · exact hold
  refine ⟨final, outcome, rfl, ?_, feeds, hfeeds, ?_⟩
  · rw [hfile, hfront, hbehind, hstart, hend, hvalue, ← utf8_append, ← utf8_append]
    exact congrArg (fun t => some (Node.file (utf8 t))) (by decide)
  · rw [hstylesheet, hempty, hcss]

/-- A markup file with carriage returns at the ends of both lines.  They stand outside the value, so they
    ought to stay. -/
def carriageMarkup : Text := "<i class=\"flex p-4\">\r\n<p>\r\n".toList

/-- **Carriage returns are lost**: the run ends with status 0, and whatever part of the file is
    taken for the value, more than that part has changed. -/
theorem carriage_returns_are_lost :
    (markupTree carriageMarkup).get? ["w".toList, "t.html".toList] =
        some (.file (utf8 carriageMarkup)) ∧
      ∃ final outcome, run {} ["w".toList] (markupTree carriageMarkup) writeArguments =
        (final, outcome) ∧ outcome.ending = .exit 0 ∧
      ∃ stored, final.get? ["w".toList, "t.html".toList] = some (.file (utf8 stored)) ∧
        ∀ front value behind, carriageMarkup = front ++ value ++ behind →
          stored ≠ front ++ "card".toList ++ behind := by
  have hplan : (plan {} (unifyLineEnds carriageMarkup)
      (extractRequest (some "card".toList) true false true 1)).toOption.map
      (fun p => p.apply (unifyLineEnds carriageMarkup)) =
        some "<i class=\"card\">\n<p>\n".toList := by
    decide +kernel
  obtain ⟨p, hp, happly⟩ := exists_ok_of_map_toOption hplan
  obtain ⟨hexit, hfile⟩ := run_markupTree hp
  -- what is stored is the text that was read, which has no carriage returns left
  rw [happly] at hfile
  rcases hrun : run {} ["w".toList] (markupTree carriageMarkup) writeArguments with
    ⟨final, outcome⟩
  rw [hrun] at hexit hfile
  refine ⟨rfl, final, outcome, rfl, hexit, _, hfile, fun front value behind hsplit => ?_⟩
  -- both ends of the old text are cut out of it at two places
  have hcuts : ∀ i ≤ 27, ∀ j ≤ 27, "<i class=\"card\">\n<p>\n".toList ≠
      carriageMarkup.take i ++ "card".toList ++ carriageMarkup.drop j := by
    decide +kernel
  have hlength := congrArg List.length hsplit
  rw [List.length_append, List.length_append] at hlength
  have htotal : carriageMarkup.length = 27 := by decide
  have hfront : carriageMarkup.take front.length = front := by
    rw [hsplit, List.append_assoc, List.take_left]
  have hbehind : carriageMarkup.drop (front.length + value.length) = behind := by
    rw [hsplit, ← List.length_append, List.drop_left]
  have hcut := hcuts front.length (by omega) (front.length + value.length) (by omega)
  rw [hfront, hbehind] at hcut
  exact hcut

end CommandLine

end ClassLift
