/-
  Which line a run shows.

  Behind the rule, a run of `extract` shows one line of the new document with its number: the line at
  which the WINDOW of the attribute starts.

  1. **A place inside a text.**  A text without a line feed, put between two others, stands within one
     line, and the line feeds in front of it tell which one (`exists_line_around`).  Trimming that line
     leaves the text in it alone, if it has no blanks at its ends (`strip_around`).

  2. **The new value** is such a text.  So there is exactly one line of the new document on which it
     stands, and this is the line on which the old value opened, since nothing in front of the value has
     changed (`standsOn_iff`).

  3. **The window** starts on that line or above it.  It is the same line if the window has one line;
     with more lines, the value may open further down, and then the line that is shown is not the one
     that has changed (`shown_line_without_value`).

  What a run has printed is told with what it leaves behind (`run_extracting`).
-/
import ClassLift.Proofs.Minimal
import ClassLift.Proofs.ReadBack
import ClassLift.Proofs.Writing

namespace ClassLift

/-! ## A place inside a text -/

/-- **A text without a line feed stands within one line**, the one that the line feeds in front of it
    count to. -/
theorem exists_line_around {value : Text} (hvalue : '\n' ∉ value) (front rest : Text) :
    ∃ before behind,
      (lines (front ++ (value ++ rest)))[front.count '\n']? = some (before ++ value ++ behind) ∧
      lineOffset (front ++ (value ++ rest)) (front.count '\n') + before.length = front.length := by
  obtain ⟨ended, before, rfl, hended, hbefore⟩ := exists_last_line front
  obtain ⟨behind, below, hrest⟩ := List.exists_cons_of_ne_nil (lines_ne_nil rest)
  have hcount : (endLines ended ++ before).count '\n' = ended.length := by
    rw [List.count_append, count_endLines hended, List.count_eq_zero_of_not_mem hbefore,
      Nat.add_zero]
  have hlines : lines (endLines ended ++ before ++ (value ++ rest)) =
      ended ++ (before ++ value ++ behind) :: below := by
    rw [List.append_assoc, lines_endLines_append hended, List.append_assoc,
      lines_append_of_not_mem hbefore (lines_append_of_not_mem hvalue hrest)]
  refine ⟨before, behind, ?_, ?_⟩
  · rw [hlines, hcount, List.getElem?_append_right (Nat.le_refl _), Nat.sub_self]
    rfl
  · rw [lineOffset, hlines, hcount, List.take_left, List.length_append]

/-! ## Where the new value stands -/

/-- The new value of a plan stands on line `n` of the new document, where the old one started. -/
def Plan.StandsOn (p : Plan) (text : Text) (n : Nat) : Prop :=
  ∃ before behind, (lines (p.apply text))[n]? = some (before ++ p.replacementValue ++ behind) ∧
    lineOffset (p.apply text) n + before.length = p.location.documentStart

/-- Further down in a text no line comes before. -/
theorem lineAt_mono (text : Text) {o o' : Nat} (h : o ≤ o') : lineAt text o ≤ lineAt text o' :=
  (List.take_prefix_take_left h).count_le '\n'

/-- A window of one line is the line on which the value opens. -/
theorem Location.IsSmallest.opened_of_count {text : Text} {requested : Int} {lookaround : Nat}
    {found : Location} (h : found.IsSmallest text requested lookaround)
    (hle : found.documentStart ≤ found.documentEnd) (hcount : found.lineCount = 1) :
    lineAt text found.documentStart = found.lineIndex := by
  have hmono := lineAt_mono text hle
  have hclosed := h.closed.2
  have hopened := h.opened
  rw [Location.lastLine, hcount] at hclosed
  omega

/-- An attribute of the requested line is found in a window of that line alone. -/
theorem lineCount_of_locate {text : Text} {requested : Int} {lookaround : Nat} {found : Location}
    (h : locate text requested lookaround = some found) (hown : ¬NoneOnLine text requested) :
    found.lineCount = 1 := by
  rcases locate_cases text requested lookaround with ⟨n, l, a, rfl, hl, ha⟩ | ⟨hnone, -⟩
  · rw [locate_of_line hl ha] at h
    obtain rfl := Option.some.inj h
    rfl
  · exact absurd hnone hown

namespace IsPlanFor

variable {s : Settings} {text : Text} {r : Request} {p : Plan} {n : Nat}

/-- **The new value stands on the line on which the old one opened**, and on no other. -/
theorem standsOn_iff (h : IsPlanFor s text r p) :
    p.StandsOn text n ↔ n = lineAt text p.location.documentStart := by
  constructor
  · rintro ⟨before, behind, hline, hplace⟩
    have hin : before.length ≤ (before ++ p.replacementValue ++ behind).length := by
      rw [List.append_assoc, List.length_append]
      omega
    have hlineAt := lineAt_lineOffset_add hline hin
    rw [hplace, lineAt, h.take_apply] at hlineAt
    exact hlineAt.symm
  · rintro rfl
    obtain ⟨before, behind, hline, hplace⟩ := exists_line_around h.feed_not_mem_replacementValue
      (text.take p.location.documentStart) (text.drop p.location.documentEnd)
    rw [h.length_take_start] at hplace
    rw [← apply_eq] at hline hplace
    exact ⟨before, behind, hline, hplace⟩

/-- A line with the new value on it shows the value when it is trimmed, and so the class. -/
theorem isInfix_strip_line (h : IsPlanFor s text r p) {l : Text} (hstands : p.StandsOn text n)
    (hl : (lines (p.apply text))[n]? = some l) :
    p.replacementValue <:+: strip l ∧ p.className <:+: strip l := by
  obtain ⟨before, behind, hline, -⟩ := hstands
  obtain rfl := Option.some.inj (hl.symm.trans hline)
  obtain ⟨c, value, hvalue, -⟩ := h.exists_replacementValue_cons
  have hne : p.replacementValue ≠ [] := by
    rw [hvalue]
    exact List.cons_ne_nil c value
  have hstrip := strip_around hne h.strip_replacementValue before behind
  have hshown : p.replacementValue <:+: strip (before ++ p.replacementValue ++ behind) :=
    ⟨stripLeft before, stripRight behind, hstrip.symm⟩
  obtain ⟨rest, hrest⟩ := exists_joinSpaced_cons p.className p.preserved
  have hclass : p.className <+: p.replacementValue := ⟨rest, hrest.symm⟩
  exact ⟨hshown, hclass.isInfix.trans hshown⟩

end IsPlanFor

namespace CommandLine

/-! ## What a run shows -/

section

variable {s : Surroundings} {t : FileTree} {file : Path} {text : Text}
  {stylesheet : Supplied Text} {r : Request}

/-- The line that is shown, where the document has it. -/
theorem changedLine_eq {n : Nat} {updated l : Text} (hl : (lines updated)[n]? = some l) :
    changedLine file n updated =
      file.toText ++ ':' :: decimal (n + 1) ++ ": ".toList ++ strip l ++ ['\n'] := by
  rw [changedLine, List.getD_eq_getElem?_getD, hl]
  rfl

/-- An extraction that only shows what it would do ends with status 0 if there is a plan. -/
theorem extractFrom_of_planned {p : Plan} (file : Path) (source : Place)
    (hp : plan s.settings text r = .ok p) :
    extractFrom s t file source text r false stylesheet =
      (t, ⟨p.css ++ changedLine file p.location.lineIndex (p.apply text),
        s.journal (planningEvents s.settings text r) ++ (p.describe ++ ['\n']), .exit 0⟩) := by
  rw [extractFrom, hp]
  rfl

end

section

variable {settings : Settings} {workingDirectory : Place} {t t' : FileTree} {args : List Text}
  {fileText : Text} {line : Option Int} {name : Option Text}
  {flat preserveStates force write : Bool} {stylesheet : Supplied Text} {outcome : Outcome}

/-- **The line that a run shows holds the new value exactly if the old one opened on the first line of
    the window.**

    * A run of `extract` that ends with status 0 has printed the rule, then the file, the number of the
      line at which the window starts and that line of the new document, trimmed.
    * The new value stands on one line of the new document.  That is the line on which the old value
      opened, and it is not above the one shown.
    * If it is the one shown, the new value is shown as a whole, with the class in it.
    * It is the one shown if the window has one line, so in particular if the requested line has an
      attribute of its own. -/
theorem shown_line_holds_value_iff
    (hargs : readArgv args =
      .ok (.extract fileText line name flat preserveStates force write stylesheet))
    (hrun : run settings workingDirectory t args = (t', outcome))
    (hexit : outcome.ending = .exit 0) :
    ∃ source raw text n p shown rest,
      t.find workingDirectory (Path.ofText fileText) = .ok (source, .file (utf8 raw)) ∧
      text = unifyLineEnds raw ∧ line = some n ∧
      plan settings text (extractRequest name flat preserveStates force n) = .ok p ∧
      (lines (p.apply text))[p.location.lineIndex]? = some shown ∧
      outcome.printed = p.css ++ ((Path.ofText fileText).toText ++
        ':' :: decimal (p.location.lineIndex + 1) ++ ": ".toList ++ strip shown ++ ['\n']) ++ rest ∧
      (write = false → rest = []) ∧
      (∀ m, p.StandsOn text m ↔ m = lineAt text p.location.documentStart) ∧
      p.location.lineIndex ≤ lineAt text p.location.documentStart ∧
      (p.StandsOn text p.location.lineIndex →
        p.replacementValue <:+: strip shown ∧ p.className <:+: strip shown) ∧
      (p.location.lineCount = 1 → p.StandsOn text p.location.lineIndex) ∧
      (¬NoneOnLine text (n - 1) → p.location.lineCount = 1) := by
  obtain ⟨source, raw, n, p, rest, hfound, hline, hp, hprinted, hend⟩ :=
    (run_extracting hargs hrun).resolve_left fun hfailed => hfailed.2 hexit
  have hrest : write = false → rest = [] := by
    rcases hend with ⟨-, hrest, -⟩ | ⟨hwrite, -⟩
    · exact fun _ => hrest
    · exact fun hnot => absurd (hwrite.symm.trans hnot) (by decide)
  have hplan := plan_eq_ok_iff.mp hp
  have hsmallest := isSmallest_of_locate hplan.located
  have hthere : p.location.lineIndex < (lines (p.apply (unifyLineEnds raw))).length :=
    hsmallest.stays p.replacementValue
  have hshown := List.getElem?_eq_getElem hthere
  refine ⟨source, raw, _, n, p, _, rest, hfound, rfl, hline, hp, hshown, ?_, hrest,
    fun m => hplan.standsOn_iff, hsmallest.opened,
    fun hstands => hplan.isInfix_strip_line hstands hshown, fun hcount => ?_, fun hown => ?_⟩
  · rw [hprinted, changedLine_eq hshown]
  · exact hplan.standsOn_iff.mpr (hsmallest.opened_of_count hplan.bounds.1 hcount).symm
  · exact lineCount_of_locate hplan.located hown

end

/-! ## Runs that show a line -/

/-- The arguments that show the extraction of the class list on the first line. -/
def showArguments : List Text :=
  ["extract", "t.html", "1", "card", "--flat", "--force"].map String.toList

theorem readArgv_showArguments :
    readArgv showArguments = .ok (.extract "t.html".toList (some 1) (some "card".toList) true false
      true false .nothing) := by
  decide +kernel

/-- The run with these arguments succeeds if the extraction can be planned, and shows it. -/
theorem run_showArguments {raw : Text} {p : Plan}
    (hp : plan {} (unifyLineEnds raw) (extractRequest (some "card".toList) true false true 1) =
      .ok p) :
    ∃ complained, run {} ["w".toList] (markupTree raw) showArguments =
      (markupTree raw, ⟨p.css ++ changedLine (Path.ofText "t.html".toList) p.location.lineIndex
        (p.apply (unifyLineEnds raw)), complained, .exit 0⟩) := by
  have hlevel : thresholdOfName? (Settings.logLevel {}) = some 20 := by decide
  rw [run_extract hlevel readArgv_showArguments, runExtract, readSource_markupTree]
  exact ⟨_, extractFrom_of_planned (Path.ofText "t.html".toList) _ hp⟩

/-- A wrapped value that opens on the first line. -/
def openedMarkup : Text := "<i class=\"flex\n  p-4\">\n".toList

theorem shown_line_holds_value_iff_opened :
    ∃ outcome p shown, run {} ["w".toList] (markupTree openedMarkup) showArguments =
        (markupTree openedMarkup, outcome) ∧
      plan {} openedMarkup (extractRequest (some "card".toList) true false true 1) = .ok p ∧
      outcome.printed = p.css ++ ("t.html:1: ".toList ++ strip shown ++ ['\n']) ∧
      p.StandsOn openedMarkup 0 ∧ "card".toList <:+: strip shown := by
  have hplan : (plan {} (unifyLineEnds openedMarkup)
      (extractRequest (some "card".toList) true false true 1)).toOption.map
      (fun p => (p.className, p.location.lineIndex,
        lineAt openedMarkup p.location.documentStart)) = some ("card".toList, 0, 0) := by
    decide +kernel
  obtain ⟨p, hp, hfacts⟩ := exists_ok_of_map_toOption hplan
  obtain ⟨hname, hindex, hopened⟩ : p.className = "card".toList ∧ p.location.lineIndex = 0 ∧
      lineAt openedMarkup p.location.documentStart = 0 := by simpa using hfacts
  obtain ⟨complained, hrun⟩ := run_showArguments hp
  obtain ⟨source, raw, text, n, p', shown, rest, hfound, htext, hline, hp', hshown, hprinted,
    hrest, hiff, -, hholds, -⟩ := shown_line_holds_value_iff readArgv_showArguments hrun rfl
  -- what the theorem speaks of is what is at hand
  obtain ⟨rfl, hbytes⟩ : ["w".toList, "t.html".toList] = source ∧
      Node.file (utf8 openedMarkup) = Node.file (utf8 raw) := Prod.mk.inj (Except.ok.inj hfound)
  obtain rfl : openedMarkup = raw := utf8_injective (Node.file.inj hbytes)
  obtain rfl : text = openedMarkup := htext.trans (unifyLineEnds_of_not_mem (by decide))
  obtain rfl : 1 = n := Option.some.inj hline
  have hsame : unifyLineEnds openedMarkup = openedMarkup := htext.symm
  rw [hsame] at hp
  obtain rfl : p = p' := Except.ok.inj (hp.symm.trans hp')
  have hstands : p.StandsOn openedMarkup 0 := (hiff 0).mpr hopened.symm
  rw [hindex] at hrun hprinted hholds
  have hnumber : (Path.ofText "t.html".toList).toText ++ ':' :: decimal ((0 : Nat) + 1) ++
      ": ".toList = "t.html:1: ".toList := by
    decide
  rw [hrest rfl, List.append_nil, hnumber] at hprinted
  obtain ⟨-, hclass⟩ := hholds hstands
  rw [hname] at hclass
  exact ⟨_, p, shown, hrun, hp, hprinted, hstands, hclass⟩

/-- An element whose attribute stands below its first line. -/
def loweredMarkup : Text := "<div\n  class=\"flex p-4\">\n".toList

/-- **The line that is shown need not be the one that has changed**: the window starts at the first
    line of the element, and the value stands on the second one. -/
theorem shown_line_without_value :
    ∃ outcome p, run {} ["w".toList] (markupTree loweredMarkup) showArguments =
        (markupTree loweredMarkup, outcome) ∧ outcome.ending = .exit 0 ∧
      plan {} loweredMarkup (extractRequest (some "card".toList) true false true 1) = .ok p ∧
      outcome.printed = p.css ++ "t.html:1: <div\n".toList ∧
      p.apply loweredMarkup = "<div\n  class=\"card\">\n".toList ∧
      p.StandsOn loweredMarkup 1 ∧ ¬p.StandsOn loweredMarkup 0 := by
  have hplan : (plan {} (unifyLineEnds loweredMarkup)
      (extractRequest (some "card".toList) true false true 1)).toOption.map
      (fun p => (p.location.lineIndex, lineAt loweredMarkup p.location.documentStart,
        p.apply loweredMarkup)) = some (0, 1, "<div\n  class=\"card\">\n".toList) := by
    decide +kernel
  obtain ⟨p, hp, hfacts⟩ := exists_ok_of_map_toOption hplan
  obtain ⟨hindex, hopened, happly⟩ : p.location.lineIndex = 0 ∧
      lineAt loweredMarkup p.location.documentStart = 1 ∧
      p.apply loweredMarkup = "<div\n  class=\"card\">\n".toList := by simpa using hfacts
  obtain ⟨complained, hrun⟩ := run_showArguments hp
  have hsame : unifyLineEnds loweredMarkup = loweredMarkup :=
    unifyLineEnds_of_not_mem (by decide)
  rw [hsame] at hp hrun
  have hstands := fun n => (plan_eq_ok_iff.mp hp).standsOn_iff (n := n)
  rw [hopened] at hstands
  refine ⟨_, p, hrun, rfl, hp, ?_, happly, (hstands 1).mpr rfl, fun hzero => ?_⟩
  · rw [hindex, happly]
    exact congrArg (p.css ++ ·) (by decide)
  · exact absurd ((hstands 0).mp hzero) (by decide)

end CommandLine

end ClassLift
