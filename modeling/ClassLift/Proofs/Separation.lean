/-
  Parting a rule from what the stylesheet holds.

  1. **The separator of a text** is what the text lacks of a blank line at its end: the SHORTEST text
     that makes one, and every other text that makes one ends in it (`IsSeparator.least`).  A text
     of blanks only is parted from nothing.

  2. **What is written is not what is read.**  The separator is chosen by the text with its line ends
     unified, and is written behind the bytes as they are.  So the law has to be asked of the file
     that is READ AGAIN, and there a line end may reach over the cut: a carriage return that ends the
     old file and the line feed that is written behind it are one line end.

  3. **When the law holds.**  A separator that is empty starts with no line feed, since a rule starts
     with a dot, and two line feeds are written only where no line is ended.  What is left is the
     single line feed behind a lone carriage return, and there the rule follows its last line without a
     blank one (`append_parts_rule_iff`).
-/
import ClassLift.Proofs.Bytes
import ClassLift.Proofs.Containment
import ClassLift.Proofs.Plan

namespace ClassLift

/-! ## Separators -/

/-- What a text ends in if its last line is blank and ended. -/
def blankLine : Text := "\n\n".toList

/-- What has to stand between a text and a rule behind it. -/
structure IsSeparator (old between : Text) : Prop where
  feeds : between = blankLine ∨ between = ['\n'] ∨ between = []
  nothing : AllBlank old → between = []
  parted : ¬AllBlank old → blankLine <:+ old ++ between
  least : ¬AllBlank old → ∀ other, blankLine <:+ old ++ other → between <:+ other

variable {old : Text}

theorem separator_of_allBlank (h : AllBlank old) : separator old = [] := by
  rw [separator, strip_eq_nil_iff.mpr h]
  rfl

theorem separator_of_parted (h : blankLine <:+ old) : separator old = [] := by
  have hparted : "\n\n".toList.isSuffixOf old = true := List.isSuffixOf_iff_suffix.mpr h
  rw [separator, hparted, Bool.or_true]
  rfl

/-- The separator by what the text lacks. -/
theorem separator_of_solid (h : ¬AllBlank old) :
    separator old = if blankLine <:+ old then [] else if ['\n'] <:+ old then ['\n']
      else blankLine := by
  have hsolid : (strip old).isEmpty = false := by
    rw [List.isEmpty_eq_false_iff]
    exact mt strip_eq_nil_iff.mp h
  rw [separator, hsolid, Bool.false_or]
  simp only [List.isSuffixOf_iff_suffix]
  rfl

theorem separator_suffix (old : Text) : separator old <:+ blankLine := by
  by_cases hblank : AllBlank old
  · rw [separator_of_allBlank hblank]
    exact List.nil_suffix
  · rw [separator_of_solid hblank]
    split
    · exact List.nil_suffix
    · split <;> decide

/-- The texts that are ends of two line feeds. -/
theorem suffix_blankLine_iff {t : Text} :
    t <:+ blankLine ↔ t = blankLine ∨ t = ['\n'] ∨ t = [] := by
  show t <:+ ['\n', '\n'] ↔ _
  rw [List.suffix_cons_iff, List.suffix_cons_iff, List.suffix_nil]
  rfl

theorem blankLine_suffix_append_separator (h : ¬AllBlank old) :
    blankLine <:+ old ++ separator old := by
  rw [separator_of_solid h]
  split
  case isTrue hparted =>
    rw [List.append_nil]
    exact hparted
  case isFalse =>
    split
    case isTrue hended =>
      obtain ⟨front, rfl⟩ := hended
      exact ⟨front, by rw [List.append_assoc]; rfl⟩
    case isFalse => exact List.suffix_append old blankLine

/-- **Nothing shorter makes a blank line**: what makes one ends in the separator. -/
theorem separator_suffix_of_parted (h : ¬AllBlank old) {other : Text}
    (hother : blankLine <:+ old ++ other) : separator old <:+ other := by
  rcases List.suffix_or_suffix_of_suffix hother (List.suffix_append old other) with hlong | hshort
  · exact (separator_suffix old).trans hlong
  -- too short to hold a blank line, so the old text gives the rest of it
  rw [separator_of_solid h]
  rcases suffix_blankLine_iff.mp hshort with rfl | rfl | rfl
  · split
    · exact List.nil_suffix
    · split <;> decide
  · have hended : ['\n'] <:+ old := by
      obtain ⟨front, hfront⟩ := hother
      have hends : front ++ ['\n'] ++ ['\n'] = old ++ ['\n'] := by
        rw [← hfront, List.append_assoc]
        rfl
      exact ⟨front, List.append_cancel_right hends⟩
    rw [if_pos hended]
    split
    · exact List.nil_suffix
    · exact List.suffix_refl _
  · rw [List.append_nil] at hother
    rw [if_pos hother]

/-- **The separator is one.** -/
theorem isSeparator_separator (old : Text) : IsSeparator old (separator old) where
  feeds := suffix_blankLine_iff.mp (separator_suffix old)
  nothing := separator_of_allBlank
  parted := blankLine_suffix_append_separator
  least := fun h _ hother => separator_suffix_of_parted h hother

/-! ## The rule that is appended -/

namespace IsPlanFor

variable {s : Settings} {text : Text} {r : Request} {p : Plan}

/-- A rule starts with the dot of its selector. -/
theorem head?_css (h : IsPlanFor s text r p) : p.css.head? = some '.' := by
  rw [h.css, rule_eq h.nonempty, List.cons_append, joinWith_feed_cons]
  rfl

/-- No line end of a rule takes a carriage return. -/
theorem return_not_mem_css (h : IsPlanFor s text r p) : '\r' ∉ p.css := by
  have hlines : '\r' ∉ (lines p.css).flatten := by
    intro hm
    obtain ⟨l, hl, hc⟩ := List.mem_flatten.mp hm
    rw [h.css] at hl
    rcases mem_lines_rule h.rulable hl with rfl | rfl | rfl | ⟨e, he, rfl⟩ | ⟨ts, hts, rfl⟩
    · rcases List.mem_append.mp hc with hc | hc
      · rcases List.mem_cons.mp hc with hc | hc
        · exact absurd hc (by decide)
        · exact (isIdentifier_sanitize p.className).not_mem (by decide) hc
      · exact absurd hc (by decide)
    · exact absurd hc (by decide)
    · exact absurd hc List.not_mem_nil
    · obtain ⟨entry, -, rfl⟩ := List.mem_map.mp he
      have htitle : ∀ c : Category, '\r' ∉ commentLine c.title := by
        intro c
        cases c <;> decide
      exact htitle entry.1 hc
    · exact blank_not_mem_applyLine (isToken_of_mem_ruleGroups h.rulable ts hts) (by decide)
        (by decide) hc
  have hcount : p.css.count '\r' = (lines p.css).flatten.count '\r' := by
    conv_lhs => rw [← joinWith_lines p.css]
    exact count_joinWith (by decide) (lines p.css)
  rw [← List.count_eq_zero, hcount]
  exact List.count_eq_zero_of_not_mem hlines

end IsPlanFor

/-! ## Reading the file again -/

/-- The last line of a text says something or stands behind one that does, and a carriage return
    alone ends it. -/
structure EndsInReturn (raw : Text) : Prop where
  last : raw.getLast? = some '\r'
  solid : ¬AllBlank (unifyLineEnds raw)
  unparted : ¬blankLine <:+ unifyLineEnds raw

variable {raw css : Text}

/-- A carriage return at the end reads as a line feed. -/
theorem feed_suffix_of_return (h : raw.getLast? = some '\r') : ['\n'] <:+ unifyLineEnds raw := by
  obtain ⟨front, rfl⟩ := List.getLast?_eq_some_iff.mp h
  rw [unifyLineEnds_append fun hcut => absurd hcut.2 (by decide)]
  exact List.suffix_append _ _

/-- Behind a carriage return that ends a line, a single line feed is the separator. -/
theorem EndsInReturn.separator (h : EndsInReturn raw) :
    separator (unifyLineEnds raw) = ['\n'] := by
  rw [separator_of_solid h.solid, if_neg h.unparted, if_pos (feed_suffix_of_return h.last)]

/-- **What is read behind a lone carriage return**: the separator is gone. -/
theorem EndsInReturn.reads (h : EndsInReturn raw) (hcss : '\r' ∉ css) :
    unifyLineEnds (raw ++ (ClassLift.separator (unifyLineEnds raw) ++ css)) =
      unifyLineEnds raw ++ css := by
  rw [h.separator, List.singleton_append, unifyLineEnds_append_feed h.last,
    unifyLineEnds_of_not_mem hcss]

/-- **What is read behind any other text**: the separator and the rule, as they were written. -/
theorem reads_of_not_endsInReturn (h : ¬EndsInReturn raw) (hcss : '\r' ∉ css)
    (hhead : css.head? = some '.') :
    unifyLineEnds (raw ++ (separator (unifyLineEnds raw) ++ css)) =
      unifyLineEnds raw ++ (separator (unifyLineEnds raw) ++ css) := by
  have hfeeds : ∀ c ∈ separator (unifyLineEnds raw), c = '\n' := by
    intro c hc
    have hblank : ∀ c ∈ blankLine, c = '\n' := forall_mem_of_all (by decide)
    exact hblank c ((separator_suffix _).subset hc)
  have hplain : '\r' ∉ separator (unifyLineEnds raw) ++ css := by
    rw [List.mem_append, not_or]
    exact ⟨fun hm => absurd (hfeeds _ hm) (by decide), hcss⟩
  rw [unifyLineEnds_append, unifyLineEnds_of_not_mem hplain]
  rintro ⟨hlast, hfeed⟩
  -- a separator that starts with a line feed is not empty, so there is a blank line to be made
  have hsome : separator (unifyLineEnds raw) ≠ [] := by
    intro hnil
    rw [hnil, List.nil_append, hhead] at hfeed
    exact absurd hfeed (by decide)
  exact h ⟨hlast, mt separator_of_allBlank hsome, mt separator_of_parted hsome⟩

/-! ## Appending to a stylesheet that is there -/

section

variable {s : Settings} {text : Text} {r : Request} {p : Plan}

/-- What the stylesheet holds and how it reads after the rule of a plan is appended. -/
theorem exists_appended {t : FileTree} {root place : Place} {target : Text} (hwf : t.WellFormed)
    (hplan : IsPlanFor s text r p) (hresolved : resolveStylesheet t root target = .ok place)
    (hfile : t.get? place = some (.file (utf8 raw))) :
    ∃ t' added, appendRule t root target p.css = (t', .ok place) ∧
      t'.get? place = some (.file (utf8 raw ++ added)) ∧
      readText? (utf8 raw ++ added) =
        some (unifyLineEnds (raw ++ (separator (unifyLineEnds raw) ++ p.css))) := by
  have hne : place ≠ [] := FileTree.ne_nil_of_get? (by rw [hfile]; simp)
  refine ⟨_, utf8 (separator (unifyLineEnds raw) ++ p.css),
    appendRule_of_file hwf hresolved hplan.css_ne_nil hfile (readText?_utf8 raw),
    FileTree.get?_set_self hne _, ?_⟩
  rw [← utf8_append, readText?_utf8]

/-- Without a separator in between, a rule is not parted from a text that lacks a blank line. -/
theorem not_parted {old css : Text} (hsolid : ¬AllBlank old) (hunparted : ¬blankLine <:+ old) :
    ¬∃ between, IsSeparator old between ∧ old ++ css = old ++ between ++ css := by
  rintro ⟨between, hbetween, heq⟩
  have hnil : between = [] := by
    have hlength := congrArg List.length heq
    rw [List.length_append, List.length_append, List.length_append] at hlength
    exact List.length_eq_zero_iff.mp (by omega)
  have hparted := hbetween.parted hsolid
  rw [hnil, List.append_nil] at hparted
  exact hunparted hparted

/-- **A rule is parted from what the stylesheet holds, unless that ends in a carriage return alone.**
    Whatever text the stylesheet holds, the rule of a plan is appended to it, behind the bytes that
    are there.  Read again, the stylesheet holds the old text, a separator and the rule exactly if
    the last line of the old text is not one that a lone carriage return ends; and if it is, the
    rule follows that line without a separator. -/
theorem append_parts_rule_iff {t : FileTree} {root place : Place} {target : Text}
    (hwf : t.WellFormed) (hplan : plan s text r = .ok p)
    (hresolved : resolveStylesheet t root target = .ok place)
    (hfile : t.get? place = some (.file (utf8 raw))) :
    ∃ t' added old new, appendRule t root target p.css = (t', .ok place) ∧
      t'.get? place = some (.file (utf8 raw ++ added)) ∧
      readText? (utf8 raw) = some old ∧ readText? (utf8 raw ++ added) = some new ∧
      ((∃ between, IsSeparator old between ∧ new = old ++ between ++ p.css) ↔
        ¬EndsInReturn raw) ∧
      (EndsInReturn raw → new = old ++ p.css) := by
  have hp : IsPlanFor s text r p := plan_eq_ok_iff.mp hplan
  obtain ⟨t', added, happend, hheld, hread⟩ := exists_appended hwf hp hresolved hfile
  refine ⟨t', added, _, _, happend, hheld, readText?_utf8 raw, hread,
    ⟨fun hparted hreturn => ?_, fun hfree => ?_⟩,
    fun hreturn => hreturn.reads hp.return_not_mem_css⟩
  · rw [hreturn.reads hp.return_not_mem_css] at hparted
    exact not_parted hreturn.solid hreturn.unparted hparted
  · refine ⟨separator (unifyLineEnds raw), isSeparator_separator _, ?_⟩
    rw [reads_of_not_endsInReturn hfree hp.return_not_mem_css hp.head?_css, List.append_assoc]

end

/-! ## Stylesheets at hand -/

theorem resolve_sheetTree (raw : Text) :
    resolveStylesheet (sheetTree raw) ["w".toList] "app.css".toList =
      .ok ["w".toList, "app.css".toList] := by
  have hfound := (wellFormed_sheetTree raw).findPlace_of_get?
    (show (sheetTree raw).get? ["w".toList, "app.css".toList] = _ from rfl)
  refine (resolveStylesheet_eq_ok_iff (wellFormed_sheetTree raw) (by decide)).mpr
    ⟨by decide, by decide, by decide, by decide, fun hdirectory => ?_, fun hlong => ?_⟩
  · exact absurd hdirectory (by simp [sheetTree, FileTree.get?, FileTree.set])
  · exact absurd (hfound.symm.trans hlong) (by simp)

/-- A request for the only line of a document. -/
def flatRequest : Request := ⟨0, some "card".toList, some false, none, some 1, false⟩

/-- Behind a line end of both characters the separator is read as it is written. -/
theorem append_parts_rule_pair :
    ∃ p t' added between, plan {} "<i class='flex p-4'>".toList flatRequest = .ok p ∧
      appendRule (sheetTree "@tailwind base;\r\n".toList) ["w".toList] "app.css".toList p.css =
        (t', .ok ["w".toList, "app.css".toList]) ∧
      IsSeparator "@tailwind base;\n".toList between ∧
      readText? (utf8 "@tailwind base;\r\n".toList ++ added) =
        some ("@tailwind base;\n".toList ++ between ++ p.css) := by
  obtain ⟨p, hp, -⟩ : ∃ p, plan {} "<i class='flex p-4'>".toList flatRequest = .ok p ∧
      p.className = "card".toList := exists_ok_of_map_toOption (by decide +kernel)
  obtain ⟨t', added, old, new, happend, -, hold, hread, hparted, -⟩ :=
    append_parts_rule_iff (wellFormed_sheetTree _) hp (resolve_sheetTree _)
      (show (sheetTree "@tailwind base;\r\n".toList).get? _ = _ from rfl)
  have hfree : ¬EndsInReturn "@tailwind base;\r\n".toList :=
    fun hreturn => absurd hreturn.last (by decide)
  obtain ⟨between, hbetween, hnew⟩ := hparted.mpr hfree
  rw [readText?_utf8] at hold
  obtain rfl := Option.some.inj hold
  rw [hnew] at hread
  exact ⟨p, t', added, between, hp, happend, hbetween, hread⟩

/-- **A carriage return at the end of the stylesheet takes the line feed of the separator for its
    own**, and the rule follows the last line without a blank one. -/
theorem return_takes_separator :
    ∃ p t' added new, plan {} "<i class='flex p-4'>".toList flatRequest = .ok p ∧
      appendRule (sheetTree "@tailwind base;\r".toList) ["w".toList] "app.css".toList p.css =
        (t', .ok ["w".toList, "app.css".toList]) ∧
      t'.get? ["w".toList, "app.css".toList] =
        some (.file (utf8 "@tailwind base;\r".toList ++ added)) ∧
      readText? (utf8 "@tailwind base;\r".toList ++ added) = some new ∧
      ¬∃ between, IsSeparator "@tailwind base;\n".toList between ∧
        new = "@tailwind base;\n".toList ++ between ++ p.css := by
  obtain ⟨p, hp, -⟩ : ∃ p, plan {} "<i class='flex p-4'>".toList flatRequest = .ok p ∧
      p.className = "card".toList := exists_ok_of_map_toOption (by decide +kernel)
  have hplan := plan_eq_ok_iff.mp hp
  obtain ⟨t', added, happend, hheld, hread⟩ := exists_appended (wellFormed_sheetTree _) hplan
    (resolve_sheetTree _) (show (sheetTree "@tailwind base;\r".toList).get? _ = _ from rfl)
  have hreturn : EndsInReturn "@tailwind base;\r".toList := by
    refine ⟨by decide, fun hblank => ?_, by decide⟩
    exact absurd (hblank '@' (by decide)) (by decide)
  rw [hreturn.reads hplan.return_not_mem_css] at hread
  exact ⟨p, t', added, _, hp, happend, hheld, hread,
    not_parted hreturn.solid hreturn.unparted⟩

end ClassLift
