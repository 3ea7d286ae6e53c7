/-
  When a rule is closed.

  A rule is closed if a reader of stylesheets finds ONE rule in it: one brace that opens it, on the
  selector line, one brace that closes it, on the last line, and one semicolon for each applied
  line, at its end (`IsClosedRule`).

  1. **Tokens are not escaped.**  They are copied as they stand in the markup, and a value may hold
     anything but its delimiter: a template with a placeholder gives a rule that is not closed
     (`template_rule_not_closed`).

  2. **Nothing else goes wrong.**  Tokens stand in applied lines only, every other line is the rule's
     own, and each brace or semicolon beyond the rule's own is one of a token's.  So the rule is
     closed exactly if no extracted token holds a brace or a semicolon.
-/
import ClassLift.Proofs.Plan

namespace ClassLift

/-! ## Closed rules -/

/-- The text is one rule: a single opening brace, on its first line, a single closing brace, which is
    its last line, and a semicolon for each applied line, at its end. -/
structure IsClosedRule (css : Text) : Prop where
  opening : css.count '\x7b' = 1 ∧ ∃ l, (lines css).head? = some l ∧ '\x7b' ∈ l
  closing : css.count '\x7d' = 1 ∧ lastLine? css = some ['\x7d']
  ending : css.count ';' = (appliedLines css).length ∧
    ∀ l ∈ appliedLines css, l.getLast? = some ';'

/-- **A placeholder of a template opens and closes a block of its own.** -/
theorem template_rule_not_closed :
    ∃ p, plan {} "<div className=\x7b`flex $\x7bactive\x7d p-4`\x7d>".toList
        ⟨0, some "card".toList, some false, none, some 1, false⟩ = .ok p ∧
      p.css = ".card \x7b\n  @apply flex $\x7bactive\x7d p-4;\n\x7d\n".toList ∧
      ¬ IsClosedRule p.css := by
  obtain ⟨p, h, hcss⟩ : ∃ p, plan {} "<div className=\x7b`flex $\x7bactive\x7d p-4`\x7d>".toList
        ⟨0, some "card".toList, some false, none, some 1, false⟩ = .ok p ∧
      p.css = ".card \x7b\n  @apply flex $\x7bactive\x7d p-4;\n\x7d\n".toList :=
    exists_ok_of_map_toOption (by decide +kernel)
  refine ⟨p, h, hcss, fun hclosed => ?_⟩
  have htwo : p.css.count '\x7b' = 2 := by
    rw [hcss]
    decide
  rw [hclosed.opening.1] at htwo
  exact absurd htwo (by decide)

/-! ## The marks of a planned rule -/

/-- A character is counted in no token exactly if no token holds it. -/
theorem count_flatten_eq_zero {d : Char} {ts : List Text} :
    ts.flatten.count d = 0 ↔ ∀ t ∈ ts, d ∉ t := by
  rw [List.count_eq_zero, List.mem_flatten]
  constructor
  · intro h t ht hd
    exact h ⟨t, ht, hd⟩
  · rintro h ⟨t, ht, hd⟩
    exact h t ht hd

namespace IsPlanFor

variable {s : Settings} {text : Text} {r : Request} {p : Plan}

/-- **Each mark of the rule is its own or stands in an extracted token.** -/
theorem count_mark_css (h : IsPlanFor s text r p) {d : Char} (hd : d ∈ ruleMarks) :
    p.css.count d = ['\x7b'].count d + (appliedLines p.css).length * [';'].count d +
      ['\x7d'].count d + p.extracted.flatten.count d := by
  have hgroups : (ruleGroups p.extracted p.buckets.titled
      (r.grouping.getD s.groupByCategory)).flatten.flatten.count d =
        p.extracted.flatten.count d :=
    (flatten_ruleGroups_perm h.buckets_tokens_perm).flatten.count_eq d
  rw [length_appliedLines, h.appliedBy_css, h.css, count_mark_rule h.rulable hd, hgroups]

theorem lastLine?_css (h : IsPlanFor s text r p) : lastLine? p.css = some ['\x7d'] := by
  rw [h.css, lastLine?_rule h.rulable]

/-- Every applied line of the rule ends in a semicolon. -/
theorem getLast?_of_mem_appliedLines (h : IsPlanFor s text r p) {l : Text}
    (hl : l ∈ appliedLines p.css) : l.getLast? = some ';' := by
  obtain ⟨hmem, happlied⟩ := List.mem_filter.mp hl
  rw [h.css] at hmem
  rcases mem_lines_rule h.rulable hmem with rfl | rfl | rfl | ⟨e, -, rfl⟩ | ⟨ts, -, rfl⟩
  · exact absurd happlied (by rw [appliedOn?_selectorLine]; decide)
  · exact absurd happlied (by decide)
  · exact absurd happlied (by decide)
  · exact absurd happlied (by rw [appliedOn?_commentLine]; decide)
  · exact List.getLast?_concat

/-- **Tokens stand in applied lines only.**  Every other line is the selector, the closing brace, a
    comment with the title of a category, or empty. -/
theorem mem_lines_css (h : IsPlanFor s text r p) {l : Text} (hl : l ∈ lines p.css) :
    l ∈ appliedLines p.css ∨ l = selectorLine p.className ∨ l = ['\x7d'] ∨ l = [] ∨
      ∃ c : Category, l = commentLine c.title := by
  have hmem := hl
  rw [h.css] at hmem
  rcases mem_lines_rule h.rulable hmem with rfl | rfl | rfl | ⟨e, he, rfl⟩ | ⟨ts, hts, rfl⟩
  · exact Or.inr (Or.inl rfl)
  · exact Or.inr (Or.inr (Or.inl rfl))
  · exact Or.inr (Or.inr (Or.inr (Or.inl rfl)))
  · obtain ⟨entry, -, rfl⟩ := List.mem_map.mp he
    exact Or.inr (Or.inr (Or.inr (Or.inr ⟨entry.1, rfl⟩)))
  · refine Or.inl (List.mem_filter.mpr ⟨hl, ?_⟩)
    rw [appliedOn?_applyLine (isToken_of_mem_ruleGroups h.rulable ts hts), Option.isSome_some]

/-- The rule's own marks, and those of the tokens. -/
theorem count_marks_css (h : IsPlanFor s text r p) :
    p.css.count '\x7b' = 1 + p.extracted.flatten.count '\x7b' ∧
    p.css.count '\x7d' = 1 + p.extracted.flatten.count '\x7d' ∧
    p.css.count ';' = (appliedLines p.css).length + p.extracted.flatten.count ';' := by
  refine ⟨?_, ?_, ?_⟩
  · rw [h.count_mark_css (by decide)]
    rfl
  · rw [h.count_mark_css (by decide)]
    rfl
  · rw [h.count_mark_css (by decide)]
    show 0 + (appliedLines p.css).length * 1 + 0 + _ = _
    omega

/-- **When the rule is closed.**  Its own marks are always in place, so only those of its tokens can
    spoil it. -/
theorem isClosedRule_css_iff (h : IsPlanFor s text r p) :
    IsClosedRule p.css ↔ ∀ t ∈ p.extracted, '\x7b' ∉ t ∧ '\x7d' ∉ t ∧ ';' ∉ t := by
  obtain ⟨hopen, hclose, hend⟩ := h.count_marks_css
  constructor
  · intro hclosed t ht
    have hno : ∀ d, p.extracted.flatten.count d = 0 → d ∉ t :=
      fun d hd => count_flatten_eq_zero.mp hd t ht
    have hone := hclosed.opening.1
    have hlast := hclosed.closing.1
    have hlines := hclosed.ending.1
    exact ⟨hno _ (by omega), hno _ (by omega), hno _ (by omega)⟩
  · intro hfree
    have hnoOpen := count_flatten_eq_zero.mpr fun t ht => (hfree t ht).1
    have hnoClose := count_flatten_eq_zero.mpr fun t ht => (hfree t ht).2.1
    have hnoEnd := count_flatten_eq_zero.mpr fun t ht => (hfree t ht).2.2
    refine ⟨⟨by omega, _, h.head?_lines_css, List.mem_append_right _ (by decide)⟩,
      ⟨by omega, h.lastLine?_css⟩, by omega, fun l hl => h.getLast?_of_mem_appliedLines hl⟩

end IsPlanFor

/-- **A planned rule is closed exactly if no extracted token holds a brace or a semicolon.**  Whatever
    the tokens hold, the rule's own marks are in their places, and tokens stand in applied lines
    only. -/
theorem planned_rule_closed_iff {s : Settings} {text : Text} {r : Request} {p : Plan}
    (h : plan s text r = .ok p) :
    p.css.count '\x7b' = 1 + p.extracted.flatten.count '\x7b' ∧
    p.css.count '\x7d' = 1 + p.extracted.flatten.count '\x7d' ∧
    p.css.count ';' = (appliedLines p.css).length + p.extracted.flatten.count ';' ∧
    (lines p.css).head? = some ('.' :: p.className ++ " \x7b".toList) ∧
    lastLine? p.css = some ['\x7d'] ∧
    (∀ l ∈ appliedLines p.css, l.getLast? = some ';') ∧
    (∀ l ∈ lines p.css, l ∈ appliedLines p.css ∨ l = '.' :: p.className ++ " \x7b".toList ∨
      l = ['\x7d'] ∨ l = [] ∨ ∃ c : Category, l = commentLine c.title) ∧
    (IsClosedRule p.css ↔ ∀ t ∈ p.extracted, '\x7b' ∉ t ∧ '\x7d' ∉ t ∧ ';' ∉ t) := by
  have hp : IsPlanFor s text r p := plan_eq_ok_iff.mp h
  obtain ⟨hopen, hclose, hend⟩ := hp.count_marks_css
  refine ⟨hopen, hclose, hend, hp.head?_lines_css, hp.lastLine?_css,
    fun l hl => hp.getLast?_of_mem_appliedLines hl, fun l hl => ?_, hp.isClosedRule_css_iff⟩
  rw [← selectorLine_of_isIdentifier hp.isIdentifier_className]
  exact hp.mem_lines_css hl

/-- No token of the wrapped attribute holds a mark, so its rule is closed. -/
theorem planned_rule_closed_wrapped :
    ∃ p, plan {} wrappedMarkup wrappedRequest = .ok p ∧ IsClosedRule p.css := by
  obtain ⟨p, h, htokens⟩ : ∃ p, plan {} wrappedMarkup wrappedRequest = .ok p ∧
      p.extracted = ["text-lg".toList, "text-red-500".toList] :=
    exists_ok_of_map_toOption (by decide +kernel)
  obtain ⟨-, -, -, -, -, -, -, hclosed⟩ := planned_rule_closed_iff h
  refine ⟨p, h, hclosed.mpr ?_⟩
  rw [htokens]
  decide

end ClassLift
