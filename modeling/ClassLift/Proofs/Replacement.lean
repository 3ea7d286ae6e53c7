/-
  Carrying a plan out touches nothing but the value.

  1. **The attribute stays an attribute.**  A form that matched with the old span as its value matches
     at the same place with the new value, because the new value holds no delimiter.

  2. **Everything else stays.**  The document before the span and the document behind it are the same
     texts as before.

  3. **Lines.**  An old value over several lines becomes one line: the lines above its first and below
     its last line are the same lines as before, and the count drops by the line feeds that stood in
     the old value.
-/
import ClassLift.Proofs.Plan

namespace ClassLift

/-! ## One line in place of several -/

/-- A text without line feeds in place of another text: the lines above and below stay, and the line
    feeds that are gone are gone from the count. -/
theorem lines_replace {value : Text} (hvalue : '\n' ∉ value) (front old rest : Text) :
    (lines (front ++ (value ++ rest))).take (front.count '\n') =
      (lines (front ++ (old ++ rest))).take (front.count '\n') ∧
    (lines (front ++ (value ++ rest))).drop (front.count '\n' + 1) =
      (lines (front ++ (old ++ rest))).drop (front.count '\n' + old.count '\n' + 1) ∧
    (lines (front ++ (value ++ rest))).length + old.count '\n' =
      (lines (front ++ (old ++ rest))).length := by
  have hcount : value.count '\n' = 0 := List.count_eq_zero_of_not_mem hvalue
  refine ⟨?_, ?_, ?_⟩
  · rw [take_lines_append, take_lines_append]
  · have hnew := drop_lines_append (front ++ value) rest
    have hold := drop_lines_append (front ++ old) rest
    rw [List.count_append, hcount, Nat.add_zero, List.append_assoc] at hnew
    rw [List.count_append, List.append_assoc] at hold
    rw [hnew, hold]
  · rw [length_lines, length_lines]
    simp only [List.count_append, hcount]
    omega

/-! ## Carrying a plan out -/

/-- **Carrying a plan out keeps the attribute well formed and everything else as it was.**  With `n`
    line feeds in front of the old span and `k` in it, the first `n` lines and those behind line
    `n + k` stay, and there are `k` lines less. -/
theorem apply_keeps_attribute {s : Settings} {text : Text} {r : Request} {p : Plan}
    (h : plan s text r = .ok p) :
    (∃ start, p.location.found.form.MatchesAt text start p.location.documentStart
      p.location.documentEnd) ∧
    (∀ start, p.location.found.form.MatchesAt text start p.location.documentStart
        p.location.documentEnd →
      p.location.found.form.MatchesAt (p.apply text) start p.location.documentStart
        (p.location.documentStart + p.replacementValue.length)) ∧
    p.location.found.form.delimiter ∉ p.replacementValue ∧ '\n' ∉ p.replacementValue ∧
    (p.apply text).take p.location.documentStart = text.take p.location.documentStart ∧
    (p.apply text).drop (p.location.documentStart + p.replacementValue.length) =
      text.drop p.location.documentEnd ∧
    ∃ n k, n = (text.take p.location.documentStart).count '\n' ∧
      k = (p.location.span text).count '\n' ∧
      (lines (p.apply text)).take n = (lines text).take n ∧
      (lines (p.apply text)).drop (n + 1) = (lines text).drop (n + k + 1) ∧
      (lines (p.apply text)).length + k = (lines text).length := by
  have hp : IsPlanFor s text r p := plan_eq_ok_iff.mp h
  have hdelimiter := hp.delimiter_not_mem_replacementValue
  have hfeed := hp.feed_not_mem_replacementValue
  obtain ⟨a, hform, ha, hstart, hend, -, -⟩ := hp.exists_occurrence
  refine ⟨⟨a.before.length, a, hform, ha, rfl, hstart, hend⟩, fun start hmatch => ?_, hdelimiter,
    hfeed, hp.take_apply, ?_, _, _, rfl, rfl, ?_⟩
  · exact hmatch.replace hdelimiter
  · rw [← List.drop_drop, hp.drop_apply, List.drop_left]
  · have hlines := lines_replace hfeed (text.take p.location.documentStart)
      (p.location.span text) (text.drop p.location.documentEnd)
    rwa [← IsPlanFor.apply_eq, ← hp.text_eq] at hlines

/-- Three line feeds go with the old value of the wrapped attribute. -/
theorem apply_keeps_attribute_wrapped :
    ∃ p, plan {} wrappedMarkup wrappedRequest = .ok p ∧
      p.replacementValue = "card hover:p-1".toList ∧
      (∃ start, p.location.found.form.MatchesAt (p.apply wrappedMarkup) start
        p.location.documentStart (p.location.documentStart + p.replacementValue.length)) ∧
      (lines (p.apply wrappedMarkup)).length + 3 = (lines wrappedMarkup).length := by
  obtain ⟨p, h, hfields⟩ : ∃ p, plan {} wrappedMarkup wrappedRequest = .ok p ∧
      (p.replacementValue, (p.location.span wrappedMarkup).count '\n') =
        ("card hover:p-1".toList, 3) :=
    exists_ok_of_map_toOption (by decide +kernel)
  obtain ⟨hvalue, hcount⟩ := Prod.mk.inj hfields
  obtain ⟨⟨start, hmatch⟩, hkeeps, -, -, -, -, n, k, -, hk, -, -, hlength⟩ :=
    apply_keeps_attribute h
  rw [hk, hcount] at hlength
  exact ⟨p, h, hvalue, ⟨start, hkeeps start hmatch⟩, hlength⟩

end ClassLift
