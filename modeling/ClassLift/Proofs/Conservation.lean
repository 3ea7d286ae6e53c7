/-
  Classes are conserved: what leaves the markup is in the rule.

  A plan moves tokens from one text into another, and both texts are printed and not kept as lists.
  So conservation is a statement on READING: the rule is read back line by line (`appliedBy`), the new
  value is read back from the new document up to its delimiter (`valueAt`), and both are compared
  with the tokens of the old span.

  1. The rule reads back as its groups, which hold the extracted tokens: all in one group and in
     order if the rule is flat, sorted into buckets if it is grouped.

  2. The new value reads back as the class and the tokens that stay.

  3. Both halves together are the old tokens, each as often as before.
-/
import ClassLift.Proofs.Plan

namespace ClassLift

/-! ## Reading back -/

/-- The value that stands at a place of a text: what comes before the delimiter of the form. -/
def valueAt (f : Form) (text : Text) (start : Nat) : Text :=
  (text.drop start).takeWhile (· != f.delimiter)

namespace IsPlanFor

variable {s : Settings} {text : Text} {r : Request} {p : Plan}

/-- A flat rule applies them in order and on one line. -/
theorem appliedBy_css_of_flat (h : IsPlanFor s text r p) (hflat : p.grouped = false) :
    appliedBy p.css = [p.extracted] := by
  rw [h.grouped] at hflat
  rw [h.appliedBy_css, ruleGroups, hflat]
  exact if_neg Bool.false_ne_true

/-- A rule is grouped exactly if it applies tokens on more than one line. -/
theorem grouped_iff (h : IsPlanFor s text r p) :
    p.grouped = true ↔ 1 < (appliedBy p.css).length := by
  rw [h.appliedBy_css, one_lt_length_ruleGroups, h.grouped]

/-- What stands at the start of the old span is now the new value, and nothing more. -/
theorem valueAt_apply (h : IsPlanFor s text r p) :
    valueAt p.location.found.form (p.apply text) p.location.documentStart =
      p.replacementValue := by
  obtain ⟨rest, hrest⟩ := h.exists_drop_end_eq
  rw [valueAt, h.drop_apply, hrest]
  exact takeWhile_ne_append_cons h.delimiter_not_mem_replacementValue

end IsPlanFor

/-! ## Conservation -/

/-- **No class is lost, doubled or renamed.**  The tokens that the rule applies and the tokens that
    stay are the tokens of the old span, with their repetitions; both are taken from it in order.
    The rule names the class, and the new value reads back as the class and the tokens that stay. -/
theorem plan_conserves_tokens {s : Settings} {text : Text} {r : Request} {p : Plan}
    (h : plan s text r = .ok p) :
    ((appliedBy p.css).flatten ++ p.preserved).Perm (tokenize (p.location.span text)) ∧
    p.extracted.Sublist (tokenize (p.location.span text)) ∧
    p.preserved.Sublist (tokenize (p.location.span text)) ∧
    (p.grouped = false → appliedBy p.css = [p.extracted]) ∧
    (lines p.css).head? = some ('.' :: p.className ++ " \x7b".toList) ∧
    tokenize (valueAt p.location.found.form (p.apply text) p.location.documentStart) =
      p.className :: p.preserved ∧
    (p.grouped = true ↔ 1 < (appliedBy p.css).length) := by
  have hp : IsPlanFor s text r p := plan_eq_ok_iff.mp h
  obtain ⟨a, -, -, -, -, -, htokens⟩ := hp.exists_occurrence
  have hconserved : ((appliedBy p.css).flatten ++ p.preserved).Perm p.tokens :=
    (hp.flatten_appliedBy_css_perm.append_right p.preserved).trans
      hp.extracted_append_preserved_perm
  rw [← htokens]
  refine ⟨hconserved, hp.extracted_sublist, hp.preserved_sublist, hp.appliedBy_css_of_flat,
    hp.head?_lines_css, ?_, hp.grouped_iff⟩
  rw [hp.valueAt_apply, hp.tokenize_replacementValue]

/-- A grouped rule from a wrapped attribute, one token of which stays. -/
theorem plan_conserves_tokens_wrapped :
    ∃ p, plan {} wrappedMarkup wrappedRequest = .ok p ∧
      p.grouped = true ∧ p.preserved = ["hover:p-1".toList] ∧
      ((appliedBy p.css).flatten ++ p.preserved).Perm (tokenize (p.location.span wrappedMarkup)) ∧
      tokenize (valueAt p.location.found.form (p.apply wrappedMarkup) p.location.documentStart) =
        p.className :: p.preserved ∧
      1 < (appliedBy p.css).length := by
  obtain ⟨p, h, hfields⟩ : ∃ p, plan {} wrappedMarkup wrappedRequest = .ok p ∧
      (p.grouped, p.preserved) = (true, ["hover:p-1".toList]) :=
    exists_ok_of_map_toOption (by decide +kernel)
  obtain ⟨hgrouped, hpreserved⟩ := Prod.mk.inj hfields
  obtain ⟨hperm, -, -, -, -, hvalue, hmany⟩ := plan_conserves_tokens h
  exact ⟨p, h, hgrouped, hpreserved, hperm, hvalue, hmany.mp hgrouped⟩

end ClassLift
