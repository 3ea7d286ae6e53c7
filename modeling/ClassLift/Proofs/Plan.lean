/-
  What a plan is made of.

  1. **Inversion.**  A plan exists exactly if the name is valid, an attribute is located, its class
     list is long enough or the request forces it, and something is left to extract; and then it is
     the one that `IsPlanFor` describes field by field (`plan_eq_ok_iff`).  Nothing below opens `plan`
     again.

  2. **Two halves.**  The tokens of the located span are split into the ones for the rule and the
     ones that stay, in their order and with their repetitions.

  3. **The new value** is made of name characters, spaces and characters of the old value.  So it
     holds no delimiter and no line feed, and it reads back as the class and the tokens that stay.
-/
import ClassLift.Extraction
import ClassLift.Proofs.Location
import ClassLift.Proofs.Results
import ClassLift.Proofs.RuleText

namespace ClassLift

/-! ## The split of the tokens -/

section

variable (preserving : Bool) (ts : List Text)

theorem extractedTokens_append_perm :
    (extractedTokens preserving ts ++ preservedTokens preserving ts).Perm ts := by
  cases preserving with
  | false => exact List.Perm.of_eq (List.append_nil ts)
  | true => exact List.perm_append_comm.trans (List.filter_append_perm hasStateVariant ts)

theorem extractedTokens_sublist : (extractedTokens preserving ts).Sublist ts := by
  cases preserving with
  | false => exact List.Sublist.refl ts
  | true => exact List.filter_sublist

theorem preservedTokens_sublist : (preservedTokens preserving ts).Sublist ts := by
  cases preserving with
  | false => exact List.nil_sublist ts
  | true => exact List.filter_sublist

end

/-! ## Inversion -/

/-- The plan for a request, field by field. -/
structure IsPlanFor (s : Settings) (text : Text) (r : Request) (p : Plan) : Prop where
  named : validateName r.name = .ok p.className
  located : locate text r.line s.lookaround.toNat = some p.location
  tokens : p.tokens = tokenize p.location.found.value
  long : p.belowThreshold = !isLong p.tokens (s.thresholdOr r.threshold)
  forced : p.belowThreshold = true → r.force = true
  extracted : p.extracted = extractedTokens (r.preserving.getD s.preserveStateVariants) p.tokens
  nonempty : p.extracted ≠ []
  preserved : p.preserved = preservedTokens (r.preserving.getD s.preserveStateVariants) p.tokens
  buckets : p.buckets = categorize p.extracted
  css : p.css =
    rule p.className p.extracted p.buckets.titled (r.grouping.getD s.groupByCategory)
  grouped : p.grouped = shouldGroup p.buckets.titled (r.grouping.getD s.groupByCategory)

variable {s : Settings} {text : Text} {r : Request} {p : Plan}

theorem planAt_eq_ok {name : Text} {location : Location}
    (hname : validateName r.name = .ok name)
    (hlocated : locate text r.line s.lookaround.toNat = some location)
    (h : planAt s r name location = .ok p) : IsPlanFor s text r p := by
  rw [planAt] at h
  split at h
  case isTrue => exact absurd h (by simp)
  case isFalse hthreshold =>
    split at h
    case isTrue => exact absurd h (by simp)
    case isFalse hsome =>
      obtain rfl := Except.ok.inj h
      -- the fields are computed as described; what is left are the two guards that let it pass
      refine ⟨hname, hlocated, rfl, rfl, fun hbelow => ?_, rfl, ?_, rfl, rfl, rfl, rfl⟩
      · by_contra hforce
        rw [Bool.not_eq_true] at hforce
        exact hthreshold (by rw [hforce, Bool.not_false, Bool.and_true]; exact hbelow)
      · intro hnil
        exact hsome (List.isEmpty_iff.mpr hnil)

/-- A plan was not refused for its threshold. -/
theorem IsPlanFor.not_refused (h : IsPlanFor s text r p) :
    ¬(!isLong p.tokens (s.thresholdOr r.threshold) && !r.force) = true := by
  rw [← h.long]
  intro hboth
  obtain ⟨hbelow, hforce⟩ := Bool.and_eq_true_iff.mp hboth
  rw [h.forced hbelow] at hforce
  exact absurd hforce (by decide)

/-- **There is a plan exactly if the request can be met**, and it is the one described. -/
theorem plan_eq_ok_iff : plan s text r = .ok p ↔ IsPlanFor s text r p := by
  constructor
  · intro h
    rw [plan] at h
    split at h
    case h_1 => exact absurd h (by simp)
    case h_2 name hname =>
      split at h
      case h_1 => exact absurd h (by simp)
      case h_2 location hlocated => exact planAt_eq_ok hname hlocated h
  · intro h
    have hthreshold : ¬(p.belowThreshold && !r.force) = true := by
      rw [h.long]
      exact h.not_refused
    have hsome : ¬p.extracted.isEmpty = true := by
      rw [List.isEmpty_iff]
      exact h.nonempty
    simp only [plan, h.named, h.located, planAt, ← h.tokens, ← h.long, ← h.extracted,
      ← h.preserved, ← h.buckets, ← h.css, ← h.grouped]
    rw [if_neg hthreshold, if_neg hsome]

namespace IsPlanFor

/-! ## The tokens of a plan -/

/-- **The tokens are those of the located span**, and no character of them closes the value. -/
theorem exists_occurrence (h : IsPlanFor s text r p) :
    ∃ a : Attribute, a.form = p.location.found.form ∧ a.OccursIn text ∧
      a.valueStart = p.location.documentStart ∧ a.valueEnd = p.location.documentEnd ∧
      a.raw = p.location.span text ∧ p.tokens = tokenize (p.location.span text) := by
  obtain ⟨a, hform, ha, hstart, hend, hraw, htokens⟩ := locate_occurs h.located
  exact ⟨a, hform, ha, hstart, hend, hraw, h.tokens.trans htokens.symm⟩

theorem isToken (h : IsPlanFor s text r p) : ∀ t ∈ p.tokens, IsToken t := by
  rw [h.tokens]
  exact fun t ht => isToken_of_mem_tokenize ht

/-- No token holds the character that would close the value. -/
theorem delimiter_not_mem (h : IsPlanFor s text r p) :
    ∀ t ∈ p.tokens, p.location.found.form.delimiter ∉ t := by
  obtain ⟨a, hform, ha, -, -, hraw, htokens⟩ := h.exists_occurrence
  intro t ht hd
  rw [htokens, ← hraw] at ht
  rw [← hform] at hd
  exact ha.free (mem_of_mem_tokenize ht hd)

theorem extracted_sublist (h : IsPlanFor s text r p) : p.extracted.Sublist p.tokens := by
  rw [h.extracted]
  exact extractedTokens_sublist _ _

theorem preserved_sublist (h : IsPlanFor s text r p) : p.preserved.Sublist p.tokens := by
  rw [h.preserved]
  exact preservedTokens_sublist _ _

/-- No token is lost or repeated between the rule and the markup. -/
theorem extracted_append_preserved_perm (h : IsPlanFor s text r p) :
    (p.extracted ++ p.preserved).Perm p.tokens := by
  rw [h.extracted, h.preserved]
  exact extractedTokens_append_perm _ _

theorem isIdentifier_className (h : IsPlanFor s text r p) : IsIdentifier p.className :=
  isIdentifier_of_validateName h.named

/-! ## The rule of a plan -/

theorem buckets_tokens_perm (h : IsPlanFor s text r p) :
    p.buckets.titled.tokens.Perm p.extracted := by
  rw [Buckets.tokens_titled, h.buckets]
  exact tokens_categorize_perm p.extracted

/-- A plan has what it takes to print a rule that reads back. -/
theorem rulable (h : IsPlanFor s text r p) : Rulable p.extracted p.buckets.titled where
  nonempty := h.nonempty
  tokens := fun t ht => h.isToken t (h.extracted_sublist.subset ht)
  buckets := by
    rw [h.buckets]
    exact showable_titled_categorize fun t ht => h.isToken t (h.extracted_sublist.subset ht)

/-- The rule of a plan reads back as the groups of its tokens. -/
theorem appliedBy_css (h : IsPlanFor s text r p) :
    appliedBy p.css =
      ruleGroups p.extracted p.buckets.titled (r.grouping.getD s.groupByCategory) := by
  rw [h.css, appliedBy_rule h.rulable]

/-- **The rule applies the extracted tokens**, each as often as it was extracted. -/
theorem flatten_appliedBy_css_perm (h : IsPlanFor s text r p) :
    (appliedBy p.css).flatten.Perm p.extracted := by
  rw [h.appliedBy_css]
  exact flatten_ruleGroups_perm h.buckets_tokens_perm

/-- The first line of the rule names the class, which a second sanitizing does not change. -/
theorem head?_lines_css (h : IsPlanFor s text r p) :
    (lines p.css).head? = some ('.' :: p.className ++ " \x7b".toList) := by
  rw [h.css, lines_rule h.rulable, ← selectorLine_of_isIdentifier h.isIdentifier_className]
  rfl

/-- No plan has an empty rule. -/
theorem css_ne_nil (h : IsPlanFor s text r p) : p.css ≠ [] := by
  intro hnil
  have hhead := h.head?_lines_css
  rw [hnil] at hhead
  exact absurd (Option.some.inj hhead) (by simp)

/-! ## The new value -/

/-- What can neither stand in a name nor be a space nor stand in a token that stays does not stand in
    the new value. -/
theorem not_mem_replacementValue (h : IsPlanFor s text r p) {c : Char}
    (hname : isNameChar c = false) (hspace : c ≠ ' ') (hkept : ∀ t ∈ p.preserved, c ∉ t) :
    c ∉ p.replacementValue := by
  intro hm
  rcases mem_joinSpaced hm with hm | ⟨t, ht, hm⟩
  · exact hspace hm
  rcases List.mem_cons.mp ht with rfl | ht
  · exact h.isIdentifier_className.not_mem hname hm
  · exact hkept t ht hm

/-- **The new value cannot close itself.** -/
theorem delimiter_not_mem_replacementValue (h : IsPlanFor s text r p) :
    p.location.found.form.delimiter ∉ p.replacementValue := by
  have hdelimiter : ∀ f : Form, isNameChar f.delimiter = false ∧ f.delimiter ≠ ' ' := by
    intro f
    cases f <;> decide
  exact h.not_mem_replacementValue (hdelimiter _).1 (hdelimiter _).2
    fun t ht => h.delimiter_not_mem t (h.preserved_sublist.subset ht)

/-- **The new value is one line.** -/
theorem feed_not_mem_replacementValue (h : IsPlanFor s text r p) : '\n' ∉ p.replacementValue := by
  refine h.not_mem_replacementValue (by decide) (by decide) fun t ht hm => ?_
  exact absurd ((h.isToken t (h.preserved_sublist.subset ht)).2 '\n' hm) (by decide)

/-- **The new value reads back** as the class and the tokens that stay. -/
theorem tokenize_replacementValue (h : IsPlanFor s text r p) :
    tokenize p.replacementValue = p.className :: p.preserved := by
  refine tokenize_joinSpaced fun t ht => ?_
  rcases List.mem_cons.mp ht with rfl | ht
  · exact h.isIdentifier_className.isToken
  · exact h.isToken t (h.preserved_sublist.subset ht)

/-! ## The new document -/

/-- The located span lies in the document. -/
theorem bounds (h : IsPlanFor s text r p) :
    p.location.documentStart ≤ p.location.documentEnd ∧
      p.location.documentEnd < text.length := by
  obtain ⟨-, hle, hlt, -, -⟩ := bounds_of_locate h.located
  exact ⟨hle, hlt⟩

theorem length_take_start (h : IsPlanFor s text r p) :
    (text.take p.location.documentStart).length = p.location.documentStart := by
  obtain ⟨hle, hlt⟩ := h.bounds
  rw [List.length_take]
  omega

/-- The old document around its span. -/
theorem text_eq (h : IsPlanFor s text r p) :
    text = text.take p.location.documentStart ++
      (p.location.span text ++ text.drop p.location.documentEnd) := by
  have hle : p.location.documentStart ≤ p.location.documentEnd := h.bounds.1
  have htake : text.take p.location.documentStart =
      (text.take p.location.documentEnd).take p.location.documentStart := by
    rw [List.take_take, Nat.min_eq_left hle]
  rw [htake, Location.span, ← List.append_assoc, List.take_append_drop, List.take_append_drop]

/-- The new document around the new value. -/
theorem apply_eq (p : Plan) (text : Text) :
    p.apply text = text.take p.location.documentStart ++
      (p.replacementValue ++ text.drop p.location.documentEnd) := List.append_assoc _ _ _

theorem take_apply (h : IsPlanFor s text r p) :
    (p.apply text).take p.location.documentStart = text.take p.location.documentStart := by
  rw [apply_eq, List.take_left' h.length_take_start]

theorem drop_apply (h : IsPlanFor s text r p) :
    (p.apply text).drop p.location.documentStart =
      p.replacementValue ++ text.drop p.location.documentEnd := by
  rw [apply_eq, List.drop_left' h.length_take_start]

/-- Behind the located span stands the delimiter. -/
theorem exists_drop_end_eq (h : IsPlanFor s text r p) :
    ∃ rest, text.drop p.location.documentEnd = p.location.found.form.delimiter :: rest := by
  obtain ⟨a, hform, ha, -, hend, -, -⟩ := h.exists_occurrence
  refine ⟨a.form.closingBracket ++ a.after, ?_⟩
  rw [← hend, ← hform, ha.drop_valueEnd, closer_eq, List.cons_append]

end IsPlanFor

/-! ## Plans at hand -/

/-- A request for the wrapped document: the token with a state variant is to stay. -/
def wrappedRequest : Request where
  line := 5
  name := some "card".toList
  grouping := some true
  preserving := some true
  threshold := some 3

end ClassLift
