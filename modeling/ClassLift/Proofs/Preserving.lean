/-
  Keeping the tokens with a state variant out of the rule: two runs of one request.

  A state variant is asked for in two places that know nothing of each other.  The request splits the
  tokens by it, and classifying a token gives it precedence over every utility.  The option does what
  it says only because the two places agree.

  1. **One test.**  A token is of the category `states` exactly if it has a state variant, because
     neither a key of the table nor a value of `text-` gives that category
     (`classify_eq_states_iff`).

  2. **One bucket.**  So the option leaves the tokens of one category out of the rule, and to leave
     out the tokens of a category is to leave out its bucket: the other buckets stay what they are and
     where they are.  Nothing is left exactly if that category was the only one.

  3. **Two runs.**  Both runs go the same way up to the split, so a run that fails without the option
     fails the same way with it, and a run that has a plan without the option tells what becomes of
     it with the option.
-/
import ClassLift.Proofs.Plan

namespace ClassLift

/-! ## One test -/

/-- No key stands for the category of the state variants. -/
theorem category_ne_states : ∀ k ∈ utilityKeys, k.category ≠ .states := by decide +kernel

theorem categoryOfBase_ne_states (base : Text) : categoryOfBase base ≠ .states := by
  rw [categoryOfBase, firstApplicable]
  cases hfound : searchedKeys.find? (UtilityKey.applies base) with
  | none => exact (by decide : Category.other ≠ .states)
  | some k =>
    have hsearched : k ∈ longestFirst utilityKeys := List.mem_of_find?_eq_some hfound
    exact category_ne_states k ((List.mergeSort_perm _ _).mem_iff.mp hsearched)

theorem classifyBase_ne_states (base : Text) : classifyBase base ≠ .states := by
  rw [classifyBase]
  split
  case h_1 =>
    split
    · decide
    · decide
  case h_2 => exact categoryOfBase_ne_states base

/-- **The category of the state variants is theirs alone.** -/
theorem classify_eq_states_iff {t : Text} : classify t = .states ↔ hasStateVariant t = true := by
  rw [classify]
  by_cases h : hasStateVariant t = true
  · rw [if_pos h]
    exact iff_of_true rfl h
  · rw [if_neg h]
    exact iff_of_false (classifyBase_ne_states _) h

/-! ## One bucket -/

/-- With the option, the rule gets the tokens of all other categories. -/
theorem extractedTokens_true (ts : List Text) :
    extractedTokens true ts = ts.filter fun t => classify t ≠ .states := by
  refine List.filter_congr fun t _ => Bool.eq_iff_iff.mpr ?_
  rw [Bool.not_eq_true', decide_eq_true_iff, ne_eq, classify_eq_states_iff, Bool.not_eq_true]

/-- And the markup keeps the bucket of the state variants. -/
theorem preservedTokens_true (ts : List Text) :
    preservedTokens true ts = ((categorize ts).get? .states).getD [] := by
  rw [getD_get?_categorize]
  refine List.filter_congr fun t _ => Bool.eq_iff_iff.mpr ?_
  rw [decide_eq_true_iff, classify_eq_states_iff]

/-- Nothing is left exactly if there is no other category. -/
theorem extractedTokens_true_eq_nil_iff {ts : List Text} (hne : ts ≠ []) :
    extractedTokens true ts = [] ↔ (categorize ts).keys = [.states] := by
  rw [extractedTokens_true, keys_categorize_eq_singleton_iff, and_iff_right hne,
    List.filter_eq_nil_iff]
  refine forall₂_congr fun t _ => ?_
  rw [decide_eq_true_iff, not_ne_iff]

/-! ## The comments of a rule -/

theorem commentLine_injective {a b : Text} (h : commentLine a = commentLine b) : a = b :=
  List.append_cancel_left (List.append_cancel_right h)

/-- **Every comment of a rule is the title of one of its buckets.** -/
theorem exists_mem_entries_of_commentLine_mem {name title : Text} {tokens : List Text}
    {buckets : Buckets Text} {requested : Bool} (h : Rulable tokens buckets)
    (hmem : commentLine title ∈ lines (rule name tokens buckets requested)) :
    ∃ e ∈ buckets.entries, e.1 = title := by
  have hhead : (commentLine title).head? = some ' ' := rfl
  rcases mem_lines_rule h hmem with heq | heq | heq | ⟨e, he, heq⟩ | ⟨ts, hts, heq⟩
  · rw [heq] at hhead
    exact absurd (Option.some.inj hhead) (by decide)
  · rw [heq] at hhead
    exact absurd (Option.some.inj hhead) (by decide)
  · rw [heq] at hhead
    exact absurd hhead (by simp)
  · exact ⟨e, he, (commentLine_injective heq).symm⟩
  · -- an applied line reads as something and a comment as nothing
    have hread := appliedOn?_applyLine (isToken_of_mem_ruleGroups h ts hts)
    rw [← heq, appliedOn?_commentLine] at hread
    exact absurd hread (by simp)

/-! ## Two runs -/

section
variable {s : Settings} {text : Text} {r : Request} {p : Plan}

namespace IsPlanFor

/-- A category with a comment in the rule has a bucket. -/
theorem mem_keys_of_commentLine_mem (h : IsPlanFor s text r p) {c : Category}
    (hmem : commentLine c.title ∈ lines p.css) : c ∈ p.buckets.keys := by
  rw [h.css] at hmem
  obtain ⟨e, he, htitle⟩ := exists_mem_entries_of_commentLine_mem h.rulable hmem
  obtain ⟨entry, hentry, rfl⟩ := List.mem_map.mp he
  exact List.mem_map.mpr ⟨entry, hentry, Category.title_injective htitle⟩

/-- Without the option every token goes into the rule. -/
theorem extracted_of_not_preserving
    (h : IsPlanFor s text { r with preserving := some false } p) : p.extracted = p.tokens :=
  h.extracted

/-- With the option, nothing may be left. -/
theorem plan_nothingLeft (h : IsPlanFor s text { r with preserving := some false } p)
    (hnone : extractedTokens true p.tokens = []) :
    plan s text { r with preserving := some true } = .error .nothingLeft := by
  have hnamed : validateName r.name = .ok p.className := h.named
  have hlocated : locate text r.line s.lookaround.toNat = some p.location := h.located
  simp only [plan, hnamed, hlocated, planAt, ← h.tokens, Option.getD_some, hnone]
  rw [if_neg h.not_refused, if_pos List.isEmpty_nil]

/-- Or something is, and then there is a plan for the same place. -/
theorem exists_preserving (h : IsPlanFor s text { r with preserving := some false } p)
    (hsome : extractedTokens true p.tokens ≠ []) :
    ∃ q, IsPlanFor s text { r with preserving := some true } q ∧
      q.location = p.location ∧ q.tokens = p.tokens := by
  let extracted := extractedTokens true p.tokens
  let buckets := categorize extracted
  let grouping := r.grouping.getD s.groupByCategory
  let q : Plan :=
    { p with
      extracted := extracted
      preserved := preservedTokens true p.tokens
      buckets := buckets
      css := rule p.className extracted buckets.titled grouping
      grouped := shouldGroup buckets.titled grouping }
  exact ⟨q, ⟨h.named, h.located, h.tokens, h.long, h.forced, rfl, hsome, rfl, rfl, rfl, rfl⟩, rfl, rfl⟩

end IsPlanFor

/-- Up to the split nothing depends on the option, and what is empty stays empty. -/
theorem plan_preserving_error {e : PlanError}
    (h : plan s text { r with preserving := some false } = .error e) :
    plan s text { r with preserving := some true } = .error e := by
  simp only [plan] at h ⊢
  cases hname : validateName r.name with
  | error fault =>
    rw [hname] at h
    exact h
  | ok name =>
    rw [hname] at h
    cases hlocated : locate text r.line s.lookaround.toNat with
    | none =>
      rw [hlocated] at h
      exact h
    | some location =>
      rw [hlocated] at h
      simp only [planAt, Option.getD_some] at h ⊢
      split at h
      case isTrue hbelow => rwa [if_pos hbelow]
      case isFalse hlong =>
        rw [if_neg hlong]
        split at h
        case isTrue hnil =>
          have htokens : tokenize location.found.value = [] := List.isEmpty_iff.mp hnil
          rw [htokens]
          exact h
        case isFalse => exact absurd h (by simp)

end

/-- **The option takes the bucket of the state variants out of a plan, and does nothing else.**  A run
    that fails without the option fails the same way with it.  A run that has a plan without it has
    nothing left with it exactly if that bucket was the only one; otherwise it has a plan for the same
    place and the same tokens, keeps the bucket in the markup and the other buckets as they were, and
    the rule neither names the category nor applies a token of it. -/
theorem preserving_takes_states_out (s : Settings) (text : Text) (r : Request) :
    (∀ e, plan s text { r with preserving := some false } = .error e →
      plan s text { r with preserving := some true } = .error e) ∧
    ∀ p, plan s text { r with preserving := some false } = .ok p →
      (plan s text { r with preserving := some true } = .error .nothingLeft ↔
        p.buckets.keys = [.states]) ∧
      (p.buckets.keys ≠ [.states] →
        ∃ q, plan s text { r with preserving := some true } = .ok q ∧
          q.location = p.location ∧ q.tokens = p.tokens ∧
          q.preserved = (p.buckets.get? .states).getD [] ∧
          q.extracted = p.tokens.filter (fun t => classify t ≠ .states) ∧
          q.buckets.entries = p.buckets.entries.filter (fun e => e.1 ≠ .states) ∧
          commentLine Category.states.title ∉ lines q.css ∧
          ∀ ts ∈ appliedBy q.css, ∀ t ∈ ts, classify t ≠ .states) := by
  refine ⟨fun e he => plan_preserving_error he, fun p hoff => ?_⟩
  have hp : IsPlanFor s text { r with preserving := some false } p := plan_eq_ok_iff.mp hoff
  have hall : p.extracted = p.tokens := hp.extracted_of_not_preserving
  have hbuckets : p.buckets = categorize p.tokens := by rw [hp.buckets, hall]
  have hleft : extractedTokens true p.tokens = [] ↔ p.buckets.keys = [.states] := by
    rw [hbuckets]
    exact extractedTokens_true_eq_nil_iff (hall ▸ hp.nonempty)
  have hmore : p.buckets.keys ≠ [.states] →
      ∃ q, IsPlanFor s text { r with preserving := some true } q ∧
        q.location = p.location ∧ q.tokens = p.tokens :=
    fun hkeys => hp.exists_preserving (mt hleft.mp hkeys)
  refine ⟨⟨fun hon => ?_, fun hkeys => hp.plan_nothingLeft (hleft.mpr hkeys)⟩, fun hkeys => ?_⟩
  · by_contra hkeys
    obtain ⟨q, hq, -⟩ := hmore hkeys
    rw [plan_eq_ok_iff.mpr hq] at hon
    exact absurd hon (by simp)
  · obtain ⟨q, hq, hlocation, htokens⟩ := hmore hkeys
    have hextracted : q.extracted = p.tokens.filter fun t => classify t ≠ .states := by
      rw [← htokens, ← extractedTokens_true]
      exact hq.extracted
    have hentries : q.buckets.entries = p.buckets.entries.filter fun e => e.1 ≠ .states := by
      rw [hq.buckets, hextracted, hbuckets]
      exact entries_categorize_filter (fun c => c ≠ .states) p.tokens
    refine ⟨q, plan_eq_ok_iff.mpr hq, hlocation, htokens, ?_, hextracted, hentries,
      fun hcomment => ?_, fun ts hts t ht => ?_⟩
    · rw [hbuckets, ← preservedTokens_true, ← htokens]
      exact hq.preserved
    · obtain ⟨e, he, hstates⟩ := List.mem_map.mp (hq.mem_keys_of_commentLine_mem hcomment)
      rw [hentries] at he
      exact of_decide_eq_true (List.mem_filter.mp he).2 hstates
    · have happlied : t ∈ q.extracted :=
        hq.flatten_appliedBy_css_perm.mem_iff.mp (List.mem_flatten.mpr ⟨ts, hts, ht⟩)
      rw [hextracted] at happlied
      exact of_decide_eq_true (List.mem_filter.mp happlied).2

/-- Three buckets without the option, the second of them for the one token that stays with it. -/
theorem preserving_takes_states_out_wrapped :
    ∃ p q, plan {} wrappedMarkup { wrappedRequest with preserving := some false } = .ok p ∧
      plan {} wrappedMarkup { wrappedRequest with preserving := some true } = .ok q ∧
      p.buckets.keys = [.typography, .states, .colors] ∧
      q.preserved = ["hover:p-1".toList] ∧ q.buckets.keys = [.typography, .colors] ∧
      commentLine Category.states.title ∉ lines q.css := by
  obtain ⟨p, hoff, hfields⟩ :
      ∃ p, plan {} wrappedMarkup { wrappedRequest with preserving := some false } = .ok p ∧
        (p.buckets.keys, p.buckets.get? .states) =
          ([.typography, .states, .colors], some ["hover:p-1".toList]) :=
    exists_ok_of_map_toOption (by decide +kernel)
  obtain ⟨hkeys, hstates⟩ := Prod.mk.inj hfields
  obtain ⟨-, hon⟩ := (preserving_takes_states_out {} wrappedMarkup wrappedRequest).2 p hoff
  obtain ⟨q, hq, -, -, hpreserved, -, hentries, hcomment, -⟩ := hon (by rw [hkeys]; decide)
  have hrest : q.buckets.keys = p.buckets.keys.filter fun c => c ≠ .states := by
    rw [Buckets.keys, hentries, Buckets.keys, List.filter_map]
    rfl
  rw [hstates, Option.getD_some] at hpreserved
  rw [hkeys] at hrest
  exact ⟨p, q, hoff, hq, hkeys, hpreserved, hrest, hcomment⟩

end ClassLift
