/-
  Variants: a token as a chain, and what the links of the chain decide.

  A variant is put in front of a token with a colon behind it, so tokens are built up one variant at a
  time.  Taking a token apart, asking for a state variant and classifying all follow that construction.

  1. **One equation carries the chain.**  A variant without a colon, a colon and a token are cut into
     the variant and the parts of the token (`parts_under`).  The last part is the same as before, so
     the utility is too, and one variant is put in front of the others (`ofToken_under`).  Nothing is
     said of the token: it may be empty, end in a colon, or have empty variants.

  2. **Which variants are state variants** is said on texts alone (`IsStateVariant`).  A keyword counts
     in the place of a variant only: as the utility it says nothing.

  3. **One step, then the chain.**  A state variant in front gives the category of the state variants,
     any other variant changes nothing (`classify_under`).  By induction on a chain of variants the
     category is decided by whether SOME of them is a state variant, wherever it stands.
-/
import ClassLift.Proofs.Preserving

namespace ClassLift

/-! ## Taking apart and putting together -/

/-- A token under one more variant. -/
def under (v t : Text) : Text := v ++ ':' :: t

/-- A token under a chain of variants, the outermost first. -/
def underAll (vs : List Text) (t : Text) : Text := vs.foldr under t

example : underAll ["dark".toList, "hover".toList] "p-1".toList = "dark:hover:p-1".toList := by
  decide

section

variable {v t : Text}

/-- **A variant in front is one more part in front.** -/
theorem parts_under (hv : ':' ∉ v) (t : Text) :
    (under v t).splitOn ':' = v :: t.splitOn ':' := by
  rw [under, List.splitOn_append_cons_self, List.splitOn_eq_singleton hv, List.singleton_append]

/-- The utility is the last part of a token, and the variants are those in front of it. -/
theorem ofToken_of_parts {front : List Text} {last : Text} (h : t.splitOn ':' = front ++ [last]) :
    Utility.ofToken t = ⟨front, last⟩ := by
  rw [Utility.ofToken, h, List.dropLast_concat, List.getLastD_concat]

/-- Variants and utility are the parts of a token. -/
theorem variants_append_base (t : Text) :
    (Utility.ofToken t).variants ++ [(Utility.ofToken t).base] = t.splitOn ':' := by
  rcases List.eq_nil_or_concat' (t.splitOn ':') with h | ⟨front, last, h⟩
  · exact absurd h (List.splitOn_ne_nil ':' t)
  · rw [ofToken_of_parts h, h]

/-- **A token that is taken apart and put together again** is the same token. -/
@[simp]
theorem toToken_ofToken (t : Text) : (Utility.ofToken t).toToken = t := by
  rw [Utility.toToken, variants_append_base]
  exact List.intercalate_splitOn ':'

/-- One more variant comes in front of the others, and the utility stays. -/
theorem ofToken_under (hv : ':' ∉ v) (t : Text) :
    Utility.ofToken (under v t) =
      ⟨v :: (Utility.ofToken t).variants, (Utility.ofToken t).base⟩ := by
  refine ofToken_of_parts ?_
  rw [parts_under hv, ← variants_append_base, List.cons_append]

/-- No part of a token holds a colon. -/
theorem colon_not_mem_part {part : Text}
    (h : part ∈ (Utility.ofToken t).variants ++ [(Utility.ofToken t).base]) : ':' ∉ part := by
  rw [variants_append_base] at h
  intro hm
  have hcut := (mem_splitOnP h ':' hm).1
  rw [beq_self_eq_true] at hcut
  exact absurd hcut (by decide)

/-! ## State variants -/

/-- A known keyword, or what starts with a known keyword and a slash. -/
def IsStateVariant (v : Text) : Prop :=
  v ∈ stateKeywords ∨ ∃ keyword ∈ stateKeywords, keyword ++ ['/'] <+: v

instance (v : Text) : Decidable (IsStateVariant v) := inferInstanceAs (Decidable (_ ∨ _))

theorem isStateVariant_iff : isStateVariant v = true ↔ IsStateVariant v := by
  rw [isStateVariant, Bool.or_eq_true, List.contains_iff_mem, List.any_eq_true]
  refine or_congr_right (exists_congr fun keyword => and_congr_right fun _ => ?_)
  exact List.isPrefixOf_iff_prefix

/-- **One step**: a token has a state variant exactly if the outermost variant is one or the rest has
    one. -/
theorem hasStateVariant_under (hv : ':' ∉ v) :
    hasStateVariant (under v t) = true ↔ IsStateVariant v ∨ hasStateVariant t = true := by
  rw [hasStateVariant, ofToken_under hv, List.any_cons, Bool.or_eq_true, isStateVariant_iff]
  exact Iff.rfl

/-! ## Categories -/

theorem classify_of_hasStateVariant (h : hasStateVariant t = true) : classify t = .states :=
  classify_eq_states_iff.mpr h

/-- A variant that is no state variant changes nothing. -/
theorem classify_under (hv : ':' ∉ v) (hplain : ¬IsStateVariant v) :
    classify (under v t) = classify t := by
  have hsame : hasStateVariant (under v t) = hasStateVariant t := by
    rw [Bool.eq_iff_iff, hasStateVariant_under hv, or_iff_right hplain]
  rw [classify, classify, hsame, ofToken_under hv]

variable {vs : List Text}

/-- A state variant anywhere in a chain is a state variant of the token. -/
theorem hasStateVariant_underAll (hvs : ∀ v ∈ vs, ':' ∉ v) :
    hasStateVariant (underAll vs t) = true ↔
      (∃ v ∈ vs, IsStateVariant v) ∨ hasStateVariant t = true := by
  induction vs with
  | nil => simp [underAll]
  | cons v vs ih =>
    have hrest := ih fun u hu => hvs u (List.mem_cons_of_mem v hu)
    show hasStateVariant (under v (underAll vs t)) = true ↔ _
    rw [hasStateVariant_under (hvs v List.mem_cons_self), hrest, List.exists_mem_cons_iff, or_assoc]

/-- A chain without state variants changes nothing; by induction on the chain. -/
theorem classify_underAll (hvs : ∀ v ∈ vs, ':' ∉ v) (hplain : ∀ v ∈ vs, ¬IsStateVariant v) :
    classify (underAll vs t) = classify t := by
  induction vs with
  | nil => rfl
  | cons v vs ih =>
    have hstep : classify (under v (underAll vs t)) = classify (underAll vs t) :=
      classify_under (hvs v List.mem_cons_self) (hplain v List.mem_cons_self)
    exact hstep.trans (ih (fun u hu => hvs u (List.mem_cons_of_mem v hu))
      fun u hu => hplain u (List.mem_cons_of_mem v hu))

end

/-- **Variants compose.**  A token is its variants and its utility, joined with colons.  One more
    variant in front is put in front of the variants; the token then has a state variant exactly if the
    new one is a known keyword, or starts with one and a slash, or the token had one before; and its
    category is that of the state variants if the new one is such a variant, and the old one otherwise.
    So along a whole chain unknown variants change nothing, and one state variant decides. -/
theorem variants_compose (t : Text) :
    ((Utility.ofToken t).toToken = t ∧
      ∀ part ∈ (Utility.ofToken t).variants ++ [(Utility.ofToken t).base], ':' ∉ part) ∧
    (∀ v, ':' ∉ v →
      Utility.ofToken (v ++ ':' :: t) =
        ⟨v :: (Utility.ofToken t).variants, (Utility.ofToken t).base⟩ ∧
      (hasStateVariant (v ++ ':' :: t) = true ↔
        v ∈ stateKeywords ∨ (∃ keyword ∈ stateKeywords, keyword ++ ['/'] <+: v) ∨
          hasStateVariant t = true) ∧
      (IsStateVariant v → classify (v ++ ':' :: t) = .states) ∧
      (¬IsStateVariant v → classify (v ++ ':' :: t) = classify t)) ∧
    ∀ vs, (∀ v ∈ vs, ':' ∉ v) →
      ((∃ v ∈ vs, IsStateVariant v) → classify (underAll vs t) = .states) ∧
      ((∀ v ∈ vs, ¬IsStateVariant v) → classify (underAll vs t) = classify t) := by
  refine ⟨⟨toToken_ofToken t, fun part => colon_not_mem_part⟩, fun v hv => ⟨ofToken_under hv t, ?_, ?_, ?_⟩,
    fun vs hvs => ⟨fun hstate => ?_, classify_underAll hvs⟩⟩
  · rw [← or_assoc]
    exact hasStateVariant_under hv
  · intro hstate
    exact classify_of_hasStateVariant ((hasStateVariant_under hv).mpr (Or.inl hstate))
  · exact classify_under hv
  · exact classify_of_hasStateVariant ((hasStateVariant_underAll hvs).mpr (Or.inl hstate))

/-- An empty variant and a keyword as the utility in the first token; in the second one what a keyword
    starts with and what starts with a keyword. -/
theorem variants_compose_nested :
    classify "custom::group-hover/item:hover".toList = .states ∧
    classify "first-:hoverable:text-lg".toList = classify "text-lg".toList := by
  obtain ⟨-, -, hstates⟩ := variants_compose "hover".toList
  obtain ⟨-, -, hplain⟩ := variants_compose "text-lg".toList
  have hchain := hstates ["custom".toList, [], "group-hover/item".toList] (by decide)
  exact ⟨hchain.1 ⟨"group-hover/item".toList, by decide, by decide⟩,
    (hplain ["first-".toList, "hoverable".toList] (by decide)).2 (by decide)⟩

end ClassLift
