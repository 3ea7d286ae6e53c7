/-
  How planning ends: by the first rule that applies.

  1. **Names** are judged on the trimmed text: nothing left, an ASCII digit in front, a blank inside,
     and the first of these faults counts (`FirstFault`).

  2. **Rules.**  `Ends` has one rule for each way to end.  The guards of a rule say that no rule above it
     applies, and what the rule itself asks for; they speak of the name, the windows in reach, the tokens
     and the request, and not of planning.  Each rule holds, and going down the guards one of them always
     applies, so planning ends exactly as the rules say (`plan_eq_iff`).

  3. **Force** is in the guards of the rule on the threshold and nowhere else.  So it changes the endings
     of that rule only, into what the rules below it give.

  4. **Numbers without a numeral.**  The report that nothing was found shows the number of the line, and
     the report on too few classes shows the threshold; a number of more than 4300 digits cannot be shown.
     There the report fails and with it the ending that one would expect (`far_line_not_reported`).  So
     each of the two has a rule for this as well.
-/
import ClassLift.Proofs.Minimal
import ClassLift.Proofs.Scan

namespace ClassLift

/-! ## Names -/

/-- The first fault of a trimmed name. -/
inductive FirstFault : Text → NameFault → Prop
  | missing : FirstFault [] .missing
  | leadingDigit {c : Char} {rest : Text} (hdigit : '0' ≤ c ∧ c ≤ '9') :
      FirstFault (c :: rest) .leadingDigit
  | blankInside {c : Char} {rest : Text} (hdigit : ¬('0' ≤ c ∧ c ≤ '9'))
      (hblank : ∃ d ∈ c :: rest, isBlank d = true) : FirstFault (c :: rest) .blankInside

/-- A trimmed name without fault. -/
def IsFaultless (name : Text) : Prop := ∀ fault, ¬FirstFault name fault

theorem isDigit_iff {c : Char} : c.isDigit = true ↔ '0' ≤ c ∧ c ≤ '9' := by
  rw [Char.isDigit, Bool.and_eq_true, decide_eq_true_iff, decide_eq_true_iff]
  exact Iff.rfl

theorem nameFault?_eq_some_iff {name : Text} {fault : NameFault} :
    nameFault? name = some fault ↔ FirstFault name fault := by
  cases name with
  | nil =>
    constructor
    · intro h
      obtain rfl := Option.some.inj h
      exact .missing
    · intro h
      cases h
      rfl
  | cons c rest =>
    simp only [nameFault?]
    by_cases hdigit : c.isDigit = true
    · rw [if_pos hdigit]
      constructor
      · intro h
        obtain rfl := Option.some.inj h
        exact .leadingDigit (isDigit_iff.mp hdigit)
      · intro h
        cases h with
        | leadingDigit => rfl
        | blankInside hnot => exact absurd (isDigit_iff.mp hdigit) hnot
    · have hnot := mt isDigit_iff.mpr hdigit
      rw [if_neg hdigit]
      constructor
      · intro h
        split at h
        case isTrue hblank =>
          obtain rfl := Option.some.inj h
          exact .blankInside hnot (List.any_eq_true.mp hblank)
        case isFalse => exact absurd h (by simp)
      · intro h
        cases h with
        | leadingDigit hyes => exact absurd hyes hnot
        | blankInside _ hblank => rw [if_pos (List.any_eq_true.mpr hblank)]

theorem nameFault?_eq_none_iff {name : Text} : nameFault? name = none ↔ IsFaultless name := by
  rw [Option.eq_none_iff_forall_ne_some]
  exact forall_congr' fun fault => not_congr nameFault?_eq_some_iff

/-- The trimmed name of a request. -/
def Request.trimmedName (r : Request) : Text := strip (r.name.getD [])

theorem validateName_of_isFaultless {r : Request} (h : IsFaultless r.trimmedName) :
    validateName r.name = .ok (sanitize r.trimmedName) := by
  have hnone : nameFault? (strip (r.name.getD [])) = none := nameFault?_eq_none_iff.mpr h
  simp only [validateName, hnone]
  rfl

/-! ## Rules -/

/-- Neither the line nor a window in reach of it has an attribute. -/
def NothingNear (text : Text) (line : Int) (lookaround : Nat) : Prop :=
  NoneOnLine text line ∧ ∀ first last, InReach text line lookaround first last →
    findAttribute (windowText text first last) = none

section

variable (s : Settings) (text : Text) (r : Request) (found : Location)

/-- The tokens that were found. -/
def Location.tokens (found : Location) : List Text := tokenize found.found.value

/-- There are fewer tokens than the threshold asks for, and nobody forces the extraction. -/
def TooFew : Prop := r.force = false ∧ (found.tokens.length : Int) < s.thresholdOr r.threshold

/-- Tokens with a state variant stay in the markup, and there are no others.  Then the rule would be
    empty. -/
def AllStay : Prop :=
  r.preserving.getD s.preserveStateVariants = true ∧ ∀ t ∈ found.tokens, hasStateVariant t = true

/-- The ways in which planning ends. -/
inductive Ends : Except PlanError Plan → Prop
  | badName {fault : NameFault} (hfault : FirstFault r.trimmedName fault) :
      Ends (.error (.invalidName r.trimmedName fault))
  | nothingFound (hname : IsFaultless r.trimmedName)
      (hnone : NothingNear text r.line s.lookaround.toNat)
      (hnumeral : HasNumeral (r.line + 1)) : Ends (.error (.noAttribute r.line))
  | nothingFoundFar (hname : IsFaultless r.trimmedName)
      (hnone : NothingNear text r.line s.lookaround.toNat)
      (hnumeral : ¬HasNumeral (r.line + 1)) : Ends (.error (.noAttributeFar r.line))
  | tooFew {found : Location} (hname : IsFaultless r.trimmedName)
      (hfound : locate text r.line s.lookaround.toNat = some found) (hfew : TooFew s r found)
      (hnumeral : HasNumeral (s.thresholdOr r.threshold)) :
      Ends (.error (.belowThreshold found.tokens.length (s.thresholdOr r.threshold)))
  | tooFewFar {found : Location} (hname : IsFaultless r.trimmedName)
      (hfound : locate text r.line s.lookaround.toNat = some found) (hfew : TooFew s r found)
      (hnumeral : ¬HasNumeral (s.thresholdOr r.threshold)) :
      Ends (.error (.belowThresholdFar found.tokens.length (s.thresholdOr r.threshold)))
  | nothingLeft {found : Location} (hname : IsFaultless r.trimmedName)
      (hfound : locate text r.line s.lookaround.toNat = some found) (hmany : ¬TooFew s r found)
      (hstay : AllStay s r found) : Ends (.error .nothingLeft)
  | planned {p : Plan} (hname : IsFaultless r.trimmedName)
      (hfound : locate text r.line s.lookaround.toNat = some p.location)
      (hmany : ¬TooFew s r p.location) (hleave : ¬AllStay s r p.location)
      (hplan : IsPlanFor s text r p) : Ends (.ok p)

end

section

variable {s : Settings} {text : Text} {r : Request} {found : Location} {p : Plan}

theorem nothingNear_iff {line : Int} {lookaround : Nat} :
    NothingNear text line lookaround ↔ locate text line lookaround = none :=
  locate_eq_none_iff.symm

/-- What is located has a token, because a blank value is no attribute. -/
theorem tokens_ne_nil {line : Int} {lookaround : Nat}
    (h : locate text line lookaround = some found) : found.tokens ≠ [] := by
  obtain ⟨_, _, _, _, _, -, hfound, -, -⟩ := locate_reads h
  exact tokenize_ne_nil_of_strip (findAttribute_occursIn hfound).2

/-- The test on what is left: nothing goes into the rule exactly if all tokens stay. -/
theorem allStay_iff (hne : found.tokens ≠ []) : AllStay s r found ↔
    (extractedTokens (r.preserving.getD s.preserveStateVariants)
      (tokenize found.found.value)).isEmpty = true := by
  rw [AllStay, List.isEmpty_iff]
  cases r.preserving.getD s.preserveStateVariants with
  -- nothing stays unless it is asked for, and there is a token
  | false => exact iff_of_false (fun h => absurd h.1 (by decide)) hne
  | true =>
    show _ ↔ (found.tokens.filter fun t => !hasStateVariant t) = []
    rw [List.filter_eq_nil_iff, and_iff_right rfl]
    refine forall₂_congr fun t _ => ?_
    rw [Bool.not_eq_true', Bool.not_eq_false]

/-- The test on the threshold. -/
theorem tooFew_iff : TooFew s r found ↔
    (!isLong (tokenize found.found.value) (s.thresholdOr r.threshold) && !r.force) = true := by
  simp [TooFew, Location.tokens, isLong, and_comm]

/-! ## Each rule holds -/

theorem plan_of_fault {fault : NameFault} (h : FirstFault r.trimmedName fault) :
    plan s text r = .error (.invalidName r.trimmedName fault) := by
  have hsome : nameFault? (strip (r.name.getD [])) = some fault := nameFault?_eq_some_iff.mpr h
  simp only [plan, validateName, hsome]
  rfl

theorem plan_of_nothingNear (hname : IsFaultless r.trimmedName)
    (hnone : NothingNear text r.line s.lookaround.toNat) :
    plan s text r = .error (noAttributeAt r.line) := by
  rw [plan, validateName_of_isFaultless hname, nothingNear_iff.mp hnone]

/-- With a name and an attribute, planning goes on at the attribute. -/
theorem plan_of_located (hname : IsFaultless r.trimmedName)
    (hfound : locate text r.line s.lookaround.toNat = some found) :
    plan s text r = planAt s r (sanitize r.trimmedName) found := by
  rw [plan, validateName_of_isFaultless hname, hfound]

theorem planAt_of_tooFew {name : Text} (h : TooFew s r found) :
    planAt s r name found =
      .error (tooFewClasses found.tokens.length (s.thresholdOr r.threshold)) := by
  rw [planAt, if_pos (tooFew_iff.mp h)]
  rfl

theorem planAt_of_allStay {name : Text} (hne : found.tokens ≠ []) (hmany : ¬TooFew s r found)
    (h : AllStay s r found) : planAt s r name found = .error .nothingLeft := by
  rw [planAt, if_neg (mt tooFew_iff.mpr hmany), if_pos ((allStay_iff hne).mp h)]

theorem exists_planAt (name : Text) (hne : found.tokens ≠ []) (hmany : ¬TooFew s r found)
    (h : ¬AllStay s r found) : ∃ p, planAt s r name found = .ok p ∧ p.location = found := by
  rw [planAt, if_neg (mt tooFew_iff.mpr hmany), if_neg (mt (allStay_iff hne).mpr h)]
  exact ⟨_, rfl, rfl⟩

/-- **Planning ends by the first rule that applies.** -/
theorem plan_eq_iff {o : Except PlanError Plan} : plan s text r = o ↔ Ends s text r o := by
  constructor
  · -- down the rules, from guard to guard
    rintro rfl
    by_cases hname : IsFaultless r.trimmedName
    · cases hfound : locate text r.line s.lookaround.toNat with
      | none =>
        have hnone := nothingNear_iff.mpr hfound
        rw [plan_of_nothingNear hname hnone]
        by_cases hnumeral : HasNumeral (r.line + 1)
        · rw [noAttributeAt, if_pos hnumeral]
          exact .nothingFound hname hnone hnumeral
        · rw [noAttributeAt, if_neg hnumeral]
          exact .nothingFoundFar hname hnone hnumeral
      | some found =>
        have hne := tokens_ne_nil hfound
        rw [plan_of_located hname hfound]
        by_cases hfew : TooFew s r found
        · rw [planAt_of_tooFew hfew]
          by_cases hnumeral : HasNumeral (s.thresholdOr r.threshold)
          · rw [tooFewClasses, if_pos hnumeral]
            exact .tooFew hname hfound hfew hnumeral
          · rw [tooFewClasses, if_neg hnumeral]
            exact .tooFewFar hname hfound hfew hnumeral
        by_cases hstay : AllStay s r found
        · rw [planAt_of_allStay hne hfew hstay]
          exact .nothingLeft hname hfound hfew hstay
        · obtain ⟨p, hp, rfl⟩ := exists_planAt (sanitize r.trimmedName) hne hfew hstay
          rw [hp]
          exact .planned hname hfound hfew hstay
            (planAt_eq_ok (validateName_of_isFaultless hname) hfound hp)
    · obtain ⟨fault, hfault⟩ := not_forall.mp hname
      rw [plan_of_fault (not_not.mp hfault)]
      exact .badName (not_not.mp hfault)
  · intro h
    cases h with
    | badName hfault => exact plan_of_fault hfault
    | nothingFound hname hnone hnumeral =>
      rw [plan_of_nothingNear hname hnone, noAttributeAt, if_pos hnumeral]
    | nothingFoundFar hname hnone hnumeral =>
      rw [plan_of_nothingNear hname hnone, noAttributeAt, if_neg hnumeral]
    | tooFew hname hfound hfew hnumeral =>
      rw [plan_of_located hname hfound, planAt_of_tooFew hfew, tooFewClasses, if_pos hnumeral]
    | tooFewFar hname hfound hfew hnumeral =>
      rw [plan_of_located hname hfound, planAt_of_tooFew hfew, tooFewClasses, if_neg hnumeral]
    | nothingLeft hname hfound hmany hstay =>
      rw [plan_of_located hname hfound, planAt_of_allStay (tokens_ne_nil hfound) hmany hstay]
    | planned _ _ _ _ hplan => exact plan_eq_ok_iff.mpr hplan

/-! ## Force -/

/-- Nothing is too little where the extraction is forced, not even for a threshold that cannot be
    shown. -/
theorem not_tooFew_of_force (h : r.force = true) : ¬TooFew s r found := by
  intro hfew
  exact Bool.false_ne_true (hfew.1.symm.trans h)

/-- **What is planned without force is planned with force**, and the plan is the same. -/
theorem plan_force_of_ok (h : plan s text { r with force := false } = .ok p) :
    plan s text { r with force := true } = .ok p ∧ p.belowThreshold = false := by
  have hplan := plan_eq_ok_iff.mp h
  constructor
  · exact plan_eq_ok_iff.mpr { hplan with forced := fun _ => rfl }
  · rw [← Bool.not_eq_true]
    intro hbelow
    exact Bool.false_ne_true (hplan.forced hbelow)

/-- The error says that there are too few classes, or would say so if the threshold had a numeral. -/
def PlanError.IsOnThreshold (e : PlanError) : Prop :=
  ∃ count threshold, e = .belowThreshold count threshold ∨ e = .belowThresholdFar count threshold

/-- **Force leaves every other error alone**; by cases on the rules, of which one only asks for it. -/
theorem plan_force_of_error {e : PlanError} (hother : ¬e.IsOnThreshold)
    (h : plan s text { r with force := false } = .error e) :
    plan s text { r with force := true } = .error e := by
  refine plan_eq_iff.mpr ?_
  cases plan_eq_iff.mp h with
  | badName hfault => exact .badName hfault
  | nothingFound hname hnone hnumeral => exact .nothingFound hname hnone hnumeral
  | nothingFoundFar hname hnone hnumeral => exact .nothingFoundFar hname hnone hnumeral
  | tooFew => exact absurd ⟨_, _, Or.inl rfl⟩ hother
  | tooFewFar => exact absurd ⟨_, _, Or.inr rfl⟩ hother
  | nothingLeft hname hfound _ hstay =>
    exact .nothingLeft hname hfound (not_tooFew_of_force rfl) hstay

/-- What force makes of an extraction with too few tokens. -/
theorem plan_force_of_tooFew (hname : IsFaultless r.trimmedName)
    (hfound : locate text r.line s.lookaround.toNat = some found)
    (hfew : TooFew s { r with force := false } found) :
    (AllStay s r found → plan s text { r with force := true } = .error .nothingLeft) ∧
      (¬AllStay s r found → ∃ p, plan s text { r with force := true } = .ok p ∧
        p.location = found ∧ p.belowThreshold = true) := by
  refine ⟨fun hstay => ?_, fun hleave => ?_⟩
  · exact plan_eq_iff.mpr (.nothingLeft hname hfound (not_tooFew_of_force rfl) hstay)
  · -- the forced request differs in nothing that the rules above the threshold look at
    have hname' : IsFaultless ({ r with force := true } : Request).trimmedName := hname
    obtain ⟨p, hp, rfl⟩ := exists_planAt (s := s) (r := { r with force := true })
      (sanitize r.trimmedName) (tokens_ne_nil hfound) (not_tooFew_of_force rfl) hleave
    have hforced := (plan_of_located hname' hfound).trans hp
    have hplan := plan_eq_ok_iff.mp hforced
    refine ⟨p, hforced, rfl, ?_⟩
    rw [hplan.long, hplan.tokens, isLong, Bool.not_eq_true', decide_eq_false_iff_not, Int.not_le]
    exact hfew.2

/-- **With force the rules below the threshold decide.** -/
theorem plan_force_of_isOnThreshold {e : PlanError} (hon : e.IsOnThreshold)
    (h : plan s text { r with force := false } = .error e) :
    ∃ found, locate text r.line s.lookaround.toNat = some found ∧
      e = tooFewClasses found.tokens.length (s.thresholdOr r.threshold) ∧
      (found.tokens.length : Int) < s.thresholdOr r.threshold ∧
      (AllStay s r found → plan s text { r with force := true } = .error .nothingLeft) ∧
      (¬AllStay s r found → ∃ p, plan s text { r with force := true } = .ok p ∧
        p.location = found ∧ p.belowThreshold = true) := by
  obtain ⟨count, threshold, hon⟩ := hon
  cases plan_eq_iff.mp h with
  | @tooFew found hname hfound hfew hnumeral =>
    exact ⟨found, hfound, (if_pos hnumeral).symm, hfew.2, plan_force_of_tooFew hname hfound hfew⟩
  | @tooFewFar found hname hfound hfew hnumeral =>
    exact ⟨found, hfound, (if_neg hnumeral).symm, hfew.2, plan_force_of_tooFew hname hfound hfew⟩
  | badName => exact absurd hon (by simp)
  | nothingFound => exact absurd hon (by simp)
  | nothingFoundFar => exact absurd hon (by simp)
  | nothingLeft => exact absurd hon (by simp)

end

/-! ## Endings -/

/-- **How planning ends.**

    * It ends by the first rule that applies, and in no other way.
    * A plan has a token to extract and a rule to write.
    * Force changes no plan, and a plan made without it is not below the threshold.
    * Force changes no error but the one on the threshold, with a numeral or without, which becomes what
      the other rules give. -/
theorem planning_ends (s : Settings) (text : Text) (r : Request) :
    (∀ o, plan s text r = o ↔ Ends s text r o) ∧
    (∀ p, plan s text r = .ok p → p.extracted ≠ [] ∧ p.css ≠ []) ∧
    (∀ p, plan s text { r with force := false } = .ok p →
      plan s text { r with force := true } = .ok p ∧ p.belowThreshold = false) ∧
    (∀ e : PlanError, ¬e.IsOnThreshold → plan s text { r with force := false } = .error e →
      plan s text { r with force := true } = .error e) ∧
    ∀ e : PlanError, e.IsOnThreshold → plan s text { r with force := false } = .error e →
        ∃ found, locate text r.line s.lookaround.toNat = some found ∧
          e = tooFewClasses found.tokens.length (s.thresholdOr r.threshold) ∧
          (found.tokens.length : Int) < s.thresholdOr r.threshold ∧
          (AllStay s r found → plan s text { r with force := true } = .error .nothingLeft) ∧
          (¬AllStay s r found → ∃ p, plan s text { r with force := true } = .ok p ∧
            p.location = found ∧ p.belowThreshold = true) := by
  refine ⟨fun o => plan_eq_iff, fun p hp => ?_, fun p => plan_force_of_ok,
    fun e => plan_force_of_error, fun e => plan_force_of_isOnThreshold⟩
  have hplan := plan_eq_ok_iff.mp hp
  exact ⟨hplan.nonempty, hplan.css_ne_nil⟩

/-- Three tokens are too few for a threshold of nine.  One of them has a state variant, so with force
    something is left. -/
theorem planning_ends_wrapped :
    plan {} wrappedMarkup { wrappedRequest with threshold := some 9 } =
        .error (.belowThreshold 3 9) ∧
      ∃ p, plan {} wrappedMarkup { wrappedRequest with threshold := some 9, force := true } = .ok p ∧
        p.belowThreshold = true ∧ p.extracted ≠ [] ∧ p.css ≠ [] := by
  obtain ⟨found, hfound⟩ : ∃ found, locate wrappedMarkup 5 ({} : Settings).lookaround.toNat =
      some found :=
    Option.isSome_iff_exists.mp (by decide +kernel)
  have htokens : (locate wrappedMarkup 5 ({} : Settings).lookaround.toNat).map Location.tokens =
      some ["text-lg".toList, "hover:p-1".toList, "text-red-500".toList] := by
    decide +kernel
  rw [hfound] at htokens
  have htokens := Option.some.inj htokens
  have hcount : found.tokens.length = 3 := by rw [htokens]; rfl
  have hname : IsFaultless ({ wrappedRequest with threshold := some 9 } : Request).trimmedName :=
    nameFault?_eq_none_iff.mp (by decide)
  obtain ⟨hends, -, -, -, hforce⟩ :=
    planning_ends {} wrappedMarkup { wrappedRequest with threshold := some 9 }
  have hbelow : plan {} wrappedMarkup { wrappedRequest with threshold := some 9 } =
      .error (.belowThreshold found.tokens.length 9) :=
    (hends _).mpr (.tooFew hname hfound ⟨rfl, by rw [hcount]; decide⟩
      (hasNumeral_of_natAbs_le (by decide)))
  obtain ⟨found', hfound', -, -, -, hplanned⟩ := hforce _ ⟨_, _, Or.inl rfl⟩ hbelow
  obtain rfl := Option.some.inj (hfound.symm.trans hfound')
  obtain ⟨p, hp, -, hflag⟩ := hplanned fun hstay => by
    rw [AllStay, htokens] at hstay
    exact absurd hstay.2 (by decide)
  obtain ⟨-, hsome, -⟩ :=
    planning_ends {} wrappedMarkup { wrappedRequest with threshold := some 9, force := true }
  rw [hcount] at hbelow
  exact ⟨hbelow, p, hp, hflag, hsome p hp⟩

/-- A request for a line so far down that its number cannot be shown. -/
def farRequest : Request where
  line := Nat.pow 10 numeralLimit - 1
  name := some "c".toList

/-- **A line that is too far down is not reported**: the name has no fault and nothing is near, but
    planning does not end with the error that says so. -/
theorem far_line_not_reported :
    IsFaultless farRequest.trimmedName ∧
      NothingNear "x".toList farRequest.line ({} : Settings).lookaround.toNat ∧
      ∀ line, plan {} "x".toList farRequest ≠ .error (.noAttribute line) := by
  have hname : IsFaultless farRequest.trimmedName := nameFault?_eq_none_iff.mp (by decide)
  have hpow : ∀ n, n < Nat.pow 10 n := fun n => Nat.lt_pow_self (by decide)
  have hfar := hpow numeralLimit
  have hlimit : 50 < numeralLimit := by decide
  have hline : farRequest.line = (Nat.pow 10 numeralLimit : Int) - 1 := rfl
  have hlookaround : ({} : Settings).lookaround.toNat ≤ 50 := by decide
  have hlines : (lines "x".toList).length = 1 := by decide
  -- the document has one line, and looking around does not reach it
  have hnone : NothingNear "x".toList farRequest.line ({} : Settings).lookaround.toNat := by
    constructor
    · intro n l hn hl
      obtain ⟨hlt, -⟩ := List.getElem?_eq_some_iff.mp hl
      omega
    · intro first last hreach
      obtain ⟨htop, -, hordered, hbottom⟩ := hreach
      omega
  refine ⟨hname, hnone, fun line hplan => ?_⟩
  have hnumeral : ¬HasNumeral (farRequest.line + 1) := by
    rw [HasNumeral, hline]
    omega
  rw [plan_of_nothingNear hname hnone, noAttributeAt, if_neg hnumeral] at hplan
  exact absurd hplan (by simp)

end ClassLift
