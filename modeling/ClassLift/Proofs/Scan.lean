/-
  Scanning and extracting agree.

  The scan looks at the lines of a document as they are.  Extraction looks at the requested line as
  it is, and around it at windows of trimmed lines.  Both are answered by the same attribute.

  1. **What is suggested** is made of a line, the attribute on it and nothing else
     (`Suggestion.ofAttribute`, `mem_suggestions_iff`).  The scan fails where a list is below a
     threshold that has no numeral, and nowhere else (`suggestions_eq_error_iff`).

  2. **From a suggestion to a plan.**  The line has an attribute of its own, so that attribute is
     located, its list is long, and a list that is not blank has a token to extract
     (`exists_plan_of_line`).

  3. **From a plan to a suggestion.**  What is located on one line is the attribute of that line,
     also where a window of the trimmed line found it (`locate_one_line`); the blanks in front move
     its offsets, and the segment of the window moves them back.
-/
import ClassLift.Proofs.OneLine
import ClassLift.Proofs.Trimming

namespace ClassLift

/-! ## Lists that are not blank -/

/-- A character that is not blank belongs to a token. -/
theorem tokenize_cons_ne_nil {c : Char} (hc : isBlank c = false) (t : Text) :
    tokenize (c :: t) ≠ [] := by
  obtain ⟨first, others, hcut⟩ := List.exists_cons_of_ne_nil (List.splitOnP_ne_nil isBlank t)
  have hkeep : ¬isBlank c = true := by
    rw [hc]
    decide
  rw [tokenize, List.splitOnP_cons_eq_if_modifyHead, if_neg hkeep, hcut, List.modifyHead_cons,
    List.filter_cons_of_pos (by rfl)]
  exact List.cons_ne_nil _ _

/-- A text that is not blank has a token. -/
theorem tokenize_ne_nil_of_strip {t : Text} (h : strip t ≠ []) : tokenize (strip t) ≠ [] := by
  obtain ⟨c, rest, hstrip⟩ := List.exists_cons_of_ne_nil h
  -- the trimmed text starts with what the text has behind its leading blanks
  obtain ⟨r, -, hsplit⟩ := exists_stripRight_split (stripLeft t)
  have hleft : t.dropWhile isBlank = c :: (rest ++ r) := by
    rw [← List.cons_append, ← hstrip]
    exact hsplit
  have hsolid : isBlank c = false := by
    have hhead := List.head?_dropWhile_not isBlank t
    rw [hleft] at hhead
    simpa using hhead
  rw [hstrip]
  exact tokenize_cons_ne_nil hsolid rest

/-! ## What is suggested -/

/-- Small numbers can be shown. -/
theorem hasNumeral_of_natAbs_le {n : Int} (h : n.natAbs ≤ numeralLimit) : HasNumeral n := by
  have hpow : ∀ k, k < Nat.pow 10 k := fun k => Nat.lt_pow_self (by decide)
  exact Nat.lt_of_le_of_lt h (hpow numeralLimit)

/-- The line has a list that is below the threshold. -/
def IsShort (threshold : Int) (l : Text) : Prop :=
  ∃ a, findAttribute l = some a ∧ ((tokenize a.value).length : Int) < threshold

/-- The suggestion for one line, notes left aside. -/
def Suggestion.ofLine? (threshold : Int) (n : Nat) (l : Text) : Option Suggestion :=
  (findAttribute l).bind fun a =>
    if isLong (tokenize a.value) threshold then some (Suggestion.ofAttribute n a) else none

/-- The suggestions for some lines, the first of which has the given number, notes left aside. -/
def longLists (threshold : Int) (n : Nat) (ls : List Text) : List Suggestion :=
  (ls.zipIdx n).filterMap fun numbered => Suggestion.ofLine? threshold numbered.2 numbered.1

section

variable {text : Text} {threshold : Int} {n : Nat} {l : Text} {ls : List Text}

@[simp]
theorem longLists_nil : longLists threshold n [] = [] := rfl

@[simp]
theorem longLists_cons : longLists threshold n (l :: ls) =
    (Suggestion.ofLine? threshold n l).toList ++ longLists threshold (n + 1) ls := by
  rw [longLists, List.zipIdx_cons, List.filterMap_cons]
  cases Suggestion.ofLine? threshold n l <;> rfl

theorem isShort_iff {a : Attribute} (ha : findAttribute l = some a) :
    IsShort threshold l ↔ isLong (tokenize a.value) threshold = false := by
  rw [isLong, decide_eq_false_iff_not, Int.not_le]
  constructor
  · rintro ⟨b, hb, hlt⟩
    obtain rfl := Option.some.inj (ha.symm.trans hb)
    exact hlt
  · intro hlt
    exact ⟨a, ha, hlt⟩

/-- A line whose note can be written, or that needs none, gets its suggestion, or none where its list is
    short. -/
theorem onLine_of_passed (h : HasNumeral threshold ∨ ¬IsShort threshold l) :
    Suggestion.onLine threshold n l = .ok (Suggestion.ofLine? threshold n l) := by
  rw [Suggestion.onLine, Suggestion.ofLine?]
  cases ha : findAttribute l with
  | none => rfl
  | some a =>
    rw [isShort_iff ha, Bool.not_eq_false] at h
    dsimp only [Option.bind_some]
    by_cases hlong : isLong (tokenize a.value) threshold = true
    · rw [if_pos hlong, if_pos hlong]
    · rw [if_neg hlong, if_neg hlong, if_pos (h.resolve_right hlong)]

theorem onLine_of_short (hnone : ¬HasNumeral threshold) (h : IsShort threshold l) :
    Suggestion.onLine threshold n l = .error (.noNumeral threshold) := by
  obtain ⟨a, ha, -⟩ := id h
  have hshort := (isShort_iff ha).mp h
  rw [Suggestion.onLine, ha]
  dsimp only
  rw [if_neg (by rw [hshort]; decide), if_neg hnone]

theorem scanLines_cons : scanLines threshold n (l :: ls) =
    (Suggestion.onLine threshold n l).bind fun here =>
      (scanLines threshold (n + 1) ls).bind fun below => .ok (here.toList ++ below) := rfl

/-- **A scan that gets through** gives the long lists; by induction on the lines. -/
theorem scanLines_of_passed (h : HasNumeral threshold ∨ ∀ l ∈ ls, ¬IsShort threshold l) :
    scanLines threshold n ls = .ok (longLists threshold n ls) := by
  induction ls generalizing n with
  | nil => rfl
  | cons l ls ih =>
    have hhere := onLine_of_passed (n := n) (h.imp_right fun hall => hall l List.mem_cons_self)
    have hbelow := ih (n := n + 1)
      (h.imp_right fun hall l hl => hall l (List.mem_cons_of_mem _ hl))
    rw [scanLines_cons, hhere, hbelow, longLists_cons]
    rfl

/-- **A scan that does not** ends at the first line whose note cannot be written. -/
theorem scanLines_of_short (hnone : ¬HasNumeral threshold) (h : ∃ l ∈ ls, IsShort threshold l) :
    scanLines threshold n ls = .error (.noNumeral threshold) := by
  induction ls generalizing n with
  | nil =>
    obtain ⟨l, hl, -⟩ := h
    exact absurd hl List.not_mem_nil
  | cons l ls ih =>
    rw [scanLines_cons]
    by_cases hl : IsShort threshold l
    · rw [onLine_of_short hnone hl]
      rfl
    · -- this line passes, so the short list is further down
      obtain ⟨m, hm, hshort⟩ := h
      have hbelow : m ∈ ls := (List.mem_cons.mp hm).resolve_left fun heq => hl (heq ▸ hshort)
      rw [onLine_of_passed (Or.inr hl), ih ⟨m, hbelow, hshort⟩]
      rfl

/-- **When a document has suggestions**, and which. -/
theorem suggestions_eq_ok_iff {found : List Suggestion} :
    suggestions text threshold = .ok found ↔
      (HasNumeral threshold ∨ ∀ l ∈ lines text, ¬IsShort threshold l) ∧
        found = longLists threshold 0 (lines text) := by
  by_cases h : HasNumeral threshold ∨ ∀ l ∈ lines text, ¬IsShort threshold l
  · rw [suggestions, scanLines_of_passed h, Except.ok.injEq, and_iff_right h, eq_comm]
  · obtain ⟨hnone, hshort⟩ := not_or.mp h
    rw [suggestions, scanLines_of_short hnone (by simpa using hshort)]
    exact iff_of_false (by simp) fun hok => h hok.1

theorem Suggestion.ofLine?_eq_some_iff {sg : Suggestion} :
    Suggestion.ofLine? threshold n l = some sg ↔
      ∃ a, findAttribute l = some a ∧ isLong (tokenize a.value) threshold = true ∧
        sg = Suggestion.ofAttribute n a := by
  rw [Suggestion.ofLine?, Option.bind_eq_some_iff]
  constructor
  · rintro ⟨a, ha, h⟩
    split at h
    case isTrue hlong => exact ⟨a, ha, hlong, (Option.some.inj h).symm⟩
    case isFalse => exact absurd h (by simp)
  · rintro ⟨a, ha, hlong, rfl⟩
    exact ⟨a, ha, if_pos hlong⟩

/-- **The suggestions are those for the lines with a long list of their own.** -/
theorem mem_suggestions_iff {found : List Suggestion} (h : suggestions text threshold = .ok found)
    {sg : Suggestion} : sg ∈ found ↔
      ∃ n l a, (lines text)[n]? = some l ∧ findAttribute l = some a ∧
        isLong (tokenize a.value) threshold = true ∧ sg = Suggestion.ofAttribute n a := by
  obtain ⟨-, rfl⟩ := suggestions_eq_ok_iff.mp h
  rw [longLists, List.mem_filterMap]
  constructor
  · rintro ⟨⟨l, n⟩, hl, h⟩
    obtain ⟨a, ha, hlong, hsg⟩ := Suggestion.ofLine?_eq_some_iff.mp h
    exact ⟨n, l, a, List.mem_zipIdx_iff_getElem?.mp hl, ha, hlong, hsg⟩
  · rintro ⟨n, l, a, hl, ha, hlong, hsg⟩
    exact ⟨(l, n), List.mem_zipIdx_iff_getElem?.mpr hl,
      Suggestion.ofLine?_eq_some_iff.mpr ⟨a, ha, hlong, hsg⟩⟩

end

/-! ## From a suggestion to a plan -/

section

variable {s : Settings} {text : Text} {r : Request} {n : Nat} {l : Text} {a : Attribute}

/-- A line with a long list of its own can be extracted whole. -/
theorem exists_plan_of_line {name : Text} (hline : r.line = n)
    (hl : (lines text)[n]? = some l) (ha : findAttribute l = some a)
    (hname : validateName r.name = .ok name)
    (hlong : isLong (tokenize a.value) (s.thresholdOr r.threshold) = true)
    (hwhole : r.preserving.getD s.preserveStateVariants = false) :
    ∃ p, plan s text r = .ok p ∧ p.tokens = tokenize a.value ∧
      p.buckets = categorize (tokenize a.value) := by
  have hlocated := locate_of_line hl ha s.lookaround.toNat
  rw [← hline] at hlocated
  -- an attribute that was found is not blank, so something is left for the rule
  have hsome : ¬(tokenize a.value).isEmpty = true := by
    rw [List.isEmpty_iff]
    exact tokenize_ne_nil_of_strip (findAttribute_occursIn ha).2
  rw [plan, hname]
  simp only [hlocated, planAt, hlong, hwhole, extractedTokens, Bool.not_true, Bool.false_and,
    Bool.false_eq_true, if_false, if_neg hsome]
  exact ⟨_, rfl, rfl, rfl⟩

end

/-! ## From a plan to a suggestion -/

/-- An offset inside a window of one line, in the document: the line is trimmed there, so the blanks in
    front of it are added again. -/
theorem Window.toDocument_ofLine_of_le {l : Line} {offset : Nat}
    (h : offset ≤ (strip l.raw).length) :
    (Window.ofLine l).toDocument offset = l.offset + (leadingBlanks l.raw + offset) := by
  rw [Window.toDocument_ofLine, Nat.min_eq_left h, Nat.add_assoc]

/-- **What is located on one line is the attribute of that line**, in the same place. -/
theorem locate_one_line {text : Text} {requested : Int} {lookaround : Nat} {found : Location}
    (h : locate text requested lookaround = some found) (hone : found.lineCount = 1) :
    ∃ l a, (lines text)[found.lineIndex]? = some l ∧ findAttribute l = some a ∧
      found.found.value = a.value ∧
      found.documentStart = lineOffset text found.lineIndex + a.valueStart ∧
      found.documentEnd = lineOffset text found.lineIndex + a.valueEnd := by
  rcases locate_eq_some h with ⟨l, hl, hfound⟩ | ⟨start, l, added, below, hdrop, hfound⟩
  · -- on the requested line
    obtain ⟨hraw, hoffset⟩ := line_of_getElem?_documentLines hl
    obtain ⟨a, ha, rfl⟩ := Option.map_eq_some_iff.mp hfound
    rw [hoffset]
    exact ⟨l.raw, a, hraw, ha, rfl, rfl, rfl⟩
  · -- in a window, which has this one line only
    obtain ⟨a, ha, rfl⟩ := Option.map_eq_some_iff.mp hfound
    have hadded : added = [] := List.length_eq_zero_iff.mp (Nat.succ.inj hone)
    subst hadded
    have hl : (documentLines text)[start]? = some l := by
      have hhead : ((documentLines text).drop start)[0]? = some l := by
        rw [hdrop]
        rfl
      rwa [List.getElem?_drop, Nat.add_zero] at hhead
    obtain ⟨hraw, hoffset⟩ := line_of_getElem?_documentLines hl
    -- the window holds the line trimmed, and trimming moves the attribute by the blanks in front
    obtain ⟨front, behind, hfront, hstrip⟩ := findAttribute_strip l.raw
    have htrimmed : findAttribute (strip l.raw) = some a := ha
    rw [htrimmed, Option.map_some] at hstrip
    have hbounds := (findAttribute_occursIn htrimmed).1.bounds
    refine ⟨l.raw, a.between front behind, hraw, hstrip, rfl, ?_, ?_⟩
    · show (Window.ofLine l).toDocument a.valueStart = _
      rw [Window.toDocument_ofLine_of_le (by omega), Attribute.valueStart_between, hfront, hoffset]
    · show (Window.ofLine l).toDocument a.valueEnd = _
      rw [Window.toDocument_ofLine_of_le (by omega), Attribute.valueEnd_between, hfront, hoffset]

/-- A plan that was not forced is for a long list: a plan for a short one would say that it is below the
    threshold, which takes force. -/
theorem IsPlanFor.isLong_tokens {s : Settings} {text : Text} {r : Request} {p : Plan}
    (h : IsPlanFor s text r p) (hforce : r.force = false) :
    isLong p.tokens (s.thresholdOr r.threshold) = true := by
  by_contra hshort
  rw [Bool.not_eq_true] at hshort
  have hbelow : p.belowThreshold = true := by
    rw [h.long, hshort]
    rfl
  rw [h.forced hbelow] at hforce
  exact absurd hforce (by decide)

/-! ## Both agree -/

/-- **Scanning and extracting agree.**  What is suggested can be extracted: from its line, under any
    valid name and with the same threshold, whole and unforced, and the plan is for the suggested
    list, in the suggested place.  What can be extracted unforced from one line, even where another
    line was asked for, is suggested.  There are suggestions for every threshold that has a numeral. -/
theorem suggestions_agree_with_plan (s : Settings) (text : Text) (threshold : Int) :
    (HasNumeral threshold → ∃ found, suggestions text threshold = .ok found) ∧
    ∀ found, suggestions text threshold = .ok found →
    (∀ sg ∈ found, ∀ (r : Request) (name : Text),
      r.line = sg.lineIndex → validateName r.name = .ok name →
      s.thresholdOr r.threshold = threshold →
      r.preserving.getD s.preserveStateVariants = false → r.force = false →
      ∃ p, plan s text r = .ok p ∧ p.location.lineIndex = sg.lineIndex ∧
        p.location.lineCount = 1 ∧ p.location.found.value = sg.value ∧
        p.location.documentStart = lineOffset text sg.lineIndex + sg.valueStart ∧
        p.location.documentEnd = lineOffset text sg.lineIndex + sg.valueEnd ∧
        p.tokens.length = sg.tokenCount ∧ p.buckets.counts = sg.counts) ∧
    (∀ (r : Request) (p : Plan), plan s text r = .ok p →
      s.thresholdOr r.threshold = threshold → r.force = false → p.location.lineCount = 1 →
      ∃ sg ∈ found, sg.lineIndex = p.location.lineIndex ∧
        sg.value = p.location.found.value ∧
        lineOffset text sg.lineIndex + sg.valueStart = p.location.documentStart ∧
        lineOffset text sg.lineIndex + sg.valueEnd = p.location.documentEnd ∧
        sg.tokenCount = p.tokens.length) := by
  refine ⟨fun hnumeral => ⟨_, suggestions_eq_ok_iff.mpr ⟨Or.inl hnumeral, rfl⟩⟩,
    fun found hfound => ⟨?_, ?_⟩⟩
  · intro sg hsg r name hline hname hthreshold hwhole _
    obtain ⟨n, l, a, hl, ha, hlong, rfl⟩ := (mem_suggestions_iff hfound).mp hsg
    rw [← hthreshold] at hlong
    obtain ⟨p, hp, htokens, hbuckets⟩ := exists_plan_of_line hline hl ha hname hlong hwhole
    have hlocation := (plan_eq_ok_iff.mp hp).location_eq hline hl ha
    refine ⟨p, hp, ?_⟩
    rw [hlocation, htokens, hbuckets]
    exact ⟨rfl, rfl, rfl, rfl, rfl, rfl, rfl⟩
  · intro r p hp hthreshold hforce hone
    have h : IsPlanFor s text r p := plan_eq_ok_iff.mp hp
    obtain ⟨l, a, hl, ha, hvalue, hstart, hend⟩ := locate_one_line h.located hone
    have htokens : tokenize a.value = p.tokens := by rw [h.tokens, hvalue]
    have hlong := h.isLong_tokens hforce
    rw [hthreshold, ← htokens] at hlong
    refine ⟨Suggestion.ofAttribute p.location.lineIndex a,
      (mem_suggestions_iff hfound).mpr ⟨_, l, a, hl, ha, hlong, rfl⟩, rfl, hvalue.symm, hstart.symm,
      hend.symm, ?_⟩
    rw [← htokens]
    rfl

/-- A document with one class list, on its first line, between blanks. -/
def indentedMarkup : Text := " \t<i class=\" flex p-4\tgap-2 \"> \n<p>".toList

/-- A request for its second line, which only the search around that line can answer. -/
def nearbyRequest : Request := ⟨1, some "card".toList, none, some false, some 3, false⟩

theorem suggestions_agree_with_plan_indented :
    (∃ p, plan {} indentedMarkup { nearbyRequest with line := 0 } = .ok p ∧
      p.location.documentStart = 12) ∧
    ∃ found, suggestions indentedMarkup 3 = .ok found ∧
      ∃ sg ∈ found, sg.lineIndex = 0 ∧ sg.tokenCount = 3 := by
  obtain ⟨htotal, hagree⟩ := suggestions_agree_with_plan {} indentedMarkup 3
  obtain ⟨found, hfound⟩ := htotal (hasNumeral_of_natAbs_le (by decide))
  obtain ⟨hforward, hback⟩ := hagree found hfound
  have hnearby : (plan {} indentedMarkup nearbyRequest).toOption.map
      (fun p => (p.location.lineIndex, p.location.lineCount, p.tokens.length)) =
        some (0, 1, 3) := by
    decide +kernel
  obtain ⟨p, hp, hfacts⟩ := exists_ok_of_map_toOption hnearby
  obtain ⟨hindex, hone, hcount⟩ : p.location.lineIndex = 0 ∧ p.location.lineCount = 1 ∧
      p.tokens.length = 3 := by simpa using hfacts
  obtain ⟨sg, hsg, hsame, -, -, -, htokens⟩ := hback nearbyRequest p hp rfl rfl hone
  have hline : sg.lineIndex = 0 := hsame.trans hindex
  have hplace : lineOffset indentedMarkup sg.lineIndex + sg.valueStart = 12 := by
    have hall : ∀ sg ∈ longLists 3 0 (lines indentedMarkup),
        lineOffset indentedMarkup sg.lineIndex + sg.valueStart = 12 := by
      decide +kernel
    obtain ⟨-, rfl⟩ := suggestions_eq_ok_iff.mp hfound
    exact hall sg hsg
  obtain ⟨q, hq, -, -, -, hstart, -⟩ := hforward sg hsg { nearbyRequest with line := 0 }
    "card".toList (by rw [hline]; rfl) (by decide +kernel) rfl rfl rfl
  exact ⟨⟨q, hq, hstart.trans hplace⟩, found, hfound, sg, hsg, hline, htokens.trans hcount⟩

end ClassLift
