/-
  Sanitizing, told in one pass.

  `sanitize` makes its replacements one after another, and each can bring up what the one before it was
  to remove: a replaced character is a hyphen in front, hyphens that go uncover a digit, and in the end
  nothing may be left.

  1. **One pass.**  What goes from the front is the longest run of characters that are neither letter,
     digit nor underscore, whether they were hyphens from the start or became some; of the rest every
     character is replaced by itself (`sanitize_eq_once`).

  2. **Retraction.**  The results are the class identifiers, and those stay as they are.

  3. **The second time.**  A rule sanitizes the name it is given, so it opens with the same selector
     whether it gets the name that was typed or the validated one.
-/
import ClassLift.Proofs.RuleText

namespace ClassLift

/-! ## One pass -/

/-- What a name may hold at its front: a letter, a digit or an underscore. -/
def isNameFront (c : Char) : Bool := c.isAlphanum || c == '_'

/-- What a name holds in place of a character. -/
def hyphenated (c : Char) : Char := if isNameChar c then c else '-'

/-- A class identifier made of any text in one pass. -/
def sanitizeOnce (raw : Text) : Text :=
  match raw.dropWhile fun c => !isNameFront c with
  | [] => fallbackName
  | c :: rest =>
    if c.isDigit then '_' :: (c :: rest).map hyphenated else (c :: rest).map hyphenated

theorem isNameFront_iff {c : Char} :
    isNameFront c = true ↔ isNameStart c = true ∨ c.isDigit = true := by
  simp only [isNameFront, isNameStart, Char.isAlphanum, Bool.or_eq_true]
  tauto

/-- At the front stands a digit or what a name may start with, and never both. -/
theorem isNameStart_iff_of_isNameFront {c : Char} (h : isNameFront c = true) :
    isNameStart c = true ↔ ¬c.isDigit = true := by
  constructor
  · intro hstart hdigit
    rw [isNameStart_of_isDigit hdigit] at hstart
    exact absurd hstart (by decide)
  · exact (isNameFront_iff.mp h).resolve_right

theorem hyphenated_of_isNameFront {c : Char} (h : isNameFront c = true) : hyphenated c = c :=
  if_pos (Bool.or_eq_true_iff.mpr (Or.inl h))

/-- A character is a hyphen in the end exactly if it cannot stand at the front. -/
theorem hyphenated_beq_hyphen (c : Char) : (hyphenated c == '-') = !isNameFront c := by
  have hchar : isNameChar c = (isNameFront c || c == '-') := rfl
  rw [hyphenated, hchar]
  cases hfront : isNameFront c with
  | true =>
    have hne : c ≠ '-' := by
      rintro rfl
      exact absurd hfront (by decide)
    rw [Bool.true_or, if_pos rfl, Bool.not_true, beq_eq_false_iff_ne]
    exact hne
  | false =>
    rw [Bool.false_or, Bool.not_false, beq_iff_eq]
    split
    case isTrue heq => exact beq_iff_eq.mp heq
    case isFalse => rfl

/-- What is taken off first would be taken off anyway. -/
theorem dropWhile_dropWhile_of_imp {α : Type} {p q : α → Bool}
    (hpq : ∀ a, p a = true → q a = true) (l : List α) :
    (l.dropWhile p).dropWhile q = l.dropWhile q := by
  have hfront : ∀ a ∈ l.takeWhile p, q a = true :=
    fun a ha => hpq a (List.all_eq_true.mp List.all_takeWhile a ha)
  have hsplit : (l.takeWhile p ++ l.dropWhile p).dropWhile q = (l.dropWhile p).dropWhile q :=
    List.dropWhile_append_of_pos hfront
  rw [← hsplit, List.takeWhile_append_dropWhile]

/-- Dots, then replacements, then hyphens: the three first steps together. -/
theorem dropWhile_hyphen_map (raw : Text) :
    ((raw.dropWhile (· == '.')).map hyphenated).dropWhile (· == '-') =
      (raw.dropWhile fun c => !isNameFront c).map hyphenated := by
  have hhyphen : (fun c => c == '-') ∘ hyphenated = fun c => !isNameFront c :=
    funext hyphenated_beq_hyphen
  have hdot : ∀ c, (c == '.') = true → (!isNameFront c) = true := by
    intro c hc
    rw [beq_iff_eq.mp hc]
    decide
  rw [List.dropWhile_map, hhyphen, dropWhile_dropWhile_of_imp hdot]

/-- **Sanitizing is one pass.** -/
theorem sanitize_eq_once (raw : Text) : sanitize raw = sanitizeOnce raw := by
  have hsteps : ((raw.dropWhile (· == '.')).map fun c => if isNameChar c then c else '-').dropWhile
      (· == '-') = (raw.dropWhile fun c => !isNameFront c).map hyphenated :=
    dropWhile_hyphen_map raw
  rw [sanitize, sanitizeOnce, hsteps]
  cases hrest : raw.dropWhile fun c => !isNameFront c with
  | nil => rfl
  | cons c rest =>
    have hfront : isNameFront c = true := by
      have hhead := List.head?_dropWhile_not (fun c => !isNameFront c) raw
      rw [hrest] at hhead
      simpa using hhead
    have hmap : (c :: rest).map hyphenated = c :: rest.map hyphenated := by
      rw [List.map_cons, hyphenated_of_isNameFront hfront]
    rw [hmap]
    show (if isNameStart c then c :: rest.map hyphenated else '_' :: c :: rest.map hyphenated) =
      if c.isDigit then '_' :: (c :: rest).map hyphenated else (c :: rest).map hyphenated
    rw [hmap]
    by_cases hdigit : c.isDigit = true
    · have hstart : ¬isNameStart c = true :=
        fun h => (isNameStart_iff_of_isNameFront hfront).mp h hdigit
      rw [if_neg hstart, if_pos hdigit]
    · rw [if_pos ((isNameStart_iff_of_isNameFront hfront).mpr hdigit), if_neg hdigit]

example : sanitizeOnce ".é-2 xl!".toList = "_2-xl-".toList ∧
    sanitizeOnce "-.-".toList = fallbackName := by decide

/-! ## Retraction -/

theorem sanitize_eq_self_iff {x : Text} : sanitize x = x ↔ IsIdentifier x := by
  constructor
  · intro h
    rw [← h]
    exact isIdentifier_sanitize x
  · exact sanitize_of_isIdentifier

/-! ## The second time -/

/-- A flat rule opens with its selector. -/
theorem selectorLine_isPrefix_flatRule (name : Text) {ts : List Text} (h : ts ≠ []) :
    selectorLine name ++ ['\n'] <+: flatRule name ts := by
  obtain ⟨t, ts, rfl⟩ := List.exists_cons_of_ne_nil h
  exact isPrefix_joinWith_feed (selectorLine name) (applyLine (t :: ts)) [['\x7d'], []]

/-- So does a grouped rule. -/
theorem selectorLine_isPrefix_groupedRule (name : Text) {buckets : Buckets Text}
    (h : buckets.entries ≠ []) : selectorLine name ++ ['\n'] <+: groupedRule name buckets := by
  obtain ⟨e, es, hentries⟩ := List.exists_cons_of_ne_nil h
  let body := (List.intersperse [[]] ((ruleBlocks buckets).map blockLines)).flatten
  obtain ⟨l, ls, hlines⟩ : ∃ l ls, body ++ [['\x7d'], []] = l :: ls :=
    List.exists_cons_of_ne_nil (List.append_ne_nil_of_right_ne_nil body (List.cons_ne_nil _ _))
  rw [groupedRule, hentries]
  show _ <+: joinWith ['\n'] (selectorLine name :: (body ++ [['\x7d'], []]))
  rw [hlines]
  exact isPrefix_joinWith_feed (selectorLine name) l ls

/-- What a rule prints of its name is the sanitized name, so names that are sanitized to one name have
    one rule. -/
theorem rules_eq_of_sanitize_eq {m n : Text} (h : sanitize m = sanitize n) :
    (∀ ts, flatRule m ts = flatRule n ts) ∧ ∀ b, groupedRule m b = groupedRule n b := by
  have hselector : selectorLine m = selectorLine n := by rw [selectorLine, selectorLine, h]
  constructor
  · intro ts
    simp only [flatRule, hselector]
  · intro b
    simp only [groupedRule, hselector]

/-- A name that passes validation is the sanitized form of the trimmed name. -/
theorem sanitize_strip_of_validateName {typed : Option Text} {name : Text}
    (h : validateName typed = .ok name) : sanitize (strip (typed.getD [])) = name := by
  rw [validateName] at h
  split at h
  case h_1 => exact absurd h (by simp)
  case h_2 => exact Except.ok.inj h

/-- **Sanitizing is a retraction onto the class identifiers.**  Its results are identifiers, it leaves
    those and only those as they are, and it is done in one pass.  So a rule for a validated name opens
    with that name, and is the one that the trimmed name has too. -/
theorem sanitize_retracts :
    (∀ x, IsIdentifier (sanitize x)) ∧
    (∀ x, sanitize x = x ↔ IsIdentifier x) ∧
    (∀ x, sanitize (sanitize x) = sanitize x) ∧
    (∀ x, sanitize x = sanitizeOnce x) ∧
    ∀ typed c, validateName typed = .ok c → ∀ name, name = strip (typed.getD []) ∨ name = c →
      (∀ ts, flatRule name ts = flatRule c ts) ∧
      (∀ b, groupedRule name b = groupedRule c b) ∧
      (∀ ts, ts ≠ [] → '.' :: c ++ " \x7b\n".toList <+: flatRule name ts) ∧
      ∀ b : Buckets Text, b.entries ≠ [] →
        '.' :: c ++ " \x7b\n".toList <+: groupedRule name b := by
  refine ⟨isIdentifier_sanitize, fun x => sanitize_eq_self_iff,
    fun x => sanitize_of_isIdentifier (isIdentifier_sanitize x), sanitize_eq_once, ?_⟩
  intro typed c hvalid name hname
  have hc : sanitize c = c := sanitize_of_isIdentifier (isIdentifier_of_validateName hvalid)
  have hsame : sanitize name = c := by
    rcases hname with rfl | rfl
    · exact sanitize_strip_of_validateName hvalid
    · exact hc
  have hselector : '.' :: c ++ " \x7b\n".toList = selectorLine name ++ ['\n'] := by
    rw [selectorLine, hsame, List.append_assoc]
    rfl
  obtain ⟨hflat, hgrouped⟩ := rules_eq_of_sanitize_eq (hsame.trans hc.symm)
  rw [hselector]
  exact ⟨hflat, hgrouped, fun ts hts => selectorLine_isPrefix_flatRule name hts,
    fun b hb => selectorLine_isPrefix_groupedRule name hb⟩

/-- A dot in front and a character in the middle that a name cannot hold. -/
theorem sanitize_retracts_typed :
    validateName (some " .card!x ".toList) = .ok "card-x".toList ∧
    flatRule ".card!x".toList ["flex".toList] = flatRule "card-x".toList ["flex".toList] ∧
    ".card-x \x7b\n".toList <+: flatRule ".card!x".toList ["flex".toList] := by
  have hvalid : validateName (some " .card!x ".toList) = .ok "card-x".toList := by rfl
  obtain ⟨-, -, -, -, hrules⟩ := sanitize_retracts
  obtain ⟨hflat, -, hopens, -⟩ := hrules _ _ hvalid ".card!x".toList (Or.inl (by decide))
  exact ⟨hvalid, hflat _, hopens _ (List.cons_ne_nil _ _)⟩

end ClassLift
