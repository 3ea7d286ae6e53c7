/-
  Reading a rule back from the stylesheet text.

  1. **A reader of its own.**  A line that starts like `  @apply ` applies the tokens between that
     start and its last semicolon; every other line applies nothing (`appliedOn?`, `appliedBy`).  The
     reader knows nothing of how rules are laid out.

  2. **Both layouts are lines around groups of tokens** (`ruleGroups`): one group with all tokens, or
     one for each block.  In between stand the selector, comments, empty lines and the closing brace,
     and none of those reads as an applied line.  So the reader gives the groups back
     (`appliedBy_rule`).

  3. **Marks.**  A brace or a semicolon of a rule is one of the rule's own, which are a brace on the
     selector, a brace on the last line and a semicolon for each group, or stands in a token
     (`count_mark_rule`).  Tokens are copied as they are.
-/
import ClassLift.Proofs.Buckets
import ClassLift.Proofs.Lines
import ClassLift.Proofs.Names

namespace ClassLift

/-! ## The reader -/

/-- The text in front of the last `d`; nothing if there is none. -/
def beforeLast (d : Char) (t : Text) : Text := ((t.reverse.dropWhile (· != d)).drop 1).reverse

/-- What an applied line starts with. -/
def applyStart : Text := "  @apply ".toList

/-- The tokens that a line of a stylesheet applies, if it applies any. -/
def appliedOn? (line : Text) : Option (List Text) :=
  (applyStart.isPrefixOf? line).map fun rest => tokenize (beforeLast ';' rest)

/-- The tokens that a stylesheet applies, line by line. -/
def appliedBy (css : Text) : List (List Text) := (lines css).filterMap appliedOn?

/-- The lines of a stylesheet that apply tokens. -/
def appliedLines (css : Text) : List Text := (lines css).filter fun l => (appliedOn? l).isSome

/-- The last line that a line feed ends. -/
def lastLine? (css : Text) : Option Text := (lines css).dropLast.getLast?

theorem length_appliedLines (css : Text) : (appliedLines css).length = (appliedBy css).length := by
  rw [appliedLines, appliedBy, List.length_filterMap_eq_countP, List.countP_eq_length_filter]

@[simp]
theorem beforeLast_concat (d : Char) (t : Text) : beforeLast d (t ++ [d]) = t := by
  simp [beforeLast]

theorem applyLine_eq (ts : List Text) :
    applyLine ts = applyStart ++ (joinSpaced ts ++ [';']) := List.append_assoc _ _ _

/-- An applied line reads back as its tokens. -/
theorem appliedOn?_applyLine {ts : List Text} (h : ∀ t ∈ ts, IsToken t) :
    appliedOn? (applyLine ts) = some ts := by
  have hprefix : applyStart.isPrefixOf? (applyLine ts) = some (joinSpaced ts ++ [';']) :=
    List.isPrefixOf?_eq_some_iff_append_eq.mpr (applyLine_eq ts).symm
  rw [appliedOn?, hprefix, Option.map_some, beforeLast_concat, tokenize_joinSpaced h]

@[simp]
theorem appliedOn?_selectorLine (name : Text) : appliedOn? (selectorLine name) = none := rfl

/-- The comment above a block. -/
def commentLine (title : Text) : Text := "  /* ".toList ++ title ++ " */".toList

@[simp]
theorem appliedOn?_commentLine (title : Text) : appliedOn? (commentLine title) = none := rfl

/-! ## The lines of a rule -/

/-- The tokens of a rule, applied line by applied line. -/
def ruleGroups (tokens : List Text) (buckets : Buckets Text) (requested : Bool) :
    List (List Text) :=
  if shouldGroup buckets requested then (ruleBlocks buckets).map Prod.snd else [tokens]

/-- The lines of a rule between its selector and its closing brace. -/
def ruleBody (tokens : List Text) (buckets : Buckets Text) (requested : Bool) : List Text :=
  if shouldGroup buckets requested then
    (List.intersperse [[]] ((ruleBlocks buckets).map blockLines)).flatten
  else [applyLine tokens]

/-- Grouping needs a bucket. -/
theorem entries_ne_nil_of_shouldGroup {buckets : Buckets Text} {requested : Bool}
    (h : shouldGroup buckets requested = true) : buckets.entries ≠ [] := by
  intro hnil
  have hpopulated : buckets.populated = 0 := by rw [Buckets.populated, hnil, List.countP_nil]
  rw [shouldGroup, hpopulated] at h
  simp at h

/-- **A rule that applies something is its selector, its body and its closing brace.** -/
theorem rule_eq {name : Text} {tokens : List Text} {buckets : Buckets Text} {requested : Bool}
    (hne : tokens ≠ []) :
    rule name tokens buckets requested =
      joinWith ['\n'] (selectorLine name :: ruleBody tokens buckets requested ++
        [['\x7d'], []]) := by
  rw [rule, ruleBody]
  by_cases hgroup : shouldGroup buckets requested = true
  · obtain ⟨e, es, hentries⟩ :=
      List.exists_cons_of_ne_nil (entries_ne_nil_of_shouldGroup hgroup)
    rw [if_pos hgroup, if_pos hgroup, groupedRule, hentries]
  · obtain ⟨t, ts, rfl⟩ := List.exists_cons_of_ne_nil hne
    rw [if_neg hgroup, if_neg hgroup, flatRule]
    · rfl
    · exact List.cons_ne_nil t ts

/-- What reads nothing from an empty line does not see the empty lines between blocks. -/
theorem flatMap_intersperse {β : Type} {F : Text → List β} (hF : F [] = [])
    (blocks : List (List Text)) :
    (List.intersperse [[]] blocks).flatten.flatMap F = blocks.flatten.flatMap F := by
  match blocks with
  | [] => rfl
  | [b] => rfl
  | b :: c :: rest =>
    have ih := flatMap_intersperse hF (c :: rest)
    rw [List.intersperse_cons_cons]
    simp only [List.flatten_cons, List.flatMap_append, List.flatMap_cons, List.flatMap_nil, hF,
      List.nil_append] at ih ⊢
    rw [ih]

/-- Only empty lines stand between blocks. -/
theorem mem_flatten_intersperse {blocks : List (List Text)} {l : Text}
    (hl : l ∈ (List.intersperse [[]] blocks).flatten) : l = [] ∨ l ∈ blocks.flatten := by
  match blocks with
  | [] => exact Or.inr hl
  | [b] => exact Or.inr hl
  | b :: c :: rest =>
    rw [List.intersperse_cons_cons, List.flatten_cons, List.flatten_cons, List.mem_append,
      List.mem_append, List.mem_singleton] at hl
    rw [List.flatten_cons, List.mem_append]
    rcases hl with hl | hl | hl
    · exact Or.inr (Or.inl hl)
    · exact Or.inl hl
    · exact (mem_flatten_intersperse hl).imp_right Or.inr

/-- **What a reader of single lines finds in the body of a rule**, if it finds nothing in empty lines
    and comments, is what it finds in the applied lines. -/
theorem flatMap_ruleBody {β : Type} {F : Text → List β} {tokens : List Text}
    {buckets : Buckets Text} {requested : Bool} (hF : F [] = [])
    (hcomment : ∀ e ∈ buckets.entries, F (commentLine e.1) = []) :
    (ruleBody tokens buckets requested).flatMap F =
      (ruleGroups tokens buckets requested).flatMap fun ts => F (applyLine ts) := by
  rw [ruleBody, ruleGroups]
  by_cases hgroup : shouldGroup buckets requested = true
  · rw [if_pos hgroup, if_pos hgroup, flatMap_intersperse hF, ← List.flatMap_def,
      List.flatMap_assoc, List.flatMap_map]
    refine List.flatMap_congr fun block hblock => ?_
    show F (commentLine block.1) ++ (F (applyLine block.2) ++ []) = F (applyLine block.2)
    rw [hcomment block (mem_entries_of_mem_ruleBlocks hblock), List.nil_append, List.append_nil]
  · rw [if_neg hgroup, if_neg hgroup, List.flatMap_singleton, List.flatMap_singleton]

/-- A line of the body is an empty line, a comment or an applied line. -/
theorem mem_ruleBody {tokens : List Text} {buckets : Buckets Text} {requested : Bool} {l : Text}
    (hl : l ∈ ruleBody tokens buckets requested) :
    l = [] ∨ (∃ e ∈ buckets.entries, l = commentLine e.1) ∨
      ∃ ts ∈ ruleGroups tokens buckets requested, l = applyLine ts := by
  rw [ruleBody] at hl
  rw [ruleGroups]
  by_cases hgroup : shouldGroup buckets requested = true
  · rw [if_pos hgroup] at hl ⊢
    rcases mem_flatten_intersperse hl with rfl | hl
    · exact Or.inl rfl
    · obtain ⟨ls, hls, hl⟩ := List.mem_flatten.mp hl
      obtain ⟨block, hblock, rfl⟩ := List.mem_map.mp hls
      rcases List.mem_cons.mp hl with rfl | hl
      · exact Or.inr (Or.inl ⟨block, mem_entries_of_mem_ruleBlocks hblock, rfl⟩)
      · exact Or.inr (Or.inr ⟨block.2, List.mem_map_of_mem hblock, List.mem_singleton.mp hl⟩)
  · rw [if_neg hgroup] at hl ⊢
    exact Or.inr (Or.inr ⟨tokens, List.mem_singleton_self tokens, List.mem_singleton.mp hl⟩)

/-! ## What a rule may be made of -/

/-- The characters that give a rule its shape. -/
def ruleMarks : List Char := ['\x7b', '\x7d', ';']

/-- What a title must not hold: a line feed or a mark. -/
def IsTitle (t : Text) : Prop := '\n' ∉ t ∧ ∀ d ∈ ruleMarks, d ∉ t

theorem isTitle_title (c : Category) : IsTitle c.title := by
  cases c <;> exact ⟨by decide, forall_mem_of_all (by decide)⟩

/-- What a grouped rule may show: titles, and tokens under them. -/
def Showable (blocks : List (Text × List Text)) : Prop :=
  ∀ block ∈ blocks, IsTitle block.1 ∧ ∀ t ∈ block.2, IsToken t

/-- Buckets of tokens by category can be shown. -/
theorem showable_titled_categorize {ts : List Text} (h : ∀ t ∈ ts, IsToken t) :
    Showable (categorize ts).titled.entries := by
  intro e he
  obtain ⟨entry, hentry, rfl⟩ := List.mem_map.mp he
  refine ⟨isTitle_title entry.1, fun t ht => h t ?_⟩
  have hmem : t ∈ (categorize ts).tokens :=
    List.mem_flatten.mpr ⟨entry.2, List.mem_map_of_mem hentry, ht⟩
  exact (tokens_categorize_perm ts).mem_iff.mp hmem

/-- Tokens, and buckets of tokens under titles. -/
structure Rulable (tokens : List Text) (buckets : Buckets Text) : Prop where
  nonempty : tokens ≠ []
  tokens : ∀ t ∈ tokens, IsToken t
  buckets : ∀ e ∈ buckets.entries, IsTitle e.1 ∧ ∀ t ∈ e.2, IsToken t

/-- Neither a comment nor what frames an applied line holds a line feed or a mark but the semicolon
    at its end. -/
theorem not_mem_commentLine {title : Text} (ht : IsTitle title) {d : Char}
    (hd : d ∈ '\n' :: ruleMarks) : d ∉ commentLine title := by
  have hframe : ∀ d ∈ '\n' :: ruleMarks, d ∉ "  /* ".toList ∧ d ∉ " */".toList :=
    forall_mem_of_all (by decide)
  have htitle : d ∉ title := by
    rcases List.mem_cons.mp hd with rfl | hd
    · exact ht.1
    · exact ht.2 d hd
  intro hm
  rcases List.mem_append.mp hm with hm | hm
  · rcases List.mem_append.mp hm with hm | hm
    · exact (hframe d hd).1 hm
    · exact htitle hm
  · exact (hframe d hd).2 hm

theorem not_mem_applyStart {d : Char} (hd : d ∈ '\n' :: ruleMarks) : d ∉ applyStart := by
  have hframe : ∀ d ∈ '\n' :: ruleMarks, d ∉ applyStart :=
    forall_mem_of_all (by decide)
  exact hframe d hd

/-- The only blanks of an applied line are spaces. -/
theorem blank_not_mem_applyLine {ts : List Text} (h : ∀ t ∈ ts, IsToken t) {c : Char}
    (hblank : isBlank c = true) (hspace : c ≠ ' ') : c ∉ applyLine ts := by
  have hstart : ∀ d ∈ applyStart, d = ' ' ∨ isBlank d = false := forall_mem_of_all (by decide)
  rw [applyLine_eq]
  intro hm
  rcases List.mem_append.mp hm with hm | hm
  · rcases hstart c hm with hc | hc
    · exact hspace hc
    · exact absurd (hblank.symm.trans hc) (by decide)
  rcases List.mem_append.mp hm with hm | hm
  · rcases mem_joinSpaced hm with hm | ⟨t, ht, hm⟩
    · exact hspace hm
    · exact absurd (hblank.symm.trans ((h t ht).2 c hm)) (by decide)
  · rw [List.mem_singleton.mp hm] at hblank
    exact absurd hblank (by decide)

/-- A selector line is the name and its brace. -/
theorem selectorLine_of_isIdentifier {name : Text} (h : IsIdentifier name) :
    selectorLine name = '.' :: name ++ " \x7b".toList := by
  rw [selectorLine, sanitize_of_isIdentifier h]

theorem not_mem_sanitize {d : Char} (hd : d ∈ '\n' :: ruleMarks) (name : Text) :
    d ∉ sanitize name := by
  have hchars : ∀ d ∈ '\n' :: ruleMarks, isNameChar d = false :=
    forall_mem_of_all (by decide)
  exact (isIdentifier_sanitize name).not_mem (hchars d hd)

theorem feed_not_mem_selectorLine (name : Text) : '\n' ∉ selectorLine name := by
  intro hm
  rcases List.mem_append.mp hm with hm | hm
  · rcases List.mem_cons.mp hm with hm | hm
    · exact absurd hm (by decide)
    · exact not_mem_sanitize List.mem_cons_self name hm
  · exact absurd hm (by decide)

/-! ## The rule and its lines -/

section

variable {name : Text} {tokens : List Text} {buckets : Buckets Text} {requested : Bool}

theorem isToken_of_mem_ruleGroups (h : Rulable tokens buckets) :
    ∀ ts ∈ ruleGroups tokens buckets requested, ∀ t ∈ ts, IsToken t := by
  intro ts hts
  rw [ruleGroups] at hts
  split at hts
  case isTrue =>
    obtain ⟨block, hblock, rfl⟩ := List.mem_map.mp hts
    exact (h.buckets block (mem_entries_of_mem_ruleBlocks hblock)).2
  case isFalse =>
    obtain rfl := List.mem_singleton.mp hts
    exact h.tokens

theorem feed_not_mem_ruleBody (h : Rulable tokens buckets) :
    ∀ l ∈ ruleBody tokens buckets requested, '\n' ∉ l := by
  intro l hl
  rcases mem_ruleBody hl with rfl | ⟨e, he, rfl⟩ | ⟨ts, hts, rfl⟩
  · exact List.not_mem_nil
  · exact not_mem_commentLine (h.buckets e he).1 List.mem_cons_self
  · exact blank_not_mem_applyLine (isToken_of_mem_ruleGroups h ts hts) (by decide) (by decide)

/-- **The lines of a rule.** -/
theorem lines_rule (h : Rulable tokens buckets) :
    lines (rule name tokens buckets requested) =
      selectorLine name :: ruleBody tokens buckets requested ++ [['\x7d'], []] := by
  rw [rule_eq h.nonempty]
  refine lines_joinWith (fun l hl => ?_) (List.cons_ne_nil _ _)
  rcases List.mem_append.mp hl with hl | hl
  · rcases List.mem_cons.mp hl with rfl | hl
    · exact feed_not_mem_selectorLine name
    · exact feed_not_mem_ruleBody h l hl
  · have hend : ∀ l ∈ [['\x7d'], []], '\n' ∉ l := by decide
    exact hend l hl

/-- No line is of any other kind. -/
theorem mem_lines_rule (h : Rulable tokens buckets) {l : Text}
    (hl : l ∈ lines (rule name tokens buckets requested)) :
    l = selectorLine name ∨ l = ['\x7d'] ∨ l = [] ∨
      (∃ e ∈ buckets.entries, l = commentLine e.1) ∨
      ∃ ts ∈ ruleGroups tokens buckets requested, l = applyLine ts := by
  rw [lines_rule h] at hl
  rcases List.mem_append.mp hl with hl | hl
  · rcases List.mem_cons.mp hl with hl | hl
    · exact Or.inl hl
    · exact Or.inr (Or.inr (mem_ruleBody hl))
  · rcases List.mem_cons.mp hl with hl | hl
    · exact Or.inr (Or.inl hl)
    · exact Or.inr (Or.inr (Or.inl (List.mem_singleton.mp hl)))

theorem lastLine?_rule (h : Rulable tokens buckets) :
    lastLine? (rule name tokens buckets requested) = some ['\x7d'] := by
  have hlast : lines (rule name tokens buckets requested) =
      selectorLine name :: ruleBody tokens buckets requested ++ [['\x7d']] ++ [[]] := by
    rw [lines_rule h, List.append_assoc]
    rfl
  rw [lastLine?, hlast, List.dropLast_concat, List.getLast?_concat]

/-- **A rule reads back as its groups**, line by line. -/
theorem appliedBy_rule (h : Rulable tokens buckets) :
    appliedBy (rule name tokens buckets requested) = ruleGroups tokens buckets requested := by
  have hbody : (ruleBody tokens buckets requested).filterMap appliedOn? =
      ruleGroups tokens buckets requested := by
    rw [List.filterMap_eq_flatMap_toList, flatMap_ruleBody rfl fun e _ => rfl]
    refine Eq.trans (List.flatMap_congr fun ts hts => ?_) (List.flatMap_singleton' _)
    rw [appliedOn?_applyLine (isToken_of_mem_ruleGroups h ts hts), Option.toList_some]
  -- the selector, the closing brace and what follows the last line feed read as nothing
  rw [appliedBy, lines_rule h, List.cons_append, List.filterMap_cons_none
    (appliedOn?_selectorLine name), List.filterMap_append, hbody]
  exact List.append_nil _

/-- A rule has more than one group of tokens exactly if it is grouped. -/
theorem one_lt_length_ruleGroups :
    1 < (ruleGroups tokens buckets requested).length ↔ shouldGroup buckets requested = true := by
  rw [ruleGroups]
  by_cases hgroup : shouldGroup buckets requested = true
  · have hmany : 1 < buckets.populated := by
      rw [shouldGroup, Bool.and_eq_true, decide_eq_true_eq] at hgroup
      exact hgroup.2
    rw [if_pos hgroup, List.length_map, length_ruleBlocks]
    exact iff_of_true hmany hgroup
  · rw [if_neg hgroup]
    exact iff_of_false (Nat.lt_irrefl 1) hgroup

/-- The groups hold the tokens of the rule if the buckets do. -/
theorem flatten_ruleGroups_perm (h : buckets.tokens.Perm tokens) :
    (ruleGroups tokens buckets requested).flatten.Perm tokens := by
  rw [ruleGroups]
  by_cases hgroup : shouldGroup buckets requested = true
  · rw [if_pos hgroup]
    exact (tokensOf_ruleBlocks_perm buckets).trans h
  · rw [if_neg hgroup, List.flatten_singleton]

/-! ## Counting marks -/

/-- A separator without the character adds none when texts are joined. -/
theorem count_joinWith {d : Char} {separator : Text} (hd : d ∉ separator) (parts : List Text) :
    (joinWith separator parts).count d = parts.flatten.count d := by
  match parts with
  | [] => rfl
  | [t] => simp
  | s :: t :: rest =>
    have hcons : joinWith separator (s :: t :: rest) =
        s ++ separator ++ joinWith separator (t :: rest) := List.intercalate_cons_cons
    have hflat : (s :: t :: rest).flatten = s ++ (t :: rest).flatten := List.flatten_cons
    simp only [hcons, hflat, List.count_append, List.count_eq_zero_of_not_mem hd,
      count_joinWith hd (t :: rest), Nat.add_zero]

/-- An applied line holds the marks of its tokens, and its semicolon. -/
theorem count_applyLine {d : Char} (hd : d ∈ ruleMarks) (ts : List Text) :
    (applyLine ts).count d = ts.flatten.count d + [';'].count d := by
  have hspace : ∀ d ∈ ruleMarks, d ∉ [' '] := forall_mem_of_all (by decide)
  have hstart := List.count_eq_zero_of_not_mem (not_mem_applyStart (List.mem_cons_of_mem _ hd))
  simp only [applyLine_eq, List.count_append, joinSpaced, count_joinWith (hspace d hd), hstart,
    Nat.zero_add]

theorem count_flatMap_applyLine {d : Char} (hd : d ∈ ruleMarks) (groups : List (List Text)) :
    (groups.flatMap applyLine).count d =
      groups.flatten.flatten.count d + groups.length * [';'].count d := by
  induction groups with
  | nil => simp
  | cons ts groups ih =>
    simp only [List.flatMap_cons, List.count_append, ih, count_applyLine hd, List.flatten_cons,
      List.flatten_append, List.length_cons, Nat.succ_mul]
    omega

theorem count_ruleBody (h : Rulable tokens buckets) {d : Char} (hd : d ∈ ruleMarks) :
    (ruleBody tokens buckets requested).flatten.count d =
      ((ruleGroups tokens buckets requested).flatMap applyLine).count d := by
  have hcomment : ∀ e ∈ buckets.entries, (commentLine e.1).filter (· == d) = [] := by
    intro e he
    rw [List.filter_beq, List.replicate_eq_nil_iff, List.count_eq_zero]
    exact not_mem_commentLine (h.buckets e he).1 (List.mem_cons_of_mem _ hd)
  have hbody : (ruleBody tokens buckets requested).flatMap (fun l => l.filter (· == d)) =
      (ruleGroups tokens buckets requested).flatMap fun ts => (applyLine ts).filter (· == d) :=
    flatMap_ruleBody rfl hcomment
  rw [List.count_eq_length_filter, List.count_eq_length_filter, List.filter_flatten,
    List.filter_flatMap, ← List.flatMap_def, hbody]

theorem count_selectorLine (name : Text) {d : Char} (hd : d ∈ ruleMarks) :
    (selectorLine name).count d = ['\x7b'].count d := by
  have hframe : ∀ d ∈ ruleMarks, d ∉ ['.'] ∧ d ∉ [' '] := forall_mem_of_all (by decide)
  have hname : d ∉ sanitize name := not_mem_sanitize (List.mem_cons_of_mem _ hd) name
  have hsplit : selectorLine name = ['.'] ++ (sanitize name ++ ([' '] ++ ['\x7b'])) := rfl
  simp only [hsplit, List.count_append, List.count_eq_zero_of_not_mem (hframe d hd).1,
    List.count_eq_zero_of_not_mem (hframe d hd).2, List.count_eq_zero_of_not_mem hname,
    Nat.zero_add]

/-- **The marks of a rule** are its own, which are a brace on the selector, a semicolon for each
    group and a brace on the last line, or stand in its tokens. -/
theorem count_mark_rule (h : Rulable tokens buckets) {d : Char} (hd : d ∈ ruleMarks) :
    (rule name tokens buckets requested).count d =
      ['\x7b'].count d + (ruleGroups tokens buckets requested).length * [';'].count d +
        ['\x7d'].count d + (ruleGroups tokens buckets requested).flatten.flatten.count d := by
  have hfeed : ∀ d ∈ ruleMarks, d ∉ ['\n'] := forall_mem_of_all (by decide)
  have hlines : (rule name tokens buckets requested).count d =
      (selectorLine name).count d + (ruleBody tokens buckets requested).flatten.count d +
        ['\x7d'].count d := by
    rw [rule_eq h.nonempty, count_joinWith (hfeed d hd), List.flatten_append, List.flatten_cons,
      List.count_append, List.count_append]
    rfl
  rw [hlines, count_selectorLine name hd, count_ruleBody h hd, count_flatMap_applyLine hd]
  omega

end

end ClassLift
