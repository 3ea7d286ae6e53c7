/-
  A grouped rule shows what the buckets hold, in canonical order.

  The blocks of a grouped rule come out of a sort by rank, and all unknown titles share one rank.  So the
  order of the blocks is not settled by the ranks alone, and what settles it is that the sort is stable.

  1. **Two parts.**  The last rank is that of the unknown titles, so the sorted blocks are first those
     with known titles and then the others (`ruleBlocks_eq`).  Known titles have ranks of their own, so
     the first part is strictly sorted; among the unknown ones the sort decides nothing, so the second
     part is in the order of the buckets.

  2. **Nothing else counts.**  A strictly sorted list is known by its members, so the first part depends
     on which buckets there are, and the second on which there are and on the order of the unknown titles.

  3. **Layout.**  The lines of a rule, each ended by a line feed, are the selector, two lines for each
     block with an empty line between two blocks, and the brace.  As a text (`groupedText`) that needs no
     index and no separator that depends on it.

  4. **Which layout.**  A flat rule and a grouped one differ in their second line, which applies tokens in
     the one and is a comment or the brace in the other.  So the layout can be told from the text.
-/
import Mathlib.Data.List.Sort
import ClassLift.Proofs.RuleText

namespace ClassLift

/-! ## Known titles -/

/-- Whether a title is that of a category. -/
def isKnown (title : Text) : Bool := (Category.all.map Category.title).contains title

theorem isKnown_iff {title : Text} : isKnown title = true ↔ ∃ c : Category, c.title = title := by
  rw [isKnown, List.contains_iff_mem, List.mem_map]
  constructor
  · rintro ⟨c, -, htitle⟩
    exact ⟨c, htitle⟩
  · rintro ⟨c, htitle⟩
    exact ⟨c, c.mem_all, htitle⟩

namespace Category

/-- Known titles have the ranks below the last one. -/
theorem rank_lt_iff {title : Text} : rank title < all.length ↔ isKnown title = true := by
  rw [isKnown, List.contains_iff_mem, ← List.length_map (f := Category.title)]
  exact List.idxOf_lt_length_iff

/-- Unknown titles share the last one. -/
theorem rank_of_not_isKnown {title : Text} (h : ¬isKnown title = true) :
    rank title = all.length := by
  have hle : rank title ≤ (all.map Category.title).length := List.idxOf_le_length
  have hnot := mt rank_lt_iff.mp h
  rw [List.length_map] at hle
  omega

/-- A known title is told by its rank. -/
theorem rank_injective {a b : Text} (ha : isKnown a = true) (h : rank a = rank b) : a = b :=
  (List.idxOf_inj (List.contains_iff_mem.mp ha)).mp h

end Category

/-! ## Lists in the order of their ranks -/

/-- Titles stand in canonical order, and none twice. -/
def StrictlyRanked (blocks : List (Text × List Text)) : Prop :=
  blocks.Pairwise fun e f => Category.rank e.1 < Category.rank f.1

/-- **Blocks in strict order are known by their members.** -/
theorem StrictlyRanked.eq_of_mem_iff {l m : List (Text × List Text)} (hl : StrictlyRanked l)
    (hm : StrictlyRanked m) (h : ∀ e, e ∈ l ↔ e ∈ m) : l = m := by
  have hirrefl : Std.Irrefl fun e f : Text × List Text => Category.rank e.1 < Category.rank f.1 :=
    ⟨fun e => Nat.lt_irrefl _⟩
  have hantisymm :
      Std.Antisymm fun e f : Text × List Text => Category.rank e.1 < Category.rank f.1 :=
    ⟨fun e f hef hfe => absurd hfe (Nat.lt_asymm hef)⟩
  exact List.Pairwise.eq_of_mem_iff hl hm h

/-- A list in which no member with a property stands behind one without it is two lists. -/
theorem filter_append_filter_of_pairwise {α : Type} {p : α → Bool} {l : List α}
    (h : l.Pairwise fun a b => p b = true → p a = true) :
    l.filter p ++ l.filter (fun a => !p a) = l := by
  induction l with
  | nil => rfl
  | cons a l ih =>
    obtain ⟨hfirst, hrest⟩ := List.pairwise_cons.mp h
    by_cases ha : p a = true
    · rw [List.filter_cons_of_pos ha, List.filter_cons_of_neg (by simp [ha]), List.cons_append,
        ih hrest]
    · have hnone : l.filter p = [] :=
        List.filter_eq_nil_iff.mpr fun b hb hp => ha (hfirst b hb hp)
      have hsplit := ih hrest
      rw [hnone, List.nil_append] at hsplit
      rw [List.filter_cons_of_neg ha, List.filter_cons_of_pos (by simp [ha]), hnone, List.nil_append,
        hsplit]

/-! ## The blocks of a grouped rule -/

section

variable {b : Buckets Text}

/-- The buckets in the order of their ranks. -/
def rankedEntries (b : Buckets Text) : List (Text × List Text) :=
  b.entries.mergeSort fun e f => Category.rank e.1 ≤ Category.rank f.1

theorem rankedEntries_perm (b : Buckets Text) : (rankedEntries b).Perm b.entries :=
  List.mergeSort_perm _ _

/-- Ranks are compared like numbers. -/
theorem rank_le_trans (e f g : Text × List Text)
    (hef : decide (Category.rank e.1 ≤ Category.rank f.1) = true)
    (hfg : decide (Category.rank f.1 ≤ Category.rank g.1) = true) :
    decide (Category.rank e.1 ≤ Category.rank g.1) = true := by
  simp only [decide_eq_true_eq] at hef hfg ⊢
  omega

theorem rank_le_total (e f : Text × List Text) :
    (decide (Category.rank e.1 ≤ Category.rank f.1) ||
      decide (Category.rank f.1 ≤ Category.rank e.1)) = true := by
  simp only [Bool.or_eq_true, decide_eq_true_eq]
  omega

theorem pairwise_rankedEntries (b : Buckets Text) :
    (rankedEntries b).Pairwise fun e f => Category.rank e.1 ≤ Category.rank f.1 :=
  (List.pairwise_mergeSort rank_le_trans rank_le_total b.entries).imp of_decide_eq_true

theorem mem_ruleBlocks {e : Text × List Text} : e ∈ ruleBlocks b ↔ e ∈ b.entries ∧ e.2 ≠ [] := by
  have hmem : e ∈ rankedEntries b ↔ e ∈ b.entries := (rankedEntries_perm b).mem_iff
  show e ∈ (rankedEntries b).filter _ ↔ _
  rw [List.mem_filter, hmem]
  simp

/-- The blocks with known titles. -/
def knownBlocks (b : Buckets Text) : List (Text × List Text) :=
  (ruleBlocks b).filter fun e => isKnown e.1

/-- The buckets with unknown titles that hold a token, in the order given. -/
def unknownBlocks (b : Buckets Text) : List (Text × List Text) :=
  b.entries.filter fun e => !isKnown e.1 && !e.2.isEmpty

theorem mem_knownBlocks {e : Text × List Text} :
    e ∈ knownBlocks b ↔ (e ∈ b.entries ∧ e.2 ≠ []) ∧ isKnown e.1 = true := by
  rw [knownBlocks, List.mem_filter, mem_ruleBlocks]

/-- **Known titles come in strict order**, since each has a rank of its own. -/
theorem strictlyRanked_knownBlocks (b : Buckets Text) : StrictlyRanked (knownBlocks b) := by
  have hsub : (knownBlocks b).Sublist (rankedEntries b) :=
    List.filter_sublist.trans List.filter_sublist
  have hranks := (pairwise_rankedEntries b).sublist hsub
  have hkeys : (knownBlocks b).Pairwise fun e f => e.1 ≠ f.1 := by
    have hnodup : ((rankedEntries b).map Prod.fst).Nodup :=
      ((rankedEntries_perm b).map Prod.fst).nodup_iff.mpr b.nodup
    exact (List.pairwise_map.mp hnodup).sublist hsub
  refine (hranks.and hkeys).imp_of_mem fun {e f} he _ h => ?_
  obtain ⟨hle, hne⟩ := h
  have hrank : Category.rank e.1 ≠ Category.rank f.1 :=
    fun heq => hne (Category.rank_injective (mem_knownBlocks.mp he).2 heq)
  omega

/-- **The sort leaves unknown titles as they come**, since it is stable and they share a rank. -/
theorem filter_not_isKnown_ruleBlocks (b : Buckets Text) :
    (ruleBlocks b).filter (fun e => !isKnown e.1) = unknownBlocks b := by
  have hties : (unknownBlocks b).Pairwise fun e f =>
      decide (Category.rank e.1 ≤ Category.rank f.1) = true := by
    refine List.pairwise_of_forall_mem_list fun e he f hf => decide_eq_true ?_
    have hunknown : ∀ g ∈ unknownBlocks b, Category.rank g.1 = Category.all.length := by
      intro g hg
      have hg' := (List.mem_filter.mp hg).2
      simp only [Bool.and_eq_true, Bool.not_eq_true'] at hg'
      exact Category.rank_of_not_isKnown (by simp [hg'.1])
    rw [hunknown e he, hunknown f hf]
  have hstable : (unknownBlocks b).Sublist (rankedEntries b) :=
    List.sublist_mergeSort rank_le_trans rank_le_total hties List.filter_sublist
  have hfilter : (ruleBlocks b).filter (fun e => !isKnown e.1) =
      (rankedEntries b).filter fun e => !isKnown e.1 && !e.2.isEmpty :=
    List.filter_filter
  have hself : (unknownBlocks b).filter (fun e => !isKnown e.1 && !e.2.isEmpty) = unknownBlocks b := by
    rw [unknownBlocks, List.filter_filter]
    exact List.filter_congr fun e _ => Bool.and_self _
  -- a sublist of the same length is the whole list
  have hsub := hstable.filter fun e => !isKnown e.1 && !e.2.isEmpty
  rw [hself] at hsub
  rw [hfilter]
  exact (hsub.eq_of_length (((rankedEntries_perm b).filter _).length_eq.symm)).symm

/-- **The blocks of a grouped rule**: known titles in canonical order, then the others as they come. -/
theorem ruleBlocks_eq (b : Buckets Text) : ruleBlocks b = knownBlocks b ++ unknownBlocks b := by
  have hranks : (ruleBlocks b).Pairwise fun e f => Category.rank e.1 ≤ Category.rank f.1 :=
    (pairwise_rankedEntries b).sublist List.filter_sublist
  have hfront : (ruleBlocks b).Pairwise fun e f => isKnown f.1 = true → isKnown e.1 = true := by
    refine hranks.imp fun {e f} hle hf => ?_
    rw [← Category.rank_lt_iff] at hf ⊢
    omega
  rw [← filter_not_isKnown_ruleBlocks, knownBlocks]
  exact (filter_append_filter_of_pairwise hfront).symm

theorem ruleBlocks_perm (b : Buckets Text) :
    (ruleBlocks b).Perm (b.entries.filter fun e => !e.2.isEmpty) := (rankedEntries_perm b).filter _

end

/-! ## Nothing else counts -/

section

variable {a b : Buckets Text}

/-- The unknown entries, in an order that is told by the titles alone. -/
theorem filter_not_isKnown_entries (b : Buckets Text) :
    b.entries.filter (fun e => !isKnown e.1) =
      (b.keys.filter fun title => !isKnown title).map fun title =>
        (title, (b.get? title).getD []) := by
  have hentries := b.entries_eq_map_keys
  rw [hentries, List.filter_map]
  rfl

/-- **The blocks depend on which buckets there are and on the order of the unknown titles.** -/
theorem ruleBlocks_congr (hsame : ∀ e, e ∈ a.entries ↔ e ∈ b.entries)
    (horder : (a.keys.filter fun title => !isKnown title) =
      b.keys.filter fun title => !isKnown title) : ruleBlocks a = ruleBlocks b := by
  have hknown : knownBlocks a = knownBlocks b := by
    refine (strictlyRanked_knownBlocks a).eq_of_mem_iff (strictlyRanked_knownBlocks b) fun e => ?_
    rw [mem_knownBlocks, mem_knownBlocks, hsame]
  have hunknown : unknownBlocks a = unknownBlocks b := by
    have hentries : a.entries.filter (fun e => !isKnown e.1) =
        b.entries.filter fun e => !isKnown e.1 := by
      rw [filter_not_isKnown_entries, filter_not_isKnown_entries, horder]
      refine List.map_congr_left fun title _ => ?_
      rw [Buckets.get?_congr hsame]
    have hsplit : ∀ c : Buckets Text, unknownBlocks c =
        (c.entries.filter fun e => !isKnown e.1).filter fun e => !e.2.isEmpty := by
      intro c
      rw [unknownBlocks, List.filter_filter]
      exact List.filter_congr fun e _ => Bool.and_comm _ _
    rw [hsplit, hsplit, hentries]
  rw [ruleBlocks_eq, ruleBlocks_eq, hknown, hunknown]

end

/-! ## Layout -/

/-- The lines of a grouped rule; the last one is empty, for the rule ends in a line feed. -/
def groupedLines (name : Text) (blocks : List (Text × List Text)) : List Text :=
  selectorLine name :: (List.intersperse [[]] (blocks.map blockLines)).flatten ++ [['\x7d'], []]

theorem groupedRule_of_ne_nil {b : Buckets Text} (h : b.entries ≠ []) (name : Text) :
    groupedRule name b = joinWith ['\n'] (groupedLines name (ruleBlocks b)) := by
  obtain ⟨e, es, hentries⟩ := List.exists_cons_of_ne_nil h
  rw [groupedRule, hentries]
  rfl

theorem groupedRule_of_nil {b : Buckets Text} (h : b.entries = []) (name : Text) :
    groupedRule name b = [] := by rw [groupedRule, h]

/-- The text of one block: a comment line and an applied line. -/
def blockText (block : Text × List Text) : Text :=
  commentLine block.1 ++ '\n' :: applyLine block.2 ++ ['\n']

/-- The text of a rule with the blocks given: the selector line, the blocks with an empty line between
    two of them, and the line of the brace. -/
def groupedText (name : Text) (blocks : List (Text × List Text)) : Text :=
  selectorLine name ++ ['\n'] ++ joinWith ['\n'] (blocks.map blockText) ++ ['\x7d', '\n']

/-- **Empty lines between blocks**, told once on lines and once on texts. -/
theorem endLines_intersperse (blocks : List (Text × List Text)) :
    endLines (List.intersperse [[]] (blocks.map blockLines)).flatten =
      joinWith ['\n'] (blocks.map blockText) := by
  have hblock : ∀ block, endLines (blockLines block) = blockText block := by
    intro block
    show (commentLine block.1 ++ ['\n']) ++ ((applyLine block.2 ++ ['\n']) ++ []) = blockText block
    simp [blockText]
  induction blocks with
  | nil => rfl
  | cons first rest ih =>
    cases rest with
    | nil =>
      show endLines (blockLines first ++ []) = joinWith ['\n'] [blockText first]
      rw [List.append_nil, hblock, joinWith_singleton]
    | cons second rest =>
      simp only [List.map_cons] at ih ⊢
      rw [List.intersperse_cons_cons, joinWith_cons_cons, ← ih, ← hblock]
      simp only [endLines, List.flatten_cons, List.flatMap_append]
      rfl

theorem joinWith_groupedLines (name : Text) (blocks : List (Text × List Text)) :
    joinWith ['\n'] (groupedLines name blocks) = groupedText name blocks := by
  let body := (List.intersperse [[]] (blocks.map blockLines)).flatten
  have hlines : groupedLines name blocks = (selectorLine name :: (body ++ [['\x7d']])) ++ [[]] := by
    show selectorLine name :: (body ++ [['\x7d'], []]) =
      selectorLine name :: (body ++ [['\x7d']] ++ [[]])
    rw [List.append_assoc]
    rfl
  have hbody : endLines (body ++ [['\x7d']]) = endLines body ++ endLines [['\x7d']] :=
    List.flatMap_append
  rw [hlines, joinWith_feed_concat, List.append_nil, endLines_cons, hbody, endLines_intersperse,
    groupedText, List.append_assoc, List.append_assoc]
  rfl

/-- **The text of a grouped rule.** -/
theorem groupedRule_eq {b : Buckets Text} (h : b.entries ≠ []) (name : Text) :
    groupedRule name b = groupedText name (ruleBlocks b) := by
  rw [groupedRule_of_ne_nil h, joinWith_groupedLines]

/-! ## Which layout -/

section

variable {name : Text} {tokens : List Text} {b : Buckets Text} {requested : Bool}

/-- **The two layouts part in the second line.** -/
theorem flatRule_ne_groupedText (blocks : List (Text × List Text)) :
    flatRule name tokens ≠ groupedText name blocks := by
  intro heq
  cases tokens with
  | nil =>
    have hlength := congrArg List.length heq
    simp [flatRule, groupedText] at hlength
  | cons token tokens =>
    have hflat : flatRule name (token :: tokens) =
        selectorLine name ++ ['\n'] ++ (applyLine (token :: tokens) ++ ['\n', '\x7d', '\n']) := by
      rw [flatRule, joinWith_cons_cons, joinWith_feed_cons, List.append_assoc]
      · rfl
      · exact List.cons_ne_nil token tokens
    rw [hflat, groupedText, List.append_assoc _ (joinWith _ _)] at heq
    have hsecond := congrArg (List.take 3) (List.append_cancel_left heq)
    have hflat3 : (applyLine (token :: tokens) ++ ['\n', '\x7d', '\n']).take 3 = "  @".toList := rfl
    rw [hflat3] at hsecond
    cases blocks with
    | nil => exact absurd hsecond (by decide)
    | cons first rest =>
      rw [List.map_cons, joinWith_feed_cons] at hsecond
      have hblock3 : (blockText first ++ behindFeeds (rest.map blockText) ++ ['\x7d', '\n']).take 3 =
          "  /".toList := rfl
      rw [hblock3] at hsecond
      exact absurd hsecond (by decide)

theorem shouldGroup_iff :
    shouldGroup b requested = true ↔
      requested = true ∧ 2 ≤ (b.entries.filter fun e => !e.2.isEmpty).length := by
  rw [shouldGroup, Bool.and_eq_true, decide_eq_true_iff, Buckets.populated,
    List.countP_eq_length_filter]
  rfl

/-- **A rule is grouped exactly if that was asked for and two buckets hold a token.** -/
theorem rule_eq_groupedRule_iff (h : b.entries ≠ []) :
    rule name tokens b requested = groupedRule name b ↔
      requested = true ∧ 2 ≤ (b.entries.filter fun e => !e.2.isEmpty).length := by
  rw [← shouldGroup_iff, rule]
  by_cases hgroup : shouldGroup b requested = true
  · rw [if_pos hgroup]
    exact iff_of_true rfl hgroup
  · rw [if_neg hgroup]
    rw [groupedRule_eq h]
    exact iff_of_false (flatRule_ne_groupedText _) hgroup

theorem rule_eq_flatRule
    (h : ¬(requested = true ∧ 2 ≤ (b.entries.filter fun e => !e.2.isEmpty).length)) :
    rule name tokens b requested = flatRule name tokens := by
  rw [← shouldGroup_iff] at h
  rw [rule, if_neg h]

end

/-- **A grouped rule is told by what the buckets hold, in canonical order.**  Buckets with the same
    entries have the same rule if the unknown titles come in the same order.  The rule is the selector
    line, a block for each bucket that holds a token, an empty line between two of them, and the brace;
    known titles come first and in strict order, the others after them as they come.  A rule is laid out
    like that exactly if grouping was asked for and two buckets hold a token, and flat otherwise. -/
theorem grouped_rule_is_canonical (name : Text) :
    (∀ a b : Buckets Text, (∀ e, e ∈ a.entries ↔ e ∈ b.entries) →
      (a.keys.filter fun title => !isKnown title) = (b.keys.filter fun title => !isKnown title) →
      groupedRule name a = groupedRule name b) ∧
    (∀ b : Buckets Text, b.entries ≠ [] →
      ∃ known unknown, groupedRule name b = groupedText name (known ++ unknown) ∧
        (known ++ unknown).Perm (b.entries.filter fun e => !e.2.isEmpty) ∧
        (∀ e ∈ known, ∃ c : Category, c.title = e.1) ∧ StrictlyRanked known ∧
        unknown = b.entries.filter fun e => !isKnown e.1 && !e.2.isEmpty) ∧
    ∀ (tokens : List Text) (b : Buckets Text) (requested : Bool),
      (b.entries ≠ [] →
        (rule name tokens b requested = groupedRule name b ↔
          requested = true ∧ 2 ≤ (b.entries.filter fun e => !e.2.isEmpty).length)) ∧
      (¬(requested = true ∧ 2 ≤ (b.entries.filter fun e => !e.2.isEmpty).length) →
        rule name tokens b requested = flatRule name tokens) := by
  refine ⟨fun a b hsame horder => ?_, fun b hb => ?_, fun tokens b requested =>
    ⟨rule_eq_groupedRule_iff, rule_eq_flatRule⟩⟩
  · by_cases hb : b.entries = []
    · have ha : a.entries = [] :=
        List.eq_nil_iff_forall_not_mem.mpr fun e he => List.not_mem_nil (hb ▸ (hsame e).mp he)
      rw [groupedRule_of_nil ha, groupedRule_of_nil hb]
    · have ha : a.entries ≠ [] := by
        obtain ⟨e, he⟩ := List.exists_mem_of_ne_nil _ hb
        exact List.ne_nil_of_mem ((hsame e).mpr he)
      rw [groupedRule_eq ha, groupedRule_eq hb, ruleBlocks_congr hsame horder]
  · refine ⟨knownBlocks b, unknownBlocks b, ?_, ?_, ?_, strictlyRanked_knownBlocks b, rfl⟩
    · rw [groupedRule_eq hb, ruleBlocks_eq]
    · rw [← ruleBlocks_eq]
      exact ruleBlocks_perm b
    · intro e he
      exact isKnown_iff.mp (mem_knownBlocks.mp he).2

/-- Two unknown titles around a known one, and an empty bucket. -/
def strayBuckets : Buckets Text where
  entries := [("Zebra".toList, ["x".toList]), ("Layout".toList, ["flex".toList]),
    ("Spacing".toList, []), ("Ape".toList, ["y".toList])]
  nodup := by decide

/-- The same buckets, the known ones moved to the front. -/
def sortedStrayBuckets : Buckets Text where
  entries := [("Layout".toList, ["flex".toList]), ("Spacing".toList, []),
    ("Zebra".toList, ["x".toList]), ("Ape".toList, ["y".toList])]
  nodup := by decide

theorem grouped_rule_is_canonical_stray :
    groupedRule "card".toList strayBuckets =
      (".card \x7b\n  /* Layout */\n  @apply flex;\n\n  /* Zebra */\n  @apply x;\n\n" ++
        "  /* Ape */\n  @apply y;\n\x7d\n").toList ∧
    rule "card".toList ["flex".toList] strayBuckets true =
      groupedRule "card".toList strayBuckets ∧
    rule "card".toList ["flex".toList] strayBuckets false =
      flatRule "card".toList ["flex".toList] := by
  obtain ⟨hcongr, htext, hlayout⟩ := grouped_rule_is_canonical "card".toList
  have hperm : strayBuckets.entries.Perm sortedStrayBuckets.entries := by decide
  have hsorted : groupedRule "card".toList strayBuckets =
      groupedRule "card".toList sortedStrayBuckets :=
    hcongr _ _ (fun e => hperm.mem_iff) (by decide)
  obtain ⟨known, unknown, hgrouped, hblocks, -, -, hunknown⟩ :=
    htext sortedStrayBuckets (List.cons_ne_nil _ _)
  obtain rfl : unknown = [("Zebra".toList, ["x".toList]), ("Ape".toList, ["y".toList])] :=
    hunknown.trans (by decide)
  obtain rfl : known = [("Layout".toList, ["flex".toList])] := by
    have hfilter : (sortedStrayBuckets.entries.filter fun e => !e.2.isEmpty) =
        [("Layout".toList, ["flex".toList])] ++
          [("Zebra".toList, ["x".toList]), ("Ape".toList, ["y".toList])] := by decide
    rw [hfilter, List.perm_append_right_iff] at hblocks
    exact List.perm_singleton.mp hblocks
  refine ⟨?_, ?_, ?_⟩
  · rw [hsorted, hgrouped]
    decide
  · exact ((hlayout _ _ _).1 (List.cons_ne_nil _ _)).mpr (by decide)
  · exact (hlayout _ _ _).2 (by decide)

end ClassLift
