/-
  Two presentations of the same buckets: the groups of a reply and the blocks of a grouped rule.

  The service goes through the categories in canonical order and looks up the bucket of each; a rule
  sorts the buckets it has by rank.  Neither knows of the other.

  1. **The groups** are the buckets, each once and none left out, because the canonical order lists
     every category, and they are in strict order because it lists none twice (`orderedGroups_perm`,
     `strictlyRanked_titledGroups`).

  2. **The blocks** of a rule for buckets by category have known titles only, so they are in strict order
     as well.  Lists in strict order are known by their members, and the members are the same
     (`titledGroups_eq_ruleBlocks`).

  3. **A reader of blocks.**  A comment gives its title to the applied line under it (`blocksOf`).  The
     reader knows nothing of the order of the blocks, and gives back those of any grouped rule.
-/
import ClassLift.Proofs.Canonical
import ClassLift.Proofs.Partition
import ClassLift.Proofs.Requests

namespace ClassLift

/-! ## A reader of blocks -/

/-- What a comment line starts and ends with. -/
def commentStart : Text := "  /* ".toList

def commentEnd : Text := " */".toList

/-- The title in a comment line, if it is one. -/
def commentOn? (line : Text) : Option Text :=
  (commentStart.isPrefixOf? line).bind fun rest => commentEnd.isSuffixOf? rest

/-- The block of a comment line and the applied line under it.  Only where both are what they should be
    is there a block. -/
def blockOn? (above below : Text) : Option (Text × List Text) :=
  (commentOn? above).bind fun title => (appliedOn? below).map fun tokens => (title, tokens)

/-- The blocks in some lines, read from line to line. -/
def blocksIn : List Text → List (Text × List Text)
  | above :: below :: rest => (blockOn? above below).toList ++ blocksIn (below :: rest)
  | _ => []

/-- The blocks that a stylesheet shows. -/
def blocksOf (css : Text) : List (Text × List Text) := blocksIn (lines css)

@[simp]
theorem commentOn?_commentLine (title : Text) : commentOn? (commentLine title) = some title := by
  have hsplit : commentLine title = commentStart ++ (title ++ commentEnd) := List.append_assoc _ _ _
  have hprefix : commentStart.isPrefixOf? (commentLine title) = some (title ++ commentEnd) :=
    List.isPrefixOf?_eq_some_iff_append_eq.mpr hsplit.symm
  rw [commentOn?, hprefix, Option.bind_some]
  exact List.isSuffixOf?_eq_some_iff_append_eq.mpr rfl

@[simp]
theorem commentOn?_selectorLine (name : Text) : commentOn? (selectorLine name) = none := rfl

@[simp]
theorem commentOn?_applyLine (ts : List Text) : commentOn? (applyLine ts) = none := rfl

/-- A line that is no comment opens no block. -/
theorem blocksIn_cons {line : Text} (h : commentOn? line = none) (rest : List Text) :
    blocksIn (line :: rest) = blocksIn rest := by
  cases rest with
  | nil => rfl
  | cons below rest =>
    rw [blocksIn, blockOn?, h]
    rfl

/-- **The lines of a block read back as the block.** -/
theorem blocksIn_blockLines {block : Text × List Text} (h : ∀ t ∈ block.2, IsToken t)
    (rest : List Text) : blocksIn (blockLines block ++ rest) = block :: blocksIn rest := by
  have hlines : blockLines block ++ rest = commentLine block.1 :: applyLine block.2 :: rest := rfl
  rw [hlines, blocksIn, blockOn?, commentOn?_commentLine, appliedOn?_applyLine h,
    blocksIn_cons (commentOn?_applyLine block.2)]
  rfl

/-- **The lines of a rule read back as its blocks.** -/
theorem blocksIn_groupedLines (name : Text) {blocks : List (Text × List Text)}
    (h : ∀ block ∈ blocks, ∀ t ∈ block.2, IsToken t) :
    blocksIn (groupedLines name blocks) = blocks := by
  -- block by block; the empty line behind each but the last is no comment and is passed over
  have hbody : blocksIn ((List.intersperse [[]] (blocks.map blockLines)).flatten ++
      [['\x7d'], []]) = blocks := by
    induction blocks with
    | nil => rfl
    | cons first rest ih =>
      have hfirst := h first List.mem_cons_self
      have ih := ih fun block hblock => h block (List.mem_cons_of_mem first hblock)
      cases rest with
      | nil =>
        show blocksIn (blockLines first ++ [] ++ [['\x7d'], []]) = [first]
        rw [List.append_nil, blocksIn_blockLines hfirst]
        rfl
      | cons second rest =>
        simp only [List.map_cons] at ih ⊢
        rw [List.intersperse_cons_cons, List.flatten_cons, List.append_assoc,
          blocksIn_blockLines hfirst, List.flatten_cons, List.singleton_append, List.cons_append,
          blocksIn_cons rfl, ih]
  rw [groupedLines, List.cons_append, blocksIn_cons (commentOn?_selectorLine name), hbody]

/-- No line of a block holds a line feed. -/
theorem feed_not_mem_blockLines {block : Text × List Text} (htitle : IsTitle block.1)
    (htokens : ∀ t ∈ block.2, IsToken t) : ∀ l ∈ blockLines block, '\n' ∉ l := by
  intro l hl
  rcases List.mem_cons.mp hl with rfl | hl
  · exact not_mem_commentLine htitle List.mem_cons_self
  · rw [List.mem_singleton.mp hl]
    exact blank_not_mem_applyLine htokens (by decide) (by decide)

theorem feed_not_mem_groupedLines (name : Text) {blocks : List (Text × List Text)}
    (h : Showable blocks) : ∀ l ∈ groupedLines name blocks, '\n' ∉ l := by
  have hbody : ∀ l ∈ (List.intersperse [[]] (blocks.map blockLines)).flatten, '\n' ∉ l := by
    intro l hl
    rcases mem_flatten_intersperse hl with rfl | hl
    · exact List.not_mem_nil
    · obtain ⟨ls, hls, hl⟩ := List.mem_flatten.mp hl
      obtain ⟨block, hblock, rfl⟩ := List.mem_map.mp hls
      exact feed_not_mem_blockLines (h block hblock).1 (h block hblock).2 l hl
  intro l hl
  rcases List.mem_append.mp hl with hl | hl
  · rcases List.mem_cons.mp hl with rfl | hl
    · exact feed_not_mem_selectorLine name
    · exact hbody l hl
  · have hend : ∀ l ∈ [['\x7d'], []], '\n' ∉ l := by decide
    exact hend l hl

/-- **A grouped rule reads back as its blocks.** -/
theorem blocksOf_groupedRule (name : Text) {b : Buckets Text} (h : Showable b.entries) :
    blocksOf (groupedRule name b) = ruleBlocks b := by
  have hblocks : Showable (ruleBlocks b) :=
    fun block hblock => h block (mem_entries_of_mem_ruleBlocks hblock)
  by_cases hb : b.entries = []
  · -- without buckets the rule is written in another way, and shows no block
    have hnone : ruleBlocks b = [] := by
      refine List.eq_nil_iff_forall_not_mem.mpr fun e he => ?_
      have hmem := mem_entries_of_mem_ruleBlocks he
      rw [hb] at hmem
      exact List.not_mem_nil hmem
    rw [groupedRule_of_nil hb, hnone]
    rfl
  · rw [groupedRule_of_ne_nil hb, blocksOf,
      lines_joinWith (feed_not_mem_groupedLines name hblocks) (List.cons_ne_nil _ _)]
    exact blocksIn_groupedLines name fun block hblock => (hblocks block hblock).2

namespace Service

/-! ## The groups -/

section

variable {b : Buckets Category}

/-- **The groups are the buckets.** -/
theorem mem_orderedGroups {g : Category × List Text} : g ∈ orderedGroups b ↔ g ∈ b.entries := by
  obtain ⟨c, ts⟩ := g
  rw [orderedGroups, List.mem_filterMap, ← Buckets.get?_eq_some_iff]
  constructor
  · rintro ⟨d, -, hd⟩
    obtain ⟨us, hus, heq⟩ := Option.map_eq_some_iff.mp hd
    obtain ⟨rfl, rfl⟩ := Prod.mk.inj heq
    exact hus
  · intro hbucket
    exact ⟨c, c.mem_all, by rw [hbucket, Option.map_some]⟩

/-- **Their categories come in canonical order.** -/
theorem map_fst_orderedGroups (b : Buckets Category) :
    (orderedGroups b).map Prod.fst = Category.all.filter fun c => (b.get? c).isSome := by
  rw [orderedGroups, List.map_filterMap, ← List.filterMap_eq_filter]
  refine List.filterMap_congr fun c _ => ?_
  cases hbucket : b.get? c with
  | none => simp [Option.guard, hbucket]
  | some ts => simp [Option.guard, hbucket]

/-- No category has two groups, because none is listed twice. -/
theorem nodup_map_fst_orderedGroups (b : Buckets Category) :
    ((orderedGroups b).map Prod.fst).Nodup := by
  rw [map_fst_orderedGroups]
  exact (by decide : Category.all.Nodup).filter _

theorem orderedGroups_perm (b : Buckets Category) : (orderedGroups b).Perm b.entries := by
  have hgroups : (orderedGroups b).Nodup := (nodup_map_fst_orderedGroups b).of_map
  have hentries : b.entries.Nodup := b.nodup.of_map
  exact (List.perm_ext_iff_of_nodup hgroups hentries).mpr fun g => mem_orderedGroups

/-- The groups under the titles of their categories. -/
def titledGroups (groups : List (Category × List Text)) : List (Text × List Text) :=
  groups.map fun g => (g.1.title, g.2)

theorem strictlyRanked_titledGroups (b : Buckets Category) :
    StrictlyRanked (titledGroups (orderedGroups b)) := by
  have hall : Category.all.Pairwise fun c d => Category.rank c.title < Category.rank d.title := by
    decide
  have hcategories : ((orderedGroups b).map Prod.fst).Pairwise fun c d =>
      Category.rank c.title < Category.rank d.title := by
    rw [map_fst_orderedGroups]
    exact hall.filter _
  have hgroups := List.pairwise_map.mp hcategories
  exact List.pairwise_map.mpr hgroups

/-- The rule knows all titles of buckets by category, so all its blocks are in strict order. -/
theorem strictlyRanked_ruleBlocks_titled (b : Buckets Category) :
    StrictlyRanked (ruleBlocks b.titled) := by
  have hunknown : unknownBlocks b.titled = [] := by
    refine List.filter_eq_nil_iff.mpr fun e he => ?_
    obtain ⟨g, -, rfl⟩ := List.mem_map.mp he
    have hknown : isKnown g.1.title = true := isKnown_iff.mpr ⟨g.1, rfl⟩
    rw [hknown, Bool.not_true, Bool.false_and]
    exact Bool.false_ne_true
  rw [ruleBlocks_eq, hunknown, List.append_nil]
  exact strictlyRanked_knownBlocks b.titled

/-- **The groups are the blocks**, if no bucket is empty. -/
theorem titledGroups_eq_ruleBlocks (hfilled : ∀ e ∈ b.entries, e.2 ≠ []) :
    titledGroups (orderedGroups b) = ruleBlocks b.titled := by
  refine (strictlyRanked_titledGroups b).eq_of_mem_iff (strictlyRanked_ruleBlocks_titled b)
    fun e => ?_
  rw [mem_ruleBlocks, titledGroups, Buckets.titled, List.mem_map, List.mem_map]
  constructor
  · rintro ⟨g, hg, rfl⟩
    have hmem := mem_orderedGroups.mp hg
    exact ⟨⟨g, hmem, rfl⟩, hfilled g hmem⟩
  · rintro ⟨⟨g, hmem, rfl⟩, -⟩
    exact ⟨g, mem_orderedGroups.mpr hmem, rfl⟩

end

/-! ## The reply -/

section

variable {α β : Type} {F : Framework α β} {i : α} {host : Host} {s : Settings} {t : FileTree}
  {classes : JsonString}

/-- **A query for categories is answered with the tokens and their groups**, through any framework. -/
theorem serve_categorize (h : F.receive i = .query (.categorize classes)) :
    F.serve host s t i = (t, F.send i (.categorized classes (tokenize classes.text)
      (orderedGroups (ClassLift.categorize (tokenize classes.text))))) :=
  Framework.serve_eq h

/-- What was asked with a text is sent: all that the reply shows of it are pieces of a text. -/
theorem exists_response_of_whole (hF : F.Lawful) (hwhole : classes.whole = true) (i : α)
    (tokens : List Text) (groups : List (Category × List Text)) :
    ∃ response, F.send i (.categorized classes tokens groups) = .ok response ∧
      F.status response = 200 ∧
      F.document? response = some (Reply.categorized classes tokens groups).document := by
  have hsendable := isSendable_categorized hwhole tokens groups
  obtain ⟨response, hsend⟩ := (hF.exists_send_iff i _).mpr hsendable
  exact ⟨response, hsend, hF.status_of_send i _ response hsend,
    hF.document_of_send i _ response hsend⟩

end

/-- A plain request for the categories of a class list. -/
def categorizeRequest (classes : JsonString) : Incoming where
  method := "POST".toList
  target := "/tailwind/categorize".toList
  payload := .document (.object [(.ofText "classes".toList, .string classes)])

theorem receive_categorizeRequest (classes : JsonString) :
    http.receive (categorizeRequest classes) = .query (.categorize classes) := rfl

/-- **The groups of a reply are the blocks of a grouped rule.**  However a class list gets to the
    endpoint for categories, the reply shows its tokens and some groups, and it can be sent if the list is
    a text.  Under every name, the grouped rule for the same buckets shows these groups as its blocks, in
    the same order and with the same tokens.  And the groups partition the tokens: none is empty, no
    category occurs twice, each token stands in the group of its own category, and together they are the
    tokens of the list in another order. -/
theorem groups_are_blocks (host : Host) (s : Settings) (t : FileTree) (classes : JsonString) :
    ∃ groups : List (Category × List Text),
      ((∀ {α β : Type} {F : Framework α β} (i : α), F.receive i = .query (.categorize classes) →
          F.serve host s t i =
            (t, F.send i (.categorized classes (tokenize classes.text) groups))) ∧
        (∀ {α β : Type} {F : Framework α β} (i : α), F.Lawful → classes.whole = true →
          ∃ response,
            F.send i (.categorized classes (tokenize classes.text) groups) = .ok response ∧
            F.status response = 200 ∧
            F.document? response =
              some (Reply.categorized classes (tokenize classes.text) groups).document) ∧
        (classes.whole = true → http.serve host s t (categorizeRequest classes) =
          (t, .ok (.replied (.categorized classes (tokenize classes.text) groups))))) ∧
      (∀ name, blocksOf (groupedRule name (ClassLift.categorize (tokenize classes.text)).titled) =
          titledGroups groups) ∧
      (groups ≠ [] → ∀ name,
        groupedRule name (ClassLift.categorize (tokenize classes.text)).titled =
          groupedText name (titledGroups groups)) ∧
      (groups.map Prod.fst).Nodup ∧
      (∀ g ∈ groups, g.2 ≠ [] ∧ ∀ token ∈ g.2, classify token = g.1) ∧
      (∀ token ∈ tokenize classes.text, ∃ g ∈ groups, g.1 = classify token ∧ token ∈ g.2) ∧
      (groups.map Prod.snd).flatten.Perm (tokenize classes.text) := by
  let tokens := tokenize classes.text
  let buckets := ClassLift.categorize tokens
  have hgroups : ∀ g ∈ orderedGroups buckets,
      g.2 ≠ [] ∧ g.2 = tokens.filter fun token => classify token = g.1 :=
    fun g hg => bucket_of_mem_entries (mem_orderedGroups.mp hg)
  have hperm : ((orderedGroups buckets).map Prod.snd).flatten.Perm tokens :=
    ((orderedGroups_perm buckets).map Prod.snd).flatten.trans (tokens_categorize_perm tokens)
  have hblocks : titledGroups (orderedGroups buckets) = ruleBlocks buckets.titled :=
    titledGroups_eq_ruleBlocks fun e he => (bucket_of_mem_entries he).1
  have hclass : ∀ g ∈ orderedGroups buckets, ∀ token ∈ g.2, classify token = g.1 := by
    intro g hg token htoken
    rw [(hgroups g hg).2] at htoken
    exact of_decide_eq_true (List.mem_filter.mp htoken).2
  refine ⟨orderedGroups buckets, ⟨fun i hi => serve_categorize hi,
      fun i hF hwhole => exists_response_of_whole hF hwhole i _ _, fun hwhole => ?_⟩,
    fun name => ?_, fun hne name => ?_, nodup_map_fst_orderedGroups buckets,
    fun g hg => ⟨(hgroups g hg).1, hclass g hg⟩, fun token htoken => ?_, hperm⟩
  · rw [serve_categorize (receive_categorizeRequest classes)]
    exact congrArg (Prod.mk t)
      (send_eq_ok_iff.mpr ⟨isSendable_categorized hwhole tokens _, rfl⟩)
  · rw [hblocks]
    exact blocksOf_groupedRule name
      (showable_titled_categorize fun token htoken => isToken_of_mem_tokenize htoken)
  · have hentries : buckets.titled.entries ≠ [] := by
      obtain ⟨g, hg⟩ := List.exists_mem_of_ne_nil _ hne
      exact List.ne_nil_of_mem (List.mem_map_of_mem (mem_orderedGroups.mp hg))
    rw [hblocks]
    exact groupedRule_eq hentries name
  · obtain ⟨us, hus, hmem⟩ := List.mem_flatten.mp (hperm.mem_iff.mpr htoken)
    obtain ⟨g, hg, rfl⟩ := List.mem_map.mp hus
    exact ⟨g, hg, (hclass g hg token hmem).symm, hmem⟩

/-- Tokens of three categories, in the order opposite to the canonical one. -/
def cardClasses : Text := "hover:p-1 text-red-500 text-sm text-lg".toList

/-- Their groups. -/
def cardGroups : List (Text × List Text) :=
  [("Typography".toList, ["text-sm".toList, "text-lg".toList]),
    ("Colors".toList, ["text-red-500".toList]), ("States".toList, ["hover:p-1".toList])]

theorem groups_are_blocks_card :
    ∃ groups, http.serve (byteHost ["w".toList]) {} workspaceTree
        (categorizeRequest (.ofText cardClasses)) =
          (workspaceTree,
            .ok (.replied (.categorized (.ofText cardClasses) (tokenize cardClasses) groups))) ∧
      titledGroups groups = cardGroups ∧
      groupedRule "card".toList (ClassLift.categorize (tokenize cardClasses)).titled =
        (".card \x7b\n  /* Typography */\n  @apply text-sm text-lg;\n\n" ++
          "  /* Colors */\n  @apply text-red-500;\n\n" ++
          "  /* States */\n  @apply hover:p-1;\n\x7d\n").toList := by
  obtain ⟨groups, ⟨-, -, hsent⟩, -, htext, -⟩ :=
    groups_are_blocks (byteHost ["w".toList]) {} workspaceTree (.ofText cardClasses)
  have hreply := hsent rfl
  -- what the endpoint answers is known, so the groups are
  obtain rfl : groups = orderedGroups (ClassLift.categorize (tokenize cardClasses)) := by
    rw [serve_categorize (receive_categorizeRequest _)] at hreply
    obtain ⟨-, hsame⟩ := send_eq_ok_iff.mp (Prod.mk.inj hreply).2
    injection hsame with hcategorized
    injection hcategorized
  have hgroups :
      titledGroups (orderedGroups (ClassLift.categorize (tokenize cardClasses))) = cardGroups := by
    decide +kernel
  have hne : orderedGroups (ClassLift.categorize (tokenize cardClasses)) ≠ [] := by
    intro hnil
    rw [hnil] at hgroups
    exact List.cons_ne_nil _ _ hgroups.symm
  refine ⟨_, hreply, hgroups, (htext hne "card".toList).trans ?_⟩
  rw [hgroups]
  decide +kernel

end Service

end ClassLift
