/-
  A stylesheet is the record of its appends.

  1. **Rules.**  The rule of a plan starts with its selector and ends with its closing brace and a
     line feed (`IsRule`).  The brace is what matters: it is not blank, and no line end reaches over
     it, so a file that ends in a rule still ends in that brace and ONE line feed when it is read
     again.

  2. **One step.**  So the separator is nothing in a file without text and a single line feed behind
     a rule.  A file that holds rules with a line feed between every two (`Records`) gets one more
     of them by an append to its place (`Records.append`) and stays as it is by one to any other
     (`Records.elsewhere`).

  3. **A run.**  By induction, in the end a file holds the rules that were appended to its place, in
     their order (`Records.lastTree`).  The place of a target is settled by its parts alone, so how
     a target is spelled and what happens at other places decides nothing.
-/
import ClassLift.Proofs.Bytes
import ClassLift.Proofs.History
import ClassLift.Proofs.Plan
import ClassLift.Proofs.Untouched

namespace ClassLift

/-! ## Rules -/

/-- The lines of a rule, without the empty one behind the last line feed. -/
def ruleLines (css : Text) : List Text := (lines css).dropLast

/-- A rule as stylesheets hold it: a selector first, a closing brace last, and every line ended. -/
structure IsRule (css : Text) : Prop where
  ended : lines css = ruleLines css ++ [[]]
  selector : ∃ name, (ruleLines css).head? = some ('.' :: name)
  closed : (ruleLines css).getLast? = some ['\x7d']

/-- **The rule of a plan is one.** -/
theorem IsPlanFor.isRule {s : Settings} {text : Text} {r : Request} {p : Plan}
    (h : IsPlanFor s text r p) : IsRule p.css := by
  obtain ⟨body, hbody⟩ : ∃ body, lines p.css =
      ('.' :: (sanitize p.className ++ " \x7b".toList)) :: body ++ [['\x7d']] ++ [[]] := by
    refine ⟨ruleBody p.extracted p.buckets.titled (r.grouping.getD s.groupByCategory), ?_⟩
    rw [h.css, lines_rule h.rulable, List.append_assoc]
    rfl
  have hlines : ruleLines p.css =
      ('.' :: (sanitize p.className ++ " \x7b".toList)) :: body ++ [['\x7d']] := by
    rw [ruleLines, hbody, List.dropLast_concat]
  refine ⟨?_, ?_, ?_⟩
  · rw [hlines, hbody]
  · rw [hlines]
    exact ⟨_, rfl⟩
  · rw [hlines, List.getLast?_concat]

theorem IsRule.ne_nil {css : Text} (h : IsRule css) : css ≠ [] := by
  rintro rfl
  obtain ⟨name, hname⟩ := h.selector
  exact absurd hname (by simp [ruleLines, lines])

/-- What every rule ends in: its closing brace and the line feed of that line. -/
def ruleEnd : Text := "\x7d\n".toList

/-- A rule ends in its closing brace, because the last of its lines is the brace. -/
theorem IsRule.exists_front {css : Text} (h : IsRule css) : ∃ front, css = front ++ ruleEnd := by
  obtain ⟨above, habove⟩ := List.getLast?_eq_some_iff.mp h.closed
  refine ⟨endLines above, ?_⟩
  have hcss : css = endLines (above ++ [['\x7d']]) := by
    have hjoined := joinWith_lines css
    rw [h.ended, habove, joinWith_feed_concat, List.append_nil] at hjoined
    exact hjoined.symm
  rw [hcss, endLines, List.flatMap_append]
  rfl

/-! ## What stands between two rules -/

/-- No line end reaches over the closing brace, so the line ends in front of it are unified by
    themselves. -/
theorem unifyLineEnds_append_ruleEnd (front : Text) :
    unifyLineEnds (front ++ ruleEnd) = unifyLineEnds front ++ ruleEnd :=
  unifyLineEnds_append fun hcut => absurd hcut.2 (by decide)

/-- Behind a rule a single line feed makes a blank line. -/
theorem separator_append_ruleEnd (front : Text) : separator (front ++ ruleEnd) = ['\n'] := by
  have hreverse : (front ++ ruleEnd).reverse = '\n' :: '\x7d' :: front.reverse := by
    rw [List.reverse_append]
    rfl
  have hsolid : (strip (front ++ ruleEnd)).isEmpty = false := by
    rw [List.isEmpty_eq_false_iff]
    intro hnil
    have hblank := strip_eq_nil_iff.mp hnil '\x7d' (List.mem_append_right front (by decide))
    exact absurd hblank (by decide)
  have hone : "\n\n".toList.isSuffixOf (front ++ ruleEnd) = false := by
    rw [List.isSuffixOf, hreverse]
    rfl
  have hfeed : ['\n'].isSuffixOf (front ++ ruleEnd) = true := by
    rw [List.isSuffixOf, hreverse]
    rfl
  rw [separator, hsolid, hone, hfeed]
  rfl

/-! ## Rules in a file -/

theorem endLines_eq_joinWith {ls : List Text} (hne : ls ≠ []) :
    endLines ls = joinWith ['\n'] ls ++ ['\n'] := by
  rcases List.eq_nil_or_concat' ls with rfl | ⟨above, last, rfl⟩
  · exact absurd rfl hne
  · simp [joinWith_feed_concat, endLines]

/-- One more text behind others. -/
theorem joinWith_feed_append_singleton {ls : List Text} (hne : ls ≠ []) (l : Text) :
    joinWith ['\n'] (ls ++ [l]) = joinWith ['\n'] ls ++ '\n' :: l := by
  rw [joinWith_feed_concat, endLines_eq_joinWith hne, List.append_assoc]
  rfl

/-- Rules with a line feed between them end like a rule, namely like the last of them. -/
theorem exists_front_joinWith {rules : List Text} (hrules : ∀ rule ∈ rules, IsRule rule)
    (hne : rules ≠ []) : ∃ front, joinWith ['\n'] rules = front ++ ruleEnd := by
  rcases List.eq_nil_or_concat' rules with rfl | ⟨above, last, rfl⟩
  · exact absurd rfl hne
  · obtain ⟨front, hfront⟩ := (hrules last List.mem_concat_self).exists_front
    refine ⟨endLines above ++ front, ?_⟩
    rw [joinWith_feed_concat, List.append_assoc, ← hfront]

/-- **Between two rules stands one blank line**, and there is none at the ends: the lines of the
    rules, with one empty line between every two. -/
theorem lines_joinWith_rules {rules : List Text} (hrules : ∀ rule ∈ rules, IsRule rule) :
    lines (joinWith ['\n'] rules) = List.intercalate [[]] (rules.map ruleLines) ++ [[]] := by
  induction rules with
  | nil => rfl
  | cons rule rest ih =>
    have hended := (hrules rule List.mem_cons_self).ended
    have hrest := ih fun r hr => hrules r (List.mem_cons_of_mem rule hr)
    cases rest with
    | nil => simpa using hended
    | cons next rest =>
      rw [joinWith_cons_cons, lines_append_feed, hended, hrest]
      simp only [List.map_cons, List.intercalate_cons_cons, List.append_assoc]

/-- The file at a place holds rules and nothing else, with a line feed between every two.  As long
    as there are none, a file may be missing there, but one that is there holds nothing. -/
structure Records (t : FileTree) (place : Place) (rules : List Text) : Prop where
  nothing : rules = [] → ∀ bytes, t.get? place = some (.file bytes) → bytes = utf8 []
  held : rules ≠ [] → t.get? place = some (.file (utf8 (joinWith ['\n'] rules)))

section

variable {t t' : FileTree} {root place : Place} {target css : Text} {rules : List Text}

/-- Only the file at the place matters. -/
theorem Records.elsewhere (h : Records t place rules) (hsame : t.SameFileAt t' place) :
    Records t' place rules :=
  ⟨fun hnil bytes hbytes => h.nothing hnil bytes ((hsame bytes).mp hbytes),
    fun hne => (hsame _).mpr (h.held hne)⟩

/-- **One step**: a rule that is appended at the place is one more rule of its file. -/
theorem Records.append (hwf : t.WellFormed) (hroot : IsPlace root)
    (h : Records t place rules) (hrules : ∀ rule ∈ rules, IsRule rule) (hcss : css ≠ [])
    (happend : appendRule t root target css = (t', .ok place)) :
    Records t' place (rules ++ [css]) := by
  refine ⟨fun hnil => by simp at hnil, fun _ => ?_⟩
  have hresolved := resolve_of_appendRule happend
  obtain ⟨-, -, hresult⟩ := appendRule_accepted hwf hroot hresolved happend
  obtain ⟨-, hwritten⟩ := hresult place rfl
  obtain ⟨bytes, existing, hread, hold, hnew⟩ := hwritten hcss
  rw [hnew]
  by_cases hne : rules = []
  · -- the first rule of the file
    have hempty : bytes = utf8 [] := by
      rcases hold with hold | ⟨-, hold⟩
      · exact h.nothing hne bytes hold
      · exact hold
    have hexisting : existing = [] := by
      rw [hempty, readText?_utf8] at hread
      exact (Option.some.inj hread).symm
    rw [hne, hempty, hexisting, ← utf8_append, List.nil_append, List.nil_append,
      joinWith_singleton]
    rfl
  · -- behind other rules, the last of which ends in its brace
    have hbytes : bytes = utf8 (joinWith ['\n'] rules) := by
      rw [h.held hne] at hold
      rcases hold with hold | ⟨hnone, -⟩
      · exact (Node.file.inj (Option.some.inj hold)).symm
      · exact absurd hnone (by simp)
    obtain ⟨front, hfront⟩ := exists_front_joinWith hrules hne
    have hexisting : existing = unifyLineEnds front ++ ruleEnd := by
      rw [hbytes, readText?_utf8, hfront, unifyLineEnds_append_ruleEnd] at hread
      exact (Option.some.inj hread).symm
    rw [hbytes, hexisting, separator_append_ruleEnd, ← utf8_append,
      joinWith_feed_append_singleton hne]
    rfl

end

/-! ## A run of appends -/

/-- A rule, and the target it is to be appended to. -/
structure Addition where
  target : Text
  css : Text

/-- The place that an addition is for. -/
def Addition.place (root : Place) (a : Addition) : Place := (Path.ofText a.target).placeFrom root

/-- Appends what is to be added. -/
def Addition.append (root : Place) (t : FileTree) (a : Addition) :
    FileTree × Except StylesheetError Place :=
  appendRule t root a.target a.css

/-- The rules for a place, in the order in which they were added.  Targets are told by where they lead,
    not by how they are spelled. -/
def rulesFor (root place : Place) (additions : List Addition) : List Text :=
  (additions.filter fun a => a.place root == place).map Addition.css

section

variable {t : FileTree} {root place : Place} {a : Addition} {additions : List Addition}

theorem rulesFor_cons (root place : Place) (a : Addition) (rest : List Addition) :
    rulesFor root place (a :: rest) =
      if a.place root = place then a.css :: rulesFor root place rest
      else rulesFor root place rest := by
  rw [rulesFor, List.filter_cons]
  by_cases h : a.place root = place
  · rw [if_pos h, if_pos (beq_iff_eq.mpr h)]
    rfl
  · rw [if_neg h, if_neg (mt beq_iff_eq.mp h)]
    rfl

/-- An addition that succeeds is answered with its place. -/
theorem place_of_append (hwf : t.WellFormed) (hroot : IsPlace root)
    (h : (a.append root t).2 = .ok place) : place = a.place root := by
  have hresolved := resolve_of_appendRule
    (show appendRule t root a.target a.css = ((a.append root t).1, .ok place) from Prod.ext rfl h)
  obtain ⟨-, hplace, -⟩ := (resolveStylesheet_eq_ok_iff hwf hroot).mp hresolved
  exact hplace.symm

/-- An addition for another place leaves the file at this one as it is. -/
theorem sameFileAt_append (hwf : t.WellFormed) (hroot : IsPlace root)
    (hother : a.place root ≠ place) : t.SameFileAt (a.append root t).1 place := by
  rcases happend : appendRule t root a.target a.css with ⟨t', result⟩
  have htree : (a.append root t).1 = t' := congrArg Prod.fst happend
  rw [htree]
  cases result with
  | error e => exact sameFileAt_of_appendRule_error hwf hroot happend place
  | ok p =>
    have hp : p = a.place root := place_of_append hwf hroot (congrArg Prod.snd happend)
    obtain ⟨-, hchanged, -⟩ :=
      appendRule_accepted hwf hroot (resolve_of_appendRule happend) happend
    exact hchanged.sameFileAt fun heq => hother (hp.symm.trans heq.symm)

/-- A run without an addition for a place leaves the file there as it is, also where additions fail. -/
theorem sameFileAt_lastTree (hwf : t.WellFormed) (hroot : IsPlace root)
    (h : rulesFor root place additions = []) :
    t.SameFileAt (lastTree (Addition.append root) t additions) place := by
  induction additions generalizing t with
  | nil => exact FileTree.SameFileAt.refl t place
  | cons a rest ih =>
    rw [rulesFor_cons] at h
    by_cases ha : a.place root = place
    · rw [if_pos ha] at h
      exact absurd h (List.cons_ne_nil _ _)
    · rw [if_neg ha] at h
      have hfirst := sameFileAt_append hwf hroot ha
      rw [lastTree_cons]
      exact hfirst.trans (ih (wellFormed_of_appendRule hwf hroot rfl) h)

/-- **A run**: where every addition succeeds, the file at a place gets the rules for that place. -/
theorem Records.lastTree {rules : List Text} (hwf : t.WellFormed) (hroot : IsPlace root)
    (hadded : ∀ a ∈ additions, IsRule a.css)
    (hok : ∀ step ∈ history (Addition.append root) t additions,
      ∃ p, step.answer = .ok p)
    (hrules : ∀ rule ∈ rules, IsRule rule) (h : Records t place rules) :
    Records (lastTree (Addition.append root) t additions) place
      (rules ++ rulesFor root place additions) := by
  induction additions generalizing t rules with
  | nil =>
    rw [show rulesFor root place [] = [] from rfl, List.append_nil]
    exact h
  | cons a rest ih =>
    rw [history_cons] at hok
    obtain ⟨p, hp⟩ := hok _ List.mem_cons_self
    have hwf' : (a.append root t).1.WellFormed := wellFormed_of_appendRule hwf hroot rfl
    have hrule : IsRule a.css := hadded a List.mem_cons_self
    have hadded' : ∀ b ∈ rest, IsRule b.css := fun b hb => hadded b (List.mem_cons_of_mem a hb)
    have hok' := fun step hstep => hok step (List.mem_cons_of_mem _ hstep)
    rw [lastTree_cons, rulesFor_cons]
    -- an addition is for this place, or it does not touch the file there
    by_cases ha : a.place root = place
    · obtain rfl : p = place := (place_of_append hwf hroot hp).trans ha
      have hstep := h.append hwf hroot hrules hrule.ne_nil
        (show appendRule t root a.target a.css = ((a.append root t).1, .ok p) from Prod.ext rfl hp)
      have hrules' : ∀ rule ∈ rules ++ [a.css], IsRule rule := by
        intro rule hmem
        rcases List.mem_append.mp hmem with hmem | hmem
        · exact hrules rule hmem
        · rw [List.mem_singleton.mp hmem]
          exact hrule
      have hlast := ih hwf' hadded' hok' hrules' hstep
      rw [if_pos ha]
      rw [List.append_assoc, List.singleton_append] at hlast
      exact hlast
    · rw [if_neg ha]
      exact ih hwf' hadded' hok' hrules (h.elsewhere (sameFileAt_append hwf hroot ha))

end

/-- **A stylesheet is the record of its appends.**  Rules of plans are appended one after another,
    to targets spelled in any way, and every append succeeds.  Then, for every place:

    * each append was answered with the place that its target leads to;
    * a file that was missing or empty holds the rules for its place in the order of the appends,
      joined by one line feed, and nothing else decides what it holds;
    * these are the lines of the rules with one empty line between every two rules, and no rule
      starts or ends with an empty line;
    * where no rule was appended, a file keeps its bytes, and none is made. -/
theorem stylesheet_records_appends {t : FileTree} {root : Place} {additions : List Addition}
    (hwf : t.WellFormed) (hroot : IsPlace root)
    (hplanned : ∀ a ∈ additions, ∃ s text r p, plan s text r = .ok p ∧ a.css = p.css)
    (hok : ∀ step ∈ history (Addition.append root) t additions,
      ∃ p, step.answer = .ok p) (place : Place) :
    (∀ step ∈ history (Addition.append root) t additions,
      step.answer = .ok ((Path.ofText step.asked.target).placeFrom root)) ∧
    (rulesFor root place additions ≠ [] →
      t.get? place = none ∨ t.get? place = some (.file (utf8 [])) →
      (lastTree (Addition.append root) t additions).get? place =
        some (.file (utf8 (joinWith ['\n'] (rulesFor root place additions))))) ∧
    lines (joinWith ['\n'] (rulesFor root place additions)) =
      List.intercalate [[]] ((rulesFor root place additions).map ruleLines) ++ [[]] ∧
    (∀ rule ∈ rulesFor root place additions,
      (∃ name, (ruleLines rule).head? = some ('.' :: name)) ∧
        (ruleLines rule).getLast? = some ['\x7d']) ∧
    (rulesFor root place additions = [] →
      t.SameFileAt (lastTree (Addition.append root) t additions) place) := by
  have hadded : ∀ a ∈ additions, IsRule a.css := by
    intro a ha
    obtain ⟨s, text, r, p, hp, hcss⟩ := hplanned a ha
    rw [hcss]
    exact (plan_eq_ok_iff.mp hp).isRule
  have hrules : ∀ rule ∈ rulesFor root place additions, IsRule rule := by
    intro rule hrule
    obtain ⟨a, ha, rfl⟩ := List.mem_map.mp hrule
    exact hadded a (List.mem_of_mem_filter ha)
  refine ⟨?_, fun hne hempty => ?_, lines_joinWith_rules hrules,
    fun rule hrule => ⟨(hrules rule hrule).selector, (hrules rule hrule).closed⟩,
    sameFileAt_lastTree hwf hroot⟩
  · have hplaces : ∀ step ∈ history (Addition.append root) t additions,
        ∀ q, step.answer = .ok q → q = step.asked.place root :=
      forall_mem_history hwf (fun t hwf a => wellFormed_of_appendRule hwf hroot rfl)
        (fun t hwf a q hq => place_of_append hwf hroot hq) additions
    intro step hstep
    obtain ⟨q, hq⟩ := hok step hstep
    rw [hq, hplaces step hstep q hq]
    rfl
  · have hstart : Records t place [] := by
      refine ⟨fun _ bytes hbytes => ?_, fun hne => absurd rfl hne⟩
      rw [hbytes] at hempty
      rcases hempty with hnone | hfile
      · exact absurd hnone (by simp)
      · exact Node.file.inj (Option.some.inj hfile)
    have hlast := hstart.lastTree hwf hroot hadded hok (by simp)
    rw [List.nil_append] at hlast
    exact hlast.held hne

/-- Two rules of plans. -/
def cardCss : Text := ".card \x7b\n  @apply flex p-4;\n\x7d\n".toList

def boxCss : Text := ".box \x7b\n  @apply flex;\n\x7d\n".toList

/-- Rules for two stylesheets, one of which is spelled in two ways. -/
def mixedAdditions : List Addition :=
  [⟨"css/x.css".toList, boxCss⟩, ⟨"y.css".toList, cardCss⟩,
    ⟨"no/../css//x.css/".toList, cardCss⟩]

theorem stylesheet_records_appends_mixed :
    (lastTree (Addition.append ["w".toList]) workspaceTree mixedAdditions).get?
        ["w".toList, "css".toList, "x.css".toList] =
      some (.file (utf8 (boxCss ++ '\n' :: cardCss))) ∧
    (lastTree (Addition.append ["w".toList]) workspaceTree mixedAdditions).get?
        ["w".toList, "y.css".toList] = some (.file (utf8 cardCss)) ∧
    workspaceTree.SameFileAt
      (lastTree (Addition.append ["w".toList]) workspaceTree mixedAdditions)
      ["w".toList, "z.css".toList] := by
  have hroot : IsPlace ["w".toList] := by decide
  have hcard : (plan {} "<i class='flex p-4'>".toList ⟨0, some "card".toList, some false, none,
      some 1, false⟩).toOption.map Plan.css = some cardCss := by
    decide +kernel
  have hbox : (plan {} "<i class='flex md:p-4'>".toList ⟨0, some "box".toList, some false,
      some true, some 1, false⟩).toOption.map Plan.css = some boxCss := by
    decide +kernel
  have hplanned : ∀ a ∈ mixedAdditions, ∃ s text r p, plan s text r = .ok p ∧ a.css = p.css := by
    intro a ha
    obtain ⟨p, hp, hpcss⟩ := exists_ok_of_map_toOption hcard
    obtain ⟨q, hq, hqcss⟩ := exists_ok_of_map_toOption hbox
    have hcss : a.css = cardCss ∨ a.css = boxCss := by
      have hall : ∀ a ∈ mixedAdditions, a.css = cardCss ∨ a.css = boxCss := by decide
      exact hall a ha
    rcases hcss with hcss | hcss
    · exact ⟨_, _, _, p, hp, hcss.trans hpcss.symm⟩
    · exact ⟨_, _, _, q, hq, hcss.trans hqcss.symm⟩
  have hok : ∀ step ∈ history (Addition.append ["w".toList]) workspaceTree mixedAdditions,
      ∃ p, step.answer = .ok p := by
    have hanswers : (history (Addition.append ["w".toList]) workspaceTree
        mixedAdditions).map Step.answer =
        [.ok ["w".toList, "css".toList, "x.css".toList], .ok ["w".toList, "y.css".toList],
          .ok ["w".toList, "css".toList, "x.css".toList]] := by
      decide +kernel
    intro step hstep
    have hmem : step.answer ∈ _ := List.mem_map_of_mem hstep
    rw [hanswers] at hmem
    simp only [List.mem_cons, List.not_mem_nil, or_false] at hmem
    rcases hmem with h | h | h
    · exact ⟨_, h⟩
    · exact ⟨_, h⟩
    · exact ⟨_, h⟩
  refine ⟨?_, ?_, ?_⟩
  · obtain ⟨-, hfile, -⟩ := stylesheet_records_appends wellFormed_workspaceTree hroot hplanned hok
      ["w".toList, "css".toList, "x.css".toList]
    exact hfile (by decide) (Or.inl rfl)
  · obtain ⟨-, hfile, -⟩ := stylesheet_records_appends wellFormed_workspaceTree hroot hplanned hok
      ["w".toList, "y.css".toList]
    exact hfile (by decide) (Or.inl rfl)
  · obtain ⟨-, -, -, -, hsame⟩ := stylesheet_records_appends wellFormed_workspaceTree hroot
      hplanned hok ["w".toList, "z.css".toList]
    exact hsame (by decide)

end ClassLift
