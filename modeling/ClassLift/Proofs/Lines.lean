/-
  Lines: cutting a text at its line feeds, and what an edit inside a text does to them.

  1. **Both ways.**  Joining the lines of a text gives the text, and the lines of joined lines are
     those lines, if they hold no line feed and there is at least one (`joinWith_lines`,
     `lines_joinWith`).

  2. **Two shapes of a joined text.**  Read from the top, a line feed stands behind every line but
     the last (`endLines`); read from the bottom, in front of every line but the first
     (`behindFeeds`).  The first shape suits what stands above a place in a text, the second what
     stands below it.

  3. **Edits.**  Whatever follows a text, the lines above its last one stay as they are
     (`take_lines_append`), and whatever stands in front of a text, the lines below its first one do
     (`drop_lines_append`).  The line feeds count the lines, so they also say which lines these are.
-/
import Mathlib.Data.List.Basic
import ClassLift.Proofs.Tokens

namespace ClassLift

/-! ## Cutting and joining -/

theorem lines_ne_nil (t : Text) : lines t ≠ [] := List.splitOn_ne_nil '\n' t

/-- A text without a line feed is one line. -/
theorem lines_of_not_mem {t : Text} (h : '\n' ∉ t) : lines t = [t] := List.splitOn_eq_singleton h

/-- Lines split at a line feed. -/
@[simp]
theorem lines_append_feed (s t : Text) : lines (s ++ '\n' :: t) = lines s ++ lines t :=
  List.splitOn_append_cons_self s t

theorem not_mem_of_mem_lines {l t : Text} (h : l ∈ lines t) : '\n' ∉ l := by
  intro hm
  have hcut := (mem_splitOnP h '\n' hm).1
  rw [beq_self_eq_true] at hcut
  exact absurd hcut (by decide)

/-- Joining the lines of a text gives the text. -/
@[simp]
theorem joinWith_lines (t : Text) : joinWith ['\n'] (lines t) = t := List.intercalate_splitOn '\n'

/-- The lines of joined lines. -/
theorem lines_joinWith {ls : List Text} (h : ∀ l ∈ ls, '\n' ∉ l) (hne : ls ≠ []) :
    lines (joinWith ['\n'] ls) = ls := List.splitOn_intercalate '\n' h hne

/-- Joined lines open with the first of them. -/
theorem isPrefix_joinWith_feed (l m : Text) (ls : List Text) :
    l ++ ['\n'] <+: joinWith ['\n'] (l :: m :: ls) := by
  refine ⟨joinWith ['\n'] (m :: ls), ?_⟩
  simp

/-! ## The two shapes of a joined text -/

/-- The lines given, each behind a line feed. -/
def behindFeeds (ls : List Text) : Text := ls.flatMap ('\n' :: ·)

/-- The lines given, a line feed behind each. -/
def endLines (ls : List Text) : Text := ls.flatMap (· ++ ['\n'])

@[simp]
theorem behindFeeds_cons (l : Text) (ls : List Text) :
    behindFeeds (l :: ls) = '\n' :: (l ++ behindFeeds ls) := List.flatMap_cons

@[simp]
theorem endLines_cons (l : Text) (ls : List Text) :
    endLines (l :: ls) = l ++ '\n' :: endLines ls := by
  rw [endLines, List.flatMap_cons, List.append_assoc]
  rfl

theorem joinWith_feed_cons (l : Text) (ls : List Text) :
    joinWith ['\n'] (l :: ls) = l ++ behindFeeds ls := by
  induction ls generalizing l with
  | nil => simp [behindFeeds]
  | cons m ls ih => simp [ih]

theorem joinWith_feed_concat (ls : List Text) (l : Text) :
    joinWith ['\n'] (ls ++ [l]) = endLines ls ++ l := by
  induction ls with
  | nil => exact joinWith_singleton _ l
  | cons m ls ih =>
    obtain ⟨n, others, hn⟩ := List.exists_cons_of_ne_nil
      (List.append_ne_nil_of_right_ne_nil ls (List.cons_ne_nil l []))
    rw [List.cons_append, hn, joinWith_cons_cons, ← hn, ih, endLines_cons, List.append_assoc,
      List.cons_append]

/-- Every text is some ended lines and a last line. -/
theorem exists_last_line (t : Text) :
    ∃ ended last, t = endLines ended ++ last ∧ (∀ l ∈ ended, '\n' ∉ l) ∧ '\n' ∉ last := by
  rcases List.eq_nil_or_concat' (lines t) with h | ⟨ended, last, h⟩
  · exact absurd h (lines_ne_nil t)
  · have hfree : ∀ l ∈ ended ++ [last], '\n' ∉ l := fun l hl => not_mem_of_mem_lines (h ▸ hl)
    refine ⟨ended, last, ?_, fun l hl => hfree l (List.mem_append_left _ hl),
      hfree last List.mem_concat_self⟩
    rw [← joinWith_feed_concat, ← h, joinWith_lines]

/-- The lines of a text behind ended lines. -/
theorem lines_endLines_append {ended : List Text} (h : ∀ l ∈ ended, '\n' ∉ l) (t : Text) :
    lines (endLines ended ++ t) = ended ++ lines t := by
  induction ended with
  | nil => rfl
  | cons l ended ih =>
    have hl := lines_of_not_mem (h l List.mem_cons_self)
    have hrest := ih fun m hm => h m (List.mem_cons_of_mem l hm)
    simp [hl, hrest]

theorem count_endLines {ended : List Text} (h : ∀ l ∈ ended, '\n' ∉ l) :
    (endLines ended).count '\n' = ended.length := by
  induction ended with
  | nil => rfl
  | cons l ended ih =>
    have hl := List.count_eq_zero_of_not_mem (h l List.mem_cons_self)
    have hrest := ih fun m hm => h m (List.mem_cons_of_mem l hm)
    simp [hl, hrest]

/-! ## Counting -/

/-- There is one line more than there are line feeds. -/
theorem length_lines (t : Text) : (lines t).length = t.count '\n' + 1 := by
  obtain ⟨ended, last, rfl, hended, hlast⟩ := exists_last_line t
  have hfree := List.count_eq_zero_of_not_mem hlast
  simp [lines_endLines_append hended, lines_of_not_mem hlast, count_endLines hended, hfree]

/-! ## Edits -/

/-- What stands in front of a text without a line feed in between lengthens its first line. -/
theorem lines_append_of_not_mem {l rest first : Text} {others : List Text} (h : '\n' ∉ l)
    (hrest : lines rest = first :: others) : lines (l ++ rest) = (l ++ first) :: others := by
  have hfree : ∀ m ∈ first :: others, '\n' ∉ m := fun m hm => not_mem_of_mem_lines (hrest ▸ hm)
  have htext : l ++ rest = joinWith ['\n'] ((l ++ first) :: others) := by
    rw [joinWith_feed_cons, List.append_assoc, ← joinWith_feed_cons, ← hrest, joinWith_lines]
  rw [htext]
  refine lines_joinWith (fun m hm => ?_) (List.cons_ne_nil _ _)
  rcases List.mem_cons.mp hm with rfl | hm
  · intro hmem
    rcases List.mem_append.mp hmem with hmem | hmem
    · exact h hmem
    · exact hfree first List.mem_cons_self hmem
  · exact hfree m (List.mem_cons_of_mem first hm)

/-- In front of a line without a line feed nothing is cut. -/
theorem tail_lines_append {l : Text} (h : '\n' ∉ l) (t : Text) :
    (lines (l ++ t)).tail = (lines t).tail := by
  obtain ⟨first, others, hlines⟩ := List.exists_cons_of_ne_nil (lines_ne_nil t)
  rw [lines_append_of_not_mem h hlines, hlines]
  rfl

/-- **What follows a text leaves the lines above its last one alone.** -/
theorem take_lines_append (s t : Text) :
    (lines (s ++ t)).take (s.count '\n') = (lines s).take (s.count '\n') := by
  obtain ⟨ended, last, rfl, hended, hlast⟩ := exists_last_line s
  have hfree := List.count_eq_zero_of_not_mem hlast
  simp [count_endLines hended, hfree, lines_endLines_append hended]

/-- **What stands in front of a text leaves the lines below its first one alone.** -/
theorem drop_lines_append (s t : Text) :
    (lines (s ++ t)).drop (s.count '\n' + 1) = (lines t).tail := by
  obtain ⟨ended, last, rfl, hended, hlast⟩ := exists_last_line s
  have hfree := List.count_eq_zero_of_not_mem hlast
  simp [count_endLines hended, hfree, lines_endLines_append hended, tail_lines_append hlast]

end ClassLift
