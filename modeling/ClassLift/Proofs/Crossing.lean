/-
  When the attribute around the requested line is the one that is located.

  A line inside a wrapped attribute has no attribute of its own.  The windows around it are tried from
  the topmost start, so a neighbour ABOVE that has an attribute of its own answers first, although a
  later window would show the wrapped one (`neighbour_above_wins`).  What holds of every document:

  1. If a window in reach shows a value that reaches across the line, something is located, from that
     window or from one tried before it.

  2. If each value that is shown before also reaches across the line, so does the located one.  An
     attribute that misses the line is located only where a window that is tried before shows it.
-/
import ClassLift.Proofs.Minimal

namespace ClassLift

/-- The value of the location goes, from its opening to its closing delimiter, from a line at or above
    line `n` of the text to a line at or below it. -/
def Location.ReachesAcross (found : Location) (text : Text) (n : Nat) : Prop :=
  lineAt text (found.documentStart - 1) ≤ n ∧ n ≤ lineAt text found.documentEnd

instance (found : Location) (text : Text) (n : Nat) : Decidable (found.ReachesAcross text n) :=
  inferInstanceAs (Decidable (_ ∧ _))

/-- Of two windows one is tried before the other, or they are the same. -/
theorem triedBefore_total (first last first' last' : Nat) :
    TriedBefore first last first' last' ∨ TriedBefore first' last' first last ∨
      first = first' ∧ last = last' := by
  simp only [TriedBefore]
  omega

section

variable {text : Text} {n lookaround first last : Nat} {shown : Location}

/-- **What a window in reach shows across the line is located, unless an earlier window shows something
    else.**  Line `n` has no attribute of its own, and the lines from `first` to `last` around it show
    one whose value reaches across it.

    * Something is located: the attribute of the first window in reach that has one, which is the window
      given or one that is tried before it.
    * If every value that is shown before reaches across the line, the located one does.
    * Where the located one misses the line, its window is tried before the one given. -/
theorem shown_across_is_located (hnone : NoneOnLine text n)
    (hreach : InReach text n lookaround first last)
    (hshown : locateInLines text first last = some shown) (hacross : shown.ReachesAcross text n) :
    ∃ found, locate text n lookaround = some found ∧
      InReach text n lookaround found.lineIndex found.lastLine ∧
      locateInLines text found.lineIndex found.lastLine = some found ∧
      (∀ first' last', InReach text n lookaround first' last' →
        TriedBefore first' last' found.lineIndex found.lastLine →
        locateInLines text first' last' = none) ∧
      ¬TriedBefore first last found.lineIndex found.lastLine ∧
      ((∀ first' last' other, InReach text n lookaround first' last' →
          TriedBefore first' last' first last → locateInLines text first' last' = some other →
          other.ReachesAcross text n) →
        found.ReachesAcross text n) ∧
      (¬found.ReachesAcross text n → TriedBefore found.lineIndex found.lastLine first last) := by
  have haround : locate text n lookaround = locateAround text n lookaround := by
    rw [locate, locateExactly_eq_none_iff.mpr hnone, Option.none_or]
  have hsome : locateAround text n lookaround ≠ none := by
    intro hempty
    rw [locateAround_eq_none_iff.mp hempty first last hreach] at hshown
    exact absurd hshown (by simp)
  obtain ⟨found, hfound⟩ := Option.ne_none_iff_exists'.mp hsome
  obtain ⟨top, bottom, hreach', hthere, hbefore⟩ := locateAround_eq_some_iff.mp hfound
  obtain ⟨rfl, -, rfl⟩ := locateInLines_lines hreach'.ordered hthere
  have hlater : ¬TriedBefore first last found.lineIndex found.lastLine := by
    intro htried
    rw [hbefore first last hreach htried] at hshown
    exact absurd hshown (by simp)
  -- either the window given is the first one that shows something, or an earlier one is
  have hcases : TriedBefore found.lineIndex found.lastLine first last ∨
      found.ReachesAcross text n := by
    rcases triedBefore_total found.lineIndex found.lastLine first last with h | h | ⟨hfirst, hlast⟩
    · exact Or.inl h
    · exact absurd h hlater
    · rw [hfirst, hlast, hshown] at hthere
      exact Or.inr (Option.some.inj hthere ▸ hacross)
  refine ⟨found, haround.trans hfound, hreach', hthere, hbefore, hlater, fun hall => ?_,
    fun hmiss => hcases.resolve_right hmiss⟩
  rcases hcases with htried | hreaches
  · exact hall _ _ found hreach' htried hthere
  · exact hreaches

end

/-- A wrapped attribute with another attribute below it. -/
def neighbourBelow : Text := "<div class=\"b\n c\">\n<p class=\"a\">".toList

/-- From its second line the wrapped attribute is located.  The window of all three lines shows it too,
    but the one without the last line is tried before. -/
theorem shown_across_is_located_below :
    (∃ shown, locateInLines neighbourBelow 0 2 = some shown ∧
      shown.ReachesAcross neighbourBelow 1) ∧
    ∃ found, locate neighbourBelow 1 5 = some found ∧ found.ReachesAcross neighbourBelow 1 := by
  have hnone : NoneOnLine neighbourBelow (1 : Nat) :=
    locateExactly_eq_none_iff.mp (by decide +kernel)
  have hreach : InReach neighbourBelow (1 : Nat) 5 0 2 :=
    ⟨by decide, by decide, by decide, by decide +kernel⟩
  have hacross : ((locateInLines neighbourBelow 0 2).map fun shown =>
      decide (shown.ReachesAcross neighbourBelow 1)) = some true := by
    decide +kernel
  obtain ⟨shown, hshown, hreaches⟩ := Option.map_eq_some_iff.mp hacross
  obtain ⟨found, hfound, -, -, -, -, hall, -⟩ := shown_across_is_located hnone hreach hshown
    (of_decide_eq_true hreaches)
  refine ⟨⟨shown, hshown, of_decide_eq_true hreaches⟩, found, hfound, hall ?_⟩
  -- the windows that are tried before start at the first line and end above the third
  intro first last other hreach' htried hother
  obtain ⟨rfl, hlast⟩ : first = 0 ∧ last < 2 := by
    simp only [TriedBefore] at htried
    omega
  have hearlier : ∀ last < 2, ((locateInLines neighbourBelow 0 last).all fun other =>
      decide (other.ReachesAcross neighbourBelow 1)) = true := by
    decide +kernel
  have hthis := hearlier last hlast
  rw [hother] at hthis
  exact of_decide_eq_true hthis

/-- The same two attributes the other way round. -/
def neighbourAbove : Text := "<p class=\"a\">\n<div class=\"b\n c\">".toList

/-- **A neighbour above wins** over the wrapped attribute that starts on the requested line: the lines 1
    and 2 show a value across line 1, but what is located is the value of line 0. -/
theorem neighbour_above_wins :
    1 < (lines neighbourAbove).length ∧ NoneOnLine neighbourAbove 1 ∧
    InReach neighbourAbove 1 5 1 2 ∧
    (∃ shown, locateInLines neighbourAbove 1 2 = some shown ∧
      shown.ReachesAcross neighbourAbove 1) ∧
    ∃ found, locate neighbourAbove 1 5 = some found ∧ found.found.value = "a".toList ∧
      ¬found.ReachesAcross neighbourAbove 1 := by
  have hshown : ((locateInLines neighbourAbove 1 2).map fun shown =>
      decide (shown.ReachesAcross neighbourAbove 1)) = some true := by
    decide +kernel
  have hlocated : (locate neighbourAbove 1 5).map (fun found =>
      (found.found.value, decide (found.ReachesAcross neighbourAbove 1))) =
        some ("a".toList, false) := by
    decide +kernel
  obtain ⟨shown, hthere, hreaches⟩ := Option.map_eq_some_iff.mp hshown
  obtain ⟨found, hfound, hfacts⟩ := Option.map_eq_some_iff.mp hlocated
  obtain ⟨hvalue, hmisses⟩ := Prod.mk.inj hfacts
  exact ⟨by decide +kernel, locateExactly_eq_none_iff.mp (by decide +kernel),
    ⟨by decide, by decide, by decide, by decide +kernel⟩,
    ⟨shown, hthere, of_decide_eq_true hreaches⟩, found, hfound, hvalue, of_decide_eq_false hmisses⟩

end ClassLift
