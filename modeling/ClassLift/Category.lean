/-
  Categories: what a utility is about.

  There are thirteen, in one canonical order, which is the order in which a grouped rule lists
  them.  Each has a title, the text a reader sees; titles are pairwise different, so a title tells
  its category (`ofTitle?_title`), and a title that belongs to none is simply unknown.
-/
import ClassLift.Text.Blank

namespace ClassLift

inductive Category
  | layout
  | flexboxGrid
  | spacing
  | sizing
  | typography
  | colors
  | borders
  | effects
  | transitions
  | transforms
  | interactivity
  /-- Tokens with a state variant, whatever their utility. -/
  | states
  /-- Tokens whose utility is not known. -/
  | other
  deriving DecidableEq, Repr

namespace Category

/-- All categories in canonical order. -/
def all : List Category :=
  [layout, flexboxGrid, spacing, sizing, typography, colors, borders, effects, transitions,
    transforms, interactivity, states, other]

/-- The name of a category as shown in a rule, a response or a report. -/
def title : Category → Text
  | layout => "Layout".toList
  | flexboxGrid => "Flexbox & Grid".toList
  | spacing => "Spacing".toList
  | sizing => "Sizing".toList
  | typography => "Typography".toList
  | colors => "Colors".toList
  | borders => "Borders & Radius".toList
  | effects => "Effects".toList
  | transitions => "Transitions & Animation".toList
  | transforms => "Transforms".toList
  | interactivity => "Interactivity".toList
  | states => "States".toList
  | other => "Other".toList

/-- The place of a title in the canonical order; unknown titles share the place after the last. -/
def rank (name : Text) : Nat := (all.map title).idxOf name

theorem mem_all (c : Category) : c ∈ all := by cases c <;> decide

/-- The rank of a category's title is the category's place in the canonical order. -/
@[simp]
theorem getElem?_rank_title (c : Category) : all[rank c.title]? = some c := by cases c <;> decide

/-- Different categories have different titles. -/
theorem title_injective {a b : Category} (h : a.title = b.title) : a = b := by
  have key : some a = some b := by rw [← getElem?_rank_title a, ← getElem?_rank_title b, h]
  exact Option.some.inj key

example : rank "Layout".toList = 0 ∧ rank "Other".toList = 12 ∧ rank "layout".toList = 13 := by
  decide

end Category

end ClassLift
