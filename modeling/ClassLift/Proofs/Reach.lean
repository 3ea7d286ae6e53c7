/-
  Which windows are tried for a line, and which of them answers.

  The search is written as two nested loops over windows that grow.  What it does is simpler said:

  1. **A window is two line numbers.**  The lines from `first` to `last`, put together, have a text
     (`windowText`), and the attribute of that text has a place in the document (`locateInLines`).
     The window that the loop has grown is the one for its two numbers (`locateInWindow_eq`).

  2. **Reach.**  The windows tried are those that start from `lookaround` above the requested line down
     to it and end no further than `lookaround` below it, inside the document (`InReach`).

  3. **Order.**  A window that starts further up is tried before, and of two with one start the shorter
     (`TriedBefore`).  The search answers with the FIRST window in reach that has an attribute, and with
     nothing only if no window in reach has one (`locateAround_eq_some_iff`, `locateAround_eq_none_iff`).

  From here on nothing looks into the loops again.
-/
import ClassLift.Proofs.OneLine

namespace ClassLift

/-! ## Windows by their lines -/

/-- The lines from `first` to `last`, each trimmed, with a space between every two. -/
def windowText (text : Text) (first last : Nat) : Text :=
  joinSpaced ((((lines text).drop first).take (last + 1 - first)).map strip)

/-- The window of the lines from `first` to `last`, if the document has such lines. -/
def documentWindow? (text : Text) (first last : Nat) : Option Window :=
  match (documentLines text).drop first with
  | [] => none
  | l :: following => some (Window.ofLines l (following.take (last - first)))

/-- The attribute of the lines from `first` to `last`, put together, and its place. -/
def locateInLines (text : Text) (first last : Nat) : Option Location :=
  (documentWindow? text first last).bind (Window.locate? · first (last - first + 1))

theorem joinSpaced_cons_append (s t : Text) (ts : List Text) :
    joinSpaced ((s ++ ' ' :: t) :: ts) = joinSpaced (s :: t :: ts) := by
  cases ts with
  | nil => simp
  | cons u ts => simp

/-- The text of a window that has grown by some lines; by induction on the lines, each of which is put
    behind the text so far with a space. -/
theorem text_foldl_push (w : Window) (added : List Line) :
    (added.foldl Window.push w).text = joinSpaced (w.text :: (added.map Line.raw).map strip) := by
  induction added generalizing w with
  | nil => exact (joinSpaced_singleton w.text).symm
  | cons l added ih =>
    rw [List.foldl_cons, ih, List.map_cons, List.map_cons, ← joinSpaced_cons_append]
    rfl

section

variable {text : Text} {first last : Nat} {w : Window} {l : Line}

theorem documentWindow?_of_drop {following : List Line}
    (hdrop : (documentLines text).drop first = l :: following) (last : Nat) :
    documentWindow? text first last = some (Window.ofLines l (following.take (last - first))) := by
  rw [documentWindow?, hdrop]

/-- Behind a line of the document stand the lines that follow it. -/
theorem drop_documentLines (hl : (documentLines text)[first]? = some l) :
    (documentLines text).drop first = l :: (documentLines text).drop (first + 1) := by
  obtain ⟨hlt, rfl⟩ := List.getElem?_eq_some_iff.mp hl
  exact List.drop_eq_getElem_cons hlt

/-- The window of one line, which nothing has been put behind. -/
theorem documentWindow?_self (hl : (documentLines text)[first]? = some l) :
    documentWindow? text first first = some (Window.ofLine l) := by
  rw [documentWindow?_of_drop (drop_documentLines hl), Nat.sub_self, List.take_zero]
  rfl

/-- **One line more.** -/
theorem documentWindow?_succ (hle : first ≤ last)
    (hw : documentWindow? text first last = some w)
    (hl : (documentLines text)[last + 1]? = some l) :
    documentWindow? text first (last + 1) = some (w.push l) := by
  have hfirst : first < (documentLines text).length := by
    obtain ⟨hlt, -⟩ := List.getElem?_eq_some_iff.mp hl
    omega
  have hdrop := drop_documentLines (List.getElem?_eq_getElem hfirst)
  rw [documentWindow?_of_drop hdrop] at hw ⊢
  have hnext : ((documentLines text).drop (first + 1))[last - first]? = some l := by
    rw [List.getElem?_drop, show first + 1 + (last - first) = last + 1 from by omega, hl]
  -- taking one line more takes that line
  have htake : ((documentLines text).drop (first + 1)).take (last + 1 - first) =
      ((documentLines text).drop (first + 1)).take (last - first) ++ [l] := by
    rw [show last + 1 - first = last - first + 1 from by omega, List.take_add_one, hnext]
    rfl
  rw [htake, Window.ofLines, List.foldl_append, ← Window.ofLines, Option.some.inj hw]
  rfl

/-- Lines of the document have a window. -/
theorem exists_documentWindow? (hle : first ≤ last) (hlast : last < (lines text).length) :
    ∃ w, documentWindow? text first last = some w ∧ w.text = windowText text first last := by
  have hfirst : first < (documentLines text).length := by
    rw [length_documentLines]
    omega
  have hdrop := drop_documentLines (List.getElem?_eq_getElem hfirst)
  refine ⟨_, documentWindow?_of_drop hdrop last, ?_⟩
  have hlines : (lines text).drop first = ((documentLines text)[first] ::
      (documentLines text).drop (first + 1)).map Line.raw := by
    rw [← hdrop, List.map_drop, map_raw_documentLines]
  rw [Window.ofLines, text_foldl_push, windowText, hlines,
    show last + 1 - first = last - first + 1 from by omega, ← List.map_take, List.take_succ_cons,
    List.map_cons, List.map_cons]
  rfl

/-- **The attribute of some lines is the one of their text.** -/
theorem map_found_locateInLines (hle : first ≤ last) (hlast : last < (lines text).length) :
    (locateInLines text first last).map Location.found =
      findAttribute (windowText text first last) := by
  obtain ⟨w, hw, htext⟩ := exists_documentWindow? hle hlast
  rw [locateInLines, hw, Option.bind_some, Window.locate?, Option.map_map, htext]
  exact Option.map_id_apply

theorem locateInLines_eq_none_iff (hle : first ≤ last) (hlast : last < (lines text).length) :
    locateInLines text first last = none ↔ findAttribute (windowText text first last) = none := by
  rw [← map_found_locateInLines hle hlast, Option.map_eq_none_iff]

end

/-! ## The two loops -/

/-- The first number of a range that has an answer: it is in the range, it has the answer, and those in
    front of it have none. -/
theorem findSome?_range'_eq_some_iff {α : Type} {f : Nat → Option α} {s n : Nat} {b : α} :
    (List.range' s n).findSome? f = some b ↔
      ∃ i, s ≤ i ∧ i < s + n ∧ f i = some b ∧ ∀ j, s ≤ j → j < i → f j = none := by
  induction n generalizing s with
  | zero =>
    rw [List.range'_zero, List.findSome?_nil]
    constructor
    · intro h
      exact absurd h (by simp)
    · rintro ⟨i, hs, hi, -, -⟩
      omega
  | succ n ih =>
    rw [List.range'_succ, List.findSome?_cons]
    -- either the range starts with an answer, or the rest of it decides
    cases hf : f s with
    | some c =>
      constructor
      · intro h
        exact ⟨s, Nat.le_refl s, by omega, hf.trans h, fun j hj hlt => by omega⟩
      · rintro ⟨i, hs, -, hi, hbefore⟩
        rcases Nat.eq_or_lt_of_le hs with rfl | hlt
        · exact hf.symm.trans hi
        · rw [hbefore s (Nat.le_refl s) hlt] at hf
          exact absurd hf (by simp)
    | none =>
      show (List.range' (s + 1) n).findSome? f = some b ↔ _
      rw [ih]
      constructor
      · rintro ⟨i, hs, hi, hfound, hbefore⟩
        refine ⟨i, by omega, by omega, hfound, fun j hj hlt => ?_⟩
        rcases Nat.eq_or_lt_of_le hj with rfl | hgt
        · exact hf
        · exact hbefore j hgt hlt
      · rintro ⟨i, hs, hi, hfound, hbefore⟩
        have hne : i ≠ s := by
          rintro rfl
          rw [hf] at hfound
          exact absurd hfound (by simp)
        exact ⟨i, by omega, by omega, hfound, fun j hj hlt => hbefore j (by omega) hlt⟩

/-- A search over a list looks at what the list holds only. -/
theorem findSome?_congr_of_mem {α β : Type} {ls : List α} {f g : α → Option β}
    (h : ∀ a ∈ ls, f a = g a) : ls.findSome? f = ls.findSome? g := by
  rw [← List.head?_filterMap, ← List.head?_filterMap, List.filterMap_congr h]

/-- **The inner loop** tries its window, the window with one more line, and so on. -/
theorem locateInWindow_eq (start count : Nat) (w : Window) (following : List Line) :
    locateInWindow start count w following =
      (List.range (following.length + 1)).findSome? fun n =>
        ((following.take n).foldl Window.push w).locate? start (count + n) := by
  induction following generalizing count w with
  | nil =>
    rw [locateInWindow, List.length_nil, List.range_one, List.findSome?_singleton]
    rfl
  | cons l following ih =>
    have hcount : ∀ n, count + 1 + n = count + (n + 1) := by
      intro n
      omega
    rw [locateInWindow, List.length_cons, List.range_succ_eq_map, List.findSome?_cons,
      List.findSome?_map, ih]
    simp only [hcount]
    rw [List.take_zero, List.foldl_nil, Nat.add_zero count]
    cases w.locate? start count with
    | none => rfl
    | some found => rfl

/-- The inner loop from one start tries the windows from there to every line up to the last. -/
theorem locateFrom_eq {text : Text} {start last : Nat} (hle : start ≤ last)
    (hlast : last < (lines text).length) :
    locateFrom (documentLines text) last start =
      (List.range' start (last - start + 1)).findSome? (locateInLines text start) := by
  rw [locateFrom]
  split
  case h_1 hdrop =>
    -- a start in the document has a line
    have hlength := congrArg List.length hdrop
    rw [List.length_drop, length_documentLines, List.length_nil] at hlength
    omega
  case h_2 l following hdrop =>
    have hlength := congrArg List.length hdrop
    rw [List.length_drop, length_documentLines, List.length_cons] at hlength
    rw [locateInWindow_eq, List.length_take, Nat.min_eq_left (by omega), List.range'_eq_map_range,
      List.findSome?_map]
    refine findSome?_congr_of_mem fun n hn => ?_
    have hle : n ≤ last - start := Nat.le_of_lt_succ (List.mem_range.mp hn)
    rw [Function.comp_apply, locateInLines, documentWindow?_of_drop hdrop, Option.bind_some,
      List.take_take, Nat.min_eq_left hle, Nat.add_sub_cancel_left, Nat.add_comm 1 n]
    rfl

/-! ## Reach and order -/

/-- The lines from `first` to `last` are within reach of the requested line. -/
structure InReach (text : Text) (requested : Int) (lookaround first last : Nat) : Prop where
  top : max 0 (requested - lookaround) ≤ first
  start : (first : Int) ≤ requested
  ordered : first ≤ last
  bottom : (last : Int) ≤ min ((lines text).length - 1 : Int) (requested + lookaround)

/-- The order in which windows are tried. -/
def TriedBefore (first last first' last' : Nat) : Prop :=
  first < first' ∨ first = first' ∧ last < last'

section

variable {text : Text} {requested : Int} {lookaround first last : Nat} {found : Location}

theorem InReach.lt_length (h : InReach text requested lookaround first last) :
    last < (lines text).length := by
  have hbottom := h.bottom
  omega

/-- More lines to look around in bring more windows into reach, and lose none. -/
theorem InReach.mono (h : InReach text requested lookaround first last) {more : Nat}
    (hmore : lookaround ≤ more) : InReach text requested more first last := by
  obtain ⟨htop, hstart, hordered, hbottom⟩ := h
  exact ⟨by omega, hstart, hordered, by omega⟩

/-- The starts and the last line of the two loops are those of the windows in reach. -/
theorem inReach_iff :
    InReach text requested lookaround first last ↔
      first ∈ windowStarts (documentLines text).length lookaround requested ∧ first ≤ last ∧
        last ≤ windowLast (documentLines text).length lookaround requested := by
  have hpos : 0 < (lines text).length := List.length_pos_iff.mpr (lines_ne_nil text)
  rw [windowStarts, List.mem_range'_1, windowLast, length_documentLines]
  constructor
  · rintro ⟨htop, hstart, hordered, hbottom⟩
    omega
  · rintro ⟨hfirst, hordered, hlast⟩
    exact ⟨by omega, by omega, hordered, by omega⟩

/-- A start in reach is a window in reach by itself, and the last line of the loops ends one. -/
theorem inReach_windowLast
    (hfirst : first ∈ windowStarts (documentLines text).length lookaround requested) :
    InReach text requested lookaround first
      (windowLast (documentLines text).length lookaround requested) := by
  have hpos : 0 < (lines text).length := List.length_pos_iff.mpr (lines_ne_nil text)
  refine inReach_iff.mpr ⟨hfirst, ?_, Nat.le_refl _⟩
  rw [windowStarts, List.mem_range'_1, length_documentLines] at hfirst
  rw [windowLast, length_documentLines]
  omega

/-- From a start in reach the inner loop finds nothing exactly if no window in reach with that start has
    an attribute. -/
theorem locateFrom_eq_none_iff
    (hfirst : first ∈ windowStarts (documentLines text).length lookaround requested) :
    locateFrom (documentLines text)
        (windowLast (documentLines text).length lookaround requested) first = none ↔
      ∀ last, InReach text requested lookaround first last →
        locateInLines text first last = none := by
  have hreach := inReach_windowLast hfirst
  have hordered := hreach.ordered
  rw [locateFrom_eq hordered hreach.lt_length, List.findSome?_eq_none_iff]
  refine forall_congr' fun last => ?_
  rw [List.mem_range'_1, inReach_iff]
  constructor
  · rintro h ⟨-, hle, hlast⟩
    exact h ⟨hle, by omega⟩
  · rintro h ⟨hle, hlast⟩
    exact h ⟨hfirst, hle, by omega⟩

/-- And otherwise it finds the attribute of the shortest of these windows that has one. -/
theorem locateFrom_eq_some_iff
    (hfirst : first ∈ windowStarts (documentLines text).length lookaround requested) :
    locateFrom (documentLines text)
        (windowLast (documentLines text).length lookaround requested) first = some found ↔
      ∃ last, InReach text requested lookaround first last ∧
        locateInLines text first last = some found ∧
        ∀ last', InReach text requested lookaround first last' → last' < last →
          locateInLines text first last' = none := by
  have hreach := inReach_windowLast hfirst
  have hordered := hreach.ordered
  rw [locateFrom_eq hordered hreach.lt_length, findSome?_range'_eq_some_iff]
  refine exists_congr fun last => ?_
  constructor
  · rintro ⟨hle, hlast, hfound, hbefore⟩
    exact ⟨inReach_iff.mpr ⟨hfirst, hle, by omega⟩, hfound,
      fun last' hreach' hlt => hbefore last' hreach'.ordered hlt⟩
  · rintro ⟨hlast, hfound, hbefore⟩
    obtain ⟨-, hle, hmost⟩ := inReach_iff.mp hlast
    exact ⟨hle, by omega, hfound, fun last' hle' hlt =>
      hbefore last' (inReach_iff.mpr ⟨hfirst, hle', by omega⟩) hlt⟩

/-- **Nothing is found around a line** exactly if no window in reach has an attribute. -/
theorem locateAround_eq_none_iff :
    locateAround text requested lookaround = none ↔
      ∀ first last, InReach text requested lookaround first last →
        locateInLines text first last = none := by
  rw [locateAround, List.findSome?_eq_none_iff]
  constructor
  · intro h first last hreach
    have hfirst := (inReach_iff.mp hreach).1
    exact (locateFrom_eq_none_iff hfirst).mp (h first hfirst) last hreach
  · intro h first hfirst
    exact (locateFrom_eq_none_iff hfirst).mpr fun last hreach => h first last hreach

/-- **What is found around a line** is the attribute of the first window in reach that has one. -/
theorem locateAround_eq_some_iff :
    locateAround text requested lookaround = some found ↔
      ∃ first last, InReach text requested lookaround first last ∧
        locateInLines text first last = some found ∧
        ∀ first' last', InReach text requested lookaround first' last' →
          TriedBefore first' last' first last → locateInLines text first' last' = none := by
  show (List.range' _ _).findSome? _ = some found ↔ _
  rw [findSome?_range'_eq_some_iff]
  constructor
  · rintro ⟨first, hlow, hhigh, hfrom, hbefore⟩
    have hfirst : first ∈ windowStarts (documentLines text).length lookaround requested :=
      List.mem_range'_1.mpr ⟨hlow, hhigh⟩
    obtain ⟨last, hreach, hfound, hshorter⟩ := (locateFrom_eq_some_iff hfirst).mp hfrom
    refine ⟨first, last, hreach, hfound, fun first' last' hreach' htried => ?_⟩
    rcases htried with hlt | ⟨rfl, hlt⟩
    · have hfirst' := (inReach_iff.mp hreach').1
      exact (locateFrom_eq_none_iff hfirst').mp
        (hbefore first' (List.mem_range'_1.mp hfirst').1 hlt) last' hreach'
    · exact hshorter last' hreach' hlt
  · rintro ⟨first, last, hreach, hfound, hbefore⟩
    have hfirst := (inReach_iff.mp hreach).1
    obtain ⟨hlow, hhigh⟩ := List.mem_range'_1.mp hfirst
    refine ⟨first, hlow, hhigh, (locateFrom_eq_some_iff hfirst).mpr ⟨last, hreach, hfound,
      fun last' hreach' hlt => hbefore first last' hreach' (Or.inr ⟨rfl, hlt⟩)⟩, ?_⟩
    intro first' hlow' hlt
    have hfirst' : first' ∈ windowStarts (documentLines text).length lookaround requested :=
      List.mem_range'_1.mpr ⟨hlow', by omega⟩
    exact (locateFrom_eq_none_iff hfirst').mpr fun last' hreach' =>
      hbefore first' last' hreach' (Or.inl hlt)

end

end ClassLift
