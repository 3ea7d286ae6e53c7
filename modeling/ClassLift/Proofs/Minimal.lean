/-
  The located window is the smallest one, and it is bounded.

  1. **Which line an offset lies on** is told by the line feeds in front of it (`lineAt`).  Every line
     of a document starts at its own offset and ends before the next one, so an offset inside a line
     lies on that line (`lineAt_lineOffset_add`).

  2. **A new line is needed.**  Whatever occurs in a window occurs in the window with one more line, at
     the same place.  So if the longer window has an attribute and the shorter one has none, the
     attribute cannot end in the shorter one: its value reaches into the NEW line
     (`length_lt_valueEnd`).  A closer of two characters makes no exception, because the joining space
     would stand between them.

  3. **Places.**  Hence the closing delimiter of what the search finds lies on the last line of its
     window (`lineAt_documentEnd`), and the value starts on the first line or below.

  4. **Bounds and order** are those of the windows in reach (`InReach`, `TriedBefore`).
-/
import ClassLift.Proofs.Choice
import ClassLift.Proofs.Reach
import ClassLift.Proofs.Trimming

namespace ClassLift

/-! ## Which line an offset lies on -/

/-- The line on which an offset of a text lies, counted from zero; a line feed lies on the line that it
    ends. -/
def lineAt (text : Text) (offset : Nat) : Nat := (text.take offset).count '\n'

section

variable {text l : Text} {n : Nat}

/-- **An offset inside a line lies on that line.** -/
theorem lineAt_lineOffset_add (hl : (lines text)[n]? = some l) {k : Nat} (hk : k ≤ l.length) :
    lineAt text (lineOffset text n + k) = n := by
  obtain ⟨hn, -⟩ := List.getElem?_eq_some_iff.mp hl
  have hsplit := congrArg (List.take (lineOffset text n + k)) (text_split hl)
  have habove : ∀ m ∈ (lines text).take n, '\n' ∉ m := fun m hm =>
    not_mem_of_mem_lines (List.mem_of_mem_take hm)
  have hinside : '\n' ∉ l.take k := fun hm =>
    not_mem_of_getElem?_lines hl (List.mem_of_mem_take hm)
  rw [lineAt, hsplit, lineOffset, List.take_length_add_append, List.take_append_of_le_length hk,
    List.count_append, count_endLines habove, List.count_eq_zero_of_not_mem hinside,
    List.length_take, Nat.add_zero, Nat.min_eq_left (Nat.le_of_lt hn)]

/-- A text has the lines of every text that it starts with. -/
theorem count_lt_length_lines (front rest : Text) :
    front.count '\n' < (lines (front ++ rest)).length := by
  rw [length_lines, List.count_append]
  omega

end

/-! ## A new line is needed -/

section

variable {a : Attribute} {w t : Text}

/-- What occurs in a text occurs in every text that goes on behind it. -/
theorem Attribute.OccursIn.append (h : a.OccursIn w) (t : Text) :
    (a.between [] t).OccursIn (w ++ t) where
  line_eq := by rw [Attribute.line_between, h.line_eq, List.nil_append]
  header := h.header
  free := h.free
  allowed := h.allowed

/-- **An occurrence whose value ends in front of a space occurs in the text up to that space.** -/
theorem Attribute.OccursIn.of_append (h : a.OccursIn (w ++ ' ' :: t))
    (hle : a.valueEnd ≤ w.length) :
    ∃ b : Attribute, a = b.between [] (' ' :: t) ∧ b.OccursIn w := by
  have hsplit : (a.before ++ a.header ++ a.raw) ++ (a.form.closer ++ a.after) = w ++ ' ' :: t := by
    rw [← h.line_eq, Attribute.line]
    simp only [List.append_assoc]
  -- the value ends in front of the space; what is left in front of it holds the closer
  obtain ⟨rest, hw, hclose⟩ : ∃ rest, w = (a.before ++ a.header ++ a.raw) ++ rest ∧
      a.form.closer ++ a.after = rest ++ ' ' :: t := by
    rcases List.append_eq_append_iff.mp hsplit with ⟨rest, hw, hrest⟩ | ⟨overlap, hover, hrest⟩
    · exact ⟨rest, hw, hrest⟩
    · have hlength := congrArg List.length hover
      rw [List.length_append, List.length_append, List.length_append] at hlength
      have hnil : overlap = [] := by
        rw [Attribute.valueEnd, Attribute.valueStart] at hle
        exact List.length_eq_zero_iff.mp (by omega)
      rw [hnil, List.append_nil] at hover
      rw [hnil, List.nil_append] at hrest
      exact ⟨[], by rw [hover, List.append_nil], hrest.symm⟩
  obtain ⟨after, hrest, hafter⟩ : ∃ after, rest = a.form.closer ++ after ∧
      a.after = after ++ ' ' :: t := by
    rcases List.append_eq_append_iff.mp hclose with ⟨after, hrest, hafter⟩ | ⟨overlap, hover, hrest⟩
    · exact ⟨after, hrest, hafter⟩
    · cases overlap with
      | nil =>
        rw [List.append_nil] at hover
        exact ⟨[], by rw [hover, List.append_nil], hrest.symm⟩
      | cons c overlap =>
        -- the closer would hold the space
        obtain ⟨rfl, -⟩ := List.cons.inj hrest
        have hsolid : isBlank ' ' = false := by
          refine isBlank_of_mem_closer (f := a.form) ' ' ?_
          rw [hover]
          exact List.mem_append_right rest List.mem_cons_self
        exact absurd hsolid (by decide)
  refine ⟨{ a with after := after }, ?_, ?_, h.header, h.free, h.allowed⟩
  · rw [Attribute.between, List.nil_append, ← hafter]
  · rw [hw, hrest, Attribute.line, ← List.append_assoc]

/-- **The attribute that a new line brings reaches into that line.** -/
theorem length_lt_valueEnd (hnone : findAttribute w = none)
    (ha : findAttribute (w ++ ' ' :: t) = some a) : w.length < a.valueEnd := by
  by_contra hle
  obtain ⟨hleft, hvalue, -⟩ := findAttribute_eq_some_iff.mp ha
  obtain ⟨b, rfl, hb⟩ := hleft.occurs.of_append (Nat.le_of_not_lt hle)
  refine hvalue (findAttribute_eq_none_iff.mp hnone b ⟨hb, fun c hform hc => ?_⟩)
  exact hleft.first (c.between [] (' ' :: t)) hform (hc.append (' ' :: t))

end

/-! ## Places of a window -/

section

variable {text : Text} {first last n : Nat} {w : Window} {l : Line} {found : Location}

theorem exists_line (hn : n < (lines text).length) : ∃ l, (documentLines text)[n]? = some l :=
  ⟨_, List.getElem?_eq_getElem (by rwa [length_documentLines])⟩

/-- An offset in the trimmed text of a line lies on that line. -/
theorem lineAt_trimmed (hl : (documentLines text)[n]? = some l) (k : Nat) :
    lineAt text (l.offset + leadingBlanks l.raw + min k (strip l.raw).length) = n := by
  obtain ⟨hraw, hoffset⟩ := line_of_getElem?_documentLines hl
  obtain ⟨leading, trailing, -, -, hlength, hsplit⟩ := exists_strip_split l.raw
  have hwhole := congrArg List.length hsplit
  rw [List.length_append, List.length_append, hlength] at hwhole
  rw [hoffset, Nat.add_assoc]
  exact lineAt_lineOffset_add hraw (by omega)

/-- A window of one line lies on that line. -/
theorem lineAt_toDocument_ofLine (hl : (documentLines text)[n]? = some l) (o : Nat) :
    lineAt text ((Window.ofLine l).toDocument o) = n := by
  rw [Window.toDocument_ofLine]
  exact lineAt_trimmed hl o

/-- What a line adds to a window lies on that line. -/
theorem lineAt_toDocument_push (hl : (documentLines text)[n]? = some l) {o : Nat}
    (ho : w.text.length < o) : lineAt text ((w.push l).toDocument o) = n := by
  rw [Window.toDocument_push, if_pos (Nat.succ_le_of_lt ho)]
  exact lineAt_trimmed hl _

/-- Every place of a window lies on its first line or below; by induction on the lines. -/
theorem le_lineAt_toDocument (hle : first ≤ last) (hlast : last < (lines text).length)
    (hw : documentWindow? text first last = some w) (o : Nat) :
    first ≤ lineAt text (w.toDocument o) := by
  induction last, hle using Nat.le_induction generalizing w with
  | base =>
    obtain ⟨l, hl⟩ := exists_line hlast
    rw [documentWindow?_self hl] at hw
    rw [← Option.some.inj hw, lineAt_toDocument_ofLine hl]
  | succ last hle ih =>
    obtain ⟨l, hl⟩ := exists_line hlast
    obtain ⟨shorter, hshorter, -⟩ := exists_documentWindow? hle (Nat.lt_of_succ_lt hlast)
    rw [documentWindow?_succ hle hshorter hl] at hw
    obtain rfl := Option.some.inj hw
    by_cases ho : shorter.text.length < o
    · rw [lineAt_toDocument_push hl ho]
      omega
    · rw [Window.toDocument_push, if_neg (by omega)]
      exact ih (Nat.lt_of_succ_lt hlast) hshorter

/-! ## Places of what is found -/

/-- The last line of the window of a location. -/
def Location.lastLine (found : Location) : Nat := found.lineIndex + found.lineCount - 1

/-- What is found in some lines names these lines. -/
theorem locateInLines_lines (hle : first ≤ last) (h : locateInLines text first last = some found) :
    found.lineIndex = first ∧ 1 ≤ found.lineCount ∧ found.lastLine = last := by
  obtain ⟨w, -, hfound⟩ := Option.bind_eq_some_iff.mp h
  obtain ⟨a, -, rfl⟩ := Option.map_eq_some_iff.mp hfound
  refine ⟨rfl, Nat.succ_le_succ (Nat.zero_le _), ?_⟩
  show first + (last - first + 1) - 1 = last
  omega

/-- The value starts on the first line of the window or below. -/
theorem le_lineAt_documentStart (hle : first ≤ last) (hlast : last < (lines text).length)
    (h : locateInLines text first last = some found) :
    first ≤ lineAt text found.documentStart := by
  obtain ⟨w, hw, hfound⟩ := Option.bind_eq_some_iff.mp h
  obtain ⟨a, -, rfl⟩ := Option.map_eq_some_iff.mp hfound
  exact le_lineAt_toDocument hle hlast hw a.valueStart

/-- **The value ends on the last line** of the window, if no shorter window with that start has an
    attribute. -/
theorem lineAt_documentEnd (hle : first ≤ last) (hlast : last < (lines text).length)
    (h : locateInLines text first last = some found)
    (hshorter : ∀ last', first ≤ last' → last' < last → locateInLines text first last' = none) :
    lineAt text found.documentEnd = last := by
  obtain ⟨w, hw, hfound⟩ := Option.bind_eq_some_iff.mp h
  obtain ⟨a, ha, rfl⟩ := Option.map_eq_some_iff.mp hfound
  show lineAt text (w.toDocument a.valueEnd) = last
  obtain ⟨l, hl⟩ := exists_line hlast
  rcases Nat.eq_or_lt_of_le hle with rfl | hlt
  · rw [documentWindow?_self hl] at hw
    rw [← Option.some.inj hw, lineAt_toDocument_ofLine hl]
  · obtain ⟨before, rfl⟩ : ∃ before, last = before + 1 := ⟨last - 1, by omega⟩
    have hbefore : first ≤ before := Nat.le_of_lt_succ hlt
    obtain ⟨v, hv, htext⟩ := exists_documentWindow? hbefore (Nat.lt_of_succ_lt hlast)
    rw [documentWindow?_succ hbefore hv hl] at hw
    obtain rfl := Option.some.inj hw
    -- the window without the last line has no attribute
    have hnone : findAttribute v.text = none := by
      rw [htext, ← locateInLines_eq_none_iff hbefore (Nat.lt_of_succ_lt hlast)]
      exact hshorter before hbefore (Nat.lt_succ_self before)
    exact lineAt_toDocument_push hl (length_lt_valueEnd hnone ha)

end

/-! ## The search -/

section

variable {text : Text} {requested : Int} {lookaround : Nat} {found : Location}

/-- The requested line has no attribute of its own. -/
def NoneOnLine (text : Text) (requested : Int) : Prop :=
  ∀ (n : Nat) (l : Text), requested = n → (lines text)[n]? = some l → findAttribute l = none

/-- On the requested line nothing is found exactly if it has no attribute of its own. -/
theorem locateExactly_eq_none_iff :
    locateExactly text requested = none ↔ NoneOnLine text requested := by
  constructor
  · rintro h n l rfl hl
    cases ha : findAttribute l with
    | none => rfl
    | some a =>
      have hline : (documentLines text)[n]? = some ⟨lineOffset text n, l⟩ := by
        rw [getElem?_documentLines, hl]
        rfl
      rw [locateExactly, if_neg (by omega), Int.toNat_natCast, hline, Option.bind_some,
        locateOnLine, ha] at h
      exact absurd h (by simp)
  · intro h
    rw [locateExactly]
    split
    case isTrue => rfl
    case isFalse hnonneg =>
      rw [Option.bind_eq_none_iff]
      intro l hl
      obtain ⟨hraw, -⟩ := line_of_getElem?_documentLines hl
      rw [locateOnLine, h requested.toNat l.raw (by omega) hraw]
      rfl

/-- A line with an attribute of its own is in reach. -/
theorem inReach_self {n : Nat} {l : Text} (hl : (lines text)[n]? = some l) (lookaround : Nat) :
    InReach text n lookaround n n := by
  obtain ⟨hn, -⟩ := List.getElem?_eq_some_iff.mp hl
  exact ⟨by omega, Int.le_refl _, Nat.le_refl n, by omega⟩

/-- A line with an attribute of its own is answered with that one, everything else from around it. -/
theorem locate_cases (text : Text) (requested : Int) (lookaround : Nat) :
    (∃ (n : Nat) (l : Text) (a : Attribute), requested = n ∧ (lines text)[n]? = some l ∧
      findAttribute l = some a) ∨
    (NoneOnLine text requested ∧
      locate text requested lookaround = locateAround text requested lookaround) := by
  cases h : locateExactly text requested with
  | none => exact Or.inr ⟨locateExactly_eq_none_iff.mp h, by rw [locate, h, Option.none_or]⟩
  | some found =>
    have hnot : ¬NoneOnLine text requested := by
      intro hnone
      rw [locateExactly_eq_none_iff.mpr hnone] at h
      exact absurd h (by simp)
    simp only [NoneOnLine, not_forall] at hnot
    obtain ⟨n, l, hline, hl, ha⟩ := hnot
    obtain ⟨a, ha⟩ := Option.ne_none_iff_exists'.mp ha
    exact Or.inl ⟨n, l, a, hline, hl, ha⟩

/-- What is located lies in the smallest window, and that one is in reach. -/
structure Location.IsSmallest (found : Location) (text : Text) (requested : Int)
    (lookaround : Nat) : Prop where
  count : 1 ≤ found.lineCount
  reach : InReach text requested lookaround found.lineIndex found.lastLine
  /-- The value starts on the first line of the window or below. -/
  opened : found.lineIndex ≤ lineAt text found.documentStart
  /-- The closing delimiter lies on the last line of the window. -/
  closed : text[found.documentEnd]? = some found.found.form.delimiter ∧
    lineAt text found.documentEnd = found.lastLine
  /-- Where the requested line has no attribute of its own, it is that of the window. -/
  shown : NoneOnLine text requested →
    locateInLines text found.lineIndex found.lastLine = some found
  /-- And no window that is tried before has an attribute. -/
  first : NoneOnLine text requested → ∀ first last, InReach text requested lookaround first last →
    TriedBefore first last found.lineIndex found.lastLine →
    findAttribute (windowText text first last) = none
  /-- The first line of the window is there whatever takes the place of the value. -/
  stays : ∀ value, found.lineIndex < (lines (found.replaceIn text value)).length

/-- The line at which the window starts survives every edit of the value. -/
theorem lineIndex_lt_of_le (h : found.lineIndex ≤ lineAt text found.documentStart) (value : Text) :
    found.lineIndex < (lines (found.replaceIn text value)).length := by
  rw [Location.replaceIn, List.append_assoc]
  exact Nat.lt_of_le_of_lt h (count_lt_length_lines _ _)

/-- **What is located is located in the smallest window.** -/
theorem isSmallest_of_locate (h : locate text requested lookaround = some found) :
    found.IsSmallest text requested lookaround := by
  obtain ⟨-, -, -, -, hdelimiter⟩ := bounds_of_locate h
  rcases locate_cases text requested lookaround with
    ⟨n, l, a, rfl, hl, ha⟩ | ⟨-, haround⟩
  · -- on the requested line, which is a window by itself
    rw [locate_of_line hl ha] at h
    obtain rfl := Option.some.inj h
    have hbounds := (findAttribute_occursIn ha).1.bounds
    have hopened : lineAt text (lineOffset text n + a.valueStart) = n :=
      lineAt_lineOffset_add hl (by omega)
    have hclosed : lineAt text (lineOffset text n + a.valueEnd) = n :=
      lineAt_lineOffset_add hl (by omega)
    have hown : ¬NoneOnLine text n := by
      intro hnone
      rw [hnone n l rfl hl] at ha
      exact absurd ha (by simp)
    exact ⟨Nat.le_refl 1, inReach_self hl lookaround, Nat.le_of_eq hopened.symm,
      ⟨hdelimiter, hclosed⟩, fun hnone => absurd hnone hown, fun hnone => absurd hnone hown,
      lineIndex_lt_of_le (Nat.le_of_eq hopened.symm)⟩
  · rw [haround, locateAround_eq_some_iff] at h
    obtain ⟨first, last, hreach, hfound, hbefore⟩ := h
    have hlast := hreach.lt_length
    obtain ⟨hfirst, hcount, hlines⟩ := locateInLines_lines hreach.ordered hfound
    have hopened := le_lineAt_documentStart hreach.ordered hlast hfound
    have hclosed := lineAt_documentEnd hreach.ordered hlast hfound fun last' hle hlt => by
      obtain ⟨htop, hstart, -, hbottom⟩ := hreach
      exact hbefore first last' ⟨htop, hstart, hle, by omega⟩ (Or.inr ⟨rfl, hlt⟩)
    subst hfirst
    subst hlines
    refine ⟨hcount, hreach, hopened, ⟨hdelimiter, hclosed⟩, fun _ => hfound,
      fun _ first' last' hreach' htried => ?_, lineIndex_lt_of_le hopened⟩
    rw [← locateInLines_eq_none_iff hreach'.ordered hreach'.lt_length]
    exact hbefore first' last' hreach' htried

/-- **Nothing is located** exactly if neither the line nor a window in reach has an attribute. -/
theorem locate_eq_none_iff :
    locate text requested lookaround = none ↔ NoneOnLine text requested ∧
      ∀ first last, InReach text requested lookaround first last →
        findAttribute (windowText text first last) = none := by
  have hwindows : locateAround text requested lookaround = none ↔
      ∀ first last, InReach text requested lookaround first last →
        findAttribute (windowText text first last) = none := by
    rw [locateAround_eq_none_iff]
    refine forall_congr' fun first => forall_congr' fun last => imp_congr_right fun hreach => ?_
    exact locateInLines_eq_none_iff hreach.ordered hreach.lt_length
  rw [locate, Option.or_eq_none_iff, locateExactly_eq_none_iff, hwindows]

end

/-- **The located window is the smallest one, and it is bounded.**

    * What is located comes from a window in reach of the requested line, such that none that is tried
      before has an attribute; its value starts in the window and is closed on the last line of it.
    * Nothing is located only if there is nothing, on the line or in a window in reach.
    * Every window that is tried is made of lines that the document has.
    * More lines to look around in never lose what was located. -/
theorem located_window_smallest (text : Text) (requested : Int) (lookaround : Nat) :
    (∀ found, locate text requested lookaround = some found →
      found.IsSmallest text requested lookaround) ∧
    (locate text requested lookaround = none ↔ NoneOnLine text requested ∧
      ∀ first last, InReach text requested lookaround first last →
        findAttribute (windowText text first last) = none) ∧
    (∀ first ∈ windowStarts (documentLines text).length lookaround requested, ∀ n, first ≤ n →
      n ≤ windowLast (documentLines text).length lookaround requested →
      ∃ l, (documentLines text)[n]? = some l ∧ l.offset = lineOffset text n) ∧
    (∀ more, lookaround ≤ more → locate text requested lookaround ≠ none →
      locate text requested more ≠ none) := by
  refine ⟨fun found => isSmallest_of_locate, locate_eq_none_iff, ?_, ?_⟩
  · intro first hfirst n hle hlast
    have hreach := inReach_iff.mpr ⟨hfirst, hle, hlast⟩
    obtain ⟨l, hl⟩ := exists_line hreach.lt_length
    exact ⟨l, hl, (line_of_getElem?_documentLines hl).2⟩
  · intro more hmore hsome hnone
    obtain ⟨hline, hwindows⟩ := locate_eq_none_iff.mp hnone
    refine hsome (locate_eq_none_iff.mpr ⟨hline, fun first last hreach => ?_⟩)
    exact hwindows first last (hreach.mono hmore)

/-- The wrapped attribute is located in the lines 1 to 6, from line 5 with 4 lines to look around in;
    with none to look around in nothing is. -/
theorem located_window_smallest_wrapped :
    (∃ found, locate wrappedMarkup 5 4 = some found ∧ found.lineIndex = 1 ∧ found.lastLine = 6 ∧
      found.IsSmallest wrappedMarkup 5 4) ∧
    locate wrappedMarkup 5 4 ≠ none ∧ locate wrappedMarkup 5 9 ≠ none ∧
    findAttribute (windowText wrappedMarkup 5 5) = none := by
  obtain ⟨hsmallest, -, -, hmore⟩ := located_window_smallest wrappedMarkup 5 4
  obtain ⟨-, hnone, -, -⟩ := located_window_smallest wrappedMarkup 5 0
  have hlines : (locate wrappedMarkup 5 4).map (fun found => (found.lineIndex, found.lastLine)) =
      some (1, 6) := by
    decide +kernel
  obtain ⟨found, hfound, hplace⟩ := Option.map_eq_some_iff.mp hlines
  obtain ⟨hfirst, hlast⟩ := Prod.mk.inj hplace
  have hsome : locate wrappedMarkup 5 4 ≠ none := by
    rw [hfound]
    exact Option.some_ne_none found
  have halone : InReach wrappedMarkup 5 0 5 5 := ⟨by decide, by decide, by decide, by decide +kernel⟩
  exact ⟨⟨found, hfound, hfirst, hlast, hsmallest found hfound⟩, hsome, hmore 9 (by decide) hsome,
    (hnone.mp (by decide +kernel)).2 5 5 halone⟩

end ClassLift
