/-
  Locations are true: what is located is an attribute of the document, at the place that is given.

  1. **Inversion.**  A location comes from the requested line itself, or from a window of one line
     and some lines that follow it (`locate_eq_some`).  What the search loops over is spent here, and
     nothing below looks into the loops again.

  2. **Reading.**  Either way the attribute was found in a line that is read off the document, and the
     ends of the location are the places of the ends of its value (`locate_reads`).  Occurrences
     carry over from such a line, hence the attribute occurs in the document (`locate_occurs`).

  3. **The span.**  So the form that found the attribute matches the document itself, line feeds and
     indentation included, with exactly the located span as its value.
-/
import ClassLift.Proofs.Windows

namespace ClassLift

/-! ## How something is located -/

/-- The search through the growing windows answers with the attribute of one of them. -/
theorem locateInWindow_eq_some {start count : Nat} {w : Window} {following : List Line}
    {found : Location} (h : locateInWindow start count w following = some found) :
    ∃ n ≤ following.length,
      ((following.take n).foldl Window.push w).locate? start (count + n) = some found := by
  induction following generalizing count w with
  | nil => exact ⟨0, Nat.le_refl 0, h⟩
  | cons l following ih =>
    rw [locateInWindow] at h
    rcases Option.or_eq_some_iff.mp h with hhere | ⟨-, hlater⟩
    · exact ⟨0, Nat.zero_le _, hhere⟩
    · obtain ⟨n, hn, hfound⟩ := ih hlater
      refine ⟨n + 1, Nat.succ_le_succ hn, ?_⟩
      rwa [Nat.add_assoc, Nat.add_comm 1 n] at hfound

/-- The search from one start answers with the attribute of a window of that line and some lines
    that follow it, none of them below `last`. -/
theorem locateFrom_eq_some {all : List Line} {last start : Nat} {found : Location}
    (h : locateFrom all last start = some found) :
    ∃ l added below, all.drop start = l :: (added ++ below) ∧ added.length ≤ last - start ∧
      (Window.ofLines l added).locate? start (added.length + 1) = some found := by
  rw [locateFrom] at h
  split at h
  case h_1 => exact absurd h (by simp)
  case h_2 l following hdrop =>
    obtain ⟨n, hn, hfound⟩ := locateInWindow_eq_some h
    rw [List.length_take] at hn
    refine ⟨l, following.take n, following.drop n, ?_, ?_, ?_⟩
    · rw [hdrop, List.take_append_drop]
    · rw [List.length_take]
      omega
    · rw [List.take_take, Nat.min_eq_left (by omega)] at hfound
      rwa [Window.ofLines, List.length_take, Nat.min_eq_left (by omega), Nat.add_comm n 1]

/-- **How something is located**: on the requested line, or in a window. -/
theorem locate_eq_some {text : Text} {requested : Int} {lookaround : Nat} {found : Location}
    (h : locate text requested lookaround = some found) :
    (∃ l, (documentLines text)[requested.toNat]? = some l ∧
      locateOnLine requested.toNat l = some found) ∨
    ∃ start l added below, (documentLines text).drop start = l :: (added ++ below) ∧
      (Window.ofLines l added).locate? start (added.length + 1) = some found := by
  rcases Option.or_eq_some_iff.mp h with hexact | ⟨-, haround⟩
  · rw [locateExactly] at hexact
    split at hexact
    case isTrue => exact absurd hexact (by simp)
    case isFalse =>
      obtain ⟨l, hl, hfound⟩ := Option.bind_eq_some_iff.mp hexact
      exact Or.inl ⟨l, hl, hfound⟩
  · obtain ⟨start, -, hfrom⟩ := List.exists_of_findSome?_eq_some haround
    obtain ⟨l, added, below, hdrop, -, hfound⟩ := locateFrom_eq_some hfrom
    exact Or.inr ⟨start, l, added, below, hdrop, hfound⟩

/-! ## Where it lies in the document -/

/-- **What is located is read off the document**: the attribute is the one of a line that is read off
    it, and the ends of the location are the places of the ends of its value. -/
theorem locate_reads {text : Text} {requested : Int} {lookaround : Nat} {found : Location}
    (h : locate text requested lookaround = some found) :
    ∃ before ps after line place, ReadsOff text before ps after line place ∧
      findAttribute line = some found.found ∧
      found.documentStart = place found.found.valueStart ∧
      found.documentEnd = place found.found.valueEnd := by
  rcases locate_eq_some h with ⟨l, hl, hfound⟩ | ⟨start, l, added, below, hdrop, hfound⟩
  · -- on the requested line, which is read off the document as it is
    obtain ⟨above, below, hsplit⟩ := List.append_of_mem (List.mem_of_getElem? hl)
    obtain ⟨before, following, htext, hoffset, hends, -⟩ := documentLines_split hsplit
    obtain ⟨a, ha, rfl⟩ := Option.map_eq_some_iff.mp hfound
    refine ⟨_, _, _, _, _, htext ▸ readsOff_line hends, ha, ?_, ?_⟩
    · rw [hoffset]
    · rw [hoffset]
  · -- in a window, which is read off the document by the pieces that it covers
    have hsplit : documentLines text =
        (documentLines text).take start ++ l :: (added ++ below) := by
      rw [← hdrop, List.take_append_drop]
    obtain ⟨before, ps, trailing, following, -, hreads, -⟩ := Window.covers_ofLines hsplit
    obtain ⟨a, ha, rfl⟩ := Option.map_eq_some_iff.mp hfound
    exact ⟨_, _, _, _, _, hreads, ha, rfl, rfl⟩

/-- **What is located occurs in the document**, in the form in which it was found and with the same
    tokens; the span is its value as written. -/
theorem locate_occurs {text : Text} {requested : Int} {lookaround : Nat} {found : Location}
    (h : locate text requested lookaround = some found) :
    ∃ a : Attribute, a.form = found.found.form ∧ a.OccursIn text ∧
      a.valueStart = found.documentStart ∧ a.valueEnd = found.documentEnd ∧
      a.raw = found.span text ∧ tokenize (found.span text) = tokenize found.found.value := by
  obtain ⟨before, ps, after, line, place, hreads, hfound, hstart, hend⟩ := locate_reads h
  obtain ⟨a, hform, ha, haStart, haEnd, htokens⟩ :=
    hreads.occurs (findAttribute_occursIn hfound).1
  have hspan : found.span text = a.raw := by
    rw [Location.span, hstart, hend, ← haStart, ← haEnd]
    exact ha.span_eq
  refine ⟨a, hform, ha, haStart.trans hstart.symm, haEnd.trans hend.symm, hspan.symm, ?_⟩
  rw [hspan, htokens, Attribute.value, tokenize_strip]

/-- **The span lies strictly inside the document**, between the delimiters of its form. -/
theorem bounds_of_locate {text : Text} {requested : Int} {lookaround : Nat} {found : Location}
    (h : locate text requested lookaround = some found) :
    0 < found.documentStart ∧ found.documentStart ≤ found.documentEnd ∧
      found.documentEnd < text.length ∧
      text[found.documentStart - 1]? = some found.found.form.delimiter ∧
      text[found.documentEnd]? = some found.found.form.delimiter := by
  obtain ⟨a, hform, ha, hstart, hend, -⟩ := locate_occurs h
  rw [← hform, ← hstart, ← hend]
  exact ha.bounds

/-! ## The located span -/

/-- **A located span is the value of a real attribute.**  The form that found the attribute matches
    the document with exactly this span as its value: the span lies strictly inside the document,
    between the delimiters that open and close the value, and has the tokens that were found.  The
    search for the form, run on the document at that place, finds the same span. -/
theorem located_span_matches {text : Text} {requested : Int} {lookaround : Nat} {found : Location}
    (h : locate text requested lookaround = some found) :
    (∃ start,
      found.found.form.MatchesAt text start found.documentStart found.documentEnd) ∧
    0 < found.documentStart ∧ found.documentStart ≤ found.documentEnd ∧
    found.documentEnd < text.length ∧
    text[found.documentStart - 1]? = some found.found.form.delimiter ∧
    text[found.documentEnd]? = some found.found.form.delimiter ∧
    tokenize (found.span text) = tokenize found.found.value ∧
    ∃ start b, found.found.form.mayFollow (text.take start).getLast? = true ∧
      found.found.form.atStart? (text.drop start) = some b ∧
      start + b.valueStart = found.documentStart ∧ start + b.valueEnd = found.documentEnd := by
  obtain ⟨a, hform, ha, hstart, hend, -, htokens⟩ := locate_occurs h
  obtain ⟨hpos, hle, hlt, hopen, hclose⟩ := bounds_of_locate h
  have hmatch : found.found.form.MatchesAt text a.before.length found.documentStart
      found.documentEnd := ⟨a, hform, ha, rfl, hstart, hend⟩
  obtain ⟨-, hallowed, b, hsearch, hbStart, hbEnd⟩ := Form.matchesAt_iff.mp hmatch
  exact ⟨⟨_, hmatch⟩, hpos, hle, hlt, hopen, hclose, htokens, _, b, hallowed, hsearch, hbStart,
    hbEnd⟩

/-- A document whose attribute is wrapped around the equals sign, with an empty line inside the value
    and the closing quote at the start of a line. -/
def wrappedMarkup : Text :=
  "<div\n\tclass\n  =\n\"text-lg\n\n   hover:p-1 text-red-500\n\" id='x'>".toList

theorem located_span_matches_wrapped :
    ∃ found, locate wrappedMarkup 5 4 = some found ∧ found.lineCount = 6 ∧
      found.span wrappedMarkup = "text-lg\n\n   hover:p-1 text-red-500\n".toList ∧
      (∃ start,
        found.found.form.MatchesAt wrappedMarkup start found.documentStart found.documentEnd) ∧
      tokenize (found.span wrappedMarkup) = tokenize found.found.value := by
  obtain ⟨found, h⟩ : ∃ found, locate wrappedMarkup 5 4 = some found :=
    Option.isSome_iff_exists.mp (by decide +kernel)
  have hcount : (locate wrappedMarkup 5 4).map Location.lineCount = some 6 := by decide +kernel
  have hspan : (locate wrappedMarkup 5 4).map (Location.span · wrappedMarkup) =
      some "text-lg\n\n   hover:p-1 text-red-500\n".toList := by
    decide +kernel
  obtain ⟨hmatch, -, -, -, -, -, htokens, -⟩ := located_span_matches h
  rw [h] at hcount hspan
  exact ⟨found, h, Option.some.inj hcount, Option.some.inj hspan, hmatch, htokens⟩

end ClassLift
