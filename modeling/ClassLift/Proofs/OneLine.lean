/-
  One line of a document: where it starts, what is located on it, what an edit of it changes.

  1. **Offsets.**  A line starts behind the lines above it, each with its line feed (`lineOffset`),
     and the lines of a document carry exactly these offsets (`getElem?_documentLines`).

  2. **Locating.**  A line with an attribute of its own is answered with that attribute, whatever
     stands around it (`locate_of_line`): the value lies at the offset of the line plus its place in
     the line.

  3. **Editing.**  The value of such an attribute lies within its line.  So a new value without a
     line feed gives the lines of the document with ONE of them changed (`lines_replaceIn`), which
     is stronger than what holds of wrapped attributes, where lines go away.
-/
import ClassLift.Proofs.Plan

namespace ClassLift

/-! ## Where a line starts -/

/-- Where a line of a text starts: behind the lines above it, each with its line feed. -/
def lineOffset (text : Text) (n : Nat) : Nat := (endLines ((lines text).take n)).length

theorem getElem?_layOut (offset : Nat) (raws : List Text) (n : Nat) :
    (Line.layOut offset raws)[n]? =
      raws[n]?.map fun raw => ⟨offset + (endLines (raws.take n)).length, raw⟩ := by
  induction raws generalizing offset n with
  | nil => rfl
  | cons raw raws ih =>
    cases n with
    | zero => rfl
    | succ n =>
      have hoffset : ∀ k : Nat, offset + raw.length + 1 + k = offset + (raw.length + (k + 1)) := by
        intro k
        omega
      rw [Line.layOut, List.getElem?_cons_succ, List.getElem?_cons_succ, ih, List.take_succ_cons,
        endLines_cons, List.length_append, List.length_cons, hoffset]

/-- **The lines of a document** with their offsets. -/
theorem getElem?_documentLines (text : Text) (n : Nat) :
    (documentLines text)[n]? = (lines text)[n]?.map fun raw => ⟨lineOffset text n, raw⟩ := by
  rw [documentLines, getElem?_layOut, lineOffset, Nat.zero_add]

/-- What stands at an index among the lines of a document is the line of the text there, with its
    offset. -/
theorem line_of_getElem?_documentLines {text : Text} {n : Nat} {l : Line}
    (hl : (documentLines text)[n]? = some l) :
    (lines text)[n]? = some l.raw ∧ l.offset = lineOffset text n := by
  rw [getElem?_documentLines] at hl
  obtain ⟨raw, hraw, rfl⟩ := Option.map_eq_some_iff.mp hl
  exact ⟨hraw, rfl⟩

@[simp]
theorem map_raw_layOut (offset : Nat) (raws : List Text) :
    (Line.layOut offset raws).map Line.raw = raws := by
  induction raws generalizing offset with
  | nil => rfl
  | cons raw raws ih => rw [Line.layOut, List.map_cons, ih]

/-- A line without the blanks at its two ends. -/
def Line.trimmed (l : Line) : Text := strip l.raw

@[simp]
theorem map_trimmed_layOut (offset : Nat) (raws : List Text) :
    (Line.layOut offset raws).map Line.trimmed = raws.map strip := by
  show (Line.layOut offset raws).map (strip ∘ Line.raw) = _
  rw [← List.map_map, map_raw_layOut]

/-- Without their offsets the lines of a document are its lines. -/
@[simp]
theorem map_raw_documentLines (text : Text) : (documentLines text).map Line.raw = lines text :=
  map_raw_layOut 0 (lines text)

@[simp]
theorem length_documentLines (text : Text) : (documentLines text).length = (lines text).length := by
  rw [← map_raw_documentLines, List.length_map]

/-! ## A document around one of its lines -/

/-- Joined lines around one of them. -/
theorem joinWith_feed_split (above below : List Text) (l : Text) :
    joinWith ['\n'] (above ++ l :: below) = endLines above ++ (l ++ behindFeeds below) := by
  induction above with
  | nil => exact joinWith_feed_cons l below
  | cons m above ih =>
    obtain ⟨first, others, hrest⟩ := List.exists_cons_of_ne_nil
      (List.append_ne_nil_of_right_ne_nil above (List.cons_ne_nil l below))
    rw [List.cons_append, hrest, joinWith_cons_cons, ← hrest, ih, endLines_cons,
      List.append_assoc, List.cons_append]

section

variable {text l : Text} {n : Nat}

/-- The lines of a text around one of them. -/
theorem lines_split (hl : (lines text)[n]? = some l) :
    lines text = (lines text).take n ++ l :: (lines text).drop (n + 1) := by
  obtain ⟨hn, rfl⟩ := List.getElem?_eq_some_iff.mp hl
  rw [← List.drop_eq_getElem_cons hn, List.take_append_drop]

theorem text_split (hl : (lines text)[n]? = some l) :
    text = endLines ((lines text).take n) ++ (l ++ behindFeeds ((lines text).drop (n + 1))) := by
  rw [← joinWith_feed_split, ← lines_split hl, joinWith_lines]

theorem not_mem_of_getElem?_lines (hl : (lines text)[n]? = some l) : '\n' ∉ l :=
  not_mem_of_mem_lines (List.mem_of_getElem? hl)

/-! ## Locating on a line -/

variable {a : Attribute}

/-- **An attribute of its own is what is located at a line.** -/
theorem locate_of_line (hl : (lines text)[n]? = some l) (ha : findAttribute l = some a)
    (lookaround : Nat) :
    locate text n lookaround =
      some ⟨a, n, 1, lineOffset text n + a.valueStart, lineOffset text n + a.valueEnd⟩ := by
  have hline : (documentLines text)[n]? = some ⟨lineOffset text n, l⟩ := by
    rw [getElem?_documentLines, hl]
    rfl
  have hexact : locateExactly text n =
      some ⟨a, n, 1, lineOffset text n + a.valueStart, lineOffset text n + a.valueEnd⟩ := by
    rw [locateExactly, if_neg (by omega), Int.toNat_natCast, hline, Option.bind_some,
      locateOnLine, ha]
    rfl
  rw [locate, hexact, Option.some_or]

/-! ## Editing a line -/

/-- The document in front of the value, where the attribute stands on one line. -/
theorem take_lineOffset_add (hl : (lines text)[n]? = some l) (ha : a.OccursIn l) :
    text.take (lineOffset text n + a.valueStart) =
      endLines ((lines text).take n) ++ (a.before ++ a.header) := by
  have hle : a.valueStart ≤ l.length := by
    have hbounds := ha.bounds
    omega
  have hsplit := congrArg (List.take (lineOffset text n + a.valueStart)) (text_split hl)
  rw [hsplit, lineOffset, List.take_length_add_append,
    List.take_append_of_le_length hle, ha.take_valueStart]

/-- And the document behind it. -/
theorem drop_lineOffset_add (hl : (lines text)[n]? = some l) (ha : a.OccursIn l) :
    text.drop (lineOffset text n + a.valueEnd) =
      a.form.closer ++ a.after ++ behindFeeds ((lines text).drop (n + 1)) := by
  have hle : a.valueEnd ≤ l.length := by
    have hbounds := ha.bounds
    omega
  have hsplit := congrArg (List.drop (lineOffset text n + a.valueEnd)) (text_split hl)
  rw [hsplit, lineOffset, List.drop_length_add_append,
    List.drop_append_of_le_length hle, ha.drop_valueEnd]

/-- **A new value changes one line**: the document with another value in place of that of an
    attribute on line `n` has the same lines, but for line `n`, which has the new value in it. -/
theorem lines_replaceIn (hl : (lines text)[n]? = some l) (ha : a.OccursIn l) {value : Text}
    (hvalue : '\n' ∉ value) {found : Location}
    (hstart : found.documentStart = lineOffset text n + a.valueStart)
    (hend : found.documentEnd = lineOffset text n + a.valueEnd) :
    lines (found.replaceIn text value) =
      (lines text).set n (Attribute.line { a with raw := value }) := by
  obtain ⟨hn, -⟩ := List.getElem?_eq_some_iff.mp hl
  -- the new line: no part of it holds a line feed, since the line had none and the value has none
  have hfree : '\n' ∉ Attribute.line { a with raw := value } := by
    have hold : '\n' ∉ a.line := ha.line_eq ▸ not_mem_of_getElem?_lines hl
    simp only [Attribute.line, List.mem_append, not_or] at hold ⊢
    exact ⟨⟨⟨hold.1.1.1, hvalue⟩, hold.1.2⟩, hold.2⟩
  have htext : found.replaceIn text value = joinWith ['\n']
      ((lines text).take n ++
        Attribute.line { a with raw := value } :: (lines text).drop (n + 1)) := by
    rw [Location.replaceIn, hstart, hend, take_lineOffset_add hl ha, drop_lineOffset_add hl ha,
      joinWith_feed_split, Attribute.line]
    simp only [List.append_assoc]
  have hlines : ∀ m ∈ (lines text).take n ++
      Attribute.line { a with raw := value } :: (lines text).drop (n + 1), '\n' ∉ m := by
    intro m hm
    rcases List.mem_append.mp hm with hm | hm
    · exact not_mem_of_mem_lines (List.mem_of_mem_take hm)
    · rcases List.mem_cons.mp hm with rfl | hm
      · exact hfree
      · exact not_mem_of_mem_lines (List.mem_of_mem_drop hm)
  rw [htext, lines_joinWith hlines (List.append_ne_nil_of_right_ne_nil _ (List.cons_ne_nil _ _))]
  rw [List.set_eq_take_append_cons_drop, if_pos hn]

end

/-! ## Plans for one line -/

namespace IsPlanFor

variable {s : Settings} {text l : Text} {r : Request} {p : Plan} {n : Nat} {a : Attribute}

/-- A plan depends on the document only through the attribute that is located: where the same
    attribute is located in another document, the plan is the same but for the place. -/
theorem relocate (h : IsPlanFor s text r p) {text' : Text} {location : Location}
    (hlocated : locate text' r.line s.lookaround.toNat = some location)
    (hfound : location.found = p.location.found) :
    IsPlanFor s text' r { p with location := location } where
  named := h.named
  located := hlocated
  tokens := by
    rw [hfound]
    exact h.tokens
  long := h.long
  forced := h.forced
  extracted := h.extracted
  nonempty := h.nonempty
  preserved := h.preserved
  buckets := h.buckets
  css := h.css
  grouped := h.grouped

/-- The plan for a line with an attribute of its own is for that attribute. -/
theorem location_eq (h : IsPlanFor s text r p) (hline : r.line = n)
    (hl : (lines text)[n]? = some l) (ha : findAttribute l = some a) :
    p.location =
      ⟨a, n, 1, lineOffset text n + a.valueStart, lineOffset text n + a.valueEnd⟩ := by
  have hlocated := h.located
  rw [hline, locate_of_line hl ha] at hlocated
  exact (Option.some.inj hlocated).symm

/-- **Carrying it out changes that line only.** -/
theorem lines_apply (h : IsPlanFor s text r p) (hline : r.line = n)
    (hl : (lines text)[n]? = some l) (ha : findAttribute l = some a) :
    lines (p.apply text) =
      (lines text).set n (Attribute.line { a with raw := p.replacementValue }) := by
  have hlocation := h.location_eq hline hl ha
  refine lines_replaceIn hl (findAttribute_occursIn ha).1 h.feed_not_mem_replacementValue ?_ ?_
  · rw [hlocation]
  · rw [hlocation]

end IsPlanFor

end ClassLift
