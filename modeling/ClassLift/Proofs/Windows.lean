/-
  Windows read the document: whatever lines a window is made of, it shows a piece of the document and
  its segments say of which.

  1. **Lines.**  A document is its lines with line feeds between them, so around each of its lines it
     is: some text that is empty or ends in a line feed, the line, and for each line that follows a
     line feed and that line (`documentLines_split`).

  2. **One step.**  Adding a line to a window adds the piece for the joining space and one piece for
     each character of the trimmed line; the new segment says exactly where those pieces start
     (`Window.Covers.push`).  A window of one line covers that line (`covers_ofLine`).

  3. **A run.**  By induction over the lines added, every window covers the lines it is made of
     (`Window.covers_ofLines`), so it is read off the document in the sense of `ReadsOff`.  A single
     line is too, with its offset added to every place (`readsOff_line`).
-/
import ClassLift.Document
import ClassLift.Proofs.Lines
import ClassLift.Proofs.Reading

namespace ClassLift

/-! ## The lines of a document -/

/-- A text ends where a line may start: nowhere, or behind a line feed. -/
def EndsLine (t : Text) : Prop := ∀ c, t.getLast? = some c → c = '\n'

/-- Any line of the lines laid out from `offset` on, with what stands in front of it and behind. -/
theorem layOut_split {offset : Nat} {raws : List Text} {above below : List Line} {l : Line}
    (h : Line.layOut offset raws = above ++ l :: below) :
    ∃ before following, joinWith ['\n'] raws = before ++ l.raw ++ behindFeeds following ∧
      l.offset = offset + before.length ∧ EndsLine before ∧
      below = Line.layOut (l.offset + l.raw.length + 1) following := by
  induction above generalizing offset raws with
  | nil =>
    cases raws with
    | nil => exact absurd h (List.cons_ne_nil l below).symm
    | cons raw following =>
      obtain ⟨rfl, rfl⟩ := List.cons.inj h
      refine ⟨[], following, joinWith_feed_cons raw following, rfl, ?_, rfl⟩
      intro c hc
      exact absurd hc (by simp)
  | cons m above ih =>
    cases raws with
    | nil => exact absurd h (List.cons_ne_nil m _).symm
    | cons raw following =>
      -- the line is one of those below `raw`, so that line and its feed come in front
      obtain ⟨-, hrest⟩ := List.cons.inj h
      obtain ⟨before, rest, hjoin, hoffset, hends, hbelow⟩ := ih hrest
      have hne : following ≠ [] := by
        rintro rfl
        exact absurd hrest (List.append_ne_nil_of_right_ne_nil above (List.cons_ne_nil l below)).symm
      obtain ⟨next, others, rfl⟩ := List.exists_cons_of_ne_nil hne
      refine ⟨raw ++ '\n' :: before, rest, ?_, ?_, ?_, hbelow⟩
      · rw [joinWith_feed_cons, behindFeeds_cons, ← joinWith_feed_cons, hjoin]
        simp only [List.append_assoc, List.cons_append]
      · rw [hoffset, List.length_append, List.length_cons]
        omega
      · intro c hc
        rw [List.getLast?_append_of_ne_nil _ (List.cons_ne_nil _ before), List.getLast?_cons] at hc
        cases hlast : before.getLast? with
        | none =>
          rw [hlast] at hc
          exact (Option.some.inj hc).symm
        | some d =>
          rw [hlast] at hc
          exact (Option.some.inj hc) ▸ hends d hlast

/-- **Around one of its lines a document is** a text that ends where a line may start, the line, and
    the lines that follow, each behind a line feed. -/
theorem documentLines_split {text : Text} {above below : List Line} {l : Line}
    (h : documentLines text = above ++ l :: below) :
    ∃ before following, text = before ++ l.raw ++ behindFeeds following ∧
      l.offset = before.length ∧ EndsLine before ∧
      below = Line.layOut (before.length + l.raw.length + 1) following := by
  obtain ⟨before, following, hjoin, hoffset, hends, hbelow⟩ := layOut_split h
  rw [Nat.zero_add] at hoffset
  exact ⟨before, following, by rw [← hjoin, joinWith_lines], hoffset, hends, hoffset ▸ hbelow⟩

theorem EndsLine.front {before : Text} (h : EndsLine before) :
    ∀ c, before.getLast? = some c → isBlank c = true := by
  intro c hc
  rw [h c hc]
  decide

/-- A text that ends where a line may start is followed by blanks only. -/
theorem EndsLine.front_append {before blanks : Text} (h : EndsLine before) (hb : AllBlank blanks) :
    ∀ c, (before ++ blanks).getLast? = some c → isBlank c = true := by
  intro c hc
  rw [List.getLast?_append] at hc
  cases hlast : blanks.getLast? with
  | none =>
    rw [hlast] at hc
    exact h.front c hc
  | some d =>
    rw [hlast] at hc
    exact Option.some.inj hc ▸ hb d (List.mem_of_getLast? hlast)

/-- A line is read off its document. -/
theorem readsOff_line {before raw after : Text} (h : EndsLine before) :
    ReadsOff (before ++ raw ++ after) before (raw.map Piece.same) after raw
      (before.length + ·) where
  text_eq := by rw [spelledBy_map_same]
  line_eq := (shownBy_map_same raw).symm
  place_eq := by
    intro o ho
    rw [← List.map_take, spelledBy_map_same, List.length_take]
    rw [List.length_map] at ho
    omega
  front := h.front

/-! ## Windows -/

namespace Window

/-- A window covers the document down to the lines `below`, which are the next to be added: it is
    read off the text, and between its last piece and the next line there are only blanks and the
    line feed. -/
def Covers (w : Window) (text : Text) (below : List Line) : Prop :=
  ∃ before ps trailing following, AllBlank trailing ∧
    ReadsOff text before ps (trailing ++ behindFeeds following) w.text w.toDocument ∧
    below = Line.layOut ((before ++ spelledBy ps ++ trailing).length + 1) following

/-- The window of one line covers that line. -/
theorem covers_ofLine {raws : List Text} {above below : List Line} {l : Line}
    (h : Line.layOut 0 raws = above ++ l :: below) :
    (ofLine l).Covers (joinWith ['\n'] raws) below := by
  obtain ⟨before, following, htext, hoffset, hends, hbelow⟩ := layOut_split h
  rw [Nat.zero_add] at hoffset
  rw [hoffset] at hbelow
  obtain ⟨leading, trailing, hl, ht, hlength, hsplit⟩ := exists_strip_split l.raw
  refine ⟨before ++ leading, (strip l.raw).map Piece.same, trailing, following, ht,
    ⟨?_, ?_, ?_, hends.front_append hl⟩, ?_⟩
  · rw [spelledBy_map_same, htext]
    nth_rewrite 1 [hsplit]
    simp only [List.append_assoc]
  · exact (shownBy_map_same _).symm
  · intro o ho
    rw [List.length_map] at ho
    have hplace : (ofLine l).toDocument o =
        l.offset + leadingBlanks l.raw + min (o - 0) (strip l.raw).length := by
      simp [toDocument, ofLine, segmentOf, Segment.toDocument]
    rw [hplace, ← List.map_take, spelledBy_map_same, List.length_take, hoffset, ← hlength,
      List.length_append]
    omega
  · rw [hbelow, spelledBy_map_same, List.append_assoc, List.append_assoc, List.length_append,
      ← List.append_assoc leading, ← hsplit]

/-- In a window of one line an offset lies behind the leading blanks of the line. -/
theorem toDocument_ofLine (l : Line) (o : Nat) :
    (ofLine l).toDocument o = l.offset + leadingBlanks l.raw + min o (strip l.raw).length := by
  simp [toDocument, ofLine, segmentOf, Segment.toDocument]

/-- The segment of the line added last answers for the offsets from its start on, the older ones
    for all others. -/
theorem toDocument_push (w : Window) (l : Line) (o : Nat) :
    (w.push l).toDocument o =
      if w.text.length + 1 ≤ o then
        l.offset + leadingBlanks l.raw + min (o - (w.text.length + 1)) (strip l.raw).length
      else w.toDocument o := by
  rw [toDocument, Window.push, List.find?_cons]
  by_cases h : w.text.length + 1 ≤ o
  · rw [if_pos h]
    simp [segmentOf, h, Segment.toDocument]
  · rw [if_neg h]
    simp [segmentOf, h, toDocument]

/-- **One step**: the window with the next line covers that line too. -/
theorem Covers.push {w : Window} {text : Text} {l : Line} {below : List Line}
    (h : w.Covers text (l :: below)) : (w.push l).Covers text below := by
  obtain ⟨before, ps, trailing, following, ht, hreads, hnext⟩ := h
  cases following with
  | nil => exact absurd hnext (List.cons_ne_nil l below)
  | cons raw following =>
    obtain ⟨rfl, hbelow⟩ := List.cons.inj hnext
    obtain ⟨leading, trailing', hl, ht', hlength, hsplit⟩ := exists_strip_split raw
    have hwindow : w.text.length = ps.length := by rw [hreads.line_eq, length_shownBy]
    refine ⟨before, ps ++ Piece.lineBreak trailing leading ht hl :: (strip raw).map Piece.same,
      trailing', following, ht', ⟨?_, ?_, ?_, hreads.front⟩, ?_⟩
    · rw [hreads.text_eq, behindFeeds_cons, spelledBy_append, spelledBy_cons, spelledBy_map_same,
        Piece.spelled]
      nth_rewrite 1 [hsplit]
      simp only [List.append_assoc, List.cons_append]
    · rw [shownBy, List.map_append, List.map_cons, Window.push, hreads.line_eq]
      exact congrArg (shownBy ps ++ ' ' :: ·) (shownBy_map_same _).symm
    · intro o ho
      rw [List.length_append, List.length_cons, List.length_map] at ho
      rw [toDocument_push, hwindow]
      by_cases hnew : ps.length + 1 ≤ o
      · -- the offset lies in the new line: all older pieces and the joining space are behind it
        obtain ⟨k, rfl⟩ := Nat.exists_eq_add_of_le hnew
        rw [if_pos hnew, List.take_append, List.take_of_length_le (by omega),
          show ps.length + 1 + k - ps.length = k + 1 from by omega, List.take_succ_cons,
          spelledBy_append, spelledBy_cons, ← List.map_take, spelledBy_map_same, Piece.spelled]
        simp only [List.length_append, List.length_cons, List.length_take, hlength]
        omega
      · -- it lies in the older lines, whose pieces stay where they were
        rw [if_neg hnew, List.take_append_of_le_length (by omega), hreads.place_eq o (by omega)]
    · have hraw : raw.length = leading.length + (strip raw).length + trailing'.length := by
        have h := congrArg List.length hsplit
        rwa [List.length_append, List.length_append] at h
      rw [hbelow, spelledBy_append, spelledBy_cons, spelledBy_map_same, Piece.spelled]
      refine congrArg (Line.layOut · following) ?_
      simp only [List.length_append, List.length_cons, hraw]
      omega

/-- **A run**: a window covers the lines it is made of. -/
theorem Covers.foldl_push {w : Window} {text : Text} {added below : List Line}
    (h : w.Covers text (added ++ below)) : (added.foldl Window.push w).Covers text below := by
  induction added generalizing w with
  | nil => exact h
  | cons l added ih => exact ih h.push

/-- A window of lines that are laid out covers them. -/
theorem covers_layOut {raws : List Text} {above added below : List Line} {l : Line}
    (h : Line.layOut 0 raws = above ++ l :: (added ++ below)) :
    (ofLines l added).Covers (joinWith ['\n'] raws) below :=
  (covers_ofLine h).foldl_push

/-- A window covers its lines. -/
theorem covers_ofLines {text : Text} {above added below : List Line} {l : Line}
    (h : documentLines text = above ++ l :: (added ++ below)) :
    (ofLines l added).Covers text below := by
  have hcovers := covers_layOut h
  rwa [joinWith_lines] at hcovers

end Window

end ClassLift
