/-
  Offsets of a window are faithful: they lead to the characters that the window shows.

  1. **The pieces tell most of it.**  A window is read off its document piece by piece, and no piece is
     empty.  So the places of two offsets are in the order of the offsets (`ReadsOff.place_lt`), a blank
     stands for blanks (`ReadsOff.blank_place`), and what lies between the places of two neighbouring
     offsets belongs to a joining space and is blank (`ReadsOff.blank_between`).

  2. **Inside a line the segments tell the rest.**  There even a blank must come out as the SAME blank,
     which the pieces do not say.  The parts of a joined text start where the parts in front of them, with
     a space behind each, end (`partStart`), and every offset lies in a part or on a space
     (`inPart_or_isJoint`).  The segment that answers for an offset is the one of its line, also at the
     two ends of the line and where a line is blank and its segment is empty; by induction on the lines
     added, an offset `j` characters into a line leads `j` characters behind the leading blanks of that
     line in the document (`Window.toDocument_ofLines`).

  3. **Nothing is asked of the lines**: they may be blank, start or end in any blanks, or be many or one.
-/
import ClassLift.Proofs.Reach

namespace ClassLift

/-! ## Places of what is read off -/

/-- A character of what a text goes on with, by its offset in the text. -/
theorem getElem?_of_prefix_drop {α : Type} {s t : List α} {n k : Nat} (h : s <+: t.drop n)
    (hk : k < s.length) : t[n + k]? = s[k]? := by
  obtain ⟨rest, hrest⟩ := h
  rw [← List.getElem?_drop, ← hrest, List.getElem?_append_left hk]

namespace ReadsOff

variable {text before after shown : Text} {ps : List Piece} {place : Nat → Nat} {i j o d : Nat}
  {c : Char}

/-- At the place of an offset the document holds the piece that is shown there, and the next offset has
    its place right behind that piece. -/
theorem exists_piece (h : ReadsOff text before ps after shown place) (ho : o < shown.length) :
    ∃ p : Piece, shown[o]? = some p.shown ∧ p.spelled <+: text.drop (place o) ∧
      place (o + 1) = place o + p.spelled.length := by
  have hlength : shown.length = ps.length := by rw [h.line_eq, length_shownBy]
  obtain ⟨p, hp⟩ : ∃ p, ps[o]? = some p := ⟨_, List.getElem?_eq_getElem (hlength ▸ ho)⟩
  have htake : ps.take (o + 1) = ps.take o ++ [p] := by
    rw [List.take_add_one, hp]
    rfl
  have hspelled : spelledBy (ps.take (o + 1)) = spelledBy (ps.take o) ++ p.spelled := by
    rw [htake, spelledBy_append, spelledBy_cons, show spelledBy [] = [] from rfl, List.append_nil]
  have hplace : place o = (before ++ spelledBy (ps.take o)).length := by
    rw [h.place_eq o (by omega), List.length_append]
  refine ⟨p, ?_, ?_, ?_⟩
  · rw [h.line_eq, shownBy, List.getElem?_map, hp]
    rfl
  · refine ⟨spelledBy (ps.drop (o + 1)) ++ after, ?_⟩
    have htext : text = (before ++ spelledBy (ps.take o)) ++
        (p.spelled ++ (spelledBy (ps.drop (o + 1)) ++ after)) := by
      rw [h.text_eq]
      nth_rewrite 1 [← List.take_append_drop (o + 1) ps]
      rw [spelledBy_append, hspelled]
      simp only [List.append_assoc]
    rw [hplace]
    nth_rewrite 1 [htext]
    rw [List.drop_left]
  · rw [h.place_eq (o + 1) (by omega), hspelled, hplace]
    simp only [List.length_append, Nat.add_assoc]

/-- **Places are in the order of their offsets.** -/
theorem place_lt (h : ReadsOff text before ps after shown place) (hij : i < j)
    (hj : j ≤ shown.length) : place i < place j := by
  induction j with
  | zero => omega
  | succ j ih =>
    obtain ⟨p, -, -, hnext⟩ := h.exists_piece (Nat.lt_of_succ_le hj)
    have hpos : 0 < p.spelled.length := List.length_pos_iff.mpr p.spelled_ne_nil
    rcases Nat.lt_succ_iff_lt_or_eq.mp hij with hlt | rfl
    · have hle := ih hlt (by omega)
      omega
    · omega

/-- **A blank stands for a blank.** -/
theorem blank_place (h : ReadsOff text before ps after shown place) (hc : shown[o]? = some c)
    (hblank : isBlank c = true) : ∃ d, text[place o]? = some d ∧ isBlank d = true := by
  obtain ⟨ho, -⟩ := List.getElem?_eq_some_iff.mp hc
  obtain ⟨p, hshown, hprefix, -⟩ := h.exists_piece ho
  obtain rfl : p.shown = c := Option.some.inj (hshown.symm.trans hc)
  obtain ⟨d, rest, hspelled⟩ := List.exists_cons_of_ne_nil p.spelled_ne_nil
  have hthere := getElem?_of_prefix_drop hprefix (List.length_pos_iff.mpr p.spelled_ne_nil)
  rw [Nat.add_zero, hspelled] at hthere
  exact ⟨d, hthere, Piece.allBlank_spelled hblank d (hspelled ▸ List.mem_cons_self)⟩

/-- **Between the places of two neighbouring offsets** the document is blank. -/
theorem blank_between (h : ReadsOff text before ps after shown place) (ho : o < shown.length)
    (hlow : place o < d) (hhigh : d < place (o + 1)) :
    ∃ c, text[d]? = some c ∧ isBlank c = true := by
  obtain ⟨p, -, hprefix, hnext⟩ := h.exists_piece ho
  obtain ⟨k, rfl⟩ := Nat.exists_eq_add_of_le (Nat.le_of_lt hlow)
  have hk : k < p.spelled.length := by omega
  cases hblank : isBlank p.shown with
  | true =>
    refine ⟨p.spelled[k], ?_, Piece.allBlank_spelled hblank _ (List.getElem_mem hk)⟩
    rw [getElem?_of_prefix_drop hprefix hk, List.getElem?_eq_getElem hk]
  | false =>
    -- a piece that is not blank is one character, which has nothing behind it
    rw [Piece.spelled_of_not_blank hblank, List.length_singleton] at hk
    omega

end ReadsOff

/-! ## Parts of a joined text -/

/-- Where a part starts when some texts are joined with spaces: behind the parts in front of it, each
    with its space. -/
def partStart (parts : List Text) (k : Nat) : Nat :=
  ((parts.take k).flatMap fun t => t ++ [' ']).length

/-- The offset lies inside a part. -/
def InPart (parts : List Text) (o : Nat) : Prop :=
  ∃ k t j, parts[k]? = some t ∧ j < t.length ∧ o = partStart parts k + j

/-- The offset is that of a joining space: right behind a part that is not the last. -/
def IsJoint (parts : List Text) (o : Nat) : Prop :=
  ∃ k t, parts[k]? = some t ∧ k + 1 < parts.length ∧ o = partStart parts k + t.length

section

variable {parts : List Text} {s t : Text} {k j o : Nat}

@[simp]
theorem partStart_zero (parts : List Text) : partStart parts 0 = 0 := rfl

@[simp]
theorem partStart_cons_succ (t : Text) (parts : List Text) (k : Nat) :
    partStart (t :: parts) (k + 1) = t.length + 1 + partStart parts k := by
  rw [partStart, List.take_succ_cons, List.flatMap_cons, List.length_append, List.length_append,
    List.length_singleton, ← partStart]

/-- More parts behind leave the starts of the others alone. -/
theorem partStart_append (hk : k ≤ parts.length) (more : List Text) :
    partStart (parts ++ more) k = partStart parts k := by
  rw [partStart, List.take_append_of_le_length hk, partStart]

/-- Behind the first part and its space the others are joined. -/
theorem getElem?_joinSpaced_cons (hne : parts ≠ []) (t : Text) (n : Nat) :
    (joinSpaced (t :: parts))[t.length + 1 + n]? = (joinSpaced parts)[n]? := by
  obtain ⟨u, parts, rfl⟩ := List.exists_cons_of_ne_nil hne
  simp

theorem length_joinSpaced_cons (hne : parts ≠ []) (t : Text) :
    (joinSpaced (t :: parts)).length = t.length + 1 + (joinSpaced parts).length := by
  obtain ⟨u, parts, rfl⟩ := List.exists_cons_of_ne_nil hne
  simp only [joinSpaced_cons_cons, List.length_append, List.length_cons]
  omega

/-- A further part would start one character behind the end. -/
theorem partStart_length (hne : parts ≠ []) :
    partStart parts parts.length = (joinSpaced parts).length + 1 := by
  induction parts with
  | nil => exact absurd rfl hne
  | cons t parts ih =>
    rw [List.length_cons, partStart_cons_succ]
    by_cases hrest : parts = []
    · simp [hrest]
    · rw [ih hrest, length_joinSpaced_cons hrest]
      omega

/-- A part of a joined text ends in it. -/
theorem partStart_add_length_le (ht : parts[k]? = some t) :
    partStart parts k + t.length ≤ (joinSpaced parts).length := by
  induction parts generalizing k with
  | nil => exact absurd ht (by simp)
  | cons s parts ih =>
    cases k with
    | zero =>
      obtain rfl : s = t := Option.some.inj ht
      obtain ⟨rest, hrest⟩ := exists_joinSpaced_cons s parts
      rw [hrest, partStart_zero, List.length_append]
      omega
    | succ k =>
      rw [List.getElem?_cons_succ] at ht
      have hle := ih ht
      rw [partStart_cons_succ, length_joinSpaced_cons (List.ne_nil_of_mem (List.mem_of_getElem? ht))]
      omega

/-- **Inside a part the joined text is that part.** -/
theorem getElem?_part (ht : parts[k]? = some t) (hj : j < t.length) :
    (joinSpaced parts)[partStart parts k + j]? = t[j]? := by
  induction parts generalizing k with
  | nil => exact absurd ht (by simp)
  | cons s parts ih =>
    cases k with
    | zero =>
      obtain rfl : s = t := Option.some.inj ht
      obtain ⟨rest, hrest⟩ := exists_joinSpaced_cons s parts
      simp [hrest, List.getElem?_append_left hj]
    | succ k =>
      rw [List.getElem?_cons_succ] at ht
      rw [partStart_cons_succ, Nat.add_assoc,
        getElem?_joinSpaced_cons (List.ne_nil_of_mem (List.mem_of_getElem? ht)), ih ht]

/-- **Behind a part stands a space**, if more parts follow. -/
theorem getElem?_joint (ho : IsJoint parts o) : (joinSpaced parts)[o]? = some ' ' := by
  obtain ⟨k, t, ht, hk, rfl⟩ := ho
  induction parts generalizing k with
  | nil => exact absurd ht (by simp)
  | cons s parts ih =>
    rw [List.length_cons] at hk
    have hne : parts ≠ [] := List.length_pos_iff.mp (by omega)
    obtain ⟨u, others, rfl⟩ := List.exists_cons_of_ne_nil hne
    cases k with
    | zero =>
      obtain rfl : s = t := Option.some.inj ht
      simp
    | succ k =>
      rw [List.getElem?_cons_succ] at ht
      rw [partStart_cons_succ, Nat.add_assoc, getElem?_joinSpaced_cons hne,
        ih k ht (by omega)]

theorem InPart.cons (h : InPart parts o) (t : Text) : InPart (t :: parts) (t.length + 1 + o) := by
  obtain ⟨k, u, j, hu, hj, rfl⟩ := h
  exact ⟨k + 1, u, j, hu, hj, by simp [Nat.add_assoc]⟩

theorem IsJoint.cons (h : IsJoint parts o) (t : Text) :
    IsJoint (t :: parts) (t.length + 1 + o) := by
  obtain ⟨k, u, hu, hk, rfl⟩ := h
  exact ⟨k + 1, u, hu, Nat.succ_lt_succ hk, by simp [Nat.add_assoc]⟩

/-- **An offset of a joined text lies inside a part or is that of a space.** -/
theorem inPart_or_isJoint (ho : o < (joinSpaced parts).length) : InPart parts o ∨ IsJoint parts o := by
  induction parts generalizing o with
  | nil => exact absurd ho (Nat.not_lt_zero o)
  | cons t parts ih =>
    by_cases hinside : o < t.length
    · exact Or.inl ⟨0, t, o, rfl, hinside, by simp⟩
    · have hne : parts ≠ [] := by
        rintro rfl
        exact hinside (by simpa using ho)
      rcases Nat.eq_or_lt_of_le (Nat.le_of_not_lt hinside) with rfl | hbehind
      · have hpos := List.length_pos_iff.mpr hne
        exact Or.inr ⟨0, t, rfl, by simpa using hpos, by simp⟩
      · obtain ⟨n, rfl⟩ := Nat.exists_eq_add_of_le (Nat.succ_le_of_lt hbehind)
        rw [length_joinSpaced_cons hne] at ho
        rcases ih (o := n) (by omega) with hpart | hjoint
        · exact Or.inl (hpart.cons t)
        · exact Or.inr (hjoint.cons t)

end

/-! ## Windows -/

namespace Window

/-- The text of a window is that of its lines, trimmed and joined. -/
theorem text_ofLines (l : Line) (added : List Line) :
    (ofLines l added).text = joinSpaced ((l :: added).map Line.trimmed) := by
  rw [ofLines, text_foldl_push, List.map_map]
  rfl

/-- **An offset in a line of a window leads into that line of the document**, as far behind its leading
    blanks; the end of the line counts to it.  By induction on the lines added: for the offsets of the
    older lines the new segment starts too late, and for its own line the older ones are not asked. -/
theorem toDocument_ofLines {l m : Line} {added : List Line} {k j : Nat}
    (hm : (l :: added)[k]? = some m) (hj : j ≤ m.trimmed.length) :
    (ofLines l added).toDocument (partStart ((l :: added).map Line.trimmed) k + j) =
      m.offset + leadingBlanks m.raw + j := by
  induction added using List.reverseRecOn with
  | nil =>
    obtain ⟨rfl, rfl⟩ : k = 0 ∧ l = m := by
      cases k with
      | zero => exact ⟨rfl, Option.some.inj hm⟩
      | succ k => exact absurd hm (by simp)
    show (ofLine l).toDocument _ = _
    rw [partStart_zero, Nat.zero_add, toDocument_ofLine]
    exact congrArg (_ + ·) (Nat.min_eq_left hj)
  | append_singleton added n ih =>
    have hpush : ofLines l (added ++ [n]) = (ofLines l added).push n := by
      rw [ofLines, List.foldl_append]
      rfl
    have hparts : (l :: (added ++ [n])).map Line.trimmed =
        (l :: added).map Line.trimmed ++ [n.trimmed] := by
      rw [← List.cons_append, List.map_append]
      rfl
    have hne : (l :: added).map Line.trimmed ≠ [] := List.cons_ne_nil _ _
    have hlength := partStart_length hne
    rw [List.length_map] at hlength
    rw [hpush, hparts, toDocument_push, text_ofLines]
    rw [← List.cons_append] at hm
    rcases Nat.lt_or_ge k (l :: added).length with hk | hk
    · -- an older line
      rw [List.getElem?_append_left hk] at hm
      have hpart : ((l :: added).map Line.trimmed)[k]? = some m.trimmed := by
        rw [List.getElem?_map, hm]
        rfl
      have hend := partStart_add_length_le hpart
      rw [partStart_append (by rw [List.length_map]; omega), if_neg (by omega), ih hm]
    · -- the new line, which is the last one
      obtain ⟨hlast, -⟩ := List.getElem?_eq_some_iff.mp hm
      rw [List.length_append, List.length_singleton] at hlast
      obtain rfl : (l :: added).length = k := by omega
      rw [List.getElem?_append_right (Nat.le_refl _), Nat.sub_self] at hm
      obtain rfl : n = m := Option.some.inj hm
      rw [partStart_append (by rw [List.length_map]), hlength, if_pos (by omega),
        Nat.add_sub_cancel_left]
      exact congrArg (_ + ·) (Nat.min_eq_left hj)

/-- A window of some parts is faithful to a text: its offsets lead to what it shows. -/
structure IsFaithful (w : Window) (text : Text) (parts : List Text) : Prop where
  /-- It shows the parts, joined with spaces. -/
  text_eq : w.text = joinSpaced parts
  /-- Offsets keep their order, the end of the window included. -/
  increasing : ∀ i j, i < j → j ≤ w.text.length → w.toDocument i < w.toDocument j
  /-- There are no other offsets than those inside a part and those of the joining spaces. -/
  parted : ∀ o < w.text.length, InPart parts o ∨ IsJoint parts o
  /-- Inside a part the window shows the character of the text. -/
  inside : ∀ o, InPart parts o → ∃ c, w.text[o]? = some c ∧ text[w.toDocument o]? = some c
  /-- A joining space stands for a blank. -/
  joint : ∀ o, IsJoint parts o →
    w.text[o]? = some ' ' ∧ ∃ c, text[w.toDocument o]? = some c ∧ isBlank c = true
  /-- What is left out between two neighbouring offsets is blank. -/
  between : ∀ o < w.text.length, ∀ d, w.toDocument o < d → d < w.toDocument (o + 1) →
    ∃ c, text[d]? = some c ∧ isBlank c = true

end Window

section

variable {raws : List Text} {above below added : List Line} {l m : Line}

/-- A character of a trimmed line, in the text that is laid out. -/
theorem getElem?_trimmed (h : Line.layOut 0 raws = above ++ m :: below) {j : Nat}
    (hj : j < m.trimmed.length) :
    (joinWith ['\n'] raws)[m.offset + leadingBlanks m.raw + j]? = m.trimmed[j]? := by
  obtain ⟨before, following, htext, hoffset, -, -⟩ := layOut_split h
  obtain ⟨leading, trailing, -, -, hlength, hsplit⟩ := exists_strip_split m.raw
  have hprefix : m.trimmed <+: (joinWith ['\n'] raws).drop (m.offset + leadingBlanks m.raw) := by
    refine ⟨trailing ++ behindFeeds following, ?_⟩
    have hshape : joinWith ['\n'] raws =
        (before ++ leading) ++ (m.trimmed ++ (trailing ++ behindFeeds following)) := by
      rw [htext]
      nth_rewrite 1 [hsplit]
      simp only [Line.trimmed, List.append_assoc]
    rw [hshape, hoffset, Nat.zero_add, ← hlength, ← List.length_append, List.drop_left]
  exact getElem?_of_prefix_drop hprefix hj

/-- **Every window of lines that are laid out is faithful to their text.** -/
theorem Window.isFaithful_ofLines (h : Line.layOut 0 raws = above ++ l :: (added ++ below)) :
    (ofLines l added).IsFaithful (joinWith ['\n'] raws) ((l :: added).map Line.trimmed) := by
  obtain ⟨before, ps, trailing, following, -, hreads, -⟩ := covers_layOut h
  have htext := text_ofLines l added
  refine ⟨htext, fun i j => hreads.place_lt, fun o ho => ?_, fun o ho => ?_, fun o ho => ?_,
    fun o ho d => hreads.blank_between ho⟩
  · rw [htext] at ho
    exact inPart_or_isJoint ho
  · obtain ⟨k, t, j, ht, hj, rfl⟩ := ho
    obtain ⟨m, hm, rfl⟩ := Option.map_eq_some_iff.mp (List.getElem?_map ▸ ht)
    -- the line stands among those laid out
    obtain ⟨upper, lower, hlines⟩ := List.append_of_mem (List.mem_of_getElem? hm)
    have hline : Line.layOut 0 raws = (above ++ upper) ++ m :: (lower ++ below) := by
      rw [h, ← List.cons_append, hlines]
      simp only [List.append_assoc, List.cons_append]
    refine ⟨m.trimmed[j], ?_, ?_⟩
    · rw [htext, getElem?_part ht hj, List.getElem?_eq_getElem hj]
    · rw [toDocument_ofLines hm (Nat.le_of_lt hj), getElem?_trimmed hline hj,
        List.getElem?_eq_getElem hj]
  · have hspace : (ofLines l added).text[o]? = some ' ' := by
      rw [htext]
      exact getElem?_joint ho
    exact ⟨hspace, hreads.blank_place hspace (by decide)⟩

end

/-- The lines from `first` to `last`, the first of them apart, and those below. -/
theorem exists_lines_between {all : List Line} {first last : Nat} (hle : first ≤ last)
    (hlast : last < all.length) :
    ∃ l added below, all.drop first = l :: (added ++ below) ∧ added.length = last - first ∧
      l :: added = (all.drop first).take (last + 1 - first) := by
  have hfirst : first < all.length := Nat.lt_of_le_of_lt hle hlast
  have hdrop := List.drop_eq_getElem_cons hfirst
  refine ⟨all[first], (all.drop (first + 1)).take (last - first),
    (all.drop (first + 1)).drop (last - first), ?_, ?_, ?_⟩
  · rw [List.take_append_drop]
    exact hdrop
  · rw [List.length_take, List.length_drop]
    omega
  · rw [hdrop, show last + 1 - first = last - first + 1 from by omega, List.take_succ_cons]

/-- **Window offsets are faithful.**  Some lines are laid out in a document, and a window is put together
    from those from `first` to `last`.  Its offsets lead to the characters that it shows, in their order;
    a joining space leads to a blank, and what lies between the places of two neighbouring offsets is
    blank. -/
theorem window_offsets_faithful {raws : List Text} {first last : Nat} (hle : first ≤ last)
    (hlast : last < raws.length) :
    ∃ l added below, (Line.layOut 0 raws).drop first = l :: (added ++ below) ∧
      added.length = last - first ∧
      (Window.ofLines l added).IsFaithful (joinWith ['\n'] raws)
        (((raws.drop first).take (last + 1 - first)).map strip) := by
  have hlength : (Line.layOut 0 raws).length = raws.length := by
    rw [← List.length_map (f := Line.raw), map_raw_layOut]
  obtain ⟨l, added, below, hdrop, hcount, hlines⟩ :=
    exists_lines_between hle (hlength ▸ hlast)
  have hsplit : Line.layOut 0 raws = (Line.layOut 0 raws).take first ++ l :: (added ++ below) := by
    rw [← hdrop, List.take_append_drop]
  have hparts : ((raws.drop first).take (last + 1 - first)).map strip =
      (l :: added).map Line.trimmed := by
    rw [hlines, List.map_take, List.map_take, List.map_drop, List.map_drop, map_trimmed_layOut]
  refine ⟨l, added, below, hdrop, hcount, ?_⟩
  rw [hparts]
  exact Window.isFaithful_ofLines hsplit

/-- A value over three lines, the second of them blank. -/
def wrappedLines : List Text :=
  ["<i", "\tclass =\"a\u00a0 b ", "  ", " c\">"].map String.toList

theorem window_offsets_faithful_wrapped :
    1 ≤ 3 ∧ 3 < wrappedLines.length ∧
    ∃ l added below, (Line.layOut 0 wrappedLines).drop 1 = l :: (added ++ below) ∧
      added.length = 2 ∧
      (Window.ofLines l added).IsFaithful (joinWith ['\n'] wrappedLines)
        ["class =\"a\u00a0 b".toList, [], "c\">".toList] := by
  have hparts : ((wrappedLines.drop 1).take 3).map strip =
      ["class =\"a\u00a0 b".toList, [], "c\">".toList] := by
    decide
  obtain ⟨l, added, below, hlines, hcount, hfaithful⟩ :=
    window_offsets_faithful (show 1 ≤ 3 by decide) (show 3 < wrappedLines.length by decide)
  rw [hparts] at hfaithful
  exact ⟨by decide, by decide, l, added, below, hlines, hcount, hfaithful⟩

/-- The empty segment of the blank line keeps the two joining spaces around it apart: they lead to the
    blank behind `b` and to the end of the blank line. -/
example : [12, 13, 14].map (Window.ofLines ⟨3, "\tclass =\"a\u00a0 b ".toList⟩
    [⟨18, "  ".toList⟩, ⟨21, " c\">".toList⟩]).toDocument = [16, 20, 22] := by decide

end ClassLift
