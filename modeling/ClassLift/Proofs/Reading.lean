/-
  Reading a line off a document: what a line, or a window of trimmed and joined lines, shows of the
  text behind it.

  1. **Pieces.**  Each character that is shown stands for a piece of the document.  Nearly always
     the piece is that character; only the space that joins two lines of a window stands for more:
     the blanks behind the upper line, the line feed, and the blanks in front of the lower one.
     A piece carries the proof that what it spells out besides the line feed is blank, so no list of
     pieces hides a character that is not.

  2. **What carries over.**  Spelling the pieces out changes blanks only.  Hence a text without
     blanks stays as it is, a text of blanks stays one, a character that is not blank turns up
     nowhere new, and the tokens are the same (`tokenize_spelledBy`).

  3. **Occurrences carry over** (`ReadsOff.occurs`).  A header shown is a header spelled out, because
     a form allows blanks exactly where it allows ANY blanks; a value shown is free of the delimiter
     iff the value spelled out is; and the character in front either is the same one or is blank,
     which every form may follow.  So an attribute of the line is one of the document, and its value
     lies where the reading places its two ends.
-/
import ClassLift.Proofs.Occurrence

namespace ClassLift

/-! ## Pieces -/

/-- A character that is shown, with what the document holds in its place. -/
inductive Piece
  | same (c : Char)
  | lineBreak (trailing leading : Text) (trailing_blank : AllBlank trailing)
      (leading_blank : AllBlank leading)

/-- The character that is shown. -/
def Piece.shown : Piece → Char
  | same c => c
  | lineBreak .. => ' '

/-- What the document holds. -/
def Piece.spelled : Piece → Text
  | same c => [c]
  | lineBreak trailing leading _ _ => trailing ++ '\n' :: leading

/-- What a list of pieces shows. -/
def shownBy (ps : List Piece) : Text := ps.map Piece.shown

/-- What the document holds for a list of pieces. -/
def spelledBy (ps : List Piece) : Text := ps.flatMap Piece.spelled

@[simp]
theorem length_shownBy (ps : List Piece) : (shownBy ps).length = ps.length := List.length_map _

@[simp]
theorem spelledBy_cons (p : Piece) (ps : List Piece) :
    spelledBy (p :: ps) = p.spelled ++ spelledBy ps := List.flatMap_cons

@[simp]
theorem spelledBy_append (ps qs : List Piece) :
    spelledBy (ps ++ qs) = spelledBy ps ++ spelledBy qs := List.flatMap_append

@[simp]
theorem shownBy_map_same (t : Text) : shownBy (t.map Piece.same) = t := by
  rw [shownBy, List.map_map, show Piece.shown ∘ Piece.same = id from rfl, List.map_id]

@[simp]
theorem spelledBy_map_same (t : Text) : spelledBy (t.map Piece.same) = t := by
  induction t with
  | nil => rfl
  | cons c t ih => simp [ih, Piece.spelled]

/-- A split of what is shown is a split of the pieces. -/
theorem shownBy_eq_append {ps : List Piece} {s t : Text} (h : shownBy ps = s ++ t) :
    ∃ qs rs, ps = qs ++ rs ∧ shownBy qs = s ∧ shownBy rs = t := by
  obtain ⟨qs, rs, hps, hq, hr⟩ := List.map_eq_append_iff.mp h
  exact ⟨qs, rs, hps, hq, hr⟩

/-! ## What carries over -/

/-- A piece shows a blank iff it spells out blanks. -/
theorem Piece.allBlank_spelled {p : Piece} (h : isBlank p.shown = true) : AllBlank p.spelled := by
  cases p with
  | same c => exact allBlank_nil.cons h
  | lineBreak t l ht hl => exact ht.append (hl.cons (by decide))

theorem Piece.spelled_of_not_blank {p : Piece} (h : isBlank p.shown = false) :
    p.spelled = [p.shown] := by
  cases p with
  | same c => rfl
  | lineBreak t l ht hl => exact absurd (show isBlank ' ' = false from h) (by decide)

theorem Piece.spelled_ne_nil (p : Piece) : p.spelled ≠ [] := by
  cases p with
  | same c => exact List.cons_ne_nil c []
  | lineBreak t l ht hl => exact List.append_ne_nil_of_right_ne_nil t (List.cons_ne_nil _ l)

/-- A text without blanks is spelled out as it is shown. -/
theorem spelledBy_of_not_blank {ps : List Piece} (h : ∀ c ∈ shownBy ps, isBlank c = false) :
    spelledBy ps = shownBy ps := by
  induction ps with
  | nil => rfl
  | cons p ps ih =>
    have hp : isBlank p.shown = false := h _ List.mem_cons_self
    rw [spelledBy_cons, Piece.spelled_of_not_blank hp,
      ih fun c hc => h c (List.mem_cons_of_mem _ hc)]
    rfl

theorem allBlank_spelledBy {ps : List Piece} (h : AllBlank (shownBy ps)) :
    AllBlank (spelledBy ps) := by
  induction ps with
  | nil => exact allBlank_nil
  | cons p ps ih =>
    rw [spelledBy_cons]
    exact (Piece.allBlank_spelled (h _ List.mem_cons_self)).append (ih h.of_cons)

/-- A character that is not blank is spelled out only where it is shown. -/
theorem not_mem_spelledBy {ps : List Piece} {d : Char} (hd : isBlank d = false)
    (h : d ∉ shownBy ps) : d ∉ spelledBy ps := by
  intro hm
  obtain ⟨p, hp, hdp⟩ := List.mem_flatMap.mp hm
  cases hblank : isBlank p.shown with
  | true => exact (Piece.allBlank_spelled hblank).not_mem hd hdp
  | false =>
    rw [Piece.spelled_of_not_blank hblank, List.mem_singleton] at hdp
    exact h (hdp ▸ List.mem_map.mpr ⟨p, hp, rfl⟩)

/-- The induction is on the pieces, behind a text that both sides share: each piece either goes
    over to that text or, if it is blank, cuts both sides at the same place. -/
theorem tokenize_append_spelledBy (s : Text) (ps : List Piece) :
    tokenize (s ++ spelledBy ps) = tokenize (s ++ shownBy ps) := by
  induction ps generalizing s with
  | nil => rfl
  | cons p ps ih =>
    have hshown : shownBy (p :: ps) = p.shown :: shownBy ps := rfl
    rw [spelledBy_cons, hshown]
    cases hblank : isBlank p.shown with
    | true =>
      have hrest := ih []
      rw [List.nil_append, List.nil_append] at hrest
      rw [← List.append_assoc,
        tokenize_append_blanks_append (Piece.allBlank_spelled hblank) p.spelled_ne_nil,
        tokenize_append_blank hblank, hrest]
    | false =>
      rw [Piece.spelled_of_not_blank hblank, ← List.append_assoc, ih, List.append_assoc,
        List.singleton_append]

/-- **Spelling out keeps the tokens.** -/
theorem tokenize_spelledBy (ps : List Piece) :
    tokenize (spelledBy ps) = tokenize (shownBy ps) :=
  tokenize_append_spelledBy [] ps

/-- A header that is shown is a header when spelled out. -/
theorem isHeader_spelledBy {f : Form} {ps : List Piece} (h : f.IsHeader (shownBy ps)) :
    f.IsHeader (spelledBy ps) := by
  obtain ⟨b₁, b₂, hb₁, hb₂, hheader⟩ := h
  obtain ⟨qs, opening, rfl, hqs, hopening⟩ := shownBy_eq_append hheader
  obtain ⟨qs, equals, rfl, hqs, hequals⟩ := shownBy_eq_append hqs
  obtain ⟨keyword, first, rfl, hkeyword, hfirst⟩ := shownBy_eq_append hqs
  rw [← List.singleton_append] at hequals
  obtain ⟨equals, second, rfl, hequals, hsecond⟩ := shownBy_eq_append hequals
  have hk : spelledBy keyword = f.keyword := by
    rw [spelledBy_of_not_blank (hkeyword ▸ isBlank_of_mem_keyword), hkeyword]
  have he : spelledBy equals = ['='] := by
    rw [spelledBy_of_not_blank (hequals ▸ forall_mem_of_all (by decide)), hequals]
  have ho : spelledBy opening = f.opener := by
    rw [spelledBy_of_not_blank (hopening ▸ isBlank_of_mem_opener), hopening]
  refine ⟨spelledBy first, spelledBy second, allBlank_spelledBy (hfirst ▸ hb₁),
    allBlank_spelledBy (hsecond ▸ hb₂), ?_⟩
  rw [spelledBy_append, spelledBy_append, spelledBy_append, spelledBy_append, hk, he, ho,
    List.singleton_append]

/-- The form may stand behind what the document holds if it may stand behind what is shown, as far
    as the document is blank in front of the pieces. -/
theorem mayFollow_spelledBy {f : Form} {ps : List Piece} {before : Text}
    (hfront : ∀ c, before.getLast? = some c → isBlank c = true)
    (h : f.mayFollow (shownBy ps).getLast? = true) :
    f.mayFollow (before ++ spelledBy ps).getLast? = true := by
  rcases List.eq_nil_or_concat' ps with rfl | ⟨qs, p, rfl⟩
  · -- nothing is shown in front, so the document decides, and it is blank there or starts there
    rw [spelledBy, List.flatMap_nil, List.append_nil]
    cases hlast : before.getLast? with
    | none => exact h
    | some c => exact Form.mayFollow_of_isBlank (hfront c hlast)
  · have hshown : (shownBy (qs ++ [p])).getLast? = some p.shown := by
      simp [shownBy]
    have hspelled : (before ++ spelledBy (qs ++ [p])).getLast? = p.spelled.getLast? := by
      rw [spelledBy_append, ← List.append_assoc, spelledBy_cons, show spelledBy [] = [] from rfl,
        List.append_nil, List.getLast?_append_of_ne_nil _ p.spelled_ne_nil]
    rw [hshown] at h
    rw [hspelled]
    cases hblank : isBlank p.shown with
    | true =>
      obtain ⟨c, hc⟩ := Option.ne_none_iff_exists'.mp
        (mt List.getLast?_eq_none_iff.mp p.spelled_ne_nil)
      rw [hc]
      exact Form.mayFollow_of_isBlank
        (Piece.allBlank_spelled hblank c (List.mem_of_getLast? hc))
    | false =>
      rw [Piece.spelled_of_not_blank hblank]
      exact h

/-! ## Readings -/

/-- A line is read off a text: the text is some pieces between `before` and `after`, the line is
    what they show, and `place` says where in the text each offset of the line lies.  In front of
    the pieces the text is blank or has its start. -/
structure ReadsOff (text before : Text) (ps : List Piece) (after line : Text) (place : Nat → Nat) :
    Prop where
  text_eq : text = before ++ spelledBy ps ++ after
  line_eq : line = shownBy ps
  place_eq : ∀ o ≤ ps.length, place o = before.length + (spelledBy (ps.take o)).length
  front : ∀ c, before.getLast? = some c → isBlank c = true

namespace ReadsOff

variable {text before after line : Text} {ps : List Piece} {place : Nat → Nat}

/-- The place of the offset behind some of the pieces. -/
theorem place_length (h : ReadsOff text before ps after line place) {qs rs : List Piece}
    (hps : ps = qs ++ rs) : place qs.length = (before ++ spelledBy qs).length := by
  rw [h.place_eq _ (by rw [hps, List.length_append]; omega), hps, List.take_left,
    List.length_append]

/-- **An attribute of the line is an attribute of the text**, of the same form, with the same tokens,
    and its value lies where the reading places it. -/
theorem occurs (h : ReadsOff text before ps after line place) {a : Attribute}
    (ha : a.OccursIn line) :
    ∃ b : Attribute, b.form = a.form ∧ b.OccursIn text ∧ b.valueStart = place a.valueStart ∧
      b.valueEnd = place a.valueEnd ∧ tokenize b.raw = tokenize a.raw := by
  have hshown : shownBy ps = a.before ++ a.header ++ a.raw ++ a.form.closer ++ a.after := by
    rw [← h.line_eq]
    exact ha.line_eq.symm
  -- the pieces are cut where the attribute cuts the line
  obtain ⟨qs, behind, hps, hqs, hbehind⟩ := shownBy_eq_append hshown
  obtain ⟨qs, closing, rfl, hqs, hclosing⟩ := shownBy_eq_append hqs
  obtain ⟨qs, value, rfl, hqs, hvalue⟩ := shownBy_eq_append hqs
  obtain ⟨infront, header, rfl, hinfront, hheader⟩ := shownBy_eq_append hqs
  have hstart : ps = infront ++ header ++ (value ++ closing ++ behind) := by
    rw [hps]
    simp only [List.append_assoc]
  have hend : ps = infront ++ header ++ value ++ (closing ++ behind) := by
    rw [hps]
    simp only [List.append_assoc]
  refine ⟨⟨a.form, before ++ spelledBy infront, spelledBy header, spelledBy value,
    spelledBy behind ++ after⟩, rfl, ⟨?_, ?_, ?_, ?_⟩, ?_, ?_, ?_⟩
  · have hcloser : spelledBy closing = a.form.closer := by
      rw [spelledBy_of_not_blank (hclosing ▸ isBlank_of_mem_closer), hclosing]
    rw [h.text_eq, hps, Attribute.line, ← hcloser]
    simp only [spelledBy_append, List.append_assoc]
  · exact isHeader_spelledBy (hheader ▸ ha.header)
  · exact not_mem_spelledBy (isBlank_delimiter _) (hvalue ▸ ha.free)
  · exact mayFollow_spelledBy h.front (hinfront ▸ ha.allowed)
  · have hlength : a.valueStart = (infront ++ header).length := by
      rw [Attribute.valueStart, ← hinfront, ← hheader, length_shownBy, length_shownBy,
        List.length_append]
    rw [hlength, h.place_length hstart, spelledBy_append, Attribute.valueStart]
    simp only [List.length_append, Nat.add_assoc]
  · have hlength : a.valueEnd = (infront ++ header ++ value).length := by
      rw [Attribute.valueEnd, Attribute.valueStart, ← hinfront, ← hheader, ← hvalue,
        length_shownBy, length_shownBy, length_shownBy, List.length_append, List.length_append]
    rw [hlength, h.place_length hend, spelledBy_append, spelledBy_append, Attribute.valueEnd,
      Attribute.valueStart]
    simp only [List.length_append, Nat.add_assoc]
  · rw [← hvalue]
    exact tokenize_spelledBy value

end ReadsOff

end ClassLift
