/-
  Carrying occurrences over from one line to another that differs between two quotes.

  A line is `front`, a quote, some text, the same quote, `behind`.  Another text is put between the two
  quotes.  The rest of the line is arbitrary: it may hold headers that are never closed, headers of other
  forms inside what looks like a value, quotes without a meaning.  Still, if neither text holds an equals
  sign or a quote (`IsPlain`) and neither is blank, the occurrences in the two lines correspond:

  1. **A header cannot touch the text.**  It holds no quote twice, so it cannot reach over both quotes;
     and it holds an equals sign in front of its quotes, so it cannot start inside the text
     (`header_behind`).

  2. **Three places.**  So a header stands in front of the text or behind it.  If in front, either the
     whole occurrence does, or its value covers the text (`Attribute.OccursIn.place`).  There is ONE
     exception, a closer of two characters that is cut by the first quote: then the text starts with the
     closing bracket of a form whose delimiter is that quote (`Form.ClosesInto`).

  3. **Carrying over.**  In each place the occurrence stays one when the text is changed, at the place
     where it was or moved by the difference in length, and blank or not as it was
     (`Attribute.OccursIn.carry`).
-/
import ClassLift.Proofs.Trimming

namespace ClassLift

/-! ## Marks -/

/-- The characters that give an attribute its shape: the equals sign and the quotes. -/
def marks : Text := ['=', '"', '\x27', '`']

/-- A text without equals signs and quotes. -/
def IsPlain (t : Text) : Prop := ∀ c ∈ t, c ∉ marks

theorem delimiter_mem_marks (f : Form) : f.delimiter ∈ marks := by cases f <;> decide

theorem delimiter_ne_equals (f : Form) : f.delimiter ≠ '=' := by cases f <;> decide

theorem IsPlain.delimiter_not_mem {t : Text} (h : IsPlain t) (f : Form) : f.delimiter ∉ t :=
  fun hm => h _ hm (delimiter_mem_marks f)

theorem IsPlain.equals_not_mem {t : Text} (h : IsPlain t) : '=' ∉ t := fun hm => h _ hm (by decide)

theorem isPlain_keyword (f : Form) : IsPlain f.keyword := by
  cases f <;> exact forall_mem_of_all (by decide)

theorem AllBlank.isPlain {b : Text} (h : AllBlank b) : IsPlain b := by
  intro c hc hmark
  have hsolid : ∀ d ∈ marks, isBlank d = false := forall_mem_of_all (by decide)
  exact h.not_mem (hsolid c hmark) hc

theorem IsPlain.append {s t : Text} (hs : IsPlain s) (ht : IsPlain t) : IsPlain (s ++ t) := by
  intro c hc
  rcases List.mem_append.mp hc with hc | hc
  · exact hs c hc
  · exact ht c hc

/-! ## Marks of a header -/

section

variable {f g : Form} {header : Text}

/-- A header holds no quote twice. -/
theorem Form.IsHeader.count_delimiter_le (h : f.IsHeader header) (g : Form) :
    header.count g.delimiter ≤ 1 := by
  obtain ⟨b₁, b₂, hb₁, hb₂, rfl⟩ := h
  have hopener : f.opener.count g.delimiter ≤ 1 := by cases f <;> cases g <;> decide
  have hequals : ('=' == g.delimiter) = false :=
    beq_eq_false_iff_ne.mpr (delimiter_ne_equals g).symm
  have hzero : ∀ {t : Text}, IsPlain t → t.count g.delimiter = 0 := fun ht =>
    List.count_eq_zero_of_not_mem (ht.delimiter_not_mem g)
  simp only [List.count_append, List.count_cons, hzero (isPlain_keyword f), hzero hb₁.isPlain,
    hzero hb₂.isPlain, hequals]
  simpa using hopener

/-- Where a text is cut at one character and at another that does not stand in front of the first, the
    first stands in front of the second. -/
theorem mem_of_append_cons_eq {s t u v : Text} {c d : Char} (h : s ++ c :: t = u ++ d :: v)
    (hd : d ∉ s) (hne : d ≠ c) : c ∈ u := by
  rcases List.append_eq_append_iff.mp h with ⟨overlap, rfl, hrest⟩ | ⟨overlap, rfl, hrest⟩
  · cases overlap with
    | nil => exact absurd (List.cons.inj hrest).1.symm hne
    | cons e overlap =>
      obtain ⟨rfl, -⟩ := List.cons.inj hrest
      exact List.mem_append_right s List.mem_cons_self
  · cases overlap with
    | nil => exact absurd (List.cons.inj hrest).1 hne
    | cons e overlap =>
      obtain ⟨rfl, -⟩ := List.cons.inj hrest
      exact absurd (List.mem_append_right u List.mem_cons_self) hd

/-- In front of a quote of a header stands its equals sign. -/
theorem Form.IsHeader.equals_mem {front rest : Text} (h : f.IsHeader header)
    (hsplit : header = front ++ g.delimiter :: rest) : '=' ∈ front := by
  obtain ⟨b₁, b₂, hb₁, -, hheader⟩ := h
  have hshape : (f.keyword ++ b₁) ++ '=' :: (b₂ ++ f.opener) = front ++ g.delimiter :: rest := by
    rw [← hsplit, hheader, List.append_assoc _ _ f.opener, List.cons_append]
  exact mem_of_append_cons_eq hshape (((isPlain_keyword f).append hb₁.isPlain).delimiter_not_mem g)
    (delimiter_ne_equals g)

/-- A header starts with a character of the keyword. -/
theorem Form.IsHeader.exists_cons (h : f.IsHeader header) :
    ∃ c rest, header = c :: rest ∧ c ∉ marks := by
  obtain ⟨b₁, b₂, -, -, rfl⟩ := h
  have hkeyword : ∃ c rest, f.keyword = c :: rest := by cases f <;> exact ⟨_, _, rfl⟩
  obtain ⟨c, rest, hc⟩ := hkeyword
  refine ⟨c, _, by rw [hc]; rfl, isPlain_keyword f c ?_⟩
  rw [hc]
  exact List.mem_cons_self

/-- **A header cannot touch plain text between two quotes**: one that ends behind the text starts behind
    the second quote. -/
theorem header_behind {before front mid rest : Text} (h : f.IsHeader header) (hmid : IsPlain mid)
    (hsplit : before ++ header = front ++ g.delimiter :: (mid ++ g.delimiter :: rest)) :
    ∃ gap, before = front ++ g.delimiter :: (mid ++ g.delimiter :: gap) ∧ rest = gap ++ header := by
  have hcut : before ++ header = (front ++ g.delimiter :: mid) ++ g.delimiter :: rest := by
    rw [hsplit, List.append_assoc, List.cons_append]
  rcases List.append_eq_append_iff.mp hcut with ⟨overlap, hover, hheader⟩ | ⟨overlap, rfl, hrest⟩
  · -- the header would hold the second quote, and its equals sign would have to stand in `overlap`
    exfalso
    have hequals : '=' ∈ overlap := h.equals_mem hheader
    rcases List.append_eq_append_iff.mp hover with ⟨part, rfl, hpart⟩ | ⟨part, -, rfl⟩
    · -- `overlap` starts behind the first quote, in plain text, or it holds that quote
      cases part with
      | nil =>
        rw [List.nil_append] at hpart
        have hcount := h.count_delimiter_le g
        rw [hheader, ← hpart] at hcount
        simp only [List.cons_append, List.count_append, List.count_cons_self] at hcount
        omega
      | cons c part =>
        obtain ⟨-, rfl⟩ := List.cons.inj hpart
        exact hmid.equals_not_mem (List.mem_append_right part hequals)
    · have hcount := h.count_delimiter_le g
      rw [hheader] at hcount
      simp only [List.count_append, List.count_cons_self] at hcount
      omega
  · cases overlap with
    | nil =>
      -- the header would start with the second quote
      obtain ⟨c, behind, rfl, hc⟩ := h.exists_cons
      obtain ⟨rfl, -⟩ := List.cons.inj hrest
      exact absurd (delimiter_mem_marks g) hc
    | cons c gap =>
      obtain ⟨rfl, hgap⟩ := List.cons.inj hrest
      refine ⟨gap, ?_, hgap⟩
      rw [List.append_assoc, List.cons_append]

end

/-! ## Three places -/

/-- The form could be closed by its delimiter in front of a text together with the first character of
    that text. -/
def Form.ClosesInto (f : Form) (quoted : Form) (mid : Text) : Prop :=
  f.delimiter = quoted.delimiter ∧ f.closingBracket.head? = mid.head?

/-- A closing bracket is one character at most. -/
theorem closer_eq_append {f : Form} {z u : Text} (h : f.closer = z ++ u) (hz : z ≠ [])
    (hu : u ≠ []) : z = [f.delimiter] ∧ u = f.closingBracket := by
  have hlength : f.closingBracket.length ≤ 1 := by cases f <;> decide
  obtain ⟨c, z, rfl⟩ := List.exists_cons_of_ne_nil hz
  rw [closer_eq, List.cons_append] at h
  obtain ⟨rfl, hrest⟩ := List.cons.inj h
  have hpos := List.length_pos_iff.mpr hu
  have hlengths := congrArg List.length hrest
  rw [List.length_append] at hlengths
  obtain rfl : z = [] := List.length_eq_zero_iff.mp (by omega)
  exact ⟨rfl, hrest.symm⟩

section

variable {a b : Attribute} {g : Form} {front mid behind : Text}

/-- A line with a text between two quotes, which are those of a form. -/
def quotedLine (front : Text) (g : Form) (mid behind : Text) : Text :=
  front ++ g.delimiter :: (mid ++ g.delimiter :: behind)

/-- Where an occurrence in a line may stand: in front of the text, around it with its value, or behind
    it. -/
inductive Attribute.Placed (b : Attribute) (front : Text) (g : Form) (mid behind : Text) : Prop
  | inFront (rest : Text) (split : front ++ [g.delimiter] = b.before ++ b.fullMatch ++ rest)
      (after : b.after = rest ++ mid ++ g.delimiter :: behind)
  | around (x y : Text) (split : front ++ [g.delimiter] = b.before ++ b.header ++ x)
      (raw : b.raw = x ++ mid ++ y) (after : y ++ b.form.closer ++ b.after = g.delimiter :: behind)
  | behind (gap : Text) (before : b.before = quotedLine front g mid gap)
      (split : behind = gap ++ b.fullMatch ++ b.after)

/-- A plain text that is cut in front of something that starts with a delimiter is not cut at all. -/
theorem eq_nil_of_plain_append {f : Form} {z u s t : Text} (hmid : IsPlain mid) (hcut : mid = z ++ u)
    (h : f.closer ++ s = u ++ t) : u = [] := by
  cases u with
  | nil => rfl
  | cons c u =>
    obtain ⟨rfl, -⟩ := List.cons.inj h
    rw [hcut] at hmid
    exact absurd (List.mem_append_right z List.mem_cons_self) (hmid.delimiter_not_mem f)

/-- If the header stands in front of the text, the occurrence does, or its value covers the text. -/
theorem Attribute.placed_of_header_in_front {x : Text} (hmid : IsPlain mid) (hne : mid ≠ [])
    (hclose : ¬b.form.ClosesInto g mid) (hfront : front ++ [g.delimiter] = b.before ++ b.header ++ x)
    (hrest : b.raw ++ (b.form.closer ++ b.after) = x ++ (mid ++ g.delimiter :: behind)) :
    b.Placed front g mid behind := by
  rcases List.append_eq_append_iff.mp hrest with ⟨z, rfl, hclosing⟩ | ⟨z, hraw, hclosing⟩
  · -- the value ends in front of the text, and so does the closer unless the quote cuts it
    rcases List.append_eq_append_iff.mp hclosing with ⟨rest, rfl, hafter⟩ | ⟨u, hcloser, hafter⟩
    · refine .inFront rest ?_ ?_
      · rw [hfront, Attribute.fullMatch]
        simp only [List.append_assoc]
      · rw [hafter, List.append_assoc]
    · by_cases hu : u = []
      · subst hu
        rw [List.append_nil] at hcloser
        refine .inFront [] ?_ hafter.symm
        rw [hfront, ← hcloser, Attribute.fullMatch, List.append_nil]
        simp only [List.append_assoc]
      · exfalso
        obtain ⟨c, rest, rfl⟩ := List.exists_cons_of_ne_nil hu
        obtain ⟨d, mid, rfl⟩ := List.exists_cons_of_ne_nil hne
        obtain ⟨rfl, -⟩ := List.cons.inj hafter
        by_cases hz : z = []
        · -- the text would start with the delimiter
          subst hz
          obtain ⟨rfl, -⟩ := List.cons.inj hcloser
          exact hmid.delimiter_not_mem b.form List.mem_cons_self
        · obtain ⟨rfl, hbracket⟩ := closer_eq_append hcloser hz hu
          refine hclose ⟨?_, by rw [← hbracket]; rfl⟩
          rw [← List.append_assoc] at hfront
          exact (List.cons.inj (List.append_inj_right' hfront rfl)).1.symm
  · -- the value goes on into the text, and cannot end there
    rcases List.append_eq_append_iff.mp hclosing with ⟨y, rfl, hafter⟩ | ⟨u, hcut, hafter⟩
    · refine .around x y hfront (by rw [hraw, List.append_assoc]) ?_
      rw [hafter, List.append_assoc]
    · obtain rfl := eq_nil_of_plain_append hmid hcut hafter
      rw [List.append_nil] at hcut
      exact .around x [] hfront (by rw [hraw, hcut, List.append_nil]) hafter

/-- If the header does not stand in front of the text, the occurrence stands behind it. -/
theorem Attribute.placed_of_header_beyond {z : Text} (hheader : b.form.IsHeader b.header)
    (hmid : IsPlain mid) (hz : z ≠ [])
    (hsplit : b.before ++ b.header = front ++ [g.delimiter] ++ z)
    (hrest : mid ++ g.delimiter :: behind = z ++ (b.raw ++ (b.form.closer ++ b.after))) :
    b.Placed front g mid behind := by
  -- the header ends in its delimiter, so the part of it that is not in front holds that one
  have hlast : b.form.delimiter ∈ z := by
    obtain ⟨start, hstart⟩ := hheader.exists_concat
    have hends := congrArg List.getLast? hsplit
    rw [hstart, ← List.append_assoc, List.getLast?_concat,
      List.getLast?_append_of_ne_nil _ hz] at hends
    exact List.mem_of_getLast? hends.symm
  rcases List.append_eq_append_iff.mp hrest with ⟨overlap, rfl, hbehind⟩ | ⟨overlap, rfl, -⟩
  · cases overlap with
    | nil =>
      rw [List.append_nil] at hlast
      exact absurd hlast (hmid.delimiter_not_mem b.form)
    | cons c rest =>
      obtain ⟨rfl, hnext⟩ := List.cons.inj hbehind
      rw [List.append_assoc] at hsplit
      obtain ⟨gap, hbefore, rfl⟩ := header_behind hheader hmid hsplit
      refine .behind gap hbefore ?_
      calc behind = gap ++ b.header ++ (b.raw ++ (b.form.closer ++ b.after)) := hnext
        _ = gap ++ b.fullMatch ++ b.after := by
          rw [Attribute.fullMatch]
          simp only [List.append_assoc]
  · exact absurd (List.mem_append_left overlap hlast) (hmid.delimiter_not_mem b.form)

/-- **An occurrence stands in one of the three places.** -/
theorem Attribute.OccursIn.place (hb : b.OccursIn (quotedLine front g mid behind))
    (hmid : IsPlain mid) (hne : mid ≠ []) (hclose : ¬b.form.ClosesInto g mid) :
    b.Placed front g mid behind := by
  have hline : (b.before ++ b.header) ++ (b.raw ++ (b.form.closer ++ b.after)) =
      (front ++ [g.delimiter]) ++ (mid ++ g.delimiter :: behind) := by
    rw [← hb.text_eq, quotedLine, List.append_assoc]
    rfl
  rcases List.append_eq_append_iff.mp hline with ⟨x, hfront, hrest⟩ | ⟨z, hheader, hrest⟩
  · exact placed_of_header_in_front hmid hne hclose hfront hrest
  · by_cases hz : z = []
    · subst hz
      rw [List.append_nil] at hheader
      exact placed_of_header_in_front hmid hne hclose (x := []) (by rw [hheader, List.append_nil])
        hrest.symm
    · exact placed_of_header_beyond hb.header hmid hz hheader hrest

/-! ## Carrying over -/

/-- Two occurrences at corresponding places of two lines that differ in the text between two quotes:
    at the same place in front of that text, or as far behind it. -/
def SamePlace (front mid mid' : Text) (b b' : Attribute) : Prop :=
  (b.before.length ≤ front.length ∧ b'.before.length = b.before.length) ∨
    (front.length + mid.length < b.before.length ∧
      b'.before.length + mid.length = b.before.length + mid'.length)

/-- **An occurrence is carried over** when plain text that is not blank takes the place of such text
    between two quotes: it has a counterpart of its form, at the corresponding place, and blank exactly
    if it is. -/
theorem Attribute.OccursIn.carry {mid' : Text} (hb : b.OccursIn (quotedLine front g mid behind))
    (hmid : IsPlain mid) (hsome : ¬AllBlank mid) (hclose : ¬b.form.ClosesInto g mid)
    (hmid' : IsPlain mid') (hsome' : ¬AllBlank mid') :
    ∃ b' : Attribute, b'.form = b.form ∧ b'.OccursIn (quotedLine front g mid' behind) ∧
      SamePlace front mid mid' b b' ∧ (AllBlank b.raw ↔ AllBlank b'.raw) := by
  have hne : mid ≠ [] := by
    rintro rfl
    exact hsome allBlank_nil
  have hline' : quotedLine front g mid' behind =
      (front ++ [g.delimiter]) ++ (mid' ++ g.delimiter :: behind) := by
    rw [quotedLine, List.append_assoc]
    rfl
  obtain ⟨c, keyword, hkeyword, -⟩ := hb.header.exists_cons
  rcases hb.place hmid hne hclose with
    ⟨rest, hsplit, hafter⟩ | ⟨x, y, hsplit, hraw, hafter⟩ | ⟨gap, hbefore, hsplit⟩
  · refine ⟨{ b with after := rest ++ mid' ++ g.delimiter :: behind }, rfl,
      ⟨?_, hb.header, hb.free, hb.allowed⟩, Or.inl ⟨?_, rfl⟩, Iff.rfl⟩
    · rw [hline', hsplit, Attribute.line, Attribute.fullMatch]
      simp only [List.append_assoc]
    · have hlength := congrArg List.length hsplit
      rw [Attribute.fullMatch, hkeyword] at hlength
      simp only [List.length_append, List.length_cons, List.length_nil] at hlength
      omega
  · refine ⟨{ b with raw := x ++ mid' ++ y }, rfl, ⟨?_, hb.header, ?_, hb.allowed⟩,
      Or.inl ⟨?_, rfl⟩, ?_⟩
    · rw [hline', hsplit, ← hafter, Attribute.line]
      simp only [List.append_assoc]
    · have hfree := hb.free
      rw [hraw] at hfree
      simp only [List.mem_append, not_or] at hfree ⊢
      exact ⟨⟨hfree.1.1, hmid'.delimiter_not_mem b.form⟩, hfree.2⟩
    · have hlength := congrArg List.length hsplit
      rw [hkeyword] at hlength
      simp only [List.length_append, List.length_cons, List.length_nil] at hlength
      omega
    · -- neither value is blank, since both hold a text that is not
      have hcovers : ∀ {t : Text}, ¬AllBlank t → ¬AllBlank (x ++ t ++ y) := fun ht hall =>
        ht fun c hc => hall c (List.mem_append_left y (List.mem_append_right x hc))
      rw [hraw]
      exact iff_of_false (hcovers hsome) (hcovers hsome')
  · refine ⟨{ b with before := quotedLine front g mid' gap }, rfl, ⟨?_, hb.header, hb.free, ?_⟩,
      Or.inr ⟨?_, ?_⟩, Iff.rfl⟩
    · rw [hsplit, Attribute.line, Attribute.fullMatch, quotedLine, quotedLine]
      simp only [List.append_assoc, List.cons_append]
    · -- the character in front is the second quote or stands behind it
      have hlast : ∀ t : Text, (quotedLine front g t gap).getLast? =
          (g.delimiter :: gap).getLast? := by
        intro t
        rw [quotedLine, ← List.cons_append, ← List.append_assoc,
          List.getLast?_append_of_ne_nil _ (List.cons_ne_nil _ _)]
      have hallowed := hb.allowed
      rw [hbefore, hlast] at hallowed
      rw [hlast]
      exact hallowed
    · rw [hbefore, quotedLine]
      simp only [List.length_append, List.length_cons]
      omega
    · rw [hbefore, quotedLine, quotedLine]
      simp only [List.length_append, List.length_cons]
      omega

end

end ClassLift
