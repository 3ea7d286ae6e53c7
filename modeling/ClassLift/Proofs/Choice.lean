/-
  The attribute of a line is the one that the grammar chooses.

  `Attribute.OccursIn` says what it means that a form occurs at a place of a line, without a word on
  the search.  Said with it alone, the attribute of a line is this: of every form only the LEFTMOST
  occurrence counts, a form whose leftmost occurrence is blank is passed over, and of the forms that
  are left the one tried first is taken, wherever in the line it stands.

  1. **A place fixes the occurrence.**  Two occurrences of a form at one place are the same
     (`Attribute.OccursIn.unique`): behind the blanks and up to the first delimiter there is no
     choice.  So a form has at most one leftmost occurrence.

  2. **The search misses nothing.**  If a form occurs somewhere, the search answers, and not further
     right (`Form.exists_leftmost?`, by induction on the text; the character in front is what the
     state of the search remembers of the text that it has passed).  What it answers with occurs, so
     it is the leftmost occurrence and nothing else is (`Form.leftmost?_eq_some_iff`).

  3. **The choice** between the forms is the first answer of a list, hence the statement on all
     forms in front of it (`findAttribute_eq_some_iff`).
-/
import ClassLift.Proofs.Occurrence

namespace ClassLift

/-! ## Leftmost occurrences -/

/-- An occurrence such that its form does not occur further left. -/
structure Attribute.IsLeftmostIn (a : Attribute) (line : Text) : Prop where
  occurs : a.OccursIn line
  first : ∀ b : Attribute, b.form = a.form → b.OccursIn line → a.before.length ≤ b.before.length

/-- One form is tried before another. -/
def Form.IsTriedBefore (f g : Form) : Prop := Form.all.idxOf f < Form.all.idxOf g

section

variable {a b : Attribute} {line : Text}

/-- **A place fixes the occurrence**: a form occurs at a place of a line in one way only. -/
theorem Attribute.OccursIn.unique (ha : a.OccursIn line) (hb : b.OccursIn line)
    (hform : b.form = a.form) (hplace : b.before.length = a.before.length) : b = a := by
  have hbefore : b.before = a.before := by
    rw [← ha.take_before, ← hb.take_before, hplace]
  have hfound := hb.atStart?_drop
  rw [hform, hplace, ha.atStart?_drop] at hfound
  obtain ⟨-, -, hheader, hraw, hafter⟩ := Attribute.mk.inj (Option.some.inj hfound)
  obtain ⟨form, before, header, raw, after⟩ := a
  obtain ⟨form', before', header', raw', after'⟩ := b
  rw [Attribute.mk.injEq]
  exact ⟨hform, hbefore, hheader.symm, hraw.symm, hafter.symm⟩

/-- A form has one leftmost occurrence at most. -/
theorem Attribute.IsLeftmostIn.unique (ha : a.IsLeftmostIn line) (hb : b.IsLeftmostIn line)
    (hform : b.form = a.form) : b = a := by
  have hle := ha.first b hform hb.occurs
  have hge := hb.first a hform.symm ha.occurs
  exact ha.occurs.unique hb.occurs hform (by omega)

end

/-! ## The search misses nothing -/

namespace Form

variable {f : Form} {text line : Text} {previous : Option Char} {a b : Attribute}

/-- The character in front of an occurrence, seen from one character further right. -/
theorem getLast?_cons_or (c : Char) (t : Text) (previous : Option Char) :
    ((c :: t).getLast?).or previous = t.getLast?.or (some c) := by
  rw [List.getLast?_cons]
  cases t.getLast? <;> rfl

/-- **Where a form occurs, the search answers**, and it does not answer further right.  The text
    stands behind the character `previous`. -/
theorem exists_leftmost? (hform : b.form = f) (hline : b.line = text)
    (hheader : f.IsHeader b.header) (hfree : f.delimiter ∉ b.raw)
    (hallowed : f.mayFollow (b.before.getLast?.or previous) = true) :
    ∃ a, f.leftmost? previous text = some a ∧ a.before.length ≤ b.before.length := by
  induction text generalizing previous b with
  | nil =>
    -- an empty text has no closer
    simp [Attribute.line, closer_eq] at hline
  | cons c rest ih =>
    rw [leftmost?]
    split
    case h_1 found hfound =>
      split at hfound
      case isFalse => exact absurd hfound (by simp)
      case isTrue =>
        obtain ⟨-, hbefore, -⟩ := atStart?_eq_some_iff.mp hfound
        refine ⟨found, rfl, ?_⟩
        rw [hbefore]
        exact Nat.zero_le _
    case h_2 hnone =>
      cases hbefore : b.before with
      | nil =>
        -- the occurrence starts here, where nothing was found
        have hhere : f.atStart? (c :: rest) = some b :=
          atStart?_eq_some_iff.mpr ⟨hform, hbefore, hheader, hfree, hline⟩
        rw [hbefore] at hallowed
        change f.mayFollow previous = true at hallowed
        rw [if_pos hallowed, hhere] at hnone
        exact absurd hnone (by simp)
      | cons d before =>
        have hsplit : d :: Attribute.line { b with before := before } = c :: rest := by
          rw [← hline, Attribute.line, Attribute.line, hbefore]
          rfl
        obtain ⟨rfl, hrest⟩ := List.cons.inj hsplit
        rw [hbefore, getLast?_cons_or] at hallowed
        obtain ⟨a, ha, hle⟩ := ih (b := { b with before := before }) hform hrest hheader hfree
          hallowed
        refine ⟨a.shift d, ?_, Nat.succ_le_succ hle⟩
        rw [ha]
        rfl

/-- What the search answers with occurs in the line. -/
theorem occursIn_of_leftmost? (h : f.leftmost? none line = some a) :
    a.form = f ∧ a.OccursIn line := by
  obtain ⟨rfl, hline, hheader, hfree, hallowed⟩ := leftmost?_sound h
  rw [Option.or_none] at hallowed
  exact ⟨rfl, hline, hheader, hfree, hallowed⟩

/-- A form that occurs in a line is found there, and not further right. -/
theorem exists_leftmost?_of_occursIn (hb : b.OccursIn line) (hform : b.form = f) :
    ∃ a, f.leftmost? none line = some a ∧ a.before.length ≤ b.before.length := by
  subst hform
  refine exists_leftmost? rfl hb.line_eq hb.header hb.free ?_
  rw [Option.or_none]
  exact hb.allowed

/-- **The search answers with the leftmost occurrence** of the form, and with nothing else. -/
theorem leftmost?_eq_some_iff :
    f.leftmost? none line = some a ↔ a.form = f ∧ a.IsLeftmostIn line := by
  constructor
  · intro h
    obtain ⟨hform, hoccurs⟩ := occursIn_of_leftmost? h
    refine ⟨hform, hoccurs, fun b hb hline => ?_⟩
    obtain ⟨found, hfound, hle⟩ := exists_leftmost?_of_occursIn hline (hb.trans hform)
    obtain rfl : a = found := Option.some.inj (h.symm.trans hfound)
    exact hle
  · rintro ⟨hform, hleft⟩
    obtain ⟨found, hfound, hle⟩ := exists_leftmost?_of_occursIn hleft.occurs hform
    obtain ⟨hform', hoccurs⟩ := occursIn_of_leftmost? hfound
    have hsame : found.form = a.form := hform'.trans hform.symm
    have hge := hleft.first found hsame hoccurs
    rw [hfound, hleft.occurs.unique hoccurs hsame (by omega)]

end Form

/-! ## The choice -/

section

variable {line : Text} {a : Attribute}

theorem Form.mem_all (f : Form) : f ∈ Form.all := by cases f <;> decide

/-- The answer of one form counts if its value is not blank. -/
theorem leftmost?_filter_eq_some_iff {f : Form} :
    ((f.leftmost? none line).filter fun a => !a.value.isEmpty) = some a ↔
      (a.form = f ∧ a.IsLeftmostIn line) ∧ ¬AllBlank a.raw := by
  rw [Option.filter_eq_some_iff, Form.leftmost?_eq_some_iff, ← strip_eq_nil_iff]
  simp [Attribute.value]

/-- A form has no answer that counts exactly if its leftmost occurrence, if any, is blank. -/
theorem leftmost?_filter_eq_none_iff {f : Form} :
    ((f.leftmost? none line).filter fun a => !a.value.isEmpty) = none ↔
      ∀ b : Attribute, b.IsLeftmostIn line → b.form = f → AllBlank b.raw := by
  rw [Option.filter_eq_none_iff]
  constructor
  · intro h b hb hform
    have hvalue := h b (Form.leftmost?_eq_some_iff.mpr ⟨hform, hb⟩)
    rw [← strip_eq_nil_iff]
    simpa [Attribute.value] using hvalue
  · intro h b hb
    obtain ⟨hform, hleft⟩ := Form.leftmost?_eq_some_iff.mp hb
    have hvalue := strip_eq_nil_iff.mpr (h b hleft hform)
    simpa [Attribute.value] using hvalue

/-- In a list without repetitions, what is in front of an item is what has a smaller index. -/
theorem mem_front_iff {α : Type} [DecidableEq α] {front behind : List α} {x y : α}
    (hnodup : (front ++ x :: behind).Nodup) :
    y ∈ front ↔ (front ++ x :: behind).idxOf y < (front ++ x :: behind).idxOf x := by
  have hx : x ∉ front := by
    intro hmem
    exact (List.nodup_append.mp hnodup).2.2 x hmem x List.mem_cons_self rfl
  have hlast : (front ++ x :: behind).idxOf x = front.length := by
    rw [List.idxOf_append_of_notMem hx, List.idxOf_cons_self, Nat.add_zero]
  rw [hlast]
  constructor
  · intro hy
    rw [List.idxOf_append_of_mem hy]
    exact List.idxOf_lt_length_of_mem hy
  · intro hlt
    by_contra hy
    rw [List.idxOf_append_of_notMem hy] at hlt
    omega

/-- **Which attribute is found**: a leftmost occurrence that is not blank, while every form that is
    tried before has no leftmost occurrence or a blank one. -/
theorem findAttribute_eq_some_iff :
    findAttribute line = some a ↔
      a.IsLeftmostIn line ∧ ¬AllBlank a.raw ∧
        ∀ b : Attribute, b.IsLeftmostIn line → b.form.IsTriedBefore a.form → AllBlank b.raw := by
  have hnodup : Form.all.Nodup := by decide
  rw [findAttribute, List.findSome?_eq_some_iff]
  constructor
  · rintro ⟨front, f, behind, hall, hf, hfront⟩
    obtain ⟨⟨rfl, hleft⟩, hvalue⟩ := leftmost?_filter_eq_some_iff.mp hf
    refine ⟨hleft, hvalue, fun b hb hbefore => ?_⟩
    rw [Form.IsTriedBefore, hall] at hbefore
    have hmem : b.form ∈ front := (mem_front_iff (hall ▸ hnodup)).mpr hbefore
    exact leftmost?_filter_eq_none_iff.mp (hfront b.form hmem) b hb rfl
  · rintro ⟨hleft, hvalue, hbefore⟩
    obtain ⟨front, behind, hall⟩ := List.append_of_mem (Form.mem_all a.form)
    refine ⟨front, a.form, behind, hall, ?_, fun f hf => ?_⟩
    · exact leftmost?_filter_eq_some_iff.mpr ⟨⟨rfl, hleft⟩, hvalue⟩
    · rw [leftmost?_filter_eq_none_iff]
      rintro b hb rfl
      refine hbefore b hb ?_
      rw [Form.IsTriedBefore, hall]
      exact (mem_front_iff (hall ▸ hnodup)).mp hf

/-- **When none is found**: every leftmost occurrence is blank. -/
theorem findAttribute_eq_none_iff :
    findAttribute line = none ↔ ∀ b : Attribute, b.IsLeftmostIn line → AllBlank b.raw := by
  rw [findAttribute, List.findSome?_eq_none_iff]
  constructor
  · intro h b hb
    exact leftmost?_filter_eq_none_iff.mp (h b.form (Form.mem_all b.form)) b hb rfl
  · intro h f _
    exact leftmost?_filter_eq_none_iff.mpr fun b hb _ => h b hb

end

/-- **A line has the attribute that the grammar says.**

    * There is one exactly if some form's leftmost occurrence is not blank.
    * It is the leftmost occurrence of the first form of that kind, wherever it stands.
    * Its text stands in the line from where it occurs, its ends are those of the value as written,
      and its value is that without the blanks around it: not empty and free of the delimiter. -/
theorem findAttribute_follows_grammar (line : Text) :
    ((∃ a, findAttribute line = some a) ↔
      ∃ a : Attribute, a.IsLeftmostIn line ∧ ¬AllBlank a.raw) ∧
    (∀ a, findAttribute line = some a ↔
      a.IsLeftmostIn line ∧ ¬AllBlank a.raw ∧
        ∀ b : Attribute, b.IsLeftmostIn line → b.form.IsTriedBefore a.form → AllBlank b.raw) ∧
    ∀ a, findAttribute line = some a →
      line = a.before ++ (a.fullMatch ++ a.after) ∧
      (line.take a.valueEnd).drop a.valueStart = a.raw ∧
      (∃ l r, AllBlank l ∧ AllBlank r ∧ a.raw = l ++ a.value ++ r) ∧
      (∀ c, a.value.head? = some c ∨ a.value.getLast? = some c → isBlank c = false) ∧
      a.value ≠ [] ∧ a.form.delimiter ∉ a.value := by
  refine ⟨?_, fun a => findAttribute_eq_some_iff, fun a ha => ?_⟩
  · rw [← Option.isSome_iff_exists, Option.isSome_iff_ne_none, ne_eq, findAttribute_eq_none_iff]
    simp only [not_forall, exists_prop]
  · obtain ⟨hleft, hvalue, -⟩ := findAttribute_eq_some_iff.mp ha
    obtain ⟨l, r, hl, hr, -, hsplit⟩ := exists_strip_split a.raw
    refine ⟨hleft.occurs.text_eq_before, hleft.occurs.span_eq, ⟨l, r, hl, hr, hsplit⟩, ?_, ?_, ?_⟩
    · rintro c (hc | hc)
      · exact isBlank_of_head?_strip hc
      · exact isBlank_of_getLast?_strip hc
    · exact mt strip_eq_nil_iff.mp hvalue
    · intro hd
      refine hleft.occurs.free ?_
      rw [hsplit]
      exact List.mem_append_left r (List.mem_append_right l hd)

/-- A form in front of the others is passed over if its leftmost occurrence is blank, although it
    occurs again. -/
example : (findAttribute "<i className=\" \" class='a' className=\"b\">".toList).map
    (fun a => (a.form, a.value)) = some (.plainSingle, "a".toList) := by decide

end ClassLift
