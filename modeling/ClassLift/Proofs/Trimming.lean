/-
  Trimming a line changes nothing about its attribute but where it stands.

  A line is searched as it is; a window holds its lines trimmed.  Both searches must agree, since
  what is suggested on a line is later asked for around it.

  1. **Behind the text.**  An occurrence ends in a closer, and no closer ends in a blank.  So blanks
     behind a text are behind every occurrence in it, at each start of the search
     (`Form.atStart?_append_blanks`) and hence in the whole search.

  2. **In front of it.**  No occurrence starts with a blank, so the search walks over blanks in
     front.  It arrives at the text with a blank behind it instead of nothing, and every form may
     follow either (`Form.leftmost?_blanks_append`).

  3. **Choice.**  The value is the same text in both searches, so the same form is chosen, and the
     attribute of the line is that of the trimmed line between the blanks (`findAttribute_strip`).
-/
import ClassLift.Proofs.Occurrence

namespace ClassLift

/-! ## An occurrence between blanks -/

/-- The same occurrence in a line with more text around it. -/
def Attribute.between (front behind : Text) (a : Attribute) : Attribute :=
  { a with before := front ++ a.before, after := a.after ++ behind }

namespace Attribute

variable (front behind : Text) (a : Attribute)

@[simp]
theorem line_between : (a.between front behind).line = front ++ a.line ++ behind := by
  simp only [line, between, List.append_assoc]

@[simp]
theorem valueStart_between :
    (a.between front behind).valueStart = front.length + a.valueStart := by
  show (front ++ a.before).length + a.header.length = front.length + (a.before.length + _)
  rw [List.length_append, Nat.add_assoc]

@[simp]
theorem valueEnd_between : (a.between front behind).valueEnd = front.length + a.valueEnd := by
  show (a.between front behind).valueStart + a.raw.length = front.length + (a.valueStart + _)
  rw [valueStart_between, Nat.add_assoc]

end Attribute

namespace Form

variable {f : Form} {b t : Text}

/-- Every form may stand at the start of a line. -/
@[simp]
theorem mayFollow_none (f : Form) : f.mayFollow none = true := by
  cases f <;> rfl

/-! ## Blanks behind the text -/

theorem closer_ne_nil (f : Form) : f.closer ≠ [] := List.cons_ne_nil _ _

/-- What ends in a closer and blanks leaves the blanks to what follows: the closer cannot reach into
    them. -/
theorem exists_of_append_closer_append {front after : Text} (hb : AllBlank b)
    (h : front ++ f.closer ++ after = t ++ b) : ∃ rest, after = rest ++ b := by
  rcases List.append_eq_append_iff.mp h with ⟨reach, ht, hafter⟩ | ⟨reach, hcloser, hblank⟩
  · exact ⟨reach, hafter⟩
  · -- `reach` is both an end of the closer and a start of the blanks, so it is empty
    have hnil : reach = [] := by
      by_contra hne
      obtain ⟨c, hc⟩ := Option.ne_none_iff_exists'.mp (mt List.getLast?_eq_none_iff.mp hne)
      have hlast : (front ++ f.closer).getLast? = some c := by
        rw [hcloser, List.getLast?_append_of_ne_nil t hne, hc]
      rw [List.getLast?_append_of_ne_nil front f.closer_ne_nil] at hlast
      have hsolid : isBlank c = false :=
        isBlank_of_mem_closer c (List.mem_of_getLast? hlast)
      have hblank : isBlank c = true := by
        refine hb c ?_
        rw [hblank]
        exact List.mem_append_left after (List.mem_of_getLast? hc)
      rw [hsolid] at hblank
      exact absurd hblank (by decide)
    rw [hnil, List.nil_append] at hblank
    exact ⟨[], by rw [hblank, List.nil_append]⟩

/-- Blanks behind a text are behind the occurrence at its start. -/
theorem atStart?_append_blanks (hb : AllBlank b) :
    f.atStart? (t ++ b) = (f.atStart? t).map (Attribute.between [] b) := by
  cases hfound : f.atStart? t with
  | some a =>
    obtain ⟨hform, hbefore, hheader, hfree, hline⟩ := atStart?_eq_some_iff.mp hfound
    refine atStart?_eq_some_iff.mpr ⟨hform, hbefore, hheader, hfree, ?_⟩
    rw [Attribute.line_between, hline, List.nil_append]
  | none =>
    rw [Option.map_none, Option.eq_none_iff_forall_not_mem]
    intro a ha
    obtain ⟨rfl, hbefore, hheader, hfree, hline⟩ := atStart?_eq_some_iff.mp ha
    obtain ⟨rest, hafter⟩ := exists_of_append_closer_append hb hline
    -- without the blanks the occurrence would have been found in the text itself
    have hshort : a.form.atStart? t = some { a with after := rest } := by
      refine atStart?_eq_some_iff.mpr ⟨rfl, hbefore, hheader, hfree, ?_⟩
      rw [Attribute.line, hafter, ← List.append_assoc] at hline
      exact List.append_cancel_right hline
    rw [hfound] at hshort
    exact absurd hshort (by simp)

/-- An occurrence does not start with a blank. -/
theorem atStart?_cons_blank {c : Char} (hc : isBlank c = true) (t : Text) :
    f.atStart? (c :: t) = none := by
  rw [Option.eq_none_iff_forall_not_mem]
  intro a ha
  obtain ⟨rfl, hbefore, ⟨b₁, b₂, -, -, hheader⟩, -, hline⟩ := atStart?_eq_some_iff.mp ha
  have hsolid : ∃ d rest, a.form.keyword = d :: rest ∧ isBlank d = false := by
    cases a.form <;> exact ⟨_, _, rfl, by decide⟩
  obtain ⟨d, rest, hkeyword, hd⟩ := hsolid
  rw [Attribute.line, hbefore, hheader, hkeyword] at hline
  obtain ⟨rfl, -⟩ := List.cons.inj hline
  rw [hd] at hc
  exact absurd hc (by decide)

/-- Nothing occurs in blanks. -/
theorem leftmost?_of_allBlank {previous : Option Char} (hb : AllBlank b) :
    f.leftmost? previous b = none := by
  induction b generalizing previous with
  | nil => rfl
  | cons c b ih =>
    rw [leftmost?, atStart?_cons_blank (hb c List.mem_cons_self), ih hb.of_cons]
    cases f.mayFollow previous <;> rfl

/-- Blanks behind a text are behind what is found in it. -/
theorem leftmost?_append_blanks {previous : Option Char} (hb : AllBlank b) :
    f.leftmost? previous (t ++ b) = (f.leftmost? previous t).map (Attribute.between [] b) := by
  induction t generalizing previous with
  | nil => exact leftmost?_of_allBlank hb
  | cons c t ih =>
    have hhere : (if f.mayFollow previous then f.atStart? (c :: (t ++ b)) else none) =
        (if f.mayFollow previous then f.atStart? (c :: t) else none).map
          (Attribute.between [] b) := by
      split
      · rw [← List.cons_append]
        exact atStart?_append_blanks hb
      · rfl
    rw [List.cons_append, leftmost?, leftmost?, hhere, ih]
    cases (if f.mayFollow previous then f.atStart? (c :: t) else none) with
    | some a => rfl
    | none =>
      rw [Option.map_none, Option.map_map, Option.map_map]
      rfl

/-! ## Blanks in front of it -/

/-- The search looks at the character in front only to tell whether the form may follow it. -/
theorem leftmost?_congr {previous previous' : Option Char}
    (h : f.mayFollow previous = f.mayFollow previous') :
    f.leftmost? previous t = f.leftmost? previous' t := by
  cases t with
  | nil => rfl
  | cons c t => rw [leftmost?, leftmost?, h]

/-- The search walks over blanks in front. -/
theorem leftmost?_blanks_append {previous : Option Char} (hb : AllBlank b)
    (hprevious : f.mayFollow previous = true) :
    f.leftmost? previous (b ++ t) = (f.leftmost? none t).map (Attribute.between b []) := by
  induction b generalizing previous with
  | nil =>
    have hsame : Attribute.between [] [] = id := by
      funext a
      rw [Attribute.between, List.append_nil, List.nil_append, id]
    rw [List.nil_append, leftmost?_congr (hprevious.trans f.mayFollow_none.symm), hsame,
      Option.map_id_apply]
  | cons c b ih =>
    have hc : isBlank c = true := hb c List.mem_cons_self
    rw [List.cons_append, leftmost?, atStart?_cons_blank hc,
      ih hb.of_cons (mayFollow_of_isBlank hc), ite_self, Option.map_map]
    rfl

end Form

/-! ## The attribute of a line -/

/-- **Blanks around a text** are around the attribute that is found in it. -/
theorem findAttribute_between {front behind t : Text} (hfront : AllBlank front)
    (hbehind : AllBlank behind) :
    findAttribute (front ++ t ++ behind) =
      (findAttribute t).map (Attribute.between front behind) := by
  have hleftmost : ∀ f : Form, f.leftmost? none (front ++ t ++ behind) =
      (f.leftmost? none t).map (Attribute.between front behind) := by
    intro f
    rw [Form.leftmost?_append_blanks hbehind,
      Form.leftmost?_blanks_append hfront f.mayFollow_none, Option.map_map]
    refine Option.map_congr fun a _ => ?_
    rw [Function.comp_apply, Attribute.between, Attribute.between, Attribute.between,
      List.nil_append, List.append_nil]
  rw [findAttribute, findAttribute, List.map_findSome?]
  refine congrArg (List.findSome? · Form.all) (funext fun f => ?_)
  rw [hleftmost, Option.filter_map]
  rfl

/-- **The attribute of a line is that of the trimmed line**, between the blanks of the line. -/
theorem findAttribute_strip (l : Text) :
    ∃ front behind, front.length = leadingBlanks l ∧
      findAttribute l = (findAttribute (strip l)).map (Attribute.between front behind) := by
  obtain ⟨front, behind, hfront, hbehind, hlength, hsplit⟩ := exists_strip_split l
  refine ⟨front, behind, hlength, ?_⟩
  rw [← findAttribute_between hfront hbehind, ← hsplit]

end ClassLift
