/-
  A line reads back after its class list was extracted.

  1. **The line.**  On a line whose value is plain, another plain value takes its place.  By
     `Attribute.OccursIn.carry` the occurrences of the old line and those of the new one correspond, in
     order and in being blank.  So the new value is the leftmost of its form, and every form tried
     before has a leftmost occurrence that is blank, or none (`findAttribute_withRaw`).

     A form whose closer the quote cuts (`Form.ClosesInto`) is the template only: the new value starts
     with a letter or an underscore and closes nothing, and if the OLD value closed an earlier template,
     that one would have been found in its place.

  2. **The new value** of a plan is plain if the old one is: it is the name and tokens of the old one.
     Trimming takes nothing off it, so it is read back as it was written.
-/
import ClassLift.Proofs.Carrying
import ClassLift.Proofs.Choice
import ClassLift.Proofs.Order

namespace ClassLift

/-! ## Another plain value -/

section

variable {f g : Form} {mid mid' line value : Text} {a : Attribute}

/-- A plain text is closed into by the template only, since the bracket of the bound string is a
    quote. -/
theorem Form.ClosesInto.template (h : f.ClosesInto g mid) (hmid : IsPlain mid) (hne : mid ≠ []) :
    f = .template ∧ g = .template ∧ mid.head? = some '\x7d' := by
  obtain ⟨c, rest, rfl⟩ := List.exists_cons_of_ne_nil hne
  obtain ⟨hdelimiter, hbracket⟩ := h
  have hc : c ∉ marks := hmid c List.mem_cons_self
  have hf : ∀ f : Form, f.closingBracket.head? = some c → f = .template ∧ c = '\x7d' := by
    intro f hf
    cases f with
    | template => exact ⟨rfl, (Option.some.inj hf).symm⟩
    | boundString =>
      obtain rfl := Option.some.inj hf
      exact absurd (by decide) hc
    | _ => exact absurd hf (by simp [closingBracket])
  obtain ⟨rfl, rfl⟩ := hf f hbracket
  have hg : ∀ g : Form, template.delimiter = g.delimiter → g = .template := by
    intro g
    cases g <;> decide
  exact ⟨rfl, hg g hdelimiter, rfl⟩

/-- An occurrence in its line, cut at the quotes of its value. -/
theorem Attribute.OccursIn.exists_quotedLine (ha : a.OccursIn line) :
    ∃ front, a.before.length ≤ front.length ∧ ∀ t : Text,
      Attribute.line { a with raw := t } =
        quotedLine front a.form t (a.form.closingBracket ++ a.after) := by
  obtain ⟨header, hheader⟩ := ha.header.exists_concat
  refine ⟨a.before ++ header, by rw [List.length_append]; omega, fun t => ?_⟩
  rw [Attribute.line, hheader, quotedLine, closer_eq]
  simp only [List.append_assoc, List.cons_append, List.nil_append]

/-- **Another plain value takes the place of the old one**, and with it the line has the same
    attribute. -/
theorem findAttribute_withRaw (ha : findAttribute line = some a) (hraw : IsPlain a.raw)
    (hvalue : IsPlain value) (hsome : ¬AllBlank value) (hhead : value.head? ≠ some '\x7d') :
    findAttribute (Attribute.line { a with raw := value }) = some { a with raw := value } := by
  obtain ⟨hleft, hold, hbefore⟩ := findAttribute_eq_some_iff.mp ha
  have hne : a.raw ≠ [] := by
    intro hnil
    exact hold (hnil ▸ allBlank_nil)
  have hne' : value ≠ [] := by
    rintro rfl
    exact hsome allBlank_nil
  obtain ⟨front, hfront, hline⟩ := hleft.occurs.exists_quotedLine
  have hthis : line = quotedLine front a.form a.raw (a.form.closingBracket ++ a.after) := by
    rw [← hline, ← hleft.occurs.line_eq]
  -- no closer is cut in front of the new value, and in front of the old one only the form's own
  have hclose' : ∀ f : Form, ¬f.ClosesInto a.form value := fun f h =>
    hhead (h.template hvalue hne').2.2
  have hclose : ∀ f : Form, f ≠ a.form → ¬f.ClosesInto a.form a.raw := fun f hf h => by
    obtain ⟨hfirst, hsecond, -⟩ := h.template hraw hne
    exact hf (hfirst.trans hsecond.symm)
  rw [hthis] at hleft hbefore
  rw [hline]
  have hoccurs : Attribute.OccursIn { a with raw := value }
      (quotedLine front a.form value (a.form.closingBracket ++ a.after)) :=
    ⟨hline value, hleft.occurs.header, hvalue.delimiter_not_mem a.form, hleft.occurs.allowed⟩
  rw [findAttribute_eq_some_iff]
  refine ⟨⟨hoccurs, fun b hform hb => ?_⟩, hsome, fun b hb htried => ?_⟩
  · -- an occurrence further left would have been one in the old line
    obtain ⟨c, hcform, hc, hplace, -⟩ :=
      hb.carry hvalue hsome (hclose' b.form) hraw hold
    have hle : a.before.length ≤ c.before.length := hleft.first c (hcform.trans hform) hc
    show a.before.length ≤ b.before.length
    rcases hplace with ⟨-, hsame⟩ | ⟨hfar, -⟩
    · omega
    · omega
  · -- a form that is tried before: its leftmost occurrence is the counterpart of the old leftmost one
    obtain ⟨c, hcform, hc, hplace, hblank⟩ :=
      hb.occurs.carry hvalue hsome (hclose' b.form) hraw hold
    have hother : b.form ≠ a.form := by
      intro hform
      rw [hform] at htried
      exact absurd htried (Nat.lt_irrefl _)
    refine hblank.mpr (hbefore c ⟨hc, fun d hd hdoccurs => ?_⟩ (hcform ▸ htried))
    have hdform : d.form = b.form := hd.trans hcform
    obtain ⟨e, heform, he, hplace', -⟩ :=
      hdoccurs.carry hraw hold (hclose d.form (hdform ▸ hother)) hvalue hsome
    have hle : b.before.length ≤ e.before.length := hb.first e (heform.trans hdform) he
    rcases hplace with ⟨hnear, hsame⟩ | ⟨hfar, hmoved⟩ <;>
      rcases hplace' with ⟨hnear', hsame'⟩ | ⟨hfar', hmoved'⟩ <;> omega

end

/-! ## The new value -/

namespace IsPlanFor

variable {s : Settings} {text l : Text} {r : Request} {p : Plan} {n : Nat} {a : Attribute}

/-- The new value is not blank and starts with a character that a name may start with. -/
theorem exists_replacementValue_cons (h : IsPlanFor s text r p) :
    ∃ c rest, p.replacementValue = c :: rest ∧ isNameStart c = true := by
  obtain ⟨c, name, hname, hc, -⟩ := h.isIdentifier_className
  obtain ⟨rest, hrest⟩ := exists_joinSpaced_cons p.className p.preserved
  exact ⟨c, name ++ rest, by rw [Plan.replacementValue, hrest, hname, List.cons_append], hc⟩

/-- Trimming takes nothing off the new value. -/
theorem strip_replacementValue (h : IsPlanFor s text r p) :
    strip p.replacementValue = p.replacementValue := by
  refine strip_joinSpaced fun t ht => ?_
  rcases List.mem_cons.mp ht with rfl | ht
  · exact h.isIdentifier_className.isToken
  · exact h.isToken t (h.preserved_sublist.subset ht)

/-- **The new value is plain if the old one is.** -/
theorem isPlain_replacementValue (h : IsPlanFor s text r p) (hraw : IsPlain p.location.found.raw) :
    IsPlain p.replacementValue := by
  intro c hc hmark
  have hname : ∀ d ∈ marks, isNameChar d = false ∧ d ≠ ' ' := forall_mem_of_all (by decide)
  refine h.not_mem_replacementValue (hname c hmark).1 (hname c hmark).2 (fun t ht hct => ?_) hc
  have htoken := h.preserved_sublist.subset ht
  rw [h.tokens, Attribute.value, tokenize_strip] at htoken
  exact hraw c (mem_of_mem_tokenize htoken hct) hmark

end IsPlanFor

/-- **An extraction reads back.**  If a line has an attribute of its own whose value as written holds no
    equals sign and no quote, then after the extraction the line has the SAME attribute with the new
    value in it: of the same form, at the same place, with the same text in front of it and behind. -/
theorem extraction_reads_back {s : Settings} {text l : Text} {r : Request} {p : Plan} {n : Nat}
    {a : Attribute} (hline : r.line = n) (hl : (lines text)[n]? = some l)
    (ha : findAttribute l = some a) (hraw : ∀ c ∈ a.raw, c ∉ marks) (h : plan s text r = .ok p) :
    ∃ l', (lines (p.apply text))[n]? = some l' ∧
      findAttribute l' = some { a with raw := p.replacementValue } ∧
      Attribute.value { a with raw := p.replacementValue } = p.replacementValue ∧
      Attribute.valueStart { a with raw := p.replacementValue } = a.valueStart := by
  have hp : IsPlanFor s text r p := plan_eq_ok_iff.mp h
  have hfound : p.location.found = a := by rw [hp.location_eq hline hl ha]
  obtain ⟨c, rest, hvalue, hc⟩ := hp.exists_replacementValue_cons
  have hsome : ¬AllBlank p.replacementValue := by
    intro hblank
    have hsolid := isBlank_of_isNameChar (isNameChar_of_isNameStart hc)
    rw [hblank c (hvalue ▸ List.mem_cons_self)] at hsolid
    exact absurd hsolid (by decide)
  have hhead : p.replacementValue.head? ≠ some '\x7d' := by
    rw [hvalue]
    rintro hbrace
    obtain rfl := Option.some.inj hbrace
    exact absurd hc (by decide)
  exact ⟨_, getElem?_lines_apply hp hline hl ha,
    findAttribute_withRaw ha hraw (hp.isPlain_replacementValue (hfound ▸ hraw)) hsome hhead,
    hp.strip_replacementValue, rfl⟩

/-- A line with headers that are never closed: a template whose second quote opens the value of the
    next one, and behind it a bound string and a plain attribute. -/
def nestedMarkup : Text :=
  "<p>\n<i className=\x7b`x className=\x7b`flex md:p-4`\x7d :class=\"'m-1' class=\"z\">".toList

/-- The name of the request takes the place of the class without a state variant. -/
theorem extraction_reads_back_nested :
    ∃ l a p l' a', (lines nestedMarkup)[1]? = some l ∧ findAttribute l = some a ∧
      a.raw = "flex md:p-4".toList ∧
      plan {} nestedMarkup { wrappedRequest with line := 1, threshold := some 2 } = .ok p ∧
      (lines (p.apply nestedMarkup))[1]? = some l' ∧ findAttribute l' = some a' ∧
      a'.value = "card md:p-4".toList ∧ a'.valueStart = a.valueStart := by
  have hvalue : ((lines nestedMarkup)[1]?.bind findAttribute).map Attribute.raw =
      some "flex md:p-4".toList := by
    decide +kernel
  obtain ⟨a, hfound, hraw⟩ := Option.map_eq_some_iff.mp hvalue
  obtain ⟨l, hl, ha⟩ := Option.bind_eq_some_iff.mp hfound
  obtain ⟨p, hp, hreplacement⟩ : ∃ p,
      plan {} nestedMarkup { wrappedRequest with line := 1, threshold := some 2 } = .ok p ∧
        p.replacementValue = "card md:p-4".toList :=
    exists_ok_of_map_toOption (by decide +kernel)
  have hplain : ∀ c ∈ a.raw, c ∉ marks := by
    rw [hraw]
    exact forall_mem_of_all (by decide)
  obtain ⟨l', hl', ha', hsame, hstart⟩ := extraction_reads_back rfl hl ha hplain hp
  exact ⟨l, a, p, l', _, hl, ha, hraw, hp, hl', ha', hsame.trans hreplacement, hstart⟩

end ClassLift
