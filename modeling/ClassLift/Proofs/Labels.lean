/-
  What an attribute reports of its keyword and of its quote, and when that is true.

  Both labels are told from the WHOLE occurrence, value included, and not from the form that was found.
  So they describe the attribute only as far as its value keeps still:

  1. **The header says nothing wrong.**  Up to the delimiter it is made of the keyword, blanks, an equals
     sign and a bracket (`Form.IsHeader.exists_front`), and behind the value there are the delimiter and
     a bracket.  So outside of the value the only quote is the delimiter (`mem_fullMatch_iff`).

  2. **A word cannot reach over the delimiter**, which it does not hold (`infix_append_cons_iff`).  So
     `className` stands in the occurrence exactly if it is the keyword or stands in the value
     (`kind_eq_named_iff`).

  3. **Hence the exact conditions.**  The quote is the delimiter unless the value holds a quote that says
     more: a backtick, or a single quote between double ones.  The kind is that of the keyword unless a
     plain attribute has `className` in its value (`labels_true_iff`).
-/
import ClassLift.Proofs.Carrying

namespace ClassLift

/-- The character that a quote is. -/
def Quote.character : Quote → Char
  | double => '"'
  | single => '\x27'
  | backtick => '`'

/-- The keyword of the named forms. -/
def namedKeyword : Text := "className".toList

/-! ## Words in a text -/

theorem occursIn_iff {needle t : Text} : occursIn needle t = true ↔ needle <:+: t := by
  induction t with
  | nil => rw [occursIn, List.isEmpty_iff, List.infix_nil]
  | cons c t ih =>
    rw [occursIn, Bool.or_eq_true, ih, List.isPrefixOf_iff_prefix, List.infix_cons_iff]

/-- **A word stands on one side of a character that it does not hold.** -/
theorem infix_append_cons_iff {needle s t : Text} {d : Char} (hd : d ∉ needle) :
    needle <:+: s ++ d :: t ↔ needle <:+: s ∨ needle <:+: t := by
  constructor
  · rintro ⟨before, after, h⟩
    rcases List.append_eq_append_iff.mp h with ⟨rest, rfl, -⟩ | ⟨rest, hbefore, hafter⟩
    · exact Or.inl ⟨before, rest, rfl⟩
    · cases rest with
      | nil => exact Or.inl ⟨before, [], by rw [hbefore, List.append_nil, List.append_nil]⟩
      | cons e rest =>
        -- the word ends behind the character, so it starts behind it, or it would hold it
        obtain ⟨rfl, rfl⟩ := List.cons.inj hafter
        rcases List.append_eq_append_iff.mp hbefore with ⟨gap, -, hneedle⟩ | ⟨gap, -, hgap⟩
        · exact absurd (hneedle ▸ List.mem_append_right gap List.mem_cons_self) hd
        · cases gap with
          | nil =>
            rw [List.nil_append] at hgap
            exact absurd (hgap ▸ List.mem_cons_self) hd
          | cons e gap =>
            obtain ⟨-, rfl⟩ := List.cons.inj hgap
            exact Or.inr ⟨gap, after, rfl⟩
  · rintro (h | h)
    · exact h.trans (List.prefix_append s (d :: t)).isInfix
    · exact h.trans ((List.suffix_cons d t).trans (List.suffix_append s (d :: t))).isInfix

/-! ## What a header is made of -/

section

variable {f : Form} {header : Text} {a : Attribute} {text : Text} {c : Char}

/-- In front of its delimiter a header has the keyword, and besides it nothing but blanks, the equals
    sign and the opening bracket. -/
theorem Form.IsHeader.exists_front (h : f.IsHeader header) :
    ∃ front, header = front ++ [f.delimiter] ∧ f.keyword <+: front ∧
      ∀ c ∈ front, c ∈ f.keyword ∨ isBlank c = true ∨ c = '=' ∨ c ∈ f.openingBracket := by
  obtain ⟨b₁, b₂, hb₁, hb₂, rfl⟩ := h
  refine ⟨f.keyword ++ b₁ ++ '=' :: b₂ ++ f.openingBracket, ?_, ?_, fun c hc => ?_⟩
  · rw [Form.opener, ← List.append_assoc]
  · rw [List.append_assoc, List.append_assoc]
    exact List.prefix_append f.keyword _
  · simp only [List.mem_append, List.mem_cons] at hc
    rcases hc with ((hc | hc) | hc | hc) | hc
    · exact Or.inl hc
    · exact Or.inr (Or.inl (hb₁ c hc))
    · exact Or.inr (Or.inr (Or.inl hc))
    · exact Or.inr (Or.inl (hb₂ c hc))
    · exact Or.inr (Or.inr (Or.inr hc))

/-- The occurrence between the delimiters that its own form has. -/
theorem Attribute.OccursIn.exists_fullMatch (h : a.OccursIn text) :
    ∃ front, a.fullMatch = front ++ a.form.delimiter ::
        (a.raw ++ a.form.delimiter :: a.form.closingBracket) ∧ a.form.keyword <+: front ∧
      ∀ c ∈ front, c ∈ a.form.keyword ∨ isBlank c = true ∨ c = '=' ∨ c ∈ a.form.openingBracket := by
  obtain ⟨front, hheader, hkeyword, hfront⟩ := h.header.exists_front
  refine ⟨front, ?_, hkeyword, hfront⟩
  rw [Attribute.fullMatch, hheader, closer_eq]
  simp only [List.append_assoc, List.cons_append, List.nil_append]

/-! ## The quote -/

/-- **Outside of the value the only quote is the delimiter**, as far as quotes count. -/
theorem mem_fullMatch_iff (h : a.OccursIn text) (hc : c = '`' ∨ c = '\x27') :
    c ∈ a.fullMatch ↔ c = a.form.delimiter ∨ c ∈ a.raw := by
  obtain ⟨front, hmatch, -, hfront⟩ := h.exists_fullMatch
  have hmark : c ∈ marks := by rcases hc with rfl | rfl <;> decide
  have hbracket : c ∉ a.form.openingBracket ∧ c ∉ a.form.closingBracket := by
    rcases hc with rfl | rfl <;> cases a.form <;> decide
  have hnot : c ∉ front := by
    intro hmem
    rcases hfront c hmem with hkey | hblank | rfl | hopen
    · exact isPlain_keyword a.form c hkey hmark
    · exact (allBlank_nil.cons hblank).isPlain c List.mem_cons_self hmark
    · exact absurd hc (by decide)
    · exact hbracket.1 hopen
  rw [hmatch]
  simp only [List.mem_append, List.mem_cons, hnot, hbracket.2, false_or, or_false]
  tauto

/-- **Which quote is reported.** -/
theorem quote_eq (h : a.OccursIn text) :
    a.quote = if a.form.delimiter = '`' ∨ '`' ∈ a.raw then .backtick
      else if a.form.delimiter = '\x27' ∨ '\x27' ∈ a.raw then .single else .double := by
  have hbacktick := mem_fullMatch_iff h (c := '`') (Or.inl rfl)
  have hsingle := mem_fullMatch_iff h (c := '\x27') (Or.inr rfl)
  rw [eq_comm (a := '`')] at hbacktick
  rw [eq_comm (a := '\x27')] at hsingle
  simp only [Attribute.quote, List.contains_iff_mem, hbacktick, hsingle]

/-- A form has one of the three quotes as its delimiter. -/
theorem delimiter_cases (f : Form) :
    f.delimiter = '`' ∨ f.delimiter = '\x27' ∨ f.delimiter = '"' := by
  cases f <;> decide

/-- **When the quote is the delimiter**: unless the value holds one that says more. -/
theorem character_quote_iff (h : a.OccursIn text) :
    a.quote.character = a.form.delimiter ↔
      (a.form.delimiter ≠ '`' → '`' ∉ a.raw) ∧ (a.form.delimiter = '"' → '\x27' ∉ a.raw) := by
  rw [quote_eq h]
  rcases delimiter_cases a.form with hd | hd | hd
  · simp [hd, Quote.character]
  · by_cases hbacktick : '`' ∈ a.raw <;> simp [hd, hbacktick, Quote.character]
  · by_cases hbacktick : '`' ∈ a.raw <;> by_cases hsingle : '\x27' ∈ a.raw <;>
      simp [hd, hbacktick, hsingle, Quote.character]

/-! ## The kind -/

/-- **Which kind is reported**: the named one if the keyword is, or if its word stands in the value. -/
theorem kind_eq_named_iff (h : a.OccursIn text) :
    a.kind = .named ↔ a.form.keyword = namedKeyword ∨ namedKeyword <:+: a.raw := by
  obtain ⟨front, hmatch, hkeyword, hfront⟩ := h.exists_fullMatch
  have hdelimiter : a.form.delimiter ∉ namedKeyword := by cases a.form <;> decide
  -- the capital letter of the word tells it from everything but the keyword and the value
  have hletter : 'N' ∈ namedKeyword := by decide
  have hbehind : ¬namedKeyword <:+: a.form.closingBracket := by
    intro hword
    exact absurd (hword.subset hletter) (by cases a.form <;> decide)
  have hinfront : namedKeyword <:+: front ↔ a.form.keyword = namedKeyword := by
    constructor
    · intro hword
      have hkey : 'N' ∈ a.form.keyword := by
        rcases hfront 'N' (hword.subset hletter) with hkey | hblank | hequals | hopen
        · exact hkey
        · exact absurd hblank (by decide)
        · exact absurd hequals (by decide)
        · exact absurd hopen (by cases a.form <;> decide)
      revert hkey
      cases a.form <;> decide
    · intro hsame
      exact hsame ▸ hkeyword.isInfix
  have hkind : a.kind = .named ↔ occursIn namedKeyword a.fullMatch = true := by
    rw [Attribute.kind]
    split
    case isTrue hfound => exact iff_of_true rfl hfound
    case isFalse hmissing => exact iff_of_false (by decide) hmissing
  rw [hkind, occursIn_iff, hmatch, infix_append_cons_iff hdelimiter,
    infix_append_cons_iff hdelimiter, hinfront, or_iff_left hbehind]

end

/-- **When the labels describe the attribute.**  In front of the value stands the delimiter of the form,
    and at the start of the occurrence its keyword.

    * The quote reported is that delimiter exactly if the value holds no backtick, unless the delimiter
      is one, and no single quote where the delimiter is the double one.
    * The kind reported is the named one exactly if the keyword is `className` or this word stands in the
      value; so it is right exactly if it is the keyword or does not stand there. -/
theorem labels_true_iff {text : Text} {a : Attribute} (h : findAttribute text = some a) :
    text[a.valueStart - 1]? = some a.form.delimiter ∧
    a.form.keyword <+: text.drop a.before.length ∧
    (text[a.valueStart - 1]? = some a.quote.character ↔
      (a.form.delimiter ≠ '`' → '`' ∉ a.raw) ∧ (a.form.delimiter = '"' → '\x27' ∉ a.raw)) ∧
    (a.kind = .named ↔ a.form.keyword = namedKeyword ∨ namedKeyword <:+: a.raw) ∧
    ((a.kind = .named ↔ a.form.keyword = namedKeyword) ↔
      a.form.keyword = namedKeyword ∨ ¬namedKeyword <:+: a.raw) := by
  have hoccurs := (findAttribute_occursIn h).1
  obtain ⟨-, -, -, hopen, -⟩ := hoccurs.bounds
  have hkind := kind_eq_named_iff hoccurs
  refine ⟨hopen, ?_, ?_, hkind, ?_⟩
  · obtain ⟨front, hmatch, hkeyword, -⟩ := hoccurs.exists_fullMatch
    rw [hoccurs.text_eq_before, List.drop_left, hmatch, List.append_assoc]
    exact hkeyword.trans (List.prefix_append front _)
  · rw [hopen, Option.some.injEq, eq_comm]
    exact character_quote_iff hoccurs
  · rw [hkind]
    tauto

/-- Double quotes and words of all kinds between single quotes. -/
def quotingLine : Text := "<p class='a \"b\" classNam-e' title=\"className\">".toList

theorem labels_true_iff_quoting :
    ∃ a, findAttribute quotingLine = some a ∧ a.raw = "a \"b\" classNam-e".toList ∧
      quotingLine[a.valueStart - 1]? = some a.quote.character ∧
      (a.kind = .named ↔ a.form.keyword = namedKeyword) := by
  have hfound : (findAttribute quotingLine).map (fun a => (a.form, a.raw)) =
      some (.plainSingle, "a \"b\" classNam-e".toList) := by
    decide +kernel
  obtain ⟨a, ha, hfacts⟩ := Option.map_eq_some_iff.mp hfound
  obtain ⟨hform, hraw⟩ := Prod.mk.inj hfacts
  obtain ⟨-, -, hquote, -, hkind⟩ := labels_true_iff ha
  refine ⟨a, ha, hraw, hquote.mpr ?_, hkind.mpr (Or.inr ?_)⟩
  · rw [hform, hraw]
    decide
  · rw [hraw, ← occursIn_iff]
    decide

/-- **The labels are told from the value**: with a single quote between its double ones an attribute is
    reported as single-quoted, and with `className` as a class a plain one is reported as named. -/
theorem labels_told_from_value :
    (∃ a, findAttribute "<p class=\"content-['x']\">".toList = some a ∧
      "<p class=\"content-['x']\">".toList[a.valueStart - 1]? = some '"' ∧ a.quote = .single) ∧
    ∃ a, findAttribute "<p class=\"className\">".toList = some a ∧
      a.form.keyword = "class".toList ∧ a.kind = .named := by
  have hquote : (findAttribute "<p class=\"content-['x']\">".toList).map (fun a =>
      ("<p class=\"content-['x']\">".toList[a.valueStart - 1]?, a.quote)) =
        some (some '"', .single) := by
    decide +kernel
  have hkind : (findAttribute "<p class=\"className\">".toList).map (fun a =>
      (a.form.keyword, a.kind)) = some ("class".toList, .named) := by
    decide +kernel
  obtain ⟨a, ha, hfacts⟩ := Option.map_eq_some_iff.mp hquote
  obtain ⟨b, hb, hfacts'⟩ := Option.map_eq_some_iff.mp hkind
  exact ⟨⟨a, ha, Prod.mk.inj hfacts⟩, b, hb, Prod.mk.inj hfacts'⟩

end ClassLift
