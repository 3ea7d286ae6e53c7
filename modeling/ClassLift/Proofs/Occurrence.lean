/-
  What it means that a form occurs in a text, said without the search.

  1. **The grammar.**  A header is the keyword, an equals sign with any blanks around it, and the
     opener (`Form.IsHeader`).  An attribute occurs in a text if the text is the attribute's own
     split, its header is one of its form, its value holds no delimiter, and the character in front
     lets the form stand there (`Attribute.OccursIn`).  `Form.MatchesAt` is the same in offsets:
     where the occurrence starts and from where to where its value goes.

  2. **The search finds occurrences only.**  At the start of a text the search answers with the one
     occurrence there is (`Form.atStart?_eq_some_iff`): the first character behind the blanks, and
     the first delimiter behind the opener, leave no choice.  So what is found in a line occurs in
     the line (`findAttribute_occursIn`).

  3. **What an occurrence fixes.**  Its value lies strictly inside the text between two delimiters
     (`Attribute.OccursIn.bounds`), and any other value without the delimiter may take its place:
     the form still occurs, at the same place (`Attribute.OccursIn.withValue`).
-/
import Mathlib.Data.List.Basic
import ClassLift.Attribute
import ClassLift.Proofs.Tokens

namespace ClassLift

/-! ## The grammar -/

/-- The headers of a form. -/
def Form.IsHeader (f : Form) (header : Text) : Prop :=
  ∃ b₁ b₂, AllBlank b₁ ∧ AllBlank b₂ ∧ header = f.keyword ++ b₁ ++ '=' :: b₂ ++ f.opener

/-- The attribute occurs in the text, at the place that its own split gives. -/
structure Attribute.OccursIn (a : Attribute) (text : Text) : Prop where
  line_eq : a.line = text
  header : a.form.IsHeader a.header
  free : a.form.delimiter ∉ a.raw
  allowed : a.form.mayFollow a.before.getLast? = true

/-- The form matches the text at `start`, and the value of the match goes from `valueStart` to
    `valueEnd`. -/
def Form.MatchesAt (f : Form) (text : Text) (start valueStart valueEnd : Nat) : Prop :=
  ∃ a : Attribute, a.form = f ∧ a.OccursIn text ∧ a.before.length = start ∧
    a.valueStart = valueStart ∧ a.valueEnd = valueEnd

/-! ## Characters of the forms -/

@[simp]
theorem isBlank_delimiter (f : Form) : isBlank f.delimiter = false := by cases f <;> decide

theorem closer_eq (f : Form) : f.closer = f.delimiter :: f.closingBracket := rfl

/-- An opener starts with a character that is not blank. -/
theorem exists_opener_cons (f : Form) : ∃ c t, f.opener = c :: t ∧ isBlank c = false := by
  cases f <;> exact ⟨_, _, rfl, by decide⟩

/-- No keyword, opener or closer holds a blank. -/
theorem isBlank_of_mem_keyword {f : Form} : ∀ c ∈ f.keyword, isBlank c = false := by
  cases f <;> exact forall_mem_of_all (by decide)

theorem isBlank_of_mem_opener {f : Form} : ∀ c ∈ f.opener, isBlank c = false := by
  cases f <;> exact forall_mem_of_all (by decide)

theorem isBlank_of_mem_closer {f : Form} : ∀ c ∈ f.closer, isBlank c = false := by
  cases f <;> exact forall_mem_of_all (by decide)

/-- The code points of the blanks. -/
def blankCodes : List Nat :=
  [0x09, 0x0A, 0x0B, 0x0C, 0x0D, 0x1C, 0x1D, 0x1E, 0x1F, 0x20, 0x85, 0xA0, 0x1680, 0x2000, 0x2001,
    0x2002, 0x2003, 0x2004, 0x2005, 0x2006, 0x2007, 0x2008, 0x2009, 0x200A, 0x2028, 0x2029, 0x202F,
    0x205F, 0x3000]

theorem mem_blankCodes {c : Char} (h : isBlank c = true) : c.toNat ∈ blankCodes := by
  simp only [isBlank, Bool.or_eq_true, Bool.and_eq_true, decide_eq_true_eq, beq_iff_eq] at h
  simp only [blankCodes, List.mem_cons, List.not_mem_nil, or_false]
  omega

/-- No blank is a word character. -/
theorem isWordChar_of_isBlank {c : Char} (h : isBlank c = true) : isWordChar c = false := by
  have codes : ∀ n ∈ blankCodes, isWordChar (Char.ofNat n) = false := by decide +kernel
  have hc := codes c.toNat (mem_blankCodes h)
  rwa [Char.ofNat_toNat] at hc

/-- Behind a blank any form may stand. -/
theorem Form.mayFollow_of_isBlank {f : Form} {c : Char} (h : isBlank c = true) :
    f.mayFollow (some c) = true := by
  have hword : isWordChar c = false := isWordChar_of_isBlank h
  have hne : ∀ d, isBlank d = false → (c == d) = false := by
    intro d hd
    rw [beq_eq_false_iff_ne]
    rintro rfl
    rw [h] at hd
    exact absurd hd (by decide)
  cases f <;> simp [Form.mayFollow, hword, hne ':' (by decide), hne '[' (by decide),
    hne '.' (by decide)]

/-- A header ends in the delimiter that opens the value. -/
theorem Form.IsHeader.exists_concat {f : Form} {header : Text} (h : f.IsHeader header) :
    ∃ front, header = front ++ [f.delimiter] := by
  obtain ⟨b₁, b₂, -, -, rfl⟩ := h
  exact ⟨f.keyword ++ b₁ ++ '=' :: b₂ ++ f.openingBracket, by
    rw [Form.opener, ← List.append_assoc]⟩

/-! ## The search at the start of a text -/

/-- Up to the first delimiter everything is value. -/
theorem takeWhile_ne_append_cons {d : Char} {raw rest : Text} (h : d ∉ raw) :
    (raw ++ d :: rest).takeWhile (· != d) = raw := by
  have hraw : ∀ c ∈ raw, (c != d) = true := by
    intro c hc
    rw [bne_iff_ne]
    rintro rfl
    exact h hc
  rw [List.takeWhile_append_of_pos hraw, List.takeWhile_cons_of_neg (by simp), List.append_nil]

theorem dropWhile_ne_append_cons {d : Char} {raw rest : Text} (h : d ∉ raw) :
    (raw ++ d :: rest).dropWhile (· != d) = d :: rest := by
  have hsplit : (raw ++ d :: rest).takeWhile (· != d) ++ (raw ++ d :: rest).dropWhile (· != d) =
      raw ++ d :: rest := List.takeWhile_append_dropWhile
  rw [takeWhile_ne_append_cons h] at hsplit
  exact List.append_cancel_left hsplit

/-- The steps of the search, each as the split of a text. -/
theorem atStart?_steps {f : Form} {text : Text} {a : Attribute} :
    f.atStart? text = some a ↔
      ∃ afterKeyword afterEquals body after,
        f.keyword ++ afterKeyword = text ∧
        ['='] ++ afterEquals = stripLeft afterKeyword ∧
        f.opener ++ body = stripLeft afterEquals ∧
        f.closer ++ after = body.dropWhile (· != f.delimiter) ∧
        a = ⟨f, [], f.keyword ++ afterKeyword.takeWhile isBlank ++
          '=' :: afterEquals.takeWhile isBlank ++ f.opener,
          body.takeWhile (· != f.delimiter), after⟩ := by
  simp only [Form.atStart?, bind, Option.bind_eq_some_iff, pure, Option.some.injEq,
    List.isPrefixOf?_eq_some_iff_append_eq]
  constructor
  · rintro ⟨k, hk, e, he, b, hb, t, ht, rfl⟩
    exact ⟨k, e, b, t, hk, he, hb, ht, rfl⟩
  · rintro ⟨k, e, b, t, hk, he, hb, ht, rfl⟩
    exact ⟨k, hk, e, he, b, hb, t, ht, rfl⟩

/-- The text that the steps of the search put together again. -/
theorem line_of_steps {f : Form} {k e b t text : Text} (hk : f.keyword ++ k = text)
    (he : ['='] ++ e = stripLeft k) (hb : f.opener ++ b = stripLeft e)
    (ht : f.closer ++ t = b.dropWhile (· != f.delimiter)) :
    f.keyword ++ k.takeWhile isBlank ++ '=' :: e.takeWhile isBlank ++ f.opener ++
      b.takeWhile (· != f.delimiter) ++ f.closer ++ t = text := by
  have body : b.takeWhile (· != f.delimiter) ++ (f.closer ++ t) = b := by
    rw [ht, List.takeWhile_append_dropWhile]
  have behindEquals : e.takeWhile isBlank ++ (f.opener ++ b) = e := by
    rw [hb, takeWhile_append_stripLeft]
  have behindKeyword : k.takeWhile isBlank ++ '=' :: e = k := by
    rw [← List.singleton_append, he, takeWhile_append_stripLeft]
  calc f.keyword ++ k.takeWhile isBlank ++ '=' :: e.takeWhile isBlank ++ f.opener ++
        b.takeWhile (· != f.delimiter) ++ f.closer ++ t
      = f.keyword ++ (k.takeWhile isBlank ++ '=' :: (e.takeWhile isBlank ++ (f.opener ++
          (b.takeWhile (· != f.delimiter) ++ (f.closer ++ t))))) := by
        simp only [List.append_assoc, List.cons_append]
    _ = f.keyword ++ (k.takeWhile isBlank ++ '=' :: (e.takeWhile isBlank ++ (f.opener ++ b))) := by
        rw [body]
    _ = text := by rw [behindEquals, behindKeyword, hk]

/-- **The search at the start of a text** answers with the occurrence that starts there. -/
theorem Form.atStart?_eq_some_iff {f : Form} {text : Text} {a : Attribute} :
    f.atStart? text = some a ↔
      a.form = f ∧ a.before = [] ∧ f.IsHeader a.header ∧ f.delimiter ∉ a.raw ∧ a.line = text := by
  rw [atStart?_steps]
  constructor
  · rintro ⟨k, e, b, t, hk, he, hb, ht, rfl⟩
    refine ⟨rfl, rfl, ⟨_, _, allBlank_takeWhile k, allBlank_takeWhile e, rfl⟩, ?_, ?_⟩
    · intro hd
      have h := List.all_eq_true.mp List.all_takeWhile _ hd
      rw [bne_self_eq_false] at h
      exact absurd h (by decide)
    · exact line_of_steps hk he hb ht
  · -- no step has a choice: what stands behind the blanks is not blank, and the first delimiter
    -- ends the value
    obtain ⟨form, before, header, raw, after⟩ := a
    rintro ⟨hform, hbefore, ⟨b₁, b₂, hb₁, hb₂, hheader⟩, hfree, hline⟩
    obtain rfl : form = f := hform
    obtain rfl : before = [] := hbefore
    obtain rfl : header = form.keyword ++ b₁ ++ '=' :: b₂ ++ form.opener := hheader
    obtain ⟨c, opening, hopener, hc⟩ := exists_opener_cons form
    refine ⟨b₁ ++ '=' :: (b₂ ++ (form.opener ++ (raw ++ (form.closer ++ after)))),
      b₂ ++ (form.opener ++ (raw ++ (form.closer ++ after))), raw ++ (form.closer ++ after), after,
      ?_, ?_, ?_, ?_, ?_⟩
    · rw [← hline, Attribute.line]
      simp only [List.nil_append, List.append_assoc, List.cons_append]
    · rw [stripLeft_append_cons hb₁ (by decide), List.singleton_append]
    · rw [hopener, List.cons_append, stripLeft_append_cons hb₂ hc]
    · rw [closer_eq, List.cons_append, dropWhile_ne_append_cons hfree]
    · rw [takeWhile_append_cons hb₁ (by decide), closer_eq, List.cons_append,
        takeWhile_ne_append_cons hfree, hopener, List.cons_append, takeWhile_append_cons hb₂ hc]

/-! ## The search from left to right -/

/-- What the search for the leftmost occurrence answers with occurs in the text, behind the
    character `previous`. -/
theorem Form.leftmost?_sound {f : Form} {text : Text} {previous : Option Char} {a : Attribute}
    (h : f.leftmost? previous text = some a) :
    a.form = f ∧ a.line = text ∧ f.IsHeader a.header ∧ f.delimiter ∉ a.raw ∧
      f.mayFollow (a.before.getLast?.or previous) = true := by
  induction text generalizing previous a with
  | nil => exact absurd h (by simp [Form.leftmost?])
  | cons c rest ih =>
    rw [Form.leftmost?] at h
    split at h
    case h_1 found hfound =>
      -- the occurrence starts here, so the character in front of it is `previous`
      obtain rfl := Option.some.inj h
      split at hfound
      case isTrue hallowed =>
        obtain ⟨hform, hbefore, hheader, hfree, hline⟩ := Form.atStart?_eq_some_iff.mp hfound
        refine ⟨hform, hline, hheader, hfree, ?_⟩
        rw [hbefore]
        exact hallowed
      case isFalse => exact absurd hfound (by simp)
    case h_2 =>
      -- it starts further right; for the rest of the text the character in front is `c`
      obtain ⟨b, hb, rfl⟩ := Option.map_eq_some_iff.mp h
      obtain ⟨hform, hline, hheader, hfree, hallowed⟩ := ih hb
      refine ⟨hform, ?_, hheader, hfree, ?_⟩
      · rw [← hline]
        rfl
      · rw [Attribute.shift, List.getLast?_cons]
        cases hlast : b.before.getLast? with
        | none => simpa [hlast] using hallowed
        | some d => simpa [hlast] using hallowed

/-- **What is found in a line occurs in the line**, and its value is not blank. -/
theorem findAttribute_occursIn {line : Text} {a : Attribute} (h : findAttribute line = some a) :
    a.OccursIn line ∧ a.value ≠ [] := by
  obtain ⟨f, -, hf⟩ := List.exists_of_findSome?_eq_some h
  obtain ⟨hleft, hvalue⟩ := Option.filter_eq_some_iff.mp hf
  obtain ⟨rfl, hline, hheader, hfree, hallowed⟩ := Form.leftmost?_sound hleft
  refine ⟨⟨hline, hheader, hfree, ?_⟩, by simpa using hvalue⟩
  rwa [Option.or_none] at hallowed

/-! ## What an occurrence fixes -/

namespace Attribute.OccursIn

variable {a : Attribute} {text : Text}

/-- The text, cut in front of the value and behind it. -/
theorem text_eq (h : a.OccursIn text) :
    text = (a.before ++ a.header) ++ (a.raw ++ (a.form.closer ++ a.after)) := by
  rw [← h.line_eq, Attribute.line]
  simp only [List.append_assoc]

theorem take_valueStart (h : a.OccursIn text) :
    text.take a.valueStart = a.before ++ a.header := by
  rw [h.text_eq, Attribute.valueStart, ← List.length_append, List.take_left]

theorem drop_valueEnd (h : a.OccursIn text) :
    text.drop a.valueEnd = a.form.closer ++ a.after := by
  rw [h.text_eq, Attribute.valueEnd, Attribute.valueStart, ← List.append_assoc,
    ← List.length_append, ← List.length_append, List.drop_left]

/-- The text, cut in front of the occurrence. -/
theorem text_eq_before (h : a.OccursIn text) :
    text = a.before ++ (a.fullMatch ++ a.after) := by
  rw [← h.line_eq, Attribute.line, Attribute.fullMatch]
  simp only [List.append_assoc]

theorem take_before (h : a.OccursIn text) : text.take a.before.length = a.before := by
  rw [h.text_eq_before, List.take_left]

/-- The search at the place of an occurrence finds it. -/
theorem atStart?_drop (h : a.OccursIn text) :
    a.form.atStart? (text.drop a.before.length) = some { a with before := [] } := by
  rw [Form.atStart?_eq_some_iff]
  refine ⟨rfl, rfl, h.header, h.free, ?_⟩
  rw [h.text_eq_before, List.drop_left]
  rfl

/-- What stands between the ends of the value is the value as written. -/
theorem span_eq (h : a.OccursIn text) : (text.take a.valueEnd).drop a.valueStart = a.raw := by
  rw [h.text_eq, Attribute.valueEnd, Attribute.valueStart, ← List.append_assoc,
    ← List.length_append, ← List.length_append, List.take_left, List.drop_left]

/-- **The value lies strictly inside the text**, right behind one delimiter and right in front of
    another. -/
theorem bounds (h : a.OccursIn text) :
    0 < a.valueStart ∧ a.valueStart ≤ a.valueEnd ∧ a.valueEnd < text.length ∧
      text[a.valueStart - 1]? = some a.form.delimiter ∧
      text[a.valueEnd]? = some a.form.delimiter := by
  obtain ⟨front, hfront⟩ := h.header.exists_concat
  have hstart : a.valueStart = (a.before ++ front).length + 1 := by
    rw [Attribute.valueStart, hfront]
    simp only [List.length_append, List.length_cons, List.length_nil]
    omega
  have hopen : text[a.valueStart - 1]? = some a.form.delimiter := by
    rw [hstart, h.text_eq, hfront, Nat.add_sub_cancel]
    simp [List.append_assoc]
  have hclose : text[a.valueEnd]? = some a.form.delimiter := by
    have hget : (text.drop a.valueEnd)[0]? = some a.form.delimiter := by
      rw [h.drop_valueEnd]
      rfl
    rwa [List.getElem?_drop, Nat.add_zero] at hget
  obtain ⟨hlt, -⟩ := List.getElem?_eq_some_iff.mp hclose
  exact ⟨by omega, Nat.le_add_right _ _, hlt, hopen, hclose⟩

/-- **Another value without the delimiter may take the place of the old one**: the form occurs
    where it occurred. -/
theorem withValue (h : a.OccursIn text) {value : Text} (hfree : a.form.delimiter ∉ value) :
    Attribute.OccursIn { a with raw := value }
      (text.take a.valueStart ++ value ++ text.drop a.valueEnd) where
  line_eq := by
    rw [h.take_valueStart, h.drop_valueEnd, Attribute.line]
    simp only [List.append_assoc]
  header := h.header
  free := hfree
  allowed := h.allowed

end Attribute.OccursIn

namespace Form.MatchesAt

variable {f : Form} {text : Text} {start valueStart valueEnd : Nat}

/-- Replacing the value of a match by one without the delimiter leaves a match at the same place,
    whose value is the new one. -/
theorem replace (h : f.MatchesAt text start valueStart valueEnd) {value : Text}
    (hfree : f.delimiter ∉ value) :
    f.MatchesAt (text.take valueStart ++ value ++ text.drop valueEnd) start valueStart
      (valueStart + value.length) := by
  obtain ⟨a, rfl, ha, rfl, rfl, rfl⟩ := h
  exact ⟨{ a with raw := value }, rfl, ha.withValue hfree, rfl, rfl, rfl⟩

end Form.MatchesAt

/-- **Matching at a place of a text**, said through the search: the character in front lets the form
    stand there, and the search at that place finds the value between these ends. -/
theorem Form.matchesAt_iff {f : Form} {text : Text} {start valueStart valueEnd : Nat} :
    f.MatchesAt text start valueStart valueEnd ↔
      start ≤ text.length ∧ f.mayFollow (text.take start).getLast? = true ∧
        ∃ a, f.atStart? (text.drop start) = some a ∧ start + a.valueStart = valueStart ∧
          start + a.valueEnd = valueEnd := by
  constructor
  · rintro ⟨a, rfl, ha, rfl, rfl, rfl⟩
    refine ⟨?_, ?_, _, ha.atStart?_drop, ?_, ?_⟩
    · rw [ha.text_eq_before, List.length_append]
      omega
    · rw [ha.take_before]
      exact ha.allowed
    · simp only [Attribute.valueStart, List.length_nil, Nat.zero_add]
    · simp only [Attribute.valueEnd, Attribute.valueStart, List.length_nil, Nat.zero_add]
      omega
  · rintro ⟨hstart, hallowed, a, ha, rfl, rfl⟩
    obtain ⟨rfl, hbefore, hheader, hfree, hline⟩ := Form.atStart?_eq_some_iff.mp ha
    have hlength : (text.take start).length = start := by
      rw [List.length_take]
      omega
    refine ⟨{ a with before := text.take start }, rfl, ⟨?_, hheader, hfree, hallowed⟩, hlength,
      ?_, ?_⟩
    · rw [Attribute.line, hbefore, List.nil_append] at hline
      simp only [Attribute.line, List.append_assoc] at hline ⊢
      rw [hline, List.take_append_drop]
    · rw [Attribute.valueStart, Attribute.valueStart, hlength, hbefore]
      simp only [List.length_nil, Nat.zero_add]
    · rw [Attribute.valueEnd, Attribute.valueEnd, Attribute.valueStart, Attribute.valueStart,
        hlength, hbefore]
      simp only [List.length_nil, Nat.zero_add]
      omega

end ClassLift
