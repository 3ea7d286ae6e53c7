/-
  Which documents can be sent.

  A document can be sent if its strings are texts and its numbers can be shown.  Of the members with
  one name only the last is looked at; where no name occurs twice, every member has to pass and that
  is all (`isSendable_object_iff`).

  1. **Strings.**  What is made of a text is a text (`made_eq_ofText`).

  2. **Categories** of a text make a document that can be sent, because the titles are texts
     (`isSendable_categorized`).

  3. **Extractions.**  The stylesheet is one member among others.  So leaving it out does no harm, and a
     document that can be sent shows the rule and the stylesheet as texts (`isSendable_extracted`).
-/
import ClassLift.Service

namespace ClassLift

/-! ## Strings -/

namespace JsonString

variable {s : JsonString} {t : Text}

@[simp]
theorem whole_ofText (t : Text) : (ofText t).whole = true := rfl

theorem whole_iff : s.whole = true ↔ s = ofText s.text := by
  obtain ⟨text, halves⟩ := s
  rw [whole, List.isEmpty_iff]
  constructor
  · rintro rfl
    rfl
  · intro h
    exact (JsonString.mk.inj h).2

/-- A text has no halves, so nothing made of it shows one. -/
theorem made_eq_ofText (h : s.whole = true) (t : Text) : s.made t = ofText t := by
  have hnone : s.half? = fun _ => none := by
    funext c
    rw [half?, List.isEmpty_iff.mp h]
    rfl
  rw [made, hnone, List.filterMap_eq_nil_iff.mpr fun _ _ => rfl]
  rfl

/-- What is made whole is the text. -/
theorem eq_ofText_of_whole_made (h : (s.made t).whole = true) : s.made t = ofText t := whole_iff.mp h

end JsonString

namespace Json

/-! ## Values -/

/-- A string can be sent if it is a text. -/
@[simp]
theorem isSendable_string (content : JsonString) :
    (Json.string content).isSendable = content.whole := rfl

theorem isSendable_array_iff {items : List Json} :
    (Json.array items).isSendable = true ↔ ∀ item ∈ items, item.isSendable = true := by
  rw [isSendable, everyScalar]
  induction items with
  | nil => simp [everyItem]
  | cons item items ih =>
    rw [everyItem, Bool.and_eq_true, List.forall_mem_cons, ih]
    rfl

/-- **An object without repeated names** can be sent if its members can; by induction on them. -/
theorem isSendable_object_iff {members : List (JsonString × Json)}
    (hnames : (members.map Prod.fst).Nodup) :
    (Json.object members).isSendable = true ↔
      ∀ m ∈ members, m.1.whole = true ∧ m.2.isSendable = true := by
  rw [isSendable, everyScalar]
  induction members with
  | nil => simp [everyMember]
  | cons m members ih =>
    obtain ⟨name, value⟩ := m
    obtain ⟨hnew, hrest⟩ := List.nodup_cons.mp hnames
    have hlast : members.any (fun m => m.1 == name) = false := by
      rw [List.any_eq_false]
      intro m hm heq
      exact hnew (List.mem_map.mpr ⟨m, hm, beq_iff_eq.mp heq⟩)
    rw [everyMember, hlast, Bool.false_or, Bool.and_eq_true, Bool.and_eq_true,
      List.forall_mem_cons, ih hrest]
    rfl

theorem isSendable_pair_iff {m n : JsonString × Json} (hnames : m.1 ≠ n.1) :
    (Json.object [m, n]).isSendable = true ↔
      (m.1.whole = true ∧ m.2.isSendable = true) ∧ n.1.whole = true ∧ n.2.isSendable = true := by
  rw [isSendable_object_iff (by simpa using hnames), List.forall_mem_cons,
    List.forall_mem_singleton]

/-! ## Members -/

variable {name : Text} {front back : List (JsonString × Json)}

/-- The last member of a name is looked for from the back. -/
theorem member?_append :
    member? name (front ++ back) = (member? name back).or (member? name front) := by
  rw [member?, member?, member?, List.reverse_append, List.find?_append]
  cases back.reverse.find? fun m => m.1 == JsonString.ofText name <;> rfl

theorem member?_singleton_of_ne {key : Text} (h : key ≠ name) (value : Json) :
    member? name [(JsonString.ofText key, value)] = none := by
  have hkey : (JsonString.ofText key == JsonString.ofText name) = false := by
    rw [beq_eq_false_iff_ne]
    exact fun heq => h (JsonString.mk.inj heq).1
  rw [member?, List.reverse_singleton, List.find?_cons, hkey]
  rfl

end Json

namespace Service

/-! ## Replies -/

theorem isSendable_madeTexts {s : JsonString} (h : s.whole = true) (ts : List Text) :
    (madeTexts s ts).isSendable = true := by
  rw [madeTexts, Json.isSendable_array_iff]
  intro item hitem
  obtain ⟨t, -, rfl⟩ := List.mem_map.mp hitem
  rw [Json.isSendable_string, s.made_eq_ofText h, JsonString.whole_ofText]

/-- The reply on the categories of a text can be sent. -/
theorem isSendable_categorized {classes : JsonString} (h : classes.whole = true) (tokens : List Text)
    (groups : List (Category × List Text)) :
    (Reply.categorized classes tokens groups).document.isSendable = true := by
  have hgroup : ∀ g : Category × List Text, (Json.object [
      member "category" (plainText g.1.title),
      member "tokens" (madeTexts classes g.2)]).isSendable = true := by
    intro g
    have hnames : JsonString.ofText "category".toList ≠ .ofText "tokens".toList := by decide
    exact (Json.isSendable_pair_iff hnames).mpr ⟨⟨rfl, rfl⟩, rfl, isSendable_madeTexts h g.2⟩
  have hnames : JsonString.ofText "tokens".toList ≠ .ofText "groups".toList := by decide
  refine (Json.isSendable_pair_iff hnames).mpr
    ⟨⟨rfl, isSendable_madeTexts h tokens⟩, rfl, Json.isSendable_array_iff.mpr fun item hitem => ?_⟩
  obtain ⟨g, -, rfl⟩ := List.mem_map.mp hitem
  exact hgroup g

section

variable {text : JsonString} {p : Plan} {stylesheet : Option JsonString}

/-- The name of the member that tells the stylesheet. -/
def stylesheetKey : Text := "target_css_file".toList

/-- The stylesheet is one member among others, which do not depend on it. -/
theorem extractedMembers_eq (stylesheet : Option JsonString) :
    extractedMembers text p stylesheet =
      (extractedMembers text p none).take 9 ++
        ([(.ofText stylesheetKey, (stylesheet.map Json.string).getD .null)] ++
          (extractedMembers text p none).drop 10) := rfl

theorem nodup_extractedMembers : ((extractedMembers text p stylesheet).map Prod.fst).Nodup := by
  have hnames : ((extractedMembers text p stylesheet).map Prod.fst) =
      (["class_name", "css", "replacement_value", "updated_text", "line_index", "extracted_tokens",
        "preserved_tokens", "grouped", "below_threshold", "target_css_file", "message"].map
          fun name => JsonString.ofText name.toList) := rfl
  rw [hnames]
  decide

/-- **The same reply without a stylesheet** has the same document, but for that member. -/
theorem member?_extractedMembers {name : Text} (h : name ≠ stylesheetKey)
    (stylesheet : Option JsonString) :
    Json.member? name (extractedMembers text p stylesheet) =
      Json.member? name (extractedMembers text p none) := by
  have hothers : ∀ x, Json.member? name (extractedMembers text p x) =
      (Json.member? name ((extractedMembers text p none).drop 10)).or
        (Json.member? name ((extractedMembers text p none).take 9)) := by
    intro x
    rw [extractedMembers_eq x, Json.member?_append, Json.member?_append,
      Json.member?_singleton_of_ne h.symm, Option.or_none]
  exact (hothers stylesheet).trans (hothers none).symm

@[simp]
theorem member?_stylesheetKey (stylesheet : Option JsonString) :
    Json.member? stylesheetKey (extractedMembers text p stylesheet) =
      some ((stylesheet.map Json.string).getD .null) := rfl

@[simp]
theorem member?_css (stylesheet : Option JsonString) :
    Json.member? "css".toList (extractedMembers text p stylesheet) =
      some (.string (text.made p.css)) := rfl

/-- **What a document that can be sent tells**: the rule is a text, the stylesheet is a text, and the
    same document without a stylesheet can be sent as well. -/
theorem isSendable_extracted
    (h : (Reply.extracted text p stylesheet).document.isSendable = true) :
    (text.made p.css).whole = true ∧ (∀ s, stylesheet = some s → s.whole = true) ∧
      (Reply.extracted text p none).document.isSendable = true := by
  have hall := (Json.isSendable_object_iff nodup_extractedMembers).mp h
  refine ⟨(hall (member "css" (.string (text.made p.css))) (by simp [extractedMembers])).2, ?_, ?_⟩
  · rintro s rfl
    exact (hall (member "target_css_file" (.string s)) (by simp [extractedMembers])).2
  · refine (Json.isSendable_object_iff nodup_extractedMembers).mpr ?_
    rw [extractedMembers_eq, List.forall_mem_append, List.forall_mem_append,
      List.forall_mem_singleton] at hall ⊢
    obtain ⟨hfront, -, hback⟩ := hall
    exact ⟨hfront, ⟨rfl, rfl⟩, hback⟩

end

end Service

end ClassLift
