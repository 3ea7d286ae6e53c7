/-
  Class names: what sanitizing gives, and that it leaves its own results alone.

  A class identifier starts with a letter or an underscore and goes on with name characters
  (`IsIdentifier`).  Sanitizing gives an identifier of any text (`isIdentifier_sanitize`) and has
  nothing to do on one (`sanitize_of_isIdentifier`): no dot or hyphen stands in front, no character
  has to be replaced.  So a name that was sanitized once may be sanitized again without harm.
-/
import ClassLift.ClassName
import ClassLift.Proofs.Tokens

namespace ClassLift

/-! ## Name characters -/

/-- A class identifier. -/
def IsIdentifier (t : Text) : Prop :=
  ∃ c rest, t = c :: rest ∧ isNameStart c = true ∧ ∀ d ∈ rest, isNameChar d = true

/-- Where the code point of a character lies that a name may start with. -/
theorem toNat_of_isNameStart {c : Char} (h : isNameStart c = true) :
    (65 ≤ c.toNat ∧ c.toNat ≤ 90) ∨ (97 ≤ c.toNat ∧ c.toNat ≤ 122) ∨ c.toNat = 95 := by
  rcases Bool.or_eq_true_iff.mp h with halpha | hunderscore
  · rcases Bool.or_eq_true_iff.mp halpha with hupper | hlower
    · obtain ⟨hlow, hhigh⟩ : 'A'.val ≤ c.val ∧ c.val ≤ 'Z'.val := of_decide_eq_true hupper
      rw [UInt32.le_iff_toNat_le] at hlow hhigh
      exact Or.inl ⟨hlow, hhigh⟩
    · obtain ⟨hlow, hhigh⟩ := Bool.and_eq_true_iff.mp hlower
      have hlow : 'a'.val ≤ c.val := of_decide_eq_true hlow
      have hhigh : c.val ≤ 'z'.val := of_decide_eq_true hhigh
      rw [UInt32.le_iff_toNat_le] at hlow hhigh
      exact Or.inr (Or.inl ⟨hlow, hhigh⟩)
  · obtain rfl := beq_iff_eq.mp hunderscore
    exact Or.inr (Or.inr rfl)

/-- No digit starts a name. -/
theorem isNameStart_of_isDigit {c : Char} (h : c.isDigit = true) : isNameStart c = false := by
  rw [Bool.eq_false_iff]
  intro hstart
  obtain ⟨hlow, hhigh⟩ : 48 ≤ c.toNat ∧ c.toNat ≤ 57 := Char.isDigit_iff_toNat.mp h
  have hletter := toNat_of_isNameStart hstart
  omega

/-- A name holds what it may start with, and digits and hyphens. -/
theorem isNameChar_iff {c : Char} :
    isNameChar c = true ↔ isNameStart c = true ∨ c.isDigit = true ∨ c = '-' := by
  simp only [isNameChar, isNameStart, Char.isAlphanum, Bool.or_eq_true, beq_iff_eq]
  tauto

theorem isNameChar_of_isNameStart {c : Char} (h : isNameStart c = true) : isNameChar c = true :=
  isNameChar_iff.mpr (Or.inl h)

/-- Where the code point of a name character lies. -/
theorem toNat_of_isNameChar {c : Char} (h : isNameChar c = true) :
    (48 ≤ c.toNat ∧ c.toNat ≤ 57) ∨ (65 ≤ c.toNat ∧ c.toNat ≤ 90) ∨
      (97 ≤ c.toNat ∧ c.toNat ≤ 122) ∨ c.toNat = 95 ∨ c.toNat = 45 := by
  rcases isNameChar_iff.mp h with hstart | hdigit | rfl
  · rcases toNat_of_isNameStart hstart with hupper | hlower | hunderscore
    · exact Or.inr (Or.inl hupper)
    · exact Or.inr (Or.inr (Or.inl hlower))
    · exact Or.inr (Or.inr (Or.inr (Or.inl hunderscore)))
  · exact Or.inl (Char.isDigit_iff_toNat.mp hdigit)
  · exact Or.inr (Or.inr (Or.inr (Or.inr rfl)))

theorem IsIdentifier.nameChars {t : Text} (h : IsIdentifier t) : ∀ d ∈ t, isNameChar d = true := by
  obtain ⟨c, rest, rfl, hc, hrest⟩ := h
  intro d hd
  rcases List.mem_cons.mp hd with rfl | hd
  · exact isNameChar_of_isNameStart hc
  · exact hrest d hd

/-- No name character is blank. -/
theorem isBlank_of_isNameChar {c : Char} (h : isNameChar c = true) : isBlank c = false := by
  have hn := toNat_of_isNameChar h
  rw [Bool.eq_false_iff]
  intro hb
  simp only [isBlank, Bool.or_eq_true, Bool.and_eq_true, decide_eq_true_eq, beq_iff_eq] at hb
  omega

/-- An identifier is one token. -/
theorem IsIdentifier.isToken {t : Text} (h : IsIdentifier t) : IsToken t := by
  refine ⟨?_, fun c hc => isBlank_of_isNameChar (h.nameChars c hc)⟩
  obtain ⟨c, rest, rfl, -, -⟩ := h
  exact List.cons_ne_nil c rest

/-- Characters that names cannot hold do not stand in identifiers. -/
theorem IsIdentifier.not_mem {t : Text} (h : IsIdentifier t) {c : Char}
    (hc : isNameChar c = false) : c ∉ t := by
  intro hm
  rw [h.nameChars c hm] at hc
  exact absurd hc (by decide)

/-! ## Sanitizing -/

theorem isIdentifier_fallbackName : IsIdentifier fallbackName :=
  ⟨'e', "xtracted-class".toList, rfl, by decide, forall_mem_of_all (by decide)⟩

/-- **Sanitizing gives an identifier.** -/
theorem isIdentifier_sanitize (raw : Text) : IsIdentifier (sanitize raw) := by
  have hbody : ∀ d ∈ ((raw.dropWhile (· == '.')).map
      fun c => if isNameChar c then c else '-').dropWhile (· == '-'), isNameChar d = true := by
    intro d hd
    obtain ⟨c, -, rfl⟩ := List.mem_map.mp (List.dropWhile_subset _ hd)
    by_cases hc : isNameChar c = true
    · rw [if_pos hc]
      exact hc
    · rw [if_neg hc]
      decide
  rw [sanitize]
  split
  case h_1 => exact isIdentifier_fallbackName
  case h_2 c rest heq =>
    rw [heq] at hbody ⊢
    by_cases hc : isNameStart c = true
    · rw [if_pos hc]
      exact ⟨c, rest, rfl, hc, fun d hd => hbody d (List.mem_cons_of_mem c hd)⟩
    · rw [if_neg hc]
      exact ⟨'_', c :: rest, rfl, by decide, hbody⟩

/-- **Sanitizing leaves an identifier as it is.** -/
theorem sanitize_of_isIdentifier {t : Text} (h : IsIdentifier t) : sanitize t = t := by
  have hchars := h.nameChars
  obtain ⟨c, rest, rfl, hc, -⟩ := h
  have hne : ∀ d, isNameStart d = false → (c == d) = false := by
    intro d hd
    rw [beq_eq_false_iff_ne]
    rintro rfl
    rw [hc] at hd
    exact absurd hd (by decide)
  have hmap : (c :: rest).map (fun c => if isNameChar c then c else '-') = c :: rest := by
    refine (List.map_congr_left fun d hd => ?_).trans (List.map_id _)
    rw [if_pos (hchars d hd)]
    rfl
  rw [sanitize]
  rw [List.dropWhile_cons_of_neg (by simp [hne '.' (by decide)]), hmap,
    List.dropWhile_cons_of_neg (by simp [hne '-' (by decide)])]
  exact if_pos hc

/-! ## Validating -/

/-- A name that passes validation comes out as an identifier. -/
theorem isIdentifier_of_validateName {typed : Option Text} {name : Text}
    (h : validateName typed = .ok name) : IsIdentifier name := by
  rw [validateName] at h
  split at h
  case h_1 => exact absurd h (by simp)
  case h_2 =>
    obtain rfl := Except.ok.inj h
    exact isIdentifier_sanitize _

end ClassLift
