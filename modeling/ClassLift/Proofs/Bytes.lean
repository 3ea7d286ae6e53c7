/-
  Bytes and texts.

  Encoding and decoding undo each other, so bytes that hold a text are the bytes of that text and
  of no other.  Reading a file also unifies its line ends, which leaves no carriage return in the
  text and changes nothing where there was none.  A line end may take TWO characters, so a text that
  is written in two parts reads as these parts only if the cut goes through no line end
  (`unifyLineEnds_append`); where it does, the line feed of the second part is lost
  (`unifyLineEnds_append_feed`).
-/
import ClassLift.Text.Utf8

namespace ClassLift

/-! ## Encoding -/

@[simp]
theorem utf8Text?_utf8 (t : Text) : utf8Text? (utf8 t) = some t := by
  have hvalid : (utf8 t).IsValidUTF8 := (String.ofList t).isValidUTF8
  rw [utf8Text?, String.fromUTF8?, dif_pos hvalid]
  exact congrArg some (String.toList_ofList (l := t))

/-- Bytes that hold a text are its encoding. -/
theorem utf8_of_utf8Text? {bytes : ByteArray} {t : Text} (h : utf8Text? bytes = some t) :
    bytes = utf8 t := by
  obtain ⟨s, hs, rfl⟩ := Option.map_eq_some_iff.mp h
  rw [String.fromUTF8?] at hs
  split at hs
  case isFalse => exact absurd hs (by simp)
  case isTrue hvalid =>
    obtain rfl := Option.some.inj hs
    rw [utf8, String.ofList_toList]
    rfl

/-- Different texts have different bytes. -/
theorem utf8_injective {s t : Text} (h : utf8 s = utf8 t) : s = t := by
  have hread := congrArg utf8Text? h
  rw [utf8Text?_utf8, utf8Text?_utf8] at hread
  exact Option.some.inj hread

theorem utf8_append (s t : Text) : utf8 (s ++ t) = utf8 s ++ utf8 t := by
  rw [utf8, String.ofList_append]
  exact String.toByteArray_append

/-! ## Line ends -/

/-- A text without carriage returns has its line ends unified already. -/
theorem unifyLineEnds_of_not_mem {t : Text} (h : '\r' ∉ t) : unifyLineEnds t = t := by
  induction t with
  | nil => rfl
  | cons c t ih =>
    rw [List.mem_cons, not_or] at h
    have hc : c ≠ '\r' := Ne.symm h.1
    rw [unifyLineEnds, ih h.2]
    · intro rest hrest _
      exact hc hrest
    · exact hc

/-- **Line ends are unified on both sides of a cut**, unless the cut goes through one. -/
theorem unifyLineEnds_append {s t : Text}
    (h : ¬(s.getLast? = some '\r' ∧ t.head? = some '\n')) :
    unifyLineEnds (s ++ t) = unifyLineEnds s ++ unifyLineEnds t := by
  -- the last character of what is left is the last character of the whole
  have hrest : ∀ {c : Char} {rest : Text}, ¬((c :: rest).getLast? = some '\r' ∧
      t.head? = some '\n') → ¬(rest.getLast? = some '\r' ∧ t.head? = some '\n') := by
    rintro c rest hcut ⟨hlast, hhead⟩
    rw [List.getLast?_cons, hlast] at hcut
    exact hcut ⟨rfl, hhead⟩
  fun_induction unifyLineEnds s with
  | case1 => rfl
  | case2 rest ih =>
    rw [List.cons_append, List.cons_append, unifyLineEnds, ih (hrest (hrest h)), List.cons_append]
  | case3 rest hlone ih =>
    have hlone' : ∀ rest', rest ++ t = '\n' :: rest' → False := by
      intro rest' hfeed
      cases rest with
      | nil =>
        rw [List.nil_append] at hfeed
        rw [hfeed] at h
        exact h ⟨rfl, rfl⟩
      | cons c others => exact hlone others (by rw [(List.cons.inj hfeed).1])
    rw [List.cons_append, unifyLineEnds, ih (hrest h), List.cons_append]
    exact hlone'
  | case4 c rest hpair hlone ih =>
    rw [List.cons_append, unifyLineEnds, ih (hrest h), List.cons_append]
    · exact fun _ hc _ => hlone hc
    · exact hlone

/-- A cut between a carriage return and a line feed goes through one line end, and the line feed
    says nothing any more. -/
theorem unifyLineEnds_append_feed {s : Text} (h : s.getLast? = some '\r') (t : Text) :
    unifyLineEnds (s ++ '\n' :: t) = unifyLineEnds s ++ unifyLineEnds t := by
  obtain ⟨front, rfl⟩ := List.getLast?_eq_some_iff.mp h
  have hfront : ∀ rest : Text, unifyLineEnds (front ++ '\r' :: rest) =
      unifyLineEnds front ++ unifyLineEnds ('\r' :: rest) :=
    fun rest => unifyLineEnds_append fun hcut => absurd hcut.2 (by simp)
  simp only [List.append_assoc, List.singleton_append, hfront]
  rfl

theorem readText?_eq_some {bytes : ByteArray} {t : Text} (h : readText? bytes = some t) :
    ∃ raw, bytes = utf8 raw ∧ t = unifyLineEnds raw := by
  obtain ⟨raw, hraw, rfl⟩ := Option.map_eq_some_iff.mp h
  exact ⟨raw, utf8_of_utf8Text? hraw, rfl⟩

@[simp]
theorem readText?_utf8 (t : Text) : readText? (utf8 t) = some (unifyLineEnds t) := by
  rw [readText?, utf8Text?_utf8]
  rfl

end ClassLift
