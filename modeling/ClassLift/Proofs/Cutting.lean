/-
  Cutting a class list: tokens are the maximal runs of what is not blank, and cutting undoes every way
  of writing the tokens down.

  1. **Runs** are told by offsets and without the cutting: a stretch of the text without a blank
     (`IsSolid`) that no longer one contains (`IsRun`).

  2. **One blank parts the runs.**  No stretch reaches over a blank, so the solid stretches of
     `a ++ c :: b` are those of `a` and those of `b`, moved behind the blank (`isSolid_append_blank`),
     and the longest ones correspond (`isRun_append_blank`).  The tokens part at the same place, hence a
     list of runs in order is put together from one for `a` and one for `b` (`ListsRuns.append_blank`).
     A text without blanks is its own only run, and the rest is induction from blank to blank.

  3. **Writing tokens down** takes a gap in front of each and blanks behind the last (`Spelling`).  Only
     the gap in front of the first token may be empty.  Which blanks a gap is made of, and how many, does
     not matter: reading a spelling from the front, each gap goes away and each token comes out
     (`tokenize_spelling`).
-/
import ClassLift.Proofs.Occurrence

namespace ClassLift

/-! ## Blanks by their code points -/

/-- **The blanks are the 29 characters of the table.** -/
theorem isBlank_iff_mem_blankCodes {c : Char} : isBlank c = true ↔ c.toNat ∈ blankCodes := by
  refine ⟨mem_blankCodes, fun h => ?_⟩
  simp only [blankCodes, List.mem_cons, List.not_mem_nil, or_false] at h
  simp only [isBlank, Bool.or_eq_true, Bool.and_eq_true, decide_eq_true_eq, beq_iff_eq]
  omega

/-! ## Runs -/

/-- From offset `i` up to offset `j` there are characters, and none of them is blank. -/
def IsSolid (v : Text) (i j : Nat) : Prop :=
  i < j ∧ ∀ k, i ≤ k → k < j → ∃ c, v[k]? = some c ∧ isBlank c = false

/-- And no longer stretch around them is like that. -/
def IsRun (v : Text) (i j : Nat) : Prop :=
  IsSolid v i j ∧ ∀ i' j', i' ≤ i → j ≤ j' → IsSolid v i' j' → i' = i ∧ j' = j

section

variable {a b v : Text} {c : Char} {i j : Nat}

theorem IsSolid.le_length (h : IsSolid v i j) : j ≤ v.length := by
  obtain ⟨hlt, hsolid⟩ := h
  obtain ⟨c, hc, -⟩ := hsolid (j - 1) (by omega) (by omega)
  obtain ⟨hlast, -⟩ := List.getElem?_eq_some_iff.mp hc
  omega

/-- **No solid stretch reaches over a blank.** -/
theorem isSolid_append_blank (hc : isBlank c = true) :
    IsSolid (a ++ c :: b) i j ↔
      IsSolid a i j ∨
        ∃ i' j', i = a.length + 1 + i' ∧ j = a.length + 1 + j' ∧ IsSolid b i' j' := by
  constructor
  · rintro ⟨hlt, hsolid⟩
    rcases Nat.lt_or_ge a.length j with hj | hj
    · rcases Nat.lt_or_ge a.length i with hi | hi
      · refine Or.inr ⟨i - (a.length + 1), j - (a.length + 1), by omega, by omega, by omega,
          fun k hik hkj => ?_⟩
        have hthere := hsolid (a.length + 1 + k) (by omega) (by omega)
        rwa [getElem?_append_cons_add] at hthere
      · -- the blank itself would be in the stretch
        obtain ⟨d, hd, hsolid⟩ := hsolid a.length hi hj
        rw [List.getElem?_append_right (Nat.le_refl _), Nat.sub_self] at hd
        obtain rfl : c = d := Option.some.inj hd
        rw [hc] at hsolid
        exact absurd hsolid (by decide)
    · refine Or.inl ⟨hlt, fun k hik hkj => ?_⟩
      have hthere := hsolid k hik hkj
      rwa [List.getElem?_append_left (by omega)] at hthere
  · rintro (h | ⟨i', j', rfl, rfl, hlt, hsolid⟩)
    · have hle := h.le_length
      refine ⟨h.1, fun k hik hkj => ?_⟩
      rw [List.getElem?_append_left (by omega)]
      exact h.2 k hik hkj
    · refine ⟨by omega, fun k hik hkj => ?_⟩
      obtain ⟨n, rfl⟩ := Nat.exists_eq_add_of_le (show a.length + 1 ≤ k by omega)
      rw [getElem?_append_cons_add]
      exact hsolid n (by omega) (by omega)

/-- **A blank parts the runs**: they are those in front of it and those behind it. -/
theorem isRun_append_blank (hc : isBlank c = true) :
    IsRun (a ++ c :: b) i j ↔
      IsRun a i j ∨ ∃ i' j', i = a.length + 1 + i' ∧ j = a.length + 1 + j' ∧ IsRun b i' j' := by
  have hparts : ∀ {i j}, IsSolid (a ++ c :: b) i j ↔ _ := isSolid_append_blank hc
  constructor
  · rintro ⟨hsolid, hlongest⟩
    rcases hparts.mp hsolid with h | ⟨i', j', rfl, rfl, h⟩
    · exact Or.inl ⟨h, fun i' j' hi hj h' => hlongest i' j' hi hj (hparts.mpr (Or.inl h'))⟩
    · refine Or.inr ⟨i', j', rfl, rfl, h, fun k l hk hl h' => ?_⟩
      have hsame := hlongest (a.length + 1 + k) (a.length + 1 + l) (by omega) (by omega)
        (hparts.mpr (Or.inr ⟨k, l, rfl, rfl, h'⟩))
      omega
  · -- a longer stretch lies on the same side of the blank as the run that it contains
    rintro (⟨hsolid, hlongest⟩ | ⟨i', j', rfl, rfl, hsolid, hlongest⟩)
    · refine ⟨hparts.mpr (Or.inl hsolid), fun k l hk hl h' => ?_⟩
      rcases hparts.mp h' with h' | ⟨k', l', rfl, rfl, -⟩
      · exact hlongest k l hk hl h'
      · have hlt := hsolid.1
        have hle := hsolid.le_length
        omega
    · refine ⟨hparts.mpr (Or.inr ⟨i', j', rfl, rfl, hsolid⟩), fun k l hk hl h' => ?_⟩
      rcases hparts.mp h' with hfront | ⟨k', l', rfl, rfl, hbehind⟩
      · have hle := hfront.le_length
        have hlt := hsolid.1
        omega
      · have hsame := hlongest k' l' (by omega) (by omega) hbehind
        omega

/-- A text without blanks is its own only run, if it is a run at all. -/
theorem isRun_of_not_blank (hv : ∀ c ∈ v, isBlank c = false) :
    IsRun v i j ↔ v ≠ [] ∧ i = 0 ∧ j = v.length := by
  have hsolid : ∀ {i j}, i < j → j ≤ v.length → IsSolid v i j := fun hlt hle =>
    ⟨hlt, fun k _ hkj => ⟨v[k], List.getElem?_eq_getElem (by omega), hv _ (List.getElem_mem _)⟩⟩
  constructor
  · rintro ⟨h, hlongest⟩
    have hlt := h.1
    have hle := h.le_length
    obtain ⟨hi, hj⟩ := hlongest 0 v.length (Nat.zero_le i) hle (hsolid (by omega) (Nat.le_refl _))
    exact ⟨List.length_pos_iff.mp (by omega), hi.symm, hj.symm⟩
  · rintro ⟨hne, rfl, rfl⟩
    refine ⟨hsolid (List.length_pos_iff.mpr hne) (Nat.le_refl _), fun i' j' hi hj h => ?_⟩
    have hle := h.le_length
    omega

end

/-! ## The tokens are the runs -/

/-- The runs of a text in order, with the tokens that they spell. -/
structure ListsRuns (runs : List (Nat × Nat)) (v : Text) : Prop where
  ordered : runs.Pairwise fun s t => s.2 < t.1
  mem_iff : ∀ i j, (i, j) ∈ runs ↔ IsRun v i j
  tokens : tokenize v = runs.map fun s => (v.take s.2).drop s.1

section

variable {a b v : Text} {c : Char} {front behind : List (Nat × Nat)}

/-- The runs of a text without blanks. -/
theorem exists_listsRuns_of_not_blank (hv : ∀ c ∈ v, isBlank c = false) :
    ∃ runs, ListsRuns runs v := by
  by_cases hne : v = []
  · subst hne
    refine ⟨[], List.Pairwise.nil, fun i j => ?_, rfl⟩
    rw [isRun_of_not_blank hv]
    simp
  · refine ⟨[(0, v.length)], List.pairwise_singleton _ _, fun i j => ?_, ?_⟩
    · rw [isRun_of_not_blank hv]
      simp [hne]
    · rw [tokenize_of_isToken ⟨hne, hv⟩]
      simp

/-- **One step**: the runs on both sides of a blank, those behind it moved. -/
theorem ListsRuns.append_blank (ha : ListsRuns front a) (hb : ListsRuns behind b)
    (hc : isBlank c = true) :
    ListsRuns (front ++ behind.map fun s => (a.length + 1 + s.1, a.length + 1 + s.2))
      (a ++ c :: b) where
  ordered := by
    refine List.pairwise_append.mpr ⟨ha.ordered, ?_, ?_⟩
    · rw [List.pairwise_map]
      exact hb.ordered.imp fun h => by omega
    · intro s hs t ht
      obtain ⟨u, -, rfl⟩ := List.mem_map.mp ht
      have hle := ((ha.mem_iff s.1 s.2).mp hs).1.le_length
      show s.2 < a.length + 1 + u.1
      omega
  mem_iff := by
    intro i j
    rw [List.mem_append, isRun_append_blank hc, ha.mem_iff, List.mem_map]
    refine or_congr_right ⟨?_, ?_⟩
    · rintro ⟨⟨i', j'⟩, hmem, heq⟩
      obtain ⟨rfl, rfl⟩ := Prod.mk.inj heq
      exact ⟨i', j', rfl, rfl, (hb.mem_iff i' j').mp hmem⟩
    · rintro ⟨i', j', rfl, rfl, hrun⟩
      exact ⟨(i', j'), (hb.mem_iff i' j').mpr hrun, rfl⟩
  tokens := by
    have hfront : ∀ s ∈ front, ((a ++ c :: b).take s.2).drop s.1 = (a.take s.2).drop s.1 := by
      intro s hs
      have hle := ((ha.mem_iff s.1 s.2).mp hs).1.le_length
      rw [List.take_append_of_le_length hle]
    have hbehind : ∀ i j, ((a ++ c :: b).take (a.length + 1 + j)).drop (a.length + 1 + i) =
        (b.take j).drop i := by
      intro i j
      rw [List.append_cons, ← List.length_singleton (a := c), ← List.length_append,
        List.take_length_add_append, List.drop_length_add_append]
    rw [tokenize_append_blank hc, ha.tokens, hb.tokens, List.map_append, List.map_map,
      List.map_congr_left hfront]
    refine congrArg (_ ++ ·) (List.map_congr_left fun s _ => ?_)
    exact (hbehind s.1 s.2).symm

/-- Either there is no blank, or the text goes up to a first one and on behind it. -/
theorem exists_first_blank (v : Text) :
    (∀ c ∈ v, isBlank c = false) ∨
      ∃ a c b, v = a ++ c :: b ∧ (∀ d ∈ a, isBlank d = false) ∧ isBlank c = true := by
  cases hfound : v.find? isBlank with
  | none =>
    refine Or.inl fun c hc => ?_
    simpa using List.find?_eq_none.mp hfound c hc
  | some c =>
    obtain ⟨hc, a, b, rfl, ha⟩ := List.find?_eq_some_iff_append.mp hfound
    exact Or.inr ⟨a, c, b, rfl, fun d hd => by simpa using ha d hd, hc⟩

/-- **The tokens of a text are its runs, in order**; by induction from blank to blank. -/
theorem exists_listsRuns (v : Text) : ∃ runs, ListsRuns runs v := by
  induction hn : v.length using Nat.strong_induction_on generalizing v with
  | _ n ih =>
    rcases exists_first_blank v with hv | ⟨a, c, b, rfl, ha, hc⟩
    · exact exists_listsRuns_of_not_blank hv
    · rw [List.length_append, List.length_cons] at hn
      obtain ⟨front, hfront⟩ := exists_listsRuns_of_not_blank ha
      obtain ⟨behind, hbehind⟩ := ih b.length (by omega) b rfl
      exact ⟨_, hfront.append_blank hbehind hc⟩

end

/-! ## Spellings -/

/-- A way to write tokens down: a gap in front of each token, and what stands behind the last.  Gaps are
    blank, and only the first may be empty. -/
structure Spelling where
  items : List (Text × Text)
  behind : Text
  gap_blank : ∀ x ∈ items, AllBlank x.1
  gap_ne_nil : ∀ x ∈ items.tail, x.1 ≠ []
  isToken : ∀ x ∈ items, IsToken x.2
  behind_blank : AllBlank behind

namespace Spelling

/-- What is written down. -/
def tokens (s : Spelling) : List Text := s.items.map Prod.snd

/-- What is written. -/
def text (s : Spelling) : Text := (s.items.flatMap fun x => x.1 ++ x.2) ++ s.behind

end Spelling

/-- The induction is on the tokens, from the front: the gap in front of the first one goes away, and the
    gap behind it, which is not empty, ends the token. -/
theorem tokenize_items {items : List (Text × Text)} {behind : Text}
    (hgap : ∀ x ∈ items, AllBlank x.1) (hne : ∀ x ∈ items.tail, x.1 ≠ [])
    (htoken : ∀ x ∈ items, IsToken x.2) (hbehind : AllBlank behind) :
    tokenize ((items.flatMap fun x => x.1 ++ x.2) ++ behind) = items.map Prod.snd := by
  induction items with
  | nil =>
    have h := tokenize_append_blanks hbehind []
    simpa using h
  | cons x items ih =>
    have hrest := ih (fun y hy => hgap y (List.mem_cons_of_mem x hy))
      (fun y hy => hne y (List.mem_of_mem_tail hy)) fun y hy => htoken y (List.mem_cons_of_mem x hy)
    have hx : IsToken x.2 := htoken x List.mem_cons_self
    rw [List.flatMap_cons, List.append_assoc, List.append_assoc,
      tokenize_blanks_append (hgap x List.mem_cons_self), List.map_cons]
    cases items with
    | nil =>
      rw [List.flatMap_nil, List.nil_append, tokenize_append_blanks hbehind,
        tokenize_of_isToken hx]
      rfl
    | cons y items =>
      have hy : AllBlank y.1 := hgap y (List.mem_cons_of_mem x List.mem_cons_self)
      rw [List.flatMap_cons, List.append_assoc, List.append_assoc,
        tokenize_blanks_append hy] at hrest
      rw [List.flatMap_cons, List.append_assoc, List.append_assoc, ← List.append_assoc x.2,
        tokenize_append_blanks_append hy (hne y List.mem_cons_self), tokenize_of_isToken hx, hrest]
      rfl

/-- **Cutting undoes every spelling.** -/
theorem tokenize_spelling (s : Spelling) : tokenize s.text = s.tokens :=
  tokenize_items s.gap_blank s.gap_ne_nil s.isToken s.behind_blank

/-- **Cutting is undone by writing, and undoes it.**

    * Blanks are the characters of one table, for all that follows.
    * The tokens of a text are its maximal runs of characters that are not blank, in order; they are not
      empty and hold no blank.
    * Whatever blanks are written between tokens, in front of them and behind them, the tokens are read
      back, repetitions included.
    * Texts with blanks in between have the tokens of the one and then those of the other. -/
theorem tokenize_inverts_joining :
    (∀ c, isBlank c = true ↔ c.toNat ∈ blankCodes) ∧
    (∀ v, (∃ runs : List (Nat × Nat), (runs.Pairwise fun s t => s.2 < t.1) ∧
        (∀ i j, (i, j) ∈ runs ↔ IsRun v i j) ∧
        tokenize v = runs.map fun s => (v.take s.2).drop s.1) ∧
      ∀ t ∈ tokenize v, t ≠ [] ∧ ∀ c ∈ t, isBlank c = false) ∧
    (∀ s : Spelling, tokenize s.text = s.tokens) ∧
    ∀ a w b, w ≠ [] → AllBlank w → tokenize (a ++ w ++ b) = tokenize a ++ tokenize b := by
  refine ⟨fun c => isBlank_iff_mem_blankCodes, fun v => ⟨?_, fun t => isToken_of_mem_tokenize⟩,
    tokenize_spelling, fun a w b hne hw => tokenize_append_blanks_append hw hne a b⟩
  obtain ⟨runs, hruns⟩ := exists_listsRuns v
  exact ⟨runs, hruns.ordered, hruns.mem_iff, hruns.tokens⟩

/-- Three tokens, two of them equal, between blanks of many kinds. -/
def mixedSpelling : Spelling where
  items := [("\u2003".toList, "flex".toList), ("\x1c ".toList, "p-4".toList),
    ("\n".toList, "flex".toList)]
  behind := "\u0085".toList
  gap_blank := by decide
  gap_ne_nil := by decide
  isToken := by decide
  behind_blank := by decide

theorem tokenize_inverts_joining_mixed :
    tokenize "\u2003flex\x1c p-4\nflex\u0085".toList =
      ["flex".toList, "p-4".toList, "flex".toList] ∧
    tokenize ("m-1 flex".toList ++ "\u00a0\t".toList ++ "p-4".toList) =
      tokenize "m-1 flex".toList ++ tokenize "p-4".toList := by
  obtain ⟨-, -, hspelling, hparted⟩ := tokenize_inverts_joining
  exact ⟨hspelling mixedSpelling, hparted _ _ _ (by decide) (by decide)⟩

end ClassLift
