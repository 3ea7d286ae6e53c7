/-
  The longest key decides, and the order of the table does not.

  A utility is looked up by a search: the table is sorted by length, and the first key that applies
  gives the category.  What the search finds can be told without it.

  1. **When a key applies** is said on texts alone (`UtilityKey.AppliesTo`).  Either way the key is a
     beginning of the utility, and a beginning is known by its length: two keys of ONE length that
     apply to one utility are the same text, and the table has every text once.

  2. **What the search finds** in a table that is searched longest key first is a key that applies and
     than which no key that applies is longer (`isLongest_of_find?`): those in front of it do not
     apply, those behind it are not longer.  By the first point there is only one such key.

  3. **Order.**  The longest key that applies depends on which keys there are, not on where they
     stand.  So any order of the table gives the same answers, and so does any way of sorting it by
     length, wherever that puts keys of one length.
-/
import Mathlib.Data.List.Basic
import Mathlib.Data.List.Nodup
import ClassLift.Category.Classify

namespace ClassLift

/-! ## When a key applies -/

namespace UtilityKey

/-- A key that ends in a hyphen applies to what starts with it, any other key to itself alone. -/
def AppliesTo (k : UtilityKey) (base : Text) : Prop :=
  (['-'] <:+ k.key ∧ k.key <+: base) ∨ (¬['-'] <:+ k.key ∧ base = k.key)

instance (k : UtilityKey) (base : Text) : Decidable (k.AppliesTo base) :=
  inferInstanceAs (Decidable (_ ∨ _))

variable {k l : UtilityKey} {base : Text}

/-- The test that the search makes. -/
theorem applies_iff : k.applies base = true ↔ k.AppliesTo base := by
  have hhyphen : k.key.getLast? = some '-' ↔ ['-'] <:+ k.key := by
    rw [List.getLast?_eq_some_iff]
    exact exists_congr fun front => eq_comm
  unfold applies AppliesTo
  split
  case isTrue hlast =>
    have hends := hhyphen.mp hlast
    rw [List.isPrefixOf_iff_prefix]
    constructor
    · intro hbegins
      exact Or.inl ⟨hends, hbegins⟩
    · rintro (⟨-, hbegins⟩ | ⟨hnot, -⟩)
      · exact hbegins
      · exact absurd hends hnot
  case isFalse hlast =>
    have hnot := mt hhyphen.mpr hlast
    rw [beq_iff_eq]
    constructor
    · intro heq
      exact Or.inr ⟨hnot, heq⟩
    · rintro (⟨hends, -⟩ | ⟨-, heq⟩)
      · exact absurd hends hnot
      · exact heq

/-- A key that applies is a beginning of the utility, whichever kind it is of. -/
theorem AppliesTo.isPrefix (h : k.AppliesTo base) : k.key <+: base := by
  rcases h with ⟨-, hbegins⟩ | ⟨-, rfl⟩
  · exact hbegins
  · exact List.prefix_rfl

/-- **A utility has one beginning of each length.** -/
theorem AppliesTo.key_eq (hk : k.AppliesTo base) (hl : l.AppliesTo base)
    (hlength : k.key.length = l.key.length) : k.key = l.key := by
  have hshorter : k.key <+: l.key :=
    List.prefix_of_prefix_length_le hk.isPrefix hl.isPrefix (by omega)
  exact hshorter.eq_of_length hlength

end UtilityKey

/-! ## What the search finds -/

/-- A key of the table that applies, and than which no key that applies is longer. -/
structure IsLongest (table : List UtilityKey) (base : Text) (k : UtilityKey) : Prop where
  mem : k ∈ table
  applies : k.AppliesTo base
  longest : ∀ other ∈ table, other.AppliesTo base → other.key.length ≤ k.key.length

/-- No text is the key of two entries. -/
def HasDistinctKeys (table : List UtilityKey) : Prop :=
  ∀ k ∈ table, ∀ l ∈ table, k.key = l.key → k = l

/-- Longer keys come first. -/
def LongestFirst (table : List UtilityKey) : Prop :=
  table.Pairwise fun k l => l.key.length ≤ k.key.length

theorem longestFirst_sorted (table : List UtilityKey) : LongestFirst (longestFirst table) := by
  have htrans : ∀ a b c : UtilityKey, decide (b.key.length ≤ a.key.length) = true →
      decide (c.key.length ≤ b.key.length) = true →
      decide (c.key.length ≤ a.key.length) = true := by
    intro a b c hab hbc
    simp only [decide_eq_true_eq] at hab hbc ⊢
    omega
  have htotal : ∀ a b : UtilityKey, (decide (b.key.length ≤ a.key.length) ||
      decide (a.key.length ≤ b.key.length)) = true := by
    intro a b
    simp only [Bool.or_eq_true, decide_eq_true_eq]
    omega
  exact (List.pairwise_mergeSort htrans htotal table).imp of_decide_eq_true

section

variable {table searched : List UtilityKey} {base : Text} {k l : UtilityKey}

/-- **The search finds a longest key.** -/
theorem isLongest_of_find? (hsorted : LongestFirst table)
    (h : table.find? (UtilityKey.applies base) = some k) : IsLongest table base k := by
  obtain ⟨happlies, front, rest, rfl, hfront⟩ := List.find?_eq_some_iff_append.mp h
  refine ⟨List.mem_append_right front List.mem_cons_self, UtilityKey.applies_iff.mp happlies, ?_⟩
  intro other hmem hother
  rcases List.mem_append.mp hmem with hmem | hmem
  · -- what stands in front was passed over
    have hpassed := hfront other hmem
    rw [UtilityKey.applies_iff.mpr hother] at hpassed
    exact absurd hpassed (by decide)
  rcases List.mem_cons.mp hmem with rfl | hmem
  · exact Nat.le_refl _
  · obtain ⟨-, hbehind, -⟩ := List.pairwise_append.mp hsorted
    exact (List.pairwise_cons.mp hbehind).1 other hmem

/-- There is one longest key at most. -/
theorem IsLongest.unique (hkeys : HasDistinctKeys table) (hk : IsLongest table base k)
    (hl : IsLongest table base l) : k = l := by
  have hkl := hl.longest k hk.mem hk.applies
  have hlk := hk.longest l hl.mem hl.applies
  exact hkeys k hk.mem l hl.mem (hk.applies.key_eq hl.applies (by omega))

theorem HasDistinctKeys.perm (hperm : table.Perm searched) (h : HasDistinctKeys table) :
    HasDistinctKeys searched :=
  fun k hk l hl => h k (hperm.mem_iff.mpr hk) l (hperm.mem_iff.mpr hl)

theorem IsLongest.perm (hperm : table.Perm searched) (h : IsLongest table base k) :
    IsLongest searched base k :=
  ⟨hperm.mem_iff.mp h.mem, h.applies, fun other hmem => h.longest other (hperm.mem_iff.mpr hmem)⟩

/-- A search that comes back with nothing has passed over every key. -/
theorem find?_applies_eq_none_iff :
    table.find? (UtilityKey.applies base) = none ↔ ∀ k ∈ table, ¬k.AppliesTo base := by
  rw [List.find?_eq_none]
  exact forall₂_congr fun k _ => not_congr UtilityKey.applies_iff

/-- If some key applies, there is a longest one. -/
theorem exists_isLongest (h : ∃ k ∈ table, k.AppliesTo base) : ∃ k, IsLongest table base k := by
  have hperm : (longestFirst table).Perm table := List.mergeSort_perm _ _
  cases hfound : (longestFirst table).find? (UtilityKey.applies base) with
  | some k => exact ⟨k, (isLongest_of_find? (longestFirst_sorted table) hfound).perm hperm⟩
  | none =>
    obtain ⟨k, hmem, happlies⟩ := h
    exact absurd happlies (find?_applies_eq_none_iff.mp hfound k (hperm.mem_iff.mpr hmem))

/-- **The answer of a search**, whatever order the keys of one length stand in. -/
theorem firstApplicable_of_isLongest (hkeys : HasDistinctKeys table)
    (hsorted : LongestFirst table) (h : IsLongest table base k) :
    firstApplicable table base = k.category := by
  cases hfound : table.find? (UtilityKey.applies base) with
  | none => exact absurd h.applies (find?_applies_eq_none_iff.mp hfound k h.mem)
  | some l =>
    have hl : l = k := (isLongest_of_find? hsorted hfound).unique hkeys h
    rw [firstApplicable, hfound, hl]
    rfl

theorem firstApplicable_of_none (h : ∀ k ∈ table, ¬k.AppliesTo base) :
    firstApplicable table base = .other := by
  rw [firstApplicable, find?_applies_eq_none_iff.mpr h]
  rfl

/-! ## Order -/

/-- **Two searches of the same keys give the same answer**, if both go from longer to shorter keys. -/
theorem firstApplicable_eq_of_perm (hkeys : HasDistinctKeys table)
    (hperm : searched.Perm table) (htable : LongestFirst table) (hsearched : LongestFirst searched) :
    firstApplicable searched base = firstApplicable table base := by
  have hkeys' : HasDistinctKeys searched := hkeys.perm hperm.symm
  by_cases happlies : ∃ k ∈ table, k.AppliesTo base
  · obtain ⟨k, hk⟩ := exists_isLongest happlies
    rw [firstApplicable_of_isLongest hkeys htable hk,
      firstApplicable_of_isLongest hkeys' hsearched (hk.perm hperm.symm)]
  · have hnone : ∀ k ∈ table, ¬k.AppliesTo base := fun k hmem h => happlies ⟨k, hmem, h⟩
    rw [firstApplicable_of_none hnone,
      firstApplicable_of_none fun k hmem => hnone k (hperm.mem_iff.mp hmem)]

end

/-- The keys, length by length. -/
theorem nodup_keys_of_length :
    (∀ k ∈ utilityKeys, k.key.length ≤ 20) ∧
      ∀ n ≤ 20, ((utilityKeys.filter fun k => k.key.length = n).map UtilityKey.key).Nodup := by
  decide +kernel

/-- **The table has every key once.**  Only keys of one length need to be compared. -/
theorem hasDistinctKeys_utilityKeys : HasDistinctKeys utilityKeys := by
  intro k hk l hl hkey
  have hlength : l.key.length = k.key.length := by rw [hkey]
  obtain ⟨hshort, hlengths⟩ := nodup_keys_of_length
  have hnodup := hlengths k.key.length (hshort k hk)
  refine List.inj_on_of_nodup_map hnodup ?_ ?_ hkey
  · exact List.mem_filter.mpr ⟨hk, decide_eq_true rfl⟩
  · exact List.mem_filter.mpr ⟨hl, decide_eq_true hlength⟩

theorem searchedKeys_perm : searchedKeys.Perm utilityKeys := List.mergeSort_perm _ _

theorem hasDistinctKeys_searchedKeys : HasDistinctKeys searchedKeys :=
  hasDistinctKeys_utilityKeys.perm searchedKeys_perm.symm

/-- **The longest key that applies decides about a utility.**  No two keys that apply have one length;
    if a key applies then one is the longest, and the category is that key's; if none applies the
    category is `other`.  The category does not depend on the order of the table, nor on the order in
    which keys of one length are searched. -/
theorem longest_key_decides (base : Text) :
    (∀ k ∈ utilityKeys, ∀ l ∈ utilityKeys, k.AppliesTo base → l.AppliesTo base → k ≠ l →
      k.key.length ≠ l.key.length) ∧
    ((∃ k ∈ utilityKeys, k.AppliesTo base) → ∃ k, IsLongest utilityKeys base k) ∧
    (∀ k, IsLongest utilityKeys base k → categoryOfBase base = k.category) ∧
    ((∀ k ∈ utilityKeys, ¬k.AppliesTo base) → categoryOfBase base = .other) ∧
    (∀ table : List UtilityKey, table.Perm utilityKeys →
      firstApplicable (longestFirst table) base = categoryOfBase base) ∧
    ∀ searched : List UtilityKey, searched.Perm utilityKeys → LongestFirst searched →
      firstApplicable searched base = categoryOfBase base := by
  have hsorted : LongestFirst searchedKeys := longestFirst_sorted utilityKeys
  have hsearch : ∀ searched : List UtilityKey, searched.Perm utilityKeys → LongestFirst searched →
      firstApplicable searched base = categoryOfBase base := by
    intro searched hperm hlongest
    exact firstApplicable_eq_of_perm hasDistinctKeys_searchedKeys
      (hperm.trans searchedKeys_perm.symm) hsorted hlongest
  refine ⟨?_, exists_isLongest, ?_, ?_, ?_, hsearch⟩
  · intro k hk l hl happk happl hne hlength
    exact hne (hasDistinctKeys_utilityKeys k hk l hl (happk.key_eq happl hlength))
  · intro k hk
    exact firstApplicable_of_isLongest hasDistinctKeys_searchedKeys hsorted
      (hk.perm searchedKeys_perm.symm)
  · intro hnone
    exact firstApplicable_of_none fun k hmem => hnone k (searchedKeys_perm.mem_iff.mp hmem)
  · intro table hperm
    exact hsearch _ ((List.mergeSort_perm table _).trans hperm) (longestFirst_sorted table)

/-- Two keys apply and the longer one is in another category; no key applies to what only looks like
    them. -/
theorem longest_key_decides_blend :
    (⟨"bg-".toList, .colors⟩ : UtilityKey).AppliesTo "bg-blend-multiply".toList ∧
    IsLongest utilityKeys "bg-blend-multiply".toList ⟨"bg-blend-".toList, .effects⟩ ∧
    categoryOfBase "bg-blend-multiply".toList = .effects ∧
    firstApplicable (longestFirst utilityKeys.reverse) "bg-blend-multiply".toList = .effects ∧
    categoryOfBase "bgblend".toList = .other := by
  let blend : UtilityKey := ⟨"bg-blend-".toList, .effects⟩
  have htable : blend ∈ utilityKeys ∧
      (∀ other ∈ utilityKeys, other.AppliesTo "bg-blend-multiply".toList →
        other.key.length ≤ blend.key.length) ∧
      ∀ k ∈ utilityKeys, ¬k.AppliesTo "bgblend".toList := by decide +kernel
  obtain ⟨hmem, hlongest, hnone⟩ := htable
  have hblend : IsLongest utilityKeys "bg-blend-multiply".toList blend :=
    ⟨hmem, by decide, hlongest⟩
  obtain ⟨-, -, hdecides, -, horder, -⟩ := longest_key_decides "bg-blend-multiply".toList
  obtain ⟨-, -, -, hother, -⟩ := longest_key_decides "bgblend".toList
  have heffects := hdecides _ hblend
  exact ⟨by decide, hblend, heffects,
    (horder _ (List.reverse_perm utilityKeys)).trans heffects, hother hnone⟩

end ClassLift
