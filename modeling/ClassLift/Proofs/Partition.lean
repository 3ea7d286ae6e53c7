/-
  Sorting into buckets is an order-preserving partition.

  The loop that fills the buckets changes one of them at every token, and its result is known outright
  (`entries_categorize`): the keys are the categories that come up, first occurrences first, and the
  bucket of a category is what filtering the tokens by it leaves.  What is left to say is what that
  means.

  1. **Order of the keys.**  A list without its repetitions keeps its members in the order of their
     first places (`pairwise_idxOf_eraseDups`): a member that comes up once more changes nothing, and
     a new one comes after all the others.

  2. **Counting.**  The buckets hold a permutation of the tokens, so their lengths sum to the number of
     tokens.

  3. **Cutting.**  A filter is a homomorphism of `++`, so the buckets of a list in two parts are those
     of the parts put together, and a category is new in the second part exactly if the first part has
     no bucket for it.
-/
import Mathlib.Algebra.GroupWithZero.Nat
import Mathlib.Data.List.Basic
import ClassLift.Proofs.Buckets

namespace ClassLift

/-! ## Order of the keys -/

/-- **First occurrences stand in the order of their places.** -/
theorem pairwise_idxOf_eraseDups {κ : Type} [DecidableEq κ] (l : List κ) :
    l.eraseDups.Pairwise fun a b => l.idxOf a < l.idxOf b := by
  induction l using List.reverseRecOn with
  | nil => exact List.Pairwise.nil
  | append_singleton l a ih =>
    -- one more member moves no place that a member had before
    have hold : l.eraseDups.Pairwise fun b c => (l ++ [a]).idxOf b < (l ++ [a]).idxOf c := by
      refine ih.imp_of_mem fun hb hc hlt => ?_
      rw [List.idxOf_append_of_mem (List.mem_eraseDups.mp hb),
        List.idxOf_append_of_mem (List.mem_eraseDups.mp hc)]
      exact hlt
    rw [eraseDups_concat]
    by_cases ha : a ∈ l
    · rw [if_pos ha]
      exact hold
    · rw [if_neg ha]
      refine List.pairwise_append.mpr ⟨hold, List.pairwise_singleton _ _, ?_⟩
      intro b hb c hc
      have hmem : b ∈ l := List.mem_eraseDups.mp hb
      have hlt : l.idxOf b < l.length := List.idxOf_lt_length_of_mem hmem
      rw [List.mem_singleton.mp hc, List.idxOf_append_of_mem hmem, List.idxOf_append_of_notMem ha]
      omega

theorem mem_keys_categorize {ts : List Text} {c : Category} :
    c ∈ (categorize ts).keys ↔ ∃ t ∈ ts, classify t = c := by
  rw [keys_categorize, List.mem_eraseDups, List.mem_map]

/-- No bucket is empty, and each holds the tokens of its category. -/
theorem bucket_of_mem_entries {ts : List Text} {e : Category × List Text}
    (h : e ∈ (categorize ts).entries) :
    e.2 ≠ [] ∧ e.2 = ts.filter fun t => classify t = e.1 := by
  rw [entries_categorize] at h
  obtain ⟨c, hc, rfl⟩ := List.mem_map.mp h
  refine ⟨?_, rfl⟩
  obtain ⟨t, ht, hclass⟩ := List.mem_map.mp (List.mem_eraseDups.mp hc)
  exact List.ne_nil_of_mem (List.mem_filter.mpr ⟨ht, decide_eq_true hclass⟩)

/-! ## Counting -/

/-- How many tokens of each category there are. -/
theorem counts_categorize (ts : List Text) :
    (categorize ts).counts =
      (categorize ts).keys.map fun c => (c, (ts.filter fun t => classify t = c).length) := by
  rw [keys_categorize, Buckets.counts, entries_categorize, List.map_map]
  rfl

/-- **The counts sum to the number of tokens.** -/
theorem sum_counts_categorize (ts : List Text) :
    ((categorize ts).counts.map Prod.snd).sum = ts.length := by
  have hlengths : (categorize ts).counts.map Prod.snd =
      ((categorize ts).entries.map Prod.snd).map List.length := by
    rw [Buckets.counts, List.map_map, List.map_map]
    rfl
  rw [hlengths, ← List.length_flatten]
  exact (tokens_categorize_perm ts).length_eq

/-! ## Cutting -/

/-- **The keys of two parts**: those of the first, then the new ones of the second. -/
theorem keys_categorize_append (us vs : List Text) :
    (categorize (us ++ vs)).keys =
      (categorize us).keys ++ (categorize vs).keys.filter fun c => c ∉ (categorize us).keys := by
  have hnew : (vs.map classify).removeAll (us.map classify) =
      (vs.map classify).filter fun c => c ∉ (us.map classify).eraseDups := by
    refine List.filter_congr fun c _ => ?_
    rw [List.elem_eq_contains, decide_not, Bool.not_inj_iff, Bool.eq_iff_iff, decide_eq_true_iff,
      List.mem_eraseDups, List.contains_iff_mem]
  rw [keys_categorize, keys_categorize, keys_categorize, List.map_append, List.eraseDups_append, hnew,
    eraseDups_filter]

/-- **The buckets of two parts** are those of the parts put together. -/
theorem bucket_categorize_append (us vs : List Text) (c : Category) :
    ((categorize (us ++ vs)).get? c).getD [] =
      ((categorize us).get? c).getD [] ++ ((categorize vs).get? c).getD [] := by
  rw [getD_get?_categorize, getD_get?_categorize, getD_get?_categorize, List.filter_append]

/-- **Sorting into buckets is an order-preserving partition of the tokens.**  The keys are the
    categories that come up, each once and in the order of their first tokens.  No bucket is empty, and
    the bucket of a category is the sublist of its tokens.  The counts are the lengths of the buckets,
    in the order of the keys, and sum to the number of tokens.  A list in two parts has the buckets of
    the parts put together, and the keys of the first part before the new ones of the second. -/
theorem categorize_partitions (ts : List Text) :
    ((categorize ts).keys.Nodup ∧
      (∀ c, c ∈ (categorize ts).keys ↔ ∃ t ∈ ts, classify t = c) ∧
      (categorize ts).keys.Pairwise fun c d =>
        (ts.map classify).idxOf c < (ts.map classify).idxOf d) ∧
    (∀ e ∈ (categorize ts).entries, e.2 ≠ [] ∧ e.2 = ts.filter fun t => classify t = e.1) ∧
    (∀ c, ((categorize ts).get? c).getD [] = ts.filter fun t => classify t = c) ∧
    (categorize ts).counts =
      (categorize ts).keys.map (fun c => (c, (ts.filter fun t => classify t = c).length)) ∧
    ((categorize ts).counts.map Prod.snd).sum = ts.length ∧
    ∀ us vs, ts = us ++ vs →
      (categorize ts).keys =
        (categorize us).keys ++ (categorize vs).keys.filter (fun c => c ∉ (categorize us).keys) ∧
      ∀ c, ((categorize ts).get? c).getD [] =
        ((categorize us).get? c).getD [] ++ ((categorize vs).get? c).getD [] := by
  refine ⟨⟨(categorize ts).nodup, fun c => mem_keys_categorize, ?_⟩,
    fun e he => bucket_of_mem_entries he, getD_get?_categorize ts, counts_categorize ts,
    sum_counts_categorize ts, ?_⟩
  · rw [keys_categorize]
    exact pairwise_idxOf_eraseDups (ts.map classify)
  · rintro us vs rfl
    exact ⟨keys_categorize_append us vs, bucket_categorize_append us vs⟩

/-- The first part has two buckets, and the second part adds to one of them and opens a third. -/
theorem categorize_partitions_reopened :
    (categorize (["text-sm".toList, "hover:p-1".toList] ++
      ["text-lg".toList, "text-red-500".toList])).keys = [.typography, .states, .colors] ∧
    ((categorize (["text-sm".toList, "hover:p-1".toList] ++
      ["text-lg".toList, "text-red-500".toList])).get? .typography).getD [] =
        ["text-sm".toList] ++ ["text-lg".toList] := by
  obtain ⟨-, -, -, -, -, hcut⟩ := categorize_partitions
    (["text-sm".toList, "hover:p-1".toList] ++ ["text-lg".toList, "text-red-500".toList])
  obtain ⟨hkeys, hbuckets⟩ := hcut _ _ rfl
  have hfirst : (categorize ["text-sm".toList, "hover:p-1".toList]).entries =
      [(.typography, ["text-sm".toList]), (.states, ["hover:p-1".toList])] := by decide +kernel
  have hsecond : (categorize ["text-lg".toList, "text-red-500".toList]).entries =
      [(.typography, ["text-lg".toList]), (.colors, ["text-red-500".toList])] := by decide +kernel
  refine ⟨hkeys.trans ?_, (hbuckets .typography).trans ?_⟩
  · rw [Buckets.keys, Buckets.keys, hfirst, hsecond]
    decide
  · rw [Buckets.get?, Buckets.get?, hfirst, hsecond]
    decide

end ClassLift
