/-
  Buckets keep every token.

  Putting a token into its bucket adds that token to what the buckets hold together and takes nothing
  away (one step), so sorting a list of tokens into buckets gives a permutation of the list (a run).
  Showing the buckets under the titles of their categories, leaving out empty ones and putting them
  into another order changes nothing about that.

  The buckets are known outright: one for each category that comes up, in the order in which the
  categories first do, and in it the tokens of that category (`entries_categorize`).  Told this way
  they no longer depend on how they were filled, and what leaves tokens out by their category leaves
  out whole buckets (`entries_categorize_filter`).
-/
import Mathlib.Data.List.Induction
import Mathlib.Data.List.Nodup
import ClassLift.Rule

namespace ClassLift

/-! ## One step -/

/-- All tokens of some entries, bucket by bucket; which key a bucket has does not matter. -/
def tokensOf {κ : Type} (es : List (κ × List Text)) : List Text := (es.map Prod.snd).flatten

@[simp]
theorem tokensOf_cons {κ : Type} (e : κ × List Text) (es : List (κ × List Text)) :
    tokensOf (e :: es) = e.2 ++ tokensOf es := rfl

/-- Putting one more token into a bucket, or opening a bucket for it, adds the token. -/
theorem tokensOf_alterEntry_perm {κ : Type} [DecidableEq κ] (key : κ) (token : Text)
    (es : List (κ × List Text)) :
    (tokensOf (alterEntry key (fun bucket => bucket.getD [] ++ [token]) es)).Perm
      (token :: tokensOf es) := by
  induction es with
  | nil => exact List.Perm.refl [token]
  | cons e es ih =>
    obtain ⟨k, ts⟩ := e
    rw [alterEntry, tokensOf_cons]
    by_cases hk : k = key
    · simp [hk, List.perm_middle]
    · rw [if_neg hk, tokensOf_cons]
      show (ts ++ tokensOf (alterEntry key _ es)).Perm (token :: (ts ++ tokensOf es))
      exact (ih.append_left ts).trans List.perm_middle

namespace Buckets

/-- All tokens of some buckets. -/
def tokens {κ : Type} (b : Buckets κ) : List Text := tokensOf b.entries

theorem tokens_push_perm {κ : Type} [DecidableEq κ] (b : Buckets κ) (key : κ) (token : Text) :
    (b.push key token).tokens.Perm (token :: b.tokens) :=
  tokensOf_alterEntry_perm key token b.entries

/-- Titles do not touch the tokens. -/
@[simp]
theorem tokens_titled (b : Buckets Category) : b.titled.tokens = b.tokens := by
  rw [tokens, tokens, tokensOf, tokensOf, titled, List.map_map]
  rfl

section

variable {κ : Type} [DecidableEq κ]

/-- **Keys are different, so a bucket is found exactly where it is.** -/
theorem get?_eq_some_iff {b : Buckets κ} {key : κ} {ts : List Text} :
    b.get? key = some ts ↔ (key, ts) ∈ b.entries := by
  rw [get?, Option.map_eq_some_iff]
  constructor
  · rintro ⟨e, hfound, rfl⟩
    have hkey := List.find?_some hfound
    obtain rfl : e.1 = key := of_decide_eq_true hkey
    exact List.mem_of_find?_eq_some hfound
  · -- the first entry with the key is the only one
    intro hmem
    cases hfound : b.entries.find? fun e => e.1 = key with
    | none => exact absurd (decide_eq_true rfl) (List.find?_eq_none.mp hfound (key, ts) hmem)
    | some e =>
      have hkey := List.find?_some hfound
      have hsame : e = (key, ts) := List.inj_on_of_nodup_map b.nodup
        (List.mem_of_find?_eq_some hfound) hmem (of_decide_eq_true hkey)
      exact ⟨e, rfl, by rw [hsame]⟩

/-- Buckets with the same entries answer alike. -/
theorem get?_congr {a b : Buckets κ} (h : ∀ e, e ∈ a.entries ↔ e ∈ b.entries) (key : κ) :
    a.get? key = b.get? key := by
  refine Option.ext fun ts => ?_
  rw [get?_eq_some_iff, get?_eq_some_iff, h]

/-- The entries are told by their keys. -/
theorem entries_eq_map_keys (b : Buckets κ) :
    b.entries = b.keys.map fun key => (key, (b.get? key).getD []) := by
  rw [keys, List.map_map]
  refine (List.map_id' b.entries).symm.trans (List.map_congr_left fun e he => ?_)
  show e = (e.1, (b.get? e.1).getD [])
  rw [get?_eq_some_iff.mpr he, Option.getD_some]

end

end Buckets

/-! ## A run -/

theorem tokens_foldl_push_perm (ts : List Text) (b : Buckets Category) :
    (ts.foldl (fun b t => b.push (classify t) t) b).tokens.Perm (b.tokens ++ ts) := by
  induction ts generalizing b with
  | nil => rw [List.append_nil, List.foldl_nil]
  | cons t ts ih =>
    have hstep := (b.tokens_push_perm (classify t) t).append_right ts
    exact (ih _).trans (hstep.trans List.perm_middle.symm)

/-- **Sorting into buckets keeps every token**, with its repetitions. -/
theorem tokens_categorize_perm (ts : List Text) : (categorize ts).tokens.Perm ts :=
  tokens_foldl_push_perm ts Buckets.empty

/-! ## The buckets, outright -/

section

variable {κ : Type} [DecidableEq κ]

/-- One more member is new or was there before, and only a new one is seen. -/
theorem eraseDups_concat (l : List κ) (a : κ) :
    (l ++ [a]).eraseDups = if a ∈ l then l.eraseDups else l.eraseDups ++ [a] := by
  have hlast : [a].removeAll l = if a ∈ l then [] else [a] := by
    by_cases ha : a ∈ l <;> simp [List.removeAll, ha]
  rw [List.eraseDups_append, hlast]
  split
  · exact List.append_nil _
  · rfl

/-- First occurrences stay first when members are left out. -/
theorem eraseDups_filter (p : κ → Bool) (l : List κ) :
    (l.filter p).eraseDups = l.eraseDups.filter p := by
  induction l using List.reverseRecOn with
  | nil => rfl
  | append_singleton l a ih =>
    rw [eraseDups_concat, List.filter_append]
    by_cases hp : p a = true
    · have hmem : a ∈ l.filter p ↔ a ∈ l := by simp [hp]
      rw [List.filter_cons_of_pos hp, List.filter_nil, eraseDups_concat, ih]
      by_cases ha : a ∈ l
      · rw [if_pos ha, if_pos (hmem.mpr ha)]
      · rw [if_neg ha, if_neg (mt hmem.mp ha), List.filter_append, List.filter_cons_of_pos hp,
          List.filter_nil]
    · rw [List.filter_cons_of_neg hp, List.filter_nil, List.append_nil, ih]
      split
      · rfl
      · rw [List.filter_append, List.filter_cons_of_neg hp, List.filter_nil, List.append_nil]

/-- A list has one member exactly if it is not empty and its members are equal. -/
theorem eraseDups_eq_singleton_iff {l : List κ} {a : κ} :
    l.eraseDups = [a] ↔ l ≠ [] ∧ ∀ b ∈ l, b = a := by
  constructor
  · intro h
    refine ⟨?_, fun b hb => ?_⟩
    · rintro rfl
      exact absurd h (by simp)
    · rw [← List.mem_eraseDups, h] at hb
      exact List.mem_singleton.mp hb
  · rintro ⟨hne, hall⟩
    induction l using List.reverseRecOn with
    | nil => exact absurd rfl hne
    | append_singleton l b ih =>
      obtain rfl : b = a := hall b List.mem_concat_self
      rw [eraseDups_concat]
      cases l with
      | nil => rfl
      | cons c l =>
        have hfirst : (c :: l).eraseDups = [b] :=
          ih (List.cons_ne_nil c l) fun d hd => hall d (List.mem_append_left [b] hd)
        rw [if_pos (List.mem_eraseDups.mp (hfirst ▸ List.mem_cons_self)), hfirst]

/-- **Putting a token into its bucket**, where the buckets are known by their keys.  By induction on the
    keys: the bucket is here, and then it is nowhere else, or it is further on. -/
theorem alterEntry_map {key : κ} {f : κ → List Text} {ks : List κ} (token : Text)
    (hks : ks.Nodup) (hnew : key ∉ ks → f key = []) :
    alterEntry key (fun bucket => bucket.getD [] ++ [token]) (ks.map fun k => (k, f k)) =
      (if key ∈ ks then ks else ks ++ [key]).map
        fun k => (k, if k = key then f k ++ [token] else f k) := by
  induction ks with
  | nil =>
    have hempty : f key = [] := hnew List.not_mem_nil
    simp [alterEntry, hempty]
  | cons k ks ih =>
    obtain ⟨hk, hks⟩ := List.nodup_cons.mp hks
    rw [List.map_cons, alterEntry]
    by_cases heq : k = key
    · subst heq
      -- its key does not come up again, so the other buckets stay as they are
      have hothers : ∀ c ∈ ks, (c, f c) = (c, if c = k then f c ++ [token] else f c) := by
        intro c hc
        rw [if_neg]
        rintro rfl
        exact hk hc
      rw [if_pos rfl, if_pos List.mem_cons_self, List.map_cons, if_pos rfl,
        List.map_congr_left hothers]
      rfl
    · have hmem : key ∈ k :: ks ↔ key ∈ ks := by simp [Ne.symm heq]
      rw [if_neg heq, ih hks fun h => hnew (mt hmem.mp h)]
      by_cases hkey : key ∈ ks
      · rw [if_pos hkey, if_pos (hmem.mpr hkey), List.map_cons, if_neg heq]
      · rw [if_neg hkey, if_neg (mt hmem.mp hkey), List.cons_append, List.map_cons, if_neg heq]

end

/-- No token is of a category that does not come up. -/
theorem filter_classify_eq_nil {ts : List Text} {c : Category} (h : c ∉ ts.map classify) :
    (ts.filter fun t => classify t = c) = [] := by
  refine List.filter_eq_nil_iff.mpr fun t ht heq => h ?_
  rw [← of_decide_eq_true heq]
  exact List.mem_map_of_mem ht

/-- **What the buckets are**: one for each category that comes up, in the order in which they first do,
    and in it the tokens of that category in their order. -/
theorem entries_categorize (ts : List Text) :
    (categorize ts).entries =
      (ts.map classify).eraseDups.map fun c => (c, ts.filter fun t => classify t = c) := by
  induction ts using List.reverseRecOn with
  | nil => rfl
  | append_singleton ts t ih =>
    have hstep : (categorize (ts ++ [t])).entries =
        alterEntry (classify t) (fun bucket => bucket.getD [] ++ [t]) (categorize ts).entries := by
      rw [categorize, List.foldl_append]
      rfl
    -- what was there so far has different keys, as all buckets do
    have hkeys : (ts.map classify).eraseDups.Nodup := by
      have hnodup := (categorize ts).nodup
      rw [ih, List.map_map] at hnodup
      simpa [Function.comp_def] using hnodup
    have hnew : classify t ∉ (ts.map classify).eraseDups →
        (ts.filter fun u => classify u = classify t) = [] := by
      intro h
      exact filter_classify_eq_nil (mt List.mem_eraseDups.mpr h)
    rw [hstep, ih, alterEntry_map t hkeys hnew, List.map_append, List.map_singleton,
      eraseDups_concat, if_congr List.mem_eraseDups rfl rfl]
    refine List.map_congr_left fun c _ => ?_
    rw [List.filter_append]
    by_cases hc : c = classify t
    · rw [if_pos hc, List.filter_cons_of_pos (by simp [hc]), List.filter_nil]
    · rw [if_neg hc, List.filter_cons_of_neg (by simp [Ne.symm hc]), List.filter_nil,
        List.append_nil]

/-- **Leaving out the tokens of some categories leaves out their buckets**, and nothing else. -/
theorem entries_categorize_filter (p : Category → Bool) (ts : List Text) :
    (categorize (ts.filter fun t => p (classify t))).entries =
      (categorize ts).entries.filter fun e => p e.1 := by
  have hkeys : (ts.filter fun t => p (classify t)).map classify = (ts.map classify).filter p := by
    rw [List.filter_map]
    rfl
  rw [entries_categorize, entries_categorize, hkeys, eraseDups_filter, List.filter_map]
  refine List.map_congr_left fun c hc => ?_
  have hp : p c = true := (List.mem_filter.mp hc).2
  rw [List.filter_filter]
  refine congrArg (Prod.mk c) (List.filter_congr fun t _ => ?_)
  by_cases ht : classify t = c
  · rw [ht, hp, Bool.and_true]
  · rw [decide_eq_false ht, Bool.false_and]

/-- The keys are the categories that come up. -/
theorem keys_categorize (ts : List Text) :
    (categorize ts).keys = (ts.map classify).eraseDups := by
  rw [Buckets.keys, entries_categorize, List.map_map]
  exact List.map_id _

/-- There is one bucket exactly if there are tokens and they are of one category. -/
theorem keys_categorize_eq_singleton_iff {ts : List Text} {c : Category} :
    (categorize ts).keys = [c] ↔ ts ≠ [] ∧ ∀ t ∈ ts, classify t = c := by
  rw [keys_categorize, eraseDups_eq_singleton_iff, List.forall_mem_map]
  exact and_congr_left' (not_congr List.map_eq_nil_iff)

/-- The bucket of a category holds its tokens; where none came up there is no bucket, and no token. -/
theorem getD_get?_categorize (ts : List Text) (c : Category) :
    ((categorize ts).get? c).getD [] = ts.filter fun t => classify t = c := by
  cases hbucket : (categorize ts).get? c with
  | none =>
    have hnew : c ∉ ts.map classify := by
      intro hc
      have hmem : (c, ts.filter fun t => classify t = c) ∈ (categorize ts).entries := by
        rw [entries_categorize]
        exact List.mem_map_of_mem (List.mem_eraseDups.mpr hc)
      rw [Buckets.get?_eq_some_iff.mpr hmem] at hbucket
      exact absurd hbucket (by simp)
    rw [filter_classify_eq_nil hnew, Option.getD_none]
  | some us =>
    have hmem := Buckets.get?_eq_some_iff.mp hbucket
    rw [entries_categorize] at hmem
    obtain ⟨d, -, heq⟩ := List.mem_map.mp hmem
    obtain ⟨rfl, rfl⟩ := Prod.mk.inj heq
    rfl

/-! ## What a grouped rule shows -/

/-- Leaving out empty buckets leaves out no token. -/
theorem tokensOf_filter_nonempty {κ : Type} (es : List (κ × List Text)) :
    tokensOf (es.filter fun e => !e.2.isEmpty) = tokensOf es := by
  induction es with
  | nil => rfl
  | cons e es ih =>
    by_cases he : e.2 = [] <;> simp [he, ih]

/-- The blocks of a grouped rule hold the tokens of the buckets. -/
theorem tokensOf_ruleBlocks_perm (b : Buckets Text) : (tokensOf (ruleBlocks b)).Perm b.tokens := by
  rw [ruleBlocks, tokensOf_filter_nonempty]
  exact ((List.mergeSort_perm _ _).map Prod.snd).flatten

/-- There are as many blocks as buckets with a token. -/
theorem length_ruleBlocks (b : Buckets Text) : (ruleBlocks b).length = b.populated := by
  rw [ruleBlocks, ← List.countP_eq_length_filter]
  exact (List.mergeSort_perm _ _).countP_eq _

theorem mem_entries_of_mem_ruleBlocks {b : Buckets Text} {block : Text × List Text}
    (h : block ∈ ruleBlocks b) : block ∈ b.entries :=
  (List.mergeSort_perm _ _).mem_iff.mp (List.mem_filter.mp h).1

end ClassLift
