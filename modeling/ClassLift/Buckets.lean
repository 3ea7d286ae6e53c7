/-
  Buckets: token lists under keys, in the order in which the keys first came up.

  A rule is grouped by sorting its tokens into buckets.  Keys are pairwise different, which is kept
  in the type: both operations change the bucket of ONE key and open a new bucket at the end iff
  the key has none yet, so the list of keys grows by at most that one key.
-/
import ClassLift.Category.Classify

namespace ClassLift

/-! ## One entry -/

/-- The list with the value of `key` changed by `f`, or with `f none` at the end if it has none. -/
def alterEntry {κ : Type} [DecidableEq κ] (key : κ) (f : Option (List Text) → List Text) :
    List (κ × List Text) → List (κ × List Text)
  | [] => [(key, f none)]
  | (k, ts) :: rest =>
    if k = key then (k, f (some ts)) :: rest else (k, ts) :: alterEntry key f rest

/-- The keys after a change: the same ones, and the new one last if it was missing. -/
theorem map_fst_alterEntry {κ : Type} [DecidableEq κ] (key : κ)
    (f : Option (List Text) → List Text) (es : List (κ × List Text)) :
    (alterEntry key f es).map Prod.fst =
      if key ∈ es.map Prod.fst then es.map Prod.fst else es.map Prod.fst ++ [key] := by
  induction es with
  | nil => simp [alterEntry]
  | cons e rest ih =>
    obtain ⟨k, ts⟩ := e
    by_cases h : k = key
    · simp [alterEntry, h]
    · have h' : ¬ key = k := fun e => h e.symm
      by_cases hm : key ∈ rest.map Prod.fst <;> simp_all [alterEntry]

/-! ## The container -/

/-- Token lists under pairwise different keys. -/
structure Buckets (κ : Type) where
  entries : List (κ × List Text)
  nodup : (entries.map Prod.fst).Nodup

namespace Buckets

variable {κ : Type}

def empty : Buckets κ := ⟨[], List.nodup_nil⟩

def keys (b : Buckets κ) : List κ := b.entries.map Prod.fst

def get? [DecidableEq κ] (b : Buckets κ) (key : κ) : Option (List Text) :=
  (b.entries.find? fun e => e.1 = key).map Prod.snd

def alter [DecidableEq κ] (key : κ) (f : Option (List Text) → List Text) (b : Buckets κ) :
    Buckets κ where
  entries := alterEntry key f b.entries
  nodup := by
    rw [map_fst_alterEntry]
    split
    · exact b.nodup
    · rename_i h
      exact List.nodup_append.mpr ⟨b.nodup, by simp, fun x hx y hy => by
        rintro rfl
        exact h (by simpa [List.mem_singleton.mp hy] using hx)⟩

/-- Puts one more token at the end of a bucket. -/
def push [DecidableEq κ] (b : Buckets κ) (key : κ) (token : Text) : Buckets κ :=
  b.alter key fun bucket => bucket.getD [] ++ [token]

/-- Makes a list the bucket of a key, in place of the one it may have. -/
def put [DecidableEq κ] (b : Buckets κ) (key : κ) (tokens : List Text) : Buckets κ :=
  b.alter key fun _ => tokens

/-- Buckets from pairs: a repeated key keeps its first place and takes the last list. -/
def ofPairs [DecidableEq κ] (pairs : List (κ × List Text)) : Buckets κ :=
  pairs.foldl (fun b pair => b.put pair.1 pair.2) empty

/-- How many tokens each bucket holds (`count_by_category`). -/
def counts (b : Buckets κ) : List (κ × Nat) := b.entries.map fun e => (e.1, e.2.length)

/-- How many buckets hold a token. -/
def populated (b : Buckets κ) : Nat := b.entries.countP fun e => !e.2.isEmpty

/-- Buckets by category under the titles of the categories. -/
def titled (b : Buckets Category) : Buckets Text where
  entries := b.entries.map fun e => (e.1.title, e.2)
  nodup := by
    have h : ((b.entries.map fun e => (e.1.title, e.2)).map Prod.fst) =
        (b.entries.map Prod.fst).map Category.title := by simp
    rw [h]
    exact List.Pairwise.map _ (fun _ _ hne he => hne (Category.title_injective he)) b.nodup

end Buckets

/-- The tokens sorted into the buckets of their categories, in the order of first sight. -/
def categorize (tokens : List Text) : Buckets Category :=
  tokens.foldl (fun b token => b.push (classify token) token) Buckets.empty

end ClassLift
