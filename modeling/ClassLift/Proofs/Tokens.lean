/-
  Blanks and tokens: what trimming and cutting keep of a text.

  1. **One equation carries the tokens.**  A blank belongs to no token and ends the one before it,
     so cutting `a ++ c :: b` at the blank `c` gives the tokens of `a` and then those of `b`
     (`tokenize_append_blank`).  Everything else about `tokenize` is that equation, used once for
     each blank: runs of blanks count like one blank, blanks at the ends count for nothing, and
     the tokens of a trimmed text are those of the text.

  2. **Tokens are tokens.**  What comes out of the cutting is not empty and holds no blank
     (`IsToken`), and joining such texts with single spaces is undone by cutting again
     (`tokenize_joinSpaced`).

  3. **Trimming splits.**  A text is its leading blanks, its trimmed text and some more blanks
     (`exists_strip_split`), and the leading blanks are as many as `leadingBlanks` says, also where
     the whole text is blank.  What is left is empty exactly for a blank text (`strip_eq_nil_iff`),
     and otherwise has no blank at its two ends.
-/
import Mathlib.Data.List.Basic
import Mathlib.Data.List.TakeWhile
import ClassLift.Token

namespace ClassLift

/-! ## Texts of blanks -/

/-- A text of blanks only; the empty text is one. -/
def AllBlank (t : Text) : Prop := ∀ c ∈ t, isBlank c = true

-- The instance is named, since the search for one may decide to try every character there is.
instance (t : Text) : Decidable (AllBlank t) := List.decidableBAll (isBlank · = true) t

/-- To know something of the characters of a given text, it is enough to look at them one by one. -/
theorem forall_mem_of_all {q : Char → Prop} [DecidablePred q] {t : Text}
    (h : (t.all fun c => decide (q c)) = true) : ∀ c ∈ t, q c :=
  fun c hc => of_decide_eq_true (List.all_eq_true.mp h c hc)

/-- Behind a character the offsets of the rest count from there. -/
@[simp]
theorem getElem?_append_cons_add {α : Type} (a b : List α) (c : α) (n : Nat) :
    (a ++ c :: b)[a.length + 1 + n]? = b[n]? := by
  rw [List.getElem?_append_right (by omega),
    show a.length + 1 + n - a.length = n + 1 from by omega, List.getElem?_cons_succ]

@[simp]
theorem allBlank_nil : AllBlank [] := fun _ h => absurd h List.not_mem_nil

theorem AllBlank.append {s t : Text} (hs : AllBlank s) (ht : AllBlank t) : AllBlank (s ++ t) := by
  intro c hc
  rcases List.mem_append.mp hc with h | h
  · exact hs c h
  · exact ht c h

theorem AllBlank.cons {c : Char} {t : Text} (hc : isBlank c = true) (ht : AllBlank t) :
    AllBlank (c :: t) := by
  intro d hd
  rcases List.mem_cons.mp hd with rfl | h
  · exact hc
  · exact ht d h

theorem AllBlank.of_cons {c : Char} {t : Text} (h : AllBlank (c :: t)) : AllBlank t :=
  fun d hd => h d (List.mem_cons_of_mem c hd)

theorem allBlank_takeWhile (t : Text) : AllBlank (t.takeWhile isBlank) := by
  intro c hc
  exact List.all_eq_true.mp List.all_takeWhile c hc

/-- A blank cannot be a character that is known not to be one. -/
theorem AllBlank.not_mem {t : Text} (h : AllBlank t) {c : Char} (hc : isBlank c = false) :
    c ∉ t := by
  intro hm
  rw [h c hm] at hc
  exact absurd hc (by decide)

/-- In front of a character that is not blank, exactly the blanks are taken off. -/
theorem stripLeft_append_cons {b t : Text} {c : Char} (hb : AllBlank b) (hc : isBlank c = false) :
    stripLeft (b ++ c :: t) = c :: t := by
  rw [stripLeft, List.dropWhile_append_of_pos hb, List.dropWhile_cons_of_neg (by simp [hc])]

/-- And they are exactly what is taken. -/
theorem takeWhile_append_cons {b t : Text} {c : Char} (hb : AllBlank b) (hc : isBlank c = false) :
    (b ++ c :: t).takeWhile isBlank = b := by
  rw [List.takeWhile_append_of_pos hb, List.takeWhile_cons_of_neg (by simp [hc]), List.append_nil]

/-! ## Trimming -/

/-- What is trimmed off the right is blank. -/
theorem exists_stripRight_split (t : Text) : ∃ r, AllBlank r ∧ t = stripRight t ++ r := by
  refine ⟨(t.reverse.takeWhile isBlank).reverse, ?_, ?_⟩
  · intro c hc
    exact allBlank_takeWhile _ c (List.mem_reverse.mp hc)
  · rw [stripRight, ← List.reverse_append, List.takeWhile_append_dropWhile, List.reverse_reverse]

/-- **Trimming splits a text** into its leading blanks, its trimmed text and blanks. -/
theorem exists_strip_split (t : Text) :
    ∃ l r, AllBlank l ∧ AllBlank r ∧ l.length = leadingBlanks t ∧ t = l ++ strip t ++ r := by
  obtain ⟨r, hr, hsplit⟩ := exists_stripRight_split (stripLeft t)
  refine ⟨t.takeWhile isBlank, r, allBlank_takeWhile t, hr, rfl, ?_⟩
  rw [strip, List.append_assoc, ← hsplit]
  exact (takeWhile_append_stripLeft t).symm

/-- A text is blank exactly if nothing is left when it is trimmed. -/
theorem strip_eq_nil_iff {t : Text} : strip t = [] ↔ AllBlank t := by
  constructor
  · intro h
    obtain ⟨l, r, hl, hr, -, hsplit⟩ := exists_strip_split t
    rw [hsplit, h, List.append_nil]
    exact hl.append hr
  · intro h
    have hleft : stripLeft t = [] := List.dropWhile_eq_nil_iff.mpr h
    rw [strip, hleft]
    rfl

/-- A trimmed text ends in a character that is not blank. -/
theorem isBlank_of_getLast?_strip {t : Text} {c : Char} (h : (strip t).getLast? = some c) :
    isBlank c = false := by
  rw [strip, stripRight, List.getLast?_reverse] at h
  have hhead := List.head?_dropWhile_not isBlank (stripLeft t).reverse
  rw [h] at hhead
  simpa using hhead

/-- And it starts with one. -/
theorem isBlank_of_head?_strip {t : Text} {c : Char} (h : (strip t).head? = some c) :
    isBlank c = false := by
  obtain ⟨r, -, hsplit⟩ := exists_stripRight_split (stripLeft t)
  have hleft : (stripLeft t).head? = some c := by
    rw [hsplit, List.head?_append]
    show (strip t).head?.or r.head? = some c
    rw [h, Option.some_or]
  have hhead := List.head?_dropWhile_not isBlank t
  rw [stripLeft] at hleft
  rw [hleft] at hhead
  simpa using hhead

/-- Trimming stops at a character that is not blank. -/
theorem stripLeft_append {c : Char} (hc : isBlank c = false) (front t : Text) :
    stripLeft (front ++ c :: t) = stripLeft front ++ c :: t := by
  rw [stripLeft, List.dropWhile_append, List.dropWhile_cons_of_neg (by simp [hc])]
  split
  case isTrue hnil =>
    rw [stripLeft, List.isEmpty_iff.mp hnil]
    rfl
  case isFalse => rfl

/-- On the right it does so as well. -/
theorem stripRight_append {c : Char} (hc : isBlank c = false) (t behind : Text) :
    stripRight (t ++ [c] ++ behind) = t ++ [c] ++ stripRight behind := by
  have hreverse : (t ++ [c] ++ behind).reverse = behind.reverse ++ c :: t.reverse := by simp
  rw [stripRight, hreverse]
  show (stripLeft _).reverse = _
  rw [stripLeft_append hc]
  simp [stripRight, stripLeft]

/-- **Trimming a line leaves a trimmed text in it alone.** -/
theorem strip_around {value : Text} (hne : value ≠ []) (hvalue : strip value = value)
    (front behind : Text) :
    strip (front ++ value ++ behind) = stripLeft front ++ value ++ stripRight behind := by
  have hleft : stripLeft (front ++ value ++ behind) = stripLeft front ++ value ++ behind := by
    obtain ⟨c, rest, rfl⟩ := List.exists_cons_of_ne_nil hne
    have hc : isBlank c = false := isBlank_of_head?_strip (t := c :: rest) (by rw [hvalue]; rfl)
    rw [List.append_assoc, List.cons_append, stripLeft_append hc, List.append_assoc,
      List.cons_append]
  rcases List.eq_nil_or_concat' value with h | ⟨rest, c, rfl⟩
  · exact absurd h hne
  · have hc : isBlank c = false :=
      isBlank_of_getLast?_strip (t := rest ++ [c]) (by rw [hvalue, List.getLast?_concat])
    rw [strip, hleft, ← List.append_assoc, stripRight_append hc]

/-! ## Cutting at blanks -/

/-- **Tokens split at a blank.** -/
theorem tokenize_append_blank {c : Char} (hc : isBlank c = true) (a b : Text) :
    tokenize (a ++ c :: b) = tokenize a ++ tokenize b := by
  rw [tokenize, List.splitOnP_append_cons a b hc, List.filter_append]
  rfl

@[simp]
theorem tokenize_nil : tokenize [] = [] := rfl

/-- A blank in front belongs to no token. -/
@[simp]
theorem tokenize_cons_blank {c : Char} (hc : isBlank c = true) (t : Text) :
    tokenize (c :: t) = tokenize t := by
  have h := tokenize_append_blank hc [] t
  simpa using h

/-- Nor do several. -/
theorem tokenize_blanks_append {b : Text} (hb : AllBlank b) (t : Text) :
    tokenize (b ++ t) = tokenize t := by
  induction b with
  | nil => rfl
  | cons c b ih =>
    rw [List.cons_append, tokenize_cons_blank (hb c List.mem_cons_self)]
    exact ih hb.of_cons

/-- A run of blanks cuts like one blank, whichever blanks it is made of. -/
theorem tokenize_append_blanks_append {b : Text} (hb : AllBlank b) (hne : b ≠ []) (s t : Text) :
    tokenize (s ++ b ++ t) = tokenize s ++ tokenize t := by
  obtain ⟨c, b', rfl⟩ := List.exists_cons_of_ne_nil hne
  have hc : isBlank c = true := hb c List.mem_cons_self
  rw [List.append_assoc, List.cons_append, tokenize_append_blank hc,
    tokenize_blanks_append hb.of_cons]

/-- Blanks behind a text belong to no token. -/
theorem tokenize_append_blanks {b : Text} (hb : AllBlank b) (t : Text) :
    tokenize (t ++ b) = tokenize t := by
  by_cases hne : b = []
  · rw [hne, List.append_nil]
  · have h := tokenize_append_blanks_append hb hne t []
    simpa using h

/-- Trimming a class list loses none of its tokens. -/
@[simp]
theorem tokenize_strip (t : Text) : tokenize (strip t) = tokenize t := by
  obtain ⟨l, r, hl, hr, -, hsplit⟩ := exists_strip_split t
  have h : tokenize (l ++ strip t ++ r) = tokenize (strip t) := by
    rw [tokenize_append_blanks hr, tokenize_blanks_append hl]
  rw [← hsplit] at h
  exact h.symm

/-! ## Tokens -/

/-- What a token is: a text that is not empty and holds no blank. -/
def IsToken (t : Text) : Prop := t ≠ [] ∧ ∀ c ∈ t, isBlank c = false

instance (t : Text) : Decidable (IsToken t) :=
  @instDecidableAnd _ _ _ (List.decidableBAll (isBlank · = false) t)

/-- No run of a cut holds a character at which the text was cut, and all its characters come from
    the text. -/
theorem mem_splitOnP {α : Type} {p : α → Bool} :
    ∀ {t run : List α}, run ∈ t.splitOnP p → ∀ c ∈ run, p c = false ∧ c ∈ t
  | [], run, h, c, hc => by
      rw [List.splitOnP_nil, List.mem_singleton] at h
      rw [h] at hc
      exact absurd hc List.not_mem_nil
  | x :: t, run, h, c, hc => by
      have lift : ∀ {run : List α}, run ∈ t.splitOnP p → ∀ c ∈ run, p c = false ∧ c ∈ x :: t :=
        fun hr c hc => ⟨(mem_splitOnP hr c hc).1, List.mem_cons_of_mem x (mem_splitOnP hr c hc).2⟩
      rw [List.splitOnP_cons_eq_if_modifyHead] at h
      by_cases hx : p x = true
      · -- the text is cut here: an empty run, and then the runs of the rest
        rw [if_pos hx] at h
        rcases List.mem_cons.mp h with rfl | h
        · exact absurd hc List.not_mem_nil
        · exact lift h c hc
      · -- it is not: the character joins the first run of the rest
        obtain ⟨first, others, hcut⟩ := List.exists_cons_of_ne_nil (List.splitOnP_ne_nil p t)
        rw [if_neg hx, hcut, List.modifyHead_cons] at h
        rcases List.mem_cons.mp h with rfl | h
        · rcases List.mem_cons.mp hc with rfl | hc
          · exact ⟨by simpa using hx, List.mem_cons_self⟩
          · exact lift (hcut ▸ List.mem_cons_self) c hc
        · exact lift (hcut ▸ List.mem_cons_of_mem first h) c hc

theorem isToken_of_mem_tokenize {t v : Text} (h : t ∈ tokenize v) : IsToken t := by
  obtain ⟨hrun, hne⟩ := List.mem_filter.mp h
  exact ⟨by simpa using hne, fun c hc => (mem_splitOnP hrun c hc).1⟩

/-- The characters of a token stand in the text it was cut from. -/
theorem mem_of_mem_tokenize {t v : Text} (h : t ∈ tokenize v) {c : Char} (hc : c ∈ t) : c ∈ v :=
  (mem_splitOnP (List.mem_filter.mp h).1 c hc).2

/-- A token is cut nowhere. -/
theorem tokenize_of_isToken {t : Text} (h : IsToken t) : tokenize t = [t] := by
  rw [tokenize, List.splitOnP_eq_singleton h.2]
  simp [h.1]

/-! ## Joining -/

@[simp]
theorem joinWith_singleton (separator t : Text) : joinWith separator [t] = t := by
  simp [joinWith]

@[simp]
theorem joinWith_cons_cons (c : Char) (s t : Text) (ts : List Text) :
    joinWith [c] (s :: t :: ts) = s ++ c :: joinWith [c] (t :: ts) := by
  simp [joinWith, List.intercalate_cons_cons]

@[simp]
theorem joinSpaced_singleton (t : Text) : joinSpaced [t] = t := joinWith_singleton [' '] t

@[simp]
theorem joinSpaced_cons_cons (s t : Text) (ts : List Text) :
    joinSpaced (s :: t :: ts) = s ++ ' ' :: joinSpaced (t :: ts) := joinWith_cons_cons ' ' s t ts

/-- **Cutting undoes joining.** -/
theorem tokenize_joinSpaced : ∀ {ts : List Text}, (∀ t ∈ ts, IsToken t) →
    tokenize (joinSpaced ts) = ts
  | [], _ => rfl
  | [t], h => by simpa using tokenize_of_isToken (h t List.mem_cons_self)
  | s :: t :: ts, h => by
      have hs : IsToken s := h s List.mem_cons_self
      have hrest : ∀ u ∈ t :: ts, IsToken u := fun u hu => h u (List.mem_cons_of_mem s hu)
      rw [joinSpaced_cons_cons, tokenize_append_blank (by decide), tokenize_of_isToken hs,
        tokenize_joinSpaced hrest, List.singleton_append]

/-- A joined text holds the characters of its tokens and spaces. -/
theorem mem_joinSpaced {c : Char} : ∀ {ts : List Text}, c ∈ joinSpaced ts →
    c = ' ' ∨ ∃ t ∈ ts, c ∈ t
  | [], h => absurd h List.not_mem_nil
  | [t], h => by
      rw [joinSpaced_singleton] at h
      exact Or.inr ⟨t, List.mem_cons_self, h⟩
  | s :: t :: ts, h => by
      rw [joinSpaced_cons_cons] at h
      rcases List.mem_append.mp h with h | h
      · exact Or.inr ⟨s, List.mem_cons_self, h⟩
      rcases List.mem_cons.mp h with h | h
      · exact Or.inl h
      rcases mem_joinSpaced h with h | ⟨u, hu, hcu⟩
      · exact Or.inl h
      · exact Or.inr ⟨u, List.mem_cons_of_mem s hu, hcu⟩

/-- A text with no blank at either end has nothing to trim. -/
theorem strip_eq_self {t : Text} (hhead : ∀ c, t.head? = some c → isBlank c = false)
    (hlast : ∀ c, t.getLast? = some c → isBlank c = false) : strip t = t := by
  obtain ⟨l, r, hl, hr, -, hsplit⟩ := exists_strip_split t
  have hleft : l = [] := by
    cases l with
    | nil => rfl
    | cons c l =>
      have hsolid := hhead c (by rw [hsplit]; rfl)
      rw [hl c List.mem_cons_self] at hsolid
      exact absurd hsolid (by decide)
  have hright : r = [] := by
    by_contra hne
    obtain ⟨c, hc⟩ := Option.ne_none_iff_exists'.mp (mt List.getLast?_eq_none_iff.mp hne)
    have hsolid := hlast c (by rw [hsplit, List.getLast?_append_of_ne_nil _ hne, hc])
    rw [hr c (List.mem_of_getLast? hc)] at hsolid
    exact absurd hsolid (by decide)
  rw [hleft, hright, List.nil_append, List.append_nil] at hsplit
  exact hsplit.symm

/-- A joined text starts with its first token. -/
theorem exists_joinSpaced_cons (t : Text) (ts : List Text) :
    ∃ rest, joinSpaced (t :: ts) = t ++ rest := by
  cases ts with
  | nil => exact ⟨[], by simp⟩
  | cons u ts => exact ⟨_, joinSpaced_cons_cons t u ts⟩

/-- And it ends in its last one. -/
theorem exists_joinSpaced_concat : ∀ (ts : List Text) (t : Text),
    ∃ front, joinSpaced (ts ++ [t]) = front ++ t
  | [], t => ⟨[], joinSpaced_singleton t⟩
  | [s], t => ⟨s ++ [' '], by simp⟩
  | s :: u :: ts, t => by
      obtain ⟨front, hfront⟩ := exists_joinSpaced_concat (u :: ts) t
      rw [List.cons_append] at hfront
      exact ⟨s ++ ' ' :: front, by simp [hfront]⟩

/-- **Joined tokens have nothing to trim.** -/
theorem strip_joinSpaced {ts : List Text} (h : ∀ t ∈ ts, IsToken t) :
    strip (joinSpaced ts) = joinSpaced ts := by
  rcases List.eq_nil_or_concat' ts with rfl | ⟨front, last, hts⟩
  · rfl
  obtain ⟨t, rest, hcons⟩ := List.exists_cons_of_ne_nil
    (hts ▸ List.append_ne_nil_of_right_ne_nil front (List.cons_ne_nil last []))
  refine strip_eq_self (fun c hc => ?_) (fun c hc => ?_)
  · obtain ⟨hne, hsolid⟩ : IsToken t := h t (hcons ▸ List.mem_cons_self)
    obtain ⟨behind, hbehind⟩ := exists_joinSpaced_cons t rest
    rw [hcons, hbehind, List.head?_append_of_ne_nil _ hne] at hc
    exact hsolid c (List.mem_of_mem_head? hc)
  · obtain ⟨hne, hsolid⟩ : IsToken last := h last (hts ▸ List.mem_concat_self)
    obtain ⟨before, hbefore⟩ := exists_joinSpaced_concat front last
    rw [hts, hbefore, List.getLast?_append_of_ne_nil _ hne] at hc
    exact hsolid c (List.mem_of_getLast? hc)

example : tokenize (joinSpaced ["p-4".toList, "flex".toList, "p-4".toList]) =
    ["p-4".toList, "flex".toList, "p-4".toList] := by decide

end ClassLift
