/-
  Places and their spelling.

  1. **Names.**  What is left of a text cut at its slashes, without empty parts and single dots, are
     parts: names and double dots (`isPart_of_mem_parts`).  A place is made of names only
     (`IsPlace`).

  2. **Double dots.**  A double dot takes back the name before it or does nothing at the top, and a
     name is added (`placeOf_concat`).  So whatever parts are followed from a place, above the top
     and back, what one arrives at is a place (`isPlace_placeOf`, by induction on the parts from the
     last one), and the parts of a place lead to that place (`placeOf_of_isPlace`).

  3. **Spelling.**  The text of a place spells that place and nothing else (`ofText_placeText`).
-/
import Mathlib.Data.List.Induction
import Mathlib.Data.List.Infix
import ClassLift.Path
import ClassLift.Proofs.Lines

namespace ClassLift

/-! ## Parts and names -/

/-- What a path is made of: texts that say something and hold neither a slash nor NUL. -/
structure IsPart (part : Text) : Prop where
  nonempty : part ≠ []
  notDot : part ≠ ['.']
  slash : '/' ∉ part
  nul : '\x00' ∉ part

/-- A part that is the name of something, and does not lead one up. -/
structure IsName (name : Text) : Prop extends IsPart name where
  notUpward : name ≠ upward

instance (name : Text) : Decidable (IsName name) :=
  decidable_of_iff (name ≠ [] ∧ name ≠ ['.'] ∧ '/' ∉ name ∧ '\x00' ∉ name ∧ name ≠ upward)
    ⟨fun ⟨hne, hdot, hslash, hnul, hup⟩ => ⟨⟨hne, hdot, hslash, hnul⟩, hup⟩,
      fun h => ⟨h.nonempty, h.notDot, h.slash, h.nul, h.notUpward⟩⟩

/-- A place that is made of names. -/
def IsPlace (place : Place) : Prop := ∀ name ∈ place, IsName name

instance (place : Place) : Decidable (IsPlace place) :=
  inferInstanceAs (Decidable (∀ name ∈ place, IsName name))

section

variable {place : Place} {name : Text}

@[simp]
theorem isPlace_nil : IsPlace [] := fun _ h => absurd h List.not_mem_nil

theorem isPlace_concat : IsPlace (place ++ [name]) ↔ IsPlace place ∧ IsName name := by
  constructor
  · intro h
    exact ⟨fun n hn => h n (List.mem_append_left [name] hn),
      h name (List.mem_append_right place List.mem_cons_self)⟩
  · rintro ⟨hplace, hname⟩ n hn
    rcases List.mem_append.mp hn with hn | hn
    · exact hplace n hn
    · rw [List.mem_singleton.mp hn]
      exact hname

theorem IsPlace.dropLast (h : IsPlace place) : IsPlace place.dropLast :=
  fun n hn => h n (List.mem_of_mem_dropLast hn)

theorem IsPlace.upward_not_mem (h : IsPlace place) : upward ∉ place :=
  fun hm => (h upward hm).notUpward rfl

end

/-- The parts of a text without NUL. -/
theorem isPart_of_mem_parts {t part : Text} (ht : '\x00' ∉ t)
    (h : part ∈ (Path.ofText t).parts) : IsPart part := by
  obtain ⟨hcut, hkeep⟩ := List.mem_filter.mp h
  have hsaid : part ≠ [] ∧ part ≠ ['.'] := by simpa using hkeep
  refine ⟨hsaid.1, hsaid.2, fun hslash => ?_, fun hnul => ht (mem_splitOnP hcut _ hnul).2⟩
  have hno := (mem_splitOnP hcut '/' hslash).1
  rw [beq_self_eq_true] at hno
  exact absurd hno (by decide)

/-! ## Following parts -/

/-- One more part: two dots take back the last name, a name is added. -/
theorem placeOf_concat (parts : List Text) (part : Text) :
    placeOf (parts ++ [part]) =
      if part == upward then (placeOf parts).dropLast else placeOf parts ++ [part] := by
  rw [placeOf, List.foldl_append]
  rfl

/-- **Whatever parts are followed**, one arrives at a place. -/
theorem isPlace_placeOf {parts : List Text} (h : ∀ part ∈ parts, IsPart part) :
    IsPlace (placeOf parts) := by
  induction parts using List.reverseRecOn with
  | nil => exact isPlace_nil
  | append_singleton parts part ih =>
    have hplace : IsPlace (placeOf parts) :=
      ih fun p hp => h p (List.mem_append_left [part] hp)
    have hpart : IsPart part := h part (List.mem_append_right parts List.mem_cons_self)
    rw [placeOf_concat]
    by_cases hup : part = upward
    · rw [if_pos (beq_iff_eq.mpr hup)]
      exact hplace.dropLast
    · rw [if_neg (mt beq_iff_eq.mp hup), isPlace_concat]
      exact ⟨hplace, hpart, hup⟩

/-- The parts of a place lead to that place. -/
theorem placeOf_of_isPlace {place : Place} (h : IsPlace place) : placeOf place = place := by
  induction place using List.reverseRecOn with
  | nil => rfl
  | append_singleton place name ih =>
    obtain ⟨hplace, hname⟩ := isPlace_concat.mp h
    rw [placeOf_concat, if_neg (mt beq_iff_eq.mp hname.notUpward), ih hplace]

/-- **A text without NUL leads to a place**, seen from a place. -/
theorem isPlace_placeFrom {base : Place} {t : Text} (hbase : IsPlace base) (ht : '\x00' ∉ t) :
    IsPlace ((Path.ofText t).placeFrom base) := by
  refine isPlace_placeOf fun part hpart => ?_
  split at hpart
  case isTrue =>
    rcases List.mem_append.mp hpart with hpart | hpart
    · exact (hbase part hpart).toIsPart
    · exact isPart_of_mem_parts ht hpart
  case isFalse => exact isPart_of_mem_parts ht hpart

/-- An absolute path of names leads to its place, wherever it is seen from. -/
theorem placeFrom_path {place : Place} (h : IsPlace place) (base : Place) :
    (Place.path place).placeFrom base = place := placeOf_of_isPlace h

/-! ## Spelling -/

theorem placeText_eq (place : Place) : placeText place = '/' :: joinWith ['/'] place := rfl

/-- Behind the first slash of a place there is no other. -/
theorem takeWhile_joinWith_slash {place : Place} (h : IsPlace place) :
    (joinWith ['/'] place).takeWhile (· == '/') = [] := by
  cases place with
  | nil => rfl
  | cons name place =>
    have hname : IsName name := h name List.mem_cons_self
    obtain ⟨c, rest, rfl⟩ := List.exists_cons_of_ne_nil hname.nonempty
    have hc : (c == '/') = false := by
      rw [beq_eq_false_iff_ne]
      rintro rfl
      exact hname.slash List.mem_cons_self
    cases place with
    | nil =>
      rw [joinWith_singleton, List.takeWhile_cons, hc]
      rfl
    | cons next place =>
      rw [joinWith_cons_cons, List.cons_append, List.takeWhile_cons, hc]
      rfl

/-- **The text of a place spells that place.** -/
theorem ofText_placeText {place : Place} (h : IsPlace place) :
    Path.ofText (placeText place) = Place.path place := by
  have hslashes : ((placeText place).takeWhile (· == '/')).length = 1 := by
    rw [placeText_eq, List.takeWhile_cons, takeWhile_joinWith_slash h]
    rfl
  have hkeep : ∀ name ∈ place, (!(name == [] || name == ['.'])) = true := by
    intro name hname
    simp [(h name hname).nonempty, (h name hname).notDot]
  have hparts : ((placeText place).splitOn '/').filter
      (fun part => !(part == [] || part == ['.'])) = place := by
    by_cases hne : place = []
    · rw [hne]
      decide
    · have hslash : ∀ name ∈ place, '/' ∉ name := fun name hname => (h name hname).slash
      have hcut : (placeText place).splitOn '/' = [] :: place := by
        have hfirst := List.splitOn_append_cons_self (a := '/') [] (joinWith ['/'] place)
        rw [joinWith, List.splitOn_intercalate '/' hslash hne] at hfirst
        exact hfirst
      rw [hcut, List.filter_cons_of_neg (by decide), List.filter_eq_self.mpr hkeep]
  rw [Path.ofText, hslashes, hparts]
  rfl

/-- No place is spelled with NUL. -/
theorem nul_not_mem_placeText {place : Place} (h : IsPlace place) : '\x00' ∉ placeText place := by
  have hjoined : '\x00' ∉ joinWith ['/'] place := by
    induction place with
    | nil => exact List.not_mem_nil
    | cons name place ih =>
      have hname : '\x00' ∉ name := (h name List.mem_cons_self).nul
      cases place with
      | nil =>
        rw [joinWith_singleton]
        exact hname
      | cons next place =>
        have hrest := ih fun n hn => h n (List.mem_cons_of_mem name hn)
        rw [joinWith_cons_cons, List.mem_append, List.mem_cons, not_or, not_or]
        exact ⟨hname, by decide, hrest⟩
  rw [placeText_eq, List.mem_cons, not_or]
  exact ⟨by decide, hjoined⟩

end ClassLift
