/-
  Trees of directories and files: looking up and making directories.

  A tree lists places with what stands there, and the list alone does not make it a tree: something
  might stand in a file or in nothing.  What the system does is proved for trees in which that cannot
  be, and everything the system does leaves such a tree behind.

  1. **Well-formed trees.**  What exists stands in a directory and has a path that the system can
     name (`FileTree.WellFormed`).  The two conditions are what makes looking up complete: the first
     because a walk comes through all directories above, the second because an overlong name or path
     is refused before anything is looked up.

  2. **Looking up.**  A walk along two lists of parts is a walk along the first and from there
     along the second (`FileTree.walk_append`).  So what is found stands there
     (`FileTree.get?_of_findPlace`), and in a well-formed tree what stands there is found
     (`FileTree.WellFormed.findPlace_of_get?`, by induction on the place from its last name).

  3. **Making directories.**  Making one puts a directory where nothing was, in a directory.  By
     induction on the names, making all that are missing changes no place but some of those on the
     way, where nothing was and a directory is then (`FileTree.WellFormed.makeDirectories_eq`).
     This holds also where an overlong name further down stops it halfway.

  Links, owners and rights are not in these trees, and nobody else works on them meanwhile.  So a step
  finds the tree as the step in front of it has left it, and that is what the lemmas on a whole run of
  the system rest on.
-/
import ClassLift.FileTree
import ClassLift.Proofs.Places
import ClassLift.Proofs.Results

namespace ClassLift

namespace FileTree

variable {t t' : FileTree} {place q : Place} {node : Node}

/-! ## Putting a node at a place -/

/-- Leaving a place out does not touch what is looked up at another.  An entry is left out before the new
    one is put in front, so a place is never listed twice. -/
theorem lookup_filter_ne {entries : List (Place × Node)} (h : q ≠ place) :
    (entries.filter fun entry => entry.1 != place).lookup q = entries.lookup q := by
  induction entries with
  | nil => rfl
  | cons entry entries ih =>
    obtain ⟨p, n⟩ := entry
    by_cases hp : p = place
    · -- the entry is left out, and it is not the one that is looked for
      have hother : (q == p) = false := by
        rw [beq_eq_false_iff_ne, hp]
        exact h
      rw [List.filter_cons_of_neg (by simp [hp]), ih, List.lookup_cons, hother]
    · rw [List.filter_cons_of_pos (by simp [hp]), List.lookup_cons, List.lookup_cons, ih]

/-- **A node that is put at a place** is what stands there, and all else stays.  Nothing can be put at
    the top, which is a directory whatever is listed. -/
theorem get?_set (hne : place ≠ []) (node : Node) (q : Place) :
    (t.set place node).get? q = if q = place then some node else t.get? q := by
  by_cases hq : q = place
  · subst hq
    rw [if_pos rfl, get?, if_neg (by simpa using hne), set, List.lookup_cons, beq_self_eq_true]
  · have hother : (q == place) = false := beq_eq_false_iff_ne.mpr hq
    rw [if_neg hq, get?, get?, set, List.lookup_cons, hother, lookup_filter_ne hq]

theorem get?_set_self (hne : place ≠ []) (node : Node) :
    (t.set place node).get? place = some node := by
  rw [get?_set hne, if_pos rfl]

theorem get?_set_ne (hne : place ≠ []) (node : Node) (hq : q ≠ place) :
    (t.set place node).get? q = t.get? q := by
  rw [get?_set hne, if_neg hq]

/-- The top is a directory. -/
@[simp]
theorem get?_nil (t : FileTree) : t.get? [] = some .directory := rfl

/-- Where no directory is, is not the top. -/
theorem ne_nil_of_get? (h : t.get? place ≠ some .directory) : place ≠ [] := by
  rintro rfl
  exact h (get?_nil t)

/-! ## Well-formed trees -/

/-- The system can name a place: no name in it is overlong, nor is its path. -/
structure CanName (place : Place) : Prop where
  isPlace : IsPlace place
  names : ∀ name ∈ place, utf8Length name ≤ nameLimit
  path : utf8Length (placeText place) ≤ pathLimit

instance (place : Place) : Decidable (CanName place) :=
  decidable_of_iff (IsPlace place ∧ (∀ name ∈ place, utf8Length name ≤ nameLimit) ∧
      utf8Length (placeText place) ≤ pathLimit)
    ⟨fun ⟨hplace, hnames, hpath⟩ => ⟨hplace, hnames, hpath⟩,
      fun h => ⟨h.isPlace, h.names, h.path⟩⟩

/-- A tree as file systems hold them: what exists can be named and stands in a directory.  Places that
    nobody can name would be listed and never found. -/
structure WellFormed (t : FileTree) : Prop where
  named : ∀ {place : Place} {node : Node}, t.get? place = some node → CanName place
  parent : ∀ {place : Place} {node : Node}, t.get? place = some node →
    t.get? place.dropLast = some .directory

/-- The tree of the top alone, in which nothing is listed. -/
theorem wellFormed_empty : (FileTree.mk []).WellFormed := by
  have honly : ∀ {place : Place} {node : Node}, (FileTree.mk []).get? place = some node →
      place = [] := by
    intro place node h
    rw [get?] at h
    split at h
    case isTrue hempty => exact List.isEmpty_iff.mp hempty
    case isFalse => exact absurd h (by simp)
  constructor
  · intro place node h
    rw [honly h]
    decide
  · intro place node h
    rw [honly h]
    rfl

/-- No place but the top is its own parent. -/
theorem dropLast_ne (hne : place ≠ []) : place.dropLast ≠ place := by
  intro h
  have hlength := congrArg List.length h
  have hpos := List.length_pos_iff.mpr hne
  rw [List.length_dropLast] at hlength
  omega

/-- A node may be put where no directory is, in a directory.  Over a directory it must not be put: what
    stands in there would then stand in no directory. -/
theorem WellFormed.set (hwf : t.WellFormed) (hname : CanName place)
    (hparent : t.get? place.dropLast = some .directory)
    (hfree : t.get? place ≠ some .directory) (node : Node) : (t.set place node).WellFormed := by
  have hne : place ≠ [] := ne_nil_of_get? hfree
  constructor
  · intro q n hq
    by_cases hplace : q = place
    · rw [hplace]
      exact hname
    · rw [get?_set_ne hne node hplace] at hq
      exact hwf.named hq
  · intro q n hq
    by_cases hplace : q = place
    · rw [hplace, get?_set_ne hne node (dropLast_ne hne)]
      exact hparent
    · rw [get?_set_ne hne node hplace] at hq
      have hdirectory := hwf.parent hq
      -- the directory that `q` stands in is not the place that is written
      have hother : q.dropLast ≠ place := by
        intro heq
        rw [heq] at hdirectory
        exact hfree hdirectory
      rw [get?_set_ne hne node hother]
      exact hdirectory

/-! ## Looking up -/

/-- One step of a walk, out of a directory. -/
theorem walk_of_directory {here : Place} (hhere : t.get? here = some .directory) (part : Text)
    (rest : List Text) :
    t.walk here (part :: rest) =
      if part == upward then t.walk here.dropLast rest
      else if nameLimit < utf8Length part then .error .nameTooLong
      else t.walk (here ++ [part]) rest := by
  rw [walk, hhere]

/-- **A walk goes on where it stopped.**  What stands at the place in between is looked at twice, at the
    end of the one walk and at the start of the other, and with the same answer. -/
theorem walk_append (t : FileTree) (here : Place) (xs ys : List Text) :
    t.walk here (xs ++ ys) = (t.walk here xs).bind fun found => t.walk found.1 ys := by
  induction xs generalizing here with
  | nil =>
    -- a walk along nothing fails where nothing stands, and so does every other walk from there
    rw [List.nil_append, walk]
    cases hhere : t.get? here with
    | some node => rfl
    | none => cases ys <;> rw [walk, hhere] <;> rfl
  | cons x xs ih =>
    rw [List.cons_append]
    cases hhere : t.get? here with
    | none =>
      rw [walk, walk, hhere]
      rfl
    | some node =>
      cases node with
      | file bytes =>
        rw [walk, walk, hhere]
        rfl
      | directory =>
        rw [walk_of_directory hhere, walk_of_directory hhere, ih, ih]
        split
        · rfl
        · split <;> rfl

/-- The end of a walk: it arrives where it is, if anything stands there. -/
theorem walk_nil_eq_ok {here : Place} (h : t.walk here [] = .ok (q, node)) :
    here = q ∧ t.get? q = some node := by
  rw [walk] at h
  split at h
  case h_1 hfound =>
    obtain ⟨rfl, rfl⟩ := Prod.mk.inj (Except.ok.inj h)
    exact ⟨rfl, hfound⟩
  case h_2 => exact absurd h (by simp)

/-- One step of a walk that arrives somewhere: up, or along a name. -/
theorem walk_cons_eq_ok {here : Place} {part : Text} {rest : List Text}
    (h : t.walk here (part :: rest) = .ok (q, node)) :
    t.walk (if part = upward then here.dropLast else here ++ [part]) rest = .ok (q, node) := by
  rw [walk] at h
  split at h
  case h_1 => exact absurd h (by simp)
  case h_2 => exact absurd h (by simp)
  case h_3 =>
    split at h
    case isTrue hup =>
      rw [if_pos (beq_iff_eq.mp hup)]
      exact h
    case isFalse hup =>
      split at h
      case isTrue => exact absurd h (by simp)
      case isFalse =>
        rw [if_neg (mt beq_iff_eq.mpr hup)]
        exact h

/-- What a walk arrives at stands there, whichever way it took.  It may have gone up and down; only the
    last place is looked at, and that is the one it tells. -/
theorem get?_of_walk {here : Place} {parts : List Text}
    (h : t.walk here parts = .ok (q, node)) : t.get? q = some node := by
  induction parts generalizing here with
  | nil => exact (walk_nil_eq_ok h).2
  | cons part parts ih => exact ih (walk_cons_eq_ok h)

/-- A walk along names arrives at the place that they lead to.  With parts that lead upward among them it
    might end elsewhere. -/
theorem place_of_walk {here : Place} {parts : List Text} (hparts : upward ∉ parts)
    (h : t.walk here parts = .ok (q, node)) : q = here ++ parts := by
  induction parts generalizing here with
  | nil => rw [List.append_nil, (walk_nil_eq_ok h).1]
  | cons part parts ih =>
    rw [List.mem_cons, not_or] at hparts
    have hstep := walk_cons_eq_ok h
    rw [if_neg (Ne.symm hparts.1)] at hstep
    rw [ih hparts.2 hstep, List.append_assoc, List.singleton_append]

/-- **In a well-formed tree, what stands at a place is walked to.**  By induction on the place from its
    last name: the parent is a directory and so is walked to, and the last step goes along a name that
    the system can name. -/
theorem WellFormed.walk_eq (hwf : t.WellFormed) (h : t.get? place = some node) :
    t.walk [] place = .ok (place, node) := by
  induction place using List.reverseRecOn generalizing node with
  | nil =>
    rw [walk, h]
  | append_singleton place name ih =>
    have hmem : name ∈ place ++ [name] := List.mem_append_right place List.mem_cons_self
    have hname : IsName name := (hwf.named h).isPlace name hmem
    have hlength : utf8Length name ≤ nameLimit := (hwf.named h).names name hmem
    have hparent := hwf.parent h
    rw [List.dropLast_concat] at hparent
    rw [walk_append, ih hparent]
    show t.walk place [name] = _
    rw [walk_of_directory hparent, if_neg (mt beq_iff_eq.mp hname.notUpward), if_neg (by omega),
      walk, h]

/-- What can stop a walk: nothing there, a file on the way, an overlong name.  The other faults are those
    of making and of reading. -/
theorem fault_of_walk {here : Place} {parts : List Text} {fault : PathFault}
    (h : t.walk here parts = .error fault) :
    fault = .noEntry ∨ fault = .notDirectory ∨ fault = .nameTooLong := by
  induction parts generalizing here with
  | nil =>
    rw [walk] at h
    split at h
    case h_1 => exact absurd h (by simp)
    case h_2 => exact Or.inl (Except.error.inj h).symm
  | cons part parts ih =>
    rw [walk] at h
    split at h
    case h_1 => exact Or.inl (Except.error.inj h).symm
    case h_2 => exact Or.inr (Or.inl (Except.error.inj h).symm)
    case h_3 =>
      split at h
      case isTrue => exact ih h
      case isFalse =>
        split at h
        case isTrue => exact Or.inr (Or.inr (Except.error.inj h).symm)
        case isFalse => exact ih h

/-- Finding a place is a walk from the top, unless the path is overlong.  A place is told from the top, so
    it does not matter where the program runs. -/
theorem findPlace_eq (t : FileTree) (place : Place) :
    t.findPlace place = if pathLimit < utf8Length (placeText place) then .error .nameTooLong
      else (t.walk [] place).map Prod.snd := by
  rw [findPlace, find]
  show Except.map _ (if pathLimit < utf8Length (placeText place) then _ else t.walk [] place) = _
  split <;> rfl

/-- A place whose path is overlong is not even looked up, so whatever else the system says of a place, its
    path is short enough. -/
theorem path_of_findPlace (h : t.findPlace place ≠ .error .nameTooLong) :
    utf8Length (placeText place) ≤ pathLimit := by
  rw [findPlace_eq] at h
  by_contra hlong
  exact h (if_pos (by omega))

/-- **What is found at a place stands there.**  No name of a place leads upward, so the walk to it ends
    there and nowhere else. -/
theorem get?_of_findPlace (hplace : IsPlace place) (h : t.findPlace place = .ok node) :
    t.get? place = some node := by
  rw [findPlace_eq] at h
  split at h
  case isTrue => exact absurd h (by simp)
  case isFalse =>
    obtain ⟨⟨q, n⟩, hwalk, rfl⟩ := map_eq_ok_iff.mp h
    obtain rfl : q = place := place_of_walk hplace.upward_not_mem hwalk
    exact get?_of_walk hwalk

/-- What can keep a place from being found.  An overlong path counts as an overlong name. -/
theorem fault_of_findPlace {fault : PathFault} (h : t.findPlace place = .error fault) :
    fault = .noEntry ∨ fault = .notDirectory ∨ fault = .nameTooLong := by
  rw [findPlace_eq] at h
  split at h
  case isTrue => exact Or.inr (Or.inr (Except.error.inj h).symm)
  case isFalse => exact fault_of_walk (map_eq_error_iff.mp h)

/-- What a path leads to stands there.  A path may lead upward, so where it ends is told by the answer and
    not by its parts. -/
theorem get?_of_find {base : Place} {path : Path} (h : t.find base path = .ok (q, node)) :
    t.get? q = some node := by
  rw [find] at h
  split at h
  case isTrue => exact absurd h (by simp)
  case isFalse => exact get?_of_walk h

namespace WellFormed

variable (hwf : t.WellFormed)
include hwf

/-- **What stands at a place is found there.**  In a tree that is not well-formed something could be listed
    to which no walk leads. -/
theorem findPlace_of_get? (h : t.get? place = some node) : t.findPlace place = .ok node := by
  have hpath := (hwf.named h).path
  rw [findPlace_eq, if_neg (by omega), hwf.walk_eq h]
  rfl

/-- Where nothing is found, nothing stands, whatever the fault: what stands somewhere would have been
    found. -/
theorem get?_eq_none {fault : PathFault} (h : t.findPlace place = .error fault) :
    t.get? place = none := by
  cases hnode : t.get? place with
  | none => rfl
  | some node =>
    rw [hwf.findPlace_of_get? hnode] at h
    exact absurd h (by simp)

/-- Asking what stands at a place is answered with what stands there.  That nothing does is the answer to
    a missing entry and to a file on the way; an overlong name gets no answer. -/
theorem get?_of_findIfAny (hplace : IsPlace place) {found : Option Node}
    (h : t.findIfAny place = .ok found) : t.get? place = found := by
  rw [findIfAny] at h
  split at h
  case h_1 node hnode => rw [get?_of_findPlace hplace hnode, Except.ok.inj h]
  case h_2 hfault => rw [hwf.get?_eq_none hfault, Except.ok.inj h]
  case h_3 hfault => rw [hwf.get?_eq_none hfault, Except.ok.inj h]
  case h_4 => exact absurd h (by simp)

/-- A directory is told to be one. -/
theorem isDirectory_of_get? (h : t.get? place = some .directory) :
    t.isDirectory place = .ok true := by
  rw [isDirectory, findIfAny, hwf.findPlace_of_get? h]
  rfl

/-- Asking for a directory is answered with whether one stands there, if it is answered at all. -/
theorem get?_of_isDirectory (hplace : IsPlace place) {answer : Bool}
    (h : t.isDirectory place = .ok answer) :
    answer = true ↔ t.get? place = some .directory := by
  constructor
  · rintro rfl
    obtain ⟨found, hfound, htrue⟩ := map_eq_ok_iff.mp h
    rw [hwf.get?_of_findIfAny hplace hfound]
    match found, htrue with
    | some .directory, _ => rfl
  · intro hnode
    rw [hwf.isDirectory_of_get? hnode] at h
    exact (Except.ok.inj h).symm

/-- **No directory** is what the system answers exactly if none stands there and the place can be
    looked up. -/
theorem isDirectory_eq_false_iff (hplace : IsPlace place) :
    t.isDirectory place = .ok false ↔
      t.get? place ≠ some .directory ∧ t.findPlace place ≠ .error .nameTooLong := by
  constructor
  · intro h
    refine ⟨fun hnode => ?_, fun hlong => ?_⟩
    · exact absurd ((hwf.get?_of_isDirectory hplace h).mpr hnode) (by decide)
    · rw [isDirectory, findIfAny, hlong] at h
      exact absurd h (by simp)
  · rintro ⟨hnode, hlong⟩
    cases hfound : t.findPlace place with
    | ok node =>
      rw [get?_of_findPlace hplace hfound] at hnode
      rw [isDirectory, findIfAny, hfound]
      cases node with
      | directory => exact absurd rfl hnode
      | file bytes => rfl
    | error fault =>
      -- nothing there, or a file in the way: neither is a directory
      rw [hfound] at hlong
      rcases fault_of_findPlace hfound with rfl | rfl | rfl
      · rw [isDirectory, findIfAny, hfound]
        rfl
      · rw [isDirectory, findIfAny, hfound]
        rfl
      · exact absurd rfl hlong

/-- **In a directory, a name is looked up by itself.**  The walk to the directory has succeeded, so only
    the last step is left, and it depends on the name and on what stands there. -/
theorem findPlace_concat {above : Place} {name : Text} (hname : IsName name)
    (hdirectory : t.get? above = some .directory)
    (hpath : utf8Length (placeText (above ++ [name])) ≤ pathLimit) :
    t.findPlace (above ++ [name]) =
      if nameLimit < utf8Length name then .error .nameTooLong
      else
        match t.get? (above ++ [name]) with
        | some node => .ok node
        | none => .error .noEntry := by
  rw [findPlace_eq, if_neg (by omega), walk_append, hwf.walk_eq hdirectory]
  show Except.map _ (t.walk above [name]) = _
  rw [walk_of_directory hdirectory, if_neg (mt beq_iff_eq.mp hname.notUpward)]
  split
  case isTrue => rfl
  case isFalse =>
    rw [walk]
    cases t.get? (above ++ [name]) <;> rfl

/-- In a directory, only an overlong name or path keeps a place from being named.  The names above are
    those of the directory, which stands in the tree. -/
theorem canName_of_findPlace (hplace : IsPlace place)
    (hparent : t.get? place.dropLast = some .directory)
    (h : t.findPlace place ≠ .error .nameTooLong) : CanName place := by
  have hpath : utf8Length (placeText place) ≤ pathLimit := path_of_findPlace h
  refine ⟨hplace, ?_, hpath⟩
  cases place using List.reverseRecOn with
  | nil => exact fun name hname => absurd hname List.not_mem_nil
  | append_singleton above name =>
    rw [List.dropLast_concat] at hparent
    have hlength : utf8Length name ≤ nameLimit := by
      by_contra hlong
      refine h ?_
      rw [hwf.findPlace_concat (isPlace_concat.mp hplace).2 hparent hpath, if_pos (by omega)]
    intro n hn
    rcases List.mem_append.mp hn with hn | hn
    · exact (hwf.named hparent).names n hn
    · rw [List.mem_singleton.mp hn]
      exact hlength

/-- What keeps a name from being found where its parent is found is the name's own absence: the
    parent is a directory. -/
theorem get?_parent (hplace : IsPlace place) (h : t.findPlace place = .error .noEntry)
    (hparent : t.findPlace place.dropLast = .ok node) :
    t.get? place.dropLast = some .directory := by
  have hnode := get?_of_findPlace hplace.dropLast hparent
  cases node with
  | directory => exact hnode
  | file bytes =>
    -- below a file the walk would have told of a file in the way
    cases place using List.reverseRecOn with
    | nil => exact get?_nil t
    | append_singleton above name =>
      rw [List.dropLast_concat] at hnode
      rw [findPlace_eq, walk_append, hwf.walk_eq hnode] at h
      split at h
      case isTrue => exact absurd h (by simp)
      case isFalse =>
        have hstep : t.walk above [name] = .error .noEntry := map_eq_error_iff.mp h
        rw [walk, hnode] at hstep
        exact absurd hstep (by simp)

end WellFormed

/-! ## Making directories -/

/-- `t'` is `t` with more directories, each of them on the way to a place.  Nothing is taken away and
    nothing is put in the place of something else. -/
def DirectoriesAdded (t t' : FileTree) (place : Place) : Prop :=
  ∀ q, t'.get? q = t.get? q ∨ (t.get? q = none ∧ t'.get? q = some .directory ∧ q <+: place)

theorem DirectoriesAdded.refl (t : FileTree) (place : Place) : t.DirectoriesAdded t place :=
  fun _ => Or.inl rfl

/-- More directories on the way to a place above, and then more on the way to the place. -/
theorem DirectoriesAdded.trans {t₁ t₂ t₃ : FileTree} {above : Place}
    (h₁ : t₁.DirectoriesAdded t₂ above) (h₂ : t₂.DirectoriesAdded t₃ place)
    (habove : above <+: place) : t₁.DirectoriesAdded t₃ place := by
  intro q
  rcases h₂ q with hsame | ⟨hnone, hmade, hway⟩
  · rcases h₁ q with hsame' | ⟨hnone', hmade', hway'⟩
    · exact Or.inl (hsame.trans hsame')
    · exact Or.inr ⟨hnone', hsame.trans hmade', hway'.trans habove⟩
  · rcases h₁ q with hsame' | ⟨hnone', -, -⟩
    · exact Or.inr ⟨hsame'.symm.trans hnone, hmade, hway⟩
    · exact Or.inr ⟨hnone', hmade, hway⟩

/-- A place is not on the way to its own parent. -/
theorem DirectoriesAdded.get?_eq (h : t.DirectoriesAdded t' place.dropLast) (hne : place ≠ []) :
    t'.get? place = t.get? place := by
  rcases h place with hsame | ⟨-, -, hway⟩
  · exact hsame
  · have hlength := hway.length_le
    have hpos := List.length_pos_iff.mpr hne
    rw [List.length_dropLast] at hlength
    omega

namespace WellFormed

variable (hwf : t.WellFormed)
include hwf

/-- **Making a directory** puts one where nothing was, in a directory.  The parent must have been found, so
    nothing comes to stand in a file or in nothing. -/
theorem makeDirectory_eq (hplace : IsPlace place) (h : t.makeDirectory place = .ok t') :
    t'.WellFormed ∧ t.DirectoriesAdded t' place ∧ t'.get? place = some .directory := by
  rw [makeDirectory] at h
  split at h
  case h_1 => exact absurd h (by simp)
  case h_3 => exact absurd h (by simp)
  case h_2 hmissing =>
    split at h
    case h_2 => exact absurd h (by simp)
    case h_1 hparent =>
      obtain rfl := Except.ok.inj h
      have hnone : t.get? place = none := hwf.get?_eq_none hmissing
      have hdirectory : t.get? place.dropLast = some .directory :=
        hwf.get?_parent hplace hmissing hparent
      have hfree : t.get? place ≠ some .directory := by
        rw [hnone]
        simp
      have hne : place ≠ [] := ne_nil_of_get? hfree
      -- it was looked up without a complaint about its length
      have hname : CanName place :=
        hwf.canName_of_findPlace hplace hdirectory (by rw [hmissing]; simp)
      refine ⟨hwf.set hname hdirectory hfree _, fun q => ?_, get?_set_self hne _⟩
      by_cases hq : q = place
      · subst hq
        exact Or.inr ⟨hnone, get?_set_self hne _, List.prefix_refl q⟩
      · exact Or.inl (get?_set_ne hne _ hq)

/-- A directory that could not be made and is no error is there: whatever the system complains of, it is
    asked whether there is one. -/
theorem get?_of_settle (hplace : IsPlace place) {fault : PathFault}
    (h : t.settle place fault = .ok ()) : t.get? place = some .directory := by
  rw [settle] at h
  split at h
  case h_1 hthere => exact (hwf.get?_of_isDirectory hplace hthere).mp rfl
  case h_2 => exact absurd h (by simp)
  case h_3 => exact absurd h (by simp)

/-- Where a directory is, there is nothing to make: the first attempt is refused, and the refusal is no
    error because a directory is there. -/
theorem makeDirectories_of_directory {names : List Text}
    (h : t.get? names.reverse = some .directory) : t.makeDirectories names = (t, .ok ()) := by
  cases names with
  | nil => rfl
  | cons name above =>
    have hmake : t.makeDirectory (name :: above).reverse = .error .alreadyThere := by
      rw [makeDirectory, hwf.findPlace_of_get? h]
    rw [makeDirectories, hmake]
    show (t, t.settle (name :: above).reverse .alreadyThere) = (t, .ok ())
    rw [settle, hwf.isDirectory_of_get? h]

/-- **Making all that is missing** changes nothing but what is missing on the way, and if it
    succeeds, there is a directory.  The names are given from the last one to the first, so the
    induction on them goes up the tree as the recursion does: the directory itself is tried first, then
    what is above it, then the directory again. -/
theorem makeDirectories_eq {names : List Text} (hplace : IsPlace names.reverse)
    {result : Except PathError Unit} (h : t.makeDirectories names = (t', result)) :
    t'.WellFormed ∧ t.DirectoriesAdded t' names.reverse ∧
      (result = .ok () → t'.get? names.reverse = some .directory) := by
  induction names generalizing t' result with
  | nil =>
    obtain ⟨rfl, -⟩ := Prod.mk.inj h
    exact ⟨hwf, DirectoriesAdded.refl t _, fun _ => get?_nil t⟩
  | cons name above ih =>
    have habove : IsPlace above.reverse := by
      rw [List.reverse_cons] at hplace
      exact (isPlace_concat.mp hplace).1
    have hway : above.reverse <+: (name :: above).reverse := by
      rw [List.reverse_cons]
      exact List.prefix_append _ _
    rw [makeDirectories] at h
    split at h
    case h_1 made hmade =>
      -- only this one was missing
      obtain ⟨rfl, rfl⟩ := Prod.mk.inj h
      obtain ⟨hwf', hadded, hthere⟩ := hwf.makeDirectory_eq hplace hmade
      exact ⟨hwf', hadded, fun _ => hthere⟩
    case h_2 =>
      split at h
      case h_1 stopped e hstopped =>
        -- what is above it could not be made
        obtain ⟨rfl, rfl⟩ := Prod.mk.inj h
        obtain ⟨hwf', hadded, -⟩ := ih habove hstopped
        exact ⟨hwf', hadded.trans (DirectoriesAdded.refl stopped _) hway, fun hok => by simp at hok⟩
      case h_2 ready hready =>
        -- what is above it is there now, and it is tried again
        obtain ⟨hwf₁, hadded₁, -⟩ := ih habove hready
        split at h
        case h_1 made hmade =>
          obtain ⟨rfl, rfl⟩ := Prod.mk.inj h
          obtain ⟨hwf₂, hadded₂, hthere⟩ := hwf₁.makeDirectory_eq hplace hmade
          exact ⟨hwf₂, hadded₁.trans hadded₂ hway, fun _ => hthere⟩
        case h_2 fault _ =>
          obtain ⟨rfl, rfl⟩ := Prod.mk.inj h
          exact ⟨hwf₁, hadded₁.trans (DirectoriesAdded.refl ready _) hway,
            fun hok => hwf₁.get?_of_settle hplace hok⟩
    case h_3 fault _ =>
      -- it is there, or something is in its way
      obtain ⟨rfl, rfl⟩ := Prod.mk.inj h
      exact ⟨hwf, DirectoriesAdded.refl t _, fun hok => hwf.get?_of_settle hplace hok⟩

end WellFormed

end FileTree

end ClassLift
