/-
  What was given comes from the arguments.

  The reader of arguments is generous: an option may be cut short, have its value attached, or stand
  among plain words and behind options that take a value.  What has to be shown is that all this
  never makes up an option that nobody spelled.  The reading goes through three stages, and an option
  is followed back through them, from the last to the first.

  1. **Words.**  An option among the words comes from an argument that spells it: in full, cut
     short, with a value attached, or by its first two characters (`classifyArgument_eq_option`).

  2. **Reading** notes an option only where a word gives it (`given_of_readWords`), so every option
     that was given is spelled by some argument.

  3. **Writing** is asked for by `--write` alone.  All other options differ from it in the third
     character already, so whoever wants to write has an argument that starts with `--w`
     (`exists_arg_of_isWriting`).

  Nothing is said in the other direction: arguments that spell an option may still be refused, or taken
  for the value of another option, or stand behind a separator.
-/
import Mathlib.Data.List.Infix
import Mathlib.Data.List.TakeWhile
import ClassLift.CommandLine.Arguments
import ClassLift.Proofs.Results

namespace ClassLift.CommandLine

/-! ## Words -/

section

variable {options : List OptionSpec} {o : OptionSpec} {attached : Option Attached} {arg : Text}

/-- What is looked up by its spelling has that spelling, and is one of the options of the command. -/
theorem mem_of_spelled? {spelling : Text} (h : spelled? options spelling = some o) :
    o ∈ options ∧ spelling ∈ o.spellings :=
  ⟨List.mem_of_find?_eq_some h, by simpa using List.find?_some h⟩

/-- The completions of a text are the spellings that it starts, each with its option. -/
theorem mem_completions {start spelling : Text} :
    (spelling, o) ∈ completions options start ↔
      o ∈ options ∧ spelling ∈ o.spellings ∧ start <+: spelling := by
  simp only [completions, List.mem_flatMap, List.mem_map, List.mem_filter,
    List.isPrefixOf_iff_prefix, Prod.mk.injEq]
  constructor
  · rintro ⟨o, ho, spelling, hspelling, rfl, rfl⟩
    exact ⟨ho, hspelling⟩
  · rintro ⟨ho, hspelling⟩
    exact ⟨o, ho, spelling, hspelling, rfl, rfl⟩

/-- What stands before the equals sign is the front of an argument; without one it is all of it. -/
theorem splitAtEquals_prefix (t : Text) : (splitAtEquals t).1 <+: t := by
  rw [splitAtEquals]
  split
  case h_1 => exact List.prefix_refl t
  case h_2 => exact List.takeWhile_prefix _

/-- A text stands for an option: it spells the option, or nothing else can be meant by it because the
    option has the only spelling that it starts. -/
def StandsFor (options : List OptionSpec) (start : Text) (o : OptionSpec) : Prop :=
  o ∈ options ∧ (start ∈ o.spellings ∨ ∃ spelling, completions options start = [(spelling, o)])

/-- A spelling in full stands for its option, whatever else it may start. -/
theorem standsFor_of_spelled? {spelling : Text} (h : spelled? options spelling = some o) :
    StandsFor options spelling o := ⟨(mem_of_spelled? h).1, Or.inl (mem_of_spelled? h).2⟩

/-- An inexact spelling stands for its option: either it is the only completion of what is in front of
    the equals sign, or the first two characters spell a short option with its value behind it. -/
theorem classifyInexact_eq_option (h : classifyInexact options arg = .ok (.option o attached)) :
    ∃ start, start <+: arg ∧ StandsFor options start o := by
  rw [classifyInexact] at h
  dsimp only at h
  split at h
  case isTrue =>
    -- a long option: without a completion it is none, and several are a complaint
    split at h
    case h_1 =>
      split at h <;> exact absurd h (by simp)
    case h_2 spelling o' hone =>
      obtain ⟨rfl, -⟩ := Word.option.inj (Except.ok.inj h)
      have hmem : (spelling, o') ∈ completions options (splitAtEquals arg).1 := by
        rw [hone]
        exact List.mem_singleton_self _
      exact ⟨_, splitAtEquals_prefix arg, (mem_completions.mp hmem).1, Or.inr ⟨spelling, hone⟩⟩
    case h_3 => exact absurd h (by simp)
  case isFalse =>
    -- one dash: the option is its first two characters, and the rest is its value
    split at h
    case h_1 o' hspelled =>
      obtain ⟨rfl, -⟩ := Word.option.inj (Except.ok.inj h)
      exact ⟨_, List.take_prefix 2 arg, standsFor_of_spelled? hspelled⟩
    case h_2 =>
      split at h <;> exact absurd h (by simp)

/-- **An option word comes from an argument whose front stands for the option.**  The front is the
    argument itself, or what is in front of its equals sign, or what an inexact spelling leaves. -/
theorem classifyArgument_eq_option (h : classifyArgument options arg = .ok (.option o attached)) :
    ∃ start, start <+: arg ∧ StandsFor options start o := by
  rw [classifyArgument] at h
  split at h
  case isTrue => exact absurd h (by simp)
  case isFalse =>
    split at h
    case h_1 o' hspelled =>
      obtain ⟨rfl, -⟩ := Word.option.inj (Except.ok.inj h)
      exact ⟨arg, List.prefix_refl arg, standsFor_of_spelled? hspelled⟩
    case h_2 =>
      split at h
      case isTrue => exact absurd h (by simp)
      case isFalse =>
        -- in full up to an equals sign, or else inexact
        split at h
        case h_1 start given hsplit =>
          split at h
          case h_1 o' hspelled =>
            obtain ⟨rfl, -⟩ := Word.option.inj (Except.ok.inj h)
            have hfront := splitAtEquals_prefix arg
            rw [hsplit] at hfront
            exact ⟨start, hfront, standsFor_of_spelled? hspelled⟩
          case h_2 => exact classifyInexact_eq_option h
        case h_2 => exact classifyInexact_eq_option h

/-- Every option word comes from an argument; by induction on the arguments, of which the words are
    made one by one. -/
theorem exists_arg_of_option {args : List Text} {words : List Word}
    (h : classifyArguments options args = .ok words) (hmem : .option o attached ∈ words) :
    ∃ arg ∈ args, classifyArgument options arg = .ok (.option o attached) := by
  induction args generalizing words with
  | nil =>
    obtain rfl := Except.ok.inj h
    exact absurd hmem List.not_mem_nil
  | cons arg rest ih =>
    rw [classifyArguments] at h
    split at h
    case isTrue =>
      -- behind the separator all words are plain
      obtain rfl := Except.ok.inj h
      simp at hmem
    case isFalse =>
      split at h
      case h_1 => exact absurd h (by simp)
      case h_2 word hword =>
        obtain ⟨others, hrest, rfl⟩ := map_eq_ok_iff.mp h
        rcases List.mem_cons.mp hmem with rfl | hmem
        · exact ⟨arg, List.mem_cons_self, hword⟩
        · obtain ⟨arg', harg', hclass⟩ := ih hrest hmem
          exact ⟨arg', List.mem_cons_of_mem arg harg', hclass⟩

end

/-! ## Reading -/

section

variable {g : Grammar} {before : Before} {r r' : Reading} {words : List Word} {o : OptionSpec}

/-- Filling a position gives no option; what it notes is a value of the position. -/
theorem given_of_fillPosition {positions : List Position} {t : Text}
    (h : fillPosition positions before t r = .ok r') : r'.given = r.given := by
  rw [fillPosition] at h
  split at h
  case h_1 =>
    obtain rfl := Except.ok.inj h
    rfl
  case h_2 position _ _ =>
    obtain ⟨_, -, rfl⟩ := map_eq_ok_iff.mp h
    rfl

/-- Giving an option notes it, with its value, in front of what was given before.  An option that is given
    twice is noted twice, and the one in front counts. -/
theorem given_of_giveOption {value : Option Text} (h : giveOption o value r = .ok r') :
    r'.given = (o.key, value) :: r.given := by
  obtain ⟨_, -, rfl⟩ := map_eq_ok_iff.mp h
  rfl

/-- So does using a flag, however it was attached; asking for help gives nothing, it ends the
    reading. -/
theorem given_of_useFlag {attached : Option Attached} (h : useFlag o attached r = .ok r') :
    r'.given = (o.key, none) :: r.given := by
  have huse : (if o.role == .help then .error .help else giveOption o none r) = Except.ok r' →
      r'.given = (o.key, none) :: r.given := by
    intro h
    split at h
    case isTrue => exact absurd h (by simp)
    case isFalse => exact given_of_giveOption h
  rw [useFlag.eq_def] at h
  dsimp only at h
  split at h
  case h_1 => exact huse h
  case h_2 => exact absurd h (by simp [ignoredValue, misuseOf])
  case h_3 => exact absurd h (by simp [ignoredValue, misuseOf])
  case h_4 =>
    split at h
    case h_1 => exact huse h
    case h_2 => exact absurd h (by simp [ignoredValue, misuseOf])

/-- **Reading notes an option only where a word gives it.**  So what holds of the keys of all option
    words, and of what was noted before, holds of everything that was noted in the end.  The induction
    follows the reading itself, because a word may take the one behind it along. -/
theorem given_of_readWords {p : Text → Prop} (h : readWords g before r words = .ok r')
    (hwords : ∀ o attached, .option o attached ∈ words → p o.key)
    (hr : ∀ entry ∈ r.given, p entry.1) : ∀ entry ∈ r'.given, p entry.1 := by
  -- one more entry in front keeps the property
  have hnoted : ∀ {o : OptionSpec} {value : Option Text} {r next : Reading}, p o.key →
      (∀ entry ∈ r.given, p entry.1) → next.given = (o.key, value) :: r.given →
      ∀ entry ∈ next.given, p entry.1 := by
    intro o value r next hkey hr hnext entry hentry
    rw [hnext] at hentry
    rcases List.mem_cons.mp hentry with rfl | hentry
    · exact hkey
    · exact hr entry hentry
  fun_induction readWords g before r words with
  | case1 =>
    obtain rfl := Except.ok.inj h
    exact hr
  | case2 before r rest _ ih =>
    exact ih h (fun o attached hmem => hwords o attached (List.mem_cons_of_mem _ hmem)) hr
  | case3 before r rest _ _ ih =>
    exact ih h (fun o attached hmem => hwords o attached (List.mem_cons_of_mem _ hmem)) hr
  | case4 before r rest _ _ ih =>
    exact ih h (fun o attached hmem => hwords o attached (List.mem_cons_of_mem _ hmem)) hr
  | case5 => exact absurd h (by simp)
  | case6 before r t rest next hfill ih =>
    refine ih h (fun o attached hmem => hwords o attached (List.mem_cons_of_mem _ hmem)) ?_
    rw [given_of_fillPosition hfill]
    exact hr
  | case7 before r t rest ih =>
    exact ih h (fun o attached hmem => hwords o attached (List.mem_cons_of_mem _ hmem)) hr
  | case8 => exact absurd h (by simp)
  | case9 before r o attached rest _ next huse ih =>
    exact ih h (fun o' given hmem => hwords o' given (List.mem_cons_of_mem _ hmem))
      (hnoted (hwords o attached List.mem_cons_self) hr (given_of_useFlag huse))
  | case10 => exact absurd h (by simp)
  | case11 before r o rest _ value next hgive ih =>
    exact ih h (fun o' given hmem => hwords o' given (List.mem_cons_of_mem _ hmem))
      (hnoted (hwords o _ List.mem_cons_self) hr (given_of_giveOption hgive))
  | case12 => exact absurd h (by simp)
  | case13 before r o _ value rest next hgive ih =>
    -- the word behind the option was its value
    exact ih h (fun o' given hmem => hwords o' given
        (List.mem_cons_of_mem _ (List.mem_cons_of_mem _ hmem)))
      (hnoted (hwords o _ List.mem_cons_self) hr (given_of_giveOption hgive))
  | case14 => exact absurd h (by simp [misuseOf])

/-- **An option that was given** is what the front of some argument stands for.  This is the way back
    through all three stages: from the key to the word, and from the word to the argument. -/
theorem exists_arg_of_has {args : List Text} {key : String} (h : readArguments g args = .ok r)
    (hhas : r.has key = true) :
    ∃ arg ∈ args, ∃ start o, start <+: arg ∧ StandsFor g.options start o ∧
      o.key = key.toList := by
  rw [readArguments] at h
  split at h
  case h_1 => exact absurd h (by simp)
  case h_2 words hwords =>
    split at h
    case h_1 => exact absurd h (by simp)
    case h_2 read hread =>
      split at h
      case h_2 => exact absurd h (by simp)
      case h_1 =>
        -- the key that was asked for was noted, so a word gave it, and an argument is that word
        obtain rfl := Except.ok.inj h
        obtain ⟨value, hvalue⟩ := Option.isSome_iff_exists.mp hhas
        obtain ⟨front, behind, hsplit, -⟩ := List.lookup_eq_some_iff.mp hvalue
        have hmem : (key.toList, value) ∈ read.given := by
          rw [hsplit]
          exact List.mem_append_right front List.mem_cons_self
        have hgiven := given_of_readWords (p := fun k => ∃ o attached, o.key = k ∧
          .option o attached ∈ words) hread (fun o attached hmem => ⟨o, attached, rfl, hmem⟩)
          (fun _ hentry => absurd hentry List.not_mem_nil) _ hmem
        obtain ⟨o, attached, hkey, hword⟩ := hgiven
        obtain ⟨arg, harg, hclass⟩ := exists_arg_of_option hwords hword
        obtain ⟨start, hstart, hstands⟩ := classifyArgument_eq_option hclass
        exact ⟨arg, harg, start, o, hstart, hstands, hkey⟩

end

/-! ## Writing -/

/-- Whether the arguments spell an extraction with `--write`.  What else they say does not matter, and so
    all the other members of the command are left open. -/
def IsWriting (args : List Text) : Prop :=
  ∃ file line name flat preserveStates force stylesheet,
    readArgv args = .ok (.extract file line name flat preserveStates force true stylesheet)

section

variable {leftOver args : List Text} {command : Command}

/-- A command is read from the arguments behind its name; by induction on the arguments in front of
    it, each of which the program takes for itself or leaves over. -/
theorem exists_readNamed (h : readProgram leftOver args = .ok command) :
    ∃ leftOver name rest, (∀ arg ∈ rest, arg ∈ args) ∧
      readNamed leftOver name rest = .ok command := by
  induction args generalizing leftOver with
  | nil => exact absurd h (by simp [readProgram])
  | cons arg rest ih =>
    have hrest : ∀ a ∈ rest, a ∈ arg :: rest := fun a ha => List.mem_cons_of_mem arg ha
    rw [readProgram] at h
    split at h
    case isTrue => exact absurd h (by simp)
    case isFalse =>
      split at h
      case isTrue => exact ⟨leftOver, arg, rest, hrest, h⟩
      case isFalse =>
        split at h
        case h_1 => exact absurd h (by simp)
        case h_2 =>
          -- an option of the program: it asks for help, or is misused
          split at h <;> exact absurd h (by simp)
        case h_3 =>
          obtain ⟨leftOver', name, rest', hmem, hnamed⟩ := ih h
          exact ⟨leftOver', name, rest', fun a ha => hrest a (hmem a ha), hnamed⟩
        case h_4 => exact ⟨leftOver, arg, rest, hrest, h⟩

/-- A command that was read is made of a reading of all its arguments: where some are left over, there is
    no command. -/
theorem readCommand_eq_ok {speaker : Speaker} {g : Grammar} {make : Reading → Command}
    (h : readCommand leftOver speaker g make args = .ok command) :
    ∃ r, readArguments g args = .ok r ∧ make r = command := by
  rw [readCommand] at h
  split at h
  case h_1 => exact absurd h (by simp)
  case h_2 => exact absurd h (by simp)
  case h_3 r hr =>
    split at h
    case h_1 => exact ⟨r, hr, Except.ok.inj h⟩
    case h_2 => exact absurd h (by simp)

/-- The option `--write` of the extract command: a flag with this one spelling. -/
def writeOption : OptionSpec := ⟨["--write".toList], .flag⟩

/-- What stands for `--write` has its first three characters: a shorter front would stand for the
    other long options as well, and so for none. -/
theorem prefix_of_standsFor_write {start : Text} {o : OptionSpec}
    (h : StandsFor extractGrammar.options start o) (hkey : o.key = "--write".toList) :
    "--w".toList <+: start := by
  have hoption : ∀ o ∈ extractGrammar.options, o.key = "--write".toList → o = writeOption := by
    decide
  obtain ⟨ho, hspelled⟩ := h
  obtain rfl := hoption o ho hkey
  rcases hspelled with hspelled | ⟨spelling, hone⟩
  · rw [List.mem_singleton.mp hspelled]
    decide
  · -- a front of `--write` that is shorter stands for other options too
    have hshort : ∀ n ≤ 7, completions extractGrammar.options ("--write".toList.take n) =
        [("--write".toList, writeOption)] → "--w".toList <+: "--write".toList.take n := by
      decide +kernel
    have hmem : (spelling, writeOption) ∈ completions extractGrammar.options start := by
      rw [hone]
      exact List.mem_singleton_self _
    obtain ⟨-, hspelling, hstart⟩ := mem_completions.mp hmem
    obtain rfl := List.mem_singleton.mp hspelling
    have htake := List.prefix_iff_eq_take.mp hstart
    rw [htake] at hone ⊢
    exact hshort _ (hstart.length_le) hone

/-- **Whoever wants to write has an argument for it.**  A scan never writes, and an extraction writes
    if the option was given, which some argument behind the name of the command stands for. -/
theorem exists_arg_of_isWriting (h : IsWriting args) : ∃ arg ∈ args, "--w".toList <+: arg := by
  obtain ⟨file, line, name, flat, preserveStates, force, stylesheet, hargs⟩ := h
  obtain ⟨leftOver, title, rest, hrest, hnamed⟩ := exists_readNamed hargs
  rw [readNamed] at hnamed
  split at hnamed
  case isTrue =>
    obtain ⟨r, -, hcommand⟩ := readCommand_eq_ok hnamed
    exact absurd hcommand (by simp [scanCommand])
  case isFalse =>
    split at hnamed
    case isTrue =>
      -- the last member but one of an extract command tells whether the option was given
      obtain ⟨r, hread, hcommand⟩ := readCommand_eq_ok hnamed
      have hwrite : r.has "--write" = true := by
        injection hcommand
      obtain ⟨arg, harg, start, o, hfront, hstands, hkey⟩ := exists_arg_of_has hread hwrite
      exact ⟨arg, hrest arg harg, (prefix_of_standsFor_write hstands hkey).trans hfront⟩
    case isFalse => exact absurd hnamed (by simp)

end

end ClassLift.CommandLine
