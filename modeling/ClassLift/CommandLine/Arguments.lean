/-
  Reading the arguments of a command.

  1. **Words.**  Every argument is first told apart by its spelling alone: an option (with the
     value attached to it, if any), an option that is not known, a plain word, or the separator
     `--`, behind which all words are plain.  A long option may be cut short as long as only one
     fits.  What starts with a hyphen and is no option is plain all the same if it is a single
     hyphen, a negative number, or holds a space.

  2. **Reading** goes through the words from left to right.  A plain word fills the next open
     position, an option takes its value from the word behind it, the separator vanishes beside a
     word that fills a position.  Words that nothing takes are left over.  The first option that
     asks for help, and the first misuse, end the reading.

  3. A separator never is a value.  Where a second one stands in the place of a value, or the first
     one right behind the equals sign of an option, the position counts as filled and the option as
     given, but HOLLOW: there is no value, and none is checked.  A separator that the first one
     leads is an ordinary word.

  4. At the end every position must be filled.
-/
import ClassLift.CommandLine.Help
import ClassLift.Text.Numeral
import ClassLift.Text.Quoted

namespace ClassLift.CommandLine

/-! ## Grammars -/

inductive OptionRole
  | help
  | flag
  | text
  | integer
  deriving DecidableEq, Repr

/-- An option with its spellings; the long one comes last and stands for the option. -/
structure OptionSpec where
  spellings : List Text
  role : OptionRole
  deriving DecidableEq, Repr

/-- How complaints name an option. -/
def OptionSpec.title (o : OptionSpec) : Text := joinWith ['/'] o.spellings

/-- The spelling that stands for the option. -/
def OptionSpec.key (o : OptionSpec) : Text := o.spellings.getLastD []

structure Position where
  title : Text
  isInteger : Bool
  deriving DecidableEq, Repr

structure Grammar where
  options : List OptionSpec
  positions : List Position
  deriving DecidableEq, Repr

/-- The option that every grammar has. -/
def helpOption : OptionSpec := ⟨["-h".toList, "--help".toList], .help⟩

/-! ## Words -/

/-- A value attached to an option: to its long spelling by an equals sign, or to its short one, with
    an equals sign or without. -/
inductive Attached
  | toLong (value : Text)
  | toShort (value : Text)
  deriving DecidableEq, Repr

/-- An argument told apart by its spelling. -/
inductive Word
  | plain (t : Text)
  | separator
  | option (o : OptionSpec) (attached : Option Attached)
  | unknownOption (t : Text)
  deriving DecidableEq, Repr

/-- A negative number: a hyphen, then digits, or perhaps digits, a point and digits.  A line feed at
    the end is overlooked. -/
def isNegativeNumber (t : Text) : Bool :=
  let isDigit := fun c => (digitValue? c).isSome
  match t with
  | '-' :: rest =>
    let body := if rest.getLast? = some '\n' then rest.dropLast else rest
    match body.dropWhile isDigit with
    | [] => !body.isEmpty
    | '.' :: fraction => !fraction.isEmpty && fraction.all isDigit
    | _ => false
  | _ => false

def spelled? (options : List OptionSpec) (spelling : Text) : Option OptionSpec :=
  options.find? fun o => o.spellings.contains spelling

def separatorWord : Text := "--".toList

/-- A value attached to a spelling by an equals sign. -/
def attachedTo (spelling value : Text) : Attached :=
  if separatorWord.isPrefixOf spelling then .toLong value else .toShort value

/-- What stands before the first equals sign, and what stands behind it if there is one. -/
def splitAtEquals (t : Text) : Text × Option Attached :=
  match t.dropWhile (· != '=') with
  | [] => (t, none)
  | _ :: value =>
    let spelling := t.takeWhile (· != '=')
    (spelling, some (attachedTo spelling value))

/-- The spellings that a long option cut short may stand for. -/
def completions (options : List OptionSpec) (start : Text) : List (Text × OptionSpec) :=
  options.flatMap fun o => (o.spellings.filter start.isPrefixOf).map fun s => (s, o)

/-- An argument that starts with a hyphen and is no exact spelling. -/
def classifyInexact (options : List OptionSpec) (arg : Text) : Except Text Word :=
  let (start, attached) := splitAtEquals arg
  let otherwise : Word :=
    if isNegativeNumber arg || arg.contains ' ' then .plain arg else .unknownOption arg
  if separatorWord.isPrefixOf arg then
    match completions options start with
    | [] => .ok otherwise
    | [(_, o)] => .ok (.option o attached)
    | several =>
      .error ("ambiguous option: ".toList ++ arg ++ " could match ".toList ++
        joinWith ", ".toList (several.map Prod.fst))
  else
    match spelled? options (arg.take 2) with
    | some o => .ok (.option o (some (.toShort (arg.drop 2))))
    | none => .ok otherwise

/-- An argument told apart, or why it cannot be. -/
def classifyArgument (options : List OptionSpec) (arg : Text) : Except Text Word :=
  if arg.head? != some '-' then .ok (.plain arg)
  else
    match spelled? options arg with
    | some o => .ok (.option o none)
    | none =>
      if arg == ['-'] then .ok (.plain arg)
      else
        match splitAtEquals arg with
        | (start, some attached) =>
          match spelled? options start with
          | some o => .ok (.option o (some attached))
          | none => classifyInexact options arg
        | _ => classifyInexact options arg

/-- All arguments told apart; the first separator makes what follows plain. -/
def classifyArguments (options : List OptionSpec) : List Text → Except Text (List Word)
  | [] => .ok []
  | arg :: rest =>
    if arg == separatorWord then .ok (.separator :: rest.map .plain)
    else
      match classifyArgument options arg with
      | .error message => .error message
      | .ok word => (classifyArguments options rest).map (word :: ·)

/-! ## Reading -/

inductive Stop
  | help
  | misuse (message : Text)
  deriving DecidableEq, Repr

/-- What has been read; a value that is none is hollow. -/
structure Reading where
  filled : List (Option Text) := []
  /-- The options given, with their values, the last one first. -/
  given : List (Text × Option Text) := []
  leftOver : List Text := []
  deriving DecidableEq, Repr

inductive Supplied (α : Type)
  | nothing
  | hollow
  | value (a : α)
  deriving DecidableEq, Repr

namespace Supplied

/-- The value, if there is one. -/
def value? {α : Type} : Supplied α → Option α
  | value a => some a
  | _ => none

/-- The value put through a reading that may fail and then leaves nothing. -/
def bind {α β : Type} (s : Supplied α) (f : α → Option β) : Supplied β :=
  match s with
  | nothing => nothing
  | hollow => hollow
  | value a => ((f a).map value).getD nothing

end Supplied

def Reading.has (r : Reading) (key : String) : Bool := (r.given.lookup key.toList).isSome

/-- What was given last for an option. -/
def Reading.supplied (r : Reading) (key : String) : Supplied Text :=
  match r.given.lookup key.toList with
  | none => .nothing
  | some none => .hollow
  | some (some value) => .value value

def Reading.filler? (r : Reading) (index : Nat) : Option Text := r.filled.getD index none

def misuseOf {α : Type} (title message : Text) : Except Stop α :=
  .error (.misuse ("argument ".toList ++ title ++ ": ".toList ++ message))

/-- A text that must spell an integer where one is asked for; what is hollow spells nothing. -/
def checkInteger (title : Text) (isInteger : Bool) : Option Text → Except Stop Unit
  | none => .ok ()
  | some t =>
    if isInteger && (parseInteger? t).isNone then
      misuseOf title ("invalid int value: ".toList ++ quoted t)
    else .ok ()

/-- What stands before a word: a word that filled a position, the separator with no such word
    before it, or anything else. -/
inductive Before
  | filler
  | separator
  | other
  deriving DecidableEq, Repr

/-- The value of a plain word, which is hollow if the word is a separator that no other leads. -/
def plainValue (before : Before) (t : Text) : Option Text :=
  if t == separatorWord && before != .separator then none else some t

/-- Fills the next position, or leaves the word over if there is none. -/
def fillPosition (positions : List Position) (before : Before) (t : Text) (r : Reading) :
    Except Stop Reading :=
  match positions.drop r.filled.length with
  | [] => .ok { r with leftOver := r.leftOver ++ [t] }
  | position :: _ =>
    let value := plainValue before t
    (checkInteger position.title position.isInteger value).map fun _ =>
      { r with filled := r.filled ++ [value] }

/-- Notes an option with its value. -/
def giveOption (o : OptionSpec) (value : Option Text) (r : Reading) : Except Stop Reading :=
  (checkInteger o.title (o.role == .integer) value).map fun _ =>
    { r with given := (o.key, value) :: r.given }

/-- A value attached to an option that takes none. -/
def ignoredValue {α : Type} (o : OptionSpec) (value : Text) : Except Stop α :=
  misuseOf o.title ("ignored explicit argument ".toList ++ quoted value)

/-- An option that takes no value.  Letters attached to its short spelling are further options as
    long as they repeat it; whatever else is attached is a misuse. -/
def useFlag (o : OptionSpec) (attached : Option Attached) (r : Reading) : Except Stop Reading :=
  let use : Except Stop Reading := if o.role == .help then .error .help else giveOption o none r
  match attached with
  | none => use
  | some (.toLong value) => ignoredValue o value
  | some (.toShort []) => ignoredValue o []
  | some (.toShort letters) =>
    let letter := (o.spellings.headD []).drop 1
    match letters.dropWhile fun c => letter == [c] with
    | [] => use
    | rest => ignoredValue o rest

/-- The value attached to an option; a separator there leaves the option hollow. -/
def attachedValue : Attached → Option Text
  | .toLong value | .toShort value => if value == separatorWord then none else some value

/-- Reads words, given what stands before them. -/
def readWords (g : Grammar) (before : Before) (r : Reading) : List Word → Except Stop Reading
  | [] => .ok r
  | .separator :: rest =>
    if before == .filler then readWords g .other r rest
    else if r.filled.length < g.positions.length && !rest.isEmpty then
      readWords g .separator r rest
    else readWords g .other { r with leftOver := r.leftOver ++ [separatorWord] } rest
  | .plain t :: rest =>
    match fillPosition g.positions before t r with
    | .error stop => .error stop
    | .ok next =>
      readWords g (if r.filled.length < g.positions.length then .filler else .other) next rest
  | .unknownOption t :: rest => readWords g .other { r with leftOver := r.leftOver ++ [t] } rest
  | .option o attached :: rest =>
    if o.role == .help || o.role == .flag then
      match useFlag o attached r with
      | .error stop => .error stop
      | .ok next => readWords g .other next rest
    else
      match attached, rest with
      | some value, rest =>
        match giveOption o (attachedValue value) r with
        | .error stop => .error stop
        | .ok next => readWords g .other next rest
      | none, .plain value :: rest =>
        match giveOption o (some value) r with
        | .error stop => .error stop
        | .ok next => readWords g .other next rest
      | none, _ => misuseOf o.title "expected one argument".toList

def missingArguments (titles : List Text) : Text :=
  "the following arguments are required: ".toList ++ joinWith ", ".toList titles

def readArguments (g : Grammar) (args : List Text) : Except Stop Reading :=
  match classifyArguments g.options args with
  | .error message => .error (.misuse message)
  | .ok words =>
    match readWords g .other {} words with
    | .error stop => .error stop
    | .ok r =>
      match g.positions.drop r.filled.length with
      | [] => .ok r
      | missing => .error (.misuse (missingArguments (missing.map Position.title)))

/-! ## Commands -/

/-- What the program is asked to do.  The line and the name of an extraction may be hollow; a file
    never is, because the first position is filled by the word that the separator leads. -/
inductive Command
  | scan (file : Text) (threshold : Supplied Int)
  | extract (file : Text) (line : Option Int) (name : Option Text)
      (flat preserveStates force write : Bool) (stylesheet : Supplied Text)
  deriving DecidableEq, Repr

/-- Why there is no command: somebody asks for help or complains. -/
inductive Refusal
  | help (s : Speaker)
  | misuse (s : Speaker) (message : Text)
  deriving DecidableEq, Repr

def scanGrammar : Grammar where
  options := [helpOption, ⟨["--threshold".toList], .integer⟩]
  positions := [⟨"file".toList, false⟩]

def extractGrammar : Grammar where
  options :=
    [helpOption, ⟨["--flat".toList], .flag⟩, ⟨["--preserve-states".toList], .flag⟩,
      ⟨["--force".toList], .flag⟩, ⟨["--write".toList], .flag⟩, ⟨["--css".toList], .text⟩]
  positions := [⟨"file".toList, false⟩, ⟨"line".toList, true⟩, ⟨"name".toList, false⟩]

def scanCommand (r : Reading) : Command :=
  .scan ((r.filler? 0).getD []) ((r.supplied "--threshold").bind parseInteger?)

def extractCommand (r : Reading) : Command :=
  .extract ((r.filler? 0).getD []) ((r.filler? 1).bind parseInteger?) (r.filler? 2)
    (r.has "--flat") (r.has "--preserve-states") (r.has "--force") (r.has "--write")
    (r.supplied "--css")

/-- Reads a command behind its name; `leftOver` are the words before the name that nothing took. -/
def readCommand (leftOver : List Text) (s : Speaker) (g : Grammar) (command : Reading → Command)
    (args : List Text) : Except Refusal Command :=
  match readArguments g args with
  | .error .help => .error (.help s)
  | .error (.misuse message) => .error (.misuse s message)
  | .ok r =>
    match leftOver ++ r.leftOver with
    | [] => .ok (command r)
    | words =>
      .error (.misuse .program ("unrecognized arguments: ".toList ++ joinWith [' '] words))

def readNamed (leftOver : List Text) (name : Text) (args : List Text) : Except Refusal Command :=
  if name == "scan".toList then readCommand leftOver .scan scanGrammar scanCommand args
  else if name == "extract".toList then
    readCommand leftOver .extract extractGrammar extractCommand args
  else
    .error (.misuse .program ("argument command: invalid choice: ".toList ++ quoted name ++
      " (choose from 'scan', 'extract')".toList))

/-- Reads the words up to the name of a command, and then the command. -/
def readProgram (leftOver : List Text) : List Text → Except Refusal Command
  | [] => .error (.misuse .program (missingArguments ["command".toList]))
  | arg :: rest =>
    if arg == separatorWord && rest.isEmpty then
      .error (.misuse .program (missingArguments ["command".toList]))
    else if arg == separatorWord then readNamed leftOver arg rest
    else
      match classifyArgument [helpOption] arg with
      | .error message => .error (.misuse .program message)
      | .ok (.option o attached) =>
        match useFlag o attached {} with
        | .error (.misuse message) => .error (.misuse .program message)
        | _ => .error (.help .program)
      | .ok (.unknownOption t) => readProgram (leftOver ++ [t]) rest
      | .ok _ => readNamed leftOver arg rest

/-- The command that the arguments of the program spell. -/
def readArgv (args : List Text) : Except Refusal Command := readProgram [] args

end ClassLift.CommandLine
