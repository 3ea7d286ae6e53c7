/-
  Environment files: `KEY=value` lines with the settings of a project.

  1. **Bindings.**  Blank lines and lines that start with a hash say nothing.  A binding is a key,
     perhaps behind the word `export`, an equals sign and a value; a key alone binds nothing.  A
     value in single or double quotes ends at the next such quote, may run over lines, and knows a
     few escapes; a character behind a backslash is never the closing quote.  Any other value ends
     with its line, or at a hash with a blank before it, and is trimmed.  A line that is not of this
     form is skipped.  A mark of the byte order in front of the text is overlooked.

  2. **Repetitions.**  A key that is bound again keeps its first place among the bindings and takes
     the new value, or loses the old one if there is no new.

  3. **References.**  `${NAME}` and `${NAME:-fallback}` inside a value are replaced by the value of
     an earlier binding of that name, else by the variable of the environment, else by the
     fallback.

  4. **Termination.**  Reading a binding takes at least one character of a text that has one, so as
     many rounds as there are characters are enough.
-/
import ClassLift.Text.Lines

namespace ClassLift.EnvironmentFile

/-! ## Small readers -/

def isInline (c : Char) : Bool := isBlank c && c != '\n' && c != '\r'

def isLineEnd (c : Char) : Bool := c == '\n' || c == '\r'

/-- The text behind the word `export` and the blanks after it. -/
def dropExport (t : Text) : Text :=
  match "export".toList.isPrefixOf? t with
  | some (c :: rest) => if isInline c then rest.dropWhile isInline else t
  | _ => t

/-- A quoted value behind its opening quote, and what follows the closing one.  A backslash and the
    character behind it belong together. -/
def readQuoted (quote : Char) : Text → Option (Text × Text)
  | [] => none
  | '\\' :: d :: rest =>
    (readQuoted quote rest).map fun found => ('\\' :: d :: found.1, found.2)
  | c :: rest =>
    if c == quote then some ([], rest)
    else (readQuoted quote rest).map fun found => (c :: found.1, found.2)

/-- What a letter behind a backslash stands for in double quotes. -/
def doubleEscape? : Char → Option Char
  | '\\' => some '\\'
  | '\x27' => some '\x27'
  | '"' => some '"'
  | 'a' => some '\x07'
  | 'b' => some '\x08'
  | 'f' => some '\x0c'
  | 'n' => some '\n'
  | 'r' => some '\r'
  | 't' => some '\t'
  | 'v' => some '\x0b'
  | _ => none

/-- What a letter behind a backslash stands for in single quotes. -/
def singleEscape? : Char → Option Char
  | '\\' => some '\\'
  | '\x27' => some '\x27'
  | _ => none

def unescape (escape? : Char → Option Char) : Text → Text
  | [] => []
  | '\\' :: c :: rest =>
    match escape? c with
    | some d => d :: unescape escape? rest
    | none => '\\' :: unescape escape? (c :: rest)
  | c :: rest => c :: unescape escape? rest

/-- The text up to the first blanks with a hash right behind them. -/
def withoutComment : Text → Text
  | [] => []
  | c :: rest =>
    if isBlank c && (rest.dropWhile isBlank).head? == some '#' then []
    else c :: withoutComment rest

/-! ## Bindings -/

/-- A key with the value it is bound to, if it is bound. -/
abbrev Binding := Text × Option Text

/-- A key at the front of a text; a comment has none. -/
def readKey (t : Text) : Except Text (Option Text × Text) :=
  match t with
  | '#' :: _ => .ok (none, t)
  | '\x27' :: rest =>
    let key := rest.takeWhile (· != '\x27')
    match key, rest.dropWhile (· != '\x27') with
    | _ :: _, _ :: after => .ok (some key, after)
    | _, _ => .error t
  | _ =>
    let isKey := fun c => !(c == '=' || c == '#' || isBlank c)
    match t.takeWhile isKey with
    | [] => .error t
    | key => .ok (some key, t.dropWhile isKey)

/-- A value behind the equals sign.  The blanks there count as blanks before a hash, too. -/
def readBoundValue (t : Text) : Except Text (Text × Text) :=
  match t.dropWhile isInline with
  | '\x27' :: rest =>
    match readQuoted '\x27' rest with
    | some (value, after) => .ok (unescape singleEscape? value, after)
    | none => .error t
  | '"' :: rest =>
    match readQuoted '"' rest with
    | some (value, after) => .ok (unescape doubleEscape? value, after)
    | none => .error t
  | _ =>
    let line := withoutComment (t.takeWhile fun c => !isLineEnd c)
    .ok (stripRight (line.dropWhile isInline), t.dropWhile fun c => !isLineEnd c)

/-- The text behind a comment, if one starts here. -/
def dropComment (t : Text) : Text :=
  match t.dropWhile isInline with
  | '#' :: rest => rest.dropWhile fun c => !isLineEnd c
  | _ => t

/-- The text behind the end of its line, which must come now. -/
def endLine (t : Text) : Except Text Text :=
  match t.dropWhile isInline with
  | [] => .ok []
  | '\r' :: '\n' :: rest => .ok rest
  | c :: rest => if isLineEnd c then .ok rest else .error t

def skipLine (t : Text) : Text := (t.dropWhile fun c => !isLineEnd c).drop 1

/-- A binding at the front of a text without blanks there, and what follows it; or the place at
    which the text stops being one. -/
def readBinding (t : Text) : Except Text (Option Binding × Text) := do
  let (key, t) ← readKey (dropExport t)
  match t.dropWhile isInline with
  | '=' :: rest =>
    let (value, rest) ← readBoundValue rest
    let rest ← endLine (dropComment rest)
    return (key.map fun k => (k, some value), rest)
  | rest =>
    let rest ← endLine (dropComment rest)
    return (key.map fun k => (k, none), rest)

/-- The bindings of a text, read in at most the given number of rounds. -/
def readBindings : Nat → Text → List Binding
  | 0, _ => []
  | rounds + 1, t =>
    match t.dropWhile isBlank with
    | [] => []
    | start =>
      match readBinding start with
      | .ok (some binding, rest) => binding :: readBindings rounds rest
      | .ok (none, rest) => readBindings rounds rest
      | .error rest => readBindings rounds (skipLine rest)

/-! ## References -/

/-- The value that a name is bound to, and otherwise that of the environment. -/
def referent? (environment : List (Text × Text)) (bound : List Binding) (name : Text) :
    Option Text :=
  match bound.find? fun b => b.1 == name with
  | some (_, value) => some (value.getD [])
  | none => (environment.reverse.find? fun b => b.1 == name).map Prod.snd

/-- A reference behind its opening brace: the name, the fallback, and what follows. -/
def reference? (t : Text) : Option (Text × Text × Text) :=
  let isName := fun c => !(c == '\x7d' || c == ':')
  let name := t.takeWhile isName
  match t.dropWhile isName with
  | '\x7d' :: rest => some (name, [], rest)
  | ':' :: '-' :: rest =>
    match rest.dropWhile (· != '\x7d') with
    | _ :: after => some (name, rest.takeWhile (· != '\x7d'), after)
    | [] => none
  | _ => none

/-- The value with its references replaced, in at most the given number of rounds. -/
def expand (environment : List (Text × Text)) (bound : List Binding) : Nat → Text → Text
  | 0, t => t
  | _, [] => []
  | rounds + 1, '$' :: '\x7b' :: rest =>
    match reference? rest with
    | some (name, fallback, after) =>
      (referent? environment bound name).getD fallback ++ expand environment bound rounds after
    | none => '$' :: expand environment bound rounds ('\x7b' :: rest)
  | rounds + 1, c :: rest => c :: expand environment bound rounds rest

/-- The bindings with a key bound, at its first place if it has one. -/
def bind (key : Text) (value : Option Text) : List Binding → List Binding
  | [] => [(key, value)]
  | b :: rest => if b.1 == key then (key, value) :: rest else b :: bind key value rest

/-- The text without the mark of the byte order in front. -/
def withoutByteOrderMark : Text → Text
  | '\ufeff' :: rest => rest
  | t => t

/-- The bindings of an environment file, with references replaced; no key comes twice. -/
def read (environment : List (Text × Text)) (t : Text) : List Binding :=
  let t := withoutByteOrderMark t
  (readBindings t.length t).foldl
    (fun bound b => bind b.1 (b.2.map fun v => expand environment bound v.length v) bound) []

end ClassLift.EnvironmentFile
