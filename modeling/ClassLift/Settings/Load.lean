/-
  Loading the settings.

  Each setting has a name in capitals.  Its value is looked for in three places, and the first that
  has one decides: the values given directly, the environment, the environment file.  Names are
  compared without regard to case.  Of several spellings of a name the FIRST one counts where values
  are given directly, and the last one in the environment and in the file; of several values under
  one spelling the last counts everywhere.  A setting found nowhere has its default.  Values are
  read as fields are (see `Field`), and the faults of all settings are collected in the order of the
  names below.
-/
import ClassLift.Field
import ClassLift.Settings
import ClassLift.Settings.EnvironmentFile

namespace ClassLift

/-- Where settings come from, the most important source first. -/
structure SettingSources where
  direct : List (JsonString × Json) := []
  environment : List (Text × Text) := []
  file : Option Text := none

/-- The small form of a letter.  The sign for kelvin is the one letter outside ASCII whose small
    form is an ASCII letter. -/
def smallLetter (c : Char) : Char := if c == '\u212a' then 'k' else c.toLower

/-- A name without regard to case. -/
def foldName (name : Text) : Text := name.map smallLetter

/-- The value given directly under the first spelling of a name. -/
def directValue? (name : Text) (members : List (JsonString × Json)) : Option Json := do
  let spelling ← members.find? fun m => foldName m.1.text == foldName name
  Json.member? spelling.1.text members

/-- The last value bound to a name, without regard to case. -/
def boundValue? {α : Type} (name : Text) (bindings : List (Text × α)) : Option α :=
  (bindings.reverse.find? fun b => foldName b.1 == foldName name).map Prod.snd

namespace SettingSources

def value? (s : SettingSources) (name : Text) : Option Json :=
  match directValue? name s.direct with
  | some value => some value
  | none =>
    match boundValue? name s.environment with
    | some text => some (.string (.ofText text))
    | none =>
      ((boundValue? name (EnvironmentFile.read s.environment (s.file.getD []))).join).map
        fun text => .string (.ofText text)

/-- A setting read from the sources, or its default. -/
def setting {α : Type} (s : SettingSources) (name : String) (read : Json → Except FieldFault α)
    (default : α) : Checked α :=
  match s.value? name.toList with
  | none => .ok default
  | some value => Checked.placed [.name name.toList] value (read value)

end SettingSources

/-- The names of all settings, in the order in which their faults are reported. -/
def settingNames : List Text :=
  ["APP_NAME", "DEBUG", "LOG_LEVEL", "CLASS_THRESHOLD", "TARGET_CSS_FILE", "GROUP_BY_CATEGORY",
    "PRESERVE_STATE_VARIANTS", "MULTILINE_LOOKAROUND", "WORKSPACE_ROOT"].map String.toList

/-- The settings that the sources give, or the faults in them. -/
def loadSettings (s : SettingSources) : Checked Settings :=
  let defaults : Settings := {}
  (Checked.ok Settings.mk)
    |>.apply (s.setting "APP_NAME" readText defaults.appName)
    |>.apply (s.setting "DEBUG" readBoolean defaults.debug)
    |>.apply (s.setting "LOG_LEVEL" readText defaults.logLevel)
    |>.apply (s.setting "CLASS_THRESHOLD" (readIntegerFrom 1) defaults.classThreshold)
    |>.apply (s.setting "TARGET_CSS_FILE" readText defaults.targetStylesheet)
    |>.apply (s.setting "GROUP_BY_CATEGORY" readBoolean defaults.groupByCategory)
    |>.apply (s.setting "PRESERVE_STATE_VARIANTS" readBoolean defaults.preserveStateVariants)
    |>.apply (s.setting "MULTILINE_LOOKAROUND" (readIntegerFrom 0) defaults.lookaround)
    |>.apply (s.setting "WORKSPACE_ROOT" readText defaults.workspaceRoot)

end ClassLift
