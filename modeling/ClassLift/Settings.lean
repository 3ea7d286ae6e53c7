/-
  Settings: what a run takes for granted where a request says nothing.

  Every setting has a default, so a request never fails for want of one.  Thresholds and the
  look-around are integers and not natural numbers, because whoever builds the settings may put any
  number in; a negative look-around counts as none.
-/
import ClassLift.Text.Blank

namespace ClassLift

/-- The settings of a run. -/
structure Settings where
  appName : Text := "Shrink Tailwind".toList
  debug : Bool := false
  /-- The name of the least important level that is logged. -/
  logLevel : Text := "INFO".toList
  /-- From how many classes on a class list is long. -/
  classThreshold : Int := 5
  /-- The stylesheet for rules that name none. -/
  targetStylesheet : Text := "src/styles/components.css".toList
  groupByCategory : Bool := true
  preserveStateVariants : Bool := false
  /-- How many lines above and below are searched for a wrapped attribute. -/
  lookaround : Int := 5
  /-- The directory that stylesheets must stay in. -/
  workspaceRoot : Text := ".".toList
  deriving DecidableEq, Repr

end ClassLift
