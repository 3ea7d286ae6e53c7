/-
  Class lists and their tokens.

  1. **Tokens.**  The value of a class attribute is a list of class names separated by blanks.
     `tokenize` returns the maximal runs of characters that are not blank, in order, repetitions
     included.  Nothing is normalised: what joins the tokens again with single spaces reads back
     as the same list.

  2. **Variants.**  A token may carry a chain of variants in front of its utility, each closed by a
     colon: `dark:hover:bg-blue-700` is the utility `bg-blue-700` under `dark` and `hover`.  The
     chain is cut at EVERY colon, so the parts hold none and joining them with colons gives the
     token back.

  3. **State variants.**  A variant is a state variant if it is one of the known keywords, alone or
     followed by a slash and the name of a group (`group-hover/item`).  Unknown variants are kept
     apart from the utility but say nothing about it.
-/
import ClassLift.Text.Lines

namespace ClassLift

/-! ## Tokens -/

/-- The maximal runs of characters that are not blank. -/
def tokenize (value : Text) : List Text :=
  (value.splitOnP isBlank).filter fun run => !run.isEmpty

example : tokenize " flex \t p-4\nflex".toList = ["flex".toList, "p-4".toList, "flex".toList] := by
  decide

/-! ## Variants -/

/-- A token taken apart: the variants in front and the utility they apply to. -/
structure Utility where
  variants : List Text
  base : Text
  deriving DecidableEq, Repr

/-- The parts of a token between its colons, the last of which is the utility (`strip_variants`). -/
def Utility.ofToken (token : Text) : Utility :=
  let parts := token.splitOn ':'
  ⟨parts.dropLast, parts.getLastD []⟩

/-- The token that is written for a utility under its variants. -/
def Utility.toToken (u : Utility) : Text := joinWith [':'] (u.variants ++ [u.base])

example : Utility.ofToken "dark:hover:p-1".toList =
    ⟨["dark".toList, "hover".toList], "p-1".toList⟩ := by decide

/-- The variants that depend on a state, a screen size, a mode or an element next to this one. -/
def stateKeywords : List Text :=
  ["hover", "focus", "focus-within", "focus-visible", "active", "visited",
    "target", "first", "last", "only", "odd", "even", "first-of-type",
    "last-of-type", "only-of-type", "empty", "disabled", "enabled", "checked",
    "indeterminate", "default", "required", "valid", "invalid", "in-range",
    "out-of-range", "placeholder-shown", "autofill", "read-only",
    "before", "after", "first-letter", "first-line", "marker", "selection",
    "file", "backdrop", "placeholder",
    "sm", "md", "lg", "xl", "2xl",
    "dark", "motion-safe", "motion-reduce", "contrast-more", "contrast-less",
    "portrait", "landscape", "print", "rtl", "ltr",
    "open", "closed",
    "group-hover", "group-focus", "peer-hover", "peer-focus"].map String.toList

/-- A keyword by itself, or a keyword, a slash and anything. -/
def isStateVariant (variant : Text) : Bool :=
  stateKeywords.contains variant ||
    stateKeywords.any fun keyword => (keyword ++ ['/']).isPrefixOf variant

/-- Whether some variant of the token is a state variant (`has_state_variant`). -/
def hasStateVariant (token : Text) : Bool := (Utility.ofToken token).variants.any isStateVariant

example : hasStateVariant "md:flex".toList ∧ hasStateVariant "x:group-hover/a:m-1".toList ∧
    ¬ hasStateVariant "hover".toList ∧ ¬ hasStateVariant "custom:p-4".toList := by decide

end ClassLift
