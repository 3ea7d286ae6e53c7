/-
  Classifying a token.

  1. A token with a state variant belongs to `states`, whatever follows.
  2. Otherwise its utility decides.  `text-` is shared by two categories: sizes, alignments and
     wrapping are typography, any other value is a colour.
  3. Otherwise the utility is looked up in a table of keys of two kinds: a key that ends in a hyphen
     stands for every utility that starts with it, any other key for exactly itself.  Of the keys
     that apply, the LONGEST decides, so `bg-blend-` wins over `bg-` and `flex` never catches
     `flex-row`.  The search therefore runs through the table longest key first.  The order of
     the table does not matter: two different keys of one length that apply to one utility would
     both be its prefix of that length.
  4. A utility without a key is `other`.
-/
import ClassLift.Category
import ClassLift.Token

namespace ClassLift

/-! ## The table -/

/-- A key of the table with the category it stands for. -/
structure UtilityKey where
  key : Text
  category : Category
  deriving DecidableEq, Repr

def keysOf (category : Category) (keys : List String) : List UtilityKey :=
  keys.map fun key => ⟨key.toList, category⟩

def utilityKeys : List UtilityKey :=
  keysOf .layout
    ["block", "inline", "flex", "grid", "hidden", "table", "contents", "container", "box-",
      "float-", "clear-", "isolate", "isolation-", "object-", "overflow-", "overscroll-", "static",
      "fixed", "absolute", "relative", "sticky", "inset-", "top-", "right-", "bottom-", "left-",
      "visible", "invisible", "collapse", "z-"] ++
  keysOf .flexboxGrid
    ["flex-", "grow", "shrink", "basis-", "order-", "grid-", "col-", "row-", "auto-cols-",
      "auto-rows-", "gap-", "justify-", "items-", "content-", "self-", "place-"] ++
  keysOf .spacing
    ["p-", "px-", "py-", "pt-", "pr-", "pb-", "pl-", "ps-", "pe-", "m-", "mx-", "my-", "mt-", "mr-",
      "mb-", "ml-", "ms-", "me-", "space-x-", "space-y-"] ++
  keysOf .sizing
    ["w-", "min-w-", "max-w-", "h-", "min-h-", "max-h-", "size-"] ++
  keysOf .typography
    ["font-", "text-", "tracking-", "leading-", "antialiased", "subpixel-antialiased", "italic",
      "not-italic", "normal-nums", "ordinal", "slashed-zero", "lining-nums", "oldstyle-nums",
      "proportional-nums", "tabular-nums", "diagonal-fractions", "stacked-fractions", "list-",
      "decoration-", "underline", "overline", "line-through", "no-underline", "uppercase",
      "lowercase", "capitalize", "normal-case", "truncate", "indent-", "align-", "whitespace-",
      "break-", "hyphens-", "line-clamp-"] ++
  keysOf .colors
    ["bg-", "from-", "via-", "to-", "accent-", "caret-"] ++
  keysOf .borders
    ["border", "border-", "rounded", "rounded-", "divide-", "ring-", "outline", "outline-"] ++
  keysOf .effects
    ["shadow", "shadow-", "opacity-", "mix-blend-", "bg-blend-", "blur", "blur-", "brightness-",
      "contrast-", "drop-shadow", "drop-shadow-", "grayscale", "hue-rotate-", "invert",
      "saturate-", "sepia", "backdrop-"] ++
  keysOf .transitions
    ["transition", "transition-", "duration-", "ease-", "delay-", "animate-"] ++
  keysOf .transforms
    ["scale-", "rotate-", "translate-", "skew-", "origin-", "transform"] ++
  keysOf .interactivity
    ["cursor-", "touch-", "select-", "resize", "resize-", "scroll-", "snap-", "appearance-",
      "pointer-events-", "will-change-"]

/-! ## Looking a utility up -/

/-- Whether the key stands for the utility: by its beginning if the key ends in a hyphen, in full
    otherwise. -/
def UtilityKey.applies (base : Text) (k : UtilityKey) : Bool :=
  if k.key.getLast? = some '-' then k.key.isPrefixOf base else base == k.key

/-- The keys, longest first; keys of one length keep their order. -/
def longestFirst (table : List UtilityKey) : List UtilityKey :=
  table.mergeSort fun a b => b.key.length ≤ a.key.length

/-- The category of the first key that applies (`_match_prefix`). -/
def firstApplicable (table : List UtilityKey) (base : Text) : Category :=
  ((table.find? (UtilityKey.applies base)).map UtilityKey.category).getD .other

def searchedKeys : List UtilityKey := longestFirst utilityKeys

/-- The category that the longest applicable key gives to a utility. -/
def categoryOfBase (base : Text) : Category := firstApplicable searchedKeys base

/-! ## Tokens -/

def textStem : Text := "text-".toList

/-- The values of `text-` that choose a size, an alignment or a way of wrapping. -/
def typographicValues : List Text :=
  ["xs", "sm", "base", "lg", "xl", "2xl", "3xl", "4xl", "5xl", "6xl", "7xl", "8xl", "9xl",
    "left", "center", "right", "justify", "start", "end",
    "wrap", "nowrap", "balance", "pretty", "ellipsis", "clip"].map String.toList

/-- The category of a utility, its variants left aside. -/
def classifyBase (base : Text) : Category :=
  match textStem.isPrefixOf? base with
  | some value => if typographicValues.contains value then .typography else .colors
  | none => categoryOfBase base

/-- The category of a token (`categorize_token`). -/
def classify (token : Text) : Category :=
  if hasStateVariant token then .states else classifyBase (Utility.ofToken token).base

example : classify "hover:p-4".toList = .states ∧ classify "text-lg".toList = .typography ∧
    classify "text-red-500".toList = .colors := by decide

def classifierLabel : Text := "TailwindClassifier()".toList

end ClassLift
