/-
  Rules: the stylesheet text that applies a list of utilities under one class.

      Flat                          Grouped
      .card {                       .card {
        @apply flex p-4;              /* Layout */
      }                               @apply flex;

                                      /* Spacing */
                                      @apply p-4;
                                    }

  A flat rule lists its tokens in the order given.  A grouped rule has one block for each bucket
  that holds a token: a comment with the title and a line with the tokens, an empty line between
  two blocks.  Known categories come in canonical order, unknown titles after them in the order
  given; sorting by rank is stable, so the order of the buckets decides nothing else.
-/
import ClassLift.Buckets
import ClassLift.ClassName

namespace ClassLift

def applyLine (tokens : List Text) : Text :=
  "  @apply ".toList ++ joinSpaced tokens ++ [';']

/-- The line that opens a rule. -/
def selectorLine (name : Text) : Text := '.' :: sanitize name ++ " \x7b".toList

/-- A rule with all tokens on one line; nothing to apply gives no rule at all
    (`generate_flat`). -/
def flatRule (name : Text) (tokens : List Text) : Text :=
  match tokens with
  | [] => []
  | _ => joinWith ['\n'] [selectorLine name, applyLine tokens, ['\x7d'], []]

/-- The buckets that hold a token, in the order in which a grouped rule shows them. -/
def ruleBlocks (buckets : Buckets Text) : List (Text × List Text) :=
  (buckets.entries.mergeSort fun a b => Category.rank a.1 ≤ Category.rank b.1).filter
    fun block => !block.2.isEmpty

def blockLines (block : Text × List Text) : List Text :=
  ["  /* ".toList ++ block.1 ++ " */".toList, applyLine block.2]

/-- A rule with a block for each bucket; no buckets at all give no rule (`generate_grouped`). -/
def groupedRule (name : Text) (buckets : Buckets Text) : Text :=
  match buckets.entries with
  | [] => []
  | _ =>
    joinWith ['\n']
      (selectorLine name ::
        (List.intersperse [[]] ((ruleBlocks buckets).map blockLines)).flatten ++ [['\x7d'], []])

/-- Grouping is for more than one bucket with tokens, and only on request (`should_group`). -/
def shouldGroup (buckets : Buckets Text) (requested : Bool) : Bool :=
  requested && 1 < buckets.populated

/-- The rule in the layout that fits (`generate_output`). -/
def rule (name : Text) (tokens : List Text) (buckets : Buckets Text) (requested : Bool) : Text :=
  if shouldGroup buckets requested then groupedRule name buckets else flatRule name tokens

def generatorLabel : Text := "RuleGenerator()".toList

end ClassLift
