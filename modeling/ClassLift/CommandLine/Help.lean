/-
  The help texts of the command line.

  There is one for the program and one for each command.  The usage of a text is its first
  paragraph; it is also shown in front of every complaint about the arguments.
-/
import ClassLift.Text.Lines

namespace ClassLift.CommandLine

/-- Who speaks: the program, or one of its commands. -/
inductive Speaker
  | program
  | scan
  | extract
  deriving DecidableEq, Repr

namespace Speaker

def title : Speaker → Text
  | program => "shrink-tailwind".toList
  | scan => "shrink-tailwind scan".toList
  | extract => "shrink-tailwind extract".toList

def usageLines : Speaker → List String
  | program => ["usage: shrink-tailwind [-h] \x7bscan,extract\x7d ..."]
  | scan => ["usage: shrink-tailwind scan [-h] [--threshold THRESHOLD] file"]
  | extract =>
    ["usage: shrink-tailwind extract [-h] [--flat] [--preserve-states] [--force]",
      "                               [--write] [--css CSS]",
      "                               file line name"]

/-- What follows the usage, line by line. -/
def detailLines : Speaker → List String
  | program =>
    ["Extract long Tailwind class lists into @apply rules",
      "",
      "positional arguments:",
      "  \x7bscan,extract\x7d",
      "    scan          List lines with long class lists",
      "    extract       Extract one class list",
      "",
      "options:",
      "  -h, --help      show this help message and exit"]
  | scan =>
    ["positional arguments:",
      "  file                  Markup file to scan",
      "",
      "options:",
      "  -h, --help            show this help message and exit",
      "  --threshold THRESHOLD",
      "                        Minimum class count (default: CLASS_THRESHOLD)"]
  | extract =>
    ["positional arguments:",
      "  file               Markup file",
      "  line               1-based line number",
      "  name               Class name for the generated rule",
      "",
      "options:",
      "  -h, --help         show this help message and exit",
      "  --flat             Do not group classes by category",
      "  --preserve-states  Keep state variants (hover:, focus:, ...) inline",
      "  --force            Extract even below the threshold",
      "  --write            Rewrite the file and append to the stylesheet",
      "  --css CSS          Stylesheet path (default: TARGET_CSS_FILE)"]

/-- Lines as text, each with its line feed. -/
def ofLines (rows : List String) : Text := rows.flatMap fun row => row.toList ++ ['\n']

def usage (s : Speaker) : Text := ofLines s.usageLines

def help (s : Speaker) : Text := ofLines (s.usageLines ++ "" :: s.detailLines)

/-- A complaint about the arguments. -/
def complaint (s : Speaker) (message : Text) : Text :=
  s.usage ++ s.title ++ ": error: ".toList ++ message ++ ['\n']

end Speaker

end ClassLift.CommandLine
