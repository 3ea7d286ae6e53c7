/-
  Finding an attribute at a line of a document.

  1. **The exact line** comes first: an attribute on the requested line is the answer.

  2. **Windows.**  An attribute may be wrapped over several lines.  A window is some neighbouring
     lines, each trimmed, joined with one space; it is text like any other line, so the same search
     finds attributes in it.  Windows start at the lines from `lookaround` above the requested one
     down to it, and grow downwards a line at a time to `lookaround` below it.  The first window
     with an attribute is the answer: the topmost start, and for it the fewest lines.

  3. **Back to the document.**  A window remembers for each of its lines where the trimmed line
     starts in the window and in the document.  An offset in the window lies in the last line that
     starts at or before it; a joining space counts to the line before it and maps to the end of
     its trimmed text.  So a span of the window maps to a span of the document that holds the same
     characters, and in place of each joining space the line break and the blanks around it.
-/
import ClassLift.Attribute

namespace ClassLift

/-! ## Lines with their offsets -/

/-- A line of a document and where it starts. -/
structure Line where
  offset : Nat
  raw : Text
  deriving DecidableEq, Repr

/-- The lines given, the first of them at `offset`, with a line feed between every two. -/
def Line.layOut (offset : Nat) : List Text → List Line
  | [] => []
  | raw :: rest => ⟨offset, raw⟩ :: Line.layOut (offset + raw.length + 1) rest

def documentLines (text : Text) : List Line := Line.layOut 0 (lines text)

/-! ## Windows -/

/-- A line of a window: where its trimmed text starts in the window and in the document, and how
    long that text is. -/
structure Segment where
  windowStart : Nat
  documentStart : Nat
  length : Nat
  deriving DecidableEq, Repr

/-- Where an offset that falls into a segment lies in the document. -/
def Segment.toDocument (s : Segment) (offset : Nat) : Nat :=
  s.documentStart + min (offset - s.windowStart) s.length

/-- Some neighbouring lines, trimmed and joined with spaces; the last line's segment is first. -/
structure Window where
  text : Text
  segments : List Segment
  deriving DecidableEq, Repr

namespace Window

/-- The segment of a line that is added at an offset of the window. -/
def segmentOf (windowStart : Nat) (l : Line) : Segment :=
  ⟨windowStart, l.offset + leadingBlanks l.raw, (strip l.raw).length⟩

def ofLine (l : Line) : Window := ⟨strip l.raw, [segmentOf 0 l]⟩

def push (w : Window) (l : Line) : Window :=
  ⟨w.text ++ ' ' :: strip l.raw, segmentOf (w.text.length + 1) l :: w.segments⟩

/-- The window of a line and the lines that follow it. -/
def ofLines (first : Line) (rest : List Line) : Window := rest.foldl push (ofLine first)

/-- Where an offset of the window lies in the document (`_to_document`). -/
def toDocument (w : Window) (offset : Nat) : Nat :=
  ((w.segments.find? fun s => s.windowStart ≤ offset).map (Segment.toDocument · offset)).getD 0

end Window

example : (Window.ofLines ⟨0, "  a b ".toList⟩ [⟨7, " c".toList⟩]).text = "a b c".toList ∧
    (Window.ofLines ⟨0, "  a b ".toList⟩ [⟨7, " c".toList⟩]).toDocument 4 = 8 := by decide

/-! ## Locations -/

/-- An attribute found in a document.  The offsets of `found` refer to the line or window in
    which it was found; those of the location refer to the document. -/
structure Location where
  found : Attribute
  lineIndex : Nat
  lineCount : Nat
  documentStart : Nat
  documentEnd : Nat
  deriving DecidableEq, Repr

namespace Location

/-- Whether the attribute was put together from several lines. -/
def isMultiline (l : Location) : Bool := 1 < l.lineCount

/-- What the document holds between the ends of the value. -/
def span (l : Location) (text : Text) : Text := (text.take l.documentEnd).drop l.documentStart

/-- The document with another value in place of the one found (`replace_in`). -/
def replaceIn (l : Location) (text value : Text) : Text :=
  text.take l.documentStart ++ value ++ text.drop l.documentEnd

end Location

/-- The attribute that stands on one line. -/
def locateOnLine (index : Nat) (l : Line) : Option Location :=
  (findAttribute l.raw).map fun a =>
    ⟨a, index, 1, l.offset + a.valueStart, l.offset + a.valueEnd⟩

/-- The attribute of a window that starts at line `start` and has `count` lines. -/
def Window.locate? (w : Window) (start count : Nat) : Option Location :=
  (findAttribute w.text).map fun a =>
    ⟨a, start, count, w.toDocument a.valueStart, w.toDocument a.valueEnd⟩

/-- The attribute of the smallest window that has one: `w`, which starts at line `start` and has
    `count` lines, or `w` with some of the lines that follow it. -/
def locateInWindow (start : Nat) : Nat → Window → List Line → Option Location
  | count, w, [] => w.locate? start count
  | count, w, l :: following =>
    (w.locate? start count).or (locateInWindow start (count + 1) (w.push l) following)

/-- The attribute of the smallest window that starts at a given line and reaches no further than
    the line `last`. -/
def locateFrom (all : List Line) (last start : Nat) : Option Location :=
  match all.drop start with
  | [] => none
  | l :: following => locateInWindow start 1 (Window.ofLine l) (following.take (last - start))

/-- The lines at which a window for the requested line may start, from the top. -/
def windowStarts (count lookaround : Nat) (requested : Int) : List Nat :=
  let first := (requested - lookaround).toNat
  let stop := (min requested (count - 1) + 1).toNat
  List.range' first (stop - first)

/-- The last line that a window for the requested line may reach. -/
def windowLast (count lookaround : Nat) (requested : Int) : Nat :=
  (min (count - 1 : Int) (requested + lookaround)).toNat

def locateExactly (text : Text) (requested : Int) : Option Location :=
  if requested < 0 then none
  else ((documentLines text)[requested.toNat]?).bind (locateOnLine requested.toNat)

/-- The attribute of the first window around the requested line that has one. -/
def locateAround (text : Text) (requested : Int) (lookaround : Nat) : Option Location :=
  let all := documentLines text
  (windowStarts all.length lookaround requested).findSome?
    (locateFrom all (windowLast all.length lookaround requested))

/-- The attribute at a line of a document (`find_class_attribute_at_position`); lines are counted from
    zero, and the requested one may lie outside the document. -/
def locate (text : Text) (requested : Int) (lookaround : Nat) : Option Location :=
  (locateExactly text requested).or (locateAround text requested lookaround)

example : (locate "<i class=\"a\n b\">".toList 0 5).map
    (fun l => l.span "<i class=\"a\n b\">".toList) = some "a\n b".toList := by decide +kernel

/-! ## Locators -/

/-- The look-around of a locator that is made without one. -/
def usualLookaround : Int := 5

/-- How many lines a locator looks around; a negative look-around counts as none. -/
def linesAround (lookaround : Int) : Nat := lookaround.toNat

/-- How a locator with a look-around shows itself. -/
def locatorLabel (lookaround : Int) : Text :=
  "AttributeLocator(lookaround=".toList ++ decimal (linesAround lookaround) ++ [')']

end ClassLift
