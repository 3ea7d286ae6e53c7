/-
  The layout of a document does not matter.

  Two documents that differ in the blanks around their lines only — other indentation, blanks at the
  ends of lines, carriage returns in front of the line feeds — are searched by two routes that look at
  different texts: the requested line is searched as it is, the windows around it are made of trimmed
  lines.  Both runs are followed side by side.

  1. **On the line.**  The attribute of a line is that of the trimmed line (`findAttribute_strip`), so
     what is told of it (`Sighting`) depends on the trimmed line only.

  2. **In windows.**  Two windows with the same text that grow by lines with the same trimmed text stay
     windows with the same text.  By induction on the lines to come they stop at the same line, with the
     same answer (`sighting_locateInWindow`).  The starts and the last line that may be reached depend on
     the NUMBER of lines only, so all starts are tried in step.

  3. **Plans** are made of the value that was found, wherever it stands (`planAt_relocate`).

  Of the two routes each could do without the other on one line: the window of the requested line alone
  finds what the line itself does, in the same place (`sighting_ofLine`).  So a search that may not leave
  the requested line finds nothing in its second half.
-/
import ClassLift.Proofs.Scan

namespace ClassLift

/-! ## What is told of a location -/

/-- What is told of an attribute and of the lines in which it was found, without the offsets: those
    depend on the layout. -/
structure Sighting where
  form : Form
  fullMatch : Text
  value : Text
  kind : Kind
  quote : Quote
  lineIndex : Nat
  lineCount : Nat
  deriving DecidableEq, Repr

/-- What is told of an attribute that was found in some lines. -/
def Attribute.sighting (a : Attribute) (lineIndex lineCount : Nat) : Sighting :=
  ⟨a.form, a.fullMatch, a.value, a.kind, a.quote, lineIndex, lineCount⟩

/-- What is told of a location. -/
def Location.sighting (l : Location) : Sighting := l.found.sighting l.lineIndex l.lineCount

/-- What is told of a plan, without the place. -/
structure Plan.Outcome where
  className : Text
  tokens : List Text
  extracted : List Text
  preserved : List Text
  buckets : Buckets Category
  css : Text
  grouped : Bool
  belowThreshold : Bool
  replacementValue : Text

def Plan.outcome (p : Plan) : Plan.Outcome :=
  ⟨p.className, p.tokens, p.extracted, p.preserved, p.buckets, p.css, p.grouped, p.belowThreshold,
    p.replacementValue⟩

@[simp]
theorem map_trimmed_documentLines (text : Text) :
    (documentLines text).map Line.trimmed = (lines text).map strip :=
  map_trimmed_layOut 0 (lines text)

/-! ## On the line -/

/-- What is told of the attribute on a line depends on the trimmed line only. -/
theorem sighting_locateOnLine (n : Nat) (l : Line) :
    (locateOnLine n l).map Location.sighting =
      (findAttribute l.trimmed).map (Attribute.sighting · n 1) := by
  obtain ⟨front, behind, -, hstrip⟩ := findAttribute_strip l.raw
  rw [locateOnLine, Option.map_map, hstrip, Option.map_map]
  rfl

/-- What is told of the attribute in a window depends on the text of the window only. -/
theorem sighting_locate? (w : Window) (start count : Nat) :
    (w.locate? start count).map Location.sighting =
      (findAttribute w.text).map (Attribute.sighting · start count) := by
  rw [Window.locate?, Option.map_map]
  rfl

/-- **The line and the window of that line** tell the same and give the same place; the offsets in the
    line are those in the window behind the leading blanks. -/
theorem sighting_ofLine (n : Nat) (l : Line) :
    (locateOnLine n l).map (fun found => (found.sighting, found.documentStart, found.documentEnd,
        found.found.valueStart, found.found.valueEnd)) =
      ((Window.ofLine l).locate? n 1).map fun found => (found.sighting, found.documentStart,
        found.documentEnd, leadingBlanks l.raw + found.found.valueStart,
        leadingBlanks l.raw + found.found.valueEnd) := by
  obtain ⟨front, behind, hfront, hstrip⟩ := findAttribute_strip l.raw
  rw [locateOnLine, Window.locate?, hstrip, Option.map_map, Option.map_map, Option.map_map]
  refine Option.map_congr fun a ha => ?_
  obtain ⟨-, hle, hlt, -, -⟩ := (findAttribute_occursIn (Option.mem_def.mp ha)).1.bounds
  have hstart : (Window.ofLine l).toDocument a.valueStart =
      l.offset + (leadingBlanks l.raw + a.valueStart) := Window.toDocument_ofLine_of_le (by omega)
  have hend : (Window.ofLine l).toDocument a.valueEnd =
      l.offset + (leadingBlanks l.raw + a.valueEnd) := Window.toDocument_ofLine_of_le (by omega)
  simp only [Function.comp_apply, hstart, hend, Attribute.valueStart_between,
    Attribute.valueEnd_between, hfront]
  rfl

/-! ## In windows -/

section

variable {w w' : Window} {ls ls' : List Line}

/-- **Two windows in step**: with the same text, and behind them lines with the same trimmed texts,
    they stop at the same line and tell the same. -/
theorem sighting_locateInWindow (start count : Nat) (hw : w.text = w'.text)
    (hls : ls.map Line.trimmed = ls'.map Line.trimmed) :
    (locateInWindow start count w ls).map Location.sighting =
      (locateInWindow start count w' ls').map Location.sighting := by
  have hhere : (w.locate? start count).map Location.sighting =
      (w'.locate? start count).map Location.sighting := by
    rw [sighting_locate?, sighting_locate?, hw]
  induction ls generalizing ls' w w' count with
  | nil =>
    obtain rfl : ls' = [] := List.map_eq_nil_iff.mp hls.symm
    exact hhere
  | cons l ls ih =>
    obtain ⟨l', ls', rfl, hl, hrest⟩ := List.map_eq_cons_iff.mp hls.symm
    have hpush : (w.push l).text = (w'.push l').text := by
      show w.text ++ ' ' :: l.trimmed = w'.text ++ ' ' :: l'.trimmed
      rw [hw, hl]
    rw [locateInWindow, locateInWindow, Option.map_or, Option.map_or, hhere,
      ih (count + 1) hpush hrest.symm]
    rw [sighting_locate?, sighting_locate?, hpush]

theorem sighting_locateFrom (last start : Nat) (hls : ls.map Line.trimmed = ls'.map Line.trimmed) :
    (locateFrom ls last start).map Location.sighting =
      (locateFrom ls' last start).map Location.sighting := by
  have hdrop : (ls.drop start).map Line.trimmed = (ls'.drop start).map Line.trimmed := by
    rw [List.map_drop, List.map_drop, hls]
  rw [locateFrom, locateFrom]
  cases hlines : ls.drop start with
  | nil =>
    rw [hlines] at hdrop
    rw [List.map_eq_nil_iff.mp hdrop.symm]
  | cons l following =>
    rw [hlines] at hdrop
    obtain ⟨l', following', hlines', hl, hrest⟩ := List.map_eq_cons_iff.mp hdrop.symm
    rw [hlines']
    refine sighting_locateInWindow start 1 hl.symm ?_
    rw [List.map_take, List.map_take, hrest]

end

/-! ## At a line of a document -/

section

variable {t t' : Text}

theorem sighting_locateExactly (h : (lines t).map strip = (lines t').map strip) (requested : Int) :
    (locateExactly t requested).map Location.sighting =
      (locateExactly t' requested).map Location.sighting := by
  rw [← map_trimmed_documentLines, ← map_trimmed_documentLines] at h
  have hline := congrArg (·[requested.toNat]?) h
  simp only [List.getElem?_map] at hline
  have htold : ∀ found : Option Line,
      (found.bind (locateOnLine requested.toNat)).map Location.sighting =
        (found.map Line.trimmed).bind fun trimmed =>
          (findAttribute trimmed).map (Attribute.sighting · requested.toNat 1) := by
    intro found
    cases found with
    | none => rfl
    | some l => exact sighting_locateOnLine requested.toNat l
  rw [locateExactly, locateExactly]
  split
  · rfl
  · rw [htold, htold, hline]

theorem sighting_locateAround (h : (lines t).map strip = (lines t').map strip) (requested : Int)
    (lookaround : Nat) :
    (locateAround t requested lookaround).map Location.sighting =
      (locateAround t' requested lookaround).map Location.sighting := by
  rw [← map_trimmed_documentLines, ← map_trimmed_documentLines] at h
  have hlength : (documentLines t).length = (documentLines t').length := by
    have hmaps := congrArg List.length h
    rwa [List.length_map, List.length_map] at hmaps
  simp only [locateAround, List.map_findSome?, hlength]
  refine congrArg (List.findSome? · _) (funext fun start => ?_)
  exact sighting_locateFrom _ start h

/-- **One search tells what the other tells.** -/
theorem sighting_locate (h : (lines t).map strip = (lines t').map strip) (requested : Int)
    (lookaround : Nat) :
    (locate t requested lookaround).map Location.sighting =
      (locate t' requested lookaround).map Location.sighting := by
  rw [locate, locate, Option.map_or, Option.map_or, sighting_locateExactly h,
    sighting_locateAround h]

/-! ## Plans -/

/-- A plan depends on the location through the value that was found, and holds the location itself. -/
theorem planAt_relocate (s : Settings) (r : Request) (name : Text) {location location' : Location}
    (h : location'.found.value = location.found.value) :
    planAt s r name location' =
      (planAt s r name location).map fun p => { p with location := location' } := by
  simp only [planAt, h]
  split
  · rfl
  · split
    · rfl
    · rfl

theorem outcome_plan (h : (lines t).map strip = (lines t').map strip) (s : Settings) (r : Request) :
    (plan s t r).map Plan.outcome = (plan s t' r).map Plan.outcome := by
  have htold := sighting_locate h r.line s.lookaround.toNat
  rw [plan, plan]
  split
  case h_1 => rfl
  case h_2 name _ =>
    cases hfound : locate t r.line s.lookaround.toNat with
    | none =>
      rw [hfound] at htold
      rw [Option.map_eq_none_iff.mp htold.symm]
    | some location =>
      rw [hfound] at htold
      obtain ⟨location', hfound', hsame⟩ := Option.map_eq_some_iff.mp htold.symm
      have hvalue : location'.found.value = location.found.value := congrArg Sighting.value hsame
      rw [hfound']
      show (planAt s r name location).map Plan.outcome = (planAt s r name location').map Plan.outcome
      rw [planAt_relocate s r name hvalue]
      cases planAt s r name location with
      | error e => rfl
      | ok p => rfl

end

/-! ## Without looking around -/

/-- A search around a line that may not leave it finds nothing more than the line itself. -/
theorem locateAround_zero {text : Text} {requested : Int} (h : locateExactly text requested = none) :
    locateAround text requested 0 = none := by
  rw [locateAround, List.findSome?_eq_none_iff]
  intro start hstart
  obtain ⟨hlow, hhigh⟩ := List.mem_range'_1.mp hstart
  -- the one start is the requested line, which is also the last line
  obtain ⟨hnonneg, hindex, hlast⟩ : 0 ≤ requested ∧ start = requested.toNat ∧
      windowLast (documentLines text).length 0 requested - start = 0 := by
    rw [windowLast]
    omega
  subst hindex
  rw [locateFrom]
  split
  case h_1 => rfl
  case h_2 l following hdrop =>
    have hl : (documentLines text)[requested.toNat]? = some l := by
      rw [← List.head?_drop, hdrop]
      rfl
    rw [locateExactly, if_neg (by omega), hl] at h
    have hsame := sighting_ofLine requested.toNat l
    rw [show locateOnLine requested.toNat l = none from h, Option.map_none] at hsame
    rw [hlast, List.take_zero]
    exact Option.map_eq_none_iff.mp hsame.symm

/-! ## The layout -/

/-- **The layout does not matter.**  On documents with the same trimmed lines the search at any line
    finds an attribute on both or on neither and tells the same of it, and plans end in the same error
    or the same outcome.

    On one line the two routes of the search agree: they tell the same and give the same place, and the
    offsets differ by the leading blanks.  Hence without lines to look around in, the second route finds
    nothing where the first did not. -/
theorem layout_does_not_matter {t t' : Text} (h : (lines t).map strip = (lines t').map strip) :
    (∀ (requested : Int) (lookaround : Nat),
      (locate t requested lookaround).map Location.sighting =
        (locate t' requested lookaround).map Location.sighting) ∧
    (∀ (s : Settings) (r : Request),
      (plan s t r).map Plan.outcome = (plan s t' r).map Plan.outcome) ∧
    (∀ (n : Nat) (l : Line),
      (locateOnLine n l).map (fun found => (found.sighting, found.documentStart, found.documentEnd,
          found.found.valueStart, found.found.valueEnd)) =
        ((Window.ofLine l).locate? n 1).map fun found => (found.sighting, found.documentStart,
          found.documentEnd, leadingBlanks l.raw + found.found.valueStart,
          leadingBlanks l.raw + found.found.valueEnd)) ∧
    (∀ (text : Text) (requested : Int), locateExactly text requested = none →
      locateAround text requested 0 = none) :=
  ⟨sighting_locate h, outcome_plan h, sighting_ofLine, fun _ _ => locateAround_zero⟩

/-- The wrapped document, indented otherwise, with carriage returns and blanks at the ends of lines. -/
def relaidMarkup : Text :=
  "  <div \r\n    class\r\n= \t\r\n \"text-lg\r\n\t\r\nhover:p-1 text-red-500\r\n\" id='x'>".toList

/-- From its last line the wrapped document gives one plan in either layout, and without looking around
    none. -/
theorem layout_does_not_matter_wrapped :
    (lines wrappedMarkup).map strip = (lines relaidMarkup).map strip ∧
    (locate wrappedMarkup 5 4).map Location.sighting =
      (locate relaidMarkup 5 4).map Location.sighting ∧
    ((plan {} relaidMarkup wrappedRequest).toOption.map Plan.replacementValue) =
      some "card hover:p-1".toList ∧
    locateAround relaidMarkup 5 0 = none := by
  have hsame : (lines wrappedMarkup).map strip = (lines relaidMarkup).map strip := by
    decide +kernel
  obtain ⟨hlocate, hplan, -, hzero⟩ := layout_does_not_matter hsame
  refine ⟨hsame, hlocate 5 4, ?_, hzero relaidMarkup 5 (by decide +kernel)⟩
  -- the plan is computed on the other document
  have hvalue : (plan {} wrappedMarkup wrappedRequest).toOption.map Plan.replacementValue =
      some "card hover:p-1".toList := by
    decide +kernel
  have hoption : ∀ x : Except PlanError Plan, x.toOption.map Plan.replacementValue =
      (x.map Plan.outcome).toOption.map Plan.Outcome.replacementValue := by
    intro x
    cases x with
    | error e => rfl
    | ok p => rfl
  rw [hoption, ← hplan {} wrappedRequest, ← hoption]
  exact hvalue

end ClassLift
