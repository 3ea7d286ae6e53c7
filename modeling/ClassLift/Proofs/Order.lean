/-
  The order of extractions does not matter.

  Several lines of a document are to lose their class lists, one after another, and every extraction
  works on the text that the one before it left.  All offsets behind an edit move, so no plan of one
  order is literally a plan of another.  What does not move:

  1. **One step.**  An extraction for a line with an attribute of its own changes that line only.
     Every other line keeps its attribute, so it keeps its plan but for the place, and that plan
     would put the same line there (`plan_elsewhere`).

  2. **A run.**  By induction on the requests a run succeeds, with these very plans, and its last
     text is told line by line: on a line that was asked for stands what its own extraction ALONE
     would have put there, on every other line what was there before (`IsRewriteOf`,
     `carryOut_eq_ok`).

  3. **Order.**  That description does not mention the order, and it fixes the text
     (`IsRewriteOf.unique`).  So no commutation of two edits is ever needed.
-/
import Mathlib.Data.List.Forall2
import ClassLift.Proofs.OneLine

namespace ClassLift

/-! ## Requests one after another -/

/-- Plans and carries out requests one after another, each on the text that the one before it left:
    the plans, in the order of the requests, and the last text. -/
def carryOut (s : Settings) : Text → List Request → Except PlanError (List Plan × Text)
  | text, [] => .ok ([], text)
  | text, r :: rest =>
    match plan s text r with
    | .error e => .error e
    | .ok p =>
      match carryOut s (p.apply text) rest with
      | .error e => .error e
      | .ok (ps, final) => .ok (p :: ps, final)

/-- The request is for a line of the text that has an attribute of its own. -/
def Request.HitsOwnLine (r : Request) (text : Text) : Prop :=
  ∃ (n : Nat) (l : Text) (a : Attribute),
    r.line = n ∧ (lines text)[n]? = some l ∧ findAttribute l = some a

/-- Two plans that move the same classes under the same name, wherever in a document. -/
structure Plan.Agrees (p q : Plan) : Prop where
  css : p.css = q.css
  tokens : p.tokens = q.tokens
  extracted : p.extracted = q.extracted
  preserved : p.preserved = q.preserved
  replacementValue : p.replacementValue = q.replacementValue

theorem Plan.Agrees.refl (p : Plan) : p.Agrees p := ⟨rfl, rfl, rfl, rfl, rfl⟩

theorem Plan.Agrees.trans {p q v : Plan} (h : p.Agrees q) (h' : q.Agrees v) : p.Agrees v :=
  ⟨h.css.trans h'.css, h.tokens.trans h'.tokens, h.extracted.trans h'.extracted,
    h.preserved.trans h'.preserved, h.replacementValue.trans h'.replacementValue⟩

variable {s : Settings} {text final : Text} {r r' : Request} {p q : Plan}

/-! ## One step -/

/-- On the line that was asked for, carrying a plan out puts a line of its own making. -/
theorem getElem?_lines_apply (hp : IsPlanFor s text r p) {n : Nat} {l : Text} {a : Attribute}
    (hline : r.line = n) (hl : (lines text)[n]? = some l) (ha : findAttribute l = some a) :
    (lines (p.apply text))[n]? = some (Attribute.line { a with raw := p.replacementValue }) := by
  obtain ⟨hn, -⟩ := List.getElem?_eq_some_iff.mp hl
  rw [hp.lines_apply hline hl ha, List.getElem?_set_self hn]

/-- **One step**: every other line that has an attribute of its own keeps it and keeps its plan, and
    that plan puts the same line there as before the step. -/
theorem plan_elsewhere (hp : IsPlanFor s text r p) (hr : r.HitsOwnLine text)
    (hq : IsPlanFor s text r' q) (hr' : r'.HitsOwnLine text) (hne : r.line ≠ r'.line) :
    r'.HitsOwnLine (p.apply text) ∧ ∃ q', IsPlanFor s (p.apply text) r' q' ∧ q'.Agrees q ∧
      ∀ m : Nat, r'.line = m →
        (lines (q'.apply (p.apply text)))[m]? = (lines (q.apply text))[m]? := by
  obtain ⟨n, l, a, hn, hl, ha⟩ := hr
  obtain ⟨m, l', a', hm, hl', ha'⟩ := hr'
  have hnm : n ≠ m := by
    rintro rfl
    exact hne (hn.trans hm.symm)
  have hkept : (lines (p.apply text))[m]? = some l' := by
    rw [hp.lines_apply hn hl ha, List.getElem?_set_ne hnm, hl']
  have hlocated : locate (p.apply text) r'.line s.lookaround.toNat =
      some ⟨a', m, 1, lineOffset (p.apply text) m + a'.valueStart,
        lineOffset (p.apply text) m + a'.valueEnd⟩ := by
    rw [hm, locate_of_line hkept ha']
  have hq' := hq.relocate hlocated (by rw [hq.location_eq hm hl' ha'])
  refine ⟨⟨m, l', a', hm, hkept, ha'⟩, _, hq', ⟨rfl, rfl, rfl, rfl, rfl⟩, fun k hk => ?_⟩
  obtain rfl : m = k := by
    have hmk : (m : Int) = k := hm.symm.trans hk
    omega
  rw [getElem?_lines_apply hq' hm hkept ha', getElem?_lines_apply hq hm hl' ha']
  rfl

/-! ## A run -/

/-- The text after the extractions, told line by line and without their order: on a line that is
    asked for stands what its own extraction alone puts there, on any other what was there. -/
structure IsRewriteOf (s : Settings) (text : Text) (rs : List Request) (final : Text) : Prop where
  changed : ∀ r ∈ rs, ∀ p, plan s text r = .ok p → ∀ n : Nat, r.line = n →
    (lines final)[n]? = (lines (p.apply text))[n]?
  kept : ∀ n : Nat, (∀ r ∈ rs, r.line ≠ n) → (lines final)[n]? = (lines text)[n]?

/-- **A run**: it succeeds and leaves the text that is told above.  Its plans agree with those on a
    text `origin`, if the requests have such plans to begin with; the induction changes `text` and
    leaves `origin` alone. -/
theorem carryOut_eq_ok {origin : Text} {rs : List Request}
    (hdistinct : (rs.map Request.line).Nodup) (hown : ∀ r ∈ rs, r.HitsOwnLine text)
    (hplans : ∀ r ∈ rs, ∃ p q, plan s text r = .ok p ∧ plan s origin r = .ok q ∧ p.Agrees q) :
    ∃ ps final, carryOut s text rs = .ok (ps, final) ∧
      List.Forall₂ (fun r p => ∃ q, plan s origin r = .ok q ∧ p.Agrees q) rs ps ∧
      IsRewriteOf s text rs final := by
  induction rs generalizing text with
  | nil =>
    refine ⟨[], text, rfl, List.Forall₂.nil, ?_, fun n _ => rfl⟩
    intro r hr
    exact absurd hr List.not_mem_nil
  | cons r rs ih =>
    obtain ⟨p, v, hp, hv, hpv⟩ := hplans r List.mem_cons_self
    have hfirst : IsPlanFor s text r p := plan_eq_ok_iff.mp hp
    have hrown : r.HitsOwnLine text := hown r List.mem_cons_self
    rw [List.map_cons, List.nodup_cons] at hdistinct
    have hne : ∀ r' ∈ rs, r.line ≠ r'.line := by
      intro r' hr' heq
      exact hdistinct.1 (heq ▸ List.mem_map_of_mem hr')
    -- what the first step does to each of the other requests
    have hothers : ∀ r' ∈ rs, ∀ q, plan s text r' = .ok q → r'.HitsOwnLine (p.apply text) ∧
        ∃ q', plan s (p.apply text) r' = .ok q' ∧ q'.Agrees q ∧ ∀ m : Nat, r'.line = m →
          (lines (q'.apply (p.apply text)))[m]? = (lines (q.apply text))[m]? := by
      intro r' hr' q hq
      obtain ⟨hown', q', hq', hagrees, hline⟩ := plan_elsewhere hfirst hrown
        (plan_eq_ok_iff.mp hq) (hown r' (List.mem_cons_of_mem r hr')) (hne r' hr')
      exact ⟨hown', q', plan_eq_ok_iff.mpr hq', hagrees, hline⟩
    have hown' : ∀ r' ∈ rs, r'.HitsOwnLine (p.apply text) := by
      intro r' hr'
      obtain ⟨q, -, hq, -, -⟩ := hplans r' (List.mem_cons_of_mem r hr')
      exact (hothers r' hr' q hq).1
    have hplans' : ∀ r' ∈ rs, ∃ q' v, plan s (p.apply text) r' = .ok q' ∧
        plan s origin r' = .ok v ∧ q'.Agrees v := by
      intro r' hr'
      obtain ⟨q, v, hq, hv, hqv⟩ := hplans r' (List.mem_cons_of_mem r hr')
      obtain ⟨-, q', hq', hagrees', -⟩ := hothers r' hr' q hq
      exact ⟨q', v, hq', hv, hagrees'.trans hqv⟩
    obtain ⟨ps, final, hrun, hagree, hrewrite⟩ := ih hdistinct.2 hown' hplans'
    obtain ⟨n, l, a, hn, hl, ha⟩ := hrown
    refine ⟨p :: ps, final, ?_, List.Forall₂.cons ⟨v, hv, hpv⟩ hagree, ?_, ?_⟩
    · rw [carryOut, hp]
      simp only [hrun]
    · intro r' hr' q hq m hm
      rcases List.mem_cons.mp hr' with rfl | hr'
      · -- the line of the first request: the rest of the run leaves it alone
        obtain rfl : p = q := Except.ok.inj (hp.symm.trans hq)
        exact hrewrite.kept m fun r' hr' heq => hne r' hr' (hm.trans heq.symm)
      · obtain ⟨-, q', hq', -, hline⟩ := hothers r' hr' q hq
        rw [hrewrite.changed r' hr' q' hq' m hm, hline m hm]
    · intro m hm
      have hnm : n ≠ m := by
        rintro rfl
        exact hm r List.mem_cons_self hn
      rw [hrewrite.kept m fun r' hr' => hm r' (List.mem_cons_of_mem r hr'),
        hfirst.lines_apply hn hl ha, List.getElem?_set_ne hnm]

/-! ## Order -/

/-- The description of the last text fixes it, whatever the order of the requests. -/
theorem IsRewriteOf.unique {rs order : List Request} {final' : Text} (horder : order.Perm rs)
    (hplans : ∀ r ∈ rs, ∃ p, plan s text r = .ok p)
    (h : IsRewriteOf s text rs final) (h' : IsRewriteOf s text order final') : final' = final := by
  have hsame : lines final' = lines final := by
    refine List.ext_getElem? fun n => ?_
    by_cases hasked : ∃ r ∈ rs, r.line = n
    · obtain ⟨r, hr, hn⟩ := hasked
      obtain ⟨p, hp⟩ := hplans r hr
      rw [h.changed r hr p hp n hn, h'.changed r (horder.mem_iff.mpr hr) p hp n hn]
    · have hfree : ∀ r ∈ rs, r.line ≠ n := fun r hr hn => hasked ⟨r, hr, hn⟩
      rw [h.kept n hfree, h'.kept n fun r hr => hfree r (horder.mem_iff.mp hr)]
  rw [← joinWith_lines final', hsame, joinWith_lines]

/-- **The order of extractions does not matter.**  Requests for different lines that have
    attributes of their own, each of which can be met by itself, can be met one after another in
    every order.  Each of them gets the rule, the tokens and the new value that it gets by itself,
    and every order ends in the same text. -/
theorem carryOut_order_irrelevant {rs : List Request} (hdistinct : (rs.map Request.line).Nodup)
    (hown : ∀ r ∈ rs, r.HitsOwnLine text) (hplans : ∀ r ∈ rs, ∃ p, plan s text r = .ok p) :
    ∃ final, ∀ order : List Request, order.Perm rs →
      ∃ ps, carryOut s text order = .ok (ps, final) ∧
        List.Forall₂ (fun r p => ∃ q, plan s text r = .ok q ∧ p.css = q.css ∧
          p.tokens = q.tokens ∧ p.extracted = q.extracted ∧ p.preserved = q.preserved ∧
          p.replacementValue = q.replacementValue) order ps := by
  have hrun : ∀ order : List Request, order.Perm rs →
      ∃ ps final, carryOut s text order = .ok (ps, final) ∧
        List.Forall₂ (fun r p => ∃ q, plan s text r = .ok q ∧ p.Agrees q) order ps ∧
        IsRewriteOf s text order final := by
    intro order horder
    refine carryOut_eq_ok ((horder.map Request.line).nodup_iff.mpr hdistinct)
      (fun r hr => hown r (horder.mem_iff.mp hr)) fun r hr => ?_
    obtain ⟨p, hp⟩ := hplans r (horder.mem_iff.mp hr)
    exact ⟨p, p, hp, hp, Plan.Agrees.refl p⟩
  obtain ⟨-, final, -, -, hfinal⟩ := hrun rs (List.Perm.refl rs)
  refine ⟨final, fun order horder => ?_⟩
  obtain ⟨ps, final', hok, hagree, hrewrite⟩ := hrun order horder
  obtain rfl : final' = final := hfinal.unique horder hplans hrewrite
  refine ⟨ps, hok, hagree.imp ?_⟩
  rintro r p ⟨q, hq, hagrees⟩
  exact ⟨q, hq, hagrees.css, hagrees.tokens, hagrees.extracted, hagrees.preserved,
    hagrees.replacementValue⟩

/-- A document with class lists on two lines. -/
def pairedMarkup : Text :=
  "<i class=\"flex p-4\">\n<p>\n\t<b className='hover:m-1 grid gap-2'>".toList

/-- A request for the list on its first line. -/
def upperRequest : Request := ⟨0, some "card".toList, some false, none, some 1, false⟩

/-- A request for the list on its third line, one token of which is to stay. -/
def lowerRequest : Request := ⟨2, some "box".toList, none, some true, some 2, false⟩

theorem carryOut_order_irrelevant_paired :
    ∃ final ps ps', carryOut {} pairedMarkup [upperRequest, lowerRequest] = .ok (ps, final) ∧
      carryOut {} pairedMarkup [lowerRequest, upperRequest] = .ok (ps', final) ∧
      final = "<i class=\"card\">\n<p>\n\t<b className='box hover:m-1'>".toList := by
  have hdistinct : ([upperRequest, lowerRequest].map Request.line).Nodup := by decide
  have hown : ∀ r ∈ [upperRequest, lowerRequest], r.HitsOwnLine pairedMarkup := by
    intro r hr
    have hline : ∀ r ∈ [upperRequest, lowerRequest], r.line = r.line.toNat ∧
        (((lines pairedMarkup)[r.line.toNat]?).bind findAttribute).isSome = true := by
      decide +kernel
    obtain ⟨hn, hfound⟩ := hline r hr
    obtain ⟨a, ha⟩ := Option.isSome_iff_exists.mp hfound
    obtain ⟨l, hl, ha⟩ := Option.bind_eq_some_iff.mp ha
    exact ⟨r.line.toNat, l, a, hn, hl, ha⟩
  have hplans : ∀ r ∈ [upperRequest, lowerRequest], ∃ p, plan {} pairedMarkup r = .ok p := by
    intro r hr
    have hok : ∀ r ∈ [upperRequest, lowerRequest],
        (plan {} pairedMarkup r).toOption.map (fun _ => ()) = some () := by
      decide +kernel
    obtain ⟨p, hp, -⟩ := exists_ok_of_map_toOption (hok r hr)
    exact ⟨p, hp⟩
  obtain ⟨final, hfinal⟩ := carryOut_order_irrelevant hdistinct hown hplans
  obtain ⟨ps, hrun, -⟩ := hfinal [upperRequest, lowerRequest] (List.Perm.refl _)
  obtain ⟨ps', hrun', -⟩ := hfinal [lowerRequest, upperRequest] (List.Perm.swap _ _ [])
  have htext : (carryOut {} pairedMarkup [upperRequest, lowerRequest]).toOption.map Prod.snd =
      some "<i class=\"card\">\n<p>\n\t<b className='box hover:m-1'>".toList := by
    decide +kernel
  rw [hrun] at htext
  exact ⟨final, ps, ps', hrun, hrun', Option.some.inj htext⟩

end ClassLift
