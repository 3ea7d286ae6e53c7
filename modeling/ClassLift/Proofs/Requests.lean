/-
  What requests change.

  All of this is said of any framework that keeps its promises (`Framework.Lawful`), and of any system
  under the service that keeps its own (`Host.Lawful`).

  1. **Only an extraction that is to be written gets to the tree.**  Every other query is answered from
     what it carries, and what is no query is answered by the framework, which never sees the tree
     (`Framework.serve_fst`).

  2. **An extraction that is to be written** plans first, and a target is judged before anything is
     made.  So it ends in one of three ways: the rule was appended, and the reply says where; it was
     refused, and the tree is as it was; or there is no reply at all (`extract_writing`).  A reply can
     still fail to be sent, and then the rule has been appended all the same.

  3. **The reply** of a plan does not depend on where the rule goes, but for the one member that tells
     it.  So the same request without writing gets the same document with no stylesheet
     (`Framework.serve_withoutWriting`).

  One step keeps the tree well-formed, and so the promises hold along every history of requests.
-/
import ClassLift.Proofs.Bytes
import ClassLift.Proofs.History
import ClassLift.Proofs.Payloads
import ClassLift.Proofs.Plan
import ClassLift.Proofs.Untouched

namespace ClassLift

/-- A file got a text behind what it held, and nothing else has changed but directories that were
    missing on the way to it. -/
structure FileTree.GrownAt (t t' : FileTree) (place : Place) (added : Text) : Prop where
  /-- The old bytes come first and the text last. -/
  here : ∃ old feeds, (t.get? place = some (.file old) ∨ t.get? place = none ∧ old = utf8 []) ∧
    t'.get? place = some (.file (old ++ utf8 feeds ++ utf8 added))
  changed : t'.get? place ≠ t.get? place
  elsewhere : ∀ q, q ≠ place → t'.get? q = t.get? q ∨
    (t.get? q = none ∧ t'.get? q = some .directory ∧ q <+: place)

/-- An append that succeeds makes its stylesheet grow. -/
theorem grownAt_of_appendRule {t t' : FileTree} {root place : Place} {target css : Text}
    (hwf : t.WellFormed) (hroot : IsPlace root) (hcss : css ≠ [])
    (h : appendRule t root target css = (t', .ok place)) : t.GrownAt t' place css := by
  obtain ⟨-, hchanged, hresult⟩ := appendRule_accepted hwf hroot (resolve_of_appendRule h) h
  obtain ⟨-, hrule⟩ := hresult place rfl
  obtain ⟨old, existing, hread, hold, hnew⟩ := hrule hcss
  refine ⟨⟨old, separator existing, hold, ?_⟩, ?_, hchanged.elsewhere⟩
  · rw [hnew, utf8_append, ByteArray.append_assoc]
  · rw [hnew]
    rcases hold with hold | ⟨hold, -⟩
    · -- the bytes are those of a text, so more text makes other bytes
      obtain ⟨raw, rfl, -⟩ := readText?_eq_some hread
      rw [hold, ← utf8_append]
      intro hsame
      have htext := utf8_injective (Node.file.inj (Option.some.inj hsame))
      have hnil := List.append_right_eq_self.mp htext
      exact hcss (List.append_eq_nil_iff.mp hnil).2
    · rw [hold]
      simp

namespace Service

variable {host : Host} {s : Settings} {root place : Place} {t t' : FileTree}
  {text target : JsonString} {css : Text}

/-! ## Storing a rule -/

/-- **How storing a rule goes**: it is refused at once, it fails with the stylesheet open, or the
    rule is appended. -/
theorem storeRule_eq {result : Except Failure Place}
    (h : storeRule host t root target text css = (t', result)) :
    (t' = t ∧ ∃ e, result = .error e) ∨
      ∃ path, host.path? target = some path ∧
        ((∃ place opened, resolveStylesheet t root path = .ok place ∧
            openStylesheet t place = (t', opened) ∧
            ((∃ e, opened = .error e ∧ result = .error (.stylesheet e)) ∨
              result = .error .halfPair)) ∨
          ∃ appended, appendRule t root path css = (t', appended) ∧
            result = appended.mapError .stylesheet) := by
  rw [storeRule] at h
  split at h
  case h_1 =>
    obtain ⟨rfl, rfl⟩ := Prod.mk.inj h
    exact Or.inl ⟨rfl, _, rfl⟩
  case h_2 path hpath =>
    split at h
    case isTrue =>
      obtain ⟨rfl, rfl⟩ := Prod.mk.inj h
      exact Or.inr ⟨path, hpath, Or.inr ⟨_, rfl, rfl⟩⟩
    case isFalse =>
      -- a rule with half a pair: the stylesheet is opened for nothing
      split at h
      case h_1 =>
        obtain ⟨rfl, rfl⟩ := Prod.mk.inj h
        exact Or.inl ⟨rfl, _, rfl⟩
      case h_2 place hresolved =>
        split at h
        case h_1 e hopen =>
          obtain ⟨rfl, rfl⟩ := Prod.mk.inj h
          exact Or.inr ⟨path, hpath, Or.inl ⟨place, _, hresolved, hopen, Or.inl ⟨e, rfl, rfl⟩⟩⟩
        case h_2 hopen =>
          obtain ⟨rfl, rfl⟩ := Prod.mk.inj h
          exact Or.inr ⟨path, hpath, Or.inl ⟨place, _, hresolved, hopen, Or.inr rfl⟩⟩

/-- A rule that was stored was appended to the stylesheet that the target names: of the ways in which
    storing goes, no other ends with a place. -/
theorem storeRule_eq_ok (h : storeRule host t root target text css = (t', .ok place)) :
    ∃ path, host.path? target = some path ∧ appendRule t root path css = (t', .ok place) := by
  rcases storeRule_eq h with ⟨-, e, he⟩ |
    ⟨path, hpath, ⟨-, -, -, -, ⟨e, -, he⟩ | he⟩ | ⟨appended, happend, hok⟩⟩
  · exact absurd he (by simp)
  · exact absurd he (by simp)
  · exact absurd he (by simp)
  · exact ⟨path, hpath, by rw [happend, mapError_eq_ok_iff.mp hok.symm]⟩

section

variable (hwf : t.WellFormed) (hroot : IsPlace root)
include hwf hroot

/-- A rejected target leaves the tree as it was: no step behind the judgement rejects a target. -/
theorem storeRule_rejected {shown : Text} {above : Place} {why : Rejection}
    (h : storeRule host t root target text css =
      (t', .error (.stylesheet (.rejected shown above why)))) : t' = t := by
  rcases storeRule_eq h with ⟨rfl, -⟩ |
    ⟨path, -, ⟨place, opened, hresolved, hopen, ⟨e, rfl, he⟩ | he⟩ | ⟨appended, happend, he⟩⟩
  · rfl
  · -- the stylesheet was resolved, and opening it has other reasons to fail
    obtain ⟨hplace, -⟩ := resolveStylesheet_again hwf hroot hresolved
    obtain rfl := Failure.stylesheet.inj (Except.error.inj he)
    exact absurd rfl ((openStylesheet_error hwf hplace hopen).2 shown above why)
  · exact absurd he (by simp)
  · obtain ⟨e, rfl, hsame⟩ := mapError_eq_error_iff.mp he.symm
    obtain rfl := Failure.stylesheet.inj hsame
    exact appendRule_rejected hwf hroot happend

/-- However storing a rule goes, the tree stays well-formed. -/
theorem wellFormed_of_storeRule {result : Except Failure Place}
    (h : storeRule host t root target text css = (t', result)) : t'.WellFormed := by
  rcases storeRule_eq h with ⟨rfl, -⟩ |
    ⟨path, -, ⟨place, opened, hresolved, hopen, -⟩ | ⟨appended, happend, -⟩⟩
  · exact hwf
  · obtain ⟨hplace, -⟩ := resolveStylesheet_again hwf hroot hresolved
    obtain ⟨-, -, -, -, hfree, -⟩ := (resolveStylesheet_eq_ok_iff hwf hroot).mp hresolved
    exact (openStylesheet_eq hwf hplace hfree hopen).1
  · exact wellFormed_of_appendRule hwf hroot happend

end

/-! ## Extractions -/

/-- A request for which there is no plan is refused, if it gets a reply.  It gets none where the refusal
    would show a number that has no numeral. -/
theorem status_planErrorReply {e : PlanError} {reply : Reply} (h : planErrorReply e = .ok reply) :
    reply.status ≠ 200 := by
  cases e with
  | noAttributeFar | belowThresholdFar => exact absurd h (by simp [planErrorReply])
  | noAttribute | belowThreshold | nothingLeft | invalidName =>
    obtain rfl := Except.ok.inj h
    simp [Reply.status]

section

variable {r : Request} {given : Option JsonString} {result : Except Failure Reply}

/-- An extraction that is not to be written leaves the tree alone. -/
theorem extract_reading :
    extract host s t text r given false =
      (t, match plan s text.text r with
        | .error e => planErrorReply e
        | .ok p => .ok (.extracted text p none)) := by
  rw [extract]
  cases plan s text.text r <;> rfl

/-- **How an extraction that is to be written ends**: there is nothing to store, or something is
    stored, and the answer says how that went. -/
theorem extract_writing (h : extract host s t text r given true = (t', result)) :
    (t' = t ∧ ∀ reply, result = .ok reply → reply.status ≠ 200) ∨
      ∃ p root stored, plan s text.text r = .ok p ∧
        workspacePlace host.workingDirectory s.workspaceRoot = .ok root ∧
        storeRule host t root (given.getD (.ofText s.targetStylesheet)) text p.css =
          (t', stored) ∧
        ((∃ place, stored = .ok place ∧ result = .ok (.extracted text p
            (some (host.told (given.getD (.ofText s.targetStylesheet)) place)))) ∨
          (∃ shown above why, stored = .error (.stylesheet (.rejected shown above why)) ∧
            ∃ detail, result = .ok (.refused 400 detail)) ∨
          ∃ e, result = .error e) := by
  rw [extract] at h
  split at h
  case h_1 e _ =>
    obtain ⟨rfl, rfl⟩ := Prod.mk.inj h
    exact Or.inl ⟨rfl, fun reply hreply => status_planErrorReply hreply⟩
  case h_2 p hp =>
    rw [if_neg (by decide)] at h
    split at h
    case h_1 =>
      -- the root of the workspace is no path, which is found out before the target is judged
      obtain ⟨rfl, rfl⟩ := Prod.mk.inj h
      exact Or.inl ⟨rfl, fun reply hreply => by simp at hreply⟩
    case h_2 root hroot =>
      refine Or.inr ⟨p, root, ?_⟩
      dsimp only at h
      split at h
      case h_1 place hstored =>
        obtain ⟨rfl, rfl⟩ := Prod.mk.inj h
        exact ⟨_, hp, hroot, hstored, Or.inl ⟨place, rfl, rfl⟩⟩
      case h_2 shown above why hstored =>
        obtain ⟨rfl, rfl⟩ := Prod.mk.inj h
        exact ⟨_, hp, hroot, hstored, Or.inr (Or.inl ⟨shown, above, why, rfl, _, rfl⟩)⟩
      case h_3 e _ hstored =>
        obtain ⟨rfl, rfl⟩ := Prod.mk.inj h
        exact ⟨_, hp, hroot, hstored, Or.inr (Or.inr ⟨e, rfl⟩)⟩

/-- Extracting keeps a tree well-formed, also where it fails halfway. -/
theorem wellFormed_extract (hwf : t.WellFormed) (hdirectory : IsPlace host.workingDirectory)
    (write : Bool) : (extract host s t text r given write).1.WellFormed := by
  cases write with
  | false =>
    rw [extract_reading]
    exact hwf
  | true =>
    rcases h : extract host s t text r given true with ⟨t', result⟩
    rcases extract_writing h with ⟨rfl, -⟩ | ⟨p, root, stored, -, hroot, hstored, -⟩
    · exact hwf
    · exact wellFormed_of_storeRule hwf (isPlace_of_workspacePlace hdirectory hroot) hstored

end

/-! ## Requests -/

namespace Framework

variable {α β : Type} {F : Framework α β} {i : α} {q : Query} {r : Request}
  {given : Option JsonString} {write : Bool}

/-- Whether a request asks for an extraction that is to be written. -/
def IsWriting (F : Framework α β) (i : α) : Prop :=
  ∃ text r given, F.receive i = .query (.extract text r given true)

/-- A query is answered, and its reply is sent.  What becomes of the reply does not get back to the
    tree. -/
theorem serve_eq (h : F.receive i = .query q) :
    F.serve host s t i = ((answer host s t q).1, (answer host s t q).2.bind (F.send i)) := by
  rw [serve, h]

/-- **Only an extraction that is to be written gets to the tree.** -/
theorem serve_fst (h : ¬F.IsWriting i) : (F.serve host s t i).1 = t := by
  cases hreceived : F.receive i with
  | answered result => rw [serve, hreceived]
  | query q =>
    rw [serve_eq hreceived]
    dsimp only
    cases q with
    | health => rfl
    | suggest text threshold =>
      rw [answer]
      split <;> rfl
    | categorize classes => rfl
    | extract text r given write =>
      cases write with
      | false =>
        show (extract host s t text r given false).1 = t
        rw [extract_reading]
      | true => exact absurd ⟨text, r, given, hreceived⟩ h

/-- One request keeps a tree well-formed, and so the next one finds it so. -/
theorem wellFormed_serve (hwf : t.WellFormed) (hdirectory : IsPlace host.workingDirectory) :
    (F.serve host s t i).1.WellFormed := by
  by_cases hwriting : F.IsWriting i
  · obtain ⟨text, r, given, hreceived⟩ := hwriting
    rw [serve_eq hreceived]
    exact wellFormed_extract hwf hdirectory true
  · rw [serve_fst hwriting]
    exact hwf

/-- **A request to be written that gets a response**: the rule was appended, or the tree is as it was
    and the status tells. -/
theorem serve_writing {response : β} (hF : F.Lawful) (hwf : t.WellFormed)
    (hdirectory : IsPlace host.workingDirectory)
    (hreceived : F.receive i = .query (.extract text r given true))
    (h : F.serve host s t i = (t', .ok response)) :
    (t' = t ∧ F.status response ≠ 200) ∨
      ∃ p root path place, plan s text.text r = .ok p ∧
        workspacePlace host.workingDirectory s.workspaceRoot = .ok root ∧
        host.path? (given.getD (.ofText s.targetStylesheet)) = some path ∧
        appendRule t root path p.css = (t', .ok place) ∧
        F.send i (.extracted text p
          (some (host.told (given.getD (.ofText s.targetStylesheet)) place))) = .ok response := by
  rw [serve_eq hreceived] at h
  rcases hextract : extract host s t text r given true with ⟨t₁, result⟩
  have hanswer : answer host s t (.extract text r given true) = (t₁, result) := hextract
  rw [hanswer] at h
  obtain ⟨rfl, hsent⟩ := Prod.mk.inj h
  -- the response was made of the reply
  obtain ⟨reply, rfl, hsend⟩ : ∃ reply, result = .ok reply ∧ F.send i reply = .ok response := by
    exact bind_eq_ok_iff.mp hsent
  have hstatus := hF.status_of_send i reply response hsend
  rcases extract_writing hextract with ⟨rfl, hrefused⟩ |
    ⟨p, root, stored, hp, hroot, hstored, hend⟩
  · exact Or.inl ⟨rfl, by rw [hstatus]; exact hrefused reply rfl⟩
  · rcases hend with ⟨place, rfl, hok⟩ | ⟨shown, above, why, rfl, detail, hok⟩ | ⟨e, he⟩
    · obtain rfl := Except.ok.inj hok
      obtain ⟨path, hpath, happended⟩ := storeRule_eq_ok hstored
      exact Or.inr ⟨p, root, path, place, hp, hroot, hpath, happended, hsend⟩
    · obtain rfl := Except.ok.inj hok
      have hrootPlace := isPlace_of_workspacePlace hdirectory hroot
      exact Or.inl ⟨storeRule_rejected hwf hrootPlace hstored,
        by rw [hstatus]; simp [Reply.status]⟩
    · exact absurd he (by simp)

/-- **The same request without writing** gets the reply of the plan, in every tree. -/
theorem serve_withoutWriting (host : Host) {p : Plan} (hF : F.Lawful)
    (hp : plan s text.text r = .ok p)
    (hsendable : (Reply.extracted text p none).document.isSendable = true)
    (h : F.receive i = .query (.extract text r given write)) :
    ∃ response, F.status response = 200 ∧
      F.document? response = some (.object (extractedMembers text p none)) ∧
      ∀ t, F.serve host s t (F.withoutWriting i) = (t, .ok response) := by
  obtain ⟨response, hsend⟩ := (hF.exists_send_iff (F.withoutWriting i) _).mpr hsendable
  refine ⟨response, hF.status_of_send _ _ _ hsend, hF.document_of_send _ _ _ hsend, fun t => ?_⟩
  have hanswer : answer host s t (.extract text r given false) =
      (t, .ok (.extracted text p none)) := by
    show extract host s t text r given false = _
    rw [extract_reading, hp]
  rw [serve_eq (hF.receive_withoutWriting i text r given write h), hanswer]
  exact Prod.ext rfl hsend

end Framework

/-! ## Histories -/

/-- A rule was written, and a document tells so. -/
structure Written (host : Host) (s : Settings) (target : JsonString) (before after : FileTree)
    (members : Members) (root place : Place) (css : Text) : Prop where
  /-- The document shows the rule, which is not empty, -/
  css_shown : Json.member? "css".toList members = some (.string (.ofText css))
  css_ne_nil : css ≠ []
  /-- and it names the place. -/
  place_shown : Json.member? stylesheetKey members = some (.string (.ofText (placeText place)))
  place_named : ∀ base, (Path.ofText (placeText place)).placeFrom base = place
  /-- The place is strictly below the root of the workspace, -/
  root_eq : workspacePlace host.workingDirectory s.workspaceRoot = .ok root
  below_root : root <+: place ∧ place ≠ root
  /-- and it is where the target leads, if the target is a text. -/
  resolved : target.whole = true → resolveStylesheet before root target.text = .ok place
  /-- There and only there has a file changed: the rule stands behind what it held. -/
  grown : before.GrownAt after place css

/-- **An append that was answered is told by the answer.** -/
theorem written_of_appendRule {α β : Type} {F : Framework α β} {i : α} {response : β} {p : Plan}
    {path : Text} {r : Request} (hF : F.Lawful) (hhost : host.Lawful) (hwf : t.WellFormed)
    (hdirectory : IsPlace host.workingDirectory) (hp : plan s text.text r = .ok p)
    (hroot : workspacePlace host.workingDirectory s.workspaceRoot = .ok root)
    (hpath : host.path? target = some path)
    (happended : appendRule t root path p.css = (t', .ok place))
    (hsend : F.send i (.extracted text p (some (host.told target place))) = .ok response) :
    ∃ members, F.document? response = some (.object members) ∧
      (∀ name, name ≠ stylesheetKey →
        Json.member? name members = Json.member? name (extractedMembers text p none)) ∧
      Written host s target t t' members root place p.css := by
  have hrootPlace := isPlace_of_workspacePlace hdirectory hroot
  have hresolved := resolve_of_appendRule happended
  obtain ⟨-, -, hbelow, hother, -⟩ := (resolveStylesheet_eq_ok_iff hwf hrootPlace).mp hresolved
  obtain ⟨hplace, hspelled, -⟩ := resolveStylesheet_again hwf hrootPlace hresolved
  have hcss : p.css ≠ [] := (plan_eq_ok_iff.mp hp).css_ne_nil
  -- what was sent could be sent, so rule and place are shown as texts
  obtain ⟨hshown, htold, -⟩ := isSendable_extracted ((hF.exists_send_iff i _).mp ⟨_, hsend⟩)
  have htoldWhole := htold _ rfl
  have hname : host.told target place = .ofText (placeText place) := by
    rw [JsonString.whole_iff.mp htoldWhole, hhost.told_of_whole target place htoldWhole]
  refine ⟨_, hF.document_of_send i _ response hsend, fun name hother =>
    member?_extractedMembers hother _, ?_⟩
  exact {
    css_shown := by rw [member?_css, JsonString.eq_ofText_of_whole_made hshown]
    css_ne_nil := hcss
    place_shown := by rw [member?_stylesheetKey, hname]; rfl
    place_named := fun base => by rw [hspelled, placeFrom_path hplace]
    root_eq := hroot
    below_root := ⟨hbelow, hother⟩
    resolved := fun hwhole => by
      have hsame := hpath.symm.trans (hhost.path?_of_whole target hwhole)
      rw [← Option.some.inj hsame]
      exact hresolved
    grown := grownAt_of_appendRule hwf hrootPlace hcss happended }

/-- **Requests change files only when they say so.**  Through every framework that keeps its promises,
    and along every history of requests:

    * a response with another status than 200 leaves the very same tree;
    * so does every request whose path is not that of extractions, whatever becomes of it;
    * so does whatever is not an extraction that is to be written, and with `write` set to false an
      extraction is none;
    * a response with status 200 to an extraction that is to be written shows a rule, which is not
      empty, and names a place strictly below the workspace root; the file there has grown by the
      rule, and nothing else has changed but directories that were missing above it.  The same
      request without writing leaves every tree alone and is answered with the same document, but
      for the member that names the place. -/
theorem requests_change_what_they_say {α β : Type} {F : Framework α β} (hF : F.Lawful)
    (hhost : host.Lawful) (hwf : t.WellFormed) (hdirectory : IsPlace host.workingDirectory)
    (requests : List α) :
    ∀ step ∈ history (F.serve host s) t requests,
      (∀ response, step.answer = .ok response → F.status response ≠ 200 →
        step.after = step.before) ∧
      (F.path step.asked ≠ extractPath → step.after = step.before) ∧
      (¬F.IsWriting step.asked → step.after = step.before) ∧
      (∀ text r given, F.receive step.asked = .query (.extract text r given false) →
        ¬F.IsWriting step.asked) ∧
      ∀ text r given response,
        F.receive step.asked = .query (.extract text r given true) →
        step.answer = .ok response → F.status response = 200 →
        ∃ members root place css, F.document? response = some (.object members) ∧
          Written host s (given.getD (.ofText s.targetStylesheet)) step.before step.after
            members root place css ∧
          F.receive (F.withoutWriting step.asked) = .query (.extract text r given false) ∧
          ∃ preview others, F.status preview = 200 ∧
            F.document? preview = some (.object others) ∧
            (∀ name, name ≠ stylesheetKey →
              Json.member? name members = Json.member? name others) ∧
            ∀ t, F.serve host s t (F.withoutWriting step.asked) = (t, .ok preview) := by
  refine forall_mem_history hwf (fun t hwf i => Framework.wellFormed_serve hwf hdirectory) ?_
    requests
  intro t hwf i
  dsimp only
  refine ⟨fun response hresponse hstatus => ?_, fun hpath => ?_, Framework.serve_fst,
    fun text r given hreceived => ?_,
    fun text r given response hreceived hresponse hstatus => ?_⟩
  · -- had a rule been appended, the reply that was sent would have status 200
    by_cases hwriting : F.IsWriting i
    · obtain ⟨text, r, given, hreceived⟩ := hwriting
      rcases Framework.serve_writing hF hwf hdirectory hreceived (Prod.ext rfl hresponse) with
        ⟨hsame, -⟩ | ⟨p, root, path, place, -, -, -, -, hsend⟩
      · exact hsame
      · exact absurd (hF.status_of_send i _ response hsend) hstatus
    · exact Framework.serve_fst hwriting
  · -- an extraction comes in on the path of extractions
    refine Framework.serve_fst ?_
    rintro ⟨text, r, given, hreceived⟩
    exact hpath (hF.path_of_query i _ hreceived)
  · rintro ⟨text', r', given', hwriting⟩
    rw [hreceived] at hwriting
    exact absurd hwriting (by simp)
  · rcases Framework.serve_writing hF hwf hdirectory hreceived (Prod.ext rfl hresponse) with
      ⟨-, hother⟩ | ⟨p, root, path, place, hp, hroot, hpath, happended, hsend⟩
    · exact absurd hstatus hother
    · obtain ⟨members, hmembers, hothers, hwritten⟩ :=
        written_of_appendRule hF hhost hwf hdirectory hp hroot hpath happended hsend
      obtain ⟨-, -, hsendable⟩ := isSendable_extracted ((hF.exists_send_iff i _).mp ⟨_, hsend⟩)
      obtain ⟨preview, hok, hdocument, hserve⟩ :=
        Framework.serve_withoutWriting host hF hp hsendable hreceived
      exact ⟨members, root, place, p.css, hmembers, hwritten,
        hF.receive_withoutWriting i text r given true hreceived, preview, _, hok, hdocument,
        hothers, hserve⟩

/-- A request for the class list on the first line, flat, for a stylesheet and to be written or not. -/
def cardRequest (stylesheet : String) (write : Bool) : Incoming where
  method := "POST".toList
  target := "/tailwind/extract".toList
  payload := .document (.object [
    (.ofText "text".toList, .string (.ofText "<i class='flex p-4'>".toList)),
    (.ofText "line".toList, .int 0),
    (.ofText "class_name".toList, .string (.ofText "card".toList)),
    (.ofText "group_by_category".toList, .bool false),
    (.ofText "threshold".toList, .int 1),
    (.ofText "target_css_file".toList, .string (.ofText stylesheet.toList)),
    (.ofText "write".toList, .bool write)])

/-- A rejected target, a rule that is written, and a preview. -/
def cardRequests : List Incoming :=
  [cardRequest "../x.css" true, cardRequest "x.css" true, cardRequest "x.css" false]

/-- The rule that a document shows, if it is the document of an extraction. -/
def shownRule? : Json → Option Text
  | .object members =>
    match Json.member? "css".toList members with
    | some (.string css) => some css.text
    | _ => none
  | _ => none

/-- Three requests in a row: the first is refused and changes nothing, the second makes the stylesheet and
    says so, and the third only shows. -/
theorem requests_change_what_they_say_card :
    ∃ rejected written preview,
      history (http.serve (byteHost ["w".toList]) {}) workspaceTree cardRequests =
        [rejected, written, preview] ∧
      rejected.after = rejected.before ∧
      (∃ members root, Written (byteHost ["w".toList]) {} (.ofText "x.css".toList) written.before
        written.after members root ["w".toList, "x.css".toList]
        ".card \x7b\n  @apply flex p-4;\n\x7d\n".toList) ∧
      preview.after = preview.before := by
  have hsteps := requests_change_what_they_say (s := {}) http_lawful (byteHost_lawful ["w".toList])
    wellFormed_workspaceTree (show IsPlace ["w".toList] by decide) cardRequests
  have hquery : ∀ write, http.receive (cardRequest "x.css" write) =
      .query (.extract (.ofText "<i class='flex p-4'>".toList)
        ⟨0, some "card".toList, some false, none, some 1, false⟩ (some (.ofText "x.css".toList))
        write) := by
    intro write
    cases write <;> rfl
  have hrejected : (http.serve (byteHost ["w".toList]) {} workspaceTree
      (cardRequest "../x.css" true)).1 = workspaceTree := by
    obtain ⟨hstatus, -⟩ := hsteps _ List.mem_cons_self
    have hanswer : (http.serve (byteHost ["w".toList]) {} workspaceTree
        (cardRequest "../x.css" true)).2.toOption.map http.status = some 400 := by
      decide +kernel
    obtain ⟨response, hresponse, hrefused⟩ := exists_ok_of_map_toOption hanswer
    exact hstatus response hresponse (by rw [hrefused]; decide)
  refine ⟨_, _, _, rfl, hrejected, ?_, ?_⟩
  · obtain ⟨-, -, -, -, hwritten⟩ := hsteps _ (List.mem_cons_of_mem _ List.mem_cons_self)
    dsimp only at hwritten ⊢
    rw [hrejected] at hwritten ⊢
    have hanswer : (http.serve (byteHost ["w".toList]) {} workspaceTree
        (cardRequest "x.css" true)).2.toOption.map
          (fun response => (http.status response, (http.document? response).bind shownRule?)) =
        some (200, some ".card \x7b\n  @apply flex p-4;\n\x7d\n".toList) := by
      decide +kernel
    obtain ⟨response, hresponse, hshown⟩ := exists_ok_of_map_toOption hanswer
    obtain ⟨hstatus, hrule⟩ := Prod.mk.inj hshown
    obtain ⟨members, root, place, css, hmembers, hw, -⟩ :=
      hwritten _ _ _ response (hquery true) hresponse hstatus
    -- the document tells the rule, and the target tells the place
    rw [hmembers, Option.bind_some, shownRule?, hw.css_shown] at hrule
    obtain rfl := Option.some.inj hrule
    have hroot : workspacePlace ["w".toList] ({} : Settings).workspaceRoot =
        .ok ["w".toList] := by decide +kernel
    obtain rfl := Except.ok.inj (hw.root_eq.symm.trans hroot)
    have hplace : resolveStylesheet workspaceTree ["w".toList] "x.css".toList =
        .ok ["w".toList, "x.css".toList] := by decide +kernel
    obtain rfl := Except.ok.inj ((hw.resolved rfl).symm.trans hplace)
    exact ⟨members, _, hw⟩
  · obtain ⟨-, -, hkept, hpreview, -⟩ :=
      hsteps _ (List.mem_cons_of_mem _ (List.mem_cons_of_mem _ List.mem_cons_self))
    exact hkept (hpreview _ _ _ (hquery false))

end Service

end ClassLift
