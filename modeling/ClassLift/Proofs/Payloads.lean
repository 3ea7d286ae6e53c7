/-
  What requests over HTTP ask for.

  The service is shown to keep its promises through every framework that keeps its own.  Here the
  framework at hand is shown to be one of those, so what is proved of the service holds of it as it
  runs.  Most of this is about one promise, that a request can be repeated without writing; it takes a
  request apart down to the members of its document, changes one and puts it together again.

  1. **Fields** are read one by one, each from its own member of the document (`readExtract_eq_ok_iff`).
     So a document with another value under ONE name differs in the field of that name and in no other.

  2. **Endpoints.**  A request that asks for something names the path of the endpoint that answers it
     (`path_of_readQuery`): each reader makes queries of one kind only, and each path has one reader.

  3. **The same request without writing** is the request with its member `write` set to false and
     every other member kept.  It asks for the same extraction and only leaves the writing out
     (`readQuery_withoutWriting`).

  These are the promises on what comes in.  Those on what goes out are in the definition of what is sent,
  and together they make the framework a lawful one (`http_lawful`).  The same is shown of a system under
  the service whose names are bytes (`byteHost_lawful`).
-/
import ClassLift.Proofs.Documents
import ClassLift.Service.Wire

namespace ClassLift

namespace Checked

variable {α β : Type}

/-- What was applied to a value was a value itself.  On either side errors are kept and never dropped, so
    a value in the end means a value at every step. -/
theorem apply_eq_ok_iff {x : Checked (α → β)} {y : Checked α} {b : β} :
    x.apply y = .ok b ↔ ∃ f a, x = .ok f ∧ y = .ok a ∧ f a = b := by
  cases x with
  | ok f =>
    cases y with
    | ok a => simp [Checked.apply]
    | faulty errors => simp [Checked.apply]
  | faulty errors => cases y <;> simp [Checked.apply]

end Checked

namespace Service

/-! ## The fields of an extraction -/

section

variable {members members' : Members} {field : String}

/-- A field is read from its own member.  Where it is missing, the report repeats the whole document, so
    this holds of a field that was read and not of every answer. -/
theorem required_eq_ok_of_member? {α : Type} {read : Json → Except FieldFault α} {a : α}
    (hsame : Json.member? field.toList members' = Json.member? field.toList members)
    (h : required members field read = .ok a) : required members' field read = .ok a := by
  rw [required] at h ⊢
  rw [hsame]
  split at h
  case h_1 => exact absurd h (by simp [Checked.placed])
  case h_2 => exact h

/-- A field with a default is read from its own member, or from its absence.  The report on it never
    repeats the document, so this holds of every answer. -/
theorem defaulted_congr {α : Type} (read : Json → Except FieldFault α) (default : α)
    (hsame : Json.member? field.toList members' = Json.member? field.toList members) :
    defaulted members' field read default = defaulted members field read default := by
  rw [defaulted, defaulted, hsame]

/-- **An extraction is read field by field.**  What is asked for is known from nine answers, each to a
    question about one member; a name must be there, while most of the others may be left open. -/
theorem readExtract_eq_ok_iff {text : JsonString} {r : Request} {target : Option JsonString}
    {write : Bool} :
    readExtract members = .ok (.extract text r target write) ↔
      required members "text" readString = .ok text ∧
      required members "line" (readIntegerFrom 0) = .ok r.line ∧
      (∃ name, required members "class_name" readNonemptyText = .ok name ∧ r.name = some name) ∧
      optional members "group_by_category" readBoolean = .ok r.grouping ∧
      optional members "preserve_state_variants" readBoolean = .ok r.preserving ∧
      optional members "threshold" (readIntegerFrom 1) = .ok r.threshold ∧
      defaulted members "force" readBoolean false = .ok r.force ∧
      optional members "target_css_file" readString = .ok target ∧
      defaulted members "write" readBoolean false = .ok write := by
  rw [readExtract]
  constructor
  · -- from the last field back to the first
    intro h
    obtain ⟨_, _, h₁, hwrite, hquery⟩ := Checked.apply_eq_ok_iff.mp h
    obtain ⟨_, _, h₂, htarget, rfl⟩ := Checked.apply_eq_ok_iff.mp h₁
    obtain ⟨_, _, h₃, hforce, rfl⟩ := Checked.apply_eq_ok_iff.mp h₂
    obtain ⟨_, _, h₄, hthreshold, rfl⟩ := Checked.apply_eq_ok_iff.mp h₃
    obtain ⟨_, _, h₅, hpreserving, rfl⟩ := Checked.apply_eq_ok_iff.mp h₄
    obtain ⟨_, _, h₆, hgrouping, rfl⟩ := Checked.apply_eq_ok_iff.mp h₅
    obtain ⟨_, name, h₇, hname, rfl⟩ := Checked.apply_eq_ok_iff.mp h₆
    obtain ⟨_, _, h₈, hline, rfl⟩ := Checked.apply_eq_ok_iff.mp h₇
    obtain ⟨_, _, h₉, htext, rfl⟩ := Checked.apply_eq_ok_iff.mp h₈
    obtain rfl := Checked.ok.inj h₉
    obtain ⟨rfl, rfl, rfl, rfl⟩ := Query.extract.inj hquery
    exact ⟨htext, hline, ⟨name, hname, rfl⟩, hgrouping, hpreserving, hthreshold, hforce, htarget,
      hwrite⟩
  · rintro ⟨htext, hline, ⟨name, hname, hsome⟩, hgrouping, hpreserving, hthreshold, hforce,
      htarget, hwrite⟩
    rw [htext, hline, hname, hgrouping, hpreserving, hthreshold, hforce, htarget, hwrite]
    simp only [Checked.apply, ← hsome]

end

/-! ## The same fields without writing -/

/-- The member that was set is there, whatever members of its name there were.  It is put behind all
    others, and the last one counts. -/
@[simp]
theorem member?_setMember_self (name : Text) (value : Json) (members : Members) :
    Json.member? name (setMember name value members) = some value := by
  simp [Json.member?, setMember]

/-- The members of every other name are kept, also those that are given more than once. -/
theorem member?_setMember_of_ne {name key : Text} (hother : name ≠ key) (value : Json)
    (members : Members) :
    Json.member? name (setMember key value members) = Json.member? name members := by
  have hnames : JsonString.ofText key ≠ JsonString.ofText name :=
    fun heq => hother (JsonString.mk.inj heq).1.symm
  have hkey : (JsonString.ofText key == JsonString.ofText name) = false := by
    rw [beq_eq_false_iff_ne]
    exact hnames
  -- what was filtered out would not have been found
  have hfound : (fun m : JsonString × Json =>
      decide ((m.1 != JsonString.ofText key) = true ∧ (m.1 == JsonString.ofText name) = true)) =
        fun m => m.1 == JsonString.ofText name := by
    funext m
    rw [Bool.eq_iff_iff, decide_eq_true_iff, bne_iff_ne, and_iff_right_iff_imp]
    intro hm heq
    exact hnames (heq.symm.trans (beq_iff_eq.mp hm))
  rw [Json.member?, setMember, List.reverse_append, List.reverse_singleton,
    List.singleton_append, List.find?_cons, hkey, ← List.filter_reverse, List.find?_filter,
    hfound]
  rfl

section

variable {text : JsonString} {r : Request} {target : Option JsonString} {write : Bool}
  {members : Members}

/-- Setting `write` to false changes nothing else: of the nine fields, eight are read from members that
    were kept. -/
theorem readExtract_setMember (h : readExtract members = .ok (.extract text r target write)) :
    readExtract (setMember "write".toList (.bool false) members) =
      .ok (.extract text r target false) := by
  have hkept : ∀ name : String, name.toList ≠ "write".toList →
      Json.member? name.toList (setMember "write".toList (.bool false) members) =
        Json.member? name.toList members :=
    fun name hname => member?_setMember_of_ne hname _ _
  obtain ⟨htext, hline, ⟨name, hname, hsome⟩, hgrouping, hpreserving, hthreshold, hforce, htarget,
    -⟩ := readExtract_eq_ok_iff.mp h
  refine readExtract_eq_ok_iff.mpr
    ⟨required_eq_ok_of_member? (hkept _ (by decide)) htext,
      required_eq_ok_of_member? (hkept _ (by decide)) hline,
      ⟨name, required_eq_ok_of_member? (hkept _ (by decide)) hname, hsome⟩, ?_, ?_, ?_, ?_, ?_, ?_⟩
  · exact (defaulted_congr _ _ (hkept _ (by decide))).trans hgrouping
  · exact (defaulted_congr _ _ (hkept _ (by decide))).trans hpreserving
  · exact (defaulted_congr _ _ (hkept _ (by decide))).trans hthreshold
  · exact (defaulted_congr _ _ (hkept _ (by decide))).trans hforce
  · exact (defaulted_congr _ _ (hkept _ (by decide))).trans htarget
  · rw [defaulted, member?_setMember_self]
    rfl

end

/-! ## What an endpoint is asked for -/

section

variable {method path : Text} {payload : Payload} {members : Members} {query : Query}

/-- A reader makes queries of one kind.  What was applied first says which, and it is reached from the
    last field back. -/
theorem path_of_readSuggest (h : readSuggest members = .ok query) :
    query.path = "/tailwind/suggestions".toList := by
  obtain ⟨_, _, h₁, -, rfl⟩ := Checked.apply_eq_ok_iff.mp h
  obtain ⟨_, _, h₂, -, rfl⟩ := Checked.apply_eq_ok_iff.mp h₁
  obtain rfl := Checked.ok.inj h₂
  rfl

theorem path_of_readCategorize (h : readCategorize members = .ok query) :
    query.path = "/tailwind/categorize".toList := by
  obtain ⟨_, _, h₁, -, rfl⟩ := Checked.apply_eq_ok_iff.mp h
  obtain rfl := Checked.ok.inj h₁
  rfl

/-- Only an object is read as a query.  A request without a document, or with another value for one, is
    told so. -/
theorem exists_members_of_readDocument {read : Members → Checked Query} {value : Option Json}
    (h : readDocument read value = .ok query) :
    ∃ members, value = some (.object members) ∧ read members = .ok query := by
  rw [readDocument.eq_def] at h
  split at h
  case h_1 => exact absurd h (by simp [Checked.placed])
  case h_2 members => exact ⟨members, rfl, h⟩
  case h_3 => exact absurd h (by simp [Checked.placed])

/-- **What a reader is asked for** stands in the members of an object. -/
theorem reader_eq_ok_iff {read : Members → Checked Query} :
    Destination.read payload (.reader read) = .ok query ↔
      ∃ members, payload.read = .ok (some (.object members)) ∧ read members = .ok query := by
  rw [Destination.read]
  constructor
  · intro h
    split at h
    case h_1 => exact absurd h (by simp)
    case h_2 value hvalue =>
      split at h
      case h_1 found hfound =>
        obtain rfl := Except.ok.inj h
        obtain ⟨members, rfl, hmembers⟩ := exists_members_of_readDocument hfound
        exact ⟨members, hvalue, hmembers⟩
      case h_2 => exact absurd h (by simp)
  · rintro ⟨members, hpayload, hmembers⟩
    simp only [hpayload, readDocument, hmembers]

/-- **What was asked for was asked of an endpoint**, by its path and with a method it takes.  A wrong
    method is told before the document is looked at, so it is not a matter of the document. -/
theorem readQuery_eq_ok_iff :
    readQuery method path payload = .ok query ↔
      ∃ e, endpoint? path = some e ∧ e.methods.contains method = true ∧
        e.leadsTo.read payload = .ok query := by
  rw [readQuery]
  cases endpoint? path with
  | none => exact iff_of_false (by simp) (by simp)
  | some e =>
    dsimp only
    by_cases hmethod : e.methods.contains method = true
    · rw [if_pos hmethod]
      constructor
      · intro h
        exact ⟨e, rfl, hmethod, h⟩
      · rintro ⟨_, hsame, -, h⟩
        obtain rfl := Option.some.inj hsame
        exact h
    · rw [if_neg hmethod]
      refine iff_of_false (by simp) ?_
      rintro ⟨_, hsame, htakes, -⟩
      obtain rfl := Option.some.inj hsame
      exact hmethod htakes

/-- An endpoint that was found is one of the eight and has the path, up to a line feed at its end. -/
theorem endpoint?_eq_some {e : Endpoint} (h : endpoint? path = some e) :
    e ∈ endpoints ∧ lookedUpPath path = e.path :=
  ⟨List.mem_of_find?_eq_some h, by simpa using List.find?_some h⟩

end

section

variable {method path : Text} {payload : Payload} {query : Query} {text : JsonString} {r : Request}
  {target : Option JsonString} {write : Bool}

/-- What the fields of an extraction are read as is one: nine fields back to the query they were applied
    to. -/
theorem path_of_readExtract {members : Members} (h : readExtract members = .ok query) :
    query.path = extractPath := by
  rw [readExtract] at h
  obtain ⟨_, _, h₁, -, rfl⟩ := Checked.apply_eq_ok_iff.mp h
  obtain ⟨_, _, h₂, -, rfl⟩ := Checked.apply_eq_ok_iff.mp h₁
  obtain ⟨_, _, h₃, -, rfl⟩ := Checked.apply_eq_ok_iff.mp h₂
  obtain ⟨_, _, h₄, -, rfl⟩ := Checked.apply_eq_ok_iff.mp h₃
  obtain ⟨_, _, h₅, -, rfl⟩ := Checked.apply_eq_ok_iff.mp h₄
  obtain ⟨_, _, h₆, -, rfl⟩ := Checked.apply_eq_ok_iff.mp h₅
  obtain ⟨_, _, h₇, -, rfl⟩ := Checked.apply_eq_ok_iff.mp h₆
  obtain ⟨_, _, h₈, -, rfl⟩ := Checked.apply_eq_ok_iff.mp h₇
  obtain ⟨_, _, h₉, -, rfl⟩ := Checked.apply_eq_ok_iff.mp h₈
  obtain rfl := Checked.ok.inj h₉
  rfl

/-- **A query comes in on the path of its endpoint.**  There is one case for each endpoint: pages are no
    queries, and each reader makes queries of its own kind. -/
theorem path_of_readQuery (h : readQuery method path payload = .ok query) :
    lookedUpPath path = query.path := by
  obtain ⟨e, hfound, -, hread⟩ := readQuery_eq_ok_iff.mp h
  obtain ⟨hmem, hpath⟩ := endpoint?_eq_some hfound
  rw [hpath]
  simp only [endpoints, List.mem_cons, List.not_mem_nil, or_false] at hmem
  -- four pages, three readers, the health check
  rcases hmem with rfl | rfl | rfl | rfl | rfl | rfl | rfl | rfl
  · exact absurd hread (by simp [Destination.read])
  · exact absurd hread (by simp [Destination.read])
  · exact absurd hread (by simp [Destination.read])
  · exact absurd hread (by simp [Destination.read])
  · obtain ⟨members, -, hmembers⟩ := reader_eq_ok_iff.mp hread
    exact (path_of_readSuggest hmembers).symm
  · obtain ⟨members, -, hmembers⟩ := reader_eq_ok_iff.mp hread
    exact (path_of_readCategorize hmembers).symm
  · obtain ⟨members, -, hmembers⟩ := reader_eq_ok_iff.mp hread
    exact (path_of_readExtract hmembers).symm
  · obtain rfl := Except.ok.inj hread
    rfl

/-- The endpoint for extractions is told by its path, which no other endpoint has. -/
theorem leadsTo_of_path {e : Endpoint} (hmem : e ∈ endpoints) (hpath : e.path = extractPath) :
    e.leadsTo = .reader readExtract := by
  simp only [endpoints, List.mem_cons, List.not_mem_nil, or_false] at hmem
  rcases hmem with rfl | rfl | rfl | rfl | rfl | rfl | rfl | rfl
  case inr.inr.inr.inr.inr.inr.inl => rfl
  all_goals exact absurd hpath (by decide)

/-- **The same request without writing** asks for the same extraction.  The document is read, so it is an
    object, and it is sent again as one that is read already. -/
theorem readQuery_withoutWriting
    (h : readQuery method path payload = .ok (.extract text r target write)) :
    readQuery method path payload.withoutWriting = .ok (.extract text r target false) := by
  obtain ⟨e, hfound, hmethod, hread⟩ := readQuery_eq_ok_iff.mp h
  obtain ⟨hmem, hpath⟩ := endpoint?_eq_some hfound
  have hreader := leadsTo_of_path hmem (hpath.symm.trans (path_of_readQuery h))
  rw [hreader] at hread
  obtain ⟨members, hpayload, hmembers⟩ := reader_eq_ok_iff.mp hread
  refine readQuery_eq_ok_iff.mpr ⟨e, hfound, hmethod, ?_⟩
  rw [hreader]
  refine reader_eq_ok_iff.mpr ⟨_, ?_, readExtract_setMember hmembers⟩
  rw [Payload.withoutWriting, hpayload]
  rfl

end

/-! ## The promises -/

/-- A request is a query if it reads as one; its method counts in upper case. -/
theorem receive_eq_query_iff {i : Incoming} {query : Query} :
    http.receive i = .query query ↔
      readQuery (upper i.method) (targetPath i.target) i.payload = .ok query := by
  simp only [http]
  cases readQuery (upper i.method) (targetPath i.target) i.payload with
  | ok q => exact ⟨fun h => congrArg _ (Received.query.inj h), fun h => congrArg _ (Except.ok.inj h)⟩
  | error response => exact iff_of_false (by simp) (by simp)

/-- A reply is sent as it is, if its document can be encoded, and fails otherwise.  Which of the reasons
    is told does not matter here. -/
theorem send_eq_ok_iff {i : Incoming} {reply : Reply} {response : Response} :
    http.send i reply = .ok response ↔
      reply.document.isSendable = true ∧ response = .replied reply := by
  show (Response.replied reply).sent = .ok response ↔ _
  rw [Response.sent]
  by_cases hsendable : reply.document.isSendable = true
  · rw [if_pos hsendable, Except.ok.injEq, and_iff_right hsendable, eq_comm]
  · rw [if_neg hsendable]
    refine iff_of_false (fun h => ?_) fun h => hsendable h.1
    split at h <;> exact absurd h (by simp)

/-- **HTTP keeps the promises of a framework.**  Two are about what comes in, and were shown above; the
    others are about what goes out, which is the reply itself. -/
theorem http_lawful : http.Lawful where
  path_of_query _ _ h := path_of_readQuery (receive_eq_query_iff.mp h)
  status_of_send _ _ _ h := by
    obtain ⟨-, rfl⟩ := send_eq_ok_iff.mp h
    rfl
  document_of_send _ _ _ h := by
    obtain ⟨-, rfl⟩ := send_eq_ok_iff.mp h
    rfl
  exists_send_iff _ _ :=
    ⟨fun ⟨_, h⟩ => (send_eq_ok_iff.mp h).1,
      fun hsendable => ⟨_, send_eq_ok_iff.mpr ⟨hsendable, rfl⟩⟩⟩
  receive_withoutWriting _ _ _ _ _ h :=
    receive_eq_query_iff.mpr (readQuery_withoutWriting (receive_eq_query_iff.mp h))

/-- **A system whose names are bytes keeps the promises of a host.**  A text has no halves that would have
    to stand for bytes, and what is told of a place is told by the characters of its path. -/
theorem byteHost_lawful (workingDirectory : Place) : (byteHost workingDirectory).Lawful where
  path?_of_whole s hwhole := by
    have hnone : s.halves = [] := List.isEmpty_iff.mp hwhole
    show (if s.halves.all isEscapedByte = true then some s.text else none) = some s.text
    rw [hnone]
    rfl
  told_of_whole _ _ _ := rfl

end Service

end ClassLift
