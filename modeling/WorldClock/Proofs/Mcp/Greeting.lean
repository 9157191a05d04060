import WorldClock.Proofs.Mcp.Turn
import WorldClock.Proofs.Rpc.Envelope
/-!
# The revision of a session

Which revision of the protocol a greeting is answered with. It is the one that the client asks for,
if the server speaks it, and else the latest one; but a client that says of itself what cannot be
read gets the latest one in any case (`Server.revision_of_greeting`).
-/

namespace WorldClock

variable {members : List (String × Json)} {revision client value : Json}

/-! ### What a greeting says -/

/-- A text, or null in place of one. -/
def Json.IsOptionalText (value : Json) : Prop :=
  value = .null ∨ ∃ text, value = .str text

/-- What a client may say of itself: nothing, or its name and its version, each of which may be left
out of an object. -/
inductive Json.DescribesClient : Json → Prop
  | nothing : DescribesClient .null
  | object {members : List (String × Json)}
      (hname : ∀ name ∈ members.lookup "name", name.IsOptionalText)
      (hversion : ∀ version ∈ members.lookup "version", version.IsOptionalText) :
      DescribesClient (.obj members)
  | pair {name version : Json} (hname : name.IsOptionalText) (hversion : version.IsOptionalText) :
      DescribesClient (.arr [name, version])

namespace Greeting

/-- The revision that a greeting asks for, if the server speaks it, and else the latest one. -/
def wantedRevision (members : List (String × Json)) : String :=
  match members.lookup "protocolVersion" with
  | some (.str asked) => if asked ∈ supportedRevisions then asked else latestRevision
  | _ => latestRevision

/-- Whether what a greeting says of the client can be read, if it says anything. -/
def IsReadable (members : List (String × Json)) : Prop :=
  ∀ client ∈ members.lookup "clientInfo", client.DescribesClient

end Greeting

/-! ### Reading a greeting -/

lemma Json.isSome_asText?_iff : value.asText?.toOption.isSome = true ↔ value.IsOptionalText := by
  cases value <;> simp [asText?, asText, IsOptionalText, Except.map, Except.toOption]

lemma Json.isSome_textMember?_iff {name : String} :
    (Json.textMember? members name).toOption.isSome = true ↔
      ∀ value ∈ members.lookup name, value.IsOptionalText := by
  rw [textMember?, isSome_asText?_iff]
  cases members.lookup name with
  | none => simp [IsOptionalText]
  | some value => simp

/-- What a client says of itself can be read exactly if it is what it may say. -/
lemma ClientInfo.isSome_ofJson?_iff (h : value ≠ .null) :
    (ClientInfo.ofJson? value).isSome = true ↔ value.DescribesClient := by
  unfold ofJson?
  split
  · next members =>
    have hboth : (Json.DescribesClient (.obj members)) ↔
        (Json.textMember? members "name").toOption.isSome = true ∧
          (Json.textMember? members "version").toOption.isSome = true := by
      rw [Json.isSome_textMember?_iff, Json.isSome_textMember?_iff]
      exact ⟨fun h => by cases h with | object hname hversion => exact ⟨hname, hversion⟩,
        fun h => .object h.1 h.2⟩
    rw [hboth]
    cases (Json.textMember? members "name").toOption <;>
      cases (Json.textMember? members "version").toOption <;> simp
  · next name version =>
    have hboth : (Json.DescribesClient (.arr [name, version])) ↔
        name.asText?.toOption.isSome = true ∧ version.asText?.toOption.isSome = true := by
      rw [Json.isSome_asText?_iff, Json.isSome_asText?_iff]
      exact ⟨fun h => by cases h with | pair hname hversion => exact ⟨hname, hversion⟩,
        fun h => .pair h.1 h.2⟩
    rw [hboth]
    cases name.asText?.toOption <;> cases version.asText?.toOption <;> simp
  · next hobject hpair =>
    refine iff_of_false Bool.false_ne_true ?_
    rintro (_ | _ | _)
    · exact h rfl
    · exact hobject _ rfl
    · exact hpair _ _ rfl

namespace Greeting

/-- What is read of a greeting that says something of the client. -/
lemma ofParts?_of_ne_null (h : client ≠ .null) :
    ofParts? revision client = revision.asText?.toOption.bind fun revision =>
      (ClientInfo.ofJson? client).map fun client => ⟨revision, some client⟩ := by
  cases client with
  | null => exact absurd rfl h
  | bool | int | float | str | arr | obj => rfl

/-- A greeting asks for the revision that it names, if its other part can be read. -/
lemma bind_ofParts?_of_describes (h : client.DescribesClient) :
    (ofParts? revision client).bind Greeting.revision = revision.str? := by
  have hrevision : revision.asText?.toOption.bind id = revision.str? := by
    cases revision <;> rfl
  rw [← hrevision]
  by_cases hnull : client = .null
  · subst hnull
    cases hasked : revision.asText?.toOption <;> simp [ofParts?, hasked, Json.unlessNull]
  · obtain ⟨info, hinfo⟩ := Option.isSome_iff_exists.1 ((ClientInfo.isSome_ofJson?_iff hnull).2 h)
    rw [ofParts?_of_ne_null hnull, hinfo]
    cases revision.asText?.toOption <;> rfl

/-- Nothing is read of a greeting with a part that cannot be. -/
lemma ofParts?_of_not_describes (h : ¬ client.DescribesClient) :
    ofParts? revision client = none := by
  have hnull : client ≠ .null := by
    rintro rfl
    exact h .nothing
  have hnone : ClientInfo.ofJson? client = none := by
    rwa [← Option.not_isSome_iff_eq_none, ClientInfo.isSome_ofJson?_iff hnull]
  rw [ofParts?_of_ne_null hnull, hnone]
  cases revision.asText?.toOption <;> rfl

lemma isReadable_iff : IsReadable members ↔
    ((members.lookup "clientInfo").getD .null).DescribesClient := by
  rw [IsReadable]
  cases members.lookup "clientInfo" with
  | none => simpa using .nothing
  | some client => simp

/-- What the server answers is the revision that is wanted, if all of the greeting can be read. -/
lemma negotiate_of_isReadable (h : IsReadable members) :
    negotiate ((ofJson? (.obj members)).bind Greeting.revision) = wantedRevision members := by
  have hstr : ((members.lookup "protocolVersion").getD .null).str? =
      (members.lookup "protocolVersion").bind Json.str? := by
    cases members.lookup "protocolVersion" <;> rfl
  rw [ofJson?, bind_ofParts?_of_describes (isReadable_iff.1 h), hstr, wantedRevision]
  cases members.lookup "protocolVersion" with
  | none => rfl
  | some asked =>
    cases asked with
    | str asked => simp [Json.str?, negotiate]
    | null | bool | int | float | arr | obj => rfl

lemma negotiate_of_not_isReadable (h : ¬ IsReadable members) :
    negotiate ((ofJson? (.obj members)).bind Greeting.revision) = latestRevision := by
  rw [ofJson?, ofParts?_of_not_describes (isReadable_iff.not.1 h)]
  rfl

end Greeting

lemma get?_greetingResult (params : Option Json) :
    (greetingResult params).get? "protocolVersion" =
      some (.str (negotiate ((params.bind Greeting.ofJson?).bind Greeting.revision))) := by
  rw [greetingResult, Json.object, Json.get?, Table.lookup_ofList (by simp)]
  rfl

/-! ### Greetings -/

/-- A greeting is answered with the revision that it asks for, if the server speaks it, and else
with the latest one, as long as what it says of the client can be read. If that cannot be read, it
is answered with the latest one. -/
theorem Server.revision_of_greeting (server : Server) (moment : Moment) (greeted : Bool)
    {message : Bytes} {request : Request} {id : RequestId}
    (hmessage : Request.ofBytes? message = some request) (hversion : request.version = "2.0")
    (hmethod : request.method = "initialize") (hid : request.id = some id)
    (hparams : request.params = some (.obj members)) :
    ∃ result revision,
      (server.handle moment greeted message).answer = .reply (.success (some id) result) ∧
      result.get? "protocolVersion" = some (.str revision) ∧
      (Greeting.IsReadable members → revision = Greeting.wantedRevision members) ∧
      (¬ Greeting.IsReadable members → revision = latestRevision) := by
  refine ⟨greetingResult request.params, _, ?_, get?_greetingResult _, fun h => ?_, fun h => ?_⟩
  · have hturn := server.handleRequest_greet moment greeted hversion hmethod
      (by simp [Request.isNotification, hid])
    simp only [handle, hmessage, hturn, hid]
  · rw [hparams, Option.bind_some, Greeting.negotiate_of_isReadable h]
  · rw [hparams, Option.bind_some, Greeting.negotiate_of_not_isReadable h]

/-- A greeting with some parameters. -/
def greetingMessage (params : Json) : Bytes :=
  .ofText (Json.obj [("jsonrpc", .str "2.0"), ("id", .int 1), ("method", .str "initialize"),
    ("params", params)]).text

lemma ofBytes_greetingMessage {params : Json} (hnull : params ≠ .null)
    (hplain : params.isPlain = true) (hdepth : params.depth < Json.maxDepth)
    (hsize : (greetingMessage params).length ≤ maxMessageBytes) :
    Request.ofBytes? (greetingMessage params) =
      some ⟨"2.0", some (.number 1), "initialize", some params.canonical⟩ := by
  have hmembers : (Json.obj [("jsonrpc", .str "2.0"), ("id", .int 1), ("method", .str "initialize"),
      ("params", params)]).isPlain = true := by
    simp [hplain, Json.isWord]
  refine (Request.ofBytes_eq_some_iff (Json.isPlain_obj.1 hmembers).2 ?_ ?_ hsize _).2
    ⟨rfl, .number rfl, rfl, .value hnull⟩
  · simpa [Json.depth, Json.membersDepth] using hdepth
  · simpa [greetingMessage] using
      @Json.IsWritten.text _ [] _ [] (List.forall_mem_nil _) (Json.spells_text hmembers)
        (List.forall_mem_nil _)

/-- Parameters that ask for an old revision, with what the client says of itself. -/
def oldGreeting (client : Json) : List (String × Json) :=
  [("clientInfo", client), ("protocolVersion", .str "2024-11-05")]

lemma canonical_oldGreeting {client : Json} (h : client.canonical = client) :
    (Json.obj (oldGreeting client)).canonical = .obj (oldGreeting client) := by
  rw [Json.canonical, Json.canonicalMembers_eq_self, Json.object, Table.ofList_eq_self]
  · exact List.pairwise_pair.2 (show "clientInfo" < "protocolVersion" by decide)
  · simp [oldGreeting, h, Json.canonical]

lemma Greeting.isReadable_oldGreeting_iff :
    IsReadable (oldGreeting client) ↔ client.DescribesClient := by
  simp [IsReadable, oldGreeting]

lemma Greeting.wantedRevision_oldGreeting : wantedRevision (oldGreeting client) = "2024-11-05" := by
  have hold : "2024-11-05" ∈ supportedRevisions := by decide
  simp [wantedRevision, oldGreeting, List.lookup_cons, hold]

lemma ofBytes_oldGreeting (hplain : client.isPlain = true) (hcanonical : client.canonical = client)
    (hdepth : (Json.obj (oldGreeting client)).depth < Json.maxDepth)
    (hsize : (greetingMessage (.obj (oldGreeting client))).length ≤ maxMessageBytes) :
    Request.ofBytes? (greetingMessage (.obj (oldGreeting client))) =
      some ⟨"2.0", some (.number 1), "initialize", some (.obj (oldGreeting client))⟩ := by
  rw [ofBytes_greetingMessage (by simp) (by simp [oldGreeting, hplain]) hdepth hsize,
    canonical_oldGreeting hcanonical]

/-- A client that tells its name asks for an old revision, and gets it. -/
theorem Server.revision_of_greeting_named :
    let moment : Moment := ⟨⟨0, 0, by decide, by decide⟩, 0⟩
    let members := oldGreeting (.obj [("name", .str "t")])
    let message := greetingMessage (.obj members)
    Request.ofBytes? message =
        some ⟨"2.0", some (.number 1), "initialize", some (.obj members)⟩ ∧
      Greeting.IsReadable members ∧
      ∃ result, ((Server.start 0).handle moment false message).answer =
          .reply (.success (some (.number 1)) result) ∧
        result.get? "protocolVersion" = some (.str "2024-11-05") := by
  intro moment members message
  have hmessage : Request.ofBytes? message =
      some ⟨"2.0", some (.number 1), "initialize", some (.obj members)⟩ :=
    ofBytes_oldGreeting (by decide) (by rfl) (by decide) (by decide +kernel)
  have hreadable : Greeting.IsReadable members := by
    refine Greeting.isReadable_oldGreeting_iff.2 (.object ?_ ?_)
    · rintro _ ⟨⟩
      exact .inr ⟨"t", rfl⟩
    · rintro _ ⟨⟩
  obtain ⟨result, revision, hanswer, hresult, hrevision, -⟩ :=
    (Server.start 0).revision_of_greeting moment false hmessage rfl rfl rfl rfl
  refine ⟨hmessage, hreadable, result, hanswer, ?_⟩
  rw [hresult, hrevision hreadable, Greeting.wantedRevision_oldGreeting]

/-- A client that gives a number in place of its description asks for an old revision, which the
server speaks, and gets the latest one. -/
theorem Server.latestRevision_of_greeting_numbered :
    let moment : Moment := ⟨⟨0, 0, by decide, by decide⟩, 0⟩
    let message := greetingMessage (.obj (oldGreeting (.int 5)))
    "2024-11-05" ∈ supportedRevisions ∧ (oldGreeting (.int 5)).lookup "protocolVersion" =
        some (.str "2024-11-05") ∧
      Request.ofBytes? message =
        some ⟨"2.0", some (.number 1), "initialize", some (.obj (oldGreeting (.int 5)))⟩ ∧
      ∃ result, ((Server.start 0).handle moment false message).answer =
          .reply (.success (some (.number 1)) result) ∧
        result.get? "protocolVersion" = some (.str "2025-06-18") := by
  intro moment message
  have hmessage : Request.ofBytes? message =
      some ⟨"2.0", some (.number 1), "initialize", some (.obj (oldGreeting (.int 5)))⟩ :=
    ofBytes_oldGreeting (by decide) (by rfl) (by decide) (by decide +kernel)
  have hunreadable : ¬ Greeting.IsReadable (oldGreeting (.int 5)) := by
    rw [Greeting.isReadable_oldGreeting_iff]
    nofun
  refine ⟨by decide, rfl, hmessage,
    greetingResult (some (.obj (oldGreeting (.int 5)))), ?_, ?_⟩
  · simp only [handle, hmessage]
    exact congrArg Turn.answer ((Server.start 0).handleRequest_greet moment false rfl rfl rfl)
  · rw [get?_greetingResult, Option.bind_some, Greeting.negotiate_of_not_isReadable hunreadable]
    rfl

end WorldClock
