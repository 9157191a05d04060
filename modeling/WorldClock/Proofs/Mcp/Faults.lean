import WorldClock.Proofs.Mcp.Replies
import WorldClock.Proofs.Names
/-!
# Faults on the wire

A fault travels in the text of a tool result or as the data of an error, and either travels in a
reply. Whatever its message, the client that reads the reply can tell the fault from it
(`Fault.read_back`).
-/

namespace WorldClock

/-! ### Faults as JSON -/

lemma FaultKind.ofName_eq_some_iff {name : String} {kind : FaultKind} :
    ofName? name = some kind ↔ name = kind.name :=
  find?_beq_eq_some_iff fun kind => by cases kind <;> decide

lemma Fault.data_rpcError (fault : Fault) : fault.rpcError.data = some fault.json := by
  unfold rpcError
  split_ifs <;> rfl

lemma RpcError.get?_data_members (error : RpcError) :
    (Json.obj error.members).get? "data" = error.data := by
  obtain ⟨code, message, data⟩ := error
  cases data <;> rfl

lemma Fault.ofJson_json (fault : Fault) : ofJson? fault.json = some fault := by
  have hkind : FaultKind.ofName? fault.kind.name = some fault.kind :=
    FaultKind.ofName_eq_some_iff.2 rfl
  simp [ofJson?, json, Json.get?, Json.str?, List.lookup_cons, hkind]

/-! ### Faults in texts -/

/-- There are no blanks around the text of a plain value. -/
lemma Json.trimmed_text {value : Json} (h : value.isPlain = true) :
    Text.trimmed value.text.toList = value.text.toList := by
  have hends := (spells_text h).hasEnds
  exact Text.trimmed_eq_self_iff.2 ⟨hends.head, hends.last⟩

/-- The blank at the end of a line does not keep a plain value in it from being read. -/
lemma Json.ofText_line {value : Json} (h : value.isPlain = true) (hdepth : value.depth ≤ maxDepth) :
    ofText? (Text.trimmed (value.text ++ "\n").toList) = some value.canonical := by
  have hblank : Text.isBlank '\n' = true := by decide
  have hline : (value.text ++ "\n").toList = value.text.toList ++ ['\n'] := String.toList_append
  rw [hline, Text.trimmed_append_blank hblank, trimmed_text h, ofText_text h hdepth]

lemma Fault.ofText_line (fault : Fault) :
    Json.ofText? (Text.trimmed (ToolResult.ofFault fault).text.toList) = some fault.json := by
  have hfits := fault.fits_json.mono (by decide : 2 ≤ Json.maxDepth)
  exact (Json.ofText_line hfits.plain hfits.depth_le).trans (congrArg some fault.canonical_json)

/-- The fault that a tool result tells of. -/
def ToolResult.fault? (result : ToolResult) : Option Fault :=
  if result.isError then
    (Json.ofText? (Text.trimmed result.text.toList)).bind Fault.ofJson?
  else none

@[simp] lemma ToolResult.fault?_ok (text : String) : (ok text).fault? = none := rfl

@[simp] lemma ToolResult.fault?_ofFault (fault : Fault) : (ofFault fault).fault? = some fault := by
  have herror : (ofFault fault).isError = true := rfl
  rw [fault?, if_pos herror, fault.ofText_line, Option.bind_some, fault.ofJson_json]

/-! ### Faults in replies -/

/-- The members of a tool result, in the order of their names. -/
def ToolResult.members (result : ToolResult) : List (String × Json) :=
  ("content", .arr [.obj [("text", .str result.text), ("type", .str "text")]]) ::
    if result.isError then [("isError", .bool true)] else []

lemma ToolResult.canonical_json (result : ToolResult) :
    result.json.canonical = .obj result.members := by
  have hblock (text : String) : (Json.obj [("type", .str "text"), ("text", .str text)]).canonical =
      .obj [("text", .str text), ("type", .str "text")] :=
    Json.canonical_obj rfl (.swap _ _ _) (by decide : ["text", "type"].Pairwise (· < ·))
  obtain ⟨text, isError⟩ := result
  have hcontent := congrArg (fun block => Json.arr [block]) (hblock text)
  cases isError with
  | false =>
    exact Json.canonical_obj (congrArg (fun content => [("content", content)]) hcontent) (.refl _)
      (by decide : ["content"].Pairwise (· < ·))
  | true =>
    exact Json.canonical_obj
      (congrArg (fun content => [("content", content), ("isError", Json.bool true)]) hcontent)
      (.refl _) (by decide : ["content", "isError"].Pairwise (· < ·))

namespace Response

lemma get?_result_members (id : Option RequestId) (value : Json) :
    (Json.obj (success id value).members).get? "result" = some value.canonical := by
  cases id <;> rfl

lemma get?_error_members (id : Option RequestId) (error : RpcError) :
    (Json.obj (failure id error).members).get? "error" = some (.obj error.members) := rfl

variable {id : Option RequestId}

/-- A tool result can be read in the text of a reply. -/
lemma exists_ofText_result (hid : ∀ held ∈ id, held.Fits) (result : ToolResult) :
    ∃ reply, Json.ofText? (success id result.json).text.toList = some reply ∧
      reply.get? "result" = some (.obj result.members) := by
  have houtcome : (success id result.json).outcome.Fits :=
    .result (result.fits_json.canonical.mono (by decide)) (Json.canonical_canonical _)
  refine ⟨_, ofText_text ⟨hid, houtcome⟩, ?_⟩
  rw [get?_result_members, result.canonical_json]

/-- The data of the error that tells of a fault can be read in the text of a reply. -/
lemma exists_ofText_fault (hid : ∀ held ∈ id, held.Fits) (fault : Fault) :
    ∃ reply, Json.ofText? (failure id fault.rpcError).text.toList = some reply ∧
      (reply.get? "error").bind (Json.get? "data") = some fault.json := by
  have hfits : Answer.Fits (.reply (.failure id fault.rpcError)) := Answer.fits_fault fault
  cases hfits with
  | reply houtcome =>
    refine ⟨_, ofText_text ⟨hid, houtcome⟩, ?_⟩
    rw [get?_error_members, Option.bind_some, RpcError.get?_data_members, fault.data_rpcError]

end Response

/-- A fault is not lost on its way to the client. The text of the tool result that tells of it is a
line; trimmed and read as JSON, it is an object with the kind and the message of the fault, from
which the fault can be told. The data of the error that tells of it is the same object. Both are
still so when the tool result, with this text as its only block, or the error is in a reply to
whatever request, the reply is written as a text, and the text is read. -/
theorem Fault.read_back (fault : Fault) {id : Option RequestId} (hid : ∀ held ∈ id, held.Fits) :
    let told := Json.obj [("error",
      .obj [("code", .str fault.kind.name), ("message", .str fault.message)])]
    let result := ToolResult.ofFault fault
    ofJson? told = some fault ∧
    (∃ front, result.text = front ++ "\n") ∧
    Json.ofText? (Text.trimmed result.text.toList) = some told ∧
    fault.rpcError.data = some told ∧
    (∃ reply, Json.ofText? (Response.success id result.json).text.toList = some reply ∧
      reply.get? "result" = some (.obj [
        ("content", .arr [.obj [("text", .str result.text), ("type", .str "text")]]),
        ("isError", .bool true)])) ∧
    ∃ reply, Json.ofText? (Response.failure id fault.rpcError).text.toList = some reply ∧
      (reply.get? "error").bind (Json.get? "data") = some told :=
  ⟨fault.ofJson_json, ⟨fault.json.text, rfl⟩, fault.ofText_line, fault.data_rpcError,
    Response.exists_ofText_result hid _, Response.exists_ofText_fault hid fault⟩

/-- A message with quotes, a backslash, a line break and blanks at its ends is not lost. -/
theorem Fault.read_back_awkward :
    let fault : Fault := ⟨.invalidTime, " \"24:00\"\\\n\x00 ü\u2028"⟩
    (∀ held ∈ some (RequestId.number 7), held.Fits) ∧
    ∃ reply, Json.ofText? (Response.failure (some (.number 7)) fault.rpcError).text.toList =
        some reply ∧
      ((reply.get? "error").bind (Json.get? "data")).bind ofJson? = some fault := by
  intro fault
  have hid : ∀ held ∈ some (RequestId.number 7), held.Fits := by
    rintro _ ⟨⟩ n ⟨⟩
    rfl
  obtain ⟨htold, -, -, -, -, reply, hreply, hdata⟩ := read_back fault hid
  refine ⟨hid, reply, hreply, ?_⟩
  rw [hdata, Option.bind_some, htold]

end WorldClock
