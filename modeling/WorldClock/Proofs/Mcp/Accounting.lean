import WorldClock.Proofs.Mcp.Correlation
import WorldClock.Proofs.Mcp.Handshake
import WorldClock.Proofs.Metrics.Tally
/-!
# Which messages are counted

The metrics of a server count the calls of its tools that have a result, whatever session they come
on, and tell the good results from the bad ones. Only one kind of call has no result: a question for
the time in a zone whose clocks cannot show it. It is not counted, though it is a call of a tool
(`Exchange.accounting`).
-/

namespace WorldClock

/-! ### Calls in messages -/

/-- The call of a tool that a request is. -/
def Request.call? (request : Request) : Option ToolCall :=
  if request.method = "tools/call" then
    request.params.bind fun params => (ToolCall.ofJson params).toOption
  else none

/-- The call of a tool that a message asks for, if its session counts as greeted. -/
def askedCall? (greeted : Bool) (message : Bytes) : Option ToolCall :=
  (Request.ofBytes? message).bind fun request =>
    if greeted = true ∧ request.version = "2.0" then request.call? else none

lemma Request.call?_eq_some_iff {request : Request} {call : ToolCall} :
    request.call? = some call ↔ request.method = "tools/call" ∧
      ∃ params, request.params = some params ∧ ToolCall.ofJson params = .ok call := by
  simp only [call?, Option.ite_none_right_eq_some, Option.bind_eq_some_iff]
  refine and_congr_right fun _ => exists_congr fun params => and_congr_right fun _ => ?_
  cases ToolCall.ofJson params <;> simp [Except.toOption]

lemma askedCall?_eq_some_iff {greeted : Bool} {message : Bytes} {call : ToolCall} :
    askedCall? greeted message = some call ↔ ∃ request, Request.ofBytes? message = some request ∧
      (greeted = true ∧ request.version = "2.0") ∧ request.call? = some call := by
  simp only [askedCall?, Option.bind_eq_some_iff, Option.ite_none_right_eq_some]

/-- A call that was asked for, when, and which zones the server knew. -/
structure Asked where
  moment : Moment
  zones : ZoneTable
  call : ToolCall

namespace Asked

/-- The result of a call, if there is one. Calls may take a limited time. -/
def result? (limit : Duration) (asked : Asked) : Option ToolResult :=
  (asked.call.run asked.moment.now asked.zones).toOption.map fun result =>
    result.within limit (some 0)

/-- The call as it is counted, if it has a result. -/
def counted? (limit : Duration) (asked : Asked) : Option Call :=
  (asked.result? limit).map fun result =>
    ⟨asked.call.name, asked.moment.elapsed, !result.isError, asked.moment.now⟩

lemma result?_eq_none_iff {limit : Duration} {asked : Asked} :
    asked.result? limit = none ↔ asked.call.Overruns asked.zones asked.moment.now := by
  rw [← ToolCall.stops_run_iff, result?, Option.map_eq_none_iff]
  cases asked.call.run asked.moment.now asked.zones <;> simp [Except.toOption]

end Asked

/-- Statistics tell of calls that were asked for how many have a result, and how many of the results
are good and how many are bad. -/
structure CallStats.Accounts (limit : Duration) (stats : CallStats) (asked : List Asked) :
    Prop where
  total : stats.total = asked.countP fun asked => (asked.result? limit).isSome
  successful : stats.successful = asked.countP fun asked =>
    (asked.result? limit).any fun result => !result.isError
  failed : stats.failed = asked.countP fun asked =>
    (asked.result? limit).any fun result => result.isError

namespace Asked

lemma callsOf_counted (limit : Duration) (name : String) (asked : List Asked) :
    callsOf name (asked.filterMap (counted? limit)) =
      (asked.filter fun asked => asked.call.name = name).filterMap (counted? limit) := by
  rw [callsOf, List.filter_filterMap, List.filterMap_filter]
  congr 1
  funext asked
  by_cases h : asked.call.name = name <;>
    cases hresult : asked.result? limit <;> simp [counted?, h, hresult]

lemma accounts_of_counts {limit : Duration} {stats : CallStats} {asked : List Asked}
    (h : stats.Counts (asked.filterMap (counted? limit))) : stats.Accounts limit asked where
  total := by
    rw [h.total, List.length_filterMap_eq_countP]
    simp [counted?]
  successful := by
    rw [h.successful, List.countP_filterMap]
    congr 1
    funext asked
    cases hresult : asked.result? limit <;> simp [counted?, hresult]
  failed := by
    rw [h.failed, List.countP_filterMap]
    congr 1
    funext asked
    cases hresult : asked.result? limit <;> simp [counted?, hresult]

end Asked

/-- All calls are counted exactly if all of them have a result. -/
lemma CallStats.Accounts.total_eq_length_iff {limit : Duration} {stats : CallStats}
    {asked : List Asked} (h : stats.Accounts limit asked) :
    stats.total = asked.length ↔
      ∀ call ∈ asked, ¬ call.call.Overruns call.zones call.moment.now := by
  rw [h.total, List.countP_eq_length]
  refine forall₂_congr fun call _ => ?_
  rw [← @Asked.result?_eq_none_iff limit, Option.isSome_iff_ne_none]

namespace Metrics

/-- The metrics after a call, if there is one to be counted. -/
def recordAny (metrics : Metrics) (call? : Option Call) : Metrics :=
  call?.elim metrics metrics.record

@[simp] lemma recordAny_none (metrics : Metrics) : metrics.recordAny none = metrics := rfl

@[simp] lemma recordAny_some (metrics : Metrics) (call : Call) :
    metrics.recordAny (some call) = metrics.record call := rfl

end Metrics

/-- Nobody is told a reply that was not given. -/
lemma Request.eq_reply_of_told {request : Request} {answer : Answer} {reply : Response}
    (h : request.told answer = .reply reply) : answer = .reply reply := by
  cases answer with
  | silence => exact h
  | stopped cause => exact h
  | reply given =>
    rw [Request.told] at h
    split_ifs at h
    exact h

namespace Server

lemma metrics_callTool (limit : Duration) (table : ZoneTable) (moment : Moment) (metrics : Metrics)
    {request : Request} (hmethod : request.method = "tools/call") :
    (callTool limit table moment metrics request).1 =
      metrics.recordAny
        ((request.call?.map (Asked.mk moment table)).bind (Asked.counted? limit)) := by
  simp only [callTool, Request.call?, hmethod, if_true]
  cases hparams : request.params with
  | none => rfl
  | some params =>
    simp only [Option.bind_some]
    cases hcall : ToolCall.ofJson params with
    | error error => rfl
    | ok call =>
      simp only [Except.toOption, Option.map_some, Option.bind_some, Asked.counted?, Asked.result?]
      cases call.run moment.now table <;> rfl

/-- Calls of tools are all that is counted. -/
lemma metrics_dispatch (limit : Duration) (table : ZoneTable) (moment : Moment) (metrics : Metrics)
    (request : Request) :
    (dispatch limit table moment metrics request).1 =
      metrics.recordAny
        ((request.call?.map (Asked.mk moment table)).bind (Asked.counted? limit)) := by
  by_cases hmethod : request.method = "tools/call"
  · have hfound : Method.ofName? request.method = some .callTool :=
      Method.ofName_eq_some_iff.2 hmethod
    rw [← metrics_callTool limit table moment metrics hmethod]
    simp only [dispatch, hfound]
  · have hother : Method.ofName? request.method ≠ some .callTool :=
      fun hfound => hmethod (Method.ofName_eq_some_iff.1 hfound)
    rw [Request.call?, if_neg hmethod]
    unfold dispatch
    split <;> first | rfl | contradiction

/-- A message leaves a server as it is, but for a call that is counted. -/
lemma server_handle (server : Server) (moment : Moment) (greeted : Bool) (message : Bytes) :
    (server.handle moment greeted message).server =
      { server with
        metrics := server.metrics.recordAny
          (((askedCall? greeted message).map (Asked.mk moment server.zones)).bind
            (Asked.counted? server.toolTimeout)) } := by
  rw [askedCall?]
  cases hr : Request.ofBytes? message with
  | none => simp [handle_of_none _ _ _ hr]
  | some request =>
    have hcourse := Course.of_handle server moment greeted hr
    rw [Option.bind_some]
    generalize server.handle moment greeted message = turn at hcourse
    cases hcourse with
    | otherVersion hversion => simp [show request.version ≠ "2.0" from hversion]
    | ungreeted hversion hmethod => simp
    | greeting hversion hmethod =>
      have hcall : request.call? = none := by
        rw [Request.call?, hmethod, if_neg (by decide)]
      simp [hcall]
    | carriedOut hversion hmethod =>
      rw [if_pos ⟨rfl, hversion⟩, metrics_dispatch]

/-- The reply to a call that is asked for is its result. -/
lemma reply_of_asked (server : Server) (moment : Moment) {greeted : Bool} {message : Bytes}
    {call : ToolCall} {reply : Response} (hasked : askedCall? greeted message = some call)
    (hreply : (server.handle moment greeted message).answer = .reply reply) :
    ∃ id result, (Asked.mk moment server.zones call).result? server.toolTimeout = some result ∧
      reply = .success id result.json := by
  obtain ⟨request, hr, ⟨rfl, hversion⟩, hcall⟩ := askedCall?_eq_some_iff.1 hasked
  obtain ⟨hmethod, params, hparams, hcall⟩ := Request.call?_eq_some_iff.1 hcall
  have hdispatch : (dispatch server.toolTimeout server.zones moment server.metrics request).2 =
      .reply reply := by
    have hcourse := Course.of_handle server moment true hr
    generalize server.handle moment true message = turn at hcourse hreply
    cases hcourse with
    | otherVersion h => exact absurd hversion h
    | greeting _ h => exact absurd (hmethod.symm.trans h) (by decide)
    | carriedOut => exact Request.eq_reply_of_told hreply
  have hfound : Method.ofName? request.method = some .callTool :=
    Method.ofName_eq_some_iff.2 hmethod
  simp only [dispatch, hfound, callTool, hparams, hcall] at hdispatch
  rw [Asked.result?]
  cases hrun : call.run moment.now server.zones with
  | error cause => simp [hrun] at hdispatch
  | ok result =>
    simp only [hrun] at hdispatch
    split_ifs at hdispatch
    cases hdispatch
    exact ⟨_, _, rfl, rfl⟩

end Server

/-! ### Whole runs -/

namespace Exchange

/-- The call that a delivery asks for. -/
def asked? (exchange : Exchange) (delivery : Delivery) : Option Asked :=
  (askedCall? (exchange.greeted delivery.session) delivery.message).map
    (Asked.mk delivery.moment exchange.server.zones)

/-- The calls that deliveries ask for, one after another. -/
def asked (exchange : Exchange) : List Delivery → List Asked
  | [] => []
  | delivery :: deliveries =>
    (exchange.asked? delivery).toList ++ (exchange.hear delivery).1.asked deliveries

lemma server_hear (exchange : Exchange) (delivery : Delivery) :
    (exchange.hear delivery).1.server =
      { exchange.server with
        metrics := exchange.server.metrics.recordAny
          ((exchange.asked? delivery).bind (Asked.counted? exchange.server.toolTimeout)) } :=
  Server.server_handle _ _ _ _

/-- In the end the calls that have a result are counted, and nothing else. -/
lemma server_hearAll (exchange : Exchange) (deliveries : List Delivery) :
    (exchange.hearAll deliveries).server =
      { exchange.server with
        metrics :=
          ((exchange.asked deliveries).filterMap (Asked.counted? exchange.server.toolTimeout)).foldl
            Metrics.record exchange.server.metrics } := by
  induction deliveries generalizing exchange with
  | nil => rfl
  | cons delivery deliveries ih =>
    rw [hearAll_cons, ih, server_hear, asked, List.filterMap_append]
    cases hasked : exchange.asked? delivery with
    | none => rfl
    | some asked =>
      cases hcounted : asked.counted? exchange.server.toolTimeout with
      | none => simp [hcounted]
      | some call => simp [hcounted]

/-- The calls of a tool that deliveries ask for. -/
def askedOf (exchange : Exchange) (tool : Tool) (deliveries : List Delivery) : List Asked :=
  (exchange.asked deliveries).filter fun asked => asked.call.name = tool.name

section Start

variable {start : Exchange} {toolTimeout : Duration} {zones : ZoneTable}

/-- The server after some messages, if it was new before them. -/
lemma server_hearAll_start (hstart : start.server = .start toolTimeout zones)
    (deliveries : List Delivery) :
    (start.hearAll deliveries).server =
      ⟨toolTimeout, .ofCalls (Tool.all.map Tool.name)
        ((start.asked deliveries).filterMap (Asked.counted? toolTimeout)), zones⟩ := by
  rw [server_hearAll, hstart]
  rfl

lemma toolNames_hearAll (hstart : start.server = .start toolTimeout zones)
    (deliveries : List Delivery) :
    (start.hearAll deliveries).server.metrics.toolNames = ["convert_time", "get_system_time"] := by
  rw [server_hearAll_start hstart, Metrics.toolNames_ofCalls]
  decide

lemma exists_stats_hearAll (hstart : start.server = .start toolTimeout zones) (tool : Tool)
    (deliveries : List Delivery) :
    ∃ stats, (start.hearAll deliveries).server.metrics.stats? tool.name = some stats ∧
      stats.Accounts toolTimeout (start.askedOf tool deliveries) := by
  have hknown : tool.name ∈ Tool.all.map Tool.name := by cases tool <;> decide
  rw [server_hearAll_start hstart]
  refine ⟨_, Metrics.stats?_ofCalls hknown _, Asked.accounts_of_counts ?_⟩
  rw [askedOf, ← Asked.callsOf_counted]
  exact CallStats.counts_ofCalls _

end Start

lemma server_hear_of_not_asked {exchange : Exchange} {delivery : Delivery}
    (h : ∀ asked, exchange.asked? delivery = some asked →
      asked.call.name ∉ exchange.server.metrics.toolNames) :
    (exchange.hear delivery).1.server = exchange.server := by
  rw [server_hear]
  cases hasked : exchange.asked? delivery with
  | none => rfl
  | some asked =>
    rw [Option.bind_some, Asked.counted?]
    cases asked.result? exchange.server.toolTimeout with
    | none => rfl
    | some result =>
      rw [Option.map_some, Metrics.recordAny_some, Metrics.record_of_notMem (h asked hasked)]

/-- What the metrics of a server say of the calls that messages on its sessions ask for. -/
theorem accounting (toolTimeout : Duration) (zones : ZoneTable) (greeted : SessionNumber → Bool)
    (deliveries : List Delivery) :
    let start : Exchange := ⟨.start toolTimeout zones, greeted⟩
    let metrics := (start.hearAll deliveries).server.metrics
    metrics.toolNames = ["convert_time", "get_system_time"] ∧
    (∀ tool : Tool, ∃ stats, metrics.stats? tool.name = some stats ∧
      let asked := start.askedOf tool deliveries
      stats.Accounts toolTimeout asked ∧
      (stats.total = asked.length ↔
        ∀ call ∈ asked, ¬ call.call.Overruns call.zones call.moment.now) ∧
      (tool = .conversion → stats.total = asked.length)) ∧
    ∀ earlier delivery later, deliveries = earlier ++ delivery :: later →
      let before := start.hearAll earlier
      ((∀ asked, before.asked? delivery = some asked →
          ∀ tool : Tool, asked.call.name ≠ tool.name) →
        (before.hear delivery).1.server = before.server) ∧
      ∀ asked reply, before.asked? delivery = some asked →
        (before.hear delivery).2 = .reply reply →
        ∃ id result, asked.result? toolTimeout = some result ∧
          reply = .success id result.json := by
  intro start metrics
  have hstart : start.server = .start toolTimeout zones := rfl
  refine ⟨toolNames_hearAll hstart deliveries, fun tool => ?_, ?_⟩
  · obtain ⟨stats, hstats, haccounts⟩ := exists_stats_hearAll hstart tool deliveries
    refine ⟨stats, hstats, haccounts, haccounts.total_eq_length_iff, ?_⟩
    rintro rfl
    refine haccounts.total_eq_length_iff.2 fun call hcall hoverruns => ?_
    obtain ⟨-, hown⟩ := List.mem_filter.1 hcall
    obtain ⟨-, -, hname, -⟩ := hoverruns
    rw [decide_eq_true_eq, hname] at hown
    exact absurd hown (by decide)
  · rintro earlier delivery later rfl before
    constructor
    · intro hother
      apply server_hear_of_not_asked
      intro asked hasked
      rw [toolNames_hearAll hstart, List.mem_pair]
      rintro (hname | hname)
      · exact hother asked hasked .conversion hname
      · exact hother asked hasked .currentTime hname
    · intro asked reply hasked hreply
      obtain ⟨call, hcall, rfl⟩ := Option.map_eq_some_iff.1 hasked
      have htimeout : before.server.toolTimeout = toolTimeout := by
        rw [server_hearAll_start hstart]
      rw [← htimeout]
      exact Server.reply_of_asked _ _ hcall hreply

/-! ### A call that is not counted -/

/-- A text that asks for the time in Tokyo. -/
def tokyoText : String :=
  "\x7b\"jsonrpc\":\"2.0\",\"id\":1,\"method\":\"tools/call\"," ++
    "\"params\":\x7b\"arguments\":\x7b\"timezone\":\"Asia/Tokyo\"\x7d," ++
      "\"name\":\"get_system_time\"\x7d\x7d"

/-- The arguments of the tool. -/
def tokyoArguments : Json := .obj [("timezone", .str "Asia/Tokyo")]

/-- The parameters of the request. -/
def tokyoParams : Json := .obj [("arguments", tokyoArguments), ("name", .str "get_system_time")]

/-- The parameters as they stand in the text. -/
def tokyoTree : Json.Tree :=
  .object [(some "arguments", .object [(some "timezone", .text (some "Asia/Tokyo"))]),
    (some "name", .text (some "get_system_time"))]

/-- The request that the text holds. -/
def tokyoRequest : Request := ⟨"2.0", some (.number 1), "tools/call", some tokyoParams⟩

lemma value_tokyoTree : tokyoTree.value? 126 = some tokyoParams := by
  simp only [tokyoTree, Json.Tree.value?, Json.Tree.members?, List.reverse_cons, List.reverse_nil,
    List.nil_append, List.singleton_append, Option.map_some]
  rw [Table.gather_eq_self (by decide), Table.gather_eq_self (by decide)]
  rfl

lemma ofBytes_tokyoText : Request.ofBytes? (.ofText tokyoText) = some tokyoRequest := by
  have hscan : Json.scan (Text.trimmed tokyoText.toList) = some [
      .openObject, .text (some "jsonrpc"), .colon, .text (some "2.0"), .comma,
      .text (some "id"), .colon, .number ⟨false, ['1'], [], none⟩, .comma,
      .text (some "method"), .colon, .text (some "tools/call"), .comma,
      .text (some "params"), .colon, .openObject,
      .text (some "arguments"), .colon, .openObject,
      .text (some "timezone"), .colon, .text (some "Asia/Tokyo"), .closeObject, .comma,
      .text (some "name"), .colon, .text (some "get_system_time"),
      .closeObject, .closeObject] := by
    decide +kernel
  have htree : Json.Tree.ofText? (Text.trimmed tokyoText.toList) = some (.object [
      (some "jsonrpc", .text (some "2.0")), (some "id", .number ⟨false, ['1'], [], none⟩),
      (some "method", .text (some "tools/call")), (some "params", tokyoTree)]) := by
    rw [Json.Tree.ofText?, hscan]
    rfl
  have hid : RequestId.ofTree? (.number ⟨false, ['1'], [], none⟩) = some (some (.number 1)) := by
    cbv
  have hparams : paramsOfTree? tokyoTree = some (some tokyoParams) :=
    congrArg (Option.map some) value_tokyoTree
  rw [Request.ofBytes_ofText (by decide +kernel), htree, Option.bind_some]
  simp [Request.ofTree?, Json.Tree.only?, Request.ofParts?, hid, hparams, Json.Tree.text?]
  rfl

lemma askedCall?_tokyoText : askedCall? true (.ofText tokyoText) =
    some ⟨"get_system_time", some tokyoArguments⟩ :=
  askedCall?_eq_some_iff.2 ⟨tokyoRequest, ofBytes_tokyoText, ⟨rfl, rfl⟩,
    Request.call?_eq_some_iff.2 ⟨rfl, _, rfl, rfl⟩⟩

lemma readArguments_tokyo :
    Tool.readArguments .currentTime CurrentTimeArguments.ofJson (some tokyoArguments) =
      .ok ⟨some "Asia/Tokyo"⟩ := by
  have hvalid : (validate Tool.currentTime.inputSchema tokyoArguments).isOk = true := by
    decide +kernel
  have hdecoded : CurrentTimeArguments.ofJson tokyoArguments = .ok ⟨some "Asia/Tokyo"⟩ := rfl
  rw [Tool.readArguments, Option.getD_some]
  cases h : validate Tool.currentTime.inputSchema tokyoArguments with
  | error refusal =>
    rw [h] at hvalid
    cases hvalid
  | ok => simp [hdecoded]

/-- The call in the text, at an instant at which the clocks of Tokyo show no time. -/
def tokyoAsked : Asked :=
  ⟨⟨Server.lastInstant, 0⟩, Zone.find?, ⟨"get_system_time", some tokyoArguments⟩⟩

lemma result?_tokyoAsked (limit : Duration) : tokyoAsked.result? limit = none :=
  Asked.result?_eq_none_iff.2 <|
    .localTime _ _ rfl readArguments_tokyo Zone.ofName_tokyo Server.not_inRange_tokyo

/-- A call of a tool on a session that counts as greeted, which is not counted. -/
theorem accounting_overrun :
    let start : Exchange := ⟨.start (30 * nanosPerSecond), fun _ => true⟩
    let delivery : Delivery := ⟨0, ⟨Server.lastInstant, 0⟩, .ofText tokyoText⟩
    start.askedOf .currentTime [delivery] = [tokyoAsked] ∧
      ∃ stats, (start.hearAll [delivery]).server.metrics.stats? Tool.currentTime.name = some stats ∧
        stats.total = 0 := by
  intro start delivery
  have hasked : start.askedOf .currentTime [delivery] = [tokyoAsked] := by
    have hcall : start.asked? delivery = some tokyoAsked :=
      congrArg (Option.map (Asked.mk delivery.moment Zone.find?)) askedCall?_tokyoText
    simp [askedOf, asked, hcall, tokyoAsked, Tool.name]
  have hstart : start.server = .start (30 * nanosPerSecond) := rfl
  obtain ⟨stats, hstats, haccounts⟩ := exists_stats_hearAll hstart .currentTime [delivery]
  refine ⟨hasked, stats, hstats, ?_⟩
  rw [haccounts.total, hasked, List.countP_singleton, result?_tokyoAsked]
  rfl

end Exchange

end WorldClock
