import WorldClock.Proofs.Mcp.Accounting
import WorldClock.Proofs.Metrics.Likeness
/-!
# Two servers and one message

What two servers answer to the same message at the same instant, whatever calls each of them has
counted and however long the call in the message takes on each (`Server.handle_agrees`). The answers
are the same, with two exceptions. A report of the metrics shows what has been counted, and a server
that cannot add up the durations of the calls comes to a stop.
-/

namespace WorldClock

/-! ### What can make a difference -/

/-- A request that asks for the metrics. -/
def Request.AsksForMetrics (request : Request) : Prop :=
  request.method = "resources/read" ∧
    ∃ params, request.params = some params ∧ resourceOfJson params = .ok "metrics://tools"

/-- A message that asks for the metrics. -/
def AsksForMetrics (message : Bytes) : Prop :=
  ∃ request, Request.ofBytes? message = some request ∧ request.AsksForMetrics

/-- The reply that shows a report. -/
def Report.reply (report : Report) (id : Option RequestId) : Response :=
  .success id (.obj [("contents", .arr [Resource.toolMetrics.content report.json])])

/-- The durations of the calls that are counted have a sum, also with one more call. -/
structure Metrics.HasRoom (metrics : Metrics) (elapsed : Duration) : Prop where
  accepts : ∀ call : Call, call.elapsed = elapsed → metrics.accepts call = true
  exists_report : ∃ report, metrics.report = .ok report

/-- Answers that are the same, but for two exceptions. If the metrics are asked for, there may be a
report in each of them, and these are alike in some way. If there is no room for the durations of
the calls, one of them may be a stop for want of room. -/
inductive Answer.Agrees (asks : Prop) (like : Report → Report → Prop) (room : Prop) :
    Answer → Answer → Prop
  | same (answer : Answer) : Agrees asks like room answer answer
  | reports (hasks : asks) (id : Option RequestId) {report report' : Report}
      (h : like report report') :
      Agrees asks like room (.reply (report.reply id)) (.reply (report'.reply id))
  | overflow {answer answer' : Answer} (hroom : ¬ room)
      (h : answer = .stopped .durationSum ∨ answer' = .stopped .durationSum) :
      Agrees asks like room answer answer'

namespace Answer.Agrees

variable {asks asks' : Prop} {like : Report → Report → Prop} {room : Prop}
  {answer answer' : Answer}

lemma mono (h : answer.Agrees asks like room answer') (himp : asks → asks') :
    answer.Agrees asks' like room answer' := by
  cases h with
  | same => exact .same _
  | reports hasks id h => exact .reports (himp hasks) id h
  | overflow hroom h => exact .overflow hroom h

/-- Who is told of no reply is told so by both servers. -/
lemma told (h : answer.Agrees asks like room answer') (request : Request) :
    (request.told answer).Agrees asks like room (request.told answer') := by
  cases h with
  | same => exact .same _
  | reports hasks id h =>
    simp only [Request.told]
    split_ifs
    · exact .same _
    · exact .reports hasks id h
  | overflow hroom h =>
    refine .overflow hroom (h.imp ?_ ?_) <;> rintro rfl <;> rfl

end Answer.Agrees

/-! ### Room in the metrics -/

/-- The calls that have been counted leave room as long as all durations have a sum. -/
lemma Metrics.hasRoom_ofCalls (names : List String) {calls : List Call} {elapsed : Duration}
    (h : timeOf calls + elapsed ≤ longestDuration) : (ofCalls names calls).HasRoom elapsed where
  accepts _ hcall := accepts_ofCalls names (hcall ▸ h)
  exists_report :=
    have ⟨_, hreport, _⟩ := exists_report_ofCalls names ((Nat.le_add_right _ _).trans h)
    ⟨_, hreport⟩

section

variable {cause : Breakdown}

lemma CallStats.eq_durationSum_of_merge {a b : CallStats} (h : a.merge b = .error cause) :
    cause = .durationSum := by
  unfold merge at h
  split_ifs at h
  cases h
  rfl

lemma eq_durationSum_of_foldlM_merge {tools : List (String × CallStats)} {done : CallStats}
    (h : tools.foldlM (fun done entry => done.merge entry.2) done = .error cause) :
    cause = .durationSum := by
  induction tools generalizing done with
  | nil => cases h
  | cons entry tools ih =>
    rw [List.foldlM_cons] at h
    cases hboth : done.merge entry.2 with
    | error cause' =>
      rw [hboth] at h
      cases h
      exact CallStats.eq_durationSum_of_merge hboth
    | ok both =>
      rw [hboth] at h
      exact ih h

/-- A report fails for one reason only. -/
lemma Metrics.eq_durationSum_of_report {metrics : Metrics} (h : metrics.report = .error cause) :
    cause = .durationSum := by
  simp only [report, reportOf, aggregate] at h
  cases htotals : metrics.totals with
  | error cause' =>
    rw [htotals] at h
    cases h
    exact eq_durationSum_of_foldlM_merge htotals
  | ok totals =>
    rw [htotals] at h
    cases h

end

namespace Server

variable {asks : Prop} {like : Report → Report → Prop} {room : Prop} {now : Instant}
  {elapsed elapsed' : Duration} {metrics metrics' : Metrics}

/-! ### Methods -/

lemma callTool_agrees (limit : Duration) (table : ZoneTable) (request : Request)
    (hroom : room → metrics.HasRoom elapsed) (hroom' : room → metrics'.HasRoom elapsed') :
    (callTool limit table ⟨now, elapsed⟩ metrics request).2.Agrees asks like room
      (callTool limit table ⟨now, elapsed'⟩ metrics' request).2 := by
  simp only [callTool]
  cases request.params with
  | none => exact .same _
  | some params =>
    dsimp only
    cases ToolCall.ofJson params with
    | error error => exact .same _
    | ok call =>
      dsimp only
      cases call.run now table with
      | error cause => exact .same _
      | ok result =>
        dsimp only
        split_ifs with h h' h'
        · exact .same _
        · exact .overflow (fun hr => h' ((hroom' hr).accepts _ rfl)) (.inr rfl)
        · exact .overflow (fun hr => h ((hroom hr).accepts _ rfl)) (.inl rfl)
        · exact .same _

lemma answerReading_agrees (table : ZoneTable) {request : Request}
    (hmethod : request.method = "resources/read")
    (hroom : room → metrics.HasRoom elapsed) (hroom' : room → metrics'.HasRoom elapsed')
    (hlike : ∀ report report', metrics.report = .ok report → metrics'.report = .ok report' →
      like report report') :
    (answerReading table ⟨now, elapsed⟩ metrics request).Agrees request.AsksForMetrics like room
      (answerReading table ⟨now, elapsed'⟩ metrics' request) := by
  unfold answerReading readResource
  split
  · exact .same _
  next params hparams =>
  split
  · exact .same _
  next uri huri =>
  cases hresource : Resource.ofUri? uri with
  | none => exact .same _
  | some resource =>
    cases resource with
    | timezones => exact .same _
    | worldTimes => exact .same _
    | toolMetrics =>
      obtain rfl : uri = "metrics://tools" := Resource.ofUri_eq_some_iff.1 hresource
      have hasks : request.AsksForMetrics := ⟨hmethod, params, hparams, huri⟩
      simp only [Resource.body]
      cases hreport : metrics.report with
      | error cause =>
        obtain rfl := Metrics.eq_durationSum_of_report hreport
        refine .overflow (fun hr => ?_) (.inl rfl)
        obtain ⟨report, h⟩ := (hroom hr).exists_report
        cases hreport.symm.trans h
      | ok report =>
        cases hreport' : metrics'.report with
        | error cause =>
          obtain rfl := Metrics.eq_durationSum_of_report hreport'
          refine .overflow (fun hr => ?_) (.inr rfl)
          obtain ⟨report, h⟩ := (hroom' hr).exists_report
          cases hreport'.symm.trans h
        | ok report' => exact .reports hasks request.id (hlike report report' hreport hreport')

lemma dispatch_agrees (limit : Duration) (table : ZoneTable) (request : Request)
    (hroom : room → metrics.HasRoom elapsed) (hroom' : room → metrics'.HasRoom elapsed')
    (hlike : ∀ report report', metrics.report = .ok report → metrics'.report = .ok report' →
      like report report') :
    (dispatch limit table ⟨now, elapsed⟩ metrics request).2.Agrees request.AsksForMetrics like room
      (dispatch limit table ⟨now, elapsed'⟩ metrics' request).2 := by
  unfold dispatch
  cases hmethod : Method.ofName? request.method with
  | none => exact .same _
  | some method =>
    cases method with
    | callTool => exact callTool_agrees limit table request hroom hroom'
    | readResource =>
      exact answerReading_agrees table (Method.ofName_eq_some_iff.1 hmethod) hroom hroom' hlike
    | greet | greeted | ping | listTools | listResources => exact .same _

/-! ### Messages -/

lemma answer_carryOut (server : Server) (moment : Moment) (greeted : Bool) (request : Request) :
    (server.carryOut moment greeted request).answer =
      request.told (dispatch server.toolTimeout server.zones moment server.metrics request).2 := by
  unfold carryOut
  rcases dispatch server.toolTimeout server.zones moment server.metrics request with
    ⟨metrics, answer⟩
  cases answer with
  | silence => rfl
  | stopped cause => rfl
  | reply response => by_cases hn : request.isNotification = true <;> simp [Request.told, hn]

/-- Servers that give calls the same time and know the same zones agree on what they answer to a
message, whatever calls they have counted. -/
theorem handle_agrees {server server' : Server} (hlimit : server.toolTimeout = server'.toolTimeout)
    (hzones : server.zones = server'.zones)
    (greeted : Bool) (message : Bytes) (hroom : room → server.metrics.HasRoom elapsed)
    (hroom' : room → server'.metrics.HasRoom elapsed')
    (hlike : ∀ report report', server.metrics.report = .ok report →
      server'.metrics.report = .ok report' → like report report') :
    (server.handle ⟨now, elapsed⟩ greeted message).answer.Agrees (AsksForMetrics message) like room
      (server'.handle ⟨now, elapsed'⟩ greeted message).answer := by
  unfold handle
  cases hrequest : Request.ofBytes? message with
  | none => exact .same _
  | some request =>
    simp only [handleRequest]
    split_ifs
    · exact .same _
    · exact .same _
    · rw [answer_carryOut, answer_carryOut, hlimit, hzones]
      exact ((dispatch_agrees _ _ request hroom hroom' hlike).told request).mono
        fun hasks => ⟨request, hrequest, hasks⟩

end Server

end WorldClock
