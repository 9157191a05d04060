import WorldClock.Proofs.Mcp.Agreement
/-!
# Answers to messages one after another

What a server answers to the messages on one session (`Server.answers`), whatever brings them and
whether or not one of them brings its handling to a stop. The measured durations of the calls show
in one kind of reply only, the reports of the metrics, so servers that are sent the same messages
give answers that are alike (`Server.answers_alike`).
-/

namespace WorldClock

/-! ### Answers -/

/-- A message that is sent, and how long a call of a tool in it takes. -/
structure Sent where
  message : Bytes
  elapsed : Duration

/-- How long the calls in messages take together. -/
def timeSent (sent : List Sent) : Duration :=
  (sent.map Sent.elapsed).sum

@[simp] lemma timeSent_cons (first : Sent) (sent : List Sent) :
    timeSent (first :: sent) = first.elapsed + timeSent sent := by
  simp [timeSent]

/-- What is answered to messages on one session, one after another. A message that brings its
handling to a stop does not keep the next one from being handled. -/
def Server.answers (server : Server) (greeted : Bool) (clock : Instant) : List Sent → List Answer
  | [] => []
  | sent :: later =>
    let turn := server.handle ⟨clock, sent.elapsed⟩ greeted sent.message
    turn.answer :: turn.server.answers turn.greeted clock later

/-- The reply in an answer. -/
def Answer.reply? : Answer → Option Response
  | .reply response => some response
  | .silence | .stopped _ => none

/-- The replies among some answers. -/
def repliesIn (answers : List Answer) : List Response :=
  answers.filterMap Answer.reply?

/-- The replies among some answers up to the first stop. -/
def repliesUntilStop : List Answer → List Response
  | [] => []
  | .reply response :: answers => response :: repliesUntilStop answers
  | .silence :: answers => repliesUntilStop answers
  | .stopped _ :: _ => []

/-- Whether no reply comes after a stop. -/
def NoReplyAfterStop (answers : List Answer) : Prop :=
  answers.Pairwise fun earlier later => earlier.IsStop → later.reply? = none

lemma repliesIn_cons (answer : Answer) (answers : List Answer) :
    repliesIn (answer :: answers) = answer.reply?.toList ++ repliesIn answers := by
  cases h : answer.reply? <;> simp [repliesIn, h]

lemma repliesUntilStop_sublist (answers : List Answer) :
    (repliesUntilStop answers).Sublist (repliesIn answers) := by
  induction answers with
  | nil => exact .slnil
  | cons answer answers ih =>
    cases answer with
    | reply response => exact ih.cons_cons response
    | silence => exact ih
    | stopped cause => exact List.nil_sublist _

lemma noReplyAfterStop_cons (answer : Answer) (answers : List Answer) :
    NoReplyAfterStop (answer :: answers) ↔
      (answer.IsStop → repliesIn answers = []) ∧ NoReplyAfterStop answers := by
  simp only [NoReplyAfterStop, List.pairwise_cons, repliesIn, List.filterMap_eq_nil_iff]
  exact and_congr_left fun _ => ⟨fun h hstop later hlater => h later hlater hstop,
    fun h later hlater hstop => h hstop later hlater⟩

/-- Exactly if no reply comes after a stop, no reply is lost by the stop. -/
lemma repliesUntilStop_eq_iff (answers : List Answer) :
    repliesUntilStop answers = repliesIn answers ↔ NoReplyAfterStop answers := by
  induction answers with
  | nil => exact iff_of_true rfl .nil
  | cons answer answers ih =>
    rw [noReplyAfterStop_cons, ← ih, repliesIn_cons]
    cases answer with
    | reply | silence => simp [repliesUntilStop, Answer.reply?]
    | stopped cause =>
      simp only [repliesUntilStop, Answer.reply?, Option.toList_none, List.nil_append,
        Answer.isStop_stopped, forall_const]
      refine ⟨fun h => ⟨h.symm, ?_⟩, fun h => h.1.symm⟩
      exact (repliesUntilStop_sublist answers).eq_of_length_le (by simp [← h])

/-! ### Answers that are alike -/

/-- Replies that are the same, or both show reports that do not differ but in the response times. -/
inductive Response.Alike : Response → Response → Prop
  | same (response : Response) : Alike response response
  | reports (id : Option RequestId) {report report' : Report} (h : report.Alike report') :
      Alike (report.reply id) (report'.reply id)

/-- Answers that are the same but for replies that are alike. -/
inductive Answer.Alike : Answer → Answer → Prop
  | silence : Alike .silence .silence
  | stopped (cause : Breakdown) : Alike (.stopped cause) (.stopped cause)
  | reply {response response' : Response} (h : response.Alike response') :
      Alike (.reply response) (.reply response')

@[refl] lemma Answer.Alike.refl (answer : Answer) : answer.Alike answer := by
  cases answer with
  | silence => exact .silence
  | reply response => exact .reply (.same response)
  | stopped cause => exact .stopped cause

/-- Answers that agree are alike if all reports are alike and there is room. -/
lemma Answer.Agrees.alike {asks : Prop} {answer answer' : Answer}
    (h : answer.Agrees asks Report.Alike True answer') : answer.Alike answer' := by
  cases h with
  | same => rfl
  | reports hasks id h => exact .reply (.reports id h)
  | overflow hroom => exact absurd trivial hroom

lemma repliesIn_alike {answers answers' : List Answer}
    (h : List.Forall₂ Answer.Alike answers answers') :
    List.Forall₂ Response.Alike (repliesIn answers) (repliesIn answers') := by
  induction h with
  | nil => exact .nil
  | cons h _ ih =>
    cases h with
    | silence => exact ih
    | stopped cause => exact ih
    | reply h => exact .cons h ih

namespace Server

/-- A server that has counted some calls. -/
def counting (limit : Duration) (zones : ZoneTable) (calls : List Call) : Server :=
  ⟨limit, .ofCalls (Tool.all.map Tool.name) calls, zones⟩

section Alike

variable (limit : Duration) (zones : ZoneTable) {clock : Instant} {elapsed elapsed' : Duration}
  {calls others : List Call}

/-- Servers that have counted calls that are alike give answers that are alike. -/
lemma handle_alike (greeted : Bool) (message : Bytes) (h : CallsAlike calls others)
    (htime : timeOf calls + elapsed ≤ longestDuration)
    (htime' : timeOf others + elapsed' ≤ longestDuration) :
    ((counting limit zones calls).handle ⟨clock, elapsed⟩ greeted message).answer.Alike
      ((counting limit zones others).handle ⟨clock, elapsed'⟩ greeted message).answer := by
  obtain ⟨report, report', hreport, hreport', halike⟩ :=
    Metrics.report_alike (Tool.all.map Tool.name) h ((Nat.le_add_right _ _).trans htime)
      ((Nat.le_add_right _ _).trans htime')
  have hroom : (counting limit zones calls).metrics.HasRoom elapsed :=
    Metrics.hasRoom_ofCalls _ htime
  have hroom' : (counting limit zones others).metrics.HasRoom elapsed' :=
    Metrics.hasRoom_ofCalls _ htime'
  have hlimit : (counting limit zones calls).toolTimeout =
      (counting limit zones others).toolTimeout := rfl
  refine (handle_agrees hlimit rfl greeted message (fun _ => hroom) (fun _ => hroom')
    fun shown shown' hshown hshown' => ?_).alike
  cases hreport.symm.trans hshown
  cases hreport'.symm.trans hshown'
  exact halike

/-- The call in a message that is counted, if there is one. -/
def countedIn (greeted : Bool) (message : Bytes) (moment : Moment) : List Call :=
  (((askedCall? greeted message).map (Asked.mk moment zones)).bind (Asked.counted? limit)).toList

lemma countedIn_alike (greeted : Bool) (message : Bytes) :
    CallsAlike (countedIn limit zones greeted message ⟨clock, elapsed⟩)
      (countedIn limit zones greeted message ⟨clock, elapsed'⟩) := by
  unfold countedIn
  cases askedCall? greeted message with
  | none => rfl
  | some call => cases hrun : call.run clock zones <;> simp [Asked.counted?, Asked.result?, hrun,
      Except.toOption, CallsAlike, Call.untimed]

lemma timeOf_append_countedIn_le (calls : List Call) (greeted : Bool) (message : Bytes) :
    timeOf (calls ++ countedIn limit zones greeted message ⟨clock, elapsed⟩) ≤
      timeOf calls + elapsed := by
  rw [timeOf_append]
  apply Nat.add_le_add_left
  unfold countedIn
  cases askedCall? greeted message with
  | none => exact Nat.zero_le _
  | some call => cases hrun : call.run clock zones <;> simp [Asked.counted?, Asked.result?, hrun,
      Except.toOption, timeOf]

lemma server_handle_counting (calls : List Call) (greeted : Bool) (message : Bytes)
    (moment : Moment) :
    ((counting limit zones calls).handle moment greeted message).server =
      counting limit zones (calls ++ countedIn limit zones greeted message moment) := by
  rw [server_handle, countedIn]
  cases hcounted : ((askedCall? greeted message).map (Asked.mk moment zones)).bind
      (Asked.counted? limit) with
  | none => simp [counting, hcounted]
  | some call => simp [counting, hcounted, Metrics.ofCalls_concat]

/-- The same messages get answers that are alike from servers that have counted calls that are
alike. -/
theorem answers_alike (greeted : Bool) {sent sent' : List Sent}
    (hsent : sent.map Sent.message = sent'.map Sent.message) (h : CallsAlike calls others)
    (htime : timeOf calls + timeSent sent ≤ longestDuration)
    (htime' : timeOf others + timeSent sent' ≤ longestDuration) :
    List.Forall₂ Answer.Alike ((counting limit zones calls).answers greeted clock sent)
      ((counting limit zones others).answers greeted clock sent') := by
  induction sent generalizing sent' greeted calls others with
  | nil =>
    rw [List.map_nil, eq_comm, List.map_eq_nil_iff] at hsent
    rw [hsent]
    exact .nil
  | cons first sent ih =>
    obtain ⟨first', sent', rfl, hfirst, hrest⟩ := List.map_eq_cons_iff.1 hsent.symm
    rw [timeSent_cons, ← Nat.add_assoc] at htime htime'
    have hgreeted :
        ((counting limit zones others).handle ⟨clock, first'.elapsed⟩ greeted
          first.message).greeted =
        ((counting limit zones calls).handle ⟨clock, first.elapsed⟩ greeted
          first.message).greeted := by
      rw [Bool.eq_iff_iff, handle_greeted_iff, handle_greeted_iff]
    simp only [answers, hfirst]
    rw [server_handle_counting, server_handle_counting, hgreeted]
    refine .cons ?_
      (ih _ hrest.symm (h.append (countedIn_alike limit zones greeted first.message)) ?_ ?_)
    · exact handle_alike limit zones greeted first.message h ((Nat.le_add_right _ _).trans htime)
        ((Nat.le_add_right _ _).trans htime')
    · exact (Nat.add_le_add_right (timeOf_append_countedIn_le ..) _).trans htime
    · exact (Nat.add_le_add_right (timeOf_append_countedIn_le ..) _).trans htime'

end Alike

end Server

end WorldClock
