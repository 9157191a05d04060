import WorldClock.Proofs.Hub.Course
/-!
# Runs of the hub

What happens to a server on the network, in any order, and what is seen of it from outside
(`Run.after`). The rest tells in words of what was seen, and not of the state of the server, which
sessions there should be: `Announced` for those that belong to an open stream, and `Live` for those
that are answered at once.
-/

namespace WorldClock

/-! ### Happenings -/

/-- What can happen to a server on the network. -/
inductive Happening
  | request (arrival : Arrival)
  /-- The reader of a stream looks at it. -/
  | look (number : StreamNumber)
  /-- The reader of a stream goes away. -/
  | close (number : StreamNumber)
  /-- A reply that stands in line is no longer waited for. -/
  | abandon (ticket : Ticket)
  /-- Time passes. -/
  | wait (duration : Duration)
  /-- The sessions that have been idle too long are ended. -/
  | sweep
  /-- All sessions are taken out of the registry. -/
  | clear
  /-- The clock shows another instant. -/
  | setClock (clock : Instant)

/-- The id that can be given to a session on an occasion. -/
def Happening.freshId? : Happening → Option String
  | request arrival => some arrival.freshId
  | _ => none

/-- The ids that can be given to sessions, in order. -/
def freshIds (happenings : List Happening) : List String :=
  happenings.filterMap Happening.freshId?

/-- What happened at some time, with the reaction if it was a request. If the reaction was a stream,
its first event belongs to it. -/
structure Entry where
  time : Duration
  happening : Happening
  reaction : Option Reaction
  announcement : Option String

/-- A server with all that has happened to it, the last first. -/
structure Run where
  hub : Hub
  history : List Entry

/-- Lets something happen. -/
def Hub.undergo (hub : Hub) : Happening → Hub × Option Reaction
  | .request arrival => ((hub.request arrival).1, some (hub.request arrival).2)
  | .look number => ((hub.look number).1, none)
  | .close number => ((hub.closeStream number).1, none)
  | .abandon ticket => (hub.abandon ticket, none)
  | .wait duration => ({ hub with time := hub.time + duration }, none)
  | .sweep => (hub.sweep hub.time, none)
  | .clear => (hub.clear, none)
  | .setClock clock => ({ hub with clock }, none)

/-- The first event of the stream that a reaction gives out. -/
def Hub.announcementIn? (hub : Hub) : Option Reaction → Option String
  | some (.stream _ number) => hub.announcement? number
  | _ => none

namespace Run

/-- A server that has just been started. -/
def start (config : Config) (clock : Instant) (zones : ZoneTable := Zone.find?) : Run :=
  ⟨.start config clock zones, []⟩

/-- Lets something happen and notes it. -/
def step (run : Run) (happening : Happening) : Run :=
  let (hub, reaction) := run.hub.undergo happening
  ⟨hub, ⟨run.hub.time, happening, reaction, hub.announcementIn? reaction⟩ :: run.history⟩

lemma step_eq (run : Run) (happening : Happening) :
    run.step happening = ⟨(run.hub.undergo happening).1,
      ⟨run.hub.time, happening, (run.hub.undergo happening).2,
        (run.hub.undergo happening).1.announcementIn? (run.hub.undergo happening).2⟩ ::
          run.history⟩ := rfl

/-- Lets some things happen one after another. -/
def after (run : Run) (happenings : List Happening) : Run :=
  happenings.foldl step run

@[simp] lemma after_nil (run : Run) : run.after [] = run := rfl

lemma after_append (run : Run) (earlier later : List Happening) :
    run.after (earlier ++ later) = (run.after earlier).after later :=
  List.foldl_append

lemma after_concat (run : Run) (happenings : List Happening) (happening : Happening) :
    run.after (happenings ++ [happening]) = (run.after happenings).step happening := by
  rw [after_append]
  rfl

/-- What was seen is not forgotten. -/
lemma exists_history_eq (run : Run) (happenings : List Happening) :
    ∃ recent, (run.after happenings).history = recent ++ run.history := by
  induction happenings using List.reverseRecOn with
  | nil => exact ⟨[], rfl⟩
  | append_singleton happenings happening ih =>
    obtain ⟨recent, hhistory⟩ := ih
    rw [after_concat, step_eq, hhistory]
    exact ⟨_ :: recent, rfl⟩

/-- When time passes with the searches for idle sessions that fall into it, it is as if some time
passed, idle sessions were ended, and the rest of the time passed. -/
theorem hub_advance (run : Run) (duration : Duration) :
    ∃ happenings, freshIds happenings = [] ∧
      (run.after happenings).hub = run.hub.advance duration := by
  unfold Hub.advance
  dsimp only
  split_ifs with h
  · have hlt : run.hub.time < run.hub.lastSweep (run.hub.time + duration) := by
      simpa using (Bool.and_eq_true_iff.1 h).2
    have hle : run.hub.lastSweep (run.hub.time + duration) ≤ run.hub.time + duration :=
      Nat.div_mul_le_self _ _
    refine ⟨[.wait (run.hub.lastSweep (run.hub.time + duration) - run.hub.time), .sweep,
      .wait (run.hub.time + duration - run.hub.lastSweep (run.hub.time + duration))], rfl, ?_⟩
    simp only [after, List.foldl_cons, List.foldl_nil, step, Hub.undergo, Hub.sweep,
      Nat.add_sub_cancel' hlt.le, Nat.add_sub_cancel' hle]
  · exact ⟨[.wait duration], rfl, rfl⟩

end Run

/-! ### What was seen -/

/-- Something has been seen, and since then nothing that ends it. What ends it can depend on what
went before. -/
def Since (starts : Entry → Prop) (keeps : Entry → List Entry → Prop) : List Entry → Prop
  | [] => False
  | entry :: past => starts entry ∨ keeps entry past ∧ Since starts keeps past

/-- What holds since some time either began of late or held before. -/
lemma Since.or_of_append {starts : Entry → Prop} {keeps : Entry → List Entry → Prop}
    {recent past : List Entry} (h : Since starts keeps (recent ++ past)) :
    (∃ entry ∈ recent, starts entry) ∨ Since starts keeps past := by
  induction recent with
  | nil => exact .inr h
  | cons entry recent ih =>
    obtain hstarts | ⟨-, hsince⟩ := h
    · exact .inl ⟨entry, List.mem_cons_self, hstarts⟩
    · refine (ih hsince).imp_left ?_
      rintro ⟨earlier, hmem, hstarts⟩
      exact ⟨earlier, List.mem_cons_of_mem _ hmem, hstarts⟩

namespace Entry

variable (config : Config) (entry : Entry)

/-- A stream with a number is opened, and its first event tells to post messages for an id. -/
def Announces (number : StreamNumber) (id : String) : Prop :=
  ∃ arrival response, entry.happening = .request arrival ∧ arrival.Asks config "GET" "/sse" ∧
    entry.reaction = some (.stream response number) ∧
    entry.announcement = some (eventText "endpoint" (endpointUrl config.publicUrl id))

/-- A request for a stream comes to a stop after an id has been chosen. -/
def Strands (id : String) : Prop :=
  ∃ arrival cause, entry.happening = .request arrival ∧ arrival.Connects config ∧
    entry.reaction = some (.stopped cause) ∧ arrival.freshId = id

/-- A greeting without the id of a session is answered with a result and gives out an id. -/
def Opens (id : String) : Prop :=
  ∃ arrival request response result, entry.happening = .request arrival ∧
    arrival.Asks config "POST" "/http" ∧ arrival.request.header? sessionHeader = none ∧
    Request.ofBytes? arrival.request.body = some request ∧ request.method = "initialize" ∧
    entry.reaction = some (.response response) ∧ response.Issues id ∧
    response.body = (Response.json ⟨request.id, .result result⟩).text

/-- An id is given out, or a message is posted in the session that it names. -/
def Uses (id : String) : Prop :=
  entry.Opens config id ∨
    ∃ arrival, entry.happening = .request arrival ∧ arrival.Posts config id

/-- The session with an id is to be ended. -/
def Deletes (id : String) : Prop :=
  ∃ arrival, entry.happening = .request arrival ∧ arrival.Deletes config id

/-- Idle sessions are ended, and the session with an id has been idle too long. -/
def Sweeps (past : List Entry) (id : String) : Prop :=
  entry.happening = .sweep ∧
    ∀ use ∈ past, use.Uses config id → use.time + config.sessionTtl ≤ entry.time

end Entry

/-- An id was announced on a stream which is still open, and the registry was not cleared since. -/
def Announced (config : Config) (id : String) (history : List Entry) : Prop :=
  ∃ number, Since (fun entry => entry.Announces config number id)
    (fun entry _ => entry.happening ≠ .close number ∧ entry.happening ≠ .clear) history

/-- An id was chosen for a stream that never came to be, and the registry was not cleared since. -/
def Stranded (config : Config) (id : String) (history : List Entry) : Prop :=
  Since (fun entry => entry.Strands config id) (fun entry _ => entry.happening ≠ .clear) history

/-- An id was given out for messages that are answered at once, and its session has not been ended
since, neither by a client nor for being idle nor with all others. -/
def Live (config : Config) (id : String) (history : List Entry) : Prop :=
  Since (fun entry => entry.Opens config id)
    (fun entry past => ¬ entry.Deletes config id ∧ ¬ entry.Sweeps config past id ∧
      entry.happening ≠ .clear) history

end WorldClock
