import WorldClock.Proofs.Mcp.Accounting
import WorldClock.Proofs.Mcp.Faults
import WorldClock.Proofs.Outcome
import WorldClock.Proofs.Schema.Basic
/-!
# Arguments of tools

Which arguments a tool takes, told without its schema and without the decoding of what the schema
allows (`CurrentTimeArguments.IsGivenBy`, `ConversionArguments.IsGivenBy`). A tool complains of its
arguments exactly if they are others. What the schema allows can always be decoded, and the tool
gets it unchanged (`Asked.taken_arguments`).
-/

namespace WorldClock

variable {value : Json} {members : List (String × Json)}

/-! ### Arguments that tools take -/

/-- Members with some names and with no others, all of which are texts. -/
def Json.AreTexts (names : List String) (members : List (String × Json)) : Prop :=
  ∀ member ∈ members, member.1 ∈ names ∧ ∃ text, member.2 = .str text

/-- What the tool for the current time takes: nothing, or an object with no member but a zone, which
need not be there. -/
inductive CurrentTimeArguments.IsGivenBy : CurrentTimeArguments → Option Json → Prop
  | absent : IsGivenBy ⟨none⟩ none
  | null : IsGivenBy ⟨none⟩ (some .null)
  | object {members : List (String × Json)} {timezone : Option String}
      (hmembers : Json.AreTexts ["timezone"] members)
      (htimezone : members.lookup "timezone" = timezone.map Json.str) :
      IsGivenBy ⟨timezone⟩ (some (.obj members))

/-- What the tool for conversions takes: an object with a time and two zones and nothing else, where
the time is not empty. -/
inductive ConversionArguments.IsGivenBy : ConversionArguments → Option Json → Prop
  | object {members : List (String × Json)} {time source target : String}
      (hmembers : Json.AreTexts ["time", "source_timezone", "target_timezone"] members)
      (htime : members.lookup "time" = some (.str time))
      (hsource : members.lookup "source_timezone" = some (.str source))
      (htarget : members.lookup "target_timezone" = some (.str target))
      (hempty : ("time", .str "") ∉ members) :
      IsGivenBy ⟨time, source, target⟩ (some (.obj members))

/-! ### What the schemas allow -/

namespace Tool

lemma validate_currentTime_iff : validate currentTime.inputSchema value = .ok () ↔
    ∃ members, value = .obj members ∧ Json.AreTexts ["timezone"] members := by
  have hschema : Schema.ofJson currentTime.inputSchema =
      .ok (.closed [] [("timezone", .texts none)]) := rfl
  have hnames : (List.map Prod.fst [("timezone", Schema.texts none)]).Nodup :=
    List.nodup_singleton _
  simp only [validate_eq_ok_iff, hschema, Except.ok.injEq, exists_eq_left',
    Schema.isValid_closed_iff, List.nil_subset, true_and]
  refine exists_congr fun members => and_congr_right fun _ => forall₂_congr fun member _ => ?_
  simp [Table.lookup_eq_some_iff hnames, Schema.isValid_texts_none_iff]

lemma validate_conversion_iff : validate conversion.inputSchema value = .ok () ↔
    ∃ members, value = .obj members ∧
      ["time", "source_timezone", "target_timezone"] ⊆ members.map Prod.fst ∧
      Json.AreTexts ["time", "source_timezone", "target_timezone"] members ∧
      ("time", .str "") ∉ members := by
  have hschema : Schema.ofJson conversion.inputSchema =
      .ok (.closed ["time", "source_timezone", "target_timezone"]
        [("source_timezone", .texts none), ("target_timezone", .texts none),
          ("time", .texts (some 1))]) := rfl
  have hnames : (List.map Prod.fst [("source_timezone", Schema.texts none),
      ("target_timezone", .texts none), ("time", .texts (some 1))]).Nodup := by
    decide
  simp only [validate_eq_ok_iff, hschema, Except.ok.injEq, exists_eq_left',
    Schema.isValid_closed_iff]
  refine exists_congr fun members => and_congr_right fun _ => and_congr_right fun _ => ?_
  rw [Json.AreTexts, ← List.forall_mem_ne', ← forall₂_and]
  refine forall₂_congr fun member _ => ?_
  obtain ⟨name, value⟩ := member
  simp only [Table.lookup_eq_some_iff hnames, List.mem_cons, List.not_mem_nil, or_false,
    Prod.mk.injEq]
  constructor
  · rintro ⟨_, ⟨rfl, rfl⟩ | ⟨rfl, rfl⟩ | ⟨rfl, rfl⟩, hvalid⟩
    · simpa using Schema.isValid_texts_none_iff.1 hvalid
    · simpa using Schema.isValid_texts_none_iff.1 hvalid
    · obtain ⟨text, rfl, hne⟩ := Schema.isValid_texts_one_iff.1 hvalid
      simp [hne]
  · rintro ⟨⟨rfl | rfl | rfl, text, rfl⟩, hempty⟩
    · have hne : text ≠ "" := fun heq => hempty ⟨rfl, congrArg Json.str heq⟩
      exact ⟨_, .inr (.inr ⟨rfl, rfl⟩), Schema.isValid_texts_one_iff.2 ⟨text, rfl, hne⟩⟩
    · exact ⟨_, .inl ⟨rfl, rfl⟩, Schema.isValid_texts_none_iff.2 ⟨text, rfl⟩⟩
    · exact ⟨_, .inr (.inl ⟨rfl, rfl⟩), Schema.isValid_texts_none_iff.2 ⟨text, rfl⟩⟩

end Tool

/-! ### What can be decoded -/

namespace Json

variable {name : String}

lemma textMember_eq_ok_iff {text : String} :
    textMember members name = .ok text ↔ members.lookup name = some (.str text) := by
  unfold textMember
  cases members.lookup name with
  | none => simp
  | some value => cases value <;> simp [asText]

/-- A member that is a text, or is not there at all, decodes to itself. -/
lemma textMember?_of_lookup {text? : Option String}
    (h : members.lookup name = text?.map Json.str) : textMember? members name = .ok text? := by
  rw [textMember?, h]
  cases text? <;> rfl

variable {names : List String}

lemma AreTexts.exists_lookup (h : AreTexts names members) (hmem : name ∈ members.map Prod.fst) :
    ∃ text, members.lookup name = some (.str text) := by
  obtain ⟨value, hvalue⟩ := Table.exists_lookup hmem
  obtain ⟨-, text, rfl⟩ := h _ (Table.mem_of_lookup hvalue)
  exact ⟨text, hvalue⟩

lemma AreTexts.exists_lookup? (h : AreTexts names members) (name : String) :
    ∃ text? : Option String, members.lookup name = text?.map Json.str := by
  cases hvalue : members.lookup name with
  | none => exact ⟨none, rfl⟩
  | some value =>
    obtain ⟨-, text, htext⟩ := h _ (Table.mem_of_lookup hvalue)
    exact ⟨some text, congrArg some htext⟩

/-- Arguments that are null are as good as none. -/
lemma bind_unlessNull (given : Option Json) :
    (given = none ∨ given = some .null) ∧ given.bind unlessNull = none ∨
      ∃ value, given = some value ∧ given.bind unlessNull = some value := by
  cases given with
  | none => exact .inl ⟨.inl rfl, rfl⟩
  | some value =>
    cases value with
    | null => exact .inl ⟨.inr rfl, rfl⟩
    | _ => exact .inr ⟨_, rfl, rfl⟩

end Json

lemma ConversionArguments.ofJson_eq_ok_iff {arguments : ConversionArguments} :
    ofJson (.obj members) = .ok arguments ↔
      members.lookup "time" = some (.str arguments.time) ∧
      members.lookup "source_timezone" = some (.str arguments.source) ∧
      members.lookup "target_timezone" = some (.str arguments.target) := by
  obtain ⟨time, source, target⟩ := arguments
  simp only [← Json.textMember_eq_ok_iff, ofJson, bind_eq_ok_iff, Except.ok.injEq, mk.injEq]
  constructor
  · rintro ⟨_, htime, _, hsource, _, htarget, rfl, rfl, rfl⟩
    exact ⟨htime, hsource, htarget⟩
  · rintro ⟨htime, hsource, htarget⟩
    exact ⟨time, htime, source, hsource, target, htarget, rfl, rfl, rfl⟩

/-! ### Arguments that are read -/

namespace Tool

variable {α : Type} {tool : Tool} {decode : Json → Except ParamError α}
  {arguments : Option Json} {decoded : α}

lemma readArguments_eq_ok_iff : tool.readArguments decode arguments = .ok decoded ↔
    validate tool.inputSchema (arguments.getD (.obj [])) = .ok () ∧
      decode (arguments.getD (.obj [])) = .ok decoded := by
  simp only [readArguments]
  cases validate tool.inputSchema (arguments.getD (.obj [])) with
  | error refusal => simp
  | ok => cases decode (arguments.getD (.obj [])) <;> simp

lemma kind_of_readArguments {fault : Fault}
    (h : tool.readArguments decode arguments = .error fault) : fault.kind = .invalidArguments := by
  simp only [readArguments] at h
  split at h
  · cases h
    rfl
  · split at h
    · cases h
      rfl
    · cases h

/-- If what a schema allows decodes to what is taken of it, then what is read is taken. -/
lemma of_readArguments {takes : α → Option Json → Prop}
    (hdecodes : ∀ value, validate tool.inputSchema value = .ok () →
      ∃ taken, decode value = .ok taken ∧ takes taken (some value))
    (h : tool.readArguments decode (some value) = .ok decoded) : takes decoded (some value) := by
  obtain ⟨hvalid, hdecoded⟩ := readArguments_eq_ok_iff.1 h
  obtain ⟨taken, htaken, htakes⟩ := hdecodes value hvalid
  exact Except.ok.inj (htaken.symm.trans hdecoded) ▸ htakes

end Tool

namespace CurrentTimeArguments

variable {arguments : CurrentTimeArguments}

lemma ofJson_of_lookup {timezone : Option String}
    (h : members.lookup "timezone" = timezone.map Json.str) :
    ofJson (.obj members) = .ok ⟨timezone⟩ := by
  rw [ofJson, Json.textMember?_of_lookup h]
  rfl

/-- What the schema allows can be decoded, and the tool takes it. -/
lemma exists_of_validate (h : validate Tool.currentTime.inputSchema value = .ok ()) :
    ∃ arguments, ofJson value = .ok arguments ∧ arguments.IsGivenBy (some value) := by
  obtain ⟨members, rfl, hmembers⟩ := Tool.validate_currentTime_iff.1 h
  obtain ⟨timezone, htimezone⟩ := hmembers.exists_lookup? "timezone"
  exact ⟨⟨timezone⟩, ofJson_of_lookup htimezone, .object hmembers htimezone⟩

lemma readArguments_none : Tool.currentTime.readArguments ofJson none = .ok ⟨none⟩ :=
  Tool.readArguments_eq_ok_iff.2
    ⟨Tool.validate_currentTime_iff.2 ⟨[], rfl, List.forall_mem_nil _⟩, rfl⟩

lemma isGivenBy_iff {given : Option Json} : arguments.IsGivenBy given ↔
    Tool.currentTime.readArguments ofJson (given.bind Json.unlessNull) = .ok arguments := by
  constructor
  · rintro (_ | _ | ⟨hmembers, htimezone⟩)
    · exact readArguments_none
    · exact readArguments_none
    · exact Tool.readArguments_eq_ok_iff.2
        ⟨Tool.validate_currentTime_iff.2 ⟨_, rfl, hmembers⟩, ofJson_of_lookup htimezone⟩
  · intro h
    obtain ⟨hgiven, hnone⟩ | ⟨value, rfl, hsome⟩ := Json.bind_unlessNull given
    · rw [hnone, readArguments_none] at h
      cases h
      rcases hgiven with rfl | rfl
      · exact .absent
      · exact .null
    · exact Tool.of_readArguments (fun _ => exists_of_validate) (hsome ▸ h)

end CurrentTimeArguments

namespace ConversionArguments

variable {arguments : ConversionArguments}

lemma exists_of_validate (h : validate Tool.conversion.inputSchema value = .ok ()) :
    ∃ arguments, ofJson value = .ok arguments ∧ arguments.IsGivenBy (some value) := by
  obtain ⟨members, rfl, hrequired, hmembers, hempty⟩ := Tool.validate_conversion_iff.1 h
  obtain ⟨time, htime⟩ := hmembers.exists_lookup (hrequired (by simp : "time" ∈ _))
  obtain ⟨source, hsource⟩ := hmembers.exists_lookup (hrequired (by simp : "source_timezone" ∈ _))
  obtain ⟨target, htarget⟩ := hmembers.exists_lookup (hrequired (by simp : "target_timezone" ∈ _))
  exact ⟨⟨time, source, target⟩, ofJson_eq_ok_iff.2 ⟨htime, hsource, htarget⟩,
    .object hmembers htime hsource htarget hempty⟩

lemma isGivenBy_iff {given : Option Json} : arguments.IsGivenBy given ↔
    Tool.conversion.readArguments ofJson (given.bind Json.unlessNull) = .ok arguments := by
  constructor
  · rintro @⟨members, _, _, _, hmembers, htime, hsource, htarget, hempty⟩
    have hrequired : ["time", "source_timezone", "target_timezone"] ⊆ members.map Prod.fst := by
      simp only [List.cons_subset, List.nil_subset, and_true]
      exact ⟨List.mem_map_of_mem (Table.mem_of_lookup htime),
        List.mem_map_of_mem (Table.mem_of_lookup hsource),
        List.mem_map_of_mem (Table.mem_of_lookup htarget)⟩
    exact Tool.readArguments_eq_ok_iff.2
      ⟨Tool.validate_conversion_iff.2 ⟨members, rfl, hrequired, hmembers, hempty⟩,
        ofJson_eq_ok_iff.2 ⟨htime, hsource, htarget⟩⟩
  · intro h
    obtain ⟨-, hnone⟩ | ⟨value, rfl, hsome⟩ := Json.bind_unlessNull given
    · rw [hnone] at h
      obtain ⟨_, heq, hrequired, -⟩ :=
        Tool.validate_conversion_iff.1 (Tool.readArguments_eq_ok_iff.1 h).1
      cases heq
      exact absurd (hrequired List.mem_cons_self) List.not_mem_nil
    · exact Tool.of_readArguments (fun _ => exists_of_validate) (hsome ▸ h)

end ConversionArguments

/-! ### Answers of tools -/

/-- The arguments in the parameters of a call, as the client has written them. -/
def Json.argumentsIn? : Json → Option Json
  | .obj members => members.lookup "arguments"
  | .arr [_, arguments] => some arguments
  | _ => none

lemma ToolCall.arguments_of_ofJson {params : Json} {call : ToolCall}
    (h : ofJson params = .ok call) :
    call.arguments = params.argumentsIn?.bind Json.unlessNull := by
  unfold ofJson at h
  split at h
  · next members =>
    obtain ⟨name, -, hcall⟩ := bind_eq_ok_iff.1 h
    cases hcall
    simp only [Json.argumentsIn?]
    cases members.lookup "arguments" <;> rfl
  · cases h
  · next name => cases name <;> cases h
  · next name arguments =>
    cases name <;> cases h
    rfl
  · next name rest _ _ => cases name <;> cases h
  · cases h

/-- Whether the result of a call tells of a fault of some kind. -/
def Asked.FailsWith (limit : Duration) (asked : Asked) (kind : FaultKind) : Prop :=
  ∃ result fault, asked.result? limit = some result ∧ result.fault? = some fault ∧
    fault.kind = kind

lemma ToolResult.within_zero (limit : Duration) (result : ToolResult) :
    result.within limit (some 0) = result := by
  simp [within]

lemma Fault.kind_ofTimeError_ne (error : TimeError) :
    (ofTimeError error).kind ≠ .invalidArguments := by
  cases error <;> nofun

/-- A tool that has got its arguments does not complain of them. -/
lemma Tool.kind_ne_of_tellTime {arguments : CurrentTimeArguments} {now : Instant}
    {table : ZoneTable} {result : ToolResult} {fault : Fault}
    (h : tellTime arguments now table = .ok result)
    (hfault : result.fault? = some fault) : fault.kind ≠ .invalidArguments := by
  unfold tellTime at h
  split at h
  · next error _ =>
    cases h
    cases (ToolResult.fault?_ofFault _).symm.trans hfault
    exact Fault.kind_ofTimeError_ne error
  · obtain ⟨text, -, rfl⟩ := map_eq_ok_iff.1 h
    cases (ToolResult.fault?_ok text).symm.trans hfault

lemma Tool.kind_ne_of_convertTime {arguments : ConversionArguments} {table : ZoneTable}
    {result : ToolResult} {fault : Fault} (h : convertTime arguments table = .ok result)
    (hfault : result.fault? = some fault) : fault.kind ≠ .invalidArguments := by
  obtain ⟨converted, -, rfl⟩ := map_eq_ok_iff.1 h
  cases converted with
  | error error =>
    cases (ToolResult.fault?_ofFault _).symm.trans hfault
    exact Fault.kind_ofTimeError_ne error
  | ok text => cases (ToolResult.fault?_ok text).symm.trans hfault

lemma ToolCall.run_of_name {call : ToolCall} {tool : Tool} (h : call.name = tool.name)
    (now : Instant) (table : ZoneTable) :
    call.run now table = tool.run call.arguments now table := by
  have htool : Tool.ofName? call.name = some tool := Tool.ofName_eq_some_iff.2 h
  simp only [run, htool]

/-- A tool that reads its arguments and then does its work complains of them exactly if it cannot
read them. -/
lemma Asked.not_failsWith_iff {α : Type} {tool : Tool} {decode : Json → Except ParamError α}
    {asked : Asked} (limit : Duration) {work : α → Except Breakdown ToolResult}
    (hunread : ∀ fault, tool.readArguments decode asked.call.arguments = .error fault →
      asked.call.run asked.moment.now asked.zones = .ok (.ofFault fault))
    (hread : ∀ arguments, tool.readArguments decode asked.call.arguments = .ok arguments →
      asked.call.run asked.moment.now asked.zones = work arguments)
    (hwork : ∀ arguments result fault, work arguments = .ok result →
      result.fault? = some fault → fault.kind ≠ .invalidArguments) :
    ¬ asked.FailsWith limit .invalidArguments ↔
      ∃ arguments, tool.readArguments decode asked.call.arguments = .ok arguments := by
  have hresult : asked.result? limit =
      (asked.call.run asked.moment.now asked.zones).toOption := by
    simp [result?, ToolResult.within_zero]
  unfold FailsWith
  rw [hresult]
  cases hcase : tool.readArguments decode asked.call.arguments with
  | error fault =>
    rw [hunread fault hcase]
    simp [Except.toOption, Tool.kind_of_readArguments hcase]
  | ok arguments =>
    rw [hread arguments hcase]
    simp only [Except.ok.injEq, exists_eq', iff_true]
    rintro ⟨result, fault, hresult, hfault, hkind⟩
    cases hdone : work arguments with
    | error cause => simp [hdone, Except.toOption] at hresult
    | ok done =>
      obtain rfl : done = result := by simpa [hdone, Except.toOption] using hresult
      exact hwork arguments done fault hdone hfault hkind

/-- The result of a call tells of invalid arguments unless the tool takes them. The tool for the
current time takes nothing, null, or an object with no member but a text for the zone, which need
not be there. The tool for conversions takes an object with a time, which is not empty, and two
zones, all of them texts, and with nothing else. What a tool does then it does with these texts.
Whatever its schema allows can be decoded, to the texts that the value holds. -/
theorem Asked.taken_arguments (limit : Duration) (moment : Moment) (zones : ZoneTable)
    {params : Json} {call : ToolCall} (hcall : ToolCall.ofJson params = .ok call) :
    (call.name = "get_system_time" →
      (¬ (mk moment zones call).FailsWith limit .invalidArguments ↔
        ∃ arguments : CurrentTimeArguments, arguments.IsGivenBy params.argumentsIn?) ∧
      ∀ arguments : CurrentTimeArguments, arguments.IsGivenBy params.argumentsIn? →
        call.run moment.now zones = Tool.tellTime arguments moment.now zones) ∧
    (call.name = "convert_time" →
      (¬ (mk moment zones call).FailsWith limit .invalidArguments ↔
        ∃ arguments : ConversionArguments, arguments.IsGivenBy params.argumentsIn?) ∧
      ∀ arguments : ConversionArguments, arguments.IsGivenBy params.argumentsIn? →
        call.run moment.now zones = Tool.convertTime arguments zones) ∧
    (∀ value, validate Tool.currentTime.inputSchema value = .ok () →
      ∃ arguments, CurrentTimeArguments.ofJson value = .ok arguments ∧
        arguments.IsGivenBy (some value)) ∧
    ∀ value, validate Tool.conversion.inputSchema value = .ok () →
      ∃ arguments, ConversionArguments.ofJson value = .ok arguments ∧
        arguments.IsGivenBy (some value) := by
  have hgiven := ToolCall.arguments_of_ofJson hcall
  refine ⟨fun hname => ?_, fun hname => ?_, fun _ => CurrentTimeArguments.exists_of_validate,
    fun _ => ConversionArguments.exists_of_validate⟩
  · have hrun : call.run moment.now zones =
        Tool.currentTime.run call.arguments moment.now zones :=
      ToolCall.run_of_name hname moment.now zones
    have hread (arguments : CurrentTimeArguments)
        (h : Tool.currentTime.readArguments CurrentTimeArguments.ofJson call.arguments =
          .ok arguments) :
        call.run moment.now zones = Tool.tellTime arguments moment.now zones := by
      simp only [hrun, Tool.run, h]
    simp only [CurrentTimeArguments.isGivenBy_iff, ← hgiven]
    refine ⟨not_failsWith_iff limit (fun fault h => ?_) hread
      fun _ _ _ => Tool.kind_ne_of_tellTime, hread⟩
    simp only [hrun, Tool.run, h]
  · have hrun : call.run moment.now zones =
        Tool.conversion.run call.arguments moment.now zones :=
      ToolCall.run_of_name hname moment.now zones
    have hread (arguments : ConversionArguments)
        (h : Tool.conversion.readArguments ConversionArguments.ofJson call.arguments =
          .ok arguments) : call.run moment.now zones = Tool.convertTime arguments zones := by
      simp only [hrun, Tool.run, h]
    simp only [ConversionArguments.isGivenBy_iff, ← hgiven]
    refine ⟨not_failsWith_iff limit (fun fault h => ?_) hread
      fun _ _ _ => Tool.kind_ne_of_convertTime, hread⟩
    simp only [hrun, Tool.run, h]

/-- The arguments of a call to convert an empty time. -/
def emptyTimeArguments : Json :=
  .obj [("source_timezone", .str "UTC"), ("target_timezone", .str "Asia/Tokyo"), ("time", .str "")]

/-- A call for the time in Tokyo has arguments that the tool takes, and a call to convert an empty
time does not. -/
theorem Asked.taken_arguments_calls :
    let moment : Moment := ⟨.ofSecond 0 (by decide), 0⟩
    (ToolCall.run ⟨"get_system_time", some Exchange.tokyoArguments⟩ moment.now =
        Tool.tellTime ⟨some "Asia/Tokyo"⟩ moment.now ∧
      ¬ FailsWith (30 * nanosPerSecond)
        ⟨moment, Zone.find?, ⟨"get_system_time", some Exchange.tokyoArguments⟩⟩
        .invalidArguments) ∧
    FailsWith (30 * nanosPerSecond)
      ⟨moment, Zone.find?, ⟨"convert_time", some emptyTimeArguments⟩⟩ .invalidArguments := by
  intro moment
  have htokyo : ToolCall.ofJson Exchange.tokyoParams =
      .ok ⟨"get_system_time", some Exchange.tokyoArguments⟩ := rfl
  have hempty : ToolCall.ofJson (.obj [("arguments", emptyTimeArguments),
      ("name", .str "convert_time")]) = .ok ⟨"convert_time", some emptyTimeArguments⟩ := rfl
  obtain ⟨htime, -⟩ := taken_arguments (30 * nanosPerSecond) moment Zone.find? htokyo
  obtain ⟨-, hconversion, -⟩ := taken_arguments (30 * nanosPerSecond) moment Zone.find? hempty
  constructor
  · have hgiven : CurrentTimeArguments.IsGivenBy ⟨some "Asia/Tokyo"⟩
        Exchange.tokyoParams.argumentsIn? :=
      .object (List.forall_mem_singleton.2 ⟨List.mem_cons_self, _, rfl⟩) rfl
    exact ⟨(htime rfl).2 _ hgiven, (htime rfl).1.2 ⟨_, hgiven⟩⟩
  · by_contra hnot
    obtain ⟨arguments, hgiven⟩ := (hconversion rfl).1.1 hnot
    have hnone (arguments : ConversionArguments) :
        ¬ arguments.IsGivenBy (some emptyTimeArguments) := by
      rintro ⟨-, -, -, -, hempty⟩
      exact hempty (.tail _ (.tail _ (.head _)))
    exact hnone arguments hgiven

end WorldClock
