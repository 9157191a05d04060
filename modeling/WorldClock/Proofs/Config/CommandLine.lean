import Mathlib.Tactic
import WorldClock.Proofs.Config.Resolve
import WorldClock.Proofs.Config.Spelling
/-!
# Values on the command line

What reading an argument can do to a command line (`CommandLine.Reads`). Arguments give settings
exactly if they can be read to the end in this way (`CommandLine.settingsOf_eq_ok_iff`). A text that
was typed as the value of a flag (`Supplies`) is taken over as it stands, and a flag that has a
value in the end has it from such a text (`CommandLine.holds_of_supplies`,
`CommandLine.exists_supplies`).
-/

namespace WorldClock

variable {settings after given : Settings} {line next last : CommandLine}
  {arguments rest : List String} {argument dashed name text value : String} {flag other : Flag}

/-! ### What is typed and what is given -/

/-- Arguments have a text for a flag: behind the first `=` of the argument that names the flag, or
as the argument after it. -/
inductive Supplies : List String → Flag → String → Prop
  | attached {dashed : String} {flag : Flag} (h : dashed ∈ flag.spellings)
      (text : String) (rest : List String) : Supplies ((dashed ++ "=" ++ text) :: rest) flag text
  | separate {dashed : String} {flag : Flag} (h : dashed ∈ flag.spellings)
      (text : String) (rest : List String) : Supplies (dashed :: text :: rest) flag text
  | later {argument : String} {rest : List String} {flag : Flag} {text : String}
      (hargument : argument ≠ "--") (h : Supplies rest flag text) :
      Supplies (argument :: rest) flag text

/-- A text is one that its flag takes, and the flag has the value that it denotes. -/
def Settings.Holds (settings : Settings) (flag : Flag) (text : String) : Prop :=
  ∃ value, flag.read? text = some value ∧ settings.get? flag = some value

namespace CommandLine

/-! ### Values that are taken over -/

lemma get?_give (h : give settings flag text = .ok after) :
    settings.get? flag = none ∧ ∃ value, flag.read? text = some value ∧
      after.get? = Function.update settings.get? flag (some value) := by
  unfold give at h
  rw [Settings.has_eq_isSome] at h
  cases hget : settings.get? flag with
  | some value =>
    rw [hget] at h
    cases h
  | none =>
    rw [hget] at h
    exact ⟨rfl, Settings.get?_put h⟩

lemma holds_give_self (h : give settings flag text = .ok after) : after.Holds flag text := by
  obtain ⟨-, value, hvalue, hafter⟩ := get?_give h
  exact ⟨value, hvalue, by rw [hafter, Function.update_self]⟩

/-- What a flag has is not given twice. -/
lemma holds_give (hsettings : settings.Holds flag text)
    (h : give settings other value = .ok after) : after.Holds flag text := by
  obtain ⟨found, hfound, hget⟩ := hsettings
  obtain ⟨hnone, new, -, hafter⟩ := get?_give h
  have hne : flag ≠ other := by
    rintro rfl
    simp [hget] at hnone
  exact ⟨found, hfound, by rw [hafter, Function.update_of_ne hne, hget]⟩

/-- A flag that is given a value gets one, and no other flag does. -/
lemma get?_give_ne_none_iff (h : give settings other value = .ok after) :
    after.get? flag ≠ none ↔ settings.get? flag ≠ none ∨ flag = other := by
  obtain ⟨-, new, -, hafter⟩ := get?_give h
  rw [hafter]
  rcases eq_or_ne flag other with rfl | hne
  · simp
  · simp [hne]

/-- Taking over the value of the last flag succeeds if there is none to take over, or there is its
value and it can be given. -/
lemma settle_eq_ok_iff :
    line.settle = .ok after ↔
      line.openFlag = none ∧ line.settings = after ∨
        ∃ flag text, line.openFlag = some ⟨flag, some text⟩ ∧
          give line.settings flag text = .ok after := by
  obtain ⟨settings, openFlag, flagsEnded⟩ := line
  rcases openFlag with _ | ⟨flag, _ | text⟩ <;> simp [settle]

/-! ### Single arguments -/

/-- What reading an argument can do to a command line on which flags have not ended. -/
inductive Reads : CommandLine → String → CommandLine → Prop
  /-- A lone pair of dashes ends the flags. -/
  | dashes {line : CommandLine} : Reads line "--" { line with flagsEnded := true }
  /-- A flag with its value. -/
  | attached {line : CommandLine} {argument text : String} {flag : Flag} {settled after : Settings}
      (hargument : Argument.ofText argument = .long flag.name (some text))
      (hflag : flag.takesValue = true) (hsettle : line.settle = .ok settled)
      (hgive : give settled flag text = .ok after) :
      Reads line argument ⟨after, none, false⟩
  /-- A flag without its value. -/
  | named {line : CommandLine} {argument : String} {flag : Flag} {settled : Settings}
      (hargument : Argument.ofText argument = .long flag.name none)
      (hflag : flag.takesValue = true) (hsettle : line.settle = .ok settled) :
      Reads line argument ⟨settled, some ⟨flag, none⟩, false⟩
  /-- A flag that takes no value. -/
  | switch {line : CommandLine} {argument : String} {flag : Flag} {settled after : Settings}
      (hargument : Argument.ofText argument = .long flag.name none)
      (hflag : flag.takesValue = false) (hsettle : line.settle = .ok settled)
      (hgive : give settled flag "true" = .ok after) :
      Reads line argument ⟨after, none, false⟩
  /-- The value of the flag before. -/
  | value {line : CommandLine} {argument : String} {flag : Flag}
      (hargument : Argument.ofText argument = .plain argument)
      (hopen : line.openFlag = some ⟨flag, none⟩) :
      Reads line argument ⟨line.settings, some ⟨flag, some argument⟩, false⟩

lemma inform_ne_ok {request : ConfigError} : line.inform request ≠ .ok next := by
  unfold inform
  cases line.settle <;> nofun

lemma reads_of_readFlag {value? : Option String}
    (hargument : Argument.ofText argument = .long flag.name value?)
    (hended : line.flagsEnded = false) (h : line.readFlag flag value? = .ok next) :
    Reads line argument next := by
  unfold readFlag at h
  split at h
  · next text hflag =>
    obtain ⟨settled, hsettle, h⟩ := bind_eq_ok_iff.1 h
    obtain ⟨after, hgive, h⟩ := bind_eq_ok_iff.1 h
    cases h
    rw [hended]
    exact .attached hargument hflag hsettle hgive
  · next hflag =>
    obtain ⟨settled, hsettle, h⟩ := bind_eq_ok_iff.1 h
    cases h
    rw [hended]
    exact .named hargument hflag hsettle
  · cases h
  · next hflag =>
    obtain ⟨settled, hsettle, h⟩ := bind_eq_ok_iff.1 h
    obtain ⟨after, hgive, h⟩ := bind_eq_ok_iff.1 h
    cases h
    rw [hended]
    exact .switch hargument hflag hsettle hgive

lemma reads_of_readLong {value? : Option String}
    (hargument : Argument.ofText argument = .long name value?)
    (hended : line.flagsEnded = false) (h : line.readLong name value? = .ok next) :
    Reads line argument next := by
  unfold readLong at h
  cases hname : Flag.ofName? name with
  | some flag =>
    rw [hname] at h
    rw [← Flag.name_eq_of_ofName? hname] at hargument
    exact reads_of_readFlag hargument hended h
  | none =>
    rw [hname] at h
    split at h
    · next heq => cases heq
    · exact absurd h inform_ne_ok
    · exact absurd h inform_ne_ok
    all_goals cases h

theorem reads_of_read (h : line.read argument = .ok next) :
    line.flagsEnded = false ∧ Reads line argument next := by
  unfold read at h
  split_ifs at h with hended
  rw [Bool.not_eq_true] at hended
  refine ⟨hended, ?_⟩
  split at h
  · next hform =>
    have htext := Argument.toText_ofText argument
    rw [hform] at htext
    cases h
    rw [← htext]
    exact .dashes
  · next name value? hform => exact reads_of_readLong hform hended h
  · exact absurd h inform_ne_ok
  · exact absurd h inform_ne_ok
  · cases h
  · next text hform =>
    have htext := Argument.toText_ofText argument
    rw [hform] at htext
    change text = argument at htext
    subst htext
    split at h
    · next flag hopen =>
      cases h
      rw [hended]
      exact .value hform hopen
    · cases h

lemma readLong_name (line : CommandLine) (flag : Flag) (value? : Option String) :
    line.readLong flag.name value? = line.readFlag flag value? := by
  simp only [readLong, Flag.ofName?_name]

/-- What reading an argument can do it does. -/
lemma read_of_reads (hended : line.flagsEnded = false) (h : Reads line argument next) :
    line.read argument = .ok next := by
  cases h with
  | dashes => simp [read, hended, Argument.ofText_dashes]
  | attached hargument hflag hsettle hgive | switch hargument hflag hsettle hgive =>
    simp [read, hended, hargument, readLong_name, readFlag, hflag, hsettle, hgive, bind,
      Except.bind]
  | named hargument hflag hsettle =>
    simp [read, hended, hargument, readLong_name, readFlag, hflag, hsettle, bind, Except.bind]
  | value hargument hopen => simp [read, hended, hargument, hopen]

/-! ### Whole command lines -/

/-- The arguments that are left on a command line are read to the end, and give settings. -/
inductive Ends : CommandLine → List String → Settings → Prop
  | done {line : CommandLine} {given : Settings} (hsettle : line.settle = .ok given) :
      Ends line [] given
  | step {line next : CommandLine} {argument : String} {rest : List String} {given : Settings}
      (hended : line.flagsEnded = false) (hread : Reads line argument next)
      (hrest : Ends next rest given) : Ends line (argument :: rest) given

lemma ends_of_foldlM (hrun : arguments.foldlM read line = .ok last)
    (hsettle : last.settle = .ok given) : Ends line arguments given := by
  induction arguments generalizing line with
  | nil =>
    cases hrun
    exact .done hsettle
  | cons argument rest ih =>
    obtain ⟨next, hread, hrun⟩ := bind_eq_ok_iff.1 hrun
    obtain ⟨hended, hread⟩ := reads_of_read hread
    exact .step hended hread (ih hrun)

lemma foldlM_of_ends (h : Ends line arguments given) :
    ∃ last, arguments.foldlM read line = .ok last ∧ last.settle = .ok given := by
  induction h with
  | done hsettle => exact ⟨_, rfl, hsettle⟩
  | step hended hread _ ih =>
    obtain ⟨last, hrun, hsettle⟩ := ih
    exact ⟨last, bind_eq_ok_iff.2 ⟨_, read_of_reads hended hread, hrun⟩, hsettle⟩

lemma drop_normalizeFlags (arguments : List String) :
    (normalizeFlags arguments).drop 1 = doubleDashes arguments.tail := by
  cases arguments <;> rfl

lemma ends_of_settingsOf (h : settingsOf arguments = .ok given) :
    Ends start (doubleDashes arguments.tail) given := by
  obtain ⟨last, hrun, hsettle⟩ := bind_eq_ok_iff.1 h
  rw [drop_normalizeFlags] at hrun
  exact ends_of_foldlM hrun hsettle

/-- Arguments give settings exactly if they can be read to the end. -/
lemma settingsOf_eq_ok_iff :
    settingsOf arguments = .ok given ↔ Ends start (doubleDashes arguments.tail) given := by
  constructor
  · exact ends_of_settingsOf
  · intro h
    rw [settingsOf, drop_normalizeFlags]
    exact bind_eq_ok_iff.2 (foldlM_of_ends h)

lemma Reads.eq_of_dashes (h : Reads line "--" next) : next = { line with flagsEnded := true } := by
  cases h with
  | dashes => rfl
  | attached hargument | named hargument | switch hargument | value hargument =>
    simp [Argument.ofText_dashes] at hargument

/-- Nothing can follow the end of the flags. -/
lemma Ends.of_dashes (h : Ends line ("--" :: rest) given) :
    rest = [] ∧ line.settle = .ok given := by
  obtain _ | ⟨-, hread, hrest⟩ := h
  rw [hread.eq_of_dashes] at hrest
  obtain hsettle | ⟨hended⟩ := hrest
  · exact ⟨rfl, hsettle⟩
  · cases hended

/-! ### From what was typed to what is given -/

/-- A command line has a text for a flag, be it taken over or not yet. -/
def Offers (line : CommandLine) (flag : Flag) (text : String) : Prop :=
  line.settings.Holds flag text ∨ line.openFlag = some ⟨flag, some text⟩

lemma holds_settle (hline : line.Offers flag text) (h : line.settle = .ok after) :
    after.Holds flag text := by
  obtain ⟨hnone, rfl⟩ | ⟨other, value, hopen, hgive⟩ := settle_eq_ok_iff.1 h
  · exact hline.resolve_right (by simp [hnone])
  · rcases hline with hholds | hsome
    · exact holds_give hholds hgive
    · rw [hsome] at hopen
      cases hopen
      exact holds_give_self hgive

/-- What a command line has it keeps. -/
lemma Reads.offers (h : Reads line argument next) (hline : line.Offers flag text) :
    next.Offers flag text := by
  cases h with
  | dashes => exact hline
  | attached _ _ hsettle hgive | switch _ _ hsettle hgive =>
    exact .inl (holds_give (holds_settle hline hsettle) hgive)
  | named _ _ hsettle => exact .inl (holds_settle hline hsettle)
  | value _ hopen => exact .inl (hline.resolve_right (by simp [hopen]))

lemma Ends.holds (h : Ends line arguments given) (hline : line.Offers flag text) :
    given.Holds flag text := by
  induction h with
  | done hsettle => exact holds_settle hline hsettle
  | step _ hread _ ih => exact ih (hread.offers hline)

lemma Reads.offers_of_long (h : Reads line argument next)
    (hargument : Argument.ofText argument = .long flag.name (some text)) :
    next.Offers flag text := by
  cases h with
  | dashes => simp [Argument.ofText_dashes] at hargument
  | attached hother _ _ hgive =>
    simp only [hother, Argument.long.injEq, Flag.name_inj, Option.some.injEq] at hargument
    obtain ⟨rfl, rfl⟩ := hargument
    exact .inl (holds_give_self hgive)
  | named hother | switch hother | value hother => simp [hother] at hargument

lemma Reads.openFlag_of_long (h : Reads line argument next)
    (hargument : Argument.ofText argument = .long flag.name none)
    (hflag : flag.takesValue = true) : next.openFlag = some ⟨flag, none⟩ := by
  cases h with
  | dashes => simp [Argument.ofText_dashes] at hargument
  | attached hother | value hother => simp [hother] at hargument
  | named hother =>
    simp only [hother, Argument.long.injEq, Flag.name_inj, and_true] at hargument
    rw [hargument]
  | switch hother hnot =>
    simp only [hother, Argument.long.injEq, Flag.name_inj, and_true] at hargument
    rw [hargument, hflag] at hnot
    cases hnot

/-- A flag that waits for its value gets it from the next argument, unless the flags end there. -/
lemma Reads.of_openFlag (h : Reads line argument next) (hopen : line.openFlag = some ⟨flag, none⟩) :
    argument = "--" ∨
      Argument.ofText argument = .plain argument ∧ next.openFlag = some ⟨flag, some argument⟩ := by
  have hsettle (settled : Settings) : line.settle ≠ .ok settled := by
    simp [settle_eq_ok_iff, hopen]
  cases h with
  | dashes => exact .inl rfl
  | attached _ _ h | named _ _ h | switch _ _ h => exact absurd h (hsettle _)
  | value hplain hother =>
    rw [hopen] at hother
    cases hother
    exact .inr ⟨hplain, rfl⟩

/-- A flag that waits for its value has the next argument in the end, just as that was typed. -/
lemma holds_of_openFlag (hopen : line.openFlag = some ⟨flag, none⟩)
    (h : Ends line (doubleDashes (argument :: rest)) given) : given.Holds flag argument := by
  by_cases hdashes : argument = "--"
  · rw [hdashes, doubleDashes_dashes] at h
    obtain ⟨-, hsettle⟩ := h.of_dashes
    simp [settle_eq_ok_iff, hopen] at hsettle
  · rw [doubleDashes_cons hdashes] at h
    obtain _ | ⟨-, hread, hrest⟩ := h
    obtain hdouble | ⟨hplain, hnext⟩ := hread.of_openFlag hopen
    · exact absurd (doubleDash_eq_dashes_iff.1 hdouble) hdashes
    · rw [Argument.eq_of_ofText_doubleDash_eq_plain hplain] at hnext
      exact hrest.holds (.inr hnext)

/-- A text that was typed for a flag is what the flag has in the end. -/
lemma holds_of_supplies (hsupplies : Supplies arguments flag text) (hflag : flag.takesValue = true)
    (h : Ends line (doubleDashes arguments) given) : given.Holds flag text := by
  induction hsupplies generalizing line with
  | attached hdashed text rest =>
    have hne := Flag.spelling_append_ne_dashes hdashed ("=" ++ text)
    rw [← String.append_assoc] at hne
    rw [doubleDashes_cons hne] at h
    obtain _ | ⟨-, hread, hrest⟩ := h
    exact hrest.holds (hread.offers_of_long (Flag.ofText_doubleDash_attached hdashed text))
  | separate hdashed text rest =>
    rw [doubleDashes_cons (Flag.ne_dashes_of_mem_spellings hdashed)] at h
    obtain _ | ⟨-, hread, hrest⟩ := h
    exact holds_of_openFlag
      (hread.openFlag_of_long (Flag.ofText_doubleDash_spelling hdashed) hflag) hrest
  | later hargument _ ih =>
    rw [doubleDashes_cons hargument] at h
    obtain _ | ⟨-, -, hrest⟩ := h
    exact ih hflag hrest

/-! ### From what is given to what was typed -/

/-- A flag was named on a command line, whether or not its value was taken over. -/
def HasSeen (line : CommandLine) (flag : Flag) : Prop :=
  line.settings.get? flag ≠ none ∨ ∃ text?, line.openFlag = some ⟨flag, text?⟩

/-- All flags that were named have a value in the end, and no others. -/
lemma get?_settle_ne_none_iff (h : line.settle = .ok after) :
    after.get? flag ≠ none ↔ line.HasSeen flag := by
  obtain ⟨hopen, rfl⟩ | ⟨other, text, hopen, hgive⟩ := settle_eq_ok_iff.1 h
  · simp [HasSeen, hopen]
  · rw [get?_give_ne_none_iff hgive, HasSeen, hopen]
    simp [eq_comm]

/-- Reading an argument adds the flag that it names to those that were named before. -/
lemma Reads.hasSeen_iff (h : Reads line argument next) :
    next.HasSeen flag ↔
      line.HasSeen flag ∨ ∃ value?, Argument.ofText argument = .long flag.name value? := by
  cases h with
  | dashes => simp [HasSeen, Argument.ofText_dashes]
  | attached hargument _ hsettle hgive | switch hargument _ hsettle hgive =>
    rw [← get?_settle_ne_none_iff hsettle, hargument]
    simp [HasSeen, get?_give_ne_none_iff hgive, Flag.name_inj, eq_comm]
  | named hargument _ hsettle =>
    rw [← get?_settle_ne_none_iff hsettle, hargument]
    simp [HasSeen, Flag.name_inj, eq_comm]
  | value hargument hopen => simp [HasSeen, hargument, hopen]

/-- A flag is named by the argument that its value stands in, or by the one before. -/
lemma Reads.cases_of_hasSeen (h : Reads line argument next) (hflag : flag.takesValue = true)
    (hnext : next.HasSeen flag) :
    line.HasSeen flag ∨ (∃ text, Argument.ofText argument = .long flag.name (some text)) ∨
      Argument.ofText argument = .long flag.name none ∧ next.openFlag = some ⟨flag, none⟩ := by
  obtain hline | ⟨_ | text, hargument⟩ := h.hasSeen_iff.1 hnext
  · exact .inl hline
  · exact .inr (.inr ⟨hargument, h.openFlag_of_long hargument hflag⟩)
  · exact .inr (.inl ⟨text, hargument⟩)

/-- A flag that has a value in the end was named before, or is given one by the arguments that are
left. -/
lemma exists_supplies (h : Ends line (doubleDashes arguments) given)
    (hflag : flag.takesValue = true) (hgiven : given.get? flag ≠ none) :
    line.HasSeen flag ∨ ∃ text, Supplies arguments flag text := by
  induction arguments generalizing line with
  | nil =>
    obtain ⟨hsettle⟩ := h
    exact .inl ((get?_settle_ne_none_iff hsettle).1 hgiven)
  | cons argument rest ih =>
    by_cases hdashes : argument = "--"
    · rw [hdashes, doubleDashes_dashes] at h
      exact .inl ((get?_settle_ne_none_iff h.of_dashes.2).1 hgiven)
    · rw [doubleDashes_cons hdashes] at h
      obtain _ | ⟨-, hread, hrest⟩ := h
      obtain hnext | ⟨text, hsupplies⟩ := ih hrest
      · obtain hline | ⟨text, hargument⟩ | ⟨hargument, hopen⟩ := hread.cases_of_hasSeen hflag hnext
        · exact .inl hline
        · obtain ⟨dashed, hdashed, rfl⟩ := Flag.exists_mem_spellings hargument
          exact .inr ⟨text, .attached hdashed text rest⟩
        · -- The value that the flag waits for is there, or the reading would not have ended well.
          cases rest with
          | nil =>
            obtain ⟨hsettle⟩ := hrest
            simp [settle_eq_ok_iff, hopen] at hsettle
          | cons text rest =>
            exact .inr ⟨text, .separate (Flag.mem_spellings hargument) text rest⟩
      · exact .inr ⟨text, .later hdashes hsupplies⟩

end CommandLine

/-! ### Accepted arguments -/

lemma Config.ofArguments_congr {more : List String}
    (h : normalizeFlags arguments = normalizeFlags more) (env : Environment) :
    ofArguments arguments env = ofArguments more env := by
  simp only [ofArguments, CommandLine.settingsOf, h]

/-- What the command line gave, the environment does not change. -/
lemma Settings.Holds.complete {env : Environment} (h : given.Holds flag text)
    (hcomplete : given.complete env = .ok settings) : settings.Holds flag text := by
  obtain ⟨value, hvalue, hget⟩ := h
  exact ⟨value, hvalue, by rw [get?_complete hcomplete, hget, Option.some_or]⟩

/-- One dash in front of a flag is as good as two, and no value is changed: the flags that take a
value have those that were typed for them. -/
theorem Config.ofArguments_spelling :
    (∀ program before argument rest env, "--" ∉ before → IsSingleDashed argument →
      ofArguments (program :: before ++ argument :: rest) env =
        ofArguments (program :: before ++ ("-" ++ argument) :: rest) env) ∧
    (∀ arguments, normalizeFlags (normalizeFlags arguments) = normalizeFlags arguments ∧
      (normalizeFlags arguments).head? = arguments.head?) ∧
    (∀ program before rest, "--" ∉ before →
      normalizeFlags (program :: before ++ "--" :: rest) =
        normalizeFlags (program :: before) ++ "--" :: rest) ∧
    ∀ arguments env config, ofArguments arguments env = .ok config →
      ∃ given settings, CommandLine.settingsOf arguments = .ok given ∧
        given.complete env = .ok settings ∧ settings.check = .ok config ∧
        ∀ flag, flag.takesValue = true →
          (given.has flag = true ↔ ∃ text, Supplies arguments.tail flag text) ∧
          ∀ text, Supplies arguments.tail flag text → settings.Holds flag text := by
  refine ⟨?_, ?_, ?_, ?_⟩
  · intro program before argument rest env hbefore hargument
    exact ofArguments_congr (normalizeFlags_replace hbefore hargument program rest) env
  · exact fun arguments => ⟨normalizeFlags_normalizeFlags arguments, head?_normalizeFlags arguments⟩
  · exact fun program before rest hbefore => normalizeFlags_append_dashes hbefore program rest
  · intro arguments env config h
    obtain ⟨given, settings, hgiven, hsettings, hcheck⟩ := exists_check h
    have hends := CommandLine.ends_of_settingsOf hgiven
    refine ⟨given, settings, hgiven, hsettings, hcheck, fun flag hflag => ⟨?_, ?_⟩⟩
    · rw [Settings.has_eq_isSome, Option.isSome_iff_ne_none]
      constructor
      · intro hget
        refine (CommandLine.exists_supplies hends hflag hget).resolve_left ?_
        simp [CommandLine.HasSeen, CommandLine.start]
      · rintro ⟨text, hsupplies⟩
        obtain ⟨value, -, hget⟩ := CommandLine.holds_of_supplies hsupplies hflag hends
        simp [hget]
    · intro text hsupplies
      exact (CommandLine.holds_of_supplies hsupplies hflag hends).complete hsettings

/-- A port with one dash or two, and a token with a `=` in it. -/
theorem Config.ofArguments_spelling_token :
    ofArguments ["server", "-port=80", "-auth-token", "a=b"] (fun _ => none) =
      ofArguments ["server", "--port=80", "-auth-token", "a=b"] (fun _ => none) ∧
    ∃ settings : Settings,
      settings.check = .ok { standard with port := 80, authToken := some "a=b" } ∧
      settings.Holds .port "80" ∧ settings.Holds .authToken "a=b" := by
  obtain ⟨hreplace, -, -, hholds⟩ := ofArguments_spelling
  refine ⟨hreplace "server" [] "-port=80" _ _ (by decide) ⟨by decide, by decide, by decide⟩, ?_⟩
  have h : ofArguments ["server", "-port=80", "-auth-token", "a=b"] (fun _ => none) =
      .ok { standard with port := 80, authToken := some "a=b" } := by decide +kernel
  obtain ⟨given, settings, -, -, hcheck, hflags⟩ := hholds _ _ _ h
  have hport : "-port" ∈ Flag.port.spellings := by decide
  have htoken : "-auth-token" ∈ Flag.authToken.spellings := by decide
  exact ⟨settings, hcheck, (hflags .port rfl).2 "80" (.attached hport "80" _),
    (hflags .authToken rfl).2 "a=b" (.later (by decide) (.separate htoken "a=b" []))⟩

end WorldClock
