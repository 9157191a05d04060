import WorldClock.Proofs.Config.CommandLine
/-!
# Flags that shield their variables

The flags that have a value after the reading of a command line are those that its arguments name
(`CommandLine.has_iff_isNamedBy`). Of the environment only the variables of the other flags count,
and nothing of it if the command line cannot be read (`Config.ofArguments_shielded`).
-/

namespace WorldClock

variable {settings given : Settings} {line : CommandLine} {arguments : List String}
  {argument : String} {flag : Flag} {env env' : Environment}

/-! ### Flags that are named -/

/-- An argument names a flag in one of its spellings, perhaps with a value behind it. -/
def Flag.IsNamedBy (flag : Flag) (argument : String) : Prop :=
  ∃ dashed ∈ flag.spellings, argument = dashed ∨ ∃ text, argument = dashed ++ "=" ++ text

lemma Flag.isNamedBy_iff :
    flag.IsNamedBy argument ↔
      ∃ value?, Argument.ofText (doubleDash argument) = .long flag.name value? := by
  constructor
  · rintro ⟨dashed, hdashed, rfl | ⟨text, rfl⟩⟩
    · exact ⟨none, ofText_doubleDash_spelling hdashed⟩
    · exact ⟨some text, ofText_doubleDash_attached hdashed text⟩
  · rintro ⟨value?, h⟩
    cases value? with
    | none => exact ⟨argument, mem_spellings h, .inl rfl⟩
    | some text =>
      obtain ⟨dashed, hdashed, htext⟩ := exists_mem_spellings h
      exact ⟨dashed, hdashed, .inr ⟨text, htext⟩⟩

lemma Flag.not_isNamedBy_dashes : ¬ flag.IsNamedBy "--" := by
  rw [isNamedBy_iff, doubleDash_dashes, Argument.ofText_dashes]
  nofun

namespace CommandLine

/-- A flag has a value in the end exactly if it was named before or is named by the arguments that
are left. -/
lemma Ends.get?_ne_none_iff (h : Ends line (doubleDashes arguments) given) :
    given.get? flag ≠ none ↔
      line.HasSeen flag ∨ ∃ argument ∈ arguments, flag.IsNamedBy argument := by
  induction arguments generalizing line with
  | nil =>
    obtain ⟨hsettle⟩ := h
    rw [get?_settle_ne_none_iff hsettle]
    simp
  | cons argument rest ih =>
    by_cases hdashes : argument = "--"
    · rw [hdashes, doubleDashes_dashes] at h
      obtain ⟨rfl, hsettle⟩ := h.of_dashes
      rw [get?_settle_ne_none_iff hsettle, hdashes]
      simp [Flag.not_isNamedBy_dashes]
    · rw [doubleDashes_cons hdashes] at h
      obtain _ | ⟨-, hread, hrest⟩ := h
      rw [ih hrest, hread.hasSeen_iff, ← Flag.isNamedBy_iff, or_assoc, List.exists_mem_cons_iff]

/-- The flags that have a value after the reading are those that the arguments name. -/
lemma has_iff_isNamedBy (h : settingsOf arguments = .ok given) :
    given.has flag = true ↔ ∃ argument ∈ arguments.tail, flag.IsNamedBy argument := by
  have hends := ends_of_settingsOf h
  rw [Settings.has_eq_isSome, Option.isSome_iff_ne_none, hends.get?_ne_none_iff]
  simp [HasSeen, start]

end CommandLine

/-! ### Variables that count -/

lemma Settings.putVariable_congr
    (h : given.has flag = false → env flag.variableName = env' flag.variableName) :
    putVariable env given settings flag = putVariable env' given settings flag := by
  cases hflag : given.has flag with
  | true =>
    have hskip (env : Environment) : putVariable env given settings flag = .ok settings := by
      unfold putVariable
      split <;> simp [hflag]
    rw [hskip, hskip]
  | false => rw [putVariable, putVariable, h hflag]

/-- The variables of flags that have a value do not count. -/
lemma Settings.complete_congr
    (h : ∀ flag, given.has flag = false → env flag.variableName = env' flag.variableName) :
    given.complete env = given.complete env' := by
  have hput : putVariable env given = putVariable env' given :=
    funext fun settings => funext fun flag => putVariable_congr (h flag)
  rw [complete, complete, hput]

/-- A flag on the command line shields its variable: environments that agree on the variables of all
other flags lead to the same configuration, or to the same error. On a command line that cannot be
read, or that asks for information, the environment does not count at all. -/
theorem Config.ofArguments_shielded (arguments : List String) :
    (∀ given, CommandLine.settingsOf arguments = .ok given ↔
      CommandLine.Ends .start (doubleDashes arguments.tail) given) ∧
    (∀ given, CommandLine.settingsOf arguments = .ok given →
      ∀ flag, given.has flag = true ↔ ∃ argument ∈ arguments.tail, flag.IsNamedBy argument) ∧
    (∀ env env',
      (∀ flag : Flag, (∀ argument ∈ arguments.tail, ¬ flag.IsNamedBy argument) →
        env flag.variableName = env' flag.variableName) →
      ofArguments arguments env = ofArguments arguments env') ∧
    ∀ error, CommandLine.settingsOf arguments = .error error →
      ∀ env, ofArguments arguments env = .error error := by
  refine ⟨fun given => CommandLine.settingsOf_eq_ok_iff,
    fun given hgiven flag => CommandLine.has_iff_isNamedBy hgiven, ?_, ?_⟩
  · intro env env' hagree
    cases hgiven : CommandLine.settingsOf arguments with
    | error error => simp only [ofArguments, hgiven, bind, Except.bind]
    | ok given =>
      have hcomplete : given.complete env = given.complete env' := by
        apply Settings.complete_congr
        intro flag hflag
        apply hagree
        intro argument hargument hnamed
        have hhas := (CommandLine.has_iff_isNamedBy hgiven).2 ⟨argument, hargument, hnamed⟩
        exact Bool.false_ne_true (hflag.symm.trans hhas)
      simp only [ofArguments, hgiven, bind, Except.bind, hcomplete]
  · intro error hgiven env
    simp only [ofArguments, hgiven, bind, Except.bind]

/-- A port on the command line hides a variable that is no port, and a request for help hides it
too. -/
theorem Config.ofArguments_shielded_port :
    let env : Environment := fun name => if name = "FAST_TIME_PORT" then some "none" else none
    CommandLine.settingsOf ["server", "-port=80"] = .ok { Settings.empty with port := some 80 } ∧
      (∃ argument ∈ ["-port=80"], Flag.port.IsNamedBy argument) ∧
      (∀ flag : Flag, (∀ argument ∈ ["-port=80"], ¬ flag.IsNamedBy argument) →
        env flag.variableName = none) ∧
      ofArguments ["server", "-port=80"] env = .ok { standard with port := 80 } ∧
      CommandLine.settingsOf ["server", "-log-json", "-h"] = .error .help ∧
      ofArguments ["server", "-log-json", "-h"] env = .error .help := by
  intro env
  obtain ⟨-, hnames, hport, -⟩ := ofArguments_shielded ["server", "-port=80"]
  obtain ⟨-, -, -, hhelp⟩ := ofArguments_shielded ["server", "-log-json", "-h"]
  have hgiven : CommandLine.settingsOf ["server", "-port=80"] =
      .ok { Settings.empty with port := some 80 } := by decide +kernel
  have hnamed := (hnames _ hgiven .port).1 rfl
  have hagree : ∀ flag : Flag, (∀ argument ∈ ["-port=80"], ¬ flag.IsNamedBy argument) →
      env flag.variableName = none := by
    intro flag hnone
    cases flag
    case port =>
      obtain ⟨argument, hargument, hport⟩ := hnamed
      exact absurd hport (hnone argument hargument)
    all_goals decide
  have hinformed : CommandLine.settingsOf ["server", "-log-json", "-h"] = .error .help := by decide
  refine ⟨hgiven, hnamed, hagree, ?_, hinformed, hhelp .help hinformed env⟩
  rw [hport env (fun _ => none) hagree]
  decide +kernel

end WorldClock
