import Mathlib.Logic.Function.Basic
import WorldClock.Config.Resolve
import WorldClock.Proofs.Outcome
/-!
# Values of flags

Settings as functions of the flag. A value that is taken over changes that of its own flag only
(`Settings.get?_put`), and a variable of the environment counts only where the command line gave no
value (`Settings.get?_complete`).
-/

namespace WorldClock

variable {settings after given : Settings} {flag : Flag} {text : String} {env : Environment}

/-! ### Single values -/

/-- The values that a flag has. -/
def Flag.Value : Flag → Type
  | transport => Transport
  | logLevel => LogLevel
  | logJson => Bool
  | port | toolTimeout | sessionTtl => Nat
  | listen | addr | publicUrl | authToken => String

/-- The value of a flag that a text denotes. -/
def Flag.read? : (flag : Flag) → String → Option flag.Value
  | transport, text => Transport.ofName? text
  | logLevel, text => LogLevel.ofName? text
  | logJson, text => readBool text
  | port, text => readPortFlag text
  | toolTimeout, text | sessionTtl, text => readSeconds text
  | listen, text | addr, text | publicUrl, text | authToken, text => some text

/-- The value that was given for a flag. -/
def Settings.get? (settings : Settings) : (flag : Flag) → Option flag.Value
  | .transport => settings.transport
  | .port => settings.port
  | .listen => settings.listen
  | .addr => settings.addr
  | .publicUrl => settings.publicUrl
  | .authToken => settings.authToken
  | .logLevel => settings.logLevel
  | .logJson => settings.logJson
  | .toolTimeout => settings.toolTimeout
  | .sessionTtl => settings.sessionTtl

lemma Settings.has_eq_isSome (settings : Settings) (flag : Flag) :
    settings.has flag = (settings.get? flag).isSome := by
  cases flag <;> rfl

@[simp] lemma Settings.get?_empty (flag : Flag) : Settings.empty.get? flag = none := by
  cases flag <;> rfl

lemma Settings.require_eq_ok_iff {α : Type} {error : ConfigError} {value? : Option α} {value : α} :
    require error value? = .ok value ↔ value? = some value := by
  cases value? <;> simp [require]

/-- Taking over a text gives its flag the value that it denotes, and no other flag another one. -/
lemma Settings.get?_put (h : settings.put flag text = .ok after) :
    ∃ value, flag.read? text = some value ∧
      after.get? = Function.update settings.get? flag (some value) := by
  cases flag
  case listen | addr | publicUrl | authToken =>
    cases h
    refine ⟨text, rfl, funext fun other => ?_⟩
    cases other <;> rfl
  all_goals
    obtain ⟨value, hvalue, h⟩ := bind_eq_ok_iff.1 h
    cases h
    refine ⟨value, require_eq_ok_iff.1 hvalue, funext fun other => ?_⟩
    cases other <;> rfl

/-! ### The environment -/

/-- The text of the environment that stands in for a flag, as a value. -/
def Flag.ofEnvironment? (flag : Flag) (env : Environment) : Option flag.Value :=
  (env flag.variableName).bind flag.read?

/-- A variable changes the value of its flag only, and only if the command line gave none. -/
lemma Settings.get?_putVariable (h : putVariable env given settings flag = .ok after)
    (hflag : settings.get? flag = given.get? flag) :
    after.get? = Function.update settings.get? flag
      ((given.get? flag).or (flag.ofEnvironment? env)) := by
  unfold putVariable at h
  unfold Flag.ofEnvironment?
  cases hvariable : env flag.variableName with
  | none =>
    rw [hvariable] at h
    cases h
    simp [← hflag]
  | some text =>
    simp only [hvariable, has_eq_isSome] at h
    cases hgiven : given.get? flag with
    | some value =>
      rw [hgiven] at h
      cases h
      rw [Option.some_or, ← hgiven, ← hflag, Function.update_eq_self]
    | none =>
      rw [hgiven] at h
      obtain ⟨value, hvalue, hafter⟩ := get?_put h
      rw [hafter, Option.none_or, Option.bind_some, hvalue]

/-- Of the flags that are looked at, each has the value that the command line gave, or else that of
its variable. -/
lemma Settings.get?_foldlM_putVariable {flags : List Flag} (hnodup : flags.Nodup)
    (hgiven : ∀ flag ∈ flags, settings.get? flag = given.get? flag)
    (h : flags.foldlM (putVariable env given) settings = .ok after) (flag : Flag) :
    after.get? flag =
      if flag ∈ flags then (given.get? flag).or (flag.ofEnvironment? env)
      else settings.get? flag := by
  induction flags generalizing settings with
  | nil =>
    cases h
    rfl
  | cons first rest ih =>
    obtain ⟨hfirst, hnodup⟩ := List.nodup_cons.1 hnodup
    obtain ⟨next, hnext, h⟩ := bind_eq_ok_iff.1 h
    have hget := get?_putVariable hnext (hgiven first (.head _))
    have hrest : ∀ flag ∈ rest, next.get? flag = given.get? flag := fun flag hflag => by
      rw [hget, Function.update_of_ne (ne_of_mem_of_not_mem hflag hfirst),
        hgiven flag (.tail _ hflag)]
    rw [ih hnodup hrest h, hget]
    rcases eq_or_ne flag first with rfl | hne
    · simp [hfirst]
    · simp [hne]

lemma Flag.mem_all (flag : Flag) : flag ∈ all := by
  cases flag <;> decide

/-- Every flag has the value that the command line gave, or else that of its variable. -/
lemma Settings.get?_complete (h : given.complete env = .ok settings) (flag : Flag) :
    settings.get? flag = (given.get? flag).or (flag.ofEnvironment? env) := by
  have hnodup : Flag.all.Nodup := by decide
  rw [get?_foldlM_putVariable hnodup (fun _ _ => rfl) h, if_pos flag.mem_all]

end WorldClock
