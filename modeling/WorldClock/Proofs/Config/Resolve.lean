import Mathlib.Tactic
import WorldClock.Proofs.Config.Flag
/-!
# Configurations that can be used

What the checks let through (`Settings.check_eq_ok_iff`): settings give a configuration exactly if
both times are positive, there is a place to listen, and the public address is one. Of the rest
nothing is refused. So any text but the empty one can become the token
(`Config.exists_ofArguments_iff`).
-/

namespace WorldClock

variable {settings : Settings} {config : Config} {arguments : List String} {env : Environment}

/-! ### Checks -/

/-- The public address that settings give. -/
def Settings.publicUrl? (settings : Settings) : Except ConfigFault (Option String) :=
  match settings.publicUrl with
  | some text => readPublicUrl text
  | none => .ok none

/-- The configuration that settings give with a public address, whatever the checks say. -/
def Settings.tidied (settings : Settings) (publicUrl : Option String) : Config where
  transport := settings.transport.getD .stdio
  listen := Text.trim (settings.listen.getD "0.0.0.0")
  port := settings.port.getD 8080
  addr := settings.addr.filter fun addr => Text.trim addr ≠ ""
  publicUrl
  authToken := settings.authToken.filter (· ≠ "")
  logLevel := settings.logLevel.getD .info
  logJson := settings.logJson.getD false
  toolTimeout := settings.toolTimeout.getD 30 * nanosPerSecond
  sessionTtl := settings.sessionTtl.getD 1800 * nanosPerSecond

lemma getD_map_nanosPerSecond (seconds? : Option Nat) (standard : Nat) :
    (seconds?.map (· * nanosPerSecond)).getD (standard * nanosPerSecond) =
      seconds?.getD standard * nanosPerSecond := by
  cases seconds? <;> rfl

lemma Settings.check_eq (settings : Settings) :
    settings.check =
      if settings.toolTimeout.getD 30 * nanosPerSecond = 0 then .error .zeroToolTimeout
      else if settings.sessionTtl.getD 1800 * nanosPerSecond = 0 then .error .zeroSessionTtl
      else if Text.trim (settings.listen.getD "0.0.0.0") = "" then .error .emptyListen
      else settings.publicUrl?.map settings.tidied := by
  simp only [check, Config.standard, getD_map_nanosPerSecond, publicUrl?]
  split_ifs <;> try rfl
  cases settings.publicUrl with
  | none => rfl
  | some text => cases readPublicUrl text <;> rfl

/-- Settings give a configuration exactly if the times in it are positive, there is a place to
listen, and the public address can be read. -/
theorem Settings.check_eq_ok_iff :
    settings.check = .ok config ↔
      settings.publicUrl? = .ok config.publicUrl ∧ config = settings.tidied config.publicUrl ∧
        config.toolTimeout ≠ 0 ∧ config.sessionTtl ≠ 0 ∧ config.listen ≠ "" := by
  rw [check_eq]
  constructor
  · intro h
    split_ifs at h with htimeout httl hlisten
    cases hurl : settings.publicUrl? with
    | error fault =>
      rw [hurl] at h
      cases h
    | ok url =>
      rw [hurl] at h
      cases h
      exact ⟨rfl, rfl, htimeout, httl, hlisten⟩
  · rintro ⟨hurl, heq, htimeout, httl, hlisten⟩
    rw [heq, tidied] at htimeout httl hlisten
    rw [if_neg htimeout, if_neg httl, if_neg hlisten, hurl, heq]
    rfl

/-! ### Arguments -/

lemma Config.exists_check (h : Config.ofArguments arguments env = .ok config) :
    ∃ given settings, CommandLine.settingsOf arguments = .ok given ∧
      given.complete env = .ok settings ∧ settings.check = .ok config := by
  obtain ⟨given, hgiven, h⟩ := bind_eq_ok_iff.1 h
  obtain ⟨settings, hsettings, h⟩ := bind_eq_ok_iff.1 h
  refine ⟨given, settings, hgiven, hsettings, ?_⟩
  split at h
  · next found hcheck =>
    cases h
    exact hcheck
  · cases h

/-- A token that is accepted is not empty. -/
lemma Config.ne_empty_of_ofArguments {token : String}
    (h : Config.ofArguments arguments env = .ok config) (htoken : config.authToken = some token) :
    token ≠ "" := by
  obtain ⟨_, settings, -, -, hcheck⟩ := Config.exists_check h
  obtain ⟨-, heq, -⟩ := Settings.check_eq_ok_iff.1 hcheck
  rw [heq, Settings.tidied, Option.filter_eq_some_iff] at htoken
  simpa using htoken.2

/-- An environment with the token as its only variable. -/
def Environment.withToken (token : String) : Environment := fun name =>
  if name = Flag.authToken.variableName then some token else none

lemma Settings.complete_withToken (token : String) :
    Settings.empty.complete (Environment.withToken token) =
      .ok { Settings.empty with authToken := some token } := by
  have hnone {flag : Flag} (hflag : flag.variableName ≠ Flag.authToken.variableName)
      (settings : Settings) :
      Settings.empty.putVariable (Environment.withToken token) settings flag = .ok settings := by
    rw [putVariable, Environment.withToken, if_neg hflag]
  have hsome : Settings.empty.putVariable (Environment.withToken token) .empty .authToken =
      .ok { Settings.empty with authToken := some token } := by
    rw [putVariable, Environment.withToken, if_pos rfl]
    rfl
  simp (disch := decide) only [complete, Flag.all, List.foldlM_cons, List.foldlM_nil, hnone, hsome,
    bind, Except.bind]
  rfl

lemma Config.ofArguments_withToken {token : String} (h : token ≠ "") :
    Config.ofArguments [] (Environment.withToken token) =
      .ok { Config.standard with authToken := some token } := by
  have hlisten : Text.trim "0.0.0.0" = "0.0.0.0" := by decide +kernel
  have hcheck : { Settings.empty with authToken := some token }.check =
      .ok { Config.standard with authToken := some token } := by
    have hnanos : nanosPerSecond ≠ 0 := by decide
    rw [Settings.check_eq_ok_iff]
    simp [Settings.empty, Settings.publicUrl?, Settings.tidied, standard, hlisten, hnanos,
      Option.filter_some_pos, h]
  have hgiven : CommandLine.settingsOf [] = .ok Settings.empty := rfl
  simp only [ofArguments, hgiven, Settings.complete_withToken, hcheck, bind, Except.bind]

/-- Any text but the empty one can be the token. -/
theorem Config.exists_ofArguments_iff {token : String} :
    (∃ arguments env config, Config.ofArguments arguments env = .ok config ∧
      config.authToken = some token) ↔ token ≠ "" := by
  constructor
  · rintro ⟨arguments, env, config, h, htoken⟩
    exact Config.ne_empty_of_ofArguments h htoken
  · intro h
    exact ⟨_, _, _, Config.ofArguments_withToken h, rfl⟩

end WorldClock
