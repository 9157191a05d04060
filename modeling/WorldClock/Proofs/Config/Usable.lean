import Mathlib.Data.List.DropRight
import Mathlib.Tactic
import WorldClock.Proofs.Config.Resolve
import WorldClock.Proofs.Text.Blank
/-!
# What an accepted configuration is good for

The times, the place to listen and the token of a configuration that is accepted can be used as they
are (`Config.IsUsable`). Its public address begins with the scheme of a web server unless the one
that was given has nothing but slashes behind the scheme (`IsHostless`): the scheme is looked at
before the slashes at the end are dropped.
-/

namespace WorldClock

variable {config : Config} {given settings : Settings} {arguments : List String}
  {env : Environment} {text url : String} {url? : Option String}

/-! ### Web addresses -/

/-- The schemes of web addresses. -/
def webSchemes : List String := ["http://", "https://"]

/-- A text that begins with the scheme of a web address. -/
def IsWebUrl (text : String) : Prop :=
  ∃ scheme ∈ webSchemes, scheme.toList <+: text.toList

/-- The scheme of a web address with nothing but slashes behind it. -/
def IsHostless (text : String) : Prop :=
  ∃ scheme ∈ webSchemes, ∃ count, text.toList = scheme.toList ++ List.replicate count '/'

lemma isWebAddress_iff : isWebAddress text = true ↔ IsWebUrl text := by
  simp [isWebAddress, IsWebUrl, webSchemes]

/-! ### Slashes at the end -/

lemma toList_dropSlashes (text : String) :
    (dropSlashes text).toList = text.toList.rdropWhile (· == '/') := by
  simp [dropSlashes, List.rdropWhile]

lemma rdropWhile_append {α : Type} (p : α → Bool) (front back : List α) :
    (front ++ back).rdropWhile p =
      if back.rdropWhile p = [] then front.rdropWhile p else front ++ back.rdropWhile p := by
  simp only [List.rdropWhile, List.reverse_append, List.dropWhile_append, List.isEmpty_iff,
    List.reverse_eq_nil_iff]
  split_ifs <;> simp

/-- No slash is left at the end. -/
lemma not_suffix_dropSlashes (text : String) : ¬ ['/'] <:+ (dropSlashes text).toList := by
  rw [toList_dropSlashes]
  rintro ⟨front, hfront⟩
  have hne : text.toList.rdropWhile (· == '/') ≠ [] := by simp [← hfront]
  have hlast := List.rdropWhile_last_not _ _ hne
  simp [← hfront] at hlast

/-- Of an address without a host not even the scheme is left as it was. -/
lemma dropSlashes_of_isHostless (h : IsHostless text) :
    dropSlashes text ∈ ["http:", "https:"] := by
  obtain ⟨scheme, hscheme, count, htext⟩ := h
  have hslashes : (List.replicate count '/').rdropWhile (· == '/') = [] := by
    simp [List.rdropWhile_eq_nil_iff]
  have hdrop : (dropSlashes text).toList = scheme.toList.rdropWhile (· == '/') := by
    rw [toList_dropSlashes, htext, rdropWhile_append, if_pos hslashes]
  rw [webSchemes, List.mem_pair] at hscheme
  rw [List.mem_pair, ← String.toList_inj, ← String.toList_inj, hdrop]
  rcases hscheme with rfl | rfl
  · exact .inl (by decide)
  · exact .inr (by decide)

lemma isWebUrl_dropSlashes (h : IsWebUrl text) (hhost : ¬ IsHostless text) :
    IsWebUrl (dropSlashes text) := by
  obtain ⟨scheme, hscheme, rest, hrest⟩ := h
  have hrest_ne : rest.rdropWhile (· == '/') ≠ [] := by
    intro hnil
    refine hhost ⟨scheme, hscheme, rest.length, ?_⟩
    rw [← hrest, List.append_cancel_left_eq, List.eq_replicate_iff]
    simpa [List.rdropWhile_eq_nil_iff] using hnil
  refine ⟨scheme, hscheme, ?_⟩
  rw [toList_dropSlashes, ← hrest, rdropWhile_append, if_neg hrest_ne]
  exact List.prefix_append _ _

/-! ### The public address -/

/-- There is no public address if none was given but a blank one, and else it is a web address from
which the slashes at the end are dropped. -/
lemma Settings.cases_of_publicUrl? (h : settings.publicUrl? = .ok url?) :
    (∀ text ∈ settings.publicUrl, Text.trim text = "") ∧ url? = none ∨
      ∃ text, settings.publicUrl = some text ∧ IsWebUrl (Text.trim text) ∧
        url? = some (dropSlashes (Text.trim text)) := by
  unfold publicUrl? readPublicUrl at h
  cases hgiven : settings.publicUrl with
  | none =>
    rw [hgiven] at h
    cases h
    exact .inl ⟨by simp, rfl⟩
  | some text =>
    simp only [hgiven] at h
    split_ifs at h with hempty hweb
    · cases h
      exact .inl ⟨by simpa using hempty, rfl⟩
    · cases h
      exact .inr ⟨text, rfl, isWebAddress_iff.1 hweb, rfl⟩

lemma ne_empty_of_isHostless (h : IsHostless text) : text ≠ "" := by
  rintro rfl
  obtain ⟨scheme, hscheme, count, htext⟩ := h
  rw [webSchemes, List.mem_pair] at hscheme
  rcases hscheme with rfl | rfl <;> simp at htext

/-- The public address begins with a scheme, unless the one that was given has no host. -/
lemma Settings.isWebUrl_or_isHostless (h : settings.publicUrl? = .ok url?) :
    (∀ text ∈ settings.publicUrl, ¬ IsHostless (Text.trim text)) ∧ (∀ url ∈ url?, IsWebUrl url) ∨
      (∃ text ∈ settings.publicUrl, IsHostless (Text.trim text)) ∧
        ∃ url ∈ ["http:", "https:"], url? = some url := by
  obtain ⟨hblank, rfl⟩ | ⟨text, htext, hweb, rfl⟩ := cases_of_publicUrl? h
  · exact .inl ⟨fun text htext hhost => ne_empty_of_isHostless hhost (hblank text htext), by simp⟩
  · rw [htext]
    simp only [Option.mem_some, forall_eq', exists_eq_left']
    by_cases hhost : IsHostless (Text.trim text)
    · exact .inr ⟨hhost, _, dropSlashes_of_isHostless hhost, rfl⟩
    · exact .inl ⟨hhost, isWebUrl_dropSlashes hweb hhost⟩

lemma Settings.not_suffix_publicUrl? (h : settings.publicUrl? = .ok url?) :
    ∀ url ∈ url?, ¬ ['/'] <:+ url.toList := by
  obtain ⟨-, rfl⟩ | ⟨text, -, -, rfl⟩ := cases_of_publicUrl? h
  · simp
  · simpa using not_suffix_dropSlashes (Text.trim text)

/-- Where a client finds the messages of a session: relative to its stream, or at a web address. -/
def IsEndpoint (id endpoint : String) : Prop :=
  endpoint = "/messages?sessionId=" ++ id ∨ IsWebUrl endpoint

lemma isEndpoint_endpointUrl (h : ∀ url ∈ url?, IsWebUrl url)
    (id : String) : IsEndpoint id (endpointUrl url? id) := by
  cases url? with
  | none =>
    left
    simp [endpointUrl]
  | some url =>
    right
    obtain ⟨scheme, hscheme, hprefix⟩ := h url rfl
    refine ⟨scheme, hscheme, hprefix.trans ?_⟩
    simp [endpointUrl]

/-- Behind what is left of a scheme the path brings only one slash back. -/
lemma not_isEndpoint_endpointUrl (h : url ∈ ["http:", "https:"]) (id : String) :
    ¬ IsEndpoint id (endpointUrl (some url) id) := by
  rw [List.mem_pair] at h
  rintro (heq | hweb)
  · have hhead := congrArg (fun text => text.toList.head?) heq
    rcases h with rfl | rfl <;> simp [endpointUrl] at hhead
  · rcases h with rfl | rfl <;> simp [IsWebUrl, webSchemes, endpointUrl] at hweb

lemma not_isWebUrl_of_mem (h : url ∈ ["http:", "https:"]) : ¬ IsWebUrl url := by
  rw [List.mem_pair] at h
  rcases h with rfl | rfl <;> simp [IsWebUrl, webSchemes]

/-! ### Times, addresses to listen on and tokens -/

/-- What can be relied on in a configuration. -/
structure Config.IsUsable (config : Config) : Prop where
  toolTimeout : nanosPerSecond ≤ config.toolTimeout
  sessionTtl : nanosPerSecond ≤ config.sessionTtl
  listen_ne_empty : config.listen ≠ ""
  head_listen : ∀ c ∈ config.listen.toList.head?, Text.isBlank c = false
  last_listen : ∀ c ∈ config.listen.toList.getLast?, Text.isBlank c = false
  /-- The address to listen on is not blank. -/
  bindAddress : ∃ c ∈ config.bindAddress.toList, Text.isBlank c = false
  authToken : config.authToken ≠ some ""
  publicUrl : ∀ url ∈ config.publicUrl, ¬ ['/'] <:+ url.toList

lemma exists_not_isBlank (h : Text.trim text ≠ "") : ∃ c ∈ text.toList, Text.isBlank c = false := by
  by_contra! hall
  refine h (String.toList_inj.1 ?_)
  simpa [Text.trimmed_eq_nil_iff] using hall

lemma le_mul_nanosPerSecond {seconds : Nat} (h : seconds * nanosPerSecond ≠ 0) :
    nanosPerSecond ≤ seconds * nanosPerSecond :=
  Nat.le_mul_of_pos_left _ (Nat.pos_of_ne_zero (left_ne_zero_of_mul h))

lemma Config.exists_not_isBlank_bindAddress (haddr : ∀ addr ∈ config.addr, Text.trim addr ≠ "") :
    ∃ c ∈ config.bindAddress.toList, Text.isBlank c = false := by
  unfold bindAddress
  cases haddress : config.addr with
  | none =>
    -- The colon before the port is never blank.
    have hcolon : ':' ∈ (toString ":").toList := by decide
    exact ⟨':', by simp [hcolon], by decide⟩
  | some addr => exact exists_not_isBlank (haddr addr haddress)

lemma Settings.isUsable_of_check (h : settings.check = .ok config) :
    config.IsUsable := by
  obtain ⟨hurl, heq, htimeout, httl, hlisten⟩ := check_eq_ok_iff.1 h
  have htrim : Text.trimmed config.listen.toList = config.listen.toList := by
    rw [heq, tidied, Text.toList_trim, Text.trimmed_trimmed]
  obtain ⟨hhead, hlast⟩ := Text.trimmed_eq_self_iff.1 htrim
  refine ⟨?_, ?_, hlisten, hhead, hlast, ?_, ?_, ?_⟩
  · rw [heq] at htimeout ⊢
    exact le_mul_nanosPerSecond htimeout
  · rw [heq] at httl ⊢
    exact le_mul_nanosPerSecond httl
  · refine Config.exists_not_isBlank_bindAddress fun addr haddr => ?_
    rw [heq, tidied, Option.mem_def, Option.filter_eq_some_iff] at haddr
    simpa using haddr.2
  · intro htoken
    rw [heq, tidied, Option.filter_eq_some_iff] at htoken
    simp at htoken
  · exact not_suffix_publicUrl? hurl

/-! ### Accepted arguments -/

/-- The public address that was given: on the command line, or else by the environment. -/
def Settings.givenUrl (given : Settings) (env : Environment) : Option String :=
  given.publicUrl.or (env "FAST_TIME_PUBLIC_URL")

lemma Settings.publicUrl_complete (h : given.complete env = .ok settings) :
    settings.publicUrl = given.givenUrl env := by
  have hget := get?_complete h .publicUrl
  have hvariable : Flag.publicUrl.ofEnvironment? env = env "FAST_TIME_PUBLIC_URL" := by
    change (env "FAST_TIME_PUBLIC_URL").bind some = _
    exact Option.bind_fun_some _
  rw [hvariable] at hget
  exact hget

/-- A configuration that is accepted can be used, but that its public address, and with it the
address that clients of a stream are told, is that of a web server exactly if the one that was given
does not lack a host. -/
theorem Config.isUsable_of_ofArguments (h : ofArguments arguments env = .ok config) :
    config.IsUsable ∧ ∃ given, CommandLine.settingsOf arguments = .ok given ∧
      ((∀ url ∈ config.publicUrl, IsWebUrl url) ↔
        ∀ text ∈ given.givenUrl env, ¬ IsHostless (Text.trim text)) ∧
      ∀ id, IsEndpoint id (endpointUrl config.publicUrl id) ↔
        ∀ text ∈ given.givenUrl env, ¬ IsHostless (Text.trim text) := by
  obtain ⟨given, settings, hgiven, hsettings, hcheck⟩ := exists_check h
  refine ⟨Settings.isUsable_of_check hcheck, given, hgiven, ?_⟩
  rw [← Settings.publicUrl_complete hsettings]
  obtain ⟨hhost, hweb⟩ | ⟨⟨text, htext, hhost⟩, url, hurl, hpublic⟩ :=
    Settings.isWebUrl_or_isHostless (Settings.check_eq_ok_iff.1 hcheck).1
  · exact ⟨iff_of_true hweb hhost, fun id => iff_of_true (isEndpoint_endpointUrl hweb id) hhost⟩
  · have hnot : ¬ ∀ text ∈ settings.publicUrl, ¬ IsHostless (Text.trim text) :=
      fun hall => hall text htext hhost
    rw [hpublic]
    exact ⟨iff_of_false (fun hall => not_isWebUrl_of_mem hurl (hall url rfl)) hnot,
      fun id => iff_of_false (not_isEndpoint_endpointUrl hurl id) hnot⟩

/-- Blanks around a public address and slashes at its end are dropped. -/
theorem Config.isUsable_of_ofArguments_published :
    ofArguments ["server", "-public-url= https://time.example.com// "] (fun _ => none) =
      .ok { standard with publicUrl := some "https://time.example.com" } ∧
    { standard with publicUrl := some "https://time.example.com" : Config }.IsUsable ∧
    IsEndpoint "7" (endpointUrl (some "https://time.example.com") "7") := by
  have h : ofArguments ["server", "-public-url= https://time.example.com// "] (fun _ => none) =
      .ok { standard with publicUrl := some "https://time.example.com" } := by decide +kernel
  obtain ⟨husable, given, -, hweb, hendpoint⟩ := isUsable_of_ofArguments h
  refine ⟨h, husable, (hendpoint "7").2 (hweb.1 ?_)⟩
  rintro url ⟨⟩
  exact ⟨"https://", by decide, "time.example.com".toList, by decide⟩

/-- A scheme without a host is accepted, and is no scheme any more in the configuration. -/
theorem Config.ofArguments_hostless :
    ofArguments ["server", "-public-url=http://"] (fun _ => none) =
      .ok { standard with publicUrl := some "http:" } ∧
    ¬ IsWebUrl "http:" ∧ ¬ IsEndpoint "7" (endpointUrl (some "http:") "7") := by
  have hmem : "http:" ∈ ["http:", "https:"] := by decide
  exact ⟨by decide +kernel, not_isWebUrl_of_mem hmem, not_isEndpoint_endpointUrl hmem "7"⟩

end WorldClock
