import WorldClock.Config.Address
import WorldClock.Proofs.Config.CommandLine
import WorldClock.Proofs.Text.Digits
/-!
# Addresses to listen on

Which texts denote an address (`Address.ofText_eq_ok_iff`) and what is wrong with the others
(`Address.ofText_eq_error_iff`). An accepted configuration that names no address of its own has the
one that its host and its port make up (`Config.ofText_bindAddress`).
-/

namespace WorldClock

variable {settings given : Settings} {config : Config} {arguments : List String}
  {env : Environment} {flag : Flag} {text : String} {host port : List Char} {bound number : Nat}

/-! ### Numbers in a range -/

lemma lt_of_readNumber (h : readNumber bound text = some number) : number < bound := by
  simp only [readNumber, Option.bind_eq_bind] at h
  split at h
  · obtain ⟨_, hguard, h⟩ := Option.bind_eq_some_iff.1 h
    cases h
    simpa [guard] using hguard
  · cases h

lemma readNumber_decimal (h : number < bound) :
    readNumber bound (String.ofList (Text.decimal number)) = some number := by
  have hdigits : ∀ c ∈ Text.decimal number, c.isDigit = true :=
    fun _ => Text.isDigit_of_mem_decimal
  have hrun : Text.IsRun (Text.decimal number) := ⟨Nat.toDigits_ne_nil, hdigits⟩
  obtain ⟨digit, rest, hcons, hdigit⟩ := hrun.exists_cons
  have hplus : digit ≠ '+' := by
    rintro rfl
    exact absurd hdigit (by decide)
  have hread : Text.someDigits (Text.decimal number) = some (Text.decimal number, []) :=
    Text.someDigits_eq_some_iff.2 ⟨(List.append_nil _).symm, hrun, Text.endsRun_nil⟩
  have hnumber : Text.numberUpTo bound (Text.decimal number) = number := by
    rw [Text.numberUpTo_eq_min, Text.numberOf_decimal]
    omega
  rw [hcons] at hread hnumber
  simp [readNumber, hcons, hplus, hread, hnumber, h, guard]

lemma lt_of_readPortFlag (h : readPortFlag text = some number) : number < 0x10000 := by
  unfold readPortFlag at h
  split at h
  · split_ifs at h
    cases h
    decide
  · exact lt_of_readNumber h

/-! ### Texts of addresses -/

namespace Address

/-- The last colon parts the host from the port. -/
lemma ofText_of_append (htext : text.toList = host ++ ':' :: port) (hport : ':' ∉ port) :
    ofText text = match readPort (String.ofList port) with
      | some number => .ok ⟨String.ofList host, number⟩
      | none => .error (.badPort text) := by
  have hbehind : ∀ c ∈ port.reverse, (c != ':') = true := fun c hc =>
    bne_iff_ne.2 (ne_of_mem_of_not_mem (List.mem_reverse.1 hc) hport)
  have hreverse : text.toList.reverse = port.reverse ++ ':' :: host.reverse := by simp [htext]
  simp only [ofText, hreverse, List.dropWhile_append_of_pos hbehind,
    List.takeWhile_append_of_pos hbehind]
  cases hnumber : readPort (String.ofList port) <;> simp [hnumber]

lemma ofText_of_notMem (h : ':' ∉ text.toList) : ofText text = .error (.noPort text) := by
  have hnone : text.toList.reverse.dropWhile (· != ':') = [] :=
    List.dropWhile_eq_nil_iff.2 fun c hc =>
      bne_iff_ne.2 (ne_of_mem_of_not_mem (List.mem_reverse.1 hc) h)
  simp only [ofText, hnone]

/-- A text either lacks a colon, or what stands behind the last one decides. -/
lemma cases_of_ofText (text : String) :
    ':' ∉ text.toList ∧ ofText text = .error (.noPort text) ∨
      ∃ host port, text.toList = host ++ ':' :: port ∧ ':' ∉ port ∧
        (readPort (String.ofList port) = none ∧ ofText text = .error (.badPort text) ∨
          ∃ number, readPort (String.ofList port) = some number ∧
            ofText text = .ok ⟨String.ofList host, number⟩) := by
  by_cases hcolon : ':' ∈ text.toList
  · obtain ⟨port, host, hreverse, hport⟩ := List.eq_append_cons_of_mem (List.mem_reverse.2 hcolon)
    have htext : text.toList = host.reverse ++ ':' :: port.reverse := by
      rw [← List.reverse_reverse text.toList, hreverse]
      simp
    have hbehind : ':' ∉ port.reverse := fun hmem => hport (List.mem_reverse.1 hmem)
    refine .inr ⟨host.reverse, port.reverse, htext, hbehind, ?_⟩
    rw [ofText_of_append htext hbehind]
    cases readPort (String.ofList port.reverse) <;> simp
  · exact .inl ⟨hcolon, ofText_of_notMem hcolon⟩

/-- A text denotes an address exactly if the number of a port stands behind the last colon. All in
front of it is the host, whatever that is. -/
theorem ofText_eq_ok_iff {address : Address} :
    ofText text = .ok address ↔
      ∃ port, text.toList = address.host.toList ++ ':' :: port ∧ ':' ∉ port ∧
        readPort (String.ofList port) = some address.port := by
  constructor
  · intro h
    obtain ⟨-, herror⟩ | ⟨host, port, htext, hport, ⟨-, herror⟩ | ⟨number, hnumber, hok⟩⟩ :=
      cases_of_ofText text
    · cases herror.symm.trans h
    · cases herror.symm.trans h
    · cases hok.symm.trans h
      exact ⟨port, by rw [String.toList_ofList, htext], hport, hnumber⟩
  · rintro ⟨port, htext, hport, hnumber⟩
    rw [ofText_of_append htext hport, hnumber, String.ofList_toList]

example : ofText "[::1]:8080" = .ok ⟨"[::1]", 8080⟩ := by decide +kernel

/-- Any other text either lacks a colon or has no number of a port behind the last one. The fault
names the whole text. -/
theorem ofText_eq_error_iff {fault : AddressFault} :
    ofText text = .error fault ↔
      ':' ∉ text.toList ∧ fault = .noPort text ∨
        ∃ host port, text.toList = host ++ ':' :: port ∧ ':' ∉ port ∧
          readPort (String.ofList port) = none ∧ fault = .badPort text := by
  constructor
  · intro h
    obtain ⟨hcolon, herror⟩ | ⟨host, port, htext, hport, ⟨hnumber, herror⟩ | ⟨number, -, hok⟩⟩ :=
      cases_of_ofText text
    · cases herror.symm.trans h
      exact .inl ⟨hcolon, rfl⟩
    · cases herror.symm.trans h
      exact .inr ⟨host, port, htext, hport, hnumber, rfl⟩
    · cases hok.symm.trans h
  · rintro (⟨hcolon, rfl⟩ | ⟨host, port, htext, hport, hnumber, rfl⟩)
    · exact ofText_of_notMem hcolon
    · rw [ofText_of_append htext hport, hnumber]

end Address

/-! ### Addresses of configurations -/

/-- A flag has its value from a text, be it on the command line or in the environment. -/
lemma Settings.exists_read?_of_complete (hgiven : CommandLine.settingsOf arguments = .ok given)
    (hsettings : given.complete env = .ok settings) (hflag : flag.takesValue = true)
    {value : flag.Value} (hget : settings.get? flag = some value) :
    ∃ text, flag.read? text = some value := by
  rw [get?_complete hsettings] at hget
  cases hline : given.get? flag with
  | none =>
    rw [hline, Option.none_or] at hget
    obtain ⟨text, -, hread⟩ := Option.bind_eq_some_iff.1 hget
    exact ⟨text, hread⟩
  | some found =>
    rw [hline, Option.some_or, Option.some.injEq] at hget
    have hends := CommandLine.ends_of_settingsOf hgiven
    have hseen : ¬ CommandLine.start.HasSeen flag := by
      simp [CommandLine.HasSeen, CommandLine.start]
    obtain ⟨text, hsupplies⟩ := (CommandLine.exists_supplies hends hflag
      (Option.ne_none_iff_exists'.2 ⟨found, hline⟩)).resolve_left hseen
    obtain ⟨value', hread, hget'⟩ := CommandLine.holds_of_supplies hsupplies hflag hends
    cases hline.symm.trans hget'
    exact ⟨text, hget ▸ hread⟩

lemma Config.port_lt (h : ofArguments arguments env = .ok config) : config.port < 0x10000 := by
  obtain ⟨given, settings, hgiven, hsettings, hcheck⟩ := exists_check h
  obtain ⟨-, heq, -⟩ := Settings.check_eq_ok_iff.1 hcheck
  rw [heq, Settings.tidied]
  cases hport : settings.port with
  | none => exact (by decide : 8080 < 0x10000)
  | some port =>
    have hget : settings.get? .port = some port := hport
    obtain ⟨text, hread⟩ := Settings.exists_read?_of_complete hgiven hsettings rfl hget
    exact lt_of_readPortFlag hread

/-- Where no address was named, the server listens on the host and the port that were. -/
theorem Config.ofText_bindAddress (h : ofArguments arguments env = .ok config)
    (haddr : config.addr = none) :
    Address.ofText config.bindAddress = .ok ⟨config.listen, config.port⟩ := by
  refine Address.ofText_eq_ok_iff.2 ⟨Text.decimal config.port, ?_, fun hcolon => ?_,
    readNumber_decimal (port_lt h)⟩
  · have hcolon : (toString ":").toList = [':'] := by decide
    have hlisten : toString config.listen = config.listen := rfl
    simp [bindAddress, haddr, hlisten, hcolon, Text.decimal]
  · exact absurd (Text.isDigit_of_mem_decimal hcolon) (by decide)

end WorldClock
