import Mathlib.Data.List.TakeWhile
import Mathlib.Tactic
import WorldClock.Config.CommandLine
/-!
# Spellings of flags

The second dash that is put in front of a flag (`doubleDash`), and the forms of the arguments that
name a flag. With one dash or with two, such an argument is read in the same way
(`Argument.ofText_doubleDash_eq_long_iff`).
-/

namespace WorldClock

variable {argument dashed text name : String} {before rest : List String} {flag : Flag}

/-! ### One dash and two -/

/-- An argument with exactly one dash in front and more than two bytes. -/
structure IsSingleDashed (argument : String) : Prop where
  dash : ['-'] <+: argument.toList
  not_dashes : ¬ ['-', '-'] <+: argument.toList
  two_lt : 2 < argument.utf8ByteSize

lemma doubleDash_of_isSingleDashed (h : IsSingleDashed argument) :
    doubleDash argument = "-" ++ argument := by
  obtain ⟨⟨cs, hcs⟩, hdashes, hbytes⟩ := h
  unfold doubleDash
  cases cs with
  | nil =>
    have hone : argument = "-" := String.toList_inj.1 hcs.symm
    rw [hone] at hbytes
    exact absurd hbytes (by decide)
  | cons c cs =>
    have hc : c ≠ '-' := by
      rintro rfl
      exact hdashes ⟨cs, hcs⟩
    simp only [← hcs, List.singleton_append]
    exact if_pos ⟨hc, hbytes⟩

lemma doubleDash_of_not_isSingleDashed (h : ¬ IsSingleDashed argument) :
    doubleDash argument = argument := by
  unfold doubleDash
  split
  · next c cs hcs =>
    refine if_neg fun ⟨hc, hbytes⟩ => h ⟨?_, ?_, hbytes⟩
    · simp [hcs]
    · simpa [hcs] using hc.symm
  · rfl

lemma not_isSingleDashed_of_dashes (h : ['-', '-'] <+: argument.toList) :
    ¬ IsSingleDashed argument :=
  fun hsingle => hsingle.not_dashes h

/-- A second dash leaves two dashes in front. -/
lemma IsSingleDashed.dashes_prefix (h : IsSingleDashed argument) :
    ['-', '-'] <+: ("-" ++ argument).toList := by
  obtain ⟨cs, hcs⟩ := h.dash
  exact ⟨cs, by simp [← hcs]⟩

@[simp] lemma doubleDash_doubleDash (argument : String) :
    doubleDash (doubleDash argument) = doubleDash argument := by
  by_cases h : IsSingleDashed argument
  · rw [doubleDash_of_isSingleDashed h,
      doubleDash_of_not_isSingleDashed (not_isSingleDashed_of_dashes h.dashes_prefix)]
  · rw [doubleDash_of_not_isSingleDashed h, doubleDash_of_not_isSingleDashed h]

lemma doubleDash_dashes : doubleDash "--" = "--" := by decide

@[simp] lemma doubleDash_eq_dashes_iff : doubleDash argument = "--" ↔ argument = "--" := by
  constructor
  · intro h
    by_cases hsingle : IsSingleDashed argument
    · rw [doubleDash_of_isSingleDashed hsingle] at h
      have hbytes : "-".utf8ByteSize + argument.utf8ByteSize = "--".utf8ByteSize := by
        rw [← String.utf8ByteSize_append, h]
      have hone : "-".utf8ByteSize = 1 := by decide
      have htwo : "--".utf8ByteSize = 2 := by decide
      have hsize := hsingle.two_lt
      omega
    · rwa [doubleDash_of_not_isSingleDashed hsingle] at h
  · rintro rfl
    exact doubleDash_dashes

/-- A text with two dashes in front was there with both, or with one. -/
lemma eq_of_doubleDash_eq (h : doubleDash argument = "--" ++ text) :
    argument = "-" ++ text ∨ argument = "--" ++ text := by
  by_cases hsingle : IsSingleDashed argument
  · left
    rw [doubleDash_of_isSingleDashed hsingle, ← String.toList_inj] at h
    rw [← String.toList_inj]
    simpa using h
  · right
    rwa [doubleDash_of_not_isSingleDashed hsingle] at h

/-! ### Lists of arguments -/

lemma doubleDashes_append (h : "--" ∉ before) (rest : List String) :
    doubleDashes (before ++ rest) = before.map doubleDash ++ doubleDashes rest := by
  induction before with
  | nil => rfl
  | cons first before ih =>
    rw [List.mem_cons, not_or] at h
    rw [List.cons_append, doubleDashes, if_neg (Ne.symm h.1), ih h.2]
    rfl

lemma doubleDashes_dashes (rest : List String) : doubleDashes ("--" :: rest) = "--" :: rest :=
  if_pos rfl

lemma doubleDashes_cons (h : argument ≠ "--") (rest : List String) :
    doubleDashes (argument :: rest) = doubleDash argument :: doubleDashes rest :=
  if_neg h

@[simp] lemma doubleDashes_doubleDashes (arguments : List String) :
    doubleDashes (doubleDashes arguments) = doubleDashes arguments := by
  induction arguments with
  | nil => rfl
  | cons argument rest ih =>
    by_cases h : argument = "--"
    · rw [h, doubleDashes_dashes, doubleDashes_dashes]
    · have hdouble : doubleDash argument ≠ "--" := mt doubleDash_eq_dashes_iff.1 h
      rw [doubleDashes_cons h, doubleDashes_cons hdouble, doubleDash_doubleDash, ih]

@[simp] lemma normalizeFlags_normalizeFlags (arguments : List String) :
    normalizeFlags (normalizeFlags arguments) = normalizeFlags arguments := by
  cases arguments with
  | nil => rfl
  | cons program rest => simp [normalizeFlags]

lemma head?_normalizeFlags (arguments : List String) :
    (normalizeFlags arguments).head? = arguments.head? := by
  cases arguments <;> rfl

/-- From a lone pair of dashes on the arguments stay as they are. -/
lemma normalizeFlags_append_dashes (h : "--" ∉ before) (program : String) (rest : List String) :
    normalizeFlags (program :: before ++ "--" :: rest) =
      normalizeFlags (program :: before) ++ "--" :: rest := by
  have hbefore := doubleDashes_append h []
  rw [List.append_nil, doubleDashes, List.append_nil] at hbefore
  simp only [List.cons_append, normalizeFlags, doubleDashes_append h, doubleDashes_dashes, hbefore]

/-- A second dash in front of an argument with one makes no difference. -/
lemma normalizeFlags_replace (h : "--" ∉ before) (hargument : IsSingleDashed argument)
    (program : String) (rest : List String) :
    normalizeFlags (program :: before ++ argument :: rest) =
      normalizeFlags (program :: before ++ ("-" ++ argument) :: rest) := by
  have hdouble := doubleDash_of_isSingleDashed hargument
  have hne : argument ≠ "--" := by
    rintro rfl
    exact hargument.not_dashes (by decide)
  have hne_double : "-" ++ argument ≠ "--" := by
    rw [← hdouble]
    exact mt doubleDash_eq_dashes_iff.1 hne
  simp only [List.cons_append, normalizeFlags, doubleDashes_append h, doubleDashes_cons hne,
    doubleDashes_cons hne_double]
  rw [← hdouble, doubleDash_doubleDash]

/-! ### Forms of arguments -/

namespace Argument

/-- The text of an argument. -/
def toText : Argument → String
  | dashes => "--"
  | long name none => "--" ++ name
  | long name (some value) => "--" ++ name ++ "=" ++ value
  | short text | plain text => text

/-- Nothing of a text is lost in its form. -/
lemma toText_ofText (text : String) : (ofText text).toText = text := by
  unfold ofText
  split
  · next hcs => exact String.toList_inj.1 hcs.symm
  · next body hdashes hcs =>
    have hbody := List.takeWhile_append_dropWhile (p := (· != '=')) (l := body)
    rw [← String.toList_inj, hcs]
    split
    · next hdrop =>
      rw [hdrop, List.append_nil] at hbody
      simp [toText, hbody]
    · next equals value hdrop =>
      have hequals : equals = '=' := by
        have hhead := List.head?_dropWhile_not (· != '=') body
        simpa [hdrop] using hhead
      rw [hdrop, hequals] at hbody
      simp [toText, hbody]
  · rfl
  · rfl

lemma ofText_dashes : ofText "--" = dashes := by decide

lemma ofText_named (hname : name ≠ "") (hequals : '=' ∉ name.toList) :
    ofText ("--" ++ name) = long name none := by
  have hall : ∀ c ∈ name.toList, (c != '=') = true := by
    intro c hc
    simpa using ne_of_mem_of_not_mem hc hequals
  have htake := List.takeWhile_eq_self_iff.2 hall
  have hdrop := List.dropWhile_eq_nil_iff.2 hall
  obtain ⟨c, cs, hcs⟩ := List.exists_cons_of_ne_nil (mt String.toList_eq_nil_iff.1 hname)
  rw [hcs] at htake hdrop
  have hname : String.ofList (c :: cs) = name := by rw [← hcs, String.ofList_toList]
  simp [ofText, hcs, htake, hdrop, hname]

lemma ofText_attached (hequals : '=' ∉ name.toList) (value : String) :
    ofText ("--" ++ name ++ "=" ++ value) = long name (some value) := by
  have hall : ∀ c ∈ name.toList, (c != '=') = true := by
    intro c hc
    simpa using ne_of_mem_of_not_mem hc hequals
  have htake : (name.toList ++ '=' :: value.toList).takeWhile (· != '=') = name.toList := by
    rw [List.takeWhile_append_of_pos hall]
    simp
  have hdrop : (name.toList ++ '=' :: value.toList).dropWhile (· != '=') = '=' :: value.toList := by
    rw [List.dropWhile_append_of_pos hall]
    simp
  obtain ⟨c, cs, hcs⟩ : ∃ c cs, name.toList ++ '=' :: value.toList = c :: cs :=
    List.exists_cons_of_ne_nil (by simp)
  rw [hcs] at htake hdrop
  simp [ofText, hcs, htake, hdrop]

lemma ofText_ne_plain (h : ['-', '-'] <+: argument.toList) : ofText argument ≠ plain text := by
  obtain ⟨cs, hcs⟩ := h
  unfold ofText
  rw [← hcs]
  cases cs with
  | nil => nofun
  | cons c cs =>
    simp only [List.cons_append, List.nil_append]
    split <;> nofun

/-- A text that is not read as a flag was not changed before. -/
lemma eq_of_ofText_doubleDash_eq_plain (h : ofText (doubleDash argument) = plain text) :
    text = argument := by
  have htext := toText_ofText (doubleDash argument)
  rw [h] at htext
  by_cases hsingle : IsSingleDashed argument
  · rw [doubleDash_of_isSingleDashed hsingle] at h
    exact absurd h (ofText_ne_plain hsingle.dashes_prefix)
  · rwa [doubleDash_of_not_isSingleDashed hsingle] at htext

end Argument

/-! ### Flags by their names -/

/-- The ways to write the name of a flag. -/
def Flag.spellings (flag : Flag) : List String :=
  ["-" ++ flag.name, "--" ++ flag.name]

namespace Flag

lemma ofName?_name (flag : Flag) : ofName? flag.name = some flag := by
  cases flag <;> decide

lemma name_eq_of_ofName? (h : ofName? name = some flag) : flag.name = name := by
  simpa using List.find?_some h

lemma name_inj {other : Flag} : flag.name = other.name ↔ flag = other := by
  constructor
  · intro h
    have hflag := ofName?_name flag
    rw [h, ofName?_name] at hflag
    exact (Option.some.inj hflag).symm
  · rintro rfl
    rfl

lemma name_ne_empty (flag : Flag) : flag.name ≠ "" := by
  cases flag <;> decide

lemma equals_not_mem_name (flag : Flag) : '=' ∉ flag.name.toList := by
  cases flag <;> decide

lemma isSingleDashed_name (flag : Flag) (text : String) :
    IsSingleDashed ("-" ++ flag.name ++ text) := by
  have hbytes : "-".utf8ByteSize = 1 ∧ 2 ≤ flag.name.utf8ByteSize := by cases flag <;> decide
  refine ⟨?_, ?_, ?_⟩
  · simp
  · cases flag <;> simp [name]
  · simp only [String.utf8ByteSize_append]
    omega

/-- Both spellings of the name of a flag end up the same. -/
lemma doubleDash_spelling (h : dashed ∈ flag.spellings) (text : String) :
    doubleDash (dashed ++ text) = "--" ++ flag.name ++ text := by
  rw [spellings, List.mem_pair] at h
  rcases h with rfl | rfl
  · rw [doubleDash_of_isSingleDashed (isSingleDashed_name flag text), ← String.toList_inj]
    simp
  · refine doubleDash_of_not_isSingleDashed (not_isSingleDashed_of_dashes ?_)
    simp

lemma spelling_append_ne_dashes (h : dashed ∈ flag.spellings) (text : String) :
    dashed ++ text ≠ "--" := by
  rw [Ne, ← doubleDash_eq_dashes_iff, doubleDash_spelling h, ← String.toList_inj]
  simpa using fun hname : flag.name = "" => absurd hname flag.name_ne_empty

lemma ne_dashes_of_mem_spellings (h : dashed ∈ flag.spellings) : dashed ≠ "--" := by
  simpa using spelling_append_ne_dashes h ""

lemma ofText_doubleDash_spelling (h : dashed ∈ flag.spellings) :
    Argument.ofText (doubleDash dashed) = .long flag.name none := by
  have hdouble := doubleDash_spelling h ""
  rw [String.append_empty, String.append_empty] at hdouble
  rw [hdouble, Argument.ofText_named flag.name_ne_empty flag.equals_not_mem_name]

lemma ofText_doubleDash_attached (h : dashed ∈ flag.spellings) (text : String) :
    Argument.ofText (doubleDash (dashed ++ "=" ++ text)) = .long flag.name (some text) := by
  rw [String.append_assoc, doubleDash_spelling h, ← String.append_assoc,
    Argument.ofText_attached flag.equals_not_mem_name]

/-- An argument that is read as a flag without a value is the name of the flag. -/
lemma mem_spellings (h : Argument.ofText (doubleDash argument) = .long flag.name none) :
    argument ∈ flag.spellings := by
  have htext := Argument.toText_ofText (doubleDash argument)
  rw [h] at htext
  exact List.mem_pair.2 (eq_of_doubleDash_eq htext.symm)

/-- An argument that is read as a flag with a value is the name of the flag, a `=` and the value. -/
lemma exists_mem_spellings
    (h : Argument.ofText (doubleDash argument) = .long flag.name (some text)) :
    ∃ dashed ∈ flag.spellings, argument = dashed ++ "=" ++ text := by
  have htext := Argument.toText_ofText (doubleDash argument)
  rw [h] at htext
  simp only [Argument.toText, String.append_assoc] at htext
  rcases eq_of_doubleDash_eq htext.symm with rfl | rfl
  · exact ⟨_, .head _, by simp only [String.append_assoc]⟩
  · exact ⟨_, .tail _ (.head _), by simp only [String.append_assoc]⟩

end Flag

end WorldClock
