import WorldClock.Json.Printer
import WorldClock.Proofs.Json.Tree
/-!
# Printed JSON texts

The text of a plain value is one of its spellings (`Json.spells_text`) and has no control characters
(`Json.visible_of_mem_text`). So it is one line, and reading it gives the value back in canonical
form (`Json.ofText_text`).
-/

namespace WorldClock.Json

/-! ### Characters -/

lemma toList_append (out : String) (cs : List Char) :
    (append out cs).toList = out.toList ++ cs := by
  induction cs generalizing out with
  | nil => simp [append]
  | cons c cs ih => simpa [append] using ih (out.push c)

/-- The text of a character inside a string names the character. -/
lemma spellsChar_escape (c : Char) : SpellsChar c (escape c) := by
  unfold escape
  split_ifs with hquote hbackslash hbackspace hfeed hnewline hreturn htab hcontrol
  · subst hquote; exact .letter (by decide)
  · subst hbackslash; exact .letter (by decide)
  · subst hbackspace; exact .letter (by decide)
  · subst hfeed; exact .letter (by decide)
  · subst hnewline; exact .letter (by decide)
  · subst hreturn; exact .letter (by decide)
  · subst htab; exact .letter (by decide)
  · have hfirst : c.toNat / 0x1000 = 0 := by omega
    have hsecond : c.toNat / 0x100 % 0x10 = 0 := by omega
    have hthird : c.toNat / 0x10 % 0x10 = c.toNat / 0x10 := by omega
    have hzero : ∀ {n : Nat}, n = 0 → SpellsDigit n '0' := by
      rintro _ rfl
      exact .lower
    refine .unit (by omega) (.digits (hzero hfirst) (hzero hsecond) ?_ .lower)
    rw [hthird]
    exact .lower
  · exact .plain (not_lt.1 hcontrol) hquote hbackslash

lemma spellsChars_flatMap_escape (text : List Char) : SpellsChars text (text.flatMap escape) := by
  induction text with
  | nil => exact .nil
  | cons c text ih => exact .cons (spellsChar_escape c) ih

/-! ### What is written -/

/-- Whether some tokens are written behind every text, without control characters. -/
inductive Prints (write : String → String) (tokens : List Token) : Prop
  | of_spells {cs : List Char} (h : Spells tokens cs) (hvisible : ∀ c ∈ cs, 0x20 ≤ c.toNat)
      (hwrite : ∀ out, (write out).toList = out.toList ++ cs)

variable {write more : String → String} {tokens rest : List Token}

lemma Prints.append (h : Prints write tokens) (hmore : Prints more rest) :
    Prints (fun out => more (write out)) (tokens ++ rest) := by
  obtain ⟨hspells, hvisible, hwrite⟩ := h
  obtain ⟨hspellsMore, hvisibleMore, hwriteMore⟩ := hmore
  refine .of_spells (hspells.append hspellsMore)
    (List.forall_mem_append.2 ⟨hvisible, hvisibleMore⟩) fun out => ?_
  rw [hwriteMore, hwrite, List.append_assoc]

lemma prints_push {token : Token} {c : Char} (h : token.Spells [c]) : Prints (·.push c) [token] :=
  .of_spells (.last h) h.visible fun _ => String.toList_push c

lemma prints_word (word : String) (h : Spells tokens word.toList)
    (hvisible : ∀ c ∈ word.toList, 0x20 ≤ c.toNat) : Prints (· ++ word) tokens :=
  .of_spells h hvisible fun _ => String.toList_append

lemma prints_integer (n : Int) : Prints (append · (Text.integer n)) [.number (.ofInt n)] :=
  .of_spells (.last (.number n)) (visible_integer n) fun out => toList_append out _

lemma prints_string (text : String) : Prints (appendString · text) [.text (some text)] := by
  have hfold : ∀ (cs : List Char) (out : String),
      (cs.foldl (fun out c => append out (escape c)) out).toList =
        out.toList ++ cs.flatMap escape := by
    intro cs
    induction cs with
    | nil => simp
    | cons c cs ih => simp [ih, toList_append]
  have htoken : Token.Spells (.text (some text)) ('"' :: (text.toList.flatMap escape ++ ['"'])) :=
    .text (spellsChars_flatMap_escape text.toList)
  exact .of_spells (.last htoken) htoken.visible fun out => by simp [appendString, hfold]

/-- The name of a member and the colon after it. -/
lemma prints_name (name : String) :
    Prints (fun out => (appendString out name).push ':') [.text (some name), .colon] :=
  (prints_string name).append (prints_push .colon)

lemma prints_items {items : List Json}
    (h : ∀ item ∈ items, Prints (fun out => item.appendTo out) item.tree.tokens) :
    Prints (fun out => (appendItems out items).push ']') (Tree.itemTokens (itemTrees items)) := by
  induction items with
  | nil => exact prints_push .closeArray
  | cons item items ih =>
    obtain ⟨hitem, hitems⟩ := List.forall_mem_cons.1 h
    exact (prints_push .comma).append (hitem.append (ih hitems))

lemma prints_members {members : List (String × Json)}
    (h : ∀ member ∈ members, Prints (fun out => member.2.appendTo out) member.2.tree.tokens) :
    Prints (fun out => (appendMembers out members).push '\x7d')
      (Tree.memberTokens (memberTrees members)) := by
  induction members with
  | nil => exact prints_push .closeObject
  | cons member members ih =>
    obtain ⟨hmember, hmembers⟩ := List.forall_mem_cons.1 h
    exact (prints_push .comma).append ((prints_name member.1).append (hmember.append (ih hmembers)))

/-- A plain value is written as the tokens of its tree. -/
theorem prints_appendTo {value : Json} (h : value.isPlain = true) :
    Prints (fun out => value.appendTo out) value.tree.tokens := by
  induction value using inductionOn with
  | null => exact prints_word "null" (.last .null) (by simp)
  | bool b => cases b with
    | true => exact prints_word "true" (.last .true) (by simp)
    | false => exact prints_word "false" (.last .false) (by simp)
  | int n => exact prints_integer n
  | float x => simp [isPlain] at h
  | str text => exact prints_string text
  | arr items ih =>
    have hitems := fun item hitem => ih item hitem (isPlain_arr.1 h item hitem)
    cases items with
    | nil =>
      have hspells := (Spells.last .openArray).append (.last .closeArray)
      exact prints_word "[]" hspells (by simp)
    | cons item items =>
      obtain ⟨hitem, hitems⟩ := List.forall_mem_cons.1 hitems
      exact (prints_push .openArray).append (hitem.append (prints_items hitems))
  | obj members ih =>
    have hmembers := fun member hmember => ih member hmember ((isPlain_obj.1 h).2 member hmember)
    cases members with
    | nil =>
      have hspells := (Spells.last .openObject).append (.last .closeObject)
      exact prints_word "\x7b\x7d" hspells (by simp)
    | cons member members =>
      obtain ⟨hmember, hmembers⟩ := List.forall_mem_cons.1 hmembers
      exact (prints_push .openObject).append
        ((prints_name member.1).append (hmember.append (prints_members hmembers)))

/-! ### Texts of plain values -/

variable {value : Json}

lemma spells_text (h : value.isPlain = true) : Spells value.tree.tokens value.text.toList := by
  obtain ⟨hspells, -, hwrite⟩ := prints_appendTo h
  simpa [text, hwrite] using hspells

/-- The text of a plain value has no control characters. -/
lemma visible_of_mem_text (h : value.isPlain = true) {c : Char} (hc : c ∈ value.text.toList) :
    0x20 ≤ c.toNat := by
  obtain ⟨-, hvisible, hwrite⟩ := prints_appendTo h
  simp only [text, hwrite, String.toList_empty, List.nil_append] at hc
  exact hvisible c hc

/-- Reading the text of a plain value gives the value in canonical form. -/
theorem ofText_text (h : value.isPlain = true) (hdepth : value.depth ≤ maxDepth) :
    ofText? value.text.toList = some value.canonical :=
  ofText_of_spells h hdepth (spells_text h)

end WorldClock.Json
