import WorldClock.Mcp.Server
import WorldClock.Proofs.Json.Printer
import WorldClock.Proofs.Mcp.Turn
import WorldClock.Proofs.Rpc.Text
import WorldClock.Proofs.Text.Blank
/-!
# What an envelope holds

A message that holds an object is a request exactly if the known members occur as often as they may
and have values of the right types, and the request then has these values
(`Request.ofBytes_envelope`), whichever way the object is written and whatever other members it has.
-/

namespace WorldClock

open Json (Spells Tree)

/-! ### Members by name -/

/-- The values of all members with a name. -/
def valuesOf (name : String) (members : List (String × Json)) : List Json :=
  (members.filter fun member => member.1 == name).map Prod.snd

/-- An optional id in an envelope: the values of the members of this name, and the id that they
stand for. -/
inductive IdOf : List Json → Option RequestId → Prop
  | absent : IdOf [] none
  | null : IdOf [.null] none
  | text (text : String) : IdOf [.str text] (some (.text text))
  | number {n : Int} (h : isInt64 n = true) : IdOf [.int n] (some (.number n))

/-- Optional parameters in an envelope: the values of the members of this name, and the parameters
that they stand for. -/
inductive ParamsOf : List Json → Option Json → Prop
  | absent : ParamsOf [] none
  | null : ParamsOf [.null] none
  | value {value : Json} (h : value ≠ .null) : ParamsOf [value] (some value.canonical)

/-- Whether a request has the values that the members of an envelope give. -/
structure Request.IsHeldBy (request : Request) (members : List (String × Json)) : Prop where
  version : valuesOf "jsonrpc" members = [.str request.version]
  id : IdOf (valuesOf "id" members) request.id
  method : valuesOf "method" members = [.str request.method]
  params : ParamsOf (valuesOf "params" members) request.params

/-- Whether the members of an envelope occur as often as they may, with values of the right
types. -/
structure IsEnvelope (members : List (String × Json)) : Prop where
  version : ∃ text, valuesOf "jsonrpc" members = [.str text]
  method : ∃ text, valuesOf "method" members = [.str text]
  id : valuesOf "id" members = [] ∨ valuesOf "id" members = [.null] ∨
    (∃ text, valuesOf "id" members = [.str text]) ∨
    ∃ n, isInt64 n = true ∧ valuesOf "id" members = [.int n]
  params : (valuesOf "params" members).length ≤ 1

/-- The members of an envelope are those of a request exactly if they are as they have to be. -/
lemma exists_isHeldBy_iff {members : List (String × Json)} :
    (∃ request : Request, request.IsHeldBy members) ↔ IsEnvelope members := by
  constructor
  · rintro ⟨request, hversion, hid, hmethod, hparams⟩
    refine ⟨⟨_, hversion⟩, ⟨_, hmethod⟩, ?_, ?_⟩
    · generalize valuesOf "id" members = values at hid ⊢
      generalize request.id = id at hid
      cases hid with
      | absent => exact .inl rfl
      | null => exact .inr (.inl rfl)
      | text text => exact .inr (.inr (.inl ⟨text, rfl⟩))
      | number h => exact .inr (.inr (.inr ⟨_, h, rfl⟩))
    · generalize valuesOf "params" members = values at hparams ⊢
      generalize request.params = params at hparams
      cases hparams <;> simp
  · rintro ⟨⟨version, hversion⟩, ⟨method, hmethod⟩, hid, hparams⟩
    obtain ⟨id, hid⟩ : ∃ id, IdOf (valuesOf "id" members) id := by
      rcases hid with hid | hid | ⟨text, hid⟩ | ⟨n, h, hid⟩ <;> rw [hid]
      exacts [⟨_, .absent⟩, ⟨_, .null⟩, ⟨_, .text text⟩, ⟨_, .number h⟩]
    obtain ⟨params, hparams⟩ : ∃ params, ParamsOf (valuesOf "params" members) params := by
      generalize valuesOf "params" members = values at hparams ⊢
      match values, hparams with
      | [], _ => exact ⟨_, .absent⟩
      | [value], _ =>
        by_cases h : value = .null
        · exact h ▸ ⟨_, .null⟩
        · exact ⟨_, .value h⟩
    exact ⟨⟨version, id, method, params⟩, hversion, hid, hmethod, hparams⟩

/-! ### Trees of members -/

variable {members : List (String × Json)} {name : String} {value : Json}

lemma mem_of_valuesOf (h : valuesOf name members = [value]) : (name, value) ∈ members := by
  have hmem : value ∈ valuesOf name members := h ▸ .head _
  obtain ⟨⟨other, held⟩, hmember, rfl⟩ := List.mem_map.1 hmem
  obtain ⟨hmember, hname⟩ := List.mem_filter.1 hmember
  exact eq_of_beq hname ▸ hmember

/-- What is asked of the only member with a name can be asked of the values of this name. -/
lemma exists_only_iff {P : Option Tree → Prop} {Q : List Json → Prop} (hnone : P none ↔ Q [])
    (hone : ∀ value, (name, value) ∈ members → (P (some value.tree) ↔ Q [value]))
    (hmany : ∀ first second rest, ¬ Q (first :: second :: rest)) :
    (∃ found, Json.Tree.only? name (Json.memberTrees members) = some found ∧ P found) ↔
      Q (valuesOf name members) := by
  have hfilter : (Json.memberTrees members).filter (fun member => member.1 == some name) =
      (members.filter fun member => member.1 == name).map
        fun member => (some member.1, member.2.tree) := by
    rw [Json.memberTrees_eq_map, List.filter_map]
    rfl
  rw [Json.Tree.only?, hfilter, valuesOf]
  match hheld : members.filter fun member => member.1 == name with
  | [] => simp [hheld, hnone]
  | [(other, value)] =>
    have hvalues : valuesOf name members = [value] := by rw [valuesOf, hheld]; rfl
    simp [hheld, hone value (mem_of_valuesOf hvalues)]
  | _ :: _ :: _ => simp [hheld, hmany]

lemma text_tree (h : value.isPlain = true) {text : String} :
    Json.Tree.text? value.tree = some text ↔ value = .str text := by
  cases value with
  | float x => simp [Json.isPlain] at h
  | _ => simp [Json.tree, Json.Tree.text?]

lemma ofTree_tree_id (h : value.isPlain = true) {id : Option RequestId} :
    RequestId.ofTree? value.tree = some id ↔ IdOf [value] id := by
  cases value with
  | null => exact ⟨fun h => Option.some.inj h ▸ .null, fun h => by cases h; rfl⟩
  | bool b => exact ⟨fun h => by simp [Json.tree, RequestId.ofTree?, Json.Tree.value?,
      RequestId.ofJson?] at h, fun h => by cases h⟩
  | int n =>
    have hvalue : Json.Tree.value? 0 (.number (.ofInt n)) = some (.int n) :=
      Json.value_tree h le_rfl
    simp only [Json.tree, RequestId.ofTree?, hvalue, Option.bind_some, RequestId.ofJson?]
    split_ifs with hn
    · exact ⟨fun h => Option.some.inj h ▸ .number hn, fun h => by cases h; rfl⟩
    · exact ⟨fun h => (by cases h), fun h => by cases h; exact absurd ‹_› hn⟩
  | float x => simp [Json.isPlain] at h
  | str text => exact ⟨fun h => Option.some.inj h ▸ .text text, fun h => by cases h; rfl⟩
  | arr items => exact ⟨fun h => by simp [Json.tree, RequestId.ofTree?, Json.Tree.value?] at h,
      fun h => by cases h⟩
  | obj members => exact ⟨fun h => by simp [Json.tree, RequestId.ofTree?, Json.Tree.value?] at h,
      fun h => by cases h⟩

lemma tree_eq_null (h : value.isPlain = true) (htree : value.tree = .null) : value = .null := by
  cases value with
  | float x => simp [Json.isPlain] at h
  | null => rfl
  | _ => simp [Json.tree] at htree

lemma paramsOfTree_tree (h : value.isPlain = true) (hdepth : value.depth ≤ Json.maxDepth - 1)
    {params : Option Json} :
    paramsOfTree? value.tree = some params ↔ ParamsOf [value] params := by
  by_cases hnull : value = .null
  · subst hnull
    exact ⟨fun h => Option.some.inj h ▸ .null, fun h => by cases h <;> trivial⟩
  · have hparams : paramsOfTree? value.tree = some (some value.canonical) := by
      unfold paramsOfTree?
      split
      · exact absurd (tree_eq_null h ‹_›) hnull
      · rw [Json.value_tree h hdepth, Option.map_some]
    rw [hparams, Option.some.injEq]
    exact ⟨fun h => h ▸ .value hnull, fun h => by cases h <;> trivial⟩

/-! ### Requests -/

/-- The tree of an object is that of a request exactly if the members are. -/
lemma Request.ofTree_object (hplain : ∀ member ∈ members, member.2.isPlain = true)
    (hdepth : (Json.obj members).depth ≤ Json.maxDepth) {request : Request} :
    ofTree? (.object (Json.memberTrees members)) = some request ↔ request.IsHeldBy members := by
  have hmembers : ∀ member ∈ members, member.2.depth ≤ Json.maxDepth - 1 :=
    Json.membersDepth_le_iff.1 (Nat.le_sub_one_of_lt hdepth)
  have hnames : (Json.memberTrees members).all (fun member => member.1.isSome) = true := by
    simp [Json.memberTrees_eq_map]
  have htext : ∀ name text : String,
      (∃ found, Json.Tree.only? name (Json.memberTrees members) = some found ∧
        found.bind Json.Tree.text? = some text) ↔ valuesOf name members = [.str text] :=
    fun name text => exists_only_iff (Q := fun values => values = [.str text]) (by simp)
      (fun value hvalue => by simp [text_tree (hplain _ hvalue)]) (by simp)
  have hid : ∀ id, (∃ found, Json.Tree.only? "id" (Json.memberTrees members) = some found ∧
      RequestId.ofTree? (found.getD .null) = some id) ↔ IdOf (valuesOf "id" members) id :=
    fun id => exists_only_iff (Q := fun values => IdOf values id)
      ⟨fun h => Option.some.inj h ▸ .absent, fun h => by cases h; rfl⟩
      (fun value hvalue => ofTree_tree_id (hplain _ hvalue)) (fun _ _ _ h => by cases h)
  have hparams : ∀ params,
      (∃ found, Json.Tree.only? "params" (Json.memberTrees members) = some found ∧
        paramsOfTree? (found.getD .null) = some params) ↔
      ParamsOf (valuesOf "params" members) params :=
    fun params => exists_only_iff (Q := fun values => ParamsOf values params)
      ⟨fun h => Option.some.inj h ▸ .absent, fun h => by cases h; rfl⟩
      (fun value hvalue => paramsOfTree_tree (hplain _ hvalue) (hmembers _ hvalue))
      (fun _ _ _ h => by cases h)
  simp only [ofTree?, hnames, guard, if_true, Option.pure_def, Option.bind_eq_bind,
    Option.bind_some, ofParts?, Option.bind_eq_some_iff, Option.some.injEq]
  constructor
  · rintro ⟨version, hversion, id, hfoundId, method, hmethod, params, hfoundParams, text, hread,
      idRead, hidRead, methodRead, hmethodRead, paramsRead, hparamsRead, rfl⟩
    exact {
      version := (htext _ _).1 ⟨version, hversion, Option.bind_eq_some_iff.2 hread⟩
      id := (hid _).1 ⟨id, hfoundId, hidRead⟩
      method := (htext _ _).1 ⟨method, hmethod, Option.bind_eq_some_iff.2 hmethodRead⟩
      params := (hparams _).1 ⟨params, hfoundParams, hparamsRead⟩ }
  · rintro ⟨hversion, hheldId, hmethod, hheldParams⟩
    obtain ⟨version, hversion, hversionRead⟩ := (htext _ _).2 hversion
    obtain ⟨id, hfoundId, hidRead⟩ := (hid _).2 hheldId
    obtain ⟨method, hmethod, hmethodRead⟩ := (htext _ _).2 hmethod
    obtain ⟨params, hfoundParams, hparamsRead⟩ := (hparams _).2 hheldParams
    exact ⟨version, hversion, id, hfoundId, method, hmethod, params, hfoundParams, _,
      Option.bind_eq_some_iff.1 hversionRead, _, hidRead, _,
      Option.bind_eq_some_iff.1 hmethodRead, _, hparamsRead, rfl⟩

/-! ### Messages -/

/-- The messages that hold a value: any spelling of its tokens, with blanks around it. -/
inductive Json.IsWritten (value : Json) : Bytes → Prop
  | text {before cs after : List Char} (hbefore : ∀ c ∈ before, Text.isBlank c = true)
      (hspells : Spells value.tree.tokens cs) (hafter : ∀ c ∈ after, Text.isBlank c = true) :
      IsWritten value (.ofText (String.ofList (before ++ cs ++ after)))

/-- Whether a text is not empty and begins and ends with characters that are not blank. -/
structure HasEnds (cs : List Char) : Prop where
  ne_nil : cs ≠ []
  head : ∀ c ∈ cs.head?, Text.isBlank c = false
  last : ∀ c ∈ cs.getLast?, Text.isBlank c = false

lemma HasEnds.of_forall {cs : List Char} (hne : cs ≠ []) (h : ∀ c ∈ cs, Text.isBlank c = false) :
    HasEnds cs :=
  ⟨hne, fun c hc => h c (List.mem_of_mem_head? hc), fun c hc => h c (List.mem_of_mem_getLast? hc)⟩

lemma isBlank_of_mem_integer {n : Int} {c : Char} (h : c ∈ Text.integer n) :
    Text.isBlank c = false := by
  have hdigit : ∀ {c : Char}, c ∈ Text.decimal n.natAbs → Text.isBlank c = false := by
    intro c hc
    have hdigit := Text.isDigit_of_mem_decimal hc
    simp only [Char.isDigit, Bool.and_eq_true, decide_eq_true_eq] at hdigit
    have hlow : 48 ≤ c.toNat := hdigit.1
    have hhigh : c.toNat ≤ 57 := hdigit.2
    simp only [Text.isBlank, Bool.or_eq_false_iff, Bool.and_eq_false_iff, beq_eq_false_iff_ne,
      decide_eq_false_iff_not]
    omega
  unfold Text.integer at h
  split_ifs at h
  · rcases List.mem_cons.1 h with rfl | h
    · decide
    · exact hdigit h
  · exact hdigit h

lemma Json.Token.Spells.hasEnds {token : Json.Token} {cs : List Char} (h : token.Spells cs) :
    HasEnds cs := by
  cases h with
  | number n =>
    refine .of_forall ?_ fun c => isBlank_of_mem_integer
    unfold Text.integer
    split_ifs
    · exact List.cons_ne_nil _ _
    · exact Nat.toDigits_ne_nil
  | @text text cs _ =>
    have hlast : ('"' :: (cs ++ ['"'])).getLast? = some '"' := by
      rw [← List.cons_append, List.getLast?_concat]
    refine ⟨List.cons_ne_nil _ _, ?_, ?_⟩
    · rintro c ⟨⟩
      decide
    · rintro c hc
      cases Option.some.inj (hlast.symm.trans hc)
      decide
  | _ => exact .of_forall (List.cons_ne_nil _ _) (by simp [Text.isBlank])

/-- A text of tokens has no blanks at its ends. -/
lemma Json.Spells.hasEnds {tokens : List Json.Token} {cs : List Char} (h : Spells tokens cs) :
    HasEnds cs := by
  induction h with
  | last h => exact h.hasEnds
  | cons h _ _ ih =>
    refine ⟨List.append_ne_nil_of_right_ne_nil _ ih.ne_nil, ?_, ?_⟩
    · rw [List.append_assoc, List.head?_append_of_ne_nil _ h.hasEnds.ne_nil]
      exact h.hasEnds.head
    · rw [List.getLast?_append_of_ne_nil _ ih.ne_nil]
      exact ih.last

/-- The request that a message with an object holds. -/
lemma Request.ofBytes_eq_some_iff {raw : Bytes}
    (hplain : ∀ member ∈ members, member.2.isPlain = true)
    (hdepth : (Json.obj members).depth ≤ Json.maxDepth) (hraw : (Json.obj members).IsWritten raw)
    (hsize : raw.length ≤ maxMessageBytes) (request : Request) :
    ofBytes? raw = some request ↔ request.IsHeldBy members := by
  obtain ⟨hbefore, hspells, hafter⟩ := hraw
  rw [ofBytes_ofText hsize, String.toList_ofList, Text.trimmed_blanks hbefore hafter,
    Text.trimmed_eq_self_iff.2 ⟨hspells.hasEnds.head, hspells.hasEnds.last⟩,
    Json.Tree.ofText_of_spells hspells, Option.bind_some]
  exact ofTree_object hplain hdepth

/-- A message that holds an object is a request exactly if the known members are as they have to be;
the request then has their values, and otherwise the message is answered with a parse error that
names no id. -/
theorem Request.ofBytes_envelope {members : List (String × Json)} {raw : Bytes}
    (hplain : ∀ member ∈ members, member.2.isPlain = true)
    (hdepth : (Json.obj members).depth ≤ 127) (hraw : (Json.obj members).IsWritten raw)
    (hsize : raw.length ≤ maxMessageBytes) :
    (∀ request, ofBytes? raw = some request ↔ request.IsHeldBy members) ∧
      ((∃ request, ofBytes? raw = some request) ↔ IsEnvelope members) ∧
      (¬ IsEnvelope members → ∀ (server : Server) (moment : Moment) (greeted : Bool),
        server.handle moment greeted raw =
          ⟨server, greeted, .reply ⟨none, .error ⟨-32700, "Parse error", none⟩⟩⟩) := by
  have hrequest := ofBytes_eq_some_iff hplain hdepth hraw hsize
  have hexists : (∃ request, ofBytes? raw = some request) ↔ IsEnvelope members := by
    rw [← exists_isHeldBy_iff]
    exact exists_congr hrequest
  refine ⟨hrequest, hexists, fun h server moment greeted => ?_⟩
  have hnone : ofBytes? raw = none :=
    Option.eq_none_iff_forall_ne_some.2 fun request hsome => h (hexists.1 ⟨request, hsome⟩)
  exact server.handle_of_none moment greeted hnone

/-- A `ping` with its members in another order, one more member, and blanks around it. -/
theorem Request.ofBytes_envelope_ping :
    ofBytes? (.ofText
      " \x7b\"n\":[1,null],\"method\":\"ping\",\"id\":-7,\"jsonrpc\":\"2.0\"\x7d\n") =
      some ⟨"2.0", some (.number (-7)), "ping", none⟩ := by
  have hplain : (Json.obj [("n", .arr [.int 1, .null]), ("method", .str "ping"), ("id", .int (-7)),
      ("jsonrpc", .str "2.0")]).isPlain = true := by decide
  have hraw : (Json.obj [("n", .arr [.int 1, .null]), ("method", .str "ping"), ("id", .int (-7)),
      ("jsonrpc", .str "2.0")]).IsWritten (.ofText
        " \x7b\"n\":[1,null],\"method\":\"ping\",\"id\":-7,\"jsonrpc\":\"2.0\"\x7d\n") :=
    @Json.IsWritten.text _ [' '] _ ['\n'] (List.forall_mem_singleton.2 rfl)
      (Json.spells_text hplain) (List.forall_mem_singleton.2 rfl)
  have hsize : (Bytes.ofText
      " \x7b\"n\":[1,null],\"method\":\"ping\",\"id\":-7,\"jsonrpc\":\"2.0\"\x7d\n").length ≤
        maxMessageBytes := by decide
  exact ((ofBytes_envelope (Json.isPlain_obj.1 hplain).2 (by decide) hraw hsize).1 _).2
    ⟨rfl, .number rfl, rfl, .absent⟩

end WorldClock
