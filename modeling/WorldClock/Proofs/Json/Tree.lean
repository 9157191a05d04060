import WorldClock.Decimal.Shortest
import WorldClock.Json.Tree
import WorldClock.Proofs.Json.Plain
/-!
# Texts of JSON values

A value is written as the tokens of its syntax tree, in any spelling. The builder makes the tree of
these tokens again (`Json.Tree.ofTokens_tokens`), and the value of the tree is the canonical form of
the value, if that is plain (`Json.value_tree`). So whichever way a plain value is written, it is
read as its canonical form (`Json.ofText_of_spells`).
-/

namespace WorldClock.Json

/-! ### Tokens of a tree -/

namespace Tree

mutual
/-- The tokens by which a tree is written. -/
def tokens : Tree → List Token
  | null => [.null]
  | bool value => [.bool value]
  | number numeral => [.number numeral]
  | text content => [.text content]
  | array [] => [.openArray, .closeArray]
  | array (item :: rest) => .openArray :: (item.tokens ++ itemTokens rest)
  | object [] => [.openObject, .closeObject]
  | object ((name, value) :: rest) =>
    .openObject :: .text name :: .colon :: (value.tokens ++ memberTokens rest)

/-- The tokens of further items of an array and of its end. -/
def itemTokens : List Tree → List Token
  | [] => [.closeArray]
  | item :: rest => .comma :: (item.tokens ++ itemTokens rest)

/-- The tokens of further members of an object and of its end. -/
def memberTokens : List (Option String × Tree) → List Token
  | [] => [.closeObject]
  | (name, value) :: rest =>
    .comma :: .text name :: .colon :: (value.tokens ++ memberTokens rest)
end

lemma exists_tokens_eq_cons (tree : Tree) :
    ∃ token rest, tree.tokens = token :: rest ∧ token ≠ .closeArray := by
  match tree with
  | null | bool _ | number _ | text _ | array [] | array (_ :: _) | object [] | object (_ :: _) =>
    exact ⟨_, _, rfl, by simp⟩

/-! ### Numbers stand apart -/

lemma isChain_cons {token : Token} {rest : List Token} (h : token.isNumber = false)
    (hrest : rest.IsChain Token.Apart) : (token :: rest).IsChain Token.Apart :=
  List.isChain_cons.2 ⟨fun _ _ hnumber => absurd hnumber (by simp [h]), hrest⟩

/-- What comes after an item of an array is no number. -/
lemma isNumber_of_mem_head_itemTokens (items : List Tree) (rest : List Token) :
    ∀ token ∈ (itemTokens items ++ rest).head?, token.isNumber = false := by
  cases items <;> rintro token ⟨⟩ <;> rfl

/-- What comes after a member of an object is no number. -/
lemma isNumber_of_mem_head_memberTokens (members : List (Option String × Tree))
    (rest : List Token) :
    ∀ token ∈ (memberTokens members ++ rest).head?, token.isNumber = false := by
  cases members <;> rintro token ⟨⟩ <;> rfl

mutual
/-- No number follows directly on a number among the tokens of a tree. -/
theorem isChain_tokens (tree : Tree) (rest : List Token)
    (hhead : ∀ token ∈ rest.head?, token.isNumber = false) (hrest : rest.IsChain Token.Apart) :
    (tree.tokens ++ rest).IsChain Token.Apart := by
  match tree with
  | null | bool _ | text _ => exact isChain_cons rfl hrest
  | number _ => exact List.isChain_cons.2 ⟨fun token htoken _ => hhead token htoken, hrest⟩
  | array [] | object [] => exact isChain_cons rfl (isChain_cons rfl hrest)
  | array (item :: items) =>
    exact isChain_cons rfl (isChain_itemTokens (item :: items) rest hrest).tail
  | object (member :: members) =>
    exact isChain_cons rfl (isChain_memberTokens (member :: members) rest hrest).tail

theorem isChain_itemTokens (items : List Tree) (rest : List Token)
    (hrest : rest.IsChain Token.Apart) : (itemTokens items ++ rest).IsChain Token.Apart := by
  match items with
  | [] => exact isChain_cons rfl hrest
  | item :: items =>
    rw [itemTokens, List.cons_append, List.append_assoc]
    exact isChain_cons rfl (isChain_tokens item _ (isNumber_of_mem_head_itemTokens items rest)
      (isChain_itemTokens items rest hrest))

theorem isChain_memberTokens (members : List (Option String × Tree)) (rest : List Token)
    (hrest : rest.IsChain Token.Apart) : (memberTokens members ++ rest).IsChain Token.Apart := by
  match members with
  | [] => exact isChain_cons rfl hrest
  | (_, value) :: members =>
    rw [memberTokens, List.cons_append, List.cons_append, List.cons_append, List.append_assoc]
    exact isChain_cons rfl (isChain_cons rfl (isChain_cons rfl (isChain_tokens value _
      (isNumber_of_mem_head_memberTokens members rest) (isChain_memberTokens members rest hrest))))
end

/-! ### Building a tree from its tokens -/

open Builder

/-- The first item of an array is built like a later one. -/
lemma foldlM_firstItem (tree : Tree) (stack : List Frame) (rest : List Token) :
    (tree.tokens ++ rest).foldlM step ⟨stack, .firstItem⟩ =
      (tree.tokens ++ rest).foldlM step ⟨stack, .value⟩ := by
  obtain ⟨token, more, htokens, htoken⟩ := tree.exists_tokens_eq_cons
  rw [htokens, List.cons_append, List.foldlM_cons, List.foldlM_cons]
  cases token <;> first | rfl | exact absurd rfl htoken

mutual
/-- The tokens of a tree put it in its place, whatever comes after them. -/
theorem foldlM_tokens (tree : Tree) (stack : List Frame) (rest : List Token) :
    (tree.tokens ++ rest).foldlM step ⟨stack, .value⟩ =
      (put tree stack).bind fun b => rest.foldlM step b := by
  match tree with
  | null | bool _ | number _ | text _ | array [] | object [] => rfl
  | array (item :: items) =>
    have hitems := foldlM_itemTokens (item :: items) [] stack rest
    rw [itemTokens, List.cons_append, List.append_assoc] at hitems
    rw [tokens, List.cons_append, List.append_assoc]
    exact (foldlM_firstItem item (.items [] :: stack) _).trans hitems
  | object (member :: members) => exact foldlM_memberTokens (member :: members) [] stack rest

theorem foldlM_itemTokens (items done : List Tree) (stack : List Frame) (rest : List Token) :
    (itemTokens items ++ rest).foldlM step ⟨.items done :: stack, .separator⟩ =
      (put (.array (done.reverse ++ items)) stack).bind fun b => rest.foldlM step b := by
  match items with
  | [] => rw [List.append_nil]; rfl
  | item :: items =>
    have hitem := foldlM_tokens item (.items done :: stack) (itemTokens items ++ rest)
    have hitems := foldlM_itemTokens items (item :: done) stack rest
    rw [List.reverse_cons, List.append_assoc] at hitems
    rw [itemTokens, List.cons_append, List.append_assoc]
    exact hitem.trans hitems

theorem foldlM_memberTokens (members done : List (Option String × Tree)) (stack : List Frame)
    (rest : List Token) :
    (memberTokens members ++ rest).foldlM step ⟨.members done :: stack, .separator⟩ =
      (put (.object (done.reverse ++ members)) stack).bind fun b => rest.foldlM step b := by
  match members with
  | [] => rw [List.append_nil]; rfl
  | (name, value) :: members =>
    have hvalue := foldlM_tokens value (.member done name :: stack) (memberTokens members ++ rest)
    have hmembers := foldlM_memberTokens members ((name, value) :: done) stack rest
    rw [List.reverse_cons, List.append_assoc] at hmembers
    rw [memberTokens, List.cons_append, List.cons_append, List.cons_append, List.append_assoc]
    exact hvalue.trans hmembers
end

theorem ofTokens_tokens (tree : Tree) : ofTokens? tree.tokens = some tree := by
  have hbuild := foldlM_tokens tree [] []
  rw [List.append_nil] at hbuild
  rw [ofTokens?, start, hbuild]
  rfl

/-- Whichever way a tree is written, it is read again. -/
theorem ofText_of_spells {tree : Tree} {cs : List Char} (h : Spells tree.tokens cs) :
    ofText? cs = some tree := by
  have hchain := isChain_tokens tree [] (by simp) .nil
  rw [List.append_nil] at hchain
  rw [ofText?, scan_of_spells h hchain, Option.bind_some, ofTokens_tokens]

end Tree

/-! ### The tree of a value -/

mutual
/-- The syntax tree of a value. A floating-point number is written as its shortest text. -/
def tree : Json → Tree
  | null => .null
  | bool value => .bool value
  | int n => .number (.ofInt n)
  | float x => (Tree.ofText? (Decimal.shortestText x)).getD .null
  | str text => .text (some text)
  | arr items => .array (itemTrees items)
  | obj members => .object (memberTrees members)

/-- The syntax trees of some values. -/
def itemTrees : List Json → List Tree
  | [] => []
  | item :: rest => item.tree :: itemTrees rest

/-- The members of an object with the syntax trees of their values. -/
def memberTrees : List (String × Json) → List (Option String × Tree)
  | [] => []
  | (name, value) :: rest => (some name, value.tree) :: memberTrees rest
end

lemma memberTrees_eq_map (members : List (String × Json)) :
    memberTrees members = members.map fun member => (some member.1, member.2.tree) := by
  induction members with
  | nil => rfl
  | cons member rest ih => rw [memberTrees, ih, List.map_cons]

lemma items_itemTrees {limit : Nat} {items : List Json}
    (h : ∀ item ∈ items, item.tree.value? limit = some item.canonical) (done : List Json) :
    Tree.items? limit done (itemTrees items) =
      some (.arr (done.reverse ++ canonicalItems items)) := by
  induction items generalizing done with
  | nil => simp [itemTrees, Tree.items?, canonicalItems]
  | cons item rest ih =>
    obtain ⟨hitem, hrest⟩ := List.forall_mem_cons.1 h
    simp [itemTrees, Tree.items?, canonicalItems, hitem, ih hrest]

lemma members_memberTrees {limit : Nat} {members : List (String × Json)}
    (h : ∀ member ∈ members, member.2.tree.value? limit = some member.2.canonical)
    (done : List (String × Json)) :
    Tree.members? limit done (memberTrees members) =
      some (.obj (Table.gather (done.reverse ++ canonicalMembers members))) := by
  induction members generalizing done with
  | nil => simp [memberTrees, Tree.members?, canonicalMembers]
  | cons member rest ih =>
    obtain ⟨hmember, hrest⟩ := List.forall_mem_cons.1 h
    simp [memberTrees, Tree.members?, canonicalMembers, hmember, ih hrest]

/-- The value of the tree of a plain value is the canonical form of the value. -/
theorem value_tree {value : Json} (h : value.isPlain = true) {limit : Nat}
    (hdepth : value.depth ≤ limit) : value.tree.value? limit = some value.canonical := by
  induction value using inductionOn generalizing limit with
  | null | bool | str => rfl
  | int n => exact Numeral.value_ofInt (by simpa using h)
  | float x => simp [isPlain] at h
  | arr items ih =>
    obtain ⟨limit, rfl⟩ : ∃ below, limit = below + 1 := Nat.exists_eq_succ_of_ne_zero (by
      rintro rfl
      simp [depth] at hdepth)
    have hitems := itemsDepth_le_iff.1 (Nat.succ_le_succ_iff.1 hdepth)
    rw [tree, Tree.value?, items_itemTrees fun item hitem =>
      ih item hitem (isPlain_arr.1 h item hitem) (hitems item hitem)]
    rfl
  | obj members ih =>
    obtain ⟨limit, rfl⟩ : ∃ below, limit = below + 1 := Nat.exists_eq_succ_of_ne_zero (by
      rintro rfl
      simp [depth] at hdepth)
    obtain ⟨hnames, hplain⟩ := isPlain_obj.1 h
    have hmembers := membersDepth_le_iff.1 (Nat.succ_le_succ_iff.1 hdepth)
    rw [tree, Tree.value?, members_memberTrees fun member hmember =>
      ih member hmember (hplain member hmember) (hmembers member hmember)]
    rw [List.reverse_nil, List.nil_append, Table.gather_eq_ofList (by simpa using hnames)]
    rfl

/-- Whichever way a plain value is written, it is read as its canonical form. -/
theorem ofText_of_spells {value : Json} (h : value.isPlain = true)
    (hdepth : value.depth ≤ maxDepth) {cs : List Char}
    (hspells : Spells value.tree.tokens cs) : ofText? cs = some value.canonical := by
  rw [ofText?, Tree.ofText_of_spells hspells, Option.bind_some, value_tree h hdepth]

end WorldClock.Json
