import WorldClock.Json.Token
/-!
# JSON syntax trees

A JSON text as it is nested, before it is given a value: numbers are still digits, and objects keep
every member in the order of the text. The builder takes one token at a time and keeps the open
arrays and objects in a list, so that nesting has no limit here. `Tree.value?` then finds the value
of a tree, within a limit of nesting.
-/

namespace WorldClock.Json

/-- A JSON text as it is nested. The name of a member, like a string, may have no text. -/
inductive Tree
  | null
  | bool (value : Bool)
  | number (numeral : Numeral)
  | text (text : Option String)
  | array (items : List Tree)
  | object (members : List (Option String × Tree))
deriving Inhabited, Repr

/-! ### Building -/

/-- An array or object that is still open, with its latest part first. -/
inductive Frame
  | items (done : List Tree)
  /-- An object after a whole member. -/
  | members (done : List (Option String × Tree))
  /-- An object after the name of a member. -/
  | member (done : List (Option String × Tree)) (name : Option String)

/-- What may come next. -/
inductive Awaits
  | value
  /-- A value, or the end of an array that is still empty. -/
  | firstItem
  | name
  /-- A name, or the end of an object that is still empty. -/
  | firstName
  | colon
  /-- A comma, or the end of the innermost array or object. -/
  | separator
  /-- Nothing: the tree is complete. -/
  | nothing (tree : Tree)

/-- The open arrays and objects, the innermost one first, and what may come next. -/
structure Builder where
  stack : List Frame
  awaits : Awaits

namespace Builder

/-- The builder before the first token. -/
def start : Builder := ⟨[], .value⟩

/-- Puts a complete tree where it belongs. -/
def put (tree : Tree) : List Frame → Option Builder
  | [] => some ⟨[], .nothing tree⟩
  | .items done :: stack => some ⟨.items (tree :: done) :: stack, .separator⟩
  | .member done name :: stack => some ⟨.members ((name, tree) :: done) :: stack, .separator⟩
  | .members _ :: _ => none

/-- Takes the first token of a value. -/
def open? (stack : List Frame) : Token → Option Builder
  | .null => put .null stack
  | .bool value => put (.bool value) stack
  | .number numeral => put (.number numeral) stack
  | .text text => put (.text text) stack
  | .openArray => some ⟨.items [] :: stack, .firstItem⟩
  | .openObject => some ⟨.members [] :: stack, .firstName⟩
  | _ => none

/-- Closes the innermost array. -/
def closeArray? : List Frame → Option Builder
  | .items done :: stack => put (.array done.reverse) stack
  | _ => none

/-- Closes the innermost object. -/
def closeObject? : List Frame → Option Builder
  | .members done :: stack => put (.object done.reverse) stack
  | _ => none

/-- Takes the name of a member. -/
def name? (name : Option String) : List Frame → Option Builder
  | .members done :: stack => some ⟨.member done name :: stack, .colon⟩
  | _ => none

/-- Takes one token. -/
def step (b : Builder) (token : Token) : Option Builder :=
  match b.awaits, token with
  | .value, token => open? b.stack token
  | .firstItem, .closeArray => closeArray? b.stack
  | .firstItem, token => open? b.stack token
  | .name, .text name => name? name b.stack
  | .firstName, .text name => name? name b.stack
  | .firstName, .closeObject => closeObject? b.stack
  | .colon, .colon => some { b with awaits := .value }
  | .separator, .comma =>
    match b.stack with
    | .items _ :: _ => some { b with awaits := .value }
    | .members _ :: _ => some { b with awaits := .name }
    | _ => none
  | .separator, .closeArray => closeArray? b.stack
  | .separator, .closeObject => closeObject? b.stack
  | _, _ => none

/-- The tree of a text that ends here. -/
def finish (b : Builder) : Option Tree :=
  match b.awaits with
  | .nothing tree => some tree
  | _ => none

end Builder

namespace Tree

/-- The tree of a list of tokens. -/
def ofTokens? (tokens : List Token) : Option Tree :=
  (tokens.foldlM Builder.step Builder.start).bind Builder.finish

/-- The tree of a text. -/
def ofText? (cs : List Char) : Option Tree :=
  (scan cs).bind ofTokens?

/-! ### Values -/

mutual
/-- The value of a tree with at most `depth` arrays and objects one inside the other. Of members of
the same name the last one counts. -/
def value? : Nat → Tree → Option Json
  | _, .null => some .null
  | _, .bool b => some (.bool b)
  | _, .number numeral => numeral.value?
  | _, .text content => content.map .str
  | 0, .array _ => none
  | depth + 1, .array items => items? depth [] items
  | 0, .object _ => none
  | depth + 1, .object members => members? depth [] members

/-- The array of the values of some trees, after values that are already found, latest first. -/
def items? (depth : Nat) (done : List Json) : List Tree → Option Json
  | [] => some (.arr done.reverse)
  | item :: rest => match value? depth item with
    | some value => items? depth (value :: done) rest
    | none => none

/-- The object of the values of some members, after members that are already found, latest first. -/
def members? (depth : Nat) (done : List (String × Json)) :
    List (Option String × Tree) → Option Json
  | [] => some (.obj (Table.gather done.reverse))
  | (none, _) :: _ => none
  | (some name, tree) :: rest => match value? depth tree with
    | some value => members? depth ((name, value) :: done) rest
    | none => none
end

end Tree

/-- The deepest nesting that a text may have. -/
def maxDepth : Nat := 127

/-- The value of a text. -/
def ofText? (cs : List Char) : Option Json :=
  (Tree.ofText? cs).bind (Tree.value? maxDepth)

end WorldClock.Json
