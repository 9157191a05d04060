import WorldClock.Proofs.Json.Printer
import WorldClock.Proofs.Rpc.Text
import WorldClock.Rpc.Message
/-!
# Texts of replies

A reply whose values fit into a text is written without control characters
(`Response.visible_of_mem_text`), and reading its text gives an object with exactly its members
(`Response.ofText_text`).
-/

namespace WorldClock

/-! ### Values that fit into a text -/

/-- A plain value of limited depth. -/
structure Json.Fits (limit : Nat) (value : Json) : Prop where
  plain : value.isPlain = true
  depth_le : value.depth ≤ limit

namespace Json

variable {limit more : Nat} {value : Json} {items : List Json} {members : List (String × Json)}

lemma Fits.mono (h : Fits limit value) (hle : limit ≤ more) : Fits more value :=
  ⟨h.plain, h.depth_le.trans hle⟩

lemma Fits.canonical (h : Fits limit value) : Fits limit value.canonical :=
  ⟨isPlain_canonical h.plain, (depth_canonical_le value).trans h.depth_le⟩

@[simp] lemma fits_str (text : String) : Fits limit (.str text) := ⟨isPlain_str text, Nat.zero_le _⟩

@[simp] lemma fits_null : Fits limit .null := ⟨isPlain_null, Nat.zero_le _⟩

@[simp] lemma fits_bool (value : Bool) : Fits limit (.bool value) :=
  ⟨isPlain_bool value, Nat.zero_le _⟩

@[simp] lemma fits_int {n : Int} : Fits limit (.int n) ↔ isWord n = true :=
  ⟨fun h => (isPlain_int n).symm.trans h.plain, fun h => ⟨(isPlain_int n).trans h, Nat.zero_le _⟩⟩

lemma fits_arr (h : ∀ item ∈ items, Fits limit item) : Fits (limit + 1) (.arr items) :=
  ⟨isPlain_arr.2 fun item hitem => (h item hitem).plain,
    Nat.succ_le_succ (itemsDepth_le_iff.2 fun item hitem => (h item hitem).depth_le)⟩

lemma fits_obj (hnames : (members.map Prod.fst).Nodup)
    (h : ∀ member ∈ members, Fits limit member.2) : Fits (limit + 1) (.obj members) :=
  ⟨isPlain_obj.2 ⟨hnames, fun member hmember => (h member hmember).plain⟩,
    Nat.succ_le_succ (membersDepth_le_iff.2 fun member hmember => (h member hmember).depth_le)⟩

lemma fits_object (h : ∀ member ∈ members, Fits limit member.2) :
    Fits (limit + 1) (object members) :=
  fits_obj (Table.nodup_names_ofList members) fun member hmember =>
    h member (Table.mem_of_mem_ofList hmember)

lemma object_eq_obj {sorted : List (String × Json)} (hperm : members.Perm sorted)
    (hsorted : (sorted.map Prod.fst).Pairwise (· < ·)) : object members = obj sorted := by
  have hnames : (members.map Prod.fst).Nodup :=
    (hperm.map Prod.fst).nodup_iff.2 (hsorted.imp ne_of_lt)
  have htable : Table.ofList members = sorted :=
    Table.eq_of_perm ((Table.ofList_perm hnames).trans hperm) (Table.pairwise_names_ofList _)
      hsorted
  rw [object, htable]

/-- The canonical form of an object has the canonical forms of its members, in the order of their
names. -/
lemma canonical_obj {read sorted : List (String × Json)} (hread : canonicalMembers members = read)
    (hperm : read.Perm sorted) (hsorted : (sorted.map Prod.fst).Pairwise (· < ·)) :
    (obj members).canonical = obj sorted := by
  rw [canonical, hread, object_eq_obj hperm hsorted]

end Json

/-! ### Replies that fit into a text -/

/-- An id that fits into a reply. -/
def RequestId.Fits (id : RequestId) : Prop :=
  ∀ n, id = .number n → isInt64 n = true

/-- What became of a request, if all of it fits into a reply, in canonical form. -/
inductive Outcome.Fits : Outcome → Prop
  | result {value : Json} (h : value.Fits 125) (hcanonical : value.canonical = value) :
      Fits (.result value)
  | error {error : RpcError} (hcode : Json.isWord error.code = true)
      (hdata : ∀ data ∈ error.data, data.Fits 124 ∧ data.canonical = data) : Fits (.error error)

/-- A reply all of which fits into a text. -/
structure Response.Fits (reply : Response) : Prop where
  id : ∀ id ∈ reply.id, id.Fits
  outcome : reply.outcome.Fits

/-- The members of an error, in the order of their names. -/
def RpcError.members (error : RpcError) : List (String × Json) :=
  ("code", .int error.code) :: (error.data.toList.map fun data => ("data", data)) ++
    [("message", .str error.message)]

lemma RpcError.get?_code_members (error : RpcError) :
    (Json.obj error.members).get? "code" = some (.int error.code) := rfl

lemma RpcError.get?_message_members (error : RpcError) :
    (Json.obj error.members).get? "message" = some (.str error.message) := by
  obtain ⟨code, message, data⟩ := error
  cases data <;> rfl

/-- The members of a reply, in the order of their names: the version, the id if there is one, and
either a result or an error. -/
def Response.members (reply : Response) : List (String × Json) :=
  match reply.outcome with
  | .result value =>
    (reply.id.toList.map fun id => ("id", id.json)) ++ [("jsonrpc", .str "2.0"), ("result", value)]
  | .error error =>
    ("error", .obj error.members) :: (reply.id.toList.map fun id => ("id", id.json)) ++
      [("jsonrpc", .str "2.0")]

lemma RequestId.fits_json {id : RequestId} (h : id.Fits) (limit : Nat) : id.json.Fits limit := by
  cases id with
  | number n =>
    have hn := h n rfl
    simp only [isInt64, Bool.and_eq_true, decide_eq_true_eq] at hn
    simp only [json, Json.fits_int, Json.isWord, Bool.and_eq_true, decide_eq_true_eq]
    omega
  | text text => exact Json.fits_str text

@[simp] lemma RequestId.canonical_json (id : RequestId) : id.json.canonical = id.json := by
  cases id <;> rfl

lemma RpcError.fits_json {error : RpcError} (hcode : Json.isWord error.code = true)
    (hdata : ∀ data ∈ error.data, data.Fits 124 ∧ data.canonical = data) : error.json.Fits 125 := by
  obtain ⟨code, message, data⟩ := error
  cases data with
  | none => exact Json.fits_obj (by simp) (by simpa using hcode)
  | some data => exact Json.fits_obj (by simp) (by simpa using ⟨hcode, (hdata data rfl).1⟩)

lemma RpcError.canonical_json {error : RpcError}
    (hdata : ∀ data ∈ error.data, data.Fits 124 ∧ data.canonical = data) :
    error.json.canonical = .obj error.members := by
  obtain ⟨code, message, data⟩ := error
  cases data with
  | none =>
    exact Json.canonical_obj (by simp [members, Json.canonicalMembers, Json.canonical]) (.refl _)
      (by decide : ["code", "message"].Pairwise (· < ·))
  | some data =>
    have hcanonical := (hdata data rfl).2
    exact Json.canonical_obj (by simp [Json.canonicalMembers, Json.canonical, hcanonical])
      ((List.Perm.swap _ _ _).cons _) (by decide : ["code", "data", "message"].Pairwise (· < ·))

namespace Response

variable {reply : Response}

lemma fits_json (h : reply.Fits) : reply.json.Fits Json.maxDepth := by
  obtain ⟨id, outcome⟩ := reply
  obtain ⟨hid, houtcome⟩ := h
  have hmember : ∀ held ∈ id, (RequestId.json held).Fits 126 := fun held hheld =>
    RequestId.fits_json (hid held hheld) 126
  cases houtcome with
  | result hvalue =>
    have hvalue := hvalue.mono (Nat.le_succ 125)
    cases id with
    | none => exact Json.fits_obj (by simp) (by simpa using hvalue)
    | some id => exact Json.fits_obj (by simp) (by simpa using ⟨hmember id rfl, hvalue⟩)
  | error hcode hdata =>
    have herror := (RpcError.fits_json hcode hdata).mono (Nat.le_succ 125)
    cases id with
    | none => exact Json.fits_obj (by simp) (by simpa using herror)
    | some id => exact Json.fits_obj (by simp) (by simpa using ⟨hmember id rfl, herror⟩)

lemma canonical_json (h : reply.outcome.Fits) : reply.json.canonical = .obj reply.members := by
  obtain ⟨id, outcome⟩ := reply
  cases h with
  | result _ hcanonical =>
    cases id with
    | none =>
      exact Json.canonical_obj
        (by simp [members, rpcVersion, Json.canonicalMembers, Json.canonical, hcanonical])
        (.refl _) (by decide : ["jsonrpc", "result"].Pairwise (· < ·))
    | some id =>
      exact Json.canonical_obj
        (by simp [rpcVersion, Json.canonicalMembers, Json.canonical, hcanonical])
        (.swap _ _ _) (by decide : ["id", "jsonrpc", "result"].Pairwise (· < ·))
  | error _ hdata =>
    have hcanonical := RpcError.canonical_json hdata
    cases id with
    | none =>
      exact Json.canonical_obj
        (by simp [rpcVersion, Json.canonicalMembers, Json.canonical, hcanonical])
        (.swap _ _ _) (by decide : ["error", "jsonrpc"].Pairwise (· < ·))
    | some id =>
      exact Json.canonical_obj
        (by simp [members, rpcVersion, Json.canonicalMembers, Json.canonical, hcanonical])
        (List.reverse_perm _) (by decide : ["error", "id", "jsonrpc"].Pairwise (· < ·))

/-- Reading the text of a reply gives an object with its members. -/
theorem ofText_text (h : reply.Fits) :
    Json.ofText? reply.text.toList = some (.obj reply.members) := by
  rw [text, Json.ofText_text (fits_json h).plain (fits_json h).depth_le, canonical_json h.outcome]

/-- The text of a reply has no control characters. -/
theorem visible_of_mem_text (h : reply.Fits) {c : Char} (hc : c ∈ reply.text.toList) :
    0x20 ≤ c.toNat :=
  Json.visible_of_mem_text (fits_json h).plain hc

lemma visible_of_mem_bytes (h : reply.Fits) {byte : UInt8}
    (hbyte : byte ∈ Bytes.ofText reply.text) : 0x20 ≤ byte.toNat := by
  by_contra hlow
  obtain ⟨c, hc, heq⟩ := Bytes.exists_char_of_mem_ofText hbyte (by omega)
  have hvisible := visible_of_mem_text h hc
  omega

end Response

end WorldClock
