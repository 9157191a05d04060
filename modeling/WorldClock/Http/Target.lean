import WorldClock.Rpc.Envelope
/-!
# Targets of requests

A target has a path and, behind a question mark, a query: pairs of names and values that are written
as forms are. A scheme and a host in front of the path do not matter. In a form a space is written
as `+`, and any byte can be written as `%` with two hexadecimal digits; a `%` without them stands
for itself.
-/

namespace WorldClock

/-! ### Parts -/

/-- A target in its parts. -/
structure Target where
  path : String
  query : Bytes
deriving DecidableEq, Repr

/-- Whether a character may stand in a scheme. -/
def isSchemeChar (c : Char) : Bool :=
  c.isAlphanum || c == '+' || c == '-' || c == '.'

/-- Whether a character marks the end of a host. -/
def endsHost (c : Char) : Bool :=
  c == '/' || c == '?' || c == '#'

/-- A target without the scheme and the host that may stand in front of its path. -/
def withoutHost (cs : List Char) : List Char :=
  match cs.dropWhile isSchemeChar with
  | ':' :: '/' :: '/' :: rest => rest.dropWhile fun c => !endsHost c
  | _ => cs

/-- The parts of a target. What follows a `#` is not part of it. -/
def Target.ofText (text : String) : Target :=
  let cs := (withoutHost text.toList).takeWhile (· != '#')
  { path := String.ofList (cs.takeWhile (· != '?'))
    query := (String.ofList ((cs.dropWhile (· != '?')).drop 1)).toUTF8.toList }

/-! ### Forms -/

/-- The value of a hexadecimal digit. -/
def hexDigitValue? (byte : UInt8) : Option UInt8 :=
  if 0x30 ≤ byte ∧ byte ≤ 0x39 then some (byte - 0x30)
  else if 0x41 ≤ byte ∧ byte ≤ 0x46 then some (byte - 0x37)
  else if 0x61 ≤ byte ∧ byte ≤ 0x66 then some (byte - 0x57)
  else none

/-- The bytes that a part of a form stands for. -/
def decodeForm : Bytes → Bytes
  | [] => []
  | 0x2B :: rest => 0x20 :: decodeForm rest
  | 0x25 :: high :: low :: rest =>
    match hexDigitValue? high, hexDigitValue? low with
    | some high, some low => (16 * high + low) :: decodeForm rest
    | _, _ => 0x25 :: decodeForm (high :: low :: rest)
  | byte :: rest => byte :: decodeForm rest

/-- Puts a byte in front of parts that are separated by some byte. -/
def addToParts (separator byte : UInt8) (parts : List Bytes) : List Bytes :=
  if byte = separator then [] :: parts
  else match parts with
    | [] => [[byte]]
    | part :: rest => (byte :: part) :: rest

/-- The parts between the separators in some bytes. -/
def partsOf (separator : UInt8) (bytes : Bytes) : List Bytes :=
  bytes.foldr (addToParts separator) [[]]

/-- The pair that a part of a form stands for. Without a `=` the value is empty. -/
def formPair (part : Bytes) : Bytes × Bytes :=
  (decodeForm (part.takeWhile (· != 0x3D)), decodeForm ((part.dropWhile (· != 0x3D)).drop 1))

/-- The pairs of a form. Empty parts are none. -/
def formPairs (form : Bytes) : List (Bytes × Bytes) :=
  ((partsOf 0x26 form).filter fun part => !part.isEmpty).map formPair

/-! ### Session ids -/

/-- The two names under which a query can give the id of a session. -/
def sessionNames : List Bytes :=
  ["sessionId".toUTF8.toList, "session_id".toUTF8.toList]

/-- What a query says of the session that a message belongs to. -/
inductive QueriedSession
  | absent
  | given (id : Bytes)
  | repeated
deriving DecidableEq, Repr

/-- What a query says of the session that a message belongs to. -/
def queriedSession (query : Bytes) : QueriedSession :=
  match (formPairs query).filter fun pair => sessionNames.contains pair.1 with
  | [] => .absent
  | [(_, id)] => .given id
  | _ => .repeated

end WorldClock
