import WorldClock.Config.Flag
/-!
# Addresses to listen on

An address is a host and a port with a colon between them. The last colon counts, as a host may have
colons of its own.
-/

namespace WorldClock

/-- Why the server cannot listen on an address. -/
inductive AddressFault
  | noPort (address : String)
  | badPort (address : String)
deriving DecidableEq, Repr

/-- The text that explains why the server cannot listen. -/
def AddressFault.message : AddressFault → String
  | noPort address => s!"failed to bind {address}: invalid socket address"
  | badPort address => s!"failed to bind {address}: invalid port value"

/-- An address in its two parts. -/
structure Address where
  host : String
  port : Nat
deriving DecidableEq, Repr

/-- The parts of the address that a text denotes. -/
def Address.ofText (text : String) : Except AddressFault Address :=
  let reversed := text.toList.reverse
  match reversed.dropWhile (· != ':') with
  | [] => .error (.noPort text)
  | _ :: host =>
    match readPort (String.ofList (reversed.takeWhile (· != ':')).reverse) with
    | some port => .ok ⟨String.ofList host.reverse, port⟩
    | none => .error (.badPort text)

end WorldClock
