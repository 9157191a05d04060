import WorldClock.Decimal.Shortest
import WorldClock.Json.Basic
/-!
# JSON text

The compact text of a value: no blanks between tokens, members in the order in which the value has
them. In a string only the quote, the backslash and the characters below U+0020 are escaped, so a
text is one line.
-/

namespace WorldClock.Json

/-- A hexadecimal digit. -/
def hexDigit (n : Nat) : Char :=
  Nat.digitChar n

/-- The text of a character inside a string. -/
def escape (c : Char) : List Char :=
  if c = '"' then ['\\', '"']
  else if c = '\\' then ['\\', '\\']
  else if c = '\x08' then ['\\', 'b']
  else if c = '\x0c' then ['\\', 'f']
  else if c = '\n' then ['\\', 'n']
  else if c = '\r' then ['\\', 'r']
  else if c = '\t' then ['\\', 't']
  else if c.toNat < 0x20 then
    ['\\', 'u', '0', '0', hexDigit (c.toNat / 16), hexDigit (c.toNat % 16)]
  else [c]

/-- Writes characters behind a text. -/
def append (out : String) (cs : List Char) : String :=
  cs.foldl String.push out

/-- Writes a string behind a text. -/
def appendString (out text : String) : String :=
  (text.toList.foldl (fun out c => append out (escape c)) (out.push '"')).push '"'

mutual
/-- Writes a value behind a text. -/
def appendTo (out : String) : Json → String
  | null => out ++ "null"
  | bool true => out ++ "true"
  | bool false => out ++ "false"
  | int value => append out (Text.integer value)
  | float value => append out (Decimal.shortestText value)
  | str text => appendString out text
  | arr [] => out ++ "[]"
  | arr (item :: rest) => (appendItems (item.appendTo (out.push '[')) rest).push ']'
  | obj [] => out ++ "\x7b\x7d"
  | obj ((name, value) :: rest) =>
    (appendMembers (value.appendTo ((appendString (out.push '\x7b') name).push ':')) rest).push
      '\x7d'

/-- Writes further items of an array behind a text. -/
def appendItems (out : String) : List Json → String
  | [] => out
  | item :: rest => appendItems (item.appendTo (out.push ',')) rest

/-- Writes further members of an object behind a text. -/
def appendMembers (out : String) : List (String × Json) → String
  | [] => out
  | (name, value) :: rest =>
    appendMembers (value.appendTo ((appendString (out.push ',') name).push ':')) rest
end

/-- The compact text of a value. -/
def text (value : Json) : String :=
  value.appendTo ""

end WorldClock.Json
