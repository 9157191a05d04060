import WorldClock.Json.Numeral
/-!
# JSON tokens

The words of a JSON text. A scanner takes a text one character at a time and notes each token as it
ends, so that a text of any length is scanned in one pass. Blanks between tokens are the space, the
tab, the line feed and the carriage return.
-/

namespace WorldClock.Json

/-- A word of a JSON text. A string has no text if one of its escapes names half of a surrogate
pair without the other half. -/
inductive Token
  | openArray
  | closeArray
  | openObject
  | closeObject
  | comma
  | colon
  | null
  | bool (value : Bool)
  | number (numeral : Numeral)
  | text (text : Option String)
deriving DecidableEq, Repr

/-! ### Strings under way -/

/-- The part of a string that has been scanned. -/
structure Quote where
  /-- The characters so far, the last one first, unless a half of a surrogate pair stands alone. -/
  chars : Option (List Char)
  /-- The first half of a surrogate pair, if it has just been scanned. -/
  half : Option Nat
deriving DecidableEq, Repr

namespace Quote

/-- The string before its first character. -/
def empty : Quote := ⟨some [], none⟩

/-- Adds a character. -/
def push (q : Quote) (c : Char) : Quote :=
  if q.half.isSome then ⟨none, none⟩ else ⟨q.chars.map (c :: ·), none⟩

/-- Adds the character, or the half of a surrogate pair, that a 16-bit escape names. -/
def pushUnit (q : Quote) (unit : Nat) : Quote :=
  if 0xD800 ≤ unit ∧ unit ≤ 0xDBFF then
    if q.half.isSome then ⟨none, none⟩ else { q with half := some unit }
  else if 0xDC00 ≤ unit ∧ unit ≤ 0xDFFF then
    match q.half with
    | some first =>
      let c := Char.ofNat (0x10000 + (first - 0xD800) * 0x400 + (unit - 0xDC00))
      ⟨q.chars.map (c :: ·), none⟩
    | none => ⟨none, none⟩
  else q.push (Char.ofNat unit)

/-- The token of a string that has ended. -/
def token (q : Quote) : Token :=
  .text (if q.half.isSome then none else q.chars.map fun cs => String.ofList cs.reverse)

end Quote

/-- The character that a one-letter escape names. -/
def escaped? : Char → Option Char
  | '"' => some '"'
  | '\\' => some '\\'
  | '/' => some '/'
  | 'b' => some '\x08'
  | 'f' => some '\x0c'
  | 'n' => some '\n'
  | 'r' => some '\r'
  | 't' => some '\t'
  | _ => none

/-- The value of a hexadecimal digit. -/
def hexDigit? (c : Char) : Option Nat :=
  if c.isDigit then some (c.toNat - '0'.toNat)
  else if 'a' ≤ c ∧ c ≤ 'f' then some (c.toNat - 'a'.toNat + 10)
  else if 'A' ≤ c ∧ c ≤ 'F' then some (c.toNat - 'A'.toNat + 10)
  else none

/-! ### Numbers under way -/

/-- How far a number has been scanned. -/
inductive Place
  | sign | zero | whole | point | fraction | exponentMark | exponentSign | exponent
deriving DecidableEq, Repr

/-- The part of a number that has been scanned, the last digit of each run first. -/
structure Figure where
  numeral : Numeral
  place : Place
deriving DecidableEq, Repr

namespace Figure

/-- The number before its first digit. -/
def start (negative : Bool) : Figure := ⟨⟨negative, [], [], none⟩, .sign⟩

/-- Adds a digit. Nothing may follow a zero before the point but the point and the exponent. -/
def pushDigit (f : Figure) (c : Char) : Option Figure :=
  match f.place with
  | .sign => some ⟨{ f.numeral with whole := [c] }, if c = '0' then .zero else .whole⟩
  | .zero => none
  | .whole => some { f with numeral.whole := c :: f.numeral.whole }
  | .point | .fraction =>
    some ⟨{ f.numeral with fraction := c :: f.numeral.fraction }, .fraction⟩
  | .exponentMark => some ⟨{ f.numeral with exponent := some (false, [c]) }, .exponent⟩
  | .exponentSign | .exponent =>
    some ⟨{ f.numeral with
      exponent := f.numeral.exponent.map fun (sign, digits) => (sign, c :: digits) }, .exponent⟩

/-- Adds a character that is no digit, if it belongs to the number. -/
def pushMark (f : Figure) (c : Char) : Option Figure :=
  match f.place with
  | .zero | .whole =>
    if c = '.' then some { f with place := .point }
    else if c = 'e' ∨ c = 'E' then some { f with place := .exponentMark }
    else none
  | .fraction => if c = 'e' ∨ c = 'E' then some { f with place := .exponentMark } else none
  | .exponentMark =>
    if c = '+' ∨ c = '-' then
      some ⟨{ f.numeral with exponent := some (c == '-', []) }, .exponentSign⟩
    else none
  | _ => none

/-- The token of a number that has ended, if it may end here. -/
def token? (f : Figure) : Option Token :=
  match f.place with
  | .zero | .whole | .fraction | .exponent =>
    some (.number
      { f.numeral with
        whole := f.numeral.whole.reverse
        fraction := f.numeral.fraction.reverse
        exponent := f.numeral.exponent.map fun (sign, digits) => (sign, digits.reverse) })
  | _ => none

end Figure

/-! ### The scanner -/

/-- What the scanner is in the middle of. -/
inductive Mode
  /-- Between two tokens. -/
  | between
  /-- Inside `true`, `false` or `null`, with the letters that are still to come. -/
  | word (rest : List Char) (token : Token)
  | number (figure : Figure)
  | text (quote : Quote)
  /-- After a backslash. -/
  | escape (quote : Quote)
  /-- Inside a 16-bit escape: the digits still to come, and the value of those before. -/
  | unit (quote : Quote) (missing value : Nat)
deriving DecidableEq, Repr

/-- The tokens that have ended, the last one first, and what is under way. -/
structure Scanner where
  tokens : List Token
  mode : Mode
deriving DecidableEq, Repr

namespace Scanner

/-- The scanner before the first character. -/
def start : Scanner := ⟨[], .between⟩

/-- The scanner after a token. -/
def note (tokens : List Token) (token : Token) : Scanner := ⟨token :: tokens, .between⟩

/-- Takes a character between two tokens. -/
def begin (tokens : List Token) (c : Char) : Option Scanner :=
  match c with
  | ' ' | '\t' | '\n' | '\r' => some ⟨tokens, .between⟩
  | '[' => some (note tokens .openArray)
  | ']' => some (note tokens .closeArray)
  | '\x7b' => some (note tokens .openObject)
  | '\x7d' => some (note tokens .closeObject)
  | ',' => some (note tokens .comma)
  | ':' => some (note tokens .colon)
  | '"' => some ⟨tokens, .text Quote.empty⟩
  | 'n' => some ⟨tokens, .word ['u', 'l', 'l'] .null⟩
  | 't' => some ⟨tokens, .word ['r', 'u', 'e'] (.bool true)⟩
  | 'f' => some ⟨tokens, .word ['a', 'l', 's', 'e'] (.bool false)⟩
  | '-' => some ⟨tokens, .number (Figure.start true)⟩
  | _ =>
    if c.isDigit then ((Figure.start false).pushDigit c).map fun f => ⟨tokens, .number f⟩
    else none

/-- Takes one character. -/
def step (s : Scanner) (c : Char) : Option Scanner :=
  match s.mode with
  | .between => begin s.tokens c
  | .word rest token =>
    match rest with
    | [] => none
    | [last] => if c = last then some (note s.tokens token) else none
    | next :: rest => if c = next then some ⟨s.tokens, .word rest token⟩ else none
  | .number f =>
    if c.isDigit then (f.pushDigit c).map fun f => ⟨s.tokens, .number f⟩
    else match f.pushMark c with
      | some f => some ⟨s.tokens, .number f⟩
      | none => f.token?.bind fun token => begin (token :: s.tokens) c
  | .text q =>
    if c = '"' then some (note s.tokens q.token)
    else if c = '\\' then some ⟨s.tokens, .escape q⟩
    else if c.toNat < 0x20 then none
    else some ⟨s.tokens, .text (q.push c)⟩
  | .escape q =>
    if c = 'u' then some ⟨s.tokens, .unit q 4 0⟩
    else (escaped? c).map fun c => ⟨s.tokens, .text (q.push c)⟩
  | .unit q missing value =>
    (hexDigit? c).map fun digit =>
      if missing ≤ 1 then ⟨s.tokens, .text (q.pushUnit (value * 16 + digit))⟩
      else ⟨s.tokens, .unit q (missing - 1) (value * 16 + digit)⟩

/-- The tokens of a text that ends here. -/
def finish (s : Scanner) : Option (List Token) :=
  match s.mode with
  | .between => some s.tokens.reverse
  | .number f => f.token?.map fun token => (token :: s.tokens).reverse
  | _ => none

end Scanner

/-- The tokens of a text. -/
def scan (cs : List Char) : Option (List Token) :=
  (cs.foldlM Scanner.step Scanner.start).bind Scanner.finish

end WorldClock.Json
