import Stencil.Value.Basic
import Stencil.Number.Decimal
import Stencil.Number.Integer

/-!
# The text of values

`Value.json` is the compact text form, `Value.json?` reads it, and `Value.text` is what a token is
replaced by: nothing for null, a text as it is, and the compact form of anything else.
-/

set_option autoImplicit false

namespace Stencil

open Number

/-- Doubles inside values: an explicit sign before every exponent. Values hold finite doubles only;
anything else would be written as null. -/
def valueLayout : DecimalLayout where
  exponentSign := "+"
  infinity := "null"
  notANumber := "null"

namespace Numeral

def json : Numeral → String
  | integer value => toString value
  | double value => valueLayout.render value

end Numeral

namespace Value

/-- A character inside a quoted text. Only quotes, backslashes and control characters below the
space are escaped. -/
def escape (character : Char) : List Char :=
  match character with
  | '"' => ['\\', '"']
  | '\\' => ['\\', '\\']
  | '\n' => ['\\', 'n']
  | '\r' => ['\\', 'r']
  | '\t' => ['\\', 't']
  | '\x08' => ['\\', 'b']
  | '\x0c' => ['\\', 'f']
  | other =>
    if other.toNat < 0x20 then
      ['\\', 'u', '0', '0', Nat.digitChar (other.toNat / 16), Nat.digitChar (other.toNat % 16)]
    else
      [other]

def quote (text : String) : String :=
  "\"" ++ String.ofList (text.toList.flatMap escape) ++ "\""

mutual

def json : Value → String
  | null => "null"
  | bool true => "true"
  | bool false => "false"
  | number value => value.json
  | string value => quote value
  | array items => "[" ++ ",".intercalate (jsonItems items) ++ "]"
  | object members => "\x7b" ++ ",".intercalate (jsonMembers members) ++ "\x7d"

def jsonItems : List Value → List String
  | [] => []
  | item :: rest => json item :: jsonItems rest

def jsonMembers : List (String × Value) → List String
  | [] => []
  | (key, value) :: rest => (quote key ++ ":" ++ json value) :: jsonMembers rest

end

def text : Value → String
  | null => ""
  | string value => value
  | other => other.json

/-! ### Reading -/

private def isSpacing (character : Char) : Bool :=
  character = ' ' || character = '\t' || character = '\n' || character = '\r'

private def skipSpacing (input : List Char) : List Char :=
  input.dropWhile isSpacing

private def readUnit? : List Char → Option (Nat × List Char)
  | first :: second :: third :: fourth :: rest => do
    let high ← digit? 16 first
    let next ← digit? 16 second
    let third ← digit? 16 third
    let low ← digit? 16 fourth
    pure (((high * 16 + next) * 16 + third) * 16 + low, rest)
  | _ => none

/-- The character of an escape after `\u`; two halves of a pair make one character. -/
private def readCodePoint? (input : List Char) : Option (Char × List Char) := do
  let (unit, rest) ← readUnit? input
  if 0xD800 ≤ unit ∧ unit < 0xDC00 then
    match rest with
    | '\\' :: 'u' :: following =>
      let (second, rest) ← readUnit? following
      if 0xDC00 ≤ second ∧ second < 0xE000 then
        pure (Char.ofNat (0x10000 + (unit - 0xD800) * 0x400 + (second - 0xDC00)), rest)
      else
        none
    | _ => none
  else if 0xDC00 ≤ unit ∧ unit < 0xE000 then none
  else pure (Char.ofNat unit, rest)

private def readQuoted? (fuel : Nat) (sofar : List Char) (input : List Char) :
    Option (String × List Char) :=
  match fuel, input with
  | _ + 1, '"' :: rest => some (String.ofList sofar.reverse, rest)
  | fuel + 1, '\\' :: 'u' :: rest => do
    let (character, rest) ← readCodePoint? rest
    readQuoted? fuel (character :: sofar) rest
  | fuel + 1, '\\' :: mark :: rest =>
    let character? :=
      match mark with
      | '"' => some '"'
      | '\\' => some '\\'
      | '/' => some '/'
      | 'b' => some '\x08'
      | 'f' => some '\x0c'
      | 'n' => some '\n'
      | 'r' => some '\r'
      | 't' => some '\t'
      | _ => none
    match character? with
    | some character => readQuoted? fuel (character :: sofar) rest
    | none => none
  | fuel + 1, character :: rest =>
    if character.toNat < 0x20 then none else readQuoted? fuel (character :: sofar) rest
  | _, _ => none

/-- A number from its characters. Without point and exponent it is an integer when it fits 64 bits,
signed or unsigned; minus zero and everything else is a double. -/
def readNumber? (characters : List Char) : Option Value :=
  let negative := characters.head? = some '-'
  let digits := if negative then characters.drop 1 else characters
  if digits.isEmpty then none
  else if digits.all Char.isDigit then
    let magnitude := Decimal.digitsValue digits
    if negative then
      if magnitude = 0 ∨ Nat.pow 2 63 < magnitude then
        some (number (.double (Double.ofDecimal true magnitude 0)))
      else some (integer (-magnitude))
    else if magnitude < Nat.pow 2 64 then some (integer magnitude)
    else some (number (.double (Double.ofDecimal false magnitude 0)))
  else
    (Decimal.readUnsigned? negative digits).map fun value => number (.double value)

private def isNumberPart (character : Char) : Bool :=
  character.isDigit || character = '-' || character = '+' || character = '.' ||
    character = 'e' || character = 'E'

mutual

private def readValue? (fuel : Nat) (input : List Char) : Option (Value × List Char) :=
  match fuel with
  | 0 => none
  | fuel + 1 =>
    match skipSpacing input with
    | 'n' :: 'u' :: 'l' :: 'l' :: rest => some (null, rest)
    | 't' :: 'r' :: 'u' :: 'e' :: rest => some (bool true, rest)
    | 'f' :: 'a' :: 'l' :: 's' :: 'e' :: rest => some (bool false, rest)
    | '"' :: rest => do
      let (text, rest) ← readQuoted? (rest.length + 1) [] rest
      pure (string text, rest)
    | '[' :: rest =>
      match skipSpacing rest with
      | ']' :: rest => some (array [], rest)
      | rest => do
        let (items, rest) ← readItems? fuel [] rest
        pure (array items, rest)
    | '\x7b' :: rest =>
      match skipSpacing rest with
      | '\x7d' :: rest => some (object [], rest)
      | rest => do
        let (members, rest) ← readMembers? fuel Dictionary.empty rest
        pure (ofDictionary members, rest)
    | rest => do
      let value ← readNumber? (rest.takeWhile isNumberPart)
      pure (value, rest.dropWhile isNumberPart)

/-- The items of an array from its first on, the ones already read last first. -/
private def readItems? (fuel : Nat) (sofar : List Value) (input : List Char) :
    Option (List Value × List Char) :=
  match fuel with
  | 0 => none
  | fuel + 1 => do
    let (item, rest) ← readValue? fuel input
    match skipSpacing rest with
    | ',' :: rest => readItems? fuel (item :: sofar) rest
    | ']' :: rest => pure ((item :: sofar).reverse, rest)
    | _ => none

private def readMembers? (fuel : Nat) (sofar : Dictionary Value) (input : List Char) :
    Option (Dictionary Value × List Char) :=
  match fuel with
  | 0 => none
  | fuel + 1 =>
    match skipSpacing input with
    | '"' :: rest => do
      let (key, rest) ← readQuoted? (rest.length + 1) [] rest
      match skipSpacing rest with
      | ':' :: rest => do
        let (value, rest) ← readValue? fuel rest
        match skipSpacing rest with
        | ',' :: rest => readMembers? fuel (sofar.insert key value) rest
        | '\x7d' :: rest => pure (sofar.insert key value, rest)
        | _ => none
      | _ => none
    | _ => none

end

/-- Reads the text form of a value. Each step consumes a character, so twice the length of the text
is fuel enough. -/
def json? (text : String) : Option Value := do
  let input := text.toList
  let (value, rest) ← readValue? (2 * input.length + 2) input
  if (skipSpacing rest).isEmpty then pure value else none

end Value

end Stencil
