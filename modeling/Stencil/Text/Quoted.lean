import Stencil.Text.Hidden

/-!
# Quoted names

Names in diagnostic text stand in double quotes, with escapes for whatever would not be seen. Raw
bytes are quoted in the same way: what is UTF-8 as characters, every other byte by its two digits.
-/

set_option autoImplicit false

namespace Stencil.Text

private def escapeCode (character : Char) : List Char :=
  ['\\', 'u', '\x7b'] ++ Nat.toDigits 16 character.toNat ++ ['\x7d']

/-- A character inside quotes. Whether a single quote is escaped depends on what is quoted. -/
def escapeQuoted (escapeSingle : Bool) (character : Char) : List Char :=
  match character with
  | '\x00' => ['\\', '0']
  | '\t' => ['\\', 't']
  | '\r' => ['\\', 'r']
  | '\n' => ['\\', 'n']
  | '\\' => ['\\', '\\']
  | '"' => ['\\', '"']
  | '\'' => if escapeSingle then ['\\', '\''] else ['\'']
  | other => if isHidden other then escapeCode other else [other]

def quoted (text : String) : String :=
  "\"" ++ String.ofList (text.toList.flatMap (escapeQuoted false)) ++ "\""

private def escapeByte (byte : UInt8) : List Char :=
  ['\\', 'x', (Nat.digitChar (byte.toNat / 16)).toUpper, (Nat.digitChar (byte.toNat % 16)).toUpper]

private def escapeBytes (bytes : ByteArray) (index : Nat) : List Char :=
  if inside : index < bytes.size then
    match bytes.utf8DecodeChar? index with
    | some character =>
      escapeQuoted true character ++ escapeBytes bytes (index + character.utf8Size)
    | none => escapeByte bytes[index] ++ escapeBytes bytes (index + 1)
  else
    []
termination_by bytes.size - index
decreasing_by
  · have positive := Char.utf8Size_pos character
    omega
  · omega

def quotedBytes (bytes : ByteArray) : String :=
  "\"" ++ String.ofList (escapeBytes bytes 0) ++ "\""

end Stencil.Text
