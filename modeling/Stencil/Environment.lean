import Stencil.Text.Quoted

/-!
# Environment variables

Names and values are bytes; a value is read as text only when it is UTF-8. The order of the
variables matters where several of them stand for one setting.
-/

set_option autoImplicit false

namespace Stencil

structure Environment where
  entries : List (ByteArray × ByteArray)

inductive VariableFault where
  | absent
  | notUnicode (value : ByteArray)

def VariableFault.message : VariableFault → String
  | absent => "environment variable not found"
  | notUnicode value => "environment variable was not valid unicode: " ++ Text.quotedBytes value

namespace Environment

def empty : Environment := ⟨[]⟩

def splitBytes (byte : UInt8) : List UInt8 → List (List UInt8)
  | [] => [[]]
  | first :: rest =>
    match splitBytes byte rest with
    | [] => [[first]]
    | part :: parts => if first = byte then [] :: part :: parts else (first :: part) :: parts

/-- The variable of an entry `NAME=value`. The name has at least one byte, so an equals sign at the
very start belongs to it. -/
def readEntry? : List UInt8 → Option (ByteArray × ByteArray)
  | [] => none
  | first :: rest =>
    match rest.dropWhile (· ≠ 61) with
    | [] => none
    | _ :: value =>
      some (⟨(first :: rest.takeWhile (· ≠ 61)).toArray⟩, ⟨value.toArray⟩)

def ofBlock (block : ByteArray) : Environment :=
  ⟨(splitBytes 0 block.toList).filterMap readEntry?⟩

def get? (environment : Environment) (name : String) : Option ByteArray :=
  (environment.entries.find? fun entry => entry.1.data = name.toUTF8.data).map Prod.snd

def read (environment : Environment) (name : String) : Except VariableFault String :=
  match environment.get? name with
  | none => .error .absent
  | some value =>
    match String.fromUTF8? value with
    | some text => .ok text
    | none => .error (.notUnicode value)

def text? (environment : Environment) (name : String) : Option String :=
  (environment.get? name).bind String.fromUTF8?

def exchange (name value : ByteArray) : List (ByteArray × ByteArray) → List (ByteArray × ByteArray)
  | [] => []
  | (candidate, old) :: rest =>
    if candidate.data = name.data then (candidate, value) :: rest
    else (candidate, old) :: exchange name value rest

/-- Sets a variable: in place when it is set already, else after all others. -/
def set (environment : Environment) (name : String) (value : ByteArray) : Environment :=
  if (environment.get? name).isSome then
    ⟨exchange name.toUTF8 value environment.entries⟩
  else
    ⟨environment.entries ++ [(name.toUTF8, value)]⟩

def unset (environment : Environment) (name : String) : Environment :=
  ⟨environment.entries.filter fun entry => entry.1.data ≠ name.toUTF8.data⟩

/-- All variables as texts in order, when every name and every value is UTF-8. -/
def texts? (environment : Environment) : Option (List (String × String)) :=
  environment.entries.mapM fun (name, value) => do
    let name ← String.fromUTF8? name
    let value ← String.fromUTF8? value
    pure (name, value)

end Environment

end Stencil
