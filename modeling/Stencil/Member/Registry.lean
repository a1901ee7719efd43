import Stencil.Strategy.Basic

/-!
# Registered members

Members are properties and methods that belong to named types. Configuration names a member by its
type, its own name and, for a method, the kinds of its parameters; only public static members whose
whole signature agrees become strategies.
-/

set_option autoImplicit false

namespace Stencil

inductive Visibility where
  | publicly
  | internally
deriving DecidableEq, Repr

inductive MemberShape where
  | property
  | method (parameters : List ParameterKind)
deriving DecidableEq, Repr

def MemberShape.name : MemberShape → String
  | property => "property"
  | method _ => "method"

structure Member (σ : Type) where
  shape : MemberShape
  visibility : Visibility
  isStatic : Bool
  /-- Gives the value for converted arguments; a property is given none. -/
  compute : List Value → Attempt σ Cause Value

namespace Member

variable {σ : Type}

def property (compute : Attempt σ Cause Value) : Member σ :=
  ⟨.property, .publicly, true, fun _ => compute⟩

def method (parameters : List ParameterKind) (compute : List Value → Attempt σ Cause Value) :
    Member σ :=
  ⟨.method parameters, .publicly, true, compute⟩

def parameters (member : Member σ) : List ParameterKind :=
  match member.shape with
  | .property => []
  | .method parameters => parameters

end Member

def ParameterKind.label : ParameterKind → String
  | string => "String"
  | integer => "Integer"
  | float => "Float"
  | bool => "Bool"

def Visibility.label : Visibility → String
  | publicly => "Public"
  | internally => "Internal"

def Member.description {σ : Type} (member : Member σ) : String :=
  "Member \x7b kind: " ++ Text.quoted member.shape.name ++
    ", params: [" ++ ", ".intercalate (member.parameters.map ParameterKind.label) ++
    "], visibility: " ++ member.visibility.label ++
    ", is_static: " ++ (if member.isStatic then "true" else "false") ++ " \x7d"

inductive ResolutionError where
  | unknownType (type : String)
  | unknownMember (type member : String)
  | notPublic (type member : String)
  | notStatic (type member : String)
  | kindMismatch (type member expected actual : String)
  | parameterCount (type member : String) (expected actual : Nat)
  | parameterType (type member : String) (index : Nat) (expected actual : ParameterKind)
deriving DecidableEq, Repr

def ResolutionError.message : ResolutionError → String
  | unknownType type => "type '" ++ type ++ "' is not registered"
  | unknownMember type member => "type '" ++ type ++ "' has no member '" ++ member ++ "'"
  | notPublic type member => "member '" ++ type ++ "." ++ member ++ "' is not public"
  | notStatic type member => "member '" ++ type ++ "." ++ member ++ "' is not static"
  | kindMismatch type member expected actual =>
    "member '" ++ type ++ "." ++ member ++ "' is a " ++ actual ++ ", expected a " ++ expected
  | parameterCount type member expected actual =>
    "method '" ++ type ++ "." ++ member ++ "' takes " ++ toString expected ++
      " parameter(s), " ++ toString actual ++ " given"
  | parameterType type member index expected actual =>
    "method '" ++ type ++ "." ++ member ++ "' parameter " ++ toString index ++ " is " ++
      expected.name ++ ", " ++ actual.name ++ " given"

structure Registry (σ : Type) where
  types : Dictionary (Dictionary (Member σ))

namespace Registry

variable {σ : Type}

def empty : Registry σ := ⟨.empty⟩

def register (registry : Registry σ) (type name : String) (member : Member σ) : Registry σ :=
  ⟨registry.types.insert type (((registry.types.get? type).getD .empty).insert name member)⟩

def typeNames (registry : Registry σ) : List String :=
  registry.types.keys

def lookup (registry : Registry σ) (type name : String) : Except ResolutionError (Member σ) :=
  match registry.types.get? type with
  | none => .error (.unknownType type)
  | some members =>
    match members.get? name with
    | none => .error (.unknownMember type name)
    | some member =>
      if member.visibility ≠ .publicly then .error (.notPublic type name)
      else if !member.isStatic then .error (.notStatic type name)
      else .ok member

/-- The public static property of a type and name. It ignores all arguments. -/
def resolveProperty (registry : Registry σ) (type name : String) :
    Except ResolutionError (Computed σ) :=
  match registry.lookup type name with
  | .error error => .error error
  | .ok member =>
    match member.shape with
    | .method _ => .error (.kindMismatch type name "property" member.shape.name)
    | .property => .ok ⟨type ++ "." ++ name, fun _ => member.compute []⟩

def firstDifference? (index : Nat) :
    List ParameterKind → List ParameterKind → Option (Nat × ParameterKind × ParameterKind)
  | expected :: declared, actual :: given =>
    if expected = actual then firstDifference? (index + 1) declared given
    else some (index, expected, actual)
  | _, _ => none

def convertAll : List ParameterKind → List String → Except ConversionFault (List Value)
  | kind :: kinds, argument :: arguments =>
    match kind.convert argument with
    | .error fault => .error fault
    | .ok value => (convertAll kinds arguments).map (value :: ·)
  | _, _ => .ok []

/-- Runs a method on the arguments of a token, which count as an empty list when there are none.
The method is run only when their number agrees and all of them convert. -/
def call (label : String) (parameters : List ParameterKind)
    (compute : List Value → Attempt σ Cause Value) (arguments : Arguments) :
    Attempt σ Cause Value := fun state =>
  let given := arguments.getD []
  if given.length ≠ parameters.length then
    (.error (.argumentCount label parameters.length given.length), state)
  else
    match convertAll parameters given with
    | .error fault => (.error (.conversion fault), state)
    | .ok values => compute values state

def resolveMethod (registry : Registry σ) (type name : String) (given : List ParameterKind) :
    Except ResolutionError (Computed σ) :=
  match registry.lookup type name with
  | .error error => .error error
  | .ok member =>
    match member.shape with
    | .property => .error (.kindMismatch type name "method" member.shape.name)
    | .method declared =>
      if declared.length ≠ given.length then
        .error (.parameterCount type name declared.length given.length)
      else
        match firstDifference? 0 declared given with
        | some (index, expected, actual) =>
          .error (.parameterType type name index expected actual)
        | none => .ok ⟨type ++ "." ++ name, call (type ++ "." ++ name) declared member.compute⟩

end Registry

end Stencil
