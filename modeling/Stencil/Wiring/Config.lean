import Stencil.Dictionary
import Stencil.Member.Parameter
import Stencil.Value.Basic

/-!
# Token configurations

A configuration names each token and says where its value comes from.
-/

set_option autoImplicit false

namespace Stencil

inductive TokenSource where
  | fixed (value : Value)
  /-- The text of a setting when the configuration is wired. -/
  | setting (key : String)
  /-- The text of a variable when the token is expanded, or a default. -/
  | environment (name : String) (default? : Option String)
  /-- A stored value when the token is expanded. -/
  | context (key : String)
  | property (type member : String)
  | method (type member : String) (parameters : List ParameterKind)
deriving Repr

structure TokenConfig where
  strict : Bool
  caseSensitive : Bool
  wildcardSettings : Bool
  tokens : Dictionary TokenSource

namespace TokenConfig

/-- The configuration that an empty document stands for. -/
def default : TokenConfig := ⟨false, true, false, .empty⟩

end TokenConfig

/-! ### Writing -/

namespace TokenSource

def kind : TokenSource → String
  | fixed _ => "static"
  | setting _ => "setting"
  | environment .. => "env"
  | context _ => "context"
  | property .. => "property"
  | method .. => "method"

def toValue (source : TokenSource) : Value :=
  let fields : List (String × Value) :=
    match source with
    | fixed value => [("value", value)]
    | setting key => [("key", .string key)]
    | environment name default? =>
      [("var", .string name), ("default", (default?.map Value.string).getD .null)]
    | context key => [("key", .string key)]
    | property type member => [("type", .string type), ("member", .string member)]
    | method type member parameters =>
      [("type", .string type), ("member", .string member),
       ("params", .array (parameters.map fun kind => .string kind.name))]
  .ofDictionary (.ofList (("kind", .string source.kind) :: fields))

end TokenSource

def TokenConfig.toValue (config : TokenConfig) : Value :=
  .ofDictionary (.ofList
    [("strict", .bool config.strict),
     ("case_sensitive", .bool config.caseSensitive),
     ("wildcard_settings", .bool config.wildcardSettings),
     ("tokens", .object (config.tokens.entries.map fun entry => (entry.1, entry.2.toValue)))])

end Stencil
