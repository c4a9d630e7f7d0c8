/-
# TypedContract.Parameter.Kind -- where a parameter goes
-/

namespace TypedContract

set_option autoImplicit false

/-- The part of a request that carries a parameter; `other` parameters are no part
of the contract. -/
inductive ParameterKind where
  | path
  | query
  | header
  | payload
  | other
  deriving DecidableEq, Inhabited

namespace ParameterKind

/-- The word for a kind. -/
def word : ParameterKind → String
  | .path => "path"
  | .query => "query"
  | .header => "header"
  | .payload => "payload"
  | .other => "other"

/-- The kind of a location named in the contract. -/
def ofLocation : String → ParameterKind
  | "path" => .path
  | "query" => .query
  | "header" => .header
  | _ => .other

end ParameterKind

end TypedContract
