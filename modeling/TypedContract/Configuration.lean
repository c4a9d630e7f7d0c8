/-
# TypedContract.Configuration -- options of a mapping

The defaults can be changed by three environment variables.  An empty client name
or log level counts as missing.
-/
import TypedContract.Text.Ranges
import TypedContract.Text.Case

namespace TypedContract

set_option autoImplicit false

/-- The options of a mapping. -/
structure Configuration where
  treatNilableAsOptional : Bool := false
  clientName : String := "Client"
  logLevel : String := "WARNING"
  deriving Inhabited

namespace Configuration

/-- The words that switch an option on. -/
def switchedOn : List String := ["1", "true", "yes", "on"]

/-- A word of the environment that switches an option on. -/
def isOn (value : String) : Bool :=
  switchedOn.contains (String.ofList (Text.lower (Text.trimBlank value).toList))

/-- A value of the environment that is not empty. -/
def nonempty? (environment : List (String × String)) (name : String) : Option String :=
  (environment.lookup name).filter (· != "")

/-- The options with the changes of an environment. -/
def ofEnvironment (environment : List (String × String)) : Configuration where
  treatNilableAsOptional :=
    ((environment.lookup "OASBRIDGE_NILABLE_OPTIONAL").map isOn).getD false
  clientName := (nonempty? environment "OASBRIDGE_CLIENT_NAME").getD "Client"
  logLevel :=
    ((nonempty? environment "OASBRIDGE_LOG_LEVEL").map fun level =>
      String.ofList (Text.upper level.toList)).getD "WARNING"

end Configuration

end TypedContract
