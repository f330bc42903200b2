import BeanContainer.Discovery.Host
import BeanContainer.Json.Encodable
/-!
# Errors of a deployment

A call on a builder fails for its argument (`ArgumentError`) or because the builder has been used up
(`SpentError`). Validation collects every `Problem` of a deployment and reports them together.
-/

namespace BeanContainer

/-- Why a call cannot accept its argument. -/
inductive ArgumentError where
  | emptyClassName
  | emptyPropertyKey
  /-- The value of a property has no JSON form. -/
  | unencodable (key : String) (reason : EncodeError)
  deriving DecidableEq, Repr

/-- What is wrong with an argument, in words. -/
def ArgumentError.reason : ArgumentError → String
  | .emptyClassName => "Class name must not be empty"
  | .emptyPropertyKey => "Property key must not be empty"
  | .unencodable key reason =>
    "Cannot serialize property " ++ Text.quote key ++ ": " ++ reason.message

/-- How a builder has been used up. -/
inductive SpentError where
  | alreadyInitialized
  | failedEarlier
  deriving DecidableEq, Repr

/-- What has become of a builder, in words. -/
def SpentError.reason : SpentError → String
  | .alreadyInitialized => "Container builder is already initialized"
  | .failedEarlier => "Container builder failed to initialize"

/-- A fault of a deployment. -/
inductive Problem where
  | duplicateContainerId (id : String)
  | loaderClosed (loader : Loader)
  | scanFailed (loader : Loader) (scan : Scan) (reason : String)
  | missingMarker (role : Role) (enabled : ClassRef)
  | emptyMemberName (target : ClassRef)
  | ambiguousBeanName (name : String)
  deriving DecidableEq

/-- A role with its article. -/
def Role.withArticle (r : Role) : String :=
  (match r with
    | .interceptor | .alternative => "an "
    | .decorator | .stereotype => "a ") ++ r.name

def Problem.message : Problem → String
  | .duplicateContainerId id => "Container id " ++ Text.quote id ++ " is already in use"
  | .loaderClosed loader => "Class loader " ++ Text.quote loader.name ++ " is closed"
  | .scanFailed loader scan reason => "Cannot scan " ++ scan.describe loader ++ ": " ++ reason
  | .missingMarker role enabled => enabled.name ++ " is not " ++ role.withArticle
  | .emptyMemberName target =>
    "Annotated type " ++ target.name ++ " edits a member with an empty name"
  | .ambiguousBeanName name =>
    "Bean name " ++ Text.quote name ++ " is used by several synthetic beans"

/-- Why a call on a builder fails. -/
inductive BootstrapError where
  | illegalArgument (e : ArgumentError)
  | illegalState (e : SpentError)
  | managedHost
  | definition (problems : List Problem)
  deriving DecidableEq

def BootstrapError.message : BootstrapError → String
  | .illegalArgument e => "Illegal argument: " ++ e.reason
  | .illegalState e => "Illegal state: " ++ e.reason
  | .managedHost =>
    "Unsupported operation: Cannot initialize a container inside a managed environment"
  | .definition problems =>
    "Definition error (" ++ toString problems.length ++ " problems)" ++
      String.join (problems.map fun p => "\n  - " ++ p.message)

end BeanContainer
