import Muster.Time.Duration

/-! # Errors of the cluster

Every way in which a cluster operation fails, the text it is reported with and the HTTP status that answers
it. A command to all nodes fails as a whole with one `NodeFailure` for each node that failed. -/

namespace Muster

/-- One node's share in the failure of a command to all nodes. -/
structure NodeFailure where
  node : String
  action : String
  error : String
  deriving DecidableEq, Repr

/-- The text of one node's failure. -/
def NodeFailure.text (f : NodeFailure) : String :=
  "failed to " ++ f.action ++ " on node " ++ f.node ++ ": " ++ f.error

/-- Why a cluster operation failed. -/
inductive ClusterError
  /-- The secret is missing or wrong. -/
  | unauthorized
  /-- The node's last check failed, or it runs another version than the cluster. -/
  | notReady
  | nodeNotFound (name : String)
  | missingArgument (name : String)
  | missingParameter (name : String)
  | invalidParameter (name : String)
  | unsupportedStorageType (kind : String)
  | timeout (limit : Duration)
  /-- The worker reported an error, or it was not reached. -/
  | worker (text : String)
  | broadcast (failures : List NodeFailure)
  deriving DecidableEq, Repr

/-- The text of an error with its contexts: the outermost first, joined by `": "`. -/
def chainText (outermostFirst : List String) : String :=
  ": ".intercalate outermostFirst

namespace ClusterError

/-- The error of a worker whose error has the given causes, innermost first. -/
def ofChain (innermostFirst : List String) : ClusterError :=
  .worker (chainText innermostFirst.reverse)

/-- The text of an error. -/
def text : ClusterError → String
  | .unauthorized => "Unauthorized"
  | .notReady => "node is not ready"
  | .nodeNotFound name => "node not found: " ++ name
  | .missingArgument name => name ++ " is required"
  | .missingParameter name => "missing parameter: " ++ name
  | .invalidParameter name => "invalid parameter: " ++ name
  | .unsupportedStorageType kind => "unsupported storage type: " ++ kind
  | .timeout limit => "request timed out after " ++ limit.text
  | .worker text => text
  | .broadcast failures => ";\n".intercalate (failures.map NodeFailure.text)

/-- The HTTP status that answers with an error. -/
def status : ClusterError → Nat
  | .unauthorized => 403
  | .nodeNotFound _ => 404
  | .missingArgument _ | .missingParameter _ | .invalidParameter _ | .unsupportedStorageType _ => 400
  | .notReady => 503
  | .timeout _ => 504
  | .worker _ | .broadcast _ => 500

end ClusterError

end Muster
