import MediaSync.Foundation.Posix
import MediaSync.Foundation.Program
import MediaSync.Security.OperatorCalls

/-!
# The boundary in front of the application

A request is forwarded or answered on the spot. The decision reads the headers,
the routes and the files that are served to anybody, and asks the runtime one
call at a time, so that calls of other requests may come between.
-/

namespace MediaSync.Security

open Program Posix

abbrev Header := Octets × Octets

def stripped (text : List Char) : List Char := (Python.strip (String.ofList text)).toList

namespace OperatorOriginPolicy

end OperatorOriginPolicy

/-- `scope.get("state")`: without an entry a dictionary is put there. -/
inductive ScopeState where
  | absent | dict | other
  deriving DecidableEq, Repr

structure HttpScope where
  method : String
  path : Option String
  rawPath : Option Octets
  headers : List Header
  state : ScopeState

inductive OperatorAuthErrorCode where
  | authRequired | browserSessionRequired | csrfForbidden | hostForbidden | originForbidden
  deriving DecidableEq, Repr

namespace OperatorAuthErrorCode

def value : OperatorAuthErrorCode → String
  | authRequired => "operator_auth_required"
  | browserSessionRequired => "operator_browser_session_required"
  | csrfForbidden => "operator_csrf_forbidden"
  | hostForbidden => "operator_host_forbidden"
  | originForbidden => "operator_origin_forbidden"

end OperatorAuthErrorCode

inductive Response where
  | forwarded (method : Option AuthMethod)
  | rejected (detail : String) (status : Nat)
  | redirected (location : String)
  | closed (code : Nat) (reason : String)
  deriving DecidableEq, Repr

def reject (code : OperatorAuthErrorCode) (status : Nat) : Response := .rejected code.value status

/-- The decision, asking the runtime. -/
abbrev Asking := Prog AuthCall (fun _ => Except AuthError AuthAnswer) Empty

namespace OperatorAuthMiddleware

variable (m : OperatorAuthMiddleware)

/-- What is left of the decision for a request with an authority. -/
def attach (scope : HttpScope) (method : AuthMethod) : Asking Response :=
  if scope.state = .other then pure (reject .authRequired 401) else pure (.forwarded (some method))

end OperatorAuthMiddleware

end MediaSync.Security
