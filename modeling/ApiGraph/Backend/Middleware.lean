import ApiGraph.Backend.FieldSpec
import ApiGraph.Route

/-!
# Middleware

What a request passes before its handler, in one order: the rate limit, the credentials, the roles,
the parsing of the body and its validation.
-/

namespace ApiGraph.Backend

inductive Middleware where
  | rateLimit (requests windowMs : Nat)
  /-- Credentials of a scheme. A place or a header is stated only where it is not the usual one. -/
  | authenticate (scheme : AuthScheme) (location : Option TokenLocation) (header : Option String)
  | requireRoles (roles : List String)
  | parseJson
  | validateBody (specs : List FieldSpec)

namespace Middleware

def function : Middleware → String
  | rateLimit .. => "rateLimit"
  | authenticate .. => "authenticate"
  | requireRoles _ => "requireRoles"
  | parseJson => "json"
  | validateBody _ => "validateBody"

/-- The place of a credential, unless it is a header. -/
def statedLocation (a : Access) : Option TokenLocation := a.location.filter (· ≠ .header)

/-- The name of a credential, unless it is the usual one. -/
def statedHeader (a : Access) : Option String :=
  a.header.filter fun h => h ≠ "" && Text.asciiLower h ≠ "authorization"

def ofAccess (a : Access) : Middleware :=
  authenticate a.effectiveScheme (statedLocation a) (statedHeader a)

/-- The steps before the handler of a route. -/
def chain (r : Route) : List Middleware :=
  (r.rateLimit.map fun l => rateLimit l.requests l.windowMs).toList ++
    (match r.access with
      | none => []
      | some a => ofAccess a :: (if a.roles.isEmpty then [] else [requireRoles a.roles])) ++
    (if r.method.hasBody then [parseJson] else []) ++
    (if r.validatesBody then [validateBody (FieldSpec.ofFields r.body)] else [])

def authOptions (location : Option TokenLocation) (header : Option String) : List String :=
  (location.map fun l => "tokenLocation: " ++ Text.quote l.name).toList ++
    (header.map fun h => "headerName: " ++ Text.quote h).toList

def writeAuthenticate (scheme : AuthScheme) (options : List String) : String :=
  "authenticate(" ++ Text.quote scheme.name ++
    (if options.isEmpty then "" else ", " ++ inBraces options) ++ ")"

def lines : Middleware → List String
  | rateLimit requests windowMs =>
    ["rateLimit(" ++ inBraces [s!"requests: {requests}", s!"windowMs: {windowMs}"] ++ "),"]
  | authenticate scheme location header =>
    [writeAuthenticate scheme (authOptions location header) ++ ","]
  | requireRoles roles => ["requireRoles(" ++ inBrackets (roles.map Text.quote) ++ "),"]
  | parseJson => ["json(),"]
  | validateBody specs =>
    ["validateBody(["] ++ indent (specs.map fun s => s.write ++ ",") ++ ["]),"]

end Middleware

end ApiGraph.Backend
