import ApiGraph.Backend.Connection
import ApiGraph.Route

namespace ApiGraph.Backend.Guide

/-- The schemes that routes check, in the order of their first use. -/
def schemesInUse (routes : List Route) : List AuthScheme :=
  firsts (routes.filterMap fun r => r.access.map (·.effectiveScheme))

def schemeVariables : AuthScheme → List String
  | .none => []
  | .jwt => ["JWT_SECRET=change-me"]
  | .apiKey => ["# Comma separated, optionally key:role1|role2", "API_KEYS="]
  | .basic => ["# Comma separated user:password[:role1|role2]", "BASIC_AUTH_USERS="]

def environment (p : Project) (routes : List Route) : List String :=
  [s!"PORT={p.settings.port}",
   Connection.variableName p.settings.engine ++ "=" ++ Connection.fallback p] ++
    (schemesInUse routes).flatMap schemeVariables

def callers (r : Route) : String :=
  match r.access with
  | none => "-"
  | some a => if a.roles.isEmpty then "required" else ", ".intercalate a.roles

def row (r : Route) : String :=
  let summary := Text.substitute '\n' " " (Text.substitute '|' "\\|" r.summary)
  "| " ++ r.method.name ++ " | `" ++ r.path ++ "` | " ++ summary ++ " | " ++ callers r ++ " |"

def routeTable (routes : List Route) : List String :=
  if routes.isEmpty then ["No endpoints yet."]
  else
    ["| Method | Path | Summary | Auth |", "|--------|------|---------|------|"] ++ routes.map row

def commands (lines : List String) : List String := ["```bash"] ++ lines ++ ["```", ""]

def page (p : Project) (routes : List Route) : List String :=
  let title := Text.trim p.name
  let description := Text.trim p.description
  ["# " ++ (if title = "" then "Untitled Project" else title), ""] ++
    (if description = "" then [] else [description, ""]) ++
    ["Express API generated by Routify (" ++ p.settings.engine.name ++ " storage).", "",
     "## Getting started", ""] ++
    commands ["npm install", "cp .env.example .env", "npm run dev"] ++
    (if p.settings.target = .nodejs then
      ["Production build:", ""] ++ commands ["npm run build", "npm start"]
    else []) ++
    [s!"The server listens on port {p.settings.port} unless `PORT` is set."] ++
    (if p.settings.docs then
      ["Interactive documentation is served at `/docs`, the raw document at `/openapi.json`."]
    else []) ++
    ["", "## Endpoints", ""] ++ routeTable routes ++
    ["", "## Structure", "",
     "- `src/index.ts` - Server entry point",
     "- `src/routes/` - Express routers",
     "- `src/repositories/` - Data access per model",
     "- `src/middleware/` - Auth, validation and error handling",
     "- `openapi.json` - API description"]

end ApiGraph.Backend.Guide
