import ApiGraph.Backend.Source

namespace ApiGraph.Backend.Support.Authentication

def authScheme : Source.Declaration where
  exported := true
  keyword := "type"
  name := "AuthScheme"
  rest := " = 'jwt' | 'apiKey' | 'basic';"

def tokenLocation : Source.Declaration where
  exported := true
  keyword := "type"
  name := "TokenLocation"
  rest := " = 'header' | 'cookie' | 'query';"

def authUser : Source.Declaration where
  exported := true
  keyword := "interface"
  name := "AuthUser"
  rest := " \x7b"
  more := [
    "  id: string;",
    "  roles: string[];",
    "  claims?: Record<string, unknown>;",
    "\x7d"]

def authOptions : Source.Declaration where
  exported := true
  keyword := "interface"
  name := "AuthOptions"
  rest := " \x7b"
  more := [
    "  tokenLocation?: TokenLocation;",
    "  headerName?: string;",
    "\x7d"]

def unauthorized : Source.Declaration where
  keyword := "function"
  name := "unauthorized"
  rest := "(res: Response, message: string) \x7b"
  more := [
    "  res.status(401).json(\x7b error: 'Unauthorized', message \x7d);",
    "\x7d"]

def readCookie : Source.Declaration where
  keyword := "function"
  name := "readCookie"
  rest := "(req: Request, name: string): string | undefined \x7b"
  more := [
    "  const header = req.headers.cookie;",
    "  if (!header) return undefined;",
    "  for (const part of header.split(';')) \x7b",
    "    const [key, ...rest] = part.trim().split('=');",
    "    if (key === name) return decodeURIComponent(rest.join('='));",
    "  \x7d",
    "  return undefined;",
    "\x7d"]

def readCredential : Source.Declaration where
  keyword := "function"
  name := "readCredential"
  rest := "(req: Request, options: AuthOptions, fallbackHeader: string): string | undefined \x7b"
  more := [
    "  const location = options.tokenLocation ?? 'header';",
    "  const name = options.headerName ?? fallbackHeader;",
    "",
    "  if (location === 'query') \x7b",
    "    const value = req.query[name] ?? req.query.token;",
    "    return typeof value === 'string' ? value : undefined;",
    "  \x7d",
    "  if (location === 'cookie') \x7b",
    "    return readCookie(req, name) ?? readCookie(req, 'token');",
    "  \x7d",
    "",
    "  const value = req.header(name);",
    "  if (!value) return undefined;",
    "  return value.replace(/^(Bearer|Basic)\\s+/i, '');",
    "\x7d"]

def parseRoles : Source.Declaration where
  keyword := "function"
  name := "parseRoles"
  rest := "(raw: string | undefined): string[] \x7b"
  more := [
    "  return raw ? raw.split('|').map((r) => r.trim()).filter(Boolean) : [];",
    "\x7d"]

def verifyJwt : Source.Declaration where
  keyword := "function"
  name := "verifyJwt"
  rest := "(token: string): AuthUser | null \x7b"
  more := [
    "  const secret = process.env.JWT_SECRET;",
    "  if (!secret) throw new Error('JWT_SECRET is not set');",
    "  try \x7b",
    "    const payload = jwt.verify(token, secret);",
    "    if (typeof payload === 'string') return \x7b id: payload, roles: [] \x7d;",
    "    const claimRoles = payload.roles ?? (payload.role ? [payload.role] : []);",
    "    return \x7b",
    "      id: String(payload.sub ?? payload.id ?? ''),",
    "      roles: Array.isArray(claimRoles) ? claimRoles.map(String) : [String(claimRoles)],",
    "      claims: payload as Record<string, unknown>,",
    "    \x7d;",
    "  \x7d catch \x7b",
    "    return null;",
    "  \x7d",
    "\x7d"]

def verifyApiKey : Source.Declaration where
  keyword := "function"
  name := "verifyApiKey"
  rest := "(key: string): AuthUser | null \x7b"
  more := [
    "  const entries = (process.env.API_KEYS ?? '').split(',').map((e) => e.trim()).filter(Boolean);",
    "  for (const entry of entries) \x7b",
    "    const [value, roles] = entry.split(':');",
    "    if (value === key) return \x7b id: `apikey:$\x7bvalue.slice(0, 6)\x7d`, roles: parseRoles(roles) \x7d;",
    "  \x7d",
    "  return null;",
    "\x7d"]

/-- The caller that a user and a password name. -/
def verifyBasic : Source.Declaration where
  keyword := "function"
  name := "verifyBasic"
  rest := "(encoded: string): AuthUser | null \x7b"
  more := [
    "  const decoded = Buffer.from(encoded, 'base64').toString('utf8');",
    "  const separator = decoded.indexOf(':');",
    "  if (separator < 0) return null;",
    "  const user = decoded.slice(0, separator);",
    "  const password = decoded.slice(separator + 1);",
    "",
    "  const entries = (process.env.BASIC_AUTH_USERS ?? '').split(',').map((e) => e.trim()).filter(Boolean);",
    "  for (const entry of entries) \x7b",
    "    const [name, secret, roles] = entry.split(':');",
    "    if (name === user && secret === password) return \x7b id: user, roles: parseRoles(roles) \x7d;",
    "  \x7d",
    "  return null;",
    "\x7d"]

def authenticate : Source.Declaration where
  exported := true
  keyword := "function"
  name := "authenticate"
  rest := "(scheme: AuthScheme, options: AuthOptions = \x7b\x7d): RequestHandler \x7b"
  more := [
    "  const fallbackHeader = scheme === 'apiKey' ? 'x-api-key' : 'authorization';",
    "",
    "  return (req: Request, res: Response, next: NextFunction) => \x7b",
    "    const credential = readCredential(req, options, fallbackHeader);",
    "    if (!credential) return unauthorized(res, 'Missing credentials');",
    "",
    "    let user: AuthUser | null;",
    "    try \x7b",
    "      user =",
    "        scheme === 'jwt' ? verifyJwt(credential)",
    "        : scheme === 'apiKey' ? verifyApiKey(credential)",
    "        : verifyBasic(credential);",
    "    \x7d catch (err) \x7b",
    "      return next(err);",
    "    \x7d",
    "",
    "    if (!user) return unauthorized(res, 'Invalid credentials');",
    "    req.user = user;",
    "    next();",
    "  \x7d;",
    "\x7d"]

def requireRoles : Source.Declaration where
  exported := true
  keyword := "function"
  name := "requireRoles"
  rest := "(roles: string[]): RequestHandler \x7b"
  more := [
    "  return (req: Request, res: Response, next: NextFunction) => \x7b",
    "    if (roles.length === 0) return next();",
    "    const granted = req.user?.roles ?? [];",
    "    if (!roles.some((role) => granted.includes(role))) \x7b",
    "      res.status(403).json(\x7b error: 'Forbidden', message: `Requires one of: $\x7broles.join(', ')\x7d` \x7d);",
    "      return;",
    "    \x7d",
    "    next();",
    "  \x7d;",
    "\x7d"]

def toModule : Source.Module where
  comment := [
    "/**",
    " * Authentication and role checks for Express routes.",
    " *",
    " * Credentials:",
    " *   jwt     - bearer token signed with JWT_SECRET; roles from the `roles` or `role` claim",
    " *   apiKey  - key listed in API_KEYS (comma separated, optional `key:role1|role2`)",
    " *   basic   - user listed in BASIC_AUTH_USERS (comma separated `user:password[:role1|role2]`)",
    " */"]
  imports := [
    Source.types ["Request", "Response", "NextFunction", "RequestHandler"] "express",
    Source.defaultOf "jwt" "jsonwebtoken"]
  items := [
    .gap,
    .declare authScheme,
    .declare tokenLocation,
    .gap,
    .declare authUser,
    .gap,
    .declare authOptions,
    .gap,
    .code [
      "declare global \x7b",
      "  // eslint-disable-next-line @typescript-eslint/no-namespace",
      "  namespace Express \x7b",
      "    interface Request \x7b",
      "      user?: AuthUser;",
      "    \x7d",
      "  \x7d",
      "\x7d"],
    .gap,
    .declare unauthorized,
    .gap,
    .declare readCookie,
    .gap,
    .declare readCredential,
    .gap,
    .declare parseRoles,
    .gap,
    .declare verifyJwt,
    .gap,
    .declare verifyApiKey,
    .gap,
    .declare verifyBasic,
    .gap,
    .declare authenticate,
    .gap,
    .code ["/** Allows the request when the user holds at least one of `roles`. An empty list allows everyone. */"],
    .declare requireRoles]

end ApiGraph.Backend.Support.Authentication
