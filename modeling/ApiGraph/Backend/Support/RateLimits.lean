import ApiGraph.Backend.Source

namespace ApiGraph.Backend.Support.RateLimits

def rateLimitOptions : Source.Declaration where
  exported := true
  keyword := "interface"
  name := "RateLimitOptions"
  rest := " \x7b"
  more := [
    "  requests: number;",
    "  windowMs: number;",
    "\x7d"]

def callWindow : Source.Declaration where
  keyword := "interface"
  name := "Window"
  rest := " \x7b"
  more := [
    "  count: number;",
    "  resetAt: number;",
    "\x7d"]

def rateLimit : Source.Declaration where
  exported := true
  keyword := "function"
  name := "rateLimit"
  rest := "(\x7b requests, windowMs \x7d: RateLimitOptions): RequestHandler \x7b"
  more := [
    "  const windows = new Map<string, Window>();",
    "",
    "  return (req: Request, res: Response, next: NextFunction) => \x7b",
    "    const now = Date.now();",
    "    const key = req.ip ?? 'unknown';",
    "",
    "    let window = windows.get(key);",
    "    if (!window || window.resetAt <= now) \x7b",
    "      window = \x7b count: 0, resetAt: now + windowMs \x7d;",
    "      windows.set(key, window);",
    "    \x7d",
    "    window.count += 1;",
    "",
    "    res.setHeader('X-RateLimit-Limit', String(requests));",
    "    res.setHeader('X-RateLimit-Remaining', String(Math.max(0, requests - window.count)));",
    "",
    "    if (window.count > requests) \x7b",
    "      res.setHeader('Retry-After', String(Math.ceil((window.resetAt - now) / 1000)));",
    "      res.status(429).json(\x7b error: 'Too Many Requests' \x7d);",
    "      return;",
    "    \x7d",
    "    next();",
    "  \x7d;",
    "\x7d"]

def toModule : Source.Module where
  comment := [
    "/**",
    " * In-memory fixed-window rate limiting, keyed by client IP.",
    " *",
    " * Each limiter keeps its own window table. Counts are per process; put a",
    " * shared store in front when running more than one instance.",
    " */"]
  imports := [
    Source.types ["Request", "Response", "NextFunction", "RequestHandler"] "express"]
  items := [
    .gap,
    .declare rateLimitOptions,
    .gap,
    .declare callWindow,
    .gap,
    .declare rateLimit]

end ApiGraph.Backend.Support.RateLimits
