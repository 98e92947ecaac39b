import ApiGraph.Backend.Source

namespace ApiGraph.Backend.Support.Errors

def httpError : Source.Declaration where
  exported := true
  keyword := "class"
  name := "HttpError"
  rest := " extends Error \x7b"
  more := [
    "  constructor(public readonly status: number, message: string) \x7b",
    "    super(message);",
    "  \x7d",
    "\x7d"]

/-- The answer where no route matches. -/
def notFoundHandler : Source.Declaration where
  exported := true
  keyword := "function"
  name := "notFoundHandler"
  rest := "(req: Request, res: Response) \x7b"
  more := [
    "  res.status(404).json(\x7b error: 'Not Found', message: `No route for $\x7breq.method\x7d $\x7breq.path\x7d` \x7d);",
    "\x7d"]

def errorHandler : Source.Declaration where
  exported := true
  keyword := "function"
  name := "errorHandler"
  rest := "(err: unknown, req: Request, res: Response, next: NextFunction) \x7b"
  more := [
    "  if (err instanceof HttpError) \x7b",
    "    res.status(err.status).json(\x7b error: err.message \x7d);",
    "    return;",
    "  \x7d",
    "  if (err instanceof SyntaxError && 'body' in err) \x7b",
    "    res.status(400).json(\x7b error: 'Bad Request', message: 'Malformed JSON body' \x7d);",
    "    return;",
    "  \x7d",
    "  console.error(err);",
    "  res.status(500).json(\x7b error: 'Internal Server Error' \x7d);",
    "\x7d"]

def toModule : Source.Module where
  comment := [
    "/**",
    " * Fallback handlers registered after every route.",
    " */"]
  imports := [
    Source.types ["Request", "Response", "NextFunction"] "express"]
  items := [
    .gap,
    .declare httpError,
    .gap,
    .declare notFoundHandler,
    .gap,
    .code ["// Express recognises error handlers by arity, so `next` must stay in the signature."],
    .code ["// eslint-disable-next-line @typescript-eslint/no-unused-vars"],
    .declare errorHandler]

end ApiGraph.Backend.Support.Errors
