import ApiGraph.Backend.Source

namespace ApiGraph.Backend.Support.Validation

def fieldSpec : Source.Declaration where
  exported := true
  keyword := "interface"
  name := "FieldSpec"
  rest := " \x7b"
  more := [
    "  name: string;",
    "  type: 'string' | 'number' | 'boolean' | 'object' | 'array';",
    "  required?: boolean;",
    "  enum?: string[];",
    "  minLength?: number;",
    "  maxLength?: number;",
    "  minimum?: number;",
    "  maximum?: number;",
    "  pattern?: string;",
    "  children?: FieldSpec[];",
    "\x7d"]

def typeOf : Source.Declaration where
  keyword := "function"
  name := "typeOf"
  rest := "(value: unknown): string \x7b"
  more := [
    "  if (Array.isArray(value)) return 'array';",
    "  if (value === null) return 'null';",
    "  return typeof value;",
    "\x7d"]

def checkField : Source.Declaration where
  keyword := "function"
  name := "checkField"
  rest := "(field: FieldSpec, value: unknown, path: string, errors: string[]) \x7b"
  more := [
    "  if (value === undefined || value === null) \x7b",
    "    if (field.required) errors.push(`$\x7bpath\x7d is required`);",
    "    return;",
    "  \x7d",
    "",
    "  const actual = typeOf(value);",
    "  if (actual !== field.type) \x7b",
    "    errors.push(`$\x7bpath\x7d must be of type $\x7bfield.type\x7d, got $\x7bactual\x7d`);",
    "    return;",
    "  \x7d",
    "",
    "  if (field.enum && field.enum.length > 0 && !field.enum.includes(String(value))) \x7b",
    "    errors.push(`$\x7bpath\x7d must be one of: $\x7bfield.enum.join(', ')\x7d`);",
    "  \x7d",
    "",
    "  if (typeof value === 'string') \x7b",
    "    if (field.minLength !== undefined && value.length < field.minLength) \x7b",
    "      errors.push(`$\x7bpath\x7d must be at least $\x7bfield.minLength\x7d characters`);",
    "    \x7d",
    "    if (field.maxLength !== undefined && value.length > field.maxLength) \x7b",
    "      errors.push(`$\x7bpath\x7d must be at most $\x7bfield.maxLength\x7d characters`);",
    "    \x7d",
    "    if (field.pattern && !new RegExp(field.pattern).test(value)) \x7b",
    "      errors.push(`$\x7bpath\x7d does not match $\x7bfield.pattern\x7d`);",
    "    \x7d",
    "  \x7d",
    "",
    "  if (typeof value === 'number') \x7b",
    "    if (field.minimum !== undefined && value < field.minimum) \x7b",
    "      errors.push(`$\x7bpath\x7d must be >= $\x7bfield.minimum\x7d`);",
    "    \x7d",
    "    if (field.maximum !== undefined && value > field.maximum) \x7b",
    "      errors.push(`$\x7bpath\x7d must be <= $\x7bfield.maximum\x7d`);",
    "    \x7d",
    "  \x7d",
    "",
    "  const children = field.children ?? [];",
    "  if (children.length === 0) return;",
    "",
    "  if (field.type === 'object') \x7b",
    "    checkObject(children, value as Record<string, unknown>, path, errors);",
    "  \x7d else if (field.type === 'array') \x7b",
    "    (value as unknown[]).forEach((item, i) => \x7b",
    "      const itemPath = `$\x7bpath\x7d[$\x7bi\x7d]`;",
    "      if (typeOf(item) !== 'object') \x7b",
    "        errors.push(`$\x7bitemPath\x7d must be an object`);",
    "        return;",
    "      \x7d",
    "      checkObject(children, item as Record<string, unknown>, itemPath, errors);",
    "    \x7d);",
    "  \x7d",
    "\x7d"]

def checkObject : Source.Declaration where
  keyword := "function"
  name := "checkObject"
  rest := "(fields: FieldSpec[], value: Record<string, unknown>, prefix: string, errors: string[]) \x7b"
  more := [
    "  for (const field of fields) \x7b",
    "    const path = prefix ? `$\x7bprefix\x7d.$\x7bfield.name\x7d` : field.name;",
    "    checkField(field, value[field.name], path, errors);",
    "  \x7d",
    "\x7d"]

def validate : Source.Declaration where
  exported := true
  keyword := "function"
  name := "validate"
  rest := "(fields: FieldSpec[], body: unknown): string[] \x7b"
  more := [
    "  const errors: string[] = [];",
    "  if (typeOf(body) !== 'object') \x7b",
    "    return ['Request body must be a JSON object'];",
    "  \x7d",
    "  checkObject(fields, body as Record<string, unknown>, '', errors);",
    "  return errors;",
    "\x7d"]

def validateBody : Source.Declaration where
  exported := true
  keyword := "function"
  name := "validateBody"
  rest := "(fields: FieldSpec[]): RequestHandler \x7b"
  more := [
    "  return (req: Request, res: Response, next: NextFunction) => \x7b",
    "    const errors = validate(fields, req.body ?? \x7b\x7d);",
    "    if (errors.length > 0) \x7b",
    "      res.status(400).json(\x7b error: 'Bad Request', details: errors \x7d);",
    "      return;",
    "    \x7d",
    "    next();",
    "  \x7d;",
    "\x7d"]

def toModule : Source.Module where
  comment := [
    "/**",
    " * Request body validation against a field tree.",
    " */"]
  imports := [
    Source.types ["Request", "Response", "NextFunction", "RequestHandler"] "express"]
  items := [
    .gap,
    .declare fieldSpec,
    .gap,
    .declare typeOf,
    .gap,
    .declare checkField,
    .gap,
    .declare checkObject,
    .gap,
    .code ["/** Returns the list of problems with `body`; empty when valid. */"],
    .declare validate,
    .gap,
    .declare validateBody]

end ApiGraph.Backend.Support.Validation
