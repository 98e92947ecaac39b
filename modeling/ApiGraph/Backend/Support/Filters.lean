import ApiGraph.Backend.Source

/-!
# Filters

How a repository applies the filters of a search to a request: as conditions of a query where the
store has tables, and as a document where it keeps documents.
-/

namespace ApiGraph.Backend.Support.Filters

def filterOperator : Source.Declaration where
  exported := true
  keyword := "type"
  name := "FilterOperator"
  rest := " = 'eq' | 'ne' | 'gt' | 'gte' | 'lt' | 'lte' | 'contains' | 'in';"

def filterSource : Source.Declaration where
  exported := true
  keyword := "type"
  name := "FilterSource"
  rest := " = 'static' | 'query' | 'body' | 'param';"

def filterSpec : Source.Declaration where
  exported := true
  keyword := "interface"
  name := "FilterSpec"
  rest := " \x7b"
  more := [
    "  field: string;",
    "  operator: FilterOperator;",
    "  value: string;",
    "  source: FilterSource;",
    "\x7d"]

def findManyOptions : Source.Declaration where
  exported := true
  keyword := "interface"
  name := "FindManyOptions"
  rest := " \x7b"
  more := [
    "  filters?: FilterSpec[];",
    "  select?: string[];",
    "  orderBy?: \x7b field: string; direction: 'asc' | 'desc' \x7d;",
    "  limit?: number;",
    "\x7d"]

def resolveFilterValue : Source.Declaration where
  exported := true
  keyword := "function"
  name := "resolveFilterValue"
  rest := "(filter: FilterSpec, req: Request): unknown \x7b"
  more := [
    "  switch (filter.source) \x7b",
    "    case 'static':",
    "      return filter.value;",
    "    case 'query':",
    "      return req.query[filter.value];",
    "    case 'body':",
    "      return req.body?.[filter.value];",
    "    case 'param':",
    "      return req.params[filter.value];",
    "  \x7d",
    "\x7d"]

def asList : Source.Declaration where
  keyword := "function"
  name := "asList"
  rest := "(value: unknown): unknown[] \x7b"
  more := [
    "  if (Array.isArray(value)) return value;",
    "  return String(value).split(',').map((v) => v.trim()).filter(Boolean);",
    "\x7d"]

def comparators : Source.Declaration where
  name := "COMPARATORS"
  rest := ": Record<Exclude<FilterOperator, 'contains' | 'in'>, string> = \x7b"
  more := [
    "  eq: '=',",
    "  ne: '<>',",
    "  gt: '>',",
    "  gte: '>=',",
    "  lt: '<',",
    "  lte: '<=',",
    "\x7d;"]

def applyFilters : Source.Declaration where
  exported := true
  keyword := "function"
  name := "applyFilters"
  rest := "<T extends \x7b\x7d>("
  more := [
    "  query: Knex.QueryBuilder<T>,",
    "  filters: FilterSpec[],",
    "  req: Request,",
    "): Knex.QueryBuilder<T> \x7b",
    "  for (const filter of filters) \x7b",
    "    const value = resolveFilterValue(filter, req);",
    "    if (value === undefined || value === '') continue;",
    "",
    "    if (filter.operator === 'contains') \x7b",
    "      query = query.where(filter.field, 'like', `%$\x7bString(value)\x7d%`);",
    "    \x7d else if (filter.operator === 'in') \x7b",
    "      query = query.whereIn(filter.field, asList(value) as readonly string[]);",
    "    \x7d else \x7b",
    "      query = query.where(filter.field, COMPARATORS[filter.operator], value as string);",
    "    \x7d",
    "  \x7d",
    "  return query;",
    "\x7d"]

def escapeRegex : Source.Declaration where
  keyword := "function"
  name := "escapeRegex"
  rest := "(value: string): string \x7b"
  more := [
    "  return value.replace(/[.*+?^$\x7b\x7d()|[\\]\\\\]/g, '\\\\$&');",
    "\x7d"]

def buildFilter : Source.Declaration where
  exported := true
  keyword := "function"
  name := "buildFilter"
  rest := "(filters: FilterSpec[], req: Request): Record<string, Record<string, unknown>> \x7b"
  more := [
    "  const query: Record<string, Record<string, unknown>> = \x7b\x7d;",
    "",
    "  for (const filter of filters) \x7b",
    "    const value = resolveFilterValue(filter, req);",
    "    if (value === undefined || value === '') continue;",
    "",
    "    const clause = (query[filter.field] ??= \x7b\x7d);",
    "    switch (filter.operator) \x7b",
    "      case 'contains':",
    "        clause.$regex = escapeRegex(String(value));",
    "        clause.$options = 'i';",
    "        break;",
    "      case 'in':",
    "        clause.$in = asList(value);",
    "        break;",
    "      default:",
    "        clause[`$$\x7bfilter.operator\x7d`] = value;",
    "    \x7d",
    "  \x7d",
    "  return query;",
    "\x7d"]

/-- The items that both forms share. -/
def shared : List Source.Item := [
  .gap,
  .declare filterOperator,
  .declare filterSource,
  .gap,
  .declare filterSpec,
  .gap,
  .code ["/** Options accepted by a repository's `findMany`. */"],
  .declare findManyOptions,
  .gap,
  .code ["/** Value of a filter for this request; undefined means the filter is skipped. */"],
  .declare resolveFilterValue,
  .gap]

def forTables : Source.Module where
  comment := [
    "/**",
    " * Request-driven filters for Knex queries.",
    " */"]
  imports := [
    Source.types ["Request"] "express",
    Source.types ["Knex"] "knex"]
  items := shared ++ [
    .declare asList,
    .gap,
    .declare comparators,
    .gap,
    .declare applyFilters]

def forCollections : Source.Module where
  comment := [
    "/**",
    " * Request-driven filters for Mongoose queries.",
    " */"]
  imports := [
    Source.types ["Request"] "express"]
  items := shared ++ [
    .declare escapeRegex,
    .gap,
    .declare asList,
    .gap,
    .code ["/** Builds a MongoDB filter document. Several filters on one field are combined. */"],
    .declare buildFilter]

end ApiGraph.Backend.Support.Filters
