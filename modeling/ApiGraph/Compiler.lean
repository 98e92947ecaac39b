import ApiGraph.Backend.Files
import ApiGraph.Lint
import ApiGraph.Resolve

/-!
# Compilation

A project compiles to its routes, its document and the files of its backend, together with the
warnings of every stage, each once. Compilation does not fail.
-/

namespace ApiGraph

structure Compilation where
  routes : List Route
  document : OpenApi.Document
  files : List Backend.File
  warnings : List Warning

/-- The project with the settings that were given for one compilation. -/
def Project.withOverrides (p : Project) (o : Overrides) : Project :=
  { p with settings := o.apply p.settings }

def Project.compile (p : Project) : Compilation :=
  let routes := Resolve.routes p
  let document := OpenApi.Document.assemble p routes
  { routes
    document
    files := Backend.files p routes document
    warnings := firsts
      (Lint.lint p ++ Resolve.warnings p ++ OpenApi.Document.warnings p routes ++
        Backend.warnings p routes) }

def Project.compileWith (p : Project) (o : Overrides) : Compilation := (p.withOverrides o).compile

end ApiGraph
