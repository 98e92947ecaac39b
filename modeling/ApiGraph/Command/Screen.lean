import ApiGraph.Build

namespace ApiGraph.Command

/-- A number of things, in the plural unless it is one. -/
def counted (n : Nat) (noun : String) : String :=
  if n = 1 then s!"1 {noun}" else s!"{n} {noun}s"

def dotted (things : List String) : String := " · ".intercalate things

def successLine (s : String) : String := "  ◉ " ++ s

def infoLine (s : String) : String := "  ◇ " ++ s

def noticeLine (s : String) : String := "  ◆ " ++ s

def versionNumber : String := "0.1.0"

def divider : List String := ["", "  " ++ String.ofList (List.replicate 53 '╌'), ""]

def headsUp (count : Nat) : List String :=
  ["", noticeLine ("Heads up: " ++ counted count "warning"), ""]

/-- The text with blanks up to a width. -/
def padTo (width : Nat) (s : String) : String :=
  s ++ String.ofList (List.replicate (width - s.length) ' ')

def describe (r : Route) : String :=
  match r.query with
  | some q => q.operation.name ++ " " ++ q.model
  | none => "stub"

def routeLine (r : Route) : String :=
  "  ▸   " ++ padTo 7 r.method.name ++ " " ++ r.path ++
    (if r.access.isSome then " 🔒" else "") ++ "   " ++ describe r

def boxWidth : Nat := 55

def boxTop (title : String) : String :=
  let padded := " " ++ title ++ " "
  "  ╭─" ++ padded ++ String.ofList (List.replicate (boxWidth - (padded.length + 4)) '─') ++ "╮"

def boxLine (s : String) : String := "  │ " ++ padTo (boxWidth - 2) s ++ "│"

def boxBottom : String := "  ╰" ++ String.ofList (List.replicate (boxWidth - 2) '─') ++ "╯"

def nextSteps (destination : Destination) (port : Nat) : List String :=
  let enter := match destination with
    | .folder path => "cd " ++ path
    | .archive path => "unzip " ++ path
  ["", boxTop "─▸ What's Next", boxLine "", boxLine ("   " ++ enter),
   boxLine "   npm install && npm run dev", boxLine "",
   boxLine s!"   Then open http://localhost:{port}/docs", boxLine "", boxBottom, ""]

end ApiGraph.Command
