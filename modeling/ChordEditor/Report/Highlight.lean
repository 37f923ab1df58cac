import ChordEditor.Report.Replay

namespace ChordEditor

/-!
# Reporting the highlighting of a text
-/

/-- The spans of a line, and the construct open at its end. -/
structure LineReport where
  line : Nat
  spans : List Paint
  carry : CarryState
  deriving Repr, DecidableEq

/-- The highlighting of all lines of a text. -/
structure HighlightReport where
  grammar : String
  lines : List LineReport
  deriving Repr, DecidableEq

namespace LineReport

/-- The report of a line of a session. -/
def ofLine (editor : Editor) (line : Nat) : LineReport :=
  { line
    spans := editor.highlightLine line
    carry := editor.lineState line }

/-- A number right-aligned in four columns. -/
def aligned (number : Nat) : String :=
  let shown := (toString number).toList
  String.ofList (List.replicate (4 - shown.length) ' ' ++ shown)

/-- A span as text. -/
def renderSpan (span : Paint) : String :=
  " " ++ toString span.start ++ ".." ++ toString span.stop ++ " " ++ span.tokenClass.name

/-- The report of a line as text. -/
def render (report : LineReport) : String :=
  let carry :=
    match report.carry with
    | some number => " | carry " ++ toString number
    | none => ""
  aligned (report.line + 1) ++ ":" ++ String.join (report.spans.map renderSpan) ++ carry

/-- A span as a JSON value. -/
def spanToJson (span : Paint) : JsonValue :=
  .object
    [ ("start", .integer span.start),
      ("end", .integer span.stop),
      ("class", .string span.tokenClass.name) ]

/-- The report of a line as a JSON value. -/
def toJson (report : LineReport) : JsonValue :=
  .object
    [ ("line", .integer report.line),
      ("spans", .array (report.spans.map spanToJson)),
      ("carry",
        match report.carry with
        | some number => .integer number
        | none => .null) ]

end LineReport

namespace HighlightReport

/-- Highlight a text. -/
def run
    (config : Config)
    (grammars : GrammarRegistry)
    (text : List Char) : Except ReportError HighlightReport :=
  match Editor.start config grammars text with
  | .error error => .error (.cannotStart error)
  | .ok editor =>
      .ok
        { grammar := editor.grammar.name
          lines := (List.range editor.buffer.lineCount).map (LineReport.ofLine editor) }

/-- The report as text. -/
def render (report : HighlightReport) : String :=
  "\n".intercalate (("grammar " ++ report.grammar) :: report.lines.map LineReport.render)

/-- The report as a JSON value. -/
def toJson (report : HighlightReport) : JsonValue :=
  .object
    [ ("grammar", .string report.grammar),
      ("lines", .array (report.lines.map LineReport.toJson)) ]

end HighlightReport

end ChordEditor
