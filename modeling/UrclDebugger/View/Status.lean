import UrclDebugger.Screen.Paragraph
import UrclDebugger.Session.Basic
import UrclDebugger.View.Theme

/-!
# The bars

The status bar shows what the program is doing, the number of the frame, the last message or
error, and the keys. The module bar lists the loaded sources with their numbers.
-/

namespace UrclDebugger.View

/-- What the status bar shows. -/
structure Status where
  message : String
  state : RunState
  /-- The error shown instead of the message. -/
  error : Option String
  revision : Nat
  hasSources : Bool

/-- Text on a coloured ground in the status bar. -/
def onGround (color ground : Color) : Style := (Style.colored color).withBackground ground

/-- The sign at the left of the status bar. -/
def badge (status : Status) : Span :=
  let (text, ground) :=
    if status.error.isSome then (" ✖ ERROR ", Theme.error)
    else if !status.hasSources then (" NO PROGRAM ", Theme.comment)
    else
      match status.state with
      | .idle => (" IDLE ", Theme.primary)
      | .stepping => (" STEP ", Theme.secondary)
      | .running => (" ▶ RUNNING ", Theme.secondary)
      | .halted => (" ■ HALTED ", Theme.success)
  ⟨text, (onGround .black ground).inBold⟩

/-- The left part of the status bar. -/
def statusLine (status : Status) : Line :=
  let separator := onGround Theme.comment Theme.currentLine
  let text : Span :=
    match status.error with
    | some error => ⟨" " ++ error ++ " ", onGround Theme.error Theme.currentLine⟩
    | none => ⟨" " ++ status.message ++ " ", onGround Theme.text Theme.currentLine⟩
  { spans :=
      [badge status, ⟨" #" ++ toString status.revision ++ " ", separator⟩, ⟨"│", separator⟩, text] }

/-- The keys and what they do. -/
def keyHelp : List (String × String) :=
  [(" s/→ ", " step "), (" r ", " run "), (" ⎵ ", " interrupt "), (" o ", " open "),
    (" R ", " reload "), (" u ", " unload "), (" q ", " quit ")]

/-- The spans of one key's help. -/
def keySpans (help : String × String) : List Span :=
  [⟨help.1, onGround .black Theme.comment⟩, ⟨help.2, onGround Theme.text Theme.currentLine⟩]

/-- The right part of the status bar. -/
def helpLine : Line :=
  let separator : Span := ⟨"│", onGround Theme.comment Theme.currentLine⟩
  { spans := [separator].intercalate (keyHelp.map keySpans), alignment := .right }

/-- Draws the status bar. -/
def drawStatus (screen : Screen) (area : Area) (status : Status) : Screen :=
  let left := area.columns 0 45
  let right := area.columns 45 100
  let ground := Style.plain.withBackground Theme.currentLine
  ((screen.restyle left ground).drawTruncated left [statusLine status]
    |>.restyle right ground).drawTruncated right [helpLine]

/-- The spans of a loaded source in the module bar. -/
def sourceSpans (numbered : Nat × String) : List Span :=
  [⟨toString numbered.1 ++ " ", Style.colored Theme.secondary⟩,
    ⟨numbered.2, Style.colored Theme.text⟩]

/-- The module bar for sources with the given names. -/
def moduleLine (names : List String) : Line :=
  let separator : Span := ⟨" │ ", Style.colored Theme.comment⟩
  let heading : Span := ⟨" Modules: ", (Style.colored Theme.primary).inBold⟩
  if names.isEmpty then
    { spans := [heading, ⟨"none (press o to open a file)", Style.colored Theme.comment⟩] }
  else
    let numbered := (List.range' 1 names.length).zip names
    { spans := heading :: [separator].intercalate (numbered.map sourceSpans) }

/-- Draws the module bar. -/
def drawModules (screen : Screen) (area : Area) (names : List String) : Screen :=
  screen.drawTruncated area [moduleLine names]

end UrclDebugger.View
