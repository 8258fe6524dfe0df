import UrclDebugger.Screen.Style

/-!
# Colours of the debugger
-/

namespace UrclDebugger.Theme

/-- Ordinary text. -/
def text : Color := .rgb 205 214 244

/-- Addresses and the heading of the module bar. -/
def primary : Color := .rgb 137 180 250

/-- Module numbers and running programs. -/
def secondary : Color := .rgb 250 179 135

/-- Text of little weight. -/
def comment : Color := .rgb 108 112 134

/-- Halted programs. -/
def success : Color := .rgb 166 227 161

/-- Errors. -/
def error : Color := .rgb 243 139 168

/-- The border of the focused pane and of dialogs. -/
def focusedBorder : Color := .rgb 249 226 175

/-- The border of the other panes. -/
def border : Color := .rgb 108 112 134

/-- Behind the current line and the status bar. -/
def currentLine : Color := .rgb 50 50 70

/-- Registers that were never shown before. -/
def newRegister : Color := .rgb 245 194 231

/-- Registers with a new value. -/
def changedRegister : Color := .rgb 243 139 168

/-- Memory cells that are new or have a new value. -/
def changedMemory : Color := .rgb 166 227 161

/-- The instruction that runs next. -/
def currentInstruction : Color := .rgb 249 226 175

/-- The top of the stack. -/
def activeStack : Color := .rgb 137 220 235

end UrclDebugger.Theme
