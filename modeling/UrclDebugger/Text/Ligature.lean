import UrclDebugger.Text.Width.Basic

/-!
# Ligatures

In some scripts characters that follow each other are drawn as one shape. Here are the classes of
characters that take part. Of a ligature only the later characters decide what may stand before
them, so a partner names the part of a ligature that has been seen from its end.
-/

namespace UrclDebugger.Text

/-- The end of a ligature. -/
inductive LigaturePart where
  /-- Hebrew `lamed`, behind `alef`. -/
  | lamed
  /-- Buginese `ya`, behind the vowel `i`. -/
  | ya
  /-- Buginese vowel `i` and `ya`, behind `a`. -/
  | vowelYa
  /-- A consonant of Tifinagh, behind another one. -/
  | consonant
  /-- The consonant joiner of Tifinagh and a consonant, behind another one. -/
  | joinedConsonant
  /-- A Lisu tone letter, behind another one. -/
  | toneLetter
  /-- Old Turkic `orkhon i`, behind `ec`. -/
  | orkhonI
  /-- A Khmer letter that is drawn below the one before it when the sign `coeng` precedes it. -/
  | subscript
  deriving DecidableEq, Repr

/-- Arabic characters of the joining group `Alef`. -/
def alefRanges : List (Nat × Nat) :=
  [(0x622, 0x623), (0x625, 0x625), (0x627, 0x627), (0x671, 0x673), (0x675, 0x675),
   (0x773, 0x774), (0x870, 0x882)]

/-- Arabic characters of the joining group `Lam`. -/
def lamRanges : List (Nat × Nat) :=
  [(0x644, 0x644), (0x6B5, 0x6B8), (0x76A, 0x76A), (0x8A6, 0x8A6), (0x8C7, 0x8C7)]

/-- Khmer letters that have a form below the line. -/
def subscriptRanges : List (Nat × Nat) :=
  [(0x1780, 0x1782), (0x1784, 0x1787), (0x1789, 0x178C), (0x178E, 0x1793), (0x1795, 0x1798),
   (0x179B, 0x179D), (0x17A0, 0x17A0), (0x17A2, 0x17A2), (0x17A7, 0x17A7), (0x17AB, 0x17AC),
   (0x17AF, 0x17AF)]

/-- Consonants of Tifinagh. -/
def tifinaghRanges : List (Nat × Nat) := [(0x2D31, 0x2D65), (0x2D6F, 0x2D6F)]

/-- Code points without width that do not let Arabic letters join across them. -/
def separatingRanges : List (Nat × Nat) :=
  [(0x605, 0x605), (0x890, 0x891), (0x8E2, 0x8E2), (0x9BE, 0x9BE), (0x9D7, 0x9D7),
   (0xB3E, 0xB3E), (0xB57, 0xB57), (0xBBE, 0xBBE), (0xBD7, 0xBD7), (0xCC0, 0xCC0),
   (0xCC2, 0xCC2), (0xCC7, 0xCC8), (0xCCA, 0xCCB), (0xCD5, 0xCD6), (0xD3E, 0xD3E),
   (0xD4E, 0xD4E), (0xD57, 0xD57), (0xDCF, 0xDCF), (0xDDF, 0xDDF), (0x1160, 0x11FF),
   (0x180E, 0x180E), (0x1B35, 0x1B35), (0x1B3B, 0x1B3B), (0x1B3D, 0x1B3D), (0x1B43, 0x1B43),
   (0x200C, 0x200D), (0x2065, 0x2069), (0x302E, 0x302F), (0x3164, 0x3164), (0xA8FA, 0xA8FA),
   (0xD7B0, 0xD7C6), (0xD7CB, 0xD7FB), (0xFF9E, 0xFFA0), (0xFFF0, 0xFFF8), (0x111C2, 0x111C3),
   (0x1133E, 0x1133E), (0x11357, 0x11357), (0x114B0, 0x114B0), (0x114BD, 0x114BD),
   (0x115AF, 0x115AF), (0x11930, 0x11930), (0x1193F, 0x1193F), (0x11941, 0x11941),
   (0x11A3A, 0x11A3A), (0x11A84, 0x11A89), (0x11D46, 0x11D46), (0x11F02, 0x11F02),
   (0x1D165, 0x1D165), (0x1D16E, 0x1D172), (0xE0000, 0xE0000), (0xE0002, 0xE001F),
   (0xE0080, 0xE00FF), (0xE01F0, 0xE0FFF)]

/-- Marks that are invisible wherever they stand. -/
def invisibleMarkRanges : List (Nat × Nat) :=
  [(0x34F, 0x34F), (0x17B4, 0x17B5), (0x180B, 0x180D), (0x180F, 0x180F), (0xFE00, 0xFE0F),
   (0xE0100, 0xE01EF)]

/-- An Arabic `alef`. -/
def isAlef (c : Char) : Bool := inRanges alefRanges c

/-- An Arabic `lam`. -/
def isLam (c : Char) : Bool := inRanges lamRanges c

/-- A consonant of Tifinagh. -/
def isTifinagh (c : Char) : Bool := inRanges tifinaghRanges c

/-- A character that Arabic letters join across. -/
def isTransparent (c : Char) : Bool := charWidth c = 0 && !inRanges separatingRanges c

/-- A mark that is invisible wherever it stands. -/
def isInvisibleMark (c : Char) : Bool := inRanges invisibleMarkRanges c

/-- The ligature that a character is the end of, if there is one. -/
def LigaturePart.ofChar? (c : Char) : Option LigaturePart :=
  if c.toNat = 0x5DC then some .lamed
  else if inRanges subscriptRanges c then some .subscript
  else if c.toNat = 0x1A10 then some .ya
  else if isTifinagh c then some .consonant
  else if c.toNat = 0xA4FC || c.toNat = 0xA4FD then some .toneLetter
  else if c.toNat = 0x10C03 then some .orkhonI
  else none

end UrclDebugger.Text
