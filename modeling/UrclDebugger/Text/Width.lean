import UrclDebugger.Text.Emoji
import UrclDebugger.Text.Ligature

/-!
# Width of a text

The number of screen columns that a text takes. It is the sum of the widths of its characters but
for those that are drawn as one with what follows them: a line end of two characters, pictures with
their selectors, skin tones and joiners, flags, and the ligatures of some scripts. A text is
measured from its end, so what a character adds depends on what follows it alone.
-/

namespace UrclDebugger.Text

/-- What follows a character, as far as it matters for the width of the two. -/
inductive Follower where
  /-- Nothing that matters. -/
  | plain
  | lineFeed
  /-- A skin tone. -/
  | modifier
  /-- A regional indicator. -/
  | regional
  /-- Several regional indicators. -/
  | regionals
  /-- A picture. -/
  | emoji
  /-- A joiner and a picture. -/
  | joinedEmoji
  /-- The frame of a key, a joiner and a picture. -/
  | joinedKeycap
  /-- A regional indicator, a joiner and a picture. -/
  | joinedRegional
  /-- An even number of regional indicators, a joiner and a picture. -/
  | joinedFlags
  /-- An odd number of regional indicators above one, a joiner and a picture. -/
  | joinedOddRegionals
  /-- So many tags of letters, the end of tags, a joiner and a picture. -/
  | letterTags (count : Nat)
  /-- So many tags of digits, other tags, the end of tags, a joiner and a picture. -/
  | digitTags (count : Nat)
  /-- An Arabic `alef`. -/
  | alef
  /-- The end of a ligature; `joined` if a joiner precedes it or none is needed. -/
  | ligature (part : LigaturePart) (joined : Bool)
  deriving DecidableEq, Repr

/-- What follows a character, and the selectors between the two. -/
structure Following where
  follower : Follower := .plain
  textStyle : Bool := false
  emojiStyle : Bool := false
  deriving DecidableEq, Repr, Inhabited

namespace Following

/-- What follows when only a follower matters. -/
def just (follower : Follower) : Following := { follower := follower }

/-- Whether selectors do not keep the follower from being drawn as one with a character. -/
def keepsSelectors (following : Following) : Bool :=
  match following.follower with
  | .alef | .ligature .. => true
  | _ => false

/-- Whether a joiner and a picture follow. -/
def joinsEmoji (following : Following) : Bool :=
  match following.follower with
  | .joinedEmoji | .joinedKeycap => true
  | _ => false

/-- What follows a selector that asks for a picture. -/
def afterEmojiSelector (following : Following) : Following :=
  if following.keepsSelectors || following.joinsEmoji then { following with emojiStyle := true }
  else { emojiStyle := true }

/-- What follows a selector that asks for text. -/
def afterTextSelector (following : Following) : Following :=
  if following.keepsSelectors then { following with textStyle := true } else { textStyle := true }

/-- What follows a character that takes no selector for a picture. -/
def withoutEmojiStyle (following : Following) : Following :=
  if !following.emojiStyle then following
  else if following.keepsSelectors then { following with emojiStyle := false }
  else {}

/-- What a character that nothing is drawn as one with adds, and what it is to the character before
it. -/
def alone (c : Char) : Int × Following :=
  if c = textSelector then (0, { textStyle := true })
  else if c = emojiSelector then (0, { emojiStyle := true })
  else if isRegional c then (1, just .regional)
  else if isModifier c then (2, just .modifier)
  else if isEmoji c then (2, just .emoji)
  else if isAlef c then (1, just .alef)
  else
    match LigaturePart.ofChar? c with
    | some part => (1, just (.ligature part (part = .toneLetter || part = .subscript)))
    | none => (charWidth c, {})

/-- What a character adds before an end of a ligature that it belongs to. -/
def beforeLigature? (c : Char) (part : LigaturePart) (joined : Bool) : Option (Int × Following) :=
  match part with
  | .lamed => if joined && c.toNat = 0x5D0 then some (0, {}) else none
  | .ya =>
    if joined && c.toNat = 0x1A17 then some (0, just (.ligature .vowelYa true)) else none
  | .vowelYa => if c.toNat = 0x1A15 then some (0, {}) else none
  | .consonant =>
    if c.toNat = 0x2D7F then some (1, just (.ligature .joinedConsonant true))
    else if joined && isTifinagh c then some (0, {})
    else none
  | .joinedConsonant => if isTifinagh c then some (-1, {}) else none
  | .toneLetter => if 0xA4F8 ≤ c.toNat && c.toNat ≤ 0xA4FB then some (0, {}) else none
  | .orkhonI => if joined && c.toNat = 0x10C32 then some (0, {}) else none
  | .subscript => if c.toNat = 0x17D2 then some (-1, {}) else none

/-- What a character adds before a joiner and a picture that it is drawn as one with. -/
def beforeJoinedEmoji? (c : Char) : Option (Int × Following) :=
  if c = keycap then some (0, just .joinedKeycap)
  else if isRegional c then some (1, just .joinedRegional)
  else if isModifier c then some (0, just .modifier)
  else if c = endTag then some (0, just (.letterTags 0))
  else if isEmoji c then some (0, just .emoji)
  else none

/-- What a character adds before tags that it belongs to. A region is named by three to six letters
or by up to four letters and three digits after them. -/
def beforeTags? (c : Char) (letters digits : Nat) : Option (Int × Following) :=
  if isLetterTag c && digits = 0 && letters < 6 then some (0, just (.letterTags (letters + 1)))
  else if isDigitTag c && letters ≤ 4 && digits < 3 then some (0, just (.digitTags (digits + 1)))
  else if c = blackFlag && (3 ≤ letters || digits = 3) then some (0, just .emoji)
  else none

/-- What a character adds before a follower that it is drawn as one with. -/
def before? (c : Char) : Follower → Option (Int × Following)
  | .alef =>
    if isLam c then some (0, {})
    else if isTransparent c then some (0, just .alef)
    else none
  | .ligature part joined => beforeLigature? c part joined
  | .modifier =>
    if isModifierBase c then some (0, just .emoji)
    else if c = joiner then some (0, just .joinedEmoji)
    else none
  | .regional => if isRegional c then some (1, just .regionals) else none
  | .regionals =>
    if isRegional c then some (1, just .regionals)
    else if c = joiner then some (0, just .joinedEmoji)
    else none
  | .emoji => if c = joiner then some (0, just .joinedEmoji) else none
  | .joinedEmoji => beforeJoinedEmoji? c
  | .joinedRegional => if isRegional c then some (-1, just .joinedFlags) else none
  | .joinedFlags =>
    if isRegional c then some (3, just .joinedOddRegionals)
    else if c = joiner then some (0, just .joinedEmoji)
    else none
  | .joinedOddRegionals =>
    if isRegional c then some (-1, just .joinedFlags)
    else if c = joiner then some (0, just .joinedEmoji)
    else none
  | .letterTags count => beforeTags? c count 0
  | .digitTags count => beforeTags? c 0 count
  | .plain | .lineFeed | .joinedKeycap => none

/-- What a character above the Latin controls adds before what follows it. -/
def beyondLatin (c : Char) (following : Following) : Int × Following :=
  if c = emojiSelector then (0, following.afterEmojiSelector)
  else if c = textSelector then (0, following.afterTextSelector)
  else if following.textStyle && isNarrowAsText c then (1, {})
  else
    match following.follower with
    | .ligature part joined =>
      if c = joiner then (0, just (.ligature part true))
      else if isInvisibleMark c then (0, just (.ligature part joined))
      else (before? c (.ligature part joined)).getD (alone c)
    | follower => (before? c follower).getD (alone c)

/-- What a character adds to the width of a text before what follows it, and what it is to the
character before it. -/
def advance (c : Char) (following : Following) : Int × Following :=
  if following.emojiStyle && takesSelector c then
    (if following.joinsEmoji then 0 else 2, just .emoji)
  else
    let following := following.withoutEmojiStyle
    if c.toNat ≤ 0xA0 then
      if c = '\n' then (0, just .lineFeed)
      else if c = '\r' && following = just .lineFeed then (0, {})
      else (1, {})
    else beyondLatin c following

end Following

/-- The columns of a text with one more character before it, and what that character is to the one
before it. -/
def widen (c : Char) (measured : Int × Following) : Int × Following :=
  let (added, following) := measured.2.advance c
  (measured.1 + added, following)

/-- Columns taken by characters. -/
def widthOfChars (text : List Char) : Nat := (text.foldr widen (0, {})).1.toNat

/-- Text of Latin characters that has no line end takes a column for each of them. -/
theorem widthOfChars_of_latin (text : List Char)
    (latin : ∀ c ∈ text, c.toNat ≤ 0xA0 ∧ c ≠ '\n') : widthOfChars text = text.length := by
  have measured : text.foldr widen (0, {}) = ((text.length : Int), {}) := by
    induction text with
    | nil => rfl
    | cons c rest ih =>
      obtain ⟨small, noFeed⟩ := latin c (by simp)
      have alone : ({} : Following) ≠ Following.just .lineFeed := by decide
      rw [List.foldr_cons, ih fun other inRest => latin other (by simp [inRest])]
      simp [widen, Following.advance, Following.withoutEmojiStyle, small, noFeed, alone]
  simp [widthOfChars, measured]

/-- Columns taken by a text. -/
def width (text : String) : Nat := widthOfChars text.toList

end UrclDebugger.Text
