import ConfigCheck.Text.Newest

/-!
# Printable characters

Quoted text shows a character as it is only if a reader can see it on its own.  There is nothing to
see of unassigned code points, controls, format characters, code points for private use, separators
other than the space, and fillers; and a character that extends the one before it is not seen on its
own.
-/

namespace ConfigCheck.Text

/-- Letters that fill the place of another one and look like a space. -/
def fillers : CharSet := .ofList ['\u115f', '\u1160', '\u3164', '\uffa0']

/-- Whether a code point is assigned to a character. -/
def isAssigned (c : Char) : Bool := Category.assigned.contains c || newlyAssigned.contains c

/-- Whether a character extends the one before it and takes no room of its own, as modifier letters
do. -/
def isExtender (c : Char) : Bool :=
  !Category.modifierLetter.contains c &&
    [Category.nonspacingMark, Category.enclosingMark, Property.otherGraphemeExtend,
      newExtenders].any (·.contains c)

/-- Whether a character has no glyph. -/
def isInvisible (c : Char) : Bool :=
  [Category.control, Category.formatChar, Category.privateUse, Category.separator, fillers].any
    (·.contains c)

/-- Whether quoted text shows the character as it is. -/
def isPrintable (c : Char) : Bool :=
  c = ' ' || (isAssigned c && !isInvisible c && !isExtender c)

end ConfigCheck.Text
