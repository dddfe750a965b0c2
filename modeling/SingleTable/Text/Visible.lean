import SingleTable.Character.Trait

/-!
# Visible characters

Characters that a quoted text shows as themselves.  The others are controls,
separators other than the blank, unassigned and private code points, and
characters that extend the one before them.
-/

namespace SingleTable.Text

open Character

/-- The categories of code points that have no visible form. -/
def hiddenCategories : List Category :=
  Category.group 'C' ++ Category.group 'Z'

/-- The character is shown as itself. -/
def isVisible (c : Char) : Bool :=
  if c.toNat < 127 then 32 ≤ c.toNat
  else !Category.anyOf hiddenCategories c.toNat && !isGraphemeExtend c.toNat

end SingleTable.Text
