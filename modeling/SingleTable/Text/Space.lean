/-!
# White space

The twenty-five white-space characters, and trimming of them at both ends of a
text.  Text is handled as its list of characters throughout the library.
-/

namespace SingleTable.Text

/-- Code points with the white-space property, as inclusive ranges. -/
def spaceRanges : List (Nat × Nat) :=
  [(0x09, 0x0D), (0x20, 0x20), (0x85, 0x85), (0xA0, 0xA0), (0x1680, 0x1680),
   (0x2000, 0x200A), (0x2028, 0x2029), (0x202F, 0x202F), (0x205F, 0x205F),
   (0x3000, 0x3000)]

/-- A code point lies in one of the ranges. -/
def inRanges (ranges : List (Nat × Nat)) (code : Nat) : Bool :=
  ranges.any fun range => range.1 ≤ code && code ≤ range.2

/-- The character is white space. -/
def isSpace (c : Char) : Bool :=
  inRanges spaceRanges c.toNat

/-- The text after its leading white space. -/
def trimStart (text : List Char) : List Char :=
  text.dropWhile isSpace

/-- The text before its trailing white space. -/
def trimEnd (text : List Char) : List Char :=
  (text.reverse.dropWhile isSpace).reverse

/-- The text without white space at either end. -/
def trim (text : List Char) : List Char :=
  trimEnd (trimStart text)

@[simp]
theorem isSpace_blank : isSpace ' ' = true := by decide

@[simp]
theorem trimStart_nil : trimStart [] = [] := rfl

@[simp]
theorem trim_nil : trim [] = [] := rfl

theorem trimStart_cons_of_isSpace {c : Char} (hSpace : isSpace c = true)
    (text : List Char) : trimStart (c :: text) = trimStart text := by
  simp [trimStart, hSpace]

theorem trimStart_cons_of_not_isSpace {c : Char} (hSpace : isSpace c = false)
    (text : List Char) : trimStart (c :: text) = c :: text := by
  simp [trimStart, hSpace]

end SingleTable.Text
