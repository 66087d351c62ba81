import FactoryGen.Unicode.Ranges

/-! White space: the characters with the property `White_Space`. The set has not
changed since Unicode 6.3; it is wider than the four characters that core calls
white space. -/
namespace FactoryGen.Unicode

/-- The code points with the property `White_Space`. -/
def blankRanges : Ranges :=
  [(0x9, 0xd), (0x20, 0x20), (0x85, 0x85), (0xa0, 0xa0), (0x1680, 0x1680), (0x2000, 0x200a),
   (0x2028, 0x2029), (0x202f, 0x202f), (0x205f, 0x205f), (0x3000, 0x3000)]

/-- A character with the property `White_Space`. -/
def isBlank (c : Char) : Bool := blankRanges.contains c.toNat

/-- Nothing but white space, or nothing at all. -/
def isBlankText (s : String) : Bool := s.toList.all isBlank

example : isBlank ' ' = true ∧ isBlank '\t' = true ∧ isBlank '\n' = true ∧ isBlank '\r' = true := by
  decide
example : isBlank 'a' = false ∧ isBlank (Char.ofNat 0x200b) = false := by decide

end FactoryGen.Unicode
