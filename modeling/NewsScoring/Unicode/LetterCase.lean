import NewsScoring.Unicode.GeneralCategory

/-!
# Capital and small letters

The properties Uppercase and Lowercase of the Unicode character database: the letters of the
categories `Lu` and `Ll`, and characters of other categories that have the form of such letters.
-/

namespace NewsScoring.Unicode

/-- The characters with the property Uppercase outside the category `Lu`. -/
def otherUppercaseTable : RangeTable := ⟨#[
  8544, 8560, 9398, 9424, 127280, 127306, 127312, 127338, 127344, 127370]⟩

/-- The characters with the property Lowercase outside the category `Ll`. -/
def otherLowercaseTable : RangeTable := ⟨#[
  170, 171, 186, 187, 688, 697, 704, 706, 736, 741, 837, 838, 890, 891, 4348, 4349, 7468, 7531,
  7544, 7545, 7579, 7616, 8305, 8306, 8319, 8320, 8336, 8349, 8560, 8576, 9424, 9450, 11388, 11390,
  42652, 42654, 42864, 42865, 42994, 42997, 43000, 43002, 43868, 43872, 43881, 43882, 67456, 67457,
  67459, 67462, 67463, 67505, 67506, 67515, 122928, 122990]⟩

/-- Whether a character has the property Uppercase. -/
def isUppercase (c : Char) : Bool :=
  generalCategory c == .uppercaseLetter || otherUppercaseTable.contains c

/-- Whether a character has the property Lowercase. -/
def isLowercase (c : Char) : Bool :=
  generalCategory c == .lowercaseLetter || otherLowercaseTable.contains c

end NewsScoring.Unicode
