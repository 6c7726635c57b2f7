import GridQuery.Text.CharRanges

/-! White space by the Unicode property, trimming by it, and blank text. -/
namespace GridQuery.Text

/-- The characters with the property White_Space. -/
def whiteSpace : CharRanges :=
  [(0x9, 0xd), (0x20, 0x20), (0x85, 0x85), (0xa0, 0xa0), (0x1680, 0x1680), (0x2000, 0x200a),
   (0x2028, 0x2029), (0x202f, 0x202f), (0x205f, 0x205f), (0x3000, 0x3000)]

def isWhite (c : Char) : Bool := whiteSpace.contains c

def trimLeft (text : List Char) : List Char := text.dropWhile isWhite

def trimRight (text : List Char) : List Char := (trimLeft text.reverse).reverse

def trim (text : String) : String := String.ofList (trimRight (trimLeft text.toList))

/-- Whether a text holds nothing but white space. -/
def isBlank (text : String) : Bool := text.toList.all isWhite

end GridQuery.Text
