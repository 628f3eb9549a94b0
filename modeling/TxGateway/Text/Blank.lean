namespace TxGateway.Text

/-! # Blank characters

A character is blank when it has the Unicode property `White_Space`. Trimming takes blanks off
both ends of a text, and a text is blank when nothing else is in it.

* `isBlank` is the class: twenty-five characters, of which six are ASCII.
* `trim` removes blanks at both ends, `trimOf` the characters of any class.
-/

/-- Unicode `White_Space`: the controls U+0009 to U+000D, the space, U+0085, and the spaces and
separators outside ASCII. The zero-width space U+200B and the mark U+FEFF are not in it. -/
def isBlank (c : Char) : Bool :=
  let n := c.toNat
  (0x9 ≤ n && n ≤ 0xD) || n == 0x20 || n == 0x85 || n == 0xA0 || n == 0x1680 ||
    (0x2000 ≤ n && n ≤ 0x200A) || n == 0x2028 || n == 0x2029 || n == 0x202F || n == 0x205F ||
    n == 0x3000

/-- Characters of a class are taken off both ends. -/
def trimOf (p : Char → Bool) (s : String) : String :=
  String.ofList (((s.toList.dropWhile p).reverse.dropWhile p).reverse)

/-- Blanks are taken off both ends. -/
def trim (s : String) : String := trimOf isBlank s

/-- Characters of a class are taken off the end. -/
def trimEndOf (p : Char → Bool) (s : String) : String :=
  String.ofList ((s.toList.reverse.dropWhile p).reverse)

/-- Characters of a class are taken off the start. -/
def trimStartOf (p : Char → Bool) (s : String) : String :=
  String.ofList (s.toList.dropWhile p)

/-- A text with no character but blanks; the empty text is one. -/
def isBlankText (s : String) : Bool := s.toList.all isBlank

end TxGateway.Text
