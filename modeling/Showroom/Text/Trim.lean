/-!
# Showroom.Text.Trim

Taking off what stands at the front or at both ends of a text.
-/

namespace Showroom.Text

/-- A text without the characters of a class at its two ends. -/
def trim (p : Char → Bool) (cs : List Char) : List Char :=
  ((cs.dropWhile p).reverse.dropWhile p).reverse

def dropText? (front : List Char) (cs : List Char) : Option (List Char) :=
  if cs.take front.length = front then some (cs.drop front.length) else none

/-- The mark of a byte order, which may stand at the front of a file. -/
def byteOrderMark : Char := '\ufeff'

/-- The text of a file without such a mark. -/
def withoutMark (text : String) : List Char :=
  (dropText? [byteOrderMark] text.toList).getD text.toList

end Showroom.Text
