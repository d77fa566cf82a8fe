/-! White space at the ends of a text, in the sense of the Unicode property
`White_Space`, and equality of texts up to the case of ASCII letters. -/
namespace PlanarSink.Text

/-- The characters with the Unicode property `White_Space`. -/
def isBlank (c : Char) : Bool :=
  let n := c.toNat
  (9 ≤ n && n ≤ 13) || n == 0x20 || n == 0x85 || n == 0xA0 || n == 0x1680 ||
    (0x2000 ≤ n && n ≤ 0x200A) || n == 0x2028 || n == 0x2029 || n == 0x202F ||
    n == 0x205F || n == 0x3000

def trimChars (cs : List Char) : List Char :=
  ((cs.dropWhile isBlank).reverse.dropWhile isBlank).reverse

def trim (s : String) : String :=
  String.ofList (trimChars s.toList)

/-- A text with its ASCII letters in lower case; no other letter folds. -/
def fold (s : String) : List Char :=
  s.toList.map Char.toLower

def sameFolded (a b : String) : Bool :=
  fold a == fold b

theorem sameFolded_iff {a b : String} : sameFolded a b = true ↔ fold a = fold b := by
  simp [sameFolded]

end PlanarSink.Text
