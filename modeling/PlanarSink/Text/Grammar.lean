import Mathlib.Data.List.Forall2
import PlanarSink.Text.Blank

/-! What texts are, said without reading them: texts without the blanks at their ends, texts that
differ only in the case of ASCII letters, and whole numbers in decimal. -/
namespace PlanarSink.Text

/-- `core` is the text without the blanks it begins and ends with. -/
structure Stripped (text core : List Char) : Prop where
  within : ∃ before after, text = before ++ (core ++ after) ∧
    (∀ c ∈ before, isBlank c = true) ∧ ∀ c ∈ after, isBlank c = true
  opened : ∀ c ∈ core.head?, isBlank c = false
  closed : ∀ c ∈ core.getLast?, isBlank c = false

/-- The same character, or the same ASCII letter in the other case. -/
inductive SameLetter : Char → Char → Prop where
  | refl (c : Char) : SameLetter c c
  | lowered {upper lower : Char} (letter : upper.isUpper = true)
      (apart : lower.toNat = upper.toNat + 32) : SameLetter upper lower
  | raised {upper lower : Char} (letter : upper.isUpper = true)
      (apart : lower.toNat = upper.toNat + 32) : SameLetter lower upper

/-- Equality but for the case of ASCII letters. -/
def Caseless : List Char → List Char → Prop :=
  List.Forall₂ SameLetter

/-- One or more decimal digits and their value. There may be zeros in front. -/
inductive Numeral : List Char → Nat → Prop where
  | digit {d : Nat} (single : d < 10) : Numeral [d.digitChar] d
  | snoc {cs : List Char} {n d : Nat} (front : Numeral cs n) (single : d < 10) :
      Numeral (cs ++ [d.digitChar]) (n * 10 + d)

/-- Decimal digits after one sign or none, and their value. -/
inductive Integer : List Char → Int → Prop where
  | unsigned {cs : List Char} {n : Nat} (digits : Numeral cs n) : Integer cs n
  | plus {cs : List Char} {n : Nat} (digits : Numeral cs n) : Integer ('+' :: cs) n
  | minus {cs : List Char} {n : Nat} (digits : Numeral cs n) : Integer ('-' :: cs) (-n)

end PlanarSink.Text
