/-!
# The WinAnsi encoding of the standard PDF fonts

Text shown in one of the standard fonts is written one byte a character in WinAnsi, the
encoding of Windows code page 1252 as the PDF reference lays it out:
* printable ASCII and the Latin-1 letters and signs from 0xA1 up stand for themselves, except
  0xAD, which the reference gives to the hyphen;
* 0x80 to 0x9F hold the euro sign, typographic quotes and dashes, the ellipsis and a few
  letters; the codes there that the encoding leaves unused, and 0x7F, show a bullet;
* 0xA0 shows a space.

A character is written at the first code that shows it, so a space is 0x20 and a bullet 0x7F;
one that no code shows (a control character, a no-break space, a soft hyphen, anything beyond
these tables) writes nothing.
-/

namespace Invoicing

namespace WinAnsi

/-- The characters of 0x7F to 0x9F that are not Latin-1 code points, with their codes; a bullet
stands at 0x7F before its other places. -/
def upperBlock : List (Nat × Nat) :=
  [(0x2022, 0x7F), (0x20AC, 0x80), (0x201A, 0x82), (0x0192, 0x83), (0x201E, 0x84),
    (0x2026, 0x85), (0x2020, 0x86), (0x2021, 0x87), (0x02C6, 0x88), (0x2030, 0x89),
    (0x0160, 0x8A), (0x2039, 0x8B), (0x0152, 0x8C), (0x017D, 0x8E), (0x2018, 0x91),
    (0x2019, 0x92), (0x201C, 0x93), (0x201D, 0x94), (0x2013, 0x96), (0x2014, 0x97),
    (0x02DC, 0x98), (0x2122, 0x99), (0x0161, 0x9A), (0x203A, 0x9B), (0x0153, 0x9C),
    (0x017E, 0x9E), (0x0178, 0x9F)]

/-- The code that shows a character, if there is one. -/
def code? (c : Char) : Option Nat :=
  let n := c.toNat
  if 0x20 ≤ n ∧ n ≤ 0x7E then some n
  else if 0xA1 ≤ n ∧ n ≤ 0xFF ∧ n ≠ 0xAD then some n
  else upperBlock.lookup n

/-- The bytes that write a text: one for each character that has a code. -/
def encode (s : String) : List Nat := s.toList.filterMap code?

/-- The written bytes read back one character a byte, each byte as the code point of its value. -/
def view (s : String) : String := String.ofList ((encode s).map Char.ofNat)

theorem code?_ascii (c : Char) (h₁ : 0x20 ≤ c.toNat) (h₂ : c.toNat ≤ 0x7E) :
    code? c = some c.toNat := by
  simp [code?, h₁, h₂]

theorem encode_length_le (s : String) : (encode s).length ≤ s.length := by
  simp only [encode, String.length]
  exact List.length_filterMap_le _ _

end WinAnsi

end Invoicing
