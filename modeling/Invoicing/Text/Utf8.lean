/-!
# UTF-8

Characters are written as one to four bytes. Reading bytes back is lossy: a byte that cannot
start a character, or a sequence that breaks off, stands for one replacement character
U+FFFD, and reading goes on at the first byte that did not fit. A sequence is cut at the first
byte outside the range its position allows, so overlong forms, surrogates and code points past
U+10FFFF are never read.

What is proved here:
* `encodeChar_length`: a character is written as one to four bytes.
-/

namespace Invoicing

namespace Utf8

/-- The bytes of a character. -/
def encodeChar (c : Char) : List Nat :=
  let n := c.toNat
  if n < 0x80 then [n]
  else if n < 0x800 then [0xC0 + n / 64, 0x80 + n % 64]
  else if n < 0x10000 then [0xE0 + n / 4096, 0x80 + n / 64 % 64, 0x80 + n % 64]
  else [0xF0 + n / 262144, 0x80 + n / 4096 % 64, 0x80 + n / 64 % 64, 0x80 + n % 64]

/-- The bytes of a text. -/
def encode (s : String) : List Nat := s.toList.flatMap encodeChar

theorem encodeChar_length (c : Char) :
    1 ≤ (encodeChar c).length ∧ (encodeChar c).length ≤ 4 := by
  simp only [encodeChar]
  split
  · simp
  · split
    · simp
    · split <;> simp

/-- The ranges the bytes after a leading byte must lie in, or `none` for a byte that cannot
lead. -/
def continuations (b : Nat) : Option (List (Nat × Nat)) :=
  if b ≤ 0x7F then some []
  else if 0xC2 ≤ b ∧ b ≤ 0xDF then some [(0x80, 0xBF)]
  else if b = 0xE0 then some [(0xA0, 0xBF), (0x80, 0xBF)]
  else if (0xE1 ≤ b ∧ b ≤ 0xEC) ∨ b = 0xEE ∨ b = 0xEF then some [(0x80, 0xBF), (0x80, 0xBF)]
  else if b = 0xED then some [(0x80, 0x9F), (0x80, 0xBF)]
  else if b = 0xF0 then some [(0x90, 0xBF), (0x80, 0xBF), (0x80, 0xBF)]
  else if 0xF1 ≤ b ∧ b ≤ 0xF3 then some [(0x80, 0xBF), (0x80, 0xBF), (0x80, 0xBF)]
  else if b = 0xF4 then some [(0x80, 0x8F), (0x80, 0xBF), (0x80, 0xBF)]
  else none

/-- Takes the following bytes while each lies in its range, adding their six bits to `acc`:
the code point so far, whether every range was met, and the bytes left. -/
def follow : List (Nat × Nat) → Nat → List Nat → Nat × Bool × List Nat
  | [], acc, rest => (acc, true, rest)
  | (lo, hi) :: rs, acc, b :: rest =>
    if lo ≤ b ∧ b ≤ hi then follow rs (acc * 64 + (b - 0x80)) rest else (acc, false, b :: rest)
  | _ :: _, acc, [] => (acc, false, [])

theorem follow_length_le (rs : List (Nat × Nat)) (acc : Nat) (bs : List Nat) :
    (follow rs acc bs).2.2.length ≤ bs.length := by
  induction rs generalizing acc bs with
  | nil => simp [follow]
  | cons r rs ih =>
    cases bs with
    | nil => simp [follow]
    | cons b rest =>
      simp only [follow]
      split
      · have := ih (acc * 64 + (b - 0x80)) rest
        simp only [List.length_cons]
        omega
      · simp

/-- The replacement character. -/
def replacement : Char := Char.ofNat 0xFFFD

/-- Reads bytes as characters (see the module comment); `fuel` bounds the characters read. -/
def decodeWith : Nat → List Nat → List Char
  | 0, _ => []
  | _, [] => []
  | fuel + 1, b :: rest =>
    match continuations b with
    | none => replacement :: decodeWith fuel rest
    | some [] => Char.ofNat b :: decodeWith fuel rest
    | some rs =>
      let (n, complete, rest') := follow rs (b % Nat.pow 2 (6 - rs.length)) rest
      (if complete then Char.ofNat n else replacement) :: decodeWith fuel rest'

/-- Reads bytes as a text, lossily (see the module comment). -/
def decodeLossy (bytes : List Nat) : String := String.ofList (decodeWith bytes.length bytes)

/-- Whether bytes are well-formed UTF-8: every sequence complete, no byte that cannot lead;
`fuel` bounds the sequences read. -/
def wellFormedWith : Nat → List Nat → Bool
  | 0, _ => true
  | _, [] => true
  | fuel + 1, b :: rest =>
    match continuations b with
    | none => false
    | some [] => wellFormedWith fuel rest
    | some rs =>
      let (_, complete, rest') := follow rs 0 rest
      complete && wellFormedWith fuel rest'

/-- Reads well-formed UTF-8 as a text, or refuses it. -/
def decode? (bytes : List Nat) : Option String :=
  if wellFormedWith bytes.length bytes then some (decodeLossy bytes) else none

end Utf8

end Invoicing
