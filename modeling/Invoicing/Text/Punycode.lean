/-!
# Punycode

The bootstring encoding of RFC 3492 with the Punycode parameters: the ASCII characters of a
label are copied, a hyphen follows when there are any, and the other characters are encoded, in
increasing order of code point, as variable-length base-36 deltas whose digit thresholds adapt
to the deltas seen so far.

Decoding reads the text before the last hyphen as the copied characters (none when there is no
hyphen, and none either when the only hyphen opens the text, which is then read whole) and
inserts one character per delta. It fails on a character that is not a digit, on input that
ends inside a delta, on a value past 32 bits and on a code point that is not a character.
-/

namespace Invoicing

namespace Punycode

/-- The character of a base-36 digit: `a`–`z`, then `0`–`9`. -/
def digitChar (d : Nat) : Char :=
  if d < 26 then Char.ofNat (97 + d) else Char.ofNat (22 + d)

/-- The threshold of the digit at position `k` under bias `bias`, from 1 to 26. -/
def threshold (k bias : Nat) : Nat :=
  if k ≤ bias then 1 else if bias + 26 ≤ k then 26 else k - bias

/-- The bias after a delta (RFC 3492, section 6.1); `fuel` bounds the scaling steps. -/
def adapt (delta points : Nat) (first : Bool) : Nat :=
  let d := if first then delta / 700 else delta / 2
  let d := d + d / points
  let rec scale : Nat → Nat → Nat → Nat × Nat
    | 0, d, k => (d, k)
    | fuel + 1, d, k => if 455 < d then scale fuel (d / 35) (k + 36) else (d, k)
  let (d, k) := scale 64 d 0
  k + 36 * d / (d + 38)

/-- The digits of a delta `q` from position `k` on; `fuel` bounds their number. -/
def deltaDigits (bias : Nat) : Nat → Nat → Nat → List Char
  | 0, _, _ => []
  | fuel + 1, k, q =>
    let t := threshold k bias
    if q < t then [digitChar q]
    else digitChar (t + (q - t) % (36 - t)) :: deltaDigits bias fuel (k + 36) ((q - t) / (36 - t))

/-- The encoder's state: output so far, pending delta, bias and the number of characters
handled. -/
structure State where
  out : List Char
  delta : Nat
  bias : Nat
  handled : Nat

/-- Walks the input once for the code point `m`: smaller code points add to the delta, each
occurrence of `m` writes the delta. -/
def visit (basics m : Nat) (st : State) (c : Char) : State :=
  if c.toNat < m then { st with delta := st.delta + 1 }
  else if c.toNat = m then
    { out := st.out ++ deltaDigits st.bias 64 36 st.delta, delta := 0,
      bias := adapt st.delta (st.handled + 1) (st.handled == basics), handled := st.handled + 1 }
  else st

/-- Encodes the code points `ms` (increasing, all at least `n`) in turn. -/
def encodeFrom (input : List Char) (basics : Nat) : List Nat → Nat → State → State
  | [], _, st => st
  | m :: rest, n, st =>
    let st := { st with delta := st.delta + (m - n) * (st.handled + 1) }
    let st := input.foldl (visit basics m) st
    encodeFrom input basics rest (m + 1) { st with delta := st.delta + 1 }

/-- The encoding of a label (without the `xn--` mark). -/
def encode (input : List Char) : List Char :=
  let basic := input.filter (fun c => c.toNat < 128)
  let others := ((input.filter (fun c => 128 ≤ c.toNat)).map Char.toNat).mergeSort (· ≤ ·)
  let distinct := others.eraseDups
  let st := encodeFrom input basic.length distinct 128 ⟨[], 0, 72, basic.length⟩
  basic ++ (if basic.isEmpty then [] else ['-']) ++ st.out

/-- The largest value a delta or code point may reach while decoding. -/
def limit : Nat := 4294967295

/-- The value of a base-36 digit: letters of either case count from 0, digits from 26. -/
def digitValue? (c : Char) : Option Nat :=
  if 'a' ≤ c && c ≤ 'z' then some (c.toNat - 97)
  else if 'A' ≤ c && c ≤ 'Z' then some (c.toNat - 65)
  else if c.isDigit then some (c.toNat - 22)
  else none

/-- Reads one delta from position `k` on with weight `w`, added to `i`: the new `i` and the
rest of the input. -/
def readDelta (bias : Nat) : List Char → Nat → Nat → Nat → Option (Nat × List Char)
  | [], _, _, _ => none
  | c :: rest, k, w, i =>
    match digitValue? c with
    | none => none
    | some d =>
      if (limit - i) / w < d then none
      else
        let i := i + d * w
        let t := threshold k bias
        if d < t then some (i, rest)
        else if limit / (36 - t) < w then none
        else readDelta bias rest (k + 36) (w * (36 - t)) i

theorem readDelta_shorter (bias : Nat) : ∀ (l : List Char) (k w i : Nat) (r : Nat × List Char),
    readDelta bias l k w i = some r → r.2.length < l.length
  | [], _, _, _, _, h => by simp [readDelta] at h
  | c :: rest, k, w, i, r, h => by
    simp only [readDelta] at h
    split at h
    · simp at h
    · split at h
      · simp at h
      · split at h
        · cases h; simp
        · split at h
          · simp at h
          · have := readDelta_shorter bias rest _ _ _ r h
            simp; omega

/-- Inserts one character per delta into `out`; `n`, `bias` and `i` are the decoder's state and
`fuel` bounds the number of deltas. -/
def insertAll (bias n i : Nat) (out : List Char) : Nat → List Char → Option (List Char)
  | _, [] => some out
  | 0, _ :: _ => none
  | fuel + 1, input@(_ :: _) =>
    match readDelta bias input 36 1 i with
    | none => none
    | some (i', rest) =>
      let points := out.length + 1
      let n' := n + i' / points
      if limit < n' || !Nat.isValidChar n' then none
      else
        let pos := i' % points
        insertAll (adapt (i' - i) points (i == 0)) n' (pos + 1)
          (out.insertIdx pos (Char.ofNat n')) fuel rest

/-- The copied characters and the deltas of an encoded label (see the module comment). -/
def splitDeltas (input : List Char) : List Char × List Char :=
  match input.reverse.span (· != '-') with
  | (_, []) => ([], input)
  | (after, _ :: before) =>
    if before.isEmpty then ([], input) else (before.reverse, after.reverse)

/-- Decodes a label (without the `xn--` mark), if it is well formed. -/
def decode? (input : List Char) : Option (List Char) :=
  let (basic, deltas) := splitDeltas input
  if basic.any (fun c => 128 ≤ c.toNat) then none
  else insertAll 72 128 0 basic deltas.length deltas

end Punycode

end Invoicing
