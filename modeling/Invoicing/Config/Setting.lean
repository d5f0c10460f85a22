import Invoicing.Json.Binary64
import Invoicing.Decode.Error

/-!
# Settings

A configuration source yields settings: nothing, a truth value, a whole number, a real number,
a text, or a compound (a map or a sequence). Each carries its origin, the file it was read from
or the environment, which error messages name.

Reading a setting as the port follows the loose rules of the listener settings:
* a text may be `true`, `on` or `yes` (1) or `false`, `off` or `no` (0), in any case, or an
  unsigned decimal number with an optional `+`;
* a truth value is 1 or 0, and a real number is rounded half away from zero and clamped to the
  unsigned 64-bit range;
* the number must then fit in 16 bits.
Reading a setting as the host accepts any scalar, written out as text.

What is proved here:
* `port_lt`: a port that reads is below 65536.
-/

namespace Invoicing

namespace Config

/-- A real number as a binary64 value: finite, infinite, or not a number. -/
inductive Floating where
  | finite (x : Binary64)
  | infinite (neg : Bool)
  | nan
  deriving DecidableEq, Repr

/-- The text of a real number: the shortest digits that read back, with no exponent. -/
def Floating.text : Floating → String
  | .finite x => x.toPlainText
  | .infinite neg => if neg then "-inf" else "inf"
  | .nan => "NaN"

/-- Reads a real number written in decimal: an optional sign, then `inf`, `infinity` or `nan`
in any case, or digits with an optional point and fraction (at least one digit in all) and an
optional exponent `e` or `E` with an optional sign and at least one digit. The value is the
binary64 nearest to the text; past the largest finite value it is infinite. -/
def Floating.read? (cs : List Char) : Option Floating :=
  let (neg, body) := match cs with
    | '-' :: r => (true, r)
    | '+' :: r => (false, r)
    | r => (false, r)
  let lower := body.map Char.toLower
  if lower = "inf".toList || lower = "infinity".toList then some (.infinite neg)
  else if lower = "nan".toList then some .nan
  else
    let whole := body.takeWhile Char.isDigit
    let r := body.drop whole.length
    let (frac, r) := match r with
      | '.' :: r' => (r'.takeWhile Char.isDigit, r'.dropWhile Char.isDigit)
      | _ => ([], r)
    let value (ds : List Char) : Nat := ds.foldl (fun n c => n * 10 + (c.toNat - 48)) 0
    let exponent : Option Int := match r with
      | [] => some 0
      | e :: r' =>
        if e = 'e' || e = 'E' then
          let (eneg, ds) := match r' with
            | '-' :: ds => (true, ds)
            | '+' :: ds => (false, ds)
            | ds => (false, ds)
          if ds.isEmpty || !ds.all Char.isDigit then none
          else some (if eneg then -(value ds : Int) else value ds)
        else none
    if whole.isEmpty && frac.isEmpty then none
    else exponent.map fun e =>
      match Binary64.ofDecimal? neg (value (whole ++ frac)) (e - frac.length) with
      | some x => .finite x
      | none => .infinite neg

/-- The largest unsigned 64-bit number. -/
def maxUnsigned : Nat := Nat.pow 2 64 - 1

/-- A real number rounded half away from zero, clamped to the unsigned 64-bit range; not a
number is zero. -/
def Floating.toUnsigned : Floating → Nat
  | .finite x =>
    if x.neg then 0
    else
      let (n, d) := x.ratio
      min ((2 * n + d) / (2 * d)) maxUnsigned
  | .infinite neg => if neg then 0 else maxUnsigned
  | .nan => 0

/-- A setting as a source yields it. -/
inductive Setting where
  | nil
  | bool (b : Bool)
  /-- A whole number in the signed or unsigned 64-bit range. -/
  | int (i : Int)
  | real (r : Floating)
  | text (s : String)
  | map
  | seq
  deriving DecidableEq, Repr

/-- How a setting is named when it is not what was wanted. -/
def Setting.unexpected : Setting → String
  | .nil => "unit value"
  | .bool b => "boolean `" ++ toString b ++ "`"
  | .int i =>
    if i < Int.pow 2 63 then "64-bit integer `" ++ toString i ++ "`"
    else "64-bit unsigned integer `" ++ toString i ++ "`"
  | .real r => "floating point `" ++ r.text ++ "`"
  | .text s => "string " ++ showString s
  | .map => "map"
  | .seq => "sequence"

/-- A setting with the place it came from. -/
structure Sourced where
  origin : Option String
  value : Setting
  deriving DecidableEq, Repr

/-- A setting of the wrong kind: what was met, what was wanted, the key and the origin. -/
structure Mismatch where
  found : String
  wanted : String
  key : Option String := none
  origin : Option String := none
  deriving DecidableEq, Repr

/-- The text of a mismatch. -/
def Mismatch.text (m : Mismatch) : String :=
  "invalid type: " ++ m.found ++ ", expected " ++ m.wanted ++
    (match m.key with | some k => " for key `" ++ k ++ "`" | none => "") ++
    (match m.origin with | some o => " in " ++ o | none => "")

/-- ASCII letters in lower case. -/
def lowerAscii (s : String) : String :=
  String.ofList (s.toList.map fun c => if 'A' ≤ c ∧ c ≤ 'Z' then Char.ofNat (c.toNat + 32) else c)

/-- Decimal digits as a number no larger than `limit`: `none` for an empty list, a character
that is no digit, or a value past the limit. -/
def digitsUpTo (limit : Nat) : List Char → Nat → Option Nat
  | [], acc => some acc
  | c :: rest, acc =>
    if c.isDigit then
      let next := acc * 10 + (c.toNat - 48)
      if limit < next then none else digitsUpTo limit rest next
    else none

/-- An unsigned decimal number of at most `limit`, with an optional leading `+`. -/
def readUnsigned (limit : Nat) (s : String) : Option Nat :=
  match s.toList with
  | [] => none
  | ['+'] => none
  | '+' :: rest => digitsUpTo limit rest 0
  | cs => digitsUpTo limit cs 0

/-- A setting read as an unsigned 64-bit number. -/
def Sourced.unsigned (s : Sourced) : Except Mismatch Nat :=
  let refuse (found wanted : String) : Except Mismatch Nat :=
    .error { found := found, wanted := wanted, origin := s.origin }
  match s.value with
  | .nil | .map | .seq => refuse s.value.unexpected "an integer"
  | .bool b => .ok (if b then 1 else 0)
  | .int i =>
    if 0 ≤ i then .ok i.toNat
    else refuse s.value.unexpected "an unsigned 64 bit or less integer"
  | .real r => .ok r.toUnsigned
  | .text t =>
    let l := lowerAscii t
    if l = "true" ∨ l = "on" ∨ l = "yes" then .ok 1
    else if l = "false" ∨ l = "off" ∨ l = "no" then .ok 0
    else
      match readUnsigned maxUnsigned t with
      | some n => .ok n
      | none => refuse s.value.unexpected "an integer"

/-- A setting read as a port. -/
def Sourced.port (s : Sourced) : Except Mismatch Nat := do
  let n ← s.unsigned
  if n < 65536 then pure n
  else
    throw
      { found := "64-bit unsigned integer `" ++ toString n ++ "`"
        wanted := "an unsigned 16 bit integer" }

/-- A setting read as a text. -/
def Sourced.text (s : Sourced) : Except Mismatch String :=
  match s.value with
  | .text t => .ok t
  | .bool b => .ok (toString b)
  | .int i => .ok (toString i)
  | .real r => .ok r.text
  | v => .error { found := v.unexpected, wanted := "a string", origin := s.origin }

theorem port_lt (s : Sourced) (n : Nat) (h : s.port = .ok n) : n < 65536 := by
  simp only [Sourced.port] at h
  cases hu : s.unsigned with
  | error e => rw [hu] at h; cases h
  | ok m =>
    rw [hu] at h
    by_cases hm : m < 65536
    · simp only [bind, Except.bind, hm, if_true, pure, Except.pure, Except.ok.injEq] at h
      omega
    · simp only [bind, Except.bind, hm, if_false] at h
      cases h

end Config

end Invoicing
