import Invoicing.Decode.Basic

/-!
# UUIDs

A `Uuid` is a 128-bit identifier, written as 32 lowercase hexadecimal digits in groups of 8, 4,
4, 4 and 12 separated by hyphens.

`Uuid.parse?` reads four forms, in either case: the 32 digits alone, the hyphenated form, the
hyphenated form in braces, and the hyphenated form after `urn:uuid:` (the prefix in either case
too). A text of none of these shapes is refused with the first fault found in what stands inside
the braces or after the prefix:
* a character that is neither a hexadecimal digit nor a hyphen, with its byte position there;
  after the prefix, when the whole text is not 45 bytes long, the length of the text instead;
* for a text without hyphens, braces or prefix that is not 36 bytes long, its length;
* a number of hyphen-separated groups other than five;
* the first group of the wrong length.

As JSON a UUID is a string; a string that does not parse is refused with the parse failure.
-/

namespace Invoicing

/-- A 128-bit identifier. -/
structure Uuid where
  value : Nat
  deriving DecidableEq, Repr, Inhabited

/-- Why a text is no UUID. -/
inductive UuidError where
  | character (c : Char) (index : Nat)
  | length (len : Nat)
  | groupCount (count : Nat)
  | groupLength (group len : Nat)
  deriving DecidableEq, Repr

/-- The text of a parse failure. -/
def UuidError.message : UuidError → String
  | .character c i => "invalid character: found `" ++ String.singleton c ++ "` at " ++ toString i
  | .length n => "invalid length: found " ++ toString n
  | .groupCount n => "invalid group count: expected 5, found " ++ toString n
  | .groupLength g n =>
    "invalid group length in group " ++ toString g ++ ": expected " ++
      toString ([8, 4, 4, 4, 12].getD g 0) ++ ", found " ++ toString n

namespace Uuid

/-- The value of a hexadecimal digit, in either case. -/
def hexDigitValue? (c : Char) : Option Nat :=
  if '0' ≤ c && c ≤ '9' then some (c.toNat - 48)
  else if 'a' ≤ c && c ≤ 'f' then some (c.toNat - 87)
  else if 'A' ≤ c && c ≤ 'F' then some (c.toNat - 55)
  else none

/-- The number written by hexadecimal digits, if all of them are. -/
def hexValue? (cs : List Char) : Option Nat :=
  cs.foldl (fun acc c => acc.bind fun n => (hexDigitValue? c).map fun d => n * 16 + d) (some 0)

/-- The lowercase hexadecimal digit of a number below 16. -/
def digitChar (n : Nat) : Char :=
  if n < 10 then Char.ofNat (48 + n) else Char.ofNat (87 + n)

/-- The 32 hexadecimal digits of the value, most significant first. -/
def digits (u : Uuid) : List Char :=
  (List.range 32).reverse.map fun i => digitChar (u.value / Nat.pow 16 i % 16)

/-- The hyphenated lowercase form. -/
def text (u : Uuid) : String :=
  let ds := u.digits
  String.ofList (ds.take 8) ++ "-" ++ String.ofList ((ds.drop 8).take 4) ++ "-" ++
    String.ofList ((ds.drop 12).take 4) ++ "-" ++ String.ofList ((ds.drop 16).take 4) ++ "-" ++
    String.ofList (ds.drop 20)

/-- The hyphenated form: 36 characters with hyphens at positions 8, 13, 18 and 23. -/
def hyphenated? (cs : List Char) : Option Uuid :=
  if cs.length = 36 && cs[8]? = some '-' && cs[13]? = some '-' && cs[18]? = some '-' &&
      cs[23]? = some '-' then
    (hexValue? (cs.filter (· != '-'))).bind fun n =>
      if (cs.filter (· == '-')).length = 4 then some ⟨n⟩ else none
  else none

/-- Whether a text starts with `urn:uuid:`, each letter in either case: the nine bytes are
compared ignoring ASCII case, as the parser of the UUID library release the program is built with
does (it reads `URN:UUID:` and `Urn:Uuid:` as the prefix; other letters are not folded). -/
def hasUrnPrefix (cs : List Char) : Bool :=
  let lower (c : Char) : Char := if 'A' ≤ c && c ≤ 'Z' then Char.ofNat (c.toNat + 32) else c
  (cs.take 9).map lower = "urn:uuid:".toList

example : hasUrnPrefix "URN:uuid:".toList = true ∧ hasUrnPrefix "Urn:Uuid:".toList = true ∧
    hasUrnPrefix "urn-uuid:".toList = false := by
  decide

/-- The four accepted forms, by their length in bytes. -/
def accept? (s : String) : Option Uuid :=
  let cs := s.toList
  let n := s.utf8ByteSize
  if n = 32 then
    if cs.all (fun c => (hexDigitValue? c).isSome) then (hexValue? cs).map (⟨·⟩) else none
  else if n = 36 then hyphenated? cs
  else if n = 38 && cs.head? = some '{' && cs.getLast? = some '}' then
    hyphenated? ((cs.drop 1).dropLast)
  else if n = 45 && hasUrnPrefix cs then hyphenated? (cs.drop 9)
  else none

/-- The byte positions where the characters of a list start, from `start`. -/
def positions (start : Nat) : List Char → List (Nat × Char)
  | [] => []
  | c :: rest => (start, c) :: positions (start + c.utf8Size) rest

/-- The first fault of a text that is no UUID (see the module comment). -/
def fault (s : String) : UuidError :=
  let cs := s.toList
  let size := s.utf8ByteSize
  let (inner, urn, plain) : List Char × Bool × Bool :=
    if cs.head? = some '{' && cs.getLast? = some '}' && 2 ≤ cs.length then
      ((cs.drop 1).dropLast, false, false)
    else if hasUrnPrefix cs then (cs.drop 9, true, false)
    else (cs, false, true)
  let indexed := positions 0 inner
  match indexed.find? (fun (_, c) => c != '-' && (hexDigitValue? c).isNone) with
  | some (i, c) => if urn && size != 45 then .length size else .character c i
  | none =>
    let hyphens := (indexed.filter (fun (_, c) => c == '-')).map Prod.fst
    if hyphens.isEmpty && plain && size != 36 then .length size
    else if hyphens.length != 4 then .groupCount (hyphens.length + 1)
    else
      let starts := [0, 9, 14, 19, 24]
      let bad := (List.range 4).find? fun g => hyphens[g]? != some (starts.getD (g + 1) 0 - 1)
      match bad with
      | some g => .groupLength g (hyphens.getD g 0 - starts.getD g 0)
      | none => .groupLength 4 ((String.ofList inner).utf8ByteSize - 24)

/-- Reads a UUID (see the module comment). -/
def parse? (s : String) : Except UuidError Uuid :=
  match accept? s with
  | some u => .ok u
  | none => .error (fault s)

/-- What a UUID is called in messages. -/
def expected : String := "a formatted UUID string"

/-- Reads a UUID given as a JSON string. -/
def decoder : Decoder Uuid := do
  let s ← Decoder.string expected
  match parse? s with
  | .ok u => pure u
  | .error e => Decoder.dataError ("UUID parsing failed: " ++ e.message)

end Uuid

end Invoicing
