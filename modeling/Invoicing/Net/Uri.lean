/-!
# URI syntax

An endpoint is given as a URI: a path starting with `/`, an authority alone (`host:port`), or an
absolute URI `scheme://authority/path?query`. The check reads it the way an HTTP client does:
* a scheme is found when `http://` or `https://` starts the text (in any case), or when letters,
  digits, `+`, `-` and `.` are followed by `://` in a text longer than three characters;
* an authority runs to the first `/`, `?` or `#`, holds only URI characters (`%` only within
  user information or after a `[`), at most one port colon outside brackets, balanced brackets,
  and does not end right after an `@`;
* a path and a query hold only the characters allowed there.
A failure is named: `invalid uri character`, `invalid scheme`, `invalid authority`,
`invalid format`, `uri too long`, `empty string` or `scheme too long`.
-/

namespace Invoicing

namespace Uri

/-- Why a text is no URI. -/
inductive Fault where
  | invalidUriChar
  | invalidAuthority
  | invalidFormat
  | tooLong
  | empty
  | schemeTooLong
  deriving DecidableEq, Repr

/-- The text of a fault. -/
def Fault.text : Fault → String
  | .invalidUriChar => "invalid uri character"
  | .invalidAuthority => "invalid authority"
  | .invalidFormat => "invalid format"
  | .tooLong => "uri too long"
  | .empty => "empty string"
  | .schemeTooLong => "scheme too long"

/-- Whether a character may stand in a scheme. -/
def schemeChar (c : Char) : Bool := c.isAlphanum || c == '+' || c == '-' || c == '.'

/-- Whether a character may stand in a URI outside a path or query. -/
def uriChar (c : Char) : Bool :=
  c.isAlphanum || "!#$&'()*+,-./:;=?@[]_~".toList.contains c

/-- Whether a character may stand in a path. -/
def pathChar (c : Char) : Bool :=
  let n := c.toNat
  n = 0x21 || (0x24 ≤ n && n ≤ 0x3B) || n = 0x3D || (0x40 ≤ n && n ≤ 0x5F) ||
    (0x61 ≤ n && n ≤ 0x7A) || n = 0x7C || n = 0x7E || c == '"' || c == '{' || c == '}'

/-- Whether a character may stand in a query. -/
def queryChar (c : Char) : Bool :=
  let n := c.toNat
  n = 0x21 || (0x24 ≤ n && n ≤ 0x3B) || n = 0x3D || (0x3F ≤ n && n ≤ 0x7E)

/-- The longest scheme. -/
def maxSchemeLength : Nat := 64

/-- The longest URI. -/
def maxLength : Nat := 65534

/-- The length of the scheme with its `://` at the front of a text, if there is one. -/
def schemeLength (cs : List Char) : Except Fault (Option Nat) :=
  let lower := cs.map Char.toLower
  if 7 ≤ cs.length ∧ lower.take 7 = "http://".toList then .ok (some 7)
  else if 8 ≤ cs.length ∧ lower.take 8 = "https://".toList then .ok (some 8)
  else if cs.length ≤ 3 then .ok none
  else
    let name := cs.takeWhile schemeChar
    let i := name.length
    match cs.drop i with
    | ':' :: '/' :: '/' :: _ =>
      if maxSchemeLength < i then .error .schemeTooLong else .ok (some (i + 3))
    | _ => .ok none

/-- The state of reading an authority. -/
structure AuthorityScan where
  colons : Nat := 0
  openBracket : Bool := false
  closeBracket : Bool := false
  percent : Bool := false
  at_ : Option Nat := none

/-- Reads an authority from position `i`: where it ends, or the fault. -/
def authorityEnd (s : AuthorityScan) (i : Nat) : List Char → Except Fault (AuthorityScan × Nat)
  | [] => .ok (s, i)
  | c :: rest =>
    if c = '/' ∨ c = '?' ∨ c = '#' then .ok (s, i)
    else if c = ':' then
      if 8 ≤ s.colons then .error .invalidAuthority
      else authorityEnd { s with colons := s.colons + 1 } (i + 1) rest
    else if c = '[' then
      if s.percent ∨ s.openBracket then .error .invalidAuthority
      else authorityEnd { s with openBracket := true } (i + 1) rest
    else if c = ']' then
      if !s.openBracket ∨ s.closeBracket then .error .invalidAuthority
      else authorityEnd { s with closeBracket := true, colons := 0, percent := false } (i + 1) rest
    else if c = '@' then
      authorityEnd { s with at_ := some i, colons := 0, percent := false } (i + 1) rest
    else if c = '%' then authorityEnd { s with percent := true } (i + 1) rest
    else if c.toNat < 128 ∧ uriChar c then authorityEnd s (i + 1) rest
    else .error .invalidUriChar

/-- The length of the authority at the front of a text, or the fault. -/
def authority (cs : List Char) : Except Fault Nat := do
  let (s, n) ← authorityEnd {} 0 cs
  if s.openBracket ≠ s.closeBracket then throw .invalidAuthority
  if 1 < s.colons then throw .invalidAuthority
  if 0 < n ∧ s.at_ = some (n - 1) then throw .invalidAuthority
  if s.percent then throw .invalidAuthority
  pure n

/-- Checks a query after its `?`. -/
def checkQuery : List Char → Except Fault Unit
  | [] => .ok ()
  | c :: rest =>
    if c = '#' then .ok ()
    else if c.toNat < 128 ∧ queryChar c then checkQuery rest
    else .error .invalidUriChar

/-- Checks a path and query. -/
def checkPath : List Char → Except Fault Unit
  | [] => .ok ()
  | c :: rest =>
    if c = '?' then checkQuery rest
    else if c = '#' then .ok ()
    else if c.toNat < 128 ∧ pathChar c then checkPath rest
    else .error .invalidUriChar

/-- Checks a text as a URI. -/
def check (s : String) : Except Fault Unit := do
  let cs := s.toList
  if maxLength < (String.toUTF8 s).size then throw .tooLong
  match cs with
  | [] => throw .empty
  | [c] =>
    if c = '/' ∨ c = '*' then pure ()
    else
      let n ← authority cs
      if n ≠ 1 then throw .invalidUriChar
  | '/' :: _ => checkPath cs
  | _ =>
    let scheme ← schemeLength cs
    let rest := cs.drop (scheme.getD 0)
    let n ← authority rest
    match scheme with
    | none => if n ≠ rest.length then throw .invalidFormat
    | some _ =>
      if n = 0 then throw .invalidFormat
      checkPath (rest.drop n)

end Uri

end Invoicing
