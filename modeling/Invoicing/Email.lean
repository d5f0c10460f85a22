import Invoicing.Idna.Ascii

/-!
# E-mail addresses

An address is accepted when it has an `@`, and, splitting at the last one:
* the local part has at most 64 characters, at least one, all of them ASCII letters, digits or
  ``.!#$%&'*+/=?^_`{|}~-``;
* the domain has at most 255 characters and is either a host name, an address literal, or a
  name whose ASCII form (`Idna.toAscii?`) is one of these.

A host name is a dot-separated list of labels of 1 to 63 ASCII letters, digits and hyphens,
neither starting nor ending with a hyphen. An address literal is a domain ending in `[…]` whose
inside, after the last `[`, is made of hexadecimal digits, `:` and `.` and is an IPv4 or IPv6
address.
-/

namespace Invoicing

namespace Email

/-- Whether a character is an ASCII letter. -/
def isLetter (c : Char) : Bool :=
  ('a' ≤ c && c ≤ 'z') || ('A' ≤ c && c ≤ 'Z')

/-- Whether a character is a letter or an ASCII digit. -/
def isAlnum (c : Char) : Bool := isLetter c || c.isDigit

/-- Whether a character may stand in the local part. -/
def isLocalChar (c : Char) : Bool :=
  isAlnum c || ".!#$%&'*+/=?^_`\x7b|\x7d~-".toList.contains c

/-- Whether a label is 1 to 63 letters, digits and inner hyphens. -/
def isLabel (cs : List Char) : Bool :=
  match cs.head?, cs.getLast? with
  | some a, some z =>
    cs.length ≤ 63 && isAlnum a && isAlnum z && cs.all (fun c => isAlnum c || c = '-')
  | _, _ => false

/-- Whether a text is a host name. -/
def isHostName (s : String) : Bool :=
  (s.splitOn ".").all (fun l => isLabel l.toList)

/-- Reads a decimal octet: no leading zero, at most 255. -/
def octet? (s : String) : Option Nat :=
  let cs := s.toList
  if cs.isEmpty || 3 < cs.length || !cs.all Char.isDigit then none
  else if cs.length > 1 && cs.head? = some '0' then none
  else
    let n := cs.foldl (fun acc c => acc * 10 + (c.toNat - 48)) 0
    if n ≤ 255 then some n else none

/-- Whether a text is a dotted IPv4 address. -/
def isIpv4 (s : String) : Bool :=
  let parts := s.splitOn "."
  parts.length = 4 && parts.all (fun p => (octet? p).isSome)

/-- Whether a text is one to four hexadecimal digits. -/
def isHexGroup (s : String) : Bool :=
  let cs := s.toList
  !cs.isEmpty && cs.length ≤ 4 && cs.all Char.isHexDigit

/-- The number of 16-bit groups a colon-separated run stands for, if it is well formed: hex
groups, the last of which may be a dotted IPv4 address counting twice. -/
def groupCount? (parts : List String) (ipv4Last : Bool) : Option Nat :=
  match parts.reverse with
  | [] => some 0
  | last :: before =>
    if before.all isHexGroup then
      if isHexGroup last then some (parts.length)
      else if ipv4Last && isIpv4 last then some (parts.length + 1)
      else none
    else none

/-- Whether a text is an IPv6 address: eight groups, or fewer with one `::` standing for the
missing ones, the last 32 bits possibly written as IPv4. -/
def isIpv6 (s : String) : Bool :=
  match s.splitOn "::" with
  | [whole] =>
    match groupCount? (whole.splitOn ":") true with
    | some n => n = 8
    | none => false
  | [front, back] =>
    let fs := if front.isEmpty then [] else front.splitOn ":"
    let bs := if back.isEmpty then [] else back.splitOn ":"
    match groupCount? fs false, groupCount? bs true with
    | some a, some b => a + b < 8
    | _, _ => false
  | _ => false

/-- Whether a character may stand inside an address literal. -/
def isLiteralChar (c : Char) : Bool :=
  c.isHexDigit || c = ':' || c = '.'

/-- The inside of the address literal that ends a domain: what stands between a `[` and the
final `]` when it is not empty and made only of literal characters. As `[` is not one of them,
this is the text after the last `[`. -/
def literal? (cs : List Char) : Option String :=
  match cs.getLast? with
  | some ']' =>
    let body := cs.dropLast
    let rec scan : List Char → Option String
      | [] => none
      | c :: rest =>
        if c = '[' && !rest.isEmpty && rest.all isLiteralChar then some (String.ofList rest)
        else scan rest
    scan body
  | _ => none

/-- Whether a domain is a host name or an address literal. -/
def isDomain (s : String) : Bool :=
  isHostName s ||
    match literal? s.toList with
    | some inner => isIpv4 inner || isIpv6 inner
    | none => false

/-- Whether a text is an acceptable e-mail address (see the module comment). -/
def isValid (s : String) : Bool :=
  let cs := s.toList
  if cs.isEmpty || !cs.contains '@' then false
  else
    let domain := cs.reverse.takeWhile (· != '@') |>.reverse
    let user := (cs.reverse.dropWhile (· != '@')).drop 1 |>.reverse
    if 64 < user.length || 255 < domain.length then false
    else if user.isEmpty || !user.all isLocalChar then false
    else
      let d := String.ofList domain
      isDomain d ||
        match Idna.toAscii? d with
        | some a => isDomain a
        | none => false

end Email

end Invoicing
