import Invoicing.Idna.Mapping
import Invoicing.Text.Bidi
import Invoicing.Text.Marks
import Invoicing.Text.Punycode

/-!
# Domain names in ASCII

`toAscii?` writes a domain name in ASCII the way web browsers do (UTS #46, non-transitional,
without the STD3 rules and without hyphen or length checks):
1. every character goes through the mapping table (`Idna.status`); a disallowed one fails;
2. the result is cut at dots into labels, and a label starting with `xn--` is decoded from
   Punycode; one that does not decode fails;
3. no label may begin with a combining mark, and every character of a label must be valid in
   the table (which only a decoded label can break);
4. when any label holds a right-to-left letter or an Arabic digit, every label must keep the
   bidirectional rule of RFC 5893;
5. the labels are written back: ASCII labels as they are, the others as `xn--` and their
   Punycode.
-/

namespace Invoicing

namespace Idna

open Bidi

/-- The mapped text of a name, or nothing when a character is disallowed. -/
def mapName (cs : List Char) : Option (List Char) :=
  (cs.mapM fun c =>
    match status c with
    | .valid => some [c]
    | .ignored => some []
    | .mapped image => some image
    | .disallowed => none).map List.flatten

/-- Whether a character is valid in the table as it stands. -/
def isValid (c : Char) : Bool := status c == .valid

/-- The classes that may follow the first letter of a left-to-right label. -/
def leftToRightClasses : List BidiClass :=
  [.leftToRight, .europeanNumber, .europeanSeparator, .commonSeparator, .europeanTerminator,
    .otherNeutral, .boundaryNeutral, .nonspacingMark]

/-- The classes that may follow the first letter of a right-to-left label. -/
def rightToLeftClasses : List BidiClass :=
  [.rightToLeft, .arabicLetter, .arabicNumber, .europeanNumber, .europeanSeparator,
    .commonSeparator, .europeanTerminator, .otherNeutral, .boundaryNeutral, .nonspacingMark]

/-- Whether a character makes a name right-to-left: a right-to-left or Arabic letter, or an
Arabic digit. -/
def isRightToLeft (c : Char) : Bool :=
  [BidiClass.rightToLeft, .arabicLetter, .arabicNumber].contains (classOf c)

/-- Whether a label keeps the bidirectional rule: it starts with a strong letter; a
left-to-right label then holds only left-to-right letters, European digits, separators,
neutrals and marks, and ends, before its trailing marks, with a letter or a European digit; a
right-to-left label holds no left-to-right letter, ends with a right-to-left letter or a digit
and does not mix European and Arabic digits. The empty label keeps it. -/
def keepsBidiRule (label : List Char) : Bool :=
  match label with
  | [] => true
  | c :: rest =>
    let last := (label.reverse.dropWhile fun x => classOf x == .nonspacingMark).head?
    match classOf c with
    | .leftToRight =>
      rest.all (fun x => leftToRightClasses.contains (classOf x)) &&
        match last with
        | some x => classOf x == .leftToRight || classOf x == .europeanNumber
        | none => true
    | .rightToLeft | .arabicLetter =>
      rest.all (fun x => rightToLeftClasses.contains (classOf x)) &&
        (match last with
         | some x => [BidiClass.rightToLeft, .arabicLetter, .europeanNumber, .arabicNumber].contains
             (classOf x)
         | none => false) &&
        !(rest.any (fun x => classOf x == .europeanNumber) &&
          rest.any (fun x => classOf x == .arabicNumber))
    | _ => false

/-- Whether a label passes the checks of step 3. -/
def isGoodLabel (label : List Char) : Bool :=
  match label with
  | [] => true
  | c :: _ => !Marks.isMark c && label.all isValid

/-- A label after decoding, when it is well formed and passes its checks. -/
def readLabel? (label : List Char) : Option (List Char) :=
  let text :=
    match label with
    | 'x' :: 'n' :: '-' :: '-' :: rest => Punycode.decode? rest
    | _ => some label
  text.bind fun t => if isGoodLabel t then some t else none

/-- How a label is written in ASCII. -/
def asciiLabel (label : List Char) : List Char :=
  if label.all (·.toNat < 128) then label else "xn--".toList ++ Punycode.encode label

/-- The ASCII form of a domain name, or nothing when it fails (see the module comment). -/
def toAscii? (name : String) : Option String := do
  let mapped ← mapName name.toList
  let labels ← ((String.ofList mapped).splitOn ".").mapM (readLabel? ·.toList)
  if labels.any (·.any isRightToLeft) && !labels.all keepsBidiRule then none
  else pure (".".intercalate (labels.map fun l => String.ofList (asciiLabel l)))

end Idna

end Invoicing
