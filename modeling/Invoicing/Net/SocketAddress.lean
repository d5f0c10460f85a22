import Invoicing.Json.Token

/-!
# Socket addresses

A socket address is written `a.b.c.d:port` for IPv4 or `[address%scope]:port` for IPv6, the
scope optional, and the whole text must be the address.
* An IPv4 address has four decimal parts of at most three digits, each at most 255, with no
  leading zero.
* An IPv6 address has up to eight groups of at most four hexadecimal digits separated by `:`,
  where one `::` stands for one or more groups of zeros, and may end in an IPv4 address taking
  the place of two groups.
* A port, and a scope, are decimal numbers of 16 and 32 bits, leading zeros allowed.
A text that is none of these is refused with `invalid socket address syntax`.

What is proved here:
* `port_lt`: a port that reads is below 65536.
-/

namespace Invoicing

namespace SocketAddress

/-- Digits at the front of a text, read in a radix, as a number below `bound`: at least one, at
most `maxDigits` of them when given, and no leading zero when `zeroPrefix` is false. -/
def number (radix bound : Nat) (maxDigits : Option Nat) (zeroPrefix : Bool) (cs : List Char) :
    Option (Nat × List Char) :=
  let digit (c : Char) : Option Nat := (hexValue? c).bind fun d => if d < radix then some d else none
  let ds := cs.takeWhile fun c => (digit c).isSome
  let value := ds.foldl (fun n c => n * radix + (digit c).getD 0) 0
  let tooMany := maxDigits.any fun m => decide (m < ds.length)
  let zeroLed := !zeroPrefix && ds.head? == some '0' && decide (1 < ds.length)
  if value < bound then
    if ds.isEmpty || tooMany || zeroLed then none else some (value, cs.drop ds.length)
  else none

theorem number_lt (radix bound : Nat) (maxDigits : Option Nat) (zeroPrefix : Bool)
    (cs rest : List Char) (n : Nat)
    (h : number radix bound maxDigits zeroPrefix cs = some (n, rest)) : n < bound := by
  unfold number at h
  simp only at h
  split at h
  · rename_i hlt
    split at h
    · cases h
    · simp only [Option.some.injEq, Prod.mk.injEq] at h
      rw [← h.1]
      exact hlt
  · cases h

/-- A given character. -/
def given (c : Char) (cs : List Char) : Option (List Char) :=
  match cs with
  | d :: rest => if c = d then some rest else none
  | [] => none

/-- An IPv4 address as its four parts. -/
def ipv4 (cs : List Char) : Option ((List Nat) × List Char) := do
  let (a, r) ← number 10 256 (some 3) false cs
  let (b, r) ← number 10 256 (some 3) false (← given '.' r)
  let (c, r) ← number 10 256 (some 3) false (← given '.' r)
  let (d, r) ← number 10 256 (some 3) false (← given '.' r)
  pure ([a, b, c, d], r)

/-- Reads up to `limit` groups of an IPv6 address, the first at index `i`: the groups, and
whether they end in an IPv4 address. A group after the first needs its `:`. -/
def groups : Nat → Nat → Nat → List Char → (List Nat × Bool) × List Char
  | 0, _, _, cs => (([], false), cs)
  | fuel + 1, i, limit, cs =>
    if limit ≤ i then (([], false), cs)
    else
      let sep (r : List Char) : Option (List Char) := if i = 0 then some r else given ':' r
      let asIpv4 : Option ((List Nat) × List Char) :=
        if i + 1 < limit then (sep cs).bind ipv4 else none
      match asIpv4 with
      | some ([a, b, c, d], r) => (([a * 256 + b, c * 256 + d], true), r)
      | _ =>
        match (sep cs).bind (number 16 65536 (some 4) true) with
        | some (g, r) =>
          let ((gs, v4), r') := groups fuel (i + 1) limit r
          ((g :: gs, v4), r')
        | none => (([], false), cs)

/-- An IPv6 address as its eight groups. -/
def ipv6 (cs : List Char) : Option ((List Nat) × List Char) :=
  let ((head, headV4), r) := groups 8 0 8 cs
  if head.length = 8 then some (head, r)
  else if headV4 then none
  else do
    let r ← given ':' r
    let r ← given ':' r
    let ((tail, _), r) := groups 8 0 (8 - (head.length + 1)) r
    pure (head ++ List.replicate (8 - head.length - tail.length) 0 ++ tail, r)

/-- A socket address. -/
inductive Address where
  | v4 (parts : List Nat) (port : Nat)
  | v6 (groups : List Nat) (scope : Nat) (port : Nat)
  deriving DecidableEq, Repr

/-- The port after an address. -/
def port (cs : List Char) : Option (Nat × List Char) :=
  (given ':' cs).bind (number 10 65536 none true)

theorem port_lt (cs rest : List Char) (n : Nat) (h : port cs = some (n, rest)) : n < 65536 := by
  simp only [port] at h
  cases hg : given ':' cs with
  | none => rw [hg] at h; cases h
  | some r =>
    rw [hg] at h
    exact number_lt 10 65536 none true r rest n h

/-- An IPv4 socket address. -/
def socketV4 (cs : List Char) : Option (Address × List Char) := do
  let (ip, r) ← ipv4 cs
  let (p, r) ← port r
  pure (.v4 ip p, r)

/-- An IPv6 socket address. -/
def socketV6 (cs : List Char) : Option (Address × List Char) := do
  let r ← given '[' cs
  let (ip, r) ← ipv6 r
  let (scope, r) := match given '%' r with
    | some r' =>
      match number 10 (Nat.pow 2 32) none true r' with
      | some (s, r'') => (s, r'')
      | none => (0, r)
    | none => (0, r)
  let r ← given ']' r
  let (p, r) ← port r
  pure (.v6 ip scope p, r)

/-- Reads a whole text as a socket address. -/
def parse (s : String) : Except String Address :=
  let cs := s.toList
  let reading := match socketV4 cs with
    | some r => some r
    | none => socketV6 cs
  match reading with
  | some (a, []) => .ok a
  | _ => .error "invalid socket address syntax"

end SocketAddress

end Invoicing
