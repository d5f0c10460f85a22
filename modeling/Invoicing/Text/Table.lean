/-!
# Tables kept as text

Character property tables are written as words of text: hexadecimal code points, each starting
an entry that holds up to the next one. This module reads the numbers and finds, in an array of
entries sorted by start, the entry that covers a code point: the last one starting at or before
it, found by halving the range of candidates.
-/

namespace Invoicing

namespace Table

/-- Reads a hexadecimal number written with capital letters. -/
def hex? (cs : List Char) : Option Nat :=
  if cs.isEmpty then none
  else cs.foldlM (fun acc c =>
    if c.isDigit then some (acc * 16 + (c.toNat - 48))
    else if 'A' ≤ c && c ≤ 'F' then some (acc * 16 + (c.toNat - 55))
    else none) 0

/-- Reads a hexadecimal number, negative after a leading `-`. -/
def signedHex? : List Char → Option Int
  | '-' :: cs => (hex? cs).map fun n => -(n : Int)
  | cs => (hex? cs).map fun n => (n : Int)

/-- The index of the last entry among `lo` to `hi` whose start is at or before `n`, given that
the one at `lo` is; `fuel` bounds the halvings. -/
def locate {α : Type} (start : α → Nat) (xs : Array α) (n : Nat) : Nat → Nat → Nat → Nat
  | 0, lo, _ => lo
  | fuel + 1, lo, hi =>
    if hi ≤ lo then lo
    else
      let mid := (lo + hi + 1) / 2
      match xs[mid]? with
      | some x =>
        if start x ≤ n then locate start xs n fuel mid hi
        else locate start xs n fuel lo (mid - 1)
      | none => lo

/-- The entry covering `n` in a table whose first entry starts at zero. -/
def cover? {α : Type} (start : α → Nat) (xs : Array α) (n : Nat) : Option α :=
  xs[locate start xs n 64 0 (xs.size - 1)]?

theorem hex?_nil : hex? [] = none := rfl

end Table

end Invoicing
