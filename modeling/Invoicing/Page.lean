/-!
# Pages of a listing

A page request has a page number from 1 and a page size from 1 to 100. A missing or smaller
page number is 1; a missing size or one outside that range is 20. The rows of a page start at
`(page - 1) * size`, which stops at the largest 64-bit value.

The program computes in signed 64-bit arithmetic that stops on overflow. `offset64` and
`totalPages64` follow its evaluation step by step: `offset` and `totalPages` are their values
where no step overflows. The product of the offset saturates, but the sum `total + size` of the
page count is not guarded.

What is proved here:
* `PageRequest.make_size`: the size always lies in `[1, 100]`.
-/

namespace Invoicing

/-- The largest signed 64-bit value. -/
def int64Max : Int := Int.pow 2 63 - 1

/-- The smallest signed 64-bit value. -/
def int64Min : Int := -Int.pow 2 63

/-- The result `x` of a signed 64-bit operation `what` in a build that checks for overflow: `x`
when it is a 64-bit value, otherwise the program stops with the overflow message. -/
def checked64 (what : String) (x : Int) : Except String Int :=
  if int64Min ≤ x ∧ x ≤ int64Max then .ok x else .error ("attempt to " ++ what ++ " with overflow")

/-- A signed 64-bit product that stops at the largest and the smallest value. -/
def saturatingMul64 (a b : Int) : Int := max int64Min (min (a * b) int64Max)

/-- A signed 64-bit quotient, truncated toward zero; dividing by zero stops the program. -/
def div64 (a b : Int) : Except String Int :=
  if b = 0 then .error "attempt to divide by zero" else checked64 "divide" (a.tdiv b)

/-- A page number and a page size. -/
structure PageRequest where
  page : Int
  size : Int
  deriving DecidableEq, Repr

namespace PageRequest

/-- The size used when none or an unusable one is given. -/
def defaultSize : Int := 20

/-- The largest size. -/
def maxSize : Int := 100

/-- The page request for the given numbers (see the module comment). -/
def make (page size : Option Int) : PageRequest :=
  let p := match page with
    | some p => if 1 ≤ p then p else 1
    | none => 1
  let s := match size with
    | some s => if 1 ≤ s ∧ s ≤ maxSize then s else defaultSize
    | none => defaultSize
  ⟨p, s⟩

/-- The number of rows before the page, stopping at the largest 64-bit value. -/
def offset (r : PageRequest) : Int := min ((r.page - 1) * r.size) int64Max

/-- The number of rows on a page. -/
def limit (r : PageRequest) : Int := r.size

/-- The number of pages that `total` rows fill. -/
def totalPages (r : PageRequest) (total : Int) : Int :=
  if total ≤ 0 then 0 else (total + r.size - 1) / r.size

/-- `offset` as the program evaluates it: `page - 1`, then the saturating product. -/
def offset64 (r : PageRequest) : Except String Int := do
  let before ← checked64 "subtract" (r.page - 1)
  pure (saturatingMul64 before r.size)

/-- `totalPages` as the program evaluates it: `total + size`, then `- 1`, then the quotient,
each step in 64-bit arithmetic. -/
def totalPages64 (r : PageRequest) (total : Int) : Except String Int :=
  if total ≤ 0 then .ok 0
  else do
    let sum ← checked64 "add" (total + r.size)
    let last ← checked64 "subtract" (sum - 1)
    div64 last r.size

theorem make_size (page size : Option Int) :
    1 ≤ (make page size).size ∧ (make page size).size ≤ maxSize := by
  unfold make
  cases size with
  | none => simp [defaultSize, maxSize]
  | some s =>
    simp only
    split <;> simp_all [defaultSize, maxSize]

end PageRequest

end Invoicing
