import Invoicing.Proofs.Quota
import Mathlib.Data.Rat.Floor

/-!
# Listings, a page at a time

Both listings read a page of an account's rows: its invoices (of one status, if the trimmed
filter names one) and its active clients. The page number is made at least one, the size is kept
when it lies in `[1, 100]` and is twenty otherwise; the listing counts the matching rows, orders
them newest first with ties by identity (`newerFirst`), and returns the rows at positions
`[(page - 1) * size, page * size)` with the number of pages the rows fill, the ceiling of their
number over the size (`Listed`). The offset stops at the largest 64-bit value, which changes
nothing while the rows are fewer than that. The program counts the pages in 64-bit arithmetic,
where `total + size` overflows for the `size` largest totals (`PageRequest.totalPages64_make`);
the listings are described for stores whose rows stay below the largest 64-bit value by at least
the largest page size, where the count never overflows and is the ceiling
(`PageRequest.totalPages64_of_fits`).

Pages one to the number of pages then hand out every matching row once and in order, and every
later page is empty (`Listed.pages_cover`).

What is proved here:
* `listings_paged`: both listings return such pages, from every store that is up and fails no
  statement, for every account and request; a filter that names no status is invalid input.
-/

namespace Invoicing

open StoreOp Service

/-! ## Slices of rows -/

/-- The rows at positions `[(page - 1) * size, page * size)` of `rows`. -/
def pageSlice {α : Type} (rows : List α) (page size : Int) : List α :=
  (rows.drop ((page - 1) * size).toNat).take size.toNat

theorem pageSlice_natCast {α : Type} (rows : List α) (i k : Nat) :
    pageSlice rows (i + 1) k = (rows.drop (i * k)).take k := by
  simp only [pageSlice, add_sub_cancel_right, Int.toNat_natCast]
  rw [← Int.natCast_mul, Int.toNat_natCast]

/-- Chunks of `k` rows, `n` of them, cover every row once and in order when they have room for
all of them. -/
theorem flatten_chunks {α : Type} (k : Nat) (n : Nat) (rows : List α)
    (hroom : rows.length ≤ n * k) :
    ((List.range n).map fun i => (rows.drop (i * k)).take k).flatten = rows := by
  -- induction on the number of chunks: the first chunk, then the chunks of the rest
  induction n generalizing rows with
  | zero => simp_all
  | succ n ih =>
    have hrest : (rows.drop k).length ≤ n * k := by
      rw [List.length_drop, Nat.succ_mul] at *
      omega
    rw [List.range_succ_eq_map, List.map_cons, List.map_map, List.flatten_cons]
    have hshift : ((fun i => (rows.drop (i * k)).take k) ∘ Nat.succ) =
        fun i => ((rows.drop k).drop (i * k)).take k := by
      funext i
      simp only [Function.comp, List.drop_drop, Nat.succ_mul, Nat.add_comm]
    rw [hshift, ih _ hrest, Nat.zero_mul, List.drop_zero, List.take_append_drop]

/-- Chunks past the rows are empty. -/
theorem chunk_past {α : Type} {k n i : Nat} {rows : List α} (hroom : rows.length ≤ n * k)
    (hi : n ≤ i) : (rows.drop (i * k)).take k = [] := by
  rw [List.drop_eq_nil_of_le (hroom.trans (Nat.mul_le_mul_right k hi)), List.take_nil]

/-! ## The page request -/

namespace PageRequest

variable (page size : Option Int)

theorem make_page : (make page size).page = max 1 (page.getD 1) := by
  unfold make
  cases page with
  | none => rfl
  | some p =>
    simp only [Option.getD_some]
    split <;> omega

theorem make_size_eq :
    (make page size).size = (size.filter fun n => 1 ≤ n && n ≤ maxSize).getD defaultSize := by
  unfold make
  cases size with
  | none => rfl
  | some n =>
    simp only [Option.filter, Bool.and_eq_true, decide_eq_true_eq]
    split <;> simp_all

/-- The number of pages that `total` rows fill is the ceiling of `total` over the size. -/
theorem totalPages_eq_ceil (r : PageRequest) (hsize : 1 ≤ r.size) {total : Int}
    (htotal : 0 ≤ total) : r.totalPages total = ⌈(total : ℚ) / r.size⌉ := by
  unfold totalPages
  split
  · have : total = 0 := by omega
    simp [this]
  · -- write the numerator as quotient and remainder by the size
    have hdiv := Int.mul_ediv_add_emod (total + r.size - 1) r.size
    have hlt := Int.emod_lt_of_pos (total + r.size - 1) (b := r.size) (by omega)
    have hnn := Int.emod_nonneg (total + r.size - 1) (b := r.size) (by omega)
    have hpos : (0 : ℚ) < r.size := by exact_mod_cast (by omega : (0 : Int) < r.size)
    symm
    rw [Int.ceil_eq_iff, lt_div_iff₀ hpos, div_le_iff₀ hpos]
    constructor
    · have : ((total + r.size - 1) / r.size - 1) * r.size < total := by
        rw [sub_mul, one_mul, mul_comm]
        omega
      exact_mod_cast this
    · have : total ≤ (total + r.size - 1) / r.size * r.size := by
        rw [mul_comm]
        omega
      exact_mod_cast this

/-! ### In 64-bit arithmetic -/

theorem checked64_ok {what : String} {x : Int} (hlo : int64Min ≤ x) (hhi : x ≤ int64Max) :
    checked64 what x = .ok x := by
  simp [checked64, hlo, hhi]

theorem checked64_overflow {what : String} {x : Int} (h : int64Max < x) :
    checked64 what x = .error ("attempt to " ++ what ++ " with overflow") := by
  simp [checked64, Int.not_le.mpr h]

theorem int64_bounds : int64Min = -9223372036854775808 ∧ int64Max = 9223372036854775807 :=
  ⟨rfl, rfl⟩

/-- The offset of a request made from 64-bit numbers never overflows: `page - 1` is at least
zero, and the product stops at the largest 64-bit value. -/
theorem offset64_make (hpage : ∀ p ∈ page, p ≤ int64Max) :
    (make page size).offset64 = .ok (min (((make page size).page - 1) * (make page size).size)
      int64Max) := by
  have hp := make_page page size
  have hs := make_size page size
  have hle : (make page size).page ≤ int64Max := by
    cases page with
    | none => simp [hp, int64_bounds]
    | some p => simpa [hp, int64_bounds] using hpage p rfl
  have hnn : 0 ≤ ((make page size).page - 1) * (make page size).size :=
    Int.mul_nonneg (by omega) (by omega)
  rw [offset64, checked64_ok (by rw [int64_bounds.1]; omega) (by omega)]
  simp only [bind, Except.bind, pure, Except.pure, saturatingMul64, Except.ok.injEq]
  exact max_eq_right (by rw [int64_bounds.1, int64_bounds.2]; omega)

/-- Where `total + size` is a 64-bit value, the program counts the pages without overflow and
finds `totalPages`: the difference and the quotient are no larger than the sum. -/
theorem totalPages64_of_fits (r : PageRequest) (hsize : 1 ≤ r.size) {total : Int}
    (hfits : total ≤ int64Max - r.size) : r.totalPages64 total = .ok (r.totalPages total) := by
  unfold totalPages64
  by_cases hneg : total ≤ 0
  · simp [hneg, totalPages]
  rw [if_neg hneg]
  have hlast : 0 ≤ total + r.size - 1 := by omega
  have hq : (total + r.size - 1).tdiv r.size = r.totalPages total := by
    rw [Int.tdiv_eq_ediv_of_nonneg hlast, totalPages, if_neg hneg]
  have hqle : r.totalPages total ≤ total + r.size - 1 := by
    rw [← hq, Int.tdiv_eq_ediv_of_nonneg hlast]
    exact Int.ediv_le_self _ hlast
  have hq0 : 0 ≤ r.totalPages total := by
    rw [← hq]
    exact Int.tdiv_nonneg hlast (by omega)
  have hmin : int64Min ≤ 0 := by rw [int64_bounds.1]; omega
  rw [checked64_ok (by omega) (by omega)]
  simp only [bind, Except.bind]
  rw [checked64_ok (by omega) (by omega)]
  simp only [div64, show r.size ≠ 0 by omega, if_false]
  rw [hq, checked64_ok (by omega) (by omega)]

/-- The page count of a request made by `make` is the ceiling of the rows over the size exactly
while `total + size` is a 64-bit value. For the `size` largest totals that sum overflows, and the
program stops instead of answering. -/
theorem totalPages64_make (total : Int) :
    (make page size).totalPages64 total =
      if total ≤ int64Max - (make page size).size then
        .ok ⌈(max total 0 : ℚ) / (make page size).size⌉
      else .error "attempt to add with overflow" := by
  set r := make page size
  have hs : 1 ≤ r.size ∧ r.size ≤ 100 := make_size page size
  by_cases hfits : total ≤ int64Max - r.size
  · rw [if_pos hfits, r.totalPages64_of_fits hs.1 hfits]
    by_cases hneg : total ≤ 0
    · -- no rows, and no page
      simp [totalPages, hneg]
    · rw [totalPages_eq_ceil r hs.1 (by omega),
        max_eq_left (by exact_mod_cast (by omega : (0 : Int) ≤ total))]
  · -- the rows are more than the largest value less the size, so the sum overflows
    have hpos : ¬total ≤ 0 := by
      rw [int64_bounds.2] at hfits
      omega
    rw [if_neg hfits, totalPages64, if_neg hpos, checked64_overflow (by omega)]
    rfl

/-- The offset stops at the largest 64-bit value, which drops no more than the rows there are. -/
theorem drop_offset {α : Type} (r : PageRequest) (hpage : 1 ≤ r.page) (hsize : 1 ≤ r.size)
    (rows : List α) (hsmall : (rows.length : Int) ≤ int64Max) :
    rows.drop r.offset.toNat = rows.drop ((r.page - 1) * r.size).toNat := by
  unfold offset
  have hnn : 0 ≤ (r.page - 1) * r.size := Int.mul_nonneg (by omega) (by omega)
  by_cases hle : (r.page - 1) * r.size ≤ int64Max
  · rw [min_eq_left hle]
  · rw [min_eq_right (by omega), List.drop_eq_nil_of_le (by omega),
      List.drop_eq_nil_of_le (by omega)]

end PageRequest

/-! ## Listed pages -/

/-- The listing order: newer rows first, by the instant they were created, ties by identity. -/
def newerFirst {α : Type} (created : α → Instant) (id : α → Uuid) (a b : α) : Bool :=
  (created b).before (created a) || (created a == created b && (id a).value ≤ (id b).value)

section Order

variable {α : Type} (created : α → Instant) (id : α → Uuid)

theorem newerFirst_iff (a b : α) :
    newerFirst created id a b = true ↔
      (created b).seconds < (created a).seconds ∨
        ((created b).seconds = (created a).seconds ∧ (created b).nanos < (created a).nanos) ∨
        ((created a).seconds = (created b).seconds ∧ (created a).nanos = (created b).nanos ∧
          (id a).value ≤ (id b).value) := by
  unfold newerFirst Instant.before
  generalize created a = x
  generalize created b = y
  cases x
  cases y
  simp only [Bool.or_eq_true, Bool.and_eq_true, decide_eq_true_eq, beq_iff_eq, Instant.mk.injEq]
  omega

theorem newerFirst_trans (a b c : α) (hab : newerFirst created id a b = true)
    (hbc : newerFirst created id b c = true) : newerFirst created id a c = true := by
  rw [newerFirst_iff] at *
  omega

theorem newerFirst_total (a b : α) :
    (newerFirst created id a b || newerFirst created id b a) = true := by
  rw [Bool.or_eq_true, newerFirst_iff, newerFirst_iff]
  omega

/-- Sorting by `newerFirst` orders the rows newest first, ties by identity. -/
theorem pairwise_newerFirst (rows : List α) :
    (rows.mergeSort (newerFirst created id)).Pairwise (newerFirst created id · · = true) :=
  List.pairwise_mergeSort (newerFirst_trans created id) (newerFirst_total created id) rows

end Order

theorem Invoices.listedBefore_eq : Invoices.listedBefore = newerFirst (·.createdAt) (·.id) := rfl

theorem Clients.listedBefore_eq : Clients.listedBefore = newerFirst (·.createdAt) (·.id) := rfl

/-- The page `p` lists the rows `matching` in the order `listedBefore`, for the page number and
size asked for: the page number made at least one; the size asked for when it lies in `[1, 100]`,
twenty otherwise; every matching row counted; as many pages as the rows fill, the ceiling of
their number over the size, which is also what the program's 64-bit count gives; and on the
page, the ordered rows at positions `[(page - 1) * size, page * size)`. -/
structure Listed {α : Type} (listedBefore : α → α → Bool) (matching : List α)
    (page size : Option Int) (p : Page α) : Prop where
  page : p.page = max 1 (page.getD 1)
  pageSize : p.pageSize = (size.filter fun n => 1 ≤ n && n ≤ 100).getD 20
  total : p.total = matching.length
  totalPages : p.totalPages = ⌈(p.total : ℚ) / p.pageSize⌉
  totalPages64 : PageRequest.totalPages64 ⟨p.page, p.pageSize⟩ p.total = .ok p.totalPages
  rows : p.rows = pageSlice (matching.mergeSort listedBefore) p.page p.pageSize

namespace Listed

variable {α : Type} {listedBefore : α → α → Bool} {matching : List α}

/-- The page a listing builds from a page request is listed, while the rows leave room for the
largest page size below the largest 64-bit value. -/
theorem of_request (page size : Option Int)
    (hsmall : (matching.length : Int) ≤ int64Max - PageRequest.maxSize) :
    let r := PageRequest.make page size
    Listed listedBefore matching page size
      ⟨((matching.mergeSort listedBefore).drop r.offset.toNat).take r.limit.toNat,
        matching.length, r.page, r.size, r.totalPages matching.length⟩ := by
  intro r
  have hsize : 1 ≤ r.size ∧ r.size ≤ PageRequest.maxSize := PageRequest.make_size page size
  have hpage : 1 ≤ r.page := by
    rw [PageRequest.make_page]
    omega
  refine ⟨PageRequest.make_page page size, PageRequest.make_size_eq page size, rfl,
    r.totalPages_eq_ceil hsize.1 (by omega),
    r.totalPages64_of_fits hsize.1 (show (matching.length : Int) ≤ int64Max - r.size by omega), ?_⟩
  simp only [pageSlice, PageRequest.limit]
  rw [r.drop_offset hpage hsize.1 _ (by rw [List.length_mergeSort]; omega)]

/-- The pages one to the number of pages, of one size, hand out every matching row once and in
listing order, and every later page is empty. -/
theorem pages_cover (size : Option Int) {pages : Nat → Page α}
    (h : ∀ i : Nat, Listed listedBefore matching (some (i + 1)) size (pages i)) :
    ((List.range (pages 0).totalPages.toNat).map fun i => (pages i).rows).flatten =
        matching.mergeSort listedBefore ∧
      ∀ i, (pages 0).totalPages.toNat ≤ i → (pages i).rows = [] := by
  set k := (pages 0).pageSize.toNat
  set n := (pages 0).totalPages.toNat
  -- every page has the size and the count of the first
  have hsize : ∀ i, (pages i).pageSize = (pages 0).pageSize := fun i => by
    rw [(h i).pageSize, (h 0).pageSize]
  have hbounds : 1 ≤ (pages 0).pageSize ∧ (pages 0).pageSize ≤ 100 := by
    rw [(h 0).pageSize]
    cases size with
    | none => decide
    | some m =>
      simp only [Option.filter]
      split
      · simp_all
      · decide
  have hrows : ∀ i, (pages i).rows = ((matching.mergeSort listedBefore).drop (i * k)).take k :=
    fun i => by
      rw [(h i).rows, (h i).page, hsize i, show max 1 ((some ((i : Int) + 1)).getD 1) = i + 1 by
        simp only [Option.getD_some]; omega, show (pages 0).pageSize = (k : Int) by omega,
        pageSlice_natCast]
  -- the pages have room for every row: the count is at most the pages times the size
  have hroom : (matching.mergeSort listedBefore).length ≤ n * k := by
    have hceil := (h 0).totalPages
    rw [(h 0).total] at hceil
    have hpos : (0 : ℚ) < (pages 0).pageSize := by exact_mod_cast (by omega : (0 : Int) < _)
    have hle := Int.le_ceil (((matching.length : Int) : ℚ) / (pages 0).pageSize)
    rw [← hceil, div_le_iff₀ hpos] at hle
    have hle' : (matching.length : Int) ≤ (pages 0).totalPages * (pages 0).pageSize := by
      exact_mod_cast hle
    have hnn : 0 ≤ (pages 0).totalPages := by
      by_contra hneg
      have : (pages 0).totalPages * (pages 0).pageSize < 0 :=
        Int.mul_neg_of_neg_of_pos (by omega) (by omega)
      omega
    rw [List.length_mergeSort]
    have hn : (n : Int) = (pages 0).totalPages := Int.toNat_of_nonneg hnn
    have hk : (k : Int) = (pages 0).pageSize := Int.toNat_of_nonneg (by omega)
    have : ((n * k : Nat) : Int) = (pages 0).totalPages * (pages 0).pageSize := by
      push_cast
      rw [hn, hk]
    omega
  refine ⟨?_, fun i hi => by rw [hrows i]; exact chunk_past hroom hi⟩
  simp only [hrows]
  exact flatten_chunks k n _ hroom

end Listed

/-! ## The listings run -/

namespace Service

variable {s : Store} {account : Uuid}

section Healthy

variable (hfault : s.fault = none) (hup : s.reachable = true)
include hfault hup

theorem listClients_run (q : ListQuery) :
    let r := PageRequest.make q.page q.pageSize
    let rows := Clients.active account s.committed
    ((listClients account q).runOn s).1 =
      .ok ⟨((rows.mergeSort Clients.listedBefore).drop r.offset.toNat).take r.limit.toNat,
        rows.length, r.page, r.size, r.totalPages rows.length⟩ := by
  intro r rows
  unfold listClients Clients.count Clients.list
  simp only [runOn_bind, query_read_healthy hfault hup,
    query_read_healthy (s := { s with clock := s.clock + 1 }) hfault hup, runOn_pure]
  rfl

theorem listInvoices_run (q : ListQuery) {status : Option InvoiceStatus}
    (hstatus : (q.status.map trimBlanks).filter (!·.isEmpty) = status.map InvoiceStatus.name) :
    let r := PageRequest.make q.page q.pageSize
    let rows := Invoices.matching account status s.committed
    ((listInvoices account q).runOn s).1 =
      .ok ⟨((rows.mergeSort Invoices.listedBefore).drop r.offset.toNat).take r.limit.toNat,
        rows.length, r.page, r.size, r.totalPages rows.length⟩ := by
  intro r rows
  unfold listInvoices Invoices.count Invoices.list
  -- the filter names the status, or nothing when it is absent or blank
  simp only [hstatus]
  cases status with
  | none =>
    simp only [Option.map_none, runOn_bind, runOn_pure, query_read_healthy hfault hup,
      query_read_healthy (s := { s with clock := s.clock + 1 }) hfault hup]
    rfl
  | some st =>
    simp only [Option.map_some, InvoiceStatus.parse?_name, runOn_bind, runOn_pure,
      query_read_healthy hfault hup,
      query_read_healthy (s := { s with clock := s.clock + 1 }) hfault hup]
    rfl

end Healthy

/-- A filter that names no status is refused before any statement runs. -/
theorem listInvoices_unknown (q : ListQuery) {v : String}
    (hstatus : (q.status.map trimBlanks).filter (!·.isEmpty) = some v)
    (hunknown : InvoiceStatus.parse? v = none) :
    ((listInvoices account q).runOn s).1 = .error (.invalidInput (InvoiceStatus.unknownMessage v)) := by
  unfold listInvoices
  simp only [hstatus, hunknown]
  rfl

end Service

/-- What the listings of `account` give in a store `s` that is up and fails no statement. -/
structure ListingsPaged (s : Store) (account : Uuid) : Prop where
  /-- The invoices listed are those of the status the trimmed filter names, or all of them when
  it is absent or blank. -/
  invoices : ∀ (q : ListQuery) (status : Option InvoiceStatus),
    (q.status.map trimBlanks).filter (!·.isEmpty) = status.map InvoiceStatus.name →
    ∃ p, ((listInvoices account q).runOn s).1 = .ok p ∧
      Listed Invoices.listedBefore (Invoices.matching account status s.committed) q.page
        q.pageSize p
  /-- A filter that names no status is invalid input. -/
  unknownStatus : ∀ (q : ListQuery) (v : String),
    (q.status.map trimBlanks).filter (!·.isEmpty) = some v → InvoiceStatus.parse? v = none →
    ((listInvoices account q).runOn s).1 = .error (.invalidInput (InvoiceStatus.unknownMessage v))
  /-- The clients listed are the active clients of the account. -/
  clients : ∀ q : ListQuery, ∃ p, ((listClients account q).runOn s).1 = .ok p ∧
    Listed Clients.listedBefore (Clients.active account s.committed) q.page q.pageSize p
  /-- Both orders are newest first, ties by identity. -/
  invoiceOrder : ∀ status,
    ((Invoices.matching account status s.committed).mergeSort Invoices.listedBefore).Pairwise
      (newerFirst (·.createdAt) (·.id) · · = true)
  clientOrder :
    ((Clients.active account s.committed).mergeSort Clients.listedBefore).Pairwise
      (newerFirst (·.createdAt) (·.id) · · = true)
  /-- Pages one to the number of pages of one size and filter hand out every listed invoice once
  and in order, and later pages are empty. -/
  invoicePages : ∀ (q : ListQuery) (status : Option InvoiceStatus) (pages : Nat → Page Invoice),
    (q.status.map trimBlanks).filter (!·.isEmpty) = status.map InvoiceStatus.name →
    (∀ i : Nat, ((listInvoices account { q with page := some (i + 1) }).runOn s).1 =
      .ok (pages i)) →
    ((List.range (pages 0).totalPages.toNat).map fun i => (pages i).rows).flatten =
        (Invoices.matching account status s.committed).mergeSort Invoices.listedBefore ∧
      ∀ i, (pages 0).totalPages.toNat ≤ i → (pages i).rows = []
  /-- The same for the pages of clients. -/
  clientPages : ∀ (q : ListQuery) (pages : Nat → Page Client),
    (∀ i : Nat, ((listClients account { q with page := some (i + 1) }).runOn s).1 =
      .ok (pages i)) →
    ((List.range (pages 0).totalPages.toNat).map fun i => (pages i).rows).flatten =
        (Clients.active account s.committed).mergeSort Clients.listedBefore ∧
      ∀ i, (pages 0).totalPages.toNat ≤ i → (pages i).rows = []

/-- Both listings, for every account, from every store that is up, fails no statement and holds
few enough invoices and clients that no count of pages overflows: at most the largest 64-bit
value less the largest page size. -/
theorem listings_paged {s : Store} (hfault : s.fault = none) (hup : s.reachable = true)
    (hsmall : (s.committed.invoices.length : Int) ≤ int64Max - PageRequest.maxSize ∧
      (s.committed.clients.length : Int) ≤ int64Max - PageRequest.maxSize)
    (account : Uuid) : ListingsPaged s account := by
  have hinv : ∀ status, ((Invoices.matching account status s.committed).length : Int) ≤
      int64Max - PageRequest.maxSize :=
    fun status => le_trans (by exact_mod_cast List.length_filter_le _ _) hsmall.1
  have hcli : ((Clients.active account s.committed).length : Int) ≤
      int64Max - PageRequest.maxSize :=
    le_trans (by exact_mod_cast List.length_filter_le _ _) hsmall.2
  -- each listing returns the page its request builds
  have invoices : ∀ (q : ListQuery) status,
      (q.status.map trimBlanks).filter (!·.isEmpty) = status.map InvoiceStatus.name →
      ∃ p, ((listInvoices account q).runOn s).1 = .ok p ∧
        Listed Invoices.listedBefore (Invoices.matching account status s.committed) q.page
          q.pageSize p :=
    fun q status hstatus =>
      ⟨_, listInvoices_run hfault hup q hstatus, Listed.of_request q.page q.pageSize (hinv status)⟩
  have clients : ∀ q : ListQuery, ∃ p, ((listClients account q).runOn s).1 = .ok p ∧
      Listed Clients.listedBefore (Clients.active account s.committed) q.page q.pageSize p :=
    fun q => ⟨_, listClients_run hfault hup q, Listed.of_request q.page q.pageSize hcli⟩
  refine ⟨invoices, fun q v hstatus hunknown => listInvoices_unknown q hstatus hunknown,
    clients, fun status => pairwise_newerFirst _ _ _, pairwise_newerFirst _ _ _,
    fun q status pages hstatus hpages => ?_, fun q pages hpages => ?_⟩
  · refine Listed.pages_cover q.pageSize fun i => ?_
    obtain ⟨p, hp, hlisted⟩ := invoices { q with page := some (i + 1) } status hstatus
    rw [hpages i, Except.ok.injEq] at hp
    exact hp ▸ hlisted
  · refine Listed.pages_cover q.pageSize fun i => ?_
    obtain ⟨p, hp, hlisted⟩ := clients { q with page := some (i + 1) }
    rw [hpages i, Except.ok.injEq] at hp
    exact hp ▸ hlisted

/-- In the store after the session that opens an account, a client and one invoice, both
listings of the account page as above. -/
theorem invoicingSession_listed :
    (Action.runAll invoicingSession {}).fault = none ∧
      (Action.runAll invoicingSession {}).reachable = true ∧
      (((Action.runAll invoicingSession {}).committed.invoices.length : Int) ≤
          int64Max - PageRequest.maxSize ∧
        ((Action.runAll invoicingSession {}).committed.clients.length : Int) ≤
          int64Max - PageRequest.maxSize) ∧
      ListingsPaged (Action.runAll invoicingSession {}) owner := by
  have hfacts : (Action.runAll invoicingSession {}).fault = none ∧
      (Action.runAll invoicingSession {}).reachable = true ∧
      (((Action.runAll invoicingSession {}).committed.invoices.length : Int) ≤
          int64Max - PageRequest.maxSize ∧
        ((Action.runAll invoicingSession {}).committed.clients.length : Int) ≤
          int64Max - PageRequest.maxSize) := by
    simp only [invoicingSession, Action.runAll, List.foldl, Action.apply, provision_owner]
    decide +kernel
  exact ⟨hfacts.1, hfacts.2.1, hfacts.2.2,
    listings_paged hfacts.1 hfacts.2.1 hfacts.2.2 owner⟩

end Invoicing
