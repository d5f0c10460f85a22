import Invoicing.Text.Capitals
import Mathlib.Data.List.Basic

/-!
# Capital forms are stable

Every character of a capital form is its own capital (`ofChar_of_mem_ofChar`), so taking the
capital form of a capital form changes nothing (`ofString_ofString`). A text is kept as it is by
`ofString` exactly when each of its characters is its own capital (`IsCapital`).

The tables are finite, so the fact is checked on them (`runs_checked`). Each character of a
longer form is taken as a run of one letter that stays where it is, so one check covers both
tables: the code points the letters of a run go to are characters, and no run and no character
with a longer form holds one of them. The runs are listed in order of their first letters, so a
run's targets are compared with the runs in that order, passing over those that end below them
and stopping at the first that starts above them; only the runs in between are checked letter by
letter (`Run.checkAgainst_spec`).
-/

namespace Invoicing

namespace Capitals

/-- The code point a run sends `n` to. -/
def Run.target (r : Run) (n : Nat) : Nat := ((n : Int) + r.delta).toNat

/-- No letter of run `a` goes to a code point that run `b` holds, checked letter by letter. -/
def Run.clearOf (a b : Run) : Bool :=
  (List.range' a.lo (a.hi + 1 - a.lo)).all fun n => !a.contains n || !b.contains (a.target n)

/-- Checks the letters of run `a` against runs listed in order of their first letters: a run
that ends below the first target is passed over, the scan stops at a run that starts above the
last target, and a run in between is checked letter by letter. -/
def Run.checkAgainst (a : Run) : List Run → Bool
  | [] => true
  | b :: bs =>
    bif Nat.blt b.hi (a.target a.lo) then a.checkAgainst bs
    else bif Nat.blt (a.target a.hi) b.lo then true
    else a.clearOf b && a.checkAgainst bs

/-- The code points a run sends its letters to are characters: they lie below the surrogates
or between them and the last code point. -/
def Run.targetsValid (r : Run) : Bool :=
  decide (0 ≤ (r.lo : Int) + r.delta) &&
    (decide ((r.hi : Int) + r.delta < 0xD800) ||
      (decide (0xDFFF < (r.lo : Int) + r.delta) && decide ((r.hi : Int) + r.delta < 0x110000)))

/-- The characters with a longer form, each as a run of one letter. -/
def keyRuns : List Run := expansions.map fun e => ⟨e.1, e.1, 1, 0⟩

/-- The characters of the longer forms, each as a run of one letter that stays where it is. -/
def formRuns : List Run := expansions.flatMap fun e => e.2.map fun m => ⟨m, m, 1, 0⟩

/-- The code points the letters of run `a` go to are characters, and no run and no character
with a longer form holds one of them. -/
def Run.targetsFree (a : Run) : Bool :=
  a.targetsValid && a.checkAgainst runs && a.checkAgainst keyRuns

theorem runs_checked : ((runs ++ formRuns).all Run.targetsFree) = true := by
  decide +kernel

theorem runs_sorted : (runs.map (·.lo)).Pairwise (· ≤ ·) :=
  List.isChain_iff_pairwise.mp (by decide +kernel)

theorem keyRuns_sorted : (keyRuns.map (·.lo)).Pairwise (· ≤ ·) :=
  List.isChain_iff_pairwise.mp (by decide +kernel)

section Run

variable {a r : Run} {n : Nat}

theorem Run.range_of_contains (hn : r.contains n = true) : r.lo ≤ n ∧ n ≤ r.hi := by
  simp only [Run.contains, Bool.and_eq_true, decide_eq_true_eq] at hn
  exact ⟨hn.1.1, hn.1.2⟩

theorem Run.mem_range'_of_contains (hn : r.contains n = true) :
    n ∈ List.range' r.lo (r.hi + 1 - r.lo) := by
  obtain ⟨hlo, hhi⟩ := Run.range_of_contains hn
  simp only [List.mem_range'_1]
  omega

/-- A letter goes where its run's distance says, between the targets of the run's first and last
letters. -/
theorem Run.target_bounds (hv : r.targetsValid = true) (hn : r.contains n = true) :
    (r.target n : Int) = n + r.delta ∧ r.target r.lo ≤ r.target n ∧
      r.target n ≤ r.target r.hi := by
  obtain ⟨hlo, hhi⟩ := Run.range_of_contains hn
  have h0 : 0 ≤ (r.lo : Int) + r.delta := by
    simp only [Run.targetsValid, Bool.and_eq_true, decide_eq_true_eq] at hv
    exact hv.1
  simp only [Run.target]
  omega

theorem Run.target_isValidChar (hv : r.targetsValid = true) (hn : r.contains n = true) :
    (r.target n).isValidChar := by
  obtain ⟨ht, -, -⟩ := Run.target_bounds hv hn
  obtain ⟨hlo, hhi⟩ := Run.range_of_contains hn
  simp only [Run.targetsValid, Bool.and_eq_true, Bool.or_eq_true, decide_eq_true_eq] at hv
  simp only [Nat.isValidChar]
  omega

/-- What a scan that passed says of each run it went through: the run lies below or above the
targets of `a`, or was checked letter by letter. -/
theorem Run.checkAgainst_spec {bs : List Run} (h : a.checkAgainst bs = true)
    (hs : (bs.map (·.lo)).Pairwise (· ≤ ·)) :
    ∀ b ∈ bs, b.hi < a.target a.lo ∨ a.target a.hi < b.lo ∨ a.clearOf b = true := by
  induction bs with
  | nil => simp
  | cons b bs ih =>
    rw [List.map_cons, List.pairwise_cons, List.forall_mem_map] at hs
    obtain ⟨hle, hs⟩ := hs
    intro b' hb'
    unfold Run.checkAgainst at h
    by_cases hbelow : b.hi < a.target a.lo
    · -- `b` ends below the targets; the scan goes on
      rw [Nat.blt_eq.mpr hbelow, cond_true] at h
      rcases List.mem_cons.mp hb' with rfl | hb'
      · exact .inl hbelow
      · exact ih h hs b' hb'
    have hreach : Nat.blt b.hi (a.target a.lo) = false := by
      rw [← Bool.not_eq_true, Nat.blt_eq]
      exact hbelow
    rw [hreach, cond_false] at h
    by_cases habove : a.target a.hi < b.lo
    · -- `b` starts above the targets, and so does every run after it
      rcases List.mem_cons.mp hb' with rfl | hb'
      · exact .inr (.inl habove)
      · exact .inr (.inl (Nat.lt_of_lt_of_le habove (hle b' hb')))
    have hmeet : Nat.blt (a.target a.hi) b.lo = false := by
      rw [← Bool.not_eq_true, Nat.blt_eq]
      exact habove
    rw [hmeet, cond_false, Bool.and_eq_true] at h
    rcases List.mem_cons.mp hb' with rfl | hb'
    · exact .inr (.inr h.1)
    · exact ih h.2 hs b' hb'

/-- No letter of a run that passed its scan goes to a code point of a run scanned. -/
theorem Run.contains_target {bs : List Run} {b : Run} (hv : a.targetsValid = true)
    (h : a.checkAgainst bs = true) (hs : (bs.map (·.lo)).Pairwise (· ≤ ·)) (hb : b ∈ bs)
    (hn : a.contains n = true) : b.contains (a.target n) = false := by
  obtain ⟨-, hlo, hhi⟩ := Run.target_bounds hv hn
  rcases Run.checkAgainst_spec h hs b hb with hbelow | habove | hclear
  · simp only [Run.contains, Bool.and_eq_false_iff, decide_eq_false_iff_not]
    omega
  · simp only [Run.contains, Bool.and_eq_false_iff, decide_eq_false_iff_not]
    omega
  · simp only [Run.clearOf, List.all_eq_true] at hclear
    simpa [hn] using hclear n (Run.mem_range'_of_contains hn)

end Run

theorem toNat_ofNat_of_isValidChar {m : Nat} (h : m.isValidChar) : (Char.ofNat m).toNat = m := by
  rw [Char.ofNat, dif_pos h]
  rfl

/-- A code point that is no key of a longer form and that no run holds is its own capital. -/
theorem ofChar_of_free {d : Char} (hx : ∀ e ∈ expansions, e.1 ≠ d.toNat)
    (hr : ∀ r ∈ runs, r.contains d.toNat = false) : ofChar d = [d] := by
  have hlookup : expansions.lookup d.toNat = none :=
    List.lookup_eq_none_iff.mpr fun e he => bne_iff_ne.mpr (hx e he).symm
  have hfind : runs.find? (·.contains d.toNat) = none :=
    List.find?_eq_none.mpr fun r hr' => by simp [hr r hr']
  simp only [ofChar, hlookup, hfind]

/-- The letter a run sends a letter to is its own capital. -/
theorem ofChar_target {r : Run} (hr : r ∈ runs ++ formRuns) {n : Nat}
    (hn : r.contains n = true) :
    ofChar (Char.ofNat (r.target n)) = [Char.ofNat (r.target n)] := by
  have hcheck := List.all_eq_true.mp runs_checked r hr
  simp only [Run.targetsFree, Bool.and_eq_true] at hcheck
  obtain ⟨⟨hv, hruns⟩, hkeys⟩ := hcheck
  have ht : (Char.ofNat (r.target n)).toNat = r.target n :=
    toNat_ofNat_of_isValidChar (Run.target_isValidChar hv hn)
  apply ofChar_of_free
  · -- no character with a longer form: each is a run of one letter
    intro e he hkey
    have hb : (⟨e.1, e.1, 1, 0⟩ : Run) ∈ keyRuns := List.mem_map_of_mem he
    have hfree := Run.contains_target hv hkeys keyRuns_sorted hb hn
    rw [← ht, ← hkey] at hfree
    simp [Run.contains] at hfree
  · intro r' hr'
    rw [ht]
    exact Run.contains_target hv hruns runs_sorted hr' hn

/-- Every character of a capital form is its own capital. -/
theorem ofChar_of_mem_ofChar {c d : Char} (hd : d ∈ ofChar c) : ofChar d = [d] := by
  dsimp only [ofChar] at hd
  split at hd
  · -- a longer form: each of its characters is checked in the table
    rename_i form hform
    obtain ⟨m, hm, rfl⟩ := List.mem_map.mp hd
    obtain ⟨l₁, l₂, hl, -⟩ := List.lookup_eq_some_iff.mp hform
    have he : (c.toNat, form) ∈ expansions := by rw [hl]; simp
    have hr : (⟨m, m, 1, 0⟩ : Run) ∈ runs ++ formRuns :=
      List.mem_append_right _ (List.mem_flatMap.mpr ⟨_, he, List.mem_map_of_mem hm⟩)
    simpa [Run.target] using ofChar_target hr (n := m) (by simp [Run.contains])
  · rename_i hlookup
    split at hd
    · -- a letter of a run
      rename_i r hfind
      obtain rfl := List.mem_singleton.mp hd
      have hc : r.contains c.toNat = true := by simpa using List.find?_some hfind
      exact ofChar_target (List.mem_append_left _ (List.mem_of_find?_eq_some hfind)) hc
    · -- no capital: the character stays, and nothing maps it
      rename_i hfind
      obtain rfl := List.mem_singleton.mp hd
      simp only [ofChar, hlookup, hfind]

/-- A text each character of which is its own capital. -/
def IsCapital (s : String) : Prop := ∀ c ∈ s.toList, ofChar c = [c]

theorem isCapital_ofString (s : String) : IsCapital (ofString s) := by
  intro d hd
  simp only [ofString, String.toList_ofList, List.mem_flatMap] at hd
  obtain ⟨c, -, hc⟩ := hd
  exact ofChar_of_mem_ofChar hc

theorem ofString_of_isCapital {s : String} (h : IsCapital s) : ofString s = s := by
  have hmap : s.toList.flatMap ofChar = s.toList := by
    conv_rhs => rw [← List.flatMap_singleton' s.toList]
    exact List.flatMap_congr h
  rw [ofString, hmap, String.ofList_toList]

/-- Taking the capital form twice changes nothing. -/
theorem ofString_ofString (s : String) : ofString (ofString s) = ofString s :=
  ofString_of_isCapital (isCapital_ofString s)

end Capitals

end Invoicing
