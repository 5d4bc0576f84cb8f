import Mathlib.Data.Rat.Defs
import Mathlib.Tactic.Ring
import Mathlib.Tactic.Linarith

/-!
# Python's number formats

The code prints numbers in three formats.  `str(datetime)` writes its fields with `%02d`,
`%04d` and `%06d`, the ping prints its round-trip time with `.2f`, and
`_format_cache_size` prints the size of the cache with `.1f`.

`padDigits` is `%0Nd` for a number that fits the width, and `readPadded` reads such a
field back (`readPadded_padDigits`); `readDecimal` reads back what `str` writes for a
number (`readDecimal_repr`).  `formatFixed` is `.Nf` on the exact value of a float:
Python rounds that value half to even at the last digit it prints, which puts the
printed number within half a unit of that digit of the value (`roundHalfEven_spec`).  For
a quotient of naturals that digit is the rounded quotient of the scaled numerator
(`formatFixed_div`).
-/

namespace Robumba

/-! ## Zero-padded fields -/

/-- The last `width` decimal digits of `n`, most significant first: `"%0{width}d" % n`
for an `n` below `10 ^ width`. -/
def padDigits : ℕ → ℕ → List Char
  | 0, _ => []
  | width + 1, n => Nat.digitChar (n / 10 ^ width % 10) :: padDigits width n

/-- Reads `width` ASCII digits onto `acc`; none when one of them is not a digit. -/
def readPadded (acc : ℕ) : ℕ → List Char → Option (ℕ × List Char)
  | 0, rest => some (acc, rest)
  | _ + 1, [] => none
  | width + 1, c :: rest =>
    if c.isDigit then readPadded (10 * acc + (c.toNat - 48)) width rest else none

theorem digitChar_digit {d : ℕ} (hd : d < 10) :
    (Nat.digitChar d).isDigit = true ∧ (Nat.digitChar d).toNat - 48 = d := by
  have hall : ∀ d < 10, (Nat.digitChar d).isDigit = true ∧ (Nat.digitChar d).toNat - 48 = d := by
    decide
  exact hall d hd

@[simp] theorem padDigits_length (width n : ℕ) : (padDigits width n).length = width := by
  induction width with
  | zero => rfl
  | succ width ih => simp [padDigits, ih]

/-- Every character of a padded field is an ASCII digit. -/
theorem isDigit_of_mem_padDigits {width n : ℕ} {c : Char} (hc : c ∈ padDigits width n) :
    c.isDigit = true := by
  induction width with
  | zero => cases hc
  | succ width ih =>
    rcases List.mem_cons.mp hc with rfl | hc
    · exact (digitChar_digit (Nat.mod_lt _ (by decide))).1
    · exact ih hc

/-- A padded field reads back as the last `width` digits of its number, whatever follows
it. -/
theorem readPadded_padDigits (width n acc : ℕ) (rest : List Char) :
    readPadded acc width (padDigits width n ++ rest) =
      some (acc * 10 ^ width + n % 10 ^ width, rest) := by
  induction width generalizing acc with
  | zero => simp [padDigits, readPadded, Nat.mod_one]
  | succ width ih =>
    obtain ⟨hdigit, hvalue⟩ := digitChar_digit (Nat.mod_lt (n / 10 ^ width) (by decide))
    rw [padDigits, List.cons_append, readPadded, if_pos hdigit, hvalue, ih, Nat.mod_pow_succ]
    congr 2
    ring

/-- A field that fits its width reads back as its number. -/
theorem readPadded_field {width n : ℕ} (hn : n < 10 ^ width) (rest : List Char) :
    readPadded 0 width (padDigits width n ++ rest) = some (n, rest) := by
  rw [readPadded_padDigits, Nat.zero_mul, Nat.zero_add, Nat.mod_eq_of_lt hn]

/-- Reads ASCII digits onto `acc`, the inverse of `str` on natural numbers. -/
def readDecimal (acc : ℕ) : List Char → ℕ
  | [] => acc
  | c :: rest => readDecimal (10 * acc + (c.toNat - 48)) rest

@[simp] theorem readDecimal_nil (acc : ℕ) : readDecimal acc [] = acc := rfl

@[simp] theorem readDecimal_cons (acc : ℕ) (c : Char) (rest : List Char) :
    readDecimal acc (c :: rest) = readDecimal (10 * acc + (c.toNat - 48)) rest := rfl

theorem readDecimal_append (acc : ℕ) (cs ds : List Char) :
    readDecimal acc (cs ++ ds) = readDecimal (readDecimal acc cs) ds := by
  induction cs generalizing acc with
  | nil => rfl
  | cons c cs ih => exact ih _

/-- With enough fuel, `Nat.toDigitsCore` puts the digits of `n` before `ds`. -/
theorem toDigitsCore_digits : ∀ (fuel n : ℕ) (ds : List Char), n < fuel →
    ∃ cs, Nat.toDigitsCore 10 fuel n ds = cs ++ ds ∧ readDecimal 0 cs = n
  | 0, n, _, h => absurd h (Nat.not_lt_zero n)
  | fuel + 1, n, ds, h => by
    have hvalue := (digitChar_digit (Nat.mod_lt n (by decide : 10 > 0))).2
    show ∃ cs, (if n / 10 = 0 then Nat.digitChar (n % 10) :: ds
      else Nat.toDigitsCore 10 fuel (n / 10) (Nat.digitChar (n % 10) :: ds)) = cs ++ ds ∧ _
    generalize Nat.digitChar (n % 10) = d at hvalue ⊢
    by_cases hlast : n / 10 = 0
    · refine ⟨[d], by rw [if_pos hlast]; rfl, ?_⟩
      rw [readDecimal_cons, readDecimal_nil, hvalue]
      omega
    · obtain ⟨cs, hcs, hread⟩ := toDigitsCore_digits fuel (n / 10) (d :: ds) (by omega)
      refine ⟨cs ++ [d], by rw [if_neg hlast, hcs, List.append_assoc]; rfl, ?_⟩
      rw [readDecimal_append, hread, readDecimal_cons, readDecimal_nil, hvalue]
      omega

/-- `str(n)` reads back as `n`. -/
theorem readDecimal_repr (n : ℕ) : readDecimal 0 (Nat.repr n).data = n := by
  obtain ⟨cs, hcs, hread⟩ := toDigitsCore_digits (n + 1) n [] (Nat.lt_succ_self n)
  show readDecimal 0 (Nat.toDigitsCore 10 (n + 1) n []) = n
  rw [hcs, List.append_nil, hread]

/-! ## Fixed-point numbers -/

/-- `n / d` rounded half to even. -/
def roundHalfEven (n d : ℕ) : ℕ :=
  if 2 * (n % d) < d then n / d
  else if d < 2 * (n % d) then n / d + 1
  else if n / d % 2 = 0 then n / d
  else n / d + 1

/-- The rounded quotient is within half of `d` of `n`, in units of `d`. -/
theorem roundHalfEven_spec (n : ℕ) {d : ℕ} (hd : 0 < d) :
    2 * n ≤ 2 * d * roundHalfEven n d + d ∧ 2 * d * roundHalfEven n d ≤ 2 * n + d := by
  unfold roundHalfEven
  have hdiv := Nat.div_add_mod n d
  have hlt := Nat.mod_lt n hd
  generalize n / d = q at *
  generalize n % d = r at *
  subst hdiv
  split_ifs <;> constructor <;> linarith

theorem roundHalfEven_mul_right (a b : ℕ) {g : ℕ} (hg : 0 < g) :
    roundHalfEven (a * g) (b * g) = roundHalfEven a b := by
  unfold roundHalfEven
  simp only [Nat.mul_div_mul_right _ _ hg, Nat.mul_mod_mul_right, ← Nat.mul_assoc,
    Nat.mul_lt_mul_right hg]

/-- `format(x, f".{digits}f")` for a float whose exact value is `x`. -/
def formatFixed (digits : ℕ) (x : ℚ) : String :=
  let n := roundHalfEven (x.num.natAbs * 10 ^ digits) x.den
  (if x.num < 0 then "-" else "") ++ Nat.repr (n / 10 ^ digits) ++
    (if digits = 0 then "" else "." ++ String.mk (padDigits digits n))

/-- A quotient of naturals is printed as its scaled numerator divided and rounded, whatever
the fraction reduces to. -/
theorem formatFixed_div (digits n : ℕ) {d : ℕ} (hd : 0 < d) :
    formatFixed digits ((n : ℚ) / d) =
      Nat.repr (roundHalfEven (n * 10 ^ digits) d / 10 ^ digits) ++
        (if digits = 0 then "" else
          "." ++ String.mk (padDigits digits (roundHalfEven (n * 10 ^ digits) d))) := by
  rw [Rat.natCast_div_eq_divInt, Rat.divInt_ofNat]
  set x := mkRat (n : ℤ) d
  obtain ⟨g, hg, hnum, hden⟩ : ∃ g : ℕ, g ≠ 0 ∧ (n : ℤ) = x.num * g ∧ d = x.den * g :=
    Rat.mkRat_num_den (Nat.pos_iff_ne_zero.mp hd) (rfl : x = ⟨x.num, x.den, x.den_nz, x.reduced⟩)
  have habs : x.num.natAbs * g = n := by
    have := congrArg Int.natAbs hnum
    rwa [Int.natAbs_mul, Int.natAbs_ofNat, Int.natAbs_ofNat, eq_comm] at this
  have hsign : ¬ x.num < 0 := fun hneg => by
    have : x.num * g < 0 := Int.mul_neg_of_neg_of_pos hneg (by exact_mod_cast Nat.pos_of_ne_zero hg)
    omega
  have hround : roundHalfEven (x.num.natAbs * 10 ^ digits) x.den =
      roundHalfEven (n * 10 ^ digits) d := by
    rw [← roundHalfEven_mul_right _ _ (Nat.pos_of_ne_zero hg), ← hden, ← habs, Nat.mul_right_comm]
  simp only [formatFixed, if_neg hsign, hround, String.empty_append]

example : formatFixed 2 0 = "0.00" ∧ formatFixed 1 (mkRat 1280 1024) = "1.2" ∧
    formatFixed 1 (mkRat 1048575 1024) = "1024.0" ∧ formatFixed 2 (mkRat (-1) 1000) = "-0.00" := by
  decide

end Robumba
