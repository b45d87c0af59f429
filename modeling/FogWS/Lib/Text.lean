import Mathlib.Algebra.Order.Ring.Nat
import Mathlib.Data.List.DropRight
/-!
# Scanning text

Text is a list of characters. `afterLast sep` is the last piece of a split at `sep`, `byteLen` the length
in UTF-8, and `parse max` reads an unsigned integer as Rust's `FromStr` does: an optional `+`, then at
least one decimal digit, with a check for overflow at every digit. `IsNumber max` is what a decimal
numeral is without that sign; `parse_eq_none` says what is left to refuse.
-/
namespace Text

/-! ## Splitting -/

/-- What follows the last separator, or the whole text. -/
def afterLast (sep : Char) (text : List Char) : List Char := text.rtakeWhile (· != sep)

variable {sep : Char} {text : List Char}

theorem afterLast_of_not_mem (h : sep ∉ text) : afterLast sep text = text := by
  refine List.rtakeWhile_eq_self_iff.mpr fun c hc => ?_
  have hne : c ≠ sep := fun heq => h (heq ▸ hc)
  simpa using hne

/-- Only what follows a separator counts. -/
theorem afterLast_append (before after : List Char) :
    afterLast sep (before ++ sep :: after) = afterLast sep after := by
  have htake : ∀ xs ys : List Char,
      (xs ++ sep :: ys).takeWhile (· != sep) = xs.takeWhile (· != sep) := by
    intro xs ys
    induction xs with
    | nil => simp
    | cons x xs ih =>
      by_cases hx : x = sep
      · simp [hx]
      · simp [hx, ih]
  simp only [afterLast, List.rtakeWhile, List.reverse_append, List.reverse_cons, List.append_assoc,
    List.singleton_append, htake]

theorem takeWhile_append_sep (h : sep ∉ text) (after : List Char) :
    (text ++ sep :: after).takeWhile (· != sep) = text := by
  induction text with
  | nil => simp
  | cons c text ih =>
    have hc : c ≠ sep := fun heq => h (heq ▸ List.mem_cons_self)
    simp [hc, ih fun hmem => h (List.mem_cons_of_mem c hmem)]

/-! ## Length in bytes -/

def byteLen (text : List Char) : Nat := (text.map Char.utf8Size).sum

theorem byteLen_append (xs ys : List Char) : byteLen (xs ++ ys) = byteLen xs + byteLen ys := by
  simp [byteLen]

theorem byteLen_cons_pos (c : Char) (cs : List Char) : 0 < byteLen (c :: cs) := by
  have := c.utf8Size_pos
  simp only [byteLen, List.map_cons, List.sum_cons]; omega

/-! ## Numbers -/

/-- The digits of `cs` appended to `acc`. -/
def value (acc : Nat) (cs : List Char) : Nat := cs.foldl (fun n c => 10 * n + (c.toNat - 48)) acc

/-- A decimal numeral of at most `max`. -/
structure IsNumber (max : Nat) (cs : List Char) : Prop where
  ne_nil : cs ≠ []
  digits : ∀ c ∈ cs, c.isDigit = true
  le : value 0 cs ≤ max

/-- The loop of `from_str_radix`. -/
def parseFrom (max acc : Nat) : List Char → Option Nat
  | [] => some acc
  | c :: cs =>
    if c.isDigit then
      if 10 * acc + (c.toNat - 48) ≤ max then parseFrom max (10 * acc + (c.toNat - 48)) cs else none
    else none

/-- `str::parse` of an unsigned integer type with this `MAX`. -/
def parse (max : Nat) : List Char → Option Nat
  | [] | ['+'] | ['-'] => none
  | '+' :: cs => parseFrom max 0 cs
  | cs => parseFrom max 0 cs

variable {max acc n : Nat} {cs : List Char}

theorem le_value (acc : Nat) (cs : List Char) : acc ≤ value acc cs := by
  induction cs generalizing acc with
  | nil => exact Nat.le_refl acc
  | cons c cs ih =>
    have := ih (10 * acc + (c.toNat - 48))
    simp only [value, List.foldl_cons] at this ⊢
    omega

theorem parseFrom_eq_some_iff (hacc : acc ≤ max) :
    parseFrom max acc cs = some n ↔ (∀ c ∈ cs, c.isDigit = true) ∧ value acc cs ≤ max ∧ value acc cs = n := by
  induction cs generalizing acc with
  | nil => simp [parseFrom, value, hacc]
  | cons c cs ih =>
    by_cases hc : c.isDigit = true
    · by_cases hle : 10 * acc + (c.toNat - 48) ≤ max
      · simp only [parseFrom, hc, hle, if_true, ih hle, List.forall_mem_cons, true_and]
        rfl
      · -- the digits to come only make it larger
        have hmono := le_value (10 * acc + (c.toNat - 48)) cs
        simp only [parseFrom, hc, hle, if_true, if_false, reduceCtorEq, false_iff]
        rintro ⟨-, hval, -⟩
        simp only [value, List.foldl_cons] at hmono hval
        omega
    · simp [parseFrom, hc]

theorem parseFrom_eq_none_iff (hne : cs ≠ []) : parseFrom max 0 cs = none ↔ ¬IsNumber max cs := by
  rw [Option.eq_none_iff_forall_ne_some]
  constructor
  · intro h hnum
    exact h _ ((parseFrom_eq_some_iff (Nat.zero_le max)).mpr ⟨hnum.digits, hnum.le, rfl⟩)
  · intro h n hn
    obtain ⟨hdigits, hle, -⟩ := (parseFrom_eq_some_iff (Nat.zero_le max)).mp hn
    exact h ⟨hne, hdigits, hle⟩

/-- A sign is no digit. -/
theorem not_isNumber {c : Char} (hc : c.isDigit = false) : ¬IsNumber max (c :: cs) := fun h => by
  have := h.digits c List.mem_cons_self
  rw [hc] at this
  cases this

/-- **What is refused** is what is no numeral, not even behind a `+`. -/
theorem parse_eq_none_iff :
    parse max cs = none ↔ ¬IsNumber max cs ∧ ∀ ds, cs = '+' :: ds → ¬IsNumber max ds := by
  have hnil : ¬IsNumber max [] := fun h => h.ne_nil rfl
  unfold parse
  split
  · exact ⟨fun _ => ⟨hnil, by rintro ds ⟨⟩⟩, fun _ => rfl⟩
  · refine ⟨fun _ => ⟨not_isNumber rfl, ?_⟩, fun _ => rfl⟩
    rintro ds ⟨⟩
    exact hnil
  · exact ⟨fun _ => ⟨not_isNumber rfl, by rintro ds ⟨⟩⟩, fun _ => rfl⟩
  · rename_i ds hplus
    rw [parseFrom_eq_none_iff (by rintro rfl; exact hplus rfl)]
    constructor
    · intro h
      refine ⟨not_isNumber rfl, ?_⟩
      rintro ds ⟨⟩
      exact h
    · intro h
      exact h.2 ds rfl
  · rename_i hne _ _ hplus
    rw [parseFrom_eq_none_iff hne]
    exact ⟨fun h => ⟨h, fun ds hds => absurd hds (hplus ds)⟩, fun h => h.1⟩

end Text
