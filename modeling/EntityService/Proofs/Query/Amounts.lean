import EntityService.Proofs.Query.WrittenBack
import EntityService.Query.Language
import Mathlib.Data.Nat.Digits.Defs

/-! Amounts, of which a request skips some entries and asks for some. An amount is read exactly as
its digits say as long as it has sixty-four bits, with any number of zeros in front, and every
language writes it in digits from which it is read again. -/
namespace EntityService.Query

open Text

/-- The kinds of options that hold an amount. -/
inductive Paging : Kind → (Nat → QueryOption) → Prop where
  | skip : Paging .skip .skip
  | top : Paging .top .top

/-- Decimal digits and the number that they stand for, in which the last digit counts once and every
other one ten times as much as the next. -/
structure Numeral (cs : List Char) (n : Nat) : Prop where
  filled : cs ≠ []
  digits : ∀ c ∈ cs, c.isDigit = true
  value : Nat.ofDigits 10 (cs.reverse.map fun c => c.toNat - '0'.toNat) = n

variable {cs : List Char} {n : Nat} {k : Kind} {option : Nat → QueryOption}

theorem ofDigitChars_eq_ofDigits (cs : List Char) : Nat.ofDigitChars 10 cs 0 =
    Nat.ofDigits 10 (cs.reverse.map fun c => c.toNat - '0'.toNat) := by
  rw [Nat.ofDigitChars_eq_foldl, Nat.ofDigits_eq_foldr, List.foldr_map, List.foldr_reverse]
  simp [Nat.add_comm]

theorem numeral_iff : Numeral cs n ↔
    (cs ≠ [] ∧ ∀ c ∈ cs, c.isDigit = true) ∧ Nat.ofDigitChars 10 cs 0 = n := by
  rw [ofDigitChars_eq_ofDigits]
  exact ⟨fun ⟨filled, digits, value⟩ => ⟨⟨filled, digits⟩, value⟩,
    fun ⟨⟨filled, digits⟩, value⟩ => ⟨filled, digits, value⟩⟩

namespace Numeral

theorem repr (n : Nat) : Numeral n.repr.toList n := by
  refine numeral_iff.mpr ⟨⟨by simp, fun c member => isDigit_of_mem_repr member⟩, ?_⟩
  exact ofDigitChars_repr n

theorem zeros_append (numeral : Numeral cs n) (zeros : Nat) :
    Numeral (List.replicate zeros '0' ++ cs) n := by
  obtain ⟨⟨filled, digits⟩, value⟩ := numeral_iff.mp numeral
  refine numeral_iff.mpr ⟨⟨by simp [filled], ?_⟩, ?_⟩
  · intro c member
    rcases List.mem_append.mp member with zero | digit
    · rw [List.eq_of_mem_replicate zero]
      decide
    · exact digits c digit
  · induction zeros with
    | zero => exact value
    | succ zeros ih =>
      rw [List.replicate_succ, List.cons_append, Nat.ofDigitChars_cons]
      exact ih

theorem exists_digit {c : Char} (digit : c.isDigit = true) : ∃ d, d < 10 ∧ c = d.digitChar := by
  obtain ⟨low, high⟩ : 48 ≤ c.toNat ∧ c.toNat ≤ 57 := Char.isDigit_iff_toNat.mp digit
  have small : c.toNat - 48 < 10 := by omega
  refine ⟨c.toNat - 48, small, Char.toNat_inj.mp ?_⟩
  rw [Nat.toNat_digitChar_of_lt_ten small]
  omega

/-- Every numeral is the shortest one of its number with some zeros in front. The induction is on its
digits from the last one on. -/
theorem exists_zeros (numeral : Numeral cs n) :
    ∃ zeros, cs = List.replicate zeros '0' ++ n.repr.toList := by
  obtain ⟨⟨filled, digits⟩, rfl⟩ := numeral_iff.mp numeral
  clear numeral
  induction cs using List.reverseRecOn with
  | nil => contradiction
  | append_singleton front c ih =>
    obtain ⟨d, small, rfl⟩ := exists_digit (digits c (by simp))
    have last : Nat.toDigits 10 d = [d.digitChar] := Nat.toDigits_of_lt_base small
    rw [Nat.ofDigitChars_append, Nat.ofDigitChars_cons_digitChar_of_lt_ten small,
      Nat.ofDigitChars_nil, Nat.toList_repr]
    by_cases single : front = []
    · subst single
      exact ⟨0, by simp [last]⟩
    obtain ⟨zeros, rest⟩ := ih single fun c member => digits c (by simp [member])
    rw [Nat.toList_repr] at rest
    by_cases zero : Nat.ofDigitChars 10 front 0 = 0
    · rw [zero, Nat.toDigits_zero] at rest
      refine ⟨zeros + 1, ?_⟩
      rw [zero, Nat.mul_zero, Nat.zero_add, last, List.replicate_succ', ← rest]
    · refine ⟨zeros, ?_⟩
      rw [← Nat.toDigits_append_toDigits (by decide) (Nat.pos_of_ne_zero zero) small, last,
        ← List.append_assoc, ← rest]

end Numeral

/-- The shortest numeral of a number does not begin with a zero, except for zero itself. -/
theorem eq_zero_of_head_repr (zero : n.repr.toList.head? = some '0') : n = 0 := by
  rw [Nat.toList_repr] at zero
  induction n using Nat.base_induction 10 (by decide) with
  | single d small => simpa [Nat.toDigits_of_lt_base small] using zero
  | digit front d small positive ih =>
    rw [← Nat.toDigits_append_toDigits (by decide) positive small,
      List.head?_append_of_ne_nil _ Nat.toDigits_ne_nil] at zero
    exact absurd (ih zero) positive.ne'

namespace QueryOption

theorem readAmount?_eq_some_iff_numeral :
    readAmount? cs = some n ↔ Numeral cs n ∧ n < 2 ^ 64 := by
  rw [readAmount?_eq_some_iff, numeral_iff, WellFormed]
  constructor
  · rintro ⟨⟨filled, digits, small⟩, rfl⟩
    exact ⟨⟨⟨filled, digits⟩, rfl⟩, small⟩
  · rintro ⟨⟨⟨filled, digits⟩, rfl⟩, small⟩
    exact ⟨⟨filled, digits, small⟩, rfl⟩

end QueryOption

namespace Paging

theorem read_eq (paging : Paging k option) (value : String) : QueryOption.read k value =
    match QueryOption.readAmount? (trim value.toList) with
    | some n => .ok (some (option n))
    | none => .error (.malformedOption k value) := by
  cases paging <;>
  · simp only [QueryOption.read, QueryOption.ofTrimmed?]
    cases QueryOption.readAmount? (trim value.toList) <;> rfl

theorem injective (paging : Paging k option) : Function.Injective option := by
  cases paging <;>
  · intro n other same
    injection same

theorem fragment_eq (paging : Paging k option) (d : Dialect) (n : Nat) :
    d.fragment (.option (option n)) = "\n\t." ++ d.method k ++ "(" ++ n.repr ++ ")" := by
  cases paging <;> rfl

end Paging

/-- An amount is accepted if and only if its value is a numeral of a number with sixty-four bits, once
the blanks around it are gone, and this is the number that is kept. Any other value is reported as it
is given. What a language writes for the amount is the shortest numeral of the number, from which the
same option is read. -/
theorem read_paging_iff (paging : Paging k option) (value : String) :
    TrimsTo value.toList (trim value.toList) ∧
    (∀ result, QueryOption.read k value = .ok result ↔
      ∃ n, result = some (option n) ∧ Numeral (trim value.toList) n ∧ n < 2 ^ 64) ∧
    (∀ error, QueryOption.read k value = .error error ↔
      error = .malformedOption k value ∧ ¬ ∃ n, Numeral (trim value.toList) n ∧ n < 2 ^ 64) ∧
    (∀ n, Numeral (trim value.toList) n ↔
      ∃ zeros, trim value.toList = List.replicate zeros '0' ++ n.repr.toList) ∧
    ∀ n, QueryOption.read k value = .ok (some (option n)) → ∀ language : Language,
      language.dialect.fragment (.option (option n)) =
        "\n\t." ++ language.dialect.method k ++ "(" ++ n.repr ++ ")" ∧
      Numeral n.repr.toList n ∧ (n.repr.toList.head? = some '0' → n.repr = "0") ∧
      QueryOption.read k n.repr = .ok (some (option n)) := by
  have accepted (result : Option QueryOption) : QueryOption.read k value = .ok result ↔
      ∃ n, result = some (option n) ∧ Numeral (trim value.toList) n ∧ n < 2 ^ 64 := by
    simp only [← QueryOption.readAmount?_eq_some_iff_numeral, paging.read_eq]
    cases QueryOption.readAmount? (trim value.toList) <;> simp [eq_comm]
  refine ⟨trimsTo_trim _, accepted, fun error => ?_, fun n => ?_, fun n read language => ?_⟩
  · simp only [← QueryOption.readAmount?_eq_some_iff_numeral, paging.read_eq]
    cases QueryOption.readAmount? (trim value.toList) <;> simp [eq_comm]
  · refine ⟨Numeral.exists_zeros, ?_⟩
    rintro ⟨zeros, written⟩
    rw [written]
    exact (Numeral.repr n).zeros_append zeros
  · obtain ⟨other, same, _, small⟩ := (accepted _).mp read
    cases paging.injective (Option.some.inj same)
    refine ⟨paging.fragment_eq _ _, .repr n, fun zero => ?_, ?_⟩
    · rw [eq_zero_of_head_repr zero]
      rfl
    · rw [paging.read_eq, QueryOption.readAmount?_repr small]

/-- The largest amount of sixty-four bits, with zeros and blanks in front, and the next number. -/
theorem read_paging_iff_largest : Paging .top .top ∧
    QueryOption.read .top "\u3000 0018446744073709551615" =
      .ok (some (.top 18446744073709551615)) ∧
    (∀ language : Language, language.dialect.fragment (.option (.top 18446744073709551615)) =
      "\n\t." ++ language.dialect.method .top ++ "(" ++ "18446744073709551615" ++ ")") ∧
    QueryOption.read .top "18446744073709551615" = .ok (some (.top 18446744073709551615)) ∧
    QueryOption.read .top "\u3000 0018446744073709551616" =
      .error (.malformedOption .top "\u3000 0018446744073709551616") := by
  have read : QueryOption.read .top "\u3000 0018446744073709551615" =
      .ok (some (.top 18446744073709551615)) := by
    decide
  obtain ⟨_, _, _, _, written⟩ := read_paging_iff .top "\u3000 0018446744073709551615"
  have written := written _ read
  exact ⟨.top, read, fun language => (written language).1, (written .java).2.2.2, by decide⟩

end EntityService.Query
