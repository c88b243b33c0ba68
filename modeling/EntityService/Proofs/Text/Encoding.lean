import EntityService.Text.Utf8
import Mathlib.Data.List.Basic

/-! Octets that read back. The octets of a text are decoded to the text, and whatever other octets
stand for, they do not stand for nothing. -/
namespace EntityService.Text.Utf8

variable {b : Nat} {started : Started}

theorem first_one (small : b < 0x80) : first b = ([Char.ofNat b], none) := by
  rw [first, if_pos small]

theorem first_two (low : 0xC2 ≤ b) (high : b ≤ 0xDF) :
    first b = ([], some ⟨b - 0xC0, 1, 0x80, 0xBF⟩) := by
  have lead : lead? b = some ⟨b - 0xC0, 1, 0x80, 0xBF⟩ := if_pos ⟨low, high⟩
  rw [first, if_neg (by omega), lead]

/-- The bounds keep out what has a shorter encoding and the code points that are no characters. -/
theorem first_three (low : 0xE0 ≤ b) (high : b ≤ 0xEF) : first b = ([], some ⟨b - 0xE0, 2,
    if b = 0xE0 then 0xA0 else 0x80, if b = 0xED then 0x9F else 0xBF⟩) := by
  have lead : lead? b = some ⟨b - 0xE0, 2,
      if b = 0xE0 then 0xA0 else 0x80, if b = 0xED then 0x9F else 0xBF⟩ := by
    rw [lead?, if_neg (by omega)]
    by_cases least : b = 0xE0
    · subst least
      rfl
    by_cases surrogate : b = 0xED
    · subst surrogate
      rfl
    rw [if_neg least, if_neg surrogate, if_pos (by omega), if_neg least, if_neg surrogate]
  rw [first, if_neg (by omega), lead]

theorem first_four (low : 0xF0 ≤ b) (high : b ≤ 0xF4) : first b = ([], some ⟨b - 0xF0, 3,
    if b = 0xF0 then 0x90 else 0x80, if b = 0xF4 then 0x8F else 0xBF⟩) := by
  have cases : b = 0xF0 ∨ b = 0xF1 ∨ b = 0xF2 ∨ b = 0xF3 ∨ b = 0xF4 := by omega
  rcases cases with rfl | rfl | rfl | rfl | rfl <;> rfl

theorem next_of_last (last : started.missing = 1) (low : started.low ≤ b) (high : b ≤ started.high) :
    next started b = ([Char.ofNat (started.bits * 0x40 + b % 0x40)], none) := by
  rw [next, if_pos ⟨low, high⟩]
  exact if_pos last

theorem next_of_more (more : started.missing ≠ 1) (low : started.low ≤ b) (high : b ≤ started.high) :
    next started b = ([],
      some ⟨started.bits * 0x40 + b % 0x40, started.missing - 1, 0x80, 0xBF⟩) := by
  rw [next, if_pos ⟨low, high⟩]
  exact if_neg more

theorem toNat_octet {n : Nat} (small : n < 0x100) : (UInt8.ofNat n).toNat = n :=
  UInt8.toNat_ofNat_of_lt' small

section Characters

variable {n : Nat} (rest : Octets)

theorem decodeFrom_two (low : 0x80 ≤ n) (high : n < 0x800) :
    decodeFrom none (UInt8.ofNat (n / 64 % 32 + 192) :: UInt8.ofNat (n % 64 + 128) :: rest) =
      Char.ofNat n :: decodeFrom none rest := by
  rw [decodeFrom, toNat_octet (by omega), first_two (by omega) (by omega), List.nil_append,
    decodeFrom, toNat_octet (by omega), next_of_last rfl (by dsimp only; omega)
      (by dsimp only; omega)]
  have whole : (n / 64 % 32 + 192 - 0xC0) * 0x40 + (n % 64 + 128) % 0x40 = n := by omega
  rw [whole, List.singleton_append]

theorem decodeFrom_three (low : 0x800 ≤ n) (high : n < 0x10000)
    (scalar : n < 0xD800 ∨ 0xDFFF < n) :
    decodeFrom none (UInt8.ofNat (n / 4096 % 16 + 224) :: UInt8.ofNat (n / 64 % 64 + 128) ::
      UInt8.ofNat (n % 64 + 128) :: rest) = Char.ofNat n :: decodeFrom none rest := by
  rw [decodeFrom, toNat_octet (by omega), first_three (by omega) (by omega), List.nil_append,
    decodeFrom, toNat_octet (by omega), next_of_more (by simp) (by dsimp only; split <;> omega)
      (by dsimp only; split <;> omega), List.nil_append,
    decodeFrom, toNat_octet (by omega), next_of_last rfl (by dsimp only; omega)
      (by dsimp only; omega)]
  have whole : ((n / 4096 % 16 + 224 - 0xE0) * 0x40 + (n / 64 % 64 + 128) % 0x40) * 0x40 +
      (n % 64 + 128) % 0x40 = n := by
    omega
  rw [whole, List.singleton_append]

theorem decodeFrom_four (low : 0x10000 ≤ n) (high : n < 0x110000) :
    decodeFrom none (UInt8.ofNat (n / 262144 % 8 + 240) :: UInt8.ofNat (n / 4096 % 64 + 128) ::
      UInt8.ofNat (n / 64 % 64 + 128) :: UInt8.ofNat (n % 64 + 128) :: rest) =
      Char.ofNat n :: decodeFrom none rest := by
  rw [decodeFrom, toNat_octet (by omega), first_four (by omega) (by omega), List.nil_append,
    decodeFrom, toNat_octet (by omega), next_of_more (by simp) (by dsimp only; split <;> omega)
      (by dsimp only; split <;> omega), List.nil_append,
    decodeFrom, toNat_octet (by omega), next_of_more (by simp) (by dsimp only; omega)
      (by dsimp only; omega), List.nil_append,
    decodeFrom, toNat_octet (by omega), next_of_last rfl (by dsimp only; omega)
      (by dsimp only; omega)]
  have whole : (((n / 262144 % 8 + 240 - 0xF0) * 0x40 + (n / 4096 % 64 + 128) % 0x40) * 0x40 +
      (n / 64 % 64 + 128) % 0x40) * 0x40 + (n % 64 + 128) % 0x40 = n := by
    omega
  rw [whole, List.singleton_append]

/-- The octets of a character are read as that character, whatever follows them. -/
theorem decodeFrom_encodeChar (c : Char) (rest : Octets) :
    decodeFrom none (String.utf8EncodeChar c ++ rest) = c :: decodeFrom none rest := by
  have valid : c.val.toNat < 0xD800 ∨ 0xDFFF < c.val.toNat ∧ c.val.toNat < 0x110000 := c.valid
  have back : Char.ofNat c.val.toNat = c := Char.ofNat_toNat c
  fun_cases String.utf8EncodeChar c with
  | case1 n one =>
    rw [List.singleton_append, decodeFrom, toNat_octet (by omega), first_one (by omega), back]
    rfl
  | case2 n more two => exact (decodeFrom_two rest (by omega) (by omega)).trans (by rw [back])
  | case3 n more most three =>
    exact (decodeFrom_three rest (by omega) (by omega) (by omega)).trans (by rw [back])
  | case4 n more most four =>
    exact (decodeFrom_four rest (by omega) (by omega)).trans (by rw [back])

end Characters

/-- A character that has been started comes out, if only as its replacement. -/
theorem decodeFrom_started_ne_nil (started : Started) (bs : Octets) :
    decodeFrom (some started) bs ≠ [] := by
  induction bs generalizing started with
  | nil => exact List.cons_ne_nil _ _
  | cons b bs ih =>
    rw [decodeFrom, next]
    split
    · dsimp only
      split
      · exact List.cons_ne_nil _ _
      · exact ih _
    · exact List.cons_ne_nil _ _

theorem decode_ne_nil {bs : Octets} (octets : bs ≠ []) : decode bs ≠ [] := by
  obtain ⟨b, bs, rfl⟩ := List.exists_cons_of_ne_nil octets
  rw [decode, decodeFrom, first]
  split
  · exact List.cons_ne_nil _ _
  · split
    · exact decodeFrom_started_ne_nil _ _
    · exact List.cons_ne_nil _ _

theorem decode_encode (cs : List Char) : decode (encode cs) = cs := by
  suffices ∀ rest, decodeFrom none (encode cs ++ rest) = cs ++ decodeFrom none rest by
    simpa [decode, decodeFrom] using this []
  intro rest
  induction cs with
  | nil => rfl
  | cons c cs ih =>
    rw [encode, List.flatMap_cons, List.append_assoc, decodeFrom_encodeChar, ← encode, ih]
    rfl

end EntityService.Text.Utf8
