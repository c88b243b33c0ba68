import EntityService.Proofs.Outcome
import EntityService.Proofs.Text.Encoding
import EntityService.Text.Percent

/-! Percent-encoded text. A text can be encoded in many ways, since an octet may be coded that need
not be and hexadecimal digits come in two cases. All of them are read as the text, and none has a
sign in it that has a meaning in a URL. -/
namespace EntityService.Text.Percent

/-- A hexadecimal digit of either case. -/
def IsHexDigit (n : Nat) (c : Char) : Prop :=
  "0123456789ABCDEF".toList[n]? = some c ∨ "0123456789abcdef".toList[n]? = some c

/-- How an octet can be written. An unreserved character may stand for itself, and every octet may
be given by two hexadecimal digits. -/
inductive WritesOctet : UInt8 → List Char → Prop where
  | plain : isUnreserved c = true → WritesOctet (UInt8.ofNat c.toNat) [c]
  | coded : IsHexDigit (b.toNat / 16) high → IsHexDigit (b.toNat % 16) low →
      WritesOctet b ['%', high, low]

/-- How a text can be written: octet by octet. -/
def Writes (text : String) (cs : List Char) : Prop :=
  ∃ parts, List.Forall₂ WritesOctet (Utf8.encode text.toList) parts ∧ parts.flatten = cs

variable {c : Char} {cs part : List Char} {b : UInt8} {n : Nat} {text : String}

namespace IsHexDigit

/-- A digit is read as its number, and no digit has a meaning in a URL. -/
theorem read (digit : IsHexDigit n c) : hexDigit? c = some n ∧ isUnreserved c = true := by
  rcases digit with upper | lower
  · obtain ⟨bound, rfl⟩ := List.getElem?_eq_some_iff.mp upper
    clear upper
    decide +revert
  · obtain ⟨bound, rfl⟩ := List.getElem?_eq_some_iff.mp lower
    clear lower
    decide +revert

theorem upperHex (small : n < 16) : IsHexDigit n (upperHex n) := by
  refine .inl ?_
  decide +revert

end IsHexDigit

theorem hexPair?_of_isHexDigit {high low : Char} (first : IsHexDigit (b.toNat / 16) high)
    (second : IsHexDigit (b.toNat % 16) low) : hexPair? high low = some b := by
  rw [hexPair?, first.read.1, second.read.1]
  have whole : b.toNat / 16 * 16 + b.toNat % 16 = b.toNat := by omega
  exact congrArg some ((congrArg UInt8.ofNat whole).trans UInt8.ofNat_toNat)

theorem toNat_of_isUnreserved (unreserved : isUnreserved c = true) : c.toNat < 0x80 := by
  have upper (letter : c.isUpper = true) : c.toNat ≤ 90 := (of_decide_eq_true letter).2
  have lower (letter : c.isLower = true) : c.toNat ≤ 122 :=
    of_decide_eq_true (Bool.and_eq_true_iff.mp letter).2
  have digit (figure : c.isDigit = true) : c.toNat ≤ 57 :=
    of_decide_eq_true (Bool.and_eq_true_iff.mp figure).2
  rcases Bool.or_eq_true_iff.mp unreserved with alphanumeric | sign
  · rcases Bool.or_eq_true_iff.mp alphanumeric with letter | figure
    · rcases Bool.or_eq_true_iff.mp letter with large | small
      · exact Nat.lt_of_le_of_lt (upper large) (by decide)
      · exact Nat.lt_of_le_of_lt (lower small) (by decide)
    · exact Nat.lt_of_le_of_lt (digit figure) (by decide)
  · rw [List.contains_iff_mem] at sign
    simp only [List.mem_cons, List.not_mem_nil, or_false] at sign
    rcases sign with rfl | rfl | rfl | rfl <;> decide

theorem utf8EncodeChar_of_isUnreserved (unreserved : isUnreserved c = true) :
    String.utf8EncodeChar c = [UInt8.ofNat c.toNat] := by
  have small := toNat_of_isUnreserved unreserved
  unfold String.utf8EncodeChar
  exact if_pos (Nat.le_of_lt_succ small)

theorem octets_cons_of_ne (plain : c ≠ '%') (cs : List Char) :
    octets (c :: cs) = String.utf8EncodeChar c ++ octets cs := by
  rw [octets]
  rintro _ _ _ rfl
  contradiction

theorem octets_ne_nil (some : cs ≠ []) : octets cs ≠ [] := by
  have encoded (c : Char) (rest : Utf8.Octets) : String.utf8EncodeChar c ++ rest ≠ [] := by
    have length := String.length_utf8EncodeChar c
    have positive := Char.utf8Size_pos c
    refine List.append_ne_nil_of_left_ne_nil (List.ne_nil_of_length_pos ?_) rest
    omega
  fun_cases octets cs with
  | case1 => contradiction
  | case2 => exact List.cons_ne_nil _ _
  | case3 => exact List.cons_ne_nil _ _
  | case4 c rest => exact encoded c _

/-- Some text always means some text. -/
theorem decoded_ne_empty (some : cs ≠ []) : decoded cs ≠ "" := by
  intro empty
  have nothing : decode cs = [] := by simpa [decoded] using congrArg String.toList empty
  exact Utf8.decode_ne_nil (octets_ne_nil some) nothing

namespace WritesOctet

theorem octets_append (writes : WritesOctet b part) (cs : List Char) :
    octets (part ++ cs) = b :: octets cs := by
  cases writes with
  | @plain c unreserved =>
    have sign : c ≠ '%' := by
      rintro rfl
      exact absurd unreserved (by decide)
    rw [List.singleton_append, octets_cons_of_ne sign, utf8EncodeChar_of_isUnreserved unreserved,
      List.singleton_append]
  | coded first second =>
    rw [List.cons_append, List.cons_append, List.singleton_append, octets,
      hexPair?_of_isHexDigit first second]

theorem mem (writes : WritesOctet b part) (member : c ∈ part) :
    c = '%' ∨ isUnreserved c = true := by
  cases writes with
  | plain unreserved =>
    rw [List.mem_singleton] at member
    exact .inr (member ▸ unreserved)
  | coded first second =>
    simp only [List.mem_cons, List.not_mem_nil, or_false] at member
    rcases member with rfl | rfl | rfl
    · exact .inl rfl
    · exact .inr first.read.2
    · exact .inr second.read.2

theorem encodeOctet (b : UInt8) : WritesOctet b (encodeOctet b) := by
  have small : b.toNat < 256 := b.toNat_lt
  exact .coded (.upperHex (by omega)) (.upperHex (by omega))

end WritesOctet

theorem octets_flatten {bs : Utf8.Octets} {parts : List (List Char)}
    (each : List.Forall₂ WritesOctet bs parts) : octets parts.flatten = bs := by
  induction each with
  | nil => rfl
  | cons writes _ ih => rw [List.flatten_cons, writes.octets_append, ih]

theorem exists_parts_of_char (c : Char) :
    ∃ parts, List.Forall₂ WritesOctet (String.utf8EncodeChar c) parts ∧
      parts.flatten = if !isUnreserved c then (String.utf8EncodeChar c).flatMap encodeOctet
        else [c] := by
  cases unreserved : isUnreserved c with
  | true =>
    rw [utf8EncodeChar_of_isUnreserved unreserved]
    exact ⟨[[c]], .cons (.plain unreserved) .nil, rfl⟩
  | false =>
    refine ⟨(String.utf8EncodeChar c).map encodeOctet, ?_, (List.flatMap_def ..).symm⟩
    rw [List.forall₂_map_right_iff, List.forall₂_same]
    intro b _
    exact .encodeOctet b

namespace Writes

theorem decoded_eq (writes : Writes text cs) : decoded cs = text := by
  obtain ⟨parts, each, rfl⟩ := writes
  rw [decoded, decode, octets_flatten each, Utf8.decode_encode, String.ofList_toList]

/-- What a written text is made of. -/
theorem mem (writes : Writes text cs) (member : c ∈ cs) : c = '%' ∨ isUnreserved c = true := by
  obtain ⟨parts, each, rfl⟩ := writes
  obtain ⟨part, among, inside⟩ := List.mem_flatten.mp member
  obtain ⟨b, _, written⟩ := EntityService.Outcome.exists_part_of_mem each among
  exact written.mem inside

theorem not_mem (writes : Writes text cs) (sign : c ≠ '%') (reserved : isUnreserved c = false) :
    c ∉ cs := by
  intro member
  rcases writes.mem member with same | unreserved
  · exact sign same
  · exact Bool.noConfusion (reserved.symm.trans unreserved)

theorem ne_nil (writes : Writes text cs) (filled : text ≠ "") : cs ≠ [] := by
  rintro rfl
  exact filled writes.decoded_eq.symm

/-- Encoding writes a text in one of these ways. -/
theorem encodeComponent (text : String) : Writes text (encodeComponent text.toList) := by
  rw [Writes]
  induction text.toList with
  | nil => exact ⟨[], .nil, rfl⟩
  | cons c cs ih =>
    obtain ⟨first, here, same⟩ := exists_parts_of_char c
    obtain ⟨rest, each, flat⟩ := ih
    refine ⟨first ++ rest, List.rel_append here each, ?_⟩
    rw [List.flatten_append, same, flat]
    rfl

end Writes
end EntityService.Text.Percent
