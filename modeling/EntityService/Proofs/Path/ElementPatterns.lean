import EntityService.Proofs.Path.CallText
import Mathlib.Computability.Language

/-! The patterns of path elements. An identifier is one or more simple names with dots between them,
and a call is an identifier with text on one line in parentheses behind it. No text is both, and a
call can be taken apart in one way only, so how much a pattern takes at a time makes no difference. -/
namespace EntityService.Path

open Computability

/-- A letter of ASCII or an underscore. -/
def BeginsName (c : Char) : Prop := 'A' ≤ c ∧ c ≤ 'Z' ∨ 'a' ≤ c ∧ c ≤ 'z' ∨ c = '_'

def ContinuesName (c : Char) : Prop := BeginsName c ∨ '0' ≤ c ∧ c ≤ '9'

namespace Pattern

/-- Any single character of a sort. -/
def one (sort : Char → Prop) : Language Char := {cs | ∃ c, sort c ∧ cs = [c]}

def simpleName : Language Char := one BeginsName * (one ContinuesName)∗

def identifier : Language Char := simpleName * (one (· = '.') * simpleName)∗

/-- Any text without a line feed. -/
def line : Language Char := (one (· ≠ '\n'))∗

def call : Language Char := identifier * (one (· = '(') * (line * one (· = ')')))

end Pattern

/-- A call with its two parts. -/
structure Splits (cs name arguments : List Char) : Prop where
  text : cs = name ++ '(' :: (arguments ++ [')'])
  identifier : name ∈ Pattern.identifier
  line : '\n' ∉ arguments

variable {sort : Char → Prop} {c : Char} {cs name arguments other inside : List Char} {raw : String}

theorem isNameStart_iff : isNameStart c = true ↔ BeginsName c := by
  have upper : c.isUpper = true ↔ 'A' ≤ c ∧ c ≤ 'Z' := decide_eq_true_iff
  have lower : c.isLower = true ↔ 'a' ≤ c ∧ c ≤ 'z' :=
    Bool.and_eq_true_iff.trans (and_congr decide_eq_true_iff decide_eq_true_iff)
  have letter : c.isAlpha = true ↔ c.isUpper = true ∨ c.isLower = true := Bool.or_eq_true_iff
  rw [isNameStart, Bool.or_eq_true, letter, upper, lower, beq_iff_eq, or_assoc, BeginsName]

theorem isNameRest_iff : isNameRest c = true ↔ ContinuesName c := by
  have digit : c.isDigit = true ↔ '0' ≤ c ∧ c ≤ '9' :=
    Bool.and_eq_true_iff.trans (and_congr decide_eq_true_iff decide_eq_true_iff)
  rw [ContinuesName, ← isNameStart_iff, ← digit]
  simp only [isNameRest, isNameStart, Char.isAlphanum, Bool.or_eq_true]
  exact or_right_comm

namespace Pattern

theorem one_mul_iff {p : Language Char} :
    cs ∈ one sort * p ↔ ∃ c rest, sort c ∧ rest ∈ p ∧ cs = c :: rest := by
  rw [Language.mem_mul]
  constructor
  · rintro ⟨_, ⟨c, sorted, rfl⟩, rest, matched, rfl⟩
    exact ⟨c, rest, sorted, matched, rfl⟩
  · rintro ⟨c, rest, sorted, matched, rfl⟩
    exact ⟨[c], ⟨c, sorted, rfl⟩, rest, matched, rfl⟩

theorem many_iff : cs ∈ (one sort)∗ ↔ ∀ c ∈ cs, sort c := by
  rw [Language.mem_kstar]
  constructor
  · rintro ⟨parts, rfl, each⟩ c member
    obtain ⟨part, among, inside⟩ := List.mem_flatten.mp member
    obtain ⟨d, sorted, rfl⟩ := each part among
    rwa [List.mem_singleton.mp inside]
  · intro each
    refine ⟨cs.map fun c => [c], by rw [← List.flatMap_def, List.flatMap_singleton'], ?_⟩
    rintro part among
    obtain ⟨c, member, rfl⟩ := List.mem_map.mp among
    exact ⟨c, each c member, rfl⟩

theorem line_iff : cs ∈ line ↔ '\n' ∉ cs := by
  rw [line, many_iff]
  exact ⟨fun each member => each _ member rfl, fun absent c member same => absent (same ▸ member)⟩

theorem simpleName_iff : cs ∈ simpleName ↔ isSimpleName cs = true := by
  rw [simpleName, one_mul_iff]
  simp only [many_iff, ← isNameStart_iff, ← isNameRest_iff]
  cases cs with
  | nil => simp [isSimpleName]
  | cons c cs => simp [isSimpleName]

/-- Parts with dots between them are the first part and the others with a dot in front of each. -/
theorem intercalate_eq_flatten (part : List Char) (parts : List (List Char)) :
    ['.'].intercalate (part :: parts) = part ++ (parts.map ('.' :: ·)).flatten := by
  induction parts generalizing part with
  | nil => simp
  | cons next parts ih => simp [List.intercalate_cons_cons, ih]

theorem identifier_iff_parts : cs ∈ identifier ↔
    ∃ parts, parts ≠ [] ∧ (∀ part ∈ parts, part ∈ simpleName) ∧ cs = ['.'].intercalate parts := by
  rw [identifier, Language.mem_mul]
  constructor
  · rintro ⟨part, first, _, others, rfl⟩
    obtain ⟨dotted, rfl, each⟩ := Language.mem_kstar.mp others
    -- Every round of the repetition begins with its dot, so the tails are the other parts.
    have headed : ∀ cs ∈ dotted, cs.tail ∈ simpleName ∧ '.' :: cs.tail = cs := by
      intro cs member
      obtain ⟨_, next, rfl, simple, rfl⟩ := one_mul_iff.mp (each cs member)
      exact ⟨simple, rfl⟩
    refine ⟨part :: dotted.map List.tail, List.cons_ne_nil _ _, ?_, ?_⟩
    · simpa [first] using fun cs member => (headed cs member).1
    · have same : dotted.map (fun cs => '.' :: cs.tail) = dotted :=
        (List.map_congr_left fun cs member => (headed cs member).2).trans (List.map_id dotted)
      rw [intercalate_eq_flatten, List.map_map, Function.comp_def, same]
  · rintro ⟨parts, some, each, rfl⟩
    obtain ⟨part, parts, rfl⟩ := List.exists_cons_of_ne_nil some
    obtain ⟨first, others⟩ := List.forall_mem_cons.mp each
    rw [intercalate_eq_flatten]
    refine ⟨part, first, _, Language.join_mem_kstar ?_, rfl⟩
    rintro dotted among
    obtain ⟨next, member, rfl⟩ := List.mem_map.mp among
    exact one_mul_iff.mpr ⟨'.', next, rfl, others next member, rfl⟩

theorem identifier_iff : cs ∈ identifier ↔ isIdentifier cs = true := by
  simp only [identifier_iff_parts, simpleName_iff]
  refine (Text.all_splitOn_iff fun part simple dot => ?_).symm
  exact absurd (simpleName_chars simple '.' dot) (by decide)

theorem call_iff : cs ∈ call ↔ ∃ name arguments, Splits cs name arguments := by
  rw [call, Language.mem_mul]
  constructor
  · rintro ⟨name, identifier, _, enclosed, rfl⟩
    obtain ⟨_, _, rfl, inner, rfl⟩ := one_mul_iff.mp enclosed
    obtain ⟨arguments, matched, _, ⟨_, rfl, rfl⟩, rfl⟩ := Language.mem_mul.mp inner
    exact ⟨name, arguments, rfl, identifier, line_iff.mp matched⟩
  · rintro ⟨name, arguments, rfl, identifier, absent⟩
    have inner : arguments ++ [')'] ∈ line * one (· = ')') :=
      Language.append_mem_mul (line_iff.mpr absent) ⟨_, rfl, rfl⟩
    exact ⟨name, identifier, _, one_mul_iff.mpr ⟨_, _, rfl, inner, rfl⟩, rfl⟩

end Pattern

namespace Splits

theorem iff_call? : Splits cs name arguments ↔ call? cs = some (name, arguments) := by
  rw [call?_eq_some_iff, ← Pattern.identifier_iff]
  exact ⟨fun called => ⟨called.text, called.identifier, called.line⟩,
    fun ⟨text, identifier, line⟩ => ⟨text, identifier, line⟩⟩

theorem unique (called : Splits cs name arguments) (also : Splits cs other inside) :
    name = other ∧ arguments = inside := by
  have names := Pattern.identifier_iff.mp called.identifier
  exact call_unique names (Pattern.identifier_iff.mp also.identifier)
    (called.text.symm.trans also.text)

/-- The name ends at the first parenthesis. -/
theorem idxOf_eq (called : Splits cs name arguments) : cs.idxOf '(' = name.length := by
  have before : '(' ∉ name :=
    identifier_not_mem (Pattern.identifier_iff.mp called.identifier) (by decide) (by decide)
  rw [called.text, List.idxOf_append_of_notMem before, List.idxOf_cons_self, Nat.add_zero]

end Splits

namespace Pattern

theorem call?_eq_none_iff : call? cs = none ↔ cs ∉ call := by
  simp only [call_iff, Splits.iff_call?, Option.eq_none_iff_forall_ne_some, ne_eq, not_exists,
    Prod.forall]

theorem not_call_of_identifier (matched : cs ∈ identifier) : cs ∉ call := by
  rw [call_iff]
  rintro ⟨name, arguments, called⟩
  refine identifier_not_mem (c := '(') (identifier_iff.mp matched) (by decide) (by decide) ?_
  simp [called.text]

end Pattern

namespace Element

open Pattern

theorem ofText_eq_call_iff {name text : String} : ofText raw = ⟨raw, name, some text⟩ ↔
    Splits raw.toList name.toList text.toList := by
  rw [Splits.iff_call?]
  constructor
  · intro taken
    cases called : call? raw.toList with
    | none =>
      rw [ofText_of_not_call called] at taken
      cases taken
    | some parts =>
      rw [ofText_of_call called] at taken
      cases taken
      simp only [String.toList_ofList]
  · intro called
    rw [ofText_of_call called, String.ofList_toList, String.ofList_toList]

theorem ofText_eq_plain_iff : ofText raw = ⟨raw, raw, none⟩ ↔ raw.toList ∉ call := by
  rw [← call?_eq_none_iff]
  cases called : call? raw.toList with
  | none => simp [ofText_of_not_call called]
  | some parts => simp [ofText_of_call called]

theorem isKeyText_ofText_iff : (ofText raw).isKeyText = true ↔ raw.toList ∉ identifier + call := by
  rw [Language.mem_add, not_or, identifier_iff, ← call?_eq_none_iff]
  cases called : call? raw.toList with
  | none => simp [isKeyText, ofText_of_not_call called]
  | some parts => simp [isKeyText, ofText_of_call called]

/-- A text is taken apart into a name and arguments if and only if it is a call, and then in one way.
Any other text is left whole, and it is a key unless it is an identifier. -/
theorem ofText_matches_patterns (raw : String) :
    (∀ name text, ofText raw = ⟨raw, name, some text⟩ ↔
      Splits raw.toList name.toList text.toList) ∧
    (raw.toList ∈ call ↔ ∃ name arguments, Splits raw.toList name arguments) ∧
    (∀ name arguments, Splits raw.toList name arguments → raw.toList.idxOf '(' = name.length ∧
      ∀ other inside, Splits raw.toList other inside → name = other ∧ arguments = inside) ∧
    (ofText raw = ⟨raw, raw, none⟩ ↔ raw.toList ∉ call) ∧
    (isIdentifier raw.toList = true ↔ raw.toList ∈ identifier) ∧
    ((ofText raw).isKeyText = true ↔ raw.toList ∉ identifier + call) ∧
    (raw.toList ∈ identifier → raw.toList ∉ call) ∧
    (∀ name text : String, name.toList ∈ identifier → '\n' ∉ text.toList →
      ofText (name ++ "(" ++ text ++ ")") = ⟨name ++ "(" ++ text ++ ")", name, some text⟩) := by
  refine ⟨fun name text => ofText_eq_call_iff, call_iff, ?_, ofText_eq_plain_iff,
    identifier_iff.symm, isKeyText_ofText_iff, not_call_of_identifier, ?_⟩
  · intro name arguments called
    exact ⟨called.idxOf_eq, fun other inside also => called.unique also⟩
  · intro name text matched line
    exact ofText_call (identifier_iff.mp matched) line

/-- A name with a dot in it is called with other parentheses between its own. -/
theorem ofText_matches_patterns_nested :
    "yard.find".toList ∈ identifier ∧ '\n' ∉ "near(1),(2)".toList ∧
    ofText "yard.find(near(1),(2))" =
      ⟨"yard.find(near(1),(2))", "yard.find", some "near(1),(2)"⟩ ∧
    "yard.find(near(1),(2))".toList.idxOf '(' = "yard.find".toList.length := by
  have matched : "yard.find".toList ∈ identifier := identifier_iff.mpr (by decide)
  have line : '\n' ∉ "near(1),(2)".toList := by decide
  have whole : "yard.find" ++ "(" ++ "near(1),(2)" ++ ")" = "yard.find(near(1),(2))" := by decide
  obtain ⟨taken, _, parts, _, _, _, _, called⟩ := ofText_matches_patterns "yard.find(near(1),(2))"
  have split := called "yard.find" "near(1),(2)" matched line
  rw [whole] at split
  exact ⟨matched, line, split, (parts _ _ ((taken _ _).mp split)).1⟩

/-- A line feed between the parentheses leaves the text whole. -/
example : ofText "members(a\nb)" = ⟨"members(a\nb)", "members(a\nb)", none⟩ := by decide

end Element
end EntityService.Path
