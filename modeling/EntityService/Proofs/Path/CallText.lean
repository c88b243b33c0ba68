import EntityService.Path.Element
import EntityService.Proofs.Text.Splitting

/-! The grammar of calls. A call is an identifier, an opening parenthesis, arguments on one line and
a closing parenthesis. No identifier holds a parenthesis, so a text is read as a call in one way. -/
namespace EntityService.Path

variable {cs name arguments : List Char} {raw text : String}

theorem isNameRest_of_isNameStart {c : Char} (start : isNameStart c = true) :
    isNameRest c = true := by
  simp only [isNameStart, isNameRest, Char.isAlphanum, Bool.or_eq_true] at start ⊢
  exact start.imp_left .inl

theorem simpleName_chars (simple : isSimpleName cs = true) : ∀ c ∈ cs, isNameRest c = true := by
  cases cs with
  | nil => exact absurd simple Bool.false_ne_true
  | cons c cs =>
    simp only [isSimpleName, Bool.and_eq_true, List.all_eq_true] at simple
    exact List.forall_mem_cons.mpr ⟨isNameRest_of_isNameStart simple.1, simple.2⟩

theorem identifier_chars (identifier : isIdentifier cs = true) :
    ∀ c ∈ cs, c = '.' ∨ isNameRest c = true := by
  intro c member
  refine (Text.mem_splitOn member).imp_right fun ⟨part, among, inside⟩ => ?_
  exact simpleName_chars (List.all_eq_true.mp identifier part among) c inside

theorem identifier_not_mem (identifier : isIdentifier cs = true) {c : Char} (dot : c ≠ '.')
    (other : isNameRest c = false) : c ∉ cs := by
  intro member
  rcases identifier_chars identifier c member with rfl | rest
  · contradiction
  · simp [other] at rest

theorem identifier_before_parenthesis (identifier : isIdentifier name = true) (rest : List Char) :
    (name ++ '(' :: rest).takeWhile (· != '(') = name ∧
      (name ++ '(' :: rest).dropWhile (· != '(') = '(' :: rest := by
  have before : ∀ c ∈ name, (c != '(') = true := by
    rintro c member
    simp only [bne_iff_ne, ne_eq]
    rintro rfl
    exact identifier_not_mem identifier (by decide) (by decide) member
  rw [List.takeWhile_append_of_pos before, List.dropWhile_append_of_pos before]
  simp

theorem call?_eq_some_iff : call? cs = some (name, arguments) ↔
    cs = name ++ '(' :: (arguments ++ [')']) ∧ isIdentifier name = true ∧ '\n' ∉ arguments := by
  simp only [call?, Option.bind_eq_bind, Option.bind_eq_some_iff,
    List.isPrefixOf?_eq_some_iff_append_eq, List.isSuffixOf?_eq_some_iff_append_eq,
    Option.ite_none_right_eq_some, Bool.and_eq_true, Bool.not_eq_true', List.contains_eq_mem,
    decide_eq_false_iff_not, Option.pure_def, Option.some.injEq, Prod.mk.injEq]
  constructor
  · rintro ⟨_, after, _, rfl, ⟨identifier, line⟩, rfl, rfl⟩
    refine ⟨?_, identifier, line⟩
    simpa only [← after, List.singleton_append] using
      (List.takeWhile_append_dropWhile (p := (· != '(')) (l := cs)).symm
  · rintro ⟨rfl, identifier, line⟩
    obtain ⟨before, after⟩ := identifier_before_parenthesis identifier (arguments ++ [')'])
    rw [before, after]
    exact ⟨_, rfl, _, rfl, ⟨identifier, line⟩, rfl, rfl⟩

/-- The two parts of a call are determined by its text. -/
theorem call_unique {other inside : List Char} (identifier : isIdentifier name = true)
    (otherIdentifier : isIdentifier other = true)
    (same : name ++ '(' :: (arguments ++ [')']) = other ++ '(' :: (inside ++ [')'])) :
    name = other ∧ arguments = inside := by
  have names := congrArg (List.takeWhile (· != '(')) same
  rw [(identifier_before_parenthesis identifier _).1,
    (identifier_before_parenthesis otherIdentifier _).1] at names
  subst names
  simpa using same

namespace Element

theorem ofText_of_call (called : call? raw.toList = some (name, arguments)) :
    ofText raw = ⟨raw, String.ofList name, some (String.ofList arguments)⟩ := by
  simp only [ofText, called]

theorem ofText_of_not_call (plain : call? raw.toList = none) : ofText raw = ⟨raw, raw, none⟩ := by
  simp only [ofText, plain]

theorem ofText_raw (raw : String) : (ofText raw).raw = raw := by
  unfold ofText
  split <;> rfl

theorem name_of_plain (plain : (ofText raw).arguments = none) : (ofText raw).name = raw := by
  cases called : call? raw.toList with
  | none => rw [ofText_of_not_call called]
  | some parts =>
    rw [ofText_of_call called] at plain
    contradiction

/-- The name and the arguments are the whole text but for the parentheses. -/
theorem text_of_call (given : (ofText raw).arguments = some text) :
    (ofText raw).name ++ "(" ++ text ++ ")" = raw := by
  cases called : call? raw.toList with
  | none =>
    rw [ofText_of_not_call called] at given
    contradiction
  | some parts =>
    rw [ofText_of_call called] at given ⊢
    obtain ⟨whole, _⟩ := call?_eq_some_iff.mp called
    cases given
    exact String.toList_injective (by simp [String.toList_append, whole])

/-- Without a parenthesis, a text stands for itself. -/
theorem ofText_of_not_mem (plain : '(' ∉ raw.toList) : ofText raw = ⟨raw, raw, none⟩ := by
  apply ofText_of_not_call
  by_contra called
  obtain ⟨⟨name, arguments⟩, called⟩ := Option.ne_none_iff_exists'.mp called
  obtain ⟨text, _⟩ := call?_eq_some_iff.mp called
  exact plain (by simp [text])

theorem ofText_identifier (identifier : isIdentifier raw.toList = true) :
    ofText raw = ⟨raw, raw, none⟩ :=
  ofText_of_not_mem (identifier_not_mem identifier (by decide) (by decide))

theorem toList_call (name text : String) :
    (name ++ "(" ++ text ++ ")").toList = name.toList ++ '(' :: (text.toList ++ [')']) := by
  simp [String.toList_append]

theorem ofText_call {name : String} (identifier : isIdentifier name.toList = true)
    (line : '\n' ∉ text.toList) : ofText (name ++ "(" ++ text ++ ")") =
      ⟨name ++ "(" ++ text ++ ")", name, some text⟩ := by
  have called := call?_eq_some_iff.mpr ⟨toList_call name text, identifier, line⟩
  simpa only [String.ofList_toList] using ofText_of_call called

/-- Text on several lines between the parentheses makes no call. -/
theorem ofText_lines {name : String} (identifier : isIdentifier name.toList = true)
    (lines : '\n' ∈ text.toList) : ofText (name ++ "(" ++ text ++ ")") =
      ⟨name ++ "(" ++ text ++ ")", name ++ "(" ++ text ++ ")", none⟩ := by
  apply ofText_of_not_call
  by_contra called
  obtain ⟨⟨other, arguments⟩, called⟩ := Option.ne_none_iff_exists'.mp called
  obtain ⟨same, otherIdentifier, line⟩ := call?_eq_some_iff.mp called
  rw [toList_call] at same
  exact line ((call_unique identifier otherIdentifier same).2 ▸ lines)

theorem isSystem_ofText : (ofText raw).isSystem = ['$'].isPrefixOf raw.toList := by
  rw [isSystem, ofText_raw]

theorem not_isSystem_of_not_mem (rest : List Char) (nonempty : cs ≠ []) (absent : '$' ∉ cs) :
    ['$'].isPrefixOf (cs ++ rest) = false := by
  cases cs with
  | nil => contradiction
  | cons c cs =>
    simp only [List.mem_cons, not_or] at absent
    simp [List.isPrefixOf, absent.1]

theorem not_isSystem_of_identifier (rest : List Char) (identifier : isIdentifier name = true) :
    ['$'].isPrefixOf (name ++ rest) = false := by
  apply not_isSystem_of_not_mem rest
  · rintro rfl
    contradiction
  · exact identifier_not_mem identifier (by decide) (by decide)

end Element
end EntityService.Path
