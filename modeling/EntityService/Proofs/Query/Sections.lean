import EntityService.Proofs.Query.NormalForm
import EntityService.Proofs.Text.Breaks
import EntityService.Query.Language

/-! What a section tells. Values are written as they are, but every call begins with a line feed and
a tab, and its method ends at the first parenthesis, so a section says which options it was written
for as long as no value has a line feed before a tab. -/
namespace EntityService.Query

open Text Http

/-- The texts of a request that an item is written with. -/
def Item.texts : Item → List String
  | .option (.select fields) => fields
  | .option (.filter text) | .option (.search text) | .option (.orderby text)
  | .option (.expand text) => [text]
  | .option (.skip _) | .option (.top _) | .option (.count _) => []
  | .header h => [h.name, h.value]

def Item.Normal : Item → Prop
  | .option o => o.Normal
  | .header h => isHeaderName h.name = true

namespace Dialect

/-- The method that is called for an item. -/
def callee (d : Dialect) (item : Item) : String := d.method item.kind

/-- What stands in the parentheses of the call. -/
def written (d : Dialect) : Item → String
  | .option o => d.argument o
  | .header h => d.quoted h.name ++ "," ++ d.quoted h.value

/-- The call for an item without the break in front of it. -/
def piece (d : Dialect) (item : Item) : String :=
  "." ++ d.callee item ++ "(" ++ d.written item ++ ")"

/-- Methods are words, each for one kind, and the quote is one sign that is neither a comma nor a part
of a break. -/
structure Clear (d : Dialect) : Prop where
  quote : ∃ q, d.quote.toList = [q] ∧ q ≠ ',' ∧ q ≠ '\n' ∧ q ≠ '\t'
  words : ∀ k, (d.method k).toList.all Char.isAlpha = true
  methods : ∀ k other, d.method k = d.method other → k = other

variable {d : Dialect} {item other : Item} {o p : QueryOption} {s t : String}

theorem toList_fragment (d : Dialect) (item : Item) :
    (d.fragment item).toList = '\n' :: '\t' :: (d.piece item).toList := by
  cases item <;> simp [fragment, call, piece, callee, Item.kind, written, String.toList_append]

theorem fragment_eq (d : Dialect) (item : Item) : d.fragment item = "\n\t" ++ d.piece item :=
  String.toList_injective (by simp [toList_fragment, String.toList_append])

theorem toList_piece (d : Dialect) (item : Item) : (d.piece item).toList =
    '.' :: ((d.callee item).toList ++ '(' :: ((d.written item).toList ++ [')'])) := by
  simp [piece, String.toList_append]

theorem toList_querySection (d : Dialect) (os : Options) : (d.querySection os).toList =
    (os.items.map fun item => (d.piece item).toList).flatMap fun cs => '\n' :: '\t' :: cs := by
  rw [querySection, String.toList_join, List.flatMap_map, List.flatMap_map]
  simp only [toList_fragment]

theorem toList_quoted (d : Dialect) (s : String) :
    (d.quoted s).toList = d.quote.toList ++ s.toList ++ d.quote.toList := by
  simp [quoted, String.toList_append]

theorem quoted_injective (same : d.quoted s = d.quoted t) : s = t := by
  have texts := congrArg String.toList same
  simp only [toList_quoted, List.append_cancel_left_eq, List.append_cancel_right_eq] at texts
  exact String.toList_injective texts

/-- Where a sign stands for the first time, a text falls apart in one way. -/
theorem eq_of_append_cons {c : Char} {front back front' back' : List Char} (before : c ∉ front)
    (before' : c ∉ front') (same : front ++ c :: back = front' ++ c :: back') :
    front = front' ∧ back = back' := by
  have fronts := congrArg (List.takeWhile (· != c)) same
  rw [List.takeWhile_append_of_pos (by simpa using fun a member => ne_of_mem_of_not_mem member before),
    List.takeWhile_append_of_pos
      (by simpa using fun a member => ne_of_mem_of_not_mem member before')] at fronts
  have equal : front = front' := by simpa using fronts
  subst equal
  simpa using same

theorem intercalate_injective {fields others : List String} (some : fields ≠ [])
    (more : others ≠ []) (each : ∀ field ∈ fields, ',' ∉ field.toList)
    (every : ∀ field ∈ others, ',' ∉ field.toList)
    (same : ",".intercalate fields = ",".intercalate others) : fields = others := by
  have texts := congrArg String.toList same
  rw [String.toList_intercalate, String.toList_intercalate, show ",".toList = [','] from rfl]
    at texts
  have parts := congrArg (List.splitOn ',') texts
  rw [List.splitOn_intercalate ',' (by simpa using each) (by simpa using some),
    List.splitOn_intercalate ',' (by simpa using every) (by simpa using more)] at parts
  exact List.map_injective_iff.mpr (fun _ _ => String.toList_injective) parts

/-- Numbers, flags and quoted texts are told apart within their kind. -/
theorem argument_injective (kinds : o.kind = p.kind) (normal : o.Normal) (also : p.Normal)
    (same : d.argument o = d.argument p) : o = p := by
  cases o with
  | select fields =>
    cases p <;> cases kinds
    obtain ⟨⟨some, each⟩, more, every⟩ := And.intro normal also
    rw [intercalate_injective some more (fun field member => (each field member).whole)
      (fun field member => (every field member).whole) (quoted_injective same)]
  | filter text | search text | orderby text | expand text =>
    cases p <;> cases kinds
    rw [quoted_injective same]
  | skip amount | top amount =>
    cases p <;> cases kinds
    have values := congrArg (fun s => Nat.ofDigitChars 10 (String.toList s) 0) same
    simp only [argument, ofDigitChars_repr] at values
    rw [values]
  | count flag =>
    cases p <;> cases kinds
    rename_i other
    have texts : (if flag then "true" else "false") = if other then "true" else "false" := same
    clear same
    revert texts
    cases flag <;> cases other <;> decide

theorem isTokenChar_of_mem {name : String} (valid : isHeaderName name = true) :
    ∀ c ∈ name.toList, isTokenChar c = true := by
  simp only [isHeaderName, isToken, Bool.and_eq_true] at valid
  exact List.all_eq_true.mp valid.1.2

namespace Clear

variable (clear : d.Clear)
include clear

theorem isAlpha_of_mem (item : Item) : ∀ c ∈ (d.callee item).toList, c.isAlpha = true :=
  List.all_eq_true.mp (clear.words item.kind)

/-- The first comma in the call for a header stands behind the name. -/
theorem header_injective {h i : Header} (valid : isHeaderName h.name = true)
    (also : isHeaderName i.name = true) (same : d.written (.header h) = d.written (.header i)) :
    h = i := by
  obtain ⟨q, quote, comma, _⟩ := clear.quote
  have apart {j : Header} (valid : isHeaderName j.name = true) : ',' ∉ (d.quoted j.name).toList := by
    have inner : ',' ∉ j.name.toList := not_mem_of_sort (isTokenChar_of_mem valid) (by decide)
    simpa [toList_quoted, quote, Ne.symm comma] using inner
  have texts := congrArg String.toList same
  simp only [written, String.toList_append, show ",".toList = [','] from rfl, List.append_assoc,
    List.singleton_append] at texts
  obtain ⟨names, values⟩ := eq_of_append_cons (apart valid) (apart also) texts
  exact congrArg₂ Header.mk (quoted_injective (String.toList_injective names))
    (quoted_injective (String.toList_injective values))

theorem piece_injective (normal : item.Normal) (also : other.Normal)
    (same : d.piece item = d.piece other) : item = other := by
  have texts := congrArg String.toList same
  rw [toList_piece, toList_piece] at texts
  -- The method ends at the first parenthesis, the argument at the last one.
  have apart (item : Item) : '(' ∉ (d.callee item).toList :=
    not_mem_of_sort (clear.isAlpha_of_mem item) (by decide)
  obtain ⟨callees, arguments⟩ := eq_of_append_cons (apart item) (apart other) (List.cons.inj texts).2
  have kinds : item.kind = other.kind := clear.methods _ _ (String.toList_injective callees)
  have written : d.written item = d.written other :=
    String.toList_injective (List.append_cancel_right arguments)
  cases item with
  | option o =>
    cases other with
    | option p => rw [argument_injective kinds normal also written]
    | header i => exact absurd kinds o.kind_ne_header
  | header h =>
    cases other with
    | option p => exact absurd kinds.symm p.kind_ne_header
    | header i => rw [clear.header_injective normal also written]

theorem calm_quote : Calm d.quote.toList := by
  obtain ⟨q, quote, _, line, tab⟩ := clear.quote
  rw [quote]
  exact List.forall_mem_singleton.mpr ⟨line, tab⟩

theorem unbroken_quoted (unbroken : Unbroken s.toList) : Unbroken (d.quoted s).toList := by
  rw [toList_quoted]
  exact clear.calm_quote.enclose unbroken clear.calm_quote

theorem calm_callee (item : Item) : Calm (d.callee item).toList :=
  .of_sort (clear.isAlpha_of_mem item) (by decide) (by decide)

theorem unbroken_argument (unbroken : ∀ text ∈ (Item.option o).texts, Unbroken text.toList) :
    Unbroken (d.argument o).toList := by
  cases o with
  | select fields =>
    refine clear.unbroken_quoted ?_
    rw [String.toList_intercalate]
    refine .intercalate fun part member => ?_
    obtain ⟨field, among, rfl⟩ := List.mem_map.mp member
    exact unbroken field among
  | filter text | search text | orderby text | expand text =>
    exact clear.unbroken_quoted (unbroken text List.mem_cons_self)
  | skip amount | top amount =>
    have digits : Calm amount.repr.toList :=
      .of_sort (fun c member => isDigit_of_mem_repr member) (by decide) (by decide)
    exact digits.unbroken
  | count flag =>
    rw [argument]
    cases flag <;> decide

theorem unbroken_written (normal : item.Normal)
    (unbroken : ∀ text ∈ item.texts, Unbroken text.toList) : Unbroken (d.written item).toList := by
  cases item with
  | option o => exact clear.unbroken_argument unbroken
  | header h =>
    have token : Calm h.name.toList :=
      .of_sort (isTokenChar_of_mem normal) (by decide) (by decide)
    have name : Calm (d.quoted h.name ++ ",").toList := by
      rw [String.toList_append, toList_quoted]
      exact ((clear.calm_quote.append token).append clear.calm_quote).append (by decide)
    rw [written, String.toList_append]
    exact name.before (clear.unbroken_quoted (unbroken h.value (by simp [Item.texts])))

theorem unbroken_piece (normal : item.Normal)
    (unbroken : ∀ text ∈ item.texts, Unbroken text.toList) : Unbroken (d.piece item).toList := by
  have opening : Calm ("." ++ d.callee item ++ "(").toList := by
    rw [String.toList_append, String.toList_append]
    exact (Calm.append (by decide) (clear.calm_callee item)).append (by decide)
  rw [piece, String.toList_append, String.toList_append]
  exact opening.enclose (clear.unbroken_written normal unbroken) (by decide)

end Clear
end Dialect

theorem clear_dialect (language : Language) : language.dialect.Clear where
  quote := by cases language <;> exact ⟨_, rfl, by decide⟩
  words k := by cases language <;> cases k <;> decide
  methods k other := by cases language <;> cases k <;> cases other <;> decide

namespace Options

variable {os ps : Options} {reserved also : List String}

/-- The texts that come from the request do not break a section. -/
def Plain (os : Options) : Prop := ∀ item ∈ os.items, ∀ text ∈ item.texts, Unbroken text.toList

instance (os : Options) : Decidable os.Plain := inferInstanceAs (Decidable (∀ _ ∈ _, _))

theorem length_items (os : Options) : os.items.length = os.size := by
  simp [items, toList, size]

theorem items_normal (normal : os.Normal reserved) : ∀ item ∈ os.items, item.Normal := by
  intro item member
  rcases List.mem_append.mp member with member | member
  · obtain ⟨o, among, rfl⟩ := List.mem_map.mp member
    exact normal.options o among
  · obtain ⟨h, among, rfl⟩ := List.mem_map.mp member
    exact (normal.headers h among).1

theorem toList_eq_filterMap (os : Options) :
    os.toList = os.items.filterMap fun | .option o => some o | .header _ => none := by
  simp [items, List.filterMap_append, List.filterMap_map]

theorem headers_eq_filterMap (os : Options) :
    os.headers = os.items.filterMap fun | .option _ => none | .header h => some h := by
  simp [items, List.filterMap_append, List.filterMap_map]

/-- Options are known by their items. -/
theorem items_injective (normal : os.Normal reserved) (regular : ps.Normal also)
    (same : os.items = ps.items) : os = ps := by
  have entries : os.entries = ps.entries := by
    rw [normal.entries_eq, regular.entries_eq, toList_eq_filterMap, toList_eq_filterMap, same]
  have headers : os.headers = ps.headers := by
    rw [headers_eq_filterMap, headers_eq_filterMap, same]
  obtain ⟨_, _⟩ := os
  obtain ⟨_, _⟩ := ps
  exact congrArg₂ mk entries headers

end Options

namespace Dialect.Clear

variable {d : Dialect} {os ps : Options} {items others : List Item} {reserved also : List String}

/-- The section falls apart into the calls that it was put together from. -/
theorem pieces_querySection (clear : d.Clear) (normal : os.Normal reserved) (plain : os.Plain) :
    pieces (d.querySection os).toList = [] :: os.items.map fun item => (d.piece item).toList := by
  rw [d.toList_querySection]
  refine pieces_flatMap fun part member => ?_
  obtain ⟨item, among, rfl⟩ := List.mem_map.mp member
  exact clear.unbroken_piece (Options.items_normal normal item among) (plain item among)

theorem eq_of_pieces (clear : d.Clear) (normal : ∀ item ∈ items, item.Normal)
    (regular : ∀ item ∈ others, item.Normal)
    (same : (items.map fun item => (d.piece item).toList) =
      others.map fun item => (d.piece item).toList) : items = others := by
  induction items generalizing others with
  | nil => exact (List.map_eq_nil_iff.mp same.symm).symm
  | cons item items ih =>
    cases others with
    | nil => cases same
    | cons other others =>
      obtain ⟨first, rest⟩ := List.cons.inj same
      obtain ⟨⟨one, more⟩, two, further⟩ :=
        And.intro (List.forall_mem_cons.mp normal) (List.forall_mem_cons.mp regular)
      rw [clear.piece_injective one two (String.toList_injective first), ih more further rest]

theorem querySection_injective (clear : d.Clear) (normal : os.Normal reserved)
    (regular : ps.Normal also) (plain : os.Plain) (unbroken : ps.Plain)
    (same : d.querySection os = d.querySection ps) : os = ps := by
  have parts := clear.pieces_querySection normal plain
  rw [same, clear.pieces_querySection regular unbroken] at parts
  exact Options.items_injective normal regular (clear.eq_of_pieces (Options.items_normal normal)
    (Options.items_normal regular) (List.cons.inj parts).2.symm)

end Dialect.Clear

namespace Options

variable {os ps : Options} {query other : String} {headers others : Headers}
  {reserved also : List String}

/-- Two requests have the same section in a language only if they have the same options. The section
falls apart at its breaks into one call for each item, in the order of the items, whatever quotes
and parentheses the values have. -/
theorem querySection_determines (language : Language)
    (read : ofPairs (readPairs query) headers reserved = .ok os)
    (again : ofPairs (readPairs other) others also = .ok ps) (plain : os.Plain)
    (unbroken : ps.Plain) :
    (language.dialect.querySection os = language.dialect.querySection ps ↔ os = ps) ∧
    ∃ calls : List String,
      pieces (language.dialect.querySection os).toList = [] :: calls.map String.toList ∧
      calls.length = os.size ∧
      os.items.map language.dialect.fragment = calls.map ("\n\t" ++ ·) := by
  have clear := clear_dialect language
  have normal := ofPairs_normal read
  refine ⟨⟨clear.querySection_injective normal (ofPairs_normal again) plain unbroken,
    congrArg _⟩, os.items.map language.dialect.piece, ?_, ?_, ?_⟩
  · rw [clear.pieces_querySection normal plain, List.map_map]
    rfl
  · rw [List.length_map, length_items]
  · rw [List.map_map]
    exact List.map_congr_left fun item _ => Dialect.fragment_eq _ item

/-- A value with the signs of another call is not mistaken for that call while it has no break. -/
theorem querySection_determines_lookalike : ∃ os ps : Options,
    ofPairs (readPairs "$filter=x')%0A.expand('y") ⟨[⟨"Prefer", "a,b"⟩]⟩ [] = .ok os ∧
    ofPairs (readPairs "$filter=x&$expand=y") ⟨[⟨"Host", "h"⟩, ⟨"Prefer", "a,b"⟩]⟩ ["host"] =
      .ok ps ∧
    os.Plain ∧ ps.Plain ∧
    Language.javascript.dialect.querySection os ≠ Language.javascript.dialect.querySection ps ∧
    ∃ calls : List String,
      pieces (Language.javascript.dialect.querySection os).toList =
        [] :: calls.map String.toList ∧ calls.length = 2 := by
  have read : ofPairs (readPairs "$filter=x')%0A.expand('y") ⟨[⟨"Prefer", "a,b"⟩]⟩ [] =
      .ok ⟨[(.filter, .filter "x')\n.expand('y")], [⟨"Prefer", "a,b"⟩]⟩ := by
    decide
  have again : ofPairs (readPairs "$filter=x&$expand=y")
      ⟨[⟨"Host", "h"⟩, ⟨"Prefer", "a,b"⟩]⟩ ["host"] =
      .ok ⟨[(.filter, .filter "x"), (.expand, .expand "y")], [⟨"Prefer", "a,b"⟩]⟩ := by
    decide
  obtain ⟨same, calls, parts, length, _⟩ :=
    querySection_determines .javascript read again (by decide) (by decide)
  exact ⟨_, _, read, again, by decide, by decide, fun equal => absurd (same.mp equal) (by decide),
    calls, parts, length⟩

/-- With a break in a value the section can be that of other options. -/
example : Language.javascript.dialect.querySection ⟨[(.filter, .filter "x')\n\t.expand('y")], []⟩ =
    Language.javascript.dialect.querySection
      ⟨[(.filter, .filter "x"), (.expand, .expand "y")], []⟩ := by
  decide

end Options
end EntityService.Query
