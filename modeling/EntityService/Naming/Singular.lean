import EntityService.Text.CharacterClass

/-! The singular of an English noun, as far as names of resources need it: words without a plural,
irregular words, and an ordered list of rules on the end of a word. -/
namespace EntityService.Naming

open Text

/-- Words that are their own singular. -/
def uncountable : List String :=
  ["accommodation", "adulthood", "advertising", "advice", "aggression", "aid", "air",
   "aircraft", "alcohol", "anger", "applause", "arithmetic", "assistance", "athletics", "bacon",
   "baggage", "beef", "biology", "blood", "botany", "bread", "butter", "carbon", "cardboard",
   "cash", "chalk", "chaos", "chess", "crossroads", "countryside", "dancing", "deer", "dignity",
   "dirt", "dust", "economics", "education", "electricity", "engineering", "enjoyment", "envy",
   "equipment", "ethics", "evidence", "evolution", "fame", "fiction", "flour", "flu", "food",
   "fuel", "fun", "furniture", "gallows", "garbage", "garlic", "genetics", "gold", "golf",
   "gossip", "grammar", "gratitude", "grief", "guilt", "gymnastics", "happiness", "hardware",
   "harm", "hate", "hatred", "health", "heat", "help", "homework", "honesty", "honey",
   "hospitality", "housework", "humour", "hunger", "hydrogen", "ice", "importance", "inflation",
   "information", "innocence", "iron", "irony", "jam", "jewelry", "judo", "karate", "knowledge",
   "lack", "laughter", "lava", "leather", "leisure", "lightning", "linguine", "linguini",
   "linguistics", "literature", "litter", "livestock", "logic", "loneliness", "luck", "luggage",
   "macaroni", "machinery", "magic", "management", "mankind", "marble", "mathematics",
   "mayonnaise", "measles", "methane", "milk", "money", "mud", "music", "mumps", "nature",
   "news", "nitrogen", "nonsense", "nurture", "nutrition", "obedience", "obesity", "oxygen",
   "pasta", "patience", "physics", "poetry", "pollution", "poverty", "pride", "psychology",
   "publicity", "punctuation", "quartz", "racism", "relaxation", "reliability", "research",
   "respect", "revenge", "rice", "rubbish", "rum", "safety", "scenery", "seafood", "seaside",
   "series", "shame", "sheep", "shopping", "sleep", "smoke", "smoking", "snow", "soap",
   "software", "soil", "spaghetti", "species", "steam", "stuff", "stupidity", "sunshine",
   "symmetry", "tennis", "thirst", "thunder", "timber", "traffic", "transportation", "trust",
   "underwear", "unemployment", "unity", "validity", "veal", "vegetation", "vegetarianism",
   "vengeance", "violence", "vitality", "warmth", "wealth", "weather", "welfare", "wheat",
   "wildlife", "wisdom", "yoga", "zinc", "zoology"]

/-- Plurals that follow no rule. The first three come before all else. -/
def irregular : List (String × String) :=
  [("children", "child"), ("people", "person"), ("data", "datum"),
   ("oxen", "ox"), ("boxes", "box"), ("men", "man"), ("women", "woman"), ("dice", "die"),
   ("yeses", "yes"), ("feet", "foot"), ("eaves", "eave"), ("geese", "goose"), ("teeth", "tooth"),
   ("quizzes", "quiz")]

/-- What stands before the ending of a plural. -/
inductive Stem where
  | text (s : String)
  | oneOf (s : String)
  | noneOf (s : String)

/-- A rule on plurals. -/
inductive PluralRule where
  /-- These words have this singular. -/
  | words (plurals : List String) (singular : String)
  /-- Whatever begins like this has this singular. -/
  | front (text : String) (singular : String)
  /-- After one of the stems, each of the endings gives way to one singular ending. -/
  | ending (stems : List Stem) (endings : List String) (singular : String)

/-- Removes the stem from the front of a text that is read backwards; the two parts are the stem
and the rest. -/
def Stem.take? : Stem → List Char → Option (List Char × List Char)
  | .text s, cs => (s.toList.reverse.isPrefixOf? cs).map (s.toList.reverse, ·)
  | .oneOf s, c :: cs => if s.toList.contains c then some ([c], cs) else none
  | .noneOf s, c :: cs => if s.toList.contains c then none else some ([c], cs)
  | _, [] => none

/-- What is kept of a text, both read backwards: a stem, and the word characters before it. -/
def keep? (stems : List Stem) (cs : List Char) : Option (List Char) :=
  stems.findSome? fun stem =>
    (stem.take? cs).map fun (taken, rest) => taken ++ rest.takeWhile isWord

/-- Puts an ending behind what is kept, which is read backwards. A dollar sign there begins a name
that stands for nothing, and the ending is all of that name. -/
def withEnding (kept : List Char) (ending : String) : List Char :=
  match kept with
  | '$' :: before => before.reverse
  | _ => kept.reverse ++ ending.toList

def PluralRule.singular? (word : List Char) : PluralRule → Option (List Char)
  | .words plurals singular =>
    if plurals.any (·.toList == word) then some singular.toList else none
  | .front text singular =>
    if text.toList.isPrefixOf word then some singular.toList else none
  | .ending stems endings singular => do
    let kept ← endings.findSome? fun ending =>
      (ending.toList.reverse.isPrefixOf? word.reverse).bind (keep? stems)
    return withEnding kept singular

/-- The rules, the first that applies wins. -/
def pluralRules : List PluralRule :=
  [.ending [.text "database"] ["s"] "",
   .ending [.text "quiz"] ["zes"] "",
   .ending [.text "matr"] ["ices"] "ix",
   .ending [.text "vert", .text "ind"] ["ices"] "ex",
   .front "oxen" "ox",
   .ending [.text "alias", .text "status"] ["es", ""] "",
   .ending [.text "octop", .text "vir"] ["us", "i"] "us",
   .words ["axis", "axes"] "axis",
   .ending [.text "cris", .text "test"] ["is", "es"] "is",
   .ending [.text "shoe"] ["s"] "",
   .ending [.text "bus"] ["es", ""] "",
   .ending [.oneOf "ml"] ["ice"] "ouse",
   .ending [.text "x", .text "ch", .text "ss", .text "sh"] ["es"] "",
   .ending [.text "m"] ["ovies"] "ovie",
   .ending [.text "s"] ["eries"] "eries",
   .ending [.noneOf "aeiouy", .text "qu"] ["ies"] "y",
   .ending [.oneOf "lr"] ["ves"] "f",
   .ending [.text "tive"] ["s"] "",
   .ending [.text "hive"] ["s"] "",
   .ending [.noneOf "f"] ["ves"] "fe",
   .words ["analysis", "analyses"] "analysis",
   .ending [.text "analy", .text "ba", .text "diagno", .text "parenthe", .text "progno",
     .text "synop", .text "the"] ["sis", "ses"] "sis",
   .ending [.oneOf "ti"] ["a"] "um",
   .ending [.text "o"] ["es"] "",
   .ending [.text "n"] ["ews"] "ews",
   .ending [.text "ss"] [""] "",
   .ending [.text ""] ["s"] ""]

/-- A word that no rule changes, or would leave empty, stays as it is. -/
def byRule (word : String) : String :=
  match pluralRules.findSome? (·.singular? word.toList) with
  | some (c :: cs) => String.ofList (c :: cs)
  | _ => word

def singular (word : String) : String :=
  if uncountable.contains word then word
  else (irregular.lookup word).getD (byRule word)

end EntityService.Naming
