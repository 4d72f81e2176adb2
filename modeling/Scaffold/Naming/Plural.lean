import Scaffold.Unicode.Word
/-!
# Naming.Plural — English plurals

A word is looked up among the words without a plural, then among the irregular ones, then run through the endings.
An ending says which letters it keeps, which it drops and what it appends; the endings are tried from the most special
to the most general, and a word that fits none takes an `s`.

An ending applies to the longest run of word characters before it.  What stands before that run is lost: the endings
are written for single words, and nothing else is promised for a text that holds more.
-/
namespace Scaffold.Naming

open Unicode (isWord)

/-- Words with one form for both numbers. -/
def uncountable : List String := [
  "accommodation", "adulthood", "advertising", "advice", "aggression", "aid", "air", "aircraft", "alcohol",
  "anger", "applause", "arithmetic", "assistance", "athletics", "bacon", "baggage", "beef", "biology", "blood",
  "botany", "bread", "butter", "carbon", "cardboard", "cash", "chalk", "chaos", "chess", "crossroads",
  "countryside", "dancing", "deer", "dignity", "dirt", "dust", "economics", "education", "electricity",
  "engineering", "enjoyment", "envy", "equipment", "ethics", "evidence", "evolution", "fame", "fiction",
  "flour", "flu", "food", "fuel", "fun", "furniture", "gallows", "garbage", "garlic", "genetics", "gold",
  "golf", "gossip", "grammar", "gratitude", "grief", "guilt", "gymnastics", "happiness", "hardware", "harm",
  "hate", "hatred", "health", "heat", "help", "homework", "honesty", "honey", "hospitality", "housework",
  "humour", "hunger", "hydrogen", "ice", "importance", "inflation", "information", "innocence", "iron",
  "irony", "jam", "jewelry", "judo", "karate", "knowledge", "lack", "laughter", "lava", "leather", "leisure",
  "lightning", "linguine", "linguini", "linguistics", "literature", "litter", "livestock", "logic",
  "loneliness", "luck", "luggage", "macaroni", "machinery", "magic", "management", "mankind", "marble",
  "mathematics", "mayonnaise", "measles", "methane", "milk", "money", "mud", "music", "mumps", "nature",
  "news", "nitrogen", "nonsense", "nurture", "nutrition", "obedience", "obesity", "oxygen", "pasta",
  "patience", "physics", "poetry", "pollution", "poverty", "pride", "psychology", "publicity", "punctuation",
  "quartz", "racism", "relaxation", "reliability", "research", "respect", "revenge", "rice", "rubbish", "rum",
  "safety", "scenery", "seafood", "seaside", "series", "shame", "sheep", "shopping", "sleep", "smoke",
  "smoking", "snow", "soap", "software", "soil", "spaghetti", "species", "steam", "stuff", "stupidity",
  "sunshine", "symmetry", "tennis", "thirst", "thunder", "timber", "traffic", "transportation", "trust",
  "underwear", "unemployment", "unity", "validity", "veal", "vegetation", "vegetarianism", "vengeance",
  "violence", "vitality", "warmth", "wealth", "weather", "welfare", "wheat", "wildlife", "wisdom", "yoga",
  "zinc", "zoology"]

/-- Words whose plural no ending gives. -/
def irregular : List (String × String) := [
  ("ox", "oxen"), ("man", "men"), ("woman", "women"), ("die", "dice"), ("yes", "yeses"), ("foot", "feet"),
  ("eave", "eaves"), ("goose", "geese"), ("tooth", "teeth"), ("quiz", "quizzes")]

/-- One place of an ending: a letter of a set, or any character outside it. -/
inductive Place where
  | one (set : String)
  | outside (set : String)
  deriving Repr, DecidableEq

def Place.admits (c : Char) : Place → Bool
  | .one set => set.toList.contains c
  | .outside set => !set.toList.contains c

def placesOf (text : String) : List Place := text.toList.map (fun c => .one (String.singleton c))

/-- An ending: the stems that it keeps, one of which must be there, the tails that it drops, and what it appends.
Every stem is a run of places. -/
structure Ending where
  stems : List (List Place)
  tails : List String
  append : String

/-- An ending whose stems are fixed texts. -/
def Ending.of (stems : List String) (tails : List String) (append : String) : Ending :=
  ⟨stems.map placesOf, tails, append⟩

def vowels : String := "aeiou"

/-- The endings, the most special first. -/
def endings : List Ending := [
  .of ["eaux"] [""] "",
  .of ["child"] ["ren", ""] "ren",
  .of ["person", "people"] [""] "ople",
  .of ["mice", "mouse", "lice", "louse"] [""] "ice",
  .of ["matr", "cod", "mur", "sil", "vert", "ind", "append"] ["ix", "ex"] "ices",
  .of ["x", "ch", "ss", "sh", "zz"] [""] "es",
  .of ["xes", "ches", "sses", "shes", "zzes"] [""] "",
  ⟨[[.outside "ch", .one "ieo", .one "ln"]], ["ey"], "ies"⟩,
  ⟨[[.outside "aeiouy"], placesOf "qu"], ["y"], "ies"⟩,
  .of ["ar", "l", "ea", "eo", "oa", "hoo"] ["f"] "ves",
  .of ["kni", "wi", "li"] ["fe"] "ves",
  .of [""] ["sis"] "ses",
  .of ["apheli", "hyperbat", "periheli", "asyndet", "noumen", "phenomen", "criteri", "organ", "prolegomen", "hedr",
    "automat"] ["a", "on"] "a",
  .of ["agend", "addend", "millenni", "dat", "extrem", "bacteri", "desiderat", "strat", "candelabr", "errat", "ov",
    "symposi", "curricul", "automat", "quor"] ["a", "um"] "a",
  .of ["hero", "ato", "gro"] [""] "es",
  .of ["seraph", "cherub"] ["im", ""] "im",
  .of ["alumn", "alg", "vertebr"] ["a", "ae"] "ae",
  .of ["alumn", "syllab", "octop", "vir", "radi", "nucle", "fung", "cact", "stimul", "termin", "bacill", "foc",
    "uter", "loc", "strat"] ["us", "i"] "i",
  ⟨[[.outside "l"] ++ placesOf "ias", [.one vowels] ++ placesOf "las", [.one "emjzr"] ++ placesOf "as",
    [.one "iu"] ++ placesOf "am"], [""], ""⟩,
  ⟨[[.one "e", .one "mn", .one "u"]], ["s", ""], "s"⟩,
  ⟨[placesOf "alias", [.outside "aou"] ++ placesOf "us", placesOf "tlas", placesOf "gas", placesOf "ris"], [""], "es"⟩,
  .of ["ax", "test"] ["is"] "es",
  ⟨[[.outside vowels] ++ placesOf "ese"], [""], ""⟩,
  .of [""] ["s"] "s"]

/-- The text before the places, if the text ends with them; both are given from their ends. -/
def beforePlaces : List Place → List Char → Option (List Char)
  | [], text => some text
  | _ :: _, [] => none
  | p :: places, c :: text => if p.admits c then beforePlaces places text else none

/-- The part of the word that one stem and one tail keep: the stem and the longest run of word characters before it. -/
def keptBy (word : List Char) (stem : List Place) (tail : String) : Option (List Char) := do
  let text ← beforePlaces (placesOf tail).reverse word.reverse
  let front ← beforePlaces stem.reverse text
  some ((front.takeWhile isWord).reverse ++ (text.take stem.length).reverse)

/-- The word with the ending applied, if it has one of the ending's forms.  Of two stems that fit the one that reaches
further back decides. -/
def Ending.plural? (e : Ending) (word : List Char) : Option (List Char) :=
  let parts := e.tails.flatMap fun tail => e.stems.map fun stem =>
    (keptBy word stem tail).map fun part => (part, part.length + tail.length)
  (parts.foldl furtherBack none).map (·.1 ++ e.append.toList)
where
  /-- The candidate that begins earlier in the word, the first if both begin at one place. -/
  furtherBack : Option (List Char × Nat) → Option (List Char × Nat) → Option (List Char × Nat)
    | some a, some b => if a.2 < b.2 then some b else some a
    | some a, none => some a
    | none, b => b

def toPlural (word : List Char) : List Char :=
  let text := String.ofList word
  if uncountable.contains text then word
  else match irregular.lookup text with
    | some plural => plural.toList
    | none => (endings.findSome? (·.plural? word)).getD (word ++ ['s'])

end Scaffold.Naming
