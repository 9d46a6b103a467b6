import SelectQuery.Inflection.Pattern

/-!
The tables of English inflection: irregular pairs, words without a plural, and the rules for the
ends of regular words. In each table of rules a later rule goes before an earlier one.
-/

namespace SelectQuery.Inflection

open Pattern

/-- A rule for the words that end in a given way. In the replacement `$0` stands for that end and
`$1`, `$2` for the captured parts that took part in the match. -/
structure Rule where
  ending : Pattern
  replacement : String

/-- Irregular words, singular and plural. Of two pairs with the same word the later one holds. -/
def irregular : List (String × String) := [
  ("I", "we"), ("me", "us"), ("he", "they"), ("she", "they"), ("them", "them"),
  ("myself", "ourselves"), ("yourself", "yourselves"), ("itself", "themselves"),
  ("herself", "themselves"), ("himself", "themselves"), ("themself", "themselves"), ("is", "are"),
  ("was", "were"), ("has", "have"), ("this", "these"), ("that", "those"), ("my", "our"),
  ("its", "their"), ("his", "their"), ("her", "their"), ("echo", "echoes"), ("dingo", "dingoes"),
  ("volcano", "volcanoes"), ("tornado", "tornadoes"), ("torpedo", "torpedoes"),
  ("genus", "genera"), ("viscus", "viscera"), ("stigma", "stigmata"), ("stoma", "stomata"),
  ("dogma", "dogmata"), ("lemma", "lemmata"), ("schema", "schemata"), ("anathema", "anathemata"),
  ("ox", "oxen"), ("axe", "axes"), ("die", "dice"), ("yes", "yeses"), ("foot", "feet"),
  ("eave", "eaves"), ("goose", "geese"), ("tooth", "teeth"), ("quiz", "quizzes"),
  ("human", "humans"), ("proof", "proofs"), ("carve", "carves"), ("valve", "valves"),
  ("looey", "looies"), ("thief", "thieves"), ("groove", "grooves"), ("pickaxe", "pickaxes"),
  ("passerby", "passersby"), ("canvas", "canvases")]

/-- Words that are their own singular and plural. -/
def uncountable : List String := [
  "adulthood", "advice", "agenda", "aid", "aircraft", "alcohol", "ammo", "analytics", "anime",
  "athletics", "audio", "bison", "blood", "bream", "buffalo", "butter", "carp", "cash", "chassis",
  "chess", "clothing", "cod", "commerce", "cooperation", "corps", "debris", "diabetes",
  "digestion", "elk", "energy", "equipment", "excretion", "expertise", "firmware", "flounder",
  "fun", "gallows", "garbage", "graffiti", "hardware", "headquarters", "health", "herpes",
  "highjinks", "homework", "housework", "information", "jeans", "justice", "kudos", "labour",
  "literature", "machinery", "mackerel", "mail", "media", "mews", "moose", "music", "mud",
  "manga", "news", "only", "personnel", "pike", "plankton", "pliers", "police", "pollution",
  "premises", "rain", "research", "rice", "salmon", "scissors", "series", "sewage", "shambles",
  "shrimp", "software", "staff", "swine", "tennis", "traffic", "transportation", "trout", "tuna",
  "wealth", "welfare", "whiting", "wildebeest", "wildlife", "you"]

def pluralRules : List Rule := [
  ⟨optional (word "s"), "s"⟩,
  ⟨nonAscii, "$0"⟩,
  ⟨capture (noneOf "aeiou" ++ word "ese"), "$1"⟩,
  ⟨capture (words ["ax", "test"]) ++ word "is", "$1es"⟩,
  ⟨capture (anyOf [word "alias", noneOf "aou" ++ word "us", word "t" ++ oneOf "lm" ++ word "as",
    word "gas", word "ris"]), "$1es"⟩,
  ⟨capture (word "e" ++ oneOf "mn" ++ word "u") ++ optional (word "s"), "$1s"⟩,
  ⟨capture (anyOf [noneOf "l" ++ word "ias", oneOf "aeiou" ++ word "las", oneOf "ejzr" ++
    word "as", oneOf "iu" ++ word "am"]), "$1"⟩,
  ⟨capture (words ["alumn", "syllab", "vir", "radi", "nucle", "fung", "cact", "stimul", "termin",
    "bacill", "foc", "uter", "loc", "strat"]) ++ words ["us", "i"], "$1i"⟩,
  ⟨capture (words ["alumn", "alg", "vertebr"]) ++ words ["a", "ae"], "$1ae"⟩,
  ⟨capture (words ["seraph", "cherub"]) ++ optional (word "im"), "$1im"⟩,
  ⟨capture (words ["her", "at", "gr"]) ++ word "o", "$1oes"⟩,
  ⟨capture (words ["agend", "addend", "millenni", "dat", "extrem", "bacteri", "desiderat",
    "strat", "candelabr", "errat", "ov", "symposi", "curricul", "automat", "quor"]) ++ words ["a",
    "um"], "$1a"⟩,
  ⟨capture (words ["apheli", "hyperbat", "periheli", "asyndet", "noumen", "phenomen", "criteri",
    "organ", "prolegomen", "hedr", "automat"]) ++ words ["a", "on"], "$1a"⟩,
  ⟨word "sis", "ses"⟩,
  ⟨anyOf [capture (words ["kni", "wi", "li"]) ++ word "fe", capture (words ["ar", "l", "ea", "eo",
    "oa", "hoo"]) ++ word "f"], "$1$2ves"⟩,
  ⟨capture (anyOf [noneOf "aeiouy", word "qu"]) ++ word "y", "$1ies"⟩,
  ⟨capture (noneOf "ch" ++ oneOf "ieo" ++ oneOf "ln") ++ word "ey", "$1ies"⟩,
  ⟨capture (words ["x", "ch", "ss", "sh", "zz"]), "$1es"⟩,
  ⟨capture (words ["matr", "cod", "mur", "sil", "vert", "ind", "append"]) ++ words ["ix", "ex"],
    "$1ices"⟩,
  ⟨boundary ++ capture (anyOf [optional (word "tit") ++ word "m", word "l"]) ++ words ["ice",
    "ouse"], "$1ice"⟩,
  ⟨capture (word "pe") ++ words ["rson", "ople"], "$1ople"⟩,
  ⟨capture (word "child") ++ optional (word "ren"), "$1ren"⟩,
  ⟨word "eaux", "$0"⟩,
  ⟨word "m" ++ oneOf "ae" ++ word "n", "men"⟩,
  ⟨start ++ word "thou", "you"⟩]

def singularRules : List Rule := [
  ⟨word "s", ""⟩,
  ⟨capture (word "ss"), "$1"⟩,
  ⟨capture (anyOf [word "wi", word "kni", anyOf [word "after", word "half", word "high",
    word "low", word "mid", word "non", word "night", nonWord, start] ++ word "li"]) ++
    word "ves", "$1fe"⟩,
  ⟨capture (anyOf [word "ar", anyOf [word "wo", oneOf "ae"] ++ word "l", oneOf "eo" ++
    oneOf "ao"]) ++ word "ves", "$1f"⟩,
  ⟨word "ies", "y"⟩,
  ⟨capture (words ["dg", "ss", "ois", "lk", "ok", "wn", "mb", "th", "ch", "ec", "oal", "is", "ck",
    "ix", "sser", "ts", "wb"]) ++ word "ies", "$1ie"⟩,
  ⟨boundary ++ capture (anyOf [word "l", optional (words ["neck", "cross", "hog", "aun"]) ++
    word "t", word "coll", word "faer", word "food", word "gen", word "goon", word "group",
    word "hipp", word "junk", word "vegg", optional (word "pork") ++ word "p", word "charl",
    word "calor", word "cut"]) ++ word "ies", "$1ie"⟩,
  ⟨boundary ++ capture (words ["mon", "smil"]) ++ word "ies", "$1ey"⟩,
  ⟨boundary ++ capture (anyOf [optional (word "tit") ++ word "m", word "l"]) ++ word "ice",
    "$1ouse"⟩,
  ⟨capture (words ["seraph", "cherub"]) ++ word "im", "$1"⟩,
  ⟨capture (anyOf [word "x", word "ch", word "ss", word "sh", word "zz", word "tto", word "go",
    word "cho", word "alias", noneOf "aou" ++ word "us", word "t" ++ oneOf "lm" ++ word "as",
    word "gas", words ["her", "at", "gr"] ++ word "o", oneOf "aeiou" ++ word "ris"]) ++
    optional (word "es"), "$1"⟩,
  ⟨capture (words ["analy", "diagno", "parenthe", "progno", "synop", "the", "empha", "cri",
    "ne"]) ++ words ["sis", "ses"], "$1sis"⟩,
  ⟨capture (anyOf [word "movie", word "twelve", word "abuse", word "e" ++ oneOf "mn" ++
    word "u"]) ++ word "s", "$1"⟩,
  ⟨capture (word "test") ++ words ["is", "es"], "$1is"⟩,
  ⟨capture (words ["alumn", "syllab", "vir", "radi", "nucle", "fung", "cact", "stimul", "termin",
    "bacill", "foc", "uter", "loc", "strat"]) ++ words ["us", "i"], "$1us"⟩,
  ⟨capture (words ["agend", "addend", "millenni", "dat", "extrem", "bacteri", "desiderat",
    "strat", "candelabr", "errat", "ov", "symposi", "curricul", "quor"]) ++ word "a", "$1um"⟩,
  ⟨capture (words ["apheli", "hyperbat", "periheli", "asyndet", "noumen", "phenomen", "criteri",
    "organ", "prolegomen", "hedr", "automat"]) ++ word "a", "$1on"⟩,
  ⟨capture (words ["alumn", "alg", "vertebr"]) ++ word "ae", "$1a"⟩,
  ⟨capture (words ["cod", "mur", "sil", "vert", "ind"]) ++ word "ices", "$1ex"⟩,
  ⟨capture (words ["matr", "append"]) ++ word "ices", "$1ix"⟩,
  ⟨capture (word "pe") ++ capture (words ["rson", "ople"]), "$1rson"⟩,
  ⟨capture (word "child") ++ word "ren", "$1"⟩,
  ⟨capture (word "eau") ++ optional (word "x"), "$1"⟩,
  ⟨word "men", "man"⟩]

/-- The ends of words that are their own singular and plural. -/
def uncountableRules : List Rule := [
  ⟨word "pok" ++ oneOf "eé" ++ word "mon", "$0"⟩,
  ⟨noneOf "aeiou" ++ word "ese", "$0"⟩,
  ⟨word "deer", "$0"⟩,
  ⟨word "fish", "$0"⟩,
  ⟨word "measles", "$0"⟩,
  ⟨word "o" ++ oneOf "iu" ++ word "s", "$0"⟩,
  ⟨word "pox", "$0"⟩,
  ⟨word "sheep", "$0"⟩]

end SelectQuery.Inflection
