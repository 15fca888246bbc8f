import ClockFace.Locale.Rows
import ClockFace.Locale.Tag

/-! # From tags to locales

A tag stands for the locale with its language, territory and script. If there are no data under its
own name, codes are replaced by the usual ones and the parts that the tag leaves out are filled in
with the likely ones; the script that was filled in is dropped again if that gives data. -/

namespace ClockFace

/-- A locale: the normal form of the tag that it was reached by, and its data. -/
structure Locale where
  id : String
  data : LocaleData

namespace Locale

/-- Other codes of languages. -/
def languageAliases : List (String × String) :=
  [("ara", "ar"), ("bul", "bg"), ("chi", "zh"), ("cmn", "zh"), ("deu", "de"), ("ell", "el"),
   ("eng", "en"), ("ewe", "ee"), ("fra", "fr"), ("fre", "fr"), ("ger", "de"), ("gla", "gd"),
   ("gre", "el"), ("jpn", "ja"), ("kor", "ko"), ("tur", "tr"), ("zho", "zh")]

/-- Other codes of territories. -/
def territoryAliases : List (String × String) :=
  [("100", "BG"), ("124", "CA"), ("158", "TW"), ("276", "DE"), ("288", "GH"), ("300", "GR"),
   ("392", "JP"), ("410", "KR"), ("792", "TR"), ("818", "EG"), ("826", "GB"), ("840", "US"),
   ("UK", "GB")]

/-- The likely full form of a tag, as language, script and territory. -/
def likelyTags : List (String × (String × String × String)) :=
  [("ar", "ar", "Arab", "EG"), ("bg", "bg", "Cyrl", "BG"), ("de", "de", "Latn", "DE"),
   ("ee", "ee", "Latn", "GH"), ("el", "el", "Grek", "GR"), ("en", "en", "Latn", "US"),
   ("fr", "fr", "Latn", "FR"), ("gd", "gd", "Latn", "GB"), ("ja", "ja", "Jpan", "JP"),
   ("ko", "ko", "Kore", "KR"), ("nds", "nds", "Latn", "DE"), ("tr", "tr", "Latn", "TR"),
   ("zh", "zh", "Hans", "CN"), ("zh_TW", "zh", "Hant", "TW"), ("und", "en", "Latn", "US"),
   ("und_BG", "bg", "Cyrl", "BG"), ("und_DE", "de", "Latn", "DE"), ("und_EG", "ar", "Arab", "EG"),
   ("und_GB", "en", "Latn", "GB"), ("und_GR", "el", "Grek", "GR"), ("und_JP", "ja", "Jpan", "JP"),
   ("und_KR", "ko", "Kore", "KR"), ("und_TR", "tr", "Latn", "TR"),
   ("und_TW", "zh", "Hant", "TW"), ("und_US", "en", "Latn", "US")]

/-- The likely full form of a normal tag. -/
def likely? (id : String) : Option LocaleTag :=
  (likelyTags.lookup id).map fun (language, script, territory) =>
    { language, script := some script, territory := some territory }

/-- The locale with data under exactly the name of the tag. -/
def load? (t : LocaleTag) : Option Locale :=
  (LocaleData.all.find? (·.id == t.baseId)).map fun data => ⟨t.id, data⟩

/-- The locale of a tag, or of its language and territory alone. -/
def loadReducing? (t : LocaleTag) : Option Locale :=
  load? t <|> load? { language := t.language, territory := t.territory }

/-- The tag with the usual codes and without the codes for an unknown territory or script. -/
def withUsualCodes (t : LocaleTag) : LocaleTag :=
  let usual := (languageAliases.lookup t.language).getD t.language
  let territory := t.territory.map fun c => (territoryAliases.lookup c).getD c
  { t with
    language := usual
    territory := territory.filter (· != "ZZ")
    script := t.script.filter (· != "Zzzz") }

/-- The locale that a tag stands for. -/
def resolve? (t : LocaleTag) : Option Locale :=
  let usual := withUsualCodes t
  load? t <|>
    ((likely? usual.id).bind loadReducing?) <|>
    ((likely? usual.language).bind fun full =>
      loadReducing? { full with territory := usual.territory })

/-- The locale that a tag names. -/
def ofTag (tag : String) : Except Failure Locale := do
  let t ← LocaleTag.parse tag
  match resolve? t with
  | some locale => return locale
  | none => throw (.unknownLocale t.id)

end Locale

end ClockFace
