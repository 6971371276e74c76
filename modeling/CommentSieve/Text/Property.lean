import CommentSieve.Text.Blank
import CommentSieve.Text.Property.Age
import CommentSieve.Text.Property.Binary
import CommentSieve.Text.Property.Break
import CommentSieve.Text.Property.Category
import CommentSieve.Text.Property.Script
import CommentSieve.Text.Word

/-!
# Properties of characters

The sets of characters that a pattern can call by name: general categories, scripts,
properties without values, and properties with a value each. Like the word characters of
patterns, they are those of the edition of the standard before the newest. What follows
from other properties is put together here, after the definitions of the standard.

Main definitions: `looseName`, `plain?` and `valued?`.
-/

namespace CommentSieve.Text.Property

open NamedSet

/-! ## Names -/

/-- A name in loose spelling: in lower case, without separators and without a leading
`is`. The name `isc`, of which only the name of a category would be left, is kept. -/
def looseName (name : List Char) : String :=
  match name with
  | i :: s :: rest =>
    if i.toLower = 'i' ∧ s.toLower = 's' then
      match lowered rest with
      | ['c'] => "isc"
      | rest => String.ofList rest
    else String.ofList (lowered name)
  | name => String.ofList (lowered name)
where
  /-- The ASCII characters other than separators, in lower case. -/
  lowered (cs : List Char) : List Char :=
    (cs.filter fun c => c.toNat < 0x80 && !([' ', '_', '-'].contains c)).map (·.toLower)

/-! ## General categories -/

/-- Characters in some of the general categories. -/
def categories (names : List String) : Intervals := select categoryTable names

/-- Code points that are not assigned to characters. -/
def unassigned : Intervals := .compl (.unions (categoryTable.map fun entry => setOf entry.ranges))

/-- The general category, or group of categories, with a name. -/
def category? (name : String) : Option Intervals :=
  match name with
  | "any" => some [(0, lastOrdinal)]
  | "assigned" => some unassigned.compl
  | "ascii" => some [(0, 0x7F)]
  | "c" | "other" => some (.union unassigned (categories ["cc", "cf", "co"]))
  | "cn" | "unassigned" => some unassigned
  | "l" | "letter" => some (categories ["lu", "ll", "lt", "lm", "lo"])
  | "lc" | "casedletter" => some (categories ["lu", "ll", "lt"])
  | "m" | "mark" | "combiningmark" => some (categories ["mn", "mc", "me"])
  | "n" | "number" => some (categories ["nd", "nl", "no"])
  | "p" | "punctuation" | "punct" =>
    some (categories ["pc", "pd", "ps", "pe", "pi", "pf", "po"])
  | "s" | "symbol" => some (categories ["sm", "sc", "sk", "so"])
  | "z" | "separator" => some (categories ["zs", "zl", "zp"])
  | name => find? categoryTable name

/-! ## Properties without values -/

/-- Characters with one of some listed properties. -/
def properties (names : List String) : Intervals := select propertyTable names

/-- Letters, and what is used like them. -/
def alphabetic : Intervals := .diff (.ofRanges alphabeticRanges) (.ofRanges recentRanges)

/-- Letters that are small or written like small ones. -/
def lowercase : Intervals := .union (categories ["ll"]) (properties ["olower"])

/-- Letters that are capital or written like capital ones. -/
def uppercase : Intervals := .union (categories ["lu"]) (properties ["oupper"])

/-- Letters with a case, title case included. -/
def cased : Intervals := .unions [lowercase, uppercase, categories ["lt"]]

/-- Characters that are passed over when the case of what is around them matters. -/
def caseIgnorable : Intervals :=
  .union (categories ["mn", "me", "cf", "lm", "sk"]) (select wordTable ["ml", "mb", "sq"])

/-- What the small letter of is another character: all capitals but those that only
look like one. -/
def changesWhenLowercased : Intervals :=
  .diff (.union uppercase (categories ["lt"])) <| setOf
    "3D2-3D4 2102 2107 210B-210D 2110-2112 2115 2119-211D 2124 2128 212C-212D 2130-2131 2133
     213E-213F 2145 1D400-1D419 1D434-1D44D 1D468-1D481 1D49C 1D49E-1D49F 1D4A2 1D4A5-1D4A6
     1D4A9-1D4AC 1D4AE-1D4B5 1D4D0-1D4E9 1D504-1D505 1D507-1D50A 1D50D-1D514 1D516-1D51C
     1D538-1D539 1D53B-1D53E 1D540-1D544 1D546 1D54A-1D550 1D56C-1D585 1D5A0-1D5B9 1D5D4-1D5ED
     1D608-1D621 1D63C-1D655 1D670-1D689 1D6A8-1D6C0 1D6E2-1D6FA 1D71C-1D734 1D756-1D76E
     1D790-1D7A8 1D7CA 1F130-1F149 1F150-1F169 1F170-1F189"

/-- What has a capital of its own: all small letters but those listed, and the letters in
title case. -/
def changesWhenUppercased : Intervals :=
  .union (categories ["lt"]) <| .diff lowercase <| setOf
    "AA BA 138 18D 1AA-1AB 1BA 1BE 221 234-239 255 258 25A 25D-25F 262 267 26D-26E 270 273-274
     276-27C 27E-27F 281 284-286 28D-291 293 295-29C 29F-2B8 2C0-2C1 2E0-2E4 37A 3FC 560 588
     10FC 1D00-1D78 1D7A-1D7C 1D7E-1D8D 1D8F-1DBF 1E9C-1E9D 1E9F 2071 207F 2090-209C 210A
     210E-210F 2113 212F 2134 2139 213C-213D 2146-2149 2C71 2C74 2C77-2C7D 2CE4 A69C-A69D
     A730-A731 A770-A778 A78E A795 A7AF A7D3 A7D5 A7F2-A7F4 A7F8-A7FA AB30-AB52 AB54-AB5A
     AB5C-AB69 10780 10783-10785 10787-107B0 107B2-107BA 1D41A-1D433 1D44E-1D454 1D456-1D467
     1D482-1D49B 1D4B6-1D4B9 1D4BB 1D4BD-1D4C3 1D4C5-1D4CF 1D4EA-1D503 1D51E-1D537 1D552-1D56B
     1D586-1D59F 1D5BA-1D5D3 1D5EE-1D607 1D622-1D63B 1D656-1D66F 1D68A-1D6A5 1D6C2-1D6DA
     1D6DC-1D6E1 1D6FC-1D714 1D716-1D71B 1D736-1D74E 1D750-1D755 1D770-1D788 1D78A-1D78F
     1D7AA-1D7C2 1D7C4-1D7C9 1D7CB 1DF00-1DF09 1DF0B-1DF1E 1DF25-1DF2A 1E030-1E06D"

/-- What has a form of its own at the start of a title. Letters in title case stay as
they are, and so do the Georgian letters. -/
def changesWhenTitlecased : Intervals :=
  .diff (.union changesWhenUppercased (setOf "1C4 1C7 1CA 1F1"))
    (.union (categories ["lt"]) (setOf "10D0-10FA 10FD-10FF"))

/-- What folds to something else: what has a small letter, but for Cherokee, whose small
letters fold to the capitals, and some small letters. -/
def changesWhenCasefolded : Intervals :=
  .union (.diff changesWhenLowercased (setOf "13A0-13F5")) <| setOf
    "B5 DF 149 17F 345 3C2 3D0-3D1 3D5-3D6 3F0-3F1 3F5 587 13F8-13FD 1C80-1C88 1E9A-1E9B
     1F80-1F87 1F90-1F97 1FA0-1FA7 1FB2-1FB4 1FB7 1FC2-1FC4 1FC7 1FF2-1FF4 1FF7 AB70-ABBF
     FB00-FB06 FB13-FB17"

/-- What an identifier can start with. -/
def idStart : Intervals :=
  .diff (.union (categories ["lu", "ll", "lt", "lm", "lo", "nl"]) (properties ["oids"]))
    (properties ["patsyn", "patws"])

/-- What an identifier can consist of. -/
def idContinue : Intervals :=
  .diff (.unions [idStart, categories ["mn", "mc", "nd", "pc"], properties ["oidc"]])
    (properties ["patsyn", "patws"])

/-- What an identifier can start with in whichever normal form it is written. -/
def xidStart : Intervals :=
  .diff idStart <| setOf
    "37A E33 EB3 309B-309C FC5E-FC63 FDFA-FDFB FE70 FE72 FE74 FE76 FE78 FE7A FE7C FE7E FF9E-FF9F"

/-- What an identifier can consist of in whichever normal form it is written. -/
def xidContinue : Intervals :=
  .diff idContinue <| setOf
    "37A 309B-309C FC5E-FC63 FDFA-FDFB FE70 FE72 FE74 FE76 FE78 FE7A FE7C FE7E"

/-- Marks that belong to the character before them. -/
def graphemeExtend : Intervals := .union (categories ["mn", "me"]) (properties ["ogrext"])

/-- Characters that show by themselves. -/
def graphemeBase : Intervals :=
  .compl (.unions [unassigned, categories ["cc", "cf", "co", "zl", "zp"], graphemeExtend])

/-- Characters that show nothing where they are not supported. -/
def defaultIgnorable : Intervals :=
  .diff (.union (categories ["cf"]) (properties ["odi", "vs"]))
    (.unions [.ofRanges blankRanges, setOf "FFF9-FFFB 13430-13440", properties ["pcm"]])

/-- The property with a name that a character has or has not. -/
def binary? (name : String) : Option Intervals :=
  match name with
  | "alpha" | "alphabetic" => some alphabetic
  | "ci" | "caseignorable" => some caseIgnorable
  | "cased" => some cased
  | "cwcf" | "changeswhencasefolded" => some changesWhenCasefolded
  | "cwcm" | "changeswhencasemapped" =>
    some (.unions [changesWhenLowercased, changesWhenUppercased, changesWhenTitlecased])
  | "cwl" | "changeswhenlowercased" => some changesWhenLowercased
  | "cwt" | "changeswhentitlecased" => some changesWhenTitlecased
  | "cwu" | "changeswhenuppercased" => some changesWhenUppercased
  | "di" | "defaultignorablecodepoint" => some defaultIgnorable
  | "grbase" | "graphemebase" => some graphemeBase
  | "grext" | "graphemeextend" => some graphemeExtend
  | "idc" | "idcontinue" => some idContinue
  | "ids" | "idstart" => some idStart
  | "joinc" | "joincontrol" => some (.ofRanges joinerRanges)
  | "lower" | "lowercase" => some lowercase
  | "math" => some (.union (categories ["sm"]) (properties ["omath"]))
  | "oalpha" | "otheralphabetic" =>
    some (.diff alphabetic (categories ["lu", "ll", "lt", "lm", "lo", "nl"]))
  | "upper" | "uppercase" => some uppercase
  | "wspace" | "whitespace" | "space" => some (.ofRanges blankRanges)
  | "xidc" | "xidcontinue" => some xidContinue
  | "xids" | "xidstart" => some xidStart
  | name => find? propertyTable name

/-- The set that a name alone stands for. -/
def plain? (name : String) : Option Intervals :=
  (binary? name).or ((category? name).or (find? scriptTable name))

/-! ## Properties with values -/

/-- Characters that are used with a script. -/
def scriptExtension? (name : String) : Option Intervals := do
  let script ← find? scriptTable name
  let used := (find? scriptExtensionTable name).getD []
  return .diff (.union script used) ((find? scriptRestrictionTable name).getD [])

/-- Characters of an edition of the standard and of those before it. -/
def age? (name : String) : Option Intervals :=
  match ageTable.dropWhile (!·.names.contains name) with
  | [] => none
  | newer => some (.unions ((ageTable.take (ageTable.length + 1 - newer.length)).map
      fun edition => setOf edition.ranges))

/-- Hangul syllables without a final consonant: one in 28. -/
def openSyllables : Intervals :=
  .ofRanges ((List.range 399).map fun k => (0xAC00 + 28 * k, 0xAC00 + 28 * k))

/-- What a character is to the division of a text into letters. -/
def graphemeBreak? (name : String) : Option Intervals :=
  match name with
  | "ex" | "extend" => some (.union graphemeExtend (properties ["emod"]))
  | "lv" => some openSyllables
  | "lvt" => some (.diff (setOf "AC00-D7A3") openSyllables)
  | "sm" | "spacingmark" =>
    some (.diff (.union (categories ["mc"]) (setOf "E33 EB3")) (.union graphemeExtend (setOf
      "102B-102C 1038 1062-1064 1067-106D 1083 1087-108C 108F 109A-109C 1A61 1A63-1A64 AA7B AA7D
       11720-11721")))
  | name => find? graphemeTable name

/-- Signs in front of numbers. The abbreviation mark alike to them stands in words. -/
def numberSigns : Intervals := .diff (properties ["pcm"]) (setOf "70F")

/-- Marks and modifiers, which belong to the word before them. -/
def wordExtend : Intervals :=
  .diff (.unions [graphemeExtend, categories ["mc"], properties ["emod"]]) (setOf "200D")

/-- What words are made of, in scripts with spaces between them. -/
def wordLetter : Intervals :=
  .diff
    (.union alphabetic (setOf
      "2C2-2C5 2D2-2D7 2DE-2DF 2E5-2EB 2ED 2EF-2FF 55A-55C 55E 58A 5F3 70F A708-A716 A720-A721
       A789-A78A AB5B"))
    (.unions [wordExtend, properties ["ideo"], select wordTable ["hl", "ka"], categories ["nd"],
      setOf
        "E01-E30 E32-E33 E40-E46 E81-E82 E84 E86-E8A E8C-EA3 EA5 EA7-EB0 EB2-EB3 EBD EC0-EC4 EC6
         EDC-EDF 1000-102A 103F 1050-1055 105A-105D 1061 1065-1066 106E-1070 1075-1081 108E
         1780-17B3 17D7 17DC 1950-196D 1970-1974 1980-19AB 19B0-19C9 1A20-1A54 1AA7 3041-3096
         309D-309F A9E0-A9E4 A9E6-A9EF A9FA-A9FE AA60-AA76 AA7A AA7E-AAAF AAB1 AAB5-AAB6
         AAB9-AABD AAC0 AAC2 AADB-AADD 11700-1171A 11740-11746 1B001-1B11F 1B132 1B150-1B152"])

/-- What a character is to the division of a text into words. -/
def wordBreak? (name : String) : Option Intervals :=
  match name with
  | "extend" => some wordExtend
  | "fo" | "format" =>
    some (.diff (categories ["cf"]) (.union (setOf "200B-200D E0020-E007F") (properties ["pcm"])))
  | "le" | "aletter" => some wordLetter
  | "nu" | "numeric" => some (.unions [categories ["nd"], setOf "66B", numberSigns])
  | name => find? wordTable name

/-- Marks, which belong to the sentence before them. -/
def sentenceExtend : Intervals := .unions [graphemeExtend, categories ["mc"], setOf "200D"]

/-- Small letters as they stand in sentences; Georgian has none. -/
def sentenceLower : Intervals :=
  .diff lowercase (.union graphemeExtend (setOf "10D0-10FA 10FD-10FF"))

/-- Letters that can open a sentence; Georgian has none of its own for that. -/
def sentenceUpper : Intervals :=
  .diff (.union uppercase (categories ["lt"])) (setOf "1C90-1CBA 1CBD-1CBF")

/-- What a character is to the division of a text into sentences. -/
def sentenceBreak? (name : String) : Option Intervals :=
  match name with
  | "cl" | "close" =>
    some (.union (categories ["ps", "pe", "pi", "pf"]) (setOf
      "22 27 275B-2760 2E00-2E01 2E06-2E08 2E0B 1F676-1F678"))
  | "ex" | "extend" => some sentenceExtend
  | "fo" | "format" =>
    some (.diff (categories ["cf"]) (.union (setOf "200C-200D E0020-E007F") numberSigns))
  | "le" | "oletter" =>
    some (.diff (.union alphabetic (setOf "5F3"))
      (.unions [sentenceLower, sentenceUpper, sentenceExtend]))
  | "lo" | "lower" => some sentenceLower
  | "nu" | "numeric" => some (.unions [categories ["nd"], setOf "66B-66C", numberSigns])
  | "st" | "sterm" => some (.diff (properties ["sterm"]) (select sentenceTable ["at"]))
  | "up" | "upper" => some sentenceUpper
  | name => find? sentenceTable name

/-- The set that a property and a value of it stand for. -/
def valued? (property value : String) : Option Intervals :=
  match property with
  | "gc" | "generalcategory" => category? value
  | "sc" | "script" => find? scriptTable value
  | "scx" | "scriptextensions" => scriptExtension? value
  | "age" => age? value
  | "gcb" | "graphemeclusterbreak" => graphemeBreak? value
  | "wb" | "wordbreak" => wordBreak? value
  | "sb" | "sentencebreak" => sentenceBreak? value
  | _ => none

end CommentSieve.Text.Property
