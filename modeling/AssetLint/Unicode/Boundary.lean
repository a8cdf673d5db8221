import AssetLint.Unicode.Class

/-!
Classes of characters for finding the boundaries of characters as users see them, of words and
of sentences. They follow from categories and properties, with a few characters by name.
-/
namespace AssetLint.Unicode

private def without (ranges : Ranges) (names : List Ranges) : Ranges :=
  ranges.difference (Ranges.normalized names.flatten)

private def together (names : List Ranges) : Ranges :=
  Ranges.normalized names.flatten

private def named (text : String) : Ranges :=
  Ranges.ofText text

/-- Sentences end with these where no lower case follows. -/
private def fullStops : Ranges := named "2E 2024 FE52 FF0E"

/-- Marks that are written around numbers. -/
private def numberMarks : Ranges :=
  without (members "prependedconcatenationmark") [named "70F"]

/-- Digits and the marks that are written with them. -/
private def digits : Ranges :=
  together [digitRanges, named "66B 19DA", numberMarks]

private def spacingMarks : Ranges := categories ["mc"]

private def syllable (n : Nat) : Nat × Nat := (0xAC00 + 28 * n, 0xAC00 + 28 * n)

namespace GraphemeBreak

private def extending : Ranges :=
  together [members "graphemeextend", members "emojimodifier"]

private def prepended : Ranges :=
  together [members "prependedconcatenationmark",
    named "D4E 111C2-111C3 113D1 1193F 11941 11A3A 11A84-11A89 11D46 11F02"]

/-- Members of a class under its loose name. -/
def named? (name : String) : Option Ranges :=
  match name with
  | "cn" | "control" =>
    some <| without
      (together [categories ["cc", "cf", "zl", "zp"],
        (members "defaultignorablecodepoint").intersection unassigned])
      [members "prependedconcatenationmark", extending, named "A D 200D"]
  | "cr" => some (named "D")
  | "ex" | "extend" => some extending
  | "l" => some (named "1100-115F A960-A97C")
  | "lf" => some (named "A")
  | "lv" => some ((List.range 399).map syllable)
  | "lvt" =>
    some ((List.range 399).map fun n => (0xAC01 + 28 * n, 0xAC1B + 28 * n))
  | "pp" | "prepend" => some prepended
  | "ri" | "regionalindicator" => some (members "regionalindicator")
  | "sm" | "spacingmark" =>
    some <| together [named "E33 EB3",
      without spacingMarks [extending,
        named "102B-102C 1038 1062-1064 1067-106D 1083 1087-108C 108F 109A-109C 1A61 1A63-1A64
          AA7B AA7D 11720-11721"]]
  | "t" => some (named "11A8-11FF D7CB-D7FB")
  | "v" => some (named "1160-11A7 D7B0-D7C6 16D63 16D67-16D6A")
  | "zwj" => some (named "200D")
  | _ => none

end GraphemeBreak

namespace WordBreak

private def extending : Ranges :=
  together [members "graphemeextend", members "emojimodifier", spacingMarks]

private def script (name : String) : Ranges :=
  (scriptNamed? name).getD []

private def katakana : Ranges :=
  together [script "katakana", named "3031-3035 309B-309C 30A0 30FC FF70"]

private def hebrewLetters : Ranges :=
  (script "hebrew").intersection (categories ["lo"])

/-- Letters of scripts that separate words. -/
private def letters : Ranges :=
  let unseparated :=
    ["thai", "lao", "myanmar", "khmer", "taile", "newtailue", "taitham", "taiviet", "ahom",
      "hiragana"].map script
  together [named "2C2-2C5 2D2-2D7 2DE-2DF 2E5-2EB 2ED 2EF-2FF 55A-55C 55E 58A 5F3 70F A708-A716
      A720-A721 A789-A78A AB5B",
    without (members "alphabetic")
      ([members "ideographic", katakana, hebrewLetters, extending] ++ unseparated)]

/-- Members of a class under its loose name. -/
def named? (name : String) : Option Ranges :=
  match name with
  | "aletter" | "le" => some letters
  | "cr" => some (named "D")
  | "doublequote" | "dq" => some (named "22")
  | "ex" | "extendnumlet" => some (together [categories ["pc"], named "202F"])
  | "extend" => some extending
  | "fo" | "format" =>
    some <| without (categories ["cf"])
      [extending, members "prependedconcatenationmark", named "200B 200D"]
  | "hebrewletter" | "hl" => some hebrewLetters
  | "ka" | "katakana" => some katakana
  | "lf" => some (named "A")
  | "mb" | "midnumlet" => some (named "2E 2018-2019 2024 FE52 FF07 FF0E")
  | "midletter" | "ml" => some (named "3A B7 387 55F 5F4 2027 FE13 FE55 FF1A")
  | "midnum" | "mn" =>
    some (named "2C 3B 37E 589 60C-60D 66C 7F8 2044 FE50 FE54 FF0C FF1B")
  | "newline" | "nl" => some (named "B-C 85 2028-2029")
  | "nu" | "numeric" => some digits
  | "regionalindicator" | "ri" => some (members "regionalindicator")
  | "singlequote" | "sq" => some (named "27")
  | "wsegspace" => some (without (categories ["zs"]) [named "A0 2007 202F"])
  | "zwj" => some (named "200D")
  | _ => none

end WordBreak

namespace SentenceBreak

private def extending : Ranges :=
  together [members "graphemeextend", spacingMarks, named "200D"]

private def lower : Ranges :=
  without (members "lowercase") [members "graphemeextend", named "10D0-10FA 10FD-10FF"]

private def upper : Ranges :=
  without (together [members "uppercase", categories ["lt"]]) [named "1C90-1CBA 1CBD-1CBF"]

/-- Members of a class under its loose name. -/
def named? (name : String) : Option Ranges :=
  match name with
  | "at" | "aterm" => some fullStops
  | "cl" | "close" =>
    some <| without
      (together [categories ["ps", "pe", "pi", "pf"],
        named "22 27 275B-2760 2E00-2E01 2E06-2E08 2E0B 1F676-1F678"])
      [fullStops, members "sentenceterminal"]
  | "cr" => some (named "D")
  | "ex" | "extend" => some extending
  | "fo" | "format" =>
    some <| without (categories ["cf"]) [extending, numberMarks]
  | "le" | "oletter" =>
    some <| together [named "5F3",
      without (members "alphabetic") [lower, upper, extending]]
  | "lf" => some (named "A")
  | "lo" | "lower" => some lower
  | "nu" | "numeric" => some (together [digits, named "66C"])
  | "sc" | "scontinue" =>
    some (named "2C-2D 3A-3B 37E 55D 60C-60D 7F8 1802 1808 2013-2014 3001 FE10-FE11 FE13-FE14
      FE31-FE32 FE50-FE51 FE54-FE55 FE58 FE63 FF0C-FF0D FF1A-FF1B FF64")
  | "se" | "sep" => some (named "85 2028-2029")
  | "sp" => some (without blankRanges [named "A D 85 2028-2029"])
  | "st" | "sterm" => some (without (members "sentenceterminal") [fullStops])
  | "up" | "upper" => some upper
  | _ => none

end SentenceBreak

end AssetLint.Unicode
