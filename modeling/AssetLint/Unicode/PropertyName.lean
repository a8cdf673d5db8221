import AssetLint.Unicode.Boundary

/-!
Looking properties up by name. Of most properties only the names are known; they have neither
members nor values here.
-/
namespace AssetLint.Unicode

/-- Loose names of the properties that are not in the table of binary properties. -/
private def otherPropertyText : String :=
  "age bc bidiclass bidimirroringglyph bidipairedbracket bidipairedbrackettype blk block bmg bpb
  bpt canonicalcombiningclass casefolding ccc ce cf changeswhennfkccasefolded cjkaccountingnumeric
  cjkcompatibilityvariant cjkiicore cjkirggsource cjkirghsource cjkirgjsource cjkirgkpsource
  cjkirgksource cjkirgmsource cjkirgssource cjkirgtsource cjkirguksource cjkirgusource
  cjkirgvsource cjkothernumeric cjkprimarynumeric cjkrsunicode compex compositionexclusion cwkcf
  decompositionmapping decompositiontype dm dt ea eastasianwidth equideo
  equivalentunifiedideograph expandsonnfc expandsonnfd expandsonnfkc expandsonnfkd fcnfkc
  fcnfkcclosure fullcompositionexclusion gc gcb generalcategory graphemeclusterbreak
  hangulsyllabletype hst incb indicconjunctbreak indicpositionalcategory indicsyllabiccategory
  inpc insc isc jamoshortname jg joininggroup joiningtype jsn jt kaccountingnumeric
  kcompatibilityvariant kehcat kehdesc kehhg kehifao kehjsesh kehnomirror kehnorotate kiicore
  kirggsource kirghsource kirgjsource kirgkpsource kirgksource kirgmsource kirgssource kirgtsource
  kirguksource kirgusource kirgvsource kothernumeric kprimarynumeric krsunicode lb lc linebreak
  lowercasemapping na na1 name namealias nfcqc nfcquickcheck nfdqc nfdquickcheck nfkccasefold
  nfkccf nfkcqc nfkcquickcheck nfkcscf nfkcsimplecasefold nfkdqc nfkdquickcheck nt numerictype
  numericvalue nv ocomment sb sc scf script scriptextensions scx sentencebreak sfc
  simplecasefolding simplelowercasemapping simpletitlecasemapping simpleuppercasemapping slc stc
  suc tc titlecasemapping uc unicode1name unicoderadicalstroke uppercasemapping urs
  verticalorientation vo wb wordbreak xonfc xonfd xonfkc xonfkd"

private def isPropertyName (name : String) : Bool :=
  (binaryNamed? name).isSome || (words otherPropertyText.toList).contains name.toList

inductive LookUp where
  | found (members : Ranges)
  | unknownProperty
  | unknownValue
  deriving DecidableEq, Repr

/-- Names of values without characters, which classes may not have. -/
private def valuesWithoutMembers : List String :=
  ["cs", "surrogate", "zzzz", "unknown", "hrkt", "katakanaorhiragana"]

/-- A loose name by itself is a binary property, a category or a script, in this order. Some
abbreviations of properties mean categories. -/
def propertyAlone (name : String) : LookUp :=
  if name ≠ "cf" ∧ name ≠ "sc" ∧ name ≠ "lc" ∧ isPropertyName name then
    (binaryNamed? name).elim .unknownProperty .found
  else
    match (categoryNamed? name).or (scriptNamed? name) with
    | some members => .found members
    | none => if valuesWithoutMembers.contains name then .unknownValue else .unknownProperty

/-- Members of a value of a property, both by their loose names. -/
def propertyValue (name value : String) : LookUp :=
  let members :=
    match name with
    | "gc" | "generalcategory" => categoryNamed? value
    | "sc" | "script" => scriptNamed? value
    | "scx" | "scriptextensions" => scriptExtensionNamed? value
    | "age" => assignedBy? value
    | "gcb" | "graphemeclusterbreak" => GraphemeBreak.named? value
    | "wb" | "wordbreak" => WordBreak.named? value
    | "sb" | "sentencebreak" => SentenceBreak.named? value
    | _ => none
  members.elim (if isPropertyName name then .unknownValue else .unknownProperty) .found

end AssetLint.Unicode
