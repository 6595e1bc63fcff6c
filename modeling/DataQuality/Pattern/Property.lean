import DataQuality.Text.Blank

/-!
The names of the character properties of Unicode that a pattern may refer to. Names are compared
without regard to case, spaces, underscores and hyphens.
-/

namespace DataQuality.Pattern

def wordsOf (s : String) : List String := (Text.words s.toList).map String.ofList

/-- The general categories, by short and long name. -/
def generalCategories : List String :=
  wordsOf <|
    "c other cc control cntrl cf format cn unassigned co privateuse l letter lc casedletter ll " ++
    "lowercaseletter lm modifierletter lo otherletter lt titlecaseletter lu uppercaseletter m " ++
    "mark combiningmark mc spacingmark me enclosingmark mn nonspacingmark n number nd " ++
    "decimalnumber digit nl letternumber no othernumber p punctuation punct pc " ++
    "connectorpunctuation pd dashpunctuation pe closepunctuation pf finalpunctuation pi " ++
    "initialpunctuation po otherpunctuation ps openpunctuation s symbol sc currencysymbol sk " ++
    "modifiersymbol sm mathsymbol so othersymbol z separator zl lineseparator zp " ++
    "paragraphseparator zs spaceseparator any assigned ascii cs surrogate"

/-- The scripts, by short and long name. -/
def scripts : List String :=
  wordsOf <|
    "adlm adlam aghb caucasianalbanian ahom arab arabic armi imperialaramaic armn armenian avst " ++
    "avestan bali balinese bamu bamum bass bassavah batk batak beng bengali bhks bhaiksuki bopo " ++
    "bopomofo brah brahmi brai braille bugi buginese buhd buhid cakm chakma cans " ++
    "canadianaboriginal cari carian cham cher cherokee chrs chorasmian copt coptic qaac cpmn " ++
    "cyprominoan cprt cypriot cyrl cyrillic deva devanagari diak divesakuru dogr dogra dsrt " ++
    "deseret dupl duployan egyp egyptianhieroglyphs elba elbasan elym elymaic ethi ethiopic " ++
    "geor georgian glag glagolitic gong gunjalagondi gonm masaramgondi goth gothic gran grantha " ++
    "grek greek gujr gujarati guru gurmukhi hang hangul hani han hano hanunoo hatr hatran hebr " ++
    "hebrew hira hiragana hluw anatolianhieroglyphs hmng pahawhhmong hmnp nyiakengpuachuehmong " ++
    "hung oldhungarian ital olditalic java javanese kali kayahli kana katakana kawi khar " ++
    "kharoshthi khmr khmer khoj khojki kits khitansmallscript knda kannada kthi kaithi lana " ++
    "taitham laoo lao latn latin lepc lepcha limb limbu lina lineara linb linearb lisu lyci " ++
    "lycian lydi lydian mahj mahajani maka makasar mand mandaic mani manichaean marc marchen " ++
    "medf medefaidrin mend mendekikakui merc meroiticcursive mero meroitichieroglyphs mlym " ++
    "malayalam modi mong mongolian mroo mro mtei meeteimayek mult multani mymr myanmar nagm " ++
    "nagmundari nand nandinagari narb oldnortharabian nbat nabataean newa nkoo nko nshu nushu " ++
    "ogam ogham olck olchiki orkh oldturkic orya oriya osge osage osma osmanya ougr olduyghur " ++
    "palm palmyrene pauc paucinhau perm oldpermic phag phagspa phli inscriptionalpahlavi phlp " ++
    "psalterpahlavi phnx phoenician plrd miao prti inscriptionalparthian rjng rejang rohg " ++
    "hanifirohingya runr runic samr samaritan sarb oldsoutharabian saur saurashtra sgnw " ++
    "signwriting shaw shavian shrd sharada sidd siddham sind khudawadi sinh sinhala sogd " ++
    "sogdian sogo oldsogdian sora sorasompeng soyo soyombo sund sundanese sylo sylotinagri syrc " ++
    "syriac tagb tagbanwa takr takri tale taile talu newtailue taml tamil tang tangut tavt " ++
    "taiviet telu telugu tfng tifinagh tglg tagalog thaa thaana thai tibt tibetan tirh tirhuta " ++
    "tnsa tangsa toto ugar ugaritic vaii vai vith vithkuqi wara warangciti wcho wancho xpeo " ++
    "oldpersian xsux cuneiform yezi yezidi yiii yi zanb zanabazarsquare zinh inherited qaai " ++
    "zyyy common zzzz unknown gara garay gukh gurungkhema krai kiratrai onao olonal sunu " ++
    "sunuwar todr todhri tutg tulutigalari"

/-- The properties that a character has or has not. -/
def binaryProperties : List String :=
  wordsOf <|
    "ahex asciihexdigit alpha alphabetic bidic bidicontrol cased cased ci caseignorable cwcf " ++
    "changeswhencasefolded cwcm changeswhencasemapped cwl changeswhenlowercased cwt " ++
    "changeswhentitlecased cwu changeswhenuppercased dash dash dep deprecated di " ++
    "defaultignorablecodepoint dia diacritic ebase emojimodifierbase ecomp emojicomponent emod " ++
    "emojimodifier emoji emoji epres emojipresentation ext extender extpict " ++
    "extendedpictographic grbase graphemebase grext graphemeextend hex hexdigit idc idcontinue " ++
    "ideo ideographic ids idstart idsb idsbinaryoperator idst idstrinaryoperator joinc " ++
    "joincontrol loe logicalorderexception lower lowercase math math nchar " ++
    "noncharactercodepoint patsyn patternsyntax patws patternwhitespace pcm " ++
    "prependedconcatenationmark qmark quotationmark radical radical ri regionalindicator sd " ++
    "softdotted sterm sentenceterminal term terminalpunctuation uideo unifiedideograph upper " ++
    "uppercase vs variationselector wspace whitespace space xidc xidcontinue xids xidstart"

/-- The versions in which characters were assigned. -/
def ages : List String :=
  wordsOf <|
    "1.1 v11 10.0 v100 11.0 v110 12.0 v120 12.1 v121 13.0 v130 14.0 v140 15.0 v150 2.0 v20 2.1 " ++
    "v21 3.0 v30 3.1 v31 3.2 v32 4.0 v40 4.1 v41 5.0 v50 5.1 v51 5.2 v52 6.0 v60 6.1 v61 6.2 " ++
    "v62 6.3 v63 7.0 v70 8.0 v80 9.0 v90 na unassigned 16.0 v160"

/-- The classes of the grapheme segmentation. -/
def graphemeBreaks : List String :=
  wordsOf <|
    "cn control cr eb ebase ebg ebasegaz em emodifier ex extend gaz glueafterzwj l lf lv lvt pp " ++
    "prepend ri regionalindicator sm spacingmark t v xx other zwj"

/-- The classes of the word segmentation. -/
def wordBreaks : List String :=
  wordsOf <|
    "cr dq doublequote eb ebase ebg ebasegaz em emodifier ex extendnumlet extend fo format gaz " ++
    "glueafterzwj hl hebrewletter ka katakana le aletter lf mb midnumlet ml midletter mn midnum " ++
    "nl newline nu numeric ri regionalindicator sq singlequote wsegspace xx other zwj"

/-- The classes of the sentence segmentation. -/
def sentenceBreaks : List String :=
  wordsOf <|
    "at aterm cl close cr ex extend fo format le oletter lf lo lower nu numeric sc scontinue se " ++
    "sep sp st sterm up upper xx other"

/-- A property name without its case, spaces, underscores, hyphens and the word `is` in front. -/
def plainName (name : List Char) : String :=
  let kept := (name.filter fun c =>
    c.toNat < 128 && !Text.isBlank c && c != '_' && c != '-').map Char.toLower
  match kept with
  | 'i' :: 's' :: r => if r == ['c'] then "isc" else .ofList r
  | _ => .ofList kept

/-- Whether a class of characters has this name. -/
def isPropertyName (name : List Char) : Bool :=
  let name := plainName name
  name ∈ generalCategories || name ∈ binaryProperties || name ∈ scripts

/-- Whether a property has this value. -/
def isPropertyValue (property value : List Char) : Bool :=
  let property := plainName property
  let value := plainName value
  if property ∈ ["gc", "generalcategory"] then value ∈ generalCategories
  else if property ∈ ["sc", "script", "scx", "scriptextensions"] then value ∈ scripts
  else if property == "age" then value ∈ ages
  else if property ∈ ["gcb", "graphemeclusterbreak"] then value ∈ graphemeBreaks
  else if property ∈ ["wb", "wordbreak"] then value ∈ wordBreaks
  else if property ∈ ["sb", "sentencebreak"] then value ∈ sentenceBreaks
  else false

end DataQuality.Pattern
