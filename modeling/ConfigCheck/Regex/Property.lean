import ConfigCheck.Regex.CharClass
import ConfigCheck.Text.Age
import ConfigCheck.Text.Break
import ConfigCheck.Text.ScriptExtension

/-!
# Properties in patterns

A pattern names the characters that have a property, that belong to a category or to a script, or
for which a property has a value (`CharClass.ofProperty?`).  Names are compared without case,
blanks, dashes, underscores and a leading `is`.
-/

namespace ConfigCheck.Regex.CharClass

open ConfigCheck.Text

/-- Classes by their names. -/
abbrev Names := List (List String × CharClass)

/-- The class of that name. -/
def Names.find? (table : Names) (name : String) : Option CharClass :=
  (List.find? (fun (names, _) => decide (name ∈ names)) table).map (·.2)

/-! ## Categories -/

/-- The general categories by their short and long names. -/
def categories : Names :=
  [(["l", "letter"], set Category.letter),
   (["lu", "uppercaseletter"], set Category.uppercaseLetter),
   (["ll", "lowercaseletter"], set Category.lowercaseLetter),
   (["lt", "titlecaseletter"], set Category.titlecaseLetter),
   (["lc", "casedletter"], set Category.casedLetter),
   (["lm", "modifierletter"], set Category.modifierLetter),
   (["lo", "otherletter"], set Category.otherLetter),
   (["m", "mark", "combiningmark"], set Category.mark),
   (["mn", "nonspacingmark"], set Category.nonspacingMark),
   (["mc", "spacingmark"], set Category.spacingMark),
   (["me", "enclosingmark"], set Category.enclosingMark),
   (["n", "number"], set Category.number),
   (["nd", "decimalnumber", "digit"], set Category.decimalNumber),
   (["nl", "letternumber"], set Category.letterNumber),
   (["no", "othernumber"], set Category.otherNumber),
   (["p", "punctuation", "punct"], set Category.punctuation),
   (["pc", "connectorpunctuation"], set Category.connectorPunctuation),
   (["pd", "dashpunctuation"], set Category.dashPunctuation),
   (["ps", "openpunctuation"], set Category.openPunctuation),
   (["pe", "closepunctuation"], set Category.closePunctuation),
   (["pi", "initialpunctuation"], set Category.initialPunctuation),
   (["pf", "finalpunctuation"], set Category.finalPunctuation),
   (["po", "otherpunctuation"], set Category.otherPunctuation),
   (["s", "symbol"], set Category.symbol),
   (["sm", "mathsymbol"], set Category.mathSymbol),
   (["sc", "currencysymbol"], set Category.currencySymbol),
   (["sk", "modifiersymbol"], set Category.modifierSymbol),
   (["so", "othersymbol"], set Category.otherSymbol),
   (["z", "separator"], set Category.separator),
   (["zs", "spaceseparator"], set Category.spaceSeparator),
   (["zl", "lineseparator"], set Category.lineSeparator),
   (["zp", "paragraphseparator"], set Category.paragraphSeparator),
   (["c", "other"], negate <| unionAll [set Category.letter, set Category.mark,
      set Category.number, set Category.punctuation, set Category.symbol, set Category.separator]),
   (["cc", "control", "cntrl"], set Category.control),
   (["cf", "format"], set Category.formatChar),
   (["co", "privateuse"], set Category.privateUse),
   (["cn", "unassigned"], negate (set Category.assigned)),
   (["any"], set CharSet.all),
   (["assigned"], set Category.assigned),
   (["ascii"], range '\x00' '\x7f')]

/-! ## Properties that follow from others -/

/-- Lowercase characters. -/
def lowercase : CharClass := set (.unionAll [Category.lowercaseLetter, Property.otherLowercase])

/-- Uppercase characters. -/
def uppercase : CharClass := set (.unionAll [Category.uppercaseLetter, Property.otherUppercase])

/-- Titlecase letters. -/
def titlecase : CharClass := set Category.titlecaseLetter

/-- Alphabetic characters. -/
def alphabetic : CharClass :=
  set (.unionAll [Category.letter, Category.letterNumber, Property.otherAlphabetic])

/-- Characters with case. -/
def cased : CharClass := unionAll [lowercase, uppercase, titlecase]

/-- Characters that case rules pass over. -/
def caseIgnorable : CharClass :=
  set <| .unionAll [Category.nonspacingMark, Category.enclosingMark, Category.formatChar,
    Category.modifierLetter, Category.modifierSymbol, Break.midLetter, Break.midNumLet,
    .singleton '\'']

/-- Characters that extend the one before them. -/
def graphemeExtend : CharClass :=
  set <| .unionAll [Category.nonspacingMark, Category.enclosingMark, Property.otherGraphemeExtend]

/-- Characters that stand on their own. -/
def graphemeBase : CharClass :=
  diff (set Category.assigned) <| unionAll [set Category.control, set Category.formatChar,
    set Category.privateUse, set Category.lineSeparator, set Category.paragraphSeparator,
    graphemeExtend]

/-- Characters kept for the syntax of patterns. -/
def patternSyntax : CharClass :=
  set (.unionAll [Property.patternSyntax, Property.patternWhiteSpace])

/-- Characters that may begin a name. -/
def nameStart : CharClass :=
  diff (set (.unionAll [Category.letter, Category.letterNumber, Property.otherIdStart]))
    patternSyntax

/-- Characters that may continue a name. -/
def nameContinue : CharClass :=
  diff (unionAll [nameStart, set Category.nonspacingMark, set Category.spacingMark,
    set Category.decimalNumber, set Category.connectorPunctuation, set Property.otherIdContinue])
    patternSyntax

/-- Characters with another lowercase form. -/
def changesLowercased : CharClass :=
  diff (union uppercase titlecase) (set Property.withoutLowercase)

/-- Characters with another uppercase form. -/
def changesUppercased : CharClass := set Property.changesWhenUppercased

/-- Characters with another titlecase form. -/
def changesTitlecased : CharClass :=
  union (diff changesUppercased (set Property.titlecaseKept)) (set Property.titlecaseChanged)

/-- Characters with another folded form. -/
def changesFolded : CharClass :=
  union (diff changesLowercased (set Property.foldedUp)) (set Property.foldedOnly)

/-- Code points that are invisible unless a font supports them. -/
def defaultIgnorable : CharClass :=
  union (diff (set Category.formatChar) (set Property.unignorableFormat))
    (set (.unionAll [Property.otherDefaultIgnorableCodePoint, Property.variationSelector]))

/-- The properties that characters have or lack, by their names. -/
def properties : Names :=
  [(["ahex", "asciihexdigit"], set Property.asciiHexDigit),
   (["alpha", "alphabetic"], alphabetic),
   (["bidic", "bidicontrol"], set Property.bidiControl),
   (["bidim", "bidimirrored"], set Property.bidiMirrored),
   (["ci", "caseignorable"], caseIgnorable),
   (["cased"], cased),
   (["cwcf", "changeswhencasefolded"], changesFolded),
   (["cwcm", "changeswhencasemapped"],
      unionAll [changesLowercased, changesUppercased, changesTitlecased]),
   (["cwl", "changeswhenlowercased"], changesLowercased),
   (["cwt", "changeswhentitlecased"], changesTitlecased),
   (["cwu", "changeswhenuppercased"], changesUppercased),
   (["dash"], set Property.dash),
   (["di", "defaultignorablecodepoint"], defaultIgnorable),
   (["dep", "deprecated"], set Property.deprecated),
   (["dia", "diacritic"], set Property.diacritic),
   (["emoji"], set Property.emoji),
   (["ecomp", "emojicomponent"], set Property.emojiComponent),
   (["emod", "emojimodifier"], set Property.emojiModifier),
   (["ebase", "emojimodifierbase"], set Property.emojiModifierBase),
   (["epres", "emojipresentation"], set Property.emojiPresentation),
   (["extpict", "extendedpictographic"], set Property.extendedPictographic),
   (["ext", "extender"], set Property.extender),
   (["grbase", "graphemebase"], graphemeBase),
   (["grext", "graphemeextend"], graphemeExtend),
   (["grlink", "graphemelink"], set Property.graphemeLink),
   (["hex", "hexdigit"], set Property.hexDigit),
   (["hyphen"], set Property.hyphen),
   (["idsb", "idsbinaryoperator"], set Property.idsBinaryOperator),
   (["idst", "idstrinaryoperator"], set Property.idsTrinaryOperator),
   (["idsu", "idsunaryoperator"], set Property.idsUnaryOperator),
   (["idcompatmathcontinue"], set Property.idCompatMathContinue),
   (["idcompatmathstart"], set Property.idCompatMathStart),
   (["idc", "idcontinue"], nameContinue),
   (["ids", "idstart"], nameStart),
   (["ideo", "ideographic"], set Property.ideographic),
   (["joinc", "joincontrol"], set Property.joinControl),
   (["loe", "logicalorderexception"], set Property.logicalOrderException),
   (["lower", "lowercase"], lowercase),
   (["math"], set (.unionAll [Category.mathSymbol, Property.otherMath])),
   (["mcm", "modifiercombiningmark"], set Property.modifierCombiningMark),
   (["nchar", "noncharactercodepoint"], set Property.noncharacterCodePoint),
   (["oalpha", "otheralphabetic"], set Property.otherAlphabetic),
   (["odi", "otherdefaultignorablecodepoint"], set Property.otherDefaultIgnorableCodePoint),
   (["ogrext", "othergraphemeextend"], set Property.otherGraphemeExtend),
   (["oidc", "otheridcontinue"], set Property.otherIdContinue),
   (["oids", "otheridstart"], set Property.otherIdStart),
   (["olower", "otherlowercase"], set Property.otherLowercase),
   (["omath", "othermath"], set Property.otherMath),
   (["oupper", "otheruppercase"], set Property.otherUppercase),
   (["patsyn", "patternsyntax"], set Property.patternSyntax),
   (["patws", "patternwhitespace"], set Property.patternWhiteSpace),
   (["pcm", "prependedconcatenationmark"], set Property.prependedConcatenationMark),
   (["qmark", "quotationmark"], set Property.quotationMark),
   (["radical"], set Property.radical),
   (["ri", "regionalindicator"], set Property.regionalIndicator),
   (["sterm", "sentenceterminal"], set Property.sentenceTerminal),
   (["sd", "softdotted"], set Property.softDotted),
   (["term", "terminalpunctuation"], set Property.terminalPunctuation),
   (["uideo", "unifiedideograph"], set Property.unifiedIdeograph),
   (["upper", "uppercase"], uppercase),
   (["vs", "variationselector"], set Property.variationSelector),
   (["space", "whitespace", "wspace"], unicodeBlank),
   (["xidc", "xidcontinue"], diff nameContinue (set Property.outsideCompatibleContinue)),
   (["xids", "xidstart"], diff nameStart (set Property.outsideCompatibleStart))]

/-! ## Breaks -/

/-- Controls as they break characters. -/
def breakControl : CharClass :=
  union
    (diff (set (.unionAll [Category.control, Category.formatChar, Category.lineSeparator,
      Category.paragraphSeparator])) (set Break.charNoControl))
    (set Break.charControl)

/-- The classes by which text is broken into characters. -/
def characterBreaks : Names :=
  [(["cn", "control"], breakControl),
   (["cr"], ofChar '\r'),
   (["ex", "extend"], union graphemeExtend (set Property.emojiModifier)),
   (["l"], set Break.leadingJamo),
   (["lf"], ofChar '\n'),
   (["lv"], set Break.openSyllable),
   (["lvt"], diff (set Break.syllable) (set Break.openSyllable)),
   (["pp", "prepend"], set (.unionAll [Property.prependedConcatenationMark, Break.charPrepend])),
   (["ri", "regionalindicator"], set Property.regionalIndicator),
   (["sm", "spacingmark"],
      union (diff (set Category.spacingMark) (set Break.charNoSpacing)) (set Break.charSpacing)),
   (["t"], set Break.trailingJamo),
   (["v"], set Break.vowelJamo),
   (["zwj"], ofChar '\u200d')]

/-- Format characters as they break words and sentences: those that count as digits do not. -/
def breakFormat (others : List Char) : CharClass :=
  diff (set Category.formatChar) <| unionAll [set Break.numericFormat, graphemeExtend,
    set (.ofList others)]

/-- Digits as they break words. -/
def wordNumeric : CharClass := set (.unionAll [Category.decimalNumber, Break.numericFormat])

/-- Characters that extend the one before them, as they break words and sentences. -/
def breakExtend : CharClass := union graphemeExtend (set Category.spacingMark)

/-- The classes by which text is broken into words. -/
def wordBreaks : Names :=
  let extend := union breakExtend (set Property.emojiModifier)
  [(["le", "aletter"],
      union (set Break.wordLetter)
        (diff alphabetic (unionAll [set Break.noWordLetter, extend, set Break.katakana,
          set Break.hebrewLetter]))),
   (["cr"], ofChar '\r'),
   (["dq", "doublequote"], ofChar '"'),
   (["extend"], extend),
   (["ex", "extendnumlet"], union (set Category.connectorPunctuation) (ofChar '\u202f')),
   (["fo", "format"], breakFormat ['\u070f', '\u200b', '\u200d']),
   (["hl", "hebrewletter"], set Break.hebrewLetter),
   (["ka", "katakana"], set Break.katakana),
   (["lf"], ofChar '\n'),
   (["ml", "midletter"], set Break.midLetter),
   (["mn", "midnum"], set Break.midNum),
   (["mb", "midnumlet"], set Break.midNumLet),
   (["nl", "newline"], set Break.newline),
   (["nu", "numeric"], wordNumeric),
   (["ri", "regionalindicator"], set Property.regionalIndicator),
   (["sq", "singlequote"], ofChar '\''),
   (["wsegspace"], set Break.wordSpace),
   (["zwj"], ofChar '\u200d')]

/-- The classes by which text is broken into sentences. -/
def sentenceBreaks : Names :=
  let extend := union breakExtend (ofChar '\u200d')
  let lower := diff lowercase (set Break.sentenceNoLower)
  let upper := diff (union uppercase titlecase) (set Break.sentenceNoUpper)
  [(["at", "aterm"], set Break.fullStop),
   (["cl", "close"],
      diff (set (.unionAll [Category.openPunctuation, Category.closePunctuation,
        Category.initialPunctuation, Category.finalPunctuation, Property.quotationMark,
        Break.sentenceClose])) (set Break.sentenceNoClose)),
   (["cr"], ofChar '\r'),
   (["ex", "extend"], extend),
   (["fo", "format"], breakFormat ['\u200d']),
   (["le", "oletter"],
      union (ofChar '\u05f3') (diff alphabetic (unionAll [lower, upper, extend]))),
   (["lf"], ofChar '\n'),
   (["lo", "lower"], lower),
   (["nu", "numeric"], union wordNumeric (set Break.sentenceNumeric)),
   (["sc", "scontinue"], set Break.sentenceContinue),
   (["se", "sep"], set (.ofList ['\u0085', '\u2028', '\u2029'])),
   (["sp"], diff unicodeBlank (set Break.lineEnd)),
   (["st", "sterm"], diff (set Property.sentenceTerminal) (set Break.sentenceNoTerminal)),
   (["up", "upper"], upper)]

/-! ## Looking up -/

/-- A name as it is looked up.  The name `isc` is one of its own, and not `c` behind `is`. -/
def looseName (name : List Char) : String :=
  let lower := name.map Char.toLower
  let named := lower.take 2 = ['i', 's']
  let plain := (if named then lower.drop 2 else lower).filter fun c =>
    c.toNat < 128 && !(c = ' ' || c = '_' || c = '-')
  if named && plain = ['c'] then "isc" else String.ofList plain

/-- Characters that only one script uses and those that it shares with others. -/
def usedIn (s : Script) : CharClass :=
  let shared := sharedChars.filter fun g => g.scripts.any (· ∈ s.names)
  union (diff (set s.chars) (set (.unionAll (sharedChars.map SharedChars.chars))))
    (set (.unionAll (shared.map SharedChars.chars)))

/-- The characters for which a property has a value. -/
def ofValue? (key value : List Char) : Option CharClass :=
  let value := looseName value
  match looseName key with
  | "gc" | "generalcategory" => categories.find? value
  | "sc" | "script" => (Script.find? value).map fun s => set s.chars
  | "scx" | "scriptextensions" => (Script.find? value).map usedIn
  | "age" => (Edition.upTo? value).map set
  | "gcb" | "graphemeclusterbreak" => characterBreaks.find? value
  | "wb" | "wordbreak" => wordBreaks.find? value
  | "sb" | "sentencebreak" => sentenceBreaks.find? value
  | _ => none

/-- The characters with a property, of a category or of a script. -/
def ofName? (name : List Char) : Option CharClass :=
  let name := looseName name
  (properties.find? name).or <| (categories.find? name).or <|
    (Script.find? name).map fun s => set s.chars

/-- The parts before and behind the first place where a text has the given characters. -/
def splitAt? (sign : List Char) : List Char → Option (List Char × List Char)
  | [] => none
  | c :: rest =>
    if sign.isPrefixOf (c :: rest) then some ([], (c :: rest).drop sign.length)
    else (splitAt? sign rest).map fun (front, back) => (c :: front, back)

/-- The class of a property as it is named: a key and a value have one of three signs between them,
and one of the signs means the characters without that value.  Case is ignored before the complement
is taken. -/
def ofProperty? (negated ignoreCase : Bool) (text : List Char) : Option CharClass :=
  let finish (negated : Bool) (k : CharClass) : CharClass := (k.foldIf ignoreCase).negateIf negated
  match splitAt? ['!', '='] text with
  | some (key, value) => (ofValue? key value).map (finish !negated)
  | none =>
    match (splitAt? [':'] text).or (splitAt? ['='] text) with
    | some (key, value) => (ofValue? key value).map (finish negated)
    | none => (ofName? text).map (finish negated)

end ConfigCheck.Regex.CharClass
