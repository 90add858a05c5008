import ConfigCheck.Text.CharSet

/-!
# Breaks

What the categories and properties do not say about where text can be broken between characters,
words and sentences.
-/

namespace ConfigCheck.Text.Break

/-- Unassigned code points that break characters as controls do. -/
def charControl : CharSet :=
  .ofLines [
    "2065 fff0-fff8 e0000 e0002-e001f e0080-e00ff e01f0-e0fff"]

/-- Controls and format characters that do not break characters as such. -/
def charNoControl : CharSet :=
  .ofLines [
    "a d 600-605 6dd 70f 890-891 8e2 200c-200d 110bd 110cd e0020-e007f"]

/-- Letters and signs that belong to the character behind them. -/
def charPrepend : CharSet :=
  .ofLines [
    "d4e 111c2-111c3 113d1 1193f 11941 11a3a 11a84-11a89 11d46 11f02"]

/-- Spacing marks that do not belong to the character before them. -/
def charNoSpacing : CharSet :=
  .ofLines [
    "9be 9d7 b3e b57 bbe bd7 cc0 cc2 cc7-cc8 cca-ccb cd5-cd6 d3e d57 dcf ddf 102b-102c 1038",
    "1062-1064 1067-106d 1083 1087-108c 108f 109a-109c 1715 1734 1a61 1a63-1a64 1b35 1b3b 1b3d",
    "1b43-1b44 1baa 1bf2-1bf3 302e-302f a953 a9c0 aa7b aa7d 111c0 11235 1133e 1134d 11357 113b8",
    "113c2 113c5 113c7-113c9 113cf 114b0 114bd 115af 116b6 11720-11721 11930 1193d 11f41",
    "16ff0-16ff1 1d165-1d166 1d16d-1d172"]

/-- Vowels that belong to the character before them. -/
def charSpacing : CharSet :=
  .ofLines [
    "e33 eb3"]

/-- Leading consonants of syllables. -/
def leadingJamo : CharSet :=
  .ofLines [
    "1100-115f a960-a97c"]

/-- Vowels of syllables. -/
def vowelJamo : CharSet :=
  .ofLines [
    "1160-11a7 d7b0-d7c6 16d63 16d67-16d6a"]

/-- Trailing consonants of syllables. -/
def trailingJamo : CharSet :=
  .ofLines [
    "11a8-11ff d7cb-d7fb"]

/-- Syllables without trailing consonant. -/
def openSyllable : CharSet :=
  .ofLines [
    "ac00-d788/1c"]

/-- Syllables. -/
def syllable : CharSet :=
  .ofLines [
    "ac00-d7a3"]

/-- Format characters and signs that break words and sentences as digits do. -/
def numericFormat : CharSet :=
  .ofLines [
    "600-605 66b 6dd 890-891 8e2 19da 110bd 110cd"]

/-- Signs that break sentences as digits do. -/
def sentenceNumeric : CharSet :=
  .ofLines [
    "66c"]

/-- Full stops that may end a sentence. -/
def fullStop : CharSet :=
  .ofLines [
    "2e 2024 fe52 ff0e"]

/-- Punctuation inside sentences. -/
def sentenceContinue : CharSet :=
  .ofLines [
    "2c-2d 3a-3b 37e 55d 60c-60d 7f8 1802 1808 2013-2014 3001 fe10-fe11 fe13-fe14 fe31-fe32",
    "fe50-fe51 fe54-fe55 fe58 fe63 ff0c-ff0d ff1a-ff1b ff64"]

/-- Terminals of sentences that count as full stops. -/
def sentenceNoTerminal : CharSet :=
  .ofLines [
    "2e 2024 fe52 ff0e"]

/-- Quotation marks by shape that close sentences. -/
def sentenceClose : CharSet :=
  .ofLines [
    "275b-2760 2e00-2e01 2e06-2e08 2e0b 1f676-1f678"]

/-- Brackets and quotation marks that do not close sentences. -/
def sentenceNoClose : CharSet :=
  .ofLines [
    "ff02 ff07"]

/-- White space that ends lines. -/
def lineEnd : CharSet :=
  .ofLines [
    "a d 85 2028-2029"]

/-- Lowercase characters that do not break sentences as such. -/
def sentenceNoLower : CharSet :=
  .ofLines [
    "345 10d0-10fa 10fd-10ff"]

/-- Capitals that do not break sentences as such. -/
def sentenceNoUpper : CharSet :=
  .ofLines [
    "1c90-1cba 1cbd-1cbf"]

/-- Signs that break words as letters do. -/
def wordLetter : CharSet :=
  .ofLines [
    "2c2-2c5 2d2-2d7 2de-2df 2e5-2eb 2ed 2ef-2ff 55a-55c 55e 58a 5f3 70f a708-a716 a720-a721",
    "a789-a78a ab5b"]

/-- Alphabetic characters of writing without spaces between words. -/
def noWordLetter : CharSet :=
  .ofLines [
    "e01-e30 e32-e33 e40-e46 e81-e82 e84 e86-e8a e8c-ea3 ea5 ea7-eb0 eb2-eb3 ebd ec0-ec4 ec6",
    "edc-edf 1000-102a 103f 1050-1055 105a-105d 1061 1065-1066 106e-1070 1075-1081 108e 1780-17b3",
    "17d7 17dc 1950-196d 1970-1974 1980-19ab 19b0-19c9 1a20-1a54 1aa7 3006-3007 3021-3029",
    "3038-303a 3041-3096 309d-309f 3400-4dbf 4e00-9fff a9e0-a9e4 a9e6-a9ef a9fa-a9fe aa60-aa76",
    "aa7a aa7e-aaaf aab1 aab5-aab6 aab9-aabd aac0 aac2 aadb-aadd f900-fa6d fa70-fad9 11700-1171a",
    "11740-11746 17000-187f7 18800-18cd5 18cff-18d08 1b001-1b11f 1b132 1b150-1b152 1b170-1b2fb",
    "20000-2a6df 2a700-2b739 2b740-2b81d 2b820-2cea1 2ceb0-2ebe0 2ebf0-2ee5d 2f800-2fa1d",
    "30000-3134a 31350-323af"]

/-- Letters of Hebrew. -/
def hebrewLetter : CharSet :=
  .ofLines [
    "5d0-5ea 5ef-5f2 fb1d fb1f-fb28 fb2a-fb36 fb38-fb3c fb3e fb40-fb41 fb43-fb44 fb46-fb4f"]

/-- Katakana. -/
def katakana : CharSet :=
  .ofLines [
    "3031-3035 309b-309c 30a0-30fa 30fc-30ff 31f0-31ff 32d0-32fe 3300-3357 ff66-ff9d 1aff0-1aff3",
    "1aff5-1affb 1affd-1affe 1b000 1b120-1b122 1b155 1b164-1b167"]

/-- Punctuation inside words. -/
def midLetter : CharSet :=
  .ofLines [
    "3a b7 387 55f 5f4 2027 fe13 fe55 ff1a"]

/-- Punctuation inside words and numbers. -/
def midNumLet : CharSet :=
  .ofLines [
    "2e 2018-2019 2024 fe52 ff07 ff0e"]

/-- Punctuation inside numbers. -/
def midNum : CharSet :=
  .ofLines [
    "2c 3b 37e 589 60c-60d 66c 7f8 2044 fe50 fe54 ff0c ff1b"]

/-- Spaces that are kept together. -/
def wordSpace : CharSet :=
  .ofLines [
    "20 1680 2000-2006 2008-200a 205f 3000"]

/-- Line ends other than line feed and carriage return. -/
def newline : CharSet :=
  .ofLines [
    "b-c 85 2028-2029"]

end ConfigCheck.Text.Break
