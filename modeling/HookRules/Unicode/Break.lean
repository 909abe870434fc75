import HookRules.Unicode.Property
import HookRules.Unicode.Script

/-!
The parts that characters play where a text is divided: into what a reader takes for one
character, into words, and into sentences.
-/

set_option autoImplicit false

namespace HookRules.Unicode.Break

def georgian : CodeSet := CodeSet.ofText "10d0-10fa 10fd-10ff 1c90-1cba 1cbd-1cbf"

def upper : CodeSet := ((Category.withLead "Lt").union Property.uppercase).diff georgian

def lower : CodeSet := Property.lowercase.diff (Property.graphemeExtend.union georgian)

def sentenceExtend : CodeSet :=
  CodeSet.unions [Property.graphemeExtend, Category.withLead "Mc", CodeSet.ofText "200d"]

def otherLetter : CodeSet :=
  (Property.alphabetic.diff (CodeSet.unions [upper, lower, sentenceExtend])).union
    (CodeSet.ofText "5f3")

def numeric : CodeSet :=
  (Category.withLead "Nd").union
    (CodeSet.ofText "600-605 66b-66c 6dd 890-891 8e2 19da 110bd 110cd")

def format : CodeSet :=
  (Category.withLead "Cf").diff (numeric.union (CodeSet.ofText "200c-200d e0020-e007f"))

def close : CodeSet :=
  CodeSet.unions [Category.withLead "Ps", Category.withLead "Pe", Category.withLead "Pi",
    Category.withLead "Pf", (Property.listed "Quotation_Mark").diff (CodeSet.ofText "ff02 ff07"),
    CodeSet.ofText "275b-2760 2e00-2e01 2e06-2e08 2e0b 1f676-1f678"]

def wordExtend : CodeSet :=
  (sentenceExtend.union (Property.listed "Emoji_Modifier")).diff (CodeSet.ofText "200d")

def hebrewLetter : CodeSet :=
  CodeSet.ofText
    "5d0-5ea 5ef-5f2 fb1d fb1f-fb28 fb2a-fb36 fb38-fb3c fb3e fb40-fb41 fb43-fb44 fb46-fb4f"

def katakana : CodeSet :=
  CodeSet.ofText
    "3031-3035 309b-309c 30a0-30fa 30fc-30ff 31f0-31ff 32d0-32fe 3300-3357 ff66-ff9d 1aff0-1aff3
    1aff5-1affb 1affd-1affe 1b000 1b120-1b122 1b155 1b164-1b167"

/-- Scripts that are written without spaces between words. -/
def unspaced : List String :=
  ["Thai", "Lao", "Myanmar", "Khmer", "Tai_Le", "New_Tai_Lue", "Tai_Tham", "Tai_Viet", "Ahom"]

def letter : CodeSet :=
  let ofScript := fun (name : String) => (Script.find? (· == name)).getD CodeSet.empty
  (Property.alphabetic.diff <|
    CodeSet.unions ([Property.listed "Ideographic", katakana, hebrewLetter, sentenceExtend]
      ++ ("Hiragana" :: unspaced).map ofScript)).union <|
    CodeSet.ofText
      "2c2-2c5 2d2-2d7 2de-2df 2e5-2eb 2ed 2ef-2ff 55a-55c 55e 58a 5f3 70f a708-a716 a720-a721
      a789-a78a ab5b"

def graphemeExtend : CodeSet := Property.graphemeExtend.union (Property.listed "Emoji_Modifier")

def graphemes : List (String × String × CodeSet) := [
  ("CN", "Control",
    CodeSet.ofText 
      "0-9 b-c e-1f 7f-9f ad 61c 180e 200b 200e-200f 2028-202e 2060-206f feff fff0-fffb
      13430-1343f 1bca0-1bca3 1d173-1d17a e0000-e001f e0080-e00ff e01f0-e0fff"),
  ("CR", "CR", CodeSet.ofText "d"),
  ("EX", "Extend", graphemeExtend),
  ("L", "L", CodeSet.ofText "1100-115f a960-a97c"),
  ("LF", "LF", CodeSet.ofText "a"),
  ("LV", "LV", CodeSet.ofText "ac00-d788/1c"),
  ("LVT", "LVT", (CodeSet.ofText "ac00-d7a3").diff (CodeSet.ofText "ac00-d788/1c")),
  ("PP", "Prepend",
    CodeSet.ofText 
      "600-605 6dd 70f 890-891 8e2 d4e 110bd 110cd 111c2-111c3 113d1 1193f 11941 11a3a 11a84-11a89
      11d46 11f02"),
  ("RI", "Regional_Indicator", Property.listed "Regional_Indicator"),
  ("SM", "SpacingMark",
    CodeSet.ofText 
      "903 93b 93e-940 949-94c 94e-94f 982-983 9bf-9c0 9c7-9c8 9cb-9cc a03 a3e-a40 a83 abe-ac0 ac9
      acb-acc b02-b03 b40 b47-b48 b4b-b4c bbf bc1-bc2 bc6-bc8 bca-bcc c01-c03 c41-c44 c82-c83 cbe
      cc1 cc3-cc4 cf3 d02-d03 d3f-d40 d46-d48 d4a-d4c d82-d83 dd0-dd1 dd8-dde df2-df3 e33 eb3
      f3e-f3f f7f 1031 103b-103c 1056-1057 1084 17b6 17be-17c5 17c7-17c8 1923-1926 1929-192b
      1930-1931 1933-1938 1a19-1a1a 1a55 1a57 1a6d-1a72 1b04 1b3e-1b41 1b82 1ba1 1ba6-1ba7 1be7
      1bea-1bec 1bee 1c24-1c2b 1c34-1c35 1ce1 1cf7 a823-a824 a827 a880-a881 a8b4-a8c3 a952 a983
      a9b4-a9b5 a9ba-a9bb a9be-a9bf aa2f-aa30 aa33-aa34 aa4d aaeb aaee-aaef aaf5 abe3-abe4
      abe6-abe7 abe9-abea abec 11000 11002 11082 110b0-110b2 110b7-110b8 1112c 11145-11146 11182
      111b3-111b5 111bf 111ce 1122c-1122e 11232-11233 112e0-112e2 11302-11303 1133f 11341-11344
      11347-11348 1134b-1134c 11362-11363 113b9-113ba 113ca 113cc-113cd 11435-11437 11440-11441
      11445 114b1-114b2 114b9 114bb-114bc 114be 114c1 115b0-115b1 115b8-115bb 115be 11630-11632
      1163b-1163c 1163e 116ac 116ae-116af 1171e 11726 1182c-1182e 11838 11931-11935 11937-11938
      11940 11942 119d1-119d3 119dc-119df 119e4 11a39 11a57-11a58 11a97 11c2f 11c3e 11ca9 11cb1
      11cb4 11d8a-11d8e 11d93-11d94 11d96 11ef5-11ef6 11f03 11f34-11f35 11f3e-11f3f 1612a-1612c
      16f51-16f87"),
  ("T", "T", CodeSet.ofText "11a8-11ff d7cb-d7fb"),
  ("V", "V", CodeSet.ofText "1160-11a7 d7b0-d7c6 16d63 16d67-16d6a"),
  ("ZWJ", "ZWJ", CodeSet.ofText "200d")]

def words : List (String × String × CodeSet) := [
  ("LE", "ALetter", letter),
  ("CR", "CR", CodeSet.ofText "d"),
  ("DQ", "Double_Quote", CodeSet.ofText "22"),
  ("EX", "ExtendNumLet", CodeSet.ofText "5f 202f 203f-2040 2054 fe33-fe34 fe4d-fe4f ff3f"),
  ("Extend", "Extend", wordExtend),
  ("FO", "Format",
    CodeSet.ofText 
      "ad 61c 180e 200e-200f 202a-202e 2060-2064 2066-206f feff fff9-fffb 13430-1343f 1bca0-1bca3
      1d173-1d17a e0001"),
  ("HL", "Hebrew_Letter", hebrewLetter),
  ("KA", "Katakana", katakana),
  ("LF", "LF", CodeSet.ofText "a"),
  ("MB", "MidNumLet", CodeSet.ofText "2e 2018-2019 2024 fe52 ff07 ff0e"),
  ("ML", "MidLetter", CodeSet.ofText "3a b7 387 55f 5f4 2027 fe13 fe55 ff1a"),
  ("MN", "MidNum", CodeSet.ofText "2c 3b 37e 589 60c-60d 66c 7f8 2044 fe50 fe54 ff0c ff1b"),
  ("NL", "Newline", CodeSet.ofText "b-c 85 2028-2029"),
  ("NU", "Numeric", numeric.diff (CodeSet.ofText "66c")),
  ("RI", "Regional_Indicator", Property.listed "Regional_Indicator"),
  ("SQ", "Single_Quote", CodeSet.ofText "27"),
  ("WSegSpace", "WSegSpace", CodeSet.ofText "20 1680 2000-2006 2008-200a 205f 3000"),
  ("ZWJ", "ZWJ", CodeSet.ofText "200d")]

def sentences : List (String × String × CodeSet) := [
  ("AT", "ATerm", CodeSet.ofText "2e 2024 fe52 ff0e"),
  ("CL", "Close", close),
  ("CR", "CR", CodeSet.ofText "d"),
  ("EX", "Extend", sentenceExtend),
  ("FO", "Format", format),
  ("LE", "OLetter", otherLetter),
  ("LF", "LF", CodeSet.ofText "a"),
  ("LO", "Lower", lower),
  ("NU", "Numeric", numeric),
  ("SC", "SContinue",
    CodeSet.ofText 
      "2c-2d 3a-3b 37e 55d 60c-60d 7f8 1802 1808 2013-2014 3001 fe10-fe11 fe13-fe14 fe31-fe32
      fe50-fe51 fe54-fe55 fe58 fe63 ff0c-ff0d ff1a-ff1b ff64"),
  ("SE", "Sep", CodeSet.ofText "85 2028-2029"),
  ("SP", "Sp", CodeSet.ofText "9 b-c 20 a0 1680 2000-200a 202f 205f 3000"),
  ("ST", "STerm",
    (Property.listed "Sentence_Terminal").diff (CodeSet.ofText "2e 2024 fe52 ff0e")),
  ("UP", "Upper", upper)]

def find? (parts : List (String × String × CodeSet)) (named : String → Bool) : Option CodeSet :=
  (parts.find? fun row => named row.1 || named row.2.1).map fun row => row.2.2

end HookRules.Unicode.Break
