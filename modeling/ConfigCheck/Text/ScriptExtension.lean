import ConfigCheck.Text.Script

/-!
# Characters of several scripts

Marks, signs and digits that are used in more than one script, with the scripts that use them.
Where a character is listed here, only these scripts count as its own.
-/

namespace ConfigCheck.Text

/-- Characters with the scripts that use them. -/
structure SharedChars where
  /-- The characters. -/
  chars : CharSet
  /-- A name of each script that uses them. -/
  scripts : List String
deriving Repr, Inhabited

/-- The characters that several scripts use. -/
def sharedChars : List SharedChars := [
  ⟨.ofLines ["b7"],
    ["avst", "cari", "copt", "dupl", "elba", "geor", "glag", "gong", "goth", "grek",
      "hani", "latn", "lydi", "mahj", "perm", "shaw"]⟩,
  ⟨.ofLines ["2bc"],
    ["beng", "cyrl", "deva", "latn", "lisu", "thai", "toto"]⟩,
  ⟨.ofLines ["2c7 2c9-2cb 2d9"],
    ["bopo", "latn"]⟩,
  ⟨.ofLines ["2cd"],
    ["latn", "lisu"]⟩,
  ⟨.ofLines ["2d7"],
    ["latn", "thai"]⟩,
  ⟨.ofLines ["300"],
    ["cher", "copt", "cyrl", "grek", "latn", "perm", "sunu", "tale"]⟩,
  ⟨.ofLines ["301"],
    ["cher", "cyrl", "grek", "latn", "osge", "sunu", "tale", "todr"]⟩,
  ⟨.ofLines ["302"],
    ["cher", "cyrl", "latn", "tfng"]⟩,
  ⟨.ofLines ["303"],
    ["glag", "latn", "sunu", "syrc", "thai"]⟩,
  ⟨.ofLines ["304"],
    ["aghb", "cher", "copt", "cyrl", "goth", "grek", "latn", "osge", "syrc", "tfng", "todr"]⟩,
  ⟨.ofLines ["305"],
    ["copt", "elba", "glag", "goth", "kana", "latn"]⟩,
  ⟨.ofLines ["306"],
    ["cyrl", "grek", "latn", "perm"]⟩,
  ⟨.ofLines ["307"],
    ["copt", "dupl", "hebr", "latn", "perm", "syrc", "tale", "tfng", "todr"]⟩,
  ⟨.ofLines ["308"],
    ["armn", "cyrl", "dupl", "goth", "grek", "hebr", "latn", "perm", "syrc", "tale"]⟩,
  ⟨.ofLines ["309"],
    ["latn", "tfng"]⟩,
  ⟨.ofLines ["30a"],
    ["dupl", "latn", "syrc"]⟩,
  ⟨.ofLines ["30b"],
    ["cher", "cyrl", "latn", "osge"]⟩,
  ⟨.ofLines ["30c"],
    ["cher", "latn", "tale"]⟩,
  ⟨.ofLines ["30d 310"],
    ["latn", "sunu"]⟩,
  ⟨.ofLines ["30e"],
    ["ethi", "latn"]⟩,
  ⟨.ofLines ["311"],
    ["cyrl", "latn", "todr"]⟩,
  ⟨.ofLines ["313"],
    ["grek", "latn", "perm", "todr"]⟩,
  ⟨.ofLines ["320 325 32e"],
    ["latn", "syrc"]⟩,
  ⟨.ofLines ["323"],
    ["cher", "dupl", "kana", "latn", "syrc"]⟩,
  ⟨.ofLines ["324"],
    ["cher", "dupl", "latn", "syrc"]⟩,
  ⟨.ofLines ["32d"],
    ["latn", "sunu", "syrc"]⟩,
  ⟨.ofLines ["330"],
    ["cher", "latn", "syrc"]⟩,
  ⟨.ofLines ["331"],
    ["aghb", "cher", "goth", "latn", "sunu", "thai"]⟩,
  ⟨.ofLines ["342 345 1dc0-1dc1"],
    ["grek"]⟩,
  ⟨.ofLines ["358"],
    ["latn", "osge"]⟩,
  ⟨.ofLines ["35e"],
    ["aghb", "latn", "todr"]⟩,
  ⟨.ofLines ["363-36f"],
    ["latn"]⟩,
  ⟨.ofLines ["374-375"],
    ["copt", "grek"]⟩,
  ⟨.ofLines ["483"],
    ["cyrl", "perm"]⟩,
  ⟨.ofLines ["484 487 2e43 a66f"],
    ["cyrl", "glag"]⟩,
  ⟨.ofLines ["485-486"],
    ["cyrl", "latn"]⟩,
  ⟨.ofLines ["589"],
    ["armn", "geor", "glag"]⟩,
  ⟨.ofLines ["60c 61b"],
    ["arab", "gara", "nkoo", "rohg", "syrc", "thaa", "yezi"]⟩,
  ⟨.ofLines ["61c"],
    ["arab", "syrc", "thaa"]⟩,
  ⟨.ofLines ["61f"],
    ["adlm", "arab", "gara", "nkoo", "rohg", "syrc", "thaa", "yezi"]⟩,
  ⟨.ofLines ["640"],
    ["adlm", "arab", "mand", "mani", "ougr", "phlp", "rohg", "sogd", "syrc"]⟩,
  ⟨.ofLines ["64b-655 670"],
    ["arab", "syrc"]⟩,
  ⟨.ofLines ["660-669"],
    ["arab", "thaa", "yezi"]⟩,
  ⟨.ofLines ["6d4"],
    ["arab", "rohg"]⟩,
  ⟨.ofLines ["951"],
    ["beng", "deva", "gran", "gujr", "guru", "knda", "latn", "mlym", "orya", "shrd",
      "taml", "telu", "tirh"]⟩,
  ⟨.ofLines ["952"],
    ["beng", "deva", "gran", "gujr", "guru", "knda", "latn", "mlym", "orya", "taml",
      "telu", "tirh"]⟩,
  ⟨.ofLines ["964"],
    ["beng", "deva", "dogr", "gong", "gonm", "gran", "gujr", "guru", "knda", "mahj",
      "mlym", "nand", "onao", "orya", "sind", "sinh", "sylo", "takr", "taml", "telu", "tirh"]⟩,
  ⟨.ofLines ["965"],
    ["beng", "deva", "dogr", "gong", "gonm", "gran", "gujr", "gukh", "guru", "knda",
      "limb", "mahj", "mlym", "nand", "onao", "orya", "sind", "sinh", "sylo", "takr", "taml",
      "telu", "tirh"]⟩,
  ⟨.ofLines ["966-96f"],
    ["deva", "dogr", "kthi", "mahj"]⟩,
  ⟨.ofLines ["9e6-9ef"],
    ["beng", "cakm", "sylo"]⟩,
  ⟨.ofLines ["a66-a6f"],
    ["guru", "mult"]⟩,
  ⟨.ofLines ["ae6-aef"],
    ["gujr", "khoj"]⟩,
  ⟨.ofLines ["be6-bf3 11301 11303 1133b-1133c 11fd0-11fd1 11fd3"],
    ["gran", "taml"]⟩,
  ⟨.ofLines ["ce6-cef"],
    ["knda", "nand", "tutg"]⟩,
  ⟨.ofLines ["1040-1049"],
    ["cakm", "mymr", "tale"]⟩,
  ⟨.ofLines ["10fb"],
    ["geor", "glag", "latn"]⟩,
  ⟨.ofLines ["16eb-16ed"],
    ["runr"]⟩,
  ⟨.ofLines ["1735-1736"],
    ["buhd", "hano", "tagb", "tglg"]⟩,
  ⟨.ofLines ["1802-1803 1805"],
    ["mong", "phag"]⟩,
  ⟨.ofLines ["1cd0 1cd2"],
    ["beng", "deva", "gran", "knda"]⟩,
  ⟨.ofLines ["1cd1 1cd4 1cdb 1cde-1cdf 1ce2-1ce8 1ceb-1cec 1cee-1cf1"],
    ["deva"]⟩,
  ⟨.ofLines ["1cd3"],
    ["deva", "gran", "knda"]⟩,
  ⟨.ofLines ["1cd5-1cd6 1cd8-1cea/9 1ced 1cf5-1cf6"],
    ["beng", "deva"]⟩,
  ⟨.ofLines ["1cd7 1cd9 1cdc-1cdd 1ce0"],
    ["deva", "shrd"]⟩,
  ⟨.ofLines ["1cda"],
    ["deva", "knda", "mlym", "orya", "taml", "telu"]⟩,
  ⟨.ofLines ["1ce9"],
    ["deva", "nand"]⟩,
  ⟨.ofLines ["1cf2"],
    ["beng", "deva", "gran", "knda", "mlym", "nand", "orya", "sinh", "telu", "tirh", "tutg"]⟩,
  ⟨.ofLines ["1cf3 1cf8-1cf9"],
    ["deva", "gran"]⟩,
  ⟨.ofLines ["1cf4"],
    ["deva", "gran", "knda", "tutg"]⟩,
  ⟨.ofLines ["1cf7"],
    ["beng"]⟩,
  ⟨.ofLines ["1cfa"],
    ["nand"]⟩,
  ⟨.ofLines ["1df8"],
    ["cyrl", "latn", "syrc"]⟩,
  ⟨.ofLines ["1dfa"],
    ["syrc"]⟩,
  ⟨.ofLines ["202f"],
    ["latn", "mong", "phag"]⟩,
  ⟨.ofLines ["204f"],
    ["adlm", "arab"]⟩,
  ⟨.ofLines ["205a"],
    ["cari", "geor", "glag", "hung", "lyci", "orkh"]⟩,
  ⟨.ofLines ["205d"],
    ["cari", "grek", "hung", "mero"]⟩,
  ⟨.ofLines ["20f0"],
    ["deva", "gran", "latn"]⟩,
  ⟨.ofLines ["2e17"],
    ["copt", "latn"]⟩,
  ⟨.ofLines ["2e30"],
    ["avst", "orkh"]⟩,
  ⟨.ofLines ["2e31"],
    ["avst", "cari", "geor", "hung", "kthi", "lydi", "samr"]⟩,
  ⟨.ofLines ["2e3c 1bca0-1bca3"],
    ["dupl"]⟩,
  ⟨.ofLines ["2e41"],
    ["adlm", "arab", "hung"]⟩,
  ⟨.ofLines ["2ff0-2fff 31ef"],
    ["hani", "tang"]⟩,
  ⟨.ofLines ["3001"],
    ["bopo", "hang", "hani", "hira", "kana", "mong", "yiii"]⟩,
  ⟨.ofLines ["3002"],
    ["bopo", "hang", "hani", "hira", "kana", "mong", "phag", "yiii"]⟩,
  ⟨.ofLines ["3003 3013 301c-301f 3030 3037 fe45-fe46"],
    ["bopo", "hang", "hani", "hira", "kana"]⟩,
  ⟨.ofLines [
      "3006 303e-303f 3190-319f 31c0-31e5 3220-3247 3280-32b0 32c0-32cb 32ff 3358-3370 337b-337f",
      "33e0-33fe 1d360-1d371 1f250-1f251"],
    ["hani"]⟩,
  ⟨.ofLines ["3008-3009"],
    ["bopo", "hang", "hani", "hira", "kana", "mong", "tibt", "yiii"]⟩,
  ⟨.ofLines ["300a-300b"],
    ["bopo", "hang", "hani", "hira", "kana", "lisu", "mong", "tibt", "yiii"]⟩,
  ⟨.ofLines ["300c-3011 3014-301b 30fb ff61-ff65"],
    ["bopo", "hang", "hani", "hira", "kana", "yiii"]⟩,
  ⟨.ofLines ["302a-302d"],
    ["bopo", "hani"]⟩,
  ⟨.ofLines ["3031-3035 3099-309c 30a0 30fc ff70 ff9e-ff9f"],
    ["hira", "kana"]⟩,
  ⟨.ofLines ["303c-303d"],
    ["hani", "hira", "kana"]⟩,
  ⟨.ofLines ["a700-a707"],
    ["hani", "latn"]⟩,
  ⟨.ofLines ["a830-a832"],
    ["deva", "dogr", "gujr", "guru", "khoj", "knda", "kthi", "mahj", "mlym", "modi",
      "nand", "shrd", "sind", "takr", "tirh", "tutg"]⟩,
  ⟨.ofLines ["a833-a835"],
    ["deva", "dogr", "gujr", "guru", "khoj", "knda", "kthi", "mahj", "modi", "nand",
      "shrd", "sind", "takr", "tirh", "tutg"]⟩,
  ⟨.ofLines ["a836-a837 a839"],
    ["deva", "dogr", "gujr", "guru", "khoj", "kthi", "mahj", "modi", "sind", "takr", "tirh"]⟩,
  ⟨.ofLines ["a838"],
    ["deva", "dogr", "gujr", "guru", "khoj", "kthi", "mahj", "modi", "shrd", "sind",
      "takr", "tirh"]⟩,
  ⟨.ofLines ["a8f1"],
    ["beng", "deva", "tutg"]⟩,
  ⟨.ofLines ["a8f3"],
    ["deva", "taml"]⟩,
  ⟨.ofLines ["a92e"],
    ["kali", "latn", "mymr"]⟩,
  ⟨.ofLines ["a9cf"],
    ["bugi", "java"]⟩,
  ⟨.ofLines ["fd3e-fd3f"],
    ["arab", "nkoo"]⟩,
  ⟨.ofLines ["fdf2 fdfd"],
    ["arab", "thaa"]⟩,
  ⟨.ofLines ["10100-10101"],
    ["cpmn", "cprt", "linb"]⟩,
  ⟨.ofLines ["10102 10137-1013f"],
    ["cprt", "linb"]⟩,
  ⟨.ofLines ["10107-10133"],
    ["cprt", "lina", "linb"]⟩,
  ⟨.ofLines ["102e0-102fb"],
    ["arab", "copt"]⟩,
  ⟨.ofLines ["10af2"],
    ["mani", "ougr"]⟩]

end ConfigCheck.Text
