import SqlWeave.Pattern.CharSet
import SqlWeave.Pattern.Property.ScriptTables

/-! Scripts by name, and the characters that several scripts share, by the script extensions of
Unicode 16. -/

namespace SqlWeave.Pattern.Property

/-- Characters that belong to just these scripts, given by their short names, whatever script they
are listed under. -/
structure SharedChars where
  scripts : List String
  bounds : List Nat

def sharedCharsLow : List SharedChars := [
  ⟨["avst", "cari", "copt", "dupl", "elba", "geor", "glag", "gong", "goth", "grek", "hani",
    "latn", "lydi", "mahj", "perm", "shaw"], [
    0xB7, 0xB8]⟩,
  ⟨["beng", "cyrl", "deva", "latn", "lisu", "thai", "toto"], [0x2BC, 0x2BD]⟩,
  ⟨["bopo", "latn"], [0x2C7, 0x2C8, 0x2C9, 0x2CC, 0x2D9, 0x2DA]⟩,
  ⟨["latn", "lisu"], [0x2CD, 0x2CE]⟩,
  ⟨["latn", "thai"], [0x2D7, 0x2D8]⟩,
  ⟨["cher", "copt", "cyrl", "grek", "latn", "perm", "sunu", "tale"], [0x300, 0x301]⟩,
  ⟨["cher", "cyrl", "grek", "latn", "osge", "sunu", "tale", "todr"], [0x301, 0x302]⟩,
  ⟨["cher", "cyrl", "latn", "tfng"], [0x302, 0x303]⟩,
  ⟨["glag", "latn", "sunu", "syrc", "thai"], [0x303, 0x304]⟩,
  ⟨["aghb", "cher", "copt", "cyrl", "goth", "grek", "latn", "osge", "syrc", "tfng", "todr"], [
    0x304, 0x305]⟩,
  ⟨["copt", "elba", "glag", "goth", "kana", "latn"], [0x305, 0x306]⟩,
  ⟨["cyrl", "grek", "latn", "perm", "tfng"], [0x306, 0x307]⟩,
  ⟨["copt", "dupl", "hebr", "latn", "perm", "syrc", "tale", "tfng", "todr"], [0x307, 0x308]⟩,
  ⟨["armn", "cyrl", "dupl", "goth", "grek", "hebr", "latn", "perm", "syrc", "tale", "tfng"], [
    0x308, 0x309]⟩,
  ⟨["latn", "tfng"], [0x309, 0x30A]⟩,
  ⟨["dupl", "latn", "syrc"], [0x30A, 0x30B]⟩,
  ⟨["cher", "cyrl", "latn", "osge"], [0x30B, 0x30C]⟩,
  ⟨["cher", "latn", "tale"], [0x30C, 0x30D]⟩,
  ⟨["latn", "sunu"], [0x30D, 0x30E, 0x310, 0x311]⟩,
  ⟨["ethi", "latn"], [0x30E, 0x30F]⟩,
  ⟨["cyrl", "latn", "todr"], [0x311, 0x312]⟩,
  ⟨["grek", "latn", "perm", "todr"], [0x313, 0x314]⟩,
  ⟨["cher", "dupl", "kana", "latn", "syrc", "tfng"], [0x323, 0x324]⟩,
  ⟨["cher", "dupl", "latn", "syrc"], [0x324, 0x325]⟩,
  ⟨["latn", "syrc"], [0x325, 0x326, 0x32E, 0x32F]⟩,
  ⟨["latn", "sunu", "syrc"], [0x32D, 0x32E]⟩,
  ⟨["cher", "latn", "syrc"], [0x330, 0x331]⟩,
  ⟨["aghb", "cher", "goth", "latn", "sunu", "syrc", "thai"], [0x331, 0x332]⟩,
  ⟨["grek"], [0x342, 0x343, 0x345, 0x346, 0x1DC0, 0x1DC2]⟩,
  ⟨["latn", "osge"], [0x358, 0x359]⟩,
  ⟨["aghb", "latn", "todr"], [0x35E, 0x35F]⟩,
  ⟨["latn"], [0x363, 0x370]⟩,
  ⟨["copt", "grek"], [0x374, 0x376]⟩,
  ⟨["cyrl", "perm"], [0x483, 0x484]⟩,
  ⟨["cyrl", "glag"], [0x484, 0x485, 0x487, 0x488, 0x2E43, 0x2E44, 0xA66F, 0xA670]⟩,
  ⟨["cyrl", "latn"], [0x485, 0x487]⟩,
  ⟨["armn", "geor", "glag"], [0x589, 0x58A]⟩,
  ⟨["arab", "gara", "nkoo", "rohg", "syrc", "thaa", "yezi"], [0x60C, 0x60D, 0x61B, 0x61C]⟩,
  ⟨["arab", "syrc", "thaa"], [0x61C, 0x61D]⟩,
  ⟨["adlm", "arab", "gara", "nkoo", "rohg", "syrc", "thaa", "yezi"], [0x61F, 0x620]⟩,
  ⟨["adlm", "arab", "mand", "mani", "ougr", "phlp", "rohg", "sogd", "syrc"], [0x640, 0x641]⟩,
  ⟨["arab", "syrc"], [0x64B, 0x656, 0x670, 0x671]⟩,
  ⟨["arab", "thaa", "yezi"], [0x660, 0x66A]⟩,
  ⟨["arab", "rohg"], [0x6D4, 0x6D5]⟩,
  ⟨["beng", "deva", "gran", "gujr", "guru", "knda", "latn", "mlym", "nand", "newa", "orya",
    "shrd", "taml", "telu", "tirh"], [
    0x951, 0x952]⟩,
  ⟨["beng", "deva", "gran", "gujr", "guru", "knda", "latn", "mlym", "newa", "orya", "taml",
    "telu", "tirh"], [
    0x952, 0x953]⟩,
  ⟨["beng", "deva", "dogr", "gong", "gonm", "gran", "gujr", "guru", "knda", "mahj", "mlym",
    "nand", "onao", "orya", "sind", "sinh", "sylo", "takr", "taml", "telu", "tirh"], [
    0x964, 0x965]⟩,
  ⟨["beng", "deva", "dogr", "gong", "gonm", "gran", "gujr", "gukh", "guru", "knda", "limb",
    "mahj", "mlym", "nand", "onao", "orya", "sind", "sinh", "sylo", "takr", "taml", "telu",
    "tirh"], [
    0x965, 0x966]⟩,
  ⟨["deva", "dogr", "kthi", "mahj"], [0x966, 0x970]⟩,
  ⟨["beng", "cakm", "sylo"], [0x9E6, 0x9F0]⟩,
  ⟨["guru", "mult"], [0xA66, 0xA70]⟩,
  ⟨["gujr", "khoj"], [0xAE6, 0xAF0]⟩,
  ⟨["gran", "taml"], [
    0xBE6, 0xBF4, 0x11301, 0x11302, 0x11303, 0x11304, 0x1133B, 0x1133D, 0x11FD0, 0x11FD2,
    0x11FD3, 0x11FD4]⟩,
  ⟨["knda", "nand", "tutg"], [0xCE6, 0xCF0]⟩,
  ⟨["cakm", "mymr", "tale"], [0x1040, 0x104A]⟩,
  ⟨["geor", "glag", "latn"], [0x10FB, 0x10FC]⟩,
  ⟨["runr"], [0x16EB, 0x16EE]⟩,
  ⟨["buhd", "hano", "tagb", "tglg"], [0x1735, 0x1737]⟩,
  ⟨["mong", "phag"], [0x1802, 0x1804, 0x1805, 0x1806]⟩]

def sharedCharsHigh : List SharedChars := [
  ⟨["beng", "deva", "gran", "knda"], [0x1CD0, 0x1CD1, 0x1CD2, 0x1CD3]⟩,
  ⟨["deva"], [
    0x1CD1, 0x1CD2, 0x1CD4, 0x1CD5, 0x1CDB, 0x1CDC, 0x1CDE, 0x1CE0, 0x1CE3, 0x1CE9, 0x1CEC,
    0x1CED, 0x1CEE, 0x1CF2]⟩,
  ⟨["deva", "gran", "knda"], [0x1CD3, 0x1CD4]⟩,
  ⟨["beng", "deva", "newa", "telu", "tirh"], [0x1CD5, 0x1CD6]⟩,
  ⟨["beng", "deva", "telu"], [0x1CD6, 0x1CD7]⟩,
  ⟨["deva", "newa", "shrd"], [0x1CD7, 0x1CD8]⟩,
  ⟨["beng", "deva", "newa", "telu"], [0x1CD8, 0x1CD9]⟩,
  ⟨["deva", "shrd"], [0x1CD9, 0x1CDA, 0x1CDC, 0x1CDE, 0x1CE0, 0x1CE1]⟩,
  ⟨["deva", "knda", "mlym", "orya", "taml", "telu"], [0x1CDA, 0x1CDB]⟩,
  ⟨["beng", "deva"], [0x1CE1, 0x1CE2, 0x1CF5, 0x1CF7]⟩,
  ⟨["deva", "newa", "tirh"], [0x1CE2, 0x1CE3]⟩,
  ⟨["deva", "nand", "newa"], [0x1CE9, 0x1CEA]⟩,
  ⟨["beng", "deva", "shrd"], [0x1CEA, 0x1CEB]⟩,
  ⟨["deva", "newa"], [0x1CEB, 0x1CEC]⟩,
  ⟨["beng", "deva", "newa", "shrd"], [0x1CED, 0x1CEE]⟩,
  ⟨["beng", "deva", "gran", "knda", "mlym", "nand", "orya", "sinh", "telu", "tirh", "tutg"], [
    0x1CF2, 0x1CF3]⟩,
  ⟨["deva", "gran"], [0x1CF3, 0x1CF4, 0x1CF8, 0x1CFA]⟩,
  ⟨["deva", "gran", "knda", "tutg"], [0x1CF4, 0x1CF5]⟩,
  ⟨["beng"], [0x1CF7, 0x1CF8]⟩,
  ⟨["nand"], [0x1CFA, 0x1CFB]⟩,
  ⟨["cyrl", "latn", "syrc"], [0x1DF8, 0x1DF9]⟩,
  ⟨["syrc"], [0x1DFA, 0x1DFB]⟩,
  ⟨["latn", "mong", "phag"], [0x202F, 0x2030]⟩,
  ⟨["adlm", "arab"], [0x204F, 0x2050]⟩,
  ⟨["cari", "geor", "glag", "hung", "lyci", "orkh"], [0x205A, 0x205B]⟩,
  ⟨["cari", "grek", "hung", "mero"], [0x205D, 0x205E]⟩,
  ⟨["deva", "gran", "latn"], [0x20F0, 0x20F1]⟩,
  ⟨["copt", "latn"], [0x2E17, 0x2E18]⟩,
  ⟨["avst", "orkh"], [0x2E30, 0x2E31]⟩,
  ⟨["avst", "cari", "geor", "hung", "kthi", "lydi", "samr"], [0x2E31, 0x2E32]⟩,
  ⟨["dupl"], [0x2E3C, 0x2E3D, 0x1BCA0, 0x1BCA4]⟩,
  ⟨["adlm", "arab", "hung"], [0x2E41, 0x2E42]⟩,
  ⟨["hani", "tang"], [0x2FF0, 0x3000, 0x31EF, 0x31F0]⟩,
  ⟨["bopo", "hang", "hani", "hira", "kana", "mong", "yiii"], [0x3001, 0x3002]⟩,
  ⟨["bopo", "hang", "hani", "hira", "kana", "mong", "phag", "yiii"], [0x3002, 0x3003]⟩,
  ⟨["bopo", "hang", "hani", "hira", "kana"], [
    0x3003, 0x3004, 0x3013, 0x3014, 0x301C, 0x3020, 0x3030, 0x3031, 0x3037, 0x3038, 0xFE45,
    0xFE47]⟩,
  ⟨["hani"], [
    0x3006, 0x3007, 0x303E, 0x3040, 0x3190, 0x31A0, 0x31C0, 0x31E6, 0x3220, 0x3248, 0x3280,
    0x32B1, 0x32C0, 0x32CC, 0x32FF, 0x3300, 0x3358, 0x3371, 0x337B, 0x3380, 0x33E0, 0x33FF,
    0x1D360, 0x1D372, 0x1F250, 0x1F252]⟩,
  ⟨["bopo", "hang", "hani", "hira", "kana", "mong", "tibt", "yiii"], [0x3008, 0x300A]⟩,
  ⟨["bopo", "hang", "hani", "hira", "kana", "lisu", "mong", "tibt", "yiii"], [0x300A, 0x300C]⟩,
  ⟨["bopo", "hang", "hani", "hira", "kana", "yiii"], [
    0x300C, 0x3012, 0x3014, 0x301C, 0x30FB, 0x30FC, 0xFF61, 0xFF66]⟩,
  ⟨["bopo", "hani"], [0x302A, 0x302E]⟩,
  ⟨["hira", "kana"], [
    0x3031, 0x3036, 0x3099, 0x309D, 0x30A0, 0x30A1, 0x30FC, 0x30FD, 0xFF70, 0xFF71, 0xFF9E,
    0xFFA0]⟩,
  ⟨["hani", "hira", "kana"], [0x303C, 0x303E]⟩,
  ⟨["hani", "latn"], [0xA700, 0xA708]⟩,
  ⟨["deva", "dogr", "gujr", "guru", "khoj", "knda", "kthi", "mahj", "mlym", "modi", "nand",
    "shrd", "sind", "takr", "tirh", "tutg"], [
    0xA830, 0xA833]⟩,
  ⟨["deva", "dogr", "gujr", "guru", "khoj", "knda", "kthi", "mahj", "modi", "nand", "shrd",
    "sind", "takr", "tirh", "tutg"], [
    0xA833, 0xA836]⟩,
  ⟨["deva", "dogr", "gujr", "guru", "khoj", "kthi", "mahj", "modi", "sind", "takr", "tirh"], [
    0xA836, 0xA838, 0xA839, 0xA83A]⟩,
  ⟨["deva", "dogr", "gujr", "guru", "khoj", "kthi", "mahj", "modi", "shrd", "sind", "takr",
    "tirh"], [
    0xA838, 0xA839]⟩,
  ⟨["beng", "deva", "tutg"], [0xA8F1, 0xA8F2]⟩,
  ⟨["deva", "taml"], [0xA8F3, 0xA8F4]⟩,
  ⟨["kali", "latn", "mymr"], [0xA92E, 0xA92F]⟩,
  ⟨["bugi", "java"], [0xA9CF, 0xA9D0]⟩,
  ⟨["arab", "nkoo"], [0xFD3E, 0xFD40]⟩,
  ⟨["arab", "thaa"], [0xFDF2, 0xFDF3, 0xFDFD, 0xFDFE]⟩,
  ⟨["cpmn", "cprt", "linb"], [0x10100, 0x10102]⟩,
  ⟨["cprt", "linb"], [0x10102, 0x10103, 0x10137, 0x10140]⟩,
  ⟨["cprt", "lina", "linb"], [0x10107, 0x10134]⟩,
  ⟨["arab", "copt"], [0x102E0, 0x102FC]⟩,
  ⟨["mani", "ougr"], [0x10AF2, 0x10AF3]⟩]

def sharedChars : List SharedChars := sharedCharsLow ++ sharedCharsHigh

/-! ## Scripts by name -/

def namedScript? (name : String) : Option Script := scripts.find? (·.names.contains name)

/-- The characters that are listed under a script. -/
def script? (name : String) : Option CharSet := (namedScript? name).map fun s => .ofBounds s.bounds

def SharedChars.isUsedIn (row : SharedChars) (s : Script) : Bool := s.names.any row.scripts.contains

/-- The characters used in a script. -/
def Script.extended (s : Script) : CharSet :=
  let shared := CharSet.ofBounds (sharedChars.flatMap (·.bounds))
  let used := sharedChars.filter (·.isUsedIn s)
  (CharSet.ofBounds s.bounds \ shared) ∪ CharSet.ofBounds (used.flatMap (·.bounds))

def scriptExtension? (name : String) : Option CharSet := (namedScript? name).map (·.extended)

end SqlWeave.Pattern.Property
