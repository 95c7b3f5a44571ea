import Keystroke.Unicode.Property

namespace Keystroke.Unicode

inductive Script where
  | adlm | aghb | ahom | arab | armi | armn | avst | bali | bamu | bass | batk | beng
  | bhks | bopo | brah | brai | bugi | buhd | cakm | cans | cari | cham | cher | chrs
  | copt | cpmn | cprt | cyrl | deva | diak | dogr | dsrt | dupl | egyp | elba | elym
  | ethi | gara | geor | glag | gong | gonm | goth | gran | grek | gujr | gukh | guru
  | hang | hani | hano | hatr | hebr | hira | hluw | hmng | hmnp | hung | ital | java
  | kali | kana | kawi | khar | khmr | khoj | kits | knda | krai | kthi | lana | laoo
  | latn | lepc | limb | lina | linb | lisu | lyci | lydi | mahj | maka | mand | mani
  | marc | medf | mend | merc | mero | mlym | modi | mong | mroo | mtei | mult | mymr
  | nagm | nand | narb | nbat | newa | nkoo | nshu | ogam | olck | onao | orkh | orya
  | osge | osma | ougr | palm | pauc | perm | phag | phli | phlp | phnx | plrd | prti
  | rjng | rohg | runr | samr | sarb | saur | sgnw | shaw | shrd | sidd | sind | sinh
  | sogd | sogo | sora | soyo | sund | sunu | sylo | syrc | tagb | takr | tale | talu
  | taml | tang | tavt | telu | tfng | tglg | thaa | thai | tibt | tirh | tnsa | todr
  | toto | tutg | ugar | vaii | vith | wara | wcho | xpeo | xsux | yezi | yiii | zanb
  | zinh | zyyy
  deriving DecidableEq, Repr

/-- The codes and names of scripts, in lower case and without separators. -/
def scriptNames : List (String × String × Script) := [
  ("adlm", "adlam", .adlm), ("aghb", "caucasianalbanian", .aghb), ("ahom", "ahom", .ahom),
  ("arab", "arabic", .arab), ("armi", "imperialaramaic", .armi), ("armn", "armenian", .armn),
  ("avst", "avestan", .avst), ("bali", "balinese", .bali), ("bamu", "bamum", .bamu),
  ("bass", "bassavah", .bass), ("batk", "batak", .batk), ("beng", "bengali", .beng),
  ("bhks", "bhaiksuki", .bhks), ("bopo", "bopomofo", .bopo), ("brah", "brahmi", .brah),
  ("brai", "braille", .brai), ("bugi", "buginese", .bugi), ("buhd", "buhid", .buhd),
  ("cakm", "chakma", .cakm), ("cans", "canadianaboriginal", .cans), ("cari", "carian", .cari),
  ("cham", "cham", .cham), ("cher", "cherokee", .cher), ("chrs", "chorasmian", .chrs),
  ("copt", "coptic", .copt), ("cpmn", "cyprominoan", .cpmn), ("cprt", "cypriot", .cprt),
  ("cyrl", "cyrillic", .cyrl), ("deva", "devanagari", .deva), ("diak", "divesakuru", .diak),
  ("dogr", "dogra", .dogr), ("dsrt", "deseret", .dsrt), ("dupl", "duployan", .dupl),
  ("egyp", "egyptianhieroglyphs", .egyp), ("elba", "elbasan", .elba), ("elym", "elymaic", .elym),
  ("ethi", "ethiopic", .ethi), ("gara", "garay", .gara), ("geor", "georgian", .geor),
  ("glag", "glagolitic", .glag), ("gong", "gunjalagondi", .gong), ("gonm", "masaramgondi", .gonm),
  ("goth", "gothic", .goth), ("gran", "grantha", .gran), ("grek", "greek", .grek),
  ("gujr", "gujarati", .gujr), ("gukh", "gurungkhema", .gukh), ("guru", "gurmukhi", .guru),
  ("hang", "hangul", .hang), ("hani", "han", .hani), ("hano", "hanunoo", .hano),
  ("hatr", "hatran", .hatr), ("hebr", "hebrew", .hebr), ("hira", "hiragana", .hira),
  ("hluw", "anatolianhieroglyphs", .hluw), ("hmng", "pahawhhmong", .hmng),
  ("hmnp", "nyiakengpuachuehmong", .hmnp), ("hung", "oldhungarian", .hung),
  ("ital", "olditalic", .ital), ("java", "javanese", .java), ("kali", "kayahli", .kali),
  ("kana", "katakana", .kana), ("kawi", "kawi", .kawi), ("khar", "kharoshthi", .khar),
  ("khmr", "khmer", .khmr), ("khoj", "khojki", .khoj), ("kits", "khitansmallscript", .kits),
  ("knda", "kannada", .knda), ("krai", "kiratrai", .krai), ("kthi", "kaithi", .kthi),
  ("lana", "taitham", .lana), ("laoo", "lao", .laoo), ("latn", "latin", .latn),
  ("lepc", "lepcha", .lepc), ("limb", "limbu", .limb), ("lina", "lineara", .lina),
  ("linb", "linearb", .linb), ("lisu", "lisu", .lisu), ("lyci", "lycian", .lyci),
  ("lydi", "lydian", .lydi), ("mahj", "mahajani", .mahj), ("maka", "makasar", .maka),
  ("mand", "mandaic", .mand), ("mani", "manichaean", .mani), ("marc", "marchen", .marc),
  ("medf", "medefaidrin", .medf), ("mend", "mendekikakui", .mend),
  ("merc", "meroiticcursive", .merc), ("mero", "meroitichieroglyphs", .mero),
  ("mlym", "malayalam", .mlym), ("modi", "modi", .modi), ("mong", "mongolian", .mong),
  ("mroo", "mro", .mroo), ("mtei", "meeteimayek", .mtei), ("mult", "multani", .mult),
  ("mymr", "myanmar", .mymr), ("nagm", "nagmundari", .nagm), ("nand", "nandinagari", .nand),
  ("narb", "oldnortharabian", .narb), ("nbat", "nabataean", .nbat), ("newa", "newa", .newa),
  ("nkoo", "nko", .nkoo), ("nshu", "nushu", .nshu), ("ogam", "ogham", .ogam),
  ("olck", "olchiki", .olck), ("onao", "olonal", .onao), ("orkh", "oldturkic", .orkh),
  ("orya", "oriya", .orya), ("osge", "osage", .osge), ("osma", "osmanya", .osma),
  ("ougr", "olduyghur", .ougr), ("palm", "palmyrene", .palm), ("pauc", "paucinhau", .pauc),
  ("perm", "oldpermic", .perm), ("phag", "phagspa", .phag), ("phli", "inscriptionalpahlavi", .phli),
  ("phlp", "psalterpahlavi", .phlp), ("phnx", "phoenician", .phnx), ("plrd", "miao", .plrd),
  ("prti", "inscriptionalparthian", .prti), ("rjng", "rejang", .rjng),
  ("rohg", "hanifirohingya", .rohg), ("runr", "runic", .runr), ("samr", "samaritan", .samr),
  ("sarb", "oldsoutharabian", .sarb), ("saur", "saurashtra", .saur), ("sgnw", "signwriting", .sgnw),
  ("shaw", "shavian", .shaw), ("shrd", "sharada", .shrd), ("sidd", "siddham", .sidd),
  ("sind", "khudawadi", .sind), ("sinh", "sinhala", .sinh), ("sogd", "sogdian", .sogd),
  ("sogo", "oldsogdian", .sogo), ("sora", "sorasompeng", .sora), ("soyo", "soyombo", .soyo),
  ("sund", "sundanese", .sund), ("sunu", "sunuwar", .sunu), ("sylo", "sylotinagri", .sylo),
  ("syrc", "syriac", .syrc), ("tagb", "tagbanwa", .tagb), ("takr", "takri", .takr),
  ("tale", "taile", .tale), ("talu", "newtailue", .talu), ("taml", "tamil", .taml),
  ("tang", "tangut", .tang), ("tavt", "taiviet", .tavt), ("telu", "telugu", .telu),
  ("tfng", "tifinagh", .tfng), ("tglg", "tagalog", .tglg), ("thaa", "thaana", .thaa),
  ("thai", "thai", .thai), ("tibt", "tibetan", .tibt), ("tirh", "tirhuta", .tirh),
  ("tnsa", "tangsa", .tnsa), ("todr", "todhri", .todr), ("toto", "toto", .toto),
  ("tutg", "tulutigalari", .tutg), ("ugar", "ugaritic", .ugar), ("vaii", "vai", .vaii),
  ("vith", "vithkuqi", .vith), ("wara", "warangciti", .wara), ("wcho", "wancho", .wcho),
  ("xpeo", "oldpersian", .xpeo), ("xsux", "cuneiform", .xsux), ("yezi", "yezidi", .yezi),
  ("yiii", "yi", .yiii), ("zanb", "zanabazarsquare", .zanb), ("zinh", "inherited", .zinh),
  ("zyyy", "common", .zyyy)]

/-- The runs of scripts. Characters for private use have none. -/
def scriptRuns : Array (Nat × Option Script) := #[
  (0x0000, some .zyyy), (0x0041, some .latn), (0x005B, some .zyyy), (0x0061, some .latn),
  (0x007B, some .zyyy), (0x00AA, some .latn), (0x00AB, some .zyyy), (0x00BA, some .latn),
  (0x00BB, some .zyyy), (0x00C0, some .latn), (0x00D7, some .zyyy), (0x00D8, some .latn),
  (0x00F7, some .zyyy), (0x00F8, some .latn), (0x02B9, some .zyyy), (0x02E0, some .latn),
  (0x02E5, some .zyyy), (0x02EA, some .bopo), (0x02EC, some .zyyy), (0x0300, some .zinh),
  (0x0370, some .grek), (0x0374, some .zyyy), (0x0375, some .grek), (0x037E, some .zyyy),
  (0x037F, some .grek), (0x0385, some .zyyy), (0x0386, some .grek), (0x0387, some .zyyy),
  (0x0388, some .grek), (0x03E2, some .copt), (0x03F0, some .grek), (0x0400, some .cyrl),
  (0x0485, some .zinh), (0x0487, some .cyrl), (0x0531, some .armn), (0x0591, some .hebr),
  (0x0600, some .arab), (0x0605, some .zyyy), (0x0606, some .arab), (0x060C, some .zyyy),
  (0x060D, some .arab), (0x061B, some .zyyy), (0x061C, some .arab), (0x061F, some .zyyy),
  (0x0620, some .arab), (0x0640, some .zyyy), (0x0641, some .arab), (0x064B, some .zinh),
  (0x0656, some .arab), (0x0670, some .zinh), (0x0671, some .arab), (0x06DD, some .zyyy),
  (0x06DE, some .arab), (0x0700, some .syrc), (0x0750, some .arab), (0x0780, some .thaa),
  (0x07C0, some .nkoo), (0x0800, some .samr), (0x0840, some .mand), (0x0860, some .syrc),
  (0x0870, some .arab), (0x08E2, some .zyyy), (0x08E3, some .arab), (0x0900, some .deva),
  (0x0951, some .zinh), (0x0955, some .deva), (0x0964, some .zyyy), (0x0966, some .deva),
  (0x0980, some .beng), (0x0A01, some .guru), (0x0A81, some .gujr), (0x0B01, some .orya),
  (0x0B82, some .taml), (0x0C00, some .telu), (0x0C80, some .knda), (0x0D00, some .mlym),
  (0x0D81, some .sinh), (0x0E01, some .thai), (0x0E3F, some .zyyy), (0x0E40, some .thai),
  (0x0E81, some .laoo), (0x0F00, some .tibt), (0x0FD5, some .zyyy), (0x0FD9, some .tibt),
  (0x1000, some .mymr), (0x10A0, some .geor), (0x10FB, some .zyyy), (0x10FC, some .geor),
  (0x1100, some .hang), (0x1200, some .ethi), (0x13A0, some .cher), (0x1400, some .cans),
  (0x1680, some .ogam), (0x16A0, some .runr), (0x16EB, some .zyyy), (0x16EE, some .runr),
  (0x1700, some .tglg), (0x1720, some .hano), (0x1735, some .zyyy), (0x1740, some .buhd),
  (0x1760, some .tagb), (0x1780, some .khmr), (0x1800, some .mong), (0x1802, some .zyyy),
  (0x1804, some .mong), (0x1805, some .zyyy), (0x1806, some .mong), (0x18B0, some .cans),
  (0x1900, some .limb), (0x1950, some .tale), (0x1980, some .talu), (0x19E0, some .khmr),
  (0x1A00, some .bugi), (0x1A20, some .lana), (0x1AB0, some .zinh), (0x1B00, some .bali),
  (0x1B80, some .sund), (0x1BC0, some .batk), (0x1C00, some .lepc), (0x1C50, some .olck),
  (0x1C80, some .cyrl), (0x1C90, some .geor), (0x1CC0, some .sund), (0x1CD0, some .zinh),
  (0x1CD3, some .zyyy), (0x1CD4, some .zinh), (0x1CE1, some .zyyy), (0x1CE2, some .zinh),
  (0x1CE9, some .zyyy), (0x1CED, some .zinh), (0x1CEE, some .zyyy), (0x1CF4, some .zinh),
  (0x1CF5, some .zyyy), (0x1CF8, some .zinh), (0x1CFA, some .zyyy), (0x1D00, some .latn),
  (0x1D26, some .grek), (0x1D2B, some .cyrl), (0x1D2C, some .latn), (0x1D5D, some .grek),
  (0x1D62, some .latn), (0x1D66, some .grek), (0x1D6B, some .latn), (0x1D78, some .cyrl),
  (0x1D79, some .latn), (0x1DBF, some .grek), (0x1DC0, some .zinh), (0x1E00, some .latn),
  (0x1F00, some .grek), (0x2000, some .zyyy), (0x200C, some .zinh), (0x200E, some .zyyy),
  (0x2071, some .latn), (0x2074, some .zyyy), (0x207F, some .latn), (0x2080, some .zyyy),
  (0x2090, some .latn), (0x20A0, some .zyyy), (0x20D0, some .zinh), (0x2100, some .zyyy),
  (0x2126, some .grek), (0x2127, some .zyyy), (0x212A, some .latn), (0x212C, some .zyyy),
  (0x2132, some .latn), (0x2133, some .zyyy), (0x214E, some .latn), (0x214F, some .zyyy),
  (0x2160, some .latn), (0x2189, some .zyyy), (0x2800, some .brai), (0x2900, some .zyyy),
  (0x2C00, some .glag), (0x2C60, some .latn), (0x2C80, some .copt), (0x2D00, some .geor),
  (0x2D30, some .tfng), (0x2D80, some .ethi), (0x2DE0, some .cyrl), (0x2E00, some .zyyy),
  (0x2E80, some .hani), (0x2FF0, some .zyyy), (0x3005, some .hani), (0x3006, some .zyyy),
  (0x3007, some .hani), (0x3008, some .zyyy), (0x3021, some .hani), (0x302A, some .zinh),
  (0x302E, some .hang), (0x3030, some .zyyy), (0x3038, some .hani), (0x303C, some .zyyy),
  (0x3041, some .hira), (0x3099, some .zinh), (0x309B, some .zyyy), (0x309D, some .hira),
  (0x30A0, some .zyyy), (0x30A1, some .kana), (0x30FB, some .zyyy), (0x30FD, some .kana),
  (0x3105, some .bopo), (0x3131, some .hang), (0x3190, some .zyyy), (0x31A0, some .bopo),
  (0x31C0, some .zyyy), (0x31F0, some .kana), (0x3200, some .hang), (0x3220, some .zyyy),
  (0x3260, some .hang), (0x327F, some .zyyy), (0x32D0, some .kana), (0x32FF, some .zyyy),
  (0x3300, some .kana), (0x3358, some .zyyy), (0x3400, some .hani), (0x4DC0, some .zyyy),
  (0x4E00, some .hani), (0xA000, some .yiii), (0xA4D0, some .lisu), (0xA500, some .vaii),
  (0xA640, some .cyrl), (0xA6A0, some .bamu), (0xA700, some .zyyy), (0xA722, some .latn),
  (0xA788, some .zyyy), (0xA78B, some .latn), (0xA800, some .sylo), (0xA830, some .zyyy),
  (0xA840, some .phag), (0xA880, some .saur), (0xA8E0, some .deva), (0xA900, some .kali),
  (0xA92E, some .zyyy), (0xA92F, some .kali), (0xA930, some .rjng), (0xA960, some .hang),
  (0xA980, some .java), (0xA9CF, some .zyyy), (0xA9D0, some .java), (0xA9E0, some .mymr),
  (0xAA00, some .cham), (0xAA60, some .mymr), (0xAA80, some .tavt), (0xAAE0, some .mtei),
  (0xAB01, some .ethi), (0xAB30, some .latn), (0xAB5B, some .zyyy), (0xAB5C, some .latn),
  (0xAB65, some .grek), (0xAB66, some .latn), (0xAB6A, some .zyyy), (0xAB70, some .cher),
  (0xABC0, some .mtei), (0xAC00, some .hang), (0xD800, none), (0xF900, some .hani),
  (0xFB00, some .latn), (0xFB13, some .armn), (0xFB1D, some .hebr), (0xFB50, some .arab),
  (0xFD3E, some .zyyy), (0xFD40, some .arab), (0xFE00, some .zinh), (0xFE10, some .zyyy),
  (0xFE20, some .zinh), (0xFE2E, some .cyrl), (0xFE30, some .zyyy), (0xFE70, some .arab),
  (0xFEFF, some .zyyy), (0xFF21, some .latn), (0xFF3B, some .zyyy), (0xFF41, some .latn),
  (0xFF5B, some .zyyy), (0xFF66, some .kana), (0xFF70, some .zyyy), (0xFF71, some .kana),
  (0xFF9E, some .zyyy), (0xFFA0, some .hang), (0xFFE0, some .zyyy), (0x10000, some .linb),
  (0x10100, some .zyyy), (0x10140, some .grek), (0x10190, some .zyyy), (0x101A0, some .grek),
  (0x101D0, some .zyyy), (0x101FD, some .zinh), (0x10280, some .lyci), (0x102A0, some .cari),
  (0x102E0, some .zinh), (0x102E1, some .zyyy), (0x10300, some .ital), (0x10330, some .goth),
  (0x10350, some .perm), (0x10380, some .ugar), (0x103A0, some .xpeo), (0x10400, some .dsrt),
  (0x10450, some .shaw), (0x10480, some .osma), (0x104B0, some .osge), (0x10500, some .elba),
  (0x10530, some .aghb), (0x10570, some .vith), (0x105C0, some .todr), (0x10600, some .lina),
  (0x10780, some .latn), (0x10800, some .cprt), (0x10840, some .armi), (0x10860, some .palm),
  (0x10880, some .nbat), (0x108E0, some .hatr), (0x10900, some .phnx), (0x10920, some .lydi),
  (0x10980, some .mero), (0x109A0, some .merc), (0x10A00, some .khar), (0x10A60, some .sarb),
  (0x10A80, some .narb), (0x10AC0, some .mani), (0x10B00, some .avst), (0x10B40, some .prti),
  (0x10B60, some .phli), (0x10B80, some .phlp), (0x10C00, some .orkh), (0x10C80, some .hung),
  (0x10D00, some .rohg), (0x10D40, some .gara), (0x10E60, some .arab), (0x10E80, some .yezi),
  (0x10EC2, some .arab), (0x10F00, some .sogo), (0x10F30, some .sogd), (0x10F70, some .ougr),
  (0x10FB0, some .chrs), (0x10FE0, some .elym), (0x11000, some .brah), (0x11080, some .kthi),
  (0x110D0, some .sora), (0x11100, some .cakm), (0x11150, some .mahj), (0x11180, some .shrd),
  (0x111E1, some .sinh), (0x11200, some .khoj), (0x11280, some .mult), (0x112B0, some .sind),
  (0x11300, some .gran), (0x1133B, some .zinh), (0x1133C, some .gran), (0x11380, some .tutg),
  (0x11400, some .newa), (0x11480, some .tirh), (0x11580, some .sidd), (0x11600, some .modi),
  (0x11660, some .mong), (0x11680, some .takr), (0x116D0, some .mymr), (0x11700, some .ahom),
  (0x11800, some .dogr), (0x118A0, some .wara), (0x11900, some .diak), (0x119A0, some .nand),
  (0x11A00, some .zanb), (0x11A50, some .soyo), (0x11AB0, some .cans), (0x11AC0, some .pauc),
  (0x11B00, some .deva), (0x11BC0, some .sunu), (0x11C00, some .bhks), (0x11C70, some .marc),
  (0x11D00, some .gonm), (0x11D60, some .gong), (0x11EE0, some .maka), (0x11F00, some .kawi),
  (0x11FB0, some .lisu), (0x11FC0, some .taml), (0x12000, some .xsux), (0x12F90, some .cpmn),
  (0x13000, some .egyp), (0x14400, some .hluw), (0x16100, some .gukh), (0x16800, some .bamu),
  (0x16A40, some .mroo), (0x16A70, some .tnsa), (0x16AD0, some .bass), (0x16B00, some .hmng),
  (0x16D40, some .krai), (0x16E40, some .medf), (0x16F00, some .plrd), (0x16FE0, some .tang),
  (0x16FE1, some .nshu), (0x16FE2, some .hani), (0x16FE4, some .kits), (0x16FF0, some .hani),
  (0x17000, some .tang), (0x18B00, some .kits), (0x18D00, some .tang), (0x1AFF0, some .kana),
  (0x1B001, some .hira), (0x1B120, some .kana), (0x1B132, some .hira), (0x1B155, some .kana),
  (0x1B170, some .nshu), (0x1BC00, some .dupl), (0x1BCA0, some .zyyy), (0x1CF00, some .zinh),
  (0x1CF50, some .zyyy), (0x1D167, some .zinh), (0x1D16A, some .zyyy), (0x1D17B, some .zinh),
  (0x1D183, some .zyyy), (0x1D185, some .zinh), (0x1D18C, some .zyyy), (0x1D1AA, some .zinh),
  (0x1D1AE, some .zyyy), (0x1D200, some .grek), (0x1D2C0, some .zyyy), (0x1D800, some .sgnw),
  (0x1DF00, some .latn), (0x1E000, some .glag), (0x1E030, some .cyrl), (0x1E100, some .hmnp),
  (0x1E290, some .toto), (0x1E2C0, some .wcho), (0x1E4D0, some .nagm), (0x1E5D0, some .onao),
  (0x1E7E0, some .ethi), (0x1E800, some .mend), (0x1E900, some .adlm), (0x1EC71, some .zyyy),
  (0x1EE00, some .arab), (0x1F000, some .zyyy), (0x1F200, some .hira), (0x1F201, some .zyyy),
  (0x20000, some .hani), (0xE0001, some .zyyy), (0xE0100, some .zinh), (0xF0000, none)]

def script? (c : Char) : Option Script :=
  if category c == .cn then none else (entryAt? scriptRuns c.toNat).bind (·.2)

end Keystroke.Unicode
