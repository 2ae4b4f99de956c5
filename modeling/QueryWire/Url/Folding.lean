/-
  Folding of the characters of a domain.

  A domain is stored in small letters and without variants of form: `fold?` gives
  the text that stands for a character, which is empty for some, and refuses the
  characters that no domain holds (Unicode 17.0).
-/
import QueryWire.Text.Pieces
import QueryWire.Text.Unprintable

namespace QueryWire.Url

/-! ## Tables -/

/-- Runs of characters of which each stands for one other: the first and the last one, the
    step from one to the next, and what the first stands for; the others follow at the same
    distance. -/
def shifts : Array (Nat × Nat × Nat × Nat) := #[
  (0xC0, 0xD6, 1, 0xE0), (0xD8, 0xDE, 1, 0xF8), (0x100, 0x12E, 2, 0x101), (0x139, 0x13D, 2, 0x13A),
  (0x141, 0x147, 2, 0x142), (0x14A, 0x176, 2, 0x14B), (0x179, 0x17D, 2, 0x17A),
  (0x1A0, 0x1A4, 2, 0x1A1), (0x1CD, 0x1DB, 2, 0x1CE), (0x1DE, 0x1EE, 2, 0x1DF),
  (0x1F8, 0x21E, 2, 0x1F9), (0x222, 0x232, 2, 0x223), (0x246, 0x24E, 2, 0x247),
  (0x388, 0x38A, 1, 0x3AD), (0x391, 0x3A1, 1, 0x3B1), (0x3A3, 0x3AB, 1, 0x3C3),
  (0x3D8, 0x3EE, 2, 0x3D9), (0x3FD, 0x3FF, 1, 0x37B), (0x400, 0x40F, 1, 0x450),
  (0x410, 0x42F, 1, 0x430), (0x460, 0x480, 2, 0x461), (0x48A, 0x4BE, 2, 0x48B),
  (0x4C1, 0x4CD, 2, 0x4C2), (0x4D0, 0x52E, 2, 0x4D1), (0x531, 0x556, 1, 0x561),
  (0x10A0, 0x10C5, 1, 0x2D00), (0x13F8, 0x13FD, 1, 0x13F0), (0x1C90, 0x1CBA, 1, 0x10D0),
  (0x1CBD, 0x1CBF, 1, 0x10FD), (0x1D31, 0x1D39, 2, 0x65), (0x1D34, 0x1D3A, 2, 0x68),
  (0x1D5D, 0x1D5F, 1, 0x3B2), (0x1DA4, 0x1DA6, 1, 0x268), (0x1DAE, 0x1DB1, 1, 0x272),
  (0x1DBC, 0x1DBE, 1, 0x290), (0x1E00, 0x1E94, 2, 0x1E01), (0x1EA0, 0x1EFE, 2, 0x1EA1),
  (0x1F08, 0x1F0F, 1, 0x1F00), (0x1F18, 0x1F1D, 1, 0x1F10), (0x1F28, 0x1F2F, 1, 0x1F20),
  (0x1F38, 0x1F3F, 1, 0x1F30), (0x1F48, 0x1F4D, 1, 0x1F40), (0x1F59, 0x1F5F, 2, 0x1F51),
  (0x1F68, 0x1F6F, 1, 0x1F60), (0x2074, 0x2079, 1, 0x34), (0x2080, 0x2089, 1, 0x30),
  (0x2096, 0x2099, 1, 0x6B), (0x2119, 0x211B, 1, 0x70), (0x2135, 0x2138, 1, 0x5D0),
  (0x2460, 0x2468, 1, 0x31), (0x24B6, 0x24CF, 1, 0x61), (0x24D0, 0x24E9, 1, 0x61),
  (0x2C00, 0x2C2F, 1, 0x2C30), (0x2C67, 0x2C6B, 2, 0x2C68), (0x2C80, 0x2CE2, 2, 0x2C81),
  (0x3137, 0x3139, 1, 0x1103), (0x313A, 0x313F, 1, 0x11B0), (0x3141, 0x3143, 1, 0x1106),
  (0x3145, 0x314E, 1, 0x1109), (0x314F, 0x3163, 1, 0x1161), (0x3178, 0x317C, 1, 0x112B),
  (0x3184, 0x3186, 1, 0x1157), (0x3263, 0x3265, 1, 0x1105), (0x3269, 0x326D, 1, 0x110E),
  (0x32E4, 0x32E9, 1, 0x30CA), (0x32EE, 0x32F2, 1, 0x30DE), (0x32F5, 0x32FA, 1, 0x30E8),
  (0x32FB, 0x32FE, 1, 0x30EF), (0xA640, 0xA66C, 2, 0xA641), (0xA680, 0xA69A, 2, 0xA681),
  (0xA722, 0xA72E, 2, 0xA723), (0xA732, 0xA76E, 2, 0xA733), (0xA77E, 0xA786, 2, 0xA77F),
  (0xA796, 0xA7A8, 2, 0xA797), (0xA7B4, 0xA7C2, 2, 0xA7B5), (0xA7CC, 0xA7DA, 2, 0xA7CD),
  (0xAB70, 0xABBF, 1, 0x13A0), (0xFB24, 0xFB26, 1, 0x5DB), (0xFE41, 0xFE44, 1, 0x300C),
  (0xFF02, 0xFF18, 2, 0x22), (0xFF07, 0xFF0D, 2, 0x27), (0xFF11, 0xFF1D, 2, 0x31),
  (0xFF21, 0xFF3A, 1, 0x61), (0xFF3F, 0xFF5B, 1, 0x5F), (0xFF85, 0xFF8A, 1, 0x30CA),
  (0xFF8F, 0xFF93, 1, 0x30DE), (0xFF96, 0xFF9B, 1, 0x30E8), (0xFFA7, 0xFFA9, 1, 0x1103),
  (0xFFAA, 0xFFAF, 1, 0x11B0), (0xFFB1, 0xFFB3, 1, 0x1106), (0xFFB5, 0xFFBE, 1, 0x1109),
  (0xFFC2, 0xFFC7, 1, 0x1161), (0xFFCA, 0xFFCF, 1, 0x1167), (0xFFD2, 0xFFD7, 1, 0x116D),
  (0xFFDA, 0xFFDC, 1, 0x1173), (0xFFE9, 0xFFEC, 1, 0x2190), (0x10400, 0x10427, 1, 0x10428),
  (0x104B0, 0x104D3, 1, 0x104D8), (0x10570, 0x10594, 2, 0x10597), (0x10571, 0x10579, 2, 0x10598),
  (0x1057D, 0x10589, 2, 0x105A4), (0x1058D, 0x10591, 2, 0x105B4), (0x107B6, 0x107B8, 1, 0x1C0),
  (0x10C80, 0x10CB2, 1, 0x10CC0), (0x10D50, 0x10D65, 1, 0x10D70), (0x118A0, 0x118BF, 1, 0x118C0),
  (0x16E40, 0x16E5F, 1, 0x16E60), (0x16EA0, 0x16EB8, 1, 0x16EBB), (0x1CCD6, 0x1CCEF, 1, 0x61),
  (0x1CCF0, 0x1CCF9, 1, 0x30), (0x1D400, 0x1D419, 1, 0x61), (0x1D41A, 0x1D433, 1, 0x61),
  (0x1D434, 0x1D44D, 1, 0x61), (0x1D44E, 0x1D466, 2, 0x61), (0x1D44F, 0x1D453, 2, 0x62),
  (0x1D457, 0x1D467, 2, 0x6A), (0x1D468, 0x1D481, 1, 0x61), (0x1D482, 0x1D49B, 1, 0x61),
  (0x1D4A9, 0x1D4AC, 1, 0x6E), (0x1D4AE, 0x1D4B5, 1, 0x73), (0x1D4B6, 0x1D4B9, 1, 0x61),
  (0x1D4BB, 0x1D4CF, 2, 0x66), (0x1D4BE, 0x1D4C2, 2, 0x69), (0x1D4C6, 0x1D4CE, 2, 0x71),
  (0x1D4D0, 0x1D4E9, 1, 0x61), (0x1D4EA, 0x1D503, 1, 0x61), (0x1D505, 0x1D509, 2, 0x62),
  (0x1D50D, 0x1D514, 1, 0x6A), (0x1D516, 0x1D51C, 1, 0x73), (0x1D51E, 0x1D537, 1, 0x61),
  (0x1D539, 0x1D53D, 2, 0x62), (0x1D53C, 0x1D546, 2, 0x65), (0x1D54A, 0x1D550, 1, 0x73),
  (0x1D552, 0x1D56B, 1, 0x61), (0x1D56C, 0x1D585, 1, 0x61), (0x1D586, 0x1D59F, 1, 0x61),
  (0x1D5A0, 0x1D5B9, 1, 0x61), (0x1D5BA, 0x1D5D3, 1, 0x61), (0x1D5D4, 0x1D5ED, 1, 0x61),
  (0x1D5EE, 0x1D607, 1, 0x61), (0x1D608, 0x1D621, 1, 0x61), (0x1D622, 0x1D63B, 1, 0x61),
  (0x1D63C, 0x1D655, 1, 0x61), (0x1D656, 0x1D66F, 1, 0x61), (0x1D670, 0x1D689, 1, 0x61),
  (0x1D68A, 0x1D6A3, 1, 0x61), (0x1D6A8, 0x1D6B8, 1, 0x3B1), (0x1D6BA, 0x1D6C0, 1, 0x3C3),
  (0x1D6C2, 0x1D6D2, 1, 0x3B1), (0x1D6D4, 0x1D6DA, 1, 0x3C3), (0x1D6E2, 0x1D6F2, 1, 0x3B1),
  (0x1D6F4, 0x1D6FA, 1, 0x3C3), (0x1D6FC, 0x1D70C, 1, 0x3B1), (0x1D70E, 0x1D714, 1, 0x3C3),
  (0x1D71C, 0x1D72C, 1, 0x3B1), (0x1D72E, 0x1D734, 1, 0x3C3), (0x1D736, 0x1D746, 1, 0x3B1),
  (0x1D748, 0x1D74E, 1, 0x3C3), (0x1D756, 0x1D766, 1, 0x3B1), (0x1D768, 0x1D76E, 1, 0x3C3),
  (0x1D770, 0x1D780, 1, 0x3B1), (0x1D782, 0x1D788, 1, 0x3C3), (0x1D790, 0x1D7A0, 1, 0x3B1),
  (0x1D7A2, 0x1D7A8, 1, 0x3C3), (0x1D7AA, 0x1D7BA, 1, 0x3B1), (0x1D7BC, 0x1D7C2, 1, 0x3C3),
  (0x1D7CE, 0x1D7D7, 1, 0x30), (0x1D7D8, 0x1D7E1, 1, 0x30), (0x1D7E2, 0x1D7EB, 1, 0x30),
  (0x1D7EC, 0x1D7F5, 1, 0x30), (0x1D7F6, 0x1D7FF, 1, 0x30), (0x1E030, 0x1E038, 1, 0x430),
  (0x1E039, 0x1E03B, 1, 0x43A), (0x1E03C, 0x1E046, 1, 0x43E), (0x1E051, 0x1E059, 1, 0x430),
  (0x1E05F, 0x1E064, 1, 0x443), (0x1E900, 0x1E921, 1, 0x1E922), (0x1EE0A, 0x1EE0D, 1, 0x643),
  (0x1EE2A, 0x1EE2D, 1, 0x643), (0x1EE8B, 0x1EE8D, 1, 0x644), (0x1EEAB, 0x1EEAD, 1, 0x644),
  (0x1F130, 0x1F149, 1, 0x61), (0x1FBF0, 0x1FBF9, 1, 0x30)
]

/-- Runs of characters with the texts they stand for, between spaces. -/
def spellings : Array (Nat × Nat × String) := #[
  (0xAA, 0xAA, "a"), (0xB2, 0xB3, "2 3"), (0xB5, 0xB5, "μ"), (0xB9, 0xBA, "1 o"),
  (0xBC, 0xBE, "1⁄4 1⁄2 3⁄4"), (0x130, 0x130, "i\u0307"), (0x132, 0x134, "ij ij ĵ"),
  (0x136, 0x136, "ķ"), (0x13F, 0x140, "l· l·"), (0x149, 0x149, "ʼn"), (0x178, 0x178, "ÿ"),
  (0x17F, 0x17F, "s"), (0x181, 0x182, "ɓ ƃ"), (0x184, 0x184, "ƅ"), (0x186, 0x187, "ɔ ƈ"),
  (0x189, 0x18B, "ɖ ɗ ƌ"), (0x18E, 0x191, "ǝ ə ɛ ƒ"), (0x193, 0x194, "ɠ ɣ"),
  (0x196, 0x198, "ɩ ɨ ƙ"), (0x19C, 0x19D, "ɯ ɲ"), (0x19F, 0x19F, "ɵ"), (0x1A6, 0x1A7, "ʀ ƨ"),
  (0x1A9, 0x1A9, "ʃ"), (0x1AC, 0x1AC, "ƭ"), (0x1AE, 0x1AF, "ʈ ư"), (0x1B1, 0x1B3, "ʊ ʋ ƴ"),
  (0x1B5, 0x1B5, "ƶ"), (0x1B7, 0x1B8, "ʒ ƹ"), (0x1BC, 0x1BC, "ƽ"),
  (0x1C4, 0x1CC, "dž dž dž lj lj lj nj nj nj"), (0x1F1, 0x1F4, "dz dz dz ǵ"), (0x1F6, 0x1F7, "ƕ ƿ"),
  (0x220, 0x220, "ƞ"), (0x23A, 0x23B, "ⱥ ȼ"), (0x23D, 0x23E, "ƚ ⱦ"), (0x241, 0x241, "ɂ"),
  (0x243, 0x245, "ƀ ʉ ʌ"), (0x2B0, 0x2B8, "h ɦ j r ɹ ɻ ʁ w y"), (0x2E0, 0x2E4, "ɣ l s x ʕ"),
  (0x340, 0x341, "\u0300 \u0301"), (0x343, 0x345, "\u0313 \u0308\u0301 ι"), (0x370, 0x370, "ͱ"),
  (0x372, 0x372, "ͳ"), (0x374, 0x374, "ʹ"), (0x376, 0x376, "ͷ"), (0x37E, 0x37F, "; ϳ"),
  (0x386, 0x387, "ά ·"), (0x38C, 0x38C, "ό"), (0x38E, 0x38F, "ύ ώ"),
  (0x3CF, 0x3D6, "ϗ β θ υ ύ ϋ φ π"), (0x3F0, 0x3F2, "κ ρ σ"), (0x3F4, 0x3F5, "θ ε"),
  (0x3F7, 0x3F7, "ϸ"), (0x3F9, 0x3FA, "σ ϻ"), (0x4C0, 0x4C0, "ӏ"), (0x587, 0x587, "եւ"),
  (0x675, 0x678, "\u0627\u0674 \u0648\u0674 \u06C7\u0674 \u064A\u0674"),
  (0x958, 0x95E, "क\u093C ख\u093C ग\u093C ज\u093C ड\u093C ढ\u093C फ\u093C"),
  (0x95F, 0x95F, "य\u093C"), (0x9DC, 0x9DD, "ড\u09BC ঢ\u09BC"), (0x9DF, 0x9DF, "য\u09BC"),
  (0xA33, 0xA33, "ਲ\u0A3C"), (0xA36, 0xA36, "ਸ\u0A3C"), (0xA59, 0xA5B, "ਖ\u0A3C ਗ\u0A3C ਜ\u0A3C"),
  (0xA5E, 0xA5E, "ਫ\u0A3C"), (0xB5C, 0xB5D, "ଡ\u0B3C ଢ\u0B3C"), (0xE33, 0xE33, "\u0E4Dา"),
  (0xEB3, 0xEB3, "\u0ECDາ"), (0xEDC, 0xEDD, "ຫນ ຫມ"), (0xF0C, 0xF0C, "་"),
  (0xF43, 0xF43, "ག\u0FB7"), (0xF4D, 0xF4D, "ཌ\u0FB7"), (0xF52, 0xF52, "ད\u0FB7"),
  (0xF57, 0xF57, "བ\u0FB7"), (0xF5C, 0xF5C, "ཛ\u0FB7"), (0xF69, 0xF69, "ཀ\u0FB5"),
  (0xF73, 0xF73, "\u0F71\u0F72"),
  (0xF75, 0xF78, "\u0F71\u0F74 \u0FB2\u0F80 \u0FB2\u0F71\u0F80 \u0FB3\u0F80"),
  (0xF79, 0xF79, "\u0FB3\u0F71\u0F80"), (0xF81, 0xF81, "\u0F71\u0F80"),
  (0xF93, 0xF93, "\u0F92\u0FB7"), (0xF9D, 0xF9D, "\u0F9C\u0FB7"), (0xFA2, 0xFA2, "\u0FA1\u0FB7"),
  (0xFA7, 0xFA7, "\u0FA6\u0FB7"), (0xFAC, 0xFAC, "\u0FAB\u0FB7"), (0xFB9, 0xFB9, "\u0F90\u0FB5"),
  (0x10C7, 0x10C7, "ⴧ"), (0x10CD, 0x10CD, "ⴭ"), (0x10FC, 0x10FC, "ნ"),
  (0x1C80, 0x1C89, "в д о с т т ъ ѣ ꙋ ᲊ"), (0x1D2C, 0x1D2E, "a æ b"), (0x1D30, 0x1D30, "d"),
  (0x1D32, 0x1D32, "ǝ"), (0x1D3C, 0x1D4D, "o ȣ p r t u w a ɐ ɑ ᴂ b d e ə ɛ ɜ g"),
  (0x1D4F, 0x1D5C, "k m ŋ o ɔ ᴖ ᴗ p t u ᴝ ɯ v ᴥ"), (0x1D60, 0x1D6A, "φ χ i r u v β γ ρ φ χ"),
  (0x1D78, 0x1D78, "н"), (0x1D9B, 0x1DA3, "ɒ c ɕ ð ɜ f ɟ ɡ ɥ"), (0x1DA7, 0x1DAD, "ᵻ ʝ ɭ ᶅ ʟ ɱ ɰ"),
  (0x1DB2, 0x1DBB, "ɸ ʂ ʃ ƫ ʉ ʊ ᴜ ʋ ʌ z"), (0x1DBF, 0x1DBF, "θ"), (0x1E9A, 0x1E9B, "aʾ ṡ"),
  (0x1E9E, 0x1E9E, "ß"), (0x1F71, 0x1F71, "ά"), (0x1F73, 0x1F73, "έ"), (0x1F75, 0x1F75, "ή"),
  (0x1F77, 0x1F77, "ί"), (0x1F79, 0x1F79, "ό"), (0x1F7B, 0x1F7B, "ύ"), (0x1F7D, 0x1F7D, "ώ"),
  (0x1F80, 0x1F93, "ἀι ἁι ἂι ἃι ἄι ἅι ἆι ἇι ἀι ἁι ἂι ἃι ἄι ἅι ἆι ἇι ἠι ἡι ἢι ἣι"),
  (0x1F94, 0x1FA7, "ἤι ἥι ἦι ἧι ἠι ἡι ἢι ἣι ἤι ἥι ἦι ἧι ὠι ὡι ὢι ὣι ὤι ὥι ὦι ὧι"),
  (0x1FA8, 0x1FAF, "ὠι ὡι ὢι ὣι ὤι ὥι ὦι ὧι"), (0x1FB2, 0x1FB4, "ὰι αι άι"),
  (0x1FB7, 0x1FBC, "ᾶι ᾰ ᾱ ὰ ά αι"), (0x1FBE, 0x1FBE, "ι"), (0x1FC2, 0x1FC4, "ὴι ηι ήι"),
  (0x1FC7, 0x1FCC, "ῆι ὲ έ ὴ ή ηι"), (0x1FD3, 0x1FD3, "ΐ"), (0x1FD8, 0x1FDB, "ῐ ῑ ὶ ί"),
  (0x1FE3, 0x1FE3, "ΰ"), (0x1FE8, 0x1FEC, "ῠ ῡ ὺ ύ ῥ"), (0x1FEF, 0x1FEF, "`"),
  (0x1FF2, 0x1FF4, "ὼι ωι ώι"), (0x1FF7, 0x1FFC, "ῶι ὸ ό ὼ ώ ωι"), (0x2011, 0x2011, "‐"),
  (0x2033, 0x2034, "′′ ′′′"), (0x2036, 0x2037, "‵‵ ‵‵‵"), (0x203C, 0x203C, "!!"),
  (0x2057, 0x2057, "′′′′"), (0x2070, 0x2071, "0 i"), (0x207A, 0x207F, "+ − = ( ) n"),
  (0x208A, 0x208E, "+ − = ( )"), (0x2090, 0x2095, "a e o x ə h"), (0x209A, 0x209C, "p s t"),
  (0x20A8, 0x20A8, "rs"), (0x2102, 0x2103, "c °c"), (0x2107, 0x2107, "ɛ"),
  (0x2109, 0x2113, "°f g h h h h ħ i i l l"), (0x2115, 0x2116, "n no"), (0x211C, 0x211D, "r r"),
  (0x2120, 0x2122, "sm tel tm"), (0x2124, 0x2124, "z"), (0x2126, 0x2126, "ω"),
  (0x2128, 0x2128, "z"), (0x212A, 0x212D, "k å b c"), (0x212F, 0x2134, "e e f ⅎ m o"),
  (0x2139, 0x2139, "i"), (0x213B, 0x2140, "fax π γ γ π ∑"), (0x2145, 0x2149, "d d e i j"),
  (0x2150, 0x215E, "1⁄7 1⁄9 1⁄10 1⁄3 2⁄3 1⁄5 2⁄5 3⁄5 4⁄5 1⁄6 5⁄6 1⁄8 3⁄8 5⁄8 7⁄8"),
  (0x215F, 0x2173, "1⁄ i ii iii iv v vi vii viii ix x xi xii l c d m i ii iii iv"),
  (0x2174, 0x217F, "v vi vii viii ix x xi xii l c d m"), (0x2183, 0x2183, "ↄ"),
  (0x2189, 0x2189, "0⁄3"), (0x222C, 0x222D, "∫∫ ∫∫∫"), (0x222F, 0x2230, "∮∮ ∮∮∮"),
  (0x2329, 0x232A, "〈 〉"),
  (0x2469, 0x247A, "10 11 12 13 14 15 16 17 18 19 20 (1) (2) (3) (4) (5) (6) (7)"),
  (0x247B, 0x2486, "(8) (9) (10) (11) (12) (13) (14) (15) (16) (17) (18) (19)"),
  (0x2487, 0x2487, "(20)"),
  (0x249C, 0x24AA, "(a) (b) (c) (d) (e) (f) (g) (h) (i) (j) (k) (l) (m) (n) (o)"),
  (0x24AB, 0x24B5, "(p) (q) (r) (s) (t) (u) (v) (w) (x) (y) (z)"), (0x24EA, 0x24EA, "0"),
  (0x2A0C, 0x2A0C, "∫∫∫∫"), (0x2A75, 0x2A76, "== ==="), (0x2ADC, 0x2ADC, "⫝\u0338"),
  (0x2C60, 0x2C60, "ⱡ"), (0x2C62, 0x2C64, "ɫ ᵽ ɽ"), (0x2C6D, 0x2C70, "ɑ ɱ ɐ ɒ"),
  (0x2C72, 0x2C72, "ⱳ"), (0x2C75, 0x2C75, "ⱶ"), (0x2C7C, 0x2C7F, "j v ȿ ɀ"), (0x2CEB, 0x2CEB, "ⳬ"),
  (0x2CED, 0x2CED, "ⳮ"), (0x2CF2, 0x2CF2, "ⳳ"), (0x2D6F, 0x2D6F, "ⵡ"), (0x2E9F, 0x2E9F, "母"),
  (0x2EF3, 0x2EF3, "龟"),
  (0x2F00, 0x2F1D, "一 丨 丶 丿 乙 亅 二 亠 人 儿 入 八 冂 冖 冫 几 凵 刀 力 勹 匕 匚 匸 十 卜 卩 厂 厶 又 口"),
  (0x2F1E, 0x2F3B, "囗 土 士 夂 夊 夕 大 女 子 宀 寸 小 尢 尸 屮 山 巛 工 己 巾 干 幺 广 廴 廾 弋 弓 彐 彡 彳"),
  (0x2F3C, 0x2F59, "心 戈 戶 手 支 攴 文 斗 斤 方 无 日 曰 月 木 欠 止 歹 殳 毋 比 毛 氏 气 水 火 爪 父 爻 爿"),
  (0x2F5A, 0x2F77, "片 牙 牛 犬 玄 玉 瓜 瓦 甘 生 用 田 疋 疒 癶 白 皮 皿 目 矛 矢 石 示 禸 禾 穴 立 竹 米 糸"),
  (0x2F78, 0x2F95, "缶 网 羊 羽 老 而 耒 耳 聿 肉 臣 自 至 臼 舌 舛 舟 艮 色 艸 虍 虫 血 行 衣 襾 見 角 言 谷"),
  (0x2F96, 0x2FB3, "豆 豕 豸 貝 赤 走 足 身 車 辛 辰 辵 邑 酉 釆 里 金 長 門 阜 隶 隹 雨 靑 非 面 革 韋 韭 音"),
  (0x2FB4, 0x2FD1, "頁 風 飛 食 首 香 馬 骨 高 髟 鬥 鬯 鬲 鬼 魚 鳥 鹵 鹿 麥 麻 黃 黍 黑 黹 黽 鼎 鼓 鼠 鼻 齊"),
  (0x2FD2, 0x2FD5, "齒 龍 龜 龠"), (0x3002, 0x3002, "."), (0x3036, 0x3036, "〒"),
  (0x3038, 0x303A, "十 卄 卅"), (0x309F, 0x309F, "より"), (0x30FF, 0x30FF, "コト"),
  (0x3131, 0x3136, "ᄀ ᄁ ᆪ ᄂ ᆬ ᆭ"), (0x3140, 0x3140, "ᄚ"), (0x3144, 0x3144, "ᄡ"),
  (0x3165, 0x3177, "ᄔ ᄕ ᇇ ᇈ ᇌ ᇎ ᇓ ᇗ ᇙ ᄜ ᇝ ᇟ ᄝ ᄞ ᄠ ᄢ ᄣ ᄧ ᄩ"), (0x317D, 0x3183, "ᄲ ᄶ ᅀ ᅇ ᅌ ᇱ ᇲ"),
  (0x3187, 0x318E, "ᆄ ᆅ ᆈ ᆑ ᆒ ᆔ ᆞ ᆡ"), (0x3192, 0x319F, "一 二 三 四 上 中 下 甲 乙 丙 丁 天 地 人"),
  (0x3200, 0x320E, "(ᄀ) (ᄂ) (ᄃ) (ᄅ) (ᄆ) (ᄇ) (ᄉ) (ᄋ) (ᄌ) (ᄎ) (ᄏ) (ᄐ) (ᄑ) (ᄒ) (가)"),
  (0x320F, 0x321D, "(나) (다) (라) (마) (바) (사) (아) (자) (차) (카) (타) (파) (하) (주) (오전)"),
  (0x321E, 0x321E, "(오후)"),
  (0x3220, 0x322E, "(一) (二) (三) (四) (五) (六) (七) (八) (九) (十) (月) (火) (水) (木) (金)"),
  (0x322F, 0x323D, "(土) (日) (株) (有) (社) (名) (特) (財) (祝) (労) (代) (呼) (学) (監) (企)"),
  (0x323E, 0x3247, "(資) (協) (祭) (休) (自) (至) 問 幼 文 箏"),
  (0x3250, 0x3262, "pte 21 22 23 24 25 26 27 28 29 30 31 32 33 34 35 ᄀ ᄂ ᄃ"),
  (0x3266, 0x3268, "ᄉ ᄋ ᄌ"), (0x326E, 0x327E, "가 나 다 라 마 바 사 아 자 차 카 타 파 하 참고 주의 우"),
  (0x3280, 0x329D, "一 二 三 四 五 六 七 八 九 十 月 火 水 木 金 土 日 株 有 社 名 特 財 祝 労 秘 男 女 適 優"),
  (0x329E, 0x32B7, "印 注 項 休 写 正 上 中 下 左 右 医 宗 学 監 企 資 協 夜 36 37 38 39 40 41 42"),
  (0x32B8, 0x32CA, "43 44 45 46 47 48 49 50 1月 2月 3月 4月 5月 6月 7月 8月 9月 10月 11月"),
  (0x32CB, 0x32E3, "12月 hg erg ev ltd ア イ ウ エ オ カ キ ク ケ コ サ シ ス セ ソ タ チ ツ テ ト"),
  (0x32EA, 0x32ED, "ヒ フ ヘ ホ"), (0x32F3, 0x32F4, "ヤ ユ"),
  (0x32FF, 0x330B, "令和 アパート アルファ アンペア アール イニング インチ ウォン エスクード エーカー オンス オーム カイリ"),
  (0x330C, 0x3318, "カラット カロリー ガロン ガンマ ギガ ギニー キュリー ギルダー キロ キログラム キロメートル キロワット グラム"),
  (0x3319, 0x3325, "グラムトン クルゼイロ クローネ ケース コルナ コーポ サイクル サンチーム シリング センチ セント ダース デシ"),
  (0x3326, 0x3333, "ドル トン ナノ ノット ハイツ パーセント パーツ バーレル ピアストル ピクル ピコ ビル ファラッド フィート"),
  (0x3334, 0x3341, "ブッシェル フラン ヘクタール ペソ ペニヒ ヘルツ ペンス ページ ベータ ポイント ボルト ホン ポンド ホール"),
  (0x3342, 0x334E, "ホーン マイクロ マイル マッハ マルク マンション ミクロン ミリ ミリバール メガ メガトン メートル ヤード"),
  (0x334F, 0x335E, "ヤール ユアン リットル リラ ルピー ルーブル レム レントゲン ワット 0点 1点 2点 3点 4点 5点 6点"),
  (0x335F, 0x336E, "7点 8点 9点 10点 11点 12点 13点 14点 15点 16点 17点 18点 19点 20点 21点 22点"),
  (0x336F, 0x337F, "23点 24点 hpa da au bar ov pc dm dm2 dm3 iu 平成 昭和 大正 明治 株式会社"),
  (0x3380, 0x3391, "pa na μa ma ka kb mb gb cal kcal pf nf μf μg mg kg hz khz"),
  (0x3392, 0x33A3, "mhz ghz thz μl ml dl kl fm nm μm mm cm km mm2 cm2 m2 km2 mm3"),
  (0x33A4, 0x33B2, "cm3 m3 km3 m∕s m∕s2 pa kpa mpa gpa rad rad∕s rad∕s2 ps ns μs"),
  (0x33B3, 0x33C1, "ms pv nv μv mv kv mv pw nw μw mw kw mw kω mω"),
  (0x33C3, 0x33C6, "bq cc cd c∕kg"),
  (0x33C8, 0x33D7, "db gy ha hp in kk km kt lm ln log lx mb mil mol ph"),
  (0x33D9, 0x33EA, "ppm pr sr sv wb v∕m a∕m 1日 2日 3日 4日 5日 6日 7日 8日 9日 10日 11日"),
  (0x33EB, 0x33F9, "12日 13日 14日 15日 16日 17日 18日 19日 20日 21日 22日 23日 24日 25日 26日"),
  (0x33FA, 0x33FF, "27日 28日 29日 30日 31日 gal"), (0xA69C, 0xA69D, "ъ ь"), (0xA770, 0xA770, "ꝯ"),
  (0xA779, 0xA779, "ꝺ"), (0xA77B, 0xA77B, "ꝼ"), (0xA77D, 0xA77D, "ᵹ"), (0xA78B, 0xA78B, "ꞌ"),
  (0xA78D, 0xA78D, "ɥ"), (0xA790, 0xA790, "ꞑ"), (0xA792, 0xA792, "ꞓ"),
  (0xA7AA, 0xA7AE, "ɦ ɜ ɡ ɬ ɪ"), (0xA7B0, 0xA7B3, "ʞ ʇ ʝ ꭓ"), (0xA7C4, 0xA7C7, "ꞔ ʂ ᶎ ꟈ"),
  (0xA7C9, 0xA7C9, "ꟊ"), (0xA7CB, 0xA7CB, "ɤ"), (0xA7DC, 0xA7DC, "ƛ"),
  (0xA7F1, 0xA7F5, "s c f q ꟶ"), (0xA7F8, 0xA7F9, "ħ œ"), (0xAB5C, 0xAB5F, "ꜧ ꬷ ɫ ꭒ"),
  (0xAB69, 0xAB69, "ʍ"),
  (0xF900, 0xF91D, "豈 更 車 賈 滑 串 句 龜 龜 契 金 喇 奈 懶 癩 羅 蘿 螺 裸 邏 樂 洛 烙 珞 落 酪 駱 亂 卵 欄"),
  (0xF91E, 0xF93B, "爛 蘭 鸞 嵐 濫 藍 襤 拉 臘 蠟 廊 朗 浪 狼 郎 來 冷 勞 擄 櫓 爐 盧 老 蘆 虜 路 露 魯 鷺 碌"),
  (0xF93C, 0xF959, "祿 綠 菉 錄 鹿 論 壟 弄 籠 聾 牢 磊 賂 雷 壘 屢 樓 淚 漏 累 縷 陋 勒 肋 凜 凌 稜 綾 菱 陵"),
  (0xF95A, 0xF977, "讀 拏 樂 諾 丹 寧 怒 率 異 北 磻 便 復 不 泌 數 索 參 塞 省 葉 說 殺 辰 沈 拾 若 掠 略 亮"),
  (0xF978, 0xF995, "兩 凉 梁 糧 良 諒 量 勵 呂 女 廬 旅 濾 礪 閭 驪 麗 黎 力 曆 歷 轢 年 憐 戀 撚 漣 煉 璉 秊"),
  (0xF996, 0xF9B3, "練 聯 輦 蓮 連 鍊 列 劣 咽 烈 裂 說 廉 念 捻 殮 簾 獵 令 囹 寧 嶺 怜 玲 瑩 羚 聆 鈴 零 靈"),
  (0xF9B4, 0xF9D1, "領 例 禮 醴 隸 惡 了 僚 寮 尿 料 樂 燎 療 蓼 遼 龍 暈 阮 劉 杻 柳 流 溜 琉 留 硫 紐 類 六"),
  (0xF9D2, 0xF9EF, "戮 陸 倫 崙 淪 輪 律 慄 栗 率 隆 利 吏 履 易 李 梨 泥 理 痢 罹 裏 裡 里 離 匿 溺 吝 燐 璘"),
  (0xF9F0, 0xFA0D, "藺 隣 鱗 麟 林 淋 臨 立 笠 粒 狀 炙 識 什 茶 刺 切 度 拓 糖 宅 洞 暴 輻 行 降 見 廓 兀 嗀"),
  (0xFA10, 0xFA10, "塚"), (0xFA12, 0xFA12, "晴"), (0xFA15, 0xFA1E, "凞 猪 益 礼 神 祥 福 靖 精 羽"),
  (0xFA20, 0xFA20, "蘒"), (0xFA22, 0xFA22, "諸"), (0xFA25, 0xFA26, "逸 都"),
  (0xFA2A, 0xFA47, "飯 飼 館 鶴 郞 隷 侮 僧 免 勉 勤 卑 喝 嘆 器 塀 墨 層 屮 悔 慨 憎 懲 敏 既 暑 梅 海 渚 漢"),
  (0xFA48, 0xFA65, "煮 爫 琢 碑 社 祉 祈 祐 祖 祝 禍 禎 穀 突 節 練 縉 繁 署 者 臭 艹 艹 著 褐 視 謁 謹 賓 贈"),
  (0xFA66, 0xFA6D, "辶 逸 難 響 頻 恵 𤋮 舘"),
  (0xFA70, 0xFA8D, "並 况 全 侀 充 冀 勇 勺 喝 啕 喙 嗢 塚 墳 奄 奔 婢 嬨 廒 廙 彩 徭 惘 慎 愈 憎 慠 懲 戴 揄"),
  (0xFA8E, 0xFAAB, "搜 摒 敖 晴 朗 望 杖 歹 殺 流 滛 滋 漢 瀞 煮 瞧 爵 犯 猪 瑱 甆 画 瘝 瘟 益 盛 直 睊 着 磌"),
  (0xFAAC, 0xFAC9, "窱 節 类 絛 練 缾 者 荒 華 蝹 襁 覆 視 調 諸 請 謁 諾 諭 謹 變 贈 輸 遲 醙 鉶 陼 難 靖 韛"),
  (0xFACA, 0xFAD9, "響 頋 頻 鬒 龜 𢡊 𢡄 𣏕 㮝 䀘 䀹 𥉉 𥳐 𧻓 齃 龎"),
  (0xFB00, 0xFB06, "ff fi fl ffi ffl st st"), (0xFB13, 0xFB17, "մն մե մի վն մխ"),
  (0xFB1D, 0xFB1D, "\u05D9\u05B4"), (0xFB1F, 0xFB23, "\u05F2\u05B7 \u05E2 \u05D0 \u05D3 \u05D4"),
  (0xFB27, 0xFB2C, "\u05E8 \u05EA + \u05E9\u05C1 \u05E9\u05C2 \u05E9\u05BC\u05C1"),
  (0xFB2D, 0xFB30, "\u05E9\u05BC\u05C2 \u05D0\u05B7 \u05D0\u05B8 \u05D0\u05BC"),
  (0xFB31, 0xFB34, "\u05D1\u05BC \u05D2\u05BC \u05D3\u05BC \u05D4\u05BC"),
  (0xFB35, 0xFB36, "\u05D5\u05BC \u05D6\u05BC"),
  (0xFB38, 0xFB3B, "\u05D8\u05BC \u05D9\u05BC \u05DA\u05BC \u05DB\u05BC"),
  (0xFB3C, 0xFB3C, "\u05DC\u05BC"), (0xFB3E, 0xFB3E, "\u05DE\u05BC"),
  (0xFB40, 0xFB41, "\u05E0\u05BC \u05E1\u05BC"), (0xFB43, 0xFB44, "\u05E3\u05BC \u05E4\u05BC"),
  (0xFB46, 0xFB49, "\u05E6\u05BC \u05E7\u05BC \u05E8\u05BC \u05E9\u05BC"),
  (0xFB4A, 0xFB4D, "\u05EA\u05BC \u05D5\u05B9 \u05D1\u05BF \u05DB\u05BF"),
  (0xFB4E, 0xFB54, "\u05E4\u05BF \u05D0\u05DC \u0671 \u0671 \u067B \u067B \u067B"),
  (0xFB55, 0xFB5C, "\u067B \u067E \u067E \u067E \u067E \u0680 \u0680 \u0680"),
  (0xFB5D, 0xFB64, "\u0680 \u067A \u067A \u067A \u067A \u067F \u067F \u067F"),
  (0xFB65, 0xFB6C, "\u067F \u0679 \u0679 \u0679 \u0679 \u06A4 \u06A4 \u06A4"),
  (0xFB6D, 0xFB74, "\u06A4 \u06A6 \u06A6 \u06A6 \u06A6 \u0684 \u0684 \u0684"),
  (0xFB75, 0xFB7C, "\u0684 \u0683 \u0683 \u0683 \u0683 \u0686 \u0686 \u0686"),
  (0xFB7D, 0xFB84, "\u0686 \u0687 \u0687 \u0687 \u0687 \u068D \u068D \u068C"),
  (0xFB85, 0xFB8C, "\u068C \u068E \u068E \u0688 \u0688 \u0698 \u0698 \u0691"),
  (0xFB8D, 0xFB94, "\u0691 \u06A9 \u06A9 \u06A9 \u06A9 \u06AF \u06AF \u06AF"),
  (0xFB95, 0xFB9C, "\u06AF \u06B3 \u06B3 \u06B3 \u06B3 \u06B1 \u06B1 \u06B1"),
  (0xFB9D, 0xFBA4, "\u06B1 \u06BA \u06BA \u06BB \u06BB \u06BB \u06BB \u06C0"),
  (0xFBA5, 0xFBAC, "\u06C0 \u06C1 \u06C1 \u06C1 \u06C1 \u06BE \u06BE \u06BE"),
  (0xFBAD, 0xFBB1, "\u06BE \u06D2 \u06D2 \u06D3 \u06D3"),
  (0xFBD3, 0xFBDA, "\u06AD \u06AD \u06AD \u06AD \u06C7 \u06C7 \u06C6 \u06C6"),
  (0xFBDB, 0xFBE1, "\u06C8 \u06C8 \u06C7\u0674 \u06CB \u06CB \u06C5 \u06C5"),
  (0xFBE2, 0xFBE9, "\u06C9 \u06C9 \u06D0 \u06D0 \u06D0 \u06D0 \u0649 \u0649"),
  (0xFBEA, 0xFBED, "\u0626\u0627 \u0626\u0627 \u0626\u06D5 \u0626\u06D5"),
  (0xFBEE, 0xFBF1, "\u0626\u0648 \u0626\u0648 \u0626\u06C7 \u0626\u06C7"),
  (0xFBF2, 0xFBF5, "\u0626\u06C6 \u0626\u06C6 \u0626\u06C8 \u0626\u06C8"),
  (0xFBF6, 0xFBF9, "\u0626\u06D0 \u0626\u06D0 \u0626\u06D0 \u0626\u0649"),
  (0xFBFA, 0xFBFF, "\u0626\u0649 \u0626\u0649 \u06CC \u06CC \u06CC \u06CC"),
  (0xFC00, 0xFC03, "\u0626\u062C \u0626\u062D \u0626\u0645 \u0626\u0649"),
  (0xFC04, 0xFC07, "\u0626\u064A \u0628\u062C \u0628\u062D \u0628\u062E"),
  (0xFC08, 0xFC0B, "\u0628\u0645 \u0628\u0649 \u0628\u064A \u062A\u062C"),
  (0xFC0C, 0xFC0F, "\u062A\u062D \u062A\u062E \u062A\u0645 \u062A\u0649"),
  (0xFC10, 0xFC13, "\u062A\u064A \u062B\u062C \u062B\u0645 \u062B\u0649"),
  (0xFC14, 0xFC17, "\u062B\u064A \u062C\u062D \u062C\u0645 \u062D\u062C"),
  (0xFC18, 0xFC1B, "\u062D\u0645 \u062E\u062C \u062E\u062D \u062E\u0645"),
  (0xFC1C, 0xFC1F, "\u0633\u062C \u0633\u062D \u0633\u062E \u0633\u0645"),
  (0xFC20, 0xFC23, "\u0635\u062D \u0635\u0645 \u0636\u062C \u0636\u062D"),
  (0xFC24, 0xFC27, "\u0636\u062E \u0636\u0645 \u0637\u062D \u0637\u0645"),
  (0xFC28, 0xFC2B, "\u0638\u0645 \u0639\u062C \u0639\u0645 \u063A\u062C"),
  (0xFC2C, 0xFC2F, "\u063A\u0645 \u0641\u062C \u0641\u062D \u0641\u062E"),
  (0xFC30, 0xFC33, "\u0641\u0645 \u0641\u0649 \u0641\u064A \u0642\u062D"),
  (0xFC34, 0xFC37, "\u0642\u0645 \u0642\u0649 \u0642\u064A \u0643\u0627"),
  (0xFC38, 0xFC3B, "\u0643\u062C \u0643\u062D \u0643\u062E \u0643\u0644"),
  (0xFC3C, 0xFC3F, "\u0643\u0645 \u0643\u0649 \u0643\u064A \u0644\u062C"),
  (0xFC40, 0xFC43, "\u0644\u062D \u0644\u062E \u0644\u0645 \u0644\u0649"),
  (0xFC44, 0xFC47, "\u0644\u064A \u0645\u062C \u0645\u062D \u0645\u062E"),
  (0xFC48, 0xFC4B, "\u0645\u0645 \u0645\u0649 \u0645\u064A \u0646\u062C"),
  (0xFC4C, 0xFC4F, "\u0646\u062D \u0646\u062E \u0646\u0645 \u0646\u0649"),
  (0xFC50, 0xFC53, "\u0646\u064A \u0647\u062C \u0647\u0645 \u0647\u0649"),
  (0xFC54, 0xFC57, "\u0647\u064A \u064A\u062C \u064A\u062D \u064A\u062E"),
  (0xFC58, 0xFC5B, "\u064A\u0645 \u064A\u0649 \u064A\u064A \u0630\u0670"),
  (0xFC5C, 0xFC5D, "\u0631\u0670 \u0649\u0670"),
  (0xFC64, 0xFC67, "\u0626\u0631 \u0626\u0632 \u0626\u0645 \u0626\u0646"),
  (0xFC68, 0xFC6B, "\u0626\u0649 \u0626\u064A \u0628\u0631 \u0628\u0632"),
  (0xFC6C, 0xFC6F, "\u0628\u0645 \u0628\u0646 \u0628\u0649 \u0628\u064A"),
  (0xFC70, 0xFC73, "\u062A\u0631 \u062A\u0632 \u062A\u0645 \u062A\u0646"),
  (0xFC74, 0xFC77, "\u062A\u0649 \u062A\u064A \u062B\u0631 \u062B\u0632"),
  (0xFC78, 0xFC7B, "\u062B\u0645 \u062B\u0646 \u062B\u0649 \u062B\u064A"),
  (0xFC7C, 0xFC7F, "\u0641\u0649 \u0641\u064A \u0642\u0649 \u0642\u064A"),
  (0xFC80, 0xFC83, "\u0643\u0627 \u0643\u0644 \u0643\u0645 \u0643\u0649"),
  (0xFC84, 0xFC87, "\u0643\u064A \u0644\u0645 \u0644\u0649 \u0644\u064A"),
  (0xFC88, 0xFC8B, "\u0645\u0627 \u0645\u0645 \u0646\u0631 \u0646\u0632"),
  (0xFC8C, 0xFC8F, "\u0646\u0645 \u0646\u0646 \u0646\u0649 \u0646\u064A"),
  (0xFC90, 0xFC93, "\u0649\u0670 \u064A\u0631 \u064A\u0632 \u064A\u0645"),
  (0xFC94, 0xFC97, "\u064A\u0646 \u064A\u0649 \u064A\u064A \u0626\u062C"),
  (0xFC98, 0xFC9B, "\u0626\u062D \u0626\u062E \u0626\u0645 \u0626\u0647"),
  (0xFC9C, 0xFC9F, "\u0628\u062C \u0628\u062D \u0628\u062E \u0628\u0645"),
  (0xFCA0, 0xFCA3, "\u0628\u0647 \u062A\u062C \u062A\u062D \u062A\u062E"),
  (0xFCA4, 0xFCA7, "\u062A\u0645 \u062A\u0647 \u062B\u0645 \u062C\u062D"),
  (0xFCA8, 0xFCAB, "\u062C\u0645 \u062D\u062C \u062D\u0645 \u062E\u062C"),
  (0xFCAC, 0xFCAF, "\u062E\u0645 \u0633\u062C \u0633\u062D \u0633\u062E"),
  (0xFCB0, 0xFCB3, "\u0633\u0645 \u0635\u062D \u0635\u062E \u0635\u0645"),
  (0xFCB4, 0xFCB7, "\u0636\u062C \u0636\u062D \u0636\u062E \u0636\u0645"),
  (0xFCB8, 0xFCBB, "\u0637\u062D \u0638\u0645 \u0639\u062C \u0639\u0645"),
  (0xFCBC, 0xFCBF, "\u063A\u062C \u063A\u0645 \u0641\u062C \u0641\u062D"),
  (0xFCC0, 0xFCC3, "\u0641\u062E \u0641\u0645 \u0642\u062D \u0642\u0645"),
  (0xFCC4, 0xFCC7, "\u0643\u062C \u0643\u062D \u0643\u062E \u0643\u0644"),
  (0xFCC8, 0xFCCB, "\u0643\u0645 \u0644\u062C \u0644\u062D \u0644\u062E"),
  (0xFCCC, 0xFCCF, "\u0644\u0645 \u0644\u0647 \u0645\u062C \u0645\u062D"),
  (0xFCD0, 0xFCD3, "\u0645\u062E \u0645\u0645 \u0646\u062C \u0646\u062D"),
  (0xFCD4, 0xFCD7, "\u0646\u062E \u0646\u0645 \u0646\u0647 \u0647\u062C"),
  (0xFCD8, 0xFCDB, "\u0647\u0645 \u0647\u0670 \u064A\u062C \u064A\u062D"),
  (0xFCDC, 0xFCDF, "\u064A\u062E \u064A\u0645 \u064A\u0647 \u0626\u0645"),
  (0xFCE0, 0xFCE3, "\u0626\u0647 \u0628\u0645 \u0628\u0647 \u062A\u0645"),
  (0xFCE4, 0xFCE7, "\u062A\u0647 \u062B\u0645 \u062B\u0647 \u0633\u0645"),
  (0xFCE8, 0xFCEB, "\u0633\u0647 \u0634\u0645 \u0634\u0647 \u0643\u0644"),
  (0xFCEC, 0xFCEF, "\u0643\u0645 \u0644\u0645 \u0646\u0645 \u0646\u0647"),
  (0xFCF0, 0xFCF2, "\u064A\u0645 \u064A\u0647 \u0640\u064E\u0651"),
  (0xFCF3, 0xFCF5, "\u0640\u064F\u0651 \u0640\u0650\u0651 \u0637\u0649"),
  (0xFCF6, 0xFCF9, "\u0637\u064A \u0639\u0649 \u0639\u064A \u063A\u0649"),
  (0xFCFA, 0xFCFD, "\u063A\u064A \u0633\u0649 \u0633\u064A \u0634\u0649"),
  (0xFCFE, 0xFD01, "\u0634\u064A \u062D\u0649 \u062D\u064A \u062C\u0649"),
  (0xFD02, 0xFD05, "\u062C\u064A \u062E\u0649 \u062E\u064A \u0635\u0649"),
  (0xFD06, 0xFD09, "\u0635\u064A \u0636\u0649 \u0636\u064A \u0634\u062C"),
  (0xFD0A, 0xFD0D, "\u0634\u062D \u0634\u062E \u0634\u0645 \u0634\u0631"),
  (0xFD0E, 0xFD11, "\u0633\u0631 \u0635\u0631 \u0636\u0631 \u0637\u0649"),
  (0xFD12, 0xFD15, "\u0637\u064A \u0639\u0649 \u0639\u064A \u063A\u0649"),
  (0xFD16, 0xFD19, "\u063A\u064A \u0633\u0649 \u0633\u064A \u0634\u0649"),
  (0xFD1A, 0xFD1D, "\u0634\u064A \u062D\u0649 \u062D\u064A \u062C\u0649"),
  (0xFD1E, 0xFD21, "\u062C\u064A \u062E\u0649 \u062E\u064A \u0635\u0649"),
  (0xFD22, 0xFD25, "\u0635\u064A \u0636\u0649 \u0636\u064A \u0634\u062C"),
  (0xFD26, 0xFD29, "\u0634\u062D \u0634\u062E \u0634\u0645 \u0634\u0631"),
  (0xFD2A, 0xFD2D, "\u0633\u0631 \u0635\u0631 \u0636\u0631 \u0634\u062C"),
  (0xFD2E, 0xFD31, "\u0634\u062D \u0634\u062E \u0634\u0645 \u0633\u0647"),
  (0xFD32, 0xFD35, "\u0634\u0647 \u0637\u0645 \u0633\u062C \u0633\u062D"),
  (0xFD36, 0xFD39, "\u0633\u062E \u0634\u062C \u0634\u062D \u0634\u062E"),
  (0xFD3A, 0xFD3D, "\u0637\u0645 \u0638\u0645 \u0627\u064B \u0627\u064B"),
  (0xFD50, 0xFD52, "\u062A\u062C\u0645 \u062A\u062D\u062C \u062A\u062D\u062C"),
  (0xFD53, 0xFD55, "\u062A\u062D\u0645 \u062A\u062E\u0645 \u062A\u0645\u062C"),
  (0xFD56, 0xFD58, "\u062A\u0645\u062D \u062A\u0645\u062E \u062C\u0645\u062D"),
  (0xFD59, 0xFD5B, "\u062C\u0645\u062D \u062D\u0645\u064A \u062D\u0645\u0649"),
  (0xFD5C, 0xFD5E, "\u0633\u062D\u062C \u0633\u062C\u062D \u0633\u062C\u0649"),
  (0xFD5F, 0xFD61, "\u0633\u0645\u062D \u0633\u0645\u062D \u0633\u0645\u062C"),
  (0xFD62, 0xFD64, "\u0633\u0645\u0645 \u0633\u0645\u0645 \u0635\u062D\u062D"),
  (0xFD65, 0xFD67, "\u0635\u062D\u062D \u0635\u0645\u0645 \u0634\u062D\u0645"),
  (0xFD68, 0xFD6A, "\u0634\u062D\u0645 \u0634\u062C\u064A \u0634\u0645\u062E"),
  (0xFD6B, 0xFD6D, "\u0634\u0645\u062E \u0634\u0645\u0645 \u0634\u0645\u0645"),
  (0xFD6E, 0xFD70, "\u0636\u062D\u0649 \u0636\u062E\u0645 \u0636\u062E\u0645"),
  (0xFD71, 0xFD73, "\u0637\u0645\u062D \u0637\u0645\u062D \u0637\u0645\u0645"),
  (0xFD74, 0xFD76, "\u0637\u0645\u064A \u0639\u062C\u0645 \u0639\u0645\u0645"),
  (0xFD77, 0xFD79, "\u0639\u0645\u0645 \u0639\u0645\u0649 \u063A\u0645\u0645"),
  (0xFD7A, 0xFD7C, "\u063A\u0645\u064A \u063A\u0645\u0649 \u0641\u062E\u0645"),
  (0xFD7D, 0xFD7F, "\u0641\u062E\u0645 \u0642\u0645\u062D \u0642\u0645\u0645"),
  (0xFD80, 0xFD82, "\u0644\u062D\u0645 \u0644\u062D\u064A \u0644\u062D\u0649"),
  (0xFD83, 0xFD85, "\u0644\u062C\u062C \u0644\u062C\u062C \u0644\u062E\u0645"),
  (0xFD86, 0xFD88, "\u0644\u062E\u0645 \u0644\u0645\u062D \u0644\u0645\u062D"),
  (0xFD89, 0xFD8B, "\u0645\u062D\u062C \u0645\u062D\u0645 \u0645\u062D\u064A"),
  (0xFD8C, 0xFD8E, "\u0645\u062C\u062D \u0645\u062C\u0645 \u0645\u062E\u062C"),
  (0xFD8F, 0xFD8F, "\u0645\u062E\u0645"),
  (0xFD92, 0xFD94, "\u0645\u062C\u062E \u0647\u0645\u062C \u0647\u0645\u0645"),
  (0xFD95, 0xFD97, "\u0646\u062D\u0645 \u0646\u062D\u0649 \u0646\u062C\u0645"),
  (0xFD98, 0xFD9A, "\u0646\u062C\u0645 \u0646\u062C\u0649 \u0646\u0645\u064A"),
  (0xFD9B, 0xFD9D, "\u0646\u0645\u0649 \u064A\u0645\u0645 \u064A\u0645\u0645"),
  (0xFD9E, 0xFDA0, "\u0628\u062E\u064A \u062A\u062C\u064A \u062A\u062C\u0649"),
  (0xFDA1, 0xFDA3, "\u062A\u062E\u064A \u062A\u062E\u0649 \u062A\u0645\u064A"),
  (0xFDA4, 0xFDA6, "\u062A\u0645\u0649 \u062C\u0645\u064A \u062C\u062D\u0649"),
  (0xFDA7, 0xFDA9, "\u062C\u0645\u0649 \u0633\u062E\u0649 \u0635\u062D\u064A"),
  (0xFDAA, 0xFDAC, "\u0634\u062D\u064A \u0636\u062D\u064A \u0644\u062C\u064A"),
  (0xFDAD, 0xFDAF, "\u0644\u0645\u064A \u064A\u062D\u064A \u064A\u062C\u064A"),
  (0xFDB0, 0xFDB2, "\u064A\u0645\u064A \u0645\u0645\u064A \u0642\u0645\u064A"),
  (0xFDB3, 0xFDB5, "\u0646\u062D\u064A \u0642\u0645\u062D \u0644\u062D\u0645"),
  (0xFDB6, 0xFDB8, "\u0639\u0645\u064A \u0643\u0645\u064A \u0646\u062C\u062D"),
  (0xFDB9, 0xFDBB, "\u0645\u062E\u064A \u0644\u062C\u0645 \u0643\u0645\u0645"),
  (0xFDBC, 0xFDBE, "\u0644\u062C\u0645 \u0646\u062C\u062D \u062C\u062D\u064A"),
  (0xFDBF, 0xFDC1, "\u062D\u062C\u064A \u0645\u062C\u064A \u0641\u0645\u064A"),
  (0xFDC2, 0xFDC4, "\u0628\u062D\u064A \u0643\u0645\u0645 \u0639\u062C\u0645"),
  (0xFDC5, 0xFDC7, "\u0635\u0645\u0645 \u0633\u062E\u064A \u0646\u062C\u064A"),
  (0xFDF0, 0xFDF1, "\u0635\u0644\u06D2 \u0642\u0644\u06D2"),
  (0xFDF2, 0xFDF3, "\u0627\u0644\u0644\u0647 \u0627\u0643\u0628\u0631"),
  (0xFDF4, 0xFDF5, "\u0645\u062D\u0645\u062F \u0635\u0644\u0639\u0645"),
  (0xFDF6, 0xFDF7, "\u0631\u0633\u0648\u0644 \u0639\u0644\u064A\u0647"),
  (0xFDF8, 0xFDF9, "\u0648\u0633\u0644\u0645 \u0635\u0644\u0649"),
  (0xFDFC, 0xFDFC, "\u0631\u06CC\u0627\u0644"), (0xFE10, 0xFE11, ", 、"), (0xFE14, 0xFE15, "; !"),
  (0xFE17, 0xFE18, "〖 〗"), (0xFE31, 0xFE40, "— – _ _ ( ) \x7b \x7d 〔 〕 【 】 《 》 〈 〉"),
  (0xFE4D, 0xFE51, "_ _ _ , 、"), (0xFE54, 0xFE54, ";"), (0xFE57, 0xFE5E, "! — ( ) \x7b \x7d 〔 〕"),
  (0xFE60, 0xFE63, "& * + -"), (0xFE66, 0xFE66, "="), (0xFE69, 0xFE69, "$"),
  (0xFE71, 0xFE71, "\u0640\u064B"), (0xFE77, 0xFE77, "\u0640\u064E"),
  (0xFE79, 0xFE79, "\u0640\u064F"), (0xFE7B, 0xFE7B, "\u0640\u0650"),
  (0xFE7D, 0xFE7D, "\u0640\u0651"),
  (0xFE7F, 0xFE85, "\u0640\u0652 \u0621 \u0622 \u0622 \u0623 \u0623 \u0624"),
  (0xFE86, 0xFE8D, "\u0624 \u0625 \u0625 \u0626 \u0626 \u0626 \u0626 \u0627"),
  (0xFE8E, 0xFE95, "\u0627 \u0628 \u0628 \u0628 \u0628 \u0629 \u0629 \u062A"),
  (0xFE96, 0xFE9D, "\u062A \u062A \u062A \u062B \u062B \u062B \u062B \u062C"),
  (0xFE9E, 0xFEA5, "\u062C \u062C \u062C \u062D \u062D \u062D \u062D \u062E"),
  (0xFEA6, 0xFEAD, "\u062E \u062E \u062E \u062F \u062F \u0630 \u0630 \u0631"),
  (0xFEAE, 0xFEB5, "\u0631 \u0632 \u0632 \u0633 \u0633 \u0633 \u0633 \u0634"),
  (0xFEB6, 0xFEBD, "\u0634 \u0634 \u0634 \u0635 \u0635 \u0635 \u0635 \u0636"),
  (0xFEBE, 0xFEC5, "\u0636 \u0636 \u0636 \u0637 \u0637 \u0637 \u0637 \u0638"),
  (0xFEC6, 0xFECD, "\u0638 \u0638 \u0638 \u0639 \u0639 \u0639 \u0639 \u063A"),
  (0xFECE, 0xFED5, "\u063A \u063A \u063A \u0641 \u0641 \u0641 \u0641 \u0642"),
  (0xFED6, 0xFEDD, "\u0642 \u0642 \u0642 \u0643 \u0643 \u0643 \u0643 \u0644"),
  (0xFEDE, 0xFEE5, "\u0644 \u0644 \u0644 \u0645 \u0645 \u0645 \u0645 \u0646"),
  (0xFEE6, 0xFEED, "\u0646 \u0646 \u0646 \u0647 \u0647 \u0647 \u0647 \u0648"),
  (0xFEEE, 0xFEF4, "\u0648 \u0649 \u0649 \u064A \u064A \u064A \u064A"),
  (0xFEF5, 0xFEF8, "\u0644\u0622 \u0644\u0622 \u0644\u0623 \u0644\u0623"),
  (0xFEF9, 0xFEFC, "\u0644\u0625 \u0644\u0625 \u0644\u0627 \u0644\u0627"), (0xFF01, 0xFF01, "!"),
  (0xFF5D, 0xFF79, "\x7d ~ ⦅ ⦆ . 「 」 、 ・ ヲ ァ ィ ゥ ェ ォ ャ ュ ョ ッ ー ア イ ウ エ オ カ キ ク ケ"),
  (0xFF7A, 0xFF84, "コ サ シ ス セ ソ タ チ ツ テ ト"), (0xFF8B, 0xFF8E, "ヒ フ ヘ ホ"), (0xFF94, 0xFF95, "ヤ ユ"),
  (0xFF9C, 0xFF9F, "ワ ン \u3099 \u309A"), (0xFFA1, 0xFFA6, "ᄀ ᄁ ᆪ ᄂ ᆬ ᆭ"), (0xFFB0, 0xFFB0, "ᄚ"),
  (0xFFB4, 0xFFB4, "ᄡ"), (0xFFE0, 0xFFE2, "¢ £ ¬"), (0xFFE4, 0xFFE6, "¦ ¥ ₩"),
  (0xFFE8, 0xFFE8, "│"), (0xFFED, 0xFFEE, "■ ○"), (0x10595, 0x10595, "𐖼"),
  (0x10781, 0x10785, "ː ˑ æ ʙ ɓ"),
  (0x10787, 0x107A3, "ʣ ꭦ ʥ ʤ ɖ ɗ ᶑ ɘ ɞ ʩ ɤ ɢ ɠ ʛ ħ ʜ ɧ ʄ ʪ ʫ ɬ 𝼄 ꞎ ɮ 𝼅 ʎ 𝼆 ø ɶ"),
  (0x107A4, 0x107B0, "ɷ q ɺ 𝼈 ɽ ɾ ʀ ʨ ʦ ꭧ ʧ ʈ ⱱ"), (0x107B2, 0x107B5, "ʏ ʡ ʢ ʘ"),
  (0x107B9, 0x107BA, "𝼊 𝼞"), (0x1D15E, 0x1D164, "𝅗𝅥 𝅘𝅥 𝅘𝅥𝅮 𝅘𝅥𝅯 𝅘𝅥𝅰 𝅘𝅥𝅱 𝅘𝅥𝅲"),
  (0x1D1BB, 0x1D1C0, "𝆹𝅥 𝆺𝅥 𝆹𝅥𝅮 𝆺𝅥𝅮 𝆹𝅥𝅯 𝆺𝅥𝅯"), (0x1D49C, 0x1D49C, "a"),
  (0x1D49E, 0x1D49F, "c d"), (0x1D4A2, 0x1D4A2, "g"), (0x1D4A5, 0x1D4A6, "j k"),
  (0x1D504, 0x1D504, "a"), (0x1D508, 0x1D508, "e"), (0x1D50A, 0x1D50A, "g"),
  (0x1D538, 0x1D538, "a"), (0x1D541, 0x1D541, "j"), (0x1D543, 0x1D543, "l"),
  (0x1D6A4, 0x1D6A5, "ı ȷ"), (0x1D6B9, 0x1D6B9, "θ"), (0x1D6C1, 0x1D6C1, "∇"),
  (0x1D6D3, 0x1D6D3, "σ"), (0x1D6DB, 0x1D6E1, "∂ ε θ κ φ ρ π"), (0x1D6F3, 0x1D6F3, "θ"),
  (0x1D6FB, 0x1D6FB, "∇"), (0x1D70D, 0x1D70D, "σ"), (0x1D715, 0x1D71B, "∂ ε θ κ φ ρ π"),
  (0x1D72D, 0x1D72D, "θ"), (0x1D735, 0x1D735, "∇"), (0x1D747, 0x1D747, "σ"),
  (0x1D74F, 0x1D755, "∂ ε θ κ φ ρ π"), (0x1D767, 0x1D767, "θ"), (0x1D76F, 0x1D76F, "∇"),
  (0x1D781, 0x1D781, "σ"), (0x1D789, 0x1D78F, "∂ ε θ κ φ ρ π"), (0x1D7A1, 0x1D7A1, "θ"),
  (0x1D7A9, 0x1D7A9, "∇"), (0x1D7BB, 0x1D7BB, "σ"), (0x1D7C3, 0x1D7CB, "∂ ε θ κ φ ρ π ϝ ϝ"),
  (0x1E047, 0x1E050, "ы э ю ꚉ ә і ј ө ү ӏ"), (0x1E05A, 0x1E05E, "к л о п с"),
  (0x1E065, 0x1E06D, "ъ ы ґ і ѕ џ ҫ ꙑ ұ"), (0x1EE00, 0x1EE03, "\u0627 \u0628 \u062C \u062F"),
  (0x1EE05, 0x1EE09, "\u0648 \u0632 \u062D \u0637 \u064A"),
  (0x1EE0E, 0x1EE15, "\u0633 \u0639 \u0641 \u0635 \u0642 \u0631 \u0634 \u062A"),
  (0x1EE16, 0x1EE1D, "\u062B \u062E \u0630 \u0636 \u0638 \u063A \u066E \u06BA"),
  (0x1EE1E, 0x1EE1F, "\u06A1 \u066F"), (0x1EE21, 0x1EE22, "\u0628 \u062C"),
  (0x1EE24, 0x1EE24, "\u0647"), (0x1EE27, 0x1EE27, "\u062D"), (0x1EE29, 0x1EE29, "\u064A"),
  (0x1EE2E, 0x1EE32, "\u0633 \u0639 \u0641 \u0635 \u0642"),
  (0x1EE34, 0x1EE37, "\u0634 \u062A \u062B \u062E"), (0x1EE39, 0x1EE39, "\u0636"),
  (0x1EE3B, 0x1EE3B, "\u063A"), (0x1EE42, 0x1EE42, "\u062C"), (0x1EE47, 0x1EE47, "\u062D"),
  (0x1EE49, 0x1EE49, "\u064A"), (0x1EE4B, 0x1EE4B, "\u0644"),
  (0x1EE4D, 0x1EE4F, "\u0646 \u0633 \u0639"), (0x1EE51, 0x1EE52, "\u0635 \u0642"),
  (0x1EE54, 0x1EE54, "\u0634"), (0x1EE57, 0x1EE57, "\u062E"), (0x1EE59, 0x1EE59, "\u0636"),
  (0x1EE5B, 0x1EE5B, "\u063A"), (0x1EE5D, 0x1EE5D, "\u06BA"), (0x1EE5F, 0x1EE5F, "\u066F"),
  (0x1EE61, 0x1EE62, "\u0628 \u062C"), (0x1EE64, 0x1EE64, "\u0647"),
  (0x1EE67, 0x1EE6A, "\u062D \u0637 \u064A \u0643"),
  (0x1EE6C, 0x1EE72, "\u0645 \u0646 \u0633 \u0639 \u0641 \u0635 \u0642"),
  (0x1EE74, 0x1EE77, "\u0634 \u062A \u062B \u062E"),
  (0x1EE79, 0x1EE7C, "\u0636 \u0638 \u063A \u066E"), (0x1EE7E, 0x1EE7E, "\u06A1"),
  (0x1EE80, 0x1EE87, "\u0627 \u0628 \u062C \u062F \u0647 \u0648 \u0632 \u062D"),
  (0x1EE88, 0x1EE89, "\u0637 \u064A"),
  (0x1EE8E, 0x1EE95, "\u0633 \u0639 \u0641 \u0635 \u0642 \u0631 \u0634 \u062A"),
  (0x1EE96, 0x1EE9B, "\u062B \u062E \u0630 \u0636 \u0638 \u063A"),
  (0x1EEA1, 0x1EEA3, "\u0628 \u062C \u062F"),
  (0x1EEA5, 0x1EEA9, "\u0648 \u0632 \u062D \u0637 \u064A"),
  (0x1EEAE, 0x1EEB5, "\u0633 \u0639 \u0641 \u0635 \u0642 \u0631 \u0634 \u062A"),
  (0x1EEB6, 0x1EEBB, "\u062B \u062E \u0630 \u0636 \u0638 \u063A"),
  (0x1F101, 0x1F10A, "0, 1, 2, 3, 4, 5, 6, 7, 8, 9,"),
  (0x1F110, 0x1F11E, "(a) (b) (c) (d) (e) (f) (g) (h) (i) (j) (k) (l) (m) (n) (o)"),
  (0x1F11F, 0x1F12E, "(p) (q) (r) (s) (t) (u) (v) (w) (x) (y) (z) 〔s〕 c r cd wz"),
  (0x1F14A, 0x1F14F, "hv mv sd ss ppv wc"), (0x1F16A, 0x1F16C, "mc md mr"),
  (0x1F190, 0x1F190, "dj"), (0x1F200, 0x1F202, "ほか ココ サ"),
  (0x1F210, 0x1F22D, "手 字 双 デ 二 多 解 天 交 映 無 料 前 後 再 新 初 終 生 販 声 吹 演 投 捕 一 三 遊 左 中"),
  (0x1F22E, 0x1F23B, "右 指 走 打 禁 空 合 満 有 月 申 割 営 配"),
  (0x1F240, 0x1F248, "〔本〕 〔三〕 〔二〕 〔安〕 〔点〕 〔打〕 〔盗〕 〔勝〕 〔敗〕"), (0x1F250, 0x1F251, "得 可"),
  (0x2F800, 0x2F81B, "丽 丸 乁 𠄢 你 侮 侻 倂 偺 備 僧 像 㒞 𠘺 免 兔 兤 具 𠔜 㒹 內 再 𠕋 冗 冤 仌 冬 况"),
  (0x2F81C, 0x2F838, "𩇟 凵 刃 㓟 刻 剆 割 剷 㔕 勇 勉 勤 勺 包 匆 北 卉 卑 博 即 卽 卿 卿 卿 𠨬 灰 及 叟 𠭣"),
  (0x2F839, 0x2F856, "叫 叱 吆 咞 吸 呈 周 咢 哶 唐 啓 啣 善 善 喙 喫 喳 嗂 圖 嘆 圗 噑 噴 切 壮 城 埴 堍 型 堲"),
  (0x2F857, 0x2F872, "報 墬 𡓤 売 壷 夆 多 夢 奢 𡚨 𡛪 姬 娛 娧 姘 婦 㛮 㛼 嬈 嬾 嬾 𡧈 寃 寘 寧 寳 𡬘 寿"),
  (0x2F873, 0x2F88E, "将 当 尢 㞁 屠 屮 峀 岍 𡷤 嵃 𡷦 嵮 嵫 嵼 巡 巢 㠯 巽 帨 帽 幩 㡢 𢆃 㡼 庰 庳 庶 廊"),
  (0x2F88F, 0x2F8A9, "𪎒 廾 𢌱 𢌱 舁 弢 弢 㣇 𣊸 𦇚 形 彫 㣣 徚 忍 志 忹 悁 㤺 㤜 悔 𢛔 惇 慈 慌 慎 慌"),
  (0x2F8AA, 0x2F8C6, "慺 憎 憲 憤 憯 懞 懲 懶 成 戛 扝 抱 拔 捐 𢬌 挽 拼 捨 掃 揤 𢯱 搢 揅 掩 㨮 摩 摾 撝 摷"),
  (0x2F8C7, 0x2F8E3, "㩬 敏 敬 𣀊 旣 書 晉 㬙 暑 㬈 㫤 冒 冕 最 暜 肭 䏙 朗 望 朡 杞 杓 𣏃 㭉 柺 枅 桒 梅 𣑭"),
  (0x2F8E4, 0x2F8FE, "梎 栟 椔 㮝 楂 榣 槪 檨 𣚣 櫛 㰘 次 𣢧 歔 㱎 歲 殟 殺 殻 𣪍 𡴋 𣫺 汎 𣲼 沿 泍 汧"),
  (0x2F8FF, 0x2F91A, "洖 派 海 流 浩 浸 涅 𣴞 洴 港 湮 㴳 滋 滇 𣻑 淹 潮 𣽞 𣾎 濆 瀹 瀞 瀛 㶖 灊 災 灷 炭"),
  (0x2F91B, 0x2F935, "𠔥 煅 𤉣 熜 𤎫 爨 爵 牐 𤘈 犀 犕 𤜵 𤠔 獺 王 㺬 玥 㺸 㺸 瑇 瑜 瑱 璅 瓊 㼛 甤 𤰶"),
  (0x2F936, 0x2F94E, "甾 𤲒 異 𢆟 瘐 𤾡 𤾸 𥁄 㿼 䀈 直 𥃳 𥃲 𥄙 𥄳 眞 真 真 睊 䀹 瞋 䁆 䂖 𥐝 硎"),
  (0x2F94F, 0x2F968, "碌 磌 䃣 𥘦 祖 𥚚 𥛅 福 秫 䄯 穀 穊 穏 𥥼 𥪧 𥪧 竮 䈂 𥮫 篆 築 䈧 𥲀 糒 䊠 糨"),
  (0x2F969, 0x2F982, "糣 紀 𥾆 絣 䌁 緇 縂 繅 䌴 𦈨 𦉇 䍙 𦋙 罺 𦌾 羕 翺 者 𦓚 𦔣 聠 𦖨 聰 𣍟 䏕 育"),
  (0x2F983, 0x2F99E, "脃 䐋 脾 媵 𦞧 𦞵 𣎓 𣎜 舁 舄 辞 䑫 芑 芋 芝 劳 花 芳 芽 苦 𦬼 若 茝 荣 莭 茣 莽 菧"),
  (0x2F99F, 0x2F9B9, "著 荓 菊 菌 菜 𦰶 𦵫 𦳕 䔫 蓱 蓳 蔖 𧏊 蕤 𦼬 䕝 䕡 𦾱 𧃒 䕫 虐 虜 虧 虩 蚩 蚈 蜎"),
  (0x2F9BA, 0x2F9D5, "蛢 蝹 蜨 蝫 螆 䗗 蟡 蠁 䗹 衠 衣 𧙧 裗 裞 䘵 裺 㒻 𧢮 𧥦 䚾 䛇 誠 諭 變 豕 𧲨 貫 賁"),
  (0x2F9D6, 0x2F9F0, "贛 起 𧼯 𠠄 跋 趼 跰 𠣞 軔 輸 𨗒 𨗭 邔 郱 鄑 𨜮 鄛 鈸 鋗 鋘 鉼 鏹 鐕 𨯺 開 䦕 閷"),
  (0x2F9F1, 0x2FA0B, "𨵷 䧦 雃 嶲 霣 𩅅 𩈚 䩮 䩶 韠 𩐊 䪲 𩒖 頋 頋 頩 𩖶 飢 䬳 餩 馧 駂 駾 䯎 𩬰 鬒 鱀"),
  (0x2FA0C, 0x2FA1D, "鳽 䳎 䳭 鵧 𪃎 䳸 𪄅 𪈎 𪊑 麻 䵖 黹 黾 鼅 鼏 鼖 鼻 𪘀")
]

/-- The characters that stand for nothing, ascending. -/
def ignoredRuns : Array (Nat × Nat) := #[
  (0xAD, 0xAD), (0x34F, 0x34F), (0x180B, 0x180D), (0x180F, 0x180F), (0x200B, 0x200B),
  (0x2060, 0x2060), (0x2064, 0x2064), (0xFE00, 0xFE0F), (0xFEFF, 0xFEFF), (0x1BCA0, 0x1BCA3),
  (0xE0100, 0xE01EF)
]

/-- Characters with a form of their own that no domain holds, ascending. -/
def refusedRuns : Array (Nat × Nat) := #[
  (0xA8, 0xA8), (0xAF, 0xAF), (0xB4, 0xB4), (0xB8, 0xB8), (0x2D8, 0x2DD), (0x37A, 0x37A),
  (0x384, 0x385), (0x1806, 0x1806), (0x1FBD, 0x1FBD), (0x1FBF, 0x1FC1), (0x1FCD, 0x1FCF),
  (0x1FDD, 0x1FDF), (0x1FED, 0x1FEE), (0x1FFD, 0x1FFE), (0x2017, 0x2017), (0x2024, 0x2026),
  (0x203E, 0x203E), (0x2047, 0x2049), (0x2100, 0x2101), (0x2105, 0x2106), (0x2488, 0x249B),
  (0x2A74, 0x2A74), (0x2FF0, 0x2FFF), (0x309B, 0x309C), (0x31EF, 0x31EF), (0x33C2, 0x33C2),
  (0x33C7, 0x33C7), (0x33D8, 0x33D8), (0xFC5E, 0xFC63), (0xFDFA, 0xFDFB), (0xFE12, 0xFE13),
  (0xFE16, 0xFE16), (0xFE19, 0xFE19), (0xFE30, 0xFE30), (0xFE47, 0xFE4C), (0xFE52, 0xFE52),
  (0xFE55, 0xFE56), (0xFE5F, 0xFE5F), (0xFE64, 0xFE65), (0xFE68, 0xFE68), (0xFE6A, 0xFE6B),
  (0xFE70, 0xFE70), (0xFE72, 0xFE72), (0xFE74, 0xFE74), (0xFE76, 0xFE76), (0xFE78, 0xFE78),
  (0xFE7A, 0xFE7A), (0xFE7C, 0xFE7C), (0xFE7E, 0xFE7E), (0xFF03, 0xFF03), (0xFF05, 0xFF05),
  (0xFF0F, 0xFF0F), (0xFF1A, 0xFF1A), (0xFF1C, 0xFF1C), (0xFF1E, 0xFF20), (0xFF3B, 0xFF3E),
  (0xFF5C, 0xFF5C), (0xFFE3, 0xFFE3), (0xFFFC, 0xFFFD), (0x1F100, 0x1F100)
]

/-! ## Folding -/

/-- The character for which one of a run of shifts stands. -/
def shift? (n : Nat) : Option Char :=
  (shifts.find? (fun (first, last, step, _) =>
      first ≤ n && n ≤ last && (n - first) % step == 0)).map
    (fun (first, _, _, target) => Char.ofNat (target + (n - first)))

/-- The text for which one of a run of spellings stands. -/
def spelling? (n : Nat) : Option (List Char) :=
  match spellings.find? (fun (first, last, _) => first ≤ n && n ≤ last) with
  | some (first, _, words) => (Text.pieces (· == ' ') words.toList)[n - first]?
  | none => none

/-- Characters that folding would change and that domains keep: the sharp s, the final
    sigma and the two joiners. -/
def isSpared (n : Nat) : Bool :=
  n == 0xDF || n == 0x3C2 || n == 0x200C || n == 0x200D

/-- The text for which a character stands in a domain. -/
def fold? (c : Char) : Option (List Char) :=
  let n := c.toNat
  if n < 128 then some [c.toLower]
  else if isSpared n then some [c]
  else match shift? n with
    | some d => some [d]
    | none =>
      match spelling? n with
      | some text => some text
      | none =>
        if Text.isInRuns ignoredRuns n then some []
        else if Text.isFormless c || Text.isInRuns refusedRuns n then none
        else some [c]

end QueryWire.Url
