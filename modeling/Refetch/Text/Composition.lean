import Refetch.Text.Numeral
/-!
# Composed characters

A letter with its accents can be written as one character or as a letter and marks.  In composed
form (Unicode normalization form C) the marks on a letter are in the order of their classes and
joined with it as far as there are characters for the result; syllables of the Korean script are
joined from their parts.

* `combiningClass c`   where a mark stands, as a number; zero for what is no mark of that kind;
* `compose? a b`       the character for a letter and a mark on it, or for two parts;
* `composed cs`        the composed form of a text.
-/

namespace Refetch.Text

/-- where the combining classes change -/
def classRuns : List (Nat × Nat) := [
  (0x21, 0), (0x300, 230), (0x315, 232), (0x316, 220), (0x31A, 232), (0x31B, 216), (0x31C, 220),
  (0x321, 202), (0x323, 220), (0x327, 202), (0x329, 220), (0x334, 1), (0x339, 220), (0x33D, 230),
  (0x347, 220), (0x34A, 230), (0x34D, 220), (0x350, 230), (0x353, 220), (0x357, 230),
  (0x358, 232), (0x359, 220), (0x35B, 230), (0x35C, 233), (0x35D, 234), (0x35F, 233),
  (0x360, 234), (0x362, 233), (0x363, 230), (0x371, 0), (0x483, 230), (0x488, 0), (0x591, 220),
  (0x592, 230), (0x596, 220), (0x597, 230), (0x59A, 222), (0x59B, 220), (0x59C, 230),
  (0x5A2, 220), (0x5A8, 230), (0x5AA, 220), (0x5AB, 230), (0x5AD, 222), (0x5AE, 228),
  (0x5AF, 230), (0x5B0, 10), (0x5B1, 11), (0x5B2, 12), (0x5B3, 13), (0x5B4, 14), (0x5B5, 15),
  (0x5B6, 16), (0x5B7, 17), (0x5B8, 18), (0x5B9, 19), (0x5BB, 20), (0x5BC, 21), (0x5BD, 22),
  (0x5BE, 0), (0x5BF, 23), (0x5C0, 0), (0x5C1, 24), (0x5C2, 25), (0x5C3, 0), (0x5C4, 230),
  (0x5C5, 220), (0x5C6, 0), (0x5C7, 18), (0x5D0, 0), (0x610, 230), (0x618, 30), (0x619, 31),
  (0x61A, 32), (0x61B, 0), (0x64B, 27), (0x64C, 28), (0x64D, 29), (0x64E, 30), (0x64F, 31),
  (0x650, 32), (0x651, 33), (0x652, 34), (0x653, 230), (0x655, 220), (0x657, 230), (0x65C, 220),
  (0x65D, 230), (0x65F, 220), (0x660, 0), (0x670, 35), (0x671, 0), (0x6D6, 230), (0x6DE, 0),
  (0x6DF, 230), (0x6E3, 220), (0x6E4, 230), (0x6E5, 0), (0x6E7, 230), (0x6E9, 0), (0x6EA, 220),
  (0x6EB, 230), (0x6ED, 220), (0x6EE, 0), (0x711, 36), (0x712, 0), (0x730, 230), (0x731, 220),
  (0x732, 230), (0x734, 220), (0x735, 230), (0x737, 220), (0x73A, 230), (0x73B, 220),
  (0x73D, 230), (0x73E, 220), (0x73F, 230), (0x742, 220), (0x743, 230), (0x744, 220),
  (0x745, 230), (0x746, 220), (0x747, 230), (0x748, 220), (0x749, 230), (0x74D, 0), (0x7EB, 230),
  (0x7F2, 220), (0x7F3, 230), (0x7F4, 0), (0x7FD, 220), (0x7FE, 0), (0x816, 230), (0x81A, 0),
  (0x81B, 230), (0x824, 0), (0x825, 230), (0x828, 0), (0x829, 230), (0x830, 0), (0x859, 220),
  (0x85E, 0), (0x898, 230), (0x899, 220), (0x89C, 230), (0x8A0, 0), (0x8CA, 230), (0x8CF, 220),
  (0x8D4, 230), (0x8E3, 220), (0x8E4, 230), (0x8E6, 220), (0x8E7, 230), (0x8E9, 220),
  (0x8EA, 230), (0x8ED, 220), (0x8F0, 27), (0x8F1, 28), (0x8F2, 29), (0x8F3, 230), (0x8F6, 220),
  (0x8F7, 230), (0x8F9, 220), (0x8FB, 230), (0x900, 0), (0x93C, 7), (0x93D, 0), (0x94D, 9),
  (0x94E, 0), (0x951, 230), (0x952, 220), (0x953, 230), (0x955, 0), (0x9BC, 7), (0x9BD, 0),
  (0x9CD, 9), (0x9CE, 0), (0x9FE, 230), (0xA01, 0), (0xA3C, 7), (0xA3E, 0), (0xA4D, 9),
  (0xA51, 0), (0xABC, 7), (0xABD, 0), (0xACD, 9), (0xAD0, 0), (0xB3C, 7), (0xB3D, 0), (0xB4D, 9),
  (0xB55, 0), (0xBCD, 9), (0xBD0, 0), (0xC3C, 7), (0xC3D, 0), (0xC4D, 9), (0xC55, 84),
  (0xC56, 91), (0xC58, 0), (0xCBC, 7), (0xCBD, 0), (0xCCD, 9), (0xCD5, 0), (0xD3B, 9), (0xD3D, 0),
  (0xD4D, 9), (0xD4E, 0), (0xDCA, 9), (0xDCF, 0), (0xE38, 103), (0xE3A, 9), (0xE3F, 0),
  (0xE48, 107), (0xE4C, 0), (0xEB8, 118), (0xEBA, 9), (0xEBB, 0), (0xEC8, 122), (0xECC, 0),
  (0xF18, 220), (0xF1A, 0), (0xF35, 220), (0xF36, 0), (0xF37, 220), (0xF38, 0), (0xF39, 216),
  (0xF3A, 0), (0xF71, 129), (0xF72, 130), (0xF74, 132), (0xF7A, 130), (0xF7E, 0), (0xF80, 130),
  (0xF82, 230), (0xF84, 9), (0xF85, 0), (0xF86, 230), (0xF88, 0), (0xFC6, 220), (0xFC7, 0),
  (0x1037, 7), (0x1038, 0), (0x1039, 9), (0x103B, 0), (0x108D, 220), (0x108E, 0), (0x135D, 230),
  (0x1360, 0), (0x1714, 9), (0x171F, 0), (0x1734, 9), (0x1735, 0), (0x17D2, 9), (0x17D3, 0),
  (0x17DD, 230), (0x17E0, 0), (0x18A9, 228), (0x18AA, 0), (0x1939, 222), (0x193A, 230),
  (0x193B, 220), (0x1940, 0), (0x1A17, 230), (0x1A18, 220), (0x1A19, 0), (0x1A60, 9), (0x1A61, 0),
  (0x1A75, 230), (0x1A7F, 220), (0x1A80, 0), (0x1AB0, 230), (0x1AB5, 220), (0x1ABB, 230),
  (0x1ABD, 220), (0x1ABE, 0), (0x1ABF, 220), (0x1AC1, 230), (0x1AC3, 220), (0x1AC5, 230),
  (0x1ACA, 220), (0x1ACB, 230), (0x1ACF, 0), (0x1B34, 7), (0x1B35, 0), (0x1B44, 9), (0x1B45, 0),
  (0x1B6B, 230), (0x1B6C, 220), (0x1B6D, 230), (0x1B74, 0), (0x1BAA, 9), (0x1BAC, 0), (0x1BE6, 7),
  (0x1BE7, 0), (0x1BF2, 9), (0x1BFC, 0), (0x1C37, 7), (0x1C3B, 0), (0x1CD0, 230), (0x1CD3, 0),
  (0x1CD4, 1), (0x1CD5, 220), (0x1CDA, 230), (0x1CDC, 220), (0x1CE0, 230), (0x1CE1, 0),
  (0x1CE2, 1), (0x1CE9, 0), (0x1CED, 220), (0x1CEE, 0), (0x1CF4, 230), (0x1CF5, 0), (0x1CF8, 230),
  (0x1CFA, 0), (0x1DC0, 230), (0x1DC2, 220), (0x1DC3, 230), (0x1DCA, 220), (0x1DCB, 230),
  (0x1DCD, 234), (0x1DCE, 214), (0x1DCF, 220), (0x1DD0, 202), (0x1DD1, 230), (0x1DF6, 232),
  (0x1DF7, 228), (0x1DF9, 220), (0x1DFA, 218), (0x1DFB, 230), (0x1DFC, 233), (0x1DFD, 220),
  (0x1DFE, 230), (0x1DFF, 220), (0x1E01, 0), (0x20D0, 230), (0x20D2, 1), (0x20D4, 230),
  (0x20D8, 1), (0x20DB, 230), (0x20DD, 0), (0x20E1, 230), (0x20E2, 0), (0x20E5, 1), (0x20E7, 230),
  (0x20E8, 220), (0x20E9, 230), (0x20EA, 1), (0x20EC, 220), (0x20F0, 230), (0x2104, 0),
  (0x2CEF, 230), (0x2CF3, 0), (0x2D7F, 9), (0x2D80, 0), (0x2DE0, 230), (0x2E00, 0), (0x302A, 218),
  (0x302B, 228), (0x302C, 232), (0x302D, 222), (0x302E, 224), (0x3030, 0), (0x3099, 8),
  (0x309D, 0), (0xA66F, 230), (0xA670, 0), (0xA674, 230), (0xA67E, 0), (0xA69E, 230), (0xA6A0, 0),
  (0xA6F0, 230), (0xA6F2, 0), (0xA806, 9), (0xA807, 0), (0xA82C, 9), (0xA830, 0), (0xA8C4, 9),
  (0xA8C5, 0), (0xA8E0, 230), (0xA8F2, 0), (0xA92B, 220), (0xA92E, 0), (0xA953, 9), (0xA95F, 0),
  (0xA9B3, 7), (0xA9B4, 0), (0xA9C0, 9), (0xA9C1, 0), (0xAAB0, 230), (0xAAB1, 0), (0xAAB2, 230),
  (0xAAB4, 220), (0xAAB5, 0), (0xAAB7, 230), (0xAAB9, 0), (0xAABE, 230), (0xAAC0, 0),
  (0xAAC1, 230), (0xAAC2, 0), (0xAAF6, 9), (0xAB01, 0), (0xABED, 9), (0xABF0, 0), (0xFB1E, 26),
  (0xFBB2, 0), (0xFE20, 230), (0xFE27, 220), (0xFE2E, 230), (0xFE45, 0), (0x101FD, 220),
  (0x10280, 0), (0x102E0, 220), (0x102E1, 0), (0x10376, 230), (0x10380, 0), (0x10A0D, 220),
  (0x10A0E, 0), (0x10A0F, 230), (0x10A10, 0), (0x10A38, 230), (0x10A39, 1), (0x10A3A, 220),
  (0x10A3F, 9), (0x10A40, 0), (0x10AE5, 230), (0x10AE6, 220), (0x10AEB, 0), (0x10D24, 230),
  (0x10D30, 0), (0x10EAB, 230), (0x10EAD, 0), (0x10EFD, 220), (0x10F00, 0), (0x10F46, 220),
  (0x10F48, 230), (0x10F4B, 220), (0x10F4C, 230), (0x10F4D, 220), (0x10F51, 0), (0x10F82, 230),
  (0x10F83, 220), (0x10F84, 230), (0x10F85, 220), (0x10F86, 0), (0x11046, 9), (0x11047, 0),
  (0x11070, 9), (0x11071, 0), (0x1107F, 9), (0x11080, 0), (0x110B9, 9), (0x110BA, 7),
  (0x110BB, 0), (0x11100, 230), (0x11103, 0), (0x11133, 9), (0x11136, 0), (0x11173, 7),
  (0x11174, 0), (0x111C0, 9), (0x111C1, 0), (0x111CA, 7), (0x111CB, 0), (0x11235, 9),
  (0x11236, 7), (0x11237, 0), (0x112E9, 7), (0x112EA, 9), (0x112F0, 0), (0x1133B, 7),
  (0x1133D, 0), (0x1134D, 9), (0x11350, 0), (0x11366, 230), (0x113B8, 0), (0x11442, 9),
  (0x11443, 0), (0x11446, 7), (0x11447, 0), (0x1145E, 230), (0x1145F, 0), (0x114C2, 9),
  (0x114C3, 7), (0x114C4, 0), (0x115BF, 9), (0x115C0, 7), (0x115C1, 0), (0x1163F, 9),
  (0x11640, 0), (0x116B6, 9), (0x116B7, 7), (0x116B8, 0), (0x1172B, 9), (0x11730, 0),
  (0x11839, 9), (0x1183A, 7), (0x1183B, 0), (0x1193D, 9), (0x1193F, 0), (0x11943, 7),
  (0x11944, 0), (0x119E0, 9), (0x119E1, 0), (0x11A34, 9), (0x11A35, 0), (0x11A47, 9),
  (0x11A50, 0), (0x11A99, 9), (0x11A9A, 0), (0x11C3F, 9), (0x11C40, 0), (0x11D42, 7),
  (0x11D43, 0), (0x11D44, 9), (0x11D46, 0), (0x11D97, 9), (0x11D98, 0), (0x11F41, 9),
  (0x11F43, 0), (0x16AF0, 1), (0x16AF5, 0), (0x16B30, 230), (0x16B37, 0), (0x16FF0, 6),
  (0x17000, 0), (0x1BC9E, 1), (0x1BC9F, 0), (0x1D165, 216), (0x1D167, 1), (0x1D16A, 0),
  (0x1D16D, 226), (0x1D16E, 216), (0x1D17B, 220), (0x1D183, 0), (0x1D185, 230), (0x1D18A, 220),
  (0x1D18C, 0), (0x1D1AA, 230), (0x1D1AE, 0), (0x1D242, 230), (0x1D245, 0), (0x1E000, 230),
  (0x1E100, 0), (0x1E130, 230), (0x1E137, 0), (0x1E2AE, 230), (0x1E2C0, 0), (0x1E2EC, 230),
  (0x1E2F0, 0), (0x1E4EC, 232), (0x1E4EE, 220), (0x1E4EF, 230), (0x1E4F0, 0), (0x1E8D0, 220),
  (0x1E922, 0), (0x1E944, 230), (0x1E94A, 7), (0x1E94B, 0)]

/-- the class of a mark, by which marks on one letter are ordered -/
def combiningClass (c : Char) : Nat := valueAt classRuns 0 c

/-! ## pairs -/

/-- the second character of some pairs, and then the first of each with the result -/
def pairLines : List String := [
  "300 41+C0 45+C8 49+CC 4E+1F8 4F+D2 55+D9 57+1E80 59+1EF2 61+E0 65+E8 69+EC 6E+1F9 6F+F2",
  "300 75+F9 77+1E81 79+1EF3 A8+1FED C2+1EA6 CA+1EC0 D4+1ED2 DC+1DB E2+1EA7 EA+1EC1 F4+1ED3",
  "300 FC+1DC 102+1EB0 103+1EB1 112+1E14 113+1E15 14C+1E50 14D+1E51 1A0+1EDC 1A1+1EDD 1AF+1EEA",
  "300 1B0+1EEB 391+1FBA 395+1FC8 397+1FCA 399+1FDA 39F+1FF8 3A5+1FEA 3A9+1FFA 3B1+1F70",
  "300 3B5+1F72 3B7+1F74 3B9+1F76 3BF+1F78 3C5+1F7A 3C9+1F7C 3CA+1FD2 3CB+1FE2 415+400 418+40D",
  "300 435+450 438+45D 1F00+1F02 1F01+1F03 1F08+1F0A 1F09+1F0B 1F10+1F12 1F11+1F13 1F18+1F1A",
  "300 1F19+1F1B 1F20+1F22 1F21+1F23 1F28+1F2A 1F29+1F2B 1F30+1F32 1F31+1F33 1F38+1F3A",
  "300 1F39+1F3B 1F40+1F42 1F41+1F43 1F48+1F4A 1F49+1F4B 1F50+1F52 1F51+1F53 1F59+1F5B",
  "300 1F60+1F62 1F61+1F63 1F68+1F6A 1F69+1F6B 1FBF+1FCD 1FFE+1FDD",
  "301 41+C1 43+106 45+C9 47+1F4 49+CD 4B+1E30 4C+139 4D+1E3E 4E+143 4F+D3 50+1E54 52+154",
  "301 53+15A 55+DA 57+1E82 59+DD 5A+179 61+E1 63+107 65+E9 67+1F5 69+ED 6B+1E31 6C+13A 6D+1E3F",
  "301 6E+144 6F+F3 70+1E55 72+155 73+15B 75+FA 77+1E83 79+FD 7A+17A A8+385 C2+1EA4 C5+1FA",
  "301 C6+1FC C7+1E08 CA+1EBE CF+1E2E D4+1ED0 D5+1E4C D8+1FE DC+1D7 E2+1EA5 E5+1FB E6+1FD",
  "301 E7+1E09 EA+1EBF EF+1E2F F4+1ED1 F5+1E4D F8+1FF FC+1D8 102+1EAE 103+1EAF 112+1E16",
  "301 113+1E17 14C+1E52 14D+1E53 168+1E78 169+1E79 1A0+1EDA 1A1+1EDB 1AF+1EE8 1B0+1EE9 391+386",
  "301 395+388 397+389 399+38A 39F+38C 3A5+38E 3A9+38F 3B1+3AC 3B5+3AD 3B7+3AE 3B9+3AF 3BF+3CC",
  "301 3C5+3CD 3C9+3CE 3CA+390 3CB+3B0 3D2+3D3 413+403 41A+40C 433+453 43A+45C 1F00+1F04",
  "301 1F01+1F05 1F08+1F0C 1F09+1F0D 1F10+1F14 1F11+1F15 1F18+1F1C 1F19+1F1D 1F20+1F24",
  "301 1F21+1F25 1F28+1F2C 1F29+1F2D 1F30+1F34 1F31+1F35 1F38+1F3C 1F39+1F3D 1F40+1F44",
  "301 1F41+1F45 1F48+1F4C 1F49+1F4D 1F50+1F54 1F51+1F55 1F59+1F5D 1F60+1F64 1F61+1F65",
  "301 1F68+1F6C 1F69+1F6D 1FBF+1FCE 1FFE+1FDE",
  "302 41+C2 43+108 45+CA 47+11C 48+124 49+CE 4A+134 4F+D4 53+15C 55+DB 57+174 59+176 5A+1E90",
  "302 61+E2 63+109 65+EA 67+11D 68+125 69+EE 6A+135 6F+F4 73+15D 75+FB 77+175 79+177 7A+1E91",
  "302 1EA0+1EAC 1EA1+1EAD 1EB8+1EC6 1EB9+1EC7 1ECC+1ED8 1ECD+1ED9",
  "303 41+C3 45+1EBC 49+128 4E+D1 4F+D5 55+168 56+1E7C 59+1EF8 61+E3 65+1EBD 69+129 6E+F1 6F+F5",
  "303 75+169 76+1E7D 79+1EF9 C2+1EAA CA+1EC4 D4+1ED6 E2+1EAB EA+1EC5 F4+1ED7 102+1EB4 103+1EB5",
  "303 1A0+1EE0 1A1+1EE1 1AF+1EEE 1B0+1EEF",
  "304 41+100 45+112 47+1E20 49+12A 4F+14C 55+16A 59+232 61+101 65+113 67+1E21 69+12B 6F+14D",
  "304 75+16B 79+233 C4+1DE C6+1E2 D5+22C D6+22A DC+1D5 E4+1DF E6+1E3 F5+22D F6+22B FC+1D6",
  "304 1EA+1EC 1EB+1ED 226+1E0 227+1E1 22E+230 22F+231 391+1FB9 399+1FD9 3A5+1FE9 3B1+1FB1",
  "304 3B9+1FD1 3C5+1FE1 418+4E2 423+4EE 438+4E3 443+4EF 1E36+1E38 1E37+1E39 1E5A+1E5C",
  "304 1E5B+1E5D",
  "306 41+102 45+114 47+11E 49+12C 4F+14E 55+16C 61+103 65+115 67+11F 69+12D 6F+14F 75+16D",
  "306 228+1E1C 229+1E1D 391+1FB8 399+1FD8 3A5+1FE8 3B1+1FB0 3B9+1FD0 3C5+1FE0 410+4D0 415+4D6",
  "306 416+4C1 418+419 423+40E 430+4D1 435+4D7 436+4C2 438+439 443+45E 1EA0+1EB6 1EA1+1EB7",
  "307 41+226 42+1E02 43+10A 44+1E0A 45+116 46+1E1E 47+120 48+1E22 49+130 4D+1E40 4E+1E44",
  "307 4F+22E 50+1E56 52+1E58 53+1E60 54+1E6A 57+1E86 58+1E8A 59+1E8E 5A+17B 61+227 62+1E03",
  "307 63+10B 64+1E0B 65+117 66+1E1F 67+121 68+1E23 6D+1E41 6E+1E45 6F+22F 70+1E57 72+1E59",
  "307 73+1E61 74+1E6B 77+1E87 78+1E8B 79+1E8F 7A+17C 15A+1E64 15B+1E65 160+1E66 161+1E67",
  "307 17F+1E9B 1E62+1E68 1E63+1E69",
  "308 41+C4 45+CB 48+1E26 49+CF 4F+D6 55+DC 57+1E84 58+1E8C 59+178 61+E4 65+EB 68+1E27 69+EF",
  "308 6F+F6 74+1E97 75+FC 77+1E85 78+1E8D 79+FF D5+1E4E F5+1E4F 16A+1E7A 16B+1E7B 399+3AA",
  "308 3A5+3AB 3B9+3CA 3C5+3CB 3D2+3D4 406+407 410+4D2 415+401 416+4DC 417+4DE 418+4E4 41E+4E6",
  "308 423+4F0 427+4F4 42B+4F8 42D+4EC 430+4D3 435+451 436+4DD 437+4DF 438+4E5 43E+4E7 443+4F1",
  "308 447+4F5 44B+4F9 44D+4ED 456+457 4D8+4DA 4D9+4DB 4E8+4EA 4E9+4EB",
  "309 41+1EA2 45+1EBA 49+1EC8 4F+1ECE 55+1EE6 59+1EF6 61+1EA3 65+1EBB 69+1EC9 6F+1ECF 75+1EE7",
  "309 79+1EF7 C2+1EA8 CA+1EC2 D4+1ED4 E2+1EA9 EA+1EC3 F4+1ED5 102+1EB2 103+1EB3 1A0+1EDE",
  "309 1A1+1EDF 1AF+1EEC 1B0+1EED; 30A 41+C5 55+16E 61+E5 75+16F 77+1E98 79+1E99",
  "30B 4F+150 55+170 6F+151 75+171 423+4F2 443+4F3",
  "30C 41+1CD 43+10C 44+10E 45+11A 47+1E6 48+21E 49+1CF 4B+1E8 4C+13D 4E+147 4F+1D1 52+158",
  "30C 53+160 54+164 55+1D3 5A+17D 61+1CE 63+10D 64+10F 65+11B 67+1E7 68+21F 69+1D0 6A+1F0",
  "30C 6B+1E9 6C+13E 6E+148 6F+1D2 72+159 73+161 74+165 75+1D4 7A+17E DC+1D9 FC+1DA 1B7+1EE",
  "30C 292+1EF",
  "30F 41+200 45+204 49+208 4F+20C 52+210 55+214 61+201 65+205 69+209 6F+20D 72+211 75+215",
  "30F 474+476 475+477",
  "311 41+202 45+206 49+20A 4F+20E 52+212 55+216 61+203 65+207 69+20B 6F+20F 72+213 75+217",
  "313 391+1F08 395+1F18 397+1F28 399+1F38 39F+1F48 3A9+1F68 3B1+1F00 3B5+1F10 3B7+1F20",
  "313 3B9+1F30 3BF+1F40 3C1+1FE4 3C5+1F50 3C9+1F60",
  "314 391+1F09 395+1F19 397+1F29 399+1F39 39F+1F49 3A1+1FEC 3A5+1F59 3A9+1F69 3B1+1F01",
  "314 3B5+1F11 3B7+1F21 3B9+1F31 3BF+1F41 3C1+1FE5 3C5+1F51 3C9+1F61",
  "31B 4F+1A0 55+1AF 6F+1A1 75+1B0",
  "323 41+1EA0 42+1E04 44+1E0C 45+1EB8 48+1E24 49+1ECA 4B+1E32 4C+1E36 4D+1E42 4E+1E46 4F+1ECC",
  "323 52+1E5A 53+1E62 54+1E6C 55+1EE4 56+1E7E 57+1E88 59+1EF4 5A+1E92 61+1EA1 62+1E05 64+1E0D",
  "323 65+1EB9 68+1E25 69+1ECB 6B+1E33 6C+1E37 6D+1E43 6E+1E47 6F+1ECD 72+1E5B 73+1E63 74+1E6D",
  "323 75+1EE5 76+1E7F 77+1E89 79+1EF5 7A+1E93 1A0+1EE2 1A1+1EE3 1AF+1EF0 1B0+1EF1",
  "324 55+1E72 75+1E73; 325 41+1E00 61+1E01; 326 53+218 54+21A 73+219 74+21B",
  "327 43+C7 44+1E10 45+228 47+122 48+1E28 4B+136 4C+13B 4E+145 52+156 53+15E 54+162 63+E7",
  "327 64+1E11 65+229 67+123 68+1E29 6B+137 6C+13C 6E+146 72+157 73+15F 74+163",
  "328 41+104 45+118 49+12E 4F+1EA 55+172 61+105 65+119 69+12F 6F+1EB 75+173",
  "32D 44+1E12 45+1E18 4C+1E3C 4E+1E4A 54+1E70 55+1E76 64+1E13 65+1E19 6C+1E3D 6E+1E4B 74+1E71",
  "32D 75+1E77; 32E 48+1E2A 68+1E2B; 330 45+1E1A 49+1E2C 55+1E74 65+1E1B 69+1E2D 75+1E75",
  "331 42+1E06 44+1E0E 4B+1E34 4C+1E3A 4E+1E48 52+1E5E 54+1E6E 5A+1E94 62+1E07 64+1E0F 68+1E96",
  "331 6B+1E35 6C+1E3B 6E+1E49 72+1E5F 74+1E6F 7A+1E95",
  "338 3C+226E 3D+2260 3E+226F 2190+219A 2192+219B 2194+21AE 21D0+21CD 21D2+21CF 21D4+21CE",
  "338 2203+2204 2208+2209 220B+220C 2223+2224 2225+2226 223C+2241 2243+2244 2245+2247",
  "338 2248+2249 224D+226D 2261+2262 2264+2270 2265+2271 2272+2274 2273+2275 2276+2278",
  "338 2277+2279 227A+2280 227B+2281 227C+22E0 227D+22E1 2282+2284 2283+2285 2286+2288",
  "338 2287+2289 2291+22E2 2292+22E3 22A2+22AC 22A8+22AD 22A9+22AE 22AB+22AF 22B2+22EA",
  "338 22B3+22EB 22B4+22EC 22B5+22ED",
  "342 A8+1FC1 3B1+1FB6 3B7+1FC6 3B9+1FD6 3C5+1FE6 3C9+1FF6 3CA+1FD7 3CB+1FE7 1F00+1F06",
  "342 1F01+1F07 1F08+1F0E 1F09+1F0F 1F20+1F26 1F21+1F27 1F28+1F2E 1F29+1F2F 1F30+1F36",
  "342 1F31+1F37 1F38+1F3E 1F39+1F3F 1F50+1F56 1F51+1F57 1F59+1F5F 1F60+1F66 1F61+1F67",
  "342 1F68+1F6E 1F69+1F6F 1FBF+1FCF 1FFE+1FDF",
  "345 391+1FBC 397+1FCC 3A9+1FFC 3AC+1FB4 3AE+1FC4 3B1+1FB3 3B7+1FC3 3C9+1FF3 3CE+1FF4",
  "345 1F00+1F80 1F01+1F81 1F02+1F82 1F03+1F83 1F04+1F84 1F05+1F85 1F06+1F86 1F07+1F87",
  "345 1F08+1F88 1F09+1F89 1F0A+1F8A 1F0B+1F8B 1F0C+1F8C 1F0D+1F8D 1F0E+1F8E 1F0F+1F8F",
  "345 1F20+1F90 1F21+1F91 1F22+1F92 1F23+1F93 1F24+1F94 1F25+1F95 1F26+1F96 1F27+1F97",
  "345 1F28+1F98 1F29+1F99 1F2A+1F9A 1F2B+1F9B 1F2C+1F9C 1F2D+1F9D 1F2E+1F9E 1F2F+1F9F",
  "345 1F60+1FA0 1F61+1FA1 1F62+1FA2 1F63+1FA3 1F64+1FA4 1F65+1FA5 1F66+1FA6 1F67+1FA7",
  "345 1F68+1FA8 1F69+1FA9 1F6A+1FAA 1F6B+1FAB 1F6C+1FAC 1F6D+1FAD 1F6E+1FAE 1F6F+1FAF",
  "345 1F70+1FB2 1F74+1FC2 1F7C+1FF2 1FB6+1FB7 1FC6+1FC7 1FF6+1FF7; 653 627+622",
  "654 627+623 648+624 64A+626 6C1+6C2 6D2+6D3 6D5+6C0; 655 627+625; 93C 928+929 930+931 933+934",
  "9BE 9C7+9CB; 9D7 9C7+9CC; B3E B47+B4B; B56 B47+B48; B57 B47+B4C; BBE BC6+BCA BC7+BCB",
  "BD7 B92+B94 BC6+BCC; C56 C46+C48; CC2 CC6+CCA; CD5 CBF+CC0 CC6+CC7 CCA+CCB; CD6 CC6+CC8",
  "D3E D46+D4A D47+D4B; D57 D46+D4C; DCA DD9+DDA DDC+DDD; DCF DD9+DDC; DDF DD9+DDE",
  "102E 1025+1026",
  "1B35 1B05+1B06 1B07+1B08 1B09+1B0A 1B0B+1B0C 1B0D+1B0E 1B11+1B12 1B3A+1B3B 1B3C+1B3D",
  "1B35 1B3E+1B40 1B3F+1B41 1B42+1B43",
  "3099 3046+3094 304B+304C 304D+304E 304F+3050 3051+3052 3053+3054 3055+3056 3057+3058",
  "3099 3059+305A 305B+305C 305D+305E 305F+3060 3061+3062 3064+3065 3066+3067 3068+3069",
  "3099 306F+3070 3072+3073 3075+3076 3078+3079 307B+307C 309D+309E 30A6+30F4 30AB+30AC",
  "3099 30AD+30AE 30AF+30B0 30B1+30B2 30B3+30B4 30B5+30B6 30B7+30B8 30B9+30BA 30BB+30BC",
  "3099 30BD+30BE 30BF+30C0 30C1+30C2 30C4+30C5 30C6+30C7 30C8+30C9 30CF+30D0 30D2+30D3",
  "3099 30D5+30D6 30D8+30D9 30DB+30DC 30EF+30F7 30F0+30F8 30F1+30F9 30F2+30FA 30FD+30FE",
  "309A 306F+3071 3072+3074 3075+3077 3078+307A 307B+307D 30CF+30D1 30D2+30D4 30D5+30D7",
  "309A 30D8+30DA 30DB+30DD; 110BA 11099+1109A 1109B+1109C 110A5+110AB",
  "11127 11131+1112E 11132+1112F; 1133E 11347+1134B; 11357 11347+1134C; 114B0 114B9+114BC",
  "114BA 114B9+114BB; 114BD 114B9+114BE; 115AF 115B8+115BA 115B9+115BB; 11930 11935+11938"]

structure Pair where
  first : Nat
  second : Nat
  whole : Nat
  deriving DecidableEq, Repr

/-- the pairs of one entry -/
def pairsOf (entry : List (List Nat)) : List Pair :=
  match entry with
  | [second] :: rest => rest.filterMap fun w =>
    match w with
    | [first, whole] => some ⟨first, second, whole⟩
    | _ => none
  | _ => []

def pairs : List Pair := (hexEntries pairLines).flatMap pairsOf

/-! ## Korean syllables -/

/-- the first syllable, and the first of each of their three kinds of parts -/
def syllableBase : Nat := 0xAC00
def leadBase : Nat := 0x1100
def vowelBase : Nat := 0x1161
def tailBase : Nat := 0x11A7

/-- the number of parts of each kind; no tail counts as one -/
def leadCount : Nat := 19
def vowelCount : Nat := 21
def tailCount : Nat := 28

/-- the place of `c` among `count` code points from `base` on -/
def placeIn (base count : Nat) (c : Char) : Option Nat :=
  if base ≤ c.toNat && c.toNat < base + count then some (c.toNat - base) else none

def syllableParts (c : Char) : Option (List Char) :=
  (placeIn syllableBase (leadCount * vowelCount * tailCount) c).map fun n =>
    let lead := Char.ofNat (leadBase + n / (vowelCount * tailCount))
    let vowel := Char.ofNat (vowelBase + n % (vowelCount * tailCount) / tailCount)
    if n % tailCount = 0 then [lead, vowel]
    else [lead, vowel, Char.ofNat (tailBase + n % tailCount)]

/-- the syllable that two parts make -/
def syllable? (a b : Char) : Option Char :=
  match placeIn leadBase leadCount a, placeIn vowelBase vowelCount b with
  | some l, some v => some (Char.ofNat (syllableBase + (l * vowelCount + v) * tailCount))
  | _, _ =>
    match placeIn syllableBase (leadCount * vowelCount * tailCount) a,
      placeIn tailBase tailCount b with
    | some n, some t =>
      if n % tailCount = 0 && t != 0 then some (Char.ofNat (a.toNat + t)) else none
    | _, _ => none

/-! ## taking apart -/

/-- the two parts of a character that a pair makes -/
def halves? (c : Char) : Option (Char × Char) :=
  (pairs.find? fun p => p.whole == c.toNat).map fun p =>
    (Char.ofNat p.first, Char.ofNat p.second)

/-- the parts of a character, where `depth` bounds how often its first part is a pair again -/
def partsWithin : Nat → Char → List Char
  | 0, c => [c]
  | depth + 1, c =>
    match halves? c with
    | some (a, b) => partsWithin depth a ++ [b]
    | none => [c]

/-- no character is a letter with more marks than this -/
def deepest : Nat := 4

/-- the parts of a character; those of ASCII have none -/
def partsOf (c : Char) : List Char :=
  if c.toNat < 128 then [c] else (syllableParts c).getD (partsWithin deepest c)

/-- one more character behind a reversed text: a mark goes before those of a greater class -/
def addInOrder (c : Char) : List Char → List Char
  | [] => [c]
  | d :: back =>
    if combiningClass c != 0 && combiningClass c < combiningClass d then
      d :: addInOrder c back
    else c :: d :: back

/-- a text taken apart, its marks in order -/
def decomposed (cs : List Char) : List Char :=
  ((cs.flatMap partsOf).foldl (fun back c => addInOrder c back) []).reverse

/-! ## putting together -/

def compose? (a b : Char) : Option Char :=
  match syllable? a b with
  | some c => some c
  | none =>
    (pairs.find? fun p => p.first == a.toNat && p.second == b.toNat).map fun p =>
      Char.ofNat p.whole

/-- a text being put together -/
structure Composing where
  finished : List Char
  /-- the letter that marks still join, if there was one -/
  letter : Option Char
  /-- the marks behind it that did not join, reversed -/
  marks : List Char

namespace Composing

def back (s : Composing) : List Char := s.marks ++ s.letter.toList ++ s.finished

/-- no mark between the letter and a character of this class keeps them apart -/
def isOpen (s : Composing) (k : Nat) : Bool :=
  match s.marks with
  | [] => true
  | m :: _ => combiningClass m < k

def add (s : Composing) (c : Char) : Composing :=
  let k := combiningClass c
  let joined := match s.letter with
    | some l => if s.isOpen k then compose? l c else none
    | none => none
  match joined with
  | some w => { s with letter := some w }
  | none =>
    if k == 0 then ⟨s.back, some c, []⟩ else { s with marks := c :: s.marks }

end Composing

/-- the composed form of a text -/
def composed (cs : List Char) : List Char :=
  ((decomposed cs).foldl Composing.add ⟨[], none, []⟩).back.reverse

end Refetch.Text
