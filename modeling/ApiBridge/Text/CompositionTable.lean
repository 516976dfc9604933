import ApiBridge.Text.CodeRange

/-!
# Composed characters

A letter with marks can be one character, or a letter and marks of their own. The tables here give
the marks and the composed characters as Unicode (version 14) does.
-/

namespace ApiBridge.Text

/-- The classes of marks: marks of different classes stand in the order of their classes. -/
def markClasses : List (Nat × Nat × Nat) :=
  [
    (0x0300, 0x0314, 230), (0x0315, 0x0315, 232), (0x0316, 0x0319, 220), (0x031a, 0x031a, 232),
    (0x031b, 0x031b, 216), (0x031c, 0x0320, 220), (0x0321, 0x0322, 202), (0x0323, 0x0326, 220),
    (0x0327, 0x0328, 202), (0x0329, 0x0333, 220), (0x0334, 0x0338, 1), (0x0339, 0x033c, 220),
    (0x033d, 0x0344, 230), (0x0345, 0x0345, 240), (0x0346, 0x0346, 230), (0x0347, 0x0349, 220),
    (0x034a, 0x034c, 230), (0x034d, 0x034e, 220), (0x0350, 0x0352, 230), (0x0353, 0x0356, 220),
    (0x0357, 0x0357, 230), (0x0358, 0x0358, 232), (0x0359, 0x035a, 220), (0x035b, 0x035b, 230),
    (0x035c, 0x035c, 233), (0x035d, 0x035e, 234), (0x035f, 0x035f, 233), (0x0360, 0x0361, 234),
    (0x0362, 0x0362, 233), (0x0363, 0x036f, 230), (0x0483, 0x0487, 230), (0x0591, 0x0591, 220),
    (0x0592, 0x0595, 230), (0x0596, 0x0596, 220), (0x0597, 0x0599, 230), (0x059a, 0x059a, 222),
    (0x059b, 0x059b, 220), (0x059c, 0x05a1, 230), (0x05a2, 0x05a7, 220), (0x05a8, 0x05a9, 230),
    (0x05aa, 0x05aa, 220), (0x05ab, 0x05ac, 230), (0x05ad, 0x05ad, 222), (0x05ae, 0x05ae, 228),
    (0x05af, 0x05af, 230), (0x05b0, 0x05b0, 10), (0x05b1, 0x05b1, 11), (0x05b2, 0x05b2, 12),
    (0x05b3, 0x05b3, 13), (0x05b4, 0x05b4, 14), (0x05b5, 0x05b5, 15), (0x05b6, 0x05b6, 16),
    (0x05b7, 0x05b7, 17), (0x05b8, 0x05b8, 18), (0x05b9, 0x05ba, 19), (0x05bb, 0x05bb, 20),
    (0x05bc, 0x05bc, 21), (0x05bd, 0x05bd, 22), (0x05bf, 0x05bf, 23), (0x05c1, 0x05c1, 24),
    (0x05c2, 0x05c2, 25), (0x05c4, 0x05c4, 230), (0x05c5, 0x05c5, 220), (0x05c7, 0x05c7, 18),
    (0x0610, 0x0617, 230), (0x0618, 0x0618, 30), (0x0619, 0x0619, 31), (0x061a, 0x061a, 32),
    (0x064b, 0x064b, 27), (0x064c, 0x064c, 28), (0x064d, 0x064d, 29), (0x064e, 0x064e, 30),
    (0x064f, 0x064f, 31), (0x0650, 0x0650, 32), (0x0651, 0x0651, 33), (0x0652, 0x0652, 34),
    (0x0653, 0x0654, 230), (0x0655, 0x0656, 220), (0x0657, 0x065b, 230), (0x065c, 0x065c, 220),
    (0x065d, 0x065e, 230), (0x065f, 0x065f, 220), (0x0670, 0x0670, 35), (0x06d6, 0x06dc, 230),
    (0x06df, 0x06e2, 230), (0x06e3, 0x06e3, 220), (0x06e4, 0x06e4, 230), (0x06e7, 0x06e8, 230),
    (0x06ea, 0x06ea, 220), (0x06eb, 0x06ec, 230), (0x06ed, 0x06ed, 220), (0x0711, 0x0711, 36),
    (0x0730, 0x0730, 230), (0x0731, 0x0731, 220), (0x0732, 0x0733, 230), (0x0734, 0x0734, 220),
    (0x0735, 0x0736, 230), (0x0737, 0x0739, 220), (0x073a, 0x073a, 230), (0x073b, 0x073c, 220),
    (0x073d, 0x073d, 230), (0x073e, 0x073e, 220), (0x073f, 0x0741, 230), (0x0742, 0x0742, 220),
    (0x0743, 0x0743, 230), (0x0744, 0x0744, 220), (0x0745, 0x0745, 230), (0x0746, 0x0746, 220),
    (0x0747, 0x0747, 230), (0x0748, 0x0748, 220), (0x0749, 0x074a, 230), (0x07eb, 0x07f1, 230),
    (0x07f2, 0x07f2, 220), (0x07f3, 0x07f3, 230), (0x07fd, 0x07fd, 220), (0x0816, 0x0819, 230),
    (0x081b, 0x0823, 230), (0x0825, 0x0827, 230), (0x0829, 0x082d, 230), (0x0859, 0x085b, 220),
    (0x0898, 0x0898, 230), (0x0899, 0x089b, 220), (0x089c, 0x089f, 230), (0x08ca, 0x08ce, 230),
    (0x08cf, 0x08d3, 220), (0x08d4, 0x08e1, 230), (0x08e3, 0x08e3, 220), (0x08e4, 0x08e5, 230),
    (0x08e6, 0x08e6, 220), (0x08e7, 0x08e8, 230), (0x08e9, 0x08e9, 220), (0x08ea, 0x08ec, 230),
    (0x08ed, 0x08ef, 220), (0x08f0, 0x08f0, 27), (0x08f1, 0x08f1, 28), (0x08f2, 0x08f2, 29),
    (0x08f3, 0x08f5, 230), (0x08f6, 0x08f6, 220), (0x08f7, 0x08f8, 230), (0x08f9, 0x08fa, 220),
    (0x08fb, 0x08ff, 230), (0x093c, 0x093c, 7), (0x094d, 0x094d, 9), (0x0951, 0x0951, 230),
    (0x0952, 0x0952, 220), (0x0953, 0x0954, 230), (0x09bc, 0x09bc, 7), (0x09cd, 0x09cd, 9),
    (0x09fe, 0x09fe, 230), (0x0a3c, 0x0a3c, 7), (0x0a4d, 0x0a4d, 9), (0x0abc, 0x0abc, 7),
    (0x0acd, 0x0acd, 9), (0x0b3c, 0x0b3c, 7), (0x0b4d, 0x0b4d, 9), (0x0bcd, 0x0bcd, 9),
    (0x0c3c, 0x0c3c, 7), (0x0c4d, 0x0c4d, 9), (0x0c55, 0x0c55, 84), (0x0c56, 0x0c56, 91),
    (0x0cbc, 0x0cbc, 7), (0x0ccd, 0x0ccd, 9), (0x0d3b, 0x0d3c, 9), (0x0d4d, 0x0d4d, 9),
    (0x0dca, 0x0dca, 9), (0x0e38, 0x0e39, 103), (0x0e3a, 0x0e3a, 9), (0x0e48, 0x0e4b, 107),
    (0x0eb8, 0x0eb9, 118), (0x0eba, 0x0eba, 9), (0x0ec8, 0x0ecb, 122), (0x0f18, 0x0f19, 220),
    (0x0f35, 0x0f35, 220), (0x0f37, 0x0f37, 220), (0x0f39, 0x0f39, 216), (0x0f71, 0x0f71, 129),
    (0x0f72, 0x0f72, 130), (0x0f74, 0x0f74, 132), (0x0f7a, 0x0f7d, 130), (0x0f80, 0x0f80, 130),
    (0x0f82, 0x0f83, 230), (0x0f84, 0x0f84, 9), (0x0f86, 0x0f87, 230), (0x0fc6, 0x0fc6, 220),
    (0x1037, 0x1037, 7), (0x1039, 0x103a, 9), (0x108d, 0x108d, 220), (0x135d, 0x135f, 230),
    (0x1714, 0x1715, 9), (0x1734, 0x1734, 9), (0x17d2, 0x17d2, 9), (0x17dd, 0x17dd, 230),
    (0x18a9, 0x18a9, 228), (0x1939, 0x1939, 222), (0x193a, 0x193a, 230), (0x193b, 0x193b, 220),
    (0x1a17, 0x1a17, 230), (0x1a18, 0x1a18, 220), (0x1a60, 0x1a60, 9), (0x1a75, 0x1a7c, 230),
    (0x1a7f, 0x1a7f, 220), (0x1ab0, 0x1ab4, 230), (0x1ab5, 0x1aba, 220), (0x1abb, 0x1abc, 230),
    (0x1abd, 0x1abd, 220), (0x1abf, 0x1ac0, 220), (0x1ac1, 0x1ac2, 230), (0x1ac3, 0x1ac4, 220),
    (0x1ac5, 0x1ac9, 230), (0x1aca, 0x1aca, 220), (0x1acb, 0x1ace, 230), (0x1b34, 0x1b34, 7),
    (0x1b44, 0x1b44, 9), (0x1b6b, 0x1b6b, 230), (0x1b6c, 0x1b6c, 220), (0x1b6d, 0x1b73, 230),
    (0x1baa, 0x1bab, 9), (0x1be6, 0x1be6, 7), (0x1bf2, 0x1bf3, 9), (0x1c37, 0x1c37, 7),
    (0x1cd0, 0x1cd2, 230), (0x1cd4, 0x1cd4, 1), (0x1cd5, 0x1cd9, 220), (0x1cda, 0x1cdb, 230),
    (0x1cdc, 0x1cdf, 220), (0x1ce0, 0x1ce0, 230), (0x1ce2, 0x1ce8, 1), (0x1ced, 0x1ced, 220),
    (0x1cf4, 0x1cf4, 230), (0x1cf8, 0x1cf9, 230), (0x1dc0, 0x1dc1, 230), (0x1dc2, 0x1dc2, 220),
    (0x1dc3, 0x1dc9, 230), (0x1dca, 0x1dca, 220), (0x1dcb, 0x1dcc, 230), (0x1dcd, 0x1dcd, 234),
    (0x1dce, 0x1dce, 214), (0x1dcf, 0x1dcf, 220), (0x1dd0, 0x1dd0, 202), (0x1dd1, 0x1df5, 230),
    (0x1df6, 0x1df6, 232), (0x1df7, 0x1df8, 228), (0x1df9, 0x1df9, 220), (0x1dfa, 0x1dfa, 218),
    (0x1dfb, 0x1dfb, 230), (0x1dfc, 0x1dfc, 233), (0x1dfd, 0x1dfd, 220), (0x1dfe, 0x1dfe, 230),
    (0x1dff, 0x1dff, 220), (0x20d0, 0x20d1, 230), (0x20d2, 0x20d3, 1), (0x20d4, 0x20d7, 230),
    (0x20d8, 0x20da, 1), (0x20db, 0x20dc, 230), (0x20e1, 0x20e1, 230), (0x20e5, 0x20e6, 1),
    (0x20e7, 0x20e7, 230), (0x20e8, 0x20e8, 220), (0x20e9, 0x20e9, 230), (0x20ea, 0x20eb, 1),
    (0x20ec, 0x20ef, 220), (0x20f0, 0x20f0, 230), (0x2cef, 0x2cf1, 230), (0x2d7f, 0x2d7f, 9),
    (0x2de0, 0x2dff, 230), (0x302a, 0x302a, 218), (0x302b, 0x302b, 228), (0x302c, 0x302c, 232),
    (0x302d, 0x302d, 222), (0x302e, 0x302f, 224), (0x3099, 0x309a, 8), (0xa66f, 0xa66f, 230),
    (0xa674, 0xa67d, 230), (0xa69e, 0xa69f, 230), (0xa6f0, 0xa6f1, 230), (0xa806, 0xa806, 9),
    (0xa82c, 0xa82c, 9), (0xa8c4, 0xa8c4, 9), (0xa8e0, 0xa8f1, 230), (0xa92b, 0xa92d, 220),
    (0xa953, 0xa953, 9), (0xa9b3, 0xa9b3, 7), (0xa9c0, 0xa9c0, 9), (0xaab0, 0xaab0, 230),
    (0xaab2, 0xaab3, 230), (0xaab4, 0xaab4, 220), (0xaab7, 0xaab8, 230), (0xaabe, 0xaabf, 230),
    (0xaac1, 0xaac1, 230), (0xaaf6, 0xaaf6, 9), (0xabed, 0xabed, 9), (0xfb1e, 0xfb1e, 26),
    (0xfe20, 0xfe26, 230), (0xfe27, 0xfe2d, 220), (0xfe2e, 0xfe2f, 230), (0x101fd, 0x101fd, 220),
    (0x102e0, 0x102e0, 220), (0x10376, 0x1037a, 230), (0x10a0d, 0x10a0d, 220),
    (0x10a0f, 0x10a0f, 230), (0x10a38, 0x10a38, 230), (0x10a39, 0x10a39, 1),
    (0x10a3a, 0x10a3a, 220), (0x10a3f, 0x10a3f, 9), (0x10ae5, 0x10ae5, 230),
    (0x10ae6, 0x10ae6, 220), (0x10d24, 0x10d27, 230), (0x10eab, 0x10eac, 230),
    (0x10f46, 0x10f47, 220), (0x10f48, 0x10f4a, 230), (0x10f4b, 0x10f4b, 220),
    (0x10f4c, 0x10f4c, 230), (0x10f4d, 0x10f50, 220), (0x10f82, 0x10f82, 230),
    (0x10f83, 0x10f83, 220), (0x10f84, 0x10f84, 230), (0x10f85, 0x10f85, 220),
    (0x11046, 0x11046, 9), (0x11070, 0x11070, 9), (0x1107f, 0x1107f, 9), (0x110b9, 0x110b9, 9),
    (0x110ba, 0x110ba, 7), (0x11100, 0x11102, 230), (0x11133, 0x11134, 9), (0x11173, 0x11173, 7),
    (0x111c0, 0x111c0, 9), (0x111ca, 0x111ca, 7), (0x11235, 0x11235, 9), (0x11236, 0x11236, 7),
    (0x112e9, 0x112e9, 7), (0x112ea, 0x112ea, 9), (0x1133b, 0x1133c, 7), (0x1134d, 0x1134d, 9),
    (0x11366, 0x1136c, 230), (0x11370, 0x11374, 230), (0x11442, 0x11442, 9),
    (0x11446, 0x11446, 7), (0x1145e, 0x1145e, 230), (0x114c2, 0x114c2, 9), (0x114c3, 0x114c3, 7),
    (0x115bf, 0x115bf, 9), (0x115c0, 0x115c0, 7), (0x1163f, 0x1163f, 9), (0x116b6, 0x116b6, 9),
    (0x116b7, 0x116b7, 7), (0x1172b, 0x1172b, 9), (0x11839, 0x11839, 9), (0x1183a, 0x1183a, 7),
    (0x1193d, 0x1193e, 9), (0x11943, 0x11943, 7), (0x119e0, 0x119e0, 9), (0x11a34, 0x11a34, 9),
    (0x11a47, 0x11a47, 9), (0x11a99, 0x11a99, 9), (0x11c3f, 0x11c3f, 9), (0x11d42, 0x11d42, 7),
    (0x11d44, 0x11d45, 9), (0x11d97, 0x11d97, 9), (0x16af0, 0x16af4, 1), (0x16b30, 0x16b36, 230),
    (0x16ff0, 0x16ff1, 6), (0x1bc9e, 0x1bc9e, 1), (0x1d165, 0x1d166, 216), (0x1d167, 0x1d169, 1),
    (0x1d16d, 0x1d16d, 226), (0x1d16e, 0x1d172, 216), (0x1d17b, 0x1d182, 220),
    (0x1d185, 0x1d189, 230), (0x1d18a, 0x1d18b, 220), (0x1d1aa, 0x1d1ad, 230),
    (0x1d242, 0x1d244, 230), (0x1e000, 0x1e006, 230), (0x1e008, 0x1e018, 230),
    (0x1e01b, 0x1e021, 230), (0x1e023, 0x1e024, 230), (0x1e026, 0x1e02a, 230),
    (0x1e130, 0x1e136, 230), (0x1e2ae, 0x1e2ae, 230), (0x1e2ec, 0x1e2ef, 230),
    (0x1e8d0, 0x1e8d6, 220), (0x1e944, 0x1e949, 230), (0x1e94a, 0x1e94a, 7)
  ]

/-- The two parts of composed characters, for runs of characters from a code point on. -/
def composedPairs : List (Nat × String) :=
  [
    (0x00c0, "A\u0300A\u0301A\u0302A\u0303A\u0308A\u030a"),
    (0x00c7, "C\u0327E\u0300E\u0301E\u0302E\u0308I\u0300I\u0301I\u0302I\u0308"),
    (0x00d1, "N\u0303O\u0300O\u0301O\u0302O\u0303O\u0308"),
    (0x00d9, "U\u0300U\u0301U\u0302U\u0308Y\u0301"),
    (0x00e0, "a\u0300a\u0301a\u0302a\u0303a\u0308a\u030a"),
    (0x00e7, "c\u0327e\u0300e\u0301e\u0302e\u0308i\u0300i\u0301i\u0302i\u0308"),
    (0x00f1, "n\u0303o\u0300o\u0301o\u0302o\u0303o\u0308"),
    (0x00f9, "u\u0300u\u0301u\u0302u\u0308y\u0301"),
    (0x00ff, "y\u0308A\u0304a\u0304A\u0306a\u0306A\u0328a\u0328C\u0301c\u0301C\u0302c"
      ++ "\u0302C\u0307c\u0307C\u030cc\u030cD\u030cd\u030c"),
    (0x0112, "E\u0304e\u0304E\u0306e\u0306E\u0307e\u0307E\u0328e\u0328E\u030ce\u030cG"
      ++ "\u0302g\u0302G\u0306g\u0306G\u0307g\u0307G\u0327g\u0327H\u0302h\u0302"),
    (0x0128, "I\u0303i\u0303I\u0304i\u0304I\u0306i\u0306I\u0328i\u0328I\u0307"),
    (0x0134, "J\u0302j\u0302K\u0327k\u0327"),
    (0x0139, "L\u0301l\u0301L\u0327l\u0327L\u030cl\u030c"),
    (0x0143, "N\u0301n\u0301N\u0327n\u0327N\u030cn\u030c"),
    (0x014c, "O\u0304o\u0304O\u0306o\u0306O\u030bo\u030b"),
    (0x0154, "R\u0301r\u0301R\u0327r\u0327R\u030cr\u030cS\u0301s\u0301S\u0302s\u0302S"
      ++ "\u0327s\u0327S\u030cs\u030cT\u0327t\u0327T\u030ct\u030c"),
    (0x0168, "U\u0303u\u0303U\u0304u\u0304U\u0306u\u0306U\u030au\u030aU\u030bu\u030bU"
      ++ "\u0328u\u0328W\u0302w\u0302Y\u0302y\u0302Y\u0308Z\u0301z\u0301Z\u0307z\u0307Z\u030cz"
      ++ "\u030c"),
    (0x01a0, "O\u031bo\u031b"),
    (0x01af, "U\u031bu\u031b"),
    (0x01cd, "A\u030ca\u030cI\u030ci\u030cO\u030co\u030cU\u030cu\u030cÜ\u0304ü\u0304Ü"
      ++ "\u0301ü\u0301Ü\u030cü\u030cÜ\u0300ü\u0300"),
    (0x01de, "Ä\u0304ä\u0304Ȧ\u0304ȧ\u0304Æ\u0304æ\u0304"),
    (0x01e6, "G\u030cg\u030cK\u030ck\u030cO\u0328o\u0328Ǫ\u0304ǫ\u0304Ʒ\u030cʒ\u030cj"
      ++ "\u030c"),
    (0x01f4, "G\u0301g\u0301"),
    (0x01f8, "N\u0300n\u0300Å\u0301å\u0301Æ\u0301æ\u0301Ø\u0301ø\u0301A\u030fa\u030fA"
      ++ "\u0311a\u0311E\u030fe\u030fE\u0311e\u0311I\u030fi\u030fI\u0311i\u0311O\u030fo\u030fO"
      ++ "\u0311o\u0311R\u030fr\u030fR\u0311r\u0311U\u030fu\u030fU\u0311u\u0311S\u0326s\u0326T"
      ++ "\u0326t\u0326"),
    (0x021e, "H\u030ch\u030c"),
    (0x0226, "A\u0307a\u0307E\u0327e\u0327Ö\u0304ö\u0304Õ\u0304õ\u0304O\u0307o\u0307Ȯ"
      ++ "\u0304ȯ\u0304Y\u0304y\u0304"),
    (0x0344, "\u0308\u0301"),
    (0x0385, "¨\u0301Α\u0301"),
    (0x0388, "Ε\u0301Η\u0301Ι\u0301"),
    (0x038c, "Ο\u0301"),
    (0x038e, "Υ\u0301Ω\u0301ϊ\u0301"),
    (0x03aa, "Ι\u0308Υ\u0308α\u0301ε\u0301η\u0301ι\u0301ϋ\u0301"),
    (0x03ca, "ι\u0308υ\u0308ο\u0301υ\u0301ω\u0301"),
    (0x03d3, "ϒ\u0301ϒ\u0308"),
    (0x0400, "Е\u0300Е\u0308"),
    (0x0403, "Г\u0301"),
    (0x0407, "І\u0308"),
    (0x040c, "К\u0301И\u0300У\u0306"),
    (0x0419, "И\u0306"),
    (0x0439, "и\u0306"),
    (0x0450, "е\u0300е\u0308"),
    (0x0453, "г\u0301"),
    (0x0457, "і\u0308"),
    (0x045c, "к\u0301и\u0300у\u0306"),
    (0x0476, "Ѵ\u030fѵ\u030f"),
    (0x04c1, "Ж\u0306ж\u0306"),
    (0x04d0, "А\u0306а\u0306А\u0308а\u0308"),
    (0x04d6, "Е\u0306е\u0306"),
    (0x04da, "Ә\u0308ә\u0308Ж\u0308ж\u0308З\u0308з\u0308"),
    (0x04e2, "И\u0304и\u0304И\u0308и\u0308О\u0308о\u0308"),
    (0x04ea, "Ө\u0308ө\u0308Э\u0308э\u0308У\u0304у\u0304У\u0308у\u0308У\u030bу"
      ++ "\u030bЧ\u0308ч\u0308"),
    (0x04f8, "Ы\u0308ы\u0308"),
    (0x0622, "\u0627\u0653\u0627\u0654\u0648\u0654\u0627\u0655\u064a\u0654"),
    (0x06c0, "\u06d5\u0654"),
    (0x06c2, "\u06c1\u0654"),
    (0x06d3, "\u06d2\u0654"),
    (0x0929, "न\u093c"),
    (0x0931, "र\u093c"),
    (0x0934, "ळ\u093c"),
    (0x0958, "क\u093cख\u093cग\u093cज\u093cड\u093cढ\u093cफ\u093cय\u093c"),
    (0x09cb, "\u09c7\u09be\u09c7\u09d7"),
    (0x09dc, "ড\u09bcঢ\u09bc"),
    (0x09df, "য\u09bc"),
    (0x0a33, "ਲ\u0a3c"),
    (0x0a36, "ਸ\u0a3c"),
    (0x0a59, "ਖ\u0a3cਗ\u0a3cਜ\u0a3c"),
    (0x0a5e, "ਫ\u0a3c"),
    (0x0b48, "\u0b47\u0b56"),
    (0x0b4b, "\u0b47\u0b3e\u0b47\u0b57"),
    (0x0b5c, "ଡ\u0b3cଢ\u0b3c"),
    (0x0b94, "ஒ\u0bd7"),
    (0x0bca, "\u0bc6\u0bbe\u0bc7\u0bbe\u0bc6\u0bd7"),
    (0x0c48, "\u0c46\u0c56"),
    (0x0cc0, "\u0cbf\u0cd5"),
    (0x0cc7, "\u0cc6\u0cd5\u0cc6\u0cd6"),
    (0x0cca, "\u0cc6\u0cc2\u0cca\u0cd5"),
    (0x0d4a, "\u0d46\u0d3e\u0d47\u0d3e\u0d46\u0d57"),
    (0x0dda, "\u0dd9\u0dca"),
    (0x0ddc, "\u0dd9\u0dcf\u0ddc\u0dca\u0dd9\u0ddf"),
    (0x0f43, "ག\u0fb7"),
    (0x0f4d, "ཌ\u0fb7"),
    (0x0f52, "ད\u0fb7"),
    (0x0f57, "བ\u0fb7"),
    (0x0f5c, "ཛ\u0fb7"),
    (0x0f69, "ཀ\u0fb5"),
    (0x0f73, "\u0f71\u0f72"),
    (0x0f75, "\u0f71\u0f74\u0fb2\u0f80"),
    (0x0f78, "\u0fb3\u0f80"),
    (0x0f81, "\u0f71\u0f80"),
    (0x0f93, "\u0f92\u0fb7"),
    (0x0f9d, "\u0f9c\u0fb7"),
    (0x0fa2, "\u0fa1\u0fb7"),
    (0x0fa7, "\u0fa6\u0fb7"),
    (0x0fac, "\u0fab\u0fb7"),
    (0x0fb9, "\u0f90\u0fb5"),
    (0x1026, "ဥ\u102e"),
    (0x1b06, "ᬅ\u1b35"),
    (0x1b08, "ᬇ\u1b35"),
    (0x1b0a, "ᬉ\u1b35"),
    (0x1b0c, "ᬋ\u1b35"),
    (0x1b0e, "ᬍ\u1b35"),
    (0x1b12, "ᬑ\u1b35"),
    (0x1b3b, "\u1b3a\u1b35"),
    (0x1b3d, "\u1b3c\u1b35"),
    (0x1b40, "\u1b3e\u1b35\u1b3f\u1b35"),
    (0x1b43, "\u1b42\u1b35"),
    (0x1e00, "A\u0325a\u0325B\u0307b\u0307B\u0323b\u0323B\u0331b\u0331Ç\u0301ç\u0301D"
      ++ "\u0307d\u0307D\u0323d\u0323D\u0331d\u0331D\u0327d\u0327D\u032dd\u032dĒ\u0300ē\u0300"
      ++ "Ē\u0301ē\u0301E\u032de\u032dE\u0330e\u0330Ȩ\u0306ȩ\u0306F\u0307f\u0307G\u0304g"
      ++ "\u0304H\u0307h\u0307H\u0323h\u0323H\u0308h\u0308H\u0327h\u0327H\u032eh\u032eI\u0330i"
      ++ "\u0330Ï\u0301ï\u0301K\u0301k\u0301K\u0323k\u0323K\u0331k\u0331L\u0323l\u0323Ḷ\u0304ḷ"
      ++ "\u0304L\u0331l\u0331L\u032dl\u032dM\u0301m\u0301M\u0307m\u0307M\u0323m\u0323N\u0307n"
      ++ "\u0307N\u0323n\u0323N\u0331n\u0331N\u032dn\u032dÕ\u0301õ\u0301Õ\u0308õ\u0308Ō\u0300"
      ++ "ō\u0300Ō\u0301ō\u0301P\u0301p\u0301P\u0307p\u0307R\u0307r\u0307R\u0323r\u0323Ṛ"
      ++ "\u0304ṛ\u0304R\u0331r\u0331S\u0307s\u0307S\u0323s\u0323Ś\u0307ś\u0307Š\u0307š\u0307Ṣ"
      ++ "\u0307ṣ\u0307T\u0307t\u0307T\u0323t\u0323T\u0331t\u0331T\u032dt\u032dU\u0324u\u0324U"
      ++ "\u0330u\u0330U\u032du\u032dŨ\u0301ũ\u0301Ū\u0308ū\u0308V\u0303v\u0303V\u0323v\u0323"
      ++ "W\u0300w\u0300W\u0301w\u0301W\u0308w\u0308W\u0307w\u0307W\u0323w\u0323X\u0307x\u0307"
      ++ "X\u0308x\u0308Y\u0307y\u0307Z\u0302z\u0302Z\u0323z\u0323Z\u0331z\u0331h\u0331t\u0308"
      ++ "w\u030ay\u030a"),
    (0x1e9b, "ſ\u0307"),
    (0x1ea0, "A\u0323a\u0323A\u0309a\u0309Â\u0301â\u0301Â\u0300â\u0300Â\u0309â\u0309Â"
      ++ "\u0303â\u0303Ạ\u0302ạ\u0302Ă\u0301ă\u0301Ă\u0300ă\u0300Ă\u0309ă\u0309Ă\u0303ă\u0303Ạ"
      ++ "\u0306ạ\u0306E\u0323e\u0323E\u0309e\u0309E\u0303e\u0303Ê\u0301ê\u0301Ê\u0300ê"
      ++ "\u0300Ê\u0309ê\u0309Ê\u0303ê\u0303Ẹ\u0302ẹ\u0302I\u0309i\u0309I\u0323i\u0323O"
      ++ "\u0323o\u0323O\u0309o\u0309Ô\u0301ô\u0301Ô\u0300ô\u0300Ô\u0309ô\u0309Ô\u0303ô\u0303Ọ"
      ++ "\u0302ọ\u0302Ơ\u0301ơ\u0301Ơ\u0300ơ\u0300Ơ\u0309ơ\u0309Ơ\u0303ơ\u0303Ơ\u0323ơ\u0323U"
      ++ "\u0323u\u0323U\u0309u\u0309Ư\u0301ư\u0301Ư\u0300ư\u0300Ư\u0309ư\u0309Ư\u0303ư\u0303Ư"
      ++ "\u0323ư\u0323Y\u0300y\u0300Y\u0323y\u0323Y\u0309y\u0309Y\u0303y\u0303"),
    (0x1f00, "α\u0313α\u0314ἀ\u0300ἁ\u0300ἀ\u0301ἁ\u0301ἀ\u0342ἁ\u0342Α\u0313Α\u0314Ἀ"
      ++ "\u0300Ἁ\u0300Ἀ\u0301Ἁ\u0301Ἀ\u0342Ἁ\u0342ε\u0313ε\u0314ἐ\u0300ἑ\u0300ἐ\u0301ἑ"
      ++ "\u0301"),
    (0x1f18, "Ε\u0313Ε\u0314Ἐ\u0300Ἑ\u0300Ἐ\u0301Ἑ\u0301"),
    (0x1f20, "η\u0313η\u0314ἠ\u0300ἡ\u0300ἠ\u0301ἡ\u0301ἠ\u0342ἡ\u0342Η\u0313Η\u0314Ἠ"
      ++ "\u0300Ἡ\u0300Ἠ\u0301Ἡ\u0301Ἠ\u0342Ἡ\u0342ι\u0313ι\u0314ἰ\u0300ἱ\u0300ἰ\u0301ἱ"
      ++ "\u0301ἰ\u0342ἱ\u0342Ι\u0313Ι\u0314Ἰ\u0300Ἱ\u0300Ἰ\u0301Ἱ\u0301Ἰ\u0342Ἱ\u0342ο"
      ++ "\u0313ο\u0314ὀ\u0300ὁ\u0300ὀ\u0301ὁ\u0301"),
    (0x1f48, "Ο\u0313Ο\u0314Ὀ\u0300Ὁ\u0300Ὀ\u0301Ὁ\u0301"),
    (0x1f50, "υ\u0313υ\u0314ὐ\u0300ὑ\u0300ὐ\u0301ὑ\u0301ὐ\u0342ὑ\u0342"),
    (0x1f59, "Υ\u0314"),
    (0x1f5b, "Ὑ\u0300"),
    (0x1f5d, "Ὑ\u0301"),
    (0x1f5f, "Ὑ\u0342ω\u0313ω\u0314ὠ\u0300ὡ\u0300ὠ\u0301ὡ\u0301ὠ\u0342ὡ\u0342Ω\u0313Ω"
      ++ "\u0314Ὠ\u0300Ὡ\u0300Ὠ\u0301Ὡ\u0301Ὠ\u0342Ὡ\u0342α\u0300"),
    (0x1f72, "ε\u0300"),
    (0x1f74, "η\u0300"),
    (0x1f76, "ι\u0300"),
    (0x1f78, "ο\u0300"),
    (0x1f7a, "υ\u0300"),
    (0x1f7c, "ω\u0300"),
    (0x1f80, "ἀ\u0345ἁ\u0345ἂ\u0345ἃ\u0345ἄ\u0345ἅ\u0345ἆ\u0345ἇ\u0345Ἀ\u0345Ἁ\u0345Ἂ"
      ++ "\u0345Ἃ\u0345Ἄ\u0345Ἅ\u0345Ἆ\u0345Ἇ\u0345ἠ\u0345ἡ\u0345ἢ\u0345ἣ\u0345ἤ\u0345ἥ\u0345ἦ"
      ++ "\u0345ἧ\u0345Ἠ\u0345Ἡ\u0345Ἢ\u0345Ἣ\u0345Ἤ\u0345Ἥ\u0345Ἦ\u0345Ἧ\u0345ὠ\u0345ὡ\u0345ὢ"
      ++ "\u0345ὣ\u0345ὤ\u0345ὥ\u0345ὦ\u0345ὧ\u0345Ὠ\u0345Ὡ\u0345Ὢ\u0345Ὣ\u0345Ὤ\u0345Ὥ\u0345Ὦ"
      ++ "\u0345Ὧ\u0345α\u0306α\u0304ὰ\u0345α\u0345ά\u0345"),
    (0x1fb6, "α\u0342ᾶ\u0345Α\u0306Α\u0304Α\u0300"),
    (0x1fbc, "Α\u0345"),
    (0x1fc1, "¨\u0342ὴ\u0345η\u0345ή\u0345"),
    (0x1fc6, "η\u0342ῆ\u0345Ε\u0300"),
    (0x1fca, "Η\u0300"),
    (0x1fcc, "Η\u0345᾿\u0300᾿\u0301᾿\u0342ι\u0306ι\u0304ϊ\u0300"),
    (0x1fd6, "ι\u0342ϊ\u0342Ι\u0306Ι\u0304Ι\u0300"),
    (0x1fdd, "῾\u0300῾\u0301῾\u0342υ\u0306υ\u0304ϋ\u0300"),
    (0x1fe4, "ρ\u0313ρ\u0314υ\u0342ϋ\u0342Υ\u0306Υ\u0304Υ\u0300"),
    (0x1fec, "Ρ\u0314¨\u0300"),
    (0x1ff2, "ὼ\u0345ω\u0345ώ\u0345"),
    (0x1ff6, "ω\u0342ῶ\u0345Ο\u0300"),
    (0x1ffa, "Ω\u0300"),
    (0x1ffc, "Ω\u0345"),
    (0x219a, "←\u0338→\u0338"),
    (0x21ae, "↔\u0338"),
    (0x21cd, "⇐\u0338⇔\u0338⇒\u0338"),
    (0x2204, "∃\u0338"),
    (0x2209, "∈\u0338"),
    (0x220c, "∋\u0338"),
    (0x2224, "∣\u0338"),
    (0x2226, "∥\u0338"),
    (0x2241, "∼\u0338"),
    (0x2244, "≃\u0338"),
    (0x2247, "≅\u0338"),
    (0x2249, "≈\u0338"),
    (0x2260, "=\u0338"),
    (0x2262, "≡\u0338"),
    (0x226d, "≍\u0338<\u0338>\u0338≤\u0338≥\u0338"),
    (0x2274, "≲\u0338≳\u0338"),
    (0x2278, "≶\u0338≷\u0338"),
    (0x2280, "≺\u0338≻\u0338"),
    (0x2284, "⊂\u0338⊃\u0338"),
    (0x2288, "⊆\u0338⊇\u0338"),
    (0x22ac, "⊢\u0338⊨\u0338⊩\u0338⊫\u0338"),
    (0x22e0, "≼\u0338≽\u0338⊑\u0338⊒\u0338"),
    (0x22ea, "⊲\u0338⊳\u0338⊴\u0338⊵\u0338"),
    (0x2adc, "⫝\u0338"),
    (0x304c, "か\u3099"),
    (0x304e, "き\u3099"),
    (0x3050, "く\u3099"),
    (0x3052, "け\u3099"),
    (0x3054, "こ\u3099"),
    (0x3056, "さ\u3099"),
    (0x3058, "し\u3099"),
    (0x305a, "す\u3099"),
    (0x305c, "せ\u3099"),
    (0x305e, "そ\u3099"),
    (0x3060, "た\u3099"),
    (0x3062, "ち\u3099"),
    (0x3065, "つ\u3099"),
    (0x3067, "て\u3099"),
    (0x3069, "と\u3099"),
    (0x3070, "は\u3099は\u309a"),
    (0x3073, "ひ\u3099ひ\u309a"),
    (0x3076, "ふ\u3099ふ\u309a"),
    (0x3079, "へ\u3099へ\u309a"),
    (0x307c, "ほ\u3099ほ\u309a"),
    (0x3094, "う\u3099"),
    (0x309e, "ゝ\u3099"),
    (0x30ac, "カ\u3099"),
    (0x30ae, "キ\u3099"),
    (0x30b0, "ク\u3099"),
    (0x30b2, "ケ\u3099"),
    (0x30b4, "コ\u3099"),
    (0x30b6, "サ\u3099"),
    (0x30b8, "シ\u3099"),
    (0x30ba, "ス\u3099"),
    (0x30bc, "セ\u3099"),
    (0x30be, "ソ\u3099"),
    (0x30c0, "タ\u3099"),
    (0x30c2, "チ\u3099"),
    (0x30c5, "ツ\u3099"),
    (0x30c7, "テ\u3099"),
    (0x30c9, "ト\u3099"),
    (0x30d0, "ハ\u3099ハ\u309a"),
    (0x30d3, "ヒ\u3099ヒ\u309a"),
    (0x30d6, "フ\u3099フ\u309a"),
    (0x30d9, "ヘ\u3099ヘ\u309a"),
    (0x30dc, "ホ\u3099ホ\u309a"),
    (0x30f4, "ウ\u3099"),
    (0x30f7, "ワ\u3099ヰ\u3099ヱ\u3099ヲ\u3099"),
    (0x30fe, "ヽ\u3099"),
    (0xfb1d, "\u05d9\u05b4"),
    (0xfb1f, "\u05f2\u05b7"),
    (0xfb2a, "\u05e9\u05c1\u05e9\u05c2\ufb49\u05c1\ufb49\u05c2\u05d0\u05b7\u05d0\u05b8"
      ++ "\u05d0\u05bc\u05d1\u05bc\u05d2\u05bc\u05d3\u05bc\u05d4\u05bc\u05d5\u05bc\u05d6\u05bc"),
    (0xfb38, "\u05d8\u05bc\u05d9\u05bc\u05da\u05bc\u05db\u05bc\u05dc\u05bc"),
    (0xfb3e, "\u05de\u05bc"),
    (0xfb40, "\u05e0\u05bc\u05e1\u05bc"),
    (0xfb43, "\u05e3\u05bc\u05e4\u05bc"),
    (0xfb46, "\u05e6\u05bc\u05e7\u05bc\u05e8\u05bc\u05e9\u05bc\u05ea\u05bc\u05d5\u05b9"
      ++ "\u05d1\u05bf\u05db\u05bf\u05e4\u05bf"),
    (0x1109a, "𑂚"),
    (0x1109c, "𑂜"),
    (0x110ab, "𑂫"),
    (0x1112e, "𑄮𑄯"),
    (0x1134b, "𑍋𑍌"),
    (0x114bb, "𑒻𑒼"),
    (0x114be, "𑒾"),
    (0x115ba, "𑖺𑖻"),
    (0x11938, "𑤸"),
    (0x1d15e, "𝅗𝅥𝅘𝅥𝅘𝅥𝅮𝅘𝅥𝅯𝅘𝅥𝅰𝅘𝅥𝅱𝅘𝅥𝅲"),
    (0x1d1bb, "𝆹𝅥𝆺𝅥𝆹𝅥𝅮𝆺𝅥𝅮𝆹𝅥𝅯𝆺𝅥𝅯")
  ]

/-- The characters that others stand for, for runs of these from a code point on. -/
def composedSingles : List (Nat × String) :=
  [
    (0x0340, "\u0300\u0301"),
    (0x0343, "\u0313"),
    (0x0374, "ʹ"),
    (0x037e, "\u003b"),
    (0x0387, "\u00b7"),
    (0x1f71, "ά"),
    (0x1f73, "έ"),
    (0x1f75, "ή"),
    (0x1f77, "ί"),
    (0x1f79, "ό"),
    (0x1f7b, "ύ"),
    (0x1f7d, "ώ"),
    (0x1fbb, "Ά"),
    (0x1fbe, "ι"),
    (0x1fc9, "Έ"),
    (0x1fcb, "Ή"),
    (0x1fd3, "ΐ"),
    (0x1fdb, "Ί"),
    (0x1fe3, "ΰ"),
    (0x1feb, "Ύ"),
    (0x1fee, "΅`"),
    (0x1ff9, "Ό"),
    (0x1ffb, "Ώ"),
    (0x1ffd, "´"),
    (0x2000, "\u2002\u2003"),
    (0x2126, "Ω"),
    (0x212a, "KÅ"),
    (0x2329, "\u3008\u3009"),
    (0xf900, "豈更車賈滑串句龜龜契金喇奈懶癩羅蘿螺裸邏樂洛烙珞落酪駱亂卵欄爛蘭鸞嵐濫藍襤拉"
      ++ "臘蠟廊朗浪狼郎來冷勞擄櫓爐盧老蘆虜路露魯鷺碌祿綠菉錄鹿論壟弄籠聾牢磊賂雷壘屢樓淚漏累"
      ++ "縷陋勒肋凜凌稜綾菱陵讀拏樂諾丹寧怒率異北磻便復不泌數索參塞省葉說殺辰沈拾若掠略亮兩凉"
      ++ "梁糧良諒量勵呂女廬旅濾礪閭驪麗黎力曆歷轢年憐戀撚漣煉璉秊練聯輦蓮連鍊列劣咽烈裂說廉念"
      ++ "捻殮簾獵令囹寧嶺怜玲瑩羚聆鈴零靈領例禮醴隸惡了僚寮尿料樂燎療蓼遼龍暈阮劉杻柳流溜琉留"
      ++ "硫紐類六戮陸倫崙淪輪律慄栗率隆利吏履易李梨泥理痢罹裏裡里離匿溺吝燐璘藺隣鱗麟林淋臨立"
      ++ "笠粒狀炙識什茶刺切度拓糖宅洞暴輻行降見廓兀嗀"),
    (0xfa10, "塚"),
    (0xfa12, "晴"),
    (0xfa15, "凞猪益礼神祥福靖精羽"),
    (0xfa20, "蘒"),
    (0xfa22, "諸"),
    (0xfa25, "逸都"),
    (0xfa2a, "飯飼館鶴郞隷侮僧免勉勤卑喝嘆器塀墨層屮悔慨憎懲敏既暑梅海渚漢煮爫琢碑社祉祈祐"
      ++ "祖祝禍禎穀突節練縉繁署者臭艹艹著褐視謁謹賓贈辶逸難響頻恵𤋮舘"),
    (0xfa70, "並况全侀充冀勇勺喝啕喙嗢塚墳奄奔婢嬨廒廙彩徭惘慎愈憎慠懲戴揄搜摒敖晴朗望杖歹"
      ++ "殺流滛滋漢瀞煮瞧爵犯猪瑱甆画瘝瘟益盛直睊着磌窱節类絛練缾者荒華蝹襁覆視調諸請謁諾諭謹"
      ++ "變贈輸遲醙鉶陼難靖韛響頋頻鬒龜𢡊𢡄𣏕㮝䀘䀹𥉉𥳐𧻓齃龎"),
    (0x2f800, "丽丸乁𠄢你侮侻倂偺備僧像㒞𠘺免兔兤具𠔜㒹內再𠕋冗冤仌冬况𩇟凵刃㓟刻剆割剷㔕勇"
      ++ "勉勤勺包匆北卉卑博即卽卿卿卿𠨬灰及叟𠭣叫叱吆咞吸呈周咢哶唐啓啣善善喙喫喳嗂圖嘆圗噑噴"
      ++ "切壮城埴堍型堲報墬𡓤売壷夆多夢奢𡚨𡛪姬娛娧姘婦㛮㛼嬈嬾嬾𡧈寃寘寧寳𡬘寿将当尢㞁屠屮峀"
      ++ "岍𡷤嵃𡷦嵮嵫嵼巡巢㠯巽帨帽幩㡢𢆃㡼庰庳庶廊𪎒廾𢌱𢌱舁弢弢㣇𣊸𦇚形彫㣣徚忍志忹悁㤺㤜悔"
      ++ "𢛔惇慈慌慎慌慺憎憲憤憯懞懲懶成戛扝抱拔捐𢬌挽拼捨掃揤𢯱搢揅掩㨮摩摾撝摷㩬敏敬𣀊旣書晉"
      ++ "㬙暑㬈㫤冒冕最暜肭䏙朗望朡杞杓𣏃㭉柺枅桒梅𣑭梎栟椔㮝楂榣槪檨𣚣櫛㰘次𣢧歔㱎歲殟殺殻𣪍"
      ++ "𡴋𣫺汎𣲼沿泍汧洖派海流浩浸涅𣴞洴港湮㴳滋滇𣻑淹潮𣽞𣾎濆瀹瀞瀛㶖灊災灷炭𠔥煅𤉣熜𤎫爨爵"
      ++ "牐𤘈犀犕𤜵𤠔獺王㺬玥㺸㺸瑇瑜瑱璅瓊㼛甤𤰶甾𤲒異𢆟瘐𤾡𤾸𥁄㿼䀈直𥃳𥃲𥄙𥄳眞真真睊䀹瞋䁆"
      ++ "䂖𥐝硎碌磌䃣𥘦祖𥚚𥛅福秫䄯穀穊穏𥥼𥪧𥪧竮䈂𥮫篆築䈧𥲀糒䊠糨糣紀𥾆絣䌁緇縂繅䌴𦈨𦉇䍙𦋙"
      ++ "罺𦌾羕翺者𦓚𦔣聠𦖨聰𣍟䏕育脃䐋脾媵𦞧𦞵𣎓𣎜舁舄辞䑫芑芋芝劳花芳芽苦𦬼若茝荣莭茣莽菧著"
      ++ "荓菊菌菜𦰶𦵫𦳕䔫蓱蓳蔖𧏊蕤𦼬䕝䕡𦾱𧃒䕫虐虜虧虩蚩蚈蜎蛢蝹蜨蝫螆䗗蟡蠁䗹衠衣𧙧裗裞䘵裺"
      ++ "㒻𧢮𧥦䚾䛇誠諭變豕𧲨貫賁贛起𧼯𠠄跋趼跰𠣞軔輸𨗒𨗭邔郱鄑𨜮鄛鈸鋗鋘鉼鏹鐕𨯺開䦕閷𨵷䧦雃"
      ++ "嶲霣𩅅𩈚䩮䩶韠𩐊䪲𩒖頋頋頩𩖶飢䬳餩馧駂駾䯎𩬰鬒鱀鳽䳎䳭鵧𪃎䳸𪄅𪈎𪊑麻䵖黹黾鼅鼏鼖鼻𪘀")
  ]

/-- The composed characters that are always written as two. -/
def neverComposed : List CodeRange :=
  [
    (0x0344, 0x0344), (0x0958, 0x095f), (0x09dc, 0x09dd), (0x09df, 0x09df), (0x0a33, 0x0a33),
    (0x0a36, 0x0a36), (0x0a59, 0x0a5b), (0x0a5e, 0x0a5e), (0x0b5c, 0x0b5d), (0x0f43, 0x0f43),
    (0x0f4d, 0x0f4d), (0x0f52, 0x0f52), (0x0f57, 0x0f57), (0x0f5c, 0x0f5c), (0x0f69, 0x0f69),
    (0x0f73, 0x0f73), (0x0f75, 0x0f76), (0x0f78, 0x0f78), (0x0f81, 0x0f81), (0x0f93, 0x0f93),
    (0x0f9d, 0x0f9d), (0x0fa2, 0x0fa2), (0x0fa7, 0x0fa7), (0x0fac, 0x0fac), (0x0fb9, 0x0fb9),
    (0x2adc, 0x2adc), (0xfb1d, 0xfb1d), (0xfb1f, 0xfb1f), (0xfb2a, 0xfb36), (0xfb38, 0xfb3c),
    (0xfb3e, 0xfb3e), (0xfb40, 0xfb41), (0xfb43, 0xfb44), (0xfb46, 0xfb4e), (0x1d15e, 0x1d164),
    (0x1d1bb, 0x1d1c0)
  ].map CodeRange.ofPair

end ApiBridge.Text
