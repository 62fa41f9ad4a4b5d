/-!
# Code pages

Encodings of one byte a character, in which the lower half is ASCII.

## Main definitions

* `CodePage.all` : the upper halves by the names of the encodings.
* `CodePage.named?` : the upper half of an encoding.
-/

namespace LoginGate.CodePage

set_option maxRecDepth 8000 in
/-- The names of an encoding, and its upper half as runs `(first code, count)`; a byte that stands
for nothing has the code U+FFFD. -/
def all : List (List String × List (Nat × Nat)) := [
  (["iso8859_2", "iso_8859_2", "latin2", "l2"], [(0x80, 33), (0x104, 1), (0x2D8, 1), (0x141, 1),
  (0xA4, 1), (0x13D, 1), (0x15A, 1), (0xA7, 2), (0x160, 1), (0x15E, 1), (0x164, 1), (0x179, 1),
  (0xAD, 1), (0x17D, 1), (0x17B, 1), (0xB0, 1), (0x105, 1), (0x2DB, 1), (0x142, 1), (0xB4, 1),
  (0x13E, 1), (0x15B, 1), (0x2C7, 1), (0xB8, 1), (0x161, 1), (0x15F, 1), (0x165, 1), (0x17A, 1),
  (0x2DD, 1), (0x17E, 1), (0x17C, 1), (0x154, 1), (0xC1, 2), (0x102, 1), (0xC4, 1), (0x139, 1),
  (0x106, 1), (0xC7, 1), (0x10C, 1), (0xC9, 1), (0x118, 1), (0xCB, 1), (0x11A, 1), (0xCD, 2),
  (0x10E, 1), (0x110, 1), (0x143, 1), (0x147, 1), (0xD3, 2), (0x150, 1), (0xD6, 2), (0x158, 1),
  (0x16E, 1), (0xDA, 1), (0x170, 1), (0xDC, 2), (0x162, 1), (0xDF, 1), (0x155, 1), (0xE1, 2),
  (0x103, 1), (0xE4, 1), (0x13A, 1), (0x107, 1), (0xE7, 1), (0x10D, 1), (0xE9, 1), (0x119, 1),
  (0xEB, 1), (0x11B, 1), (0xED, 2), (0x10F, 1), (0x111, 1), (0x144, 1), (0x148, 1), (0xF3, 2),
  (0x151, 1), (0xF6, 2), (0x159, 1), (0x16F, 1), (0xFA, 1), (0x171, 1), (0xFC, 2), (0x163, 1),
  (0x2D9, 1)]),
  (["iso8859_3", "iso_8859_3", "latin3", "l3"], [(0x80, 33), (0x126, 1), (0x2D8, 1), (0xA3, 2),
  (0xFFFD, 1), (0x124, 1), (0xA7, 2), (0x130, 1), (0x15E, 1), (0x11E, 1), (0x134, 1), (0xAD, 1),
  (0xFFFD, 1), (0x17B, 1), (0xB0, 1), (0x127, 1), (0xB2, 4), (0x125, 1), (0xB7, 2), (0x131, 1),
  (0x15F, 1), (0x11F, 1), (0x135, 1), (0xBD, 1), (0xFFFD, 1), (0x17C, 1), (0xC0, 3), (0xFFFD, 1),
  (0xC4, 1), (0x10A, 1), (0x108, 1), (0xC7, 9), (0xFFFD, 1), (0xD1, 4), (0x120, 1), (0xD6, 2),
  (0x11C, 1), (0xD9, 4), (0x16C, 1), (0x15C, 1), (0xDF, 4), (0xFFFD, 1), (0xE4, 1), (0x10B, 1),
  (0x109, 1), (0xE7, 9), (0xFFFD, 1), (0xF1, 4), (0x121, 1), (0xF6, 2), (0x11D, 1), (0xF9, 4),
  (0x16D, 1), (0x15D, 1), (0x2D9, 1)]),
  (["iso8859_4", "iso_8859_4", "latin4", "l4"], [(0x80, 33), (0x104, 1), (0x138, 1), (0x156, 1),
  (0xA4, 1), (0x128, 1), (0x13B, 1), (0xA7, 2), (0x160, 1), (0x112, 1), (0x122, 1), (0x166, 1),
  (0xAD, 1), (0x17D, 1), (0xAF, 2), (0x105, 1), (0x2DB, 1), (0x157, 1), (0xB4, 1), (0x129, 1),
  (0x13C, 1), (0x2C7, 1), (0xB8, 1), (0x161, 1), (0x113, 1), (0x123, 1), (0x167, 1), (0x14A, 1),
  (0x17E, 1), (0x14B, 1), (0x100, 1), (0xC1, 6), (0x12E, 1), (0x10C, 1), (0xC9, 1), (0x118, 1),
  (0xCB, 1), (0x116, 1), (0xCD, 2), (0x12A, 1), (0x110, 1), (0x145, 1), (0x14C, 1), (0x136, 1),
  (0xD4, 5), (0x172, 1), (0xDA, 3), (0x168, 1), (0x16A, 1), (0xDF, 1), (0x101, 1), (0xE1, 6),
  (0x12F, 1), (0x10D, 1), (0xE9, 1), (0x119, 1), (0xEB, 1), (0x117, 1), (0xED, 2), (0x12B, 1),
  (0x111, 1), (0x146, 1), (0x14D, 1), (0x137, 1), (0xF4, 5), (0x173, 1), (0xFA, 3), (0x169, 1),
  (0x16B, 1), (0x2D9, 1)]),
  (["iso8859_5", "iso_8859_5", "cyrillic"], [(0x80, 33), (0x401, 12), (0xAD, 1), (0x40E, 66),
  (0x2116, 1), (0x451, 12), (0xA7, 1), (0x45E, 2)]),
  (["iso8859_6", "iso_8859_6", "arabic"], [(0x80, 33), (0xFFFD, 3), (0xA4, 1), (0xFFFD, 7),
  (0x60C, 1), (0xAD, 1), (0xFFFD, 13), (0x61B, 1), (0xFFFD, 3), (0x61F, 1), (0xFFFD, 1), (0x621,
  26), (0xFFFD, 5), (0x640, 19), (0xFFFD, 13)]),
  (["iso8859_7", "iso_8859_7", "greek"], [(0x80, 33), (0x2018, 2), (0xA3, 1), (0x20AC, 1),
  (0x20AF, 1), (0xA6, 4), (0x37A, 1), (0xAB, 3), (0xFFFD, 1), (0x2015, 1), (0xB0, 4), (0x384, 3),
  (0xB7, 1), (0x388, 3), (0xBB, 1), (0x38C, 1), (0xBD, 1), (0x38E, 20), (0xFFFD, 1), (0x3A3, 44),
  (0xFFFD, 1)]),
  (["iso8859_8", "iso_8859_8", "hebrew"], [(0x80, 33), (0xFFFD, 1), (0xA2, 8), (0xD7, 1), (0xAB,
  15), (0xF7, 1), (0xBB, 4), (0xFFFD, 32), (0x2017, 1), (0x5D0, 27), (0xFFFD, 2), (0x200E, 2),
  (0xFFFD, 1)]),
  (["iso8859_9", "iso_8859_9", "latin5", "l5"], [(0x80, 80), (0x11E, 1), (0xD1, 12), (0x130, 1),
  (0x15E, 1), (0xDF, 17), (0x11F, 1), (0xF1, 12), (0x131, 1), (0x15F, 1), (0xFF, 1)]),
  (["iso8859_10", "iso_8859_10", "latin6", "l6"], [(0x80, 33), (0x104, 1), (0x112, 1), (0x122, 1),
  (0x12A, 1), (0x128, 1), (0x136, 1), (0xA7, 1), (0x13B, 1), (0x110, 1), (0x160, 1), (0x166, 1),
  (0x17D, 1), (0xAD, 1), (0x16A, 1), (0x14A, 1), (0xB0, 1), (0x105, 1), (0x113, 1), (0x123, 1),
  (0x12B, 1), (0x129, 1), (0x137, 1), (0xB7, 1), (0x13C, 1), (0x111, 1), (0x161, 1), (0x167, 1),
  (0x17E, 1), (0x2015, 1), (0x16B, 1), (0x14B, 1), (0x100, 1), (0xC1, 6), (0x12E, 1), (0x10C, 1),
  (0xC9, 1), (0x118, 1), (0xCB, 1), (0x116, 1), (0xCD, 4), (0x145, 1), (0x14C, 1), (0xD3, 4),
  (0x168, 1), (0xD8, 1), (0x172, 1), (0xDA, 6), (0x101, 1), (0xE1, 6), (0x12F, 1), (0x10D, 1),
  (0xE9, 1), (0x119, 1), (0xEB, 1), (0x117, 1), (0xED, 4), (0x146, 1), (0x14D, 1), (0xF3, 4),
  (0x169, 1), (0xF8, 1), (0x173, 1), (0xFA, 5), (0x138, 1)]),
  (["iso8859_11", "iso_8859_11"], [(0x80, 33), (0xE01, 58), (0xFFFD, 4), (0xE3F, 29), (0xFFFD,
  4)]),
  (["iso8859_13", "iso_8859_13", "latin7", "l7"], [(0x80, 33), (0x201D, 1), (0xA2, 3), (0x201E,
  1), (0xA6, 2), (0xD8, 1), (0xA9, 1), (0x156, 1), (0xAB, 4), (0xC6, 1), (0xB0, 4), (0x201C, 1),
  (0xB5, 3), (0xF8, 1), (0xB9, 1), (0x157, 1), (0xBB, 4), (0xE6, 1), (0x104, 1), (0x12E, 1),
  (0x100, 1), (0x106, 1), (0xC4, 2), (0x118, 1), (0x112, 1), (0x10C, 1), (0xC9, 1), (0x179, 1),
  (0x116, 1), (0x122, 1), (0x136, 1), (0x12A, 1), (0x13B, 1), (0x160, 1), (0x143, 1), (0x145, 1),
  (0xD3, 1), (0x14C, 1), (0xD5, 3), (0x172, 1), (0x141, 1), (0x15A, 1), (0x16A, 1), (0xDC, 1),
  (0x17B, 1), (0x17D, 1), (0xDF, 1), (0x105, 1), (0x12F, 1), (0x101, 1), (0x107, 1), (0xE4, 2),
  (0x119, 1), (0x113, 1), (0x10D, 1), (0xE9, 1), (0x17A, 1), (0x117, 1), (0x123, 1), (0x137, 1),
  (0x12B, 1), (0x13C, 1), (0x161, 1), (0x144, 1), (0x146, 1), (0xF3, 1), (0x14D, 1), (0xF5, 3),
  (0x173, 1), (0x142, 1), (0x15B, 1), (0x16B, 1), (0xFC, 1), (0x17C, 1), (0x17E, 1), (0x2019, 1)]),
  (["iso8859_14", "iso_8859_14", "latin8", "l8"], [(0x80, 33), (0x1E02, 2), (0xA3, 1), (0x10A, 2),
  (0x1E0A, 1), (0xA7, 1), (0x1E80, 1), (0xA9, 1), (0x1E82, 1), (0x1E0B, 1), (0x1EF2, 1), (0xAD,
  2), (0x178, 1), (0x1E1E, 2), (0x120, 2), (0x1E40, 2), (0xB6, 1), (0x1E56, 1), (0x1E81, 1),
  (0x1E57, 1), (0x1E83, 1), (0x1E60, 1), (0x1EF3, 1), (0x1E84, 2), (0x1E61, 1), (0xC0, 16),
  (0x174, 1), (0xD1, 6), (0x1E6A, 1), (0xD8, 6), (0x176, 1), (0xDF, 17), (0x175, 1), (0xF1, 6),
  (0x1E6B, 1), (0xF8, 6), (0x177, 1), (0xFF, 1)]),
  (["iso8859_15", "iso_8859_15", "latin9", "l9"], [(0x80, 36), (0x20AC, 1), (0xA5, 1), (0x160, 1),
  (0xA7, 1), (0x161, 1), (0xA9, 11), (0x17D, 1), (0xB5, 3), (0x17E, 1), (0xB9, 3), (0x152, 2),
  (0x178, 1), (0xBF, 65)]),
  (["iso8859_16", "iso_8859_16", "latin10", "l10"], [(0x80, 33), (0x104, 2), (0x141, 1), (0x20AC,
  1), (0x201E, 1), (0x160, 1), (0xA7, 1), (0x161, 1), (0xA9, 1), (0x218, 1), (0xAB, 1), (0x179,
  1), (0xAD, 1), (0x17A, 2), (0xB0, 2), (0x10C, 1), (0x142, 1), (0x17D, 1), (0x201D, 1), (0xB6,
  2), (0x17E, 1), (0x10D, 1), (0x219, 1), (0xBB, 1), (0x152, 2), (0x178, 1), (0x17C, 1), (0xC0,
  3), (0x102, 1), (0xC4, 1), (0x106, 1), (0xC6, 10), (0x110, 1), (0x143, 1), (0xD2, 3), (0x150,
  1), (0xD6, 1), (0x15A, 1), (0x170, 1), (0xD9, 4), (0x118, 1), (0x21A, 1), (0xDF, 4), (0x103, 1),
  (0xE4, 1), (0x107, 1), (0xE6, 10), (0x111, 1), (0x144, 1), (0xF2, 3), (0x151, 1), (0xF6, 1),
  (0x15B, 1), (0x171, 1), (0xF9, 4), (0x119, 1), (0x21B, 1), (0xFF, 1)]),
  (["cp1250", "windows_1250", "1250"], [(0x20AC, 1), (0xFFFD, 1), (0x201A, 1), (0xFFFD, 1),
  (0x201E, 1), (0x2026, 1), (0x2020, 2), (0xFFFD, 1), (0x2030, 1), (0x160, 1), (0x2039, 1),
  (0x15A, 1), (0x164, 1), (0x17D, 1), (0x179, 1), (0xFFFD, 1), (0x2018, 2), (0x201C, 2), (0x2022,
  1), (0x2013, 2), (0xFFFD, 1), (0x2122, 1), (0x161, 1), (0x203A, 1), (0x15B, 1), (0x165, 1),
  (0x17E, 1), (0x17A, 1), (0xA0, 1), (0x2C7, 1), (0x2D8, 1), (0x141, 1), (0xA4, 1), (0x104, 1),
  (0xA6, 4), (0x15E, 1), (0xAB, 4), (0x17B, 1), (0xB0, 2), (0x2DB, 1), (0x142, 1), (0xB4, 5),
  (0x105, 1), (0x15F, 1), (0xBB, 1), (0x13D, 1), (0x2DD, 1), (0x13E, 1), (0x17C, 1), (0x154, 1),
  (0xC1, 2), (0x102, 1), (0xC4, 1), (0x139, 1), (0x106, 1), (0xC7, 1), (0x10C, 1), (0xC9, 1),
  (0x118, 1), (0xCB, 1), (0x11A, 1), (0xCD, 2), (0x10E, 1), (0x110, 1), (0x143, 1), (0x147, 1),
  (0xD3, 2), (0x150, 1), (0xD6, 2), (0x158, 1), (0x16E, 1), (0xDA, 1), (0x170, 1), (0xDC, 2),
  (0x162, 1), (0xDF, 1), (0x155, 1), (0xE1, 2), (0x103, 1), (0xE4, 1), (0x13A, 1), (0x107, 1),
  (0xE7, 1), (0x10D, 1), (0xE9, 1), (0x119, 1), (0xEB, 1), (0x11B, 1), (0xED, 2), (0x10F, 1),
  (0x111, 1), (0x144, 1), (0x148, 1), (0xF3, 2), (0x151, 1), (0xF6, 2), (0x159, 1), (0x16F, 1),
  (0xFA, 1), (0x171, 1), (0xFC, 2), (0x163, 1), (0x2D9, 1)]),
  (["cp1251", "windows_1251", "1251"], [(0x402, 2), (0x201A, 1), (0x453, 1), (0x201E, 1), (0x2026,
  1), (0x2020, 2), (0x20AC, 1), (0x2030, 1), (0x409, 1), (0x2039, 1), (0x40A, 1), (0x40C, 1),
  (0x40B, 1), (0x40F, 1), (0x452, 1), (0x2018, 2), (0x201C, 2), (0x2022, 1), (0x2013, 2), (0xFFFD,
  1), (0x2122, 1), (0x459, 1), (0x203A, 1), (0x45A, 1), (0x45C, 1), (0x45B, 1), (0x45F, 1), (0xA0,
  1), (0x40E, 1), (0x45E, 1), (0x408, 1), (0xA4, 1), (0x490, 1), (0xA6, 2), (0x401, 1), (0xA9, 1),
  (0x404, 1), (0xAB, 4), (0x407, 1), (0xB0, 2), (0x406, 1), (0x456, 1), (0x491, 1), (0xB5, 3),
  (0x451, 1), (0x2116, 1), (0x454, 1), (0xBB, 1), (0x458, 1), (0x405, 1), (0x455, 1), (0x457, 1),
  (0x410, 64)]),
  (["cp1252", "windows_1252", "1252"], [(0x20AC, 1), (0xFFFD, 1), (0x201A, 1), (0x192, 1),
  (0x201E, 1), (0x2026, 1), (0x2020, 2), (0x2C6, 1), (0x2030, 1), (0x160, 1), (0x2039, 1), (0x152,
  1), (0xFFFD, 1), (0x17D, 1), (0xFFFD, 2), (0x2018, 2), (0x201C, 2), (0x2022, 1), (0x2013, 2),
  (0x2DC, 1), (0x2122, 1), (0x161, 1), (0x203A, 1), (0x153, 1), (0xFFFD, 1), (0x17E, 1), (0x178,
  1), (0xA0, 96)]),
  (["cp1253", "windows_1253", "1253"], [(0x20AC, 1), (0xFFFD, 1), (0x201A, 1), (0x192, 1),
  (0x201E, 1), (0x2026, 1), (0x2020, 2), (0xFFFD, 1), (0x2030, 1), (0xFFFD, 1), (0x2039, 1),
  (0xFFFD, 5), (0x2018, 2), (0x201C, 2), (0x2022, 1), (0x2013, 2), (0xFFFD, 1), (0x2122, 1),
  (0xFFFD, 1), (0x203A, 1), (0xFFFD, 4), (0xA0, 1), (0x385, 2), (0xA3, 7), (0xFFFD, 1), (0xAB, 4),
  (0x2015, 1), (0xB0, 4), (0x384, 1), (0xB5, 3), (0x388, 3), (0xBB, 1), (0x38C, 1), (0xBD, 1),
  (0x38E, 20), (0xFFFD, 1), (0x3A3, 44), (0xFFFD, 1)]),
  (["cp1254", "windows_1254", "1254"], [(0x20AC, 1), (0xFFFD, 1), (0x201A, 1), (0x192, 1),
  (0x201E, 1), (0x2026, 1), (0x2020, 2), (0x2C6, 1), (0x2030, 1), (0x160, 1), (0x2039, 1), (0x152,
  1), (0xFFFD, 4), (0x2018, 2), (0x201C, 2), (0x2022, 1), (0x2013, 2), (0x2DC, 1), (0x2122, 1),
  (0x161, 1), (0x203A, 1), (0x153, 1), (0xFFFD, 2), (0x178, 1), (0xA0, 48), (0x11E, 1), (0xD1,
  12), (0x130, 1), (0x15E, 1), (0xDF, 17), (0x11F, 1), (0xF1, 12), (0x131, 1), (0x15F, 1), (0xFF,
  1)]),
  (["cp1255", "windows_1255", "1255"], [(0x20AC, 1), (0xFFFD, 1), (0x201A, 1), (0x192, 1),
  (0x201E, 1), (0x2026, 1), (0x2020, 2), (0x2C6, 1), (0x2030, 1), (0xFFFD, 1), (0x2039, 1),
  (0xFFFD, 5), (0x2018, 2), (0x201C, 2), (0x2022, 1), (0x2013, 2), (0x2DC, 1), (0x2122, 1),
  (0xFFFD, 1), (0x203A, 1), (0xFFFD, 4), (0xA0, 4), (0x20AA, 1), (0xA5, 5), (0xD7, 1), (0xAB, 15),
  (0xF7, 1), (0xBB, 5), (0x5B0, 10), (0xFFFD, 1), (0x5BB, 9), (0x5F0, 5), (0xFFFD, 7), (0x5D0,
  27), (0xFFFD, 2), (0x200E, 2), (0xFFFD, 1)]),
  (["cp1256", "windows_1256", "1256"], [(0x20AC, 1), (0x67E, 1), (0x201A, 1), (0x192, 1), (0x201E,
  1), (0x2026, 1), (0x2020, 2), (0x2C6, 1), (0x2030, 1), (0x679, 1), (0x2039, 1), (0x152, 1),
  (0x686, 1), (0x698, 1), (0x688, 1), (0x6AF, 1), (0x2018, 2), (0x201C, 2), (0x2022, 1), (0x2013,
  2), (0x6A9, 1), (0x2122, 1), (0x691, 1), (0x203A, 1), (0x153, 1), (0x200C, 2), (0x6BA, 1),
  (0xA0, 1), (0x60C, 1), (0xA2, 8), (0x6BE, 1), (0xAB, 15), (0x61B, 1), (0xBB, 4), (0x61F, 1),
  (0x6C1, 1), (0x621, 22), (0xD7, 1), (0x637, 4), (0x640, 4), (0xE0, 1), (0x644, 1), (0xE2, 1),
  (0x645, 4), (0xE7, 5), (0x649, 2), (0xEE, 2), (0x64B, 4), (0xF4, 1), (0x64F, 2), (0xF7, 1),
  (0x651, 1), (0xF9, 1), (0x652, 1), (0xFB, 2), (0x200E, 2), (0x6D2, 1)]),
  (["cp1257", "windows_1257", "1257"], [(0x20AC, 1), (0xFFFD, 1), (0x201A, 1), (0xFFFD, 1),
  (0x201E, 1), (0x2026, 1), (0x2020, 2), (0xFFFD, 1), (0x2030, 1), (0xFFFD, 1), (0x2039, 1),
  (0xFFFD, 1), (0xA8, 1), (0x2C7, 1), (0xB8, 1), (0xFFFD, 1), (0x2018, 2), (0x201C, 2), (0x2022,
  1), (0x2013, 2), (0xFFFD, 1), (0x2122, 1), (0xFFFD, 1), (0x203A, 1), (0xFFFD, 1), (0xAF, 1),
  (0x2DB, 1), (0xFFFD, 1), (0xA0, 1), (0xFFFD, 1), (0xA2, 3), (0xFFFD, 1), (0xA6, 2), (0xD8, 1),
  (0xA9, 1), (0x156, 1), (0xAB, 4), (0xC6, 1), (0xB0, 8), (0xF8, 1), (0xB9, 1), (0x157, 1), (0xBB,
  4), (0xE6, 1), (0x104, 1), (0x12E, 1), (0x100, 1), (0x106, 1), (0xC4, 2), (0x118, 1), (0x112,
  1), (0x10C, 1), (0xC9, 1), (0x179, 1), (0x116, 1), (0x122, 1), (0x136, 1), (0x12A, 1), (0x13B,
  1), (0x160, 1), (0x143, 1), (0x145, 1), (0xD3, 1), (0x14C, 1), (0xD5, 3), (0x172, 1), (0x141,
  1), (0x15A, 1), (0x16A, 1), (0xDC, 1), (0x17B, 1), (0x17D, 1), (0xDF, 1), (0x105, 1), (0x12F,
  1), (0x101, 1), (0x107, 1), (0xE4, 2), (0x119, 1), (0x113, 1), (0x10D, 1), (0xE9, 1), (0x17A,
  1), (0x117, 1), (0x123, 1), (0x137, 1), (0x12B, 1), (0x13C, 1), (0x161, 1), (0x144, 1), (0x146,
  1), (0xF3, 1), (0x14D, 1), (0xF5, 3), (0x173, 1), (0x142, 1), (0x15B, 1), (0x16B, 1), (0xFC, 1),
  (0x17C, 1), (0x17E, 1), (0x2D9, 1)]),
  (["cp1258", "windows_1258", "1258"], [(0x20AC, 1), (0xFFFD, 1), (0x201A, 1), (0x192, 1),
  (0x201E, 1), (0x2026, 1), (0x2020, 2), (0x2C6, 1), (0x2030, 1), (0xFFFD, 1), (0x2039, 1),
  (0x152, 1), (0xFFFD, 4), (0x2018, 2), (0x201C, 2), (0x2022, 1), (0x2013, 2), (0x2DC, 1),
  (0x2122, 1), (0xFFFD, 1), (0x203A, 1), (0x153, 1), (0xFFFD, 2), (0x178, 1), (0xA0, 35), (0x102,
  1), (0xC4, 8), (0x300, 1), (0xCD, 3), (0x110, 1), (0xD1, 1), (0x309, 1), (0xD3, 2), (0x1A0, 1),
  (0xD6, 7), (0x1AF, 1), (0x303, 1), (0xDF, 4), (0x103, 1), (0xE4, 8), (0x301, 1), (0xED, 3),
  (0x111, 1), (0xF1, 1), (0x323, 1), (0xF3, 2), (0x1A1, 1), (0xF6, 7), (0x1B0, 1), (0x20AB, 1),
  (0xFF, 1)]),
  (["koi8_r"], [(0x2500, 1), (0x2502, 1), (0x250C, 1), (0x2510, 1), (0x2514, 1), (0x2518, 1),
  (0x251C, 1), (0x2524, 1), (0x252C, 1), (0x2534, 1), (0x253C, 1), (0x2580, 1), (0x2584, 1),
  (0x2588, 1), (0x258C, 1), (0x2590, 4), (0x2320, 1), (0x25A0, 1), (0x2219, 2), (0x2248, 1),
  (0x2264, 2), (0xA0, 1), (0x2321, 1), (0xB0, 1), (0xB2, 1), (0xB7, 1), (0xF7, 1), (0x2550, 3),
  (0x451, 1), (0x2553, 15), (0x401, 1), (0x2562, 11), (0xA9, 1), (0x44E, 1), (0x430, 2), (0x446,
  1), (0x434, 2), (0x444, 1), (0x433, 1), (0x445, 1), (0x438, 8), (0x44F, 1), (0x440, 4), (0x436,
  1), (0x432, 1), (0x44C, 1), (0x44B, 1), (0x437, 1), (0x448, 1), (0x44D, 1), (0x449, 1), (0x447,
  1), (0x44A, 1), (0x42E, 1), (0x410, 2), (0x426, 1), (0x414, 2), (0x424, 1), (0x413, 1), (0x425,
  1), (0x418, 8), (0x42F, 1), (0x420, 4), (0x416, 1), (0x412, 1), (0x42C, 1), (0x42B, 1), (0x417,
  1), (0x428, 1), (0x42D, 1), (0x429, 1), (0x427, 1), (0x42A, 1)]),
  (["koi8_u"], [(0x2500, 1), (0x2502, 1), (0x250C, 1), (0x2510, 1), (0x2514, 1), (0x2518, 1),
  (0x251C, 1), (0x2524, 1), (0x252C, 1), (0x2534, 1), (0x253C, 1), (0x2580, 1), (0x2584, 1),
  (0x2588, 1), (0x258C, 1), (0x2590, 4), (0x2320, 1), (0x25A0, 1), (0x2219, 2), (0x2248, 1),
  (0x2264, 2), (0xA0, 1), (0x2321, 1), (0xB0, 1), (0xB2, 1), (0xB7, 1), (0xF7, 1), (0x2550, 3),
  (0x451, 1), (0x454, 1), (0x2554, 1), (0x456, 2), (0x2557, 5), (0x491, 1), (0x255D, 5), (0x401,
  1), (0x404, 1), (0x2563, 1), (0x406, 2), (0x2566, 5), (0x490, 1), (0x256C, 1), (0xA9, 1),
  (0x44E, 1), (0x430, 2), (0x446, 1), (0x434, 2), (0x444, 1), (0x433, 1), (0x445, 1), (0x438, 8),
  (0x44F, 1), (0x440, 4), (0x436, 1), (0x432, 1), (0x44C, 1), (0x44B, 1), (0x437, 1), (0x448, 1),
  (0x44D, 1), (0x449, 1), (0x447, 1), (0x44A, 1), (0x42E, 1), (0x410, 2), (0x426, 1), (0x414, 2),
  (0x424, 1), (0x413, 1), (0x425, 1), (0x418, 8), (0x42F, 1), (0x420, 4), (0x416, 1), (0x412, 1),
  (0x42C, 1), (0x42B, 1), (0x417, 1), (0x428, 1), (0x42D, 1), (0x429, 1), (0x427, 1), (0x42A, 1)])]

/-- The characters of a run; U+FFFD does not move on. -/
def ofRun (run : Nat × Nat) : List Char :=
  (List.range run.2).map fun i => Char.ofNat (if run.1 = 0xFFFD then run.1 else run.1 + i)

/-- The upper half of an encoding. -/
def named? (name : String) : Option (Array Char) :=
  (all.find? fun (names, _) => names.contains name).map fun (_, runs) =>
    (runs.flatMap ofRun).toArray

end LoginGate.CodePage
