import SymbolCensus.Unicode.CodePoint

/-!
# Lowercase and uppercase

The derived properties Lowercase and Uppercase. They reach beyond letters: a circled `ⓐ` is
lowercase and a Roman numeral `Ⅷ` is uppercase, while an ideograph is neither.
-/

namespace SymbolCensus.Unicode

/-- Runs of lowercase characters beyond ASCII. -/
def lowercaseRuns : List (Nat × Nat) :=
  [(0xAA, 0xAA), (0xB5, 0xB5), (0xBA, 0xBA), (0xDF, 0xF6), (0xF8, 0xFF), (0x17F, 0x180),
   (0x183, 0x183), (0x185, 0x185), (0x188, 0x188), (0x18C, 0x18D), (0x192, 0x192),
   (0x195, 0x195), (0x199, 0x19B), (0x19E, 0x19E), (0x1A8, 0x1A8), (0x1AA, 0x1AB),
   (0x1AD, 0x1AD), (0x1B0, 0x1B0), (0x1B4, 0x1B4), (0x1B6, 0x1B6), (0x1B9, 0x1BA),
   (0x1BD, 0x1BF), (0x1C6, 0x1C6), (0x1C9, 0x1C9), (0x1F0, 0x1F0), (0x1F3, 0x1F3),
   (0x1F5, 0x1F5), (0x234, 0x239), (0x23C, 0x23C), (0x23F, 0x240), (0x242, 0x242),
   (0x250, 0x293), (0x295, 0x2B8), (0x2C0, 0x2C1), (0x2E0, 0x2E4), (0x345, 0x345),
   (0x371, 0x371), (0x373, 0x373), (0x377, 0x377), (0x37A, 0x37D), (0x390, 0x390),
   (0x3AC, 0x3CE), (0x3D0, 0x3D1), (0x3D5, 0x3D7), (0x3F0, 0x3F3), (0x3F5, 0x3F5),
   (0x3F8, 0x3F8), (0x3FB, 0x3FC), (0x430, 0x45F), (0x560, 0x588), (0x10D0, 0x10FA),
   (0x10FD, 0x10FF), (0x13F8, 0x13FD), (0x1C80, 0x1C88), (0x1D00, 0x1DBF), (0x1E96, 0x1E9D),
   (0x1F00, 0x1F07), (0x1F10, 0x1F15), (0x1F20, 0x1F27), (0x1F30, 0x1F37), (0x1F40, 0x1F45),
   (0x1F50, 0x1F57), (0x1F60, 0x1F67), (0x1F70, 0x1F7D), (0x1F80, 0x1F87), (0x1F90, 0x1F97),
   (0x1FA0, 0x1FA7), (0x1FB0, 0x1FB4), (0x1FB6, 0x1FB7), (0x1FBE, 0x1FBE), (0x1FC2, 0x1FC4),
   (0x1FC6, 0x1FC7), (0x1FD0, 0x1FD3), (0x1FD6, 0x1FD7), (0x1FE0, 0x1FE7), (0x1FF2, 0x1FF4),
   (0x1FF6, 0x1FF7), (0x2071, 0x2071), (0x207F, 0x207F), (0x2090, 0x209C), (0x210A, 0x210A),
   (0x210E, 0x210F), (0x2113, 0x2113), (0x212F, 0x212F), (0x2134, 0x2134), (0x2139, 0x2139),
   (0x213C, 0x213D), (0x2146, 0x2149), (0x214E, 0x214E), (0x2170, 0x217F), (0x2184, 0x2184),
   (0x24D0, 0x24E9), (0x2C30, 0x2C5F), (0x2C61, 0x2C61), (0x2C65, 0x2C66), (0x2C71, 0x2C71),
   (0x2C73, 0x2C74), (0x2C76, 0x2C7D), (0x2CE4, 0x2CE4), (0x2CEC, 0x2CEC), (0x2CEE, 0x2CEE),
   (0x2CF3, 0x2CF3), (0x2D00, 0x2D25), (0x2D27, 0x2D27), (0x2D2D, 0x2D2D), (0xA69C, 0xA69D),
   (0xA730, 0xA731), (0xA770, 0xA778), (0xA77A, 0xA77A), (0xA77C, 0xA77C), (0xA78C, 0xA78C),
   (0xA78E, 0xA78E), (0xA791, 0xA791), (0xA793, 0xA795), (0xA7AF, 0xA7AF), (0xA7C8, 0xA7C8),
   (0xA7CA, 0xA7CA), (0xA7F6, 0xA7F6), (0xA7F8, 0xA7FA), (0xAB30, 0xAB5A), (0xAB5C, 0xAB68),
   (0xAB70, 0xABBF), (0xFB00, 0xFB06), (0xFB13, 0xFB17), (0xFF41, 0xFF5A), (0x10428, 0x1044F),
   (0x104D8, 0x104FB), (0x10597, 0x105A1), (0x105A3, 0x105B1), (0x105B3, 0x105B9),
   (0x105BB, 0x105BC), (0x10780, 0x10780), (0x10783, 0x10785), (0x10787, 0x107B0),
   (0x107B2, 0x107BA), (0x10CC0, 0x10CF2), (0x118C0, 0x118DF), (0x16E60, 0x16E7F),
   (0x1D41A, 0x1D433), (0x1D44E, 0x1D454), (0x1D456, 0x1D467), (0x1D482, 0x1D49B),
   (0x1D4B6, 0x1D4B9), (0x1D4BB, 0x1D4BB), (0x1D4BD, 0x1D4C3), (0x1D4C5, 0x1D4CF),
   (0x1D4EA, 0x1D503), (0x1D51E, 0x1D537), (0x1D552, 0x1D56B), (0x1D586, 0x1D59F),
   (0x1D5BA, 0x1D5D3), (0x1D5EE, 0x1D607), (0x1D622, 0x1D63B), (0x1D656, 0x1D66F),
   (0x1D68A, 0x1D6A5), (0x1D6C2, 0x1D6DA), (0x1D6DC, 0x1D6E1), (0x1D6FC, 0x1D714),
   (0x1D716, 0x1D71B), (0x1D736, 0x1D74E), (0x1D750, 0x1D755), (0x1D770, 0x1D788),
   (0x1D78A, 0x1D78F), (0x1D7AA, 0x1D7C2), (0x1D7C4, 0x1D7C9), (0x1D7CB, 0x1D7CB),
   (0x1DF00, 0x1DF09), (0x1DF0B, 0x1DF1E), (0x1E922, 0x1E943)]

/-- Stretches in which every second character is lowercase. -/
def lowercaseAlternations : List (Nat × Nat) :=
  [(0x101, 0x137), (0x138, 0x148), (0x149, 0x177), (0x17A, 0x17E), (0x1A1, 0x1A5),
   (0x1CC, 0x1DC), (0x1DD, 0x1EF), (0x1F9, 0x233), (0x247, 0x24F), (0x3D9, 0x3EF),
   (0x461, 0x481), (0x48B, 0x4BF), (0x4C2, 0x4CE), (0x4CF, 0x52F), (0x1E01, 0x1E95),
   (0x1E9F, 0x1EFF), (0x2C68, 0x2C6C), (0x2C81, 0x2CE3), (0xA641, 0xA66D), (0xA681, 0xA69B),
   (0xA723, 0xA72F), (0xA733, 0xA76F), (0xA77F, 0xA787), (0xA797, 0xA7A9), (0xA7B5, 0xA7C3),
   (0xA7D1, 0xA7D9)]

/-- A character is lowercase. -/
def isLowercase (c : Char) : Bool :=
  if c.toNat < 0x80 then c.isLower
  else inRuns lowercaseRuns c.toNat || inAlternations lowercaseAlternations c.toNat

/-- Runs of uppercase characters beyond ASCII. -/
def uppercaseRuns : List (Nat × Nat) :=
  [(0xC0, 0xD6), (0xD8, 0xDE), (0x181, 0x182), (0x184, 0x184), (0x186, 0x187), (0x189, 0x18B),
   (0x18E, 0x191), (0x193, 0x194), (0x196, 0x198), (0x19C, 0x19D), (0x19F, 0x1A0),
   (0x1A7, 0x1A7), (0x1A9, 0x1A9), (0x1AC, 0x1AC), (0x1AE, 0x1AF), (0x1B1, 0x1B3),
   (0x1B5, 0x1B5), (0x1B7, 0x1B8), (0x1BC, 0x1BC), (0x1C4, 0x1C4), (0x1C7, 0x1C7),
   (0x1CA, 0x1CA), (0x1F1, 0x1F1), (0x1F4, 0x1F4), (0x1F6, 0x1F8), (0x23A, 0x23B),
   (0x23D, 0x23E), (0x241, 0x241), (0x243, 0x246), (0x370, 0x370), (0x372, 0x372),
   (0x376, 0x376), (0x37F, 0x37F), (0x386, 0x386), (0x388, 0x38A), (0x38C, 0x38C),
   (0x38E, 0x38F), (0x391, 0x3A1), (0x3A3, 0x3AB), (0x3CF, 0x3CF), (0x3D2, 0x3D4),
   (0x3F4, 0x3F4), (0x3F7, 0x3F7), (0x3F9, 0x3FA), (0x3FD, 0x42F), (0x531, 0x556),
   (0x10A0, 0x10C5), (0x10C7, 0x10C7), (0x10CD, 0x10CD), (0x13A0, 0x13F5), (0x1C90, 0x1CBA),
   (0x1CBD, 0x1CBF), (0x1F08, 0x1F0F), (0x1F18, 0x1F1D), (0x1F28, 0x1F2F), (0x1F38, 0x1F3F),
   (0x1F48, 0x1F4D), (0x1F68, 0x1F6F), (0x1FB8, 0x1FBB), (0x1FC8, 0x1FCB), (0x1FD8, 0x1FDB),
   (0x1FE8, 0x1FEC), (0x1FF8, 0x1FFB), (0x2102, 0x2102), (0x2107, 0x2107), (0x210B, 0x210D),
   (0x2110, 0x2112), (0x2115, 0x2115), (0x2119, 0x211D), (0x212B, 0x212D), (0x2130, 0x2133),
   (0x213E, 0x213F), (0x2145, 0x2145), (0x2160, 0x216F), (0x2183, 0x2183), (0x24B6, 0x24CF),
   (0x2C00, 0x2C2F), (0x2C60, 0x2C60), (0x2C62, 0x2C64), (0x2C6E, 0x2C70), (0x2C72, 0x2C72),
   (0x2C75, 0x2C75), (0x2C7E, 0x2C80), (0x2CEB, 0x2CEB), (0x2CED, 0x2CED), (0x2CF2, 0x2CF2),
   (0xA78B, 0xA78B), (0xA78D, 0xA78D), (0xA790, 0xA790), (0xA792, 0xA792), (0xA7AB, 0xA7AE),
   (0xA7B0, 0xA7B4), (0xA7C5, 0xA7C7), (0xA7C9, 0xA7C9), (0xA7D0, 0xA7D0), (0xA7D6, 0xA7D6),
   (0xA7D8, 0xA7D8), (0xA7F5, 0xA7F5), (0xFF21, 0xFF3A), (0x10400, 0x10427), (0x104B0, 0x104D3),
   (0x10570, 0x1057A), (0x1057C, 0x1058A), (0x1058C, 0x10592), (0x10594, 0x10595),
   (0x10C80, 0x10CB2), (0x118A0, 0x118BF), (0x16E40, 0x16E5F), (0x1D400, 0x1D419),
   (0x1D434, 0x1D44D), (0x1D468, 0x1D481), (0x1D49C, 0x1D49C), (0x1D49E, 0x1D49F),
   (0x1D4A2, 0x1D4A2), (0x1D4A5, 0x1D4A6), (0x1D4A9, 0x1D4AC), (0x1D4AE, 0x1D4B5),
   (0x1D4D0, 0x1D4E9), (0x1D504, 0x1D505), (0x1D507, 0x1D50A), (0x1D50D, 0x1D514),
   (0x1D516, 0x1D51C), (0x1D538, 0x1D539), (0x1D53B, 0x1D53E), (0x1D540, 0x1D544),
   (0x1D546, 0x1D546), (0x1D54A, 0x1D550), (0x1D56C, 0x1D585), (0x1D5A0, 0x1D5B9),
   (0x1D5D4, 0x1D5ED), (0x1D608, 0x1D621), (0x1D63C, 0x1D655), (0x1D670, 0x1D689),
   (0x1D6A8, 0x1D6C0), (0x1D6E2, 0x1D6FA), (0x1D71C, 0x1D734), (0x1D756, 0x1D76E),
   (0x1D790, 0x1D7A8), (0x1D7CA, 0x1D7CA), (0x1E900, 0x1E921), (0x1F130, 0x1F149),
   (0x1F150, 0x1F169), (0x1F170, 0x1F189)]

/-- Stretches in which every second character is uppercase. -/
def uppercaseAlternations : List (Nat × Nat) :=
  [(0x100, 0x136), (0x139, 0x147), (0x14A, 0x178), (0x179, 0x17D), (0x1A2, 0x1A6),
   (0x1CD, 0x1DB), (0x1DE, 0x1EE), (0x1FA, 0x232), (0x248, 0x24E), (0x3D8, 0x3EE),
   (0x460, 0x480), (0x48A, 0x4C0), (0x4C1, 0x4CD), (0x4D0, 0x52E), (0x1E00, 0x1E94),
   (0x1E9E, 0x1EFE), (0x1F59, 0x1F5F), (0x2124, 0x212A), (0x2C67, 0x2C6D), (0x2C82, 0x2CE2),
   (0xA640, 0xA66C), (0xA680, 0xA69A), (0xA722, 0xA72E), (0xA732, 0xA76E), (0xA779, 0xA77D),
   (0xA77E, 0xA786), (0xA796, 0xA7AA), (0xA7B6, 0xA7C4)]

/-- A character is uppercase. -/
def isUppercase (c : Char) : Bool :=
  if c.toNat < 0x80 then c.isUpper
  else inRuns uppercaseRuns c.toNat || inAlternations uppercaseAlternations c.toNat

end SymbolCensus.Unicode
