import Postal.Unicode.Ranges

namespace Postal.Unicode

inductive FoldingRun where
  | one (code : Nat) (others : List Nat)
  | up (first last distance : Nat)
  | down (first last distance : Nat)
  | swapped (first last : Nat)

def FoldingRun.entries : FoldingRun → List (Nat × List Nat)
  | one code others => [(code, others)]
  | up first last distance =>
    (List.range' first (last + 1 - first)).map fun code => (code, [code + distance])
  | down first last distance =>
    (List.range' first (last + 1 - first)).map fun code => (code, [code - distance])
  | swapped first last =>
    (List.range' first ((last + 1 - first) / 2) 2).flatMap fun code =>
      [(code, [code + 1]), (code + 1, [code])]

def foldingRuns : List FoldingRun :=
  [.one 0xB5 [0x39C, 0x3BC], .up 0xC0 0xC4 0x20, .one 0xC5 [0xE5, 0x212B], .up 0xC6 0xD6 0x20,
   .up 0xD8 0xDE 0x20, .one 0xDF [0x1E9E], .down 0xE0 0xE4 0x20, .one 0xE5 [0xC5, 0x212B],
   .down 0xE6 0xF6 0x20, .down 0xF8 0xFE 0x20, .one 0xFF [0x178], .swapped 0x100 0x12F,
   .swapped 0x132 0x137, .swapped 0x139 0x148, .swapped 0x14A 0x177, .one 0x178 [0xFF],
   .swapped 0x179 0x17E, .one 0x17F [0x53, 0x73], .one 0x180 [0x243], .one 0x181 [0x253],
   .swapped 0x182 0x185, .one 0x186 [0x254], .swapped 0x187 0x188, .up 0x189 0x18A 0xCD,
   .swapped 0x18B 0x18C, .one 0x18E [0x1DD], .one 0x18F [0x259], .one 0x190 [0x25B],
   .swapped 0x191 0x192, .one 0x193 [0x260], .one 0x194 [0x263], .one 0x195 [0x1F6],
   .one 0x196 [0x269], .one 0x197 [0x268], .swapped 0x198 0x199, .one 0x19A [0x23D],
   .one 0x19B [0xA7DC], .one 0x19C [0x26F], .one 0x19D [0x272], .one 0x19E [0x220],
   .one 0x19F [0x275], .swapped 0x1A0 0x1A5, .one 0x1A6 [0x280], .swapped 0x1A7 0x1A8,
   .one 0x1A9 [0x283], .swapped 0x1AC 0x1AD, .one 0x1AE [0x288], .swapped 0x1AF 0x1B0,
   .up 0x1B1 0x1B2 0xD9, .swapped 0x1B3 0x1B6, .one 0x1B7 [0x292], .swapped 0x1B8 0x1B9,
   .swapped 0x1BC 0x1BD, .one 0x1BF [0x1F7], .one 0x1C4 [0x1C5, 0x1C6], .one 0x1C5 [0x1C4, 0x1C6],
   .one 0x1C6 [0x1C4, 0x1C5], .one 0x1C7 [0x1C8, 0x1C9], .one 0x1C8 [0x1C7, 0x1C9],
   .one 0x1C9 [0x1C7, 0x1C8], .one 0x1CA [0x1CB, 0x1CC], .one 0x1CB [0x1CA, 0x1CC],
   .one 0x1CC [0x1CA, 0x1CB], .swapped 0x1CD 0x1DC, .one 0x1DD [0x18E], .swapped 0x1DE 0x1EF,
   .one 0x1F1 [0x1F2, 0x1F3], .one 0x1F2 [0x1F1, 0x1F3], .one 0x1F3 [0x1F1, 0x1F2],
   .swapped 0x1F4 0x1F5, .one 0x1F6 [0x195], .one 0x1F7 [0x1BF], .swapped 0x1F8 0x21F,
   .one 0x220 [0x19E], .swapped 0x222 0x233, .one 0x23A [0x2C65], .swapped 0x23B 0x23C,
   .one 0x23D [0x19A], .one 0x23E [0x2C66], .up 0x23F 0x240 0x2A3F, .swapped 0x241 0x242,
   .one 0x243 [0x180], .one 0x244 [0x289], .one 0x245 [0x28C], .swapped 0x246 0x24F,
   .one 0x250 [0x2C6F], .one 0x251 [0x2C6D], .one 0x252 [0x2C70], .one 0x253 [0x181],
   .one 0x254 [0x186], .down 0x256 0x257 0xCD, .one 0x259 [0x18F], .one 0x25B [0x190],
   .one 0x25C [0xA7AB], .one 0x260 [0x193], .one 0x261 [0xA7AC], .one 0x263 [0x194],
   .one 0x264 [0xA7CB], .one 0x265 [0xA78D], .one 0x266 [0xA7AA], .one 0x268 [0x197],
   .one 0x269 [0x196], .one 0x26A [0xA7AE], .one 0x26B [0x2C62], .one 0x26C [0xA7AD],
   .one 0x26F [0x19C], .one 0x271 [0x2C6E], .one 0x272 [0x19D], .one 0x275 [0x19F],
   .one 0x27D [0x2C64], .one 0x280 [0x1A6], .one 0x282 [0xA7C5], .one 0x283 [0x1A9],
   .one 0x287 [0xA7B1], .one 0x288 [0x1AE], .one 0x289 [0x244], .down 0x28A 0x28B 0xD9,
   .one 0x28C [0x245], .one 0x292 [0x1B7], .one 0x29D [0xA7B2], .one 0x29E [0xA7B0],
   .one 0x345 [0x399, 0x3B9, 0x1FBE], .swapped 0x370 0x373, .swapped 0x376 0x377,
   .up 0x37B 0x37D 0x82, .one 0x37F [0x3F3], .one 0x386 [0x3AC], .up 0x388 0x38A 0x25,
   .one 0x38C [0x3CC], .up 0x38E 0x38F 0x3F, .one 0x390 [0x1FD3], .one 0x391 [0x3B1],
   .one 0x392 [0x3B2, 0x3D0], .up 0x393 0x394 0x20, .one 0x395 [0x3B5, 0x3F5],
   .up 0x396 0x397 0x20, .one 0x398 [0x3B8, 0x3D1, 0x3F4], .one 0x399 [0x345, 0x3B9, 0x1FBE],
   .one 0x39A [0x3BA, 0x3F0], .one 0x39B [0x3BB], .one 0x39C [0xB5, 0x3BC], .up 0x39D 0x39F 0x20,
   .one 0x3A0 [0x3C0, 0x3D6], .one 0x3A1 [0x3C1, 0x3F1], .one 0x3A3 [0x3C2, 0x3C3],
   .up 0x3A4 0x3A5 0x20, .one 0x3A6 [0x3C6, 0x3D5], .up 0x3A7 0x3A8 0x20,
   .one 0x3A9 [0x3C9, 0x2126], .up 0x3AA 0x3AB 0x20, .one 0x3AC [0x386], .down 0x3AD 0x3AF 0x25,
   .one 0x3B0 [0x1FE3], .one 0x3B1 [0x391], .one 0x3B2 [0x392, 0x3D0], .down 0x3B3 0x3B4 0x20,
   .one 0x3B5 [0x395, 0x3F5], .down 0x3B6 0x3B7 0x20, .one 0x3B8 [0x398, 0x3D1, 0x3F4],
   .one 0x3B9 [0x345, 0x399, 0x1FBE], .one 0x3BA [0x39A, 0x3F0], .one 0x3BB [0x39B],
   .one 0x3BC [0xB5, 0x39C], .down 0x3BD 0x3BF 0x20, .one 0x3C0 [0x3A0, 0x3D6],
   .one 0x3C1 [0x3A1, 0x3F1], .one 0x3C2 [0x3A3, 0x3C3], .one 0x3C3 [0x3A3, 0x3C2],
   .down 0x3C4 0x3C5 0x20, .one 0x3C6 [0x3A6, 0x3D5], .down 0x3C7 0x3C8 0x20,
   .one 0x3C9 [0x3A9, 0x2126], .down 0x3CA 0x3CB 0x20, .one 0x3CC [0x38C], .down 0x3CD 0x3CE 0x3F,
   .one 0x3CF [0x3D7], .one 0x3D0 [0x392, 0x3B2], .one 0x3D1 [0x398, 0x3B8, 0x3F4],
   .one 0x3D5 [0x3A6, 0x3C6], .one 0x3D6 [0x3A0, 0x3C0], .one 0x3D7 [0x3CF], .swapped 0x3D8 0x3EF,
   .one 0x3F0 [0x39A, 0x3BA], .one 0x3F1 [0x3A1, 0x3C1], .one 0x3F2 [0x3F9], .one 0x3F3 [0x37F],
   .one 0x3F4 [0x398, 0x3B8, 0x3D1], .one 0x3F5 [0x395, 0x3B5], .swapped 0x3F7 0x3F8,
   .one 0x3F9 [0x3F2], .swapped 0x3FA 0x3FB, .down 0x3FD 0x3FF 0x82, .up 0x400 0x40F 0x50,
   .up 0x410 0x411 0x20, .one 0x412 [0x432, 0x1C80], .one 0x413 [0x433],
   .one 0x414 [0x434, 0x1C81], .up 0x415 0x41D 0x20, .one 0x41E [0x43E, 0x1C82],
   .up 0x41F 0x420 0x20, .one 0x421 [0x441, 0x1C83], .one 0x422 [0x442, 0x1C84, 0x1C85],
   .up 0x423 0x429 0x20, .one 0x42A [0x44A, 0x1C86], .up 0x42B 0x42F 0x20, .down 0x430 0x431 0x20,
   .one 0x432 [0x412, 0x1C80], .one 0x433 [0x413], .one 0x434 [0x414, 0x1C81],
   .down 0x435 0x43D 0x20, .one 0x43E [0x41E, 0x1C82], .down 0x43F 0x440 0x20,
   .one 0x441 [0x421, 0x1C83], .one 0x442 [0x422, 0x1C84, 0x1C85], .down 0x443 0x449 0x20,
   .one 0x44A [0x42A, 0x1C86], .down 0x44B 0x44F 0x20, .down 0x450 0x45F 0x50,
   .swapped 0x460 0x461, .one 0x462 [0x463, 0x1C87], .one 0x463 [0x462, 0x1C87],
   .swapped 0x464 0x481, .swapped 0x48A 0x4BF, .one 0x4C0 [0x4CF], .swapped 0x4C1 0x4CE,
   .one 0x4CF [0x4C0], .swapped 0x4D0 0x52F, .up 0x531 0x556 0x30, .down 0x561 0x586 0x30,
   .up 0x10A0 0x10C5 0x1C60, .one 0x10C7 [0x2D27], .one 0x10CD [0x2D2D], .up 0x10D0 0x10FA 0xBC0,
   .up 0x10FD 0x10FF 0xBC0, .up 0x13A0 0x13EF 0x97D0, .up 0x13F0 0x13F5 0x8,
   .down 0x13F8 0x13FD 0x8, .one 0x1C80 [0x412, 0x432], .one 0x1C81 [0x414, 0x434],
   .one 0x1C82 [0x41E, 0x43E], .one 0x1C83 [0x421, 0x441], .one 0x1C84 [0x422, 0x442, 0x1C85],
   .one 0x1C85 [0x422, 0x442, 0x1C84], .one 0x1C86 [0x42A, 0x44A], .one 0x1C87 [0x462, 0x463],
   .one 0x1C88 [0xA64A, 0xA64B], .swapped 0x1C89 0x1C8A, .down 0x1C90 0x1CBA 0xBC0,
   .down 0x1CBD 0x1CBF 0xBC0, .one 0x1D79 [0xA77D], .one 0x1D7D [0x2C63], .one 0x1D8E [0xA7C6],
   .swapped 0x1E00 0x1E5F, .one 0x1E60 [0x1E61, 0x1E9B], .one 0x1E61 [0x1E60, 0x1E9B],
   .swapped 0x1E62 0x1E95, .one 0x1E9B [0x1E60, 0x1E61], .one 0x1E9E [0xDF],
   .swapped 0x1EA0 0x1EFF, .up 0x1F00 0x1F07 0x8, .down 0x1F08 0x1F0F 0x8, .up 0x1F10 0x1F15 0x8,
   .down 0x1F18 0x1F1D 0x8, .up 0x1F20 0x1F27 0x8, .down 0x1F28 0x1F2F 0x8, .up 0x1F30 0x1F37 0x8,
   .down 0x1F38 0x1F3F 0x8, .up 0x1F40 0x1F45 0x8, .down 0x1F48 0x1F4D 0x8, .one 0x1F51 [0x1F59],
   .one 0x1F53 [0x1F5B], .one 0x1F55 [0x1F5D], .one 0x1F57 [0x1F5F], .one 0x1F59 [0x1F51],
   .one 0x1F5B [0x1F53], .one 0x1F5D [0x1F55], .one 0x1F5F [0x1F57], .up 0x1F60 0x1F67 0x8,
   .down 0x1F68 0x1F6F 0x8, .up 0x1F70 0x1F71 0x4A, .up 0x1F72 0x1F75 0x56, .up 0x1F76 0x1F77 0x64,
   .up 0x1F78 0x1F79 0x80, .up 0x1F7A 0x1F7B 0x70, .up 0x1F7C 0x1F7D 0x7E, .up 0x1F80 0x1F87 0x8,
   .down 0x1F88 0x1F8F 0x8, .up 0x1F90 0x1F97 0x8, .down 0x1F98 0x1F9F 0x8, .up 0x1FA0 0x1FA7 0x8,
   .down 0x1FA8 0x1FAF 0x8, .up 0x1FB0 0x1FB1 0x8, .one 0x1FB3 [0x1FBC], .down 0x1FB8 0x1FB9 0x8,
   .down 0x1FBA 0x1FBB 0x4A, .one 0x1FBC [0x1FB3], .one 0x1FBE [0x345, 0x399, 0x3B9],
   .one 0x1FC3 [0x1FCC], .down 0x1FC8 0x1FCB 0x56, .one 0x1FCC [0x1FC3], .up 0x1FD0 0x1FD1 0x8,
   .one 0x1FD3 [0x390], .down 0x1FD8 0x1FD9 0x8, .down 0x1FDA 0x1FDB 0x64, .up 0x1FE0 0x1FE1 0x8,
   .one 0x1FE3 [0x3B0], .one 0x1FE5 [0x1FEC], .down 0x1FE8 0x1FE9 0x8, .down 0x1FEA 0x1FEB 0x70,
   .one 0x1FEC [0x1FE5], .one 0x1FF3 [0x1FFC], .down 0x1FF8 0x1FF9 0x80, .down 0x1FFA 0x1FFB 0x7E,
   .one 0x1FFC [0x1FF3], .one 0x2126 [0x3A9, 0x3C9], .one 0x212A [0x4B, 0x6B],
   .one 0x212B [0xC5, 0xE5], .one 0x2132 [0x214E], .one 0x214E [0x2132], .up 0x2160 0x216F 0x10,
   .down 0x2170 0x217F 0x10, .swapped 0x2183 0x2184, .up 0x24B6 0x24CF 0x1A,
   .down 0x24D0 0x24E9 0x1A, .up 0x2C00 0x2C2F 0x30, .down 0x2C30 0x2C5F 0x30,
   .swapped 0x2C60 0x2C61, .one 0x2C62 [0x26B], .one 0x2C63 [0x1D7D], .one 0x2C64 [0x27D],
   .one 0x2C65 [0x23A], .one 0x2C66 [0x23E], .swapped 0x2C67 0x2C6C, .one 0x2C6D [0x251],
   .one 0x2C6E [0x271], .one 0x2C6F [0x250], .one 0x2C70 [0x252], .swapped 0x2C72 0x2C73,
   .swapped 0x2C75 0x2C76, .down 0x2C7E 0x2C7F 0x2A3F, .swapped 0x2C80 0x2CE3,
   .swapped 0x2CEB 0x2CEE, .swapped 0x2CF2 0x2CF3, .down 0x2D00 0x2D25 0x1C60,
   .one 0x2D27 [0x10C7], .one 0x2D2D [0x10CD], .swapped 0xA640 0xA649,
   .one 0xA64A [0x1C88, 0xA64B], .one 0xA64B [0x1C88, 0xA64A], .swapped 0xA64C 0xA66D,
   .swapped 0xA680 0xA69B, .swapped 0xA722 0xA72F, .swapped 0xA732 0xA76F, .swapped 0xA779 0xA77C,
   .one 0xA77D [0x1D79], .swapped 0xA77E 0xA787, .swapped 0xA78B 0xA78C, .one 0xA78D [0x265],
   .swapped 0xA790 0xA793, .one 0xA794 [0xA7C4], .swapped 0xA796 0xA7A9, .one 0xA7AA [0x266],
   .one 0xA7AB [0x25C], .one 0xA7AC [0x261], .one 0xA7AD [0x26C], .one 0xA7AE [0x26A],
   .one 0xA7B0 [0x29E], .one 0xA7B1 [0x287], .one 0xA7B2 [0x29D], .one 0xA7B3 [0xAB53],
   .swapped 0xA7B4 0xA7C3, .one 0xA7C4 [0xA794], .one 0xA7C5 [0x282], .one 0xA7C6 [0x1D8E],
   .swapped 0xA7C7 0xA7CA, .one 0xA7CB [0x264], .swapped 0xA7CC 0xA7CD, .swapped 0xA7D0 0xA7D1,
   .swapped 0xA7D6 0xA7DB, .one 0xA7DC [0x19B], .swapped 0xA7F5 0xA7F6, .one 0xAB53 [0xA7B3],
   .down 0xAB70 0xABBF 0x97D0, .swapped 0xFB05 0xFB06, .up 0xFF21 0xFF3A 0x20,
   .down 0xFF41 0xFF5A 0x20, .up 0x10400 0x10427 0x28, .down 0x10428 0x1044F 0x28,
   .up 0x104B0 0x104D3 0x28, .down 0x104D8 0x104FB 0x28, .up 0x10570 0x1057A 0x27,
   .up 0x1057C 0x1058A 0x27, .up 0x1058C 0x10592 0x27, .up 0x10594 0x10595 0x27,
   .down 0x10597 0x105A1 0x27, .down 0x105A3 0x105B1 0x27, .down 0x105B3 0x105B9 0x27,
   .down 0x105BB 0x105BC 0x27, .up 0x10C80 0x10CB2 0x40, .down 0x10CC0 0x10CF2 0x40,
   .up 0x10D50 0x10D65 0x20, .down 0x10D70 0x10D85 0x20, .up 0x118A0 0x118BF 0x20,
   .down 0x118C0 0x118DF 0x20, .up 0x16E40 0x16E5F 0x20, .down 0x16E60 0x16E7F 0x20,
   .up 0x1E900 0x1E921 0x22, .down 0x1E922 0x1E943 0x22]

def foldingMap : CodeMap :=
  ⟨(foldingRuns.flatMap FoldingRun.entries).toArray⟩

end Postal.Unicode
