import Postal.Unicode.Ranges

namespace Postal.Unicode

inductive LowercaseRun where
  | one (code : Nat) (form : List Nat)
  | up (first last distance : Nat)
  | down (first last distance : Nat)
  | alternating (first last : Nat)

def LowercaseRun.entries : LowercaseRun → List (Nat × List Nat)
  | one code form => [(code, form)]
  | up first last distance =>
    (List.range' first (last + 1 - first)).map fun code => (code, [code + distance])
  | down first last distance =>
    (List.range' first (last + 1 - first)).map fun code => (code, [code - distance])
  | alternating first last =>
    (List.range' first ((last + 1 - first) / 2) 2).map fun code => (code, [code + 1])

def lowercaseRuns : List LowercaseRun :=
  [.up 0xC0 0xD6 0x20, .up 0xD8 0xDE 0x20, .alternating 0x100 0x12F, .one 0x130 [0x69, 0x307],
   .alternating 0x132 0x137, .alternating 0x139 0x148, .alternating 0x14A 0x177, .one 0x178 [0xFF],
   .alternating 0x179 0x17E, .one 0x181 [0x253], .alternating 0x182 0x185, .one 0x186 [0x254],
   .one 0x187 [0x188], .up 0x189 0x18A 0xCD, .one 0x18B [0x18C], .one 0x18E [0x1DD],
   .one 0x18F [0x259], .one 0x190 [0x25B], .one 0x191 [0x192], .one 0x193 [0x260],
   .one 0x194 [0x263], .one 0x196 [0x269], .one 0x197 [0x268], .one 0x198 [0x199],
   .one 0x19C [0x26F], .one 0x19D [0x272], .one 0x19F [0x275], .alternating 0x1A0 0x1A5,
   .one 0x1A6 [0x280], .one 0x1A7 [0x1A8], .one 0x1A9 [0x283], .one 0x1AC [0x1AD],
   .one 0x1AE [0x288], .one 0x1AF [0x1B0], .up 0x1B1 0x1B2 0xD9, .alternating 0x1B3 0x1B6,
   .one 0x1B7 [0x292], .one 0x1B8 [0x1B9], .one 0x1BC [0x1BD], .one 0x1C4 [0x1C6],
   .one 0x1C5 [0x1C6], .one 0x1C7 [0x1C9], .one 0x1C8 [0x1C9], .one 0x1CA [0x1CC],
   .alternating 0x1CB 0x1DC, .alternating 0x1DE 0x1EF, .one 0x1F1 [0x1F3],
   .alternating 0x1F2 0x1F5, .one 0x1F6 [0x195], .one 0x1F7 [0x1BF], .alternating 0x1F8 0x21F,
   .one 0x220 [0x19E], .alternating 0x222 0x233, .one 0x23A [0x2C65], .one 0x23B [0x23C],
   .one 0x23D [0x19A], .one 0x23E [0x2C66], .one 0x241 [0x242], .one 0x243 [0x180],
   .one 0x244 [0x289], .one 0x245 [0x28C], .alternating 0x246 0x24F, .alternating 0x370 0x373,
   .one 0x376 [0x377], .one 0x37F [0x3F3], .one 0x386 [0x3AC], .up 0x388 0x38A 0x25,
   .one 0x38C [0x3CC], .up 0x38E 0x38F 0x3F, .up 0x391 0x3A1 0x20, .up 0x3A3 0x3AB 0x20,
   .one 0x3CF [0x3D7], .alternating 0x3D8 0x3EF, .one 0x3F4 [0x3B8], .one 0x3F7 [0x3F8],
   .one 0x3F9 [0x3F2], .one 0x3FA [0x3FB], .down 0x3FD 0x3FF 0x82, .up 0x400 0x40F 0x50,
   .up 0x410 0x42F 0x20, .alternating 0x460 0x481, .alternating 0x48A 0x4BF, .one 0x4C0 [0x4CF],
   .alternating 0x4C1 0x4CE, .alternating 0x4D0 0x52F, .up 0x531 0x556 0x30,
   .up 0x10A0 0x10C5 0x1C60, .one 0x10C7 [0x2D27], .one 0x10CD [0x2D2D], .up 0x13A0 0x13EF 0x97D0,
   .up 0x13F0 0x13F5 0x8, .one 0x1C89 [0x1C8A], .down 0x1C90 0x1CBA 0xBC0,
   .down 0x1CBD 0x1CBF 0xBC0, .alternating 0x1E00 0x1E95, .one 0x1E9E [0xDF],
   .alternating 0x1EA0 0x1EFF, .down 0x1F08 0x1F0F 0x8, .down 0x1F18 0x1F1D 0x8,
   .down 0x1F28 0x1F2F 0x8, .down 0x1F38 0x1F3F 0x8, .down 0x1F48 0x1F4D 0x8, .one 0x1F59 [0x1F51],
   .one 0x1F5B [0x1F53], .one 0x1F5D [0x1F55], .one 0x1F5F [0x1F57], .down 0x1F68 0x1F6F 0x8,
   .down 0x1F88 0x1F8F 0x8, .down 0x1F98 0x1F9F 0x8, .down 0x1FA8 0x1FAF 0x8,
   .down 0x1FB8 0x1FB9 0x8, .down 0x1FBA 0x1FBB 0x4A, .one 0x1FBC [0x1FB3],
   .down 0x1FC8 0x1FCB 0x56, .one 0x1FCC [0x1FC3], .down 0x1FD8 0x1FD9 0x8,
   .down 0x1FDA 0x1FDB 0x64, .down 0x1FE8 0x1FE9 0x8, .down 0x1FEA 0x1FEB 0x70,
   .one 0x1FEC [0x1FE5], .down 0x1FF8 0x1FF9 0x80, .down 0x1FFA 0x1FFB 0x7E, .one 0x1FFC [0x1FF3],
   .one 0x2126 [0x3C9], .one 0x212A [0x6B], .one 0x212B [0xE5], .one 0x2132 [0x214E],
   .up 0x2160 0x216F 0x10, .one 0x2183 [0x2184], .up 0x24B6 0x24CF 0x1A, .up 0x2C00 0x2C2F 0x30,
   .one 0x2C60 [0x2C61], .one 0x2C62 [0x26B], .one 0x2C63 [0x1D7D], .one 0x2C64 [0x27D],
   .alternating 0x2C67 0x2C6C, .one 0x2C6D [0x251], .one 0x2C6E [0x271], .one 0x2C6F [0x250],
   .one 0x2C70 [0x252], .one 0x2C72 [0x2C73], .one 0x2C75 [0x2C76], .down 0x2C7E 0x2C7F 0x2A3F,
   .alternating 0x2C80 0x2CE3, .alternating 0x2CEB 0x2CEE, .one 0x2CF2 [0x2CF3],
   .alternating 0xA640 0xA66D, .alternating 0xA680 0xA69B, .alternating 0xA722 0xA72F,
   .alternating 0xA732 0xA76F, .alternating 0xA779 0xA77C, .one 0xA77D [0x1D79],
   .alternating 0xA77E 0xA787, .one 0xA78B [0xA78C], .one 0xA78D [0x265],
   .alternating 0xA790 0xA793, .alternating 0xA796 0xA7A9, .one 0xA7AA [0x266],
   .one 0xA7AB [0x25C], .one 0xA7AC [0x261], .one 0xA7AD [0x26C], .one 0xA7AE [0x26A],
   .one 0xA7B0 [0x29E], .one 0xA7B1 [0x287], .one 0xA7B2 [0x29D], .one 0xA7B3 [0xAB53],
   .alternating 0xA7B4 0xA7C3, .one 0xA7C4 [0xA794], .one 0xA7C5 [0x282], .one 0xA7C6 [0x1D8E],
   .alternating 0xA7C7 0xA7CA, .one 0xA7CB [0x264], .alternating 0xA7CC 0xA7DB,
   .one 0xA7DC [0x19B], .one 0xA7F5 [0xA7F6], .up 0xFF21 0xFF3A 0x20, .up 0x10400 0x10427 0x28,
   .up 0x104B0 0x104D3 0x28, .up 0x10570 0x1057A 0x27, .up 0x1057C 0x1058A 0x27,
   .up 0x1058C 0x10592 0x27, .up 0x10594 0x10595 0x27, .up 0x10C80 0x10CB2 0x40,
   .up 0x10D50 0x10D65 0x20, .up 0x118A0 0x118BF 0x20, .up 0x16E40 0x16E5F 0x20,
   .up 0x16EA0 0x16EB8 0x1B, .up 0x1E900 0x1E921 0x22]

def lowercaseMap : CodeMap :=
  ⟨(lowercaseRuns.flatMap LowercaseRun.entries).toArray⟩

end Postal.Unicode
