import SellerSync.Web.IdnaMapping.Status
/-!
Rows of the IDNA mapping table of Unicode Technical Standard 46, version 17.0, for alphabetic
scripts, from Latin to Greek Extended (below U+2000).
-/
namespace SellerSync

namespace Idna

def rowsAlphabets : Array MappingRow := #[
  ⟨0x0, 0x40, .valid⟩,
  ⟨0x41, 0x5A, .shift 32 1⟩,
  ⟨0x5B, 0x7F, .valid⟩,
  ⟨0x80, 0x9F, .disallowed⟩,
  ⟨0xA0, 0xA0, .shift (-128) 1⟩,
  ⟨0xA1, 0xA7, .valid⟩,
  ⟨0xA8, 0xA8, .text [0x20, 0x308]⟩,
  ⟨0xA9, 0xA9, .valid⟩,
  ⟨0xAA, 0xAA, .shift (-73) 1⟩,
  ⟨0xAB, 0xAC, .valid⟩,
  ⟨0xAD, 0xAD, .ignored⟩,
  ⟨0xAE, 0xAE, .valid⟩,
  ⟨0xAF, 0xAF, .text [0x20, 0x304]⟩,
  ⟨0xB0, 0xB1, .valid⟩,
  ⟨0xB2, 0xB3, .shift (-128) 1⟩,
  ⟨0xB4, 0xB4, .text [0x20, 0x301]⟩,
  ⟨0xB5, 0xB5, .shift 775 1⟩,
  ⟨0xB6, 0xB7, .valid⟩,
  ⟨0xB8, 0xB8, .text [0x20, 0x327]⟩,
  ⟨0xB9, 0xB9, .shift (-136) 1⟩,
  ⟨0xBA, 0xBA, .shift (-75) 1⟩,
  ⟨0xBB, 0xBB, .valid⟩,
  ⟨0xBC, 0xBC, .text [0x31, 0x2044, 0x34]⟩,
  ⟨0xBD, 0xBD, .text [0x31, 0x2044, 0x32]⟩,
  ⟨0xBE, 0xBE, .text [0x33, 0x2044, 0x34]⟩,
  ⟨0xBF, 0xBF, .valid⟩,
  ⟨0xC0, 0xD6, .shift 32 1⟩,
  ⟨0xD7, 0xD7, .valid⟩,
  ⟨0xD8, 0xDE, .shift 32 1⟩,
  ⟨0xDF, 0xFF, .valid⟩,
  ⟨0x100, 0x12E, .shift 1 2⟩,
  ⟨0x12F, 0x12F, .valid⟩,
  ⟨0x130, 0x130, .text [0x69, 0x307]⟩,
  ⟨0x131, 0x131, .valid⟩,
  ⟨0x132, 0x133, .text [0x69, 0x6A]⟩,
  ⟨0x134, 0x136, .shift 1 2⟩,
  ⟨0x137, 0x138, .valid⟩,
  ⟨0x139, 0x13D, .shift 1 2⟩,
  ⟨0x13E, 0x13E, .valid⟩,
  ⟨0x13F, 0x140, .text [0x6C, 0xB7]⟩,
  ⟨0x141, 0x147, .shift 1 2⟩,
  ⟨0x148, 0x148, .valid⟩,
  ⟨0x149, 0x149, .text [0x2BC, 0x6E]⟩,
  ⟨0x14A, 0x176, .shift 1 2⟩,
  ⟨0x177, 0x177, .valid⟩,
  ⟨0x178, 0x178, .shift (-121) 1⟩,
  ⟨0x179, 0x17D, .shift 1 2⟩,
  ⟨0x17E, 0x17E, .valid⟩,
  ⟨0x17F, 0x17F, .shift (-268) 1⟩,
  ⟨0x180, 0x180, .valid⟩,
  ⟨0x181, 0x181, .shift 210 1⟩,
  ⟨0x182, 0x184, .shift 1 2⟩,
  ⟨0x185, 0x185, .valid⟩,
  ⟨0x186, 0x186, .shift 206 1⟩,
  ⟨0x187, 0x187, .shift 1 1⟩,
  ⟨0x188, 0x188, .valid⟩,
  ⟨0x189, 0x18A, .shift 205 1⟩,
  ⟨0x18B, 0x18B, .shift 1 1⟩,
  ⟨0x18C, 0x18D, .valid⟩,
  ⟨0x18E, 0x18E, .shift 79 1⟩,
  ⟨0x18F, 0x18F, .shift 202 1⟩,
  ⟨0x190, 0x190, .shift 203 1⟩,
  ⟨0x191, 0x191, .shift 1 1⟩,
  ⟨0x192, 0x192, .valid⟩,
  ⟨0x193, 0x193, .shift 205 1⟩,
  ⟨0x194, 0x194, .shift 207 1⟩,
  ⟨0x195, 0x195, .valid⟩,
  ⟨0x196, 0x196, .shift 211 1⟩,
  ⟨0x197, 0x197, .shift 209 1⟩,
  ⟨0x198, 0x198, .shift 1 1⟩,
  ⟨0x199, 0x19B, .valid⟩,
  ⟨0x19C, 0x19C, .shift 211 1⟩,
  ⟨0x19D, 0x19D, .shift 213 1⟩,
  ⟨0x19E, 0x19E, .valid⟩,
  ⟨0x19F, 0x19F, .shift 214 1⟩,
  ⟨0x1A0, 0x1A4, .shift 1 2⟩,
  ⟨0x1A5, 0x1A5, .valid⟩,
  ⟨0x1A6, 0x1A6, .shift 218 1⟩,
  ⟨0x1A7, 0x1A7, .shift 1 1⟩,
  ⟨0x1A8, 0x1A8, .valid⟩,
  ⟨0x1A9, 0x1A9, .shift 218 1⟩,
  ⟨0x1AA, 0x1AB, .valid⟩,
  ⟨0x1AC, 0x1AC, .shift 1 1⟩,
  ⟨0x1AD, 0x1AD, .valid⟩,
  ⟨0x1AE, 0x1AE, .shift 218 1⟩,
  ⟨0x1AF, 0x1AF, .shift 1 1⟩,
  ⟨0x1B0, 0x1B0, .valid⟩,
  ⟨0x1B1, 0x1B2, .shift 217 1⟩,
  ⟨0x1B3, 0x1B5, .shift 1 2⟩,
  ⟨0x1B6, 0x1B6, .valid⟩,
  ⟨0x1B7, 0x1B7, .shift 219 1⟩,
  ⟨0x1B8, 0x1B8, .shift 1 1⟩,
  ⟨0x1B9, 0x1BB, .valid⟩,
  ⟨0x1BC, 0x1BC, .shift 1 1⟩,
  ⟨0x1BD, 0x1C3, .valid⟩,
  ⟨0x1C4, 0x1C6, .text [0x64, 0x17E]⟩,
  ⟨0x1C7, 0x1C9, .text [0x6C, 0x6A]⟩,
  ⟨0x1CA, 0x1CC, .text [0x6E, 0x6A]⟩,
  ⟨0x1CD, 0x1DB, .shift 1 2⟩,
  ⟨0x1DC, 0x1DD, .valid⟩,
  ⟨0x1DE, 0x1EE, .shift 1 2⟩,
  ⟨0x1EF, 0x1F0, .valid⟩,
  ⟨0x1F1, 0x1F3, .text [0x64, 0x7A]⟩,
  ⟨0x1F4, 0x1F4, .shift 1 1⟩,
  ⟨0x1F5, 0x1F5, .valid⟩,
  ⟨0x1F6, 0x1F6, .shift (-97) 1⟩,
  ⟨0x1F7, 0x1F7, .shift (-56) 1⟩,
  ⟨0x1F8, 0x21E, .shift 1 2⟩,
  ⟨0x21F, 0x21F, .valid⟩,
  ⟨0x220, 0x220, .shift (-130) 1⟩,
  ⟨0x221, 0x221, .valid⟩,
  ⟨0x222, 0x232, .shift 1 2⟩,
  ⟨0x233, 0x239, .valid⟩,
  ⟨0x23A, 0x23A, .shift 10795 1⟩,
  ⟨0x23B, 0x23B, .shift 1 1⟩,
  ⟨0x23C, 0x23C, .valid⟩,
  ⟨0x23D, 0x23D, .shift (-163) 1⟩,
  ⟨0x23E, 0x23E, .shift 10792 1⟩,
  ⟨0x23F, 0x240, .valid⟩,
  ⟨0x241, 0x241, .shift 1 1⟩,
  ⟨0x242, 0x242, .valid⟩,
  ⟨0x243, 0x243, .shift (-195) 1⟩,
  ⟨0x244, 0x244, .shift 69 1⟩,
  ⟨0x245, 0x245, .shift 71 1⟩,
  ⟨0x246, 0x24E, .shift 1 2⟩,
  ⟨0x24F, 0x2AF, .valid⟩,
  ⟨0x2B0, 0x2B0, .shift (-584) 1⟩,
  ⟨0x2B1, 0x2B1, .shift (-75) 1⟩,
  ⟨0x2B2, 0x2B2, .shift (-584) 1⟩,
  ⟨0x2B3, 0x2B3, .shift (-577) 1⟩,
  ⟨0x2B4, 0x2B4, .shift (-59) 1⟩,
  ⟨0x2B5, 0x2B5, .shift (-58) 1⟩,
  ⟨0x2B6, 0x2B6, .shift (-53) 1⟩,
  ⟨0x2B7, 0x2B7, .shift (-576) 1⟩,
  ⟨0x2B8, 0x2B8, .shift (-575) 1⟩,
  ⟨0x2B9, 0x2D7, .valid⟩,
  ⟨0x2D8, 0x2D8, .text [0x20, 0x306]⟩,
  ⟨0x2D9, 0x2D9, .text [0x20, 0x307]⟩,
  ⟨0x2DA, 0x2DA, .text [0x20, 0x30A]⟩,
  ⟨0x2DB, 0x2DB, .text [0x20, 0x328]⟩,
  ⟨0x2DC, 0x2DC, .text [0x20, 0x303]⟩,
  ⟨0x2DD, 0x2DD, .text [0x20, 0x30B]⟩,
  ⟨0x2DE, 0x2DF, .valid⟩,
  ⟨0x2E0, 0x2E0, .shift (-125) 1⟩,
  ⟨0x2E1, 0x2E1, .shift (-629) 1⟩,
  ⟨0x2E2, 0x2E2, .shift (-623) 1⟩,
  ⟨0x2E3, 0x2E3, .shift (-619) 1⟩,
  ⟨0x2E4, 0x2E4, .shift (-79) 1⟩,
  ⟨0x2E5, 0x33F, .valid⟩,
  ⟨0x340, 0x341, .shift (-64) 1⟩,
  ⟨0x342, 0x342, .valid⟩,
  ⟨0x343, 0x343, .shift (-48) 1⟩,
  ⟨0x344, 0x344, .text [0x308, 0x301]⟩,
  ⟨0x345, 0x345, .shift 116 1⟩,
  ⟨0x346, 0x34E, .valid⟩,
  ⟨0x34F, 0x34F, .ignored⟩,
  ⟨0x350, 0x36F, .valid⟩,
  ⟨0x370, 0x372, .shift 1 2⟩,
  ⟨0x373, 0x373, .valid⟩,
  ⟨0x374, 0x374, .shift (-187) 1⟩,
  ⟨0x375, 0x375, .valid⟩,
  ⟨0x376, 0x376, .shift 1 1⟩,
  ⟨0x377, 0x377, .valid⟩,
  ⟨0x378, 0x379, .disallowed⟩,
  ⟨0x37A, 0x37A, .text [0x20, 0x3B9]⟩,
  ⟨0x37B, 0x37D, .valid⟩,
  ⟨0x37E, 0x37E, .shift (-835) 1⟩,
  ⟨0x37F, 0x37F, .shift 116 1⟩,
  ⟨0x380, 0x383, .disallowed⟩,
  ⟨0x384, 0x384, .text [0x20, 0x301]⟩,
  ⟨0x385, 0x385, .text [0x20, 0x308, 0x301]⟩,
  ⟨0x386, 0x386, .shift 38 1⟩,
  ⟨0x387, 0x387, .shift (-720) 1⟩,
  ⟨0x388, 0x38A, .shift 37 1⟩,
  ⟨0x38B, 0x38B, .disallowed⟩,
  ⟨0x38C, 0x38C, .shift 64 1⟩,
  ⟨0x38D, 0x38D, .disallowed⟩,
  ⟨0x38E, 0x38F, .shift 63 1⟩,
  ⟨0x390, 0x390, .valid⟩,
  ⟨0x391, 0x3A1, .shift 32 1⟩,
  ⟨0x3A2, 0x3A2, .disallowed⟩,
  ⟨0x3A3, 0x3AB, .shift 32 1⟩,
  ⟨0x3AC, 0x3CE, .valid⟩,
  ⟨0x3CF, 0x3CF, .shift 8 1⟩,
  ⟨0x3D0, 0x3D0, .shift (-30) 1⟩,
  ⟨0x3D1, 0x3D1, .shift (-25) 1⟩,
  ⟨0x3D2, 0x3D2, .shift (-13) 1⟩,
  ⟨0x3D3, 0x3D3, .shift (-6) 1⟩,
  ⟨0x3D4, 0x3D4, .shift (-9) 1⟩,
  ⟨0x3D5, 0x3D5, .shift (-15) 1⟩,
  ⟨0x3D6, 0x3D6, .shift (-22) 1⟩,
  ⟨0x3D7, 0x3D7, .valid⟩,
  ⟨0x3D8, 0x3EE, .shift 1 2⟩,
  ⟨0x3EF, 0x3EF, .valid⟩,
  ⟨0x3F0, 0x3F0, .shift (-54) 1⟩,
  ⟨0x3F1, 0x3F1, .shift (-48) 1⟩,
  ⟨0x3F2, 0x3F2, .shift (-47) 1⟩,
  ⟨0x3F3, 0x3F3, .valid⟩,
  ⟨0x3F4, 0x3F4, .shift (-60) 1⟩,
  ⟨0x3F5, 0x3F5, .shift (-64) 1⟩,
  ⟨0x3F6, 0x3F6, .valid⟩,
  ⟨0x3F7, 0x3F7, .shift 1 1⟩,
  ⟨0x3F8, 0x3F8, .valid⟩,
  ⟨0x3F9, 0x3F9, .shift (-54) 1⟩,
  ⟨0x3FA, 0x3FA, .shift 1 1⟩,
  ⟨0x3FB, 0x3FC, .valid⟩,
  ⟨0x3FD, 0x3FF, .shift (-130) 1⟩,
  ⟨0x400, 0x40F, .shift 80 1⟩,
  ⟨0x410, 0x42F, .shift 32 1⟩,
  ⟨0x430, 0x45F, .valid⟩,
  ⟨0x460, 0x480, .shift 1 2⟩,
  ⟨0x481, 0x489, .valid⟩,
  ⟨0x48A, 0x4BE, .shift 1 2⟩,
  ⟨0x4BF, 0x4BF, .valid⟩,
  ⟨0x4C0, 0x4C0, .shift 15 1⟩,
  ⟨0x4C1, 0x4CD, .shift 1 2⟩,
  ⟨0x4CE, 0x4CF, .valid⟩,
  ⟨0x4D0, 0x52E, .shift 1 2⟩,
  ⟨0x52F, 0x52F, .valid⟩,
  ⟨0x530, 0x530, .disallowed⟩,
  ⟨0x531, 0x556, .shift 48 1⟩,
  ⟨0x557, 0x558, .disallowed⟩,
  ⟨0x559, 0x586, .valid⟩,
  ⟨0x587, 0x587, .text [0x565, 0x582]⟩,
  ⟨0x588, 0x58A, .valid⟩,
  ⟨0x58B, 0x58C, .disallowed⟩,
  ⟨0x58D, 0x58F, .valid⟩,
  ⟨0x590, 0x590, .disallowed⟩,
  ⟨0x591, 0x5C7, .valid⟩,
  ⟨0x5C8, 0x5CF, .disallowed⟩,
  ⟨0x5D0, 0x5EA, .valid⟩,
  ⟨0x5EB, 0x5EE, .disallowed⟩,
  ⟨0x5EF, 0x5F4, .valid⟩,
  ⟨0x5F5, 0x605, .disallowed⟩,
  ⟨0x606, 0x61B, .valid⟩,
  ⟨0x61C, 0x61C, .disallowed⟩,
  ⟨0x61D, 0x674, .valid⟩,
  ⟨0x675, 0x675, .text [0x627, 0x674]⟩,
  ⟨0x676, 0x676, .text [0x648, 0x674]⟩,
  ⟨0x677, 0x677, .text [0x6C7, 0x674]⟩,
  ⟨0x678, 0x678, .text [0x64A, 0x674]⟩,
  ⟨0x679, 0x6DC, .valid⟩,
  ⟨0x6DD, 0x6DD, .disallowed⟩,
  ⟨0x6DE, 0x70D, .valid⟩,
  ⟨0x70E, 0x70F, .disallowed⟩,
  ⟨0x710, 0x74A, .valid⟩,
  ⟨0x74B, 0x74C, .disallowed⟩,
  ⟨0x74D, 0x7B1, .valid⟩,
  ⟨0x7B2, 0x7BF, .disallowed⟩,
  ⟨0x7C0, 0x7FA, .valid⟩,
  ⟨0x7FB, 0x7FC, .disallowed⟩,
  ⟨0x7FD, 0x82D, .valid⟩,
  ⟨0x82E, 0x82F, .disallowed⟩,
  ⟨0x830, 0x83E, .valid⟩,
  ⟨0x83F, 0x83F, .disallowed⟩,
  ⟨0x840, 0x85B, .valid⟩,
  ⟨0x85C, 0x85D, .disallowed⟩,
  ⟨0x85E, 0x85E, .valid⟩,
  ⟨0x85F, 0x85F, .disallowed⟩,
  ⟨0x860, 0x86A, .valid⟩,
  ⟨0x86B, 0x86F, .disallowed⟩,
  ⟨0x870, 0x88F, .valid⟩,
  ⟨0x890, 0x896, .disallowed⟩,
  ⟨0x897, 0x8E1, .valid⟩,
  ⟨0x8E2, 0x8E2, .disallowed⟩,
  ⟨0x8E3, 0x957, .valid⟩,
  ⟨0x958, 0x958, .text [0x915, 0x93C]⟩,
  ⟨0x959, 0x959, .text [0x916, 0x93C]⟩,
  ⟨0x95A, 0x95A, .text [0x917, 0x93C]⟩,
  ⟨0x95B, 0x95B, .text [0x91C, 0x93C]⟩,
  ⟨0x95C, 0x95C, .text [0x921, 0x93C]⟩,
  ⟨0x95D, 0x95D, .text [0x922, 0x93C]⟩,
  ⟨0x95E, 0x95E, .text [0x92B, 0x93C]⟩,
  ⟨0x95F, 0x95F, .text [0x92F, 0x93C]⟩,
  ⟨0x960, 0x983, .valid⟩,
  ⟨0x984, 0x984, .disallowed⟩,
  ⟨0x985, 0x98C, .valid⟩,
  ⟨0x98D, 0x98E, .disallowed⟩,
  ⟨0x98F, 0x990, .valid⟩,
  ⟨0x991, 0x992, .disallowed⟩,
  ⟨0x993, 0x9A8, .valid⟩,
  ⟨0x9A9, 0x9A9, .disallowed⟩,
  ⟨0x9AA, 0x9B0, .valid⟩,
  ⟨0x9B1, 0x9B1, .disallowed⟩,
  ⟨0x9B2, 0x9B2, .valid⟩,
  ⟨0x9B3, 0x9B5, .disallowed⟩,
  ⟨0x9B6, 0x9B9, .valid⟩,
  ⟨0x9BA, 0x9BB, .disallowed⟩,
  ⟨0x9BC, 0x9C4, .valid⟩,
  ⟨0x9C5, 0x9C6, .disallowed⟩,
  ⟨0x9C7, 0x9C8, .valid⟩,
  ⟨0x9C9, 0x9CA, .disallowed⟩,
  ⟨0x9CB, 0x9CE, .valid⟩,
  ⟨0x9CF, 0x9D6, .disallowed⟩,
  ⟨0x9D7, 0x9D7, .valid⟩,
  ⟨0x9D8, 0x9DB, .disallowed⟩,
  ⟨0x9DC, 0x9DC, .text [0x9A1, 0x9BC]⟩,
  ⟨0x9DD, 0x9DD, .text [0x9A2, 0x9BC]⟩,
  ⟨0x9DE, 0x9DE, .disallowed⟩,
  ⟨0x9DF, 0x9DF, .text [0x9AF, 0x9BC]⟩,
  ⟨0x9E0, 0x9E3, .valid⟩,
  ⟨0x9E4, 0x9E5, .disallowed⟩,
  ⟨0x9E6, 0x9FE, .valid⟩,
  ⟨0x9FF, 0xA00, .disallowed⟩,
  ⟨0xA01, 0xA03, .valid⟩,
  ⟨0xA04, 0xA04, .disallowed⟩,
  ⟨0xA05, 0xA0A, .valid⟩,
  ⟨0xA0B, 0xA0E, .disallowed⟩,
  ⟨0xA0F, 0xA10, .valid⟩,
  ⟨0xA11, 0xA12, .disallowed⟩,
  ⟨0xA13, 0xA28, .valid⟩,
  ⟨0xA29, 0xA29, .disallowed⟩,
  ⟨0xA2A, 0xA30, .valid⟩,
  ⟨0xA31, 0xA31, .disallowed⟩,
  ⟨0xA32, 0xA32, .valid⟩,
  ⟨0xA33, 0xA33, .text [0xA32, 0xA3C]⟩,
  ⟨0xA34, 0xA34, .disallowed⟩,
  ⟨0xA35, 0xA35, .valid⟩,
  ⟨0xA36, 0xA36, .text [0xA38, 0xA3C]⟩,
  ⟨0xA37, 0xA37, .disallowed⟩,
  ⟨0xA38, 0xA39, .valid⟩,
  ⟨0xA3A, 0xA3B, .disallowed⟩,
  ⟨0xA3C, 0xA3C, .valid⟩,
  ⟨0xA3D, 0xA3D, .disallowed⟩,
  ⟨0xA3E, 0xA42, .valid⟩,
  ⟨0xA43, 0xA46, .disallowed⟩,
  ⟨0xA47, 0xA48, .valid⟩,
  ⟨0xA49, 0xA4A, .disallowed⟩,
  ⟨0xA4B, 0xA4D, .valid⟩,
  ⟨0xA4E, 0xA50, .disallowed⟩,
  ⟨0xA51, 0xA51, .valid⟩,
  ⟨0xA52, 0xA58, .disallowed⟩,
  ⟨0xA59, 0xA59, .text [0xA16, 0xA3C]⟩,
  ⟨0xA5A, 0xA5A, .text [0xA17, 0xA3C]⟩,
  ⟨0xA5B, 0xA5B, .text [0xA1C, 0xA3C]⟩,
  ⟨0xA5C, 0xA5C, .valid⟩,
  ⟨0xA5D, 0xA5D, .disallowed⟩,
  ⟨0xA5E, 0xA5E, .text [0xA2B, 0xA3C]⟩,
  ⟨0xA5F, 0xA65, .disallowed⟩,
  ⟨0xA66, 0xA76, .valid⟩,
  ⟨0xA77, 0xA80, .disallowed⟩,
  ⟨0xA81, 0xA83, .valid⟩,
  ⟨0xA84, 0xA84, .disallowed⟩,
  ⟨0xA85, 0xA8D, .valid⟩,
  ⟨0xA8E, 0xA8E, .disallowed⟩,
  ⟨0xA8F, 0xA91, .valid⟩,
  ⟨0xA92, 0xA92, .disallowed⟩,
  ⟨0xA93, 0xAA8, .valid⟩,
  ⟨0xAA9, 0xAA9, .disallowed⟩,
  ⟨0xAAA, 0xAB0, .valid⟩,
  ⟨0xAB1, 0xAB1, .disallowed⟩,
  ⟨0xAB2, 0xAB3, .valid⟩,
  ⟨0xAB4, 0xAB4, .disallowed⟩,
  ⟨0xAB5, 0xAB9, .valid⟩,
  ⟨0xABA, 0xABB, .disallowed⟩,
  ⟨0xABC, 0xAC5, .valid⟩,
  ⟨0xAC6, 0xAC6, .disallowed⟩,
  ⟨0xAC7, 0xAC9, .valid⟩,
  ⟨0xACA, 0xACA, .disallowed⟩,
  ⟨0xACB, 0xACD, .valid⟩,
  ⟨0xACE, 0xACF, .disallowed⟩,
  ⟨0xAD0, 0xAD0, .valid⟩,
  ⟨0xAD1, 0xADF, .disallowed⟩,
  ⟨0xAE0, 0xAE3, .valid⟩,
  ⟨0xAE4, 0xAE5, .disallowed⟩,
  ⟨0xAE6, 0xAF1, .valid⟩,
  ⟨0xAF2, 0xAF8, .disallowed⟩,
  ⟨0xAF9, 0xAFF, .valid⟩,
  ⟨0xB00, 0xB00, .disallowed⟩,
  ⟨0xB01, 0xB03, .valid⟩,
  ⟨0xB04, 0xB04, .disallowed⟩,
  ⟨0xB05, 0xB0C, .valid⟩,
  ⟨0xB0D, 0xB0E, .disallowed⟩,
  ⟨0xB0F, 0xB10, .valid⟩,
  ⟨0xB11, 0xB12, .disallowed⟩,
  ⟨0xB13, 0xB28, .valid⟩,
  ⟨0xB29, 0xB29, .disallowed⟩,
  ⟨0xB2A, 0xB30, .valid⟩,
  ⟨0xB31, 0xB31, .disallowed⟩,
  ⟨0xB32, 0xB33, .valid⟩,
  ⟨0xB34, 0xB34, .disallowed⟩,
  ⟨0xB35, 0xB39, .valid⟩,
  ⟨0xB3A, 0xB3B, .disallowed⟩,
  ⟨0xB3C, 0xB44, .valid⟩,
  ⟨0xB45, 0xB46, .disallowed⟩,
  ⟨0xB47, 0xB48, .valid⟩,
  ⟨0xB49, 0xB4A, .disallowed⟩,
  ⟨0xB4B, 0xB4D, .valid⟩,
  ⟨0xB4E, 0xB54, .disallowed⟩,
  ⟨0xB55, 0xB57, .valid⟩,
  ⟨0xB58, 0xB5B, .disallowed⟩,
  ⟨0xB5C, 0xB5C, .text [0xB21, 0xB3C]⟩,
  ⟨0xB5D, 0xB5D, .text [0xB22, 0xB3C]⟩,
  ⟨0xB5E, 0xB5E, .disallowed⟩,
  ⟨0xB5F, 0xB63, .valid⟩,
  ⟨0xB64, 0xB65, .disallowed⟩,
  ⟨0xB66, 0xB77, .valid⟩,
  ⟨0xB78, 0xB81, .disallowed⟩,
  ⟨0xB82, 0xB83, .valid⟩,
  ⟨0xB84, 0xB84, .disallowed⟩,
  ⟨0xB85, 0xB8A, .valid⟩,
  ⟨0xB8B, 0xB8D, .disallowed⟩,
  ⟨0xB8E, 0xB90, .valid⟩,
  ⟨0xB91, 0xB91, .disallowed⟩,
  ⟨0xB92, 0xB95, .valid⟩,
  ⟨0xB96, 0xB98, .disallowed⟩,
  ⟨0xB99, 0xB9A, .valid⟩,
  ⟨0xB9B, 0xB9B, .disallowed⟩,
  ⟨0xB9C, 0xB9C, .valid⟩,
  ⟨0xB9D, 0xB9D, .disallowed⟩,
  ⟨0xB9E, 0xB9F, .valid⟩,
  ⟨0xBA0, 0xBA2, .disallowed⟩,
  ⟨0xBA3, 0xBA4, .valid⟩,
  ⟨0xBA5, 0xBA7, .disallowed⟩,
  ⟨0xBA8, 0xBAA, .valid⟩,
  ⟨0xBAB, 0xBAD, .disallowed⟩,
  ⟨0xBAE, 0xBB9, .valid⟩,
  ⟨0xBBA, 0xBBD, .disallowed⟩,
  ⟨0xBBE, 0xBC2, .valid⟩,
  ⟨0xBC3, 0xBC5, .disallowed⟩,
  ⟨0xBC6, 0xBC8, .valid⟩,
  ⟨0xBC9, 0xBC9, .disallowed⟩,
  ⟨0xBCA, 0xBCD, .valid⟩,
  ⟨0xBCE, 0xBCF, .disallowed⟩,
  ⟨0xBD0, 0xBD0, .valid⟩,
  ⟨0xBD1, 0xBD6, .disallowed⟩,
  ⟨0xBD7, 0xBD7, .valid⟩,
  ⟨0xBD8, 0xBE5, .disallowed⟩,
  ⟨0xBE6, 0xBFA, .valid⟩,
  ⟨0xBFB, 0xBFF, .disallowed⟩,
  ⟨0xC00, 0xC0C, .valid⟩,
  ⟨0xC0D, 0xC0D, .disallowed⟩,
  ⟨0xC0E, 0xC10, .valid⟩,
  ⟨0xC11, 0xC11, .disallowed⟩,
  ⟨0xC12, 0xC28, .valid⟩,
  ⟨0xC29, 0xC29, .disallowed⟩,
  ⟨0xC2A, 0xC39, .valid⟩,
  ⟨0xC3A, 0xC3B, .disallowed⟩,
  ⟨0xC3C, 0xC44, .valid⟩,
  ⟨0xC45, 0xC45, .disallowed⟩,
  ⟨0xC46, 0xC48, .valid⟩,
  ⟨0xC49, 0xC49, .disallowed⟩,
  ⟨0xC4A, 0xC4D, .valid⟩,
  ⟨0xC4E, 0xC54, .disallowed⟩,
  ⟨0xC55, 0xC56, .valid⟩,
  ⟨0xC57, 0xC57, .disallowed⟩,
  ⟨0xC58, 0xC5A, .valid⟩,
  ⟨0xC5B, 0xC5B, .disallowed⟩,
  ⟨0xC5C, 0xC5D, .valid⟩,
  ⟨0xC5E, 0xC5F, .disallowed⟩,
  ⟨0xC60, 0xC63, .valid⟩,
  ⟨0xC64, 0xC65, .disallowed⟩,
  ⟨0xC66, 0xC6F, .valid⟩,
  ⟨0xC70, 0xC76, .disallowed⟩,
  ⟨0xC77, 0xC8C, .valid⟩,
  ⟨0xC8D, 0xC8D, .disallowed⟩,
  ⟨0xC8E, 0xC90, .valid⟩,
  ⟨0xC91, 0xC91, .disallowed⟩,
  ⟨0xC92, 0xCA8, .valid⟩,
  ⟨0xCA9, 0xCA9, .disallowed⟩,
  ⟨0xCAA, 0xCB3, .valid⟩,
  ⟨0xCB4, 0xCB4, .disallowed⟩,
  ⟨0xCB5, 0xCB9, .valid⟩,
  ⟨0xCBA, 0xCBB, .disallowed⟩,
  ⟨0xCBC, 0xCC4, .valid⟩,
  ⟨0xCC5, 0xCC5, .disallowed⟩,
  ⟨0xCC6, 0xCC8, .valid⟩,
  ⟨0xCC9, 0xCC9, .disallowed⟩,
  ⟨0xCCA, 0xCCD, .valid⟩,
  ⟨0xCCE, 0xCD4, .disallowed⟩,
  ⟨0xCD5, 0xCD6, .valid⟩,
  ⟨0xCD7, 0xCDB, .disallowed⟩,
  ⟨0xCDC, 0xCDE, .valid⟩,
  ⟨0xCDF, 0xCDF, .disallowed⟩,
  ⟨0xCE0, 0xCE3, .valid⟩,
  ⟨0xCE4, 0xCE5, .disallowed⟩,
  ⟨0xCE6, 0xCEF, .valid⟩,
  ⟨0xCF0, 0xCF0, .disallowed⟩,
  ⟨0xCF1, 0xCF3, .valid⟩,
  ⟨0xCF4, 0xCFF, .disallowed⟩,
  ⟨0xD00, 0xD0C, .valid⟩,
  ⟨0xD0D, 0xD0D, .disallowed⟩,
  ⟨0xD0E, 0xD10, .valid⟩,
  ⟨0xD11, 0xD11, .disallowed⟩,
  ⟨0xD12, 0xD44, .valid⟩,
  ⟨0xD45, 0xD45, .disallowed⟩,
  ⟨0xD46, 0xD48, .valid⟩,
  ⟨0xD49, 0xD49, .disallowed⟩,
  ⟨0xD4A, 0xD4F, .valid⟩,
  ⟨0xD50, 0xD53, .disallowed⟩,
  ⟨0xD54, 0xD63, .valid⟩,
  ⟨0xD64, 0xD65, .disallowed⟩,
  ⟨0xD66, 0xD7F, .valid⟩,
  ⟨0xD80, 0xD80, .disallowed⟩,
  ⟨0xD81, 0xD83, .valid⟩,
  ⟨0xD84, 0xD84, .disallowed⟩,
  ⟨0xD85, 0xD96, .valid⟩,
  ⟨0xD97, 0xD99, .disallowed⟩,
  ⟨0xD9A, 0xDB1, .valid⟩,
  ⟨0xDB2, 0xDB2, .disallowed⟩,
  ⟨0xDB3, 0xDBB, .valid⟩,
  ⟨0xDBC, 0xDBC, .disallowed⟩,
  ⟨0xDBD, 0xDBD, .valid⟩,
  ⟨0xDBE, 0xDBF, .disallowed⟩,
  ⟨0xDC0, 0xDC6, .valid⟩,
  ⟨0xDC7, 0xDC9, .disallowed⟩,
  ⟨0xDCA, 0xDCA, .valid⟩,
  ⟨0xDCB, 0xDCE, .disallowed⟩,
  ⟨0xDCF, 0xDD4, .valid⟩,
  ⟨0xDD5, 0xDD5, .disallowed⟩,
  ⟨0xDD6, 0xDD6, .valid⟩,
  ⟨0xDD7, 0xDD7, .disallowed⟩,
  ⟨0xDD8, 0xDDF, .valid⟩,
  ⟨0xDE0, 0xDE5, .disallowed⟩,
  ⟨0xDE6, 0xDEF, .valid⟩,
  ⟨0xDF0, 0xDF1, .disallowed⟩,
  ⟨0xDF2, 0xDF4, .valid⟩,
  ⟨0xDF5, 0xE00, .disallowed⟩,
  ⟨0xE01, 0xE32, .valid⟩,
  ⟨0xE33, 0xE33, .text [0xE4D, 0xE32]⟩,
  ⟨0xE34, 0xE3A, .valid⟩,
  ⟨0xE3B, 0xE3E, .disallowed⟩,
  ⟨0xE3F, 0xE5B, .valid⟩,
  ⟨0xE5C, 0xE80, .disallowed⟩,
  ⟨0xE81, 0xE82, .valid⟩,
  ⟨0xE83, 0xE83, .disallowed⟩,
  ⟨0xE84, 0xE84, .valid⟩,
  ⟨0xE85, 0xE85, .disallowed⟩,
  ⟨0xE86, 0xE8A, .valid⟩,
  ⟨0xE8B, 0xE8B, .disallowed⟩,
  ⟨0xE8C, 0xEA3, .valid⟩,
  ⟨0xEA4, 0xEA4, .disallowed⟩,
  ⟨0xEA5, 0xEA5, .valid⟩,
  ⟨0xEA6, 0xEA6, .disallowed⟩,
  ⟨0xEA7, 0xEB2, .valid⟩,
  ⟨0xEB3, 0xEB3, .text [0xECD, 0xEB2]⟩,
  ⟨0xEB4, 0xEBD, .valid⟩,
  ⟨0xEBE, 0xEBF, .disallowed⟩,
  ⟨0xEC0, 0xEC4, .valid⟩,
  ⟨0xEC5, 0xEC5, .disallowed⟩,
  ⟨0xEC6, 0xEC6, .valid⟩,
  ⟨0xEC7, 0xEC7, .disallowed⟩,
  ⟨0xEC8, 0xECE, .valid⟩,
  ⟨0xECF, 0xECF, .disallowed⟩,
  ⟨0xED0, 0xED9, .valid⟩,
  ⟨0xEDA, 0xEDB, .disallowed⟩,
  ⟨0xEDC, 0xEDC, .text [0xEAB, 0xE99]⟩,
  ⟨0xEDD, 0xEDD, .text [0xEAB, 0xEA1]⟩,
  ⟨0xEDE, 0xEDF, .valid⟩,
  ⟨0xEE0, 0xEFF, .disallowed⟩,
  ⟨0xF00, 0xF0B, .valid⟩,
  ⟨0xF0C, 0xF0C, .shift (-1) 1⟩,
  ⟨0xF0D, 0xF42, .valid⟩,
  ⟨0xF43, 0xF43, .text [0xF42, 0xFB7]⟩,
  ⟨0xF44, 0xF47, .valid⟩,
  ⟨0xF48, 0xF48, .disallowed⟩,
  ⟨0xF49, 0xF4C, .valid⟩,
  ⟨0xF4D, 0xF4D, .text [0xF4C, 0xFB7]⟩,
  ⟨0xF4E, 0xF51, .valid⟩,
  ⟨0xF52, 0xF52, .text [0xF51, 0xFB7]⟩,
  ⟨0xF53, 0xF56, .valid⟩,
  ⟨0xF57, 0xF57, .text [0xF56, 0xFB7]⟩,
  ⟨0xF58, 0xF5B, .valid⟩,
  ⟨0xF5C, 0xF5C, .text [0xF5B, 0xFB7]⟩,
  ⟨0xF5D, 0xF68, .valid⟩,
  ⟨0xF69, 0xF69, .text [0xF40, 0xFB5]⟩,
  ⟨0xF6A, 0xF6C, .valid⟩,
  ⟨0xF6D, 0xF70, .disallowed⟩,
  ⟨0xF71, 0xF72, .valid⟩,
  ⟨0xF73, 0xF73, .text [0xF71, 0xF72]⟩,
  ⟨0xF74, 0xF74, .valid⟩,
  ⟨0xF75, 0xF75, .text [0xF71, 0xF74]⟩,
  ⟨0xF76, 0xF76, .text [0xFB2, 0xF80]⟩,
  ⟨0xF77, 0xF77, .text [0xFB2, 0xF71, 0xF80]⟩,
  ⟨0xF78, 0xF78, .text [0xFB3, 0xF80]⟩,
  ⟨0xF79, 0xF79, .text [0xFB3, 0xF71, 0xF80]⟩,
  ⟨0xF7A, 0xF80, .valid⟩,
  ⟨0xF81, 0xF81, .text [0xF71, 0xF80]⟩,
  ⟨0xF82, 0xF92, .valid⟩,
  ⟨0xF93, 0xF93, .text [0xF92, 0xFB7]⟩,
  ⟨0xF94, 0xF97, .valid⟩,
  ⟨0xF98, 0xF98, .disallowed⟩,
  ⟨0xF99, 0xF9C, .valid⟩,
  ⟨0xF9D, 0xF9D, .text [0xF9C, 0xFB7]⟩,
  ⟨0xF9E, 0xFA1, .valid⟩,
  ⟨0xFA2, 0xFA2, .text [0xFA1, 0xFB7]⟩,
  ⟨0xFA3, 0xFA6, .valid⟩,
  ⟨0xFA7, 0xFA7, .text [0xFA6, 0xFB7]⟩,
  ⟨0xFA8, 0xFAB, .valid⟩,
  ⟨0xFAC, 0xFAC, .text [0xFAB, 0xFB7]⟩,
  ⟨0xFAD, 0xFB8, .valid⟩,
  ⟨0xFB9, 0xFB9, .text [0xF90, 0xFB5]⟩,
  ⟨0xFBA, 0xFBC, .valid⟩,
  ⟨0xFBD, 0xFBD, .disallowed⟩,
  ⟨0xFBE, 0xFCC, .valid⟩,
  ⟨0xFCD, 0xFCD, .disallowed⟩,
  ⟨0xFCE, 0xFDA, .valid⟩,
  ⟨0xFDB, 0xFFF, .disallowed⟩,
  ⟨0x1000, 0x109F, .valid⟩,
  ⟨0x10A0, 0x10C5, .shift 7264 1⟩,
  ⟨0x10C6, 0x10C6, .disallowed⟩,
  ⟨0x10C7, 0x10C7, .shift 7264 1⟩,
  ⟨0x10C8, 0x10CC, .disallowed⟩,
  ⟨0x10CD, 0x10CD, .shift 7264 1⟩,
  ⟨0x10CE, 0x10CF, .disallowed⟩,
  ⟨0x10D0, 0x10FB, .valid⟩,
  ⟨0x10FC, 0x10FC, .shift (-32) 1⟩,
  ⟨0x10FD, 0x115E, .valid⟩,
  ⟨0x115F, 0x1160, .ignored⟩,
  ⟨0x1161, 0x1248, .valid⟩,
  ⟨0x1249, 0x1249, .disallowed⟩,
  ⟨0x124A, 0x124D, .valid⟩,
  ⟨0x124E, 0x124F, .disallowed⟩,
  ⟨0x1250, 0x1256, .valid⟩,
  ⟨0x1257, 0x1257, .disallowed⟩,
  ⟨0x1258, 0x1258, .valid⟩,
  ⟨0x1259, 0x1259, .disallowed⟩,
  ⟨0x125A, 0x125D, .valid⟩,
  ⟨0x125E, 0x125F, .disallowed⟩,
  ⟨0x1260, 0x1288, .valid⟩,
  ⟨0x1289, 0x1289, .disallowed⟩,
  ⟨0x128A, 0x128D, .valid⟩,
  ⟨0x128E, 0x128F, .disallowed⟩,
  ⟨0x1290, 0x12B0, .valid⟩,
  ⟨0x12B1, 0x12B1, .disallowed⟩,
  ⟨0x12B2, 0x12B5, .valid⟩,
  ⟨0x12B6, 0x12B7, .disallowed⟩,
  ⟨0x12B8, 0x12BE, .valid⟩,
  ⟨0x12BF, 0x12BF, .disallowed⟩,
  ⟨0x12C0, 0x12C0, .valid⟩,
  ⟨0x12C1, 0x12C1, .disallowed⟩,
  ⟨0x12C2, 0x12C5, .valid⟩,
  ⟨0x12C6, 0x12C7, .disallowed⟩,
  ⟨0x12C8, 0x12D6, .valid⟩,
  ⟨0x12D7, 0x12D7, .disallowed⟩,
  ⟨0x12D8, 0x1310, .valid⟩,
  ⟨0x1311, 0x1311, .disallowed⟩,
  ⟨0x1312, 0x1315, .valid⟩,
  ⟨0x1316, 0x1317, .disallowed⟩,
  ⟨0x1318, 0x135A, .valid⟩,
  ⟨0x135B, 0x135C, .disallowed⟩,
  ⟨0x135D, 0x137C, .valid⟩,
  ⟨0x137D, 0x137F, .disallowed⟩,
  ⟨0x1380, 0x1399, .valid⟩,
  ⟨0x139A, 0x139F, .disallowed⟩,
  ⟨0x13A0, 0x13F5, .valid⟩,
  ⟨0x13F6, 0x13F7, .disallowed⟩,
  ⟨0x13F8, 0x13FD, .shift (-8) 1⟩,
  ⟨0x13FE, 0x13FF, .disallowed⟩,
  ⟨0x1400, 0x167F, .valid⟩,
  ⟨0x1680, 0x1680, .disallowed⟩,
  ⟨0x1681, 0x169C, .valid⟩,
  ⟨0x169D, 0x169F, .disallowed⟩,
  ⟨0x16A0, 0x16F8, .valid⟩,
  ⟨0x16F9, 0x16FF, .disallowed⟩,
  ⟨0x1700, 0x1715, .valid⟩,
  ⟨0x1716, 0x171E, .disallowed⟩,
  ⟨0x171F, 0x1736, .valid⟩,
  ⟨0x1737, 0x173F, .disallowed⟩,
  ⟨0x1740, 0x1753, .valid⟩,
  ⟨0x1754, 0x175F, .disallowed⟩,
  ⟨0x1760, 0x176C, .valid⟩,
  ⟨0x176D, 0x176D, .disallowed⟩,
  ⟨0x176E, 0x1770, .valid⟩,
  ⟨0x1771, 0x1771, .disallowed⟩,
  ⟨0x1772, 0x1773, .valid⟩,
  ⟨0x1774, 0x177F, .disallowed⟩,
  ⟨0x1780, 0x17B3, .valid⟩,
  ⟨0x17B4, 0x17B5, .ignored⟩,
  ⟨0x17B6, 0x17DD, .valid⟩,
  ⟨0x17DE, 0x17DF, .disallowed⟩,
  ⟨0x17E0, 0x17E9, .valid⟩,
  ⟨0x17EA, 0x17EF, .disallowed⟩,
  ⟨0x17F0, 0x17F9, .valid⟩,
  ⟨0x17FA, 0x17FF, .disallowed⟩,
  ⟨0x1800, 0x180A, .valid⟩,
  ⟨0x180B, 0x180F, .ignored⟩,
  ⟨0x1810, 0x1819, .valid⟩,
  ⟨0x181A, 0x181F, .disallowed⟩,
  ⟨0x1820, 0x1878, .valid⟩,
  ⟨0x1879, 0x187F, .disallowed⟩,
  ⟨0x1880, 0x18AA, .valid⟩,
  ⟨0x18AB, 0x18AF, .disallowed⟩,
  ⟨0x18B0, 0x18F5, .valid⟩,
  ⟨0x18F6, 0x18FF, .disallowed⟩,
  ⟨0x1900, 0x191E, .valid⟩,
  ⟨0x191F, 0x191F, .disallowed⟩,
  ⟨0x1920, 0x192B, .valid⟩,
  ⟨0x192C, 0x192F, .disallowed⟩,
  ⟨0x1930, 0x193B, .valid⟩,
  ⟨0x193C, 0x193F, .disallowed⟩,
  ⟨0x1940, 0x1940, .valid⟩,
  ⟨0x1941, 0x1943, .disallowed⟩,
  ⟨0x1944, 0x196D, .valid⟩,
  ⟨0x196E, 0x196F, .disallowed⟩,
  ⟨0x1970, 0x1974, .valid⟩,
  ⟨0x1975, 0x197F, .disallowed⟩,
  ⟨0x1980, 0x19AB, .valid⟩,
  ⟨0x19AC, 0x19AF, .disallowed⟩,
  ⟨0x19B0, 0x19C9, .valid⟩,
  ⟨0x19CA, 0x19CF, .disallowed⟩,
  ⟨0x19D0, 0x19DA, .valid⟩,
  ⟨0x19DB, 0x19DD, .disallowed⟩,
  ⟨0x19DE, 0x1A1B, .valid⟩,
  ⟨0x1A1C, 0x1A1D, .disallowed⟩,
  ⟨0x1A1E, 0x1A5E, .valid⟩,
  ⟨0x1A5F, 0x1A5F, .disallowed⟩,
  ⟨0x1A60, 0x1A7C, .valid⟩,
  ⟨0x1A7D, 0x1A7E, .disallowed⟩,
  ⟨0x1A7F, 0x1A89, .valid⟩,
  ⟨0x1A8A, 0x1A8F, .disallowed⟩,
  ⟨0x1A90, 0x1A99, .valid⟩,
  ⟨0x1A9A, 0x1A9F, .disallowed⟩,
  ⟨0x1AA0, 0x1AAD, .valid⟩,
  ⟨0x1AAE, 0x1AAF, .disallowed⟩,
  ⟨0x1AB0, 0x1ADD, .valid⟩,
  ⟨0x1ADE, 0x1ADF, .disallowed⟩,
  ⟨0x1AE0, 0x1AEB, .valid⟩,
  ⟨0x1AEC, 0x1AFF, .disallowed⟩,
  ⟨0x1B00, 0x1B4C, .valid⟩,
  ⟨0x1B4D, 0x1B4D, .disallowed⟩,
  ⟨0x1B4E, 0x1BF3, .valid⟩,
  ⟨0x1BF4, 0x1BFB, .disallowed⟩,
  ⟨0x1BFC, 0x1C37, .valid⟩,
  ⟨0x1C38, 0x1C3A, .disallowed⟩,
  ⟨0x1C3B, 0x1C49, .valid⟩,
  ⟨0x1C4A, 0x1C4C, .disallowed⟩,
  ⟨0x1C4D, 0x1C7F, .valid⟩,
  ⟨0x1C80, 0x1C80, .shift (-6222) 1⟩,
  ⟨0x1C81, 0x1C81, .shift (-6221) 1⟩,
  ⟨0x1C82, 0x1C82, .shift (-6212) 1⟩,
  ⟨0x1C83, 0x1C83, .shift (-6210) 1⟩,
  ⟨0x1C84, 0x1C85, .text [0x442]⟩,
  ⟨0x1C86, 0x1C86, .shift (-6204) 1⟩,
  ⟨0x1C87, 0x1C87, .shift (-6180) 1⟩,
  ⟨0x1C88, 0x1C88, .shift 35267 1⟩,
  ⟨0x1C89, 0x1C89, .shift 1 1⟩,
  ⟨0x1C8A, 0x1C8A, .valid⟩,
  ⟨0x1C8B, 0x1C8F, .disallowed⟩,
  ⟨0x1C90, 0x1CBA, .shift (-3008) 1⟩,
  ⟨0x1CBB, 0x1CBC, .disallowed⟩,
  ⟨0x1CBD, 0x1CBF, .shift (-3008) 1⟩,
  ⟨0x1CC0, 0x1CC7, .valid⟩,
  ⟨0x1CC8, 0x1CCF, .disallowed⟩,
  ⟨0x1CD0, 0x1CFA, .valid⟩,
  ⟨0x1CFB, 0x1CFF, .disallowed⟩,
  ⟨0x1D00, 0x1D2B, .valid⟩,
  ⟨0x1D2C, 0x1D2C, .shift (-7371) 1⟩,
  ⟨0x1D2D, 0x1D2D, .shift (-7239) 1⟩,
  ⟨0x1D2E, 0x1D30, .shift (-7372) 2⟩,
  ⟨0x1D31, 0x1D31, .shift (-7372) 1⟩,
  ⟨0x1D32, 0x1D32, .shift (-6997) 1⟩,
  ⟨0x1D33, 0x1D3A, .shift (-7372) 1⟩,
  ⟨0x1D3B, 0x1D3B, .valid⟩,
  ⟨0x1D3C, 0x1D3C, .shift (-7373) 1⟩,
  ⟨0x1D3D, 0x1D3D, .shift (-6938) 1⟩,
  ⟨0x1D3E, 0x1D3E, .shift (-7374) 1⟩,
  ⟨0x1D3F, 0x1D3F, .shift (-7373) 1⟩,
  ⟨0x1D40, 0x1D41, .shift (-7372) 1⟩,
  ⟨0x1D42, 0x1D42, .shift (-7371) 1⟩,
  ⟨0x1D43, 0x1D43, .shift (-7394) 1⟩,
  ⟨0x1D44, 0x1D45, .shift (-6900) 1⟩,
  ⟨0x1D46, 0x1D46, .shift (-68) 1⟩,
  ⟨0x1D47, 0x1D47, .shift (-7397) 1⟩,
  ⟨0x1D48, 0x1D49, .shift (-7396) 1⟩,
  ⟨0x1D4A, 0x1D4A, .shift (-6897) 1⟩,
  ⟨0x1D4B, 0x1D4C, .shift (-6896) 1⟩,
  ⟨0x1D4D, 0x1D4D, .shift (-7398) 1⟩,
  ⟨0x1D4E, 0x1D4E, .valid⟩,
  ⟨0x1D4F, 0x1D4F, .shift (-7396) 1⟩,
  ⟨0x1D50, 0x1D50, .shift (-7395) 1⟩,
  ⟨0x1D51, 0x1D51, .shift (-7174) 1⟩,
  ⟨0x1D52, 0x1D52, .shift (-7395) 1⟩,
  ⟨0x1D53, 0x1D53, .shift (-6911) 1⟩,
  ⟨0x1D54, 0x1D55, .shift (-62) 1⟩,
  ⟨0x1D56, 0x1D56, .shift (-7398) 1⟩,
  ⟨0x1D57, 0x1D58, .shift (-7395) 1⟩,
  ⟨0x1D59, 0x1D59, .shift (-60) 1⟩,
  ⟨0x1D5A, 0x1D5A, .shift (-6891) 1⟩,
  ⟨0x1D5B, 0x1D5B, .shift (-7397) 1⟩,
  ⟨0x1D5C, 0x1D5C, .shift (-55) 1⟩,
  ⟨0x1D5D, 0x1D5F, .shift (-6571) 1⟩,
  ⟨0x1D60, 0x1D61, .shift (-6554) 1⟩,
  ⟨0x1D62, 0x1D62, .shift (-7417) 1⟩,
  ⟨0x1D63, 0x1D63, .shift (-7409) 1⟩,
  ⟨0x1D64, 0x1D65, .shift (-7407) 1⟩,
  ⟨0x1D66, 0x1D67, .shift (-6580) 1⟩,
  ⟨0x1D68, 0x1D68, .shift (-6567) 1⟩,
  ⟨0x1D69, 0x1D6A, .shift (-6563) 1⟩,
  ⟨0x1D6B, 0x1D77, .valid⟩,
  ⟨0x1D78, 0x1D78, .shift (-6459) 1⟩,
  ⟨0x1D79, 0x1D9A, .valid⟩,
  ⟨0x1D9B, 0x1D9B, .shift (-6985) 1⟩,
  ⟨0x1D9C, 0x1D9C, .shift (-7481) 1⟩,
  ⟨0x1D9D, 0x1D9D, .shift (-6984) 1⟩,
  ⟨0x1D9E, 0x1D9E, .shift (-7342) 1⟩,
  ⟨0x1D9F, 0x1D9F, .shift (-6979) 1⟩,
  ⟨0x1DA0, 0x1DA0, .shift (-7482) 1⟩,
  ⟨0x1DA1, 0x1DA1, .shift (-6978) 1⟩,
  ⟨0x1DA2, 0x1DA2, .shift (-6977) 1⟩,
  ⟨0x1DA3, 0x1DA3, .shift (-6974) 1⟩,
  ⟨0x1DA4, 0x1DA6, .shift (-6972) 1⟩,
  ⟨0x1DA7, 0x1DA7, .shift (-44) 1⟩,
  ⟨0x1DA8, 0x1DA8, .shift (-6923) 1⟩,
  ⟨0x1DA9, 0x1DA9, .shift (-6972) 1⟩,
  ⟨0x1DAA, 0x1DAA, .shift (-37) 1⟩,
  ⟨0x1DAB, 0x1DAB, .shift (-6924) 1⟩,
  ⟨0x1DAC, 0x1DAC, .shift (-6971) 1⟩,
  ⟨0x1DAD, 0x1DAD, .shift (-6973) 1⟩,
  ⟨0x1DAE, 0x1DB1, .shift (-6972) 1⟩,
  ⟨0x1DB2, 0x1DB2, .shift (-6970) 1⟩,
  ⟨0x1DB3, 0x1DB4, .shift (-6961) 1⟩,
  ⟨0x1DB5, 0x1DB5, .shift (-7178) 1⟩,
  ⟨0x1DB6, 0x1DB7, .shift (-6957) 1⟩,
  ⟨0x1DB8, 0x1DB8, .shift (-156) 1⟩,
  ⟨0x1DB9, 0x1DBA, .shift (-6958) 1⟩,
  ⟨0x1DBB, 0x1DBB, .shift (-7489) 1⟩,
  ⟨0x1DBC, 0x1DBE, .shift (-6956) 1⟩,
  ⟨0x1DBF, 0x1DBF, .shift (-6663) 1⟩,
  ⟨0x1DC0, 0x1DFF, .valid⟩,
  ⟨0x1E00, 0x1E94, .shift 1 2⟩,
  ⟨0x1E95, 0x1E99, .valid⟩,
  ⟨0x1E9A, 0x1E9A, .text [0x61, 0x2BE]⟩,
  ⟨0x1E9B, 0x1E9B, .shift (-58) 1⟩,
  ⟨0x1E9C, 0x1E9D, .valid⟩,
  ⟨0x1E9E, 0x1E9E, .shift (-7615) 1⟩,
  ⟨0x1E9F, 0x1E9F, .valid⟩,
  ⟨0x1EA0, 0x1EFE, .shift 1 2⟩,
  ⟨0x1EFF, 0x1F07, .valid⟩,
  ⟨0x1F08, 0x1F0F, .shift (-8) 1⟩,
  ⟨0x1F10, 0x1F15, .valid⟩,
  ⟨0x1F16, 0x1F17, .disallowed⟩,
  ⟨0x1F18, 0x1F1D, .shift (-8) 1⟩,
  ⟨0x1F1E, 0x1F1F, .disallowed⟩,
  ⟨0x1F20, 0x1F27, .valid⟩,
  ⟨0x1F28, 0x1F2F, .shift (-8) 1⟩,
  ⟨0x1F30, 0x1F37, .valid⟩,
  ⟨0x1F38, 0x1F3F, .shift (-8) 1⟩,
  ⟨0x1F40, 0x1F45, .valid⟩,
  ⟨0x1F46, 0x1F47, .disallowed⟩,
  ⟨0x1F48, 0x1F4D, .shift (-8) 1⟩,
  ⟨0x1F4E, 0x1F4F, .disallowed⟩,
  ⟨0x1F50, 0x1F57, .valid⟩,
  ⟨0x1F58, 0x1F58, .disallowed⟩,
  ⟨0x1F59, 0x1F59, .shift (-8) 1⟩,
  ⟨0x1F5A, 0x1F5A, .disallowed⟩,
  ⟨0x1F5B, 0x1F5B, .shift (-8) 1⟩,
  ⟨0x1F5C, 0x1F5C, .disallowed⟩,
  ⟨0x1F5D, 0x1F5D, .shift (-8) 1⟩,
  ⟨0x1F5E, 0x1F5E, .disallowed⟩,
  ⟨0x1F5F, 0x1F5F, .shift (-8) 1⟩,
  ⟨0x1F60, 0x1F67, .valid⟩,
  ⟨0x1F68, 0x1F6F, .shift (-8) 1⟩,
  ⟨0x1F70, 0x1F70, .valid⟩,
  ⟨0x1F71, 0x1F71, .shift (-7109) 1⟩,
  ⟨0x1F72, 0x1F72, .valid⟩,
  ⟨0x1F73, 0x1F73, .shift (-7110) 1⟩,
  ⟨0x1F74, 0x1F74, .valid⟩,
  ⟨0x1F75, 0x1F75, .shift (-7111) 1⟩,
  ⟨0x1F76, 0x1F76, .valid⟩,
  ⟨0x1F77, 0x1F77, .shift (-7112) 1⟩,
  ⟨0x1F78, 0x1F78, .valid⟩,
  ⟨0x1F79, 0x1F79, .shift (-7085) 1⟩,
  ⟨0x1F7A, 0x1F7A, .valid⟩,
  ⟨0x1F7B, 0x1F7B, .shift (-7086) 1⟩,
  ⟨0x1F7C, 0x1F7C, .valid⟩,
  ⟨0x1F7D, 0x1F7D, .shift (-7087) 1⟩,
  ⟨0x1F7E, 0x1F7F, .disallowed⟩,
  ⟨0x1F80, 0x1F80, .text [0x1F00, 0x3B9]⟩,
  ⟨0x1F81, 0x1F81, .text [0x1F01, 0x3B9]⟩,
  ⟨0x1F82, 0x1F82, .text [0x1F02, 0x3B9]⟩,
  ⟨0x1F83, 0x1F83, .text [0x1F03, 0x3B9]⟩,
  ⟨0x1F84, 0x1F84, .text [0x1F04, 0x3B9]⟩,
  ⟨0x1F85, 0x1F85, .text [0x1F05, 0x3B9]⟩,
  ⟨0x1F86, 0x1F86, .text [0x1F06, 0x3B9]⟩,
  ⟨0x1F87, 0x1F87, .text [0x1F07, 0x3B9]⟩,
  ⟨0x1F88, 0x1F88, .text [0x1F00, 0x3B9]⟩,
  ⟨0x1F89, 0x1F89, .text [0x1F01, 0x3B9]⟩,
  ⟨0x1F8A, 0x1F8A, .text [0x1F02, 0x3B9]⟩,
  ⟨0x1F8B, 0x1F8B, .text [0x1F03, 0x3B9]⟩,
  ⟨0x1F8C, 0x1F8C, .text [0x1F04, 0x3B9]⟩,
  ⟨0x1F8D, 0x1F8D, .text [0x1F05, 0x3B9]⟩,
  ⟨0x1F8E, 0x1F8E, .text [0x1F06, 0x3B9]⟩,
  ⟨0x1F8F, 0x1F8F, .text [0x1F07, 0x3B9]⟩,
  ⟨0x1F90, 0x1F90, .text [0x1F20, 0x3B9]⟩,
  ⟨0x1F91, 0x1F91, .text [0x1F21, 0x3B9]⟩,
  ⟨0x1F92, 0x1F92, .text [0x1F22, 0x3B9]⟩,
  ⟨0x1F93, 0x1F93, .text [0x1F23, 0x3B9]⟩,
  ⟨0x1F94, 0x1F94, .text [0x1F24, 0x3B9]⟩,
  ⟨0x1F95, 0x1F95, .text [0x1F25, 0x3B9]⟩,
  ⟨0x1F96, 0x1F96, .text [0x1F26, 0x3B9]⟩,
  ⟨0x1F97, 0x1F97, .text [0x1F27, 0x3B9]⟩,
  ⟨0x1F98, 0x1F98, .text [0x1F20, 0x3B9]⟩,
  ⟨0x1F99, 0x1F99, .text [0x1F21, 0x3B9]⟩,
  ⟨0x1F9A, 0x1F9A, .text [0x1F22, 0x3B9]⟩,
  ⟨0x1F9B, 0x1F9B, .text [0x1F23, 0x3B9]⟩,
  ⟨0x1F9C, 0x1F9C, .text [0x1F24, 0x3B9]⟩,
  ⟨0x1F9D, 0x1F9D, .text [0x1F25, 0x3B9]⟩,
  ⟨0x1F9E, 0x1F9E, .text [0x1F26, 0x3B9]⟩,
  ⟨0x1F9F, 0x1F9F, .text [0x1F27, 0x3B9]⟩,
  ⟨0x1FA0, 0x1FA0, .text [0x1F60, 0x3B9]⟩,
  ⟨0x1FA1, 0x1FA1, .text [0x1F61, 0x3B9]⟩,
  ⟨0x1FA2, 0x1FA2, .text [0x1F62, 0x3B9]⟩,
  ⟨0x1FA3, 0x1FA3, .text [0x1F63, 0x3B9]⟩,
  ⟨0x1FA4, 0x1FA4, .text [0x1F64, 0x3B9]⟩,
  ⟨0x1FA5, 0x1FA5, .text [0x1F65, 0x3B9]⟩,
  ⟨0x1FA6, 0x1FA6, .text [0x1F66, 0x3B9]⟩,
  ⟨0x1FA7, 0x1FA7, .text [0x1F67, 0x3B9]⟩,
  ⟨0x1FA8, 0x1FA8, .text [0x1F60, 0x3B9]⟩,
  ⟨0x1FA9, 0x1FA9, .text [0x1F61, 0x3B9]⟩,
  ⟨0x1FAA, 0x1FAA, .text [0x1F62, 0x3B9]⟩,
  ⟨0x1FAB, 0x1FAB, .text [0x1F63, 0x3B9]⟩,
  ⟨0x1FAC, 0x1FAC, .text [0x1F64, 0x3B9]⟩,
  ⟨0x1FAD, 0x1FAD, .text [0x1F65, 0x3B9]⟩,
  ⟨0x1FAE, 0x1FAE, .text [0x1F66, 0x3B9]⟩,
  ⟨0x1FAF, 0x1FAF, .text [0x1F67, 0x3B9]⟩,
  ⟨0x1FB0, 0x1FB1, .valid⟩,
  ⟨0x1FB2, 0x1FB2, .text [0x1F70, 0x3B9]⟩,
  ⟨0x1FB3, 0x1FB3, .text [0x3B1, 0x3B9]⟩,
  ⟨0x1FB4, 0x1FB4, .text [0x3AC, 0x3B9]⟩,
  ⟨0x1FB5, 0x1FB5, .disallowed⟩,
  ⟨0x1FB6, 0x1FB6, .valid⟩,
  ⟨0x1FB7, 0x1FB7, .text [0x1FB6, 0x3B9]⟩,
  ⟨0x1FB8, 0x1FB9, .shift (-8) 1⟩,
  ⟨0x1FBA, 0x1FBA, .shift (-74) 1⟩,
  ⟨0x1FBB, 0x1FBB, .shift (-7183) 1⟩,
  ⟨0x1FBC, 0x1FBC, .text [0x3B1, 0x3B9]⟩,
  ⟨0x1FBD, 0x1FBD, .text [0x20, 0x313]⟩,
  ⟨0x1FBE, 0x1FBE, .shift (-7173) 1⟩,
  ⟨0x1FBF, 0x1FBF, .text [0x20, 0x313]⟩,
  ⟨0x1FC0, 0x1FC0, .text [0x20, 0x342]⟩,
  ⟨0x1FC1, 0x1FC1, .text [0x20, 0x308, 0x342]⟩,
  ⟨0x1FC2, 0x1FC2, .text [0x1F74, 0x3B9]⟩,
  ⟨0x1FC3, 0x1FC3, .text [0x3B7, 0x3B9]⟩,
  ⟨0x1FC4, 0x1FC4, .text [0x3AE, 0x3B9]⟩,
  ⟨0x1FC5, 0x1FC5, .disallowed⟩,
  ⟨0x1FC6, 0x1FC6, .valid⟩,
  ⟨0x1FC7, 0x1FC7, .text [0x1FC6, 0x3B9]⟩,
  ⟨0x1FC8, 0x1FC8, .shift (-86) 1⟩,
  ⟨0x1FC9, 0x1FC9, .shift (-7196) 1⟩,
  ⟨0x1FCA, 0x1FCA, .shift (-86) 1⟩,
  ⟨0x1FCB, 0x1FCB, .shift (-7197) 1⟩,
  ⟨0x1FCC, 0x1FCC, .text [0x3B7, 0x3B9]⟩,
  ⟨0x1FCD, 0x1FCD, .text [0x20, 0x313, 0x300]⟩,
  ⟨0x1FCE, 0x1FCE, .text [0x20, 0x313, 0x301]⟩,
  ⟨0x1FCF, 0x1FCF, .text [0x20, 0x313, 0x342]⟩,
  ⟨0x1FD0, 0x1FD2, .valid⟩,
  ⟨0x1FD3, 0x1FD3, .shift (-7235) 1⟩,
  ⟨0x1FD4, 0x1FD5, .disallowed⟩,
  ⟨0x1FD6, 0x1FD7, .valid⟩,
  ⟨0x1FD8, 0x1FD9, .shift (-8) 1⟩,
  ⟨0x1FDA, 0x1FDA, .shift (-100) 1⟩,
  ⟨0x1FDB, 0x1FDB, .shift (-7212) 1⟩,
  ⟨0x1FDC, 0x1FDC, .disallowed⟩,
  ⟨0x1FDD, 0x1FDD, .text [0x20, 0x314, 0x300]⟩,
  ⟨0x1FDE, 0x1FDE, .text [0x20, 0x314, 0x301]⟩,
  ⟨0x1FDF, 0x1FDF, .text [0x20, 0x314, 0x342]⟩,
  ⟨0x1FE0, 0x1FE2, .valid⟩,
  ⟨0x1FE3, 0x1FE3, .shift (-7219) 1⟩,
  ⟨0x1FE4, 0x1FE7, .valid⟩,
  ⟨0x1FE8, 0x1FE9, .shift (-8) 1⟩,
  ⟨0x1FEA, 0x1FEA, .shift (-112) 1⟩,
  ⟨0x1FEB, 0x1FEB, .shift (-7198) 1⟩,
  ⟨0x1FEC, 0x1FEC, .shift (-7) 1⟩,
  ⟨0x1FED, 0x1FED, .text [0x20, 0x308, 0x300]⟩,
  ⟨0x1FEE, 0x1FEE, .text [0x20, 0x308, 0x301]⟩,
  ⟨0x1FEF, 0x1FEF, .shift (-8079) 1⟩,
  ⟨0x1FF0, 0x1FF1, .disallowed⟩,
  ⟨0x1FF2, 0x1FF2, .text [0x1F7C, 0x3B9]⟩,
  ⟨0x1FF3, 0x1FF3, .text [0x3C9, 0x3B9]⟩,
  ⟨0x1FF4, 0x1FF4, .text [0x3CE, 0x3B9]⟩,
  ⟨0x1FF5, 0x1FF5, .disallowed⟩,
  ⟨0x1FF6, 0x1FF6, .valid⟩,
  ⟨0x1FF7, 0x1FF7, .text [0x1FF6, 0x3B9]⟩,
  ⟨0x1FF8, 0x1FF8, .shift (-128) 1⟩,
  ⟨0x1FF9, 0x1FF9, .shift (-7213) 1⟩,
  ⟨0x1FFA, 0x1FFA, .shift (-126) 1⟩,
  ⟨0x1FFB, 0x1FFB, .shift (-7213) 1⟩,
  ⟨0x1FFC, 0x1FFC, .text [0x3C9, 0x3B9]⟩,
  ⟨0x1FFD, 0x1FFD, .text [0x20, 0x301]⟩,
  ⟨0x1FFE, 0x1FFE, .text [0x20, 0x314]⟩,
  ⟨0x1FFF, 0x1FFF, .disallowed⟩
]

end Idna

end SellerSync
