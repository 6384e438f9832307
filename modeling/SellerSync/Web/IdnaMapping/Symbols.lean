import SellerSync.Web.IdnaMapping.Status
/-!
Rows of the IDNA mapping table of Unicode Technical Standard 46, version 17.0, for punctuation,
letterlike and number forms, symbols and enclosed alphanumerics (U+2000 to U+2FFF).
-/
namespace SellerSync

namespace Idna

def rowsSymbols : Array MappingRow := #[
  ⟨0x2000, 0x200A, .text [0x20]⟩,
  ⟨0x200B, 0x200B, .ignored⟩,
  ⟨0x200C, 0x200D, .valid⟩,
  ⟨0x200E, 0x200F, .disallowed⟩,
  ⟨0x2010, 0x2010, .valid⟩,
  ⟨0x2011, 0x2011, .shift (-1) 1⟩,
  ⟨0x2012, 0x2016, .valid⟩,
  ⟨0x2017, 0x2017, .text [0x20, 0x333]⟩,
  ⟨0x2018, 0x2023, .valid⟩,
  ⟨0x2024, 0x2026, .disallowed⟩,
  ⟨0x2027, 0x2027, .valid⟩,
  ⟨0x2028, 0x202E, .disallowed⟩,
  ⟨0x202F, 0x202F, .shift (-8207) 1⟩,
  ⟨0x2030, 0x2032, .valid⟩,
  ⟨0x2033, 0x2033, .text [0x2032, 0x2032]⟩,
  ⟨0x2034, 0x2034, .text [0x2032, 0x2032, 0x2032]⟩,
  ⟨0x2035, 0x2035, .valid⟩,
  ⟨0x2036, 0x2036, .text [0x2035, 0x2035]⟩,
  ⟨0x2037, 0x2037, .text [0x2035, 0x2035, 0x2035]⟩,
  ⟨0x2038, 0x203B, .valid⟩,
  ⟨0x203C, 0x203C, .text [0x21, 0x21]⟩,
  ⟨0x203D, 0x203D, .valid⟩,
  ⟨0x203E, 0x203E, .text [0x20, 0x305]⟩,
  ⟨0x203F, 0x2046, .valid⟩,
  ⟨0x2047, 0x2047, .text [0x3F, 0x3F]⟩,
  ⟨0x2048, 0x2048, .text [0x3F, 0x21]⟩,
  ⟨0x2049, 0x2049, .text [0x21, 0x3F]⟩,
  ⟨0x204A, 0x2056, .valid⟩,
  ⟨0x2057, 0x2057, .text [0x2032, 0x2032, 0x2032, 0x2032]⟩,
  ⟨0x2058, 0x205E, .valid⟩,
  ⟨0x205F, 0x205F, .shift (-8255) 1⟩,
  ⟨0x2060, 0x2064, .ignored⟩,
  ⟨0x2065, 0x2069, .disallowed⟩,
  ⟨0x206A, 0x206F, .ignored⟩,
  ⟨0x2070, 0x2070, .shift (-8256) 1⟩,
  ⟨0x2071, 0x2071, .shift (-8200) 1⟩,
  ⟨0x2072, 0x2073, .disallowed⟩,
  ⟨0x2074, 0x2079, .shift (-8256) 1⟩,
  ⟨0x207A, 0x207A, .shift (-8271) 1⟩,
  ⟨0x207B, 0x207B, .shift 407 1⟩,
  ⟨0x207C, 0x207C, .shift (-8255) 1⟩,
  ⟨0x207D, 0x207E, .shift (-8277) 1⟩,
  ⟨0x207F, 0x207F, .shift (-8209) 1⟩,
  ⟨0x2080, 0x2089, .shift (-8272) 1⟩,
  ⟨0x208A, 0x208A, .shift (-8287) 1⟩,
  ⟨0x208B, 0x208B, .shift 391 1⟩,
  ⟨0x208C, 0x208C, .shift (-8271) 1⟩,
  ⟨0x208D, 0x208E, .shift (-8293) 1⟩,
  ⟨0x208F, 0x208F, .disallowed⟩,
  ⟨0x2090, 0x2090, .shift (-8239) 1⟩,
  ⟨0x2091, 0x2091, .shift (-8236) 1⟩,
  ⟨0x2092, 0x2092, .shift (-8227) 1⟩,
  ⟨0x2093, 0x2093, .shift (-8219) 1⟩,
  ⟨0x2094, 0x2094, .shift (-7739) 1⟩,
  ⟨0x2095, 0x2095, .shift (-8237) 1⟩,
  ⟨0x2096, 0x2099, .shift (-8235) 1⟩,
  ⟨0x209A, 0x209A, .shift (-8234) 1⟩,
  ⟨0x209B, 0x209C, .shift (-8232) 1⟩,
  ⟨0x209D, 0x209F, .disallowed⟩,
  ⟨0x20A0, 0x20A7, .valid⟩,
  ⟨0x20A8, 0x20A8, .text [0x72, 0x73]⟩,
  ⟨0x20A9, 0x20C1, .valid⟩,
  ⟨0x20C2, 0x20CF, .disallowed⟩,
  ⟨0x20D0, 0x20F0, .valid⟩,
  ⟨0x20F1, 0x20FF, .disallowed⟩,
  ⟨0x2100, 0x2100, .text [0x61, 0x2F, 0x63]⟩,
  ⟨0x2101, 0x2101, .text [0x61, 0x2F, 0x73]⟩,
  ⟨0x2102, 0x2102, .shift (-8351) 1⟩,
  ⟨0x2103, 0x2103, .text [0xB0, 0x63]⟩,
  ⟨0x2104, 0x2104, .valid⟩,
  ⟨0x2105, 0x2105, .text [0x63, 0x2F, 0x6F]⟩,
  ⟨0x2106, 0x2106, .text [0x63, 0x2F, 0x75]⟩,
  ⟨0x2107, 0x2107, .shift (-7852) 1⟩,
  ⟨0x2108, 0x2108, .valid⟩,
  ⟨0x2109, 0x2109, .text [0xB0, 0x66]⟩,
  ⟨0x210A, 0x210A, .shift (-8355) 1⟩,
  ⟨0x210B, 0x210E, .text [0x68]⟩,
  ⟨0x210F, 0x210F, .shift (-8168) 1⟩,
  ⟨0x2110, 0x2111, .text [0x69]⟩,
  ⟨0x2112, 0x2113, .text [0x6C]⟩,
  ⟨0x2114, 0x2114, .valid⟩,
  ⟨0x2115, 0x2115, .shift (-8359) 1⟩,
  ⟨0x2116, 0x2116, .text [0x6E, 0x6F]⟩,
  ⟨0x2117, 0x2118, .valid⟩,
  ⟨0x2119, 0x211A, .shift (-8361) 1⟩,
  ⟨0x211B, 0x211D, .text [0x72]⟩,
  ⟨0x211E, 0x211F, .valid⟩,
  ⟨0x2120, 0x2120, .text [0x73, 0x6D]⟩,
  ⟨0x2121, 0x2121, .text [0x74, 0x65, 0x6C]⟩,
  ⟨0x2122, 0x2122, .text [0x74, 0x6D]⟩,
  ⟨0x2123, 0x2123, .valid⟩,
  ⟨0x2124, 0x2124, .shift (-8362) 1⟩,
  ⟨0x2125, 0x2125, .valid⟩,
  ⟨0x2126, 0x2126, .shift (-7517) 1⟩,
  ⟨0x2127, 0x2127, .valid⟩,
  ⟨0x2128, 0x2128, .shift (-8366) 1⟩,
  ⟨0x2129, 0x2129, .valid⟩,
  ⟨0x212A, 0x212A, .shift (-8383) 1⟩,
  ⟨0x212B, 0x212B, .shift (-8262) 1⟩,
  ⟨0x212C, 0x212D, .shift (-8394) 1⟩,
  ⟨0x212E, 0x212E, .valid⟩,
  ⟨0x212F, 0x2130, .text [0x65]⟩,
  ⟨0x2131, 0x2131, .shift (-8395) 1⟩,
  ⟨0x2132, 0x2132, .shift 28 1⟩,
  ⟨0x2133, 0x2133, .shift (-8390) 1⟩,
  ⟨0x2134, 0x2134, .shift (-8389) 1⟩,
  ⟨0x2135, 0x2138, .shift (-7013) 1⟩,
  ⟨0x2139, 0x2139, .shift (-8400) 1⟩,
  ⟨0x213A, 0x213A, .valid⟩,
  ⟨0x213B, 0x213B, .text [0x66, 0x61, 0x78]⟩,
  ⟨0x213C, 0x213C, .shift (-7548) 1⟩,
  ⟨0x213D, 0x213E, .text [0x3B3]⟩,
  ⟨0x213F, 0x213F, .shift (-7551) 1⟩,
  ⟨0x2140, 0x2140, .shift 209 1⟩,
  ⟨0x2141, 0x2144, .valid⟩,
  ⟨0x2145, 0x2146, .text [0x64]⟩,
  ⟨0x2147, 0x2147, .shift (-8418) 1⟩,
  ⟨0x2148, 0x2149, .shift (-8415) 1⟩,
  ⟨0x214A, 0x214F, .valid⟩,
  ⟨0x2150, 0x2150, .text [0x31, 0x2044, 0x37]⟩,
  ⟨0x2151, 0x2151, .text [0x31, 0x2044, 0x39]⟩,
  ⟨0x2152, 0x2152, .text [0x31, 0x2044, 0x31, 0x30]⟩,
  ⟨0x2153, 0x2153, .text [0x31, 0x2044, 0x33]⟩,
  ⟨0x2154, 0x2154, .text [0x32, 0x2044, 0x33]⟩,
  ⟨0x2155, 0x2155, .text [0x31, 0x2044, 0x35]⟩,
  ⟨0x2156, 0x2156, .text [0x32, 0x2044, 0x35]⟩,
  ⟨0x2157, 0x2157, .text [0x33, 0x2044, 0x35]⟩,
  ⟨0x2158, 0x2158, .text [0x34, 0x2044, 0x35]⟩,
  ⟨0x2159, 0x2159, .text [0x31, 0x2044, 0x36]⟩,
  ⟨0x215A, 0x215A, .text [0x35, 0x2044, 0x36]⟩,
  ⟨0x215B, 0x215B, .text [0x31, 0x2044, 0x38]⟩,
  ⟨0x215C, 0x215C, .text [0x33, 0x2044, 0x38]⟩,
  ⟨0x215D, 0x215D, .text [0x35, 0x2044, 0x38]⟩,
  ⟨0x215E, 0x215E, .text [0x37, 0x2044, 0x38]⟩,
  ⟨0x215F, 0x215F, .text [0x31, 0x2044]⟩,
  ⟨0x2160, 0x2160, .shift (-8439) 1⟩,
  ⟨0x2161, 0x2161, .text [0x69, 0x69]⟩,
  ⟨0x2162, 0x2162, .text [0x69, 0x69, 0x69]⟩,
  ⟨0x2163, 0x2163, .text [0x69, 0x76]⟩,
  ⟨0x2164, 0x2164, .shift (-8430) 1⟩,
  ⟨0x2165, 0x2165, .text [0x76, 0x69]⟩,
  ⟨0x2166, 0x2166, .text [0x76, 0x69, 0x69]⟩,
  ⟨0x2167, 0x2167, .text [0x76, 0x69, 0x69, 0x69]⟩,
  ⟨0x2168, 0x2168, .text [0x69, 0x78]⟩,
  ⟨0x2169, 0x2169, .shift (-8433) 1⟩,
  ⟨0x216A, 0x216A, .text [0x78, 0x69]⟩,
  ⟨0x216B, 0x216B, .text [0x78, 0x69, 0x69]⟩,
  ⟨0x216C, 0x216C, .shift (-8448) 1⟩,
  ⟨0x216D, 0x216E, .shift (-8458) 1⟩,
  ⟨0x216F, 0x216F, .shift (-8450) 1⟩,
  ⟨0x2170, 0x2170, .shift (-8455) 1⟩,
  ⟨0x2171, 0x2171, .text [0x69, 0x69]⟩,
  ⟨0x2172, 0x2172, .text [0x69, 0x69, 0x69]⟩,
  ⟨0x2173, 0x2173, .text [0x69, 0x76]⟩,
  ⟨0x2174, 0x2174, .shift (-8446) 1⟩,
  ⟨0x2175, 0x2175, .text [0x76, 0x69]⟩,
  ⟨0x2176, 0x2176, .text [0x76, 0x69, 0x69]⟩,
  ⟨0x2177, 0x2177, .text [0x76, 0x69, 0x69, 0x69]⟩,
  ⟨0x2178, 0x2178, .text [0x69, 0x78]⟩,
  ⟨0x2179, 0x2179, .shift (-8449) 1⟩,
  ⟨0x217A, 0x217A, .text [0x78, 0x69]⟩,
  ⟨0x217B, 0x217B, .text [0x78, 0x69, 0x69]⟩,
  ⟨0x217C, 0x217C, .shift (-8464) 1⟩,
  ⟨0x217D, 0x217E, .shift (-8474) 1⟩,
  ⟨0x217F, 0x217F, .shift (-8466) 1⟩,
  ⟨0x2180, 0x2182, .valid⟩,
  ⟨0x2183, 0x2183, .shift 1 1⟩,
  ⟨0x2184, 0x2188, .valid⟩,
  ⟨0x2189, 0x2189, .text [0x30, 0x2044, 0x33]⟩,
  ⟨0x218A, 0x218B, .valid⟩,
  ⟨0x218C, 0x218F, .disallowed⟩,
  ⟨0x2190, 0x222B, .valid⟩,
  ⟨0x222C, 0x222C, .text [0x222B, 0x222B]⟩,
  ⟨0x222D, 0x222D, .text [0x222B, 0x222B, 0x222B]⟩,
  ⟨0x222E, 0x222E, .valid⟩,
  ⟨0x222F, 0x222F, .text [0x222E, 0x222E]⟩,
  ⟨0x2230, 0x2230, .text [0x222E, 0x222E, 0x222E]⟩,
  ⟨0x2231, 0x2328, .valid⟩,
  ⟨0x2329, 0x232A, .shift 3295 1⟩,
  ⟨0x232B, 0x2429, .valid⟩,
  ⟨0x242A, 0x243F, .disallowed⟩,
  ⟨0x2440, 0x244A, .valid⟩,
  ⟨0x244B, 0x245F, .disallowed⟩,
  ⟨0x2460, 0x2468, .shift (-9263) 1⟩,
  ⟨0x2469, 0x2469, .text [0x31, 0x30]⟩,
  ⟨0x246A, 0x246A, .text [0x31, 0x31]⟩,
  ⟨0x246B, 0x246B, .text [0x31, 0x32]⟩,
  ⟨0x246C, 0x246C, .text [0x31, 0x33]⟩,
  ⟨0x246D, 0x246D, .text [0x31, 0x34]⟩,
  ⟨0x246E, 0x246E, .text [0x31, 0x35]⟩,
  ⟨0x246F, 0x246F, .text [0x31, 0x36]⟩,
  ⟨0x2470, 0x2470, .text [0x31, 0x37]⟩,
  ⟨0x2471, 0x2471, .text [0x31, 0x38]⟩,
  ⟨0x2472, 0x2472, .text [0x31, 0x39]⟩,
  ⟨0x2473, 0x2473, .text [0x32, 0x30]⟩,
  ⟨0x2474, 0x2474, .text [0x28, 0x31, 0x29]⟩,
  ⟨0x2475, 0x2475, .text [0x28, 0x32, 0x29]⟩,
  ⟨0x2476, 0x2476, .text [0x28, 0x33, 0x29]⟩,
  ⟨0x2477, 0x2477, .text [0x28, 0x34, 0x29]⟩,
  ⟨0x2478, 0x2478, .text [0x28, 0x35, 0x29]⟩,
  ⟨0x2479, 0x2479, .text [0x28, 0x36, 0x29]⟩,
  ⟨0x247A, 0x247A, .text [0x28, 0x37, 0x29]⟩,
  ⟨0x247B, 0x247B, .text [0x28, 0x38, 0x29]⟩,
  ⟨0x247C, 0x247C, .text [0x28, 0x39, 0x29]⟩,
  ⟨0x247D, 0x247D, .text [0x28, 0x31, 0x30, 0x29]⟩,
  ⟨0x247E, 0x247E, .text [0x28, 0x31, 0x31, 0x29]⟩,
  ⟨0x247F, 0x247F, .text [0x28, 0x31, 0x32, 0x29]⟩,
  ⟨0x2480, 0x2480, .text [0x28, 0x31, 0x33, 0x29]⟩,
  ⟨0x2481, 0x2481, .text [0x28, 0x31, 0x34, 0x29]⟩,
  ⟨0x2482, 0x2482, .text [0x28, 0x31, 0x35, 0x29]⟩,
  ⟨0x2483, 0x2483, .text [0x28, 0x31, 0x36, 0x29]⟩,
  ⟨0x2484, 0x2484, .text [0x28, 0x31, 0x37, 0x29]⟩,
  ⟨0x2485, 0x2485, .text [0x28, 0x31, 0x38, 0x29]⟩,
  ⟨0x2486, 0x2486, .text [0x28, 0x31, 0x39, 0x29]⟩,
  ⟨0x2487, 0x2487, .text [0x28, 0x32, 0x30, 0x29]⟩,
  ⟨0x2488, 0x249B, .disallowed⟩,
  ⟨0x249C, 0x249C, .text [0x28, 0x61, 0x29]⟩,
  ⟨0x249D, 0x249D, .text [0x28, 0x62, 0x29]⟩,
  ⟨0x249E, 0x249E, .text [0x28, 0x63, 0x29]⟩,
  ⟨0x249F, 0x249F, .text [0x28, 0x64, 0x29]⟩,
  ⟨0x24A0, 0x24A0, .text [0x28, 0x65, 0x29]⟩,
  ⟨0x24A1, 0x24A1, .text [0x28, 0x66, 0x29]⟩,
  ⟨0x24A2, 0x24A2, .text [0x28, 0x67, 0x29]⟩,
  ⟨0x24A3, 0x24A3, .text [0x28, 0x68, 0x29]⟩,
  ⟨0x24A4, 0x24A4, .text [0x28, 0x69, 0x29]⟩,
  ⟨0x24A5, 0x24A5, .text [0x28, 0x6A, 0x29]⟩,
  ⟨0x24A6, 0x24A6, .text [0x28, 0x6B, 0x29]⟩,
  ⟨0x24A7, 0x24A7, .text [0x28, 0x6C, 0x29]⟩,
  ⟨0x24A8, 0x24A8, .text [0x28, 0x6D, 0x29]⟩,
  ⟨0x24A9, 0x24A9, .text [0x28, 0x6E, 0x29]⟩,
  ⟨0x24AA, 0x24AA, .text [0x28, 0x6F, 0x29]⟩,
  ⟨0x24AB, 0x24AB, .text [0x28, 0x70, 0x29]⟩,
  ⟨0x24AC, 0x24AC, .text [0x28, 0x71, 0x29]⟩,
  ⟨0x24AD, 0x24AD, .text [0x28, 0x72, 0x29]⟩,
  ⟨0x24AE, 0x24AE, .text [0x28, 0x73, 0x29]⟩,
  ⟨0x24AF, 0x24AF, .text [0x28, 0x74, 0x29]⟩,
  ⟨0x24B0, 0x24B0, .text [0x28, 0x75, 0x29]⟩,
  ⟨0x24B1, 0x24B1, .text [0x28, 0x76, 0x29]⟩,
  ⟨0x24B2, 0x24B2, .text [0x28, 0x77, 0x29]⟩,
  ⟨0x24B3, 0x24B3, .text [0x28, 0x78, 0x29]⟩,
  ⟨0x24B4, 0x24B4, .text [0x28, 0x79, 0x29]⟩,
  ⟨0x24B5, 0x24B5, .text [0x28, 0x7A, 0x29]⟩,
  ⟨0x24B6, 0x24CF, .shift (-9301) 1⟩,
  ⟨0x24D0, 0x24E9, .shift (-9327) 1⟩,
  ⟨0x24EA, 0x24EA, .shift (-9402) 1⟩,
  ⟨0x24EB, 0x2A0B, .valid⟩,
  ⟨0x2A0C, 0x2A0C, .text [0x222B, 0x222B, 0x222B, 0x222B]⟩,
  ⟨0x2A0D, 0x2A73, .valid⟩,
  ⟨0x2A74, 0x2A74, .text [0x3A, 0x3A, 0x3D]⟩,
  ⟨0x2A75, 0x2A75, .text [0x3D, 0x3D]⟩,
  ⟨0x2A76, 0x2A76, .text [0x3D, 0x3D, 0x3D]⟩,
  ⟨0x2A77, 0x2ADB, .valid⟩,
  ⟨0x2ADC, 0x2ADC, .text [0x2ADD, 0x338]⟩,
  ⟨0x2ADD, 0x2B73, .valid⟩,
  ⟨0x2B74, 0x2B75, .disallowed⟩,
  ⟨0x2B76, 0x2BFF, .valid⟩,
  ⟨0x2C00, 0x2C2F, .shift 48 1⟩,
  ⟨0x2C30, 0x2C5F, .valid⟩,
  ⟨0x2C60, 0x2C60, .shift 1 1⟩,
  ⟨0x2C61, 0x2C61, .valid⟩,
  ⟨0x2C62, 0x2C62, .shift (-10743) 1⟩,
  ⟨0x2C63, 0x2C63, .shift (-3814) 1⟩,
  ⟨0x2C64, 0x2C64, .shift (-10727) 1⟩,
  ⟨0x2C65, 0x2C66, .valid⟩,
  ⟨0x2C67, 0x2C6B, .shift 1 2⟩,
  ⟨0x2C6C, 0x2C6C, .valid⟩,
  ⟨0x2C6D, 0x2C6D, .shift (-10780) 1⟩,
  ⟨0x2C6E, 0x2C6E, .shift (-10749) 1⟩,
  ⟨0x2C6F, 0x2C6F, .shift (-10783) 1⟩,
  ⟨0x2C70, 0x2C70, .shift (-10782) 1⟩,
  ⟨0x2C71, 0x2C71, .valid⟩,
  ⟨0x2C72, 0x2C72, .shift 1 1⟩,
  ⟨0x2C73, 0x2C74, .valid⟩,
  ⟨0x2C75, 0x2C75, .shift 1 1⟩,
  ⟨0x2C76, 0x2C7B, .valid⟩,
  ⟨0x2C7C, 0x2C7C, .shift (-11282) 1⟩,
  ⟨0x2C7D, 0x2C7D, .shift (-11271) 1⟩,
  ⟨0x2C7E, 0x2C7F, .shift (-10815) 1⟩,
  ⟨0x2C80, 0x2CE2, .shift 1 2⟩,
  ⟨0x2CE3, 0x2CEA, .valid⟩,
  ⟨0x2CEB, 0x2CED, .shift 1 2⟩,
  ⟨0x2CEE, 0x2CF1, .valid⟩,
  ⟨0x2CF2, 0x2CF2, .shift 1 1⟩,
  ⟨0x2CF3, 0x2CF3, .valid⟩,
  ⟨0x2CF4, 0x2CF8, .disallowed⟩,
  ⟨0x2CF9, 0x2D25, .valid⟩,
  ⟨0x2D26, 0x2D26, .disallowed⟩,
  ⟨0x2D27, 0x2D27, .valid⟩,
  ⟨0x2D28, 0x2D2C, .disallowed⟩,
  ⟨0x2D2D, 0x2D2D, .valid⟩,
  ⟨0x2D2E, 0x2D2F, .disallowed⟩,
  ⟨0x2D30, 0x2D67, .valid⟩,
  ⟨0x2D68, 0x2D6E, .disallowed⟩,
  ⟨0x2D6F, 0x2D6F, .shift (-14) 1⟩,
  ⟨0x2D70, 0x2D70, .valid⟩,
  ⟨0x2D71, 0x2D7E, .disallowed⟩,
  ⟨0x2D7F, 0x2D96, .valid⟩,
  ⟨0x2D97, 0x2D9F, .disallowed⟩,
  ⟨0x2DA0, 0x2DA6, .valid⟩,
  ⟨0x2DA7, 0x2DA7, .disallowed⟩,
  ⟨0x2DA8, 0x2DAE, .valid⟩,
  ⟨0x2DAF, 0x2DAF, .disallowed⟩,
  ⟨0x2DB0, 0x2DB6, .valid⟩,
  ⟨0x2DB7, 0x2DB7, .disallowed⟩,
  ⟨0x2DB8, 0x2DBE, .valid⟩,
  ⟨0x2DBF, 0x2DBF, .disallowed⟩,
  ⟨0x2DC0, 0x2DC6, .valid⟩,
  ⟨0x2DC7, 0x2DC7, .disallowed⟩,
  ⟨0x2DC8, 0x2DCE, .valid⟩,
  ⟨0x2DCF, 0x2DCF, .disallowed⟩,
  ⟨0x2DD0, 0x2DD6, .valid⟩,
  ⟨0x2DD7, 0x2DD7, .disallowed⟩,
  ⟨0x2DD8, 0x2DDE, .valid⟩,
  ⟨0x2DDF, 0x2DDF, .disallowed⟩,
  ⟨0x2DE0, 0x2E5D, .valid⟩,
  ⟨0x2E5E, 0x2E7F, .disallowed⟩,
  ⟨0x2E80, 0x2E99, .valid⟩,
  ⟨0x2E9A, 0x2E9A, .disallowed⟩,
  ⟨0x2E9B, 0x2E9E, .valid⟩,
  ⟨0x2E9F, 0x2E9F, .shift 15662 1⟩,
  ⟨0x2EA0, 0x2EF2, .valid⟩,
  ⟨0x2EF3, 0x2EF3, .shift 28844 1⟩,
  ⟨0x2EF4, 0x2EFF, .disallowed⟩,
  ⟨0x2F00, 0x2F00, .shift 7936 1⟩,
  ⟨0x2F01, 0x2F01, .shift 7975 1⟩,
  ⟨0x2F02, 0x2F02, .shift 7988 1⟩,
  ⟨0x2F03, 0x2F03, .shift 7996 1⟩,
  ⟨0x2F04, 0x2F04, .shift 8021 1⟩,
  ⟨0x2F05, 0x2F05, .shift 8064 1⟩,
  ⟨0x2F06, 0x2F06, .shift 8070 1⟩,
  ⟨0x2F07, 0x2F07, .shift 8089 1⟩,
  ⟨0x2F08, 0x2F08, .shift 8114 1⟩,
  ⟨0x2F09, 0x2F09, .shift 8758 1⟩,
  ⟨0x2F0A, 0x2F0A, .shift 8795 1⟩,
  ⟨0x2F0B, 0x2F0B, .shift 8800 1⟩,
  ⟨0x2F0C, 0x2F0C, .shift 8822 1⟩,
  ⟨0x2F0D, 0x2F0D, .shift 8841 1⟩,
  ⟨0x2F0E, 0x2F0E, .shift 8861 1⟩,
  ⟨0x2F0F, 0x2F0F, .shift 8913 1⟩,
  ⟨0x2F10, 0x2F10, .shift 8933 1⟩,
  ⟨0x2F11, 0x2F11, .shift 8943 1⟩,
  ⟨0x2F12, 0x2F12, .shift 9097 1⟩,
  ⟨0x2F13, 0x2F13, .shift 9190 1⟩,
  ⟨0x2F14, 0x2F14, .shift 9217 1⟩,
  ⟨0x2F15, 0x2F15, .shift 9221 1⟩,
  ⟨0x2F16, 0x2F16, .shift 9250 1⟩,
  ⟨0x2F17, 0x2F17, .shift 9258 1⟩,
  ⟨0x2F18, 0x2F18, .shift 9284 1⟩,
  ⟨0x2F19, 0x2F19, .shift 9296 1⟩,
  ⟨0x2F1A, 0x2F1A, .shift 9320 1⟩,
  ⟨0x2F1B, 0x2F1B, .shift 9371 1⟩,
  ⟨0x2F1C, 0x2F1C, .shift 9388 1⟩,
  ⟨0x2F1D, 0x2F1D, .shift 9414 1⟩,
  ⟨0x2F1E, 0x2F1E, .shift 10169 1⟩,
  ⟨0x2F1F, 0x2F1F, .shift 10240 1⟩,
  ⟨0x2F20, 0x2F20, .shift 10699 1⟩,
  ⟨0x2F21, 0x2F21, .shift 10721 1⟩,
  ⟨0x2F22, 0x2F22, .shift 10728 1⟩,
  ⟨0x2F23, 0x2F23, .shift 10738 1⟩,
  ⟨0x2F24, 0x2F24, .shift 10755 1⟩,
  ⟨0x2F25, 0x2F25, .shift 10830 1⟩,
  ⟨0x2F26, 0x2F26, .shift 11306 1⟩,
  ⟨0x2F27, 0x2F27, .shift 11353 1⟩,
  ⟨0x2F28, 0x2F28, .shift 11472 1⟩,
  ⟨0x2F29, 0x2F29, .shift 11494 1⟩,
  ⟨0x2F2A, 0x2F2A, .shift 11512 1⟩,
  ⟨0x2F2B, 0x2F2B, .shift 11533 1⟩,
  ⟨0x2F2C, 0x2F2C, .shift 11586 1⟩,
  ⟨0x2F2D, 0x2F2D, .shift 11588 1⟩,
  ⟨0x2F2E, 0x2F2E, .shift 11949 1⟩,
  ⟨0x2F2F, 0x2F2F, .shift 11958 1⟩,
  ⟨0x2F30, 0x2F30, .shift 11969 1⟩,
  ⟨0x2F31, 0x2F31, .shift 11981 1⟩,
  ⟨0x2F32, 0x2F32, .shift 12096 1⟩,
  ⟨0x2F33, 0x2F33, .shift 12103 1⟩,
  ⟨0x2F34, 0x2F34, .shift 12107 1⟩,
  ⟨0x2F35, 0x2F35, .shift 12223 1⟩,
  ⟨0x2F36, 0x2F36, .shift 12232 1⟩,
  ⟨0x2F37, 0x2F37, .shift 12244 1⟩,
  ⟨0x2F38, 0x2F38, .shift 12251 1⟩,
  ⟨0x2F39, 0x2F39, .shift 12311 1⟩,
  ⟨0x2F3A, 0x2F3A, .shift 12327 1⟩,
  ⟨0x2F3B, 0x2F3B, .shift 12344 1⟩,
  ⟨0x2F3C, 0x2F3C, .shift 12423 1⟩,
  ⟨0x2F3D, 0x2F3D, .shift 13003 1⟩,
  ⟨0x2F3E, 0x2F3E, .shift 13048 1⟩,
  ⟨0x2F3F, 0x2F3F, .shift 13068 1⟩,
  ⟨0x2F40, 0x2F40, .shift 13807 1⟩,
  ⟨0x2F41, 0x2F41, .shift 13811 1⟩,
  ⟨0x2F42, 0x2F42, .shift 13893 1⟩,
  ⟨0x2F43, 0x2F43, .shift 13908 1⟩,
  ⟨0x2F44, 0x2F44, .shift 13920 1⟩,
  ⟨0x2F45, 0x2F45, .shift 13940 1⟩,
  ⟨0x2F46, 0x2F46, .shift 13978 1⟩,
  ⟨0x2F47, 0x2F47, .shift 13982 1⟩,
  ⟨0x2F48, 0x2F48, .shift 14248 1⟩,
  ⟨0x2F49, 0x2F49, .shift 14271 1⟩,
  ⟨0x2F4A, 0x2F4A, .shift 14302 1⟩,
  ⟨0x2F4B, 0x2F4B, .shift 15317 1⟩,
  ⟨0x2F4C, 0x2F4C, .shift 15382 1⟩,
  ⟨0x2F4D, 0x2F4D, .shift 15404 1⟩,
  ⟨0x2F4E, 0x2F4E, .shift 15461 1⟩,
  ⟨0x2F4F, 0x2F4F, .shift 15484 1⟩,
  ⟨0x2F50, 0x2F50, .shift 15492 1⟩,
  ⟨0x2F51, 0x2F51, .shift 15498 1⟩,
  ⟨0x2F52, 0x2F52, .shift 15549 1⟩,
  ⟨0x2F53, 0x2F53, .shift 15553 1⟩,
  ⟨0x2F54, 0x2F54, .shift 15584 1⟩,
  ⟨0x2F55, 0x2F55, .shift 16662 1⟩,
  ⟨0x2F56, 0x2F56, .shift 17108 1⟩,
  ⟨0x2F57, 0x2F57, .shift 17119 1⟩,
  ⟨0x2F58, 0x2F58, .shift 17123 1⟩,
  ⟨0x2F59, 0x2F59, .shift 17126 1⟩,
  ⟨0x2F5A, 0x2F5A, .shift 17133 1⟩,
  ⟨0x2F5B, 0x2F5B, .shift 17150 1⟩,
  ⟨0x2F5C, 0x2F5C, .shift 17151 1⟩,
  ⟨0x2F5D, 0x2F5D, .shift 17231 1⟩,
  ⟨0x2F5E, 0x2F5E, .shift 17446 1⟩,
  ⟨0x2F5F, 0x2F5F, .shift 17450 1⟩,
  ⟨0x2F60, 0x2F60, .shift 17788 1⟩,
  ⟨0x2F61, 0x2F61, .shift 17797 1⟩,
  ⟨0x2F62, 0x2F62, .shift 17846 1⟩,
  ⟨0x2F63, 0x2F63, .shift 17852 1⟩,
  ⟨0x2F64, 0x2F64, .shift 17860 1⟩,
  ⟨0x2F65, 0x2F65, .shift 17867 1⟩,
  ⟨0x2F66, 0x2F66, .shift 17957 1⟩,
  ⟨0x2F67, 0x2F67, .shift 17963 1⟩,
  ⟨0x2F68, 0x2F68, .shift 18190 1⟩,
  ⟨0x2F69, 0x2F69, .shift 18196 1⟩,
  ⟨0x2F6A, 0x2F6A, .shift 18244 1⟩,
  ⟨0x2F6B, 0x2F6B, .shift 18260 1⟩,
  ⟨0x2F6C, 0x2F6C, .shift 18306 1⟩,
  ⟨0x2F6D, 0x2F6D, .shift 18542 1⟩,
  ⟨0x2F6E, 0x2F6E, .shift 18548 1⟩,
  ⟨0x2F6F, 0x2F6F, .shift 18564 1⟩,
  ⟨0x2F70, 0x2F70, .shift 18890 1⟩,
  ⟨0x2F71, 0x2F71, .shift 19015 1⟩,
  ⟨0x2F72, 0x2F72, .shift 19020 1⟩,
  ⟨0x2F73, 0x2F73, .shift 19201 1⟩,
  ⟨0x2F74, 0x2F74, .shift 19287 1⟩,
  ⟨0x2F75, 0x2F75, .shift 19332 1⟩,
  ⟨0x2F76, 0x2F76, .shift 19709 1⟩,
  ⟨0x2F77, 0x2F77, .shift 19841 1⟩,
  ⟨0x2F78, 0x2F78, .shift 20414 1⟩,
  ⟨0x2F79, 0x2F79, .shift 20440 1⟩,
  ⟨0x2F7A, 0x2F7A, .shift 20496 1⟩,
  ⟨0x2F7B, 0x2F7B, .shift 20546 1⟩,
  ⟨0x2F7C, 0x2F7C, .shift 20613 1⟩,
  ⟨0x2F7D, 0x2F7D, .shift 20623 1⟩,
  ⟨0x2F7E, 0x2F7E, .shift 20628 1⟩,
  ⟨0x2F7F, 0x2F7F, .shift 20660 1⟩,
  ⟨0x2F80, 0x2F80, .shift 20735 1⟩,
  ⟨0x2F81, 0x2F81, .shift 20744 1⟩,
  ⟨0x2F82, 0x2F82, .shift 21089 1⟩,
  ⟨0x2F83, 0x2F83, .shift 21095 1⟩,
  ⟨0x2F84, 0x2F84, .shift 21103 1⟩,
  ⟨0x2F85, 0x2F85, .shift 21111 1⟩,
  ⟨0x2F86, 0x2F86, .shift 21126 1⟩,
  ⟨0x2F87, 0x2F87, .shift 21140 1⟩,
  ⟨0x2F88, 0x2F88, .shift 21143 1⟩,
  ⟨0x2F89, 0x2F89, .shift 21221 1⟩,
  ⟨0x2F8A, 0x2F8A, .shift 21224 1⟩,
  ⟨0x2F8B, 0x2F8B, .shift 21229 1⟩,
  ⟨0x2F8C, 0x2F8C, .shift 22209 1⟩,
  ⟨0x2F8D, 0x2F8D, .shift 22238 1⟩,
  ⟨0x2F8E, 0x2F8E, .shift 22706 1⟩,
  ⟨0x2F8F, 0x2F8F, .shift 22717 1⟩,
  ⟨0x2F90, 0x2F90, .shift 22739 1⟩,
  ⟨0x2F91, 0x2F91, .shift 23021 1⟩,
  ⟨0x2F92, 0x2F92, .shift 23033 1⟩,
  ⟨0x2F93, 0x2F93, .shift 23103 1⟩,
  ⟨0x2F94, 0x2F94, .shift 23148 1⟩,
  ⟨0x2F95, 0x2F95, .shift 23714 1⟩,
  ⟨0x2F96, 0x2F96, .shift 23728 1⟩,
  ⟨0x2F97, 0x2F97, .shift 23742 1⟩,
  ⟨0x2F98, 0x2F98, .shift 23776 1⟩,
  ⟨0x2F99, 0x2F99, .shift 23812 1⟩,
  ⟨0x2F9A, 0x2F9A, .shift 24010 1⟩,
  ⟨0x2F9B, 0x2F9B, .shift 24021 1⟩,
  ⟨0x2F9C, 0x2F9C, .shift 24087 1⟩,
  ⟨0x2F9D, 0x2F9D, .shift 24334 1⟩,
  ⟨0x2F9E, 0x2F9E, .shift 24364 1⟩,
  ⟨0x2F9F, 0x2F9F, .shift 24572 1⟩,
  ⟨0x2FA0, 0x2FA0, .shift 24592 1⟩,
  ⟨0x2FA1, 0x2FA1, .shift 24596 1⟩,
  ⟨0x2FA2, 0x2FA2, .shift 24815 1⟩,
  ⟨0x2FA3, 0x2FA3, .shift 24998 1⟩,
  ⟨0x2FA4, 0x2FA4, .shift 25122 1⟩,
  ⟨0x2FA5, 0x2FA5, .shift 25127 1⟩,
  ⟨0x2FA6, 0x2FA6, .shift 25131 1⟩,
  ⟨0x2FA7, 0x2FA7, .shift 26064 1⟩,
  ⟨0x2FA8, 0x2FA8, .shift 26072 1⟩,
  ⟨0x2FA9, 0x2FA9, .shift 26227 1⟩,
  ⟨0x2FAA, 0x2FAA, .shift 26380 1⟩,
  ⟨0x2FAB, 0x2FAB, .shift 26382 1⟩,
  ⟨0x2FAC, 0x2FAC, .shift 26428 1⟩,
  ⟨0x2FAD, 0x2FAD, .shift 26532 1⟩,
  ⟨0x2FAE, 0x2FAE, .shift 26544 1⟩,
  ⟨0x2FAF, 0x2FAF, .shift 26547 1⟩,
  ⟨0x2FB0, 0x2FB0, .shift 26553 1⟩,
  ⟨0x2FB1, 0x2FB1, .shift 26650 1⟩,
  ⟨0x2FB2, 0x2FB2, .shift 26683 1⟩,
  ⟨0x2FB3, 0x2FB3, .shift 26688 1⟩,
  ⟨0x2FB4, 0x2FB4, .shift 26701 1⟩,
  ⟨0x2FB5, 0x2FB5, .shift 26867 1⟩,
  ⟨0x2FB6, 0x2FB6, .shift 26917 1⟩,
  ⟨0x2FB7, 0x2FB7, .shift 26920 1⟩,
  ⟨0x2FB8, 0x2FB8, .shift 27102 1⟩,
  ⟨0x2FB9, 0x2FB9, .shift 27104 1⟩,
  ⟨0x2FBA, 0x2FBA, .shift 27122 1⟩,
  ⟨0x2FBB, 0x2FBB, .shift 27373 1⟩,
  ⟨0x2FBC, 0x2FBC, .shift 27420 1⟩,
  ⟨0x2FBD, 0x2FBD, .shift 27426 1⟩,
  ⟨0x2FBE, 0x2FBE, .shift 27495 1⟩,
  ⟨0x2FBF, 0x2FBF, .shift 27504 1⟩,
  ⟨0x2FC0, 0x2FC0, .shift 27506 1⟩,
  ⟨0x2FC1, 0x2FC1, .shift 27515 1⟩,
  ⟨0x2FC2, 0x2FC2, .shift 27544 1⟩,
  ⟨0x2FC3, 0x2FC3, .shift 27938 1⟩,
  ⟨0x2FC4, 0x2FC4, .shift 28337 1⟩,
  ⟨0x2FC5, 0x2FC5, .shift 28346 1⟩,
  ⟨0x2FC6, 0x2FC6, .shift 28383 1⟩,
  ⟨0x2FC7, 0x2FC7, .shift 28404 1⟩,
  ⟨0x2FC8, 0x2FC8, .shift 28411 1⟩,
  ⟨0x2FC9, 0x2FC9, .shift 28420 1⟩,
  ⟨0x2FCA, 0x2FCA, .shift 28423 1⟩,
  ⟨0x2FCB, 0x2FCB, .shift 28462 1⟩,
  ⟨0x2FCC, 0x2FCC, .shift 28465 1⟩,
  ⟨0x2FCD, 0x2FCD, .shift 28481 1⟩,
  ⟨0x2FCE, 0x2FCE, .shift 28485 1⟩,
  ⟨0x2FCF, 0x2FCF, .shift 28497 1⟩,
  ⟨0x2FD0, 0x2FD0, .shift 28523 1⟩,
  ⟨0x2FD1, 0x2FD1, .shift 28537 1⟩,
  ⟨0x2FD2, 0x2FD2, .shift 28544 1⟩,
  ⟨0x2FD3, 0x2FD3, .shift 28602 1⟩,
  ⟨0x2FD4, 0x2FD4, .shift 28616 1⟩,
  ⟨0x2FD5, 0x2FD5, .shift 28619 1⟩,
  ⟨0x2FD6, 0x2FFF, .disallowed⟩
]

end Idna

end SellerSync
