import SellerSync.Web.IdnaMapping.Status
/-! Rows of the IDNA mapping table (Unicode Technical Standard 46, version 17.0) from U+FB00 to
U+FFFF. -/
namespace SellerSync

namespace Idna

def rowsPresentationForms : Array MappingRow := #[
  ⟨0xFB00, 0xFB00, .text [0x66, 0x66]⟩,
  ⟨0xFB01, 0xFB01, .text [0x66, 0x69]⟩,
  ⟨0xFB02, 0xFB02, .text [0x66, 0x6C]⟩,
  ⟨0xFB03, 0xFB03, .text [0x66, 0x66, 0x69]⟩,
  ⟨0xFB04, 0xFB04, .text [0x66, 0x66, 0x6C]⟩,
  ⟨0xFB05, 0xFB06, .text [0x73, 0x74]⟩,
  ⟨0xFB07, 0xFB12, .disallowed⟩,
  ⟨0xFB13, 0xFB13, .text [0x574, 0x576]⟩,
  ⟨0xFB14, 0xFB14, .text [0x574, 0x565]⟩,
  ⟨0xFB15, 0xFB15, .text [0x574, 0x56B]⟩,
  ⟨0xFB16, 0xFB16, .text [0x57E, 0x576]⟩,
  ⟨0xFB17, 0xFB17, .text [0x574, 0x56D]⟩,
  ⟨0xFB18, 0xFB1C, .disallowed⟩,
  ⟨0xFB1D, 0xFB1D, .text [0x5D9, 0x5B4]⟩,
  ⟨0xFB1E, 0xFB1E, .valid⟩,
  ⟨0xFB1F, 0xFB1F, .text [0x5F2, 0x5B7]⟩,
  ⟨0xFB20, 0xFB20, .shift (-62782) 1⟩,
  ⟨0xFB21, 0xFB21, .shift (-62801) 1⟩,
  ⟨0xFB22, 0xFB23, .shift (-62799) 1⟩,
  ⟨0xFB24, 0xFB26, .shift (-62793) 1⟩,
  ⟨0xFB27, 0xFB27, .shift (-62783) 1⟩,
  ⟨0xFB28, 0xFB28, .shift (-62782) 1⟩,
  ⟨0xFB29, 0xFB29, .shift (-64254) 1⟩,
  ⟨0xFB2A, 0xFB2A, .text [0x5E9, 0x5C1]⟩,
  ⟨0xFB2B, 0xFB2B, .text [0x5E9, 0x5C2]⟩,
  ⟨0xFB2C, 0xFB2C, .text [0x5E9, 0x5BC, 0x5C1]⟩,
  ⟨0xFB2D, 0xFB2D, .text [0x5E9, 0x5BC, 0x5C2]⟩,
  ⟨0xFB2E, 0xFB2E, .text [0x5D0, 0x5B7]⟩,
  ⟨0xFB2F, 0xFB2F, .text [0x5D0, 0x5B8]⟩,
  ⟨0xFB30, 0xFB30, .text [0x5D0, 0x5BC]⟩,
  ⟨0xFB31, 0xFB31, .text [0x5D1, 0x5BC]⟩,
  ⟨0xFB32, 0xFB32, .text [0x5D2, 0x5BC]⟩,
  ⟨0xFB33, 0xFB33, .text [0x5D3, 0x5BC]⟩,
  ⟨0xFB34, 0xFB34, .text [0x5D4, 0x5BC]⟩,
  ⟨0xFB35, 0xFB35, .text [0x5D5, 0x5BC]⟩,
  ⟨0xFB36, 0xFB36, .text [0x5D6, 0x5BC]⟩,
  ⟨0xFB37, 0xFB37, .disallowed⟩,
  ⟨0xFB38, 0xFB38, .text [0x5D8, 0x5BC]⟩,
  ⟨0xFB39, 0xFB39, .text [0x5D9, 0x5BC]⟩,
  ⟨0xFB3A, 0xFB3A, .text [0x5DA, 0x5BC]⟩,
  ⟨0xFB3B, 0xFB3B, .text [0x5DB, 0x5BC]⟩,
  ⟨0xFB3C, 0xFB3C, .text [0x5DC, 0x5BC]⟩,
  ⟨0xFB3D, 0xFB3D, .disallowed⟩,
  ⟨0xFB3E, 0xFB3E, .text [0x5DE, 0x5BC]⟩,
  ⟨0xFB3F, 0xFB3F, .disallowed⟩,
  ⟨0xFB40, 0xFB40, .text [0x5E0, 0x5BC]⟩,
  ⟨0xFB41, 0xFB41, .text [0x5E1, 0x5BC]⟩,
  ⟨0xFB42, 0xFB42, .disallowed⟩,
  ⟨0xFB43, 0xFB43, .text [0x5E3, 0x5BC]⟩,
  ⟨0xFB44, 0xFB44, .text [0x5E4, 0x5BC]⟩,
  ⟨0xFB45, 0xFB45, .disallowed⟩,
  ⟨0xFB46, 0xFB46, .text [0x5E6, 0x5BC]⟩,
  ⟨0xFB47, 0xFB47, .text [0x5E7, 0x5BC]⟩,
  ⟨0xFB48, 0xFB48, .text [0x5E8, 0x5BC]⟩,
  ⟨0xFB49, 0xFB49, .text [0x5E9, 0x5BC]⟩,
  ⟨0xFB4A, 0xFB4A, .text [0x5EA, 0x5BC]⟩,
  ⟨0xFB4B, 0xFB4B, .text [0x5D5, 0x5B9]⟩,
  ⟨0xFB4C, 0xFB4C, .text [0x5D1, 0x5BF]⟩,
  ⟨0xFB4D, 0xFB4D, .text [0x5DB, 0x5BF]⟩,
  ⟨0xFB4E, 0xFB4E, .text [0x5E4, 0x5BF]⟩,
  ⟨0xFB4F, 0xFB4F, .text [0x5D0, 0x5DC]⟩,
  ⟨0xFB50, 0xFB51, .text [0x671]⟩,
  ⟨0xFB52, 0xFB55, .text [0x67B]⟩,
  ⟨0xFB56, 0xFB59, .text [0x67E]⟩,
  ⟨0xFB5A, 0xFB5D, .text [0x680]⟩,
  ⟨0xFB5E, 0xFB61, .text [0x67A]⟩,
  ⟨0xFB62, 0xFB65, .text [0x67F]⟩,
  ⟨0xFB66, 0xFB69, .text [0x679]⟩,
  ⟨0xFB6A, 0xFB6D, .text [0x6A4]⟩,
  ⟨0xFB6E, 0xFB71, .text [0x6A6]⟩,
  ⟨0xFB72, 0xFB75, .text [0x684]⟩,
  ⟨0xFB76, 0xFB79, .text [0x683]⟩,
  ⟨0xFB7A, 0xFB7D, .text [0x686]⟩,
  ⟨0xFB7E, 0xFB81, .text [0x687]⟩,
  ⟨0xFB82, 0xFB83, .text [0x68D]⟩,
  ⟨0xFB84, 0xFB85, .text [0x68C]⟩,
  ⟨0xFB86, 0xFB87, .text [0x68E]⟩,
  ⟨0xFB88, 0xFB89, .text [0x688]⟩,
  ⟨0xFB8A, 0xFB8B, .text [0x698]⟩,
  ⟨0xFB8C, 0xFB8D, .text [0x691]⟩,
  ⟨0xFB8E, 0xFB91, .text [0x6A9]⟩,
  ⟨0xFB92, 0xFB95, .text [0x6AF]⟩,
  ⟨0xFB96, 0xFB99, .text [0x6B3]⟩,
  ⟨0xFB9A, 0xFB9D, .text [0x6B1]⟩,
  ⟨0xFB9E, 0xFB9F, .text [0x6BA]⟩,
  ⟨0xFBA0, 0xFBA3, .text [0x6BB]⟩,
  ⟨0xFBA4, 0xFBA5, .text [0x6C0]⟩,
  ⟨0xFBA6, 0xFBA9, .text [0x6C1]⟩,
  ⟨0xFBAA, 0xFBAD, .text [0x6BE]⟩,
  ⟨0xFBAE, 0xFBAF, .text [0x6D2]⟩,
  ⟨0xFBB0, 0xFBB1, .text [0x6D3]⟩,
  ⟨0xFBB2, 0xFBD2, .valid⟩,
  ⟨0xFBD3, 0xFBD6, .text [0x6AD]⟩,
  ⟨0xFBD7, 0xFBD8, .text [0x6C7]⟩,
  ⟨0xFBD9, 0xFBDA, .text [0x6C6]⟩,
  ⟨0xFBDB, 0xFBDC, .text [0x6C8]⟩,
  ⟨0xFBDD, 0xFBDD, .text [0x6C7, 0x674]⟩,
  ⟨0xFBDE, 0xFBDF, .text [0x6CB]⟩,
  ⟨0xFBE0, 0xFBE1, .text [0x6C5]⟩,
  ⟨0xFBE2, 0xFBE3, .text [0x6C9]⟩,
  ⟨0xFBE4, 0xFBE7, .text [0x6D0]⟩,
  ⟨0xFBE8, 0xFBE9, .text [0x649]⟩,
  ⟨0xFBEA, 0xFBEB, .text [0x626, 0x627]⟩,
  ⟨0xFBEC, 0xFBED, .text [0x626, 0x6D5]⟩,
  ⟨0xFBEE, 0xFBEF, .text [0x626, 0x648]⟩,
  ⟨0xFBF0, 0xFBF1, .text [0x626, 0x6C7]⟩,
  ⟨0xFBF2, 0xFBF3, .text [0x626, 0x6C6]⟩,
  ⟨0xFBF4, 0xFBF5, .text [0x626, 0x6C8]⟩,
  ⟨0xFBF6, 0xFBF8, .text [0x626, 0x6D0]⟩,
  ⟨0xFBF9, 0xFBFB, .text [0x626, 0x649]⟩,
  ⟨0xFBFC, 0xFBFF, .text [0x6CC]⟩,
  ⟨0xFC00, 0xFC00, .text [0x626, 0x62C]⟩,
  ⟨0xFC01, 0xFC01, .text [0x626, 0x62D]⟩,
  ⟨0xFC02, 0xFC02, .text [0x626, 0x645]⟩,
  ⟨0xFC03, 0xFC03, .text [0x626, 0x649]⟩,
  ⟨0xFC04, 0xFC04, .text [0x626, 0x64A]⟩,
  ⟨0xFC05, 0xFC05, .text [0x628, 0x62C]⟩,
  ⟨0xFC06, 0xFC06, .text [0x628, 0x62D]⟩,
  ⟨0xFC07, 0xFC07, .text [0x628, 0x62E]⟩,
  ⟨0xFC08, 0xFC08, .text [0x628, 0x645]⟩,
  ⟨0xFC09, 0xFC09, .text [0x628, 0x649]⟩,
  ⟨0xFC0A, 0xFC0A, .text [0x628, 0x64A]⟩,
  ⟨0xFC0B, 0xFC0B, .text [0x62A, 0x62C]⟩,
  ⟨0xFC0C, 0xFC0C, .text [0x62A, 0x62D]⟩,
  ⟨0xFC0D, 0xFC0D, .text [0x62A, 0x62E]⟩,
  ⟨0xFC0E, 0xFC0E, .text [0x62A, 0x645]⟩,
  ⟨0xFC0F, 0xFC0F, .text [0x62A, 0x649]⟩,
  ⟨0xFC10, 0xFC10, .text [0x62A, 0x64A]⟩,
  ⟨0xFC11, 0xFC11, .text [0x62B, 0x62C]⟩,
  ⟨0xFC12, 0xFC12, .text [0x62B, 0x645]⟩,
  ⟨0xFC13, 0xFC13, .text [0x62B, 0x649]⟩,
  ⟨0xFC14, 0xFC14, .text [0x62B, 0x64A]⟩,
  ⟨0xFC15, 0xFC15, .text [0x62C, 0x62D]⟩,
  ⟨0xFC16, 0xFC16, .text [0x62C, 0x645]⟩,
  ⟨0xFC17, 0xFC17, .text [0x62D, 0x62C]⟩,
  ⟨0xFC18, 0xFC18, .text [0x62D, 0x645]⟩,
  ⟨0xFC19, 0xFC19, .text [0x62E, 0x62C]⟩,
  ⟨0xFC1A, 0xFC1A, .text [0x62E, 0x62D]⟩,
  ⟨0xFC1B, 0xFC1B, .text [0x62E, 0x645]⟩,
  ⟨0xFC1C, 0xFC1C, .text [0x633, 0x62C]⟩,
  ⟨0xFC1D, 0xFC1D, .text [0x633, 0x62D]⟩,
  ⟨0xFC1E, 0xFC1E, .text [0x633, 0x62E]⟩,
  ⟨0xFC1F, 0xFC1F, .text [0x633, 0x645]⟩,
  ⟨0xFC20, 0xFC20, .text [0x635, 0x62D]⟩,
  ⟨0xFC21, 0xFC21, .text [0x635, 0x645]⟩,
  ⟨0xFC22, 0xFC22, .text [0x636, 0x62C]⟩,
  ⟨0xFC23, 0xFC23, .text [0x636, 0x62D]⟩,
  ⟨0xFC24, 0xFC24, .text [0x636, 0x62E]⟩,
  ⟨0xFC25, 0xFC25, .text [0x636, 0x645]⟩,
  ⟨0xFC26, 0xFC26, .text [0x637, 0x62D]⟩,
  ⟨0xFC27, 0xFC27, .text [0x637, 0x645]⟩,
  ⟨0xFC28, 0xFC28, .text [0x638, 0x645]⟩,
  ⟨0xFC29, 0xFC29, .text [0x639, 0x62C]⟩,
  ⟨0xFC2A, 0xFC2A, .text [0x639, 0x645]⟩,
  ⟨0xFC2B, 0xFC2B, .text [0x63A, 0x62C]⟩,
  ⟨0xFC2C, 0xFC2C, .text [0x63A, 0x645]⟩,
  ⟨0xFC2D, 0xFC2D, .text [0x641, 0x62C]⟩,
  ⟨0xFC2E, 0xFC2E, .text [0x641, 0x62D]⟩,
  ⟨0xFC2F, 0xFC2F, .text [0x641, 0x62E]⟩,
  ⟨0xFC30, 0xFC30, .text [0x641, 0x645]⟩,
  ⟨0xFC31, 0xFC31, .text [0x641, 0x649]⟩,
  ⟨0xFC32, 0xFC32, .text [0x641, 0x64A]⟩,
  ⟨0xFC33, 0xFC33, .text [0x642, 0x62D]⟩,
  ⟨0xFC34, 0xFC34, .text [0x642, 0x645]⟩,
  ⟨0xFC35, 0xFC35, .text [0x642, 0x649]⟩,
  ⟨0xFC36, 0xFC36, .text [0x642, 0x64A]⟩,
  ⟨0xFC37, 0xFC37, .text [0x643, 0x627]⟩,
  ⟨0xFC38, 0xFC38, .text [0x643, 0x62C]⟩,
  ⟨0xFC39, 0xFC39, .text [0x643, 0x62D]⟩,
  ⟨0xFC3A, 0xFC3A, .text [0x643, 0x62E]⟩,
  ⟨0xFC3B, 0xFC3B, .text [0x643, 0x644]⟩,
  ⟨0xFC3C, 0xFC3C, .text [0x643, 0x645]⟩,
  ⟨0xFC3D, 0xFC3D, .text [0x643, 0x649]⟩,
  ⟨0xFC3E, 0xFC3E, .text [0x643, 0x64A]⟩,
  ⟨0xFC3F, 0xFC3F, .text [0x644, 0x62C]⟩,
  ⟨0xFC40, 0xFC40, .text [0x644, 0x62D]⟩,
  ⟨0xFC41, 0xFC41, .text [0x644, 0x62E]⟩,
  ⟨0xFC42, 0xFC42, .text [0x644, 0x645]⟩,
  ⟨0xFC43, 0xFC43, .text [0x644, 0x649]⟩,
  ⟨0xFC44, 0xFC44, .text [0x644, 0x64A]⟩,
  ⟨0xFC45, 0xFC45, .text [0x645, 0x62C]⟩,
  ⟨0xFC46, 0xFC46, .text [0x645, 0x62D]⟩,
  ⟨0xFC47, 0xFC47, .text [0x645, 0x62E]⟩,
  ⟨0xFC48, 0xFC48, .text [0x645, 0x645]⟩,
  ⟨0xFC49, 0xFC49, .text [0x645, 0x649]⟩,
  ⟨0xFC4A, 0xFC4A, .text [0x645, 0x64A]⟩,
  ⟨0xFC4B, 0xFC4B, .text [0x646, 0x62C]⟩,
  ⟨0xFC4C, 0xFC4C, .text [0x646, 0x62D]⟩,
  ⟨0xFC4D, 0xFC4D, .text [0x646, 0x62E]⟩,
  ⟨0xFC4E, 0xFC4E, .text [0x646, 0x645]⟩,
  ⟨0xFC4F, 0xFC4F, .text [0x646, 0x649]⟩,
  ⟨0xFC50, 0xFC50, .text [0x646, 0x64A]⟩,
  ⟨0xFC51, 0xFC51, .text [0x647, 0x62C]⟩,
  ⟨0xFC52, 0xFC52, .text [0x647, 0x645]⟩,
  ⟨0xFC53, 0xFC53, .text [0x647, 0x649]⟩,
  ⟨0xFC54, 0xFC54, .text [0x647, 0x64A]⟩,
  ⟨0xFC55, 0xFC55, .text [0x64A, 0x62C]⟩,
  ⟨0xFC56, 0xFC56, .text [0x64A, 0x62D]⟩,
  ⟨0xFC57, 0xFC57, .text [0x64A, 0x62E]⟩,
  ⟨0xFC58, 0xFC58, .text [0x64A, 0x645]⟩,
  ⟨0xFC59, 0xFC59, .text [0x64A, 0x649]⟩,
  ⟨0xFC5A, 0xFC5A, .text [0x64A, 0x64A]⟩,
  ⟨0xFC5B, 0xFC5B, .text [0x630, 0x670]⟩,
  ⟨0xFC5C, 0xFC5C, .text [0x631, 0x670]⟩,
  ⟨0xFC5D, 0xFC5D, .text [0x649, 0x670]⟩,
  ⟨0xFC5E, 0xFC5E, .text [0x20, 0x64C, 0x651]⟩,
  ⟨0xFC5F, 0xFC5F, .text [0x20, 0x64D, 0x651]⟩,
  ⟨0xFC60, 0xFC60, .text [0x20, 0x64E, 0x651]⟩,
  ⟨0xFC61, 0xFC61, .text [0x20, 0x64F, 0x651]⟩,
  ⟨0xFC62, 0xFC62, .text [0x20, 0x650, 0x651]⟩,
  ⟨0xFC63, 0xFC63, .text [0x20, 0x651, 0x670]⟩,
  ⟨0xFC64, 0xFC64, .text [0x626, 0x631]⟩,
  ⟨0xFC65, 0xFC65, .text [0x626, 0x632]⟩,
  ⟨0xFC66, 0xFC66, .text [0x626, 0x645]⟩,
  ⟨0xFC67, 0xFC67, .text [0x626, 0x646]⟩,
  ⟨0xFC68, 0xFC68, .text [0x626, 0x649]⟩,
  ⟨0xFC69, 0xFC69, .text [0x626, 0x64A]⟩,
  ⟨0xFC6A, 0xFC6A, .text [0x628, 0x631]⟩,
  ⟨0xFC6B, 0xFC6B, .text [0x628, 0x632]⟩,
  ⟨0xFC6C, 0xFC6C, .text [0x628, 0x645]⟩,
  ⟨0xFC6D, 0xFC6D, .text [0x628, 0x646]⟩,
  ⟨0xFC6E, 0xFC6E, .text [0x628, 0x649]⟩,
  ⟨0xFC6F, 0xFC6F, .text [0x628, 0x64A]⟩,
  ⟨0xFC70, 0xFC70, .text [0x62A, 0x631]⟩,
  ⟨0xFC71, 0xFC71, .text [0x62A, 0x632]⟩,
  ⟨0xFC72, 0xFC72, .text [0x62A, 0x645]⟩,
  ⟨0xFC73, 0xFC73, .text [0x62A, 0x646]⟩,
  ⟨0xFC74, 0xFC74, .text [0x62A, 0x649]⟩,
  ⟨0xFC75, 0xFC75, .text [0x62A, 0x64A]⟩,
  ⟨0xFC76, 0xFC76, .text [0x62B, 0x631]⟩,
  ⟨0xFC77, 0xFC77, .text [0x62B, 0x632]⟩,
  ⟨0xFC78, 0xFC78, .text [0x62B, 0x645]⟩,
  ⟨0xFC79, 0xFC79, .text [0x62B, 0x646]⟩,
  ⟨0xFC7A, 0xFC7A, .text [0x62B, 0x649]⟩,
  ⟨0xFC7B, 0xFC7B, .text [0x62B, 0x64A]⟩,
  ⟨0xFC7C, 0xFC7C, .text [0x641, 0x649]⟩,
  ⟨0xFC7D, 0xFC7D, .text [0x641, 0x64A]⟩,
  ⟨0xFC7E, 0xFC7E, .text [0x642, 0x649]⟩,
  ⟨0xFC7F, 0xFC7F, .text [0x642, 0x64A]⟩,
  ⟨0xFC80, 0xFC80, .text [0x643, 0x627]⟩,
  ⟨0xFC81, 0xFC81, .text [0x643, 0x644]⟩,
  ⟨0xFC82, 0xFC82, .text [0x643, 0x645]⟩,
  ⟨0xFC83, 0xFC83, .text [0x643, 0x649]⟩,
  ⟨0xFC84, 0xFC84, .text [0x643, 0x64A]⟩,
  ⟨0xFC85, 0xFC85, .text [0x644, 0x645]⟩,
  ⟨0xFC86, 0xFC86, .text [0x644, 0x649]⟩,
  ⟨0xFC87, 0xFC87, .text [0x644, 0x64A]⟩,
  ⟨0xFC88, 0xFC88, .text [0x645, 0x627]⟩,
  ⟨0xFC89, 0xFC89, .text [0x645, 0x645]⟩,
  ⟨0xFC8A, 0xFC8A, .text [0x646, 0x631]⟩,
  ⟨0xFC8B, 0xFC8B, .text [0x646, 0x632]⟩,
  ⟨0xFC8C, 0xFC8C, .text [0x646, 0x645]⟩,
  ⟨0xFC8D, 0xFC8D, .text [0x646, 0x646]⟩,
  ⟨0xFC8E, 0xFC8E, .text [0x646, 0x649]⟩,
  ⟨0xFC8F, 0xFC8F, .text [0x646, 0x64A]⟩,
  ⟨0xFC90, 0xFC90, .text [0x649, 0x670]⟩,
  ⟨0xFC91, 0xFC91, .text [0x64A, 0x631]⟩,
  ⟨0xFC92, 0xFC92, .text [0x64A, 0x632]⟩,
  ⟨0xFC93, 0xFC93, .text [0x64A, 0x645]⟩,
  ⟨0xFC94, 0xFC94, .text [0x64A, 0x646]⟩,
  ⟨0xFC95, 0xFC95, .text [0x64A, 0x649]⟩,
  ⟨0xFC96, 0xFC96, .text [0x64A, 0x64A]⟩,
  ⟨0xFC97, 0xFC97, .text [0x626, 0x62C]⟩,
  ⟨0xFC98, 0xFC98, .text [0x626, 0x62D]⟩,
  ⟨0xFC99, 0xFC99, .text [0x626, 0x62E]⟩,
  ⟨0xFC9A, 0xFC9A, .text [0x626, 0x645]⟩,
  ⟨0xFC9B, 0xFC9B, .text [0x626, 0x647]⟩,
  ⟨0xFC9C, 0xFC9C, .text [0x628, 0x62C]⟩,
  ⟨0xFC9D, 0xFC9D, .text [0x628, 0x62D]⟩,
  ⟨0xFC9E, 0xFC9E, .text [0x628, 0x62E]⟩,
  ⟨0xFC9F, 0xFC9F, .text [0x628, 0x645]⟩,
  ⟨0xFCA0, 0xFCA0, .text [0x628, 0x647]⟩,
  ⟨0xFCA1, 0xFCA1, .text [0x62A, 0x62C]⟩,
  ⟨0xFCA2, 0xFCA2, .text [0x62A, 0x62D]⟩,
  ⟨0xFCA3, 0xFCA3, .text [0x62A, 0x62E]⟩,
  ⟨0xFCA4, 0xFCA4, .text [0x62A, 0x645]⟩,
  ⟨0xFCA5, 0xFCA5, .text [0x62A, 0x647]⟩,
  ⟨0xFCA6, 0xFCA6, .text [0x62B, 0x645]⟩,
  ⟨0xFCA7, 0xFCA7, .text [0x62C, 0x62D]⟩,
  ⟨0xFCA8, 0xFCA8, .text [0x62C, 0x645]⟩,
  ⟨0xFCA9, 0xFCA9, .text [0x62D, 0x62C]⟩,
  ⟨0xFCAA, 0xFCAA, .text [0x62D, 0x645]⟩,
  ⟨0xFCAB, 0xFCAB, .text [0x62E, 0x62C]⟩,
  ⟨0xFCAC, 0xFCAC, .text [0x62E, 0x645]⟩,
  ⟨0xFCAD, 0xFCAD, .text [0x633, 0x62C]⟩,
  ⟨0xFCAE, 0xFCAE, .text [0x633, 0x62D]⟩,
  ⟨0xFCAF, 0xFCAF, .text [0x633, 0x62E]⟩,
  ⟨0xFCB0, 0xFCB0, .text [0x633, 0x645]⟩,
  ⟨0xFCB1, 0xFCB1, .text [0x635, 0x62D]⟩,
  ⟨0xFCB2, 0xFCB2, .text [0x635, 0x62E]⟩,
  ⟨0xFCB3, 0xFCB3, .text [0x635, 0x645]⟩,
  ⟨0xFCB4, 0xFCB4, .text [0x636, 0x62C]⟩,
  ⟨0xFCB5, 0xFCB5, .text [0x636, 0x62D]⟩,
  ⟨0xFCB6, 0xFCB6, .text [0x636, 0x62E]⟩,
  ⟨0xFCB7, 0xFCB7, .text [0x636, 0x645]⟩,
  ⟨0xFCB8, 0xFCB8, .text [0x637, 0x62D]⟩,
  ⟨0xFCB9, 0xFCB9, .text [0x638, 0x645]⟩,
  ⟨0xFCBA, 0xFCBA, .text [0x639, 0x62C]⟩,
  ⟨0xFCBB, 0xFCBB, .text [0x639, 0x645]⟩,
  ⟨0xFCBC, 0xFCBC, .text [0x63A, 0x62C]⟩,
  ⟨0xFCBD, 0xFCBD, .text [0x63A, 0x645]⟩,
  ⟨0xFCBE, 0xFCBE, .text [0x641, 0x62C]⟩,
  ⟨0xFCBF, 0xFCBF, .text [0x641, 0x62D]⟩,
  ⟨0xFCC0, 0xFCC0, .text [0x641, 0x62E]⟩,
  ⟨0xFCC1, 0xFCC1, .text [0x641, 0x645]⟩,
  ⟨0xFCC2, 0xFCC2, .text [0x642, 0x62D]⟩,
  ⟨0xFCC3, 0xFCC3, .text [0x642, 0x645]⟩,
  ⟨0xFCC4, 0xFCC4, .text [0x643, 0x62C]⟩,
  ⟨0xFCC5, 0xFCC5, .text [0x643, 0x62D]⟩,
  ⟨0xFCC6, 0xFCC6, .text [0x643, 0x62E]⟩,
  ⟨0xFCC7, 0xFCC7, .text [0x643, 0x644]⟩,
  ⟨0xFCC8, 0xFCC8, .text [0x643, 0x645]⟩,
  ⟨0xFCC9, 0xFCC9, .text [0x644, 0x62C]⟩,
  ⟨0xFCCA, 0xFCCA, .text [0x644, 0x62D]⟩,
  ⟨0xFCCB, 0xFCCB, .text [0x644, 0x62E]⟩,
  ⟨0xFCCC, 0xFCCC, .text [0x644, 0x645]⟩,
  ⟨0xFCCD, 0xFCCD, .text [0x644, 0x647]⟩,
  ⟨0xFCCE, 0xFCCE, .text [0x645, 0x62C]⟩,
  ⟨0xFCCF, 0xFCCF, .text [0x645, 0x62D]⟩,
  ⟨0xFCD0, 0xFCD0, .text [0x645, 0x62E]⟩,
  ⟨0xFCD1, 0xFCD1, .text [0x645, 0x645]⟩,
  ⟨0xFCD2, 0xFCD2, .text [0x646, 0x62C]⟩,
  ⟨0xFCD3, 0xFCD3, .text [0x646, 0x62D]⟩,
  ⟨0xFCD4, 0xFCD4, .text [0x646, 0x62E]⟩,
  ⟨0xFCD5, 0xFCD5, .text [0x646, 0x645]⟩,
  ⟨0xFCD6, 0xFCD6, .text [0x646, 0x647]⟩,
  ⟨0xFCD7, 0xFCD7, .text [0x647, 0x62C]⟩,
  ⟨0xFCD8, 0xFCD8, .text [0x647, 0x645]⟩,
  ⟨0xFCD9, 0xFCD9, .text [0x647, 0x670]⟩,
  ⟨0xFCDA, 0xFCDA, .text [0x64A, 0x62C]⟩,
  ⟨0xFCDB, 0xFCDB, .text [0x64A, 0x62D]⟩,
  ⟨0xFCDC, 0xFCDC, .text [0x64A, 0x62E]⟩,
  ⟨0xFCDD, 0xFCDD, .text [0x64A, 0x645]⟩,
  ⟨0xFCDE, 0xFCDE, .text [0x64A, 0x647]⟩,
  ⟨0xFCDF, 0xFCDF, .text [0x626, 0x645]⟩,
  ⟨0xFCE0, 0xFCE0, .text [0x626, 0x647]⟩,
  ⟨0xFCE1, 0xFCE1, .text [0x628, 0x645]⟩,
  ⟨0xFCE2, 0xFCE2, .text [0x628, 0x647]⟩,
  ⟨0xFCE3, 0xFCE3, .text [0x62A, 0x645]⟩,
  ⟨0xFCE4, 0xFCE4, .text [0x62A, 0x647]⟩,
  ⟨0xFCE5, 0xFCE5, .text [0x62B, 0x645]⟩,
  ⟨0xFCE6, 0xFCE6, .text [0x62B, 0x647]⟩,
  ⟨0xFCE7, 0xFCE7, .text [0x633, 0x645]⟩,
  ⟨0xFCE8, 0xFCE8, .text [0x633, 0x647]⟩,
  ⟨0xFCE9, 0xFCE9, .text [0x634, 0x645]⟩,
  ⟨0xFCEA, 0xFCEA, .text [0x634, 0x647]⟩,
  ⟨0xFCEB, 0xFCEB, .text [0x643, 0x644]⟩,
  ⟨0xFCEC, 0xFCEC, .text [0x643, 0x645]⟩,
  ⟨0xFCED, 0xFCED, .text [0x644, 0x645]⟩,
  ⟨0xFCEE, 0xFCEE, .text [0x646, 0x645]⟩,
  ⟨0xFCEF, 0xFCEF, .text [0x646, 0x647]⟩,
  ⟨0xFCF0, 0xFCF0, .text [0x64A, 0x645]⟩,
  ⟨0xFCF1, 0xFCF1, .text [0x64A, 0x647]⟩,
  ⟨0xFCF2, 0xFCF2, .text [0x640, 0x64E, 0x651]⟩,
  ⟨0xFCF3, 0xFCF3, .text [0x640, 0x64F, 0x651]⟩,
  ⟨0xFCF4, 0xFCF4, .text [0x640, 0x650, 0x651]⟩,
  ⟨0xFCF5, 0xFCF5, .text [0x637, 0x649]⟩,
  ⟨0xFCF6, 0xFCF6, .text [0x637, 0x64A]⟩,
  ⟨0xFCF7, 0xFCF7, .text [0x639, 0x649]⟩,
  ⟨0xFCF8, 0xFCF8, .text [0x639, 0x64A]⟩,
  ⟨0xFCF9, 0xFCF9, .text [0x63A, 0x649]⟩,
  ⟨0xFCFA, 0xFCFA, .text [0x63A, 0x64A]⟩,
  ⟨0xFCFB, 0xFCFB, .text [0x633, 0x649]⟩,
  ⟨0xFCFC, 0xFCFC, .text [0x633, 0x64A]⟩,
  ⟨0xFCFD, 0xFCFD, .text [0x634, 0x649]⟩,
  ⟨0xFCFE, 0xFCFE, .text [0x634, 0x64A]⟩,
  ⟨0xFCFF, 0xFCFF, .text [0x62D, 0x649]⟩,
  ⟨0xFD00, 0xFD00, .text [0x62D, 0x64A]⟩,
  ⟨0xFD01, 0xFD01, .text [0x62C, 0x649]⟩,
  ⟨0xFD02, 0xFD02, .text [0x62C, 0x64A]⟩,
  ⟨0xFD03, 0xFD03, .text [0x62E, 0x649]⟩,
  ⟨0xFD04, 0xFD04, .text [0x62E, 0x64A]⟩,
  ⟨0xFD05, 0xFD05, .text [0x635, 0x649]⟩,
  ⟨0xFD06, 0xFD06, .text [0x635, 0x64A]⟩,
  ⟨0xFD07, 0xFD07, .text [0x636, 0x649]⟩,
  ⟨0xFD08, 0xFD08, .text [0x636, 0x64A]⟩,
  ⟨0xFD09, 0xFD09, .text [0x634, 0x62C]⟩,
  ⟨0xFD0A, 0xFD0A, .text [0x634, 0x62D]⟩,
  ⟨0xFD0B, 0xFD0B, .text [0x634, 0x62E]⟩,
  ⟨0xFD0C, 0xFD0C, .text [0x634, 0x645]⟩,
  ⟨0xFD0D, 0xFD0D, .text [0x634, 0x631]⟩,
  ⟨0xFD0E, 0xFD0E, .text [0x633, 0x631]⟩,
  ⟨0xFD0F, 0xFD0F, .text [0x635, 0x631]⟩,
  ⟨0xFD10, 0xFD10, .text [0x636, 0x631]⟩,
  ⟨0xFD11, 0xFD11, .text [0x637, 0x649]⟩,
  ⟨0xFD12, 0xFD12, .text [0x637, 0x64A]⟩,
  ⟨0xFD13, 0xFD13, .text [0x639, 0x649]⟩,
  ⟨0xFD14, 0xFD14, .text [0x639, 0x64A]⟩,
  ⟨0xFD15, 0xFD15, .text [0x63A, 0x649]⟩,
  ⟨0xFD16, 0xFD16, .text [0x63A, 0x64A]⟩,
  ⟨0xFD17, 0xFD17, .text [0x633, 0x649]⟩,
  ⟨0xFD18, 0xFD18, .text [0x633, 0x64A]⟩,
  ⟨0xFD19, 0xFD19, .text [0x634, 0x649]⟩,
  ⟨0xFD1A, 0xFD1A, .text [0x634, 0x64A]⟩,
  ⟨0xFD1B, 0xFD1B, .text [0x62D, 0x649]⟩,
  ⟨0xFD1C, 0xFD1C, .text [0x62D, 0x64A]⟩,
  ⟨0xFD1D, 0xFD1D, .text [0x62C, 0x649]⟩,
  ⟨0xFD1E, 0xFD1E, .text [0x62C, 0x64A]⟩,
  ⟨0xFD1F, 0xFD1F, .text [0x62E, 0x649]⟩,
  ⟨0xFD20, 0xFD20, .text [0x62E, 0x64A]⟩,
  ⟨0xFD21, 0xFD21, .text [0x635, 0x649]⟩,
  ⟨0xFD22, 0xFD22, .text [0x635, 0x64A]⟩,
  ⟨0xFD23, 0xFD23, .text [0x636, 0x649]⟩,
  ⟨0xFD24, 0xFD24, .text [0x636, 0x64A]⟩,
  ⟨0xFD25, 0xFD25, .text [0x634, 0x62C]⟩,
  ⟨0xFD26, 0xFD26, .text [0x634, 0x62D]⟩,
  ⟨0xFD27, 0xFD27, .text [0x634, 0x62E]⟩,
  ⟨0xFD28, 0xFD28, .text [0x634, 0x645]⟩,
  ⟨0xFD29, 0xFD29, .text [0x634, 0x631]⟩,
  ⟨0xFD2A, 0xFD2A, .text [0x633, 0x631]⟩,
  ⟨0xFD2B, 0xFD2B, .text [0x635, 0x631]⟩,
  ⟨0xFD2C, 0xFD2C, .text [0x636, 0x631]⟩,
  ⟨0xFD2D, 0xFD2D, .text [0x634, 0x62C]⟩,
  ⟨0xFD2E, 0xFD2E, .text [0x634, 0x62D]⟩,
  ⟨0xFD2F, 0xFD2F, .text [0x634, 0x62E]⟩,
  ⟨0xFD30, 0xFD30, .text [0x634, 0x645]⟩,
  ⟨0xFD31, 0xFD31, .text [0x633, 0x647]⟩,
  ⟨0xFD32, 0xFD32, .text [0x634, 0x647]⟩,
  ⟨0xFD33, 0xFD33, .text [0x637, 0x645]⟩,
  ⟨0xFD34, 0xFD34, .text [0x633, 0x62C]⟩,
  ⟨0xFD35, 0xFD35, .text [0x633, 0x62D]⟩,
  ⟨0xFD36, 0xFD36, .text [0x633, 0x62E]⟩,
  ⟨0xFD37, 0xFD37, .text [0x634, 0x62C]⟩,
  ⟨0xFD38, 0xFD38, .text [0x634, 0x62D]⟩,
  ⟨0xFD39, 0xFD39, .text [0x634, 0x62E]⟩,
  ⟨0xFD3A, 0xFD3A, .text [0x637, 0x645]⟩,
  ⟨0xFD3B, 0xFD3B, .text [0x638, 0x645]⟩,
  ⟨0xFD3C, 0xFD3D, .text [0x627, 0x64B]⟩,
  ⟨0xFD3E, 0xFD4F, .valid⟩,
  ⟨0xFD50, 0xFD50, .text [0x62A, 0x62C, 0x645]⟩,
  ⟨0xFD51, 0xFD52, .text [0x62A, 0x62D, 0x62C]⟩,
  ⟨0xFD53, 0xFD53, .text [0x62A, 0x62D, 0x645]⟩,
  ⟨0xFD54, 0xFD54, .text [0x62A, 0x62E, 0x645]⟩,
  ⟨0xFD55, 0xFD55, .text [0x62A, 0x645, 0x62C]⟩,
  ⟨0xFD56, 0xFD56, .text [0x62A, 0x645, 0x62D]⟩,
  ⟨0xFD57, 0xFD57, .text [0x62A, 0x645, 0x62E]⟩,
  ⟨0xFD58, 0xFD59, .text [0x62C, 0x645, 0x62D]⟩,
  ⟨0xFD5A, 0xFD5A, .text [0x62D, 0x645, 0x64A]⟩,
  ⟨0xFD5B, 0xFD5B, .text [0x62D, 0x645, 0x649]⟩,
  ⟨0xFD5C, 0xFD5C, .text [0x633, 0x62D, 0x62C]⟩,
  ⟨0xFD5D, 0xFD5D, .text [0x633, 0x62C, 0x62D]⟩,
  ⟨0xFD5E, 0xFD5E, .text [0x633, 0x62C, 0x649]⟩,
  ⟨0xFD5F, 0xFD60, .text [0x633, 0x645, 0x62D]⟩,
  ⟨0xFD61, 0xFD61, .text [0x633, 0x645, 0x62C]⟩,
  ⟨0xFD62, 0xFD63, .text [0x633, 0x645, 0x645]⟩,
  ⟨0xFD64, 0xFD65, .text [0x635, 0x62D, 0x62D]⟩,
  ⟨0xFD66, 0xFD66, .text [0x635, 0x645, 0x645]⟩,
  ⟨0xFD67, 0xFD68, .text [0x634, 0x62D, 0x645]⟩,
  ⟨0xFD69, 0xFD69, .text [0x634, 0x62C, 0x64A]⟩,
  ⟨0xFD6A, 0xFD6B, .text [0x634, 0x645, 0x62E]⟩,
  ⟨0xFD6C, 0xFD6D, .text [0x634, 0x645, 0x645]⟩,
  ⟨0xFD6E, 0xFD6E, .text [0x636, 0x62D, 0x649]⟩,
  ⟨0xFD6F, 0xFD70, .text [0x636, 0x62E, 0x645]⟩,
  ⟨0xFD71, 0xFD72, .text [0x637, 0x645, 0x62D]⟩,
  ⟨0xFD73, 0xFD73, .text [0x637, 0x645, 0x645]⟩,
  ⟨0xFD74, 0xFD74, .text [0x637, 0x645, 0x64A]⟩,
  ⟨0xFD75, 0xFD75, .text [0x639, 0x62C, 0x645]⟩,
  ⟨0xFD76, 0xFD77, .text [0x639, 0x645, 0x645]⟩,
  ⟨0xFD78, 0xFD78, .text [0x639, 0x645, 0x649]⟩,
  ⟨0xFD79, 0xFD79, .text [0x63A, 0x645, 0x645]⟩,
  ⟨0xFD7A, 0xFD7A, .text [0x63A, 0x645, 0x64A]⟩,
  ⟨0xFD7B, 0xFD7B, .text [0x63A, 0x645, 0x649]⟩,
  ⟨0xFD7C, 0xFD7D, .text [0x641, 0x62E, 0x645]⟩,
  ⟨0xFD7E, 0xFD7E, .text [0x642, 0x645, 0x62D]⟩,
  ⟨0xFD7F, 0xFD7F, .text [0x642, 0x645, 0x645]⟩,
  ⟨0xFD80, 0xFD80, .text [0x644, 0x62D, 0x645]⟩,
  ⟨0xFD81, 0xFD81, .text [0x644, 0x62D, 0x64A]⟩,
  ⟨0xFD82, 0xFD82, .text [0x644, 0x62D, 0x649]⟩,
  ⟨0xFD83, 0xFD84, .text [0x644, 0x62C, 0x62C]⟩,
  ⟨0xFD85, 0xFD86, .text [0x644, 0x62E, 0x645]⟩,
  ⟨0xFD87, 0xFD88, .text [0x644, 0x645, 0x62D]⟩,
  ⟨0xFD89, 0xFD89, .text [0x645, 0x62D, 0x62C]⟩,
  ⟨0xFD8A, 0xFD8A, .text [0x645, 0x62D, 0x645]⟩,
  ⟨0xFD8B, 0xFD8B, .text [0x645, 0x62D, 0x64A]⟩,
  ⟨0xFD8C, 0xFD8C, .text [0x645, 0x62C, 0x62D]⟩,
  ⟨0xFD8D, 0xFD8D, .text [0x645, 0x62C, 0x645]⟩,
  ⟨0xFD8E, 0xFD8E, .text [0x645, 0x62E, 0x62C]⟩,
  ⟨0xFD8F, 0xFD8F, .text [0x645, 0x62E, 0x645]⟩,
  ⟨0xFD90, 0xFD91, .valid⟩,
  ⟨0xFD92, 0xFD92, .text [0x645, 0x62C, 0x62E]⟩,
  ⟨0xFD93, 0xFD93, .text [0x647, 0x645, 0x62C]⟩,
  ⟨0xFD94, 0xFD94, .text [0x647, 0x645, 0x645]⟩,
  ⟨0xFD95, 0xFD95, .text [0x646, 0x62D, 0x645]⟩,
  ⟨0xFD96, 0xFD96, .text [0x646, 0x62D, 0x649]⟩,
  ⟨0xFD97, 0xFD98, .text [0x646, 0x62C, 0x645]⟩,
  ⟨0xFD99, 0xFD99, .text [0x646, 0x62C, 0x649]⟩,
  ⟨0xFD9A, 0xFD9A, .text [0x646, 0x645, 0x64A]⟩,
  ⟨0xFD9B, 0xFD9B, .text [0x646, 0x645, 0x649]⟩,
  ⟨0xFD9C, 0xFD9D, .text [0x64A, 0x645, 0x645]⟩,
  ⟨0xFD9E, 0xFD9E, .text [0x628, 0x62E, 0x64A]⟩,
  ⟨0xFD9F, 0xFD9F, .text [0x62A, 0x62C, 0x64A]⟩,
  ⟨0xFDA0, 0xFDA0, .text [0x62A, 0x62C, 0x649]⟩,
  ⟨0xFDA1, 0xFDA1, .text [0x62A, 0x62E, 0x64A]⟩,
  ⟨0xFDA2, 0xFDA2, .text [0x62A, 0x62E, 0x649]⟩,
  ⟨0xFDA3, 0xFDA3, .text [0x62A, 0x645, 0x64A]⟩,
  ⟨0xFDA4, 0xFDA4, .text [0x62A, 0x645, 0x649]⟩,
  ⟨0xFDA5, 0xFDA5, .text [0x62C, 0x645, 0x64A]⟩,
  ⟨0xFDA6, 0xFDA6, .text [0x62C, 0x62D, 0x649]⟩,
  ⟨0xFDA7, 0xFDA7, .text [0x62C, 0x645, 0x649]⟩,
  ⟨0xFDA8, 0xFDA8, .text [0x633, 0x62E, 0x649]⟩,
  ⟨0xFDA9, 0xFDA9, .text [0x635, 0x62D, 0x64A]⟩,
  ⟨0xFDAA, 0xFDAA, .text [0x634, 0x62D, 0x64A]⟩,
  ⟨0xFDAB, 0xFDAB, .text [0x636, 0x62D, 0x64A]⟩,
  ⟨0xFDAC, 0xFDAC, .text [0x644, 0x62C, 0x64A]⟩,
  ⟨0xFDAD, 0xFDAD, .text [0x644, 0x645, 0x64A]⟩,
  ⟨0xFDAE, 0xFDAE, .text [0x64A, 0x62D, 0x64A]⟩,
  ⟨0xFDAF, 0xFDAF, .text [0x64A, 0x62C, 0x64A]⟩,
  ⟨0xFDB0, 0xFDB0, .text [0x64A, 0x645, 0x64A]⟩,
  ⟨0xFDB1, 0xFDB1, .text [0x645, 0x645, 0x64A]⟩,
  ⟨0xFDB2, 0xFDB2, .text [0x642, 0x645, 0x64A]⟩,
  ⟨0xFDB3, 0xFDB3, .text [0x646, 0x62D, 0x64A]⟩,
  ⟨0xFDB4, 0xFDB4, .text [0x642, 0x645, 0x62D]⟩,
  ⟨0xFDB5, 0xFDB5, .text [0x644, 0x62D, 0x645]⟩,
  ⟨0xFDB6, 0xFDB6, .text [0x639, 0x645, 0x64A]⟩,
  ⟨0xFDB7, 0xFDB7, .text [0x643, 0x645, 0x64A]⟩,
  ⟨0xFDB8, 0xFDB8, .text [0x646, 0x62C, 0x62D]⟩,
  ⟨0xFDB9, 0xFDB9, .text [0x645, 0x62E, 0x64A]⟩,
  ⟨0xFDBA, 0xFDBA, .text [0x644, 0x62C, 0x645]⟩,
  ⟨0xFDBB, 0xFDBB, .text [0x643, 0x645, 0x645]⟩,
  ⟨0xFDBC, 0xFDBC, .text [0x644, 0x62C, 0x645]⟩,
  ⟨0xFDBD, 0xFDBD, .text [0x646, 0x62C, 0x62D]⟩,
  ⟨0xFDBE, 0xFDBE, .text [0x62C, 0x62D, 0x64A]⟩,
  ⟨0xFDBF, 0xFDBF, .text [0x62D, 0x62C, 0x64A]⟩,
  ⟨0xFDC0, 0xFDC0, .text [0x645, 0x62C, 0x64A]⟩,
  ⟨0xFDC1, 0xFDC1, .text [0x641, 0x645, 0x64A]⟩,
  ⟨0xFDC2, 0xFDC2, .text [0x628, 0x62D, 0x64A]⟩,
  ⟨0xFDC3, 0xFDC3, .text [0x643, 0x645, 0x645]⟩,
  ⟨0xFDC4, 0xFDC4, .text [0x639, 0x62C, 0x645]⟩,
  ⟨0xFDC5, 0xFDC5, .text [0x635, 0x645, 0x645]⟩,
  ⟨0xFDC6, 0xFDC6, .text [0x633, 0x62E, 0x64A]⟩,
  ⟨0xFDC7, 0xFDC7, .text [0x646, 0x62C, 0x64A]⟩,
  ⟨0xFDC8, 0xFDCF, .valid⟩,
  ⟨0xFDD0, 0xFDEF, .disallowed⟩,
  ⟨0xFDF0, 0xFDF0, .text [0x635, 0x644, 0x6D2]⟩,
  ⟨0xFDF1, 0xFDF1, .text [0x642, 0x644, 0x6D2]⟩,
  ⟨0xFDF2, 0xFDF2, .text [0x627, 0x644, 0x644, 0x647]⟩,
  ⟨0xFDF3, 0xFDF3, .text [0x627, 0x643, 0x628, 0x631]⟩,
  ⟨0xFDF4, 0xFDF4, .text [0x645, 0x62D, 0x645, 0x62F]⟩,
  ⟨0xFDF5, 0xFDF5, .text [0x635, 0x644, 0x639, 0x645]⟩,
  ⟨0xFDF6, 0xFDF6, .text [0x631, 0x633, 0x648, 0x644]⟩,
  ⟨0xFDF7, 0xFDF7, .text [0x639, 0x644, 0x64A, 0x647]⟩,
  ⟨0xFDF8, 0xFDF8, .text [0x648, 0x633, 0x644, 0x645]⟩,
  ⟨0xFDF9, 0xFDF9, .text [0x635, 0x644, 0x649]⟩,
  ⟨0xFDFA, 0xFDFA, .text [0x635, 0x644, 0x649, 0x20, 0x627, 0x644, 0x644, 0x647, 0x20, 0x639, 0x644, 0x64A, 0x647, 0x20, 0x648, 0x633, 0x644, 0x645]⟩,
  ⟨0xFDFB, 0xFDFB, .text [0x62C, 0x644, 0x20, 0x62C, 0x644, 0x627, 0x644, 0x647]⟩,
  ⟨0xFDFC, 0xFDFC, .text [0x631, 0x6CC, 0x627, 0x644]⟩,
  ⟨0xFDFD, 0xFDFF, .valid⟩,
  ⟨0xFE00, 0xFE0F, .ignored⟩,
  ⟨0xFE10, 0xFE10, .shift (-64996) 1⟩,
  ⟨0xFE11, 0xFE11, .shift (-52752) 1⟩,
  ⟨0xFE12, 0xFE12, .disallowed⟩,
  ⟨0xFE13, 0xFE14, .shift (-64985) 1⟩,
  ⟨0xFE15, 0xFE15, .shift (-65012) 1⟩,
  ⟨0xFE16, 0xFE16, .shift (-64983) 1⟩,
  ⟨0xFE17, 0xFE18, .shift (-52737) 1⟩,
  ⟨0xFE19, 0xFE1F, .disallowed⟩,
  ⟨0xFE20, 0xFE2F, .valid⟩,
  ⟨0xFE30, 0xFE30, .disallowed⟩,
  ⟨0xFE31, 0xFE31, .shift (-56861) 1⟩,
  ⟨0xFE32, 0xFE32, .shift (-56863) 1⟩,
  ⟨0xFE33, 0xFE34, .text [0x5F]⟩,
  ⟨0xFE35, 0xFE36, .shift (-65037) 1⟩,
  ⟨0xFE37, 0xFE37, .shift (-64956) 1⟩,
  ⟨0xFE38, 0xFE38, .shift (-64955) 1⟩,
  ⟨0xFE39, 0xFE3A, .shift (-52773) 1⟩,
  ⟨0xFE3B, 0xFE3C, .shift (-52779) 1⟩,
  ⟨0xFE3D, 0xFE3E, .shift (-52787) 1⟩,
  ⟨0xFE3F, 0xFE40, .shift (-52791) 1⟩,
  ⟨0xFE41, 0xFE44, .shift (-52789) 1⟩,
  ⟨0xFE45, 0xFE46, .valid⟩,
  ⟨0xFE47, 0xFE47, .shift (-65004) 1⟩,
  ⟨0xFE48, 0xFE48, .shift (-65003) 1⟩,
  ⟨0xFE49, 0xFE4C, .text [0x20, 0x305]⟩,
  ⟨0xFE4D, 0xFE4F, .text [0x5F]⟩,
  ⟨0xFE50, 0xFE50, .shift (-65060) 1⟩,
  ⟨0xFE51, 0xFE51, .shift (-52816) 1⟩,
  ⟨0xFE52, 0xFE53, .disallowed⟩,
  ⟨0xFE54, 0xFE54, .shift (-65049) 1⟩,
  ⟨0xFE55, 0xFE55, .shift (-65051) 1⟩,
  ⟨0xFE56, 0xFE56, .shift (-65047) 1⟩,
  ⟨0xFE57, 0xFE57, .shift (-65078) 1⟩,
  ⟨0xFE58, 0xFE58, .shift (-56900) 1⟩,
  ⟨0xFE59, 0xFE5A, .shift (-65073) 1⟩,
  ⟨0xFE5B, 0xFE5B, .shift (-64992) 1⟩,
  ⟨0xFE5C, 0xFE5C, .shift (-64991) 1⟩,
  ⟨0xFE5D, 0xFE5E, .shift (-52809) 1⟩,
  ⟨0xFE5F, 0xFE5F, .shift (-65084) 1⟩,
  ⟨0xFE60, 0xFE60, .shift (-65082) 1⟩,
  ⟨0xFE61, 0xFE62, .shift (-65079) 1⟩,
  ⟨0xFE63, 0xFE63, .shift (-65078) 1⟩,
  ⟨0xFE64, 0xFE64, .shift (-65064) 1⟩,
  ⟨0xFE65, 0xFE65, .shift (-65063) 1⟩,
  ⟨0xFE66, 0xFE66, .shift (-65065) 1⟩,
  ⟨0xFE67, 0xFE67, .disallowed⟩,
  ⟨0xFE68, 0xFE68, .shift (-65036) 1⟩,
  ⟨0xFE69, 0xFE6A, .shift (-65093) 1⟩,
  ⟨0xFE6B, 0xFE6B, .shift (-65067) 1⟩,
  ⟨0xFE6C, 0xFE6F, .disallowed⟩,
  ⟨0xFE70, 0xFE70, .text [0x20, 0x64B]⟩,
  ⟨0xFE71, 0xFE71, .text [0x640, 0x64B]⟩,
  ⟨0xFE72, 0xFE72, .text [0x20, 0x64C]⟩,
  ⟨0xFE73, 0xFE73, .valid⟩,
  ⟨0xFE74, 0xFE74, .text [0x20, 0x64D]⟩,
  ⟨0xFE75, 0xFE75, .disallowed⟩,
  ⟨0xFE76, 0xFE76, .text [0x20, 0x64E]⟩,
  ⟨0xFE77, 0xFE77, .text [0x640, 0x64E]⟩,
  ⟨0xFE78, 0xFE78, .text [0x20, 0x64F]⟩,
  ⟨0xFE79, 0xFE79, .text [0x640, 0x64F]⟩,
  ⟨0xFE7A, 0xFE7A, .text [0x20, 0x650]⟩,
  ⟨0xFE7B, 0xFE7B, .text [0x640, 0x650]⟩,
  ⟨0xFE7C, 0xFE7C, .text [0x20, 0x651]⟩,
  ⟨0xFE7D, 0xFE7D, .text [0x640, 0x651]⟩,
  ⟨0xFE7E, 0xFE7E, .text [0x20, 0x652]⟩,
  ⟨0xFE7F, 0xFE7F, .text [0x640, 0x652]⟩,
  ⟨0xFE80, 0xFE80, .shift (-63583) 1⟩,
  ⟨0xFE81, 0xFE82, .text [0x622]⟩,
  ⟨0xFE83, 0xFE84, .text [0x623]⟩,
  ⟨0xFE85, 0xFE86, .text [0x624]⟩,
  ⟨0xFE87, 0xFE88, .text [0x625]⟩,
  ⟨0xFE89, 0xFE8C, .text [0x626]⟩,
  ⟨0xFE8D, 0xFE8E, .text [0x627]⟩,
  ⟨0xFE8F, 0xFE92, .text [0x628]⟩,
  ⟨0xFE93, 0xFE94, .text [0x629]⟩,
  ⟨0xFE95, 0xFE98, .text [0x62A]⟩,
  ⟨0xFE99, 0xFE9C, .text [0x62B]⟩,
  ⟨0xFE9D, 0xFEA0, .text [0x62C]⟩,
  ⟨0xFEA1, 0xFEA4, .text [0x62D]⟩,
  ⟨0xFEA5, 0xFEA8, .text [0x62E]⟩,
  ⟨0xFEA9, 0xFEAA, .text [0x62F]⟩,
  ⟨0xFEAB, 0xFEAC, .text [0x630]⟩,
  ⟨0xFEAD, 0xFEAE, .text [0x631]⟩,
  ⟨0xFEAF, 0xFEB0, .text [0x632]⟩,
  ⟨0xFEB1, 0xFEB4, .text [0x633]⟩,
  ⟨0xFEB5, 0xFEB8, .text [0x634]⟩,
  ⟨0xFEB9, 0xFEBC, .text [0x635]⟩,
  ⟨0xFEBD, 0xFEC0, .text [0x636]⟩,
  ⟨0xFEC1, 0xFEC4, .text [0x637]⟩,
  ⟨0xFEC5, 0xFEC8, .text [0x638]⟩,
  ⟨0xFEC9, 0xFECC, .text [0x639]⟩,
  ⟨0xFECD, 0xFED0, .text [0x63A]⟩,
  ⟨0xFED1, 0xFED4, .text [0x641]⟩,
  ⟨0xFED5, 0xFED8, .text [0x642]⟩,
  ⟨0xFED9, 0xFEDC, .text [0x643]⟩,
  ⟨0xFEDD, 0xFEE0, .text [0x644]⟩,
  ⟨0xFEE1, 0xFEE4, .text [0x645]⟩,
  ⟨0xFEE5, 0xFEE8, .text [0x646]⟩,
  ⟨0xFEE9, 0xFEEC, .text [0x647]⟩,
  ⟨0xFEED, 0xFEEE, .text [0x648]⟩,
  ⟨0xFEEF, 0xFEF0, .text [0x649]⟩,
  ⟨0xFEF1, 0xFEF4, .text [0x64A]⟩,
  ⟨0xFEF5, 0xFEF6, .text [0x644, 0x622]⟩,
  ⟨0xFEF7, 0xFEF8, .text [0x644, 0x623]⟩,
  ⟨0xFEF9, 0xFEFA, .text [0x644, 0x625]⟩,
  ⟨0xFEFB, 0xFEFC, .text [0x644, 0x627]⟩,
  ⟨0xFEFD, 0xFEFE, .disallowed⟩,
  ⟨0xFEFF, 0xFEFF, .ignored⟩,
  ⟨0xFF00, 0xFF00, .disallowed⟩,
  ⟨0xFF01, 0xFF20, .shift (-65248) 1⟩,
  ⟨0xFF21, 0xFF3A, .shift (-65216) 1⟩,
  ⟨0xFF3B, 0xFF5E, .shift (-65248) 1⟩,
  ⟨0xFF5F, 0xFF60, .shift (-54746) 1⟩,
  ⟨0xFF61, 0xFF61, .shift (-65331) 1⟩,
  ⟨0xFF62, 0xFF63, .shift (-53078) 1⟩,
  ⟨0xFF64, 0xFF64, .shift (-53091) 1⟩,
  ⟨0xFF65, 0xFF65, .shift (-52842) 1⟩,
  ⟨0xFF66, 0xFF66, .shift (-52852) 1⟩,
  ⟨0xFF67, 0xFF67, .shift (-52934) 1⟩,
  ⟨0xFF68, 0xFF68, .shift (-52933) 1⟩,
  ⟨0xFF69, 0xFF69, .shift (-52932) 1⟩,
  ⟨0xFF6A, 0xFF6A, .shift (-52931) 1⟩,
  ⟨0xFF6B, 0xFF6B, .shift (-52930) 1⟩,
  ⟨0xFF6C, 0xFF6C, .shift (-52873) 1⟩,
  ⟨0xFF6D, 0xFF6D, .shift (-52872) 1⟩,
  ⟨0xFF6E, 0xFF6E, .shift (-52871) 1⟩,
  ⟨0xFF6F, 0xFF6F, .shift (-52908) 1⟩,
  ⟨0xFF70, 0xFF70, .shift (-52852) 1⟩,
  ⟨0xFF71, 0xFF71, .shift (-52943) 1⟩,
  ⟨0xFF72, 0xFF72, .shift (-52942) 1⟩,
  ⟨0xFF73, 0xFF73, .shift (-52941) 1⟩,
  ⟨0xFF74, 0xFF74, .shift (-52940) 1⟩,
  ⟨0xFF75, 0xFF76, .shift (-52939) 1⟩,
  ⟨0xFF77, 0xFF77, .shift (-52938) 1⟩,
  ⟨0xFF78, 0xFF78, .shift (-52937) 1⟩,
  ⟨0xFF79, 0xFF79, .shift (-52936) 1⟩,
  ⟨0xFF7A, 0xFF7A, .shift (-52935) 1⟩,
  ⟨0xFF7B, 0xFF7B, .shift (-52934) 1⟩,
  ⟨0xFF7C, 0xFF7C, .shift (-52933) 1⟩,
  ⟨0xFF7D, 0xFF7D, .shift (-52932) 1⟩,
  ⟨0xFF7E, 0xFF7E, .shift (-52931) 1⟩,
  ⟨0xFF7F, 0xFF7F, .shift (-52930) 1⟩,
  ⟨0xFF80, 0xFF80, .shift (-52929) 1⟩,
  ⟨0xFF81, 0xFF81, .shift (-52928) 1⟩,
  ⟨0xFF82, 0xFF82, .shift (-52926) 1⟩,
  ⟨0xFF83, 0xFF83, .shift (-52925) 1⟩,
  ⟨0xFF84, 0xFF84, .shift (-52924) 1⟩,
  ⟨0xFF85, 0xFF8A, .shift (-52923) 1⟩,
  ⟨0xFF8B, 0xFF8B, .shift (-52921) 1⟩,
  ⟨0xFF8C, 0xFF8C, .shift (-52919) 1⟩,
  ⟨0xFF8D, 0xFF8D, .shift (-52917) 1⟩,
  ⟨0xFF8E, 0xFF8E, .shift (-52915) 1⟩,
  ⟨0xFF8F, 0xFF93, .shift (-52913) 1⟩,
  ⟨0xFF94, 0xFF94, .shift (-52912) 1⟩,
  ⟨0xFF95, 0xFF95, .shift (-52911) 1⟩,
  ⟨0xFF96, 0xFF9B, .shift (-52910) 1⟩,
  ⟨0xFF9C, 0xFF9C, .shift (-52909) 1⟩,
  ⟨0xFF9D, 0xFF9D, .shift (-52906) 1⟩,
  ⟨0xFF9E, 0xFF9F, .shift (-52997) 1⟩,
  ⟨0xFFA0, 0xFFA0, .ignored⟩,
  ⟨0xFFA1, 0xFFA2, .shift (-61089) 1⟩,
  ⟨0xFFA3, 0xFFA3, .shift (-60921) 1⟩,
  ⟨0xFFA4, 0xFFA4, .shift (-61090) 1⟩,
  ⟨0xFFA5, 0xFFA6, .shift (-60921) 1⟩,
  ⟨0xFFA7, 0xFFA9, .shift (-61092) 1⟩,
  ⟨0xFFAA, 0xFFAF, .shift (-60922) 1⟩,
  ⟨0xFFB0, 0xFFB0, .shift (-61078) 1⟩,
  ⟨0xFFB1, 0xFFB3, .shift (-61099) 1⟩,
  ⟨0xFFB4, 0xFFB4, .shift (-61075) 1⟩,
  ⟨0xFFB5, 0xFFBE, .shift (-61100) 1⟩,
  ⟨0xFFBF, 0xFFC1, .disallowed⟩,
  ⟨0xFFC2, 0xFFC7, .shift (-61025) 1⟩,
  ⟨0xFFC8, 0xFFC9, .disallowed⟩,
  ⟨0xFFCA, 0xFFCF, .shift (-61027) 1⟩,
  ⟨0xFFD0, 0xFFD1, .disallowed⟩,
  ⟨0xFFD2, 0xFFD7, .shift (-61029) 1⟩,
  ⟨0xFFD8, 0xFFD9, .disallowed⟩,
  ⟨0xFFDA, 0xFFDC, .shift (-61031) 1⟩,
  ⟨0xFFDD, 0xFFDF, .disallowed⟩,
  ⟨0xFFE0, 0xFFE1, .shift (-65342) 1⟩,
  ⟨0xFFE2, 0xFFE2, .shift (-65334) 1⟩,
  ⟨0xFFE3, 0xFFE3, .text [0x20, 0x304]⟩,
  ⟨0xFFE4, 0xFFE4, .shift (-65342) 1⟩,
  ⟨0xFFE5, 0xFFE5, .shift (-65344) 1⟩,
  ⟨0xFFE6, 0xFFE6, .shift (-57149) 1⟩,
  ⟨0xFFE7, 0xFFE7, .disallowed⟩,
  ⟨0xFFE8, 0xFFE8, .shift (-56038) 1⟩,
  ⟨0xFFE9, 0xFFEC, .shift (-56921) 1⟩,
  ⟨0xFFED, 0xFFED, .shift (-55885) 1⟩,
  ⟨0xFFEE, 0xFFEE, .shift (-55843) 1⟩,
  ⟨0xFFEF, 0xFFFF, .disallowed⟩
]

end Idna

end SellerSync
