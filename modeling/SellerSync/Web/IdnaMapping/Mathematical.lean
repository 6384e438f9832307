import SellerSync.Web.IdnaMapping.Status
/-! Rows of the IDNA mapping table (Unicode Technical Standard 46, version 17.0) from U+1D000 to
U+1FFFF. -/
namespace SellerSync

namespace Idna

def rowsMathematical : Array MappingRow := #[
  ⟨0x1D000, 0x1D0F5, .valid⟩,
  ⟨0x1D0F6, 0x1D0FF, .disallowed⟩,
  ⟨0x1D100, 0x1D126, .valid⟩,
  ⟨0x1D127, 0x1D128, .disallowed⟩,
  ⟨0x1D129, 0x1D15D, .valid⟩,
  ⟨0x1D15E, 0x1D15E, .text [0x1D157, 0x1D165]⟩,
  ⟨0x1D15F, 0x1D15F, .text [0x1D158, 0x1D165]⟩,
  ⟨0x1D160, 0x1D160, .text [0x1D158, 0x1D165, 0x1D16E]⟩,
  ⟨0x1D161, 0x1D161, .text [0x1D158, 0x1D165, 0x1D16F]⟩,
  ⟨0x1D162, 0x1D162, .text [0x1D158, 0x1D165, 0x1D170]⟩,
  ⟨0x1D163, 0x1D163, .text [0x1D158, 0x1D165, 0x1D171]⟩,
  ⟨0x1D164, 0x1D164, .text [0x1D158, 0x1D165, 0x1D172]⟩,
  ⟨0x1D165, 0x1D172, .valid⟩,
  ⟨0x1D173, 0x1D17A, .ignored⟩,
  ⟨0x1D17B, 0x1D1BA, .valid⟩,
  ⟨0x1D1BB, 0x1D1BB, .text [0x1D1B9, 0x1D165]⟩,
  ⟨0x1D1BC, 0x1D1BC, .text [0x1D1BA, 0x1D165]⟩,
  ⟨0x1D1BD, 0x1D1BD, .text [0x1D1B9, 0x1D165, 0x1D16E]⟩,
  ⟨0x1D1BE, 0x1D1BE, .text [0x1D1BA, 0x1D165, 0x1D16E]⟩,
  ⟨0x1D1BF, 0x1D1BF, .text [0x1D1B9, 0x1D165, 0x1D16F]⟩,
  ⟨0x1D1C0, 0x1D1C0, .text [0x1D1BA, 0x1D165, 0x1D16F]⟩,
  ⟨0x1D1C1, 0x1D1EA, .valid⟩,
  ⟨0x1D1EB, 0x1D1FF, .disallowed⟩,
  ⟨0x1D200, 0x1D245, .valid⟩,
  ⟨0x1D246, 0x1D2BF, .disallowed⟩,
  ⟨0x1D2C0, 0x1D2D3, .valid⟩,
  ⟨0x1D2D4, 0x1D2DF, .disallowed⟩,
  ⟨0x1D2E0, 0x1D2F3, .valid⟩,
  ⟨0x1D2F4, 0x1D2FF, .disallowed⟩,
  ⟨0x1D300, 0x1D356, .valid⟩,
  ⟨0x1D357, 0x1D35F, .disallowed⟩,
  ⟨0x1D360, 0x1D378, .valid⟩,
  ⟨0x1D379, 0x1D3FF, .disallowed⟩,
  ⟨0x1D400, 0x1D419, .shift (-119711) 1⟩,
  ⟨0x1D41A, 0x1D433, .shift (-119737) 1⟩,
  ⟨0x1D434, 0x1D44D, .shift (-119763) 1⟩,
  ⟨0x1D44E, 0x1D454, .shift (-119789) 1⟩,
  ⟨0x1D455, 0x1D455, .disallowed⟩,
  ⟨0x1D456, 0x1D467, .shift (-119789) 1⟩,
  ⟨0x1D468, 0x1D481, .shift (-119815) 1⟩,
  ⟨0x1D482, 0x1D49B, .shift (-119841) 1⟩,
  ⟨0x1D49C, 0x1D49C, .shift (-119867) 1⟩,
  ⟨0x1D49D, 0x1D49D, .disallowed⟩,
  ⟨0x1D49E, 0x1D49F, .shift (-119867) 1⟩,
  ⟨0x1D4A0, 0x1D4A1, .disallowed⟩,
  ⟨0x1D4A2, 0x1D4A2, .shift (-119867) 1⟩,
  ⟨0x1D4A3, 0x1D4A4, .disallowed⟩,
  ⟨0x1D4A5, 0x1D4A6, .shift (-119867) 1⟩,
  ⟨0x1D4A7, 0x1D4A8, .disallowed⟩,
  ⟨0x1D4A9, 0x1D4AC, .shift (-119867) 1⟩,
  ⟨0x1D4AD, 0x1D4AD, .disallowed⟩,
  ⟨0x1D4AE, 0x1D4B5, .shift (-119867) 1⟩,
  ⟨0x1D4B6, 0x1D4B9, .shift (-119893) 1⟩,
  ⟨0x1D4BA, 0x1D4BA, .disallowed⟩,
  ⟨0x1D4BB, 0x1D4BB, .shift (-119893) 1⟩,
  ⟨0x1D4BC, 0x1D4BC, .disallowed⟩,
  ⟨0x1D4BD, 0x1D4C3, .shift (-119893) 1⟩,
  ⟨0x1D4C4, 0x1D4C4, .disallowed⟩,
  ⟨0x1D4C5, 0x1D4CF, .shift (-119893) 1⟩,
  ⟨0x1D4D0, 0x1D4E9, .shift (-119919) 1⟩,
  ⟨0x1D4EA, 0x1D503, .shift (-119945) 1⟩,
  ⟨0x1D504, 0x1D505, .shift (-119971) 1⟩,
  ⟨0x1D506, 0x1D506, .disallowed⟩,
  ⟨0x1D507, 0x1D50A, .shift (-119971) 1⟩,
  ⟨0x1D50B, 0x1D50C, .disallowed⟩,
  ⟨0x1D50D, 0x1D514, .shift (-119971) 1⟩,
  ⟨0x1D515, 0x1D515, .disallowed⟩,
  ⟨0x1D516, 0x1D51C, .shift (-119971) 1⟩,
  ⟨0x1D51D, 0x1D51D, .disallowed⟩,
  ⟨0x1D51E, 0x1D537, .shift (-119997) 1⟩,
  ⟨0x1D538, 0x1D539, .shift (-120023) 1⟩,
  ⟨0x1D53A, 0x1D53A, .disallowed⟩,
  ⟨0x1D53B, 0x1D53E, .shift (-120023) 1⟩,
  ⟨0x1D53F, 0x1D53F, .disallowed⟩,
  ⟨0x1D540, 0x1D544, .shift (-120023) 1⟩,
  ⟨0x1D545, 0x1D545, .disallowed⟩,
  ⟨0x1D546, 0x1D546, .shift (-120023) 1⟩,
  ⟨0x1D547, 0x1D549, .disallowed⟩,
  ⟨0x1D54A, 0x1D550, .shift (-120023) 1⟩,
  ⟨0x1D551, 0x1D551, .disallowed⟩,
  ⟨0x1D552, 0x1D56B, .shift (-120049) 1⟩,
  ⟨0x1D56C, 0x1D585, .shift (-120075) 1⟩,
  ⟨0x1D586, 0x1D59F, .shift (-120101) 1⟩,
  ⟨0x1D5A0, 0x1D5B9, .shift (-120127) 1⟩,
  ⟨0x1D5BA, 0x1D5D3, .shift (-120153) 1⟩,
  ⟨0x1D5D4, 0x1D5ED, .shift (-120179) 1⟩,
  ⟨0x1D5EE, 0x1D607, .shift (-120205) 1⟩,
  ⟨0x1D608, 0x1D621, .shift (-120231) 1⟩,
  ⟨0x1D622, 0x1D63B, .shift (-120257) 1⟩,
  ⟨0x1D63C, 0x1D655, .shift (-120283) 1⟩,
  ⟨0x1D656, 0x1D66F, .shift (-120309) 1⟩,
  ⟨0x1D670, 0x1D689, .shift (-120335) 1⟩,
  ⟨0x1D68A, 0x1D6A3, .shift (-120361) 1⟩,
  ⟨0x1D6A4, 0x1D6A4, .shift (-120179) 1⟩,
  ⟨0x1D6A5, 0x1D6A5, .shift (-119918) 1⟩,
  ⟨0x1D6A6, 0x1D6A7, .disallowed⟩,
  ⟨0x1D6A8, 0x1D6B8, .shift (-119543) 1⟩,
  ⟨0x1D6B9, 0x1D6B9, .shift (-119553) 1⟩,
  ⟨0x1D6BA, 0x1D6C0, .shift (-119543) 1⟩,
  ⟨0x1D6C1, 0x1D6C1, .shift (-111802) 1⟩,
  ⟨0x1D6C2, 0x1D6D2, .shift (-119569) 1⟩,
  ⟨0x1D6D3, 0x1D6D4, .text [0x3C3]⟩,
  ⟨0x1D6D5, 0x1D6DA, .shift (-119569) 1⟩,
  ⟨0x1D6DB, 0x1D6DB, .shift (-111833) 1⟩,
  ⟨0x1D6DC, 0x1D6DC, .shift (-119591) 1⟩,
  ⟨0x1D6DD, 0x1D6DD, .shift (-119589) 1⟩,
  ⟨0x1D6DE, 0x1D6DE, .shift (-119588) 1⟩,
  ⟨0x1D6DF, 0x1D6DF, .shift (-119577) 1⟩,
  ⟨0x1D6E0, 0x1D6E0, .shift (-119583) 1⟩,
  ⟨0x1D6E1, 0x1D6E1, .shift (-119585) 1⟩,
  ⟨0x1D6E2, 0x1D6F2, .shift (-119601) 1⟩,
  ⟨0x1D6F3, 0x1D6F3, .shift (-119611) 1⟩,
  ⟨0x1D6F4, 0x1D6FA, .shift (-119601) 1⟩,
  ⟨0x1D6FB, 0x1D6FB, .shift (-111860) 1⟩,
  ⟨0x1D6FC, 0x1D70C, .shift (-119627) 1⟩,
  ⟨0x1D70D, 0x1D70E, .text [0x3C3]⟩,
  ⟨0x1D70F, 0x1D714, .shift (-119627) 1⟩,
  ⟨0x1D715, 0x1D715, .shift (-111891) 1⟩,
  ⟨0x1D716, 0x1D716, .shift (-119649) 1⟩,
  ⟨0x1D717, 0x1D717, .shift (-119647) 1⟩,
  ⟨0x1D718, 0x1D718, .shift (-119646) 1⟩,
  ⟨0x1D719, 0x1D719, .shift (-119635) 1⟩,
  ⟨0x1D71A, 0x1D71A, .shift (-119641) 1⟩,
  ⟨0x1D71B, 0x1D71B, .shift (-119643) 1⟩,
  ⟨0x1D71C, 0x1D72C, .shift (-119659) 1⟩,
  ⟨0x1D72D, 0x1D72D, .shift (-119669) 1⟩,
  ⟨0x1D72E, 0x1D734, .shift (-119659) 1⟩,
  ⟨0x1D735, 0x1D735, .shift (-111918) 1⟩,
  ⟨0x1D736, 0x1D746, .shift (-119685) 1⟩,
  ⟨0x1D747, 0x1D748, .text [0x3C3]⟩,
  ⟨0x1D749, 0x1D74E, .shift (-119685) 1⟩,
  ⟨0x1D74F, 0x1D74F, .shift (-111949) 1⟩,
  ⟨0x1D750, 0x1D750, .shift (-119707) 1⟩,
  ⟨0x1D751, 0x1D751, .shift (-119705) 1⟩,
  ⟨0x1D752, 0x1D752, .shift (-119704) 1⟩,
  ⟨0x1D753, 0x1D753, .shift (-119693) 1⟩,
  ⟨0x1D754, 0x1D754, .shift (-119699) 1⟩,
  ⟨0x1D755, 0x1D755, .shift (-119701) 1⟩,
  ⟨0x1D756, 0x1D766, .shift (-119717) 1⟩,
  ⟨0x1D767, 0x1D767, .shift (-119727) 1⟩,
  ⟨0x1D768, 0x1D76E, .shift (-119717) 1⟩,
  ⟨0x1D76F, 0x1D76F, .shift (-111976) 1⟩,
  ⟨0x1D770, 0x1D780, .shift (-119743) 1⟩,
  ⟨0x1D781, 0x1D782, .text [0x3C3]⟩,
  ⟨0x1D783, 0x1D788, .shift (-119743) 1⟩,
  ⟨0x1D789, 0x1D789, .shift (-112007) 1⟩,
  ⟨0x1D78A, 0x1D78A, .shift (-119765) 1⟩,
  ⟨0x1D78B, 0x1D78B, .shift (-119763) 1⟩,
  ⟨0x1D78C, 0x1D78C, .shift (-119762) 1⟩,
  ⟨0x1D78D, 0x1D78D, .shift (-119751) 1⟩,
  ⟨0x1D78E, 0x1D78E, .shift (-119757) 1⟩,
  ⟨0x1D78F, 0x1D78F, .shift (-119759) 1⟩,
  ⟨0x1D790, 0x1D7A0, .shift (-119775) 1⟩,
  ⟨0x1D7A1, 0x1D7A1, .shift (-119785) 1⟩,
  ⟨0x1D7A2, 0x1D7A8, .shift (-119775) 1⟩,
  ⟨0x1D7A9, 0x1D7A9, .shift (-112034) 1⟩,
  ⟨0x1D7AA, 0x1D7BA, .shift (-119801) 1⟩,
  ⟨0x1D7BB, 0x1D7BC, .text [0x3C3]⟩,
  ⟨0x1D7BD, 0x1D7C2, .shift (-119801) 1⟩,
  ⟨0x1D7C3, 0x1D7C3, .shift (-112065) 1⟩,
  ⟨0x1D7C4, 0x1D7C4, .shift (-119823) 1⟩,
  ⟨0x1D7C5, 0x1D7C5, .shift (-119821) 1⟩,
  ⟨0x1D7C6, 0x1D7C6, .shift (-119820) 1⟩,
  ⟨0x1D7C7, 0x1D7C7, .shift (-119809) 1⟩,
  ⟨0x1D7C8, 0x1D7C8, .shift (-119815) 1⟩,
  ⟨0x1D7C9, 0x1D7C9, .shift (-119817) 1⟩,
  ⟨0x1D7CA, 0x1D7CB, .text [0x3DD]⟩,
  ⟨0x1D7CC, 0x1D7CD, .disallowed⟩,
  ⟨0x1D7CE, 0x1D7D7, .shift (-120734) 1⟩,
  ⟨0x1D7D8, 0x1D7E1, .shift (-120744) 1⟩,
  ⟨0x1D7E2, 0x1D7EB, .shift (-120754) 1⟩,
  ⟨0x1D7EC, 0x1D7F5, .shift (-120764) 1⟩,
  ⟨0x1D7F6, 0x1D7FF, .shift (-120774) 1⟩,
  ⟨0x1D800, 0x1DA8B, .valid⟩,
  ⟨0x1DA8C, 0x1DA9A, .disallowed⟩,
  ⟨0x1DA9B, 0x1DA9F, .valid⟩,
  ⟨0x1DAA0, 0x1DAA0, .disallowed⟩,
  ⟨0x1DAA1, 0x1DAAF, .valid⟩,
  ⟨0x1DAB0, 0x1DEFF, .disallowed⟩,
  ⟨0x1DF00, 0x1DF1E, .valid⟩,
  ⟨0x1DF1F, 0x1DF24, .disallowed⟩,
  ⟨0x1DF25, 0x1DF2A, .valid⟩,
  ⟨0x1DF2B, 0x1DFFF, .disallowed⟩,
  ⟨0x1E000, 0x1E006, .valid⟩,
  ⟨0x1E007, 0x1E007, .disallowed⟩,
  ⟨0x1E008, 0x1E018, .valid⟩,
  ⟨0x1E019, 0x1E01A, .disallowed⟩,
  ⟨0x1E01B, 0x1E021, .valid⟩,
  ⟨0x1E022, 0x1E022, .disallowed⟩,
  ⟨0x1E023, 0x1E024, .valid⟩,
  ⟨0x1E025, 0x1E025, .disallowed⟩,
  ⟨0x1E026, 0x1E02A, .valid⟩,
  ⟨0x1E02B, 0x1E02F, .disallowed⟩,
  ⟨0x1E030, 0x1E038, .shift (-121856) 1⟩,
  ⟨0x1E039, 0x1E03B, .shift (-121855) 1⟩,
  ⟨0x1E03C, 0x1E046, .shift (-121854) 1⟩,
  ⟨0x1E047, 0x1E047, .shift (-121852) 1⟩,
  ⟨0x1E048, 0x1E049, .shift (-121851) 1⟩,
  ⟨0x1E04A, 0x1E04A, .shift (-80321) 1⟩,
  ⟨0x1E04B, 0x1E04B, .shift (-121714) 1⟩,
  ⟨0x1E04C, 0x1E04C, .shift (-121846) 1⟩,
  ⟨0x1E04D, 0x1E04D, .shift (-121845) 1⟩,
  ⟨0x1E04E, 0x1E04E, .shift (-121701) 1⟩,
  ⟨0x1E04F, 0x1E04F, .shift (-121760) 1⟩,
  ⟨0x1E050, 0x1E050, .shift (-121729) 1⟩,
  ⟨0x1E051, 0x1E059, .shift (-121889) 1⟩,
  ⟨0x1E05A, 0x1E05B, .shift (-121888) 1⟩,
  ⟨0x1E05C, 0x1E05D, .shift (-121886) 1⟩,
  ⟨0x1E05E, 0x1E05E, .shift (-121885) 1⟩,
  ⟨0x1E05F, 0x1E064, .shift (-121884) 1⟩,
  ⟨0x1E065, 0x1E066, .shift (-121883) 1⟩,
  ⟨0x1E067, 0x1E067, .shift (-121814) 1⟩,
  ⟨0x1E068, 0x1E068, .shift (-121874) 1⟩,
  ⟨0x1E069, 0x1E069, .shift (-121876) 1⟩,
  ⟨0x1E06A, 0x1E06A, .shift (-121867) 1⟩,
  ⟨0x1E06B, 0x1E06B, .shift (-121792) 1⟩,
  ⟨0x1E06C, 0x1E06C, .shift (-80411) 1⟩,
  ⟨0x1E06D, 0x1E06D, .shift (-121788) 1⟩,
  ⟨0x1E06E, 0x1E08E, .disallowed⟩,
  ⟨0x1E08F, 0x1E08F, .valid⟩,
  ⟨0x1E090, 0x1E0FF, .disallowed⟩,
  ⟨0x1E100, 0x1E12C, .valid⟩,
  ⟨0x1E12D, 0x1E12F, .disallowed⟩,
  ⟨0x1E130, 0x1E13D, .valid⟩,
  ⟨0x1E13E, 0x1E13F, .disallowed⟩,
  ⟨0x1E140, 0x1E149, .valid⟩,
  ⟨0x1E14A, 0x1E14D, .disallowed⟩,
  ⟨0x1E14E, 0x1E14F, .valid⟩,
  ⟨0x1E150, 0x1E28F, .disallowed⟩,
  ⟨0x1E290, 0x1E2AE, .valid⟩,
  ⟨0x1E2AF, 0x1E2BF, .disallowed⟩,
  ⟨0x1E2C0, 0x1E2F9, .valid⟩,
  ⟨0x1E2FA, 0x1E2FE, .disallowed⟩,
  ⟨0x1E2FF, 0x1E2FF, .valid⟩,
  ⟨0x1E300, 0x1E4CF, .disallowed⟩,
  ⟨0x1E4D0, 0x1E4F9, .valid⟩,
  ⟨0x1E4FA, 0x1E5CF, .disallowed⟩,
  ⟨0x1E5D0, 0x1E5FA, .valid⟩,
  ⟨0x1E5FB, 0x1E5FE, .disallowed⟩,
  ⟨0x1E5FF, 0x1E5FF, .valid⟩,
  ⟨0x1E600, 0x1E6BF, .disallowed⟩,
  ⟨0x1E6C0, 0x1E6DE, .valid⟩,
  ⟨0x1E6DF, 0x1E6DF, .disallowed⟩,
  ⟨0x1E6E0, 0x1E6F5, .valid⟩,
  ⟨0x1E6F6, 0x1E6FD, .disallowed⟩,
  ⟨0x1E6FE, 0x1E6FF, .valid⟩,
  ⟨0x1E700, 0x1E7DF, .disallowed⟩,
  ⟨0x1E7E0, 0x1E7E6, .valid⟩,
  ⟨0x1E7E7, 0x1E7E7, .disallowed⟩,
  ⟨0x1E7E8, 0x1E7EB, .valid⟩,
  ⟨0x1E7EC, 0x1E7EC, .disallowed⟩,
  ⟨0x1E7ED, 0x1E7EE, .valid⟩,
  ⟨0x1E7EF, 0x1E7EF, .disallowed⟩,
  ⟨0x1E7F0, 0x1E7FE, .valid⟩,
  ⟨0x1E7FF, 0x1E7FF, .disallowed⟩,
  ⟨0x1E800, 0x1E8C4, .valid⟩,
  ⟨0x1E8C5, 0x1E8C6, .disallowed⟩,
  ⟨0x1E8C7, 0x1E8D6, .valid⟩,
  ⟨0x1E8D7, 0x1E8FF, .disallowed⟩,
  ⟨0x1E900, 0x1E921, .shift 34 1⟩,
  ⟨0x1E922, 0x1E94B, .valid⟩,
  ⟨0x1E94C, 0x1E94F, .disallowed⟩,
  ⟨0x1E950, 0x1E959, .valid⟩,
  ⟨0x1E95A, 0x1E95D, .disallowed⟩,
  ⟨0x1E95E, 0x1E95F, .valid⟩,
  ⟨0x1E960, 0x1EC70, .disallowed⟩,
  ⟨0x1EC71, 0x1ECB4, .valid⟩,
  ⟨0x1ECB5, 0x1ED00, .disallowed⟩,
  ⟨0x1ED01, 0x1ED3D, .valid⟩,
  ⟨0x1ED3E, 0x1EDFF, .disallowed⟩,
  ⟨0x1EE00, 0x1EE01, .shift (-124889) 1⟩,
  ⟨0x1EE02, 0x1EE02, .shift (-124886) 1⟩,
  ⟨0x1EE03, 0x1EE03, .shift (-124884) 1⟩,
  ⟨0x1EE04, 0x1EE04, .disallowed⟩,
  ⟨0x1EE05, 0x1EE05, .shift (-124861) 1⟩,
  ⟨0x1EE06, 0x1EE06, .shift (-124884) 1⟩,
  ⟨0x1EE07, 0x1EE07, .shift (-124890) 1⟩,
  ⟨0x1EE08, 0x1EE08, .shift (-124881) 1⟩,
  ⟨0x1EE09, 0x1EE09, .shift (-124863) 1⟩,
  ⟨0x1EE0A, 0x1EE0D, .shift (-124871) 1⟩,
  ⟨0x1EE0E, 0x1EE0E, .shift (-124891) 1⟩,
  ⟨0x1EE0F, 0x1EE0F, .shift (-124886) 1⟩,
  ⟨0x1EE10, 0x1EE10, .shift (-124879) 1⟩,
  ⟨0x1EE11, 0x1EE11, .shift (-124892) 1⟩,
  ⟨0x1EE12, 0x1EE12, .shift (-124880) 1⟩,
  ⟨0x1EE13, 0x1EE13, .shift (-124898) 1⟩,
  ⟨0x1EE14, 0x1EE14, .shift (-124896) 1⟩,
  ⟨0x1EE15, 0x1EE16, .shift (-124907) 1⟩,
  ⟨0x1EE17, 0x1EE17, .shift (-124905) 1⟩,
  ⟨0x1EE18, 0x1EE18, .shift (-124904) 1⟩,
  ⟨0x1EE19, 0x1EE19, .shift (-124899) 1⟩,
  ⟨0x1EE1A, 0x1EE1A, .shift (-124898) 1⟩,
  ⟨0x1EE1B, 0x1EE1B, .shift (-124897) 1⟩,
  ⟨0x1EE1C, 0x1EE1C, .shift (-124846) 1⟩,
  ⟨0x1EE1D, 0x1EE1D, .shift (-124771) 1⟩,
  ⟨0x1EE1E, 0x1EE1E, .shift (-124797) 1⟩,
  ⟨0x1EE1F, 0x1EE1F, .shift (-124848) 1⟩,
  ⟨0x1EE20, 0x1EE20, .disallowed⟩,
  ⟨0x1EE21, 0x1EE21, .shift (-124921) 1⟩,
  ⟨0x1EE22, 0x1EE22, .shift (-124918) 1⟩,
  ⟨0x1EE23, 0x1EE23, .disallowed⟩,
  ⟨0x1EE24, 0x1EE24, .shift (-124893) 1⟩,
  ⟨0x1EE25, 0x1EE26, .disallowed⟩,
  ⟨0x1EE27, 0x1EE27, .shift (-124922) 1⟩,
  ⟨0x1EE28, 0x1EE28, .disallowed⟩,
  ⟨0x1EE29, 0x1EE29, .shift (-124895) 1⟩,
  ⟨0x1EE2A, 0x1EE2D, .shift (-124903) 1⟩,
  ⟨0x1EE2E, 0x1EE2E, .shift (-124923) 1⟩,
  ⟨0x1EE2F, 0x1EE2F, .shift (-124918) 1⟩,
  ⟨0x1EE30, 0x1EE30, .shift (-124911) 1⟩,
  ⟨0x1EE31, 0x1EE31, .shift (-124924) 1⟩,
  ⟨0x1EE32, 0x1EE32, .shift (-124912) 1⟩,
  ⟨0x1EE33, 0x1EE33, .disallowed⟩,
  ⟨0x1EE34, 0x1EE34, .shift (-124928) 1⟩,
  ⟨0x1EE35, 0x1EE36, .shift (-124939) 1⟩,
  ⟨0x1EE37, 0x1EE37, .shift (-124937) 1⟩,
  ⟨0x1EE38, 0x1EE38, .disallowed⟩,
  ⟨0x1EE39, 0x1EE39, .shift (-124931) 1⟩,
  ⟨0x1EE3A, 0x1EE3A, .disallowed⟩,
  ⟨0x1EE3B, 0x1EE3B, .shift (-124929) 1⟩,
  ⟨0x1EE3C, 0x1EE41, .disallowed⟩,
  ⟨0x1EE42, 0x1EE42, .shift (-124950) 1⟩,
  ⟨0x1EE43, 0x1EE46, .disallowed⟩,
  ⟨0x1EE47, 0x1EE47, .shift (-124954) 1⟩,
  ⟨0x1EE48, 0x1EE48, .disallowed⟩,
  ⟨0x1EE49, 0x1EE49, .shift (-124927) 1⟩,
  ⟨0x1EE4A, 0x1EE4A, .disallowed⟩,
  ⟨0x1EE4B, 0x1EE4B, .shift (-124935) 1⟩,
  ⟨0x1EE4C, 0x1EE4C, .disallowed⟩,
  ⟨0x1EE4D, 0x1EE4D, .shift (-124935) 1⟩,
  ⟨0x1EE4E, 0x1EE4E, .shift (-124955) 1⟩,
  ⟨0x1EE4F, 0x1EE4F, .shift (-124950) 1⟩,
  ⟨0x1EE50, 0x1EE50, .disallowed⟩,
  ⟨0x1EE51, 0x1EE51, .shift (-124956) 1⟩,
  ⟨0x1EE52, 0x1EE52, .shift (-124944) 1⟩,
  ⟨0x1EE53, 0x1EE53, .disallowed⟩,
  ⟨0x1EE54, 0x1EE54, .shift (-124960) 1⟩,
  ⟨0x1EE55, 0x1EE56, .disallowed⟩,
  ⟨0x1EE57, 0x1EE57, .shift (-124969) 1⟩,
  ⟨0x1EE58, 0x1EE58, .disallowed⟩,
  ⟨0x1EE59, 0x1EE59, .shift (-124963) 1⟩,
  ⟨0x1EE5A, 0x1EE5A, .disallowed⟩,
  ⟨0x1EE5B, 0x1EE5B, .shift (-124961) 1⟩,
  ⟨0x1EE5C, 0x1EE5C, .disallowed⟩,
  ⟨0x1EE5D, 0x1EE5D, .shift (-124835) 1⟩,
  ⟨0x1EE5E, 0x1EE5E, .disallowed⟩,
  ⟨0x1EE5F, 0x1EE5F, .shift (-124912) 1⟩,
  ⟨0x1EE60, 0x1EE60, .disallowed⟩,
  ⟨0x1EE61, 0x1EE61, .shift (-124985) 1⟩,
  ⟨0x1EE62, 0x1EE62, .shift (-124982) 1⟩,
  ⟨0x1EE63, 0x1EE63, .disallowed⟩,
  ⟨0x1EE64, 0x1EE64, .shift (-124957) 1⟩,
  ⟨0x1EE65, 0x1EE66, .disallowed⟩,
  ⟨0x1EE67, 0x1EE67, .shift (-124986) 1⟩,
  ⟨0x1EE68, 0x1EE68, .shift (-124977) 1⟩,
  ⟨0x1EE69, 0x1EE69, .shift (-124959) 1⟩,
  ⟨0x1EE6A, 0x1EE6A, .shift (-124967) 1⟩,
  ⟨0x1EE6B, 0x1EE6B, .disallowed⟩,
  ⟨0x1EE6C, 0x1EE6D, .shift (-124967) 1⟩,
  ⟨0x1EE6E, 0x1EE6E, .shift (-124987) 1⟩,
  ⟨0x1EE6F, 0x1EE6F, .shift (-124982) 1⟩,
  ⟨0x1EE70, 0x1EE70, .shift (-124975) 1⟩,
  ⟨0x1EE71, 0x1EE71, .shift (-124988) 1⟩,
  ⟨0x1EE72, 0x1EE72, .shift (-124976) 1⟩,
  ⟨0x1EE73, 0x1EE73, .disallowed⟩,
  ⟨0x1EE74, 0x1EE74, .shift (-124992) 1⟩,
  ⟨0x1EE75, 0x1EE76, .shift (-125003) 1⟩,
  ⟨0x1EE77, 0x1EE77, .shift (-125001) 1⟩,
  ⟨0x1EE78, 0x1EE78, .disallowed⟩,
  ⟨0x1EE79, 0x1EE79, .shift (-124995) 1⟩,
  ⟨0x1EE7A, 0x1EE7A, .shift (-124994) 1⟩,
  ⟨0x1EE7B, 0x1EE7B, .shift (-124993) 1⟩,
  ⟨0x1EE7C, 0x1EE7C, .shift (-124942) 1⟩,
  ⟨0x1EE7D, 0x1EE7D, .disallowed⟩,
  ⟨0x1EE7E, 0x1EE7E, .shift (-124893) 1⟩,
  ⟨0x1EE7F, 0x1EE7F, .disallowed⟩,
  ⟨0x1EE80, 0x1EE81, .shift (-125017) 1⟩,
  ⟨0x1EE82, 0x1EE82, .shift (-125014) 1⟩,
  ⟨0x1EE83, 0x1EE83, .shift (-125012) 1⟩,
  ⟨0x1EE84, 0x1EE85, .shift (-124989) 1⟩,
  ⟨0x1EE86, 0x1EE86, .shift (-125012) 1⟩,
  ⟨0x1EE87, 0x1EE87, .shift (-125018) 1⟩,
  ⟨0x1EE88, 0x1EE88, .shift (-125009) 1⟩,
  ⟨0x1EE89, 0x1EE89, .shift (-124991) 1⟩,
  ⟨0x1EE8A, 0x1EE8A, .disallowed⟩,
  ⟨0x1EE8B, 0x1EE8D, .shift (-124999) 1⟩,
  ⟨0x1EE8E, 0x1EE8E, .shift (-125019) 1⟩,
  ⟨0x1EE8F, 0x1EE8F, .shift (-125014) 1⟩,
  ⟨0x1EE90, 0x1EE90, .shift (-125007) 1⟩,
  ⟨0x1EE91, 0x1EE91, .shift (-125020) 1⟩,
  ⟨0x1EE92, 0x1EE92, .shift (-125008) 1⟩,
  ⟨0x1EE93, 0x1EE93, .shift (-125026) 1⟩,
  ⟨0x1EE94, 0x1EE94, .shift (-125024) 1⟩,
  ⟨0x1EE95, 0x1EE96, .shift (-125035) 1⟩,
  ⟨0x1EE97, 0x1EE97, .shift (-125033) 1⟩,
  ⟨0x1EE98, 0x1EE98, .shift (-125032) 1⟩,
  ⟨0x1EE99, 0x1EE99, .shift (-125027) 1⟩,
  ⟨0x1EE9A, 0x1EE9A, .shift (-125026) 1⟩,
  ⟨0x1EE9B, 0x1EE9B, .shift (-125025) 1⟩,
  ⟨0x1EE9C, 0x1EEA0, .disallowed⟩,
  ⟨0x1EEA1, 0x1EEA1, .shift (-125049) 1⟩,
  ⟨0x1EEA2, 0x1EEA2, .shift (-125046) 1⟩,
  ⟨0x1EEA3, 0x1EEA3, .shift (-125044) 1⟩,
  ⟨0x1EEA4, 0x1EEA4, .disallowed⟩,
  ⟨0x1EEA5, 0x1EEA5, .shift (-125021) 1⟩,
  ⟨0x1EEA6, 0x1EEA6, .shift (-125044) 1⟩,
  ⟨0x1EEA7, 0x1EEA7, .shift (-125050) 1⟩,
  ⟨0x1EEA8, 0x1EEA8, .shift (-125041) 1⟩,
  ⟨0x1EEA9, 0x1EEA9, .shift (-125023) 1⟩,
  ⟨0x1EEAA, 0x1EEAA, .disallowed⟩,
  ⟨0x1EEAB, 0x1EEAD, .shift (-125031) 1⟩,
  ⟨0x1EEAE, 0x1EEAE, .shift (-125051) 1⟩,
  ⟨0x1EEAF, 0x1EEAF, .shift (-125046) 1⟩,
  ⟨0x1EEB0, 0x1EEB0, .shift (-125039) 1⟩,
  ⟨0x1EEB1, 0x1EEB1, .shift (-125052) 1⟩,
  ⟨0x1EEB2, 0x1EEB2, .shift (-125040) 1⟩,
  ⟨0x1EEB3, 0x1EEB3, .shift (-125058) 1⟩,
  ⟨0x1EEB4, 0x1EEB4, .shift (-125056) 1⟩,
  ⟨0x1EEB5, 0x1EEB6, .shift (-125067) 1⟩,
  ⟨0x1EEB7, 0x1EEB7, .shift (-125065) 1⟩,
  ⟨0x1EEB8, 0x1EEB8, .shift (-125064) 1⟩,
  ⟨0x1EEB9, 0x1EEB9, .shift (-125059) 1⟩,
  ⟨0x1EEBA, 0x1EEBA, .shift (-125058) 1⟩,
  ⟨0x1EEBB, 0x1EEBB, .shift (-125057) 1⟩,
  ⟨0x1EEBC, 0x1EEEF, .disallowed⟩,
  ⟨0x1EEF0, 0x1EEF1, .valid⟩,
  ⟨0x1EEF2, 0x1EFFF, .disallowed⟩,
  ⟨0x1F000, 0x1F02B, .valid⟩,
  ⟨0x1F02C, 0x1F02F, .disallowed⟩,
  ⟨0x1F030, 0x1F093, .valid⟩,
  ⟨0x1F094, 0x1F09F, .disallowed⟩,
  ⟨0x1F0A0, 0x1F0AE, .valid⟩,
  ⟨0x1F0AF, 0x1F0B0, .disallowed⟩,
  ⟨0x1F0B1, 0x1F0BF, .valid⟩,
  ⟨0x1F0C0, 0x1F0C0, .disallowed⟩,
  ⟨0x1F0C1, 0x1F0CF, .valid⟩,
  ⟨0x1F0D0, 0x1F0D0, .disallowed⟩,
  ⟨0x1F0D1, 0x1F0F5, .valid⟩,
  ⟨0x1F0F6, 0x1F100, .disallowed⟩,
  ⟨0x1F101, 0x1F101, .text [0x30, 0x2C]⟩,
  ⟨0x1F102, 0x1F102, .text [0x31, 0x2C]⟩,
  ⟨0x1F103, 0x1F103, .text [0x32, 0x2C]⟩,
  ⟨0x1F104, 0x1F104, .text [0x33, 0x2C]⟩,
  ⟨0x1F105, 0x1F105, .text [0x34, 0x2C]⟩,
  ⟨0x1F106, 0x1F106, .text [0x35, 0x2C]⟩,
  ⟨0x1F107, 0x1F107, .text [0x36, 0x2C]⟩,
  ⟨0x1F108, 0x1F108, .text [0x37, 0x2C]⟩,
  ⟨0x1F109, 0x1F109, .text [0x38, 0x2C]⟩,
  ⟨0x1F10A, 0x1F10A, .text [0x39, 0x2C]⟩,
  ⟨0x1F10B, 0x1F10F, .valid⟩,
  ⟨0x1F110, 0x1F110, .text [0x28, 0x61, 0x29]⟩,
  ⟨0x1F111, 0x1F111, .text [0x28, 0x62, 0x29]⟩,
  ⟨0x1F112, 0x1F112, .text [0x28, 0x63, 0x29]⟩,
  ⟨0x1F113, 0x1F113, .text [0x28, 0x64, 0x29]⟩,
  ⟨0x1F114, 0x1F114, .text [0x28, 0x65, 0x29]⟩,
  ⟨0x1F115, 0x1F115, .text [0x28, 0x66, 0x29]⟩,
  ⟨0x1F116, 0x1F116, .text [0x28, 0x67, 0x29]⟩,
  ⟨0x1F117, 0x1F117, .text [0x28, 0x68, 0x29]⟩,
  ⟨0x1F118, 0x1F118, .text [0x28, 0x69, 0x29]⟩,
  ⟨0x1F119, 0x1F119, .text [0x28, 0x6A, 0x29]⟩,
  ⟨0x1F11A, 0x1F11A, .text [0x28, 0x6B, 0x29]⟩,
  ⟨0x1F11B, 0x1F11B, .text [0x28, 0x6C, 0x29]⟩,
  ⟨0x1F11C, 0x1F11C, .text [0x28, 0x6D, 0x29]⟩,
  ⟨0x1F11D, 0x1F11D, .text [0x28, 0x6E, 0x29]⟩,
  ⟨0x1F11E, 0x1F11E, .text [0x28, 0x6F, 0x29]⟩,
  ⟨0x1F11F, 0x1F11F, .text [0x28, 0x70, 0x29]⟩,
  ⟨0x1F120, 0x1F120, .text [0x28, 0x71, 0x29]⟩,
  ⟨0x1F121, 0x1F121, .text [0x28, 0x72, 0x29]⟩,
  ⟨0x1F122, 0x1F122, .text [0x28, 0x73, 0x29]⟩,
  ⟨0x1F123, 0x1F123, .text [0x28, 0x74, 0x29]⟩,
  ⟨0x1F124, 0x1F124, .text [0x28, 0x75, 0x29]⟩,
  ⟨0x1F125, 0x1F125, .text [0x28, 0x76, 0x29]⟩,
  ⟨0x1F126, 0x1F126, .text [0x28, 0x77, 0x29]⟩,
  ⟨0x1F127, 0x1F127, .text [0x28, 0x78, 0x29]⟩,
  ⟨0x1F128, 0x1F128, .text [0x28, 0x79, 0x29]⟩,
  ⟨0x1F129, 0x1F129, .text [0x28, 0x7A, 0x29]⟩,
  ⟨0x1F12A, 0x1F12A, .text [0x3014, 0x73, 0x3015]⟩,
  ⟨0x1F12B, 0x1F12B, .shift (-127176) 1⟩,
  ⟨0x1F12C, 0x1F12C, .shift (-127162) 1⟩,
  ⟨0x1F12D, 0x1F12D, .text [0x63, 0x64]⟩,
  ⟨0x1F12E, 0x1F12E, .text [0x77, 0x7A]⟩,
  ⟨0x1F12F, 0x1F12F, .valid⟩,
  ⟨0x1F130, 0x1F149, .shift (-127183) 1⟩,
  ⟨0x1F14A, 0x1F14A, .text [0x68, 0x76]⟩,
  ⟨0x1F14B, 0x1F14B, .text [0x6D, 0x76]⟩,
  ⟨0x1F14C, 0x1F14C, .text [0x73, 0x64]⟩,
  ⟨0x1F14D, 0x1F14D, .text [0x73, 0x73]⟩,
  ⟨0x1F14E, 0x1F14E, .text [0x70, 0x70, 0x76]⟩,
  ⟨0x1F14F, 0x1F14F, .text [0x77, 0x63]⟩,
  ⟨0x1F150, 0x1F169, .valid⟩,
  ⟨0x1F16A, 0x1F16A, .text [0x6D, 0x63]⟩,
  ⟨0x1F16B, 0x1F16B, .text [0x6D, 0x64]⟩,
  ⟨0x1F16C, 0x1F16C, .text [0x6D, 0x72]⟩,
  ⟨0x1F16D, 0x1F18F, .valid⟩,
  ⟨0x1F190, 0x1F190, .text [0x64, 0x6A]⟩,
  ⟨0x1F191, 0x1F1AD, .valid⟩,
  ⟨0x1F1AE, 0x1F1E5, .disallowed⟩,
  ⟨0x1F1E6, 0x1F1FF, .valid⟩,
  ⟨0x1F200, 0x1F200, .text [0x307B, 0x304B]⟩,
  ⟨0x1F201, 0x1F201, .text [0x30B3, 0x30B3]⟩,
  ⟨0x1F202, 0x1F202, .shift (-115021) 1⟩,
  ⟨0x1F203, 0x1F20F, .disallowed⟩,
  ⟨0x1F210, 0x1F210, .shift (-102341) 1⟩,
  ⟨0x1F211, 0x1F211, .shift (-104122) 1⟩,
  ⟨0x1F212, 0x1F212, .shift (-106054) 1⟩,
  ⟨0x1F213, 0x1F213, .shift (-115020) 1⟩,
  ⟨0x1F214, 0x1F214, .shift (-107400) 1⟩,
  ⟨0x1F215, 0x1F215, .shift (-104699) 1⟩,
  ⟨0x1F216, 0x1F216, .shift (-92211) 1⟩,
  ⟨0x1F217, 0x1F217, .shift (-104686) 1⟩,
  ⟨0x1F218, 0x1F218, .shift (-107380) 1⟩,
  ⟨0x1F219, 0x1F219, .shift (-101369) 1⟩,
  ⟨0x1F21A, 0x1F21A, .shift (-98553) 1⟩,
  ⟨0x1F21B, 0x1F21B, .shift (-101506) 1⟩,
  ⟨0x1F21C, 0x1F21C, .shift (-106447) 1⟩,
  ⟨0x1F21D, 0x1F21D, .shift (-103057) 1⟩,
  ⟨0x1F21E, 0x1F21E, .shift (-106641) 1⟩,
  ⟨0x1F21F, 0x1F21F, .shift (-101487) 1⟩,
  ⟨0x1F220, 0x1F220, .shift (-106499) 1⟩,
  ⟨0x1F221, 0x1F221, .shift (-95455) 1⟩,
  ⟨0x1F222, 0x1F222, .shift (-97539) 1⟩,
  ⟨0x1F223, 0x1F223, .shift (-91514) 1⟩,
  ⟨0x1F224, 0x1F224, .shift (-104756) 1⟩,
  ⟨0x1F225, 0x1F225, .shift (-105964) 1⟩,
  ⟨0x1F226, 0x1F226, .shift (-99090) 1⟩,
  ⟨0x1F227, 0x1F227, .shift (-102290) 1⟩,
  ⟨0x1F228, 0x1F228, .shift (-102099) 1⟩,
  ⟨0x1F229, 0x1F229, .shift (-107561) 1⟩,
  ⟨0x1F22A, 0x1F22A, .shift (-107553) 1⟩,
  ⟨0x1F22B, 0x1F22B, .shift (-90593) 1⟩,
  ⟨0x1F22C, 0x1F22C, .shift (-103494) 1⟩,
  ⟨0x1F22D, 0x1F22D, .shift (-107520) 1⟩,
  ⟨0x1F22E, 0x1F22E, .shift (-106043) 1⟩,
  ⟨0x1F22F, 0x1F22F, .shift (-102184) 1⟩,
  ⟨0x1F230, 0x1F230, .shift (-91328) 1⟩,
  ⟨0x1F231, 0x1F231, .shift (-102366) 1⟩,
  ⟨0x1F232, 0x1F232, .shift (-96433) 1⟩,
  ⟨0x1F233, 0x1F233, .shift (-96185) 1⟩,
  ⟨0x1F234, 0x1F234, .shift (-106028) 1⟩,
  ⟨0x1F235, 0x1F235, .shift (-99253) 1⟩,
  ⟨0x1F236, 0x1F236, .shift (-101165) 1⟩,
  ⟨0x1F237, 0x1F237, .shift (-101167) 1⟩,
  ⟨0x1F238, 0x1F238, .shift (-97541) 1⟩,
  ⟨0x1F239, 0x1F239, .shift (-106439) 1⟩,
  ⟨0x1F23A, 0x1F23A, .shift (-105604) 1⟩,
  ⟨0x1F23B, 0x1F23B, .shift (-90350) 1⟩,
  ⟨0x1F23C, 0x1F23F, .disallowed⟩,
  ⟨0x1F240, 0x1F240, .text [0x3014, 0x672C, 0x3015]⟩,
  ⟨0x1F241, 0x1F241, .text [0x3014, 0x4E09, 0x3015]⟩,
  ⟨0x1F242, 0x1F242, .text [0x3014, 0x4E8C, 0x3015]⟩,
  ⟨0x1F243, 0x1F243, .text [0x3014, 0x5B89, 0x3015]⟩,
  ⟨0x1F244, 0x1F244, .text [0x3014, 0x70B9, 0x3015]⟩,
  ⟨0x1F245, 0x1F245, .text [0x3014, 0x6253, 0x3015]⟩,
  ⟨0x1F246, 0x1F246, .text [0x3014, 0x76D7, 0x3015]⟩,
  ⟨0x1F247, 0x1F247, .text [0x3014, 0x52DD, 0x3015]⟩,
  ⟨0x1F248, 0x1F248, .text [0x3014, 0x6557, 0x3015]⟩,
  ⟨0x1F249, 0x1F24F, .disallowed⟩,
  ⟨0x1F250, 0x1F250, .shift (-103097) 1⟩,
  ⟨0x1F251, 0x1F251, .shift (-106082) 1⟩,
  ⟨0x1F252, 0x1F25F, .disallowed⟩,
  ⟨0x1F260, 0x1F265, .valid⟩,
  ⟨0x1F266, 0x1F2FF, .disallowed⟩,
  ⟨0x1F300, 0x1F6D8, .valid⟩,
  ⟨0x1F6D9, 0x1F6DB, .disallowed⟩,
  ⟨0x1F6DC, 0x1F6EC, .valid⟩,
  ⟨0x1F6ED, 0x1F6EF, .disallowed⟩,
  ⟨0x1F6F0, 0x1F6FC, .valid⟩,
  ⟨0x1F6FD, 0x1F6FF, .disallowed⟩,
  ⟨0x1F700, 0x1F7D9, .valid⟩,
  ⟨0x1F7DA, 0x1F7DF, .disallowed⟩,
  ⟨0x1F7E0, 0x1F7EB, .valid⟩,
  ⟨0x1F7EC, 0x1F7EF, .disallowed⟩,
  ⟨0x1F7F0, 0x1F7F0, .valid⟩,
  ⟨0x1F7F1, 0x1F7FF, .disallowed⟩,
  ⟨0x1F800, 0x1F80B, .valid⟩,
  ⟨0x1F80C, 0x1F80F, .disallowed⟩,
  ⟨0x1F810, 0x1F847, .valid⟩,
  ⟨0x1F848, 0x1F84F, .disallowed⟩,
  ⟨0x1F850, 0x1F859, .valid⟩,
  ⟨0x1F85A, 0x1F85F, .disallowed⟩,
  ⟨0x1F860, 0x1F887, .valid⟩,
  ⟨0x1F888, 0x1F88F, .disallowed⟩,
  ⟨0x1F890, 0x1F8AD, .valid⟩,
  ⟨0x1F8AE, 0x1F8AF, .disallowed⟩,
  ⟨0x1F8B0, 0x1F8BB, .valid⟩,
  ⟨0x1F8BC, 0x1F8BF, .disallowed⟩,
  ⟨0x1F8C0, 0x1F8C1, .valid⟩,
  ⟨0x1F8C2, 0x1F8CF, .disallowed⟩,
  ⟨0x1F8D0, 0x1F8D8, .valid⟩,
  ⟨0x1F8D9, 0x1F8FF, .disallowed⟩,
  ⟨0x1F900, 0x1FA57, .valid⟩,
  ⟨0x1FA58, 0x1FA5F, .disallowed⟩,
  ⟨0x1FA60, 0x1FA6D, .valid⟩,
  ⟨0x1FA6E, 0x1FA6F, .disallowed⟩,
  ⟨0x1FA70, 0x1FA7C, .valid⟩,
  ⟨0x1FA7D, 0x1FA7F, .disallowed⟩,
  ⟨0x1FA80, 0x1FA8A, .valid⟩,
  ⟨0x1FA8B, 0x1FA8D, .disallowed⟩,
  ⟨0x1FA8E, 0x1FAC6, .valid⟩,
  ⟨0x1FAC7, 0x1FAC7, .disallowed⟩,
  ⟨0x1FAC8, 0x1FAC8, .valid⟩,
  ⟨0x1FAC9, 0x1FACC, .disallowed⟩,
  ⟨0x1FACD, 0x1FADC, .valid⟩,
  ⟨0x1FADD, 0x1FADE, .disallowed⟩,
  ⟨0x1FADF, 0x1FAEA, .valid⟩,
  ⟨0x1FAEB, 0x1FAEE, .disallowed⟩,
  ⟨0x1FAEF, 0x1FAF8, .valid⟩,
  ⟨0x1FAF9, 0x1FAFF, .disallowed⟩,
  ⟨0x1FB00, 0x1FB92, .valid⟩,
  ⟨0x1FB93, 0x1FB93, .disallowed⟩,
  ⟨0x1FB94, 0x1FBEF, .valid⟩,
  ⟨0x1FBF0, 0x1FBF9, .shift (-129984) 1⟩,
  ⟨0x1FBFA, 0x1FBFA, .valid⟩,
  ⟨0x1FBFB, 0x1FFFF, .disallowed⟩
]

end Idna

end SellerSync
