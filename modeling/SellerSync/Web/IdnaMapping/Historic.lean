import SellerSync.Web.IdnaMapping.Status
/-!
Rows of the IDNA mapping table of Unicode Technical Standard 46, version 17.0, for the supplementary
scripts (U+10000 to U+1CFFF).
-/
namespace SellerSync

namespace Idna

def rowsHistoric : Array MappingRow := #[
  ⟨0x10000, 0x1000B, .valid⟩,
  ⟨0x1000C, 0x1000C, .disallowed⟩,
  ⟨0x1000D, 0x10026, .valid⟩,
  ⟨0x10027, 0x10027, .disallowed⟩,
  ⟨0x10028, 0x1003A, .valid⟩,
  ⟨0x1003B, 0x1003B, .disallowed⟩,
  ⟨0x1003C, 0x1003D, .valid⟩,
  ⟨0x1003E, 0x1003E, .disallowed⟩,
  ⟨0x1003F, 0x1004D, .valid⟩,
  ⟨0x1004E, 0x1004F, .disallowed⟩,
  ⟨0x10050, 0x1005D, .valid⟩,
  ⟨0x1005E, 0x1007F, .disallowed⟩,
  ⟨0x10080, 0x100FA, .valid⟩,
  ⟨0x100FB, 0x100FF, .disallowed⟩,
  ⟨0x10100, 0x10102, .valid⟩,
  ⟨0x10103, 0x10106, .disallowed⟩,
  ⟨0x10107, 0x10133, .valid⟩,
  ⟨0x10134, 0x10136, .disallowed⟩,
  ⟨0x10137, 0x1018E, .valid⟩,
  ⟨0x1018F, 0x1018F, .disallowed⟩,
  ⟨0x10190, 0x1019C, .valid⟩,
  ⟨0x1019D, 0x1019F, .disallowed⟩,
  ⟨0x101A0, 0x101A0, .valid⟩,
  ⟨0x101A1, 0x101CF, .disallowed⟩,
  ⟨0x101D0, 0x101FD, .valid⟩,
  ⟨0x101FE, 0x1027F, .disallowed⟩,
  ⟨0x10280, 0x1029C, .valid⟩,
  ⟨0x1029D, 0x1029F, .disallowed⟩,
  ⟨0x102A0, 0x102D0, .valid⟩,
  ⟨0x102D1, 0x102DF, .disallowed⟩,
  ⟨0x102E0, 0x102FB, .valid⟩,
  ⟨0x102FC, 0x102FF, .disallowed⟩,
  ⟨0x10300, 0x10323, .valid⟩,
  ⟨0x10324, 0x1032C, .disallowed⟩,
  ⟨0x1032D, 0x1034A, .valid⟩,
  ⟨0x1034B, 0x1034F, .disallowed⟩,
  ⟨0x10350, 0x1037A, .valid⟩,
  ⟨0x1037B, 0x1037F, .disallowed⟩,
  ⟨0x10380, 0x1039D, .valid⟩,
  ⟨0x1039E, 0x1039E, .disallowed⟩,
  ⟨0x1039F, 0x103C3, .valid⟩,
  ⟨0x103C4, 0x103C7, .disallowed⟩,
  ⟨0x103C8, 0x103D5, .valid⟩,
  ⟨0x103D6, 0x103FF, .disallowed⟩,
  ⟨0x10400, 0x10427, .shift 40 1⟩,
  ⟨0x10428, 0x1049D, .valid⟩,
  ⟨0x1049E, 0x1049F, .disallowed⟩,
  ⟨0x104A0, 0x104A9, .valid⟩,
  ⟨0x104AA, 0x104AF, .disallowed⟩,
  ⟨0x104B0, 0x104D3, .shift 40 1⟩,
  ⟨0x104D4, 0x104D7, .disallowed⟩,
  ⟨0x104D8, 0x104FB, .valid⟩,
  ⟨0x104FC, 0x104FF, .disallowed⟩,
  ⟨0x10500, 0x10527, .valid⟩,
  ⟨0x10528, 0x1052F, .disallowed⟩,
  ⟨0x10530, 0x10563, .valid⟩,
  ⟨0x10564, 0x1056E, .disallowed⟩,
  ⟨0x1056F, 0x1056F, .valid⟩,
  ⟨0x10570, 0x1057A, .shift 39 1⟩,
  ⟨0x1057B, 0x1057B, .disallowed⟩,
  ⟨0x1057C, 0x1058A, .shift 39 1⟩,
  ⟨0x1058B, 0x1058B, .disallowed⟩,
  ⟨0x1058C, 0x10592, .shift 39 1⟩,
  ⟨0x10593, 0x10593, .disallowed⟩,
  ⟨0x10594, 0x10595, .shift 39 1⟩,
  ⟨0x10596, 0x10596, .disallowed⟩,
  ⟨0x10597, 0x105A1, .valid⟩,
  ⟨0x105A2, 0x105A2, .disallowed⟩,
  ⟨0x105A3, 0x105B1, .valid⟩,
  ⟨0x105B2, 0x105B2, .disallowed⟩,
  ⟨0x105B3, 0x105B9, .valid⟩,
  ⟨0x105BA, 0x105BA, .disallowed⟩,
  ⟨0x105BB, 0x105BC, .valid⟩,
  ⟨0x105BD, 0x105BF, .disallowed⟩,
  ⟨0x105C0, 0x105F3, .valid⟩,
  ⟨0x105F4, 0x105FF, .disallowed⟩,
  ⟨0x10600, 0x10736, .valid⟩,
  ⟨0x10737, 0x1073F, .disallowed⟩,
  ⟨0x10740, 0x10755, .valid⟩,
  ⟨0x10756, 0x1075F, .disallowed⟩,
  ⟨0x10760, 0x10767, .valid⟩,
  ⟨0x10768, 0x1077F, .disallowed⟩,
  ⟨0x10780, 0x10780, .valid⟩,
  ⟨0x10781, 0x10782, .shift (-66737) 1⟩,
  ⟨0x10783, 0x10783, .shift (-67229) 1⟩,
  ⟨0x10784, 0x10784, .shift (-66795) 1⟩,
  ⟨0x10785, 0x10785, .shift (-66866) 1⟩,
  ⟨0x10786, 0x10786, .disallowed⟩,
  ⟨0x10787, 0x10787, .shift (-66788) 1⟩,
  ⟨0x10788, 0x10788, .shift (-23586) 1⟩,
  ⟨0x10789, 0x10789, .shift (-66788) 1⟩,
  ⟨0x1078A, 0x1078A, .shift (-66790) 1⟩,
  ⟨0x1078B, 0x1078C, .shift (-66869) 1⟩,
  ⟨0x1078D, 0x1078D, .shift (-59900) 1⟩,
  ⟨0x1078E, 0x1078E, .shift (-66870) 1⟩,
  ⟨0x1078F, 0x1078F, .shift (-66865) 1⟩,
  ⟨0x10790, 0x10790, .shift (-66791) 1⟩,
  ⟨0x10791, 0x10791, .shift (-66861) 1⟩,
  ⟨0x10792, 0x10792, .shift (-66864) 1⟩,
  ⟨0x10793, 0x10793, .shift (-66867) 1⟩,
  ⟨0x10794, 0x10794, .shift (-66809) 1⟩,
  ⟨0x10795, 0x10795, .shift (-67182) 1⟩,
  ⟨0x10796, 0x10796, .shift (-66810) 1⟩,
  ⟨0x10797, 0x10797, .shift (-66864) 1⟩,
  ⟨0x10798, 0x10798, .shift (-66836) 1⟩,
  ⟨0x10799, 0x1079A, .shift (-66799) 1⟩,
  ⟨0x1079B, 0x1079B, .shift (-66863) 1⟩,
  ⟨0x1079C, 0x1079C, .shift 55144 1⟩,
  ⟨0x1079D, 0x1079D, .shift (-24591) 1⟩,
  ⟨0x1079E, 0x1079E, .shift (-66864) 1⟩,
  ⟨0x1079F, 0x1079F, .shift 55142 1⟩,
  ⟨0x107A0, 0x107A0, .shift (-66834) 1⟩,
  ⟨0x107A1, 0x107A1, .shift 55141 1⟩,
  ⟨0x107A2, 0x107A2, .shift (-67242) 1⟩,
  ⟨0x107A3, 0x107A4, .shift (-66861) 1⟩,
  ⟨0x107A5, 0x107A5, .shift (-67380) 1⟩,
  ⟨0x107A6, 0x107A6, .shift (-66860) 1⟩,
  ⟨0x107A7, 0x107A7, .shift 55137 1⟩,
  ⟨0x107A8, 0x107A9, .shift (-66859) 1⟩,
  ⟨0x107AA, 0x107AA, .shift (-66858) 1⟩,
  ⟨0x107AB, 0x107AB, .shift (-66819) 1⟩,
  ⟨0x107AC, 0x107AC, .shift (-66822) 1⟩,
  ⟨0x107AD, 0x107AD, .shift (-23622) 1⟩,
  ⟨0x107AE, 0x107AE, .shift (-66823) 1⟩,
  ⟨0x107AF, 0x107AF, .shift (-66855) 1⟩,
  ⟨0x107B0, 0x107B0, .shift (-56127) 1⟩,
  ⟨0x107B1, 0x107B1, .disallowed⟩,
  ⟨0x107B2, 0x107B2, .shift (-66851) 1⟩,
  ⟨0x107B3, 0x107B4, .shift (-66834) 1⟩,
  ⟨0x107B5, 0x107B5, .shift (-66845) 1⟩,
  ⟨0x107B6, 0x107B8, .shift (-67062) 1⟩,
  ⟨0x107B9, 0x107B9, .shift 55121 1⟩,
  ⟨0x107BA, 0x107BA, .shift 55140 1⟩,
  ⟨0x107BB, 0x107FF, .disallowed⟩,
  ⟨0x10800, 0x10805, .valid⟩,
  ⟨0x10806, 0x10807, .disallowed⟩,
  ⟨0x10808, 0x10808, .valid⟩,
  ⟨0x10809, 0x10809, .disallowed⟩,
  ⟨0x1080A, 0x10835, .valid⟩,
  ⟨0x10836, 0x10836, .disallowed⟩,
  ⟨0x10837, 0x10838, .valid⟩,
  ⟨0x10839, 0x1083B, .disallowed⟩,
  ⟨0x1083C, 0x1083C, .valid⟩,
  ⟨0x1083D, 0x1083E, .disallowed⟩,
  ⟨0x1083F, 0x10855, .valid⟩,
  ⟨0x10856, 0x10856, .disallowed⟩,
  ⟨0x10857, 0x1089E, .valid⟩,
  ⟨0x1089F, 0x108A6, .disallowed⟩,
  ⟨0x108A7, 0x108AF, .valid⟩,
  ⟨0x108B0, 0x108DF, .disallowed⟩,
  ⟨0x108E0, 0x108F2, .valid⟩,
  ⟨0x108F3, 0x108F3, .disallowed⟩,
  ⟨0x108F4, 0x108F5, .valid⟩,
  ⟨0x108F6, 0x108FA, .disallowed⟩,
  ⟨0x108FB, 0x1091B, .valid⟩,
  ⟨0x1091C, 0x1091E, .disallowed⟩,
  ⟨0x1091F, 0x10939, .valid⟩,
  ⟨0x1093A, 0x1093E, .disallowed⟩,
  ⟨0x1093F, 0x10959, .valid⟩,
  ⟨0x1095A, 0x1097F, .disallowed⟩,
  ⟨0x10980, 0x109B7, .valid⟩,
  ⟨0x109B8, 0x109BB, .disallowed⟩,
  ⟨0x109BC, 0x109CF, .valid⟩,
  ⟨0x109D0, 0x109D1, .disallowed⟩,
  ⟨0x109D2, 0x10A03, .valid⟩,
  ⟨0x10A04, 0x10A04, .disallowed⟩,
  ⟨0x10A05, 0x10A06, .valid⟩,
  ⟨0x10A07, 0x10A0B, .disallowed⟩,
  ⟨0x10A0C, 0x10A13, .valid⟩,
  ⟨0x10A14, 0x10A14, .disallowed⟩,
  ⟨0x10A15, 0x10A17, .valid⟩,
  ⟨0x10A18, 0x10A18, .disallowed⟩,
  ⟨0x10A19, 0x10A35, .valid⟩,
  ⟨0x10A36, 0x10A37, .disallowed⟩,
  ⟨0x10A38, 0x10A3A, .valid⟩,
  ⟨0x10A3B, 0x10A3E, .disallowed⟩,
  ⟨0x10A3F, 0x10A48, .valid⟩,
  ⟨0x10A49, 0x10A4F, .disallowed⟩,
  ⟨0x10A50, 0x10A58, .valid⟩,
  ⟨0x10A59, 0x10A5F, .disallowed⟩,
  ⟨0x10A60, 0x10A9F, .valid⟩,
  ⟨0x10AA0, 0x10ABF, .disallowed⟩,
  ⟨0x10AC0, 0x10AE6, .valid⟩,
  ⟨0x10AE7, 0x10AEA, .disallowed⟩,
  ⟨0x10AEB, 0x10AF6, .valid⟩,
  ⟨0x10AF7, 0x10AFF, .disallowed⟩,
  ⟨0x10B00, 0x10B35, .valid⟩,
  ⟨0x10B36, 0x10B38, .disallowed⟩,
  ⟨0x10B39, 0x10B55, .valid⟩,
  ⟨0x10B56, 0x10B57, .disallowed⟩,
  ⟨0x10B58, 0x10B72, .valid⟩,
  ⟨0x10B73, 0x10B77, .disallowed⟩,
  ⟨0x10B78, 0x10B91, .valid⟩,
  ⟨0x10B92, 0x10B98, .disallowed⟩,
  ⟨0x10B99, 0x10B9C, .valid⟩,
  ⟨0x10B9D, 0x10BA8, .disallowed⟩,
  ⟨0x10BA9, 0x10BAF, .valid⟩,
  ⟨0x10BB0, 0x10BFF, .disallowed⟩,
  ⟨0x10C00, 0x10C48, .valid⟩,
  ⟨0x10C49, 0x10C7F, .disallowed⟩,
  ⟨0x10C80, 0x10CB2, .shift 64 1⟩,
  ⟨0x10CB3, 0x10CBF, .disallowed⟩,
  ⟨0x10CC0, 0x10CF2, .valid⟩,
  ⟨0x10CF3, 0x10CF9, .disallowed⟩,
  ⟨0x10CFA, 0x10D27, .valid⟩,
  ⟨0x10D28, 0x10D2F, .disallowed⟩,
  ⟨0x10D30, 0x10D39, .valid⟩,
  ⟨0x10D3A, 0x10D3F, .disallowed⟩,
  ⟨0x10D40, 0x10D4F, .valid⟩,
  ⟨0x10D50, 0x10D65, .shift 32 1⟩,
  ⟨0x10D66, 0x10D68, .disallowed⟩,
  ⟨0x10D69, 0x10D85, .valid⟩,
  ⟨0x10D86, 0x10D8D, .disallowed⟩,
  ⟨0x10D8E, 0x10D8F, .valid⟩,
  ⟨0x10D90, 0x10E5F, .disallowed⟩,
  ⟨0x10E60, 0x10E7E, .valid⟩,
  ⟨0x10E7F, 0x10E7F, .disallowed⟩,
  ⟨0x10E80, 0x10EA9, .valid⟩,
  ⟨0x10EAA, 0x10EAA, .disallowed⟩,
  ⟨0x10EAB, 0x10EAD, .valid⟩,
  ⟨0x10EAE, 0x10EAF, .disallowed⟩,
  ⟨0x10EB0, 0x10EB1, .valid⟩,
  ⟨0x10EB2, 0x10EC1, .disallowed⟩,
  ⟨0x10EC2, 0x10EC7, .valid⟩,
  ⟨0x10EC8, 0x10ECF, .disallowed⟩,
  ⟨0x10ED0, 0x10ED8, .valid⟩,
  ⟨0x10ED9, 0x10EF9, .disallowed⟩,
  ⟨0x10EFA, 0x10F27, .valid⟩,
  ⟨0x10F28, 0x10F2F, .disallowed⟩,
  ⟨0x10F30, 0x10F59, .valid⟩,
  ⟨0x10F5A, 0x10F6F, .disallowed⟩,
  ⟨0x10F70, 0x10F89, .valid⟩,
  ⟨0x10F8A, 0x10FAF, .disallowed⟩,
  ⟨0x10FB0, 0x10FCB, .valid⟩,
  ⟨0x10FCC, 0x10FDF, .disallowed⟩,
  ⟨0x10FE0, 0x10FF6, .valid⟩,
  ⟨0x10FF7, 0x10FFF, .disallowed⟩,
  ⟨0x11000, 0x1104D, .valid⟩,
  ⟨0x1104E, 0x11051, .disallowed⟩,
  ⟨0x11052, 0x11075, .valid⟩,
  ⟨0x11076, 0x1107E, .disallowed⟩,
  ⟨0x1107F, 0x110BC, .valid⟩,
  ⟨0x110BD, 0x110BD, .disallowed⟩,
  ⟨0x110BE, 0x110C2, .valid⟩,
  ⟨0x110C3, 0x110CF, .disallowed⟩,
  ⟨0x110D0, 0x110E8, .valid⟩,
  ⟨0x110E9, 0x110EF, .disallowed⟩,
  ⟨0x110F0, 0x110F9, .valid⟩,
  ⟨0x110FA, 0x110FF, .disallowed⟩,
  ⟨0x11100, 0x11134, .valid⟩,
  ⟨0x11135, 0x11135, .disallowed⟩,
  ⟨0x11136, 0x11147, .valid⟩,
  ⟨0x11148, 0x1114F, .disallowed⟩,
  ⟨0x11150, 0x11176, .valid⟩,
  ⟨0x11177, 0x1117F, .disallowed⟩,
  ⟨0x11180, 0x111DF, .valid⟩,
  ⟨0x111E0, 0x111E0, .disallowed⟩,
  ⟨0x111E1, 0x111F4, .valid⟩,
  ⟨0x111F5, 0x111FF, .disallowed⟩,
  ⟨0x11200, 0x11211, .valid⟩,
  ⟨0x11212, 0x11212, .disallowed⟩,
  ⟨0x11213, 0x11241, .valid⟩,
  ⟨0x11242, 0x1127F, .disallowed⟩,
  ⟨0x11280, 0x11286, .valid⟩,
  ⟨0x11287, 0x11287, .disallowed⟩,
  ⟨0x11288, 0x11288, .valid⟩,
  ⟨0x11289, 0x11289, .disallowed⟩,
  ⟨0x1128A, 0x1128D, .valid⟩,
  ⟨0x1128E, 0x1128E, .disallowed⟩,
  ⟨0x1128F, 0x1129D, .valid⟩,
  ⟨0x1129E, 0x1129E, .disallowed⟩,
  ⟨0x1129F, 0x112A9, .valid⟩,
  ⟨0x112AA, 0x112AF, .disallowed⟩,
  ⟨0x112B0, 0x112EA, .valid⟩,
  ⟨0x112EB, 0x112EF, .disallowed⟩,
  ⟨0x112F0, 0x112F9, .valid⟩,
  ⟨0x112FA, 0x112FF, .disallowed⟩,
  ⟨0x11300, 0x11303, .valid⟩,
  ⟨0x11304, 0x11304, .disallowed⟩,
  ⟨0x11305, 0x1130C, .valid⟩,
  ⟨0x1130D, 0x1130E, .disallowed⟩,
  ⟨0x1130F, 0x11310, .valid⟩,
  ⟨0x11311, 0x11312, .disallowed⟩,
  ⟨0x11313, 0x11328, .valid⟩,
  ⟨0x11329, 0x11329, .disallowed⟩,
  ⟨0x1132A, 0x11330, .valid⟩,
  ⟨0x11331, 0x11331, .disallowed⟩,
  ⟨0x11332, 0x11333, .valid⟩,
  ⟨0x11334, 0x11334, .disallowed⟩,
  ⟨0x11335, 0x11339, .valid⟩,
  ⟨0x1133A, 0x1133A, .disallowed⟩,
  ⟨0x1133B, 0x11344, .valid⟩,
  ⟨0x11345, 0x11346, .disallowed⟩,
  ⟨0x11347, 0x11348, .valid⟩,
  ⟨0x11349, 0x1134A, .disallowed⟩,
  ⟨0x1134B, 0x1134D, .valid⟩,
  ⟨0x1134E, 0x1134F, .disallowed⟩,
  ⟨0x11350, 0x11350, .valid⟩,
  ⟨0x11351, 0x11356, .disallowed⟩,
  ⟨0x11357, 0x11357, .valid⟩,
  ⟨0x11358, 0x1135C, .disallowed⟩,
  ⟨0x1135D, 0x11363, .valid⟩,
  ⟨0x11364, 0x11365, .disallowed⟩,
  ⟨0x11366, 0x1136C, .valid⟩,
  ⟨0x1136D, 0x1136F, .disallowed⟩,
  ⟨0x11370, 0x11374, .valid⟩,
  ⟨0x11375, 0x1137F, .disallowed⟩,
  ⟨0x11380, 0x11389, .valid⟩,
  ⟨0x1138A, 0x1138A, .disallowed⟩,
  ⟨0x1138B, 0x1138B, .valid⟩,
  ⟨0x1138C, 0x1138D, .disallowed⟩,
  ⟨0x1138E, 0x1138E, .valid⟩,
  ⟨0x1138F, 0x1138F, .disallowed⟩,
  ⟨0x11390, 0x113B5, .valid⟩,
  ⟨0x113B6, 0x113B6, .disallowed⟩,
  ⟨0x113B7, 0x113C0, .valid⟩,
  ⟨0x113C1, 0x113C1, .disallowed⟩,
  ⟨0x113C2, 0x113C2, .valid⟩,
  ⟨0x113C3, 0x113C4, .disallowed⟩,
  ⟨0x113C5, 0x113C5, .valid⟩,
  ⟨0x113C6, 0x113C6, .disallowed⟩,
  ⟨0x113C7, 0x113CA, .valid⟩,
  ⟨0x113CB, 0x113CB, .disallowed⟩,
  ⟨0x113CC, 0x113D5, .valid⟩,
  ⟨0x113D6, 0x113D6, .disallowed⟩,
  ⟨0x113D7, 0x113D8, .valid⟩,
  ⟨0x113D9, 0x113E0, .disallowed⟩,
  ⟨0x113E1, 0x113E2, .valid⟩,
  ⟨0x113E3, 0x113FF, .disallowed⟩,
  ⟨0x11400, 0x1145B, .valid⟩,
  ⟨0x1145C, 0x1145C, .disallowed⟩,
  ⟨0x1145D, 0x11461, .valid⟩,
  ⟨0x11462, 0x1147F, .disallowed⟩,
  ⟨0x11480, 0x114C7, .valid⟩,
  ⟨0x114C8, 0x114CF, .disallowed⟩,
  ⟨0x114D0, 0x114D9, .valid⟩,
  ⟨0x114DA, 0x1157F, .disallowed⟩,
  ⟨0x11580, 0x115B5, .valid⟩,
  ⟨0x115B6, 0x115B7, .disallowed⟩,
  ⟨0x115B8, 0x115DD, .valid⟩,
  ⟨0x115DE, 0x115FF, .disallowed⟩,
  ⟨0x11600, 0x11644, .valid⟩,
  ⟨0x11645, 0x1164F, .disallowed⟩,
  ⟨0x11650, 0x11659, .valid⟩,
  ⟨0x1165A, 0x1165F, .disallowed⟩,
  ⟨0x11660, 0x1166C, .valid⟩,
  ⟨0x1166D, 0x1167F, .disallowed⟩,
  ⟨0x11680, 0x116B9, .valid⟩,
  ⟨0x116BA, 0x116BF, .disallowed⟩,
  ⟨0x116C0, 0x116C9, .valid⟩,
  ⟨0x116CA, 0x116CF, .disallowed⟩,
  ⟨0x116D0, 0x116E3, .valid⟩,
  ⟨0x116E4, 0x116FF, .disallowed⟩,
  ⟨0x11700, 0x1171A, .valid⟩,
  ⟨0x1171B, 0x1171C, .disallowed⟩,
  ⟨0x1171D, 0x1172B, .valid⟩,
  ⟨0x1172C, 0x1172F, .disallowed⟩,
  ⟨0x11730, 0x11746, .valid⟩,
  ⟨0x11747, 0x117FF, .disallowed⟩,
  ⟨0x11800, 0x1183B, .valid⟩,
  ⟨0x1183C, 0x1189F, .disallowed⟩,
  ⟨0x118A0, 0x118BF, .shift 32 1⟩,
  ⟨0x118C0, 0x118F2, .valid⟩,
  ⟨0x118F3, 0x118FE, .disallowed⟩,
  ⟨0x118FF, 0x11906, .valid⟩,
  ⟨0x11907, 0x11908, .disallowed⟩,
  ⟨0x11909, 0x11909, .valid⟩,
  ⟨0x1190A, 0x1190B, .disallowed⟩,
  ⟨0x1190C, 0x11913, .valid⟩,
  ⟨0x11914, 0x11914, .disallowed⟩,
  ⟨0x11915, 0x11916, .valid⟩,
  ⟨0x11917, 0x11917, .disallowed⟩,
  ⟨0x11918, 0x11935, .valid⟩,
  ⟨0x11936, 0x11936, .disallowed⟩,
  ⟨0x11937, 0x11938, .valid⟩,
  ⟨0x11939, 0x1193A, .disallowed⟩,
  ⟨0x1193B, 0x11946, .valid⟩,
  ⟨0x11947, 0x1194F, .disallowed⟩,
  ⟨0x11950, 0x11959, .valid⟩,
  ⟨0x1195A, 0x1199F, .disallowed⟩,
  ⟨0x119A0, 0x119A7, .valid⟩,
  ⟨0x119A8, 0x119A9, .disallowed⟩,
  ⟨0x119AA, 0x119D7, .valid⟩,
  ⟨0x119D8, 0x119D9, .disallowed⟩,
  ⟨0x119DA, 0x119E4, .valid⟩,
  ⟨0x119E5, 0x119FF, .disallowed⟩,
  ⟨0x11A00, 0x11A47, .valid⟩,
  ⟨0x11A48, 0x11A4F, .disallowed⟩,
  ⟨0x11A50, 0x11AA2, .valid⟩,
  ⟨0x11AA3, 0x11AAF, .disallowed⟩,
  ⟨0x11AB0, 0x11AF8, .valid⟩,
  ⟨0x11AF9, 0x11AFF, .disallowed⟩,
  ⟨0x11B00, 0x11B09, .valid⟩,
  ⟨0x11B0A, 0x11B5F, .disallowed⟩,
  ⟨0x11B60, 0x11B67, .valid⟩,
  ⟨0x11B68, 0x11BBF, .disallowed⟩,
  ⟨0x11BC0, 0x11BE1, .valid⟩,
  ⟨0x11BE2, 0x11BEF, .disallowed⟩,
  ⟨0x11BF0, 0x11BF9, .valid⟩,
  ⟨0x11BFA, 0x11BFF, .disallowed⟩,
  ⟨0x11C00, 0x11C08, .valid⟩,
  ⟨0x11C09, 0x11C09, .disallowed⟩,
  ⟨0x11C0A, 0x11C36, .valid⟩,
  ⟨0x11C37, 0x11C37, .disallowed⟩,
  ⟨0x11C38, 0x11C45, .valid⟩,
  ⟨0x11C46, 0x11C4F, .disallowed⟩,
  ⟨0x11C50, 0x11C6C, .valid⟩,
  ⟨0x11C6D, 0x11C6F, .disallowed⟩,
  ⟨0x11C70, 0x11C8F, .valid⟩,
  ⟨0x11C90, 0x11C91, .disallowed⟩,
  ⟨0x11C92, 0x11CA7, .valid⟩,
  ⟨0x11CA8, 0x11CA8, .disallowed⟩,
  ⟨0x11CA9, 0x11CB6, .valid⟩,
  ⟨0x11CB7, 0x11CFF, .disallowed⟩,
  ⟨0x11D00, 0x11D06, .valid⟩,
  ⟨0x11D07, 0x11D07, .disallowed⟩,
  ⟨0x11D08, 0x11D09, .valid⟩,
  ⟨0x11D0A, 0x11D0A, .disallowed⟩,
  ⟨0x11D0B, 0x11D36, .valid⟩,
  ⟨0x11D37, 0x11D39, .disallowed⟩,
  ⟨0x11D3A, 0x11D3A, .valid⟩,
  ⟨0x11D3B, 0x11D3B, .disallowed⟩,
  ⟨0x11D3C, 0x11D3D, .valid⟩,
  ⟨0x11D3E, 0x11D3E, .disallowed⟩,
  ⟨0x11D3F, 0x11D47, .valid⟩,
  ⟨0x11D48, 0x11D4F, .disallowed⟩,
  ⟨0x11D50, 0x11D59, .valid⟩,
  ⟨0x11D5A, 0x11D5F, .disallowed⟩,
  ⟨0x11D60, 0x11D65, .valid⟩,
  ⟨0x11D66, 0x11D66, .disallowed⟩,
  ⟨0x11D67, 0x11D68, .valid⟩,
  ⟨0x11D69, 0x11D69, .disallowed⟩,
  ⟨0x11D6A, 0x11D8E, .valid⟩,
  ⟨0x11D8F, 0x11D8F, .disallowed⟩,
  ⟨0x11D90, 0x11D91, .valid⟩,
  ⟨0x11D92, 0x11D92, .disallowed⟩,
  ⟨0x11D93, 0x11D98, .valid⟩,
  ⟨0x11D99, 0x11D9F, .disallowed⟩,
  ⟨0x11DA0, 0x11DA9, .valid⟩,
  ⟨0x11DAA, 0x11DAF, .disallowed⟩,
  ⟨0x11DB0, 0x11DDB, .valid⟩,
  ⟨0x11DDC, 0x11DDF, .disallowed⟩,
  ⟨0x11DE0, 0x11DE9, .valid⟩,
  ⟨0x11DEA, 0x11EDF, .disallowed⟩,
  ⟨0x11EE0, 0x11EF8, .valid⟩,
  ⟨0x11EF9, 0x11EFF, .disallowed⟩,
  ⟨0x11F00, 0x11F10, .valid⟩,
  ⟨0x11F11, 0x11F11, .disallowed⟩,
  ⟨0x11F12, 0x11F3A, .valid⟩,
  ⟨0x11F3B, 0x11F3D, .disallowed⟩,
  ⟨0x11F3E, 0x11F5A, .valid⟩,
  ⟨0x11F5B, 0x11FAF, .disallowed⟩,
  ⟨0x11FB0, 0x11FB0, .valid⟩,
  ⟨0x11FB1, 0x11FBF, .disallowed⟩,
  ⟨0x11FC0, 0x11FF1, .valid⟩,
  ⟨0x11FF2, 0x11FFE, .disallowed⟩,
  ⟨0x11FFF, 0x12399, .valid⟩,
  ⟨0x1239A, 0x123FF, .disallowed⟩,
  ⟨0x12400, 0x1246E, .valid⟩,
  ⟨0x1246F, 0x1246F, .disallowed⟩,
  ⟨0x12470, 0x12474, .valid⟩,
  ⟨0x12475, 0x1247F, .disallowed⟩,
  ⟨0x12480, 0x12543, .valid⟩,
  ⟨0x12544, 0x12F8F, .disallowed⟩,
  ⟨0x12F90, 0x12FF2, .valid⟩,
  ⟨0x12FF3, 0x12FFF, .disallowed⟩,
  ⟨0x13000, 0x1342F, .valid⟩,
  ⟨0x13430, 0x1343F, .disallowed⟩,
  ⟨0x13440, 0x13455, .valid⟩,
  ⟨0x13456, 0x1345F, .disallowed⟩,
  ⟨0x13460, 0x143FA, .valid⟩,
  ⟨0x143FB, 0x143FF, .disallowed⟩,
  ⟨0x14400, 0x14646, .valid⟩,
  ⟨0x14647, 0x160FF, .disallowed⟩,
  ⟨0x16100, 0x16139, .valid⟩,
  ⟨0x1613A, 0x167FF, .disallowed⟩,
  ⟨0x16800, 0x16A38, .valid⟩,
  ⟨0x16A39, 0x16A3F, .disallowed⟩,
  ⟨0x16A40, 0x16A5E, .valid⟩,
  ⟨0x16A5F, 0x16A5F, .disallowed⟩,
  ⟨0x16A60, 0x16A69, .valid⟩,
  ⟨0x16A6A, 0x16A6D, .disallowed⟩,
  ⟨0x16A6E, 0x16ABE, .valid⟩,
  ⟨0x16ABF, 0x16ABF, .disallowed⟩,
  ⟨0x16AC0, 0x16AC9, .valid⟩,
  ⟨0x16ACA, 0x16ACF, .disallowed⟩,
  ⟨0x16AD0, 0x16AED, .valid⟩,
  ⟨0x16AEE, 0x16AEF, .disallowed⟩,
  ⟨0x16AF0, 0x16AF5, .valid⟩,
  ⟨0x16AF6, 0x16AFF, .disallowed⟩,
  ⟨0x16B00, 0x16B45, .valid⟩,
  ⟨0x16B46, 0x16B4F, .disallowed⟩,
  ⟨0x16B50, 0x16B59, .valid⟩,
  ⟨0x16B5A, 0x16B5A, .disallowed⟩,
  ⟨0x16B5B, 0x16B61, .valid⟩,
  ⟨0x16B62, 0x16B62, .disallowed⟩,
  ⟨0x16B63, 0x16B77, .valid⟩,
  ⟨0x16B78, 0x16B7C, .disallowed⟩,
  ⟨0x16B7D, 0x16B8F, .valid⟩,
  ⟨0x16B90, 0x16D3F, .disallowed⟩,
  ⟨0x16D40, 0x16D79, .valid⟩,
  ⟨0x16D7A, 0x16E3F, .disallowed⟩,
  ⟨0x16E40, 0x16E5F, .shift 32 1⟩,
  ⟨0x16E60, 0x16E9A, .valid⟩,
  ⟨0x16E9B, 0x16E9F, .disallowed⟩,
  ⟨0x16EA0, 0x16EB8, .shift 27 1⟩,
  ⟨0x16EB9, 0x16EBA, .disallowed⟩,
  ⟨0x16EBB, 0x16ED3, .valid⟩,
  ⟨0x16ED4, 0x16EFF, .disallowed⟩,
  ⟨0x16F00, 0x16F4A, .valid⟩,
  ⟨0x16F4B, 0x16F4E, .disallowed⟩,
  ⟨0x16F4F, 0x16F87, .valid⟩,
  ⟨0x16F88, 0x16F8E, .disallowed⟩,
  ⟨0x16F8F, 0x16F9F, .valid⟩,
  ⟨0x16FA0, 0x16FDF, .disallowed⟩,
  ⟨0x16FE0, 0x16FE4, .valid⟩,
  ⟨0x16FE5, 0x16FEF, .disallowed⟩,
  ⟨0x16FF0, 0x16FF6, .valid⟩,
  ⟨0x16FF7, 0x16FFF, .disallowed⟩,
  ⟨0x17000, 0x18CD5, .valid⟩,
  ⟨0x18CD6, 0x18CFE, .disallowed⟩,
  ⟨0x18CFF, 0x18D1E, .valid⟩,
  ⟨0x18D1F, 0x18D7F, .disallowed⟩,
  ⟨0x18D80, 0x18DF2, .valid⟩,
  ⟨0x18DF3, 0x1AFEF, .disallowed⟩,
  ⟨0x1AFF0, 0x1AFF3, .valid⟩,
  ⟨0x1AFF4, 0x1AFF4, .disallowed⟩,
  ⟨0x1AFF5, 0x1AFFB, .valid⟩,
  ⟨0x1AFFC, 0x1AFFC, .disallowed⟩,
  ⟨0x1AFFD, 0x1AFFE, .valid⟩,
  ⟨0x1AFFF, 0x1AFFF, .disallowed⟩,
  ⟨0x1B000, 0x1B122, .valid⟩,
  ⟨0x1B123, 0x1B131, .disallowed⟩,
  ⟨0x1B132, 0x1B132, .valid⟩,
  ⟨0x1B133, 0x1B14F, .disallowed⟩,
  ⟨0x1B150, 0x1B152, .valid⟩,
  ⟨0x1B153, 0x1B154, .disallowed⟩,
  ⟨0x1B155, 0x1B155, .valid⟩,
  ⟨0x1B156, 0x1B163, .disallowed⟩,
  ⟨0x1B164, 0x1B167, .valid⟩,
  ⟨0x1B168, 0x1B16F, .disallowed⟩,
  ⟨0x1B170, 0x1B2FB, .valid⟩,
  ⟨0x1B2FC, 0x1BBFF, .disallowed⟩,
  ⟨0x1BC00, 0x1BC6A, .valid⟩,
  ⟨0x1BC6B, 0x1BC6F, .disallowed⟩,
  ⟨0x1BC70, 0x1BC7C, .valid⟩,
  ⟨0x1BC7D, 0x1BC7F, .disallowed⟩,
  ⟨0x1BC80, 0x1BC88, .valid⟩,
  ⟨0x1BC89, 0x1BC8F, .disallowed⟩,
  ⟨0x1BC90, 0x1BC99, .valid⟩,
  ⟨0x1BC9A, 0x1BC9B, .disallowed⟩,
  ⟨0x1BC9C, 0x1BC9F, .valid⟩,
  ⟨0x1BCA0, 0x1BCA3, .ignored⟩,
  ⟨0x1BCA4, 0x1CBFF, .disallowed⟩,
  ⟨0x1CC00, 0x1CCD5, .valid⟩,
  ⟨0x1CCD6, 0x1CCEF, .shift (-117877) 1⟩,
  ⟨0x1CCF0, 0x1CCF9, .shift (-117952) 1⟩,
  ⟨0x1CCFA, 0x1CCFC, .valid⟩,
  ⟨0x1CCFD, 0x1CCFF, .disallowed⟩,
  ⟨0x1CD00, 0x1CEB3, .valid⟩,
  ⟨0x1CEB4, 0x1CEB9, .disallowed⟩,
  ⟨0x1CEBA, 0x1CED0, .valid⟩,
  ⟨0x1CED1, 0x1CEDF, .disallowed⟩,
  ⟨0x1CEE0, 0x1CEF0, .valid⟩,
  ⟨0x1CEF1, 0x1CEFF, .disallowed⟩,
  ⟨0x1CF00, 0x1CF2D, .valid⟩,
  ⟨0x1CF2E, 0x1CF2F, .disallowed⟩,
  ⟨0x1CF30, 0x1CF46, .valid⟩,
  ⟨0x1CF47, 0x1CF4F, .disallowed⟩,
  ⟨0x1CF50, 0x1CFC3, .valid⟩,
  ⟨0x1CFC4, 0x1CFFF, .disallowed⟩
]

end Idna

end SellerSync
