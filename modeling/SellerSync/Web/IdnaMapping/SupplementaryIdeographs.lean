import SellerSync.Web.IdnaMapping.Status
/-!
Rows of the IDNA mapping table of Unicode Technical Standard 46, version 17.0, for the ideographic
planes, tags and the supplementary private use areas (U+20000 and above).
-/
namespace SellerSync

namespace Idna

def rowsSupplementaryIdeographs : Array MappingRow := #[
  ⟨0x20000, 0x2A6DF, .valid⟩,
  ⟨0x2A6E0, 0x2A6FF, .disallowed⟩,
  ⟨0x2A700, 0x2B81D, .valid⟩,
  ⟨0x2B81E, 0x2B81F, .disallowed⟩,
  ⟨0x2B820, 0x2CEAD, .valid⟩,
  ⟨0x2CEAE, 0x2CEAF, .disallowed⟩,
  ⟨0x2CEB0, 0x2EBE0, .valid⟩,
  ⟨0x2EBE1, 0x2EBEF, .disallowed⟩,
  ⟨0x2EBF0, 0x2EE5D, .valid⟩,
  ⟨0x2EE5E, 0x2F7FF, .disallowed⟩,
  ⟨0x2F800, 0x2F800, .shift (-174531) 1⟩,
  ⟨0x2F801, 0x2F801, .shift (-174537) 1⟩,
  ⟨0x2F802, 0x2F802, .shift (-174529) 1⟩,
  ⟨0x2F803, 0x2F803, .shift (-63201) 1⟩,
  ⟨0x2F804, 0x2F804, .shift (-174244) 1⟩,
  ⟨0x2F805, 0x2F805, .shift (-174167) 1⟩,
  ⟨0x2F806, 0x2F806, .shift (-174155) 1⟩,
  ⟨0x2F807, 0x2F807, .shift (-174085) 1⟩,
  ⟨0x2F808, 0x2F808, .shift (-173966) 1⟩,
  ⟨0x2F809, 0x2F809, .shift (-173936) 1⟩,
  ⟨0x2F80A, 0x2F80A, .shift (-173859) 1⟩,
  ⟨0x2F80B, 0x2F80B, .shift (-173884) 1⟩,
  ⟨0x2F80C, 0x2F80C, .shift (-181102) 1⟩,
  ⟨0x2F80D, 0x2F80D, .shift (-61907) 1⟩,
  ⟨0x2F80E, 0x2F80E, .shift (-173761) 1⟩,
  ⟨0x2F80F, 0x2F80F, .shift (-173755) 1⟩,
  ⟨0x2F810, 0x2F810, .shift (-173740) 1⟩,
  ⟨0x2F811, 0x2F811, .shift (-173722) 1⟩,
  ⟨0x2F812, 0x2F812, .shift (-62198) 1⟩,
  ⟨0x2F813, 0x2F813, .shift (-181082) 1⟩,
  ⟨0x2F814, 0x2F814, .shift (-173741) 1⟩,
  ⟨0x2F815, 0x2F815, .shift (-173704) 1⟩,
  ⟨0x2F816, 0x2F816, .shift (-62155) 1⟩,
  ⟨0x2F817, 0x2F817, .shift (-173696) 1⟩,
  ⟨0x2F818, 0x2F818, .shift (-173684) 1⟩,
  ⟨0x2F819, 0x2F819, .shift (-174413) 1⟩,
  ⟨0x2F81A, 0x2F81A, .shift (-173678) 1⟩,
  ⟨0x2F81B, 0x2F81B, .shift (-173670) 1⟩,
  ⟨0x2F81C, 0x2F81C, .shift (-26173) 1⟩,
  ⟨0x2F81D, 0x2F81D, .shift (-173608) 1⟩,
  ⟨0x2F81E, 0x2F81E, .shift (-173595) 1⟩,
  ⟨0x2F81F, 0x2F81F, .shift (-181056) 1⟩,
  ⟨0x2F820, 0x2F820, .shift (-173541) 1⟩,
  ⟨0x2F821, 0x2F821, .shift (-173531) 1⟩,
  ⟨0x2F822, 0x2F822, .shift (-173488) 1⟩,
  ⟨0x2F823, 0x2F823, .shift (-173484) 1⟩,
  ⟨0x2F824, 0x2F824, .shift (-181007) 1⟩,
  ⟨0x2F825, 0x2F825, .shift (-173406) 1⟩,
  ⟨0x2F826, 0x2F826, .shift (-173405) 1⟩,
  ⟨0x2F827, 0x2F827, .shift (-173379) 1⟩,
  ⟨0x2F828, 0x2F828, .shift (-173358) 1⟩,
  ⟨0x2F829, 0x2F82A, .shift (-173348) 1⟩,
  ⟨0x2F82B, 0x2F82B, .shift (-173332) 1⟩,
  ⟨0x2F82C, 0x2F82C, .shift (-173283) 1⟩,
  ⟨0x2F82D, 0x2F82D, .shift (-173276) 1⟩,
  ⟨0x2F82E, 0x2F82E, .shift (-173268) 1⟩,
  ⟨0x2F82F, 0x2F82F, .shift (-173244) 1⟩,
  ⟨0x2F830, 0x2F830, .shift (-173235) 1⟩,
  ⟨0x2F831, 0x2F833, .text [0x537F]⟩,
  ⟨0x2F834, 0x2F834, .shift (-60936) 1⟩,
  ⟨0x2F835, 0x2F835, .shift (-165829) 1⟩,
  ⟨0x2F836, 0x2F836, .shift (-173164) 1⟩,
  ⟨0x2F837, 0x2F837, .shift (-173144) 1⟩,
  ⟨0x2F838, 0x2F838, .shift (-60629) 1⟩,
  ⟨0x2F839, 0x2F839, .shift (-173134) 1⟩,
  ⟨0x2F83A, 0x2F83A, .shift (-173129) 1⟩,
  ⟨0x2F83B, 0x2F83B, .shift (-173109) 1⟩,
  ⟨0x2F83C, 0x2F83C, .shift (-172958) 1⟩,
  ⟨0x2F83D, 0x2F83D, .shift (-173061) 1⟩,
  ⟨0x2F83E, 0x2F83E, .shift (-173046) 1⟩,
  ⟨0x2F83F, 0x2F83F, .shift (-173015) 1⟩,
  ⟨0x2F840, 0x2F840, .shift (-172958) 1⟩,
  ⟨0x2F841, 0x2F841, .shift (-172875) 1⟩,
  ⟨0x2F842, 0x2F842, .shift (-172850) 1⟩,
  ⟨0x2F843, 0x2F843, .shift (-172784) 1⟩,
  ⟨0x2F844, 0x2F844, .shift (-172769) 1⟩,
  ⟨0x2F845, 0x2F846, .text [0x5584]⟩,
  ⟨0x2F847, 0x2F847, .shift (-172718) 1⟩,
  ⟨0x2F848, 0x2F848, .shift (-172701) 1⟩,
  ⟨0x2F849, 0x2F849, .shift (-172694) 1⟩,
  ⟨0x2F84A, 0x2F84A, .shift (-172680) 1⟩,
  ⟨0x2F84B, 0x2F84B, .shift (-172341) 1⟩,
  ⟨0x2F84C, 0x2F84C, .shift (-172614) 1⟩,
  ⟨0x2F84D, 0x2F84D, .shift (-172342) 1⟩,
  ⟨0x2F84E, 0x2F84E, .shift (-172541) 1⟩,
  ⟨0x2F84F, 0x2F84F, .shift (-172507) 1⟩,
  ⟨0x2F850, 0x2F850, .shift (-173641) 1⟩,
  ⟨0x2F851, 0x2F851, .shift (-171875) 1⟩,
  ⟨0x2F852, 0x2F852, .shift (-172164) 1⟩,
  ⟨0x2F853, 0x2F853, .shift (-172127) 1⟩,
  ⟨0x2F854, 0x2F854, .shift (-172103) 1⟩,
  ⟨0x2F855, 0x2F855, .shift (-172234) 1⟩,
  ⟨0x2F856, 0x2F856, .shift (-172068) 1⟩,
  ⟨0x2F857, 0x2F857, .shift (-172070) 1⟩,
  ⟨0x2F858, 0x2F858, .shift (-171948) 1⟩,
  ⟨0x2F859, 0x2F859, .shift (-58229) 1⟩,
  ⟨0x2F85A, 0x2F85A, .shift (-171880) 1⟩,
  ⟨0x2F85B, 0x2F85B, .shift (-171876) 1⟩,
  ⟨0x2F85C, 0x2F85C, .shift (-171862) 1⟩,
  ⟨0x2F85D, 0x2F85D, .shift (-171843) 1⟩,
  ⟨0x2F85E, 0x2F85E, .shift (-171836) 1⟩,
  ⟨0x2F85F, 0x2F85F, .shift (-171773) 1⟩,
  ⟨0x2F860, 0x2F860, .shift (-57784) 1⟩,
  ⟨0x2F861, 0x2F861, .shift (-57719) 1⟩,
  ⟨0x2F862, 0x2F862, .shift (-171638) 1⟩,
  ⟨0x2F863, 0x2F863, .shift (-171592) 1⟩,
  ⟨0x2F864, 0x2F864, .shift (-171581) 1⟩,
  ⟨0x2F865, 0x2F865, .shift (-171661) 1⟩,
  ⟨0x2F866, 0x2F866, .shift (-171520) 1⟩,
  ⟨0x2F867, 0x2F867, .shift (-180601) 1⟩,
  ⟨0x2F868, 0x2F868, .shift (-180588) 1⟩,
  ⟨0x2F869, 0x2F869, .shift (-171361) 1⟩,
  ⟨0x2F86A, 0x2F86B, .text [0x5B3E]⟩,
  ⟨0x2F86C, 0x2F86C, .shift (-56996) 1⟩,
  ⟨0x2F86D, 0x2F86D, .shift (-171178) 1⟩,
  ⟨0x2F86E, 0x2F86E, .shift (-171158) 1⟩,
  ⟨0x2F86F, 0x2F86F, .shift (-171144) 1⟩,
  ⟨0x2F870, 0x2F870, .shift (-171133) 1⟩,
  ⟨0x2F871, 0x2F871, .shift (-56665) 1⟩,
  ⟨0x2F872, 0x2F872, .shift (-171123) 1⟩,
  ⟨0x2F873, 0x2F873, .shift (-171117) 1⟩,
  ⟨0x2F874, 0x2F874, .shift (-170273) 1⟩,
  ⟨0x2F875, 0x2F875, .shift (-171091) 1⟩,
  ⟨0x2F876, 0x2F876, .shift (-180469) 1⟩,
  ⟨0x2F877, 0x2F877, .shift (-171031) 1⟩,
  ⟨0x2F878, 0x2F878, .shift (-171018) 1⟩,
  ⟨0x2F879, 0x2F879, .shift (-170937) 1⟩,
  ⟨0x2F87A, 0x2F87A, .shift (-170989) 1⟩,
  ⟨0x2F87B, 0x2F87B, .shift (-55959) 1⟩,
  ⟨0x2F87C, 0x2F87C, .shift (-170809) 1⟩,
  ⟨0x2F87D, 0x2F87D, .shift (-55959) 1⟩,
  ⟨0x2F87E, 0x2F87E, .shift (-170768) 1⟩,
  ⟨0x2F87F, 0x2F87F, .shift (-170772) 1⟩,
  ⟨0x2F880, 0x2F880, .shift (-170756) 1⟩,
  ⟨0x2F881, 0x2F882, .shift (-170656) 1⟩,
  ⟨0x2F883, 0x2F883, .shift (-180308) 1⟩,
  ⟨0x2F884, 0x2F884, .shift (-170631) 1⟩,
  ⟨0x2F885, 0x2F885, .shift (-170589) 1⟩,
  ⟨0x2F886, 0x2F886, .shift (-170569) 1⟩,
  ⟨0x2F887, 0x2F887, .shift (-170526) 1⟩,
  ⟨0x2F888, 0x2F888, .shift (-180262) 1⟩,
  ⟨0x2F889, 0x2F889, .shift (-55046) 1⟩,
  ⟨0x2F88A, 0x2F88A, .shift (-180238) 1⟩,
  ⟨0x2F88B, 0x2F88B, .shift (-170459) 1⟩,
  ⟨0x2F88C, 0x2F88C, .shift (-170457) 1⟩,
  ⟨0x2F88D, 0x2F88D, .shift (-170455) 1⟩,
  ⟨0x2F88E, 0x2F88E, .shift (-170436) 1⟩,
  ⟨0x2F88F, 0x2F88F, .shift (-21757) 1⟩,
  ⟨0x2F890, 0x2F890, .shift (-170386) 1⟩,
  ⟨0x2F891, 0x2F892, .text [0x22331]⟩,
  ⟨0x2F893, 0x2F893, .shift (-161426) 1⟩,
  ⟨0x2F894, 0x2F895, .text [0x5F22]⟩,
  ⟨0x2F896, 0x2F896, .shift (-180175) 1⟩,
  ⟨0x2F897, 0x2F897, .shift (-50655) 1⟩,
  ⟨0x2F898, 0x2F898, .shift (-38590) 1⟩,
  ⟨0x2F899, 0x2F899, .shift (-170295) 1⟩,
  ⟨0x2F89A, 0x2F89A, .shift (-170287) 1⟩,
  ⟨0x2F89B, 0x2F89B, .shift (-180152) 1⟩,
  ⟨0x2F89C, 0x2F89C, .shift (-170242) 1⟩,
  ⟨0x2F89D, 0x2F89D, .shift (-170192) 1⟩,
  ⟨0x2F89E, 0x2F89E, .shift (-170183) 1⟩,
  ⟨0x2F89F, 0x2F89F, .shift (-170150) 1⟩,
  ⟨0x2F8A0, 0x2F8A0, .shift (-170015) 1⟩,
  ⟨0x2F8A1, 0x2F8A1, .shift (-180071) 1⟩,
  ⟨0x2F8A2, 0x2F8A2, .shift (-180102) 1⟩,
  ⟨0x2F8A3, 0x2F8A3, .shift (-169999) 1⟩,
  ⟨0x2F8A4, 0x2F8A4, .shift (-53712) 1⟩,
  ⟨0x2F8A5, 0x2F8A5, .shift (-169950) 1⟩,
  ⟨0x2F8A6, 0x2F8A6, .shift (-169822) 1⟩,
  ⟨0x2F8A7, 0x2F8A7, .shift (-169819) 1⟩,
  ⟨0x2F8A8, 0x2F8A8, .shift (-169818) 1⟩,
  ⟨0x2F8A9, 0x2F8A9, .shift (-169821) 1⟩,
  ⟨0x2F8AA, 0x2F8AA, .shift (-169776) 1⟩,
  ⟨0x2F8AB, 0x2F8AB, .shift (-169757) 1⟩,
  ⟨0x2F8AC, 0x2F8AC, .shift (-169722) 1⟩,
  ⟨0x2F8AD, 0x2F8AD, .shift (-169737) 1⟩,
  ⟨0x2F8AE, 0x2F8AE, .shift (-169727) 1⟩,
  ⟨0x2F8AF, 0x2F8AF, .shift (-169681) 1⟩,
  ⟨0x2F8B0, 0x2F8B0, .shift (-169662) 1⟩,
  ⟨0x2F8B1, 0x2F8B1, .shift (-169659) 1⟩,
  ⟨0x2F8B2, 0x2F8B2, .shift (-169634) 1⟩,
  ⟨0x2F8B3, 0x2F8B3, .shift (-169624) 1⟩,
  ⟨0x2F8B4, 0x2F8B4, .shift (-169559) 1⟩,
  ⟨0x2F8B5, 0x2F8B5, .shift (-169476) 1⟩,
  ⟨0x2F8B6, 0x2F8B6, .shift (-169442) 1⟩,
  ⟨0x2F8B7, 0x2F8B7, .shift (-169319) 1⟩,
  ⟨0x2F8B8, 0x2F8B8, .shift (-52652) 1⟩,
  ⟨0x2F8B9, 0x2F8B9, .shift (-169340) 1⟩,
  ⟨0x2F8BA, 0x2F8BA, .shift (-169406) 1⟩,
  ⟨0x2F8BB, 0x2F8BB, .shift (-169299) 1⟩,
  ⟨0x2F8BC, 0x2F8BC, .shift (-169273) 1⟩,
  ⟨0x2F8BD, 0x2F8BD, .shift (-169177) 1⟩,
  ⟨0x2F8BE, 0x2F8BE, .shift (-52429) 1⟩,
  ⟨0x2F8BF, 0x2F8BF, .shift (-169117) 1⟩,
  ⟨0x2F8C0, 0x2F8C0, .shift (-169211) 1⟩,
  ⟨0x2F8C1, 0x2F8C1, .shift (-169240) 1⟩,
  ⟨0x2F8C2, 0x2F8C2, .shift (-179860) 1⟩,
  ⟨0x2F8C3, 0x2F8C3, .shift (-169050) 1⟩,
  ⟨0x2F8C4, 0x2F8C4, .shift (-169030) 1⟩,
  ⟨0x2F8C5, 0x2F8C5, .shift (-169000) 1⟩,
  ⟨0x2F8C6, 0x2F8C6, .shift (-169039) 1⟩,
  ⟨0x2F8C7, 0x2F8C7, .shift (-179803) 1⟩,
  ⟨0x2F8C8, 0x2F8C8, .shift (-168825) 1⟩,
  ⟨0x2F8C9, 0x2F8C9, .shift (-168797) 1⟩,
  ⟨0x2F8CA, 0x2F8CA, .shift (-51392) 1⟩,
  ⟨0x2F8CB, 0x2F8CB, .shift (-168680) 1⟩,
  ⟨0x2F8CC, 0x2F8CC, .shift (-168404) 1⟩,
  ⟨0x2F8CD, 0x2F8CD, .shift (-168580) 1⟩,
  ⟨0x2F8CE, 0x2F8CE, .shift (-179637) 1⟩,
  ⟨0x2F8CF, 0x2F8CF, .shift (-168510) 1⟩,
  ⟨0x2F8D0, 0x2F8D0, .shift (-179656) 1⟩,
  ⟨0x2F8D1, 0x2F8D1, .shift (-179693) 1⟩,
  ⟨0x2F8D2, 0x2F8D2, .shift (-173888) 1⟩,
  ⟨0x2F8D3, 0x2F8D3, .shift (-173886) 1⟩,
  ⟨0x2F8D4, 0x2F8D4, .shift (-168404) 1⟩,
  ⟨0x2F8D5, 0x2F8D5, .shift (-168505) 1⟩,
  ⟨0x2F8D6, 0x2F8D6, .shift (-161833) 1⟩,
  ⟨0x2F8D7, 0x2F8D7, .shift (-177406) 1⟩,
  ⟨0x2F8D8, 0x2F8D8, .shift (-168385) 1⟩,
  ⟨0x2F8D9, 0x2F8D9, .shift (-168382) 1⟩,
  ⟨0x2F8DA, 0x2F8DA, .shift (-168377) 1⟩,
  ⟨0x2F8DB, 0x2F8DB, .shift (-168317) 1⟩,
  ⟨0x2F8DC, 0x2F8DC, .shift (-168329) 1⟩,
  ⟨0x2F8DD, 0x2F8DD, .shift (-50458) 1⟩,
  ⟨0x2F8DE, 0x2F8DE, .shift (-179605) 1⟩,
  ⟨0x2F8DF, 0x2F8DF, .shift (-168165) 1⟩,
  ⟨0x2F8E0, 0x2F8E0, .shift (-168283) 1⟩,
  ⟨0x2F8E1, 0x2F8E1, .shift (-168079) 1⟩,
  ⟨0x2F8E2, 0x2F8E2, .shift (-168029) 1⟩,
  ⟨0x2F8E3, 0x2F8E3, .shift (-50294) 1⟩,
  ⟨0x2F8E4, 0x2F8E4, .shift (-168022) 1⟩,
  ⟨0x2F8E5, 0x2F8E5, .shift (-168134) 1⟩,
  ⟨0x2F8E6, 0x2F8E6, .shift (-167890) 1⟩,
  ⟨0x2F8E7, 0x2F8E7, .shift (-179530) 1⟩,
  ⟨0x2F8E8, 0x2F8E8, .shift (-167846) 1⟩,
  ⟨0x2F8E9, 0x2F8E9, .shift (-167750) 1⟩,
  ⟨0x2F8EA, 0x2F8EA, .shift (-167680) 1⟩,
  ⟨0x2F8EB, 0x2F8EB, .shift (-167491) 1⟩,
  ⟨0x2F8EC, 0x2F8EC, .shift (-49737) 1⟩,
  ⟨0x2F8ED, 0x2F8ED, .shift (-167442) 1⟩,
  ⟨0x2F8EE, 0x2F8EE, .shift (-179414) 1⟩,
  ⟨0x2F8EF, 0x2F8EF, .shift (-167374) 1⟩,
  ⟨0x2F8F0, 0x2F8F0, .shift (-49225) 1⟩,
  ⟨0x2F8F1, 0x2F8F1, .shift (-167325) 1⟩,
  ⟨0x2F8F2, 0x2F8F2, .shift (-179364) 1⟩,
  ⟨0x2F8F3, 0x2F8F3, .shift (-167297) 1⟩,
  ⟨0x2F8F4, 0x2F8F4, .shift (-167253) 1⟩,
  ⟨0x2F8F5, 0x2F8F6, .shift (-167227) 1⟩,
  ⟨0x2F8F7, 0x2F8F7, .shift (-48746) 1⟩,
  ⟨0x2F8F8, 0x2F8F8, .shift (-56301) 1⟩,
  ⟨0x2F8F9, 0x2F8F9, .shift (-48639) 1⟩,
  ⟨0x2F8FA, 0x2F8FA, .shift (-167084) 1⟩,
  ⟨0x2F8FB, 0x2F8FB, .shift (-48191) 1⟩,
  ⟨0x2F8FC, 0x2F8FC, .shift (-166973) 1⟩,
  ⟨0x2F8FD, 0x2F8FD, .shift (-166960) 1⟩,
  ⟨0x2F8FE, 0x2F8FE, .shift (-167063) 1⟩,
  ⟨0x2F8FF, 0x2F8FF, .shift (-166889) 1⟩,
  ⟨0x2F900, 0x2F900, .shift (-166850) 1⟩,
  ⟨0x2F901, 0x2F901, .shift (-166794) 1⟩,
  ⟨0x2F902, 0x2F902, .shift (-166849) 1⟩,
  ⟨0x2F903, 0x2F903, .shift (-166810) 1⟩,
  ⟨0x2F904, 0x2F904, .shift (-166796) 1⟩,
  ⟨0x2F905, 0x2F905, .shift (-166784) 1⟩,
  ⟨0x2F906, 0x2F906, .shift (-48104) 1⟩,
  ⟨0x2F907, 0x2F907, .shift (-166867) 1⟩,
  ⟨0x2F908, 0x2F908, .shift (-166617) 1⟩,
  ⟨0x2F909, 0x2F909, .shift (-166555) 1⟩,
  ⟨0x2F90A, 0x2F90A, .shift (-179159) 1⟩,
  ⟨0x2F90B, 0x2F90B, .shift (-166464) 1⟩,
  ⟨0x2F90C, 0x2F90C, .shift (-166469) 1⟩,
  ⟨0x2F90D, 0x2F90D, .shift (-47676) 1⟩,
  ⟨0x2F90E, 0x2F90E, .shift (-166677) 1⟩,
  ⟨0x2F90F, 0x2F90F, .shift (-166305) 1⟩,
  ⟨0x2F910, 0x2F910, .shift (-47538) 1⟩,
  ⟨0x2F911, 0x2F911, .shift (-47491) 1⟩,
  ⟨0x2F912, 0x2F912, .shift (-166220) 1⟩,
  ⟨0x2F913, 0x2F913, .shift (-166106) 1⟩,
  ⟨0x2F914, 0x2F914, .shift (-166134) 1⟩,
  ⟨0x2F915, 0x2F915, .shift (-166138) 1⟩,
  ⟨0x2F916, 0x2F916, .shift (-179072) 1⟩,
  ⟨0x2F917, 0x2F917, .shift (-166093) 1⟩,
  ⟨0x2F918, 0x2F918, .shift (-166043) 1⟩,
  ⟨0x2F919, 0x2F919, .shift (-166050) 1⟩,
  ⟨0x2F91A, 0x2F91A, .shift (-165997) 1⟩,
  ⟨0x2F91B, 0x2F91B, .shift (-62454) 1⟩,
  ⟨0x2F91C, 0x2F91C, .shift (-165847) 1⟩,
  ⟨0x2F91D, 0x2F91D, .shift (-46778) 1⟩,
  ⟨0x2F91E, 0x2F91E, .shift (-165762) 1⟩,
  ⟨0x2F91F, 0x2F91F, .shift (-46452) 1⟩,
  ⟨0x2F920, 0x2F920, .shift (-165624) 1⟩,
  ⟨0x2F921, 0x2F921, .shift (-165612) 1⟩,
  ⟨0x2F922, 0x2F922, .shift (-165586) 1⟩,
  ⟨0x2F923, 0x2F923, .shift (-45851) 1⟩,
  ⟨0x2F924, 0x2F924, .shift (-165540) 1⟩,
  ⟨0x2F925, 0x2F925, .shift (-165520) 1⟩,
  ⟨0x2F926, 0x2F926, .shift (-45553) 1⟩,
  ⟨0x2F927, 0x2F927, .shift (-45331) 1⟩,
  ⟨0x2F928, 0x2F928, .shift (-165294) 1⟩,
  ⟨0x2F929, 0x2F929, .shift (-165278) 1⟩,
  ⟨0x2F92A, 0x2F92A, .shift (-178814) 1⟩,
  ⟨0x2F92B, 0x2F92B, .shift (-165254) 1⟩,
  ⟨0x2F92C, 0x2F92D, .text [0x3EB8]⟩,
  ⟨0x2F92E, 0x2F92E, .shift (-165095) 1⟩,
  ⟨0x2F92F, 0x2F92F, .shift (-165075) 1⟩,
  ⟨0x2F930, 0x2F930, .shift (-165055) 1⟩,
  ⟨0x2F931, 0x2F931, .shift (-165036) 1⟩,
  ⟨0x2F932, 0x2F932, .shift (-164968) 1⟩,
  ⟨0x2F933, 0x2F933, .shift (-178712) 1⟩,
  ⟨0x2F934, 0x2F934, .shift (-164880) 1⟩,
  ⟨0x2F935, 0x2F935, .shift (-44287) 1⟩,
  ⟨0x2F936, 0x2F936, .shift (-164856) 1⟩,
  ⟨0x2F937, 0x2F937, .shift (-44197) 1⟩,
  ⟨0x2F938, 0x2F938, .shift (-164808) 1⟩,
  ⟨0x2F939, 0x2F939, .shift (-55194) 1⟩,
  ⟨0x2F93A, 0x2F93A, .shift (-164650) 1⟩,
  ⟨0x2F93B, 0x2F93B, .shift (-43418) 1⟩,
  ⟨0x2F93C, 0x2F93C, .shift (-43396) 1⟩,
  ⟨0x2F93D, 0x2F93D, .shift (-43257) 1⟩,
  ⟨0x2F93E, 0x2F93E, .shift (-178498) 1⟩,
  ⟨0x2F93F, 0x2F93F, .shift (-178487) 1⟩,
  ⟨0x2F940, 0x2F940, .shift (-164428) 1⟩,
  ⟨0x2F941, 0x2F941, .shift (-43086) 1⟩,
  ⟨0x2F942, 0x2F942, .shift (-43088) 1⟩,
  ⟨0x2F943, 0x2F943, .shift (-43050) 1⟩,
  ⟨0x2F944, 0x2F944, .shift (-43025) 1⟩,
  ⟨0x2F945, 0x2F945, .shift (-164391) 1⟩,
  ⟨0x2F946, 0x2F947, .text [0x771F]⟩,
  ⟨0x2F948, 0x2F948, .shift (-164350) 1⟩,
  ⟨0x2F949, 0x2F949, .shift (-178448) 1⟩,
  ⟨0x2F94A, 0x2F94A, .shift (-164287) 1⟩,
  ⟨0x2F94B, 0x2F94B, .shift (-178437) 1⟩,
  ⟨0x2F94C, 0x2F94C, .shift (-178358) 1⟩,
  ⟨0x2F94D, 0x2F94D, .shift (-42288) 1⟩,
  ⟨0x2F94E, 0x2F94E, .shift (-164096) 1⟩,
  ⟨0x2F94F, 0x2F94F, .shift (-164035) 1⟩,
  ⟨0x2F950, 0x2F950, .shift (-163972) 1⟩,
  ⟨0x2F951, 0x2F951, .shift (-178286) 1⟩,
  ⟨0x2F952, 0x2F952, .shift (-41772) 1⟩,
  ⟨0x2F953, 0x2F953, .shift (-163837) 1⟩,
  ⟨0x2F954, 0x2F954, .shift (-41658) 1⟩,
  ⟨0x2F955, 0x2F955, .shift (-41616) 1⟩,
  ⟨0x2F956, 0x2F956, .shift (-163783) 1⟩,
  ⟨0x2F957, 0x2F957, .shift (-163692) 1⟩,
  ⟨0x2F958, 0x2F958, .shift (-178217) 1⟩,
  ⟨0x2F959, 0x2F959, .shift (-163609) 1⟩,
  ⟨0x2F95A, 0x2F95A, .shift (-163600) 1⟩,
  ⟨0x2F95B, 0x2F95B, .shift (-163596) 1⟩,
  ⟨0x2F95C, 0x2F95C, .shift (-40928) 1⟩,
  ⟨0x2F95D, 0x2F95E, .text [0x25AA7]⟩,
  ⟨0x2F95F, 0x2F95F, .shift (-163441) 1⟩,
  ⟨0x2F960, 0x2F960, .shift (-178014) 1⟩,
  ⟨0x2F961, 0x2F961, .shift (-40374) 1⟩,
  ⟨0x2F962, 0x2F962, .shift (-163228) 1⟩,
  ⟨0x2F963, 0x2F963, .shift (-163226) 1⟩,
  ⟨0x2F964, 0x2F964, .shift (-177981) 1⟩,
  ⟨0x2F965, 0x2F965, .shift (-40165) 1⟩,
  ⟨0x2F966, 0x2F966, .shift (-162964) 1⟩,
  ⟨0x2F967, 0x2F967, .shift (-177863) 1⟩,
  ⟨0x2F968, 0x2F968, .shift (-162944) 1⟩,
  ⟨0x2F969, 0x2F969, .shift (-162950) 1⟩,
  ⟨0x2F96A, 0x2F96A, .shift (-162922) 1⟩,
  ⟨0x2F96B, 0x2F96B, .shift (-39397) 1⟩,
  ⟨0x2F96C, 0x2F96C, .shift (-162825) 1⟩,
  ⟨0x2F96D, 0x2F96D, .shift (-177772) 1⟩,
  ⟨0x2F96E, 0x2F96E, .shift (-162727) 1⟩,
  ⟨0x2F96F, 0x2F96F, .shift (-162669) 1⟩,
  ⟨0x2F970, 0x2F970, .shift (-162603) 1⟩,
  ⟨0x2F971, 0x2F971, .shift (-177725) 1⟩,
  ⟨0x2F972, 0x2F972, .shift (-38730) 1⟩,
  ⟨0x2F973, 0x2F973, .shift (-38700) 1⟩,
  ⟨0x2F974, 0x2F974, .shift (-177691) 1⟩,
  ⟨0x2F975, 0x2F975, .shift (-38556) 1⟩,
  ⟨0x2F976, 0x2F976, .shift (-162300) 1⟩,
  ⟨0x2F977, 0x2F977, .shift (-38457) 1⟩,
  ⟨0x2F978, 0x2F978, .shift (-162275) 1⟩,
  ⟨0x2F979, 0x2F979, .shift (-162175) 1⟩,
  ⟨0x2F97A, 0x2F97A, .shift (-162165) 1⟩,
  ⟨0x2F97B, 0x2F97B, .shift (-38049) 1⟩,
  ⟨0x2F97C, 0x2F97C, .shift (-37977) 1⟩,
  ⟨0x2F97D, 0x2F97D, .shift (-162077) 1⟩,
  ⟨0x2F97E, 0x2F97E, .shift (-37846) 1⟩,
  ⟨0x2F97F, 0x2F97F, .shift (-162063) 1⟩,
  ⟨0x2F980, 0x2F980, .shift (-50721) 1⟩,
  ⟨0x2F981, 0x2F981, .shift (-177580) 1⟩,
  ⟨0x2F982, 0x2F982, .shift (-162000) 1⟩,
  ⟨0x2F983, 0x2F983, .shift (-161920) 1⟩,
  ⟨0x2F984, 0x2F984, .shift (-177529) 1⟩,
  ⟨0x2F985, 0x2F985, .shift (-161863) 1⟩,
  ⟨0x2F986, 0x2F986, .shift (-171729) 1⟩,
  ⟨0x2F987, 0x2F987, .shift (-37344) 1⟩,
  ⟨0x2F988, 0x2F988, .shift (-37331) 1⟩,
  ⟨0x2F989, 0x2F989, .shift (-50678) 1⟩,
  ⟨0x2F98A, 0x2F98A, .shift (-50670) 1⟩,
  ⟨0x2F98B, 0x2F98B, .shift (-161674) 1⟩,
  ⟨0x2F98C, 0x2F98C, .shift (-161672) 1⟩,
  ⟨0x2F98D, 0x2F98D, .shift (-158191) 1⟩,
  ⟨0x2F98E, 0x2F98E, .shift (-177443) 1⟩,
  ⟨0x2F98F, 0x2F98F, .shift (-161534) 1⟩,
  ⟨0x2F990, 0x2F990, .shift (-161541) 1⟩,
  ⟨0x2F991, 0x2F991, .shift (-161524) 1⟩,
  ⟨0x2F992, 0x2F992, .shift (-173791) 1⟩,
  ⟨0x2F993, 0x2F993, .shift (-161506) 1⟩,
  ⟨0x2F994, 0x2F994, .shift (-161505) 1⟩,
  ⟨0x2F995, 0x2F995, .shift (-161496) 1⟩,
  ⟨0x2F996, 0x2F996, .shift (-161456) 1⟩,
  ⟨0x2F997, 0x2F997, .shift (-36443) 1⟩,
  ⟨0x2F998, 0x2F998, .shift (-161459) 1⟩,
  ⟨0x2F999, 0x2F999, .shift (-161404) 1⟩,
  ⟨0x2F99A, 0x2F99A, .shift (-161335) 1⟩,
  ⟨0x2F99B, 0x2F99B, .shift (-161262) 1⟩,
  ⟨0x2F99C, 0x2F99C, .shift (-161401) 1⟩,
  ⟨0x2F99D, 0x2F99D, .shift (-161248) 1⟩,
  ⟨0x2F99E, 0x2F99E, .shift (-161207) 1⟩,
  ⟨0x2F99F, 0x2F99F, .shift (-161096) 1⟩,
  ⟨0x2F9A0, 0x2F9A0, .shift (-161357) 1⟩,
  ⟨0x2F9A1, 0x2F9A1, .shift (-161239) 1⟩,
  ⟨0x2F9A2, 0x2F9A2, .shift (-161238) 1⟩,
  ⟨0x2F9A3, 0x2F9A3, .shift (-161223) 1⟩,
  ⟨0x2F9A4, 0x2F9A4, .shift (-36206) 1⟩,
  ⟨0x2F9A5, 0x2F9A5, .shift (-35898) 1⟩,
  ⟨0x2F9A6, 0x2F9A6, .shift (-36049) 1⟩,
  ⟨0x2F9A7, 0x2F9A7, .shift (-177276) 1⟩,
  ⟨0x2F9A8, 0x2F9A8, .shift (-160951) 1⟩,
  ⟨0x2F9A9, 0x2F9A9, .shift (-160950) 1⟩,
  ⟨0x2F9AA, 0x2F9AA, .shift (-160916) 1⟩,
  ⟨0x2F9AB, 0x2F9AB, .shift (-34273) 1⟩,
  ⟨0x2F9AC, 0x2F9AC, .shift (-160840) 1⟩,
  ⟨0x2F9AD, 0x2F9AD, .shift (-35457) 1⟩,
  ⟨0x2F9AE, 0x2F9AE, .shift (-177233) 1⟩,
  ⟨0x2F9AF, 0x2F9AF, .shift (-177230) 1⟩,
  ⟨0x2F9B0, 0x2F9B0, .shift (-35327) 1⟩,
  ⟨0x2F9B1, 0x2F9B1, .shift (-35039) 1⟩,
  ⟨0x2F9B2, 0x2F9B2, .shift (-177223) 1⟩,
  ⟨0x2F9B3, 0x2F9B3, .shift (-160611) 1⟩,
  ⟨0x2F9B4, 0x2F9B4, .shift (-160600) 1⟩,
  ⟨0x2F9B5, 0x2F9B5, .shift (-160590) 1⟩,
  ⟨0x2F9B6, 0x2F9B6, .shift (-160589) 1⟩,
  ⟨0x2F9B7, 0x2F9B7, .shift (-160526) 1⟩,
  ⟨0x2F9B8, 0x2F9B8, .shift (-160560) 1⟩,
  ⟨0x2F9B9, 0x2F9B9, .shift (-160427) 1⟩,
  ⟨0x2F9BA, 0x2F9BA, .shift (-160472) 1⟩,
  ⟨0x2F9BB, 0x2F9BB, .shift (-160322) 1⟩,
  ⟨0x2F9BC, 0x2F9BC, .shift (-160404) 1⟩,
  ⟨0x2F9BD, 0x2F9BD, .shift (-160338) 1⟩,
  ⟨0x2F9BE, 0x2F9BE, .shift (-160312) 1⟩,
  ⟨0x2F9BF, 0x2F9BF, .shift (-177128) 1⟩,
  ⟨0x2F9C0, 0x2F9C0, .shift (-160223) 1⟩,
  ⟨0x2F9C1, 0x2F9C1, .shift (-160192) 1⟩,
  ⟨0x2F9C2, 0x2F9C2, .shift (-177097) 1⟩,
  ⟨0x2F9C3, 0x2F9C3, .shift (-160099) 1⟩,
  ⟨0x2F9C4, 0x2F9C4, .shift (-160097) 1⟩,
  ⟨0x2F9C5, 0x2F9C5, .shift (-33630) 1⟩,
  ⟨0x2F9C6, 0x2F9C6, .shift (-159983) 1⟩,
  ⟨0x2F9C7, 0x2F9C7, .shift (-159977) 1⟩,
  ⟨0x2F9C8, 0x2F9C8, .shift (-177043) 1⟩,
  ⟨0x2F9C9, 0x2F9C9, .shift (-159951) 1⟩,
  ⟨0x2F9CA, 0x2F9CA, .shift (-181519) 1⟩,
  ⟨0x2F9CB, 0x2F9CB, .shift (-33053) 1⟩,
  ⟨0x2F9CC, 0x2F9CC, .shift (-32870) 1⟩,
  ⟨0x2F9CD, 0x2F9CD, .shift (-176911) 1⟩,
  ⟨0x2F9CE, 0x2F9CE, .shift (-176903) 1⟩,
  ⟨0x2F9CF, 0x2F9CF, .shift (-159535) 1⟩,
  ⟨0x2F9D0, 0x2F9D0, .shift (-159459) 1⟩,
  ⟨0x2F9D1, 0x2F9D1, .shift (-159303) 1⟩,
  ⟨0x2F9D2, 0x2F9D2, .shift (-159101) 1⟩,
  ⟨0x2F9D3, 0x2F9D3, .shift (-32043) 1⟩,
  ⟨0x2F9D4, 0x2F9D4, .shift (-159017) 1⟩,
  ⟨0x2F9D5, 0x2F9D5, .shift (-158996) 1⟩,
  ⟨0x2F9D6, 0x2F9D6, .shift (-158907) 1⟩,
  ⟨0x2F9D7, 0x2F9D7, .shift (-158816) 1⟩,
  ⟨0x2F9D8, 0x2F9D8, .shift (-31401) 1⟩,
  ⟨0x2F9D9, 0x2F9D9, .shift (-61909) 1⟩,
  ⟨0x2F9DA, 0x2F9DA, .shift (-158735) 1⟩,
  ⟨0x2F9DB, 0x2F9DB, .shift (-158751) 1⟩,
  ⟨0x2F9DC, 0x2F9DC, .shift (-158700) 1⟩,
  ⟨0x2F9DD, 0x2F9DD, .shift (-61695) 1⟩,
  ⟨0x2F9DE, 0x2F9DE, .shift (-158474) 1⟩,
  ⟨0x2F9DF, 0x2F9DF, .shift (-158375) 1⟩,
  ⟨0x2F9E0, 0x2F9E0, .shift (-29710) 1⟩,
  ⟨0x2F9E1, 0x2F9E1, .shift (-29684) 1⟩,
  ⟨0x2F9E2, 0x2F9E2, .shift (-158030) 1⟩,
  ⟨0x2F9E3, 0x2F9E3, .shift (-157938) 1⟩,
  ⟨0x2F9E4, 0x2F9E4, .shift (-157907) 1⟩,
  ⟨0x2F9E5, 0x2F9E5, .shift (-29367) 1⟩,
  ⟨0x2F9E6, 0x2F9E6, .shift (-157899) 1⟩,
  ⟨0x2F9E7, 0x2F9E7, .shift (-157615) 1⟩,
  ⟨0x2F9E8, 0x2F9E9, .shift (-157457) 1⟩,
  ⟨0x2F9EA, 0x2F9EA, .shift (-157550) 1⟩,
  ⟨0x2F9EB, 0x2F9EB, .shift (-157170) 1⟩,
  ⟨0x2F9EC, 0x2F9EC, .shift (-157143) 1⟩,
  ⟨0x2F9ED, 0x2F9ED, .shift (-28147) 1⟩,
  ⟨0x2F9EE, 0x2F9EE, .shift (-156771) 1⟩,
  ⟨0x2F9EF, 0x2F9EF, .shift (-176218) 1⟩,
  ⟨0x2F9F0, 0x2F9F0, .shift (-156729) 1⟩,
  ⟨0x2F9F1, 0x2F9F1, .shift (-27770) 1⟩,
  ⟨0x2F9F2, 0x2F9F2, .shift (-176140) 1⟩,
  ⟨0x2F9F3, 0x2F9F3, .shift (-156464) 1⟩,
  ⟨0x2F9F4, 0x2F9F4, .shift (-171074) 1⟩,
  ⟨0x2F9F5, 0x2F9F5, .shift (-156370) 1⟩,
  ⟨0x2F9F6, 0x2F9F6, .shift (-26801) 1⟩,
  ⟨0x2F9F7, 0x2F9F7, .shift (-26589) 1⟩,
  ⟨0x2F9F8, 0x2F9F8, .shift (-176010) 1⟩,
  ⟨0x2F9F9, 0x2F9F9, .shift (-176003) 1⟩,
  ⟨0x2F9FA, 0x2F9FA, .shift (-156186) 1⟩,
  ⟨0x2F9FB, 0x2F9FB, .shift (-26097) 1⟩,
  ⟨0x2F9FC, 0x2F9FC, .shift (-175946) 1⟩,
  ⟨0x2F9FD, 0x2F9FD, .shift (-25959) 1⟩,
  ⟨0x2F9FE, 0x2F9FF, .text [0x980B]⟩,
  ⟨0x2FA00, 0x2FA00, .shift (-156119) 1⟩,
  ⟨0x2FA01, 0x2FA01, .shift (-25675) 1⟩,
  ⟨0x2FA02, 0x2FA02, .shift (-155936) 1⟩,
  ⟨0x2FA03, 0x2FA03, .shift (-175824) 1⟩,
  ⟨0x2FA04, 0x2FA04, .shift (-155867) 1⟩,
  ⟨0x2FA05, 0x2FA05, .shift (-155742) 1⟩,
  ⟨0x2FA06, 0x2FA06, .shift (-155716) 1⟩,
  ⟨0x2FA07, 0x2FA07, .shift (-155657) 1⟩,
  ⟨0x2FA08, 0x2FA08, .shift (-175674) 1⟩,
  ⟨0x2FA09, 0x2FA09, .shift (-24281) 1⟩,
  ⟨0x2FA0A, 0x2FA0A, .shift (-155384) 1⟩,
  ⟨0x2FA0B, 0x2FA0B, .shift (-155083) 1⟩,
  ⟨0x2FA0C, 0x2FA0C, .shift (-154895) 1⟩,
  ⟨0x2FA0D, 0x2FA0D, .shift (-175423) 1⟩,
  ⟨0x2FA0E, 0x2FA0E, .shift (-175393) 1⟩,
  ⟨0x2FA0F, 0x2FA0F, .shift (-154792) 1⟩,
  ⟨0x2FA10, 0x2FA10, .shift (-22850) 1⟩,
  ⟨0x2FA11, 0x2FA11, .shift (-175385) 1⟩,
  ⟨0x2FA12, 0x2FA12, .shift (-22797) 1⟩,
  ⟨0x2FA13, 0x2FA13, .shift (-22533) 1⟩,
  ⟨0x2FA14, 0x2FA14, .shift (-22403) 1⟩,
  ⟨0x2FA15, 0x2FA15, .shift (-154458) 1⟩,
  ⟨0x2FA16, 0x2FA16, .shift (-175296) 1⟩,
  ⟨0x2FA17, 0x2FA17, .shift (-154398) 1⟩,
  ⟨0x2FA18, 0x2FA18, .shift (-154394) 1⟩,
  ⟨0x2FA19, 0x2FA19, .shift (-154388) 1⟩,
  ⟨0x2FA1A, 0x2FA1A, .shift (-154379) 1⟩,
  ⟨0x2FA1B, 0x2FA1B, .shift (-154373) 1⟩,
  ⟨0x2FA1C, 0x2FA1C, .shift (-154337) 1⟩,
  ⟨0x2FA1D, 0x2FA1D, .shift (-21533) 1⟩,
  ⟨0x2FA1E, 0x2FFFF, .disallowed⟩,
  ⟨0x30000, 0x3134A, .valid⟩,
  ⟨0x3134B, 0x3134F, .disallowed⟩,
  ⟨0x31350, 0x33479, .valid⟩,
  ⟨0x3347A, 0xE00FF, .disallowed⟩,
  ⟨0xE0100, 0xE01EF, .ignored⟩,
  ⟨0xE01F0, 0x10FFFF, .disallowed⟩
]

end Idna

end SellerSync
