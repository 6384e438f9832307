import SellerSync.Web.IdnaMapping.Status
/-!
Rows of the IDNA mapping table of Unicode Technical Standard 46, version 17.0, for the private use
area and the CJK compatibility ideographs (U+F000 to U+FAFF).
-/
namespace SellerSync

namespace Idna

def rowsCompatibilityIdeographs : Array MappingRow := #[
  ⟨0xF000, 0xF8FF, .disallowed⟩,
  ⟨0xF900, 0xF900, .shift (-27832) 1⟩,
  ⟨0xF901, 0xF901, .shift (-37389) 1⟩,
  ⟨0xF902, 0xF902, .shift (-27192) 1⟩,
  ⟨0xF903, 0xF903, .shift (-27707) 1⟩,
  ⟨0xF904, 0xF904, .shift (-35379) 1⟩,
  ⟨0xF905, 0xF905, .shift (-43731) 1⟩,
  ⟨0xF906, 0xF906, .shift (-42273) 1⟩,
  ⟨0xF907, 0xF908, .text [0x9F9C]⟩,
  ⟨0xF909, 0xF909, .shift (-40888) 1⟩,
  ⟨0xF90A, 0xF90A, .shift (-26425) 1⟩,
  ⟨0xF90B, 0xF90B, .shift (-41860) 1⟩,
  ⟨0xF90C, 0xF90C, .shift (-40900) 1⟩,
  ⟨0xF90D, 0xF90D, .shift (-38679) 1⟩,
  ⟨0xF90E, 0xF90E, .shift (-33445) 1⟩,
  ⟨0xF90F, 0xF90F, .shift (-31114) 1⟩,
  ⟨0xF910, 0xF910, .shift (-29393) 1⟩,
  ⟨0xF911, 0xF911, .shift (-29015) 1⟩,
  ⟨0xF912, 0xF912, .shift (-28698) 1⟩,
  ⟨0xF913, 0xF913, .shift (-26756) 1⟩,
  ⟨0xF914, 0xF914, .shift (-36626) 1⟩,
  ⟨0xF915, 0xF915, .shift (-35834) 1⟩,
  ⟨0xF916, 0xF916, .shift (-34877) 1⟩,
  ⟨0xF917, 0xF917, .shift (-34105) 1⟩,
  ⟨0xF918, 0xF918, .shift (-29915) 1⟩,
  ⟨0xF919, 0xF919, .shift (-26543) 1⟩,
  ⟨0xF91A, 0xF91A, .shift (-24361) 1⟩,
  ⟨0xF91B, 0xF91B, .shift (-43673) 1⟩,
  ⟨0xF91C, 0xF91C, .shift (-42407) 1⟩,
  ⟨0xF91D, 0xF91D, .shift (-36377) 1⟩,
  ⟨0xF91E, 0xF91E, .shift (-34563) 1⟩,
  ⟨0xF91F, 0xF91F, .shift (-29426) 1⟩,
  ⟨0xF920, 0xF920, .shift (-23298) 1⟩,
  ⟨0xF921, 0xF921, .shift (-39889) 1⟩,
  ⟨0xF922, 0xF922, .shift (-35127) 1⟩,
  ⟨0xF923, 0xF923, .shift (-29526) 1⟩,
  ⟨0xF924, 0xF924, .shift (-28608) 1⟩,
  ⟨0xF925, 0xF925, .shift (-38492) 1⟩,
  ⟨0xF926, 0xF926, .shift (-30542) 1⟩,
  ⟨0xF927, 0xF927, .shift (-28936) 1⟩,
  ⟨0xF928, 0xF928, .shift (-39518) 1⟩,
  ⟨0xF929, 0xF929, .shift (-37394) 1⟩,
  ⟨0xF92A, 0xF92A, .shift (-35776) 1⟩,
  ⟨0xF92B, 0xF92B, .shift (-34351) 1⟩,
  ⟨0xF92C, 0xF92C, .shift (-26718) 1⟩,
  ⟨0xF92D, 0xF92D, .shift (-43431) 1⟩,
  ⟨0xF92E, 0xF92E, .shift (-42871) 1⟩,
  ⟨0xF92F, 0xF92F, .shift (-42577) 1⟩,
  ⟨0xF930, 0xF930, .shift (-37996) 1⟩,
  ⟨0xF931, 0xF931, .shift (-36446) 1⟩,
  ⟨0xF932, 0xF932, .shift (-34594) 1⟩,
  ⟨0xF933, 0xF933, .shift (-33356) 1⟩,
  ⟨0xF934, 0xF934, .shift (-31027) 1⟩,
  ⟨0xF935, 0xF935, .shift (-29487) 1⟩,
  ⟨0xF936, 0xF936, .shift (-29402) 1⟩,
  ⟨0xF937, 0xF937, .shift (-27464) 1⟩,
  ⟨0xF938, 0xF938, .shift (-25094) 1⟩,
  ⟨0xF939, 0xF939, .shift (-24010) 1⟩,
  ⟨0xF93A, 0xF93A, .shift (-23360) 1⟩,
  ⟨0xF93B, 0xF93B, .shift (-32943) 1⟩,
  ⟨0xF93C, 0xF93C, .shift (-32701) 1⟩,
  ⟨0xF93D, 0xF93D, .shift (-31645) 1⟩,
  ⟨0xF93E, 0xF93E, .shift (-30069) 1⟩,
  ⟨0xF93F, 0xF93F, .shift (-26171) 1⟩,
  ⟨0xF940, 0xF940, .shift (-23233) 1⟩,
  ⟨0xF941, 0xF941, .shift (-28267) 1⟩,
  ⟨0xF942, 0xF942, .shift (-41059) 1⟩,
  ⟨0xF943, 0xF943, .shift (-39487) 1⟩,
  ⟨0xF944, 0xF944, .shift (-31972) 1⟩,
  ⟨0xF945, 0xF945, .shift (-30919) 1⟩,
  ⟨0xF946, 0xF946, .shift (-34532) 1⟩,
  ⟨0xF947, 0xF947, .shift (-32893) 1⟩,
  ⟨0xF948, 0xF948, .shift (-27782) 1⟩,
  ⟨0xF949, 0xF949, .shift (-25170) 1⟩,
  ⟨0xF94A, 0xF94A, .shift (-41074) 1⟩,
  ⟨0xF94B, 0xF94B, .shift (-40169) 1⟩,
  ⟨0xF94C, 0xF94C, .shift (-36665) 1⟩,
  ⟨0xF94D, 0xF94D, .shift (-35699) 1⟩,
  ⟨0xF94E, 0xF94E, .shift (-35391) 1⟩,
  ⟨0xF94F, 0xF94F, .shift (-31776) 1⟩,
  ⟨0xF950, 0xF950, .shift (-31513) 1⟩,
  ⟨0xF951, 0xF951, .shift (-25350) 1⟩,
  ⟨0xF952, 0xF952, .shift (-42624) 1⟩,
  ⟨0xF953, 0xF953, .shift (-30920) 1⟩,
  ⟨0xF954, 0xF954, .shift (-42872) 1⟩,
  ⟨0xF955, 0xF955, .shift (-42889) 1⟩,
  ⟨0xF956, 0xF956, .shift (-32570) 1⟩,
  ⟨0xF957, 0xF957, .shift (-31641) 1⟩,
  ⟨0xF958, 0xF958, .shift (-30055) 1⟩,
  ⟨0xF959, 0xF959, .shift (-25316) 1⟩,
  ⟨0xF95A, 0xF95A, .shift (-28122) 1⟩,
  ⟨0xF95B, 0xF95B, .shift (-38540) 1⟩,
  ⟨0xF95C, 0xF95C, .shift (-36698) 1⟩,
  ⟨0xF95D, 0xF95D, .shift (-28255) 1⟩,
  ⟨0xF95E, 0xF95E, .shift (-43813) 1⟩,
  ⟨0xF95F, 0xF95F, .shift (-40312) 1⟩,
  ⟨0xF960, 0xF960, .shift (-39246) 1⟩,
  ⟨0xF961, 0xF961, .shift (-34266) 1⟩,
  ⟨0xF962, 0xF962, .shift (-33778) 1⟩,
  ⟨0xF963, 0xF963, .shift (-42572) 1⟩,
  ⟨0xF964, 0xF964, .shift (-32873) 1⟩,
  ⟨0xF965, 0xF965, .shift (-43430) 1⟩,
  ⟨0xF966, 0xF966, .shift (-39357) 1⟩,
  ⟨0xF967, 0xF967, .shift (-43866) 1⟩,
  ⟨0xF968, 0xF968, .shift (-35996) 1⟩,
  ⟨0xF969, 0xF969, .shift (-37873) 1⟩,
  ⟨0xF96A, 0xF96A, .shift (-31816) 1⟩,
  ⟨0xF96B, 0xF96B, .shift (-42408) 1⟩,
  ⟨0xF96C, 0xF96C, .shift (-41230) 1⟩,
  ⟨0xF96D, 0xF96D, .shift (-33388) 1⟩,
  ⟨0xF96E, 0xF96E, .shift (-29989) 1⟩,
  ⟨0xF96F, 0xF96F, .shift (-28357) 1⟩,
  ⟨0xF970, 0xF970, .shift (-36278) 1⟩,
  ⟨0xF971, 0xF971, .shift (-27073) 1⟩,
  ⟨0xF972, 0xF972, .shift (-36074) 1⟩,
  ⟨0xF973, 0xF973, .shift (-38517) 1⟩,
  ⟨0xF974, 0xF974, .shift (-30351) 1⟩,
  ⟨0xF975, 0xF975, .shift (-38357) 1⟩,
  ⟨0xF976, 0xF976, .shift (-33809) 1⟩,
  ⟨0xF977, 0xF977, .shift (-43721) 1⟩,
  ⟨0xF978, 0xF978, .shift (-43023) 1⟩,
  ⟨0xF979, 0xF979, .shift (-42928) 1⟩,
  ⟨0xF97A, 0xF97A, .shift (-37113) 1⟩,
  ⟨0xF97B, 0xF97B, .shift (-31892) 1⟩,
  ⟨0xF97C, 0xF97C, .shift (-30477) 1⟩,
  ⟨0xF97D, 0xF97D, .shift (-28331) 1⟩,
  ⟨0xF97E, 0xF97E, .shift (-26543) 1⟩,
  ⟨0xF97F, 0xF97F, .shift (-42634) 1⟩,
  ⟨0xF980, 0xF980, .shift (-42302) 1⟩,
  ⟨0xF981, 0xF981, .shift (-40974) 1⟩,
  ⟨0xF982, 0xF982, .shift (-39574) 1⟩,
  ⟨0xF983, 0xF983, .shift (-37822) 1⟩,
  ⟨0xF984, 0xF984, .shift (-35206) 1⟩,
  ⟨0xF985, 0xF985, .shift (-32859) 1⟩,
  ⟨0xF986, 0xF986, .shift (-25561) 1⟩,
  ⟨0xF987, 0xF987, .shift (-24349) 1⟩,
  ⟨0xF988, 0xF988, .shift (-23281) 1⟩,
  ⟨0xF989, 0xF989, .shift (-23227) 1⟩,
  ⟨0xF98A, 0xF98A, .shift (-42735) 1⟩,
  ⟨0xF98B, 0xF98B, .shift (-37573) 1⟩,
  ⟨0xF98C, 0xF98C, .shift (-36373) 1⟩,
  ⟨0xF98D, 0xF98D, .shift (-27179) 1⟩,
  ⟨0xF98E, 0xF98E, .shift (-39706) 1⟩,
  ⟨0xF98F, 0xF98F, .shift (-38911) 1⟩,
  ⟨0xF990, 0xF990, .shift (-38800) 1⟩,
  ⟨0xF991, 0xF991, .shift (-38135) 1⟩,
  ⟨0xF992, 0xF992, .shift (-35439) 1⟩,
  ⟨0xF993, 0xF993, .shift (-34890) 1⟩,
  ⟨0xF994, 0xF994, .shift (-34059) 1⟩,
  ⟨0xF995, 0xF995, .shift (-32715) 1⟩,
  ⟨0xF996, 0xF996, .shift (-31650) 1⟩,
  ⟨0xF997, 0xF997, .shift (-31016) 1⟩,
  ⟨0xF998, 0xF998, .shift (-27250) 1⟩,
  ⟨0xF999, 0xF999, .shift (-29867) 1⟩,
  ⟨0xF99A, 0xF99A, .shift (-26999) 1⟩,
  ⟨0xF99B, 0xF99B, .shift (-26193) 1⟩,
  ⟨0xF99C, 0xF99C, .shift (-42885) 1⟩,
  ⟨0xF99D, 0xF99D, .shift (-42746) 1⟩,
  ⟨0xF99E, 0xF99E, .shift (-42209) 1⟩,
  ⟨0xF99F, 0xF99F, .shift (-35031) 1⟩,
  ⟨0xF9A0, 0xF9A0, .shift (-28894) 1⟩,
  ⟨0xF9A1, 0xF9A1, .shift (-28407) 1⟩,
  ⟨0xF9A2, 0xF9A2, .shift (-39641) 1⟩,
  ⟨0xF9A3, 0xF9A3, .shift (-39342) 1⟩,
  ⟨0xF9A4, 0xF9A4, .shift (-38441) 1⟩,
  ⟨0xF9A5, 0xF9A5, .shift (-36343) 1⟩,
  ⟨0xF9A6, 0xF9A6, .shift (-32104) 1⟩,
  ⟨0xF9A7, 0xF9A7, .shift (-34354) 1⟩,
  ⟨0xF9A8, 0xF9A8, .shift (-43716) 1⟩,
  ⟨0xF9A9, 0xF9A9, .shift (-41648) 1⟩,
  ⟨0xF9AA, 0xF9AA, .shift (-40387) 1⟩,
  ⟨0xF9AB, 0xF9AB, .shift (-39921) 1⟩,
  ⟨0xF9AC, 0xF9AC, .shift (-39312) 1⟩,
  ⟨0xF9AD, 0xF9AD, .shift (-34299) 1⟩,
  ⟨0xF9AE, 0xF9AE, .shift (-34117) 1⟩,
  ⟨0xF9AF, 0xF9AF, .shift (-31253) 1⟩,
  ⟨0xF9B0, 0xF9B0, .shift (-31082) 1⟩,
  ⟨0xF9B1, 0xF9B1, .shift (-26493) 1⟩,
  ⟨0xF9B2, 0xF9B2, .shift (-25276) 1⟩,
  ⟨0xF9B3, 0xF9B3, .shift (-25195) 1⟩,
  ⟨0xF9B4, 0xF9B4, .shift (-24988) 1⟩,
  ⟨0xF9B5, 0xF9B5, .shift (-43562) 1⟩,
  ⟨0xF9B6, 0xF9B6, .shift (-32776) 1⟩,
  ⟨0xF9B7, 0xF9B7, .shift (-26627) 1⟩,
  ⟨0xF9B8, 0xF9B8, .shift (-25344) 1⟩,
  ⟨0xF9B9, 0xF9B9, .shift (-39128) 1⟩,
  ⟨0xF9BA, 0xF9BA, .shift (-43828) 1⟩,
  ⟨0xF9BB, 0xF9BB, .shift (-43233) 1⟩,
  ⟨0xF9BC, 0xF9BC, .shift (-40398) 1⟩,
  ⟨0xF9BD, 0xF9BD, .shift (-40318) 1⟩,
  ⟨0xF9BE, 0xF9BE, .shift (-37925) 1⟩,
  ⟨0xF9BF, 0xF9BF, .shift (-36797) 1⟩,
  ⟨0xF9C0, 0xF9C0, .shift (-34802) 1⟩,
  ⟨0xF9C1, 0xF9C1, .shift (-33663) 1⟩,
  ⟨0xF9C2, 0xF9C2, .shift (-29894) 1⟩,
  ⟨0xF9C3, 0xF9C3, .shift (-26951) 1⟩,
  ⟨0xF9C4, 0xF9C4, .shift (-23095) 1⟩,
  ⟨0xF9C5, 0xF9C5, .shift (-37693) 1⟩,
  ⟨0xF9C6, 0xF9C6, .shift (-25496) 1⟩,
  ⟨0xF9C7, 0xF9C7, .shift (-42814) 1⟩,
  ⟨0xF9C8, 0xF9C8, .shift (-37453) 1⟩,
  ⟨0xF9C9, 0xF9C9, .shift (-37334) 1⟩,
  ⟨0xF9CA, 0xF9CA, .shift (-35977) 1⟩,
  ⟨0xF9CB, 0xF9CB, .shift (-35631) 1⟩,
  ⟨0xF9CC, 0xF9CC, .shift (-34243) 1⟩,
  ⟨0xF9CD, 0xF9CD, .shift (-33908) 1⟩,
  ⟨0xF9CE, 0xF9CE, .shift (-33123) 1⟩,
  ⟨0xF9CF, 0xF9CF, .shift (-31935) 1⟩,
  ⟨0xF9D0, 0xF9D0, .shift (-24946) 1⟩,
  ⟨0xF9D1, 0xF9D1, .shift (-43108) 1⟩,
  ⟨0xF9D2, 0xF9D2, .shift (-38820) 1⟩,
  ⟨0xF9D3, 0xF9D3, .shift (-25435) 1⟩,
  ⟨0xF9D4, 0xF9D4, .shift (-43433) 1⟩,
  ⟨0xF9D5, 0xF9D5, .shift (-40124) 1⟩,
  ⟨0xF9D6, 0xF9D6, .shift (-35820) 1⟩,
  ⟨0xF9D7, 0xF9D7, .shift (-27309) 1⟩,
  ⟨0xF9D8, 0xF9D8, .shift (-39501) 1⟩,
  ⟨0xF9D9, 0xF9D9, .shift (-39061) 1⟩,
  ⟨0xF9DA, 0xF9DA, .shift (-37315) 1⟩,
  ⟨0xF9DB, 0xF9DB, .shift (-34388) 1⟩,
  ⟨0xF9DC, 0xF9DC, .shift (-25430) 1⟩,
  ⟨0xF9DD, 0xF9DD, .shift (-42932) 1⟩,
  ⟨0xF9DE, 0xF9DE, .shift (-42447) 1⟩,
  ⟨0xF9DF, 0xF9DF, .shift (-40314) 1⟩,
  ⟨0xF9E0, 0xF9E0, .shift (-37837) 1⟩,
  ⟨0xF9E1, 0xF9E1, .shift (-37523) 1⟩,
  ⟨0xF9E2, 0xF9E2, .shift (-37178) 1⟩,
  ⟨0xF9E3, 0xF9E3, .shift (-36094) 1⟩,
  ⟨0xF9E4, 0xF9E4, .shift (-34270) 1⟩,
  ⟨0xF9E5, 0xF9E5, .shift (-33795) 1⟩,
  ⟨0xF9E6, 0xF9E6, .shift (-31341) 1⟩,
  ⟨0xF9E7, 0xF9E7, .shift (-28952) 1⟩,
  ⟨0xF9E8, 0xF9E8, .shift (-28935) 1⟩,
  ⟨0xF9E9, 0xF9E9, .shift (-26653) 1⟩,
  ⟨0xF9EA, 0xF9EA, .shift (-25352) 1⟩,
  ⟨0xF9EB, 0xF9EB, .shift (-42668) 1⟩,
  ⟨0xF9EC, 0xF9EC, .shift (-35634) 1⟩,
  ⟨0xF9ED, 0xF9ED, .shift (-42448) 1⟩,
  ⟨0xF9EE, 0xF9EE, .shift (-34846) 1⟩,
  ⟨0xF9EF, 0xF9EF, .shift (-34135) 1⟩,
  ⟨0xF9F0, 0xF9F0, .shift (-29686) 1⟩,
  ⟨0xF9F1, 0xF9F1, .shift (-25422) 1⟩,
  ⟨0xF9F2, 0xF9F2, .shift (-23963) 1⟩,
  ⟨0xF9F3, 0xF9F3, .shift (-23380) 1⟩,
  ⟨0xF9F4, 0xF9F4, .shift (-37469) 1⟩,
  ⟨0xF9F5, 0xF9F5, .shift (-35882) 1⟩,
  ⟨0xF9F6, 0xF9F6, .shift (-30734) 1⟩,
  ⟨0xF9F7, 0xF9F7, .shift (-32556) 1⟩,
  ⟨0xF9F8, 0xF9F8, .shift (-32472) 1⟩,
  ⟨0xF9F9, 0xF9F9, .shift (-32103) 1⟩,
  ⟨0xF9FA, 0xF9FA, .shift (-34618) 1⟩,
  ⟨0xF9FB, 0xF9FB, .shift (-35170) 1⟩,
  ⟨0xF9FC, 0xF9FC, .shift (-28324) 1⟩,
  ⟨0xF9FD, 0xF9FD, .shift (-43837) 1⟩,
  ⟨0xF9FE, 0xF9FE, .shift (-30408) 1⟩,
  ⟨0xF9FF, 0xF9FF, .shift (-42949) 1⟩,
  ⟨0xFA00, 0xFA00, .shift (-43001) 1⟩,
  ⟨0xFA01, 0xFA01, .shift (-39771) 1⟩,
  ⟨0xFA02, 0xFA02, .shift (-38703) 1⟩,
  ⟨0xFA03, 0xFA03, .shift (-32045) 1⟩,
  ⟨0xFA04, 0xFA04, .shift (-40575) 1⟩,
  ⟨0xFA05, 0xFA05, .shift (-36071) 1⟩,
  ⟨0xFA06, 0xFA06, .shift (-37714) 1⟩,
  ⟨0xFA07, 0xFA07, .shift (-27340) 1⟩,
  ⟨0xFA08, 0xFA08, .shift (-29116) 1⟩,
  ⟨0xFA09, 0xFA09, .shift (-25532) 1⟩,
  ⟨0xFA0A, 0xFA0A, .shift (-28799) 1⟩,
  ⟨0xFA0B, 0xFA0B, .shift (-39736) 1⟩,
  ⟨0xFA0C, 0xFA0C, .shift (-43212) 1⟩,
  ⟨0xFA0D, 0xFA0D, .shift (-42061) 1⟩,
  ⟨0xFA0E, 0xFA0F, .valid⟩,
  ⟨0xFA10, 0xFA10, .shift (-41398) 1⟩,
  ⟨0xFA11, 0xFA11, .valid⟩,
  ⟨0xFA12, 0xFA12, .shift (-37790) 1⟩,
  ⟨0xFA13, 0xFA14, .valid⟩,
  ⟨0xFA15, 0xFA15, .shift (-43063) 1⟩,
  ⟨0xFA16, 0xFA16, .shift (-34540) 1⟩,
  ⟨0xFA17, 0xFA17, .shift (-33613) 1⟩,
  ⟨0xFA18, 0xFA18, .shift (-32988) 1⟩,
  ⟨0xFA19, 0xFA19, .shift (-32955) 1⟩,
  ⟨0xFA1A, 0xFA1A, .shift (-32949) 1⟩,
  ⟨0xFA1B, 0xFA1B, .shift (-32908) 1⟩,
  ⟨0xFA1C, 0xFA1C, .shift (-25286) 1⟩,
  ⟨0xFA1D, 0xFA1D, .shift (-32095) 1⟩,
  ⟨0xFA1E, 0xFA1E, .shift (-31329) 1⟩,
  ⟨0xFA1F, 0xFA1F, .valid⟩,
  ⟨0xFA20, 0xFA20, .shift (-29710) 1⟩,
  ⟨0xFA21, 0xFA21, .valid⟩,
  ⟨0xFA22, 0xFA22, .shift (-28458) 1⟩,
  ⟨0xFA23, 0xFA24, .valid⟩,
  ⟨0xFA25, 0xFA25, .shift (-27117) 1⟩,
  ⟨0xFA26, 0xFA26, .shift (-26921) 1⟩,
  ⟨0xFA27, 0xFA29, .valid⟩,
  ⟨0xFA2A, 0xFA2A, .shift (-24891) 1⟩,
  ⟨0xFA2B, 0xFA2B, .shift (-24879) 1⟩,
  ⟨0xFA2C, 0xFA2C, .shift (-24836) 1⟩,
  ⟨0xFA2D, 0xFA2D, .shift (-23673) 1⟩,
  ⟨0xFA2E, 0xFA2E, .shift (-26960) 1⟩,
  ⟨0xFA2F, 0xFA2F, .shift (-25464) 1⟩,
  ⟨0xFA30, 0xFA30, .shift (-43650) 1⟩,
  ⟨0xFA31, 0xFA31, .shift (-43338) 1⟩,
  ⟨0xFA32, 0xFA32, .shift (-43237) 1⟩,
  ⟨0xFA33, 0xFA33, .shift (-42858) 1⟩,
  ⟨0xFA34, 0xFA34, .shift (-42832) 1⟩,
  ⟨0xFA35, 0xFA35, .shift (-42724) 1⟩,
  ⟨0xFA36, 0xFA36, .shift (-42137) 1⟩,
  ⟨0xFA37, 0xFA37, .shift (-42033) 1⟩,
  ⟨0xFA38, 0xFA38, .shift (-41936) 1⟩,
  ⟨0xFA39, 0xFA39, .shift (-41465) 1⟩,
  ⟨0xFA3A, 0xFA3A, .shift (-41362) 1⟩,
  ⟨0xFA3B, 0xFA3B, .shift (-40407) 1⟩,
  ⟨0xFA3C, 0xFA3C, .shift (-40398) 1⟩,
  ⟨0xFA3D, 0xFA3D, .shift (-39337) 1⟩,
  ⟨0xFA3E, 0xFA3E, .shift (-39126) 1⟩,
  ⟨0xFA3F, 0xFA3F, .shift (-39089) 1⟩,
  ⟨0xFA40, 0xFA40, .shift (-38990) 1⟩,
  ⟨0xFA41, 0xFA41, .shift (-38130) 1⟩,
  ⟨0xFA42, 0xFA42, .shift (-37984) 1⟩,
  ⟨0xFA43, 0xFA43, .shift (-37810) 1⟩,
  ⟨0xFA44, 0xFA44, .shift (-37311) 1⟩,
  ⟨0xFA45, 0xFA45, .shift (-36046) 1⟩,
  ⟨0xFA46, 0xFA46, .shift (-35884) 1⟩,
  ⟨0xFA47, 0xFA47, .shift (-35621) 1⟩,
  ⟨0xFA48, 0xFA48, .shift (-35034) 1⟩,
  ⟨0xFA49, 0xFA49, .shift (-34846) 1⟩,
  ⟨0xFA4A, 0xFA4A, .shift (-34344) 1⟩,
  ⟨0xFA4B, 0xFA4B, .shift (-33210) 1⟩,
  ⟨0xFA4C, 0xFA4C, .shift (-33038) 1⟩,
  ⟨0xFA4D, 0xFA4D, .shift (-33028) 1⟩,
  ⟨0xFA4E, 0xFA4E, .shift (-33030) 1⟩,
  ⟨0xFA4F, 0xFA4F, .shift (-33023) 1⟩,
  ⟨0xFA50, 0xFA50, .shift (-33018) 1⟩,
  ⟨0xFA51, 0xFA51, .shift (-33012) 1⟩,
  ⟨0xFA52, 0xFA53, .shift (-32965) 1⟩,
  ⟨0xFA54, 0xFA54, .shift (-32788) 1⟩,
  ⟨0xFA55, 0xFA55, .shift (-32724) 1⟩,
  ⟨0xFA56, 0xFA56, .shift (-32406) 1⟩,
  ⟨0xFA57, 0xFA57, .shift (-31843) 1⟩,
  ⟨0xFA58, 0xFA58, .shift (-31823) 1⟩,
  ⟨0xFA59, 0xFA59, .shift (-31768) 1⟩,
  ⟨0xFA5A, 0xFA5A, .shift (-31464) 1⟩,
  ⟨0xFA5B, 0xFA5B, .shift (-31318) 1⟩,
  ⟨0xFA5C, 0xFA5C, .shift (-30831) 1⟩,
  ⟨0xFA5D, 0xFA5E, .text [0x8279]⟩,
  ⟨0xFA5F, 0xFA5F, .shift (-30216) 1⟩,
  ⟨0xFA60, 0xFA60, .shift (-29008) 1⟩,
  ⟨0xFA61, 0xFA61, .shift (-28875) 1⟩,
  ⟨0xFA62, 0xFA62, .shift (-28513) 1⟩,
  ⟨0xFA63, 0xFA63, .shift (-28458) 1⟩,
  ⟨0xFA64, 0xFA64, .shift (-28049) 1⟩,
  ⟨0xFA65, 0xFA65, .shift (-27997) 1⟩,
  ⟨0xFA66, 0xFA66, .shift (-27312) 1⟩,
  ⟨0xFA67, 0xFA67, .shift (-27183) 1⟩,
  ⟨0xFA68, 0xFA68, .shift (-25477) 1⟩,
  ⟨0xFA69, 0xFA69, .shift (-25194) 1⟩,
  ⟨0xFA6A, 0xFA6A, .shift (-25135) 1⟩,
  ⟨0xFA6B, 0xFA6B, .shift (-39414) 1⟩,
  ⟨0xFA6C, 0xFA6C, .shift 84098 1⟩,
  ⟨0xFA6D, 0xFA6D, .shift (-30805) 1⟩,
  ⟨0xFA6E, 0xFA6F, .disallowed⟩,
  ⟨0xFA70, 0xFA70, .shift (-44106) 1⟩,
  ⟨0xFA71, 0xFA71, .shift (-43196) 1⟩,
  ⟨0xFA72, 0xFA72, .shift (-43274) 1⟩,
  ⟨0xFA73, 0xFA73, .shift (-43763) 1⟩,
  ⟨0xFA74, 0xFA74, .shift (-43311) 1⟩,
  ⟨0xFA75, 0xFA75, .shift (-43253) 1⟩,
  ⟨0xFA76, 0xFA76, .shift (-42927) 1⟩,
  ⟨0xFA77, 0xFA77, .shift (-42877) 1⟩,
  ⟨0xFA78, 0xFA78, .shift (-42203) 1⟩,
  ⟨0xFA79, 0xFA79, .shift (-42276) 1⟩,
  ⟨0xFA7A, 0xFA7A, .shift (-42209) 1⟩,
  ⟨0xFA7B, 0xFA7B, .shift (-42137) 1⟩,
  ⟨0xFA7C, 0xFA7C, .shift (-41506) 1⟩,
  ⟨0xFA7D, 0xFA7D, .shift (-41418) 1⟩,
  ⟨0xFA7E, 0xFA7E, .shift (-41274) 1⟩,
  ⟨0xFA7F, 0xFA7F, .shift (-41259) 1⟩,
  ⟨0xFA80, 0xFA80, .shift (-40990) 1⟩,
  ⟨0xFA81, 0xFA81, .shift (-40793) 1⟩,
  ⟨0xFA82, 0xFA82, .shift (-39856) 1⟩,
  ⟨0xFA83, 0xFA83, .shift (-39850) 1⟩,
  ⟨0xFA84, 0xFA84, .shift (-39707) 1⟩,
  ⟨0xFA85, 0xFA85, .shift (-39640) 1⟩,
  ⟨0xFA86, 0xFA86, .shift (-39342) 1⟩,
  ⟨0xFA87, 0xFA87, .shift (-39225) 1⟩,
  ⟨0xFA88, 0xFA88, .shift (-39296) 1⟩,
  ⟨0xFA89, 0xFA89, .shift (-39163) 1⟩,
  ⟨0xFA8A, 0xFA8A, .shift (-39210) 1⟩,
  ⟨0xFA8B, 0xFA8B, .shift (-39065) 1⟩,
  ⟨0xFA8C, 0xFA8C, .shift (-39000) 1⟩,
  ⟨0xFA8D, 0xFA8D, .shift (-38601) 1⟩,
  ⟨0xFA8E, 0xFA8E, .shift (-38514) 1⟩,
  ⟨0xFA8F, 0xFA8F, .shift (-38461) 1⟩,
  ⟨0xFA90, 0xFA90, .shift (-38202) 1⟩,
  ⟨0xFA91, 0xFA91, .shift (-37917) 1⟩,
  ⟨0xFA92, 0xFA92, .shift (-37755) 1⟩,
  ⟨0xFA93, 0xFA93, .shift (-37752) 1⟩,
  ⟨0xFA94, 0xFA94, .shift (-37694) 1⟩,
  ⟨0xFA95, 0xFA95, .shift (-36636) 1⟩,
  ⟨0xFA96, 0xFA96, .shift (-36572) 1⟩,
  ⟨0xFA97, 0xFA97, .shift (-36182) 1⟩,
  ⟨0xFA98, 0xFA98, .shift (-35773) 1⟩,
  ⟨0xFA99, 0xFA99, .shift (-35790) 1⟩,
  ⟨0xFA9A, 0xFA9A, .shift (-35704) 1⟩,
  ⟨0xFA9B, 0xFA9B, .shift (-35453) 1⟩,
  ⟨0xFA9C, 0xFA9C, .shift (-35118) 1⟩,
  ⟨0xFA9D, 0xFA9D, .shift (-33526) 1⟩,
  ⟨0xFA9E, 0xFA9E, .shift (-34921) 1⟩,
  ⟨0xFA9F, 0xFA9F, .shift (-34800) 1⟩,
  ⟨0xFAA0, 0xFAA0, .shift (-34678) 1⟩,
  ⟨0xFAA1, 0xFAA1, .shift (-34352) 1⟩,
  ⟨0xFAA2, 0xFAA2, .shift (-34204) 1⟩,
  ⟨0xFAA3, 0xFAA3, .shift (-34152) 1⟩,
  ⟨0xFAA4, 0xFAA4, .shift (-33927) 1⟩,
  ⟨0xFAA5, 0xFAA5, .shift (-33926) 1⟩,
  ⟨0xFAA6, 0xFAA6, .shift (-33756) 1⟩,
  ⟨0xFAA7, 0xFAA7, .shift (-33740) 1⟩,
  ⟨0xFAA8, 0xFAA8, .shift (-33716) 1⟩,
  ⟨0xFAA9, 0xFAA9, .shift (-33631) 1⟩,
  ⟨0xFAAA, 0xFAAA, .shift (-33642) 1⟩,
  ⟨0xFAAB, 0xFAAB, .shift (-33247) 1⟩,
  ⟨0xFAAC, 0xFAAC, .shift (-32763) 1⟩,
  ⟨0xFAAD, 0xFAAD, .shift (-32493) 1⟩,
  ⟨0xFAAE, 0xFAAE, .shift (-32307) 1⟩,
  ⟨0xFAAF, 0xFAAF, .shift (-32084) 1⟩,
  ⟨0xFAB0, 0xFAB0, .shift (-31932) 1⟩,
  ⟨0xFAB1, 0xFAB1, .shift (-31603) 1⟩,
  ⟨0xFAB2, 0xFAB2, .shift (-31405) 1⟩,
  ⟨0xFAB3, 0xFAB3, .shift (-30561) 1⟩,
  ⟨0xFAB4, 0xFAB4, .shift (-30405) 1⟩,
  ⟨0xFAB5, 0xFAB5, .shift (-29500) 1⟩,
  ⟨0xFAB6, 0xFAB6, .shift (-29045) 1⟩,
  ⟨0xFAB7, 0xFAB7, .shift (-28977) 1⟩,
  ⟨0xFAB8, 0xFAB8, .shift (-28962) 1⟩,
  ⟨0xFAB9, 0xFAB9, .shift (-28666) 1⟩,
  ⟨0xFABA, 0xFABA, .shift (-28610) 1⟩,
  ⟨0xFABB, 0xFABB, .shift (-28656) 1⟩,
  ⟨0xFABC, 0xFABC, .shift (-28603) 1⟩,
  ⟨0xFABD, 0xFABD, .shift (-28607) 1⟩,
  ⟨0xFABE, 0xFABE, .shift (-28625) 1⟩,
  ⟨0xFABF, 0xFABF, .shift (-28550) 1⟩,
  ⟨0xFAC0, 0xFAC0, .shift (-28470) 1⟩,
  ⟨0xFAC1, 0xFAC1, .shift (-28089) 1⟩,
  ⟨0xFAC2, 0xFAC2, .shift (-27530) 1⟩,
  ⟨0xFAC3, 0xFAC3, .shift (-27217) 1⟩,
  ⟨0xFAC4, 0xFAC4, .shift (-26923) 1⟩,
  ⟨0xFAC5, 0xFAC5, .shift (-26703) 1⟩,
  ⟨0xFAC6, 0xFAC6, .shift (-25674) 1⟩,
  ⟨0xFAC7, 0xFAC7, .shift (-25572) 1⟩,
  ⟨0xFAC8, 0xFAC8, .shift (-25458) 1⟩,
  ⟨0xFAC9, 0xFAC9, .shift (-25326) 1⟩,
  ⟨0xFACA, 0xFACA, .shift (-25291) 1⟩,
  ⟨0xFACB, 0xFACB, .shift (-25280) 1⟩,
  ⟨0xFACC, 0xFACC, .shift (-25233) 1⟩,
  ⟨0xFACD, 0xFACD, .shift (-24507) 1⟩,
  ⟨0xFACE, 0xFACE, .shift (-23346) 1⟩,
  ⟨0xFACF, 0xFACF, .shift 77179 1⟩,
  ⟨0xFAD0, 0xFAD0, .shift 77172 1⟩,
  ⟨0xFAD1, 0xFAD1, .shift 80132 1⟩,
  ⟨0xFAD2, 0xFAD2, .shift (-48949) 1⟩,
  ⟨0xFAD3, 0xFAD3, .shift (-47803) 1⟩,
  ⟨0xFAD4, 0xFAD4, .shift (-47771) 1⟩,
  ⟨0xFAD5, 0xFAD5, .shift 87924 1⟩,
  ⟨0xFAD6, 0xFAD6, .shift 90618 1⟩,
  ⟨0xFAD7, 0xFAD7, .shift 99324 1⟩,
  ⟨0xFAD8, 0xFAD8, .shift (-23445) 1⟩,
  ⟨0xFAD9, 0xFAD9, .shift (-23371) 1⟩,
  ⟨0xFADA, 0xFAFF, .disallowed⟩
]

end Idna

end SellerSync
