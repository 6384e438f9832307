import SellerSync.Web.IdnaMapping.Status
/-! Rows of the IDNA mapping table (Unicode Technical Standard 46, version 17.0) from U+3000 to
U+EFFF. -/
namespace SellerSync

namespace Idna

def rowsEastAsian : Array MappingRow := #[
  ⟨0x3000, 0x3000, .shift (-12256) 1⟩,
  ⟨0x3001, 0x3001, .valid⟩,
  ⟨0x3002, 0x3002, .shift (-12244) 1⟩,
  ⟨0x3003, 0x3035, .valid⟩,
  ⟨0x3036, 0x3036, .shift (-36) 1⟩,
  ⟨0x3037, 0x3037, .valid⟩,
  ⟨0x3038, 0x3038, .shift 8969 1⟩,
  ⟨0x3039, 0x303A, .shift 8971 1⟩,
  ⟨0x303B, 0x303F, .valid⟩,
  ⟨0x3040, 0x3040, .disallowed⟩,
  ⟨0x3041, 0x3096, .valid⟩,
  ⟨0x3097, 0x3098, .disallowed⟩,
  ⟨0x3099, 0x309A, .valid⟩,
  ⟨0x309B, 0x309B, .text [0x20, 0x3099]⟩,
  ⟨0x309C, 0x309C, .text [0x20, 0x309A]⟩,
  ⟨0x309D, 0x309E, .valid⟩,
  ⟨0x309F, 0x309F, .text [0x3088, 0x308A]⟩,
  ⟨0x30A0, 0x30FE, .valid⟩,
  ⟨0x30FF, 0x30FF, .text [0x30B3, 0x30C8]⟩,
  ⟨0x3100, 0x3104, .disallowed⟩,
  ⟨0x3105, 0x312F, .valid⟩,
  ⟨0x3130, 0x3130, .disallowed⟩,
  ⟨0x3131, 0x3132, .shift (-8241) 1⟩,
  ⟨0x3133, 0x3133, .shift (-8073) 1⟩,
  ⟨0x3134, 0x3134, .shift (-8242) 1⟩,
  ⟨0x3135, 0x3136, .shift (-8073) 1⟩,
  ⟨0x3137, 0x3139, .shift (-8244) 1⟩,
  ⟨0x313A, 0x313F, .shift (-8074) 1⟩,
  ⟨0x3140, 0x3140, .shift (-8230) 1⟩,
  ⟨0x3141, 0x3143, .shift (-8251) 1⟩,
  ⟨0x3144, 0x3144, .shift (-8227) 1⟩,
  ⟨0x3145, 0x314E, .shift (-8252) 1⟩,
  ⟨0x314F, 0x3163, .shift (-8174) 1⟩,
  ⟨0x3164, 0x3164, .ignored⟩,
  ⟨0x3165, 0x3166, .shift (-8273) 1⟩,
  ⟨0x3167, 0x3168, .shift (-8096) 1⟩,
  ⟨0x3169, 0x3169, .shift (-8093) 1⟩,
  ⟨0x316A, 0x316A, .shift (-8092) 1⟩,
  ⟨0x316B, 0x316B, .shift (-8088) 1⟩,
  ⟨0x316C, 0x316C, .shift (-8085) 1⟩,
  ⟨0x316D, 0x316D, .shift (-8084) 1⟩,
  ⟨0x316E, 0x316E, .shift (-8274) 1⟩,
  ⟨0x316F, 0x316F, .shift (-8082) 1⟩,
  ⟨0x3170, 0x3170, .shift (-8081) 1⟩,
  ⟨0x3171, 0x3172, .shift (-8276) 1⟩,
  ⟨0x3173, 0x3173, .shift (-8275) 1⟩,
  ⟨0x3174, 0x3175, .shift (-8274) 1⟩,
  ⟨0x3176, 0x3176, .shift (-8271) 1⟩,
  ⟨0x3177, 0x3177, .shift (-8270) 1⟩,
  ⟨0x3178, 0x317C, .shift (-8269) 1⟩,
  ⟨0x317D, 0x317D, .shift (-8267) 1⟩,
  ⟨0x317E, 0x317E, .shift (-8264) 1⟩,
  ⟨0x317F, 0x317F, .shift (-8255) 1⟩,
  ⟨0x3180, 0x3180, .shift (-8249) 1⟩,
  ⟨0x3181, 0x3181, .shift (-8245) 1⟩,
  ⟨0x3182, 0x3183, .shift (-8081) 1⟩,
  ⟨0x3184, 0x3186, .shift (-8237) 1⟩,
  ⟨0x3187, 0x3188, .shift (-8195) 1⟩,
  ⟨0x3189, 0x3189, .shift (-8193) 1⟩,
  ⟨0x318A, 0x318B, .shift (-8185) 1⟩,
  ⟨0x318C, 0x318C, .shift (-8184) 1⟩,
  ⟨0x318D, 0x318D, .shift (-8175) 1⟩,
  ⟨0x318E, 0x318E, .shift (-8173) 1⟩,
  ⟨0x318F, 0x318F, .disallowed⟩,
  ⟨0x3190, 0x3191, .valid⟩,
  ⟨0x3192, 0x3192, .shift 7278 1⟩,
  ⟨0x3193, 0x3193, .shift 7417 1⟩,
  ⟨0x3194, 0x3194, .shift 7285 1⟩,
  ⟨0x3195, 0x3195, .shift 9542 1⟩,
  ⟨0x3196, 0x3196, .shift 7284 1⟩,
  ⟨0x3197, 0x3197, .shift 7318 1⟩,
  ⟨0x3198, 0x3198, .shift 7283 1⟩,
  ⟨0x3199, 0x3199, .shift 17305 1⟩,
  ⟨0x319A, 0x319A, .shift 7359 1⟩,
  ⟨0x319B, 0x319B, .shift 7294 1⟩,
  ⟨0x319C, 0x319C, .shift 7269 1⟩,
  ⟨0x319D, 0x319D, .shift 10124 1⟩,
  ⟨0x319E, 0x319E, .shift 9618 1⟩,
  ⟨0x319F, 0x319F, .shift 7451 1⟩,
  ⟨0x31A0, 0x31E5, .valid⟩,
  ⟨0x31E6, 0x31EF, .disallowed⟩,
  ⟨0x31F0, 0x31FF, .valid⟩,
  ⟨0x3200, 0x3200, .text [0x28, 0x1100, 0x29]⟩,
  ⟨0x3201, 0x3201, .text [0x28, 0x1102, 0x29]⟩,
  ⟨0x3202, 0x3202, .text [0x28, 0x1103, 0x29]⟩,
  ⟨0x3203, 0x3203, .text [0x28, 0x1105, 0x29]⟩,
  ⟨0x3204, 0x3204, .text [0x28, 0x1106, 0x29]⟩,
  ⟨0x3205, 0x3205, .text [0x28, 0x1107, 0x29]⟩,
  ⟨0x3206, 0x3206, .text [0x28, 0x1109, 0x29]⟩,
  ⟨0x3207, 0x3207, .text [0x28, 0x110B, 0x29]⟩,
  ⟨0x3208, 0x3208, .text [0x28, 0x110C, 0x29]⟩,
  ⟨0x3209, 0x3209, .text [0x28, 0x110E, 0x29]⟩,
  ⟨0x320A, 0x320A, .text [0x28, 0x110F, 0x29]⟩,
  ⟨0x320B, 0x320B, .text [0x28, 0x1110, 0x29]⟩,
  ⟨0x320C, 0x320C, .text [0x28, 0x1111, 0x29]⟩,
  ⟨0x320D, 0x320D, .text [0x28, 0x1112, 0x29]⟩,
  ⟨0x320E, 0x320E, .text [0x28, 0xAC00, 0x29]⟩,
  ⟨0x320F, 0x320F, .text [0x28, 0xB098, 0x29]⟩,
  ⟨0x3210, 0x3210, .text [0x28, 0xB2E4, 0x29]⟩,
  ⟨0x3211, 0x3211, .text [0x28, 0xB77C, 0x29]⟩,
  ⟨0x3212, 0x3212, .text [0x28, 0xB9C8, 0x29]⟩,
  ⟨0x3213, 0x3213, .text [0x28, 0xBC14, 0x29]⟩,
  ⟨0x3214, 0x3214, .text [0x28, 0xC0AC, 0x29]⟩,
  ⟨0x3215, 0x3215, .text [0x28, 0xC544, 0x29]⟩,
  ⟨0x3216, 0x3216, .text [0x28, 0xC790, 0x29]⟩,
  ⟨0x3217, 0x3217, .text [0x28, 0xCC28, 0x29]⟩,
  ⟨0x3218, 0x3218, .text [0x28, 0xCE74, 0x29]⟩,
  ⟨0x3219, 0x3219, .text [0x28, 0xD0C0, 0x29]⟩,
  ⟨0x321A, 0x321A, .text [0x28, 0xD30C, 0x29]⟩,
  ⟨0x321B, 0x321B, .text [0x28, 0xD558, 0x29]⟩,
  ⟨0x321C, 0x321C, .text [0x28, 0xC8FC, 0x29]⟩,
  ⟨0x321D, 0x321D, .text [0x28, 0xC624, 0xC804, 0x29]⟩,
  ⟨0x321E, 0x321E, .text [0x28, 0xC624, 0xD6C4, 0x29]⟩,
  ⟨0x321F, 0x321F, .disallowed⟩,
  ⟨0x3220, 0x3220, .text [0x28, 0x4E00, 0x29]⟩,
  ⟨0x3221, 0x3221, .text [0x28, 0x4E8C, 0x29]⟩,
  ⟨0x3222, 0x3222, .text [0x28, 0x4E09, 0x29]⟩,
  ⟨0x3223, 0x3223, .text [0x28, 0x56DB, 0x29]⟩,
  ⟨0x3224, 0x3224, .text [0x28, 0x4E94, 0x29]⟩,
  ⟨0x3225, 0x3225, .text [0x28, 0x516D, 0x29]⟩,
  ⟨0x3226, 0x3226, .text [0x28, 0x4E03, 0x29]⟩,
  ⟨0x3227, 0x3227, .text [0x28, 0x516B, 0x29]⟩,
  ⟨0x3228, 0x3228, .text [0x28, 0x4E5D, 0x29]⟩,
  ⟨0x3229, 0x3229, .text [0x28, 0x5341, 0x29]⟩,
  ⟨0x322A, 0x322A, .text [0x28, 0x6708, 0x29]⟩,
  ⟨0x322B, 0x322B, .text [0x28, 0x706B, 0x29]⟩,
  ⟨0x322C, 0x322C, .text [0x28, 0x6C34, 0x29]⟩,
  ⟨0x322D, 0x322D, .text [0x28, 0x6728, 0x29]⟩,
  ⟨0x322E, 0x322E, .text [0x28, 0x91D1, 0x29]⟩,
  ⟨0x322F, 0x322F, .text [0x28, 0x571F, 0x29]⟩,
  ⟨0x3230, 0x3230, .text [0x28, 0x65E5, 0x29]⟩,
  ⟨0x3231, 0x3231, .text [0x28, 0x682A, 0x29]⟩,
  ⟨0x3232, 0x3232, .text [0x28, 0x6709, 0x29]⟩,
  ⟨0x3233, 0x3233, .text [0x28, 0x793E, 0x29]⟩,
  ⟨0x3234, 0x3234, .text [0x28, 0x540D, 0x29]⟩,
  ⟨0x3235, 0x3235, .text [0x28, 0x7279, 0x29]⟩,
  ⟨0x3236, 0x3236, .text [0x28, 0x8CA1, 0x29]⟩,
  ⟨0x3237, 0x3237, .text [0x28, 0x795D, 0x29]⟩,
  ⟨0x3238, 0x3238, .text [0x28, 0x52B4, 0x29]⟩,
  ⟨0x3239, 0x3239, .text [0x28, 0x4EE3, 0x29]⟩,
  ⟨0x323A, 0x323A, .text [0x28, 0x547C, 0x29]⟩,
  ⟨0x323B, 0x323B, .text [0x28, 0x5B66, 0x29]⟩,
  ⟨0x323C, 0x323C, .text [0x28, 0x76E3, 0x29]⟩,
  ⟨0x323D, 0x323D, .text [0x28, 0x4F01, 0x29]⟩,
  ⟨0x323E, 0x323E, .text [0x28, 0x8CC7, 0x29]⟩,
  ⟨0x323F, 0x323F, .text [0x28, 0x5354, 0x29]⟩,
  ⟨0x3240, 0x3240, .text [0x28, 0x796D, 0x29]⟩,
  ⟨0x3241, 0x3241, .text [0x28, 0x4F11, 0x29]⟩,
  ⟨0x3242, 0x3242, .text [0x28, 0x81EA, 0x29]⟩,
  ⟨0x3243, 0x3243, .text [0x28, 0x81F3, 0x29]⟩,
  ⟨0x3244, 0x3244, .shift 8971 1⟩,
  ⟨0x3245, 0x3245, .shift 11319 1⟩,
  ⟨0x3246, 0x3246, .shift 13121 1⟩,
  ⟨0x3247, 0x3247, .shift 18760 1⟩,
  ⟨0x3248, 0x324F, .valid⟩,
  ⟨0x3250, 0x3250, .text [0x70, 0x74, 0x65]⟩,
  ⟨0x3251, 0x3251, .text [0x32, 0x31]⟩,
  ⟨0x3252, 0x3252, .text [0x32, 0x32]⟩,
  ⟨0x3253, 0x3253, .text [0x32, 0x33]⟩,
  ⟨0x3254, 0x3254, .text [0x32, 0x34]⟩,
  ⟨0x3255, 0x3255, .text [0x32, 0x35]⟩,
  ⟨0x3256, 0x3256, .text [0x32, 0x36]⟩,
  ⟨0x3257, 0x3257, .text [0x32, 0x37]⟩,
  ⟨0x3258, 0x3258, .text [0x32, 0x38]⟩,
  ⟨0x3259, 0x3259, .text [0x32, 0x39]⟩,
  ⟨0x325A, 0x325A, .text [0x33, 0x30]⟩,
  ⟨0x325B, 0x325B, .text [0x33, 0x31]⟩,
  ⟨0x325C, 0x325C, .text [0x33, 0x32]⟩,
  ⟨0x325D, 0x325D, .text [0x33, 0x33]⟩,
  ⟨0x325E, 0x325E, .text [0x33, 0x34]⟩,
  ⟨0x325F, 0x325F, .text [0x33, 0x35]⟩,
  ⟨0x3260, 0x3260, .shift (-8544) 1⟩,
  ⟨0x3261, 0x3262, .shift (-8543) 1⟩,
  ⟨0x3263, 0x3265, .shift (-8542) 1⟩,
  ⟨0x3266, 0x3266, .shift (-8541) 1⟩,
  ⟨0x3267, 0x3268, .shift (-8540) 1⟩,
  ⟨0x3269, 0x326D, .shift (-8539) 1⟩,
  ⟨0x326E, 0x326E, .shift 31122 1⟩,
  ⟨0x326F, 0x326F, .shift 32297 1⟩,
  ⟨0x3270, 0x3270, .shift 32884 1⟩,
  ⟨0x3271, 0x3271, .shift 34059 1⟩,
  ⟨0x3272, 0x3272, .shift 34646 1⟩,
  ⟨0x3273, 0x3273, .shift 35233 1⟩,
  ⟨0x3274, 0x3274, .shift 36408 1⟩,
  ⟨0x3275, 0x3275, .shift 37583 1⟩,
  ⟨0x3276, 0x3276, .shift 38170 1⟩,
  ⟨0x3277, 0x3277, .shift 39345 1⟩,
  ⟨0x3278, 0x3278, .shift 39932 1⟩,
  ⟨0x3279, 0x3279, .shift 40519 1⟩,
  ⟨0x327A, 0x327A, .shift 41106 1⟩,
  ⟨0x327B, 0x327B, .shift 41693 1⟩,
  ⟨0x327C, 0x327C, .text [0xCC38, 0xACE0]⟩,
  ⟨0x327D, 0x327D, .text [0xC8FC, 0xC758]⟩,
  ⟨0x327E, 0x327E, .shift 37938 1⟩,
  ⟨0x327F, 0x327F, .valid⟩,
  ⟨0x3280, 0x3280, .shift 7040 1⟩,
  ⟨0x3281, 0x3281, .shift 7179 1⟩,
  ⟨0x3282, 0x3282, .shift 7047 1⟩,
  ⟨0x3283, 0x3283, .shift 9304 1⟩,
  ⟨0x3284, 0x3284, .shift 7184 1⟩,
  ⟨0x3285, 0x3285, .shift 7912 1⟩,
  ⟨0x3286, 0x3286, .shift 7037 1⟩,
  ⟨0x3287, 0x3287, .shift 7908 1⟩,
  ⟨0x3288, 0x3288, .shift 7125 1⟩,
  ⟨0x3289, 0x3289, .shift 8376 1⟩,
  ⟨0x328A, 0x328A, .shift 13438 1⟩,
  ⟨0x328B, 0x328B, .shift 15840 1⟩,
  ⟨0x328C, 0x328C, .shift 14760 1⟩,
  ⟨0x328D, 0x328D, .shift 13467 1⟩,
  ⟨0x328E, 0x328E, .shift 24387 1⟩,
  ⟨0x328F, 0x328F, .shift 9360 1⟩,
  ⟨0x3290, 0x3290, .shift 13141 1⟩,
  ⟨0x3291, 0x3291, .shift 13721 1⟩,
  ⟨0x3292, 0x3292, .shift 13431 1⟩,
  ⟨0x3293, 0x3293, .shift 18091 1⟩,
  ⟨0x3294, 0x3294, .shift 8569 1⟩,
  ⟨0x3295, 0x3295, .shift 16356 1⟩,
  ⟨0x3296, 0x3296, .shift 23051 1⟩,
  ⟨0x3297, 0x3297, .shift 18118 1⟩,
  ⟨0x3298, 0x3298, .shift 8220 1⟩,
  ⟨0x3299, 0x3299, .shift 18239 1⟩,
  ⟨0x329A, 0x329A, .shift 17053 1⟩,
  ⟨0x329B, 0x329B, .shift 9944 1⟩,
  ⟨0x329C, 0x329C, .shift 24013 1⟩,
  ⟨0x329D, 0x329D, .shift 7821 1⟩,
  ⟨0x329E, 0x329E, .shift 8402 1⟩,
  ⟨0x329F, 0x329F, .shift 14921 1⟩,
  ⟨0x32A0, 0x32A0, .shift 25957 1⟩,
  ⟨0x32A1, 0x32A1, .shift 7280 1⟩,
  ⟨0x32A2, 0x32A2, .shift 7927 1⟩,
  ⟨0x32A3, 0x32A3, .shift 14528 1⟩,
  ⟨0x32A4, 0x32A4, .shift 7014 1⟩,
  ⟨0x32A5, 0x32A5, .shift 7048 1⟩,
  ⟨0x32A6, 0x32A6, .shift 7013 1⟩,
  ⟨0x32A7, 0x32A7, .shift 11071 1⟩,
  ⟨0x32A8, 0x32A8, .shift 8523 1⟩,
  ⟨0x32A9, 0x32A9, .shift 8338 1⟩,
  ⟨0x32AA, 0x32AA, .shift 10477 1⟩,
  ⟨0x32AB, 0x32AB, .shift 10427 1⟩,
  ⟨0x32AC, 0x32AC, .shift 17463 1⟩,
  ⟨0x32AD, 0x32AD, .shift 7252 1⟩,
  ⟨0x32AE, 0x32AE, .shift 23065 1⟩,
  ⟨0x32AF, 0x32AF, .shift 8357 1⟩,
  ⟨0x32B0, 0x32B0, .shift 9836 1⟩,
  ⟨0x32B1, 0x32B1, .text [0x33, 0x36]⟩,
  ⟨0x32B2, 0x32B2, .text [0x33, 0x37]⟩,
  ⟨0x32B3, 0x32B3, .text [0x33, 0x38]⟩,
  ⟨0x32B4, 0x32B4, .text [0x33, 0x39]⟩,
  ⟨0x32B5, 0x32B5, .text [0x34, 0x30]⟩,
  ⟨0x32B6, 0x32B6, .text [0x34, 0x31]⟩,
  ⟨0x32B7, 0x32B7, .text [0x34, 0x32]⟩,
  ⟨0x32B8, 0x32B8, .text [0x34, 0x33]⟩,
  ⟨0x32B9, 0x32B9, .text [0x34, 0x34]⟩,
  ⟨0x32BA, 0x32BA, .text [0x34, 0x35]⟩,
  ⟨0x32BB, 0x32BB, .text [0x34, 0x36]⟩,
  ⟨0x32BC, 0x32BC, .text [0x34, 0x37]⟩,
  ⟨0x32BD, 0x32BD, .text [0x34, 0x38]⟩,
  ⟨0x32BE, 0x32BE, .text [0x34, 0x39]⟩,
  ⟨0x32BF, 0x32BF, .text [0x35, 0x30]⟩,
  ⟨0x32C0, 0x32C0, .text [0x31, 0x6708]⟩,
  ⟨0x32C1, 0x32C1, .text [0x32, 0x6708]⟩,
  ⟨0x32C2, 0x32C2, .text [0x33, 0x6708]⟩,
  ⟨0x32C3, 0x32C3, .text [0x34, 0x6708]⟩,
  ⟨0x32C4, 0x32C4, .text [0x35, 0x6708]⟩,
  ⟨0x32C5, 0x32C5, .text [0x36, 0x6708]⟩,
  ⟨0x32C6, 0x32C6, .text [0x37, 0x6708]⟩,
  ⟨0x32C7, 0x32C7, .text [0x38, 0x6708]⟩,
  ⟨0x32C8, 0x32C8, .text [0x39, 0x6708]⟩,
  ⟨0x32C9, 0x32C9, .text [0x31, 0x30, 0x6708]⟩,
  ⟨0x32CA, 0x32CA, .text [0x31, 0x31, 0x6708]⟩,
  ⟨0x32CB, 0x32CB, .text [0x31, 0x32, 0x6708]⟩,
  ⟨0x32CC, 0x32CC, .text [0x68, 0x67]⟩,
  ⟨0x32CD, 0x32CD, .text [0x65, 0x72, 0x67]⟩,
  ⟨0x32CE, 0x32CE, .text [0x65, 0x76]⟩,
  ⟨0x32CF, 0x32CF, .text [0x6C, 0x74, 0x64]⟩,
  ⟨0x32D0, 0x32D0, .shift (-558) 1⟩,
  ⟨0x32D1, 0x32D1, .shift (-557) 1⟩,
  ⟨0x32D2, 0x32D2, .shift (-556) 1⟩,
  ⟨0x32D3, 0x32D3, .shift (-555) 1⟩,
  ⟨0x32D4, 0x32D5, .shift (-554) 1⟩,
  ⟨0x32D6, 0x32D6, .shift (-553) 1⟩,
  ⟨0x32D7, 0x32D7, .shift (-552) 1⟩,
  ⟨0x32D8, 0x32D8, .shift (-551) 1⟩,
  ⟨0x32D9, 0x32D9, .shift (-550) 1⟩,
  ⟨0x32DA, 0x32DA, .shift (-549) 1⟩,
  ⟨0x32DB, 0x32DB, .shift (-548) 1⟩,
  ⟨0x32DC, 0x32DC, .shift (-547) 1⟩,
  ⟨0x32DD, 0x32DD, .shift (-546) 1⟩,
  ⟨0x32DE, 0x32DE, .shift (-545) 1⟩,
  ⟨0x32DF, 0x32DF, .shift (-544) 1⟩,
  ⟨0x32E0, 0x32E0, .shift (-543) 1⟩,
  ⟨0x32E1, 0x32E1, .shift (-541) 1⟩,
  ⟨0x32E2, 0x32E2, .shift (-540) 1⟩,
  ⟨0x32E3, 0x32E3, .shift (-539) 1⟩,
  ⟨0x32E4, 0x32E9, .shift (-538) 1⟩,
  ⟨0x32EA, 0x32EA, .shift (-536) 1⟩,
  ⟨0x32EB, 0x32EB, .shift (-534) 1⟩,
  ⟨0x32EC, 0x32EC, .shift (-532) 1⟩,
  ⟨0x32ED, 0x32ED, .shift (-530) 1⟩,
  ⟨0x32EE, 0x32F2, .shift (-528) 1⟩,
  ⟨0x32F3, 0x32F3, .shift (-527) 1⟩,
  ⟨0x32F4, 0x32F4, .shift (-526) 1⟩,
  ⟨0x32F5, 0x32FA, .shift (-525) 1⟩,
  ⟨0x32FB, 0x32FE, .shift (-524) 1⟩,
  ⟨0x32FF, 0x32FF, .text [0x4EE4, 0x548C]⟩,
  ⟨0x3300, 0x3300, .text [0x30A2, 0x30D1, 0x30FC, 0x30C8]⟩,
  ⟨0x3301, 0x3301, .text [0x30A2, 0x30EB, 0x30D5, 0x30A1]⟩,
  ⟨0x3302, 0x3302, .text [0x30A2, 0x30F3, 0x30DA, 0x30A2]⟩,
  ⟨0x3303, 0x3303, .text [0x30A2, 0x30FC, 0x30EB]⟩,
  ⟨0x3304, 0x3304, .text [0x30A4, 0x30CB, 0x30F3, 0x30B0]⟩,
  ⟨0x3305, 0x3305, .text [0x30A4, 0x30F3, 0x30C1]⟩,
  ⟨0x3306, 0x3306, .text [0x30A6, 0x30A9, 0x30F3]⟩,
  ⟨0x3307, 0x3307, .text [0x30A8, 0x30B9, 0x30AF, 0x30FC, 0x30C9]⟩,
  ⟨0x3308, 0x3308, .text [0x30A8, 0x30FC, 0x30AB, 0x30FC]⟩,
  ⟨0x3309, 0x3309, .text [0x30AA, 0x30F3, 0x30B9]⟩,
  ⟨0x330A, 0x330A, .text [0x30AA, 0x30FC, 0x30E0]⟩,
  ⟨0x330B, 0x330B, .text [0x30AB, 0x30A4, 0x30EA]⟩,
  ⟨0x330C, 0x330C, .text [0x30AB, 0x30E9, 0x30C3, 0x30C8]⟩,
  ⟨0x330D, 0x330D, .text [0x30AB, 0x30ED, 0x30EA, 0x30FC]⟩,
  ⟨0x330E, 0x330E, .text [0x30AC, 0x30ED, 0x30F3]⟩,
  ⟨0x330F, 0x330F, .text [0x30AC, 0x30F3, 0x30DE]⟩,
  ⟨0x3310, 0x3310, .text [0x30AE, 0x30AC]⟩,
  ⟨0x3311, 0x3311, .text [0x30AE, 0x30CB, 0x30FC]⟩,
  ⟨0x3312, 0x3312, .text [0x30AD, 0x30E5, 0x30EA, 0x30FC]⟩,
  ⟨0x3313, 0x3313, .text [0x30AE, 0x30EB, 0x30C0, 0x30FC]⟩,
  ⟨0x3314, 0x3314, .text [0x30AD, 0x30ED]⟩,
  ⟨0x3315, 0x3315, .text [0x30AD, 0x30ED, 0x30B0, 0x30E9, 0x30E0]⟩,
  ⟨0x3316, 0x3316, .text [0x30AD, 0x30ED, 0x30E1, 0x30FC, 0x30C8, 0x30EB]⟩,
  ⟨0x3317, 0x3317, .text [0x30AD, 0x30ED, 0x30EF, 0x30C3, 0x30C8]⟩,
  ⟨0x3318, 0x3318, .text [0x30B0, 0x30E9, 0x30E0]⟩,
  ⟨0x3319, 0x3319, .text [0x30B0, 0x30E9, 0x30E0, 0x30C8, 0x30F3]⟩,
  ⟨0x331A, 0x331A, .text [0x30AF, 0x30EB, 0x30BC, 0x30A4, 0x30ED]⟩,
  ⟨0x331B, 0x331B, .text [0x30AF, 0x30ED, 0x30FC, 0x30CD]⟩,
  ⟨0x331C, 0x331C, .text [0x30B1, 0x30FC, 0x30B9]⟩,
  ⟨0x331D, 0x331D, .text [0x30B3, 0x30EB, 0x30CA]⟩,
  ⟨0x331E, 0x331E, .text [0x30B3, 0x30FC, 0x30DD]⟩,
  ⟨0x331F, 0x331F, .text [0x30B5, 0x30A4, 0x30AF, 0x30EB]⟩,
  ⟨0x3320, 0x3320, .text [0x30B5, 0x30F3, 0x30C1, 0x30FC, 0x30E0]⟩,
  ⟨0x3321, 0x3321, .text [0x30B7, 0x30EA, 0x30F3, 0x30B0]⟩,
  ⟨0x3322, 0x3322, .text [0x30BB, 0x30F3, 0x30C1]⟩,
  ⟨0x3323, 0x3323, .text [0x30BB, 0x30F3, 0x30C8]⟩,
  ⟨0x3324, 0x3324, .text [0x30C0, 0x30FC, 0x30B9]⟩,
  ⟨0x3325, 0x3325, .text [0x30C7, 0x30B7]⟩,
  ⟨0x3326, 0x3326, .text [0x30C9, 0x30EB]⟩,
  ⟨0x3327, 0x3327, .text [0x30C8, 0x30F3]⟩,
  ⟨0x3328, 0x3328, .text [0x30CA, 0x30CE]⟩,
  ⟨0x3329, 0x3329, .text [0x30CE, 0x30C3, 0x30C8]⟩,
  ⟨0x332A, 0x332A, .text [0x30CF, 0x30A4, 0x30C4]⟩,
  ⟨0x332B, 0x332B, .text [0x30D1, 0x30FC, 0x30BB, 0x30F3, 0x30C8]⟩,
  ⟨0x332C, 0x332C, .text [0x30D1, 0x30FC, 0x30C4]⟩,
  ⟨0x332D, 0x332D, .text [0x30D0, 0x30FC, 0x30EC, 0x30EB]⟩,
  ⟨0x332E, 0x332E, .text [0x30D4, 0x30A2, 0x30B9, 0x30C8, 0x30EB]⟩,
  ⟨0x332F, 0x332F, .text [0x30D4, 0x30AF, 0x30EB]⟩,
  ⟨0x3330, 0x3330, .text [0x30D4, 0x30B3]⟩,
  ⟨0x3331, 0x3331, .text [0x30D3, 0x30EB]⟩,
  ⟨0x3332, 0x3332, .text [0x30D5, 0x30A1, 0x30E9, 0x30C3, 0x30C9]⟩,
  ⟨0x3333, 0x3333, .text [0x30D5, 0x30A3, 0x30FC, 0x30C8]⟩,
  ⟨0x3334, 0x3334, .text [0x30D6, 0x30C3, 0x30B7, 0x30A7, 0x30EB]⟩,
  ⟨0x3335, 0x3335, .text [0x30D5, 0x30E9, 0x30F3]⟩,
  ⟨0x3336, 0x3336, .text [0x30D8, 0x30AF, 0x30BF, 0x30FC, 0x30EB]⟩,
  ⟨0x3337, 0x3337, .text [0x30DA, 0x30BD]⟩,
  ⟨0x3338, 0x3338, .text [0x30DA, 0x30CB, 0x30D2]⟩,
  ⟨0x3339, 0x3339, .text [0x30D8, 0x30EB, 0x30C4]⟩,
  ⟨0x333A, 0x333A, .text [0x30DA, 0x30F3, 0x30B9]⟩,
  ⟨0x333B, 0x333B, .text [0x30DA, 0x30FC, 0x30B8]⟩,
  ⟨0x333C, 0x333C, .text [0x30D9, 0x30FC, 0x30BF]⟩,
  ⟨0x333D, 0x333D, .text [0x30DD, 0x30A4, 0x30F3, 0x30C8]⟩,
  ⟨0x333E, 0x333E, .text [0x30DC, 0x30EB, 0x30C8]⟩,
  ⟨0x333F, 0x333F, .text [0x30DB, 0x30F3]⟩,
  ⟨0x3340, 0x3340, .text [0x30DD, 0x30F3, 0x30C9]⟩,
  ⟨0x3341, 0x3341, .text [0x30DB, 0x30FC, 0x30EB]⟩,
  ⟨0x3342, 0x3342, .text [0x30DB, 0x30FC, 0x30F3]⟩,
  ⟨0x3343, 0x3343, .text [0x30DE, 0x30A4, 0x30AF, 0x30ED]⟩,
  ⟨0x3344, 0x3344, .text [0x30DE, 0x30A4, 0x30EB]⟩,
  ⟨0x3345, 0x3345, .text [0x30DE, 0x30C3, 0x30CF]⟩,
  ⟨0x3346, 0x3346, .text [0x30DE, 0x30EB, 0x30AF]⟩,
  ⟨0x3347, 0x3347, .text [0x30DE, 0x30F3, 0x30B7, 0x30E7, 0x30F3]⟩,
  ⟨0x3348, 0x3348, .text [0x30DF, 0x30AF, 0x30ED, 0x30F3]⟩,
  ⟨0x3349, 0x3349, .text [0x30DF, 0x30EA]⟩,
  ⟨0x334A, 0x334A, .text [0x30DF, 0x30EA, 0x30D0, 0x30FC, 0x30EB]⟩,
  ⟨0x334B, 0x334B, .text [0x30E1, 0x30AC]⟩,
  ⟨0x334C, 0x334C, .text [0x30E1, 0x30AC, 0x30C8, 0x30F3]⟩,
  ⟨0x334D, 0x334D, .text [0x30E1, 0x30FC, 0x30C8, 0x30EB]⟩,
  ⟨0x334E, 0x334E, .text [0x30E4, 0x30FC, 0x30C9]⟩,
  ⟨0x334F, 0x334F, .text [0x30E4, 0x30FC, 0x30EB]⟩,
  ⟨0x3350, 0x3350, .text [0x30E6, 0x30A2, 0x30F3]⟩,
  ⟨0x3351, 0x3351, .text [0x30EA, 0x30C3, 0x30C8, 0x30EB]⟩,
  ⟨0x3352, 0x3352, .text [0x30EA, 0x30E9]⟩,
  ⟨0x3353, 0x3353, .text [0x30EB, 0x30D4, 0x30FC]⟩,
  ⟨0x3354, 0x3354, .text [0x30EB, 0x30FC, 0x30D6, 0x30EB]⟩,
  ⟨0x3355, 0x3355, .text [0x30EC, 0x30E0]⟩,
  ⟨0x3356, 0x3356, .text [0x30EC, 0x30F3, 0x30C8, 0x30B2, 0x30F3]⟩,
  ⟨0x3357, 0x3357, .text [0x30EF, 0x30C3, 0x30C8]⟩,
  ⟨0x3358, 0x3358, .text [0x30, 0x70B9]⟩,
  ⟨0x3359, 0x3359, .text [0x31, 0x70B9]⟩,
  ⟨0x335A, 0x335A, .text [0x32, 0x70B9]⟩,
  ⟨0x335B, 0x335B, .text [0x33, 0x70B9]⟩,
  ⟨0x335C, 0x335C, .text [0x34, 0x70B9]⟩,
  ⟨0x335D, 0x335D, .text [0x35, 0x70B9]⟩,
  ⟨0x335E, 0x335E, .text [0x36, 0x70B9]⟩,
  ⟨0x335F, 0x335F, .text [0x37, 0x70B9]⟩,
  ⟨0x3360, 0x3360, .text [0x38, 0x70B9]⟩,
  ⟨0x3361, 0x3361, .text [0x39, 0x70B9]⟩,
  ⟨0x3362, 0x3362, .text [0x31, 0x30, 0x70B9]⟩,
  ⟨0x3363, 0x3363, .text [0x31, 0x31, 0x70B9]⟩,
  ⟨0x3364, 0x3364, .text [0x31, 0x32, 0x70B9]⟩,
  ⟨0x3365, 0x3365, .text [0x31, 0x33, 0x70B9]⟩,
  ⟨0x3366, 0x3366, .text [0x31, 0x34, 0x70B9]⟩,
  ⟨0x3367, 0x3367, .text [0x31, 0x35, 0x70B9]⟩,
  ⟨0x3368, 0x3368, .text [0x31, 0x36, 0x70B9]⟩,
  ⟨0x3369, 0x3369, .text [0x31, 0x37, 0x70B9]⟩,
  ⟨0x336A, 0x336A, .text [0x31, 0x38, 0x70B9]⟩,
  ⟨0x336B, 0x336B, .text [0x31, 0x39, 0x70B9]⟩,
  ⟨0x336C, 0x336C, .text [0x32, 0x30, 0x70B9]⟩,
  ⟨0x336D, 0x336D, .text [0x32, 0x31, 0x70B9]⟩,
  ⟨0x336E, 0x336E, .text [0x32, 0x32, 0x70B9]⟩,
  ⟨0x336F, 0x336F, .text [0x32, 0x33, 0x70B9]⟩,
  ⟨0x3370, 0x3370, .text [0x32, 0x34, 0x70B9]⟩,
  ⟨0x3371, 0x3371, .text [0x68, 0x70, 0x61]⟩,
  ⟨0x3372, 0x3372, .text [0x64, 0x61]⟩,
  ⟨0x3373, 0x3373, .text [0x61, 0x75]⟩,
  ⟨0x3374, 0x3374, .text [0x62, 0x61, 0x72]⟩,
  ⟨0x3375, 0x3375, .text [0x6F, 0x76]⟩,
  ⟨0x3376, 0x3376, .text [0x70, 0x63]⟩,
  ⟨0x3377, 0x3377, .text [0x64, 0x6D]⟩,
  ⟨0x3378, 0x3378, .text [0x64, 0x6D, 0x32]⟩,
  ⟨0x3379, 0x3379, .text [0x64, 0x6D, 0x33]⟩,
  ⟨0x337A, 0x337A, .text [0x69, 0x75]⟩,
  ⟨0x337B, 0x337B, .text [0x5E73, 0x6210]⟩,
  ⟨0x337C, 0x337C, .text [0x662D, 0x548C]⟩,
  ⟨0x337D, 0x337D, .text [0x5927, 0x6B63]⟩,
  ⟨0x337E, 0x337E, .text [0x660E, 0x6CBB]⟩,
  ⟨0x337F, 0x337F, .text [0x682A, 0x5F0F, 0x4F1A, 0x793E]⟩,
  ⟨0x3380, 0x3380, .text [0x70, 0x61]⟩,
  ⟨0x3381, 0x3381, .text [0x6E, 0x61]⟩,
  ⟨0x3382, 0x3382, .text [0x3BC, 0x61]⟩,
  ⟨0x3383, 0x3383, .text [0x6D, 0x61]⟩,
  ⟨0x3384, 0x3384, .text [0x6B, 0x61]⟩,
  ⟨0x3385, 0x3385, .text [0x6B, 0x62]⟩,
  ⟨0x3386, 0x3386, .text [0x6D, 0x62]⟩,
  ⟨0x3387, 0x3387, .text [0x67, 0x62]⟩,
  ⟨0x3388, 0x3388, .text [0x63, 0x61, 0x6C]⟩,
  ⟨0x3389, 0x3389, .text [0x6B, 0x63, 0x61, 0x6C]⟩,
  ⟨0x338A, 0x338A, .text [0x70, 0x66]⟩,
  ⟨0x338B, 0x338B, .text [0x6E, 0x66]⟩,
  ⟨0x338C, 0x338C, .text [0x3BC, 0x66]⟩,
  ⟨0x338D, 0x338D, .text [0x3BC, 0x67]⟩,
  ⟨0x338E, 0x338E, .text [0x6D, 0x67]⟩,
  ⟨0x338F, 0x338F, .text [0x6B, 0x67]⟩,
  ⟨0x3390, 0x3390, .text [0x68, 0x7A]⟩,
  ⟨0x3391, 0x3391, .text [0x6B, 0x68, 0x7A]⟩,
  ⟨0x3392, 0x3392, .text [0x6D, 0x68, 0x7A]⟩,
  ⟨0x3393, 0x3393, .text [0x67, 0x68, 0x7A]⟩,
  ⟨0x3394, 0x3394, .text [0x74, 0x68, 0x7A]⟩,
  ⟨0x3395, 0x3395, .text [0x3BC, 0x6C]⟩,
  ⟨0x3396, 0x3396, .text [0x6D, 0x6C]⟩,
  ⟨0x3397, 0x3397, .text [0x64, 0x6C]⟩,
  ⟨0x3398, 0x3398, .text [0x6B, 0x6C]⟩,
  ⟨0x3399, 0x3399, .text [0x66, 0x6D]⟩,
  ⟨0x339A, 0x339A, .text [0x6E, 0x6D]⟩,
  ⟨0x339B, 0x339B, .text [0x3BC, 0x6D]⟩,
  ⟨0x339C, 0x339C, .text [0x6D, 0x6D]⟩,
  ⟨0x339D, 0x339D, .text [0x63, 0x6D]⟩,
  ⟨0x339E, 0x339E, .text [0x6B, 0x6D]⟩,
  ⟨0x339F, 0x339F, .text [0x6D, 0x6D, 0x32]⟩,
  ⟨0x33A0, 0x33A0, .text [0x63, 0x6D, 0x32]⟩,
  ⟨0x33A1, 0x33A1, .text [0x6D, 0x32]⟩,
  ⟨0x33A2, 0x33A2, .text [0x6B, 0x6D, 0x32]⟩,
  ⟨0x33A3, 0x33A3, .text [0x6D, 0x6D, 0x33]⟩,
  ⟨0x33A4, 0x33A4, .text [0x63, 0x6D, 0x33]⟩,
  ⟨0x33A5, 0x33A5, .text [0x6D, 0x33]⟩,
  ⟨0x33A6, 0x33A6, .text [0x6B, 0x6D, 0x33]⟩,
  ⟨0x33A7, 0x33A7, .text [0x6D, 0x2215, 0x73]⟩,
  ⟨0x33A8, 0x33A8, .text [0x6D, 0x2215, 0x73, 0x32]⟩,
  ⟨0x33A9, 0x33A9, .text [0x70, 0x61]⟩,
  ⟨0x33AA, 0x33AA, .text [0x6B, 0x70, 0x61]⟩,
  ⟨0x33AB, 0x33AB, .text [0x6D, 0x70, 0x61]⟩,
  ⟨0x33AC, 0x33AC, .text [0x67, 0x70, 0x61]⟩,
  ⟨0x33AD, 0x33AD, .text [0x72, 0x61, 0x64]⟩,
  ⟨0x33AE, 0x33AE, .text [0x72, 0x61, 0x64, 0x2215, 0x73]⟩,
  ⟨0x33AF, 0x33AF, .text [0x72, 0x61, 0x64, 0x2215, 0x73, 0x32]⟩,
  ⟨0x33B0, 0x33B0, .text [0x70, 0x73]⟩,
  ⟨0x33B1, 0x33B1, .text [0x6E, 0x73]⟩,
  ⟨0x33B2, 0x33B2, .text [0x3BC, 0x73]⟩,
  ⟨0x33B3, 0x33B3, .text [0x6D, 0x73]⟩,
  ⟨0x33B4, 0x33B4, .text [0x70, 0x76]⟩,
  ⟨0x33B5, 0x33B5, .text [0x6E, 0x76]⟩,
  ⟨0x33B6, 0x33B6, .text [0x3BC, 0x76]⟩,
  ⟨0x33B7, 0x33B7, .text [0x6D, 0x76]⟩,
  ⟨0x33B8, 0x33B8, .text [0x6B, 0x76]⟩,
  ⟨0x33B9, 0x33B9, .text [0x6D, 0x76]⟩,
  ⟨0x33BA, 0x33BA, .text [0x70, 0x77]⟩,
  ⟨0x33BB, 0x33BB, .text [0x6E, 0x77]⟩,
  ⟨0x33BC, 0x33BC, .text [0x3BC, 0x77]⟩,
  ⟨0x33BD, 0x33BD, .text [0x6D, 0x77]⟩,
  ⟨0x33BE, 0x33BE, .text [0x6B, 0x77]⟩,
  ⟨0x33BF, 0x33BF, .text [0x6D, 0x77]⟩,
  ⟨0x33C0, 0x33C0, .text [0x6B, 0x3C9]⟩,
  ⟨0x33C1, 0x33C1, .text [0x6D, 0x3C9]⟩,
  ⟨0x33C2, 0x33C2, .disallowed⟩,
  ⟨0x33C3, 0x33C3, .text [0x62, 0x71]⟩,
  ⟨0x33C4, 0x33C4, .text [0x63, 0x63]⟩,
  ⟨0x33C5, 0x33C5, .text [0x63, 0x64]⟩,
  ⟨0x33C6, 0x33C6, .text [0x63, 0x2215, 0x6B, 0x67]⟩,
  ⟨0x33C7, 0x33C7, .disallowed⟩,
  ⟨0x33C8, 0x33C8, .text [0x64, 0x62]⟩,
  ⟨0x33C9, 0x33C9, .text [0x67, 0x79]⟩,
  ⟨0x33CA, 0x33CA, .text [0x68, 0x61]⟩,
  ⟨0x33CB, 0x33CB, .text [0x68, 0x70]⟩,
  ⟨0x33CC, 0x33CC, .text [0x69, 0x6E]⟩,
  ⟨0x33CD, 0x33CD, .text [0x6B, 0x6B]⟩,
  ⟨0x33CE, 0x33CE, .text [0x6B, 0x6D]⟩,
  ⟨0x33CF, 0x33CF, .text [0x6B, 0x74]⟩,
  ⟨0x33D0, 0x33D0, .text [0x6C, 0x6D]⟩,
  ⟨0x33D1, 0x33D1, .text [0x6C, 0x6E]⟩,
  ⟨0x33D2, 0x33D2, .text [0x6C, 0x6F, 0x67]⟩,
  ⟨0x33D3, 0x33D3, .text [0x6C, 0x78]⟩,
  ⟨0x33D4, 0x33D4, .text [0x6D, 0x62]⟩,
  ⟨0x33D5, 0x33D5, .text [0x6D, 0x69, 0x6C]⟩,
  ⟨0x33D6, 0x33D6, .text [0x6D, 0x6F, 0x6C]⟩,
  ⟨0x33D7, 0x33D7, .text [0x70, 0x68]⟩,
  ⟨0x33D8, 0x33D8, .disallowed⟩,
  ⟨0x33D9, 0x33D9, .text [0x70, 0x70, 0x6D]⟩,
  ⟨0x33DA, 0x33DA, .text [0x70, 0x72]⟩,
  ⟨0x33DB, 0x33DB, .text [0x73, 0x72]⟩,
  ⟨0x33DC, 0x33DC, .text [0x73, 0x76]⟩,
  ⟨0x33DD, 0x33DD, .text [0x77, 0x62]⟩,
  ⟨0x33DE, 0x33DE, .text [0x76, 0x2215, 0x6D]⟩,
  ⟨0x33DF, 0x33DF, .text [0x61, 0x2215, 0x6D]⟩,
  ⟨0x33E0, 0x33E0, .text [0x31, 0x65E5]⟩,
  ⟨0x33E1, 0x33E1, .text [0x32, 0x65E5]⟩,
  ⟨0x33E2, 0x33E2, .text [0x33, 0x65E5]⟩,
  ⟨0x33E3, 0x33E3, .text [0x34, 0x65E5]⟩,
  ⟨0x33E4, 0x33E4, .text [0x35, 0x65E5]⟩,
  ⟨0x33E5, 0x33E5, .text [0x36, 0x65E5]⟩,
  ⟨0x33E6, 0x33E6, .text [0x37, 0x65E5]⟩,
  ⟨0x33E7, 0x33E7, .text [0x38, 0x65E5]⟩,
  ⟨0x33E8, 0x33E8, .text [0x39, 0x65E5]⟩,
  ⟨0x33E9, 0x33E9, .text [0x31, 0x30, 0x65E5]⟩,
  ⟨0x33EA, 0x33EA, .text [0x31, 0x31, 0x65E5]⟩,
  ⟨0x33EB, 0x33EB, .text [0x31, 0x32, 0x65E5]⟩,
  ⟨0x33EC, 0x33EC, .text [0x31, 0x33, 0x65E5]⟩,
  ⟨0x33ED, 0x33ED, .text [0x31, 0x34, 0x65E5]⟩,
  ⟨0x33EE, 0x33EE, .text [0x31, 0x35, 0x65E5]⟩,
  ⟨0x33EF, 0x33EF, .text [0x31, 0x36, 0x65E5]⟩,
  ⟨0x33F0, 0x33F0, .text [0x31, 0x37, 0x65E5]⟩,
  ⟨0x33F1, 0x33F1, .text [0x31, 0x38, 0x65E5]⟩,
  ⟨0x33F2, 0x33F2, .text [0x31, 0x39, 0x65E5]⟩,
  ⟨0x33F3, 0x33F3, .text [0x32, 0x30, 0x65E5]⟩,
  ⟨0x33F4, 0x33F4, .text [0x32, 0x31, 0x65E5]⟩,
  ⟨0x33F5, 0x33F5, .text [0x32, 0x32, 0x65E5]⟩,
  ⟨0x33F6, 0x33F6, .text [0x32, 0x33, 0x65E5]⟩,
  ⟨0x33F7, 0x33F7, .text [0x32, 0x34, 0x65E5]⟩,
  ⟨0x33F8, 0x33F8, .text [0x32, 0x35, 0x65E5]⟩,
  ⟨0x33F9, 0x33F9, .text [0x32, 0x36, 0x65E5]⟩,
  ⟨0x33FA, 0x33FA, .text [0x32, 0x37, 0x65E5]⟩,
  ⟨0x33FB, 0x33FB, .text [0x32, 0x38, 0x65E5]⟩,
  ⟨0x33FC, 0x33FC, .text [0x32, 0x39, 0x65E5]⟩,
  ⟨0x33FD, 0x33FD, .text [0x33, 0x30, 0x65E5]⟩,
  ⟨0x33FE, 0x33FE, .text [0x33, 0x31, 0x65E5]⟩,
  ⟨0x33FF, 0x33FF, .text [0x67, 0x61, 0x6C]⟩,
  ⟨0x3400, 0xA48C, .valid⟩,
  ⟨0xA48D, 0xA48F, .disallowed⟩,
  ⟨0xA490, 0xA4C6, .valid⟩,
  ⟨0xA4C7, 0xA4CF, .disallowed⟩,
  ⟨0xA4D0, 0xA62B, .valid⟩,
  ⟨0xA62C, 0xA63F, .disallowed⟩,
  ⟨0xA640, 0xA66C, .shift 1 2⟩,
  ⟨0xA66D, 0xA67F, .valid⟩,
  ⟨0xA680, 0xA69A, .shift 1 2⟩,
  ⟨0xA69B, 0xA69B, .valid⟩,
  ⟨0xA69C, 0xA69C, .shift (-41554) 1⟩,
  ⟨0xA69D, 0xA69D, .shift (-41553) 1⟩,
  ⟨0xA69E, 0xA6F7, .valid⟩,
  ⟨0xA6F8, 0xA6FF, .disallowed⟩,
  ⟨0xA700, 0xA721, .valid⟩,
  ⟨0xA722, 0xA72E, .shift 1 2⟩,
  ⟨0xA72F, 0xA731, .valid⟩,
  ⟨0xA732, 0xA76E, .shift 1 2⟩,
  ⟨0xA76F, 0xA76F, .valid⟩,
  ⟨0xA770, 0xA770, .shift (-1) 1⟩,
  ⟨0xA771, 0xA778, .valid⟩,
  ⟨0xA779, 0xA77B, .shift 1 2⟩,
  ⟨0xA77C, 0xA77C, .valid⟩,
  ⟨0xA77D, 0xA77D, .shift (-35332) 1⟩,
  ⟨0xA77E, 0xA786, .shift 1 2⟩,
  ⟨0xA787, 0xA78A, .valid⟩,
  ⟨0xA78B, 0xA78B, .shift 1 1⟩,
  ⟨0xA78C, 0xA78C, .valid⟩,
  ⟨0xA78D, 0xA78D, .shift (-42280) 1⟩,
  ⟨0xA78E, 0xA78F, .valid⟩,
  ⟨0xA790, 0xA792, .shift 1 2⟩,
  ⟨0xA793, 0xA795, .valid⟩,
  ⟨0xA796, 0xA7A8, .shift 1 2⟩,
  ⟨0xA7A9, 0xA7A9, .valid⟩,
  ⟨0xA7AA, 0xA7AA, .shift (-42308) 1⟩,
  ⟨0xA7AB, 0xA7AB, .shift (-42319) 1⟩,
  ⟨0xA7AC, 0xA7AC, .shift (-42315) 1⟩,
  ⟨0xA7AD, 0xA7AD, .shift (-42305) 1⟩,
  ⟨0xA7AE, 0xA7AE, .shift (-42308) 1⟩,
  ⟨0xA7AF, 0xA7AF, .valid⟩,
  ⟨0xA7B0, 0xA7B0, .shift (-42258) 1⟩,
  ⟨0xA7B1, 0xA7B1, .shift (-42282) 1⟩,
  ⟨0xA7B2, 0xA7B2, .shift (-42261) 1⟩,
  ⟨0xA7B3, 0xA7B3, .shift 928 1⟩,
  ⟨0xA7B4, 0xA7C2, .shift 1 2⟩,
  ⟨0xA7C3, 0xA7C3, .valid⟩,
  ⟨0xA7C4, 0xA7C4, .shift (-48) 1⟩,
  ⟨0xA7C5, 0xA7C5, .shift (-42307) 1⟩,
  ⟨0xA7C6, 0xA7C6, .shift (-35384) 1⟩,
  ⟨0xA7C7, 0xA7C9, .shift 1 2⟩,
  ⟨0xA7CA, 0xA7CA, .valid⟩,
  ⟨0xA7CB, 0xA7CB, .shift (-42343) 1⟩,
  ⟨0xA7CC, 0xA7DA, .shift 1 2⟩,
  ⟨0xA7DB, 0xA7DB, .valid⟩,
  ⟨0xA7DC, 0xA7DC, .shift (-42561) 1⟩,
  ⟨0xA7DD, 0xA7F0, .disallowed⟩,
  ⟨0xA7F1, 0xA7F1, .shift (-42878) 1⟩,
  ⟨0xA7F2, 0xA7F2, .shift (-42895) 1⟩,
  ⟨0xA7F3, 0xA7F3, .shift (-42893) 1⟩,
  ⟨0xA7F4, 0xA7F4, .shift (-42883) 1⟩,
  ⟨0xA7F5, 0xA7F5, .shift 1 1⟩,
  ⟨0xA7F6, 0xA7F7, .valid⟩,
  ⟨0xA7F8, 0xA7F8, .shift (-42705) 1⟩,
  ⟨0xA7F9, 0xA7F9, .shift (-42662) 1⟩,
  ⟨0xA7FA, 0xA82C, .valid⟩,
  ⟨0xA82D, 0xA82F, .disallowed⟩,
  ⟨0xA830, 0xA839, .valid⟩,
  ⟨0xA83A, 0xA83F, .disallowed⟩,
  ⟨0xA840, 0xA877, .valid⟩,
  ⟨0xA878, 0xA87F, .disallowed⟩,
  ⟨0xA880, 0xA8C5, .valid⟩,
  ⟨0xA8C6, 0xA8CD, .disallowed⟩,
  ⟨0xA8CE, 0xA8D9, .valid⟩,
  ⟨0xA8DA, 0xA8DF, .disallowed⟩,
  ⟨0xA8E0, 0xA953, .valid⟩,
  ⟨0xA954, 0xA95E, .disallowed⟩,
  ⟨0xA95F, 0xA97C, .valid⟩,
  ⟨0xA97D, 0xA97F, .disallowed⟩,
  ⟨0xA980, 0xA9CD, .valid⟩,
  ⟨0xA9CE, 0xA9CE, .disallowed⟩,
  ⟨0xA9CF, 0xA9D9, .valid⟩,
  ⟨0xA9DA, 0xA9DD, .disallowed⟩,
  ⟨0xA9DE, 0xA9FE, .valid⟩,
  ⟨0xA9FF, 0xA9FF, .disallowed⟩,
  ⟨0xAA00, 0xAA36, .valid⟩,
  ⟨0xAA37, 0xAA3F, .disallowed⟩,
  ⟨0xAA40, 0xAA4D, .valid⟩,
  ⟨0xAA4E, 0xAA4F, .disallowed⟩,
  ⟨0xAA50, 0xAA59, .valid⟩,
  ⟨0xAA5A, 0xAA5B, .disallowed⟩,
  ⟨0xAA5C, 0xAAC2, .valid⟩,
  ⟨0xAAC3, 0xAADA, .disallowed⟩,
  ⟨0xAADB, 0xAAF6, .valid⟩,
  ⟨0xAAF7, 0xAB00, .disallowed⟩,
  ⟨0xAB01, 0xAB06, .valid⟩,
  ⟨0xAB07, 0xAB08, .disallowed⟩,
  ⟨0xAB09, 0xAB0E, .valid⟩,
  ⟨0xAB0F, 0xAB10, .disallowed⟩,
  ⟨0xAB11, 0xAB16, .valid⟩,
  ⟨0xAB17, 0xAB1F, .disallowed⟩,
  ⟨0xAB20, 0xAB26, .valid⟩,
  ⟨0xAB27, 0xAB27, .disallowed⟩,
  ⟨0xAB28, 0xAB2E, .valid⟩,
  ⟨0xAB2F, 0xAB2F, .disallowed⟩,
  ⟨0xAB30, 0xAB5B, .valid⟩,
  ⟨0xAB5C, 0xAB5C, .shift (-1077) 1⟩,
  ⟨0xAB5D, 0xAB5D, .shift (-38) 1⟩,
  ⟨0xAB5E, 0xAB5E, .shift (-43251) 1⟩,
  ⟨0xAB5F, 0xAB5F, .shift (-13) 1⟩,
  ⟨0xAB60, 0xAB68, .valid⟩,
  ⟨0xAB69, 0xAB69, .shift (-43228) 1⟩,
  ⟨0xAB6A, 0xAB6B, .valid⟩,
  ⟨0xAB6C, 0xAB6F, .disallowed⟩,
  ⟨0xAB70, 0xABBF, .shift (-38864) 1⟩,
  ⟨0xABC0, 0xABED, .valid⟩,
  ⟨0xABEE, 0xABEF, .disallowed⟩,
  ⟨0xABF0, 0xABF9, .valid⟩,
  ⟨0xABFA, 0xABFF, .disallowed⟩,
  ⟨0xAC00, 0xD7A3, .valid⟩,
  ⟨0xD7A4, 0xD7AF, .disallowed⟩,
  ⟨0xD7B0, 0xD7C6, .valid⟩,
  ⟨0xD7C7, 0xD7CA, .disallowed⟩,
  ⟨0xD7CB, 0xD7FB, .valid⟩,
  ⟨0xD7FC, 0xEFFF, .disallowed⟩
]

end Idna

end SellerSync
