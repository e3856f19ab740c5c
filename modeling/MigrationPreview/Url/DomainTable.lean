import MigrationPreview.Text.Table

/-!
# Tables for domains

Which characters may be written in a domain and what they stand for, by the compatibility mapping of
Unicode 17 for domain names.
-/

namespace MigrationPreview.Url

/-- Runs of the characters that may be written in a domain. -/
def permittedRanges : List (Nat × Nat) :=
  [(0x0, 0x7F), (0xA0, 0x377), (0x37A, 0x37F), (0x384, 0x38A), (0x38C, 0x38C), (0x38E, 0x3A1),
    (0x3A3, 0x52F), (0x531, 0x556), (0x559, 0x58A), (0x58D, 0x58F), (0x591, 0x5C7), (0x5D0, 0x5EA),
    (0x5EF, 0x5F4), (0x606, 0x61B), (0x61D, 0x6DC), (0x6DE, 0x70D), (0x710, 0x74A), (0x74D, 0x7B1),
    (0x7C0, 0x7FA), (0x7FD, 0x82D), (0x830, 0x83E), (0x840, 0x85B), (0x85E, 0x85E), (0x860, 0x86A),
    (0x870, 0x88F), (0x897, 0x8E1), (0x8E3, 0x983), (0x985, 0x98C), (0x98F, 0x990), (0x993, 0x9A8),
    (0x9AA, 0x9B0), (0x9B2, 0x9B2), (0x9B6, 0x9B9), (0x9BC, 0x9C4), (0x9C7, 0x9C8), (0x9CB, 0x9CE),
    (0x9D7, 0x9D7), (0x9DC, 0x9DD), (0x9DF, 0x9E3), (0x9E6, 0x9FE), (0xA01, 0xA03), (0xA05, 0xA0A),
    (0xA0F, 0xA10), (0xA13, 0xA28), (0xA2A, 0xA30), (0xA32, 0xA33), (0xA35, 0xA36), (0xA38, 0xA39),
    (0xA3C, 0xA3C), (0xA3E, 0xA42), (0xA47, 0xA48), (0xA4B, 0xA4D), (0xA51, 0xA51), (0xA59, 0xA5C),
    (0xA5E, 0xA5E), (0xA66, 0xA76), (0xA81, 0xA83), (0xA85, 0xA8D), (0xA8F, 0xA91), (0xA93, 0xAA8),
    (0xAAA, 0xAB0), (0xAB2, 0xAB3), (0xAB5, 0xAB9), (0xABC, 0xAC5), (0xAC7, 0xAC9), (0xACB, 0xACD),
    (0xAD0, 0xAD0), (0xAE0, 0xAE3), (0xAE6, 0xAF1), (0xAF9, 0xAFF), (0xB01, 0xB03), (0xB05, 0xB0C),
    (0xB0F, 0xB10), (0xB13, 0xB28), (0xB2A, 0xB30), (0xB32, 0xB33), (0xB35, 0xB39), (0xB3C, 0xB44),
    (0xB47, 0xB48), (0xB4B, 0xB4D), (0xB55, 0xB57), (0xB5C, 0xB5D), (0xB5F, 0xB63), (0xB66, 0xB77),
    (0xB82, 0xB83), (0xB85, 0xB8A), (0xB8E, 0xB90), (0xB92, 0xB95), (0xB99, 0xB9A), (0xB9C, 0xB9C),
    (0xB9E, 0xB9F), (0xBA3, 0xBA4), (0xBA8, 0xBAA), (0xBAE, 0xBB9), (0xBBE, 0xBC2), (0xBC6, 0xBC8),
    (0xBCA, 0xBCD), (0xBD0, 0xBD0), (0xBD7, 0xBD7), (0xBE6, 0xBFA), (0xC00, 0xC0C), (0xC0E, 0xC10),
    (0xC12, 0xC28), (0xC2A, 0xC39), (0xC3C, 0xC44), (0xC46, 0xC48), (0xC4A, 0xC4D), (0xC55, 0xC56),
    (0xC58, 0xC5A), (0xC5C, 0xC5D), (0xC60, 0xC63), (0xC66, 0xC6F), (0xC77, 0xC8C), (0xC8E, 0xC90),
    (0xC92, 0xCA8), (0xCAA, 0xCB3), (0xCB5, 0xCB9), (0xCBC, 0xCC4), (0xCC6, 0xCC8), (0xCCA, 0xCCD),
    (0xCD5, 0xCD6), (0xCDC, 0xCDE), (0xCE0, 0xCE3), (0xCE6, 0xCEF), (0xCF1, 0xCF3), (0xD00, 0xD0C),
    (0xD0E, 0xD10), (0xD12, 0xD44), (0xD46, 0xD48), (0xD4A, 0xD4F), (0xD54, 0xD63), (0xD66, 0xD7F),
    (0xD81, 0xD83), (0xD85, 0xD96), (0xD9A, 0xDB1), (0xDB3, 0xDBB), (0xDBD, 0xDBD), (0xDC0, 0xDC6),
    (0xDCA, 0xDCA), (0xDCF, 0xDD4), (0xDD6, 0xDD6), (0xDD8, 0xDDF), (0xDE6, 0xDEF), (0xDF2, 0xDF4),
    (0xE01, 0xE3A), (0xE3F, 0xE5B), (0xE81, 0xE82), (0xE84, 0xE84), (0xE86, 0xE8A), (0xE8C, 0xEA3),
    (0xEA5, 0xEA5), (0xEA7, 0xEBD), (0xEC0, 0xEC4), (0xEC6, 0xEC6), (0xEC8, 0xECE), (0xED0, 0xED9),
    (0xEDC, 0xEDF), (0xF00, 0xF47), (0xF49, 0xF6C), (0xF71, 0xF97), (0xF99, 0xFBC), (0xFBE, 0xFCC),
    (0xFCE, 0xFDA), (0x1000, 0x10C5), (0x10C7, 0x10C7), (0x10CD, 0x10CD), (0x10D0, 0x1248),
    (0x124A, 0x124D), (0x1250, 0x1256), (0x1258, 0x1258), (0x125A, 0x125D), (0x1260, 0x1288),
    (0x128A, 0x128D), (0x1290, 0x12B0), (0x12B2, 0x12B5), (0x12B8, 0x12BE), (0x12C0, 0x12C0),
    (0x12C2, 0x12C5), (0x12C8, 0x12D6), (0x12D8, 0x1310), (0x1312, 0x1315), (0x1318, 0x135A),
    (0x135D, 0x137C), (0x1380, 0x1399), (0x13A0, 0x13F5), (0x13F8, 0x13FD), (0x1400, 0x167F),
    (0x1681, 0x169C), (0x16A0, 0x16F8), (0x1700, 0x1715), (0x171F, 0x1736), (0x1740, 0x1753),
    (0x1760, 0x176C), (0x176E, 0x1770), (0x1772, 0x1773), (0x1780, 0x17DD), (0x17E0, 0x17E9),
    (0x17F0, 0x17F9), (0x1800, 0x1819), (0x1820, 0x1878), (0x1880, 0x18AA), (0x18B0, 0x18F5),
    (0x1900, 0x191E), (0x1920, 0x192B), (0x1930, 0x193B), (0x1940, 0x1940), (0x1944, 0x196D),
    (0x1970, 0x1974), (0x1980, 0x19AB), (0x19B0, 0x19C9), (0x19D0, 0x19DA), (0x19DE, 0x1A1B),
    (0x1A1E, 0x1A5E), (0x1A60, 0x1A7C), (0x1A7F, 0x1A89), (0x1A90, 0x1A99), (0x1AA0, 0x1AAD),
    (0x1AB0, 0x1ADD), (0x1AE0, 0x1AEB), (0x1B00, 0x1B4C), (0x1B4E, 0x1BF3), (0x1BFC, 0x1C37),
    (0x1C3B, 0x1C49), (0x1C4D, 0x1C8A), (0x1C90, 0x1CBA), (0x1CBD, 0x1CC7), (0x1CD0, 0x1CFA),
    (0x1D00, 0x1F15), (0x1F18, 0x1F1D), (0x1F20, 0x1F45), (0x1F48, 0x1F4D), (0x1F50, 0x1F57),
    (0x1F59, 0x1F59), (0x1F5B, 0x1F5B), (0x1F5D, 0x1F5D), (0x1F5F, 0x1F7D), (0x1F80, 0x1FB4),
    (0x1FB6, 0x1FC4), (0x1FC6, 0x1FD3), (0x1FD6, 0x1FDB), (0x1FDD, 0x1FEF), (0x1FF2, 0x1FF4),
    (0x1FF6, 0x1FFE), (0x2000, 0x200D), (0x2010, 0x2023), (0x2027, 0x2027), (0x202F, 0x2064),
    (0x206A, 0x2071), (0x2074, 0x208E), (0x2090, 0x209C), (0x20A0, 0x20C1), (0x20D0, 0x20F0),
    (0x2100, 0x218B), (0x2190, 0x2429), (0x2440, 0x244A), (0x2460, 0x2487), (0x249C, 0x2B73),
    (0x2B76, 0x2CF3), (0x2CF9, 0x2D25), (0x2D27, 0x2D27), (0x2D2D, 0x2D2D), (0x2D30, 0x2D67),
    (0x2D6F, 0x2D70), (0x2D7F, 0x2D96), (0x2DA0, 0x2DA6), (0x2DA8, 0x2DAE), (0x2DB0, 0x2DB6),
    (0x2DB8, 0x2DBE), (0x2DC0, 0x2DC6), (0x2DC8, 0x2DCE), (0x2DD0, 0x2DD6), (0x2DD8, 0x2DDE),
    (0x2DE0, 0x2E5D), (0x2E80, 0x2E99), (0x2E9B, 0x2EF3), (0x2F00, 0x2FD5), (0x3000, 0x303F),
    (0x3041, 0x3096), (0x3099, 0x30FF), (0x3105, 0x312F), (0x3131, 0x318E), (0x3190, 0x31E5),
    (0x31F0, 0x321E), (0x3220, 0x33C1), (0x33C3, 0x33C6), (0x33C8, 0x33D7), (0x33D9, 0xA48C),
    (0xA490, 0xA4C6), (0xA4D0, 0xA62B), (0xA640, 0xA6F7), (0xA700, 0xA7DC), (0xA7F1, 0xA82C),
    (0xA830, 0xA839), (0xA840, 0xA877), (0xA880, 0xA8C5), (0xA8CE, 0xA8D9), (0xA8E0, 0xA953),
    (0xA95F, 0xA97C), (0xA980, 0xA9CD), (0xA9CF, 0xA9D9), (0xA9DE, 0xA9FE), (0xAA00, 0xAA36),
    (0xAA40, 0xAA4D), (0xAA50, 0xAA59), (0xAA5C, 0xAAC2), (0xAADB, 0xAAF6), (0xAB01, 0xAB06),
    (0xAB09, 0xAB0E), (0xAB11, 0xAB16), (0xAB20, 0xAB26), (0xAB28, 0xAB2E), (0xAB30, 0xAB6B),
    (0xAB70, 0xABED), (0xABF0, 0xABF9), (0xAC00, 0xD7A3), (0xD7B0, 0xD7C6), (0xD7CB, 0xD7FB),
    (0xF900, 0xFA6D), (0xFA70, 0xFAD9), (0xFB00, 0xFB06), (0xFB13, 0xFB17), (0xFB1D, 0xFB36),
    (0xFB38, 0xFB3C), (0xFB3E, 0xFB3E), (0xFB40, 0xFB41), (0xFB43, 0xFB44), (0xFB46, 0xFDCF),
    (0xFDF0, 0xFE11), (0xFE13, 0xFE18), (0xFE20, 0xFE2F), (0xFE31, 0xFE51), (0xFE54, 0xFE66),
    (0xFE68, 0xFE6B), (0xFE70, 0xFE74), (0xFE76, 0xFEFC), (0xFEFF, 0xFEFF), (0xFF01, 0xFFBE),
    (0xFFC2, 0xFFC7), (0xFFCA, 0xFFCF), (0xFFD2, 0xFFD7), (0xFFDA, 0xFFDC), (0xFFE0, 0xFFE6),
    (0xFFE8, 0xFFEE), (0x10000, 0x1000B), (0x1000D, 0x10026), (0x10028, 0x1003A),
    (0x1003C, 0x1003D), (0x1003F, 0x1004D), (0x10050, 0x1005D), (0x10080, 0x100FA),
    (0x10100, 0x10102), (0x10107, 0x10133), (0x10137, 0x1018E), (0x10190, 0x1019C),
    (0x101A0, 0x101A0), (0x101D0, 0x101FD), (0x10280, 0x1029C), (0x102A0, 0x102D0),
    (0x102E0, 0x102FB), (0x10300, 0x10323), (0x1032D, 0x1034A), (0x10350, 0x1037A),
    (0x10380, 0x1039D), (0x1039F, 0x103C3), (0x103C8, 0x103D5), (0x10400, 0x1049D),
    (0x104A0, 0x104A9), (0x104B0, 0x104D3), (0x104D8, 0x104FB), (0x10500, 0x10527),
    (0x10530, 0x10563), (0x1056F, 0x1057A), (0x1057C, 0x1058A), (0x1058C, 0x10592),
    (0x10594, 0x10595), (0x10597, 0x105A1), (0x105A3, 0x105B1), (0x105B3, 0x105B9),
    (0x105BB, 0x105BC), (0x105C0, 0x105F3), (0x10600, 0x10736), (0x10740, 0x10755),
    (0x10760, 0x10767), (0x10780, 0x10785), (0x10787, 0x107B0), (0x107B2, 0x107BA),
    (0x10800, 0x10805), (0x10808, 0x10808), (0x1080A, 0x10835), (0x10837, 0x10838),
    (0x1083C, 0x1083C), (0x1083F, 0x10855), (0x10857, 0x1089E), (0x108A7, 0x108AF),
    (0x108E0, 0x108F2), (0x108F4, 0x108F5), (0x108FB, 0x1091B), (0x1091F, 0x10939),
    (0x1093F, 0x10959), (0x10980, 0x109B7), (0x109BC, 0x109CF), (0x109D2, 0x10A03),
    (0x10A05, 0x10A06), (0x10A0C, 0x10A13), (0x10A15, 0x10A17), (0x10A19, 0x10A35),
    (0x10A38, 0x10A3A), (0x10A3F, 0x10A48), (0x10A50, 0x10A58), (0x10A60, 0x10A9F),
    (0x10AC0, 0x10AE6), (0x10AEB, 0x10AF6), (0x10B00, 0x10B35), (0x10B39, 0x10B55),
    (0x10B58, 0x10B72), (0x10B78, 0x10B91), (0x10B99, 0x10B9C), (0x10BA9, 0x10BAF),
    (0x10C00, 0x10C48), (0x10C80, 0x10CB2), (0x10CC0, 0x10CF2), (0x10CFA, 0x10D27),
    (0x10D30, 0x10D39), (0x10D40, 0x10D65), (0x10D69, 0x10D85), (0x10D8E, 0x10D8F),
    (0x10E60, 0x10E7E), (0x10E80, 0x10EA9), (0x10EAB, 0x10EAD), (0x10EB0, 0x10EB1),
    (0x10EC2, 0x10EC7), (0x10ED0, 0x10ED8), (0x10EFA, 0x10F27), (0x10F30, 0x10F59),
    (0x10F70, 0x10F89), (0x10FB0, 0x10FCB), (0x10FE0, 0x10FF6), (0x11000, 0x1104D),
    (0x11052, 0x11075), (0x1107F, 0x110BC), (0x110BE, 0x110C2), (0x110D0, 0x110E8),
    (0x110F0, 0x110F9), (0x11100, 0x11134), (0x11136, 0x11147), (0x11150, 0x11176),
    (0x11180, 0x111DF), (0x111E1, 0x111F4), (0x11200, 0x11211), (0x11213, 0x11241),
    (0x11280, 0x11286), (0x11288, 0x11288), (0x1128A, 0x1128D), (0x1128F, 0x1129D),
    (0x1129F, 0x112A9), (0x112B0, 0x112EA), (0x112F0, 0x112F9), (0x11300, 0x11303),
    (0x11305, 0x1130C), (0x1130F, 0x11310), (0x11313, 0x11328), (0x1132A, 0x11330),
    (0x11332, 0x11333), (0x11335, 0x11339), (0x1133B, 0x11344), (0x11347, 0x11348),
    (0x1134B, 0x1134D), (0x11350, 0x11350), (0x11357, 0x11357), (0x1135D, 0x11363),
    (0x11366, 0x1136C), (0x11370, 0x11374), (0x11380, 0x11389), (0x1138B, 0x1138B),
    (0x1138E, 0x1138E), (0x11390, 0x113B5), (0x113B7, 0x113C0), (0x113C2, 0x113C2),
    (0x113C5, 0x113C5), (0x113C7, 0x113CA), (0x113CC, 0x113D5), (0x113D7, 0x113D8),
    (0x113E1, 0x113E2), (0x11400, 0x1145B), (0x1145D, 0x11461), (0x11480, 0x114C7),
    (0x114D0, 0x114D9), (0x11580, 0x115B5), (0x115B8, 0x115DD), (0x11600, 0x11644),
    (0x11650, 0x11659), (0x11660, 0x1166C), (0x11680, 0x116B9), (0x116C0, 0x116C9),
    (0x116D0, 0x116E3), (0x11700, 0x1171A), (0x1171D, 0x1172B), (0x11730, 0x11746),
    (0x11800, 0x1183B), (0x118A0, 0x118F2), (0x118FF, 0x11906), (0x11909, 0x11909),
    (0x1190C, 0x11913), (0x11915, 0x11916), (0x11918, 0x11935), (0x11937, 0x11938),
    (0x1193B, 0x11946), (0x11950, 0x11959), (0x119A0, 0x119A7), (0x119AA, 0x119D7),
    (0x119DA, 0x119E4), (0x11A00, 0x11A47), (0x11A50, 0x11AA2), (0x11AB0, 0x11AF8),
    (0x11B00, 0x11B09), (0x11B60, 0x11B67), (0x11BC0, 0x11BE1), (0x11BF0, 0x11BF9),
    (0x11C00, 0x11C08), (0x11C0A, 0x11C36), (0x11C38, 0x11C45), (0x11C50, 0x11C6C),
    (0x11C70, 0x11C8F), (0x11C92, 0x11CA7), (0x11CA9, 0x11CB6), (0x11D00, 0x11D06),
    (0x11D08, 0x11D09), (0x11D0B, 0x11D36), (0x11D3A, 0x11D3A), (0x11D3C, 0x11D3D),
    (0x11D3F, 0x11D47), (0x11D50, 0x11D59), (0x11D60, 0x11D65), (0x11D67, 0x11D68),
    (0x11D6A, 0x11D8E), (0x11D90, 0x11D91), (0x11D93, 0x11D98), (0x11DA0, 0x11DA9),
    (0x11DB0, 0x11DDB), (0x11DE0, 0x11DE9), (0x11EE0, 0x11EF8), (0x11F00, 0x11F10),
    (0x11F12, 0x11F3A), (0x11F3E, 0x11F5A), (0x11FB0, 0x11FB0), (0x11FC0, 0x11FF1),
    (0x11FFF, 0x12399), (0x12400, 0x1246E), (0x12470, 0x12474), (0x12480, 0x12543),
    (0x12F90, 0x12FF2), (0x13000, 0x1342F), (0x13440, 0x13455), (0x13460, 0x143FA),
    (0x14400, 0x14646), (0x16100, 0x16139), (0x16800, 0x16A38), (0x16A40, 0x16A5E),
    (0x16A60, 0x16A69), (0x16A6E, 0x16ABE), (0x16AC0, 0x16AC9), (0x16AD0, 0x16AED),
    (0x16AF0, 0x16AF5), (0x16B00, 0x16B45), (0x16B50, 0x16B59), (0x16B5B, 0x16B61),
    (0x16B63, 0x16B77), (0x16B7D, 0x16B8F), (0x16D40, 0x16D79), (0x16E40, 0x16E9A),
    (0x16EA0, 0x16EB8), (0x16EBB, 0x16ED3), (0x16F00, 0x16F4A), (0x16F4F, 0x16F87),
    (0x16F8F, 0x16F9F), (0x16FE0, 0x16FE4), (0x16FF0, 0x16FF6), (0x17000, 0x18CD5),
    (0x18CFF, 0x18D1E), (0x18D80, 0x18DF2), (0x1AFF0, 0x1AFF3), (0x1AFF5, 0x1AFFB),
    (0x1AFFD, 0x1AFFE), (0x1B000, 0x1B122), (0x1B132, 0x1B132), (0x1B150, 0x1B152),
    (0x1B155, 0x1B155), (0x1B164, 0x1B167), (0x1B170, 0x1B2FB), (0x1BC00, 0x1BC6A),
    (0x1BC70, 0x1BC7C), (0x1BC80, 0x1BC88), (0x1BC90, 0x1BC99), (0x1BC9C, 0x1BCA3),
    (0x1CC00, 0x1CCFC), (0x1CD00, 0x1CEB3), (0x1CEBA, 0x1CED0), (0x1CEE0, 0x1CEF0),
    (0x1CF00, 0x1CF2D), (0x1CF30, 0x1CF46), (0x1CF50, 0x1CFC3), (0x1D000, 0x1D0F5),
    (0x1D100, 0x1D126), (0x1D129, 0x1D1EA), (0x1D200, 0x1D245), (0x1D2C0, 0x1D2D3),
    (0x1D2E0, 0x1D2F3), (0x1D300, 0x1D356), (0x1D360, 0x1D378), (0x1D400, 0x1D454),
    (0x1D456, 0x1D49C), (0x1D49E, 0x1D49F), (0x1D4A2, 0x1D4A2), (0x1D4A5, 0x1D4A6),
    (0x1D4A9, 0x1D4AC), (0x1D4AE, 0x1D4B9), (0x1D4BB, 0x1D4BB), (0x1D4BD, 0x1D4C3),
    (0x1D4C5, 0x1D505), (0x1D507, 0x1D50A), (0x1D50D, 0x1D514), (0x1D516, 0x1D51C),
    (0x1D51E, 0x1D539), (0x1D53B, 0x1D53E), (0x1D540, 0x1D544), (0x1D546, 0x1D546),
    (0x1D54A, 0x1D550), (0x1D552, 0x1D6A5), (0x1D6A8, 0x1D7CB), (0x1D7CE, 0x1DA8B),
    (0x1DA9B, 0x1DA9F), (0x1DAA1, 0x1DAAF), (0x1DF00, 0x1DF1E), (0x1DF25, 0x1DF2A),
    (0x1E000, 0x1E006), (0x1E008, 0x1E018), (0x1E01B, 0x1E021), (0x1E023, 0x1E024),
    (0x1E026, 0x1E02A), (0x1E030, 0x1E06D), (0x1E08F, 0x1E08F), (0x1E100, 0x1E12C),
    (0x1E130, 0x1E13D), (0x1E140, 0x1E149), (0x1E14E, 0x1E14F), (0x1E290, 0x1E2AE),
    (0x1E2C0, 0x1E2F9), (0x1E2FF, 0x1E2FF), (0x1E4D0, 0x1E4F9), (0x1E5D0, 0x1E5FA),
    (0x1E5FF, 0x1E5FF), (0x1E6C0, 0x1E6DE), (0x1E6E0, 0x1E6F5), (0x1E6FE, 0x1E6FF),
    (0x1E7E0, 0x1E7E6), (0x1E7E8, 0x1E7EB), (0x1E7ED, 0x1E7EE), (0x1E7F0, 0x1E7FE),
    (0x1E800, 0x1E8C4), (0x1E8C7, 0x1E8D6), (0x1E900, 0x1E94B), (0x1E950, 0x1E959),
    (0x1E95E, 0x1E95F), (0x1EC71, 0x1ECB4), (0x1ED01, 0x1ED3D), (0x1EE00, 0x1EE03),
    (0x1EE05, 0x1EE1F), (0x1EE21, 0x1EE22), (0x1EE24, 0x1EE24), (0x1EE27, 0x1EE27),
    (0x1EE29, 0x1EE32), (0x1EE34, 0x1EE37), (0x1EE39, 0x1EE39), (0x1EE3B, 0x1EE3B),
    (0x1EE42, 0x1EE42), (0x1EE47, 0x1EE47), (0x1EE49, 0x1EE49), (0x1EE4B, 0x1EE4B),
    (0x1EE4D, 0x1EE4F), (0x1EE51, 0x1EE52), (0x1EE54, 0x1EE54), (0x1EE57, 0x1EE57),
    (0x1EE59, 0x1EE59), (0x1EE5B, 0x1EE5B), (0x1EE5D, 0x1EE5D), (0x1EE5F, 0x1EE5F),
    (0x1EE61, 0x1EE62), (0x1EE64, 0x1EE64), (0x1EE67, 0x1EE6A), (0x1EE6C, 0x1EE72),
    (0x1EE74, 0x1EE77), (0x1EE79, 0x1EE7C), (0x1EE7E, 0x1EE7E), (0x1EE80, 0x1EE89),
    (0x1EE8B, 0x1EE9B), (0x1EEA1, 0x1EEA3), (0x1EEA5, 0x1EEA9), (0x1EEAB, 0x1EEBB),
    (0x1EEF0, 0x1EEF1), (0x1F000, 0x1F02B), (0x1F030, 0x1F093), (0x1F0A0, 0x1F0AE),
    (0x1F0B1, 0x1F0BF), (0x1F0C1, 0x1F0CF), (0x1F0D1, 0x1F0F5), (0x1F101, 0x1F1AD),
    (0x1F1E6, 0x1F202), (0x1F210, 0x1F23B), (0x1F240, 0x1F248), (0x1F250, 0x1F251),
    (0x1F260, 0x1F265), (0x1F300, 0x1F6D8), (0x1F6DC, 0x1F6EC), (0x1F6F0, 0x1F6FC),
    (0x1F700, 0x1F7D9), (0x1F7E0, 0x1F7EB), (0x1F7F0, 0x1F7F0), (0x1F800, 0x1F80B),
    (0x1F810, 0x1F847), (0x1F850, 0x1F859), (0x1F860, 0x1F887), (0x1F890, 0x1F8AD),
    (0x1F8B0, 0x1F8BB), (0x1F8C0, 0x1F8C1), (0x1F8D0, 0x1F8D8), (0x1F900, 0x1FA57),
    (0x1FA60, 0x1FA6D), (0x1FA70, 0x1FA7C), (0x1FA80, 0x1FA8A), (0x1FA8E, 0x1FAC6),
    (0x1FAC8, 0x1FAC8), (0x1FACD, 0x1FADC), (0x1FADF, 0x1FAEA), (0x1FAEF, 0x1FAF8),
    (0x1FB00, 0x1FB92), (0x1FB94, 0x1FBFA), (0x20000, 0x2A6DF), (0x2A700, 0x2B81D),
    (0x2B820, 0x2CEAD), (0x2CEB0, 0x2EBE0), (0x2EBF0, 0x2EE5D), (0x2F800, 0x2FA1D),
    (0x30000, 0x3134A), (0x31350, 0x33479), (0xE0100, 0xE01EF)]

/-- Runs of the characters that stand for nothing. -/
def ignoredRanges : List (Nat × Nat) :=
  [(0xAD, 0xAD), (0x34F, 0x34F), (0x115F, 0x1160), (0x17B4, 0x17B5), (0x180B, 0x180F),
    (0x200B, 0x200B), (0x2060, 0x2064), (0x206A, 0x206F), (0x3164, 0x3164), (0xFE00, 0xFE0F),
    (0xFEFF, 0xFEFF), (0xFFA0, 0xFFA0), (0x1BCA0, 0x1BCA3), (0x1D173, 0x1D17A), (0xE0100, 0xE01EF)]

/-- Runs of characters that stand for one other character each. -/
def replacedRuns : List Text.ShiftRun :=
  [⟨0x41, 0x5A, 1, 0x61⟩, ⟨0xC0, 0xD6, 1, 0xE0⟩, ⟨0xD8, 0xDE, 1, 0xF8⟩, ⟨0x100, 0x12E, 2, 0x101⟩,
    ⟨0x139, 0x13D, 2, 0x13A⟩, ⟨0x141, 0x147, 2, 0x142⟩, ⟨0x14A, 0x176, 2, 0x14B⟩,
    ⟨0x179, 0x17D, 2, 0x17A⟩, ⟨0x1A0, 0x1A4, 2, 0x1A1⟩, ⟨0x1CD, 0x1DB, 2, 0x1CE⟩,
    ⟨0x1DE, 0x1EE, 2, 0x1DF⟩, ⟨0x1F8, 0x21E, 2, 0x1F9⟩, ⟨0x222, 0x232, 2, 0x223⟩,
    ⟨0x246, 0x24E, 2, 0x247⟩, ⟨0x391, 0x3A1, 1, 0x3B1⟩, ⟨0x3A3, 0x3AB, 1, 0x3C3⟩,
    ⟨0x3D8, 0x3EE, 2, 0x3D9⟩, ⟨0x400, 0x40F, 1, 0x450⟩, ⟨0x410, 0x42F, 1, 0x430⟩,
    ⟨0x460, 0x480, 2, 0x461⟩, ⟨0x48A, 0x4BE, 2, 0x48B⟩, ⟨0x4C1, 0x4CD, 2, 0x4C2⟩,
    ⟨0x4D0, 0x52E, 2, 0x4D1⟩, ⟨0x531, 0x556, 1, 0x561⟩, ⟨0x10A0, 0x10C5, 1, 0x2D00⟩,
    ⟨0x13F8, 0x13FD, 1, 0x13F0⟩, ⟨0x1C90, 0x1CBA, 1, 0x10D0⟩, ⟨0x1D31, 0x1D39, 2, 0x65⟩,
    ⟨0x1D34, 0x1D3A, 2, 0x68⟩, ⟨0x1DAE, 0x1DB1, 1, 0x272⟩, ⟨0x1E00, 0x1E94, 2, 0x1E01⟩,
    ⟨0x1EA0, 0x1EFE, 2, 0x1EA1⟩, ⟨0x1F08, 0x1F0F, 1, 0x1F00⟩, ⟨0x1F18, 0x1F1D, 1, 0x1F10⟩,
    ⟨0x1F28, 0x1F2F, 1, 0x1F20⟩, ⟨0x1F38, 0x1F3F, 1, 0x1F30⟩, ⟨0x1F48, 0x1F4D, 1, 0x1F40⟩,
    ⟨0x1F59, 0x1F5F, 2, 0x1F51⟩, ⟨0x1F68, 0x1F6F, 1, 0x1F60⟩, ⟨0x2074, 0x2079, 1, 0x34⟩,
    ⟨0x2080, 0x2089, 1, 0x30⟩, ⟨0x2096, 0x2099, 1, 0x6B⟩, ⟨0x2135, 0x2138, 1, 0x5D0⟩,
    ⟨0x2460, 0x2468, 1, 0x31⟩, ⟨0x24B6, 0x24CF, 1, 0x61⟩, ⟨0x24D0, 0x24E9, 1, 0x61⟩,
    ⟨0x2C00, 0x2C2F, 1, 0x2C30⟩, ⟨0x2C67, 0x2C6B, 2, 0x2C68⟩, ⟨0x2C80, 0x2CE2, 2, 0x2C81⟩,
    ⟨0x313A, 0x313F, 1, 0x11B0⟩, ⟨0x3145, 0x314E, 1, 0x1109⟩, ⟨0x314F, 0x3163, 1, 0x1161⟩,
    ⟨0x3178, 0x317C, 1, 0x112B⟩, ⟨0x3269, 0x326D, 1, 0x110E⟩, ⟨0x32E4, 0x32E9, 1, 0x30CA⟩,
    ⟨0x32EE, 0x32F2, 1, 0x30DE⟩, ⟨0x32F5, 0x32FA, 1, 0x30E8⟩, ⟨0x32FB, 0x32FE, 1, 0x30EF⟩,
    ⟨0xA640, 0xA66C, 2, 0xA641⟩, ⟨0xA680, 0xA69A, 2, 0xA681⟩, ⟨0xA722, 0xA72E, 2, 0xA723⟩,
    ⟨0xA732, 0xA76E, 2, 0xA733⟩, ⟨0xA77E, 0xA786, 2, 0xA77F⟩, ⟨0xA796, 0xA7A8, 2, 0xA797⟩,
    ⟨0xA7B4, 0xA7C2, 2, 0xA7B5⟩, ⟨0xA7CC, 0xA7DA, 2, 0xA7CD⟩, ⟨0xAB70, 0xABBF, 1, 0x13A0⟩,
    ⟨0xFE41, 0xFE44, 1, 0x300C⟩, ⟨0xFF01, 0xFF20, 1, 0x21⟩, ⟨0xFF21, 0xFF3A, 1, 0x61⟩,
    ⟨0xFF3B, 0xFF5E, 1, 0x5B⟩, ⟨0xFF85, 0xFF8A, 1, 0x30CA⟩, ⟨0xFF8F, 0xFF93, 1, 0x30DE⟩,
    ⟨0xFF96, 0xFF9B, 1, 0x30E8⟩, ⟨0xFFAA, 0xFFAF, 1, 0x11B0⟩, ⟨0xFFB5, 0xFFBE, 1, 0x1109⟩,
    ⟨0xFFC2, 0xFFC7, 1, 0x1161⟩, ⟨0xFFCA, 0xFFCF, 1, 0x1167⟩, ⟨0xFFD2, 0xFFD7, 1, 0x116D⟩,
    ⟨0xFFE9, 0xFFEC, 1, 0x2190⟩, ⟨0x10400, 0x10427, 1, 0x10428⟩, ⟨0x104B0, 0x104D3, 1, 0x104D8⟩,
    ⟨0x10570, 0x10594, 2, 0x10597⟩, ⟨0x10571, 0x10579, 2, 0x10598⟩, ⟨0x1057D, 0x10589, 2, 0x105A4⟩,
    ⟨0x1058D, 0x10591, 2, 0x105B4⟩, ⟨0x10C80, 0x10CB2, 1, 0x10CC0⟩, ⟨0x10D50, 0x10D65, 1, 0x10D70⟩,
    ⟨0x118A0, 0x118BF, 1, 0x118C0⟩, ⟨0x16E40, 0x16E5F, 1, 0x16E60⟩, ⟨0x16EA0, 0x16EB8, 1, 0x16EBB⟩,
    ⟨0x1CCD6, 0x1CCEF, 1, 0x61⟩, ⟨0x1CCF0, 0x1CCF9, 1, 0x30⟩, ⟨0x1D400, 0x1D419, 1, 0x61⟩,
    ⟨0x1D41A, 0x1D433, 1, 0x61⟩, ⟨0x1D434, 0x1D44D, 1, 0x61⟩, ⟨0x1D44E, 0x1D466, 2, 0x61⟩,
    ⟨0x1D44F, 0x1D453, 2, 0x62⟩, ⟨0x1D457, 0x1D467, 2, 0x6A⟩, ⟨0x1D468, 0x1D481, 1, 0x61⟩,
    ⟨0x1D482, 0x1D49B, 1, 0x61⟩, ⟨0x1D4A9, 0x1D4AC, 1, 0x6E⟩, ⟨0x1D4AE, 0x1D4B5, 1, 0x73⟩,
    ⟨0x1D4B6, 0x1D4B9, 1, 0x61⟩, ⟨0x1D4BB, 0x1D4CF, 2, 0x66⟩, ⟨0x1D4BE, 0x1D4C2, 2, 0x69⟩,
    ⟨0x1D4C6, 0x1D4CE, 2, 0x71⟩, ⟨0x1D4D0, 0x1D4E9, 1, 0x61⟩, ⟨0x1D4EA, 0x1D503, 1, 0x61⟩,
    ⟨0x1D505, 0x1D509, 2, 0x62⟩, ⟨0x1D50D, 0x1D514, 1, 0x6A⟩, ⟨0x1D516, 0x1D51C, 1, 0x73⟩,
    ⟨0x1D51E, 0x1D537, 1, 0x61⟩, ⟨0x1D539, 0x1D53D, 2, 0x62⟩, ⟨0x1D53C, 0x1D546, 2, 0x65⟩,
    ⟨0x1D54A, 0x1D550, 1, 0x73⟩, ⟨0x1D552, 0x1D56B, 1, 0x61⟩, ⟨0x1D56C, 0x1D585, 1, 0x61⟩,
    ⟨0x1D586, 0x1D59F, 1, 0x61⟩, ⟨0x1D5A0, 0x1D5B9, 1, 0x61⟩, ⟨0x1D5BA, 0x1D5D3, 1, 0x61⟩,
    ⟨0x1D5D4, 0x1D5ED, 1, 0x61⟩, ⟨0x1D5EE, 0x1D607, 1, 0x61⟩, ⟨0x1D608, 0x1D621, 1, 0x61⟩,
    ⟨0x1D622, 0x1D63B, 1, 0x61⟩, ⟨0x1D63C, 0x1D655, 1, 0x61⟩, ⟨0x1D656, 0x1D66F, 1, 0x61⟩,
    ⟨0x1D670, 0x1D689, 1, 0x61⟩, ⟨0x1D68A, 0x1D6A3, 1, 0x61⟩, ⟨0x1D6A8, 0x1D6B8, 1, 0x3B1⟩,
    ⟨0x1D6BA, 0x1D6C0, 1, 0x3C3⟩, ⟨0x1D6C2, 0x1D6D2, 1, 0x3B1⟩, ⟨0x1D6D4, 0x1D6DA, 1, 0x3C3⟩,
    ⟨0x1D6E2, 0x1D6F2, 1, 0x3B1⟩, ⟨0x1D6F4, 0x1D6FA, 1, 0x3C3⟩, ⟨0x1D6FC, 0x1D70C, 1, 0x3B1⟩,
    ⟨0x1D70E, 0x1D714, 1, 0x3C3⟩, ⟨0x1D71C, 0x1D72C, 1, 0x3B1⟩, ⟨0x1D72E, 0x1D734, 1, 0x3C3⟩,
    ⟨0x1D736, 0x1D746, 1, 0x3B1⟩, ⟨0x1D748, 0x1D74E, 1, 0x3C3⟩, ⟨0x1D756, 0x1D766, 1, 0x3B1⟩,
    ⟨0x1D768, 0x1D76E, 1, 0x3C3⟩, ⟨0x1D770, 0x1D780, 1, 0x3B1⟩, ⟨0x1D782, 0x1D788, 1, 0x3C3⟩,
    ⟨0x1D790, 0x1D7A0, 1, 0x3B1⟩, ⟨0x1D7A2, 0x1D7A8, 1, 0x3C3⟩, ⟨0x1D7AA, 0x1D7BA, 1, 0x3B1⟩,
    ⟨0x1D7BC, 0x1D7C2, 1, 0x3C3⟩, ⟨0x1D7CE, 0x1D7D7, 1, 0x30⟩, ⟨0x1D7D8, 0x1D7E1, 1, 0x30⟩,
    ⟨0x1D7E2, 0x1D7EB, 1, 0x30⟩, ⟨0x1D7EC, 0x1D7F5, 1, 0x30⟩, ⟨0x1D7F6, 0x1D7FF, 1, 0x30⟩,
    ⟨0x1E030, 0x1E038, 1, 0x430⟩, ⟨0x1E03C, 0x1E046, 1, 0x43E⟩, ⟨0x1E051, 0x1E059, 1, 0x430⟩,
    ⟨0x1E05F, 0x1E064, 1, 0x443⟩, ⟨0x1E900, 0x1E921, 1, 0x1E922⟩, ⟨0x1EE0A, 0x1EE0D, 1, 0x643⟩,
    ⟨0x1EE2A, 0x1EE2D, 1, 0x643⟩, ⟨0x1F130, 0x1F149, 1, 0x61⟩, ⟨0x1FBF0, 0x1FBF9, 1, 0x30⟩]

/-- Further characters that stand for one other character each: from the given one on, they stand
for the characters of the text in their order. -/
def replacedLetters : List (Nat × String) :=
  [(0xA0, " "), (0xAA, "a"), (0xB2, "23"), (0xB5, "\u03BC"), (0xB9, "1o"), (0x134, "\u0135"),
    (0x136, "\u0137"), (0x178, "\u00FF"), (0x17F, "s"), (0x181, "\u0253\u0183"), (0x184, "\u0185"),
    (0x186, "\u0254\u0188"), (0x189, "\u0256\u0257\u018C"), (0x18E, "\u01DD\u0259\u025B\u0192"),
    (0x193, "\u0260\u0263"), (0x196, "\u0269\u0268\u0199"), (0x19C, "\u026F\u0272"),
    (0x19F, "\u0275"), (0x1A6, "\u0280\u01A8"), (0x1A9, "\u0283"), (0x1AC, "\u01AD"),
    (0x1AE, "\u0288\u01B0"), (0x1B1, "\u028A\u028B\u01B4"), (0x1B5, "\u01B6"),
    (0x1B7, "\u0292\u01B9"), (0x1BC, "\u01BD"), (0x1F4, "\u01F5"), (0x1F6, "\u0195\u01BF"),
    (0x220, "\u019E"), (0x23A, "\u2C65\u023C"), (0x23D, "\u019A\u2C66"), (0x241, "\u0242"),
    (0x243, "\u0180\u0289\u028C"), (0x2B0, "h\u0266jr\u0279\u027B\u0281wy"),
    (0x2E0, "\u0263lsx\u0295"), (0x340, "\u0300\u0301"), (0x343, "\u0313"), (0x345, "\u03B9"),
    (0x370, "\u0371"), (0x372, "\u0373"), (0x374, "\u02B9"), (0x376, "\u0377"), (0x37E, ";\u03F3"),
    (0x386, "\u03AC\u00B7\u03AD\u03AE\u03AF"), (0x38C, "\u03CC"), (0x38E, "\u03CD\u03CE"),
    (0x3CF, "\u03D7\u03B2\u03B8\u03C5\u03CD\u03CB\u03C6\u03C0"), (0x3F0, "\u03BA\u03C1\u03C3"),
    (0x3F4, "\u03B8\u03B5"), (0x3F7, "\u03F8"), (0x3F9, "\u03C3\u03FB"),
    (0x3FD, "\u037B\u037C\u037D"), (0x4C0, "\u04CF"), (0xF0C, "\u0F0B"), (0x10C7, "\u2D27"),
    (0x10CD, "\u2D2D"), (0x10FC, "\u10DC"),
    (0x1C80, "\u0432\u0434\u043E\u0441\u0442\u0442\u044A\u0463\uA64B\u1C8A"),
    (0x1CBD, "\u10FD\u10FE\u10FF"), (0x1D2C, "a\u00E6b"), (0x1D30, "d"), (0x1D32, "\u01DD"),
    (0x1D3C, "o\u0223prtuwa\u0250\u0251\u1D02bde\u0259\u025B\u025Cg"),
    (0x1D4F, "km\u014Bo\u0254\u1D16\u1D17ptu\u1D1D\u026Fv\u1D25\u03B2\u03B3\u03B4\u03C6"),
    (0x1D61, "\u03C7iruv\u03B2\u03B3\u03C1\u03C6\u03C7"), (0x1D78, "\u043D"),
    (0x1D9B, "\u0252c\u0255\u00F0\u025Cf\u025F\u0261\u0265\u0268\u0269\u026A\u1D7B\u029D"),
    (0x1DA9, "\u026D\u1D85\u029F\u0271\u0270"),
    (0x1DB2, "\u0278\u0282\u0283\u01AB\u0289\u028A\u1D1C\u028B\u028Cz\u0290\u0291\u0292"),
    (0x1DBF, "\u03B8"), (0x1E9B, "\u1E61"), (0x1E9E, "\u00DF"), (0x1F71, "\u03AC"),
    (0x1F73, "\u03AD"), (0x1F75, "\u03AE"), (0x1F77, "\u03AF"), (0x1F79, "\u03CC"),
    (0x1F7B, "\u03CD"), (0x1F7D, "\u03CE"), (0x1FB8, "\u1FB0\u1FB1\u1F70\u03AC"),
    (0x1FBE, "\u03B9"), (0x1FC8, "\u1F72\u03AD\u1F74\u03AE"), (0x1FD3, "\u0390"),
    (0x1FD8, "\u1FD0\u1FD1\u1F76\u03AF"), (0x1FE3, "\u03B0"),
    (0x1FE8, "\u1FE0\u1FE1\u1F7A\u03CD\u1FE5"), (0x1FEF, "`"), (0x1FF8, "\u1F78\u03CC\u1F7C\u03CE"),
    (0x2000, "           "), (0x2011, "\u2010"), (0x202F, " "), (0x205F, " "), (0x2070, "0i"),
    (0x207A, "+\u2212=()n"), (0x208A, "+\u2212=()"), (0x2090, "aeox\u0259h"), (0x209A, "pst"),
    (0x2102, "c"), (0x2107, "\u025B"), (0x210A, "ghhhh\u0127iill"), (0x2115, "n"),
    (0x2119, "pqrrr"), (0x2124, "z"), (0x2126, "\u03C9"), (0x2128, "z"), (0x212A, "k\u00E5bc"),
    (0x212F, "eef\u214Emo"), (0x2139, "i"), (0x213C, "\u03C0\u03B3\u03B3\u03C0\u2211"),
    (0x2145, "ddeij"), (0x2160, "i"), (0x2164, "v"), (0x2169, "x"), (0x216C, "lcdmi"),
    (0x2174, "v"), (0x2179, "x"), (0x217C, "lcdm"), (0x2183, "\u2184"), (0x2329, "\u3008\u3009"),
    (0x24EA, "0"), (0x2C60, "\u2C61"), (0x2C62, "\u026B\u1D7D\u027D"),
    (0x2C6D, "\u0251\u0271\u0250\u0252"), (0x2C72, "\u2C73"), (0x2C75, "\u2C76"),
    (0x2C7C, "jv\u023F\u0240"), (0x2CEB, "\u2CEC"), (0x2CED, "\u2CEE"), (0x2CF2, "\u2CF3"),
    (0x2D6F, "\u2D61"), (0x2E9F, "\u6BCD"), (0x2EF3, "\u9F9F"),
    (0x2F00, "\u4E00\u4E28\u4E36\u4E3F\u4E59\u4E85\u4E8C\u4EA0\u4EBA\u513F\u5165\u516B\u5182"),
    (0x2F0D, "\u5196\u51AB\u51E0\u51F5\u5200\u529B\u52F9\u5315\u531A\u5338\u5341\u535C\u5369"),
    (0x2F1A, "\u5382\u53B6\u53C8\u53E3\u56D7\u571F\u58EB\u5902\u590A\u5915\u5927\u5973\u5B50"),
    (0x2F27, "\u5B80\u5BF8\u5C0F\u5C22\u5C38\u5C6E\u5C71\u5DDB\u5DE5\u5DF1\u5DFE\u5E72\u5E7A"),
    (0x2F34, "\u5E7F\u5EF4\u5EFE\u5F0B\u5F13\u5F50\u5F61\u5F73\u5FC3\u6208\u6236\u624B\u652F"),
    (0x2F41, "\u6534\u6587\u6597\u65A4\u65B9\u65E0\u65E5\u66F0\u6708\u6728\u6B20\u6B62\u6B79"),
    (0x2F4E, "\u6BB3\u6BCB\u6BD4\u6BDB\u6C0F\u6C14\u6C34\u706B\u722A\u7236\u723B\u723F\u7247"),
    (0x2F5B, "\u7259\u725B\u72AC\u7384\u7389\u74DC\u74E6\u7518\u751F\u7528\u7530\u758B\u7592"),
    (0x2F68, "\u7676\u767D\u76AE\u76BF\u76EE\u77DB\u77E2\u77F3\u793A\u79B8\u79BE\u7A74\u7ACB"),
    (0x2F75, "\u7AF9\u7C73\u7CF8\u7F36\u7F51\u7F8A\u7FBD\u8001\u800C\u8012\u8033\u807F\u8089"),
    (0x2F82, "\u81E3\u81EA\u81F3\u81FC\u820C\u821B\u821F\u826E\u8272\u8278\u864D\u866B\u8840"),
    (0x2F8F, "\u884C\u8863\u897E\u898B\u89D2\u8A00\u8C37\u8C46\u8C55\u8C78\u8C9D\u8D64\u8D70"),
    (0x2F9C, "\u8DB3\u8EAB\u8ECA\u8F9B\u8FB0\u8FB5\u9091\u9149\u91C6\u91CC\u91D1\u9577\u9580"),
    (0x2FA9, "\u961C\u96B6\u96B9\u96E8\u9751\u975E\u9762\u9769\u97CB\u97ED\u97F3\u9801\u98A8"),
    (0x2FB6, "\u98DB\u98DF\u9996\u9999\u99AC\u9AA8\u9AD8\u9ADF\u9B25\u9B2F\u9B32\u9B3C\u9B5A"),
    (0x2FC3, "\u9CE5\u9E75\u9E7F\u9EA5\u9EBB\u9EC3\u9ECD\u9ED1\u9EF9\u9EFD\u9F0E\u9F13\u9F20"),
    (0x2FD0, "\u9F3B\u9F4A\u9F52\u9F8D\u9F9C\u9FA0"), (0x3000, " "), (0x3002, "."),
    (0x3036, "\u3012"), (0x3038, "\u5341\u5344\u5345"),
    (0x3131, "\u1100\u1101\u11AA\u1102\u11AC\u11AD\u1103\u1104\u1105"),
    (0x3140, "\u111A\u1106\u1107\u1108\u1121"),
    (0x3165, "\u1114\u1115\u11C7\u11C8\u11CC\u11CE\u11D3\u11D7\u11D9\u111C\u11DD\u11DF\u111D"),
    (0x3172, "\u111E\u1120\u1122\u1123\u1127\u1129"),
    (0x317D, "\u1132\u1136\u1140\u1147\u114C\u11F1\u11F2\u1157\u1158\u1159\u1184\u1185\u1188"),
    (0x318A, "\u1191\u1192\u1194\u119E\u11A1"),
    (0x3192, "\u4E00\u4E8C\u4E09\u56DB\u4E0A\u4E2D\u4E0B\u7532\u4E59\u4E19\u4E01\u5929\u5730"),
    (0x319F, "\u4EBA"), (0x3244, "\u554F\u5E7C\u6587\u7B8F"),
    (0x3260, "\u1100\u1102\u1103\u1105\u1106\u1107\u1109\u110B\u110C"),
    (0x326E, "\uAC00\uB098\uB2E4\uB77C\uB9C8\uBC14\uC0AC\uC544\uC790\uCC28\uCE74\uD0C0\uD30C"),
    (0x327B, "\uD558"), (0x327E, "\uC6B0"),
    (0x3280, "\u4E00\u4E8C\u4E09\u56DB\u4E94\u516D\u4E03\u516B\u4E5D\u5341\u6708\u706B\u6C34"),
    (0x328D, "\u6728\u91D1\u571F\u65E5\u682A\u6709\u793E\u540D\u7279\u8CA1\u795D\u52B4\u79D8"),
    (0x329A, "\u7537\u5973\u9069\u512A\u5370\u6CE8\u9805\u4F11\u5199\u6B63\u4E0A\u4E2D\u4E0B"),
    (0x32A7, "\u5DE6\u53F3\u533B\u5B97\u5B66\u76E3\u4F01\u8CC7\u5354\u591C"),
    (0x32D0, "\u30A2\u30A4\u30A6\u30A8\u30AA\u30AB\u30AD\u30AF\u30B1\u30B3\u30B5\u30B7\u30B9"),
    (0x32DD, "\u30BB\u30BD\u30BF\u30C1\u30C4\u30C6\u30C8"), (0x32EA, "\u30D2\u30D5\u30D8\u30DB"),
    (0x32F3, "\u30E4\u30E6"), (0xA69C, "\u044A\u044C"), (0xA770, "\uA76F"), (0xA779, "\uA77A"),
    (0xA77B, "\uA77C"), (0xA77D, "\u1D79"), (0xA78B, "\uA78C"), (0xA78D, "\u0265"),
    (0xA790, "\uA791"), (0xA792, "\uA793"), (0xA7AA, "\u0266\u025C\u0261\u026C\u026A"),
    (0xA7B0, "\u029E\u0287\u029D\uAB53"), (0xA7C4, "\uA794\u0282\u1D8E\uA7C8"), (0xA7C9, "\uA7CA"),
    (0xA7CB, "\u0264"), (0xA7DC, "\u019B"), (0xA7F1, "scfq\uA7F6"), (0xA7F8, "\u0127\u0153"),
    (0xAB5C, "\uA727\uAB37\u026B\uAB52"), (0xAB69, "\u028D"),
    (0xF900, "\u8C48\u66F4\u8ECA\u8CC8\u6ED1\u4E32\u53E5\u9F9C\u9F9C\u5951\u91D1\u5587\u5948"),
    (0xF90D, "\u61F6\u7669\u7F85\u863F\u87BA\u88F8\u908F\u6A02\u6D1B\u70D9\u73DE\u843D\u916A"),
    (0xF91A, "\u99F1\u4E82\u5375\u6B04\u721B\u862D\u9E1E\u5D50\u6FEB\u85CD\u8964\u62C9\u81D8"),
    (0xF927, "\u881F\u5ECA\u6717\u6D6A\u72FC\u90CE\u4F86\u51B7\u52DE\u64C4\u6AD3\u7210\u76E7"),
    (0xF934, "\u8001\u8606\u865C\u8DEF\u9732\u9B6F\u9DFA\u788C\u797F\u7DA0\u83C9\u9304\u9E7F"),
    (0xF941, "\u8AD6\u58DF\u5F04\u7C60\u807E\u7262\u78CA\u8CC2\u96F7\u58D8\u5C62\u6A13\u6DDA"),
    (0xF94E, "\u6F0F\u7D2F\u7E37\u964B\u52D2\u808B\u51DC\u51CC\u7A1C\u7DBE\u83F1\u9675\u8B80"),
    (0xF95B, "\u62CF\u6A02\u8AFE\u4E39\u5BE7\u6012\u7387\u7570\u5317\u78FB\u4FBF\u5FA9\u4E0D"),
    (0xF968, "\u6CCC\u6578\u7D22\u53C3\u585E\u7701\u8449\u8AAA\u6BBA\u8FB0\u6C88\u62FE\u82E5"),
    (0xF975, "\u63A0\u7565\u4EAE\u5169\u51C9\u6881\u7CE7\u826F\u8AD2\u91CF\u52F5\u5442\u5973"),
    (0xF982, "\u5EEC\u65C5\u6FFE\u792A\u95AD\u9A6A\u9E97\u9ECE\u529B\u66C6\u6B77\u8F62\u5E74"),
    (0xF98F, "\u6190\u6200\u649A\u6F23\u7149\u7489\u79CA\u7DF4\u806F\u8F26\u84EE\u9023\u934A"),
    (0xF99C, "\u5217\u52A3\u54BD\u70C8\u88C2\u8AAA\u5EC9\u5FF5\u637B\u6BAE\u7C3E\u7375\u4EE4"),
    (0xF9A9, "\u56F9\u5BE7\u5DBA\u601C\u73B2\u7469\u7F9A\u8046\u9234\u96F6\u9748\u9818\u4F8B"),
    (0xF9B6, "\u79AE\u91B4\u96B8\u60E1\u4E86\u50DA\u5BEE\u5C3F\u6599\u6A02\u71CE\u7642\u84FC"),
    (0xF9C3, "\u907C\u9F8D\u6688\u962E\u5289\u677B\u67F3\u6D41\u6E9C\u7409\u7559\u786B\u7D10"),
    (0xF9D0, "\u985E\u516D\u622E\u9678\u502B\u5D19\u6DEA\u8F2A\u5F8B\u6144\u6817\u7387\u9686"),
    (0xF9DD, "\u5229\u540F\u5C65\u6613\u674E\u68A8\u6CE5\u7406\u75E2\u7F79\u88CF\u88E1\u91CC"),
    (0xF9EA, "\u96E2\u533F\u6EBA\u541D\u71D0\u7498\u85FA\u96A3\u9C57\u9E9F\u6797\u6DCB\u81E8"),
    (0xF9F7, "\u7ACB\u7B20\u7C92\u72C0\u7099\u8B58\u4EC0\u8336\u523A\u5207\u5EA6\u62D3\u7CD6"),
    (0xFA04, "\u5B85\u6D1E\u66B4\u8F3B\u884C\u964D\u898B\u5ED3\u5140\u55C0"), (0xFA10, "\u585A"),
    (0xFA12, "\u6674"), (0xFA15, "\u51DE\u732A\u76CA\u793C\u795E\u7965\u798F\u9756\u7CBE\u7FBD"),
    (0xFA20, "\u8612"), (0xFA22, "\u8AF8"), (0xFA25, "\u9038\u90FD"),
    (0xFA2A, "\u98EF\u98FC\u9928\u9DB4\u90DE\u96B7\u4FAE\u50E7\u514D\u52C9\u52E4\u5351\u559D"),
    (0xFA37, "\u5606\u5668\u5840\u58A8\u5C64\u5C6E\u6094\u6168\u618E\u61F2\u654F\u65E2\u6691"),
    (0xFA44, "\u6885\u6D77\u6E1A\u6F22\u716E\u722B\u7422\u7891\u793E\u7949\u7948\u7950\u7956"),
    (0xFA51, "\u795D\u798D\u798E\u7A40\u7A81\u7BC0\u7DF4\u7E09\u7E41\u7F72\u8005\u81ED\u8279"),
    (0xFA5E, "\u8279\u8457\u8910\u8996\u8B01\u8B39\u8CD3\u8D08\u8FB6\u9038\u96E3\u97FF\u983B"),
    (0xFA6B, "\u6075𤋮\u8218"),
    (0xFA70, "\u4E26\u51B5\u5168\u4F80\u5145\u5180\u52C7\u52FA\u559D\u5555\u5599\u55E2\u585A"),
    (0xFA7D, "\u58B3\u5944\u5954\u5A62\u5B28\u5ED2\u5ED9\u5F69\u5FAD\u60D8\u614E\u6108\u618E"),
    (0xFA8A, "\u6160\u61F2\u6234\u63C4\u641C\u6452\u6556\u6674\u6717\u671B\u6756\u6B79\u6BBA"),
    (0xFA97, "\u6D41\u6EDB\u6ECB\u6F22\u701E\u716E\u77A7\u7235\u72AF\u732A\u7471\u7506\u753B"),
    (0xFAA4, "\u761D\u761F\u76CA\u76DB\u76F4\u774A\u7740\u78CC\u7AB1\u7BC0\u7C7B\u7D5B\u7DF4"),
    (0xFAB1, "\u7F3E\u8005\u8352\u83EF\u8779\u8941\u8986\u8996\u8ABF\u8AF8\u8ACB\u8B01\u8AFE"),
    (0xFABE, "\u8AED\u8B39\u8B8A\u8D08\u8F38\u9072\u9199\u9276\u967C\u96E3\u9756\u97DB\u97FF"),
    (0xFACB, "\u980B\u983B\u9B12\u9F9C𢡊𢡄𣏕\u3B9D\u4018\u4039𥉉𥳐𧻓\u9F43\u9F8E"),
    (0xFB20, "\u05E2\u05D0\u05D3\u05D4\u05DB\u05DC\u05DD\u05E8\u05EA+"),
    (0xFB50, "\u0671\u0671\u067B\u067B\u067B\u067B\u067E\u067E\u067E\u067E\u0680\u0680\u0680"),
    (0xFB5D, "\u0680\u067A\u067A\u067A\u067A\u067F\u067F\u067F\u067F\u0679\u0679\u0679\u0679"),
    (0xFB6A, "\u06A4\u06A4\u06A4\u06A4\u06A6\u06A6\u06A6\u06A6\u0684\u0684\u0684\u0684\u0683"),
    (0xFB77, "\u0683\u0683\u0683\u0686\u0686\u0686\u0686\u0687\u0687\u0687\u0687\u068D\u068D"),
    (0xFB84, "\u068C\u068C\u068E\u068E\u0688\u0688\u0698\u0698\u0691\u0691\u06A9\u06A9\u06A9"),
    (0xFB91, "\u06A9\u06AF\u06AF\u06AF\u06AF\u06B3\u06B3\u06B3\u06B3\u06B1\u06B1\u06B1\u06B1"),
    (0xFB9E, "\u06BA\u06BA\u06BB\u06BB\u06BB\u06BB\u06C0\u06C0\u06C1\u06C1\u06C1\u06C1\u06BE"),
    (0xFBAB, "\u06BE\u06BE\u06BE\u06D2\u06D2\u06D3\u06D3"),
    (0xFBD3, "\u06AD\u06AD\u06AD\u06AD\u06C7\u06C7\u06C6\u06C6\u06C8\u06C8"),
    (0xFBDE, "\u06CB\u06CB\u06C5\u06C5\u06C9\u06C9\u06D0\u06D0\u06D0\u06D0\u0649\u0649"),
    (0xFBFC, "\u06CC\u06CC\u06CC\u06CC"), (0xFE10, ",\u3001"), (0xFE13, ":;!?\u3016\u3017"),
    (0xFE31, "\u2014\u2013__()\x7b\x7d\u3014\u3015\u3010\u3011\u300A\u300B\u3008\u3009"),
    (0xFE47, "[]"), (0xFE4D, "___,\u3001"), (0xFE54, ";:?!\u2014()\x7b\x7d\u3014\u3015#&*+-<>="),
    (0xFE68, "\\$%@"),
    (0xFE80, "\u0621\u0622\u0622\u0623\u0623\u0624\u0624\u0625\u0625\u0626\u0626\u0626\u0626"),
    (0xFE8D, "\u0627\u0627\u0628\u0628\u0628\u0628\u0629\u0629\u062A\u062A\u062A\u062A\u062B"),
    (0xFE9A, "\u062B\u062B\u062B\u062C\u062C\u062C\u062C\u062D\u062D\u062D\u062D\u062E\u062E"),
    (0xFEA7, "\u062E\u062E\u062F\u062F\u0630\u0630\u0631\u0631\u0632\u0632\u0633\u0633\u0633"),
    (0xFEB4, "\u0633\u0634\u0634\u0634\u0634\u0635\u0635\u0635\u0635\u0636\u0636\u0636\u0636"),
    (0xFEC1, "\u0637\u0637\u0637\u0637\u0638\u0638\u0638\u0638\u0639\u0639\u0639\u0639\u063A"),
    (0xFECE, "\u063A\u063A\u063A\u0641\u0641\u0641\u0641\u0642\u0642\u0642\u0642\u0643\u0643"),
    (0xFEDB, "\u0643\u0643\u0644\u0644\u0644\u0644\u0645\u0645\u0645\u0645\u0646\u0646\u0646"),
    (0xFEE8, "\u0646\u0647\u0647\u0647\u0647\u0648\u0648\u0649\u0649\u064A\u064A\u064A\u064A"),
    (0xFF5F, "\u2985\u2986.\u300C\u300D\u3001\u30FB\u30F2\u30A1\u30A3\u30A5\u30A7\u30A9"),
    (0xFF6C, "\u30E3\u30E5\u30E7\u30C3\u30FC\u30A2\u30A4\u30A6\u30A8\u30AA\u30AB\u30AD\u30AF"),
    (0xFF79, "\u30B1\u30B3\u30B5\u30B7\u30B9\u30BB\u30BD\u30BF\u30C1\u30C4\u30C6\u30C8"),
    (0xFF8B, "\u30D2\u30D5\u30D8\u30DB"), (0xFF94, "\u30E4\u30E6"),
    (0xFF9C, "\u30EF\u30F3\u3099\u309A"),
    (0xFFA1, "\u1100\u1101\u11AA\u1102\u11AC\u11AD\u1103\u1104\u1105"),
    (0xFFB0, "\u111A\u1106\u1107\u1108\u1121"), (0xFFDA, "\u1173\u1174\u1175"),
    (0xFFE0, "\u00A2\u00A3\u00AC"), (0xFFE4, "\u00A6\u00A5\u20A9"), (0xFFE8, "\u2502"),
    (0xFFED, "\u25A0\u25CB"), (0x10595, "𐖼"), (0x10781, "\u02D0\u02D1\u00E6\u0299\u0253"),
    (0x10787, "\u02A3\uAB66\u02A5\u02A4\u0256\u0257\u1D91\u0258\u025E\u02A9\u0264\u0262\u0260"),
    (0x10794, "\u029B\u0127\u029C\u0267\u0284\u02AA\u02AB\u026C𝼄\uA78E\u026E𝼅\u028E𝼆\u00F8"),
    (0x107A3, "\u0276\u0277q\u027A𝼈\u027D\u027E\u0280\u02A8\u02A6\uAB67\u02A7\u0288\u2C71"),
    (0x107B2, "\u028F\u02A1\u02A2\u0298\u01C0\u01C1\u01C2𝼊𝼞"), (0x1D49C, "a"), (0x1D49E, "cd"),
    (0x1D4A2, "g"), (0x1D4A5, "jk"), (0x1D504, "a"), (0x1D508, "e"), (0x1D50A, "g"), (0x1D538, "a"),
    (0x1D541, "j"), (0x1D543, "l"), (0x1D6A4, "\u0131\u0237"), (0x1D6B9, "\u03B8"),
    (0x1D6C1, "\u2207"), (0x1D6D3, "\u03C3"),
    (0x1D6DB, "\u2202\u03B5\u03B8\u03BA\u03C6\u03C1\u03C0"), (0x1D6F3, "\u03B8"),
    (0x1D6FB, "\u2207"), (0x1D70D, "\u03C3"),
    (0x1D715, "\u2202\u03B5\u03B8\u03BA\u03C6\u03C1\u03C0"), (0x1D72D, "\u03B8"),
    (0x1D735, "\u2207"), (0x1D747, "\u03C3"),
    (0x1D74F, "\u2202\u03B5\u03B8\u03BA\u03C6\u03C1\u03C0"), (0x1D767, "\u03B8"),
    (0x1D76F, "\u2207"), (0x1D781, "\u03C3"),
    (0x1D789, "\u2202\u03B5\u03B8\u03BA\u03C6\u03C1\u03C0"), (0x1D7A1, "\u03B8"),
    (0x1D7A9, "\u2207"), (0x1D7BB, "\u03C3"),
    (0x1D7C3, "\u2202\u03B5\u03B8\u03BA\u03C6\u03C1\u03C0\u03DD\u03DD"),
    (0x1E039, "\u043A\u043B\u043C"),
    (0x1E047, "\u044B\u044D\u044E\uA689\u04D9\u0456\u0458\u04E9\u04AF\u04CF"),
    (0x1E05A, "\u043A\u043B\u043E\u043F\u0441"),
    (0x1E065, "\u044A\u044B\u0491\u0456\u0455\u045F\u04AB\uA651\u04B1"),
    (0x1EE00, "\u0627\u0628\u062C\u062F"), (0x1EE05, "\u0648\u0632\u062D\u0637\u064A"),
    (0x1EE0E, "\u0633\u0639\u0641\u0635\u0642\u0631\u0634\u062A\u062B\u062E\u0630\u0636\u0638"),
    (0x1EE1B, "\u063A\u066E\u06BA\u06A1\u066F"), (0x1EE21, "\u0628\u062C"), (0x1EE24, "\u0647"),
    (0x1EE27, "\u062D"), (0x1EE29, "\u064A"), (0x1EE2E, "\u0633\u0639\u0641\u0635\u0642"),
    (0x1EE34, "\u0634\u062A\u062B\u062E"), (0x1EE39, "\u0636"), (0x1EE3B, "\u063A"),
    (0x1EE42, "\u062C"), (0x1EE47, "\u062D"), (0x1EE49, "\u064A"), (0x1EE4B, "\u0644"),
    (0x1EE4D, "\u0646\u0633\u0639"), (0x1EE51, "\u0635\u0642"), (0x1EE54, "\u0634"),
    (0x1EE57, "\u062E"), (0x1EE59, "\u0636"), (0x1EE5B, "\u063A"), (0x1EE5D, "\u06BA"),
    (0x1EE5F, "\u066F"), (0x1EE61, "\u0628\u062C"), (0x1EE64, "\u0647"),
    (0x1EE67, "\u062D\u0637\u064A\u0643"), (0x1EE6C, "\u0645\u0646\u0633\u0639\u0641\u0635\u0642"),
    (0x1EE74, "\u0634\u062A\u062B\u062E"), (0x1EE79, "\u0636\u0638\u063A\u066E"),
    (0x1EE7E, "\u06A1"), (0x1EE80, "\u0627\u0628\u062C\u062F\u0647\u0648\u0632\u062D\u0637\u064A"),
    (0x1EE8B, "\u0644\u0645\u0646\u0633\u0639\u0641\u0635\u0642\u0631\u0634\u062A\u062B\u062E"),
    (0x1EE98, "\u0630\u0636\u0638\u063A"), (0x1EEA1, "\u0628\u062C\u062F"),
    (0x1EEA5, "\u0648\u0632\u062D\u0637\u064A"),
    (0x1EEAB, "\u0644\u0645\u0646\u0633\u0639\u0641\u0635\u0642\u0631\u0634\u062A\u062B\u062E"),
    (0x1EEB8, "\u0630\u0636\u0638\u063A"), (0x1F12B, "cr"), (0x1F202, "\u30B5"),
    (0x1F210, "\u624B\u5B57\u53CC\u30C7\u4E8C\u591A\u89E3\u5929\u4EA4\u6620\u7121\u6599\u524D"),
    (0x1F21D, "\u5F8C\u518D\u65B0\u521D\u7D42\u751F\u8CA9\u58F0\u5439\u6F14\u6295\u6355\u4E00"),
    (0x1F22A, "\u4E09\u904A\u5DE6\u4E2D\u53F3\u6307\u8D70\u6253\u7981\u7A7A\u5408\u6E80\u6709"),
    (0x1F237, "\u6708\u7533\u5272\u55B6\u914D"), (0x1F250, "\u5F97\u53EF"),
    (0x2F800, "\u4E3D\u4E38\u4E41𠄢\u4F60\u4FAE\u4FBB\u5002\u507A\u5099\u50E7\u50CF\u349E𠘺"),
    (0x2F80E, "\u514D\u5154\u5164\u5177𠔜\u34B9\u5167\u518D𠕋\u5197\u51A4\u4ECC\u51AC\u51B5𩇟"),
    (0x2F81D, "\u51F5\u5203\u34DF\u523B\u5246\u5272\u5277\u3515\u52C7\u52C9\u52E4\u52FA\u5305"),
    (0x2F82A, "\u5306\u5317\u5349\u5351\u535A\u5373\u537D\u537F\u537F\u537F𠨬\u7070\u53CA"),
    (0x2F837, "\u53DF𠭣\u53EB\u53F1\u5406\u549E\u5438\u5448\u5468\u54A2\u54F6\u5510\u5553"),
    (0x2F844, "\u5563\u5584\u5584\u5599\u55AB\u55B3\u55C2\u5716\u5606\u5717\u5651\u5674\u5207"),
    (0x2F851, "\u58EE\u57CE\u57F4\u580D\u578B\u5832\u5831\u58AC𡓤\u58F2\u58F7\u5906\u591A"),
    (0x2F85E, "\u5922\u5962𡚨𡛪\u59EC\u5A1B\u5A27\u59D8\u5A66\u36EE\u36FC\u5B08\u5B3E\u5B3E𡧈"),
    (0x2F86D, "\u5BC3\u5BD8\u5BE7\u5BF3𡬘\u5BFF\u5C06\u5F53\u5C22\u3781\u5C60\u5C6E\u5CC0"),
    (0x2F87A, "\u5C8D𡷤\u5D43𡷦\u5D6E\u5D6B\u5D7C\u5DE1\u5DE2\u382F\u5DFD\u5E28\u5E3D\u5E69"),
    (0x2F888, "\u3862𢆃\u387C\u5EB0\u5EB3\u5EB6\u5ECA𪎒\u5EFE𢌱𢌱\u8201\u5F22\u5F22\u38C7𣊸𦇚\u5F62"),
    (0x2F89A, "\u5F6B\u38E3\u5F9A\u5FCD\u5FD7\u5FF9\u6081\u393A\u391C\u6094𢛔\u60C7\u6148"),
    (0x2F8A7, "\u614C\u614E\u614C\u617A\u618E\u61B2\u61A4\u61AF\u61DE\u61F2\u61F6\u6210\u621B"),
    (0x2F8B4, "\u625D\u62B1\u62D4\u6350𢬌\u633D\u62FC\u6368\u6383\u63E4𢯱\u6422\u63C5\u63A9"),
    (0x2F8C2, "\u3A2E\u6469\u647E\u649D\u6477\u3A6C\u654F\u656C𣀊\u65E3\u66F8\u6649\u3B19"),
    (0x2F8CF, "\u6691\u3B08\u3AE4\u5192\u5195\u6700\u669C\u80AD\u43D9\u6717\u671B\u6721\u675E"),
    (0x2F8DC, "\u6753𣏃\u3B49\u67FA\u6785\u6852\u6885𣑭\u688E\u681F\u6914\u3B9D\u6942\u69A3"),
    (0x2F8EA, "\u69EA\u6AA8𣚣\u6ADB\u3C18\u6B21𣢧\u6B54\u3C4E\u6B72\u6B9F\u6BBA\u6BBB𣪍𡴋𣫺\u6C4E𣲼"),
    (0x2F8FC, "\u6CBF\u6CCD\u6C67\u6D16\u6D3E\u6D77\u6D41\u6D69\u6D78\u6D85𣴞\u6D34\u6E2F"),
    (0x2F909, "\u6E6E\u3D33\u6ECB\u6EC7𣻑\u6DF9\u6F6E𣽞𣾎\u6FC6\u7039\u701E\u701B\u3D96\u704A"),
    (0x2F918, "\u707D\u7077\u70AD𠔥\u7145𤉣\u719C𤎫\u7228\u7235\u7250𤘈\u7280\u7295𤜵𤠔\u737A\u738B"),
    (0x2F92A, "\u3EAC\u73A5\u3EB8\u3EB8\u7447\u745C\u7471\u7485\u74CA\u3F1B\u7524𤰶\u753E𤲒"),
    (0x2F938, "\u7570𢆟\u7610𤾡𤾸𥁄\u3FFC\u4008\u76F4𥃳𥃲𥄙𥄳\u771E\u771F\u771F\u774A\u4039\u778B"),
    (0x2F94B, "\u4046\u4096𥐝\u784E\u788C\u78CC\u40E3𥘦\u7956𥚚𥛅\u798F\u79EB\u412F\u7A40\u7A4A"),
    (0x2F95B, "\u7A4F𥥼𥪧𥪧\u7AEE\u4202𥮫\u7BC6\u7BC9\u4227𥲀\u7CD2\u42A0\u7CE8\u7CE3\u7D00𥾆\u7D63"),
    (0x2F96D, "\u4301\u7DC7\u7E02\u7E45\u4334𦈨𦉇\u4359𦋙\u7F7A𦌾\u7F95\u7FFA\u8005𦓚𦔣\u8060𦖨"),
    (0x2F97F, "\u8070𣍟\u43D5\u80B2\u8103\u440B\u813E\u5AB5𦞧𦞵𣎓𣎜\u8201\u8204\u8F9E\u446B\u8291"),
    (0x2F990, "\u828B\u829D\u52B3\u82B1\u82B3\u82BD\u82E6𦬼\u82E5\u831D\u8363\u83AD\u8323"),
    (0x2F99D, "\u83BD\u83E7\u8457\u8353\u83CA\u83CC\u83DC𦰶𦵫𦳕\u452B\u84F1\u84F3\u8516𧏊\u8564𦼬"),
    (0x2F9AE, "\u455D\u4561𦾱𧃒\u456B\u8650\u865C\u8667\u8669\u86A9\u8688\u870E\u86E2\u8779"),
    (0x2F9BC, "\u8728\u876B\u8786\u45D7\u87E1\u8801\u45F9\u8860\u8863𧙧\u88D7\u88DE\u4635"),
    (0x2F9C9, "\u88FA\u34BB𧢮𧥦\u46BE\u46C7\u8AA0\u8AED\u8B8A\u8C55𧲨\u8CAB\u8CC1\u8D1B\u8D77𧼯𠠄"),
    (0x2F9DA, "\u8DCB\u8DBC\u8DF0𠣞\u8ED4\u8F38𨗒𨗭\u9094\u90F1\u9111𨜮\u911B\u9238\u92D7\u92D8"),
    (0x2F9EA, "\u927C\u93F9\u9415𨯺\u958B\u4995\u95B7𨵷\u49E6\u96C3\u5DB2\u9723𩅅𩈚\u4A6E\u4A76"),
    (0x2F9FA, "\u97E0𩐊\u4AB2𩒖\u980B\u980B\u9829𩖶\u98E2\u4B33\u9929\u99A7\u99C2\u99FE\u4BCE𩬰"),
    (0x2FA0A, "\u9B12\u9C40\u9CFD\u4CCE\u4CED\u9D67𪃎\u4CF8𪄅𪈎𪊑\u9EBB\u4D56\u9EF9\u9EFE\u9F05"),
    (0x2FA1A, "\u9F0F\u9F16\u9F3B𪘀")]

/-- Characters that stand for several ones: from the given one on, they stand for the texts of the
list in their order. -/
def replacedByTexts : List (Nat × List String) :=
  [(0xA8, [" \u0308"]),
    (0xAF, [" \u0304"]),
    (0xB4, [" \u0301"]),
    (0xB8, [" \u0327"]),
    (0xBC, ["1\u20444", "1\u20442", "3\u20444"]),
    (0x130, ["i\u0307"]),
    (0x132, ["ij", "ij"]),
    (0x13F, ["l\u00B7", "l\u00B7"]),
    (0x149, ["\u02BCn"]),
    (0x1C4, ["d\u017E", "d\u017E", "d\u017E", "lj", "lj", "lj", "nj", "nj", "nj"]),
    (0x1F1, ["dz", "dz", "dz"]),
    (0x2D8, [" \u0306", " \u0307", " \u030A", " \u0328", " \u0303", " \u030B"]),
    (0x344, ["\u0308\u0301"]),
    (0x37A, [" \u03B9"]),
    (0x384, [" \u0301", " \u0308\u0301"]),
    (0x587, ["\u0565\u0582"]),
    (0x675, ["\u0627\u0674", "\u0648\u0674", "\u06C7\u0674", "\u064A\u0674"]),
    (0x958, ["\u0915\u093C", "\u0916\u093C", "\u0917\u093C", "\u091C\u093C", "\u0921\u093C",
      "\u0922\u093C", "\u092B\u093C", "\u092F\u093C"]),
    (0x9DC, ["\u09A1\u09BC", "\u09A2\u09BC"]),
    (0x9DF, ["\u09AF\u09BC"]),
    (0xA33, ["\u0A32\u0A3C"]),
    (0xA36, ["\u0A38\u0A3C"]),
    (0xA59, ["\u0A16\u0A3C", "\u0A17\u0A3C", "\u0A1C\u0A3C"]),
    (0xA5E, ["\u0A2B\u0A3C"]),
    (0xB5C, ["\u0B21\u0B3C", "\u0B22\u0B3C"]),
    (0xE33, ["\u0E4D\u0E32"]),
    (0xEB3, ["\u0ECD\u0EB2"]),
    (0xEDC, ["\u0EAB\u0E99", "\u0EAB\u0EA1"]),
    (0xF43, ["\u0F42\u0FB7"]),
    (0xF4D, ["\u0F4C\u0FB7"]),
    (0xF52, ["\u0F51\u0FB7"]),
    (0xF57, ["\u0F56\u0FB7"]),
    (0xF5C, ["\u0F5B\u0FB7"]),
    (0xF69, ["\u0F40\u0FB5"]),
    (0xF73, ["\u0F71\u0F72"]),
    (0xF75, ["\u0F71\u0F74", "\u0FB2\u0F80", "\u0FB2\u0F71\u0F80", "\u0FB3\u0F80",
      "\u0FB3\u0F71\u0F80"]),
    (0xF81, ["\u0F71\u0F80"]),
    (0xF93, ["\u0F92\u0FB7"]),
    (0xF9D, ["\u0F9C\u0FB7"]),
    (0xFA2, ["\u0FA1\u0FB7"]),
    (0xFA7, ["\u0FA6\u0FB7"]),
    (0xFAC, ["\u0FAB\u0FB7"]),
    (0xFB9, ["\u0F90\u0FB5"]),
    (0x1E9A, ["a\u02BE"]),
    (0x1F80, ["\u1F00\u03B9", "\u1F01\u03B9", "\u1F02\u03B9", "\u1F03\u03B9", "\u1F04\u03B9",
      "\u1F05\u03B9", "\u1F06\u03B9", "\u1F07\u03B9", "\u1F00\u03B9", "\u1F01\u03B9",
      "\u1F02\u03B9", "\u1F03\u03B9", "\u1F04\u03B9", "\u1F05\u03B9", "\u1F06\u03B9",
      "\u1F07\u03B9", "\u1F20\u03B9", "\u1F21\u03B9", "\u1F22\u03B9", "\u1F23\u03B9",
      "\u1F24\u03B9", "\u1F25\u03B9", "\u1F26\u03B9", "\u1F27\u03B9", "\u1F20\u03B9",
      "\u1F21\u03B9", "\u1F22\u03B9", "\u1F23\u03B9", "\u1F24\u03B9", "\u1F25\u03B9",
      "\u1F26\u03B9", "\u1F27\u03B9", "\u1F60\u03B9", "\u1F61\u03B9", "\u1F62\u03B9",
      "\u1F63\u03B9", "\u1F64\u03B9", "\u1F65\u03B9", "\u1F66\u03B9", "\u1F67\u03B9",
      "\u1F60\u03B9", "\u1F61\u03B9", "\u1F62\u03B9", "\u1F63\u03B9", "\u1F64\u03B9",
      "\u1F65\u03B9", "\u1F66\u03B9", "\u1F67\u03B9"]),
    (0x1FB2, ["\u1F70\u03B9", "\u03B1\u03B9", "\u03AC\u03B9"]),
    (0x1FB7, ["\u1FB6\u03B9"]),
    (0x1FBC, ["\u03B1\u03B9", " \u0313"]),
    (0x1FBF, [" \u0313", " \u0342", " \u0308\u0342", "\u1F74\u03B9", "\u03B7\u03B9",
      "\u03AE\u03B9"]),
    (0x1FC7, ["\u1FC6\u03B9"]),
    (0x1FCC, ["\u03B7\u03B9", " \u0313\u0300", " \u0313\u0301", " \u0313\u0342"]),
    (0x1FDD, [" \u0314\u0300", " \u0314\u0301", " \u0314\u0342"]),
    (0x1FED, [" \u0308\u0300", " \u0308\u0301"]),
    (0x1FF2, ["\u1F7C\u03B9", "\u03C9\u03B9", "\u03CE\u03B9"]),
    (0x1FF7, ["\u1FF6\u03B9"]),
    (0x1FFC, ["\u03C9\u03B9", " \u0301", " \u0314"]),
    (0x2017, [" \u0333"]),
    (0x2033, ["\u2032\u2032", "\u2032\u2032\u2032"]),
    (0x2036, ["\u2035\u2035", "\u2035\u2035\u2035"]),
    (0x203C, ["!!"]),
    (0x203E, [" \u0305"]),
    (0x2047, ["??", "?!", "!?"]),
    (0x2057, ["\u2032\u2032\u2032\u2032"]),
    (0x20A8, ["rs"]),
    (0x2100, ["a/c", "a/s"]),
    (0x2103, ["\u00B0c"]),
    (0x2105, ["c/o", "c/u"]),
    (0x2109, ["\u00B0f"]),
    (0x2116, ["no"]),
    (0x2120, ["sm", "tel", "tm"]),
    (0x213B, ["fax"]),
    (0x2150, ["1\u20447", "1\u20449", "1\u204410", "1\u20443", "2\u20443", "1\u20445", "2\u20445",
      "3\u20445", "4\u20445", "1\u20446", "5\u20446", "1\u20448", "3\u20448", "5\u20448",
      "7\u20448", "1\u2044"]),
    (0x2161, ["ii", "iii", "iv"]),
    (0x2165, ["vi", "vii", "viii", "ix"]),
    (0x216A, ["xi", "xii"]),
    (0x2171, ["ii", "iii", "iv"]),
    (0x2175, ["vi", "vii", "viii", "ix"]),
    (0x217A, ["xi", "xii"]),
    (0x2189, ["0\u20443"]),
    (0x222C, ["\u222B\u222B", "\u222B\u222B\u222B"]),
    (0x222F, ["\u222E\u222E", "\u222E\u222E\u222E"]),
    (0x2469, ["10", "11", "12", "13", "14", "15", "16", "17", "18", "19", "20", "(1)", "(2)", "(3)",
      "(4)", "(5)", "(6)", "(7)", "(8)", "(9)", "(10)", "(11)", "(12)", "(13)", "(14)", "(15)",
      "(16)", "(17)", "(18)", "(19)", "(20)"]),
    (0x249C, ["(a)", "(b)", "(c)", "(d)", "(e)", "(f)", "(g)", "(h)", "(i)", "(j)", "(k)", "(l)",
      "(m)", "(n)", "(o)", "(p)", "(q)", "(r)", "(s)", "(t)", "(u)", "(v)", "(w)", "(x)", "(y)",
      "(z)"]),
    (0x2A0C, ["\u222B\u222B\u222B\u222B"]),
    (0x2A74, ["::=", "==", "==="]),
    (0x2ADC, ["\u2ADD\u0338"]),
    (0x309B, [" \u3099", " \u309A"]),
    (0x309F, ["\u3088\u308A"]),
    (0x30FF, ["\u30B3\u30C8"]),
    (0x3200, ["(\u1100)", "(\u1102)", "(\u1103)", "(\u1105)", "(\u1106)", "(\u1107)", "(\u1109)",
      "(\u110B)", "(\u110C)", "(\u110E)", "(\u110F)", "(\u1110)", "(\u1111)", "(\u1112)",
      "(\uAC00)", "(\uB098)", "(\uB2E4)", "(\uB77C)", "(\uB9C8)", "(\uBC14)", "(\uC0AC)",
      "(\uC544)", "(\uC790)", "(\uCC28)", "(\uCE74)", "(\uD0C0)", "(\uD30C)", "(\uD558)",
      "(\uC8FC)", "(\uC624\uC804)", "(\uC624\uD6C4)"]),
    (0x3220, ["(\u4E00)", "(\u4E8C)", "(\u4E09)", "(\u56DB)", "(\u4E94)", "(\u516D)", "(\u4E03)",
      "(\u516B)", "(\u4E5D)", "(\u5341)", "(\u6708)", "(\u706B)", "(\u6C34)", "(\u6728)",
      "(\u91D1)", "(\u571F)", "(\u65E5)", "(\u682A)", "(\u6709)", "(\u793E)", "(\u540D)",
      "(\u7279)", "(\u8CA1)", "(\u795D)", "(\u52B4)", "(\u4EE3)", "(\u547C)", "(\u5B66)",
      "(\u76E3)", "(\u4F01)", "(\u8CC7)", "(\u5354)", "(\u796D)", "(\u4F11)", "(\u81EA)",
      "(\u81F3)"]),
    (0x3250, ["pte", "21", "22", "23", "24", "25", "26", "27", "28", "29", "30", "31", "32", "33",
      "34", "35"]),
    (0x327C, ["\uCC38\uACE0", "\uC8FC\uC758"]),
    (0x32B1, ["36", "37", "38", "39", "40", "41", "42", "43", "44", "45", "46", "47", "48", "49",
      "50", "1\u6708", "2\u6708", "3\u6708", "4\u6708", "5\u6708", "6\u6708", "7\u6708", "8\u6708",
      "9\u6708", "10\u6708", "11\u6708", "12\u6708", "hg", "erg", "ev", "ltd"]),
    (0x32FF, ["\u4EE4\u548C", "\u30A2\u30D1\u30FC\u30C8", "\u30A2\u30EB\u30D5\u30A1",
      "\u30A2\u30F3\u30DA\u30A2", "\u30A2\u30FC\u30EB", "\u30A4\u30CB\u30F3\u30B0",
      "\u30A4\u30F3\u30C1", "\u30A6\u30A9\u30F3", "\u30A8\u30B9\u30AF\u30FC\u30C9",
      "\u30A8\u30FC\u30AB\u30FC", "\u30AA\u30F3\u30B9", "\u30AA\u30FC\u30E0", "\u30AB\u30A4\u30EA",
      "\u30AB\u30E9\u30C3\u30C8", "\u30AB\u30ED\u30EA\u30FC", "\u30AC\u30ED\u30F3",
      "\u30AC\u30F3\u30DE", "\u30AE\u30AC", "\u30AE\u30CB\u30FC", "\u30AD\u30E5\u30EA\u30FC",
      "\u30AE\u30EB\u30C0\u30FC", "\u30AD\u30ED", "\u30AD\u30ED\u30B0\u30E9\u30E0",
      "\u30AD\u30ED\u30E1\u30FC\u30C8\u30EB", "\u30AD\u30ED\u30EF\u30C3\u30C8",
      "\u30B0\u30E9\u30E0", "\u30B0\u30E9\u30E0\u30C8\u30F3", "\u30AF\u30EB\u30BC\u30A4\u30ED",
      "\u30AF\u30ED\u30FC\u30CD", "\u30B1\u30FC\u30B9", "\u30B3\u30EB\u30CA", "\u30B3\u30FC\u30DD",
      "\u30B5\u30A4\u30AF\u30EB", "\u30B5\u30F3\u30C1\u30FC\u30E0", "\u30B7\u30EA\u30F3\u30B0",
      "\u30BB\u30F3\u30C1", "\u30BB\u30F3\u30C8", "\u30C0\u30FC\u30B9", "\u30C7\u30B7",
      "\u30C9\u30EB", "\u30C8\u30F3", "\u30CA\u30CE", "\u30CE\u30C3\u30C8", "\u30CF\u30A4\u30C4",
      "\u30D1\u30FC\u30BB\u30F3\u30C8", "\u30D1\u30FC\u30C4", "\u30D0\u30FC\u30EC\u30EB",
      "\u30D4\u30A2\u30B9\u30C8\u30EB", "\u30D4\u30AF\u30EB", "\u30D4\u30B3", "\u30D3\u30EB",
      "\u30D5\u30A1\u30E9\u30C3\u30C9", "\u30D5\u30A3\u30FC\u30C8",
      "\u30D6\u30C3\u30B7\u30A7\u30EB", "\u30D5\u30E9\u30F3", "\u30D8\u30AF\u30BF\u30FC\u30EB",
      "\u30DA\u30BD", "\u30DA\u30CB\u30D2", "\u30D8\u30EB\u30C4", "\u30DA\u30F3\u30B9",
      "\u30DA\u30FC\u30B8", "\u30D9\u30FC\u30BF", "\u30DD\u30A4\u30F3\u30C8", "\u30DC\u30EB\u30C8",
      "\u30DB\u30F3", "\u30DD\u30F3\u30C9", "\u30DB\u30FC\u30EB", "\u30DB\u30FC\u30F3",
      "\u30DE\u30A4\u30AF\u30ED", "\u30DE\u30A4\u30EB", "\u30DE\u30C3\u30CF", "\u30DE\u30EB\u30AF",
      "\u30DE\u30F3\u30B7\u30E7\u30F3", "\u30DF\u30AF\u30ED\u30F3", "\u30DF\u30EA",
      "\u30DF\u30EA\u30D0\u30FC\u30EB", "\u30E1\u30AC", "\u30E1\u30AC\u30C8\u30F3",
      "\u30E1\u30FC\u30C8\u30EB", "\u30E4\u30FC\u30C9", "\u30E4\u30FC\u30EB", "\u30E6\u30A2\u30F3",
      "\u30EA\u30C3\u30C8\u30EB", "\u30EA\u30E9", "\u30EB\u30D4\u30FC", "\u30EB\u30FC\u30D6\u30EB",
      "\u30EC\u30E0", "\u30EC\u30F3\u30C8\u30B2\u30F3", "\u30EF\u30C3\u30C8", "0\u70B9", "1\u70B9",
      "2\u70B9", "3\u70B9", "4\u70B9", "5\u70B9", "6\u70B9", "7\u70B9", "8\u70B9", "9\u70B9",
      "10\u70B9", "11\u70B9", "12\u70B9", "13\u70B9", "14\u70B9", "15\u70B9", "16\u70B9",
      "17\u70B9", "18\u70B9", "19\u70B9", "20\u70B9", "21\u70B9", "22\u70B9", "23\u70B9",
      "24\u70B9", "hpa", "da", "au", "bar", "ov", "pc", "dm", "dm2", "dm3", "iu", "\u5E73\u6210",
      "\u662D\u548C", "\u5927\u6B63", "\u660E\u6CBB", "\u682A\u5F0F\u4F1A\u793E", "pa", "na",
      "\u03BCa", "ma", "ka", "kb", "mb", "gb", "cal", "kcal", "pf", "nf", "\u03BCf", "\u03BCg",
      "mg", "kg", "hz", "khz", "mhz", "ghz", "thz", "\u03BCl", "ml", "dl", "kl", "fm", "nm",
      "\u03BCm", "mm", "cm", "km", "mm2", "cm2", "m2", "km2", "mm3", "cm3", "m3", "km3", "m\u2215s",
      "m\u2215s2", "pa", "kpa", "mpa", "gpa", "rad", "rad\u2215s", "rad\u2215s2", "ps", "ns",
      "\u03BCs", "ms", "pv", "nv", "\u03BCv", "mv", "kv", "mv", "pw", "nw", "\u03BCw", "mw", "kw",
      "mw", "k\u03C9", "m\u03C9"]),
    (0x33C3, ["bq", "cc", "cd", "c\u2215kg"]),
    (0x33C8, ["db", "gy", "ha", "hp", "in", "kk", "km", "kt", "lm", "ln", "log", "lx", "mb", "mil",
      "mol", "ph"]),
    (0x33D9, ["ppm", "pr", "sr", "sv", "wb", "v\u2215m", "a\u2215m", "1\u65E5", "2\u65E5",
      "3\u65E5", "4\u65E5", "5\u65E5", "6\u65E5", "7\u65E5", "8\u65E5", "9\u65E5", "10\u65E5",
      "11\u65E5", "12\u65E5", "13\u65E5", "14\u65E5", "15\u65E5", "16\u65E5", "17\u65E5",
      "18\u65E5", "19\u65E5", "20\u65E5", "21\u65E5", "22\u65E5", "23\u65E5", "24\u65E5",
      "25\u65E5", "26\u65E5", "27\u65E5", "28\u65E5", "29\u65E5", "30\u65E5", "31\u65E5", "gal"]),
    (0xFB00, ["ff", "fi", "fl", "ffi", "ffl", "st", "st"]),
    (0xFB13, ["\u0574\u0576", "\u0574\u0565", "\u0574\u056B", "\u057E\u0576", "\u0574\u056D"]),
    (0xFB1D, ["\u05D9\u05B4"]),
    (0xFB1F, ["\u05F2\u05B7"]),
    (0xFB2A, ["\u05E9\u05C1", "\u05E9\u05C2", "\u05E9\u05BC\u05C1", "\u05E9\u05BC\u05C2",
      "\u05D0\u05B7", "\u05D0\u05B8", "\u05D0\u05BC", "\u05D1\u05BC", "\u05D2\u05BC",
      "\u05D3\u05BC", "\u05D4\u05BC", "\u05D5\u05BC", "\u05D6\u05BC"]),
    (0xFB38, ["\u05D8\u05BC", "\u05D9\u05BC", "\u05DA\u05BC", "\u05DB\u05BC", "\u05DC\u05BC"]),
    (0xFB3E, ["\u05DE\u05BC"]),
    (0xFB40, ["\u05E0\u05BC", "\u05E1\u05BC"]),
    (0xFB43, ["\u05E3\u05BC", "\u05E4\u05BC"]),
    (0xFB46, ["\u05E6\u05BC", "\u05E7\u05BC", "\u05E8\u05BC", "\u05E9\u05BC", "\u05EA\u05BC",
      "\u05D5\u05B9", "\u05D1\u05BF", "\u05DB\u05BF", "\u05E4\u05BF", "\u05D0\u05DC"]),
    (0xFBDD, ["\u06C7\u0674"]),
    (0xFBEA, ["\u0626\u0627", "\u0626\u0627", "\u0626\u06D5", "\u0626\u06D5", "\u0626\u0648",
      "\u0626\u0648", "\u0626\u06C7", "\u0626\u06C7", "\u0626\u06C6", "\u0626\u06C6",
      "\u0626\u06C8", "\u0626\u06C8", "\u0626\u06D0", "\u0626\u06D0", "\u0626\u06D0",
      "\u0626\u0649", "\u0626\u0649", "\u0626\u0649"]),
    (0xFC00, ["\u0626\u062C", "\u0626\u062D", "\u0626\u0645", "\u0626\u0649", "\u0626\u064A",
      "\u0628\u062C", "\u0628\u062D", "\u0628\u062E", "\u0628\u0645", "\u0628\u0649",
      "\u0628\u064A", "\u062A\u062C", "\u062A\u062D", "\u062A\u062E", "\u062A\u0645",
      "\u062A\u0649", "\u062A\u064A", "\u062B\u062C", "\u062B\u0645", "\u062B\u0649",
      "\u062B\u064A", "\u062C\u062D", "\u062C\u0645", "\u062D\u062C", "\u062D\u0645",
      "\u062E\u062C", "\u062E\u062D", "\u062E\u0645", "\u0633\u062C", "\u0633\u062D",
      "\u0633\u062E", "\u0633\u0645", "\u0635\u062D", "\u0635\u0645", "\u0636\u062C",
      "\u0636\u062D", "\u0636\u062E", "\u0636\u0645", "\u0637\u062D", "\u0637\u0645",
      "\u0638\u0645", "\u0639\u062C", "\u0639\u0645", "\u063A\u062C", "\u063A\u0645",
      "\u0641\u062C", "\u0641\u062D", "\u0641\u062E", "\u0641\u0645", "\u0641\u0649",
      "\u0641\u064A", "\u0642\u062D", "\u0642\u0645", "\u0642\u0649", "\u0642\u064A",
      "\u0643\u0627", "\u0643\u062C", "\u0643\u062D", "\u0643\u062E", "\u0643\u0644",
      "\u0643\u0645", "\u0643\u0649", "\u0643\u064A", "\u0644\u062C", "\u0644\u062D",
      "\u0644\u062E", "\u0644\u0645", "\u0644\u0649", "\u0644\u064A", "\u0645\u062C",
      "\u0645\u062D", "\u0645\u062E", "\u0645\u0645", "\u0645\u0649", "\u0645\u064A",
      "\u0646\u062C", "\u0646\u062D", "\u0646\u062E", "\u0646\u0645", "\u0646\u0649",
      "\u0646\u064A", "\u0647\u062C", "\u0647\u0645", "\u0647\u0649", "\u0647\u064A",
      "\u064A\u062C", "\u064A\u062D", "\u064A\u062E", "\u064A\u0645", "\u064A\u0649",
      "\u064A\u064A", "\u0630\u0670", "\u0631\u0670", "\u0649\u0670", " \u064C\u0651",
      " \u064D\u0651", " \u064E\u0651", " \u064F\u0651", " \u0650\u0651", " \u0651\u0670",
      "\u0626\u0631", "\u0626\u0632", "\u0626\u0645", "\u0626\u0646", "\u0626\u0649",
      "\u0626\u064A", "\u0628\u0631", "\u0628\u0632", "\u0628\u0645", "\u0628\u0646",
      "\u0628\u0649", "\u0628\u064A", "\u062A\u0631", "\u062A\u0632", "\u062A\u0645",
      "\u062A\u0646", "\u062A\u0649", "\u062A\u064A", "\u062B\u0631", "\u062B\u0632",
      "\u062B\u0645", "\u062B\u0646", "\u062B\u0649", "\u062B\u064A", "\u0641\u0649",
      "\u0641\u064A", "\u0642\u0649", "\u0642\u064A", "\u0643\u0627", "\u0643\u0644",
      "\u0643\u0645", "\u0643\u0649", "\u0643\u064A", "\u0644\u0645", "\u0644\u0649",
      "\u0644\u064A", "\u0645\u0627", "\u0645\u0645", "\u0646\u0631", "\u0646\u0632",
      "\u0646\u0645", "\u0646\u0646", "\u0646\u0649", "\u0646\u064A", "\u0649\u0670",
      "\u064A\u0631", "\u064A\u0632", "\u064A\u0645", "\u064A\u0646", "\u064A\u0649",
      "\u064A\u064A", "\u0626\u062C", "\u0626\u062D", "\u0626\u062E", "\u0626\u0645",
      "\u0626\u0647", "\u0628\u062C", "\u0628\u062D", "\u0628\u062E", "\u0628\u0645",
      "\u0628\u0647", "\u062A\u062C", "\u062A\u062D", "\u062A\u062E", "\u062A\u0645",
      "\u062A\u0647", "\u062B\u0645", "\u062C\u062D", "\u062C\u0645", "\u062D\u062C",
      "\u062D\u0645", "\u062E\u062C", "\u062E\u0645", "\u0633\u062C", "\u0633\u062D",
      "\u0633\u062E", "\u0633\u0645", "\u0635\u062D", "\u0635\u062E", "\u0635\u0645",
      "\u0636\u062C", "\u0636\u062D", "\u0636\u062E", "\u0636\u0645", "\u0637\u062D",
      "\u0638\u0645", "\u0639\u062C", "\u0639\u0645", "\u063A\u062C", "\u063A\u0645",
      "\u0641\u062C", "\u0641\u062D", "\u0641\u062E", "\u0641\u0645", "\u0642\u062D",
      "\u0642\u0645", "\u0643\u062C", "\u0643\u062D", "\u0643\u062E", "\u0643\u0644",
      "\u0643\u0645", "\u0644\u062C", "\u0644\u062D", "\u0644\u062E", "\u0644\u0645",
      "\u0644\u0647", "\u0645\u062C", "\u0645\u062D", "\u0645\u062E", "\u0645\u0645",
      "\u0646\u062C", "\u0646\u062D", "\u0646\u062E", "\u0646\u0645", "\u0646\u0647",
      "\u0647\u062C", "\u0647\u0645", "\u0647\u0670", "\u064A\u062C", "\u064A\u062D",
      "\u064A\u062E", "\u064A\u0645", "\u064A\u0647", "\u0626\u0645", "\u0626\u0647",
      "\u0628\u0645", "\u0628\u0647", "\u062A\u0645", "\u062A\u0647", "\u062B\u0645",
      "\u062B\u0647", "\u0633\u0645", "\u0633\u0647", "\u0634\u0645", "\u0634\u0647",
      "\u0643\u0644", "\u0643\u0645", "\u0644\u0645", "\u0646\u0645", "\u0646\u0647",
      "\u064A\u0645", "\u064A\u0647", "\u0640\u064E\u0651", "\u0640\u064F\u0651",
      "\u0640\u0650\u0651", "\u0637\u0649", "\u0637\u064A", "\u0639\u0649", "\u0639\u064A",
      "\u063A\u0649", "\u063A\u064A", "\u0633\u0649", "\u0633\u064A", "\u0634\u0649",
      "\u0634\u064A", "\u062D\u0649", "\u062D\u064A", "\u062C\u0649", "\u062C\u064A",
      "\u062E\u0649", "\u062E\u064A", "\u0635\u0649", "\u0635\u064A", "\u0636\u0649",
      "\u0636\u064A", "\u0634\u062C", "\u0634\u062D", "\u0634\u062E", "\u0634\u0645",
      "\u0634\u0631", "\u0633\u0631", "\u0635\u0631", "\u0636\u0631", "\u0637\u0649",
      "\u0637\u064A", "\u0639\u0649", "\u0639\u064A", "\u063A\u0649", "\u063A\u064A",
      "\u0633\u0649", "\u0633\u064A", "\u0634\u0649", "\u0634\u064A", "\u062D\u0649",
      "\u062D\u064A", "\u062C\u0649", "\u062C\u064A", "\u062E\u0649", "\u062E\u064A",
      "\u0635\u0649", "\u0635\u064A", "\u0636\u0649", "\u0636\u064A", "\u0634\u062C",
      "\u0634\u062D", "\u0634\u062E", "\u0634\u0645", "\u0634\u0631", "\u0633\u0631",
      "\u0635\u0631", "\u0636\u0631", "\u0634\u062C", "\u0634\u062D", "\u0634\u062E",
      "\u0634\u0645", "\u0633\u0647", "\u0634\u0647", "\u0637\u0645", "\u0633\u062C",
      "\u0633\u062D", "\u0633\u062E", "\u0634\u062C", "\u0634\u062D", "\u0634\u062E",
      "\u0637\u0645", "\u0638\u0645", "\u0627\u064B", "\u0627\u064B"]),
    (0xFD50, ["\u062A\u062C\u0645", "\u062A\u062D\u062C", "\u062A\u062D\u062C",
      "\u062A\u062D\u0645", "\u062A\u062E\u0645", "\u062A\u0645\u062C", "\u062A\u0645\u062D",
      "\u062A\u0645\u062E", "\u062C\u0645\u062D", "\u062C\u0645\u062D", "\u062D\u0645\u064A",
      "\u062D\u0645\u0649", "\u0633\u062D\u062C", "\u0633\u062C\u062D", "\u0633\u062C\u0649",
      "\u0633\u0645\u062D", "\u0633\u0645\u062D", "\u0633\u0645\u062C", "\u0633\u0645\u0645",
      "\u0633\u0645\u0645", "\u0635\u062D\u062D", "\u0635\u062D\u062D", "\u0635\u0645\u0645",
      "\u0634\u062D\u0645", "\u0634\u062D\u0645", "\u0634\u062C\u064A", "\u0634\u0645\u062E",
      "\u0634\u0645\u062E", "\u0634\u0645\u0645", "\u0634\u0645\u0645", "\u0636\u062D\u0649",
      "\u0636\u062E\u0645", "\u0636\u062E\u0645", "\u0637\u0645\u062D", "\u0637\u0645\u062D",
      "\u0637\u0645\u0645", "\u0637\u0645\u064A", "\u0639\u062C\u0645", "\u0639\u0645\u0645",
      "\u0639\u0645\u0645", "\u0639\u0645\u0649", "\u063A\u0645\u0645", "\u063A\u0645\u064A",
      "\u063A\u0645\u0649", "\u0641\u062E\u0645", "\u0641\u062E\u0645", "\u0642\u0645\u062D",
      "\u0642\u0645\u0645", "\u0644\u062D\u0645", "\u0644\u062D\u064A", "\u0644\u062D\u0649",
      "\u0644\u062C\u062C", "\u0644\u062C\u062C", "\u0644\u062E\u0645", "\u0644\u062E\u0645",
      "\u0644\u0645\u062D", "\u0644\u0645\u062D", "\u0645\u062D\u062C", "\u0645\u062D\u0645",
      "\u0645\u062D\u064A", "\u0645\u062C\u062D", "\u0645\u062C\u0645", "\u0645\u062E\u062C",
      "\u0645\u062E\u0645"]),
    (0xFD92, ["\u0645\u062C\u062E", "\u0647\u0645\u062C", "\u0647\u0645\u0645",
      "\u0646\u062D\u0645", "\u0646\u062D\u0649", "\u0646\u062C\u0645", "\u0646\u062C\u0645",
      "\u0646\u062C\u0649", "\u0646\u0645\u064A", "\u0646\u0645\u0649", "\u064A\u0645\u0645",
      "\u064A\u0645\u0645", "\u0628\u062E\u064A", "\u062A\u062C\u064A", "\u062A\u062C\u0649",
      "\u062A\u062E\u064A", "\u062A\u062E\u0649", "\u062A\u0645\u064A", "\u062A\u0645\u0649",
      "\u062C\u0645\u064A", "\u062C\u062D\u0649", "\u062C\u0645\u0649", "\u0633\u062E\u0649",
      "\u0635\u062D\u064A", "\u0634\u062D\u064A", "\u0636\u062D\u064A", "\u0644\u062C\u064A",
      "\u0644\u0645\u064A", "\u064A\u062D\u064A", "\u064A\u062C\u064A", "\u064A\u0645\u064A",
      "\u0645\u0645\u064A", "\u0642\u0645\u064A", "\u0646\u062D\u064A", "\u0642\u0645\u062D",
      "\u0644\u062D\u0645", "\u0639\u0645\u064A", "\u0643\u0645\u064A", "\u0646\u062C\u062D",
      "\u0645\u062E\u064A", "\u0644\u062C\u0645", "\u0643\u0645\u0645", "\u0644\u062C\u0645",
      "\u0646\u062C\u062D", "\u062C\u062D\u064A", "\u062D\u062C\u064A", "\u0645\u062C\u064A",
      "\u0641\u0645\u064A", "\u0628\u062D\u064A", "\u0643\u0645\u0645", "\u0639\u062C\u0645",
      "\u0635\u0645\u0645", "\u0633\u062E\u064A", "\u0646\u062C\u064A"]),
    (0xFDF0, ["\u0635\u0644\u06D2", "\u0642\u0644\u06D2", "\u0627\u0644\u0644\u0647",
      "\u0627\u0643\u0628\u0631", "\u0645\u062D\u0645\u062F", "\u0635\u0644\u0639\u0645",
      "\u0631\u0633\u0648\u0644", "\u0639\u0644\u064A\u0647", "\u0648\u0633\u0644\u0645",
      "\u0635\u0644\u0649",
      "\u0635\u0644\u0649 \u0627\u0644\u0644\u0647 \u0639\u0644\u064A\u0647 \u0648\u0633\u0644\u0645",
      "\u062C\u0644 \u062C\u0644\u0627\u0644\u0647", "\u0631\u06CC\u0627\u0644"]),
    (0xFE49, [" \u0305", " \u0305", " \u0305", " \u0305"]),
    (0xFE70, [" \u064B", "\u0640\u064B", " \u064C"]),
    (0xFE74, [" \u064D"]),
    (0xFE76, [" \u064E", "\u0640\u064E", " \u064F", "\u0640\u064F", " \u0650", "\u0640\u0650",
      " \u0651", "\u0640\u0651", " \u0652", "\u0640\u0652"]),
    (0xFEF5, ["\u0644\u0622", "\u0644\u0622", "\u0644\u0623", "\u0644\u0623", "\u0644\u0625",
      "\u0644\u0625", "\u0644\u0627", "\u0644\u0627"]),
    (0xFFE3, [" \u0304"]),
    (0x1D15E, ["𝅗𝅥", "𝅘𝅥", "𝅘𝅥𝅮", "𝅘𝅥𝅯", "𝅘𝅥𝅰", "𝅘𝅥𝅱", "𝅘𝅥𝅲"]),
    (0x1D1BB, ["𝆹𝅥", "𝆺𝅥", "𝆹𝅥𝅮", "𝆺𝅥𝅮", "𝆹𝅥𝅯", "𝆺𝅥𝅯"]),
    (0x1F101, ["0,", "1,", "2,", "3,", "4,", "5,", "6,", "7,", "8,", "9,"]),
    (0x1F110, ["(a)", "(b)", "(c)", "(d)", "(e)", "(f)", "(g)", "(h)", "(i)", "(j)", "(k)", "(l)",
      "(m)", "(n)", "(o)", "(p)", "(q)", "(r)", "(s)", "(t)", "(u)", "(v)", "(w)", "(x)", "(y)",
      "(z)", "\u3014s\u3015"]),
    (0x1F12D, ["cd", "wz"]),
    (0x1F14A, ["hv", "mv", "sd", "ss", "ppv", "wc"]),
    (0x1F16A, ["mc", "md", "mr"]),
    (0x1F190, ["dj"]),
    (0x1F200, ["\u307B\u304B", "\u30B3\u30B3"]),
    (0x1F240, ["\u3014\u672C\u3015", "\u3014\u4E09\u3015", "\u3014\u4E8C\u3015",
      "\u3014\u5B89\u3015", "\u3014\u70B9\u3015", "\u3014\u6253\u3015", "\u3014\u76D7\u3015",
      "\u3014\u52DD\u3015", "\u3014\u6557\u3015"])]

end MigrationPreview.Url
