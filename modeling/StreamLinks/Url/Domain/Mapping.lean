import StreamLinks.Text.Basic
/-!
What the characters of a domain become. Capital letters become small, compatibility forms the plain
characters that they stand for, and characters that are not shown are dropped; some may not stand in a
domain at all.
-/
namespace StreamLinks.Url.Domain

/-- Code points beyond ASCII that may stand in a written domain. -/
def knownRanges : List (Nat × Nat) :=
  [(0xA0, 0x377), (0x37A, 0x37F), (0x384, 0x38A), (0x38C, 0x38C), (0x38E, 0x3A1), (0x3A3, 0x52F),
   (0x531, 0x556), (0x559, 0x58A), (0x58D, 0x58F), (0x591, 0x5C7), (0x5D0, 0x5EA), (0x5EF, 0x5F4),
   (0x606, 0x61B), (0x61D, 0x6DC), (0x6DE, 0x70D), (0x710, 0x74A), (0x74D, 0x7B1), (0x7C0, 0x7FA),
   (0x7FD, 0x82D), (0x830, 0x83E), (0x840, 0x85B), (0x85E, 0x85E), (0x860, 0x86A), (0x870, 0x88F),
   (0x897, 0x8E1), (0x8E3, 0x983), (0x985, 0x98C), (0x98F, 0x990), (0x993, 0x9A8), (0x9AA, 0x9B0),
   (0x9B2, 0x9B2), (0x9B6, 0x9B9), (0x9BC, 0x9C4), (0x9C7, 0x9C8), (0x9CB, 0x9CE), (0x9D7, 0x9D7),
   (0x9DC, 0x9DD), (0x9DF, 0x9E3), (0x9E6, 0x9FE), (0xA01, 0xA03), (0xA05, 0xA0A), (0xA0F, 0xA10),
   (0xA13, 0xA28), (0xA2A, 0xA30), (0xA32, 0xA33), (0xA35, 0xA36), (0xA38, 0xA39), (0xA3C, 0xA3C),
   (0xA3E, 0xA42), (0xA47, 0xA48), (0xA4B, 0xA4D), (0xA51, 0xA51), (0xA59, 0xA5C), (0xA5E, 0xA5E),
   (0xA66, 0xA76), (0xA81, 0xA83), (0xA85, 0xA8D), (0xA8F, 0xA91), (0xA93, 0xAA8), (0xAAA, 0xAB0),
   (0xAB2, 0xAB3), (0xAB5, 0xAB9), (0xABC, 0xAC5), (0xAC7, 0xAC9), (0xACB, 0xACD), (0xAD0, 0xAD0),
   (0xAE0, 0xAE3), (0xAE6, 0xAF1), (0xAF9, 0xAFF), (0xB01, 0xB03), (0xB05, 0xB0C), (0xB0F, 0xB10),
   (0xB13, 0xB28), (0xB2A, 0xB30), (0xB32, 0xB33), (0xB35, 0xB39), (0xB3C, 0xB44), (0xB47, 0xB48),
   (0xB4B, 0xB4D), (0xB55, 0xB57), (0xB5C, 0xB5D), (0xB5F, 0xB63), (0xB66, 0xB77), (0xB82, 0xB83),
   (0xB85, 0xB8A), (0xB8E, 0xB90), (0xB92, 0xB95), (0xB99, 0xB9A), (0xB9C, 0xB9C), (0xB9E, 0xB9F),
   (0xBA3, 0xBA4), (0xBA8, 0xBAA), (0xBAE, 0xBB9), (0xBBE, 0xBC2), (0xBC6, 0xBC8), (0xBCA, 0xBCD),
   (0xBD0, 0xBD0), (0xBD7, 0xBD7), (0xBE6, 0xBFA), (0xC00, 0xC0C), (0xC0E, 0xC10), (0xC12, 0xC28),
   (0xC2A, 0xC39), (0xC3C, 0xC44), (0xC46, 0xC48), (0xC4A, 0xC4D), (0xC55, 0xC56), (0xC58, 0xC5A),
   (0xC5C, 0xC5D), (0xC60, 0xC63), (0xC66, 0xC6F), (0xC77, 0xC8C), (0xC8E, 0xC90), (0xC92, 0xCA8),
   (0xCAA, 0xCB3), (0xCB5, 0xCB9), (0xCBC, 0xCC4), (0xCC6, 0xCC8), (0xCCA, 0xCCD), (0xCD5, 0xCD6),
   (0xCDC, 0xCDE), (0xCE0, 0xCE3), (0xCE6, 0xCEF), (0xCF1, 0xCF3), (0xD00, 0xD0C), (0xD0E, 0xD10),
   (0xD12, 0xD44), (0xD46, 0xD48), (0xD4A, 0xD4F), (0xD54, 0xD63), (0xD66, 0xD7F), (0xD81, 0xD83),
   (0xD85, 0xD96), (0xD9A, 0xDB1), (0xDB3, 0xDBB), (0xDBD, 0xDBD), (0xDC0, 0xDC6), (0xDCA, 0xDCA),
   (0xDCF, 0xDD4), (0xDD6, 0xDD6), (0xDD8, 0xDDF), (0xDE6, 0xDEF), (0xDF2, 0xDF4), (0xE01, 0xE3A),
   (0xE3F, 0xE5B), (0xE81, 0xE82), (0xE84, 0xE84), (0xE86, 0xE8A), (0xE8C, 0xEA3), (0xEA5, 0xEA5),
   (0xEA7, 0xEBD), (0xEC0, 0xEC4), (0xEC6, 0xEC6), (0xEC8, 0xECE), (0xED0, 0xED9), (0xEDC, 0xEDF),
   (0xF00, 0xF47), (0xF49, 0xF6C), (0xF71, 0xF97), (0xF99, 0xFBC), (0xFBE, 0xFCC), (0xFCE, 0xFDA),
   (0x1000, 0x10C5), (0x10C7, 0x10C7), (0x10CD, 0x10CD), (0x10D0, 0x1248), (0x124A, 0x124D),
   (0x1250, 0x1256), (0x1258, 0x1258), (0x125A, 0x125D), (0x1260, 0x1288), (0x128A, 0x128D),
   (0x1290, 0x12B0), (0x12B2, 0x12B5), (0x12B8, 0x12BE), (0x12C0, 0x12C0), (0x12C2, 0x12C5),
   (0x12C8, 0x12D6), (0x12D8, 0x1310), (0x1312, 0x1315), (0x1318, 0x135A), (0x135D, 0x137C),
   (0x1380, 0x1399), (0x13A0, 0x13F5), (0x13F8, 0x13FD), (0x1400, 0x167F), (0x1681, 0x169C),
   (0x16A0, 0x16F8), (0x1700, 0x1715), (0x171F, 0x1736), (0x1740, 0x1753), (0x1760, 0x176C),
   (0x176E, 0x1770), (0x1772, 0x1773), (0x1780, 0x17DD), (0x17E0, 0x17E9), (0x17F0, 0x17F9),
   (0x1800, 0x1819), (0x1820, 0x1878), (0x1880, 0x18AA), (0x18B0, 0x18F5), (0x1900, 0x191E),
   (0x1920, 0x192B), (0x1930, 0x193B), (0x1940, 0x1940), (0x1944, 0x196D), (0x1970, 0x1974),
   (0x1980, 0x19AB), (0x19B0, 0x19C9), (0x19D0, 0x19DA), (0x19DE, 0x1A1B), (0x1A1E, 0x1A5E),
   (0x1A60, 0x1A7C), (0x1A7F, 0x1A89), (0x1A90, 0x1A99), (0x1AA0, 0x1AAD), (0x1AB0, 0x1ADD),
   (0x1AE0, 0x1AEB), (0x1B00, 0x1B4C), (0x1B4E, 0x1BF3), (0x1BFC, 0x1C37), (0x1C3B, 0x1C49),
   (0x1C4D, 0x1C8A), (0x1C90, 0x1CBA), (0x1CBD, 0x1CC7), (0x1CD0, 0x1CFA), (0x1D00, 0x1F15),
   (0x1F18, 0x1F1D), (0x1F20, 0x1F45), (0x1F48, 0x1F4D), (0x1F50, 0x1F57), (0x1F59, 0x1F59),
   (0x1F5B, 0x1F5B), (0x1F5D, 0x1F5D), (0x1F5F, 0x1F7D), (0x1F80, 0x1FB4), (0x1FB6, 0x1FC4),
   (0x1FC6, 0x1FD3), (0x1FD6, 0x1FDB), (0x1FDD, 0x1FEF), (0x1FF2, 0x1FF4), (0x1FF6, 0x1FFE),
   (0x2000, 0x200D), (0x2010, 0x2023), (0x2027, 0x2027), (0x202F, 0x2064), (0x206A, 0x2071),
   (0x2074, 0x208E), (0x2090, 0x209C), (0x20A0, 0x20C1), (0x20D0, 0x20F0), (0x2100, 0x218B),
   (0x2190, 0x2429), (0x2440, 0x244A), (0x2460, 0x2487), (0x249C, 0x2B73), (0x2B76, 0x2CF3),
   (0x2CF9, 0x2D25), (0x2D27, 0x2D27), (0x2D2D, 0x2D2D), (0x2D30, 0x2D67), (0x2D6F, 0x2D70),
   (0x2D7F, 0x2D96), (0x2DA0, 0x2DA6), (0x2DA8, 0x2DAE), (0x2DB0, 0x2DB6), (0x2DB8, 0x2DBE),
   (0x2DC0, 0x2DC6), (0x2DC8, 0x2DCE), (0x2DD0, 0x2DD6), (0x2DD8, 0x2DDE), (0x2DE0, 0x2E5D),
   (0x2E80, 0x2E99), (0x2E9B, 0x2EF3), (0x2F00, 0x2FD5), (0x3000, 0x303F), (0x3041, 0x3096),
   (0x3099, 0x30FF), (0x3105, 0x312F), (0x3131, 0x318E), (0x3190, 0x31E5), (0x31F0, 0x321E),
   (0x3220, 0x33C1), (0x33C3, 0x33C6), (0x33C8, 0x33D7), (0x33D9, 0xA48C), (0xA490, 0xA4C6),
   (0xA4D0, 0xA62B), (0xA640, 0xA6F7), (0xA700, 0xA7DC), (0xA7F1, 0xA82C), (0xA830, 0xA839),
   (0xA840, 0xA877), (0xA880, 0xA8C5), (0xA8CE, 0xA8D9), (0xA8E0, 0xA953), (0xA95F, 0xA97C),
   (0xA980, 0xA9CD), (0xA9CF, 0xA9D9), (0xA9DE, 0xA9FE), (0xAA00, 0xAA36), (0xAA40, 0xAA4D),
   (0xAA50, 0xAA59), (0xAA5C, 0xAAC2), (0xAADB, 0xAAF6), (0xAB01, 0xAB06), (0xAB09, 0xAB0E),
   (0xAB11, 0xAB16), (0xAB20, 0xAB26), (0xAB28, 0xAB2E), (0xAB30, 0xAB6B), (0xAB70, 0xABED),
   (0xABF0, 0xABF9), (0xAC00, 0xD7A3), (0xD7B0, 0xD7C6), (0xD7CB, 0xD7FB), (0xF900, 0xFA6D),
   (0xFA70, 0xFAD9), (0xFB00, 0xFB06), (0xFB13, 0xFB17), (0xFB1D, 0xFB36), (0xFB38, 0xFB3C),
   (0xFB3E, 0xFB3E), (0xFB40, 0xFB41), (0xFB43, 0xFB44), (0xFB46, 0xFDCF), (0xFDF0, 0xFE11),
   (0xFE13, 0xFE18), (0xFE20, 0xFE2F), (0xFE31, 0xFE51), (0xFE54, 0xFE66), (0xFE68, 0xFE6B),
   (0xFE70, 0xFE74), (0xFE76, 0xFEFC), (0xFEFF, 0xFEFF), (0xFF01, 0xFFBE), (0xFFC2, 0xFFC7),
   (0xFFCA, 0xFFCF), (0xFFD2, 0xFFD7), (0xFFDA, 0xFFDC), (0xFFE0, 0xFFE6), (0xFFE8, 0xFFEE),
   (0x10000, 0x1000B), (0x1000D, 0x10026), (0x10028, 0x1003A), (0x1003C, 0x1003D),
   (0x1003F, 0x1004D), (0x10050, 0x1005D), (0x10080, 0x100FA), (0x10100, 0x10102),
   (0x10107, 0x10133), (0x10137, 0x1018E), (0x10190, 0x1019C), (0x101A0, 0x101A0),
   (0x101D0, 0x101FD), (0x10280, 0x1029C), (0x102A0, 0x102D0), (0x102E0, 0x102FB),
   (0x10300, 0x10323), (0x1032D, 0x1034A), (0x10350, 0x1037A), (0x10380, 0x1039D),
   (0x1039F, 0x103C3), (0x103C8, 0x103D5), (0x10400, 0x1049D), (0x104A0, 0x104A9),
   (0x104B0, 0x104D3), (0x104D8, 0x104FB), (0x10500, 0x10527), (0x10530, 0x10563),
   (0x1056F, 0x1057A), (0x1057C, 0x1058A), (0x1058C, 0x10592), (0x10594, 0x10595),
   (0x10597, 0x105A1), (0x105A3, 0x105B1), (0x105B3, 0x105B9), (0x105BB, 0x105BC),
   (0x105C0, 0x105F3), (0x10600, 0x10736), (0x10740, 0x10755), (0x10760, 0x10767),
   (0x10780, 0x10785), (0x10787, 0x107B0), (0x107B2, 0x107BA), (0x10800, 0x10805),
   (0x10808, 0x10808), (0x1080A, 0x10835), (0x10837, 0x10838), (0x1083C, 0x1083C),
   (0x1083F, 0x10855), (0x10857, 0x1089E), (0x108A7, 0x108AF), (0x108E0, 0x108F2),
   (0x108F4, 0x108F5), (0x108FB, 0x1091B), (0x1091F, 0x10939), (0x1093F, 0x10959),
   (0x10980, 0x109B7), (0x109BC, 0x109CF), (0x109D2, 0x10A03), (0x10A05, 0x10A06),
   (0x10A0C, 0x10A13), (0x10A15, 0x10A17), (0x10A19, 0x10A35), (0x10A38, 0x10A3A),
   (0x10A3F, 0x10A48), (0x10A50, 0x10A58), (0x10A60, 0x10A9F), (0x10AC0, 0x10AE6),
   (0x10AEB, 0x10AF6), (0x10B00, 0x10B35), (0x10B39, 0x10B55), (0x10B58, 0x10B72),
   (0x10B78, 0x10B91), (0x10B99, 0x10B9C), (0x10BA9, 0x10BAF), (0x10C00, 0x10C48),
   (0x10C80, 0x10CB2), (0x10CC0, 0x10CF2), (0x10CFA, 0x10D27), (0x10D30, 0x10D39),
   (0x10D40, 0x10D65), (0x10D69, 0x10D85), (0x10D8E, 0x10D8F), (0x10E60, 0x10E7E),
   (0x10E80, 0x10EA9), (0x10EAB, 0x10EAD), (0x10EB0, 0x10EB1), (0x10EC2, 0x10EC7),
   (0x10ED0, 0x10ED8), (0x10EFA, 0x10F27), (0x10F30, 0x10F59), (0x10F70, 0x10F89),
   (0x10FB0, 0x10FCB), (0x10FE0, 0x10FF6), (0x11000, 0x1104D), (0x11052, 0x11075),
   (0x1107F, 0x110BC), (0x110BE, 0x110C2), (0x110D0, 0x110E8), (0x110F0, 0x110F9),
   (0x11100, 0x11134), (0x11136, 0x11147), (0x11150, 0x11176), (0x11180, 0x111DF),
   (0x111E1, 0x111F4), (0x11200, 0x11211), (0x11213, 0x11241), (0x11280, 0x11286),
   (0x11288, 0x11288), (0x1128A, 0x1128D), (0x1128F, 0x1129D), (0x1129F, 0x112A9),
   (0x112B0, 0x112EA), (0x112F0, 0x112F9), (0x11300, 0x11303), (0x11305, 0x1130C),
   (0x1130F, 0x11310), (0x11313, 0x11328), (0x1132A, 0x11330), (0x11332, 0x11333),
   (0x11335, 0x11339), (0x1133B, 0x11344), (0x11347, 0x11348), (0x1134B, 0x1134D),
   (0x11350, 0x11350), (0x11357, 0x11357), (0x1135D, 0x11363), (0x11366, 0x1136C),
   (0x11370, 0x11374), (0x11380, 0x11389), (0x1138B, 0x1138B), (0x1138E, 0x1138E),
   (0x11390, 0x113B5), (0x113B7, 0x113C0), (0x113C2, 0x113C2), (0x113C5, 0x113C5),
   (0x113C7, 0x113CA), (0x113CC, 0x113D5), (0x113D7, 0x113D8), (0x113E1, 0x113E2),
   (0x11400, 0x1145B), (0x1145D, 0x11461), (0x11480, 0x114C7), (0x114D0, 0x114D9),
   (0x11580, 0x115B5), (0x115B8, 0x115DD), (0x11600, 0x11644), (0x11650, 0x11659),
   (0x11660, 0x1166C), (0x11680, 0x116B9), (0x116C0, 0x116C9), (0x116D0, 0x116E3),
   (0x11700, 0x1171A), (0x1171D, 0x1172B), (0x11730, 0x11746), (0x11800, 0x1183B),
   (0x118A0, 0x118F2), (0x118FF, 0x11906), (0x11909, 0x11909), (0x1190C, 0x11913),
   (0x11915, 0x11916), (0x11918, 0x11935), (0x11937, 0x11938), (0x1193B, 0x11946),
   (0x11950, 0x11959), (0x119A0, 0x119A7), (0x119AA, 0x119D7), (0x119DA, 0x119E4),
   (0x11A00, 0x11A47), (0x11A50, 0x11AA2), (0x11AB0, 0x11AF8), (0x11B00, 0x11B09),
   (0x11B60, 0x11B67), (0x11BC0, 0x11BE1), (0x11BF0, 0x11BF9), (0x11C00, 0x11C08),
   (0x11C0A, 0x11C36), (0x11C38, 0x11C45), (0x11C50, 0x11C6C), (0x11C70, 0x11C8F),
   (0x11C92, 0x11CA7), (0x11CA9, 0x11CB6), (0x11D00, 0x11D06), (0x11D08, 0x11D09),
   (0x11D0B, 0x11D36), (0x11D3A, 0x11D3A), (0x11D3C, 0x11D3D), (0x11D3F, 0x11D47),
   (0x11D50, 0x11D59), (0x11D60, 0x11D65), (0x11D67, 0x11D68), (0x11D6A, 0x11D8E),
   (0x11D90, 0x11D91), (0x11D93, 0x11D98), (0x11DA0, 0x11DA9), (0x11DB0, 0x11DDB),
   (0x11DE0, 0x11DE9), (0x11EE0, 0x11EF8), (0x11F00, 0x11F10), (0x11F12, 0x11F3A),
   (0x11F3E, 0x11F5A), (0x11FB0, 0x11FB0), (0x11FC0, 0x11FF1), (0x11FFF, 0x12399),
   (0x12400, 0x1246E), (0x12470, 0x12474), (0x12480, 0x12543), (0x12F90, 0x12FF2),
   (0x13000, 0x1342F), (0x13440, 0x13455), (0x13460, 0x143FA), (0x14400, 0x14646),
   (0x16100, 0x16139), (0x16800, 0x16A38), (0x16A40, 0x16A5E), (0x16A60, 0x16A69),
   (0x16A6E, 0x16ABE), (0x16AC0, 0x16AC9), (0x16AD0, 0x16AED), (0x16AF0, 0x16AF5),
   (0x16B00, 0x16B45), (0x16B50, 0x16B59), (0x16B5B, 0x16B61), (0x16B63, 0x16B77),
   (0x16B7D, 0x16B8F), (0x16D40, 0x16D79), (0x16E40, 0x16E9A), (0x16EA0, 0x16EB8),
   (0x16EBB, 0x16ED3), (0x16F00, 0x16F4A), (0x16F4F, 0x16F87), (0x16F8F, 0x16F9F),
   (0x16FE0, 0x16FE4), (0x16FF0, 0x16FF6), (0x17000, 0x18CD5), (0x18CFF, 0x18D1E),
   (0x18D80, 0x18DF2), (0x1AFF0, 0x1AFF3), (0x1AFF5, 0x1AFFB), (0x1AFFD, 0x1AFFE),
   (0x1B000, 0x1B122), (0x1B132, 0x1B132), (0x1B150, 0x1B152), (0x1B155, 0x1B155),
   (0x1B164, 0x1B167), (0x1B170, 0x1B2FB), (0x1BC00, 0x1BC6A), (0x1BC70, 0x1BC7C),
   (0x1BC80, 0x1BC88), (0x1BC90, 0x1BC99), (0x1BC9C, 0x1BCA3), (0x1CC00, 0x1CCFC),
   (0x1CD00, 0x1CEB3), (0x1CEBA, 0x1CED0), (0x1CEE0, 0x1CEF0), (0x1CF00, 0x1CF2D),
   (0x1CF30, 0x1CF46), (0x1CF50, 0x1CFC3), (0x1D000, 0x1D0F5), (0x1D100, 0x1D126),
   (0x1D129, 0x1D1EA), (0x1D200, 0x1D245), (0x1D2C0, 0x1D2D3), (0x1D2E0, 0x1D2F3),
   (0x1D300, 0x1D356), (0x1D360, 0x1D378), (0x1D400, 0x1D454), (0x1D456, 0x1D49C),
   (0x1D49E, 0x1D49F), (0x1D4A2, 0x1D4A2), (0x1D4A5, 0x1D4A6), (0x1D4A9, 0x1D4AC),
   (0x1D4AE, 0x1D4B9), (0x1D4BB, 0x1D4BB), (0x1D4BD, 0x1D4C3), (0x1D4C5, 0x1D505),
   (0x1D507, 0x1D50A), (0x1D50D, 0x1D514), (0x1D516, 0x1D51C), (0x1D51E, 0x1D539),
   (0x1D53B, 0x1D53E), (0x1D540, 0x1D544), (0x1D546, 0x1D546), (0x1D54A, 0x1D550),
   (0x1D552, 0x1D6A5), (0x1D6A8, 0x1D7CB), (0x1D7CE, 0x1DA8B), (0x1DA9B, 0x1DA9F),
   (0x1DAA1, 0x1DAAF), (0x1DF00, 0x1DF1E), (0x1DF25, 0x1DF2A), (0x1E000, 0x1E006),
   (0x1E008, 0x1E018), (0x1E01B, 0x1E021), (0x1E023, 0x1E024), (0x1E026, 0x1E02A),
   (0x1E030, 0x1E06D), (0x1E08F, 0x1E08F), (0x1E100, 0x1E12C), (0x1E130, 0x1E13D),
   (0x1E140, 0x1E149), (0x1E14E, 0x1E14F), (0x1E290, 0x1E2AE), (0x1E2C0, 0x1E2F9),
   (0x1E2FF, 0x1E2FF), (0x1E4D0, 0x1E4F9), (0x1E5D0, 0x1E5FA), (0x1E5FF, 0x1E5FF),
   (0x1E6C0, 0x1E6DE), (0x1E6E0, 0x1E6F5), (0x1E6FE, 0x1E6FF), (0x1E7E0, 0x1E7E6),
   (0x1E7E8, 0x1E7EB), (0x1E7ED, 0x1E7EE), (0x1E7F0, 0x1E7FE), (0x1E800, 0x1E8C4),
   (0x1E8C7, 0x1E8D6), (0x1E900, 0x1E94B), (0x1E950, 0x1E959), (0x1E95E, 0x1E95F),
   (0x1EC71, 0x1ECB4), (0x1ED01, 0x1ED3D), (0x1EE00, 0x1EE03), (0x1EE05, 0x1EE1F),
   (0x1EE21, 0x1EE22), (0x1EE24, 0x1EE24), (0x1EE27, 0x1EE27), (0x1EE29, 0x1EE32),
   (0x1EE34, 0x1EE37), (0x1EE39, 0x1EE39), (0x1EE3B, 0x1EE3B), (0x1EE42, 0x1EE42),
   (0x1EE47, 0x1EE47), (0x1EE49, 0x1EE49), (0x1EE4B, 0x1EE4B), (0x1EE4D, 0x1EE4F),
   (0x1EE51, 0x1EE52), (0x1EE54, 0x1EE54), (0x1EE57, 0x1EE57), (0x1EE59, 0x1EE59),
   (0x1EE5B, 0x1EE5B), (0x1EE5D, 0x1EE5D), (0x1EE5F, 0x1EE5F), (0x1EE61, 0x1EE62),
   (0x1EE64, 0x1EE64), (0x1EE67, 0x1EE6A), (0x1EE6C, 0x1EE72), (0x1EE74, 0x1EE77),
   (0x1EE79, 0x1EE7C), (0x1EE7E, 0x1EE7E), (0x1EE80, 0x1EE89), (0x1EE8B, 0x1EE9B),
   (0x1EEA1, 0x1EEA3), (0x1EEA5, 0x1EEA9), (0x1EEAB, 0x1EEBB), (0x1EEF0, 0x1EEF1),
   (0x1F000, 0x1F02B), (0x1F030, 0x1F093), (0x1F0A0, 0x1F0AE), (0x1F0B1, 0x1F0BF),
   (0x1F0C1, 0x1F0CF), (0x1F0D1, 0x1F0F5), (0x1F101, 0x1F1AD), (0x1F1E6, 0x1F202),
   (0x1F210, 0x1F23B), (0x1F240, 0x1F248), (0x1F250, 0x1F251), (0x1F260, 0x1F265),
   (0x1F300, 0x1F6D8), (0x1F6DC, 0x1F6EC), (0x1F6F0, 0x1F6FC), (0x1F700, 0x1F7D9),
   (0x1F7E0, 0x1F7EB), (0x1F7F0, 0x1F7F0), (0x1F800, 0x1F80B), (0x1F810, 0x1F847),
   (0x1F850, 0x1F859), (0x1F860, 0x1F887), (0x1F890, 0x1F8AD), (0x1F8B0, 0x1F8BB),
   (0x1F8C0, 0x1F8C1), (0x1F8D0, 0x1F8D8), (0x1F900, 0x1FA57), (0x1FA60, 0x1FA6D),
   (0x1FA70, 0x1FA7C), (0x1FA80, 0x1FA8A), (0x1FA8E, 0x1FAC6), (0x1FAC8, 0x1FAC8),
   (0x1FACD, 0x1FADC), (0x1FADF, 0x1FAEA), (0x1FAEF, 0x1FAF8), (0x1FB00, 0x1FB92),
   (0x1FB94, 0x1FBFA), (0x20000, 0x2A6DF), (0x2A700, 0x2B81D), (0x2B820, 0x2CEAD),
   (0x2CEB0, 0x2EBE0), (0x2EBF0, 0x2EE5D), (0x2F800, 0x2FA1D), (0x30000, 0x3134A),
   (0x31350, 0x33479), (0xE0100, 0xE01EF)]

/-- Code points that are dropped. -/
def droppedRanges : List (Nat × Nat) :=
  [(0xAD, 0xAD), (0x34F, 0x34F), (0x115F, 0x1160), (0x17B4, 0x17B5), (0x180B, 0x180F),
   (0x200B, 0x200B), (0x2060, 0x2064), (0x206A, 0x206F), (0x3164, 0x3164), (0xFE00, 0xFE0F),
   (0xFEFF, 0xFEFF), (0xFFA0, 0xFFA0), (0x1BCA0, 0x1BCA3), (0x1D173, 0x1D17A), (0xE0100, 0xE01EF)]

/-- Code points of which every second one, from the first to the last, is a capital letter with its
small letter behind it. -/
def alternatingRanges : List (Nat × Nat) :=
  [(0x100, 0x12E), (0x134, 0x136), (0x139, 0x13D), (0x141, 0x147), (0x14A, 0x176), (0x179, 0x17D),
   (0x182, 0x184), (0x187, 0x187), (0x18B, 0x18B), (0x191, 0x191), (0x198, 0x198), (0x1A0, 0x1A4),
   (0x1A7, 0x1A7), (0x1AC, 0x1AC), (0x1AF, 0x1AF), (0x1B3, 0x1B5), (0x1B8, 0x1B8), (0x1BC, 0x1BC),
   (0x1CD, 0x1DB), (0x1DE, 0x1EE), (0x1F4, 0x1F4), (0x1F8, 0x21E), (0x222, 0x232), (0x23B, 0x23B),
   (0x241, 0x241), (0x246, 0x24E), (0x370, 0x372), (0x376, 0x376), (0x3D8, 0x3EE), (0x3F7, 0x3F7),
   (0x3FA, 0x3FA), (0x460, 0x480), (0x48A, 0x4BE), (0x4C1, 0x4CD), (0x4D0, 0x52E), (0x1C89, 0x1C89),
   (0x1E00, 0x1E94), (0x1EA0, 0x1EFE), (0x2183, 0x2183), (0x2C60, 0x2C60), (0x2C67, 0x2C6B),
   (0x2C72, 0x2C72), (0x2C75, 0x2C75), (0x2C80, 0x2CE2), (0x2CEB, 0x2CED), (0x2CF2, 0x2CF2),
   (0xA640, 0xA66C), (0xA680, 0xA69A), (0xA722, 0xA72E), (0xA732, 0xA76E), (0xA779, 0xA77B),
   (0xA77E, 0xA786), (0xA78B, 0xA78B), (0xA790, 0xA792), (0xA796, 0xA7A8), (0xA7B4, 0xA7C2),
   (0xA7C7, 0xA7C9), (0xA7CC, 0xA7DA), (0xA7F5, 0xA7F5)]

/-- Runs of code points with what each of them becomes, in order and with dots between. -/
def mappedRuns : List (Nat × Nat × String) :=
  [(0xA0, 0xA0, " "), (0xA8, 0xA8, " ̈"), (0xAA, 0xAA, "a"), (0xAF, 0xAF, " ̄"),
   (0xB2, 0xB5, "2•3• ́•μ"), (0xB8, 0xBA, " ̧•1•o"), (0xBC, 0xBE, "1⁄4•1⁄2•3⁄4"),
   (0xC0, 0xD6, "à•á•â•ã•ä•å•æ•ç•è•é•ê•ë•ì•í•î•ï•ð•ñ•ò•ó•ô•õ•ö"), (0xD8, 0xDE, "ø•ù•ú•û•ü•ý•þ"),
   (0x130, 0x130, "i̇"), (0x132, 0x133, "ij•ij"), (0x13F, 0x140, "l·•l·"), (0x149, 0x149, "ʼn"),
   (0x178, 0x178, "ÿ"), (0x17F, 0x17F, "s"), (0x181, 0x181, "ɓ"), (0x186, 0x186, "ɔ"),
   (0x189, 0x18A, "ɖ•ɗ"), (0x18E, 0x190, "ǝ•ə•ɛ"), (0x193, 0x194, "ɠ•ɣ"), (0x196, 0x197, "ɩ•ɨ"),
   (0x19C, 0x19D, "ɯ•ɲ"), (0x19F, 0x19F, "ɵ"), (0x1A6, 0x1A6, "ʀ"), (0x1A9, 0x1A9, "ʃ"),
   (0x1AE, 0x1AE, "ʈ"), (0x1B1, 0x1B2, "ʊ•ʋ"), (0x1B7, 0x1B7, "ʒ"),
   (0x1C4, 0x1CC, "dž•dž•dž•lj•lj•lj•nj•nj•nj"), (0x1F1, 0x1F3, "dz•dz•dz"), (0x1F6, 0x1F7, "ƕ•ƿ"),
   (0x220, 0x220, "ƞ"), (0x23A, 0x23A, "ⱥ"), (0x23D, 0x23E, "ƚ•ⱦ"), (0x243, 0x245, "ƀ•ʉ•ʌ"),
   (0x2B0, 0x2B8, "h•ɦ•j•r•ɹ•ɻ•ʁ•w•y"), (0x2D8, 0x2DD, " ̆• ̇• ̊• ̨• ̃• ̋"), (0x2E0, 0x2E4, "ɣ•l•s•x•ʕ"),
   (0x340, 0x341, "̀•́"), (0x343, 0x345, "̓•̈́•ι"), (0x374, 0x374, "ʹ"), (0x37A, 0x37A, " ι"),
   (0x37E, 0x37F, ";•ϳ"), (0x384, 0x38A, " ́• ̈́•ά•·•έ•ή•ί"), (0x38C, 0x38C, "ό"),
   (0x38E, 0x38F, "ύ•ώ"), (0x391, 0x3A1, "α•β•γ•δ•ε•ζ•η•θ•ι•κ•λ•μ•ν•ξ•ο•π•ρ"),
   (0x3A3, 0x3AB, "σ•τ•υ•φ•χ•ψ•ω•ϊ•ϋ"), (0x3CF, 0x3D6, "ϗ•β•θ•υ•ύ•ϋ•φ•π"), (0x3F0, 0x3F2, "κ•ρ•σ"),
   (0x3F4, 0x3F5, "θ•ε"), (0x3F9, 0x3F9, "σ"),
   (0x3FD, 0x41D, "ͻ•ͼ•ͽ•ѐ•ё•ђ•ѓ•є•ѕ•і•ї•ј•љ•њ•ћ•ќ•ѝ•ў•џ•а•б•в•г•д•е•ж•з•и•й•к•л•м•н"),
   (0x41E, 0x42F, "о•п•р•с•т•у•ф•х•ц•ч•ш•щ•ъ•ы•ь•э•ю•я"), (0x4C0, 0x4C0, "ӏ"),
   (0x531, 0x551, "ա•բ•գ•դ•ե•զ•է•ը•թ•ժ•ի•լ•խ•ծ•կ•հ•ձ•ղ•ճ•մ•յ•ն•շ•ո•չ•պ•ջ•ռ•ս•վ•տ•ր•ց"),
   (0x552, 0x556, "ւ•փ•ք•օ•ֆ"), (0x587, 0x587, "եւ"), (0x675, 0x678, "اٴ•وٴ•ۇٴ•يٴ"),
   (0x958, 0x95F, "क़•ख़•ग़•ज़•ड़•ढ़•फ़•य़"), (0x9DC, 0x9DD, "ড়•ঢ়"), (0x9DF, 0x9DF, "য়"),
   (0xA33, 0xA33, "ਲ਼"), (0xA36, 0xA36, "ਸ਼"), (0xA59, 0xA5B, "ਖ਼•ਗ਼•ਜ਼"), (0xA5E, 0xA5E, "ਫ਼"),
   (0xB5C, 0xB5D, "ଡ଼•ଢ଼"), (0xE33, 0xE33, "ํา"), (0xEB3, 0xEB3, "ໍາ"), (0xEDC, 0xEDD, "ຫນ•ຫມ"),
   (0xF0C, 0xF0C, "་"), (0xF43, 0xF43, "གྷ"), (0xF4D, 0xF4D, "ཌྷ"), (0xF52, 0xF52, "དྷ"),
   (0xF57, 0xF57, "བྷ"), (0xF5C, 0xF5C, "ཛྷ"), (0xF69, 0xF69, "ཀྵ"), (0xF73, 0xF73, "ཱི"),
   (0xF75, 0xF79, "ཱུ•ྲྀ•ྲཱྀ•ླྀ•ླཱྀ"), (0xF81, 0xF81, "ཱྀ"), (0xF93, 0xF93, "ྒྷ"), (0xF9D, 0xF9D, "ྜྷ"),
   (0xFA2, 0xFA2, "ྡྷ"), (0xFA7, 0xFA7, "ྦྷ"), (0xFAC, 0xFAC, "ྫྷ"), (0xFB9, 0xFB9, "ྐྵ"),
   (0x10A0, 0x10C0, "ⴀ•ⴁ•ⴂ•ⴃ•ⴄ•ⴅ•ⴆ•ⴇ•ⴈ•ⴉ•ⴊ•ⴋ•ⴌ•ⴍ•ⴎ•ⴏ•ⴐ•ⴑ•ⴒ•ⴓ•ⴔ•ⴕ•ⴖ•ⴗ•ⴘ•ⴙ•ⴚ•ⴛ•ⴜ•ⴝ•ⴞ•ⴟ•ⴠ"),
   (0x10C1, 0x10C5, "ⴡ•ⴢ•ⴣ•ⴤ•ⴥ"), (0x10C7, 0x10C7, "ⴧ"), (0x10CD, 0x10CD, "ⴭ"),
   (0x10FC, 0x10FC, "ნ"), (0x13F8, 0x13FD, "Ᏸ•Ᏹ•Ᏺ•Ᏻ•Ᏼ•Ᏽ"), (0x1C80, 0x1C88, "в•д•о•с•т•т•ъ•ѣ•ꙋ"),
   (0x1C90, 0x1CB0, "ა•ბ•გ•დ•ე•ვ•ზ•თ•ი•კ•ლ•მ•ნ•ო•პ•ჟ•რ•ს•ტ•უ•ფ•ქ•ღ•ყ•შ•ჩ•ც•ძ•წ•ჭ•ხ•ჯ•ჰ"),
   (0x1CB1, 0x1CBA, "ჱ•ჲ•ჳ•ჴ•ჵ•ჶ•ჷ•ჸ•ჹ•ჺ"), (0x1CBD, 0x1CBF, "ჽ•ჾ•ჿ"), (0x1D2C, 0x1D2E, "a•æ•b"),
   (0x1D30, 0x1D3A, "d•e•ǝ•g•h•i•j•k•l•m•n"),
   (0x1D3C, 0x1D4D, "o•ȣ•p•r•t•u•w•a•ɐ•ɑ•ᴂ•b•d•e•ə•ɛ•ɜ•g"),
   (0x1D4F, 0x1D6A, "k•m•ŋ•o•ɔ•ᴖ•ᴗ•p•t•u•ᴝ•ɯ•v•ᴥ•β•γ•δ•φ•χ•i•r•u•v•β•γ•ρ•φ•χ"),
   (0x1D78, 0x1D78, "н"),
   (0x1D9B, 0x1DBB, "ɒ•c•ɕ•ð•ɜ•f•ɟ•ɡ•ɥ•ɨ•ɩ•ɪ•ᵻ•ʝ•ɭ•ᶅ•ʟ•ɱ•ɰ•ɲ•ɳ•ɴ•ɵ•ɸ•ʂ•ʃ•ƫ•ʉ•ʊ•ᴜ•ʋ•ʌ•z"),
   (0x1DBC, 0x1DBF, "ʐ•ʑ•ʒ•θ"), (0x1E9A, 0x1E9B, "aʾ•ṡ"), (0x1E9E, 0x1E9E, "ß"),
   (0x1F08, 0x1F0F, "ἀ•ἁ•ἂ•ἃ•ἄ•ἅ•ἆ•ἇ"), (0x1F18, 0x1F1D, "ἐ•ἑ•ἒ•ἓ•ἔ•ἕ"),
   (0x1F28, 0x1F2F, "ἠ•ἡ•ἢ•ἣ•ἤ•ἥ•ἦ•ἧ"), (0x1F38, 0x1F3F, "ἰ•ἱ•ἲ•ἳ•ἴ•ἵ•ἶ•ἷ"),
   (0x1F48, 0x1F4D, "ὀ•ὁ•ὂ•ὃ•ὄ•ὅ"), (0x1F59, 0x1F59, "ὑ"), (0x1F5B, 0x1F5B, "ὓ"),
   (0x1F5D, 0x1F5D, "ὕ"), (0x1F5F, 0x1F5F, "ὗ"), (0x1F68, 0x1F6F, "ὠ•ὡ•ὢ•ὣ•ὤ•ὥ•ὦ•ὧ"),
   (0x1F71, 0x1F71, "ά"), (0x1F73, 0x1F73, "έ"), (0x1F75, 0x1F75, "ή"), (0x1F77, 0x1F77, "ί"),
   (0x1F79, 0x1F79, "ό"), (0x1F7B, 0x1F7B, "ύ"), (0x1F7D, 0x1F7D, "ώ"),
   (0x1F80, 0x1F95, "ἀι•ἁι•ἂι•ἃι•ἄι•ἅι•ἆι•ἇι•ἀι•ἁι•ἂι•ἃι•ἄι•ἅι•ἆι•ἇι•ἠι•ἡι•ἢι•ἣι•ἤι•ἥι"),
   (0x1F96, 0x1FAB, "ἦι•ἧι•ἠι•ἡι•ἢι•ἣι•ἤι•ἥι•ἦι•ἧι•ὠι•ὡι•ὢι•ὣι•ὤι•ὥι•ὦι•ὧι•ὠι•ὡι•ὢι•ὣι"),
   (0x1FAC, 0x1FAF, "ὤι•ὥι•ὦι•ὧι"), (0x1FB2, 0x1FB4, "ὰι•αι•άι"),
   (0x1FB7, 0x1FC4, "ᾶι•ᾰ•ᾱ•ὰ•ά•αι• ̓•ι• ̓• ͂• ̈͂•ὴι•ηι•ήι"), (0x1FC7, 0x1FCF, "ῆι•ὲ•έ•ὴ•ή•ηι• ̓̀• ̓́• ̓͂"),
   (0x1FD3, 0x1FD3, "ΐ"), (0x1FD8, 0x1FDB, "ῐ•ῑ•ὶ•ί"), (0x1FDD, 0x1FDF, " ̔̀• ̔́• ̔͂"),
   (0x1FE3, 0x1FE3, "ΰ"), (0x1FE8, 0x1FEF, "ῠ•ῡ•ὺ•ύ•ῥ• ̈̀• ̈́•`"), (0x1FF2, 0x1FF4, "ὼι•ωι•ώι"),
   (0x1FF7, 0x1FFE, "ῶι•ὸ•ό•ὼ•ώ•ωι• ́• ̔"), (0x2000, 0x200A, " • • • • • • • • • • "),
   (0x2011, 0x2011, "‐"), (0x2017, 0x2017, " ̳"), (0x202F, 0x202F, " "), (0x2033, 0x2034, "′′•′′′"),
   (0x2036, 0x2037, "‵‵•‵‵‵"), (0x203C, 0x203C, "!!"), (0x203E, 0x203E, " ̅"),
   (0x2047, 0x2049, "??•?!•!?"), (0x2057, 0x2057, "′′′′"), (0x205F, 0x205F, " "),
   (0x2070, 0x2071, "0•i"),
   (0x2074, 0x208E, "4•5•6•7•8•9•+•−•=•(•)•n•0•1•2•3•4•5•6•7•8•9•+•−•=•(•)"),
   (0x2090, 0x209C, "a•e•o•x•ə•h•k•l•m•n•p•s•t"), (0x20A8, 0x20A8, "rs"),
   (0x2100, 0x2103, "a/c•a/s•c•°c"), (0x2105, 0x2107, "c/o•c/u•ɛ"),
   (0x2109, 0x2113, "°f•g•h•h•h•h•ħ•i•i•l•l"), (0x2115, 0x2116, "n•no"),
   (0x2119, 0x211D, "p•q•r•r•r"), (0x2120, 0x2122, "sm•tel•tm"), (0x2124, 0x2124, "z"),
   (0x2126, 0x2126, "ω"), (0x2128, 0x2128, "z"), (0x212A, 0x212D, "k•å•b•c"),
   (0x212F, 0x2139, "e•e•f•ⅎ•m•o•א•ב•ג•ד•i"), (0x213B, 0x2140, "fax•π•γ•γ•π•∑"),
   (0x2145, 0x2149, "d•d•e•i•j"),
   (0x2150, 0x2160, "1⁄7•1⁄9•1⁄10•1⁄3•2⁄3•1⁄5•2⁄5•3⁄5•4⁄5•1⁄6•5⁄6•1⁄8•3⁄8•5⁄8•7⁄8•1⁄•i"),
   (0x2161, 0x2176, "ii•iii•iv•v•vi•vii•viii•ix•x•xi•xii•l•c•d•m•i•ii•iii•iv•v•vi•vii"),
   (0x2177, 0x217F, "viii•ix•x•xi•xii•l•c•d•m"), (0x2189, 0x2189, "0⁄3"),
   (0x222C, 0x222D, "∫∫•∫∫∫"), (0x222F, 0x2230, "∮∮•∮∮∮"), (0x2329, 0x232A, "〈•〉"),
   (0x2460, 0x2477, "1•2•3•4•5•6•7•8•9•10•11•12•13•14•15•16•17•18•19•20•(1)•(2)•(3)•(4)"),
   (0x2478, 0x2485, "(5)•(6)•(7)•(8)•(9)•(10)•(11)•(12)•(13)•(14)•(15)•(16)•(17)•(18)"),
   (0x2486, 0x2487, "(19)•(20)"),
   (0x249C, 0x24AB, "(a)•(b)•(c)•(d)•(e)•(f)•(g)•(h)•(i)•(j)•(k)•(l)•(m)•(n)•(o)•(p)"),
   (0x24AC, 0x24C2, "(q)•(r)•(s)•(t)•(u)•(v)•(w)•(x)•(y)•(z)•a•b•c•d•e•f•g•h•i•j•k•l•m"),
   (0x24C3, 0x24E3, "n•o•p•q•r•s•t•u•v•w•x•y•z•a•b•c•d•e•f•g•h•i•j•k•l•m•n•o•p•q•r•s•t"),
   (0x24E4, 0x24EA, "u•v•w•x•y•z•0"), (0x2A0C, 0x2A0C, "∫∫∫∫"), (0x2A74, 0x2A76, "::=•==•==="),
   (0x2ADC, 0x2ADC, "⫝̸"),
   (0x2C00, 0x2C20, "ⰰ•ⰱ•ⰲ•ⰳ•ⰴ•ⰵ•ⰶ•ⰷ•ⰸ•ⰹ•ⰺ•ⰻ•ⰼ•ⰽ•ⰾ•ⰿ•ⱀ•ⱁ•ⱂ•ⱃ•ⱄ•ⱅ•ⱆ•ⱇ•ⱈ•ⱉ•ⱊ•ⱋ•ⱌ•ⱍ•ⱎ•ⱏ•ⱐ"),
   (0x2C21, 0x2C2F, "ⱑ•ⱒ•ⱓ•ⱔ•ⱕ•ⱖ•ⱗ•ⱘ•ⱙ•ⱚ•ⱛ•ⱜ•ⱝ•ⱞ•ⱟ"), (0x2C62, 0x2C64, "ɫ•ᵽ•ɽ"),
   (0x2C6D, 0x2C70, "ɑ•ɱ•ɐ•ɒ"), (0x2C7C, 0x2C7F, "j•v•ȿ•ɀ"), (0x2D6F, 0x2D6F, "ⵡ"),
   (0x2E9F, 0x2E9F, "母"), (0x2EF3, 0x2EF3, "龟"),
   (0x2F00, 0x2F15, "一•丨•丶•丿•乙•亅•二•亠•人•儿•入•八•冂•冖•冫•几•凵•刀•力•勹•匕•匚"),
   (0x2F16, 0x2F2B, "匸•十•卜•卩•厂•厶•又•口•囗•土•士•夂•夊•夕•大•女•子•宀•寸•小•尢•尸"),
   (0x2F2C, 0x2F41, "屮•山•巛•工•己•巾•干•幺•广•廴•廾•弋•弓•彐•彡•彳•心•戈•戶•手•支•攴"),
   (0x2F42, 0x2F57, "文•斗•斤•方•无•日•曰•月•木•欠•止•歹•殳•毋•比•毛•氏•气•水•火•爪•父"),
   (0x2F58, 0x2F6D, "爻•爿•片•牙•牛•犬•玄•玉•瓜•瓦•甘•生•用•田•疋•疒•癶•白•皮•皿•目•矛"),
   (0x2F6E, 0x2F83, "矢•石•示•禸•禾•穴•立•竹•米•糸•缶•网•羊•羽•老•而•耒•耳•聿•肉•臣•自"),
   (0x2F84, 0x2F99, "至•臼•舌•舛•舟•艮•色•艸•虍•虫•血•行•衣•襾•見•角•言•谷•豆•豕•豸•貝"),
   (0x2F9A, 0x2FAF, "赤•走•足•身•車•辛•辰•辵•邑•酉•釆•里•金•長•門•阜•隶•隹•雨•靑•非•面"),
   (0x2FB0, 0x2FC5, "革•韋•韭•音•頁•風•飛•食•首•香•馬•骨•高•髟•鬥•鬯•鬲•鬼•魚•鳥•鹵•鹿"),
   (0x2FC6, 0x2FD5, "麥•麻•黃•黍•黑•黹•黽•鼎•鼓•鼠•鼻•齊•齒•龍•龜•龠"), (0x3000, 0x3000, " "),
   (0x3002, 0x3002, "."), (0x3036, 0x3036, "〒"), (0x3038, 0x303A, "十•卄•卅"),
   (0x309B, 0x309C, " ゙• ゚"), (0x309F, 0x309F, "より"), (0x30FF, 0x30FF, "コト"),
   (0x3131, 0x3149, "ᄀ•ᄁ•ᆪ•ᄂ•ᆬ•ᆭ•ᄃ•ᄄ•ᄅ•ᆰ•ᆱ•ᆲ•ᆳ•ᆴ•ᆵ•ᄚ•ᄆ•ᄇ•ᄈ•ᄡ•ᄉ•ᄊ•ᄋ•ᄌ•ᄍ"),
   (0x314A, 0x3163, "ᄎ•ᄏ•ᄐ•ᄑ•ᄒ•ᅡ•ᅢ•ᅣ•ᅤ•ᅥ•ᅦ•ᅧ•ᅨ•ᅩ•ᅪ•ᅫ•ᅬ•ᅭ•ᅮ•ᅯ•ᅰ•ᅱ•ᅲ•ᅳ•ᅴ•ᅵ"),
   (0x3165, 0x317D, "ᄔ•ᄕ•ᇇ•ᇈ•ᇌ•ᇎ•ᇓ•ᇗ•ᇙ•ᄜ•ᇝ•ᇟ•ᄝ•ᄞ•ᄠ•ᄢ•ᄣ•ᄧ•ᄩ•ᄫ•ᄬ•ᄭ•ᄮ•ᄯ•ᄲ"),
   (0x317E, 0x318E, "ᄶ•ᅀ•ᅇ•ᅌ•ᇱ•ᇲ•ᅗ•ᅘ•ᅙ•ᆄ•ᆅ•ᆈ•ᆑ•ᆒ•ᆔ•ᆞ•ᆡ"),
   (0x3192, 0x319F, "一•二•三•四•上•中•下•甲•乙•丙•丁•天•地•人"),
   (0x3200, 0x320C, "(ᄀ)•(ᄂ)•(ᄃ)•(ᄅ)•(ᄆ)•(ᄇ)•(ᄉ)•(ᄋ)•(ᄌ)•(ᄎ)•(ᄏ)•(ᄐ)•(ᄑ)"),
   (0x320D, 0x3219, "(ᄒ)•(가)•(나)•(다)•(라)•(마)•(바)•(사)•(아)•(자)•(차)•(카)•(타)"),
   (0x321A, 0x321E, "(파)•(하)•(주)•(오전)•(오후)"),
   (0x3220, 0x322C, "(一)•(二)•(三)•(四)•(五)•(六)•(七)•(八)•(九)•(十)•(月)•(火)•(水)"),
   (0x322D, 0x3239, "(木)•(金)•(土)•(日)•(株)•(有)•(社)•(名)•(特)•(財)•(祝)•(労)•(代)"),
   (0x323A, 0x3247, "(呼)•(学)•(監)•(企)•(資)•(協)•(祭)•(休)•(自)•(至)•問•幼•文•箏"),
   (0x3250, 0x3265, "pte•21•22•23•24•25•26•27•28•29•30•31•32•33•34•35•ᄀ•ᄂ•ᄃ•ᄅ•ᄆ•ᄇ"),
   (0x3266, 0x327B, "ᄉ•ᄋ•ᄌ•ᄎ•ᄏ•ᄐ•ᄑ•ᄒ•가•나•다•라•마•바•사•아•자•차•카•타•파•하"),
   (0x327C, 0x327E, "참고•주의•우"),
   (0x3280, 0x3295, "一•二•三•四•五•六•七•八•九•十•月•火•水•木•金•土•日•株•有•社•名•特"),
   (0x3296, 0x32AB, "財•祝•労•秘•男•女•適•優•印•注•項•休•写•正•上•中•下•左•右•医•宗•学"),
   (0x32AC, 0x32C0, "監•企•資•協•夜•36•37•38•39•40•41•42•43•44•45•46•47•48•49•50•1月"),
   (0x32C1, 0x32D1, "2月•3月•4月•5月•6月•7月•8月•9月•10月•11月•12月•hg•erg•ev•ltd•ア•イ"),
   (0x32D2, 0x32E7, "ウ•エ•オ•カ•キ•ク•ケ•コ•サ•シ•ス•セ•ソ•タ•チ•ツ•テ•ト•ナ•ニ•ヌ•ネ"),
   (0x32E8, 0x32FD, "ノ•ハ•ヒ•フ•ヘ•ホ•マ•ミ•ム•メ•モ•ヤ•ユ•ヨ•ラ•リ•ル•レ•ロ•ワ•ヰ•ヱ"),
   (0x32FE, 0x3306, "ヲ•令和•アパート•アルファ•アンペア•アール•イニング•インチ•ウォン"),
   (0x3307, 0x330E, "エスクード•エーカー•オンス•オーム•カイリ•カラット•カロリー•ガロン"),
   (0x330F, 0x3316, "ガンマ•ギガ•ギニー•キュリー•ギルダー•キロ•キログラム•キロメートル"),
   (0x3317, 0x331D, "キロワット•グラム•グラムトン•クルゼイロ•クローネ•ケース•コルナ"),
   (0x331E, 0x3326, "コーポ•サイクル•サンチーム•シリング•センチ•セント•ダース•デシ•ドル"),
   (0x3327, 0x332E, "トン•ナノ•ノット•ハイツ•パーセント•パーツ•バーレル•ピアストル"),
   (0x332F, 0x3336, "ピクル•ピコ•ビル•ファラッド•フィート•ブッシェル•フラン•ヘクタール"),
   (0x3337, 0x333F, "ペソ•ペニヒ•ヘルツ•ペンス•ページ•ベータ•ポイント•ボルト•ホン"),
   (0x3340, 0x3347, "ポンド•ホール•ホーン•マイクロ•マイル•マッハ•マルク•マンション"),
   (0x3348, 0x334F, "ミクロン•ミリ•ミリバール•メガ•メガトン•メートル•ヤード•ヤール"),
   (0x3350, 0x3358, "ユアン•リットル•リラ•ルピー•ルーブル•レム•レントゲン•ワット•0点"),
   (0x3359, 0x3367, "1点•2点•3点•4点•5点•6点•7点•8点•9点•10点•11点•12点•13点•14点•15点"),
   (0x3368, 0x3376, "16点•17点•18点•19点•20点•21点•22点•23点•24点•hpa•da•au•bar•ov•pc"),
   (0x3377, 0x3387, "dm•dm2•dm3•iu•平成•昭和•大正•明治•株式会社•pa•na•μa•ma•ka•kb•mb•gb"),
   (0x3388, 0x339B, "cal•kcal•pf•nf•μf•μg•mg•kg•hz•khz•mhz•ghz•thz•μl•ml•dl•kl•fm•nm•μm"),
   (0x339C, 0x33AD, "mm•cm•km•mm2•cm2•m2•km2•mm3•cm3•m3•km3•m∕s•m∕s2•pa•kpa•mpa•gpa•rad"),
   (0x33AE, 0x33C1, "rad∕s•rad∕s2•ps•ns•μs•ms•pv•nv•μv•mv•kv•mv•pw•nw•μw•mw•kw•mw•kω•mω"),
   (0x33C3, 0x33C6, "bq•cc•cd•c∕kg"),
   (0x33C8, 0x33D7, "db•gy•ha•hp•in•kk•km•kt•lm•ln•log•lx•mb•mil•mol•ph"),
   (0x33D9, 0x33E9, "ppm•pr•sr•sv•wb•v∕m•a∕m•1日•2日•3日•4日•5日•6日•7日•8日•9日•10日"),
   (0x33EA, 0x33F6, "11日•12日•13日•14日•15日•16日•17日•18日•19日•20日•21日•22日•23日"),
   (0x33F7, 0x33FF, "24日•25日•26日•27日•28日•29日•30日•31日•gal"), (0xA69C, 0xA69D, "ъ•ь"),
   (0xA770, 0xA770, "ꝯ"), (0xA77D, 0xA77D, "ᵹ"), (0xA78D, 0xA78D, "ɥ"),
   (0xA7AA, 0xA7AE, "ɦ•ɜ•ɡ•ɬ•ɪ"), (0xA7B0, 0xA7B3, "ʞ•ʇ•ʝ•ꭓ"), (0xA7C4, 0xA7C6, "ꞔ•ʂ•ᶎ"),
   (0xA7CB, 0xA7CB, "ɤ"), (0xA7DC, 0xA7DC, "ƛ"), (0xA7F1, 0xA7F4, "s•c•f•q"),
   (0xA7F8, 0xA7F9, "ħ•œ"), (0xAB5C, 0xAB5F, "ꜧ•ꬷ•ɫ•ꭒ"), (0xAB69, 0xAB69, "ʍ"),
   (0xAB70, 0xAB90, "Ꭰ•Ꭱ•Ꭲ•Ꭳ•Ꭴ•Ꭵ•Ꭶ•Ꭷ•Ꭸ•Ꭹ•Ꭺ•Ꭻ•Ꭼ•Ꭽ•Ꭾ•Ꭿ•Ꮀ•Ꮁ•Ꮂ•Ꮃ•Ꮄ•Ꮅ•Ꮆ•Ꮇ•Ꮈ•Ꮉ•Ꮊ•Ꮋ•Ꮌ•Ꮍ•Ꮎ•Ꮏ•Ꮐ"),
   (0xAB91, 0xABB1, "Ꮑ•Ꮒ•Ꮓ•Ꮔ•Ꮕ•Ꮖ•Ꮗ•Ꮘ•Ꮙ•Ꮚ•Ꮛ•Ꮜ•Ꮝ•Ꮞ•Ꮟ•Ꮠ•Ꮡ•Ꮢ•Ꮣ•Ꮤ•Ꮥ•Ꮦ•Ꮧ•Ꮨ•Ꮩ•Ꮪ•Ꮫ•Ꮬ•Ꮭ•Ꮮ•Ꮯ•Ꮰ•Ꮱ"),
   (0xABB2, 0xABBF, "Ꮲ•Ꮳ•Ꮴ•Ꮵ•Ꮶ•Ꮷ•Ꮸ•Ꮹ•Ꮺ•Ꮻ•Ꮼ•Ꮽ•Ꮾ•Ꮿ"),
   (0xF900, 0xF915, "豈•更•車•賈•滑•串•句•龜•龜•契•金•喇•奈•懶•癩•羅•蘿•螺•裸•邏•樂•洛"),
   (0xF916, 0xF92B, "烙•珞•落•酪•駱•亂•卵•欄•爛•蘭•鸞•嵐•濫•藍•襤•拉•臘•蠟•廊•朗•浪•狼"),
   (0xF92C, 0xF941, "郎•來•冷•勞•擄•櫓•爐•盧•老•蘆•虜•路•露•魯•鷺•碌•祿•綠•菉•錄•鹿•論"),
   (0xF942, 0xF957, "壟•弄•籠•聾•牢•磊•賂•雷•壘•屢•樓•淚•漏•累•縷•陋•勒•肋•凜•凌•稜•綾"),
   (0xF958, 0xF96D, "菱•陵•讀•拏•樂•諾•丹•寧•怒•率•異•北•磻•便•復•不•泌•數•索•參•塞•省"),
   (0xF96E, 0xF983, "葉•說•殺•辰•沈•拾•若•掠•略•亮•兩•凉•梁•糧•良•諒•量•勵•呂•女•廬•旅"),
   (0xF984, 0xF999, "濾•礪•閭•驪•麗•黎•力•曆•歷•轢•年•憐•戀•撚•漣•煉•璉•秊•練•聯•輦•蓮"),
   (0xF99A, 0xF9AF, "連•鍊•列•劣•咽•烈•裂•說•廉•念•捻•殮•簾•獵•令•囹•寧•嶺•怜•玲•瑩•羚"),
   (0xF9B0, 0xF9C5, "聆•鈴•零•靈•領•例•禮•醴•隸•惡•了•僚•寮•尿•料•樂•燎•療•蓼•遼•龍•暈"),
   (0xF9C6, 0xF9DB, "阮•劉•杻•柳•流•溜•琉•留•硫•紐•類•六•戮•陸•倫•崙•淪•輪•律•慄•栗•率"),
   (0xF9DC, 0xF9F1, "隆•利•吏•履•易•李•梨•泥•理•痢•罹•裏•裡•里•離•匿•溺•吝•燐•璘•藺•隣"),
   (0xF9F2, 0xFA07, "鱗•麟•林•淋•臨•立•笠•粒•狀•炙•識•什•茶•刺•切•度•拓•糖•宅•洞•暴•輻"),
   (0xFA08, 0xFA0D, "行•降•見•廓•兀•嗀"), (0xFA10, 0xFA10, "塚"), (0xFA12, 0xFA12, "晴"),
   (0xFA15, 0xFA1E, "凞•猪•益•礼•神•祥•福•靖•精•羽"), (0xFA20, 0xFA20, "蘒"),
   (0xFA22, 0xFA22, "諸"), (0xFA25, 0xFA26, "逸•都"),
   (0xFA2A, 0xFA3F, "飯•飼•館•鶴•郞•隷•侮•僧•免•勉•勤•卑•喝•嘆•器•塀•墨•層•屮•悔•慨•憎"),
   (0xFA40, 0xFA55, "懲•敏•既•暑•梅•海•渚•漢•煮•爫•琢•碑•社•祉•祈•祐•祖•祝•禍•禎•穀•突"),
   (0xFA56, 0xFA6B, "節•練•縉•繁•署•者•臭•艹•艹•著•褐•視•謁•謹•賓•贈•辶•逸•難•響•頻•恵"),
   (0xFA6C, 0xFA6D, "𤋮•舘"),
   (0xFA70, 0xFA85, "並•况•全•侀•充•冀•勇•勺•喝•啕•喙•嗢•塚•墳•奄•奔•婢•嬨•廒•廙•彩•徭"),
   (0xFA86, 0xFA9B, "惘•慎•愈•憎•慠•懲•戴•揄•搜•摒•敖•晴•朗•望•杖•歹•殺•流•滛•滋•漢•瀞"),
   (0xFA9C, 0xFAB1, "煮•瞧•爵•犯•猪•瑱•甆•画•瘝•瘟•益•盛•直•睊•着•磌•窱•節•类•絛•練•缾"),
   (0xFAB2, 0xFAC7, "者•荒•華•蝹•襁•覆•視•調•諸•請•謁•諾•諭•謹•變•贈•輸•遲•醙•鉶•陼•難"),
   (0xFAC8, 0xFAD9, "靖•韛•響•頋•頻•鬒•龜•𢡊•𢡄•𣏕•㮝•䀘•䀹•𥉉•𥳐•𧻓•齃•龎"),
   (0xFB00, 0xFB06, "ff•fi•fl•ffi•ffl•st•st"), (0xFB13, 0xFB17, "մն•մե•մի•վն•մխ"),
   (0xFB1D, 0xFB1D, "יִ"), (0xFB1F, 0xFB36, "ײַ•ע•א•ד•ה•כ•ל•ם•ר•ת•+•שׁ•שׂ•שּׁ•שּׂ•אַ•אָ•אּ•בּ•גּ•דּ•הּ•וּ•זּ"),
   (0xFB38, 0xFB3C, "טּ•יּ•ךּ•כּ•לּ"), (0xFB3E, 0xFB3E, "מּ"), (0xFB40, 0xFB41, "נּ•סּ"),
   (0xFB43, 0xFB44, "ףּ•פּ"),
   (0xFB46, 0xFB66, "צּ•קּ•רּ•שּ•תּ•וֹ•בֿ•כֿ•פֿ•אל•ٱ•ٱ•ٻ•ٻ•ٻ•ٻ•پ•پ•پ•پ•ڀ•ڀ•ڀ•ڀ•ٺ•ٺ•ٺ•ٺ•ٿ•ٿ•ٿ•ٿ•ٹ"),
   (0xFB67, 0xFB87, "ٹ•ٹ•ٹ•ڤ•ڤ•ڤ•ڤ•ڦ•ڦ•ڦ•ڦ•ڄ•ڄ•ڄ•ڄ•ڃ•ڃ•ڃ•ڃ•چ•چ•چ•چ•ڇ•ڇ•ڇ•ڇ•ڍ•ڍ•ڌ•ڌ•ڎ•ڎ"),
   (0xFB88, 0xFBA8, "ڈ•ڈ•ژ•ژ•ڑ•ڑ•ک•ک•ک•ک•گ•گ•گ•گ•ڳ•ڳ•ڳ•ڳ•ڱ•ڱ•ڱ•ڱ•ں•ں•ڻ•ڻ•ڻ•ڻ•ۀ•ۀ•ہ•ہ•ہ"),
   (0xFBA9, 0xFBB1, "ہ•ھ•ھ•ھ•ھ•ے•ے•ۓ•ۓ"),
   (0xFBD3, 0xFBEF, "ڭ•ڭ•ڭ•ڭ•ۇ•ۇ•ۆ•ۆ•ۈ•ۈ•ۇٴ•ۋ•ۋ•ۅ•ۅ•ۉ•ۉ•ې•ې•ې•ې•ى•ى•ئا•ئا•ئە•ئە•ئو•ئو"),
   (0xFBF0, 0xFC06, "ئۇ•ئۇ•ئۆ•ئۆ•ئۈ•ئۈ•ئې•ئې•ئې•ئى•ئى•ئى•ی•ی•ی•ی•ئج•ئح•ئم•ئى•ئي•بج•بح"),
   (0xFC07, 0xFC1C, "بخ•بم•بى•بي•تج•تح•تخ•تم•تى•تي•ثج•ثم•ثى•ثي•جح•جم•حج•حم•خج•خح•خم•سج"),
   (0xFC1D, 0xFC32, "سح•سخ•سم•صح•صم•ضج•ضح•ضخ•ضم•طح•طم•ظم•عج•عم•غج•غم•فج•فح•فخ•فم•فى•في"),
   (0xFC33, 0xFC48, "قح•قم•قى•قي•كا•كج•كح•كخ•كل•كم•كى•كي•لج•لح•لخ•لم•لى•لي•مج•مح•مخ•مم"),
   (0xFC49, 0xFC60, "مى•مي•نج•نح•نخ•نم•نى•ني•هج•هم•هى•هي•يج•يح•يخ•يم•يى•يي•ذٰ•رٰ•ىٰ• ٌّ• ٍّ• َّ"),
   (0xFC61, 0xFC77, " ُّ• ِّ• ّٰ•ئر•ئز•ئم•ئن•ئى•ئي•بر•بز•بم•بن•بى•بي•تر•تز•تم•تن•تى•تي•ثر•ثز"),
   (0xFC78, 0xFC8D, "ثم•ثن•ثى•ثي•فى•في•قى•قي•كا•كل•كم•كى•كي•لم•لى•لي•ما•مم•نر•نز•نم•نن"),
   (0xFC8E, 0xFCA3, "نى•ني•ىٰ•ير•يز•يم•ين•يى•يي•ئج•ئح•ئخ•ئم•ئه•بج•بح•بخ•بم•به•تج•تح•تخ"),
   (0xFCA4, 0xFCB9, "تم•ته•ثم•جح•جم•حج•حم•خج•خم•سج•سح•سخ•سم•صح•صخ•صم•ضج•ضح•ضخ•ضم•طح•ظم"),
   (0xFCBA, 0xFCCF, "عج•عم•غج•غم•فج•فح•فخ•فم•قح•قم•كج•كح•كخ•كل•كم•لج•لح•لخ•لم•له•مج•مح"),
   (0xFCD0, 0xFCE5, "مخ•مم•نج•نح•نخ•نم•نه•هج•هم•هٰ•يج•يح•يخ•يم•يه•ئم•ئه•بم•به•تم•ته•ثم"),
   (0xFCE6, 0xFCFC, "ثه•سم•سه•شم•شه•كل•كم•لم•نم•نه•يم•يه•ـَّ•ـُّ•ـِّ•طى•طي•عى•عي•غى•غي•سى•سي"),
   (0xFCFD, 0xFD12, "شى•شي•حى•حي•جى•جي•خى•خي•صى•صي•ضى•ضي•شج•شح•شخ•شم•شر•سر•صر•ضر•طى•طي"),
   (0xFD13, 0xFD28, "عى•عي•غى•غي•سى•سي•شى•شي•حى•حي•جى•جي•خى•خي•صى•صي•ضى•ضي•شج•شح•شخ•شم"),
   (0xFD29, 0xFD3D, "شر•سر•صر•ضر•شج•شح•شخ•شم•سه•شه•طم•سج•سح•سخ•شج•شح•شخ•طم•ظم•اً•اً"),
   (0xFD50, 0xFD5F, "تجم•تحج•تحج•تحم•تخم•تمج•تمح•تمخ•جمح•جمح•حمي•حمى•سحج•سجح•سجى•سمح"),
   (0xFD60, 0xFD6F, "سمح•سمج•سمم•سمم•صحح•صحح•صمم•شحم•شحم•شجي•شمخ•شمخ•شمم•شمم•ضحى•ضخم"),
   (0xFD70, 0xFD7F, "ضخم•طمح•طمح•طمم•طمي•عجم•عمم•عمم•عمى•غمم•غمي•غمى•فخم•فخم•قمح•قمم"),
   (0xFD80, 0xFD8F, "لحم•لحي•لحى•لجج•لجج•لخم•لخم•لمح•لمح•محج•محم•محي•مجح•مجم•مخج•مخم"),
   (0xFD92, 0xFDA1, "مجخ•همج•همم•نحم•نحى•نجم•نجم•نجى•نمي•نمى•يمم•يمم•بخي•تجي•تجى•تخي"),
   (0xFDA2, 0xFDB1, "تخى•تمي•تمى•جمي•جحى•جمى•سخى•صحي•شحي•ضحي•لجي•لمي•يحي•يجي•يمي•ممي"),
   (0xFDB2, 0xFDC1, "قمي•نحي•قمح•لحم•عمي•كمي•نجح•مخي•لجم•كمم•لجم•نجح•جحي•حجي•مجي•فمي"),
   (0xFDC2, 0xFDC7, "بحي•كمم•عجم•صمم•سخي•نجي"),
   (0xFDF0, 0xFDFA, "صلے•قلے•الله•اكبر•محمد•صلعم•رسول•عليه•وسلم•صلى•صلى الله عليه وسلم"),
   (0xFDFB, 0xFDFC, "جل جلاله•ریال"), (0xFE10, 0xFE11, ",•、"), (0xFE13, 0xFE18, ":•;•!•?•〖•〗"),
   (0xFE31, 0xFE44, "—•–•_•_•(•)•\x7b•\x7d•〔•〕•【•】•《•》•〈•〉•「•」•『•』"),
   (0xFE47, 0xFE51, "[•]• ̅• ̅• ̅• ̅•_•_•_•,•、"),
   (0xFE54, 0xFE66, ";•:•?•!•—•(•)•\x7b•\x7d•〔•〕•#•&•*•+•-•<•>•="), (0xFE68, 0xFE6B, "\\•$•%•@"),
   (0xFE70, 0xFE72, " ً•ـً• ٌ"), (0xFE74, 0xFE74, " ٍ"),
   (0xFE76, 0xFE96, " َ•ـَ• ُ•ـُ• ِ•ـِ• ّ•ـّ• ْ•ـْ•ء•آ•آ•أ•أ•ؤ•ؤ•إ•إ•ئ•ئ•ئ•ئ•ا•ا•ب•ب•ب•ب•ة•ة•ت•ت"),
   (0xFE97, 0xFEB7, "ت•ت•ث•ث•ث•ث•ج•ج•ج•ج•ح•ح•ح•ح•خ•خ•خ•خ•د•د•ذ•ذ•ر•ر•ز•ز•س•س•س•س•ش•ش•ش"),
   (0xFEB8, 0xFED8, "ش•ص•ص•ص•ص•ض•ض•ض•ض•ط•ط•ط•ط•ظ•ظ•ظ•ظ•ع•ع•ع•ع•غ•غ•غ•غ•ف•ف•ف•ف•ق•ق•ق•ق"),
   (0xFED9, 0xFEF7, "ك•ك•ك•ك•ل•ل•ل•ل•م•م•م•م•ن•ن•ن•ن•ه•ه•ه•ه•و•و•ى•ى•ي•ي•ي•ي•لآ•لآ•لأ"),
   (0xFEF8, 0xFEFC, "لأ•لإ•لإ•لا•لا"),
   (0xFF01, 0xFF21, "!•\"•#•$•%•&•'•(•)•*•+•,•-•.•/•0•1•2•3•4•5•6•7•8•9•:•;•<•=•>•?•@•a"),
   (0xFF22, 0xFF42, "b•c•d•e•f•g•h•i•j•k•l•m•n•o•p•q•r•s•t•u•v•w•x•y•z•[•\\•]•^•_•`•a•b"),
   (0xFF43, 0xFF60, "c•d•e•f•g•h•i•j•k•l•m•n•o•p•q•r•s•t•u•v•w•x•y•z•\x7b•|•\x7d•~•⦅•⦆"),
   (0xFF61, 0xFF76, ".•「•」•、•・•ヲ•ァ•ィ•ゥ•ェ•ォ•ャ•ュ•ョ•ッ•ー•ア•イ•ウ•エ•オ•カ"),
   (0xFF77, 0xFF8C, "キ•ク•ケ•コ•サ•シ•ス•セ•ソ•タ•チ•ツ•テ•ト•ナ•ニ•ヌ•ネ•ノ•ハ•ヒ•フ"),
   (0xFF8D, 0xFF9F, "ヘ•ホ•マ•ミ•ム•メ•モ•ヤ•ユ•ヨ•ラ•リ•ル•レ•ロ•ワ•ン•゙•゚"),
   (0xFFA1, 0xFFB9, "ᄀ•ᄁ•ᆪ•ᄂ•ᆬ•ᆭ•ᄃ•ᄄ•ᄅ•ᆰ•ᆱ•ᆲ•ᆳ•ᆴ•ᆵ•ᄚ•ᄆ•ᄇ•ᄈ•ᄡ•ᄉ•ᄊ•ᄋ•ᄌ•ᄍ"),
   (0xFFBA, 0xFFBE, "ᄎ•ᄏ•ᄐ•ᄑ•ᄒ"), (0xFFC2, 0xFFC7, "ᅡ•ᅢ•ᅣ•ᅤ•ᅥ•ᅦ"),
   (0xFFCA, 0xFFCF, "ᅧ•ᅨ•ᅩ•ᅪ•ᅫ•ᅬ"), (0xFFD2, 0xFFD7, "ᅭ•ᅮ•ᅯ•ᅰ•ᅱ•ᅲ"), (0xFFDA, 0xFFDC, "ᅳ•ᅴ•ᅵ"),
   (0xFFE0, 0xFFE6, "¢•£•¬• ̄•¦•¥•₩"), (0xFFE8, 0xFFEE, "│•←•↑•→•↓•■•○"),
   (0x10400, 0x10420, "𐐨•𐐩•𐐪•𐐫•𐐬•𐐭•𐐮•𐐯•𐐰•𐐱•𐐲•𐐳•𐐴•𐐵•𐐶•𐐷•𐐸•𐐹•𐐺•𐐻•𐐼•𐐽•𐐾•𐐿•𐑀•𐑁•𐑂•𐑃•𐑄•𐑅•𐑆•𐑇•𐑈"),
   (0x10421, 0x10427, "𐑉•𐑊•𐑋•𐑌•𐑍•𐑎•𐑏"),
   (0x104B0, 0x104D0, "𐓘•𐓙•𐓚•𐓛•𐓜•𐓝•𐓞•𐓟•𐓠•𐓡•𐓢•𐓣•𐓤•𐓥•𐓦•𐓧•𐓨•𐓩•𐓪•𐓫•𐓬•𐓭•𐓮•𐓯•𐓰•𐓱•𐓲•𐓳•𐓴•𐓵•𐓶•𐓷•𐓸"),
   (0x104D1, 0x104D3, "𐓹•𐓺•𐓻"), (0x10570, 0x1057A, "𐖗•𐖘•𐖙•𐖚•𐖛•𐖜•𐖝•𐖞•𐖟•𐖠•𐖡"),
   (0x1057C, 0x1058A, "𐖣•𐖤•𐖥•𐖦•𐖧•𐖨•𐖩•𐖪•𐖫•𐖬•𐖭•𐖮•𐖯•𐖰•𐖱"), (0x1058C, 0x10592, "𐖳•𐖴•𐖵•𐖶•𐖷•𐖸•𐖹"),
   (0x10594, 0x10595, "𐖻•𐖼"), (0x10781, 0x10785, "ː•ˑ•æ•ʙ•ɓ"),
   (0x10787, 0x107A7, "ʣ•ꭦ•ʥ•ʤ•ɖ•ɗ•ᶑ•ɘ•ɞ•ʩ•ɤ•ɢ•ɠ•ʛ•ħ•ʜ•ɧ•ʄ•ʪ•ʫ•ɬ•𝼄•ꞎ•ɮ•𝼅•ʎ•𝼆•ø•ɶ•ɷ•q•ɺ•𝼈"),
   (0x107A8, 0x107B0, "ɽ•ɾ•ʀ•ʨ•ʦ•ꭧ•ʧ•ʈ•ⱱ"), (0x107B2, 0x107BA, "ʏ•ʡ•ʢ•ʘ•ǀ•ǁ•ǂ•𝼊•𝼞"),
   (0x10C80, 0x10CA0, "𐳀•𐳁•𐳂•𐳃•𐳄•𐳅•𐳆•𐳇•𐳈•𐳉•𐳊•𐳋•𐳌•𐳍•𐳎•𐳏•𐳐•𐳑•𐳒•𐳓•𐳔•𐳕•𐳖•𐳗•𐳘•𐳙•𐳚•𐳛•𐳜•𐳝•𐳞•𐳟•𐳠"),
   (0x10CA1, 0x10CB2, "𐳡•𐳢•𐳣•𐳤•𐳥•𐳦•𐳧•𐳨•𐳩•𐳪•𐳫•𐳬•𐳭•𐳮•𐳯•𐳰•𐳱•𐳲"),
   (0x10D50, 0x10D65, "𐵰•𐵱•𐵲•𐵳•𐵴•𐵵•𐵶•𐵷•𐵸•𐵹•𐵺•𐵻•𐵼•𐵽•𐵾•𐵿•𐶀•𐶁•𐶂•𐶃•𐶄•𐶅"),
   (0x118A0, 0x118BF, "𑣀•𑣁•𑣂•𑣃•𑣄•𑣅•𑣆•𑣇•𑣈•𑣉•𑣊•𑣋•𑣌•𑣍•𑣎•𑣏•𑣐•𑣑•𑣒•𑣓•𑣔•𑣕•𑣖•𑣗•𑣘•𑣙•𑣚•𑣛•𑣜•𑣝•𑣞•𑣟"),
   (0x16E40, 0x16E5F, "𖹠•𖹡•𖹢•𖹣•𖹤•𖹥•𖹦•𖹧•𖹨•𖹩•𖹪•𖹫•𖹬•𖹭•𖹮•𖹯•𖹰•𖹱•𖹲•𖹳•𖹴•𖹵•𖹶•𖹷•𖹸•𖹹•𖹺•𖹻•𖹼•𖹽•𖹾•𖹿"),
   (0x16EA0, 0x16EB8, "𖺻•𖺼•𖺽•𖺾•𖺿•𖻀•𖻁•𖻂•𖻃•𖻄•𖻅•𖻆•𖻇•𖻈•𖻉•𖻊•𖻋•𖻌•𖻍•𖻎•𖻏•𖻐•𖻑•𖻒•𖻓"),
   (0x1CCD6, 0x1CCF6, "a•b•c•d•e•f•g•h•i•j•k•l•m•n•o•p•q•r•s•t•u•v•w•x•y•z•0•1•2•3•4•5•6"),
   (0x1CCF7, 0x1CCF9, "7•8•9"), (0x1D15E, 0x1D164, "𝅗𝅥•𝅘𝅥•𝅘𝅥𝅮•𝅘𝅥𝅯•𝅘𝅥𝅰•𝅘𝅥𝅱•𝅘𝅥𝅲"),
   (0x1D1BB, 0x1D1C0, "𝆹𝅥•𝆺𝅥•𝆹𝅥𝅮•𝆺𝅥𝅮•𝆹𝅥𝅯•𝆺𝅥𝅯"),
   (0x1D400, 0x1D420, "a•b•c•d•e•f•g•h•i•j•k•l•m•n•o•p•q•r•s•t•u•v•w•x•y•z•a•b•c•d•e•f•g"),
   (0x1D421, 0x1D441, "h•i•j•k•l•m•n•o•p•q•r•s•t•u•v•w•x•y•z•a•b•c•d•e•f•g•h•i•j•k•l•m•n"),
   (0x1D442, 0x1D454, "o•p•q•r•s•t•u•v•w•x•y•z•a•b•c•d•e•f•g"),
   (0x1D456, 0x1D476, "i•j•k•l•m•n•o•p•q•r•s•t•u•v•w•x•y•z•a•b•c•d•e•f•g•h•i•j•k•l•m•n•o"),
   (0x1D477, 0x1D497, "p•q•r•s•t•u•v•w•x•y•z•a•b•c•d•e•f•g•h•i•j•k•l•m•n•o•p•q•r•s•t•u•v"),
   (0x1D498, 0x1D49C, "w•x•y•z•a"), (0x1D49E, 0x1D49F, "c•d"), (0x1D4A2, 0x1D4A2, "g"),
   (0x1D4A5, 0x1D4A6, "j•k"), (0x1D4A9, 0x1D4AC, "n•o•p•q"),
   (0x1D4AE, 0x1D4B9, "s•t•u•v•w•x•y•z•a•b•c•d"), (0x1D4BB, 0x1D4BB, "f"),
   (0x1D4BD, 0x1D4C3, "h•i•j•k•l•m•n"),
   (0x1D4C5, 0x1D4E5, "p•q•r•s•t•u•v•w•x•y•z•a•b•c•d•e•f•g•h•i•j•k•l•m•n•o•p•q•r•s•t•u•v"),
   (0x1D4E6, 0x1D505, "w•x•y•z•a•b•c•d•e•f•g•h•i•j•k•l•m•n•o•p•q•r•s•t•u•v•w•x•y•z•a•b"),
   (0x1D507, 0x1D50A, "d•e•f•g"), (0x1D50D, 0x1D514, "j•k•l•m•n•o•p•q"),
   (0x1D516, 0x1D51C, "s•t•u•v•w•x•y"),
   (0x1D51E, 0x1D539, "a•b•c•d•e•f•g•h•i•j•k•l•m•n•o•p•q•r•s•t•u•v•w•x•y•z•a•b"),
   (0x1D53B, 0x1D53E, "d•e•f•g"), (0x1D540, 0x1D544, "i•j•k•l•m"), (0x1D546, 0x1D546, "o"),
   (0x1D54A, 0x1D550, "s•t•u•v•w•x•y"),
   (0x1D552, 0x1D572, "a•b•c•d•e•f•g•h•i•j•k•l•m•n•o•p•q•r•s•t•u•v•w•x•y•z•a•b•c•d•e•f•g"),
   (0x1D573, 0x1D593, "h•i•j•k•l•m•n•o•p•q•r•s•t•u•v•w•x•y•z•a•b•c•d•e•f•g•h•i•j•k•l•m•n"),
   (0x1D594, 0x1D5B4, "o•p•q•r•s•t•u•v•w•x•y•z•a•b•c•d•e•f•g•h•i•j•k•l•m•n•o•p•q•r•s•t•u"),
   (0x1D5B5, 0x1D5D5, "v•w•x•y•z•a•b•c•d•e•f•g•h•i•j•k•l•m•n•o•p•q•r•s•t•u•v•w•x•y•z•a•b"),
   (0x1D5D6, 0x1D5F6, "c•d•e•f•g•h•i•j•k•l•m•n•o•p•q•r•s•t•u•v•w•x•y•z•a•b•c•d•e•f•g•h•i"),
   (0x1D5F7, 0x1D617, "j•k•l•m•n•o•p•q•r•s•t•u•v•w•x•y•z•a•b•c•d•e•f•g•h•i•j•k•l•m•n•o•p"),
   (0x1D618, 0x1D638, "q•r•s•t•u•v•w•x•y•z•a•b•c•d•e•f•g•h•i•j•k•l•m•n•o•p•q•r•s•t•u•v•w"),
   (0x1D639, 0x1D659, "x•y•z•a•b•c•d•e•f•g•h•i•j•k•l•m•n•o•p•q•r•s•t•u•v•w•x•y•z•a•b•c•d"),
   (0x1D65A, 0x1D67A, "e•f•g•h•i•j•k•l•m•n•o•p•q•r•s•t•u•v•w•x•y•z•a•b•c•d•e•f•g•h•i•j•k"),
   (0x1D67B, 0x1D69B, "l•m•n•o•p•q•r•s•t•u•v•w•x•y•z•a•b•c•d•e•f•g•h•i•j•k•l•m•n•o•p•q•r"),
   (0x1D69C, 0x1D6A5, "s•t•u•v•w•x•y•z•ı•ȷ"),
   (0x1D6A8, 0x1D6C8, "α•β•γ•δ•ε•ζ•η•θ•ι•κ•λ•μ•ν•ξ•ο•π•ρ•θ•σ•τ•υ•φ•χ•ψ•ω•∇•α•β•γ•δ•ε•ζ•η"),
   (0x1D6C9, 0x1D6E9, "θ•ι•κ•λ•μ•ν•ξ•ο•π•ρ•σ•σ•τ•υ•φ•χ•ψ•ω•∂•ε•θ•κ•φ•ρ•π•α•β•γ•δ•ε•ζ•η•θ"),
   (0x1D6EA, 0x1D70A, "ι•κ•λ•μ•ν•ξ•ο•π•ρ•θ•σ•τ•υ•φ•χ•ψ•ω•∇•α•β•γ•δ•ε•ζ•η•θ•ι•κ•λ•μ•ν•ξ•ο"),
   (0x1D70B, 0x1D72B, "π•ρ•σ•σ•τ•υ•φ•χ•ψ•ω•∂•ε•θ•κ•φ•ρ•π•α•β•γ•δ•ε•ζ•η•θ•ι•κ•λ•μ•ν•ξ•ο•π"),
   (0x1D72C, 0x1D74C, "ρ•θ•σ•τ•υ•φ•χ•ψ•ω•∇•α•β•γ•δ•ε•ζ•η•θ•ι•κ•λ•μ•ν•ξ•ο•π•ρ•σ•σ•τ•υ•φ•χ"),
   (0x1D74D, 0x1D76D, "ψ•ω•∂•ε•θ•κ•φ•ρ•π•α•β•γ•δ•ε•ζ•η•θ•ι•κ•λ•μ•ν•ξ•ο•π•ρ•θ•σ•τ•υ•φ•χ•ψ"),
   (0x1D76E, 0x1D78E, "ω•∇•α•β•γ•δ•ε•ζ•η•θ•ι•κ•λ•μ•ν•ξ•ο•π•ρ•σ•σ•τ•υ•φ•χ•ψ•ω•∂•ε•θ•κ•φ•ρ"),
   (0x1D78F, 0x1D7AF, "π•α•β•γ•δ•ε•ζ•η•θ•ι•κ•λ•μ•ν•ξ•ο•π•ρ•θ•σ•τ•υ•φ•χ•ψ•ω•∇•α•β•γ•δ•ε•ζ"),
   (0x1D7B0, 0x1D7CB, "η•θ•ι•κ•λ•μ•ν•ξ•ο•π•ρ•σ•σ•τ•υ•φ•χ•ψ•ω•∂•ε•θ•κ•φ•ρ•π•ϝ•ϝ"),
   (0x1D7CE, 0x1D7EE, "0•1•2•3•4•5•6•7•8•9•0•1•2•3•4•5•6•7•8•9•0•1•2•3•4•5•6•7•8•9•0•1•2"),
   (0x1D7EF, 0x1D7FF, "3•4•5•6•7•8•9•0•1•2•3•4•5•6•7•8•9"),
   (0x1E030, 0x1E050, "а•б•в•г•д•е•ж•з•и•к•л•м•о•п•р•с•т•у•ф•х•ц•ч•ш•ы•э•ю•ꚉ•ә•і•ј•ө•ү•ӏ"),
   (0x1E051, 0x1E06D, "а•б•в•г•д•е•ж•з•и•к•л•о•п•с•у•ф•х•ц•ч•ш•ъ•ы•ґ•і•ѕ•џ•ҫ•ꙑ•ұ"),
   (0x1E900, 0x1E920, "𞤢•𞤣•𞤤•𞤥•𞤦•𞤧•𞤨•𞤩•𞤪•𞤫•𞤬•𞤭•𞤮•𞤯•𞤰•𞤱•𞤲•𞤳•𞤴•𞤵•𞤶•𞤷•𞤸•𞤹•𞤺•𞤻•𞤼•𞤽•𞤾•𞤿•𞥀•𞥁•𞥂"),
   (0x1E921, 0x1E921, "𞥃"), (0x1EE00, 0x1EE03, "ا•ب•ج•د"),
   (0x1EE05, 0x1EE1F, "و•ز•ح•ط•ي•ك•ل•م•ن•س•ع•ف•ص•ق•ر•ش•ت•ث•خ•ذ•ض•ظ•غ•ٮ•ں•ڡ•ٯ"),
   (0x1EE21, 0x1EE22, "ب•ج"), (0x1EE24, 0x1EE24, "ه"), (0x1EE27, 0x1EE27, "ح"),
   (0x1EE29, 0x1EE32, "ي•ك•ل•م•ن•س•ع•ف•ص•ق"), (0x1EE34, 0x1EE37, "ش•ت•ث•خ"),
   (0x1EE39, 0x1EE39, "ض"), (0x1EE3B, 0x1EE3B, "غ"), (0x1EE42, 0x1EE42, "ج"),
   (0x1EE47, 0x1EE47, "ح"), (0x1EE49, 0x1EE49, "ي"), (0x1EE4B, 0x1EE4B, "ل"),
   (0x1EE4D, 0x1EE4F, "ن•س•ع"), (0x1EE51, 0x1EE52, "ص•ق"), (0x1EE54, 0x1EE54, "ش"),
   (0x1EE57, 0x1EE57, "خ"), (0x1EE59, 0x1EE59, "ض"), (0x1EE5B, 0x1EE5B, "غ"),
   (0x1EE5D, 0x1EE5D, "ں"), (0x1EE5F, 0x1EE5F, "ٯ"), (0x1EE61, 0x1EE62, "ب•ج"),
   (0x1EE64, 0x1EE64, "ه"), (0x1EE67, 0x1EE6A, "ح•ط•ي•ك"), (0x1EE6C, 0x1EE72, "م•ن•س•ع•ف•ص•ق"),
   (0x1EE74, 0x1EE77, "ش•ت•ث•خ"), (0x1EE79, 0x1EE7C, "ض•ظ•غ•ٮ"), (0x1EE7E, 0x1EE7E, "ڡ"),
   (0x1EE80, 0x1EE89, "ا•ب•ج•د•ه•و•ز•ح•ط•ي"),
   (0x1EE8B, 0x1EE9B, "ل•م•ن•س•ع•ف•ص•ق•ر•ش•ت•ث•خ•ذ•ض•ظ•غ"), (0x1EEA1, 0x1EEA3, "ب•ج•د"),
   (0x1EEA5, 0x1EEA9, "و•ز•ح•ط•ي"), (0x1EEAB, 0x1EEBB, "ل•م•ن•س•ع•ف•ص•ق•ر•ش•ت•ث•خ•ذ•ض•ظ•غ"),
   (0x1F101, 0x1F10A, "0,•1,•2,•3,•4,•5,•6,•7,•8,•9,"),
   (0x1F110, 0x1F11F, "(a)•(b)•(c)•(d)•(e)•(f)•(g)•(h)•(i)•(j)•(k)•(l)•(m)•(n)•(o)•(p)"),
   (0x1F120, 0x1F12E, "(q)•(r)•(s)•(t)•(u)•(v)•(w)•(x)•(y)•(z)•〔s〕•c•r•cd•wz"),
   (0x1F130, 0x1F14D, "a•b•c•d•e•f•g•h•i•j•k•l•m•n•o•p•q•r•s•t•u•v•w•x•y•z•hv•mv•sd•ss"),
   (0x1F14E, 0x1F14F, "ppv•wc"), (0x1F16A, 0x1F16C, "mc•md•mr"), (0x1F190, 0x1F190, "dj"),
   (0x1F200, 0x1F202, "ほか•ココ•サ"),
   (0x1F210, 0x1F225, "手•字•双•デ•二•多•解•天•交•映•無•料•前•後•再•新•初•終•生•販•声•吹"),
   (0x1F226, 0x1F23B, "演•投•捕•一•三•遊•左•中•右•指•走•打•禁•空•合•満•有•月•申•割•営•配"),
   (0x1F240, 0x1F248, "〔本〕•〔三〕•〔二〕•〔安〕•〔点〕•〔打〕•〔盗〕•〔勝〕•〔敗〕"),
   (0x1F250, 0x1F251, "得•可"), (0x1FBF0, 0x1FBF9, "0•1•2•3•4•5•6•7•8•9"),
   (0x2F800, 0x2F815, "丽•丸•乁•𠄢•你•侮•侻•倂•偺•備•僧•像•㒞•𠘺•免•兔•兤•具•𠔜•㒹•內•再"),
   (0x2F816, 0x2F82B, "𠕋•冗•冤•仌•冬•况•𩇟•凵•刃•㓟•刻•剆•割•剷•㔕•勇•勉•勤•勺•包•匆•北"),
   (0x2F82C, 0x2F841, "卉•卑•博•即•卽•卿•卿•卿•𠨬•灰•及•叟•𠭣•叫•叱•吆•咞•吸•呈•周•咢•哶"),
   (0x2F842, 0x2F857, "唐•啓•啣•善•善•喙•喫•喳•嗂•圖•嘆•圗•噑•噴•切•壮•城•埴•堍•型•堲•報"),
   (0x2F858, 0x2F86D, "墬•𡓤•売•壷•夆•多•夢•奢•𡚨•𡛪•姬•娛•娧•姘•婦•㛮•㛼•嬈•嬾•嬾•𡧈•寃"),
   (0x2F86E, 0x2F883, "寘•寧•寳•𡬘•寿•将•当•尢•㞁•屠•屮•峀•岍•𡷤•嵃•𡷦•嵮•嵫•嵼•巡•巢•㠯"),
   (0x2F884, 0x2F899, "巽•帨•帽•幩•㡢•𢆃•㡼•庰•庳•庶•廊•𪎒•廾•𢌱•𢌱•舁•弢•弢•㣇•𣊸•𦇚•形"),
   (0x2F89A, 0x2F8AF, "彫•㣣•徚•忍•志•忹•悁•㤺•㤜•悔•𢛔•惇•慈•慌•慎•慌•慺•憎•憲•憤•憯•懞"),
   (0x2F8B0, 0x2F8C5, "懲•懶•成•戛•扝•抱•拔•捐•𢬌•挽•拼•捨•掃•揤•𢯱•搢•揅•掩•㨮•摩•摾•撝"),
   (0x2F8C6, 0x2F8DB, "摷•㩬•敏•敬•𣀊•旣•書•晉•㬙•暑•㬈•㫤•冒•冕•最•暜•肭•䏙•朗•望•朡•杞"),
   (0x2F8DC, 0x2F8F1, "杓•𣏃•㭉•柺•枅•桒•梅•𣑭•梎•栟•椔•㮝•楂•榣•槪•檨•𣚣•櫛•㰘•次•𣢧•歔"),
   (0x2F8F2, 0x2F907, "㱎•歲•殟•殺•殻•𣪍•𡴋•𣫺•汎•𣲼•沿•泍•汧•洖•派•海•流•浩•浸•涅•𣴞•洴"),
   (0x2F908, 0x2F91D, "港•湮•㴳•滋•滇•𣻑•淹•潮•𣽞•𣾎•濆•瀹•瀞•瀛•㶖•灊•災•灷•炭•𠔥•煅•𤉣"),
   (0x2F91E, 0x2F933, "熜•𤎫•爨•爵•牐•𤘈•犀•犕•𤜵•𤠔•獺•王•㺬•玥•㺸•㺸•瑇•瑜•瑱•璅•瓊•㼛"),
   (0x2F934, 0x2F949, "甤•𤰶•甾•𤲒•異•𢆟•瘐•𤾡•𤾸•𥁄•㿼•䀈•直•𥃳•𥃲•𥄙•𥄳•眞•真•真•睊•䀹"),
   (0x2F94A, 0x2F95F, "瞋•䁆•䂖•𥐝•硎•碌•磌•䃣•𥘦•祖•𥚚•𥛅•福•秫•䄯•穀•穊•穏•𥥼•𥪧•𥪧•竮"),
   (0x2F960, 0x2F975, "䈂•𥮫•篆•築•䈧•𥲀•糒•䊠•糨•糣•紀•𥾆•絣•䌁•緇•縂•繅•䌴•𦈨•𦉇•䍙•𦋙"),
   (0x2F976, 0x2F98B, "罺•𦌾•羕•翺•者•𦓚•𦔣•聠•𦖨•聰•𣍟•䏕•育•脃•䐋•脾•媵•𦞧•𦞵•𣎓•𣎜•舁"),
   (0x2F98C, 0x2F9A1, "舄•辞•䑫•芑•芋•芝•劳•花•芳•芽•苦•𦬼•若•茝•荣•莭•茣•莽•菧•著•荓•菊"),
   (0x2F9A2, 0x2F9B7, "菌•菜•𦰶•𦵫•𦳕•䔫•蓱•蓳•蔖•𧏊•蕤•𦼬•䕝•䕡•𦾱•𧃒•䕫•虐•虜•虧•虩•蚩"),
   (0x2F9B8, 0x2F9CD, "蚈•蜎•蛢•蝹•蜨•蝫•螆•䗗•蟡•蠁•䗹•衠•衣•𧙧•裗•裞•䘵•裺•㒻•𧢮•𧥦•䚾"),
   (0x2F9CE, 0x2F9E3, "䛇•誠•諭•變•豕•𧲨•貫•賁•贛•起•𧼯•𠠄•跋•趼•跰•𠣞•軔•輸•𨗒•𨗭•邔•郱"),
   (0x2F9E4, 0x2F9F9, "鄑•𨜮•鄛•鈸•鋗•鋘•鉼•鏹•鐕•𨯺•開•䦕•閷•𨵷•䧦•雃•嶲•霣•𩅅•𩈚•䩮•䩶"),
   (0x2F9FA, 0x2FA0F, "韠•𩐊•䪲•𩒖•頋•頋•頩•𩖶•飢•䬳•餩•馧•駂•駾•䯎•𩬰•鬒•鱀•鳽•䳎•䳭•鵧"),
   (0x2FA10, 0x2FA1D, "𪃎•䳸•𪄅•𪈎•𪊑•麻•䵖•黹•黾•鼅•鼏•鼖•鼻•𪘀")]

/-- What a character becomes; nothing for one that may not stand in a domain. -/
def mapChar? (c : Char) : Option Text :=
  let code := c.toNat
  if code < 0x80 then some [c.toLower]
  else if !Text.inRanges knownRanges c then none
  else if Text.inRanges droppedRanges c then some []
  else if alternatingRanges.any fun (low, high) => low ≤ code && code ≤ high && (code - low) % 2 == 0
  then some [Char.ofNat (code + 1)]
  else
    match mappedRuns.find? fun (low, high, _) => low ≤ code && code ≤ high with
    | some (low, _, targets) => (Text.splitAtChar '•' targets.toList)[code - low]?
    | none => some [c]

/-- The character may stand in a domain as it is. -/
def isPlain (c : Char) : Bool := mapChar? c == some [c]

/-- The mapped text. ASCII needs no table. -/
def map? (text : Text) : Option Text :=
  if text.all fun c => c.toNat < 0x80 then some (Text.lower text)
  else (text.mapM mapChar?).map List.flatten

end StreamLinks.Url.Domain
