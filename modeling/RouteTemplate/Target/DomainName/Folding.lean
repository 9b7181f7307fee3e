import RouteTemplate.Text.Table

/- Folding: the characters of a domain name, made alike.

   Names that look alike are one name. Large letters fold to their small forms, letters and digits in
   circles, in wide forms and in mathematical alphabets to the plain ones, ligatures to their letters, and
   some characters fold to nothing. Others may not occur in a name. `isSettled` tells the characters that
   folding does not change. -/
namespace RouteTemplate.DomainName

open Text

/-- Characters that fold to nothing. -/
def ignoredRanges : List (Nat × Nat) := [
  (0xad, 0xad), (0x34f, 0x34f), (0x115f, 0x1160), (0x17b4, 0x17b5), (0x180b, 0x180f),
  (0x200b, 0x200b), (0x2060, 0x2064), (0x206a, 0x206f), (0x3164, 0x3164), (0xfe00, 0xfe0f),
  (0xfeff, 0xfeff), (0xffa0, 0xffa0), (0x1bca0, 0x1bca3), (0x1d173, 0x1d17a), (0xe0100, 0xe01ef)]

/-- Characters that no name may hold, or that fold to text with a blank, which none may hold. -/
def refusedRanges : List (Nat × Nat) := [
  (0x80, 0xa0), (0xa8, 0xa8), (0xaf, 0xaf), (0xb4, 0xb4), (0xb8, 0xb8), (0x2d8, 0x2dd),
  (0x378, 0x37a), (0x380, 0x385), (0x38b, 0x38b), (0x38d, 0x38d), (0x3a2, 0x3a2), (0x530, 0x530),
  (0x557, 0x557), (0x590, 0x590), (0x5eb, 0x5ee), (0x5f5, 0x605), (0x61c, 0x61c), (0x6dd, 0x6dd),
  (0x70e, 0x70f), (0x74b, 0x74c), (0x7b2, 0x7bf), (0x7fb, 0x7fc), (0x82e, 0x82f), (0x83f, 0x83f),
  (0x85c, 0x85d), (0x85f, 0x85f), (0x86b, 0x86f), (0x890, 0x896), (0x8e2, 0x8e2), (0x984, 0x984),
  (0x98d, 0x98e), (0x991, 0x992), (0x9a9, 0x9a9), (0x9b1, 0x9b1), (0x9b3, 0x9b5), (0x9ba, 0x9bb),
  (0x9c5, 0x9c6), (0x9c9, 0x9ca), (0x9cf, 0x9d6), (0x9d8, 0x9db), (0x9de, 0x9de), (0x9e4, 0x9e5),
  (0x9ff, 0xa00), (0xa04, 0xa04), (0xa0b, 0xa0e), (0xa11, 0xa12), (0xa29, 0xa29), (0xa31, 0xa31),
  (0xa34, 0xa34), (0xa37, 0xa37), (0xa3a, 0xa3b), (0xa3d, 0xa3d), (0xa43, 0xa46), (0xa49, 0xa4a),
  (0xa4e, 0xa50), (0xa52, 0xa58), (0xa5d, 0xa5d), (0xa5f, 0xa65), (0xa77, 0xa80), (0xa84, 0xa84),
  (0xa8e, 0xa8e), (0xa92, 0xa92), (0xaa9, 0xaa9), (0xab1, 0xab1), (0xab4, 0xab4), (0xaba, 0xabb),
  (0xac6, 0xac6), (0xaca, 0xaca), (0xace, 0xacf), (0xad1, 0xadf), (0xae4, 0xae5), (0xaf2, 0xaf8),
  (0xb00, 0xb00), (0xb04, 0xb04), (0xb0d, 0xb0e), (0xb11, 0xb12), (0xb29, 0xb29), (0xb31, 0xb31),
  (0xb34, 0xb34), (0xb3a, 0xb3b), (0xb45, 0xb46), (0xb49, 0xb4a), (0xb4e, 0xb52), (0xb58, 0xb5b),
  (0xb5e, 0xb5e), (0xb64, 0xb65), (0xb78, 0xb81), (0xb84, 0xb84), (0xb8b, 0xb8d), (0xb91, 0xb91),
  (0xb96, 0xb98), (0xb9b, 0xb9b), (0xb9d, 0xb9d), (0xba0, 0xba2), (0xba5, 0xba7), (0xbab, 0xbad),
  (0xbba, 0xbbd), (0xbc3, 0xbc5), (0xbc9, 0xbc9), (0xbce, 0xbcf), (0xbd1, 0xbd6), (0xbd8, 0xbe5),
  (0xbfb, 0xbff), (0xc0d, 0xc0d), (0xc11, 0xc11), (0xc29, 0xc29), (0xc3a, 0xc3b), (0xc45, 0xc45),
  (0xc49, 0xc49), (0xc4e, 0xc54), (0xc57, 0xc57), (0xc5b, 0xc5b), (0xc5e, 0xc5f), (0xc64, 0xc65),
  (0xc70, 0xc76), (0xc8d, 0xc8d), (0xc91, 0xc91), (0xca9, 0xca9), (0xcb4, 0xcb4), (0xcba, 0xcbb),
  (0xcc5, 0xcc5), (0xcc9, 0xcc9), (0xcce, 0xcd4), (0xcd7, 0xcdb), (0xcdf, 0xcdf), (0xce4, 0xce5),
  (0xcf0, 0xcf0), (0xcf4, 0xcff), (0xd0d, 0xd0d), (0xd11, 0xd11), (0xd45, 0xd45), (0xd49, 0xd49),
  (0xd50, 0xd53), (0xd64, 0xd65), (0xd80, 0xd80), (0xd84, 0xd84), (0xd97, 0xd99), (0xdb2, 0xdb2),
  (0xdbc, 0xdbc), (0xdbe, 0xdbf), (0xdc7, 0xdc9), (0xdcb, 0xdce), (0xdd5, 0xdd5), (0xdd7, 0xdd7),
  (0xde0, 0xde5), (0xdf0, 0xdf1), (0xdf5, 0xe00), (0xe3b, 0xe3e), (0xe5c, 0xe80), (0xe83, 0xe83),
  (0xe85, 0xe85), (0xe8b, 0xe8b), (0xea4, 0xea4), (0xea6, 0xea6), (0xebe, 0xebf), (0xec5, 0xec5),
  (0xec7, 0xec7), (0xecf, 0xecf), (0xeda, 0xedb), (0xee0, 0xeff), (0xf48, 0xf48), (0xf6d, 0xf70),
  (0xf98, 0xf98), (0xfbd, 0xfbd), (0xfcd, 0xfcd), (0xfdb, 0xfff), (0x10c6, 0x10c6),
  (0x10c8, 0x10cc), (0x10ce, 0x10cf), (0x1249, 0x1249), (0x124e, 0x124f), (0x1257, 0x1257),
  (0x1259, 0x1259), (0x125e, 0x125f), (0x1289, 0x1289), (0x128e, 0x128f), (0x12b1, 0x12b1),
  (0x12b6, 0x12b7), (0x12bf, 0x12bf), (0x12c1, 0x12c1), (0x12c6, 0x12c7), (0x12d7, 0x12d7),
  (0x1311, 0x1311), (0x1316, 0x1317), (0x135b, 0x135c), (0x137d, 0x137f), (0x139a, 0x139f),
  (0x13f6, 0x13f7), (0x13fe, 0x13ff), (0x1680, 0x1680), (0x169d, 0x169f), (0x16f9, 0x16ff),
  (0x1716, 0x171e), (0x1737, 0x173f), (0x1754, 0x175f), (0x176d, 0x176d), (0x1771, 0x1771),
  (0x1774, 0x177f), (0x17de, 0x17df), (0x17ea, 0x17ef), (0x17fa, 0x17ff), (0x181a, 0x181f),
  (0x1879, 0x187f), (0x18ab, 0x18af), (0x18f6, 0x18ff), (0x191f, 0x191f), (0x192c, 0x192f),
  (0x193c, 0x193f), (0x1941, 0x1943), (0x196e, 0x196f), (0x1975, 0x197f), (0x19ac, 0x19af),
  (0x19ca, 0x19cf), (0x19db, 0x19dd), (0x1a1c, 0x1a1d), (0x1a5f, 0x1a5f), (0x1a7d, 0x1a7e),
  (0x1a8a, 0x1a8f), (0x1a9a, 0x1a9f), (0x1aae, 0x1aaf), (0x1ade, 0x1adf), (0x1aec, 0x1aff),
  (0x1b4d, 0x1b4d), (0x1bf4, 0x1bfb), (0x1c38, 0x1c3a), (0x1c4a, 0x1c4c), (0x1c8b, 0x1c8f),
  (0x1cbb, 0x1cbc), (0x1cc8, 0x1ccf), (0x1cfb, 0x1cff), (0x1f16, 0x1f17), (0x1f1e, 0x1f1f),
  (0x1f46, 0x1f47), (0x1f4e, 0x1f4f), (0x1f58, 0x1f58), (0x1f5a, 0x1f5a), (0x1f5c, 0x1f5c),
  (0x1f5e, 0x1f5e), (0x1f7e, 0x1f7f), (0x1fb5, 0x1fb5), (0x1fbd, 0x1fbd), (0x1fbf, 0x1fc1),
  (0x1fc5, 0x1fc5), (0x1fcd, 0x1fcf), (0x1fd4, 0x1fd5), (0x1fdc, 0x1fdf), (0x1fed, 0x1fee),
  (0x1ff0, 0x1ff1), (0x1ff5, 0x1ff5), (0x1ffd, 0x200a), (0x200e, 0x200f), (0x2017, 0x2017),
  (0x2024, 0x2026), (0x2028, 0x202f), (0x203e, 0x203e), (0x205f, 0x205f), (0x2065, 0x2069),
  (0x2072, 0x2073), (0x20c5, 0x20cf), (0x20f1, 0x20ff), (0x218c, 0x218f), (0x242a, 0x243f),
  (0x244b, 0x245f), (0x2488, 0x249b), (0x2b74, 0x2b75), (0x2cf4, 0x2cf8), (0x2d26, 0x2d26),
  (0x2d28, 0x2d2c), (0x2d2e, 0x2d2f), (0x2d68, 0x2d6e), (0x2d71, 0x2d7e), (0x2d97, 0x2d9f),
  (0x2da7, 0x2da7), (0x2daf, 0x2daf), (0x2db7, 0x2db7), (0x2dbf, 0x2dbf), (0x2dc7, 0x2dc7),
  (0x2dcf, 0x2dcf), (0x2dd7, 0x2dd7), (0x2ddf, 0x2ddf), (0x2e68, 0x2e7f), (0x2e9a, 0x2e9a),
  (0x2ef4, 0x2eff), (0x2fd6, 0x3000), (0x3040, 0x3040), (0x3097, 0x3098), (0x309b, 0x309c),
  (0x3100, 0x3104), (0x3130, 0x3130), (0x318f, 0x318f), (0x31e6, 0x31ef), (0x321f, 0x321f),
  (0x33c2, 0x33c2), (0x33c7, 0x33c7), (0x33d8, 0x33d8), (0xa48d, 0xa48f), (0xa4c7, 0xa4cf),
  (0xa62c, 0xa63f), (0xa6f8, 0xa6ff), (0xa82d, 0xa82f), (0xa83a, 0xa83f), (0xa878, 0xa87f),
  (0xa8c6, 0xa8cd), (0xa8da, 0xa8df), (0xa954, 0xa95e), (0xa97d, 0xa97f), (0xa9ce, 0xa9ce),
  (0xa9da, 0xa9dd), (0xa9ff, 0xa9ff), (0xaa37, 0xaa3f), (0xaa4e, 0xaa4f), (0xaa5a, 0xaa5b),
  (0xaac3, 0xaada), (0xaaf7, 0xab00), (0xab07, 0xab08), (0xab0f, 0xab10), (0xab17, 0xab1f),
  (0xab27, 0xab27), (0xab2f, 0xab2f), (0xabee, 0xabef), (0xabfa, 0xabff), (0xd7a4, 0xd7af),
  (0xd7c7, 0xd7ca), (0xd7fc, 0xf8ff), (0xfa6e, 0xfa6f), (0xfada, 0xfaff), (0xfb07, 0xfb12),
  (0xfb18, 0xfb1c), (0xfb37, 0xfb37), (0xfb3d, 0xfb3d), (0xfb3f, 0xfb3f), (0xfb42, 0xfb42),
  (0xfb45, 0xfb45), (0xfc5e, 0xfc63), (0xfdd0, 0xfdef), (0xfdfa, 0xfdfb), (0xfe12, 0xfe12),
  (0xfe19, 0xfe1f), (0xfe30, 0xfe30), (0xfe49, 0xfe4c), (0xfe52, 0xfe53), (0xfe67, 0xfe67),
  (0xfe6c, 0xfe70), (0xfe72, 0xfe72), (0xfe74, 0xfe76), (0xfe78, 0xfe78), (0xfe7a, 0xfe7a),
  (0xfe7c, 0xfe7c), (0xfe7e, 0xfe7e), (0xfefd, 0xfefe), (0xff00, 0xff00), (0xffbf, 0xffc1),
  (0xffc8, 0xffc9), (0xffd0, 0xffd1), (0xffd8, 0xffd9), (0xffdd, 0xffdf), (0xffe3, 0xffe3),
  (0xffe7, 0xffe7), (0xffef, 0xffff), (0x1000c, 0x1000c), (0x10027, 0x10027), (0x1003b, 0x1003b),
  (0x1003e, 0x1003e), (0x1004e, 0x1004f), (0x1005e, 0x1007f), (0x100fb, 0x100ff),
  (0x10103, 0x10106), (0x10134, 0x10136), (0x1018f, 0x1018f), (0x1019d, 0x1019f),
  (0x101a1, 0x101cf), (0x101fe, 0x1027f), (0x1029d, 0x1029f), (0x102d1, 0x102df),
  (0x102fc, 0x102ff), (0x10324, 0x1032c), (0x1034b, 0x1034f), (0x1037b, 0x1037f),
  (0x1039e, 0x1039e), (0x103c4, 0x103c7), (0x103d6, 0x103ff), (0x1049e, 0x1049f),
  (0x104aa, 0x104af), (0x104d4, 0x104d7), (0x104fc, 0x104ff), (0x10528, 0x1052f),
  (0x10564, 0x1056e), (0x1057b, 0x1057b), (0x1058b, 0x1058b), (0x10593, 0x10593),
  (0x10596, 0x10596), (0x105a2, 0x105a2), (0x105b2, 0x105b2), (0x105ba, 0x105ba),
  (0x105bd, 0x105bf), (0x105f4, 0x105ff), (0x10737, 0x1073f), (0x10756, 0x1075f),
  (0x10768, 0x1077f), (0x10786, 0x10786), (0x107b1, 0x107b1), (0x107bb, 0x107ff),
  (0x10806, 0x10807), (0x10809, 0x10809), (0x10836, 0x10836), (0x10839, 0x1083b),
  (0x1083d, 0x1083e), (0x10856, 0x10856), (0x1089f, 0x108a6), (0x108b0, 0x108df),
  (0x108f3, 0x108f3), (0x108f6, 0x108fa), (0x1091c, 0x1091e), (0x1093a, 0x1093e),
  (0x1095a, 0x1097f), (0x109b8, 0x109bb), (0x109d0, 0x109d1), (0x10a04, 0x10a04),
  (0x10a07, 0x10a0b), (0x10a14, 0x10a14), (0x10a18, 0x10a18), (0x10a36, 0x10a37),
  (0x10a3b, 0x10a3e), (0x10a49, 0x10a4f), (0x10a59, 0x10a5f), (0x10aa0, 0x10abf),
  (0x10ae7, 0x10aea), (0x10af7, 0x10aff), (0x10b36, 0x10b38), (0x10b56, 0x10b57),
  (0x10b73, 0x10b77), (0x10b92, 0x10b98), (0x10b9d, 0x10ba8), (0x10bb0, 0x10bff),
  (0x10c49, 0x10c7f), (0x10cb3, 0x10cbf), (0x10cf3, 0x10cf9), (0x10d28, 0x10d2f),
  (0x10d3a, 0x10d3f), (0x10d66, 0x10d68), (0x10d86, 0x10d8d), (0x10d90, 0x10e5f),
  (0x10e7f, 0x10e7f), (0x10eaa, 0x10eaa), (0x10eae, 0x10eaf), (0x10eb2, 0x10ec1),
  (0x10ed9, 0x10ef9), (0x10f28, 0x10f2f), (0x10f5a, 0x10f6f), (0x10f8a, 0x10faf),
  (0x10fcc, 0x10fdf), (0x10ff7, 0x10fff), (0x1104e, 0x11051), (0x11076, 0x1107e),
  (0x110bd, 0x110bd), (0x110c3, 0x110cf), (0x110e9, 0x110ef), (0x110fa, 0x110ff),
  (0x11135, 0x11135), (0x11148, 0x1114f), (0x11177, 0x1117f), (0x111e0, 0x111e0),
  (0x111f5, 0x111ff), (0x11212, 0x11212), (0x11242, 0x1127f), (0x11287, 0x11287),
  (0x11289, 0x11289), (0x1128e, 0x1128e), (0x1129e, 0x1129e), (0x112aa, 0x112af),
  (0x112eb, 0x112ef), (0x112fa, 0x112ff), (0x11304, 0x11304), (0x1130d, 0x1130e),
  (0x11311, 0x11312), (0x11329, 0x11329), (0x11331, 0x11331), (0x11334, 0x11334),
  (0x1133a, 0x1133a), (0x11345, 0x11346), (0x11349, 0x1134a), (0x1134e, 0x1134f),
  (0x11351, 0x11356), (0x11358, 0x1135c), (0x11364, 0x11365), (0x1136d, 0x1136f),
  (0x11375, 0x1137f), (0x1138a, 0x1138a), (0x1138c, 0x1138d), (0x1138f, 0x1138f),
  (0x113b6, 0x113b6), (0x113c1, 0x113c1), (0x113c3, 0x113c4), (0x113c6, 0x113c6),
  (0x113cb, 0x113cb), (0x113d6, 0x113d6), (0x113d9, 0x113e0), (0x113e3, 0x113ff),
  (0x1145c, 0x1145c), (0x11462, 0x1147f), (0x114c8, 0x114cf), (0x114da, 0x1157f),
  (0x115b6, 0x115b7), (0x115de, 0x115ff), (0x11645, 0x1164f), (0x1165a, 0x1165f),
  (0x1166d, 0x1167f), (0x116ba, 0x116bf), (0x116ca, 0x116cf), (0x116e4, 0x116ff),
  (0x1171b, 0x1171c), (0x1172c, 0x1172f), (0x11747, 0x117ff), (0x1183c, 0x1189f),
  (0x118f3, 0x118fe), (0x11907, 0x11908), (0x1190a, 0x1190b), (0x11914, 0x11914),
  (0x11917, 0x11917), (0x11936, 0x11936), (0x11939, 0x1193a), (0x11947, 0x1194f),
  (0x1195a, 0x1199f), (0x119a8, 0x119a9), (0x119d8, 0x119d9), (0x119e5, 0x119ff),
  (0x11a48, 0x11a4f), (0x11aa3, 0x11aaf), (0x11af9, 0x11aff), (0x11b0a, 0x11b5f),
  (0x11b68, 0x11bbf), (0x11be2, 0x11bef), (0x11bfa, 0x11bff), (0x11c09, 0x11c09),
  (0x11c37, 0x11c37), (0x11c46, 0x11c4f), (0x11c6d, 0x11c6f), (0x11c90, 0x11c91),
  (0x11ca8, 0x11ca8), (0x11cb7, 0x11cff), (0x11d07, 0x11d07), (0x11d0a, 0x11d0a),
  (0x11d37, 0x11d39), (0x11d3b, 0x11d3b), (0x11d3e, 0x11d3e), (0x11d48, 0x11d4f),
  (0x11d5a, 0x11d5f), (0x11d66, 0x11d66), (0x11d69, 0x11d69), (0x11d8f, 0x11d8f),
  (0x11d92, 0x11d92), (0x11d99, 0x11d9f), (0x11daa, 0x11daf), (0x11ddc, 0x11ddf),
  (0x11dea, 0x11edf), (0x11ef9, 0x11eff), (0x11f11, 0x11f11), (0x11f3b, 0x11f3d),
  (0x11f5b, 0x11faf), (0x11fb1, 0x11fbf), (0x11ff2, 0x11ffe), (0x1239a, 0x123ff),
  (0x1246f, 0x1246f), (0x12475, 0x1247f), (0x12544, 0x1254f), (0x12690, 0x12f8f),
  (0x12ff3, 0x12fff), (0x13430, 0x1343f), (0x13456, 0x1345f), (0x143fb, 0x143ff),
  (0x14647, 0x160ff), (0x1613a, 0x167ff), (0x16a39, 0x16a3f), (0x16a5f, 0x16a5f),
  (0x16a6a, 0x16a6d), (0x16abf, 0x16abf), (0x16aca, 0x16acf), (0x16aee, 0x16aef),
  (0x16af6, 0x16aff), (0x16b46, 0x16b4f), (0x16b5a, 0x16b5a), (0x16b62, 0x16b62),
  (0x16b78, 0x16b7c), (0x16b90, 0x16d3f), (0x16d7a, 0x16d7f), (0x16db0, 0x16e3f),
  (0x16e9b, 0x16e9f), (0x16eb9, 0x16eba), (0x16ed4, 0x16eff), (0x16f4b, 0x16f4e),
  (0x16f88, 0x16f8e), (0x16fa0, 0x16fdf), (0x16fe5, 0x16fef), (0x16ff7, 0x16fff),
  (0x18cd6, 0x18cfe), (0x18d1f, 0x18d7f), (0x18df3, 0x18dff), (0x19200, 0x1afef),
  (0x1aff4, 0x1aff4), (0x1affc, 0x1affc), (0x1afff, 0x1afff), (0x1b123, 0x1b131),
  (0x1b133, 0x1b14f), (0x1b153, 0x1b154), (0x1b156, 0x1b163), (0x1b168, 0x1b16f),
  (0x1b2fc, 0x1bbff), (0x1bc6b, 0x1bc6f), (0x1bc7d, 0x1bc7f), (0x1bc89, 0x1bc8f),
  (0x1bc9a, 0x1bc9b), (0x1bca4, 0x1cbff), (0x1ccfd, 0x1ccff), (0x1ceb4, 0x1ceb9),
  (0x1ced1, 0x1cedf), (0x1cef1, 0x1ceff), (0x1cf2e, 0x1cf2f), (0x1cf47, 0x1cf4f),
  (0x1cfc4, 0x1cfff), (0x1d0f6, 0x1d0ff), (0x1d127, 0x1d128), (0x1d1eb, 0x1d1ff),
  (0x1d246, 0x1d24f), (0x1d290, 0x1d2bf), (0x1d2d4, 0x1d2df), (0x1d2f4, 0x1d2ff),
  (0x1d357, 0x1d35f), (0x1d379, 0x1d3ff), (0x1d455, 0x1d455), (0x1d49d, 0x1d49d),
  (0x1d4a0, 0x1d4a1), (0x1d4a3, 0x1d4a4), (0x1d4a7, 0x1d4a8), (0x1d4ad, 0x1d4ad),
  (0x1d4ba, 0x1d4ba), (0x1d4bc, 0x1d4bc), (0x1d4c4, 0x1d4c4), (0x1d506, 0x1d506),
  (0x1d50b, 0x1d50c), (0x1d515, 0x1d515), (0x1d51d, 0x1d51d), (0x1d53a, 0x1d53a),
  (0x1d53f, 0x1d53f), (0x1d545, 0x1d545), (0x1d547, 0x1d549), (0x1d551, 0x1d551),
  (0x1d6a6, 0x1d6a7), (0x1d7cc, 0x1d7cd), (0x1da8c, 0x1da9a), (0x1daa0, 0x1daa0),
  (0x1dab0, 0x1daff), (0x1dc00, 0x1deff), (0x1df1f, 0x1df24), (0x1df2b, 0x1dfff),
  (0x1e007, 0x1e007), (0x1e019, 0x1e01a), (0x1e022, 0x1e022), (0x1e025, 0x1e025),
  (0x1e02b, 0x1e02f), (0x1e06e, 0x1e08e), (0x1e090, 0x1e0ff), (0x1e12d, 0x1e12f),
  (0x1e13e, 0x1e13f), (0x1e14a, 0x1e14d), (0x1e150, 0x1e28f), (0x1e2af, 0x1e2bf),
  (0x1e2fa, 0x1e2fe), (0x1e300, 0x1e4cf), (0x1e4fa, 0x1e5cf), (0x1e5fb, 0x1e5fe),
  (0x1e600, 0x1e6bf), (0x1e6df, 0x1e6df), (0x1e6f6, 0x1e6fd), (0x1e700, 0x1e7df),
  (0x1e7e7, 0x1e7e7), (0x1e7ec, 0x1e7ec), (0x1e7ef, 0x1e7ef), (0x1e7ff, 0x1e7ff),
  (0x1e8c5, 0x1e8c6), (0x1e8d7, 0x1e8ff), (0x1e94c, 0x1e94f), (0x1e95a, 0x1e95d),
  (0x1e960, 0x1ec70), (0x1ecb5, 0x1ed00), (0x1ed3e, 0x1edff), (0x1ee04, 0x1ee04),
  (0x1ee20, 0x1ee20), (0x1ee23, 0x1ee23), (0x1ee25, 0x1ee26), (0x1ee28, 0x1ee28),
  (0x1ee33, 0x1ee33), (0x1ee38, 0x1ee38), (0x1ee3a, 0x1ee3a), (0x1ee3c, 0x1ee41),
  (0x1ee43, 0x1ee46), (0x1ee48, 0x1ee48), (0x1ee4a, 0x1ee4a), (0x1ee4c, 0x1ee4c),
  (0x1ee50, 0x1ee50), (0x1ee53, 0x1ee53), (0x1ee55, 0x1ee56), (0x1ee58, 0x1ee58),
  (0x1ee5a, 0x1ee5a), (0x1ee5c, 0x1ee5c), (0x1ee5e, 0x1ee5e), (0x1ee60, 0x1ee60),
  (0x1ee63, 0x1ee63), (0x1ee65, 0x1ee66), (0x1ee6b, 0x1ee6b), (0x1ee73, 0x1ee73),
  (0x1ee78, 0x1ee78), (0x1ee7d, 0x1ee7d), (0x1ee7f, 0x1ee7f), (0x1ee8a, 0x1ee8a),
  (0x1ee9c, 0x1eea0), (0x1eea4, 0x1eea4), (0x1eeaa, 0x1eeaa), (0x1eebc, 0x1eeef),
  (0x1eef2, 0x1efff), (0x1f02c, 0x1f02f), (0x1f094, 0x1f09f), (0x1f0af, 0x1f0b0),
  (0x1f0c0, 0x1f0c0), (0x1f0d0, 0x1f0d0), (0x1f0f6, 0x1f100), (0x1f1ae, 0x1f1e5),
  (0x1f203, 0x1f20f), (0x1f23c, 0x1f23f), (0x1f249, 0x1f24f), (0x1f252, 0x1f25f),
  (0x1f266, 0x1f2ff), (0x1f6ed, 0x1f6ef), (0x1f6fd, 0x1f6ff), (0x1f7ec, 0x1f7ef),
  (0x1f7f1, 0x1f7ff), (0x1f80c, 0x1f80f), (0x1f848, 0x1f84f), (0x1f85a, 0x1f85f),
  (0x1f888, 0x1f88f), (0x1f8ae, 0x1f8af), (0x1f8bc, 0x1f8bf), (0x1f8c2, 0x1f8cf),
  (0x1f8d9, 0x1f8ff), (0x1fa58, 0x1fa5f), (0x1fa6e, 0x1fa6f), (0x1fa7d, 0x1fa7f),
  (0x1fac7, 0x1fac7), (0x1fac9, 0x1facb), (0x1fade, 0x1fade), (0x1faec, 0x1faee),
  (0x1fafb, 0x1faff), (0x1fb93, 0x1fb93), (0x1fbfb, 0x1ffff), (0x2a6e0, 0x2a6ff),
  (0x2ebe1, 0x2ebef), (0x2ee5e, 0x2f7ff), (0x2fa1e, 0x2ffff), (0x3134b, 0x3134f),
  (0x3347a, 0x3cfff), (0x3fc40, 0xe00ff), (0xe01f0, 0x10ffff)]

/-- Runs of letters where each large one, from the first on, has its small one next to it. -/
def largeRanges : List (Nat × Nat) := [
  (0x100, 0x12e), (0x134, 0x136), (0x139, 0x13d), (0x141, 0x147), (0x14a, 0x176), (0x179, 0x17d),
  (0x182, 0x184), (0x1a0, 0x1a4), (0x1b3, 0x1b5), (0x1cd, 0x1db), (0x1de, 0x1ee), (0x1f8, 0x21e),
  (0x222, 0x232), (0x246, 0x24e), (0x370, 0x372), (0x3d8, 0x3ee), (0x460, 0x480), (0x48a, 0x4be),
  (0x4c1, 0x4cd), (0x4d0, 0x52e), (0x1e00, 0x1e94), (0x1ea0, 0x1efe), (0x2c67, 0x2c6b),
  (0x2c80, 0x2ce2), (0x2ceb, 0x2ced), (0xa640, 0xa66c), (0xa680, 0xa69a), (0xa722, 0xa72e),
  (0xa732, 0xa76e), (0xa779, 0xa77b), (0xa77e, 0xa786), (0xa790, 0xa792), (0xa796, 0xa7a8),
  (0xa7b4, 0xa7c2), (0xa7c7, 0xa7c9), (0xa7cc, 0xa7da)]

/-- Characters from the first code point to the last that fold to as many others, from the third on. -/
def foldedRuns : List (Nat × Nat × Nat) := [
  (0xc0, 0xd6, 0xe0), (0xd8, 0xde, 0xf8), (0x391, 0x3a1, 0x3b1), (0x3a3, 0x3ab, 0x3c3),
  (0x400, 0x40f, 0x450), (0x410, 0x42f, 0x430), (0x531, 0x556, 0x561), (0x10a0, 0x10c5, 0x2d00),
  (0x13f8, 0x13fd, 0x13f0), (0x1c90, 0x1cba, 0x10d0), (0x1d33, 0x1d3a, 0x67),
  (0x1dae, 0x1db1, 0x272), (0x1f08, 0x1f0f, 0x1f00), (0x1f18, 0x1f1d, 0x1f10),
  (0x1f28, 0x1f2f, 0x1f20), (0x1f38, 0x1f3f, 0x1f30), (0x1f48, 0x1f4d, 0x1f40),
  (0x1f68, 0x1f6f, 0x1f60), (0x2074, 0x2079, 0x34), (0x2080, 0x2089, 0x30), (0x2096, 0x2099, 0x6b),
  (0x2135, 0x2138, 0x5d0), (0x2460, 0x2468, 0x31), (0x24b6, 0x24cf, 0x61), (0x24d0, 0x24e9, 0x61),
  (0x2c00, 0x2c2f, 0x2c30), (0x313a, 0x313f, 0x11b0), (0x3145, 0x314e, 0x1109),
  (0x314f, 0x3163, 0x1161), (0x3178, 0x317c, 0x112b), (0x3269, 0x326d, 0x110e),
  (0x32e4, 0x32e9, 0x30ca), (0x32ee, 0x32f2, 0x30de), (0x32f5, 0x32fa, 0x30e8),
  (0x32fb, 0x32fe, 0x30ef), (0xab70, 0xabbf, 0x13a0), (0xfe41, 0xfe44, 0x300c),
  (0xff01, 0xff20, 0x21), (0xff21, 0xff3a, 0x61), (0xff3b, 0xff5e, 0x5b), (0xff85, 0xff8a, 0x30ca),
  (0xff8f, 0xff93, 0x30de), (0xff96, 0xff9b, 0x30e8), (0xffaa, 0xffaf, 0x11b0),
  (0xffb5, 0xffbe, 0x1109), (0xffc2, 0xffc7, 0x1161), (0xffca, 0xffcf, 0x1167),
  (0xffd2, 0xffd7, 0x116d), (0xffe9, 0xffec, 0x2190), (0x10400, 0x10427, 0x10428),
  (0x104b0, 0x104d3, 0x104d8), (0x10570, 0x1057a, 0x10597), (0x1057c, 0x1058a, 0x105a3),
  (0x1058c, 0x10592, 0x105b3), (0x10c80, 0x10cb2, 0x10cc0), (0x10d50, 0x10d65, 0x10d70),
  (0x118a0, 0x118bf, 0x118c0), (0x16e40, 0x16e5f, 0x16e60), (0x16ea0, 0x16eb8, 0x16ebb),
  (0x1ccd6, 0x1ccef, 0x61), (0x1ccf0, 0x1ccf9, 0x30), (0x1d400, 0x1d419, 0x61),
  (0x1d41a, 0x1d433, 0x61), (0x1d434, 0x1d44d, 0x61), (0x1d44e, 0x1d454, 0x61),
  (0x1d456, 0x1d467, 0x69), (0x1d468, 0x1d481, 0x61), (0x1d482, 0x1d49b, 0x61),
  (0x1d4a9, 0x1d4ac, 0x6e), (0x1d4ae, 0x1d4b5, 0x73), (0x1d4b6, 0x1d4b9, 0x61),
  (0x1d4bd, 0x1d4c3, 0x68), (0x1d4c5, 0x1d4cf, 0x70), (0x1d4d0, 0x1d4e9, 0x61),
  (0x1d4ea, 0x1d503, 0x61), (0x1d507, 0x1d50a, 0x64), (0x1d50d, 0x1d514, 0x6a),
  (0x1d516, 0x1d51c, 0x73), (0x1d51e, 0x1d537, 0x61), (0x1d53b, 0x1d53e, 0x64),
  (0x1d540, 0x1d544, 0x69), (0x1d54a, 0x1d550, 0x73), (0x1d552, 0x1d56b, 0x61),
  (0x1d56c, 0x1d585, 0x61), (0x1d586, 0x1d59f, 0x61), (0x1d5a0, 0x1d5b9, 0x61),
  (0x1d5ba, 0x1d5d3, 0x61), (0x1d5d4, 0x1d5ed, 0x61), (0x1d5ee, 0x1d607, 0x61),
  (0x1d608, 0x1d621, 0x61), (0x1d622, 0x1d63b, 0x61), (0x1d63c, 0x1d655, 0x61),
  (0x1d656, 0x1d66f, 0x61), (0x1d670, 0x1d689, 0x61), (0x1d68a, 0x1d6a3, 0x61),
  (0x1d6a8, 0x1d6b8, 0x3b1), (0x1d6ba, 0x1d6c0, 0x3c3), (0x1d6c2, 0x1d6d2, 0x3b1),
  (0x1d6d4, 0x1d6da, 0x3c3), (0x1d6e2, 0x1d6f2, 0x3b1), (0x1d6f4, 0x1d6fa, 0x3c3),
  (0x1d6fc, 0x1d70c, 0x3b1), (0x1d70e, 0x1d714, 0x3c3), (0x1d71c, 0x1d72c, 0x3b1),
  (0x1d72e, 0x1d734, 0x3c3), (0x1d736, 0x1d746, 0x3b1), (0x1d748, 0x1d74e, 0x3c3),
  (0x1d756, 0x1d766, 0x3b1), (0x1d768, 0x1d76e, 0x3c3), (0x1d770, 0x1d780, 0x3b1),
  (0x1d782, 0x1d788, 0x3c3), (0x1d790, 0x1d7a0, 0x3b1), (0x1d7a2, 0x1d7a8, 0x3c3),
  (0x1d7aa, 0x1d7ba, 0x3b1), (0x1d7bc, 0x1d7c2, 0x3c3), (0x1d7ce, 0x1d7d7, 0x30),
  (0x1d7d8, 0x1d7e1, 0x30), (0x1d7e2, 0x1d7eb, 0x30), (0x1d7ec, 0x1d7f5, 0x30),
  (0x1d7f6, 0x1d7ff, 0x30), (0x1e030, 0x1e038, 0x430), (0x1e03c, 0x1e046, 0x43e),
  (0x1e051, 0x1e059, 0x430), (0x1e05f, 0x1e064, 0x443), (0x1e900, 0x1e921, 0x1e922),
  (0x1ee0a, 0x1ee0d, 0x643), (0x1ee2a, 0x1ee2d, 0x643), (0x1f130, 0x1f149, 0x61),
  (0x1fbf0, 0x1fbf9, 0x30)]

/-- Other characters, and what they fold to. -/
def foldedRows : List (Nat × String) := [
  (0xaa, "a"),
  (0xb2, "2 3"),
  (0xb5, "μ"),
  (0xb9, "1 o"),
  (0xbc, "1\u20444 1\u20442 3\u20444"),
  (0x130, "i\u0307"),
  (0x132, "ij ij"),
  (0x13f, "l· l·"),
  (0x149, "\u02bcn"),
  (0x178, "ÿ"),
  (0x17f, "s"),
  (0x181, "ɓ"),
  (0x186, "ɔ ƈ"),
  (0x189, "ɖ ɗ ƌ"),
  (0x18e, "ǝ ə ɛ ƒ"),
  (0x193, "ɠ ɣ"),
  (0x196, "ɩ ɨ ƙ"),
  (0x19c, "ɯ ɲ"),
  (0x19f, "ɵ"),
  (0x1a6, "ʀ ƨ"),
  (0x1a9, "ʃ"),
  (0x1ac, "ƭ"),
  (0x1ae, "ʈ ư"),
  (0x1b1, "ʊ ʋ"),
  (0x1b7, "ʒ ƹ"),
  (0x1bc, "ƽ"),
  (0x1c4, "dž dž dž lj lj lj nj nj nj"),
  (0x1f1, "dz dz dz ǵ"),
  (0x1f6, "ƕ ƿ"),
  (0x220, "ƞ"),
  (0x23a, "ⱥ ȼ"),
  (0x23d, "ƚ ⱦ"),
  (0x241, "ɂ"),
  (0x243, "ƀ ʉ ʌ"),
  (0x2b0, "h ɦ j r ɹ ɻ ʁ w y"),
  (0x2e0, "ɣ l s x ʕ"),
  (0x345, "ι"),
  (0x376, "ͷ"),
  (0x37f, "ϳ"),
  (0x386, "ά"),
  (0x388, "έ ή ί"),
  (0x38c, "ό"),
  (0x38e, "ύ ώ"),
  (0x3cf, "ϗ β θ υ ύ ϋ φ π"),
  (0x3f0, "κ ρ σ"),
  (0x3f4, "θ ε"),
  (0x3f7, "ϸ"),
  (0x3f9, "σ ϻ"),
  (0x3fd, "ͻ ͼ ͽ"),
  (0x4c0, "ӏ"),
  (0x587, "եւ"),
  (0x675, "\u0627\u0674 \u0648\u0674 \u06c7\u0674 \u064a\u0674"),
  (0xe33, "\u0e4dา"),
  (0xeb3, "\u0ecdາ"),
  (0xedc, "ຫນ ຫມ"),
  (0xf0c, "་"),
  (0xf77, "\u0fb2\u0f71\u0f80"),
  (0xf79, "\u0fb3\u0f71\u0f80"),
  (0x10c7, "ⴧ"),
  (0x10cd, "ⴭ"),
  (0x10fc, "ნ"),
  (0x1c80, "в д о с т т ъ ѣ ꙋ ᲊ"),
  (0x1cbd, "ჽ ჾ ჿ"),
  (0x1d2c, "a æ b"),
  (0x1d30, "d e ǝ"),
  (0x1d3c, "o ȣ p r t u w a ɐ ɑ ᴂ b d e ə ɛ ɜ g"),
  (0x1d4f, "k m ŋ o ɔ ᴖ ᴗ p t u ᴝ ɯ v ᴥ β γ δ φ χ i r u v β γ ρ φ χ"),
  (0x1d78, "н"),
  (0x1d9b, "ɒ c ɕ ð ɜ f ɟ ɡ ɥ ɨ ɩ ɪ ᵻ ʝ ɭ ᶅ ʟ ɱ ɰ"),
  (0x1db2, "ɸ ʂ ʃ ƫ ʉ ʊ ᴜ ʋ ʌ z ʐ ʑ ʒ θ"),
  (0x1e9a, "a\u02be ṡ"),
  (0x1e9e, "ß"),
  (0x1f59, "ὑ"),
  (0x1f5b, "ὓ"),
  (0x1f5d, "ὕ"),
  (0x1f5f, "ὗ"),
  (0x1f80, "ἀι ἁι ἂι ἃι ἄι ἅι ἆι ἇι ἀι ἁι ἂι ἃι ἄι ἅι ἆι ἇι ἠι ἡι ἢι ἣι ἤι ἥι ἦι ἧι ἠι ἡι ἢι ἣι"),
  (0x1f9c, "ἤι ἥι ἦι ἧι ὠι ὡι ὢι ὣι ὤι ὥι ὦι ὧι ὠι ὡι ὢι ὣι ὤι ὥι ὦι ὧι"),
  (0x1fb2, "ὰι αι άι"),
  (0x1fb7, "ᾶι ᾰ ᾱ ὰ ά αι"),
  (0x1fc2, "ὴι ηι ήι"),
  (0x1fc7, "ῆι ὲ έ ὴ ή ηι"),
  (0x1fd8, "ῐ ῑ ὶ ί"),
  (0x1fe8, "ῠ ῡ ὺ ύ ῥ"),
  (0x1ff2, "ὼι ωι ώι"),
  (0x1ff7, "ῶι ὸ ό ὼ ώ ωι"),
  (0x2011, "‐"),
  (0x2033, "\u2032\u2032 \u2032\u2032\u2032"),
  (0x2036, "‵‵ ‵‵‵"),
  (0x203c, "!!"),
  (0x2047, "?? ?! !?"),
  (0x2057, "\u2032\u2032\u2032\u2032"),
  (0x2070, "0 i"),
  (0x207a, "+ \u2212 = ( ) n"),
  (0x208a, "+ \u2212 = ( )"),
  (0x2090, "a e o x ə h"),
  (0x209a, "p s t"),
  (0x20a8, "rs"),
  (0x2100, "a/c a/s c \u00b0c"),
  (0x2105, "c/o c/u ɛ"),
  (0x2109, "\u00b0f g h h h h ħ i i l l"),
  (0x2115, "n no"),
  (0x2119, "p q r r r"),
  (0x2120, "sm tel tm"),
  (0x2124, "z"),
  (0x2126, "ω"),
  (0x2128, "z"),
  (0x212a, "k å b c"),
  (0x212f, "e e f ⅎ m o"),
  (0x2139, "i"),
  (0x213b, "fax π γ γ π ∑"),
  (0x2145, "d d e i j"),
  (0x2150, "1\u20447 1\u20449 1\u204410 1\u20443 2\u20443 1\u20445 2\u20445 3\u20445 4\u20445"),
  (0x2159, "1\u20446 5\u20446 1\u20448 3\u20448 5\u20448 7\u20448 1\u2044 i ii iii iv v vi vii"),
  (0x2167, "viii ix x xi xii l c d m i ii iii iv v vi vii viii ix x xi xii l c d m"),
  (0x2183, "ↄ"),
  (0x2189, "0\u20443"),
  (0x222c, "∫∫ ∫∫∫"),
  (0x222f, "∮∮ ∮∮∮"),
  (0x2469, "10 11 12 13 14 15 16 17 18 19 20 (1) (2) (3) (4) (5) (6) (7) (8) (9) (10) (11) (12)"),
  (0x2480, "(13) (14) (15) (16) (17) (18) (19) (20)"),
  (0x249c, "(a) (b) (c) (d) (e) (f) (g) (h) (i) (j) (k) (l) (m) (n) (o) (p) (q) (r) (s) (t) (u)"),
  (0x24b1, "(v) (w) (x) (y) (z)"),
  (0x24ea, "0"),
  (0x2a0c, "∫∫∫∫"),
  (0x2a74, "::= == ==="),
  (0x2c60, "ⱡ"),
  (0x2c62, "ɫ ᵽ ɽ"),
  (0x2c6d, "ɑ ɱ ɐ ɒ"),
  (0x2c72, "ⱳ"),
  (0x2c75, "ⱶ"),
  (0x2c7c, "j v ȿ ɀ"),
  (0x2cf2, "ⳳ"),
  (0x2d6f, "ⵡ"),
  (0x2e9f, "母"),
  (0x2ef3, "龟"),
  (0x2f00, "一 丨 丶 丿 乙 亅 二 亠 人 儿 入 八 冂 冖 冫 几 凵 刀 力 勹 匕 匚 匸 十 卜 卩 厂 厶 又 口 囗 土 士 夂 夊 夕 大 女 子 宀 寸 小"),
  (0x2f2a, "尢 尸 屮 山 巛 工 己 巾 干 幺 广 廴 廾 弋 弓 彐 彡 彳 心 戈 戶 手 支 攴 文 斗 斤 方 无 日 曰 月 木 欠 止 歹 殳 毋 比 毛 氏 气"),
  (0x2f54, "水 火 爪 父 爻 爿 片 牙 牛 犬 玄 玉 瓜 瓦 甘 生 用 田 疋 疒 癶 白 皮 皿 目 矛 矢 石 示 禸 禾 穴 立 竹 米 糸 缶 网 羊 羽 老 而"),
  (0x2f7e, "耒 耳 聿 肉 臣 自 至 臼 舌 舛 舟 艮 色 艸 虍 虫 血 行 衣 襾 見 角 言 谷 豆 豕 豸 貝 赤 走 足 身 車 辛 辰 辵 邑 酉 釆 里 金 長"),
  (0x2fa8, "門 阜 隶 隹 雨 靑 非 面 革 韋 韭 音 頁 風 飛 食 首 香 馬 骨 高 髟 鬥 鬯 鬲 鬼 魚 鳥 鹵 鹿 麥 麻 黃 黍 黑 黹 黽 鼎 鼓 鼠 鼻 齊"),
  (0x2fd2, "齒 龍 龜 龠"),
  (0x3002, "."),
  (0x3036, "〒"),
  (0x3038, "十 卄 卅"),
  (0x309f, "より"),
  (0x30ff, "コト"),
  (0x3131, "ᄀ ᄁ ᆪ ᄂ ᆬ ᆭ ᄃ ᄄ ᄅ"),
  (0x3140, "ᄚ ᄆ ᄇ ᄈ ᄡ"),
  (0x3165, "ᄔ ᄕ ᇇ ᇈ ᇌ ᇎ ᇓ ᇗ ᇙ ᄜ ᇝ ᇟ ᄝ ᄞ ᄠ ᄢ ᄣ ᄧ ᄩ"),
  (0x317d, "ᄲ ᄶ ᅀ ᅇ ᅌ ᇱ ᇲ ᅗ ᅘ ᅙ ᆄ ᆅ ᆈ ᆑ ᆒ ᆔ ᆞ ᆡ"),
  (0x3192, "一 二 三 四 上 中 下 甲 乙 丙 丁 天 地 人"),
  (0x3200, "(ᄀ) (ᄂ) (ᄃ) (ᄅ) (ᄆ) (ᄇ) (ᄉ) (ᄋ) (ᄌ) (ᄎ) (ᄏ) (ᄐ) (ᄑ) (ᄒ) (가) (나) (다) (라) (마) (바) (사)"),
  (0x3215, "(아) (자) (차) (카) (타) (파) (하) (주) (오전) (오후)"),
  (0x3220, "(一) (二) (三) (四) (五) (六) (七) (八) (九) (十) (月) (火) (水) (木) (金) (土) (日) (株) (有) (社) (名)"),
  (0x3235, "(特) (財) (祝) (労) (代) (呼) (学) (監) (企) (資) (協) (祭) (休) (自) (至) 問 幼 文 箏"),
  (0x3250, "pte 21 22 23 24 25 26 27 28 29 30 31 32 33 34 35 ᄀ ᄂ ᄃ ᄅ ᄆ ᄇ ᄉ ᄋ ᄌ"),
  (0x326e, "가 나 다 라 마 바 사 아 자 차 카 타 파 하 참고 주의 우"),
  (0x3280, "一 二 三 四 五 六 七 八 九 十 月 火 水 木 金 土 日 株 有 社 名 特 財 祝 労 秘 男 女 適 優 印 注 項 休 写 正 上 中 下 左 右 医"),
  (0x32aa, "宗 学 監 企 資 協 夜 36 37 38 39 40 41 42 43 44 45 46 47 48 49 50 1月 2月 3月 4月 5月 6月 7月 8月"),
  (0x32c8, "9月 10月 11月 12月 hg erg ev ltd ア イ ウ エ オ カ キ ク ケ コ サ シ ス セ ソ タ チ ツ テ ト"),
  (0x32ea, "ヒ フ ヘ ホ"),
  (0x32f3, "ヤ ユ"),
  (0x32ff, "令和 アパ\u30fcト アルファ アンペア ア\u30fcル イニング インチ ウォン エスク\u30fcド エ\u30fcカ\u30fc オンス オ\u30fcム"),
  (0x330b, "カイリ カラット カロリ\u30fc ガロン ガンマ ギガ ギニ\u30fc キュリ\u30fc ギルダ\u30fc キロ キログラム キロメ\u30fcトル"),
  (0x3317, "キロワット グラム グラムトン クルゼイロ クロ\u30fcネ ケ\u30fcス コルナ コ\u30fcポ サイクル サンチ\u30fcム シリング センチ セント"),
  (0x3324, "ダ\u30fcス デシ ドル トン ナノ ノット ハイツ パ\u30fcセント パ\u30fcツ バ\u30fcレル ピアストル ピクル ピコ ビル ファラッド"),
  (0x3333, "フィ\u30fcト ブッシェル フラン ヘクタ\u30fcル ペソ ペニヒ ヘルツ ペンス ペ\u30fcジ ベ\u30fcタ ポイント ボルト ホン ポンド"),
  (0x3341, "ホ\u30fcル ホ\u30fcン マイクロ マイル マッハ マルク マンション ミクロン ミリ ミリバ\u30fcル メガ メガトン メ\u30fcトル"),
  (0x334e, "ヤ\u30fcド ヤ\u30fcル ユアン リットル リラ ルピ\u30fc ル\u30fcブル レム レントゲン ワット 0点 1点 2点 3点 4点 5点 6点"),
  (0x335f, "7点 8点 9点 10点 11点 12点 13点 14点 15点 16点 17点 18点 19点 20点 21点 22点 23点 24点 hpa da au bar"),
  (0x3375, "ov pc dm dm2 dm3 iu 平成 昭和 大正 明治 株式会社 pa na μa ma ka kb mb gb cal kcal pf nf μf μg"),
  (0x338e, "mg kg hz khz mhz ghz thz μl ml dl kl fm nm μm mm cm km mm2 cm2 m2 km2 mm3 cm3 m3"),
  (0x33a6, "km3 m∕s m∕s2 pa kpa mpa gpa rad rad∕s rad∕s2 ps ns μs ms pv nv μv mv kv mv pw nw μw"),
  (0x33bd, "mw kw mw kω mω"),
  (0x33c3, "bq cc cd c∕kg"),
  (0x33c8, "db gy ha hp in kk km kt lm ln log lx mb mil mol ph"),
  (0x33d9, "ppm pr sr sv wb v∕m a∕m 1日 2日 3日 4日 5日 6日 7日 8日 9日 10日 11日 12日 13日 14日 15日 16日 17日"),
  (0x33f1, "18日 19日 20日 21日 22日 23日 24日 25日 26日 27日 28日 29日 30日 31日 gal"),
  (0xa69c, "ъ ь"),
  (0xa770, "ꝯ"),
  (0xa77d, "ᵹ"),
  (0xa78b, "ꞌ"),
  (0xa78d, "ɥ"),
  (0xa7aa, "ɦ ɜ ɡ ɬ ɪ"),
  (0xa7b0, "ʞ ʇ ʝ ꭓ"),
  (0xa7c4, "ꞔ ʂ ᶎ"),
  (0xa7cb, "ɤ"),
  (0xa7dc, "ƛ"),
  (0xa7f1, "s c f q ꟶ"),
  (0xa7f8, "ħ œ"),
  (0xab5c, "ꜧ ꬷ ɫ ꭒ"),
  (0xab69, "ʍ"),
  (0xfb00, "ff fi fl ffi ffl st st"),
  (0xfb13, "մն մե մի վն մխ"),
  (0xfb20, "\u05e2 \u05d0 \u05d3 \u05d4 \u05db \u05dc \u05dd \u05e8 \u05ea +"),
  (0xfb4f, "\u05d0\u05dc \u0671 \u0671 \u067b \u067b \u067b \u067b \u067e \u067e \u067e \u067e"),
  (0xfb5a, "\u0680 \u0680 \u0680 \u0680 \u067a \u067a \u067a \u067a \u067f \u067f \u067f \u067f"),
  (0xfb66, "\u0679 \u0679 \u0679 \u0679 \u06a4 \u06a4 \u06a4 \u06a4 \u06a6 \u06a6 \u06a6 \u06a6"),
  (0xfb72, "\u0684 \u0684 \u0684 \u0684 \u0683 \u0683 \u0683 \u0683 \u0686 \u0686 \u0686 \u0686"),
  (0xfb7e, "\u0687 \u0687 \u0687 \u0687 \u068d \u068d \u068c \u068c \u068e \u068e \u0688 \u0688"),
  (0xfb8a, "\u0698 \u0698 \u0691 \u0691 \u06a9 \u06a9 \u06a9 \u06a9 \u06af \u06af \u06af \u06af"),
  (0xfb96, "\u06b3 \u06b3 \u06b3 \u06b3 \u06b1 \u06b1 \u06b1 \u06b1 \u06ba \u06ba \u06bb \u06bb"),
  (0xfba2, "\u06bb \u06bb \u06c0 \u06c0 \u06c1 \u06c1 \u06c1 \u06c1 \u06be \u06be \u06be \u06be"),
  (0xfbae, "\u06d2 \u06d2 \u06d3 \u06d3"),
  (0xfbd3, "\u06ad \u06ad \u06ad \u06ad \u06c7 \u06c7 \u06c6 \u06c6 \u06c8 \u06c8 \u06c7\u0674"),
  (0xfbde, "\u06cb \u06cb \u06c5 \u06c5 \u06c9 \u06c9 \u06d0 \u06d0 \u06d0 \u06d0 \u0649 \u0649"),
  (0xfbea, "\u0626\u0627 \u0626\u0627 \u0626\u06d5 \u0626\u06d5 \u0626\u0648 \u0626\u0648"),
  (0xfbf0, "\u0626\u06c7 \u0626\u06c7 \u0626\u06c6 \u0626\u06c6 \u0626\u06c8 \u0626\u06c8"),
  (0xfbf6, "\u0626\u06d0 \u0626\u06d0 \u0626\u06d0 \u0626\u0649 \u0626\u0649 \u0626\u0649"),
  (0xfbfc, "\u06cc \u06cc \u06cc \u06cc \u0626\u062c \u0626\u062d \u0626\u0645 \u0626\u0649"),
  (0xfc04, "\u0626\u064a \u0628\u062c \u0628\u062d \u0628\u062e \u0628\u0645 \u0628\u0649"),
  (0xfc0a, "\u0628\u064a \u062a\u062c \u062a\u062d \u062a\u062e \u062a\u0645 \u062a\u0649"),
  (0xfc10, "\u062a\u064a \u062b\u062c \u062b\u0645 \u062b\u0649 \u062b\u064a \u062c\u062d"),
  (0xfc16, "\u062c\u0645 \u062d\u062c \u062d\u0645 \u062e\u062c \u062e\u062d \u062e\u0645"),
  (0xfc1c, "\u0633\u062c \u0633\u062d \u0633\u062e \u0633\u0645 \u0635\u062d \u0635\u0645"),
  (0xfc22, "\u0636\u062c \u0636\u062d \u0636\u062e \u0636\u0645 \u0637\u062d \u0637\u0645"),
  (0xfc28, "\u0638\u0645 \u0639\u062c \u0639\u0645 \u063a\u062c \u063a\u0645 \u0641\u062c"),
  (0xfc2e, "\u0641\u062d \u0641\u062e \u0641\u0645 \u0641\u0649 \u0641\u064a \u0642\u062d"),
  (0xfc34, "\u0642\u0645 \u0642\u0649 \u0642\u064a \u0643\u0627 \u0643\u062c \u0643\u062d"),
  (0xfc3a, "\u0643\u062e \u0643\u0644 \u0643\u0645 \u0643\u0649 \u0643\u064a \u0644\u062c"),
  (0xfc40, "\u0644\u062d \u0644\u062e \u0644\u0645 \u0644\u0649 \u0644\u064a \u0645\u062c"),
  (0xfc46, "\u0645\u062d \u0645\u062e \u0645\u0645 \u0645\u0649 \u0645\u064a \u0646\u062c"),
  (0xfc4c, "\u0646\u062d \u0646\u062e \u0646\u0645 \u0646\u0649 \u0646\u064a \u0647\u062c"),
  (0xfc52, "\u0647\u0645 \u0647\u0649 \u0647\u064a \u064a\u062c \u064a\u062d \u064a\u062e"),
  (0xfc58, "\u064a\u0645 \u064a\u0649 \u064a\u064a \u0630\u0670 \u0631\u0670 \u0649\u0670"),
  (0xfc64, "\u0626\u0631 \u0626\u0632 \u0626\u0645 \u0626\u0646 \u0626\u0649 \u0626\u064a"),
  (0xfc6a, "\u0628\u0631 \u0628\u0632 \u0628\u0645 \u0628\u0646 \u0628\u0649 \u0628\u064a"),
  (0xfc70, "\u062a\u0631 \u062a\u0632 \u062a\u0645 \u062a\u0646 \u062a\u0649 \u062a\u064a"),
  (0xfc76, "\u062b\u0631 \u062b\u0632 \u062b\u0645 \u062b\u0646 \u062b\u0649 \u062b\u064a"),
  (0xfc7c, "\u0641\u0649 \u0641\u064a \u0642\u0649 \u0642\u064a \u0643\u0627 \u0643\u0644"),
  (0xfc82, "\u0643\u0645 \u0643\u0649 \u0643\u064a \u0644\u0645 \u0644\u0649 \u0644\u064a"),
  (0xfc88, "\u0645\u0627 \u0645\u0645 \u0646\u0631 \u0646\u0632 \u0646\u0645 \u0646\u0646"),
  (0xfc8e, "\u0646\u0649 \u0646\u064a \u0649\u0670 \u064a\u0631 \u064a\u0632 \u064a\u0645"),
  (0xfc94, "\u064a\u0646 \u064a\u0649 \u064a\u064a \u0626\u062c \u0626\u062d \u0626\u062e"),
  (0xfc9a, "\u0626\u0645 \u0626\u0647 \u0628\u062c \u0628\u062d \u0628\u062e \u0628\u0645"),
  (0xfca0, "\u0628\u0647 \u062a\u062c \u062a\u062d \u062a\u062e \u062a\u0645 \u062a\u0647"),
  (0xfca6, "\u062b\u0645 \u062c\u062d \u062c\u0645 \u062d\u062c \u062d\u0645 \u062e\u062c"),
  (0xfcac, "\u062e\u0645 \u0633\u062c \u0633\u062d \u0633\u062e \u0633\u0645 \u0635\u062d"),
  (0xfcb2, "\u0635\u062e \u0635\u0645 \u0636\u062c \u0636\u062d \u0636\u062e \u0636\u0645"),
  (0xfcb8, "\u0637\u062d \u0638\u0645 \u0639\u062c \u0639\u0645 \u063a\u062c \u063a\u0645"),
  (0xfcbe, "\u0641\u062c \u0641\u062d \u0641\u062e \u0641\u0645 \u0642\u062d \u0642\u0645"),
  (0xfcc4, "\u0643\u062c \u0643\u062d \u0643\u062e \u0643\u0644 \u0643\u0645 \u0644\u062c"),
  (0xfcca, "\u0644\u062d \u0644\u062e \u0644\u0645 \u0644\u0647 \u0645\u062c \u0645\u062d"),
  (0xfcd0, "\u0645\u062e \u0645\u0645 \u0646\u062c \u0646\u062d \u0646\u062e \u0646\u0645"),
  (0xfcd6, "\u0646\u0647 \u0647\u062c \u0647\u0645 \u0647\u0670 \u064a\u062c \u064a\u062d"),
  (0xfcdc, "\u064a\u062e \u064a\u0645 \u064a\u0647 \u0626\u0645 \u0626\u0647 \u0628\u0645"),
  (0xfce2, "\u0628\u0647 \u062a\u0645 \u062a\u0647 \u062b\u0645 \u062b\u0647 \u0633\u0645"),
  (0xfce8, "\u0633\u0647 \u0634\u0645 \u0634\u0647 \u0643\u0644 \u0643\u0645 \u0644\u0645"),
  (0xfcee, "\u0646\u0645 \u0646\u0647 \u064a\u0645 \u064a\u0647 \u0640\u064e\u0651"),
  (0xfcf3, "\u0640\u064f\u0651 \u0640\u0650\u0651 \u0637\u0649 \u0637\u064a \u0639\u0649"),
  (0xfcf8, "\u0639\u064a \u063a\u0649 \u063a\u064a \u0633\u0649 \u0633\u064a \u0634\u0649"),
  (0xfcfe, "\u0634\u064a \u062d\u0649 \u062d\u064a \u062c\u0649 \u062c\u064a \u062e\u0649"),
  (0xfd04, "\u062e\u064a \u0635\u0649 \u0635\u064a \u0636\u0649 \u0636\u064a \u0634\u062c"),
  (0xfd0a, "\u0634\u062d \u0634\u062e \u0634\u0645 \u0634\u0631 \u0633\u0631 \u0635\u0631"),
  (0xfd10, "\u0636\u0631 \u0637\u0649 \u0637\u064a \u0639\u0649 \u0639\u064a \u063a\u0649"),
  (0xfd16, "\u063a\u064a \u0633\u0649 \u0633\u064a \u0634\u0649 \u0634\u064a \u062d\u0649"),
  (0xfd1c, "\u062d\u064a \u062c\u0649 \u062c\u064a \u062e\u0649 \u062e\u064a \u0635\u0649"),
  (0xfd22, "\u0635\u064a \u0636\u0649 \u0636\u064a \u0634\u062c \u0634\u062d \u0634\u062e"),
  (0xfd28, "\u0634\u0645 \u0634\u0631 \u0633\u0631 \u0635\u0631 \u0636\u0631 \u0634\u062c"),
  (0xfd2e, "\u0634\u062d \u0634\u062e \u0634\u0645 \u0633\u0647 \u0634\u0647 \u0637\u0645"),
  (0xfd34, "\u0633\u062c \u0633\u062d \u0633\u062e \u0634\u062c \u0634\u062d \u0634\u062e"),
  (0xfd3a, "\u0637\u0645 \u0638\u0645 \u0627\u064b \u0627\u064b"),
  (0xfd50, "\u062a\u062c\u0645 \u062a\u062d\u062c \u062a\u062d\u062c \u062a\u062d\u0645"),
  (0xfd54, "\u062a\u062e\u0645 \u062a\u0645\u062c \u062a\u0645\u062d \u062a\u0645\u062e"),
  (0xfd58, "\u062c\u0645\u062d \u062c\u0645\u062d \u062d\u0645\u064a \u062d\u0645\u0649"),
  (0xfd5c, "\u0633\u062d\u062c \u0633\u062c\u062d \u0633\u062c\u0649 \u0633\u0645\u062d"),
  (0xfd60, "\u0633\u0645\u062d \u0633\u0645\u062c \u0633\u0645\u0645 \u0633\u0645\u0645"),
  (0xfd64, "\u0635\u062d\u062d \u0635\u062d\u062d \u0635\u0645\u0645 \u0634\u062d\u0645"),
  (0xfd68, "\u0634\u062d\u0645 \u0634\u062c\u064a \u0634\u0645\u062e \u0634\u0645\u062e"),
  (0xfd6c, "\u0634\u0645\u0645 \u0634\u0645\u0645 \u0636\u062d\u0649 \u0636\u062e\u0645"),
  (0xfd70, "\u0636\u062e\u0645 \u0637\u0645\u062d \u0637\u0645\u062d \u0637\u0645\u0645"),
  (0xfd74, "\u0637\u0645\u064a \u0639\u062c\u0645 \u0639\u0645\u0645 \u0639\u0645\u0645"),
  (0xfd78, "\u0639\u0645\u0649 \u063a\u0645\u0645 \u063a\u0645\u064a \u063a\u0645\u0649"),
  (0xfd7c, "\u0641\u062e\u0645 \u0641\u062e\u0645 \u0642\u0645\u062d \u0642\u0645\u0645"),
  (0xfd80, "\u0644\u062d\u0645 \u0644\u062d\u064a \u0644\u062d\u0649 \u0644\u062c\u062c"),
  (0xfd84, "\u0644\u062c\u062c \u0644\u062e\u0645 \u0644\u062e\u0645 \u0644\u0645\u062d"),
  (0xfd88, "\u0644\u0645\u062d \u0645\u062d\u062c \u0645\u062d\u0645 \u0645\u062d\u064a"),
  (0xfd8c, "\u0645\u062c\u062d \u0645\u062c\u0645 \u0645\u062e\u062c \u0645\u062e\u0645"),
  (0xfd92, "\u0645\u062c\u062e \u0647\u0645\u062c \u0647\u0645\u0645 \u0646\u062d\u0645"),
  (0xfd96, "\u0646\u062d\u0649 \u0646\u062c\u0645 \u0646\u062c\u0645 \u0646\u062c\u0649"),
  (0xfd9a, "\u0646\u0645\u064a \u0646\u0645\u0649 \u064a\u0645\u0645 \u064a\u0645\u0645"),
  (0xfd9e, "\u0628\u062e\u064a \u062a\u062c\u064a \u062a\u062c\u0649 \u062a\u062e\u064a"),
  (0xfda2, "\u062a\u062e\u0649 \u062a\u0645\u064a \u062a\u0645\u0649 \u062c\u0645\u064a"),
  (0xfda6, "\u062c\u062d\u0649 \u062c\u0645\u0649 \u0633\u062e\u0649 \u0635\u062d\u064a"),
  (0xfdaa, "\u0634\u062d\u064a \u0636\u062d\u064a \u0644\u062c\u064a \u0644\u0645\u064a"),
  (0xfdae, "\u064a\u062d\u064a \u064a\u062c\u064a \u064a\u0645\u064a \u0645\u0645\u064a"),
  (0xfdb2, "\u0642\u0645\u064a \u0646\u062d\u064a \u0642\u0645\u062d \u0644\u062d\u0645"),
  (0xfdb6, "\u0639\u0645\u064a \u0643\u0645\u064a \u0646\u062c\u062d \u0645\u062e\u064a"),
  (0xfdba, "\u0644\u062c\u0645 \u0643\u0645\u0645 \u0644\u062c\u0645 \u0646\u062c\u062d"),
  (0xfdbe, "\u062c\u062d\u064a \u062d\u062c\u064a \u0645\u062c\u064a \u0641\u0645\u064a"),
  (0xfdc2, "\u0628\u062d\u064a \u0643\u0645\u0645 \u0639\u062c\u0645 \u0635\u0645\u0645"),
  (0xfdc6, "\u0633\u062e\u064a \u0646\u062c\u064a"),
  (0xfdf0, "\u0635\u0644\u06d2 \u0642\u0644\u06d2 \u0627\u0644\u0644\u0647"),
  (0xfdf3, "\u0627\u0643\u0628\u0631 \u0645\u062d\u0645\u062f \u0635\u0644\u0639\u0645"),
  (0xfdf6, "\u0631\u0633\u0648\u0644 \u0639\u0644\u064a\u0647 \u0648\u0633\u0644\u0645"),
  (0xfdf9, "\u0635\u0644\u0649"),
  (0xfdfc, "\u0631\u06cc\u0627\u0644"),
  (0xfe10, ", 、"),
  (0xfe13, ": ; ! ? 〖 〗"),
  (0xfe31, "— – _ _ ( ) \x7b \x7d 〔 〕 【 】 《 》 〈 〉"),
  (0xfe47, "[ ]"),
  (0xfe4d, "_ _ _ , 、"),
  (0xfe54, "; : ? ! — ( ) \x7b \x7d 〔 〕 # & * + - < > ="),
  (0xfe68, "\\ $ % @"),
  (0xfe71, "\u0640\u064b"),
  (0xfe77, "\u0640\u064e"),
  (0xfe79, "\u0640\u064f"),
  (0xfe7b, "\u0640\u0650"),
  (0xfe7d, "\u0640\u0651"),
  (0xfe7f, "\u0640\u0652 \u0621 \u0622 \u0622 \u0623 \u0623 \u0624 \u0624 \u0625 \u0625 \u0626"),
  (0xfe8a, "\u0626 \u0626 \u0626 \u0627 \u0627 \u0628 \u0628 \u0628 \u0628 \u0629 \u0629 \u062a"),
  (0xfe96, "\u062a \u062a \u062a \u062b \u062b \u062b \u062b \u062c \u062c \u062c \u062c \u062d"),
  (0xfea2, "\u062d \u062d \u062d \u062e \u062e \u062e \u062e \u062f \u062f \u0630 \u0630 \u0631"),
  (0xfeae, "\u0631 \u0632 \u0632 \u0633 \u0633 \u0633 \u0633 \u0634 \u0634 \u0634 \u0634 \u0635"),
  (0xfeba, "\u0635 \u0635 \u0635 \u0636 \u0636 \u0636 \u0636 \u0637 \u0637 \u0637 \u0637 \u0638"),
  (0xfec6, "\u0638 \u0638 \u0638 \u0639 \u0639 \u0639 \u0639 \u063a \u063a \u063a \u063a \u0641"),
  (0xfed2, "\u0641 \u0641 \u0641 \u0642 \u0642 \u0642 \u0642 \u0643 \u0643 \u0643 \u0643 \u0644"),
  (0xfede, "\u0644 \u0644 \u0644 \u0645 \u0645 \u0645 \u0645 \u0646 \u0646 \u0646 \u0646 \u0647"),
  (0xfeea, "\u0647 \u0647 \u0647 \u0648 \u0648 \u0649 \u0649 \u064a \u064a \u064a \u064a"),
  (0xfef5, "\u0644\u0622 \u0644\u0622 \u0644\u0623 \u0644\u0623 \u0644\u0625 \u0644\u0625"),
  (0xfefb, "\u0644\u0627 \u0644\u0627"),
  (0xff5f, "⦅ ⦆ . 「 」 、 ・ ヲ ァ ィ ゥ ェ ォ ャ ュ ョ ッ \u30fc ア イ ウ エ オ カ キ ク ケ コ サ シ ス セ ソ タ チ ツ テ ト"),
  (0xff8b, "ヒ フ ヘ ホ"),
  (0xff94, "ヤ ユ"),
  (0xff9c, "ワ ン \u3099 \u309a"),
  (0xffa1, "ᄀ ᄁ ᆪ ᄂ ᆬ ᆭ ᄃ ᄄ ᄅ"),
  (0xffb0, "ᄚ ᄆ ᄇ ᄈ ᄡ"),
  (0xffda, "ᅳ ᅴ ᅵ"),
  (0xffe0, "\u00a2 \u00a3 ¬"),
  (0xffe4, "¦ \u00a5 \u20a9"),
  (0xffe8, "│"),
  (0xffed, "■ ○"),
  (0x10594, "𐖻 𐖼"),
  (0x10781, "\u02d0 \u02d1 æ ʙ ɓ"),
  (0x10787, "ʣ ꭦ ʥ ʤ ɖ ɗ ᶑ ɘ ɞ ʩ ɤ ɢ ɠ ʛ ħ ʜ ɧ ʄ ʪ ʫ ɬ 𝼄 ꞎ ɮ 𝼅 ʎ 𝼆 ø ɶ ɷ q ɺ 𝼈 ɽ ɾ ʀ ʨ ʦ ꭧ ʧ ʈ ⱱ"),
  (0x107b2, "ʏ ʡ ʢ ʘ ǀ ǁ ǂ 𝼊 𝼞"),
  (0x1d49c, "a"),
  (0x1d49e, "c d"),
  (0x1d4a2, "g"),
  (0x1d4a5, "j k"),
  (0x1d4bb, "f"),
  (0x1d504, "a b"),
  (0x1d538, "a b"),
  (0x1d546, "o"),
  (0x1d6a4, "ı ȷ"),
  (0x1d6b9, "θ"),
  (0x1d6c1, "∇"),
  (0x1d6d3, "σ"),
  (0x1d6db, "∂ ε θ κ φ ρ π"),
  (0x1d6f3, "θ"),
  (0x1d6fb, "∇"),
  (0x1d70d, "σ"),
  (0x1d715, "∂ ε θ κ φ ρ π"),
  (0x1d72d, "θ"),
  (0x1d735, "∇"),
  (0x1d747, "σ"),
  (0x1d74f, "∂ ε θ κ φ ρ π"),
  (0x1d767, "θ"),
  (0x1d76f, "∇"),
  (0x1d781, "σ"),
  (0x1d789, "∂ ε θ κ φ ρ π"),
  (0x1d7a1, "θ"),
  (0x1d7a9, "∇"),
  (0x1d7bb, "σ"),
  (0x1d7c3, "∂ ε θ κ φ ρ π ϝ ϝ"),
  (0x1e039, "к л м"),
  (0x1e047, "ы э ю ꚉ ә і ј ө ү ӏ"),
  (0x1e05a, "к л о п с"),
  (0x1e065, "ъ ы ґ і ѕ џ ҫ ꙑ ұ"),
  (0x1ee00, "\u0627 \u0628 \u062c \u062f"),
  (0x1ee05, "\u0648 \u0632 \u062d \u0637 \u064a"),
  (0x1ee0e, "\u0633 \u0639 \u0641 \u0635 \u0642 \u0631 \u0634 \u062a \u062b \u062e \u0630 \u0636"),
  (0x1ee1a, "\u0638 \u063a \u066e \u06ba \u06a1 \u066f"),
  (0x1ee21, "\u0628 \u062c"),
  (0x1ee24, "\u0647"),
  (0x1ee27, "\u062d"),
  (0x1ee29, "\u064a"),
  (0x1ee2e, "\u0633 \u0639 \u0641 \u0635 \u0642"),
  (0x1ee34, "\u0634 \u062a \u062b \u062e"),
  (0x1ee39, "\u0636"),
  (0x1ee3b, "\u063a"),
  (0x1ee42, "\u062c"),
  (0x1ee47, "\u062d"),
  (0x1ee49, "\u064a"),
  (0x1ee4b, "\u0644"),
  (0x1ee4d, "\u0646 \u0633 \u0639"),
  (0x1ee51, "\u0635 \u0642"),
  (0x1ee54, "\u0634"),
  (0x1ee57, "\u062e"),
  (0x1ee59, "\u0636"),
  (0x1ee5b, "\u063a"),
  (0x1ee5d, "\u06ba"),
  (0x1ee5f, "\u066f"),
  (0x1ee61, "\u0628 \u062c"),
  (0x1ee64, "\u0647"),
  (0x1ee67, "\u062d \u0637 \u064a \u0643"),
  (0x1ee6c, "\u0645 \u0646 \u0633 \u0639 \u0641 \u0635 \u0642"),
  (0x1ee74, "\u0634 \u062a \u062b \u062e"),
  (0x1ee79, "\u0636 \u0638 \u063a \u066e"),
  (0x1ee7e, "\u06a1"),
  (0x1ee80, "\u0627 \u0628 \u062c \u062f \u0647 \u0648 \u0632 \u062d \u0637 \u064a"),
  (0x1ee8b, "\u0644 \u0645 \u0646 \u0633 \u0639 \u0641 \u0635 \u0642 \u0631 \u0634 \u062a \u062b"),
  (0x1ee97, "\u062e \u0630 \u0636 \u0638 \u063a"),
  (0x1eea1, "\u0628 \u062c \u062f"),
  (0x1eea5, "\u0648 \u0632 \u062d \u0637 \u064a"),
  (0x1eeab, "\u0644 \u0645 \u0646 \u0633 \u0639 \u0641 \u0635 \u0642 \u0631 \u0634 \u062a \u062b"),
  (0x1eeb7, "\u062e \u0630 \u0636 \u0638 \u063a"),
  (0x1f101, "0, 1, 2, 3, 4, 5, 6, 7, 8, 9,"),
  (0x1f110, "(a) (b) (c) (d) (e) (f) (g) (h) (i) (j) (k) (l) (m) (n) (o) (p) (q) (r) (s) (t) (u)"),
  (0x1f125, "(v) (w) (x) (y) (z) 〔s〕 c r cd wz"),
  (0x1f14a, "hv mv sd ss ppv wc"),
  (0x1f16a, "mc md mr"),
  (0x1f190, "dj"),
  (0x1f200, "ほか ココ サ"),
  (0x1f210, "手 字 双 デ 二 多 解 天 交 映 無 料 前 後 再 新 初 終 生 販 声 吹 演 投 捕 一 三 遊 左 中 右 指 走 打 禁 空 合 満 有 月 申 割"),
  (0x1f23a, "営 配"),
  (0x1f240, "〔本〕 〔三〕 〔二〕 〔安〕 〔点〕 〔打〕 〔盗〕 〔勝〕 〔敗〕"),
  (0x1f250, "得 可")]

def foldedTable : Rows := .ofStrings foldedRows

/-- The character that a large letter or a character of a run folds to. -/
def alternative? (n : Nat) : Option Char :=
  match largeRanges.find? fun (first, last) => first ≤ n && n ≤ last + 1 with
  -- the ranges end with a large letter, so that the last small one is a step further
  | some (first, _) => if (n - first) % 2 = 0 then some (Char.ofNat (n + 1)) else none
  | none =>
    (foldedRuns.find? fun (first, last, _) => first ≤ n && n ≤ last).map fun (first, _, image) =>
      Char.ofNat (image + (n - first))

/-- What a character folds to; `none` for one that no name may hold. -/
def fold? (c : Char) : Option Text :=
  if c.toNat < 128 then some [c.toLower]
  else if inRanges refusedRanges c.toNat then none
  else if inRanges ignoredRanges c.toNat then some []
  else some ((((alternative? c.toNat).map fun d => [d]).or (foldedTable.word? c.toNat)).getD [c])

/-- May a folded name hold the character? -/
def isSettled (c : Char) : Bool := fold? c = some [c]

end RouteTemplate.DomainName
