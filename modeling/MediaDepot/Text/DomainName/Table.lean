import MediaDepot.Text.CodeSet

/-!
# Characters of domain names

The data behind `Text.DomainName`: the characters that a prepared label may hold, and the directions
in which they are written.
-/

namespace MediaDepot.Text.DomainName

/-- The characters that preparing leaves as they are and that are not prohibited. -/
def settled : CodeSet :=
  ⟨[
    0, 65, 91, 128, 161, 168, 169, 170, 171, 173, 174, 175, 176, 178, 182, 184, 187, 188, 191, 192,
    215, 216, 224, 256, 257, 258, 259, 260, 261, 262, 263, 264, 265, 266, 267, 268, 269, 270, 271,
    272, 273, 274, 275, 276, 277, 278, 279, 280, 281, 282, 283, 284, 285, 286, 287, 288, 289, 290,
    291, 292, 293, 294, 295, 296, 297, 298, 299, 300, 301, 302, 303, 304, 305, 306, 309, 310, 311,
    313, 314, 315, 316, 317, 318, 319, 322, 323, 324, 325, 326, 327, 328, 329, 331, 332, 333, 334,
    335, 336, 337, 338, 339, 340, 341, 342, 343, 344, 345, 346, 347, 348, 349, 350, 351, 352, 353,
    354, 355, 356, 357, 358, 359, 360, 361, 362, 363, 364, 365, 366, 367, 368, 369, 370, 371, 372,
    373, 374, 375, 376, 378, 379, 380, 381, 382, 383, 384, 385, 387, 388, 389, 390, 392, 393, 396,
    398, 402, 403, 405, 406, 409, 412, 414, 415, 417, 418, 419, 420, 421, 422, 424, 425, 426, 428,
    429, 430, 432, 433, 436, 437, 438, 439, 441, 444, 445, 452, 462, 463, 464, 465, 466, 467, 468,
    469, 470, 471, 472, 473, 474, 475, 476, 478, 479, 480, 481, 482, 483, 484, 485, 486, 487, 488,
    489, 490, 491, 492, 493, 494, 495, 497, 501, 502, 505, 506, 507, 508, 509, 510, 511, 512, 513,
    514, 515, 516, 517, 518, 519, 520, 521, 522, 523, 524, 525, 526, 527, 528, 529, 530, 531, 532,
    533, 534, 535, 536, 537, 538, 539, 540, 541, 542, 543, 544, 545, 546, 547, 548, 549, 550, 551,
    552, 553, 554, 555, 556, 557, 558, 559, 560, 561, 562, 563, 570, 572, 573, 575, 577, 578, 579,
    583, 584, 585, 586, 587, 588, 589, 590, 591, 688, 697, 728, 734, 736, 741, 832, 834, 835, 838,
    847, 848, 880, 881, 882, 883, 884, 885, 886, 887, 890, 891, 894, 896, 900, 907, 908, 909, 910,
    912, 913, 930, 931, 940, 962, 963, 975, 983, 984, 985, 986, 987, 988, 989, 990, 991, 992, 993,
    994, 995, 996, 997, 998, 999, 1000, 1001, 1002, 1003, 1004, 1005, 1006, 1007, 1008, 1011, 1012,
    1014, 1015, 1016, 1017, 1019, 1021, 1072, 1120, 1121, 1122, 1123, 1124, 1125, 1126, 1127, 1128,
    1129, 1130, 1131, 1132, 1133, 1134, 1135, 1136, 1137, 1138, 1139, 1140, 1141, 1142, 1143, 1144,
    1145, 1146, 1147, 1148, 1149, 1150, 1151, 1152, 1153, 1162, 1163, 1164, 1165, 1166, 1167, 1168,
    1169, 1170, 1171, 1172, 1173, 1174, 1175, 1176, 1177, 1178, 1179, 1180, 1181, 1182, 1183, 1184,
    1185, 1186, 1187, 1188, 1189, 1190, 1191, 1192, 1193, 1194, 1195, 1196, 1197, 1198, 1199, 1200,
    1201, 1202, 1203, 1204, 1205, 1206, 1207, 1208, 1209, 1210, 1211, 1212, 1213, 1214, 1215, 1216,
    1218, 1219, 1220, 1221, 1222, 1223, 1224, 1225, 1226, 1227, 1228, 1229, 1230, 1232, 1233, 1234,
    1235, 1236, 1237, 1238, 1239, 1240, 1241, 1242, 1243, 1244, 1245, 1246, 1247, 1248, 1249, 1250,
    1251, 1252, 1253, 1254, 1255, 1256, 1257, 1258, 1259, 1260, 1261, 1262, 1263, 1264, 1265, 1266,
    1267, 1268, 1269, 1270, 1271, 1272, 1273, 1274, 1275, 1276, 1277, 1278, 1279, 1280, 1281, 1282,
    1283, 1284, 1285, 1286, 1287, 1288, 1289, 1290, 1291, 1292, 1293, 1294, 1295, 1296, 1297, 1298,
    1299, 1300, 1301, 1302, 1303, 1304, 1305, 1306, 1307, 1308, 1309, 1310, 1311, 1312, 1313, 1314,
    1315, 1316, 1317, 1318, 1319, 1320, 1321, 1322, 1323, 1324, 1325, 1326, 1327, 1329, 1367, 1415,
    1416, 1653, 1657, 1757, 1758, 1807, 1808, 2392, 2400, 2524, 2526, 2527, 2528, 2611, 2612, 2614,
    2615, 2649, 2652, 2654, 2655, 2908, 2910, 3635, 3636, 3763, 3764, 3804, 3806, 3852, 3853, 3907,
    3908, 3917, 3918, 3922, 3923, 3927, 3928, 3932, 3933, 3945, 3946, 3955, 3956, 3957, 3962, 3969,
    3970, 3987, 3988, 3997, 3998, 4002, 4003, 4007, 4008, 4012, 4013, 4025, 4026, 4256, 4294, 4295,
    4296, 4301, 4302, 5024, 5110, 5760, 5761, 6150, 6151, 6155, 6159, 7312, 7355, 7357, 7360, 7680,
    7681, 7682, 7683, 7684, 7685, 7686, 7687, 7688, 7689, 7690, 7691, 7692, 7693, 7694, 7695, 7696,
    7697, 7698, 7699, 7700, 7701, 7702, 7703, 7704, 7705, 7706, 7707, 7708, 7709, 7710, 7711, 7712,
    7713, 7714, 7715, 7716, 7717, 7718, 7719, 7720, 7721, 7722, 7723, 7724, 7725, 7726, 7727, 7728,
    7729, 7730, 7731, 7732, 7733, 7734, 7735, 7736, 7737, 7738, 7739, 7740, 7741, 7742, 7743, 7744,
    7745, 7746, 7747, 7748, 7749, 7750, 7751, 7752, 7753, 7754, 7755, 7756, 7757, 7758, 7759, 7760,
    7761, 7762, 7763, 7764, 7765, 7766, 7767, 7768, 7769, 7770, 7771, 7772, 7773, 7774, 7775, 7776,
    7777, 7778, 7779, 7780, 7781, 7782, 7783, 7784, 7785, 7786, 7787, 7788, 7789, 7790, 7791, 7792,
    7793, 7794, 7795, 7796, 7797, 7798, 7799, 7800, 7801, 7802, 7803, 7804, 7805, 7806, 7807, 7808,
    7809, 7810, 7811, 7812, 7813, 7814, 7815, 7816, 7817, 7818, 7819, 7820, 7821, 7822, 7823, 7824,
    7825, 7826, 7827, 7828, 7829, 7834, 7836, 7838, 7839, 7840, 7841, 7842, 7843, 7844, 7845, 7846,
    7847, 7848, 7849, 7850, 7851, 7852, 7853, 7854, 7855, 7856, 7857, 7858, 7859, 7860, 7861, 7862,
    7863, 7864, 7865, 7866, 7867, 7868, 7869, 7870, 7871, 7872, 7873, 7874, 7875, 7876, 7877, 7878,
    7879, 7880, 7881, 7882, 7883, 7884, 7885, 7886, 7887, 7888, 7889, 7890, 7891, 7892, 7893, 7894,
    7895, 7896, 7897, 7898, 7899, 7900, 7901, 7902, 7903, 7904, 7905, 7906, 7907, 7908, 7909, 7910,
    7911, 7912, 7913, 7914, 7915, 7916, 7917, 7918, 7919, 7920, 7921, 7922, 7923, 7924, 7925, 7926,
    7927, 7928, 7929, 7930, 7931, 7932, 7933, 7934, 7935, 7944, 7952, 7960, 7966, 7976, 7984, 7992,
    8000, 8008, 8014, 8025, 8026, 8027, 8028, 8029, 8030, 8031, 8032, 8040, 8048, 8049, 8050, 8051,
    8052, 8053, 8054, 8055, 8056, 8057, 8058, 8059, 8060, 8061, 8062, 8064, 8112, 8114, 8117, 8119,
    8133, 8135, 8144, 8147, 8148, 8152, 8156, 8157, 8160, 8163, 8164, 8168, 8176, 8178, 8181, 8183,
    8191, 8192, 8208, 8209, 8210, 8215, 8216, 8228, 8231, 8232, 8240, 8243, 8245, 8246, 8248, 8252,
    8253, 8254, 8255, 8263, 8266, 8279, 8280, 8287, 8292, 8298, 8306, 8308, 8335, 8360, 8361, 8448,
    8452, 8453, 8456, 8457, 8468, 8469, 8471, 8473, 8478, 8480, 8483, 8484, 8485, 8486, 8487, 8488,
    8489, 8490, 8494, 8495, 8506, 8509, 8513, 8517, 8522, 8531, 8576, 8579, 8580, 8748, 8750, 8751,
    8753, 9001, 9003, 9312, 9451, 10764, 10765, 10868, 10871, 10972, 10973, 11264, 11312, 11360,
    11361, 11362, 11365, 11367, 11368, 11369, 11370, 11371, 11372, 11373, 11377, 11378, 11379,
    11381, 11382, 11390, 11393, 11394, 11395, 11396, 11397, 11398, 11399, 11400, 11401, 11402,
    11403, 11404, 11405, 11406, 11407, 11408, 11409, 11410, 11411, 11412, 11413, 11414, 11415,
    11416, 11417, 11418, 11419, 11420, 11421, 11422, 11423, 11424, 11425, 11426, 11427, 11428,
    11429, 11430, 11431, 11432, 11433, 11434, 11435, 11436, 11437, 11438, 11439, 11440, 11441,
    11442, 11443, 11444, 11445, 11446, 11447, 11448, 11449, 11450, 11451, 11452, 11453, 11454,
    11455, 11456, 11457, 11458, 11459, 11460, 11461, 11462, 11463, 11464, 11465, 11466, 11467,
    11468, 11469, 11470, 11471, 11472, 11473, 11474, 11475, 11476, 11477, 11478, 11479, 11480,
    11481, 11482, 11483, 11484, 11485, 11486, 11487, 11488, 11489, 11490, 11491, 11499, 11500,
    11501, 11502, 11506, 11507, 11935, 11936, 12019, 12020, 12032, 12246, 12272, 12284, 12288,
    12289, 12342, 12343, 12344, 12347, 12443, 12445, 12447, 12448, 12543, 12544, 12593, 12687,
    12690, 12704, 12800, 12829, 12832, 12868, 12881, 12924, 12928, 13004, 13008, 13055, 13056,
    13175, 13179, 13278, 13280, 13311, 42560, 42561, 42562, 42563, 42564, 42565, 42566, 42567,
    42568, 42569, 42570, 42571, 42572, 42573, 42574, 42575, 42576, 42577, 42578, 42579, 42580,
    42581, 42582, 42583, 42584, 42585, 42586, 42587, 42588, 42589, 42590, 42591, 42592, 42593,
    42594, 42595, 42596, 42597, 42598, 42599, 42600, 42601, 42602, 42603, 42604, 42605, 42624,
    42625, 42626, 42627, 42628, 42629, 42630, 42631, 42632, 42633, 42634, 42635, 42636, 42637,
    42638, 42639, 42640, 42641, 42642, 42643, 42644, 42645, 42646, 42647, 42648, 42649, 42650,
    42651, 42786, 42787, 42788, 42789, 42790, 42791, 42792, 42793, 42794, 42795, 42796, 42797,
    42798, 42799, 42802, 42803, 42804, 42805, 42806, 42807, 42808, 42809, 42810, 42811, 42812,
    42813, 42814, 42815, 42816, 42817, 42818, 42819, 42820, 42821, 42822, 42823, 42824, 42825,
    42826, 42827, 42828, 42829, 42830, 42831, 42832, 42833, 42834, 42835, 42836, 42837, 42838,
    42839, 42840, 42841, 42842, 42843, 42844, 42845, 42846, 42847, 42848, 42849, 42850, 42851,
    42852, 42853, 42854, 42855, 42856, 42857, 42858, 42859, 42860, 42861, 42862, 42863, 42873,
    42874, 42875, 42876, 42877, 42879, 42880, 42881, 42882, 42883, 42884, 42885, 42886, 42887,
    42891, 42892, 42893, 42894, 42896, 42897, 42898, 42899, 42902, 42903, 42904, 42905, 42906,
    42907, 42908, 42909, 42910, 42911, 42912, 42913, 42914, 42915, 42916, 42917, 42918, 42919,
    42920, 42921, 42922, 42927, 42928, 42933, 42934, 42935, 42936, 42937, 42938, 42939, 42940,
    42941, 42942, 42943, 42944, 42945, 42946, 42947, 42948, 42952, 42953, 42954, 42960, 42961,
    42966, 42967, 42968, 42969, 42997, 42998, 57344, 64014, 64016, 64017, 64018, 64019, 64021,
    64031, 64032, 64033, 64034, 64035, 64037, 64039, 64042, 64046, 64048, 64107, 64256, 64263,
    64275, 64280, 64285, 64286, 64287, 64311, 64312, 64317, 64318, 64319, 64320, 64322, 64323,
    64325, 64326, 64434, 64467, 64830, 64848, 64912, 64914, 64968, 64976, 65021, 65024, 65040,
    65072, 65093, 65097, 65107, 65108, 65127, 65128, 65132, 65136, 65139, 65140, 65141, 65142,
    65277, 65279, 65280, 65281, 65471, 65474, 65480, 65482, 65488, 65490, 65496, 65498, 65501,
    65504, 65511, 65512, 65519, 65529, 65536, 66560, 66600, 66736, 66772, 66928, 66939, 66940,
    66955, 66956, 66963, 66964, 66966, 68736, 68787, 71840, 71872, 93760, 93792, 119134, 119141,
    119155, 119163, 119227, 119233, 119808, 119893, 119894, 119965, 119966, 119968, 119970, 119971,
    119973, 119975, 119977, 119981, 119982, 119994, 119995, 119996, 119997, 120001, 120002, 120004,
    120005, 120070, 120071, 120075, 120077, 120085, 120086, 120093, 120094, 120122, 120123, 120127,
    120128, 120133, 120134, 120135, 120138, 120145, 120146, 120484, 120488, 120778, 120782, 120832,
    125184, 125218, 131070, 131072, 194560, 195102, 196606, 196608, 262142, 262144, 327678, 327680,
    393214, 393216, 458750, 458752, 524286, 524288, 589822, 589824, 655358, 655360, 720894, 720896,
    786430, 786432, 851966, 851968, 917502, 917504, 917505, 917506, 917536, 917632, 983038]⟩

/-- Those of them that are written from left to right. -/
def rightward : CodeSet :=
  ⟨[
    97, 123, 224, 247, 248, 545, 547, 564, 592, 686, 699, 706, 720, 722, 750, 751, 912, 930, 940,
    1014, 1072, 1155, 1163, 1231, 1233, 1271, 1273, 1275, 1281, 1297, 1369, 1376, 1377, 1416, 1417,
    1418, 2307, 2308, 2309, 2362, 2365, 2369, 2377, 2381, 2384, 2385, 2400, 2402, 2404, 2417, 2434,
    2436, 2437, 2445, 2447, 2449, 2451, 2473, 2474, 2481, 2482, 2483, 2486, 2490, 2494, 2497, 2503,
    2505, 2507, 2509, 2519, 2520, 2528, 2530, 2534, 2546, 2548, 2555, 2565, 2571, 2575, 2577, 2579,
    2601, 2602, 2609, 2610, 2612, 2613, 2615, 2616, 2618, 2622, 2625, 2652, 2653, 2662, 2672, 2674,
    2677, 2691, 2692, 2693, 2700, 2701, 2702, 2703, 2706, 2707, 2729, 2730, 2737, 2738, 2740, 2741,
    2746, 2749, 2753, 2761, 2762, 2763, 2765, 2768, 2769, 2784, 2785, 2790, 2800, 2818, 2820, 2821,
    2829, 2831, 2833, 2835, 2857, 2858, 2865, 2866, 2868, 2870, 2874, 2877, 2879, 2880, 2881, 2887,
    2889, 2891, 2893, 2903, 2904, 2911, 2914, 2918, 2929, 2947, 2948, 2949, 2955, 2958, 2961, 2962,
    2966, 2969, 2971, 2972, 2973, 2974, 2976, 2979, 2981, 2984, 2987, 2990, 2998, 2999, 3002, 3006,
    3008, 3009, 3011, 3014, 3017, 3018, 3021, 3031, 3032, 3047, 3059, 3073, 3076, 3077, 3085, 3086,
    3089, 3090, 3113, 3114, 3124, 3125, 3130, 3137, 3141, 3168, 3170, 3174, 3184, 3202, 3204, 3205,
    3213, 3214, 3217, 3218, 3241, 3242, 3252, 3253, 3258, 3262, 3263, 3264, 3269, 3271, 3273, 3274,
    3276, 3285, 3287, 3294, 3295, 3296, 3298, 3302, 3312, 3330, 3332, 3333, 3341, 3342, 3345, 3346,
    3369, 3370, 3386, 3390, 3393, 3398, 3401, 3402, 3405, 3415, 3416, 3424, 3426, 3430, 3440, 3458,
    3460, 3461, 3479, 3482, 3506, 3507, 3516, 3517, 3518, 3520, 3527, 3535, 3538, 3544, 3552, 3570,
    3573, 3585, 3633, 3634, 3636, 3648, 3655, 3663, 3676, 3713, 3715, 3716, 3717, 3719, 3721, 3722,
    3723, 3725, 3726, 3732, 3736, 3737, 3744, 3745, 3748, 3749, 3750, 3751, 3752, 3754, 3756, 3757,
    3761, 3762, 3764, 3773, 3774, 3776, 3781, 3782, 3783, 3792, 3802, 3840, 3864, 3866, 3893, 3894,
    3895, 3896, 3897, 3902, 3912, 3913, 3947, 3967, 3968, 3973, 3974, 3976, 3980, 4030, 4038, 4039,
    4045, 4047, 4048, 4096, 4130, 4131, 4136, 4137, 4139, 4140, 4141, 4145, 4146, 4152, 4153, 4160,
    4184, 4304, 4345, 4347, 4348, 4352, 4442, 4447, 4515, 4520, 4602, 4608, 4615, 4616, 4679, 4680,
    4681, 4682, 4686, 4688, 4695, 4696, 4697, 4698, 4702, 4704, 4743, 4744, 4745, 4746, 4750, 4752,
    4783, 4784, 4785, 4786, 4790, 4792, 4799, 4800, 4801, 4802, 4806, 4808, 4815, 4816, 4823, 4824,
    4847, 4848, 4879, 4880, 4881, 4882, 4886, 4888, 4895, 4896, 4935, 4936, 4955, 4961, 4989, 5121,
    5751, 5761, 5787, 5792, 5873, 5888, 5901, 5902, 5906, 5920, 5938, 5941, 5943, 5952, 5970, 5984,
    5997, 5998, 6001, 6016, 6071, 6078, 6086, 6087, 6089, 6100, 6107, 6108, 6109, 6112, 6122, 6160,
    6170, 6176, 6264, 6272, 6313, 7681, 7836, 7841, 7931, 7936, 7958, 7968, 8006, 8016, 8024, 8032,
    8062, 8112, 8117, 8118, 8133, 8134, 8148, 8150, 8156, 8160, 8176, 8182, 8191, 8576, 8580, 9014,
    9083, 9109, 9110, 12293, 12296, 12321, 12330, 12337, 12343, 12347, 12349, 12353, 12439, 12445,
    12448, 12449, 12539, 12540, 12544, 12549, 12589, 12688, 12728, 12784, 12829, 12927, 13004,
    13312, 19894, 19968, 40870, 40960, 42125, 44032, 55204, 64014, 64046, 66304, 66335, 66336,
    66340, 66352, 66379, 66600, 66638, 118784, 119030, 119040, 119079, 119082, 119143, 119146,
    119163, 119171, 119173, 119180, 119210, 119214, 119262, 131072, 173783]⟩

/-- Those of them that are written from right to left. -/
def leftward : CodeSet :=
  ⟨[
    1470, 1471, 1472, 1473, 1475, 1476, 1488, 1515, 1520, 1525, 1563, 1564, 1567, 1568, 1569, 1595,
    1600, 1611, 1645, 1648, 1649, 1750, 1765, 1767, 1786, 1791, 1792, 1806, 1808, 1809, 1810, 1837,
    1920, 1958, 1969, 1970, 65139, 65141]⟩

end MediaDepot.Text.DomainName
