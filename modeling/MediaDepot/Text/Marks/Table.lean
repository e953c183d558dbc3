/-!
# Classes and places of marks

The data behind `Marks.composed`: the classes of marks, and the characters that are a base and a
mark in one. Only what may stand in a prepared label is listed.
-/

namespace MediaDepot.Text.Marks

/-- A mark, the bases it joins, and at the same places the characters that they make together. -/
structure Composition where
  mark : Char
  bases : String
  whole : String

/-- The marks that join bases. -/
def compositions : List Composition := [
  ⟨'\u0300',
    "aeinouwyâêôüăēōơưαεηιουωϊϋеиἀἁἐἑἠἡἰἱὀὁὐὑὠὡ",
    "àèìǹòùẁỳầềồǜằḕṑờừὰὲὴὶὸὺὼῒῢѐѝἂἃἒἓἢἣἲἳὂὃὒὓὢὣ"⟩,
  ⟨'\u0301',
    "acegiklmnoprsuwyzâåæçêïôõøüăēōũơưαεηιουωϊϋгкἀἁἐἑἠἡἰἱὀὁὐὑὠὡ",
    "áćéǵíḱĺḿńóṕŕśúẃýźấǻǽḉếḯốṍǿǘắḗṓṹớứάέήίόύώΐΰѓќἄἅἔἕἤἥἴἵὄὅὔὕὤὥ"⟩,
  ⟨'\u0302', "aceghijosuwyzạẹọ", "âĉêĝĥîĵôŝûŵŷẑậệộ"⟩,
  ⟨'\u0303', "aeinouvyâêôăơư", "ãẽĩñõũṽỹẫễỗẵỡữ"⟩,
  ⟨'\u0304', "aegiouyäæõöüǫȧȯαιυиуḷṛ", "āēḡīōūȳǟǣȭȫǖǭǡȱᾱῑῡӣӯḹṝ"⟩,
  ⟨'\u0306', "aegiouȩαιυаежиуạ", "ăĕğĭŏŭḝᾰῐῠӑӗӂйўặ"⟩,
  ⟨'\u0307', "abcdefghmnoprstwxyzśšṣ", "ȧḃċḋėḟġḣṁṅȯṗṙṡṫẇẋẏżṥṧṩ"⟩,
  ⟨'\u0308', "aehiotuwxyõūιυаежзиоучыэіәө", "äëḧïöẗüẅẍÿṏṻϊϋӓёӝӟӥӧӱӵӹӭїӛӫ"⟩,
  ⟨'\u0309', "aeiouyâêôăơư", "ảẻỉỏủỷẩểổẳởử"⟩,
  ⟨'\u030a', "auwy", "åůẘẙ"⟩,
  ⟨'\u030b', "ouу", "őűӳ"⟩,
  ⟨'\u030c', "acdeghijklnorstuzüʒ", "ǎčďěǧȟǐǰǩľňǒřšťǔžǚǯ"⟩,
  ⟨'\u030f', "aeioruѵ", "ȁȅȉȍȑȕѷ"⟩,
  ⟨'\u0311', "aeioru", "ȃȇȋȏȓȗ"⟩,
  ⟨'\u0313', "αεηιορυω", "ἀἐἠἰὀῤὐὠ"⟩,
  ⟨'\u0314', "αεηιορυω", "ἁἑἡἱὁῥὑὡ"⟩,
  ⟨'\u031b', "ou", "ơư"⟩,
  ⟨'\u0323', "abdehiklmnorstuvwyzơư", "ạḅḍẹḥịḳḷṃṇọṛṣṭụṿẉỵẓợự"⟩,
  ⟨'\u0324', "u", "ṳ"⟩,
  ⟨'\u0325', "a", "ḁ"⟩,
  ⟨'\u0326', "st", "șț"⟩,
  ⟨'\u0327', "cdeghklnrst", "çḑȩģḩķļņŗşţ"⟩,
  ⟨'\u0328', "aeiou", "ąęįǫų"⟩,
  ⟨'\u032d', "delntu", "ḓḙḽṋṱṷ"⟩,
  ⟨'\u032e', "h", "ḫ"⟩,
  ⟨'\u0330', "eiu", "ḛḭṵ"⟩,
  ⟨'\u0331', "bdhklnrtz", "ḇḏẖḵḻṉṟṯẕ"⟩,
  ⟨'\u0338',
    "<=>←→↔⇐⇒⇔∃∈∋∣∥∼≃≅≈≍≡≤≥≲≳≶≷≺≻≼≽⊂⊃⊆⊇⊑⊒⊢⊨⊩⊫⊲⊳⊴⊵",
    "≮≠≯↚↛↮⇍⇏⇎∄∉∌∤∦≁≄≇≉≭≢≰≱≴≵≸≹⊀⊁⋠⋡⊄⊅⊈⊉⋢⋣⊬⊭⊮⊯⋪⋫⋬⋭"⟩,
  ⟨'\u0342', "αηιυωϊϋἀἁἠἡἰἱὐὑὠὡ", "ᾶῆῖῦῶῗῧἆἇἦἧἶἷὖὗὦὧ"⟩,
  ⟨'\u0653', "ا", "آ"⟩,
  ⟨'\u0654', "اويہےە", "أؤئۂۓۀ"⟩,
  ⟨'\u0655', "ا", "إ"⟩,
  ⟨'\u093c', "नरळ", "ऩऱऴ"⟩,
  ⟨'\u09be', "\u09c7", "\u09cb"⟩,
  ⟨'\u09d7', "\u09c7", "\u09cc"⟩,
  ⟨'\u0b3e', "\u0b47", "\u0b4b"⟩,
  ⟨'\u0b56', "\u0b47", "\u0b48"⟩,
  ⟨'\u0b57', "\u0b47", "\u0b4c"⟩,
  ⟨'\u0bbe', "\u0bc6\u0bc7", "\u0bca\u0bcb"⟩,
  ⟨'\u0bd7', "ஒ\u0bc6", "ஔ\u0bcc"⟩,
  ⟨'\u0c56', "\u0c46", "\u0c48"⟩,
  ⟨'\u0cc2', "\u0cc6", "\u0cca"⟩,
  ⟨'\u0cd5', "\u0cbf\u0cc6\u0cca", "\u0cc0\u0cc7\u0ccb"⟩,
  ⟨'\u0cd6', "\u0cc6", "\u0cc8"⟩,
  ⟨'\u0d3e', "\u0d46\u0d47", "\u0d4a\u0d4b"⟩,
  ⟨'\u0d57', "\u0d46", "\u0d4c"⟩,
  ⟨'\u0dca', "\u0dd9\u0ddc", "\u0dda\u0ddd"⟩,
  ⟨'\u0dcf', "\u0dd9", "\u0ddc"⟩,
  ⟨'\u0ddf', "\u0dd9", "\u0dde"⟩,
  ⟨'\u102e', "ဥ", "ဦ"⟩,
  ⟨'\u1b35', "ᬅᬇᬉᬋᬍᬑ\u1b3a\u1b3c\u1b3e\u1b3f\u1b42", "ᬆᬈᬊᬌᬎᬒ\u1b3b\u1b3d\u1b40\u1b41\u1b43"⟩,
  ⟨'\u3099',
    "うかきくけこさしすせそたちつてとはひふへほゝウカキクケコサシスセソタチツテトハヒフヘホワヰヱヲヽ",
    "ゔがぎぐげござじずぜぞだぢづでどばびぶべぼゞヴガギグゲゴザジズゼゾダヂヅデドバビブベボヷヸヹヺヾ"⟩,
  ⟨'\u309a', "はひふへほハヒフヘホ", "ぱぴぷぺぽパピプペポ"⟩,
  ⟨'𑂺', "𑂙𑂛𑂥", "𑂚𑂜𑂫"⟩,
  ⟨'𑄧', "𑄱𑄲", "𑄮𑄯"⟩,
  ⟨'𑌾', "𑍇", "𑍋"⟩,
  ⟨'𑍗', "𑍇", "𑍌"⟩,
  ⟨'𑒰', "𑒹", "𑒼"⟩,
  ⟨'𑒺', "𑒹", "𑒻"⟩,
  ⟨'𑒽', "𑒹", "𑒾"⟩,
  ⟨'𑖯', "𑖸𑖹", "𑖺𑖻"⟩,
  ⟨'𑤰', "𑤵", "𑤸"⟩]

/-- The classes of characters, each with the code point from which on it holds. Class 0 is that of
characters which are no marks. -/
def markClasses : List (Nat × Nat) := [
  (768, 230), (789, 232), (790, 220), (794, 232), (795, 216), (796, 220), (801, 202), (803, 220),
  (807, 202), (809, 220), (820, 1), (825, 220), (829, 230), (839, 220), (842, 230), (845, 220),
  (848, 230), (851, 220), (855, 230), (856, 232), (857, 220), (859, 230), (860, 233), (861, 234),
  (863, 233), (864, 234), (866, 233), (867, 230), (881, 0), (1155, 230), (1160, 0), (1425, 220),
  (1426, 230), (1430, 220), (1431, 230), (1434, 222), (1435, 220), (1436, 230), (1442, 220),
  (1448, 230), (1450, 220), (1451, 230), (1453, 222), (1454, 228), (1455, 230), (1456, 10),
  (1457, 11), (1458, 12), (1459, 13), (1460, 14), (1461, 15), (1462, 16), (1463, 17), (1464, 18),
  (1465, 19), (1467, 20), (1468, 21), (1469, 22), (1470, 0), (1471, 23), (1472, 0), (1473, 24),
  (1474, 25), (1475, 0), (1476, 230), (1477, 220), (1478, 0), (1479, 18), (1480, 0), (1552, 230),
  (1560, 30), (1561, 31), (1562, 32), (1563, 0), (1611, 27), (1612, 28), (1613, 29), (1614, 30),
  (1615, 31), (1616, 32), (1617, 33), (1618, 34), (1619, 230), (1621, 220), (1623, 230),
  (1628, 220), (1629, 230), (1631, 220), (1632, 0), (1648, 35), (1649, 0), (1750, 230),
  (1758, 0), (1759, 230), (1763, 220), (1764, 230), (1765, 0), (1767, 230), (1769, 0),
  (1770, 220), (1771, 230), (1773, 220), (1774, 0), (1809, 36), (1810, 0), (1840, 230),
  (1841, 220), (1842, 230), (1844, 220), (1845, 230), (1847, 220), (1850, 230), (1851, 220),
  (1853, 230), (1854, 220), (1855, 230), (1858, 220), (1859, 230), (1860, 220), (1861, 230),
  (1862, 220), (1863, 230), (1864, 220), (1865, 230), (1867, 0), (2027, 230), (2034, 220),
  (2035, 230), (2036, 0), (2045, 220), (2046, 0), (2070, 230), (2074, 0), (2075, 230), (2084, 0),
  (2085, 230), (2088, 0), (2089, 230), (2094, 0), (2137, 220), (2140, 0), (2200, 230),
  (2201, 220), (2204, 230), (2208, 0), (2250, 230), (2255, 220), (2260, 230), (2274, 0),
  (2275, 220), (2276, 230), (2278, 220), (2279, 230), (2281, 220), (2282, 230), (2285, 220),
  (2288, 27), (2289, 28), (2290, 29), (2291, 230), (2294, 220), (2295, 230), (2297, 220),
  (2299, 230), (2304, 0), (2364, 7), (2365, 0), (2381, 9), (2382, 0), (2385, 230), (2386, 220),
  (2387, 230), (2389, 0), (2492, 7), (2493, 0), (2509, 9), (2510, 0), (2558, 230), (2559, 0),
  (2620, 7), (2621, 0), (2637, 9), (2638, 0), (2748, 7), (2749, 0), (2765, 9), (2766, 0),
  (2876, 7), (2877, 0), (2893, 9), (2894, 0), (3021, 9), (3022, 0), (3132, 7), (3133, 0),
  (3149, 9), (3150, 0), (3157, 84), (3158, 91), (3159, 0), (3260, 7), (3261, 0), (3277, 9),
  (3278, 0), (3387, 9), (3389, 0), (3405, 9), (3406, 0), (3530, 9), (3531, 0), (3640, 103),
  (3642, 9), (3643, 0), (3656, 107), (3660, 0), (3768, 118), (3770, 9), (3771, 0), (3784, 122),
  (3788, 0), (3864, 220), (3866, 0), (3893, 220), (3894, 0), (3895, 220), (3896, 0), (3897, 216),
  (3898, 0), (3953, 129), (3954, 130), (3956, 132), (3962, 130), (3966, 0), (3968, 130),
  (3970, 230), (3972, 9), (3973, 0), (3974, 230), (3976, 0), (4038, 220), (4039, 0), (4151, 7),
  (4152, 0), (4153, 9), (4155, 0), (4237, 220), (4238, 0), (4957, 230), (4960, 0), (5908, 9),
  (5910, 0), (5940, 9), (5941, 0), (6098, 9), (6099, 0), (6109, 230), (6110, 0), (6313, 228),
  (6314, 0), (6457, 222), (6458, 230), (6459, 220), (6460, 0), (6679, 230), (6680, 220),
  (6681, 0), (6752, 9), (6753, 0), (6773, 230), (6781, 0), (6783, 220), (6784, 0), (6832, 230),
  (6837, 220), (6843, 230), (6845, 220), (6846, 0), (6847, 220), (6849, 230), (6851, 220),
  (6853, 230), (6858, 220), (6859, 230), (6863, 0), (6964, 7), (6965, 0), (6980, 9), (6981, 0),
  (7019, 230), (7020, 220), (7021, 230), (7028, 0), (7082, 9), (7084, 0), (7142, 7), (7143, 0),
  (7154, 9), (7156, 0), (7223, 7), (7224, 0), (7376, 230), (7379, 0), (7380, 1), (7381, 220),
  (7386, 230), (7388, 220), (7392, 230), (7393, 0), (7394, 1), (7401, 0), (7405, 220), (7406, 0),
  (7412, 230), (7413, 0), (7416, 230), (7418, 0), (7616, 230), (7618, 220), (7619, 230),
  (7626, 220), (7627, 230), (7629, 234), (7630, 214), (7631, 220), (7632, 202), (7633, 230),
  (7670, 232), (7671, 228), (7673, 220), (7674, 218), (7675, 230), (7676, 233), (7677, 220),
  (7678, 230), (7679, 220), (7681, 0), (8400, 230), (8402, 1), (8404, 230), (8408, 1),
  (8411, 230), (8413, 0), (8417, 230), (8418, 0), (8421, 1), (8423, 230), (8424, 220),
  (8425, 230), (8426, 1), (8428, 220), (8432, 230), (8433, 0), (11503, 230), (11507, 0),
  (11647, 9), (11648, 0), (11744, 230), (11776, 0), (12330, 218), (12331, 228), (12332, 232),
  (12333, 222), (12334, 224), (12336, 0), (12441, 8), (12445, 0), (42607, 230), (42608, 0),
  (42612, 230), (42622, 0), (42654, 230), (42656, 0), (42736, 230), (42738, 0), (43014, 9),
  (43015, 0), (43052, 9), (43053, 0), (43204, 9), (43205, 0), (43232, 230), (43250, 0),
  (43307, 220), (43310, 0), (43347, 9), (43348, 0), (43443, 7), (43444, 0), (43456, 9),
  (43457, 0), (43696, 230), (43697, 0), (43698, 230), (43700, 220), (43701, 0), (43703, 230),
  (43705, 0), (43710, 230), (43712, 0), (43713, 230), (43714, 0), (43766, 9), (43767, 0),
  (44013, 9), (44014, 0), (64286, 26), (64311, 0), (65056, 230), (65063, 220), (65070, 230),
  (65093, 0), (66045, 220), (66046, 0), (66272, 220), (66273, 0), (66422, 230), (66427, 0),
  (68109, 220), (68110, 0), (68111, 230), (68112, 0), (68152, 230), (68153, 1), (68154, 220),
  (68155, 0), (68159, 9), (68160, 0), (68325, 230), (68326, 220), (68327, 0), (68900, 230),
  (68904, 0), (69291, 230), (69293, 0), (69446, 220), (69448, 230), (69451, 220), (69452, 230),
  (69453, 220), (69457, 0), (69506, 230), (69507, 220), (69508, 230), (69509, 220), (69510, 0),
  (69702, 9), (69703, 0), (69744, 9), (69745, 0), (69759, 9), (69760, 0), (69817, 9), (69818, 7),
  (69819, 0), (69888, 230), (69891, 0), (69939, 9), (69941, 0), (70003, 7), (70004, 0),
  (70080, 9), (70081, 0), (70090, 7), (70091, 0), (70197, 9), (70198, 7), (70199, 0), (70377, 7),
  (70378, 9), (70379, 0), (70459, 7), (70461, 0), (70477, 9), (70478, 0), (70502, 230),
  (70509, 0), (70512, 230), (70517, 0), (70722, 9), (70723, 0), (70726, 7), (70727, 0),
  (70750, 230), (70751, 0), (70850, 9), (70851, 7), (70852, 0), (71103, 9), (71104, 7),
  (71105, 0), (71231, 9), (71232, 0), (71350, 9), (71351, 7), (71352, 0), (71467, 9), (71468, 0),
  (71737, 9), (71738, 7), (71739, 0), (71997, 9), (71999, 0), (72003, 7), (72004, 0), (72160, 9),
  (72161, 0), (72244, 9), (72245, 0), (72263, 9), (72264, 0), (72345, 9), (72346, 0), (72767, 9),
  (72768, 0), (73026, 7), (73027, 0), (73028, 9), (73030, 0), (73111, 9), (73112, 0), (92912, 1),
  (92917, 0), (92976, 230), (92983, 0), (94192, 6), (94194, 0), (113822, 1), (113823, 0),
  (119141, 216), (119143, 1), (119146, 0), (119149, 226), (119150, 216), (119163, 220),
  (119171, 0), (119173, 230), (119178, 220), (119180, 0), (119210, 230), (119214, 0),
  (119362, 230), (119365, 0), (122880, 230), (122887, 0), (122888, 230), (122905, 0),
  (122907, 230), (122914, 0), (122915, 230), (122917, 0), (122918, 230), (122923, 0),
  (123184, 230), (123191, 0), (123566, 230), (123567, 0), (123628, 230), (123632, 0),
  (125136, 220), (125143, 0), (125252, 230), (125258, 7), (125259, 0)]

end MediaDepot.Text.Marks
