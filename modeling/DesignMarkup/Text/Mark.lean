import DesignMarkup.Text.Basic
/-!
Marks of Unicode 17 and their combining classes: marks of different classes may change places
without a change of meaning.
-/
namespace DesignMarkup.Text

def markRanges : Ranges :=
  [(768, 879), (1155, 1161), (1425, 1469), (1471, 1471), (1473, 1474), (1476, 1477), (1479, 1479),
   (1552, 1562), (1611, 1631), (1648, 1648), (1750, 1756), (1759, 1764), (1767, 1768), (1770, 1773),
   (1809, 1809), (1840, 1866), (1958, 1968), (2027, 2035), (2045, 2045), (2070, 2073), (2075, 2083),
   (2085, 2087), (2089, 2093), (2137, 2139), (2199, 2207), (2250, 2273), (2275, 2307), (2362, 2364),
   (2366, 2383), (2385, 2391), (2402, 2403), (2433, 2435), (2492, 2492), (2494, 2500), (2503, 2504),
   (2507, 2509), (2519, 2519), (2530, 2531), (2558, 2558), (2561, 2563), (2620, 2620), (2622, 2626),
   (2631, 2632), (2635, 2637), (2641, 2641), (2672, 2673), (2677, 2677), (2689, 2691), (2748, 2748),
   (2750, 2757), (2759, 2761), (2763, 2765), (2786, 2787), (2810, 2815), (2817, 2819), (2876, 2876),
   (2878, 2884), (2887, 2888), (2891, 2893), (2901, 2903), (2914, 2915), (2946, 2946), (3006, 3010),
   (3014, 3016), (3018, 3021), (3031, 3031), (3072, 3076), (3132, 3132), (3134, 3140), (3142, 3144),
   (3146, 3149), (3157, 3158), (3170, 3171), (3201, 3203), (3260, 3260), (3262, 3268), (3270, 3272),
   (3274, 3277), (3285, 3286), (3298, 3299), (3315, 3315), (3328, 3331), (3387, 3388), (3390, 3396),
   (3398, 3400), (3402, 3405), (3415, 3415), (3426, 3427), (3457, 3459), (3530, 3530), (3535, 3540),
   (3542, 3542), (3544, 3551), (3570, 3571), (3633, 3633), (3636, 3642), (3655, 3662), (3761, 3761),
   (3764, 3772), (3784, 3790), (3864, 3865), (3893, 3893), (3895, 3895), (3897, 3897), (3902, 3903),
   (3953, 3972), (3974, 3975), (3981, 3991), (3993, 4028), (4038, 4038), (4139, 4158), (4182, 4185),
   (4190, 4192), (4194, 4196), (4199, 4205), (4209, 4212), (4226, 4237), (4239, 4239), (4250, 4253),
   (4957, 4959), (5906, 5909), (5938, 5940), (5970, 5971), (6002, 6003), (6068, 6099), (6109, 6109),
   (6155, 6157), (6159, 6159), (6277, 6278), (6313, 6313), (6432, 6443), (6448, 6459), (6679, 6683),
   (6741, 6750), (6752, 6780), (6783, 6783), (6832, 6877), (6880, 6891), (6912, 6916), (6964, 6980),
   (7019, 7027), (7040, 7042), (7073, 7085), (7142, 7155), (7204, 7223), (7376, 7378), (7380, 7400),
   (7405, 7405), (7412, 7412), (7415, 7417), (7616, 7679), (8400, 8432), (11503, 11505),
   (11647, 11647), (11744, 11775), (12330, 12335), (12441, 12442), (42607, 42610), (42612, 42621),
   (42654, 42655), (42736, 42737), (43010, 43010), (43014, 43014), (43019, 43019), (43043, 43047),
   (43052, 43052), (43136, 43137), (43188, 43205), (43232, 43249), (43263, 43263), (43302, 43309),
   (43335, 43347), (43392, 43395), (43443, 43456), (43493, 43493), (43561, 43574), (43587, 43587),
   (43596, 43597), (43643, 43645), (43696, 43696), (43698, 43700), (43703, 43704), (43710, 43711),
   (43713, 43713), (43755, 43759), (43765, 43766), (44003, 44010), (44012, 44013), (64286, 64286),
   (65024, 65039), (65056, 65071), (66045, 66045), (66272, 66272), (66422, 66426), (68097, 68099),
   (68101, 68102), (68108, 68111), (68152, 68154), (68159, 68159), (68325, 68326), (68900, 68903),
   (68969, 68973), (69291, 69292), (69370, 69375), (69446, 69456), (69506, 69509), (69632, 69634),
   (69688, 69702), (69744, 69744), (69747, 69748), (69759, 69762), (69808, 69818), (69826, 69826),
   (69888, 69890), (69927, 69940), (69957, 69958), (70003, 70003), (70016, 70018), (70067, 70080),
   (70089, 70092), (70094, 70095), (70188, 70199), (70206, 70206), (70209, 70209), (70367, 70378),
   (70400, 70403), (70459, 70460), (70462, 70468), (70471, 70472), (70475, 70477), (70487, 70487),
   (70498, 70499), (70502, 70508), (70512, 70516), (70584, 70592), (70594, 70594), (70597, 70597),
   (70599, 70602), (70604, 70608), (70610, 70610), (70625, 70626), (70709, 70726), (70750, 70750),
   (70832, 70851), (71087, 71093), (71096, 71104), (71132, 71133), (71216, 71232), (71339, 71351),
   (71453, 71467), (71724, 71738), (71984, 71989), (71991, 71992), (71995, 71998), (72000, 72000),
   (72002, 72003), (72145, 72151), (72154, 72160), (72164, 72164), (72193, 72202), (72243, 72249),
   (72251, 72254), (72263, 72263), (72273, 72283), (72330, 72345), (72544, 72551), (72751, 72758),
   (72760, 72767), (72850, 72871), (72873, 72886), (73009, 73014), (73018, 73018), (73020, 73021),
   (73023, 73029), (73031, 73031), (73098, 73102), (73104, 73105), (73107, 73111), (73459, 73462),
   (73472, 73473), (73475, 73475), (73524, 73530), (73534, 73538), (73562, 73562), (78912, 78912),
   (78919, 78933), (90398, 90415), (92912, 92916), (92976, 92982), (94031, 94031), (94033, 94087),
   (94095, 94098), (94180, 94180), (94192, 94193), (113821, 113822), (118528, 118573),
   (118576, 118598), (119141, 119145), (119149, 119154), (119163, 119170), (119173, 119179),
   (119210, 119213), (119362, 119364), (121344, 121398), (121403, 121452), (121461, 121461),
   (121476, 121476), (121499, 121503), (121505, 121519), (122880, 122886), (122888, 122904),
   (122907, 122913), (122915, 122916), (122918, 122922), (123023, 123023), (123184, 123190),
   (123566, 123566), (123628, 123631), (124140, 124143), (124398, 124399), (124643, 124643),
   (124646, 124646), (124654, 124655), (124661, 124661), (125136, 125142), (125252, 125258),
   (917760, 917999)]

def isMark (c : Char) : Bool := markRanges.covers c.toNat

def combiningClasses : List (Nat × Ranges) :=
  [
   (1,
      [(820, 824), (7380, 7380), (7394, 7400), (8402, 8403), (8408, 8410), (8421, 8422),
       (8426, 8427), (68153, 68153), (92912, 92916), (113822, 113822), (119143, 119145)]),
   (6, [(94192, 94193)]),
   (7,
      [(2364, 2364), (2492, 2492), (2620, 2620), (2748, 2748), (2876, 2876), (3132, 3132),
       (3260, 3260), (4151, 4151), (6964, 6964), (7142, 7142), (7223, 7223), (43443, 43443),
       (69818, 69818), (70003, 70003), (70090, 70090), (70198, 70198), (70377, 70377),
       (70459, 70460), (70726, 70726), (70851, 70851), (71104, 71104), (71351, 71351),
       (71738, 71738), (72003, 72003), (73026, 73026), (125258, 125258)]),
   (8, [(12441, 12442)]),
   (9,
      [(2381, 2381), (2509, 2509), (2637, 2637), (2765, 2765), (2893, 2893), (3021, 3021),
       (3149, 3149), (3277, 3277), (3387, 3388), (3405, 3405), (3530, 3530), (3642, 3642),
       (3770, 3770), (3972, 3972), (4153, 4154), (5908, 5909), (5940, 5940), (6098, 6098),
       (6752, 6752), (6980, 6980), (7082, 7083), (7154, 7155), (11647, 11647), (43014, 43014),
       (43052, 43052), (43204, 43204), (43347, 43347), (43456, 43456), (43766, 43766),
       (44013, 44013), (68159, 68159), (69702, 69702), (69744, 69744), (69759, 69759),
       (69817, 69817), (69939, 69940), (70080, 70080), (70197, 70197), (70378, 70378),
       (70477, 70477), (70606, 70608), (70722, 70722), (70850, 70850), (71103, 71103),
       (71231, 71231), (71350, 71350), (71467, 71467), (71737, 71737), (71997, 71998),
       (72160, 72160), (72244, 72244), (72263, 72263), (72345, 72345), (72767, 72767),
       (73028, 73029), (73111, 73111), (73537, 73538), (90415, 90415)]),
   (10, [(1456, 1456)]), (11, [(1457, 1457)]), (12, [(1458, 1458)]), (13, [(1459, 1459)]),
   (14, [(1460, 1460)]), (15, [(1461, 1461)]), (16, [(1462, 1462)]), (17, [(1463, 1463)]),
   (18, [(1464, 1464), (1479, 1479)]), (19, [(1465, 1466)]), (20, [(1467, 1467)]),
   (21, [(1468, 1468)]), (22, [(1469, 1469)]), (23, [(1471, 1471)]), (24, [(1473, 1473)]),
   (25, [(1474, 1474)]), (26, [(64286, 64286)]), (27, [(1611, 1611), (2288, 2288)]),
   (28, [(1612, 1612), (2289, 2289)]), (29, [(1613, 1613), (2290, 2290)]),
   (30, [(1560, 1560), (1614, 1614)]), (31, [(1561, 1561), (1615, 1615)]),
   (32, [(1562, 1562), (1616, 1616)]), (33, [(1617, 1617)]), (34, [(1618, 1618)]),
   (35, [(1648, 1648)]), (36, [(1809, 1809)]), (84, [(3157, 3157)]), (91, [(3158, 3158)]),
   (103, [(3640, 3641)]), (107, [(3656, 3659)]), (118, [(3768, 3769)]), (122, [(3784, 3787)]),
   (129, [(3953, 3953)]), (130, [(3954, 3954), (3962, 3965), (3968, 3968)]), (132, [(3956, 3956)]),
   (202, [(801, 802), (807, 808), (7632, 7632)]), (214, [(7630, 7630)]),
   (216, [(795, 795), (3897, 3897), (119141, 119142), (119150, 119154)]),
   (218, [(7674, 7674), (12330, 12330)]),
   (220,
      [(790, 793), (796, 800), (803, 806), (809, 819), (825, 828), (839, 841), (845, 846),
       (851, 854), (857, 858), (1425, 1425), (1430, 1430), (1435, 1435), (1442, 1447), (1450, 1450),
       (1477, 1477), (1621, 1622), (1628, 1628), (1631, 1631), (1763, 1763), (1770, 1770),
       (1773, 1773), (1841, 1841), (1844, 1844), (1847, 1849), (1851, 1852), (1854, 1854),
       (1858, 1858), (1860, 1860), (1862, 1862), (1864, 1864), (2034, 2034), (2045, 2045),
       (2137, 2139), (2201, 2203), (2255, 2259), (2275, 2275), (2278, 2278), (2281, 2281),
       (2285, 2287), (2294, 2294), (2297, 2298), (2386, 2386), (3864, 3865), (3893, 3893),
       (3895, 3895), (4038, 4038), (4237, 4237), (6459, 6459), (6680, 6680), (6783, 6783),
       (6837, 6842), (6845, 6845), (6847, 6848), (6851, 6852), (6858, 6858), (6877, 6877),
       (6886, 6886), (7020, 7020), (7381, 7385), (7388, 7391), (7405, 7405), (7618, 7618),
       (7626, 7626), (7631, 7631), (7673, 7673), (7677, 7677), (7679, 7679), (8424, 8424),
       (8428, 8431), (43307, 43309), (43700, 43700), (65063, 65069), (66045, 66045), (66272, 66272),
       (68109, 68109), (68154, 68154), (68326, 68326), (69370, 69371), (69373, 69375),
       (69446, 69447), (69451, 69451), (69453, 69456), (69507, 69507), (69509, 69509),
       (119163, 119170), (119178, 119179), (124142, 124142), (124399, 124399), (125136, 125142)]),
   (222, [(1434, 1434), (1453, 1453), (6457, 6457), (12333, 12333)]), (224, [(12334, 12335)]),
   (226, [(119149, 119149)]), (228, [(1454, 1454), (6313, 6313), (7671, 7672), (12331, 12331)]),
   (230,
      [(768, 788), (829, 831), (834, 834), (838, 838), (842, 844), (848, 850), (855, 855),
       (859, 859), (867, 879), (1155, 1159), (1426, 1429), (1431, 1433), (1436, 1441), (1448, 1449),
       (1451, 1452), (1455, 1455), (1476, 1476), (1552, 1559), (1619, 1620), (1623, 1627),
       (1629, 1630), (1750, 1756), (1759, 1762), (1764, 1764), (1767, 1768), (1771, 1772),
       (1840, 1840), (1842, 1843), (1845, 1846), (1850, 1850), (1853, 1853), (1855, 1857),
       (1859, 1859), (1861, 1861), (1863, 1863), (1865, 1866), (2027, 2033), (2035, 2035),
       (2070, 2073), (2075, 2083), (2085, 2087), (2089, 2093), (2199, 2200), (2204, 2207),
       (2250, 2254), (2260, 2273), (2276, 2277), (2279, 2280), (2282, 2284), (2291, 2293),
       (2295, 2296), (2299, 2303), (2385, 2385), (2387, 2388), (2558, 2558), (3970, 3971),
       (3974, 3975), (4957, 4959), (6109, 6109), (6458, 6458), (6679, 6679), (6773, 6780),
       (6832, 6836), (6843, 6844), (6849, 6850), (6853, 6857), (6859, 6876), (6880, 6885),
       (6887, 6890), (7019, 7019), (7021, 7027), (7376, 7378), (7386, 7387), (7392, 7392),
       (7412, 7412), (7416, 7417), (7616, 7617), (7619, 7625), (7627, 7628), (7633, 7669),
       (7675, 7675), (7678, 7678), (8400, 8401), (8404, 8407), (8411, 8412), (8417, 8417),
       (8423, 8423), (8425, 8425), (8432, 8432), (11503, 11505), (11744, 11775), (42607, 42607),
       (42612, 42621), (42654, 42655), (42736, 42737), (43232, 43249), (43696, 43696),
       (43698, 43699), (43703, 43704), (43710, 43711), (43713, 43713), (65056, 65062),
       (65070, 65071), (66422, 66426), (68111, 68111), (68152, 68152), (68325, 68325),
       (68900, 68903), (68969, 68973), (69291, 69292), (69448, 69450), (69452, 69452),
       (69506, 69506), (69508, 69508), (69888, 69890), (70502, 70508), (70512, 70516),
       (70750, 70750), (92976, 92982), (119173, 119177), (119210, 119213), (119362, 119364),
       (122880, 122886), (122888, 122904), (122907, 122913), (122915, 122916), (122918, 122922),
       (123023, 123023), (123184, 123190), (123566, 123566), (123628, 123631), (124143, 124143),
       (124398, 124398), (124643, 124643), (124646, 124646), (124654, 124655), (124661, 124661),
       (125252, 125257)]),
   (232,
      [(789, 789), (794, 794), (856, 856), (7670, 7670), (12332, 12332), (124140, 124141)]),
   (233, [(860, 860), (863, 863), (866, 866), (7676, 7676)]),
   (234, [(861, 862), (864, 865), (6891, 6891), (7629, 7629)]), (240, [(837, 837)])]

def combiningClass (n : Nat) : Nat :=
  ((combiningClasses.find? fun entry => entry.2.covers n).map Prod.fst).getD 0

end DesignMarkup.Text
