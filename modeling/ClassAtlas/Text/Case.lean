import ClassAtlas.Text.Ranges

/-!
Case data of Unicode 14.0: the simple lower and upper case maps, the Cased and
Case_Ignorable properties, and the full lower-casing of a string, in which a capital sigma
becomes a final sigma at the end of a word and a dotted capital I becomes two characters.
-/

namespace ClassAtlas.Text

set_option maxRecDepth 100000

/-- Lower-case map, as runs of code points that move by one offset. -/
def lowerRuns : Array CaseRun := #[
  ⟨65, 90, 1, 32⟩, ⟨192, 214, 1, 32⟩, ⟨216, 222, 1, 32⟩, ⟨256, 302, 2, 1⟩,
  ⟨304, 304, 1, (-199)⟩, ⟨306, 310, 2, 1⟩, ⟨313, 327, 2, 1⟩, ⟨330, 374, 2, 1⟩,
  ⟨376, 376, 1, (-121)⟩, ⟨377, 381, 2, 1⟩, ⟨385, 385, 1, 210⟩, ⟨386, 388, 2, 1⟩,
  ⟨390, 390, 1, 206⟩, ⟨391, 391, 1, 1⟩, ⟨393, 394, 1, 205⟩, ⟨395, 395, 1, 1⟩,
  ⟨398, 398, 1, 79⟩, ⟨399, 399, 1, 202⟩, ⟨400, 400, 1, 203⟩, ⟨401, 401, 1, 1⟩,
  ⟨403, 403, 1, 205⟩, ⟨404, 404, 1, 207⟩, ⟨406, 406, 1, 211⟩, ⟨407, 407, 1, 209⟩,
  ⟨408, 408, 1, 1⟩, ⟨412, 412, 1, 211⟩, ⟨413, 413, 1, 213⟩, ⟨415, 415, 1, 214⟩,
  ⟨416, 420, 2, 1⟩, ⟨422, 422, 1, 218⟩, ⟨423, 423, 1, 1⟩, ⟨425, 425, 1, 218⟩,
  ⟨428, 428, 1, 1⟩, ⟨430, 430, 1, 218⟩, ⟨431, 431, 1, 1⟩, ⟨433, 434, 1, 217⟩,
  ⟨435, 437, 2, 1⟩, ⟨439, 439, 1, 219⟩, ⟨440, 440, 1, 1⟩, ⟨444, 444, 1, 1⟩,
  ⟨452, 452, 1, 2⟩, ⟨453, 453, 1, 1⟩, ⟨455, 455, 1, 2⟩, ⟨456, 456, 1, 1⟩,
  ⟨458, 458, 1, 2⟩, ⟨459, 475, 2, 1⟩, ⟨478, 494, 2, 1⟩, ⟨497, 497, 1, 2⟩,
  ⟨498, 500, 2, 1⟩, ⟨502, 502, 1, (-97)⟩, ⟨503, 503, 1, (-56)⟩, ⟨504, 542, 2, 1⟩,
  ⟨544, 544, 1, (-130)⟩, ⟨546, 562, 2, 1⟩, ⟨570, 570, 1, 10795⟩, ⟨571, 571, 1, 1⟩,
  ⟨573, 573, 1, (-163)⟩, ⟨574, 574, 1, 10792⟩, ⟨577, 577, 1, 1⟩, ⟨579, 579, 1, (-195)⟩,
  ⟨580, 580, 1, 69⟩, ⟨581, 581, 1, 71⟩, ⟨582, 590, 2, 1⟩, ⟨880, 882, 2, 1⟩,
  ⟨886, 886, 1, 1⟩, ⟨895, 895, 1, 116⟩, ⟨902, 902, 1, 38⟩, ⟨904, 906, 1, 37⟩,
  ⟨908, 908, 1, 64⟩, ⟨910, 911, 1, 63⟩, ⟨913, 929, 1, 32⟩, ⟨931, 939, 1, 32⟩,
  ⟨975, 975, 1, 8⟩, ⟨984, 1006, 2, 1⟩, ⟨1012, 1012, 1, (-60)⟩, ⟨1015, 1015, 1, 1⟩,
  ⟨1017, 1017, 1, (-7)⟩, ⟨1018, 1018, 1, 1⟩, ⟨1021, 1023, 1, (-130)⟩, ⟨1024, 1039, 1, 80⟩,
  ⟨1040, 1071, 1, 32⟩, ⟨1120, 1152, 2, 1⟩, ⟨1162, 1214, 2, 1⟩, ⟨1216, 1216, 1, 15⟩,
  ⟨1217, 1229, 2, 1⟩, ⟨1232, 1326, 2, 1⟩, ⟨1329, 1366, 1, 48⟩, ⟨4256, 4293, 1, 7264⟩,
  ⟨4295, 4295, 1, 7264⟩, ⟨4301, 4301, 1, 7264⟩, ⟨5024, 5103, 1, 38864⟩, ⟨5104, 5109, 1, 8⟩,
  ⟨7312, 7354, 1, (-3008)⟩, ⟨7357, 7359, 1, (-3008)⟩, ⟨7680, 7828, 2, 1⟩, ⟨7838, 7838, 1, (-7615)⟩,
  ⟨7840, 7934, 2, 1⟩, ⟨7944, 7951, 1, (-8)⟩, ⟨7960, 7965, 1, (-8)⟩, ⟨7976, 7983, 1, (-8)⟩,
  ⟨7992, 7999, 1, (-8)⟩, ⟨8008, 8013, 1, (-8)⟩, ⟨8025, 8031, 2, (-8)⟩, ⟨8040, 8047, 1, (-8)⟩,
  ⟨8072, 8079, 1, (-8)⟩, ⟨8088, 8095, 1, (-8)⟩, ⟨8104, 8111, 1, (-8)⟩, ⟨8120, 8121, 1, (-8)⟩,
  ⟨8122, 8123, 1, (-74)⟩, ⟨8124, 8124, 1, (-9)⟩, ⟨8136, 8139, 1, (-86)⟩, ⟨8140, 8140, 1, (-9)⟩,
  ⟨8152, 8153, 1, (-8)⟩, ⟨8154, 8155, 1, (-100)⟩, ⟨8168, 8169, 1, (-8)⟩, ⟨8170, 8171, 1, (-112)⟩,
  ⟨8172, 8172, 1, (-7)⟩, ⟨8184, 8185, 1, (-128)⟩, ⟨8186, 8187, 1, (-126)⟩, ⟨8188, 8188, 1, (-9)⟩,
  ⟨8486, 8486, 1, (-7517)⟩, ⟨8490, 8490, 1, (-8383)⟩, ⟨8491, 8491, 1, (-8262)⟩, ⟨8498, 8498, 1, 28⟩,
  ⟨8544, 8559, 1, 16⟩, ⟨8579, 8579, 1, 1⟩, ⟨9398, 9423, 1, 26⟩, ⟨11264, 11311, 1, 48⟩,
  ⟨11360, 11360, 1, 1⟩, ⟨11362, 11362, 1, (-10743)⟩, ⟨11363, 11363, 1, (-3814)⟩, ⟨11364, 11364, 1, (-10727)⟩,
  ⟨11367, 11371, 2, 1⟩, ⟨11373, 11373, 1, (-10780)⟩, ⟨11374, 11374, 1, (-10749)⟩, ⟨11375, 11375, 1, (-10783)⟩,
  ⟨11376, 11376, 1, (-10782)⟩, ⟨11378, 11378, 1, 1⟩, ⟨11381, 11381, 1, 1⟩, ⟨11390, 11391, 1, (-10815)⟩,
  ⟨11392, 11490, 2, 1⟩, ⟨11499, 11501, 2, 1⟩, ⟨11506, 11506, 1, 1⟩, ⟨42560, 42604, 2, 1⟩,
  ⟨42624, 42650, 2, 1⟩, ⟨42786, 42798, 2, 1⟩, ⟨42802, 42862, 2, 1⟩, ⟨42873, 42875, 2, 1⟩,
  ⟨42877, 42877, 1, (-35332)⟩, ⟨42878, 42886, 2, 1⟩, ⟨42891, 42891, 1, 1⟩, ⟨42893, 42893, 1, (-42280)⟩,
  ⟨42896, 42898, 2, 1⟩, ⟨42902, 42920, 2, 1⟩, ⟨42922, 42922, 1, (-42308)⟩, ⟨42923, 42923, 1, (-42319)⟩,
  ⟨42924, 42924, 1, (-42315)⟩, ⟨42925, 42925, 1, (-42305)⟩, ⟨42926, 42926, 1, (-42308)⟩, ⟨42928, 42928, 1, (-42258)⟩,
  ⟨42929, 42929, 1, (-42282)⟩, ⟨42930, 42930, 1, (-42261)⟩, ⟨42931, 42931, 1, 928⟩, ⟨42932, 42946, 2, 1⟩,
  ⟨42948, 42948, 1, (-48)⟩, ⟨42949, 42949, 1, (-42307)⟩, ⟨42950, 42950, 1, (-35384)⟩, ⟨42951, 42953, 2, 1⟩,
  ⟨42960, 42960, 1, 1⟩, ⟨42966, 42968, 2, 1⟩, ⟨42997, 42997, 1, 1⟩, ⟨65313, 65338, 1, 32⟩,
  ⟨66560, 66599, 1, 40⟩, ⟨66736, 66771, 1, 40⟩, ⟨66928, 66938, 1, 39⟩, ⟨66940, 66954, 1, 39⟩,
  ⟨66956, 66962, 1, 39⟩, ⟨66964, 66965, 1, 39⟩, ⟨68736, 68786, 1, 64⟩, ⟨71840, 71871, 1, 32⟩,
  ⟨93760, 93791, 1, 32⟩, ⟨125184, 125217, 1, 34⟩]

/-- Upper-case map, as runs; a character whose upper case is several characters maps to the
first of them. -/
def upperRuns : Array CaseRun := #[
  ⟨97, 122, 1, (-32)⟩, ⟨181, 181, 1, 743⟩, ⟨223, 223, 1, (-140)⟩, ⟨224, 246, 1, (-32)⟩,
  ⟨248, 254, 1, (-32)⟩, ⟨255, 255, 1, 121⟩, ⟨257, 303, 2, (-1)⟩, ⟨305, 305, 1, (-232)⟩,
  ⟨307, 311, 2, (-1)⟩, ⟨314, 328, 2, (-1)⟩, ⟨329, 329, 1, 371⟩, ⟨331, 375, 2, (-1)⟩,
  ⟨378, 382, 2, (-1)⟩, ⟨383, 383, 1, (-300)⟩, ⟨384, 384, 1, 195⟩, ⟨387, 389, 2, (-1)⟩,
  ⟨392, 392, 1, (-1)⟩, ⟨396, 396, 1, (-1)⟩, ⟨402, 402, 1, (-1)⟩, ⟨405, 405, 1, 97⟩,
  ⟨409, 409, 1, (-1)⟩, ⟨410, 410, 1, 163⟩, ⟨414, 414, 1, 130⟩, ⟨417, 421, 2, (-1)⟩,
  ⟨424, 424, 1, (-1)⟩, ⟨429, 429, 1, (-1)⟩, ⟨432, 432, 1, (-1)⟩, ⟨436, 438, 2, (-1)⟩,
  ⟨441, 441, 1, (-1)⟩, ⟨445, 445, 1, (-1)⟩, ⟨447, 447, 1, 56⟩, ⟨453, 453, 1, (-1)⟩,
  ⟨454, 454, 1, (-2)⟩, ⟨456, 456, 1, (-1)⟩, ⟨457, 457, 1, (-2)⟩, ⟨459, 459, 1, (-1)⟩,
  ⟨460, 460, 1, (-2)⟩, ⟨462, 476, 2, (-1)⟩, ⟨477, 477, 1, (-79)⟩, ⟨479, 495, 2, (-1)⟩,
  ⟨496, 496, 1, (-422)⟩, ⟨498, 498, 1, (-1)⟩, ⟨499, 499, 1, (-2)⟩, ⟨501, 501, 1, (-1)⟩,
  ⟨505, 543, 2, (-1)⟩, ⟨547, 563, 2, (-1)⟩, ⟨572, 572, 1, (-1)⟩, ⟨575, 576, 1, 10815⟩,
  ⟨578, 578, 1, (-1)⟩, ⟨583, 591, 2, (-1)⟩, ⟨592, 592, 1, 10783⟩, ⟨593, 593, 1, 10780⟩,
  ⟨594, 594, 1, 10782⟩, ⟨595, 595, 1, (-210)⟩, ⟨596, 596, 1, (-206)⟩, ⟨598, 599, 1, (-205)⟩,
  ⟨601, 601, 1, (-202)⟩, ⟨603, 603, 1, (-203)⟩, ⟨604, 604, 1, 42319⟩, ⟨608, 608, 1, (-205)⟩,
  ⟨609, 609, 1, 42315⟩, ⟨611, 611, 1, (-207)⟩, ⟨613, 613, 1, 42280⟩, ⟨614, 614, 1, 42308⟩,
  ⟨616, 616, 1, (-209)⟩, ⟨617, 617, 1, (-211)⟩, ⟨618, 618, 1, 42308⟩, ⟨619, 619, 1, 10743⟩,
  ⟨620, 620, 1, 42305⟩, ⟨623, 623, 1, (-211)⟩, ⟨625, 625, 1, 10749⟩, ⟨626, 626, 1, (-213)⟩,
  ⟨629, 629, 1, (-214)⟩, ⟨637, 637, 1, 10727⟩, ⟨640, 640, 1, (-218)⟩, ⟨642, 642, 1, 42307⟩,
  ⟨643, 643, 1, (-218)⟩, ⟨647, 647, 1, 42282⟩, ⟨648, 648, 1, (-218)⟩, ⟨649, 649, 1, (-69)⟩,
  ⟨650, 651, 1, (-217)⟩, ⟨652, 652, 1, (-71)⟩, ⟨658, 658, 1, (-219)⟩, ⟨669, 669, 1, 42261⟩,
  ⟨670, 670, 1, 42258⟩, ⟨837, 837, 1, 84⟩, ⟨881, 883, 2, (-1)⟩, ⟨887, 887, 1, (-1)⟩,
  ⟨891, 893, 1, 130⟩, ⟨912, 912, 1, 9⟩, ⟨940, 940, 1, (-38)⟩, ⟨941, 943, 1, (-37)⟩,
  ⟨944, 944, 1, (-11)⟩, ⟨945, 961, 1, (-32)⟩, ⟨962, 962, 1, (-31)⟩, ⟨963, 971, 1, (-32)⟩,
  ⟨972, 972, 1, (-64)⟩, ⟨973, 974, 1, (-63)⟩, ⟨976, 976, 1, (-62)⟩, ⟨977, 977, 1, (-57)⟩,
  ⟨981, 981, 1, (-47)⟩, ⟨982, 982, 1, (-54)⟩, ⟨983, 983, 1, (-8)⟩, ⟨985, 1007, 2, (-1)⟩,
  ⟨1008, 1008, 1, (-86)⟩, ⟨1009, 1009, 1, (-80)⟩, ⟨1010, 1010, 1, 7⟩, ⟨1011, 1011, 1, (-116)⟩,
  ⟨1013, 1013, 1, (-96)⟩, ⟨1016, 1016, 1, (-1)⟩, ⟨1019, 1019, 1, (-1)⟩, ⟨1072, 1103, 1, (-32)⟩,
  ⟨1104, 1119, 1, (-80)⟩, ⟨1121, 1153, 2, (-1)⟩, ⟨1163, 1215, 2, (-1)⟩, ⟨1218, 1230, 2, (-1)⟩,
  ⟨1231, 1231, 1, (-15)⟩, ⟨1233, 1327, 2, (-1)⟩, ⟨1377, 1414, 1, (-48)⟩, ⟨1415, 1415, 1, (-82)⟩,
  ⟨4304, 4346, 1, 3008⟩, ⟨4349, 4351, 1, 3008⟩, ⟨5112, 5117, 1, (-8)⟩, ⟨7296, 7296, 1, (-6254)⟩,
  ⟨7297, 7297, 1, (-6253)⟩, ⟨7298, 7298, 1, (-6244)⟩, ⟨7299, 7300, 1, (-6242)⟩, ⟨7301, 7301, 1, (-6243)⟩,
  ⟨7302, 7302, 1, (-6236)⟩, ⟨7303, 7303, 1, (-6181)⟩, ⟨7304, 7304, 1, 35266⟩, ⟨7545, 7545, 1, 35332⟩,
  ⟨7549, 7549, 1, 3814⟩, ⟨7566, 7566, 1, 35384⟩, ⟨7681, 7829, 2, (-1)⟩, ⟨7830, 7830, 1, (-7758)⟩,
  ⟨7831, 7831, 1, (-7747)⟩, ⟨7832, 7832, 1, (-7745)⟩, ⟨7833, 7833, 1, (-7744)⟩, ⟨7834, 7834, 1, (-7769)⟩,
  ⟨7835, 7835, 1, (-59)⟩, ⟨7841, 7935, 2, (-1)⟩, ⟨7936, 7943, 1, 8⟩, ⟨7952, 7957, 1, 8⟩,
  ⟨7968, 7975, 1, 8⟩, ⟨7984, 7991, 1, 8⟩, ⟨8000, 8005, 1, 8⟩, ⟨8016, 8016, 1, (-7083)⟩,
  ⟨8017, 8017, 1, 8⟩, ⟨8018, 8018, 1, (-7085)⟩, ⟨8019, 8019, 1, 8⟩, ⟨8020, 8020, 1, (-7087)⟩,
  ⟨8021, 8021, 1, 8⟩, ⟨8022, 8022, 1, (-7089)⟩, ⟨8023, 8023, 1, 8⟩, ⟨8032, 8039, 1, 8⟩,
  ⟨8048, 8049, 1, 74⟩, ⟨8050, 8053, 1, 86⟩, ⟨8054, 8055, 1, 100⟩, ⟨8056, 8057, 1, 128⟩,
  ⟨8058, 8059, 1, 112⟩, ⟨8060, 8061, 1, 126⟩, ⟨8064, 8071, 1, (-120)⟩, ⟨8072, 8079, 1, (-128)⟩,
  ⟨8080, 8087, 1, (-104)⟩, ⟨8088, 8095, 1, (-112)⟩, ⟨8096, 8103, 1, (-56)⟩, ⟨8104, 8111, 1, (-64)⟩,
  ⟨8112, 8114, 1, 8⟩, ⟨8115, 8115, 1, (-7202)⟩, ⟨8116, 8116, 1, (-7214)⟩, ⟨8118, 8118, 1, (-7205)⟩,
  ⟨8119, 8119, 1, (-7206)⟩, ⟨8124, 8124, 1, (-7211)⟩, ⟨8126, 8126, 1, (-7205)⟩, ⟨8130, 8130, 1, 8⟩,
  ⟨8131, 8131, 1, (-7212)⟩, ⟨8132, 8132, 1, (-7227)⟩, ⟨8134, 8134, 1, (-7215)⟩, ⟨8135, 8135, 1, (-7216)⟩,
  ⟨8140, 8140, 1, (-7221)⟩, ⟨8144, 8145, 1, 8⟩, ⟨8146, 8146, 1, (-7225)⟩, ⟨8147, 8147, 1, (-7226)⟩,
  ⟨8150, 8150, 1, (-7229)⟩, ⟨8151, 8151, 1, (-7230)⟩, ⟨8160, 8161, 1, 8⟩, ⟨8162, 8162, 1, (-7229)⟩,
  ⟨8163, 8163, 1, (-7230)⟩, ⟨8164, 8164, 1, (-7235)⟩, ⟨8165, 8165, 1, 7⟩, ⟨8166, 8166, 1, (-7233)⟩,
  ⟨8167, 8167, 1, (-7234)⟩, ⟨8178, 8178, 1, 8⟩, ⟨8179, 8179, 1, (-7242)⟩, ⟨8180, 8180, 1, (-7269)⟩,
  ⟨8182, 8182, 1, (-7245)⟩, ⟨8183, 8183, 1, (-7246)⟩, ⟨8188, 8188, 1, (-7251)⟩, ⟨8526, 8526, 1, (-28)⟩,
  ⟨8560, 8575, 1, (-16)⟩, ⟨8580, 8580, 1, (-1)⟩, ⟨9424, 9449, 1, (-26)⟩, ⟨11312, 11359, 1, (-48)⟩,
  ⟨11361, 11361, 1, (-1)⟩, ⟨11365, 11365, 1, (-10795)⟩, ⟨11366, 11366, 1, (-10792)⟩, ⟨11368, 11372, 2, (-1)⟩,
  ⟨11379, 11379, 1, (-1)⟩, ⟨11382, 11382, 1, (-1)⟩, ⟨11393, 11491, 2, (-1)⟩, ⟨11500, 11502, 2, (-1)⟩,
  ⟨11507, 11507, 1, (-1)⟩, ⟨11520, 11557, 1, (-7264)⟩, ⟨11559, 11559, 1, (-7264)⟩, ⟨11565, 11565, 1, (-7264)⟩,
  ⟨42561, 42605, 2, (-1)⟩, ⟨42625, 42651, 2, (-1)⟩, ⟨42787, 42799, 2, (-1)⟩, ⟨42803, 42863, 2, (-1)⟩,
  ⟨42874, 42876, 2, (-1)⟩, ⟨42879, 42887, 2, (-1)⟩, ⟨42892, 42892, 1, (-1)⟩, ⟨42897, 42899, 2, (-1)⟩,
  ⟨42900, 42900, 1, 48⟩, ⟨42903, 42921, 2, (-1)⟩, ⟨42933, 42947, 2, (-1)⟩, ⟨42952, 42954, 2, (-1)⟩,
  ⟨42961, 42961, 1, (-1)⟩, ⟨42967, 42969, 2, (-1)⟩, ⟨42998, 42998, 1, (-1)⟩, ⟨43859, 43859, 1, (-928)⟩,
  ⟨43888, 43967, 1, (-38864)⟩, ⟨64256, 64256, 1, (-64186)⟩, ⟨64257, 64257, 1, (-64187)⟩, ⟨64258, 64258, 1, (-64188)⟩,
  ⟨64259, 64259, 1, (-64189)⟩, ⟨64260, 64260, 1, (-64190)⟩, ⟨64261, 64261, 1, (-64178)⟩, ⟨64262, 64262, 1, (-64179)⟩,
  ⟨64275, 64275, 1, (-62927)⟩, ⟨64276, 64276, 1, (-62928)⟩, ⟨64277, 64277, 1, (-62929)⟩, ⟨64278, 64278, 1, (-62920)⟩,
  ⟨64279, 64279, 1, (-62931)⟩, ⟨65345, 65370, 1, (-32)⟩, ⟨66600, 66639, 1, (-40)⟩, ⟨66776, 66811, 1, (-40)⟩,
  ⟨66967, 66977, 1, (-39)⟩, ⟨66979, 66993, 1, (-39)⟩, ⟨66995, 67001, 1, (-39)⟩, ⟨67003, 67004, 1, (-39)⟩,
  ⟨68800, 68850, 1, (-64)⟩, ⟨71872, 71903, 1, (-32)⟩, ⟨93792, 93823, 1, (-32)⟩, ⟨125218, 125251, 1, (-34)⟩]

/-- For each lower-case code point, the other code points whose lower case it is. -/
def lowerSources : Array (Nat × List Nat) := #[
  (97, [65]),
  (98, [66]),
  (99, [67]),
  (100, [68]),
  (101, [69]),
  (102, [70]),
  (103, [71]),
  (104, [72]),
  (105, [73, 304]),
  (106, [74]),
  (107, [75, 8490]),
  (108, [76]),
  (109, [77]),
  (110, [78]),
  (111, [79]),
  (112, [80]),
  (113, [81]),
  (114, [82]),
  (115, [83]),
  (116, [84]),
  (117, [85]),
  (118, [86]),
  (119, [87]),
  (120, [88]),
  (121, [89]),
  (122, [90]),
  (223, [7838]),
  (224, [192]),
  (225, [193]),
  (226, [194]),
  (227, [195]),
  (228, [196]),
  (229, [197, 8491]),
  (230, [198]),
  (231, [199]),
  (232, [200]),
  (233, [201]),
  (234, [202]),
  (235, [203]),
  (236, [204]),
  (237, [205]),
  (238, [206]),
  (239, [207]),
  (240, [208]),
  (241, [209]),
  (242, [210]),
  (243, [211]),
  (244, [212]),
  (245, [213]),
  (246, [214]),
  (248, [216]),
  (249, [217]),
  (250, [218]),
  (251, [219]),
  (252, [220]),
  (253, [221]),
  (254, [222]),
  (255, [376]),
  (257, [256]),
  (259, [258]),
  (261, [260]),
  (263, [262]),
  (265, [264]),
  (267, [266]),
  (269, [268]),
  (271, [270]),
  (273, [272]),
  (275, [274]),
  (277, [276]),
  (279, [278]),
  (281, [280]),
  (283, [282]),
  (285, [284]),
  (287, [286]),
  (289, [288]),
  (291, [290]),
  (293, [292]),
  (295, [294]),
  (297, [296]),
  (299, [298]),
  (301, [300]),
  (303, [302]),
  (307, [306]),
  (309, [308]),
  (311, [310]),
  (314, [313]),
  (316, [315]),
  (318, [317]),
  (320, [319]),
  (322, [321]),
  (324, [323]),
  (326, [325]),
  (328, [327]),
  (331, [330]),
  (333, [332]),
  (335, [334]),
  (337, [336]),
  (339, [338]),
  (341, [340]),
  (343, [342]),
  (345, [344]),
  (347, [346]),
  (349, [348]),
  (351, [350]),
  (353, [352]),
  (355, [354]),
  (357, [356]),
  (359, [358]),
  (361, [360]),
  (363, [362]),
  (365, [364]),
  (367, [366]),
  (369, [368]),
  (371, [370]),
  (373, [372]),
  (375, [374]),
  (378, [377]),
  (380, [379]),
  (382, [381]),
  (384, [579]),
  (387, [386]),
  (389, [388]),
  (392, [391]),
  (396, [395]),
  (402, [401]),
  (405, [502]),
  (409, [408]),
  (410, [573]),
  (414, [544]),
  (417, [416]),
  (419, [418]),
  (421, [420]),
  (424, [423]),
  (429, [428]),
  (432, [431]),
  (436, [435]),
  (438, [437]),
  (441, [440]),
  (445, [444]),
  (447, [503]),
  (454, [452, 453]),
  (457, [455, 456]),
  (460, [458, 459]),
  (462, [461]),
  (464, [463]),
  (466, [465]),
  (468, [467]),
  (470, [469]),
  (472, [471]),
  (474, [473]),
  (476, [475]),
  (477, [398]),
  (479, [478]),
  (481, [480]),
  (483, [482]),
  (485, [484]),
  (487, [486]),
  (489, [488]),
  (491, [490]),
  (493, [492]),
  (495, [494]),
  (499, [497, 498]),
  (501, [500]),
  (505, [504]),
  (507, [506]),
  (509, [508]),
  (511, [510]),
  (513, [512]),
  (515, [514]),
  (517, [516]),
  (519, [518]),
  (521, [520]),
  (523, [522]),
  (525, [524]),
  (527, [526]),
  (529, [528]),
  (531, [530]),
  (533, [532]),
  (535, [534]),
  (537, [536]),
  (539, [538]),
  (541, [540]),
  (543, [542]),
  (547, [546]),
  (549, [548]),
  (551, [550]),
  (553, [552]),
  (555, [554]),
  (557, [556]),
  (559, [558]),
  (561, [560]),
  (563, [562]),
  (572, [571]),
  (575, [11390]),
  (576, [11391]),
  (578, [577]),
  (583, [582]),
  (585, [584]),
  (587, [586]),
  (589, [588]),
  (591, [590]),
  (592, [11375]),
  (593, [11373]),
  (594, [11376]),
  (595, [385]),
  (596, [390]),
  (598, [393]),
  (599, [394]),
  (601, [399]),
  (603, [400]),
  (604, [42923]),
  (608, [403]),
  (609, [42924]),
  (611, [404]),
  (613, [42893]),
  (614, [42922]),
  (616, [407]),
  (617, [406]),
  (618, [42926]),
  (619, [11362]),
  (620, [42925]),
  (623, [412]),
  (625, [11374]),
  (626, [413]),
  (629, [415]),
  (637, [11364]),
  (640, [422]),
  (642, [42949]),
  (643, [425]),
  (647, [42929]),
  (648, [430]),
  (649, [580]),
  (650, [433]),
  (651, [434]),
  (652, [581]),
  (658, [439]),
  (669, [42930]),
  (670, [42928]),
  (881, [880]),
  (883, [882]),
  (887, [886]),
  (891, [1021]),
  (892, [1022]),
  (893, [1023]),
  (940, [902]),
  (941, [904]),
  (942, [905]),
  (943, [906]),
  (945, [913]),
  (946, [914]),
  (947, [915]),
  (948, [916]),
  (949, [917]),
  (950, [918]),
  (951, [919]),
  (952, [920, 1012]),
  (953, [921]),
  (954, [922]),
  (955, [923]),
  (956, [924]),
  (957, [925]),
  (958, [926]),
  (959, [927]),
  (960, [928]),
  (961, [929]),
  (963, [931]),
  (964, [932]),
  (965, [933]),
  (966, [934]),
  (967, [935]),
  (968, [936]),
  (969, [937, 8486]),
  (970, [938]),
  (971, [939]),
  (972, [908]),
  (973, [910]),
  (974, [911]),
  (983, [975]),
  (985, [984]),
  (987, [986]),
  (989, [988]),
  (991, [990]),
  (993, [992]),
  (995, [994]),
  (997, [996]),
  (999, [998]),
  (1001, [1000]),
  (1003, [1002]),
  (1005, [1004]),
  (1007, [1006]),
  (1010, [1017]),
  (1011, [895]),
  (1016, [1015]),
  (1019, [1018]),
  (1072, [1040]),
  (1073, [1041]),
  (1074, [1042]),
  (1075, [1043]),
  (1076, [1044]),
  (1077, [1045]),
  (1078, [1046]),
  (1079, [1047]),
  (1080, [1048]),
  (1081, [1049]),
  (1082, [1050]),
  (1083, [1051]),
  (1084, [1052]),
  (1085, [1053]),
  (1086, [1054]),
  (1087, [1055]),
  (1088, [1056]),
  (1089, [1057]),
  (1090, [1058]),
  (1091, [1059]),
  (1092, [1060]),
  (1093, [1061]),
  (1094, [1062]),
  (1095, [1063]),
  (1096, [1064]),
  (1097, [1065]),
  (1098, [1066]),
  (1099, [1067]),
  (1100, [1068]),
  (1101, [1069]),
  (1102, [1070]),
  (1103, [1071]),
  (1104, [1024]),
  (1105, [1025]),
  (1106, [1026]),
  (1107, [1027]),
  (1108, [1028]),
  (1109, [1029]),
  (1110, [1030]),
  (1111, [1031]),
  (1112, [1032]),
  (1113, [1033]),
  (1114, [1034]),
  (1115, [1035]),
  (1116, [1036]),
  (1117, [1037]),
  (1118, [1038]),
  (1119, [1039]),
  (1121, [1120]),
  (1123, [1122]),
  (1125, [1124]),
  (1127, [1126]),
  (1129, [1128]),
  (1131, [1130]),
  (1133, [1132]),
  (1135, [1134]),
  (1137, [1136]),
  (1139, [1138]),
  (1141, [1140]),
  (1143, [1142]),
  (1145, [1144]),
  (1147, [1146]),
  (1149, [1148]),
  (1151, [1150]),
  (1153, [1152]),
  (1163, [1162]),
  (1165, [1164]),
  (1167, [1166]),
  (1169, [1168]),
  (1171, [1170]),
  (1173, [1172]),
  (1175, [1174]),
  (1177, [1176]),
  (1179, [1178]),
  (1181, [1180]),
  (1183, [1182]),
  (1185, [1184]),
  (1187, [1186]),
  (1189, [1188]),
  (1191, [1190]),
  (1193, [1192]),
  (1195, [1194]),
  (1197, [1196]),
  (1199, [1198]),
  (1201, [1200]),
  (1203, [1202]),
  (1205, [1204]),
  (1207, [1206]),
  (1209, [1208]),
  (1211, [1210]),
  (1213, [1212]),
  (1215, [1214]),
  (1218, [1217]),
  (1220, [1219]),
  (1222, [1221]),
  (1224, [1223]),
  (1226, [1225]),
  (1228, [1227]),
  (1230, [1229]),
  (1231, [1216]),
  (1233, [1232]),
  (1235, [1234]),
  (1237, [1236]),
  (1239, [1238]),
  (1241, [1240]),
  (1243, [1242]),
  (1245, [1244]),
  (1247, [1246]),
  (1249, [1248]),
  (1251, [1250]),
  (1253, [1252]),
  (1255, [1254]),
  (1257, [1256]),
  (1259, [1258]),
  (1261, [1260]),
  (1263, [1262]),
  (1265, [1264]),
  (1267, [1266]),
  (1269, [1268]),
  (1271, [1270]),
  (1273, [1272]),
  (1275, [1274]),
  (1277, [1276]),
  (1279, [1278]),
  (1281, [1280]),
  (1283, [1282]),
  (1285, [1284]),
  (1287, [1286]),
  (1289, [1288]),
  (1291, [1290]),
  (1293, [1292]),
  (1295, [1294]),
  (1297, [1296]),
  (1299, [1298]),
  (1301, [1300]),
  (1303, [1302]),
  (1305, [1304]),
  (1307, [1306]),
  (1309, [1308]),
  (1311, [1310]),
  (1313, [1312]),
  (1315, [1314]),
  (1317, [1316]),
  (1319, [1318]),
  (1321, [1320]),
  (1323, [1322]),
  (1325, [1324]),
  (1327, [1326]),
  (1377, [1329]),
  (1378, [1330]),
  (1379, [1331]),
  (1380, [1332]),
  (1381, [1333]),
  (1382, [1334]),
  (1383, [1335]),
  (1384, [1336]),
  (1385, [1337]),
  (1386, [1338]),
  (1387, [1339]),
  (1388, [1340]),
  (1389, [1341]),
  (1390, [1342]),
  (1391, [1343]),
  (1392, [1344]),
  (1393, [1345]),
  (1394, [1346]),
  (1395, [1347]),
  (1396, [1348]),
  (1397, [1349]),
  (1398, [1350]),
  (1399, [1351]),
  (1400, [1352]),
  (1401, [1353]),
  (1402, [1354]),
  (1403, [1355]),
  (1404, [1356]),
  (1405, [1357]),
  (1406, [1358]),
  (1407, [1359]),
  (1408, [1360]),
  (1409, [1361]),
  (1410, [1362]),
  (1411, [1363]),
  (1412, [1364]),
  (1413, [1365]),
  (1414, [1366]),
  (4304, [7312]),
  (4305, [7313]),
  (4306, [7314]),
  (4307, [7315]),
  (4308, [7316]),
  (4309, [7317]),
  (4310, [7318]),
  (4311, [7319]),
  (4312, [7320]),
  (4313, [7321]),
  (4314, [7322]),
  (4315, [7323]),
  (4316, [7324]),
  (4317, [7325]),
  (4318, [7326]),
  (4319, [7327]),
  (4320, [7328]),
  (4321, [7329]),
  (4322, [7330]),
  (4323, [7331]),
  (4324, [7332]),
  (4325, [7333]),
  (4326, [7334]),
  (4327, [7335]),
  (4328, [7336]),
  (4329, [7337]),
  (4330, [7338]),
  (4331, [7339]),
  (4332, [7340]),
  (4333, [7341]),
  (4334, [7342]),
  (4335, [7343]),
  (4336, [7344]),
  (4337, [7345]),
  (4338, [7346]),
  (4339, [7347]),
  (4340, [7348]),
  (4341, [7349]),
  (4342, [7350]),
  (4343, [7351]),
  (4344, [7352]),
  (4345, [7353]),
  (4346, [7354]),
  (4349, [7357]),
  (4350, [7358]),
  (4351, [7359]),
  (5112, [5104]),
  (5113, [5105]),
  (5114, [5106]),
  (5115, [5107]),
  (5116, [5108]),
  (5117, [5109]),
  (7545, [42877]),
  (7549, [11363]),
  (7566, [42950]),
  (7681, [7680]),
  (7683, [7682]),
  (7685, [7684]),
  (7687, [7686]),
  (7689, [7688]),
  (7691, [7690]),
  (7693, [7692]),
  (7695, [7694]),
  (7697, [7696]),
  (7699, [7698]),
  (7701, [7700]),
  (7703, [7702]),
  (7705, [7704]),
  (7707, [7706]),
  (7709, [7708]),
  (7711, [7710]),
  (7713, [7712]),
  (7715, [7714]),
  (7717, [7716]),
  (7719, [7718]),
  (7721, [7720]),
  (7723, [7722]),
  (7725, [7724]),
  (7727, [7726]),
  (7729, [7728]),
  (7731, [7730]),
  (7733, [7732]),
  (7735, [7734]),
  (7737, [7736]),
  (7739, [7738]),
  (7741, [7740]),
  (7743, [7742]),
  (7745, [7744]),
  (7747, [7746]),
  (7749, [7748]),
  (7751, [7750]),
  (7753, [7752]),
  (7755, [7754]),
  (7757, [7756]),
  (7759, [7758]),
  (7761, [7760]),
  (7763, [7762]),
  (7765, [7764]),
  (7767, [7766]),
  (7769, [7768]),
  (7771, [7770]),
  (7773, [7772]),
  (7775, [7774]),
  (7777, [7776]),
  (7779, [7778]),
  (7781, [7780]),
  (7783, [7782]),
  (7785, [7784]),
  (7787, [7786]),
  (7789, [7788]),
  (7791, [7790]),
  (7793, [7792]),
  (7795, [7794]),
  (7797, [7796]),
  (7799, [7798]),
  (7801, [7800]),
  (7803, [7802]),
  (7805, [7804]),
  (7807, [7806]),
  (7809, [7808]),
  (7811, [7810]),
  (7813, [7812]),
  (7815, [7814]),
  (7817, [7816]),
  (7819, [7818]),
  (7821, [7820]),
  (7823, [7822]),
  (7825, [7824]),
  (7827, [7826]),
  (7829, [7828]),
  (7841, [7840]),
  (7843, [7842]),
  (7845, [7844]),
  (7847, [7846]),
  (7849, [7848]),
  (7851, [7850]),
  (7853, [7852]),
  (7855, [7854]),
  (7857, [7856]),
  (7859, [7858]),
  (7861, [7860]),
  (7863, [7862]),
  (7865, [7864]),
  (7867, [7866]),
  (7869, [7868]),
  (7871, [7870]),
  (7873, [7872]),
  (7875, [7874]),
  (7877, [7876]),
  (7879, [7878]),
  (7881, [7880]),
  (7883, [7882]),
  (7885, [7884]),
  (7887, [7886]),
  (7889, [7888]),
  (7891, [7890]),
  (7893, [7892]),
  (7895, [7894]),
  (7897, [7896]),
  (7899, [7898]),
  (7901, [7900]),
  (7903, [7902]),
  (7905, [7904]),
  (7907, [7906]),
  (7909, [7908]),
  (7911, [7910]),
  (7913, [7912]),
  (7915, [7914]),
  (7917, [7916]),
  (7919, [7918]),
  (7921, [7920]),
  (7923, [7922]),
  (7925, [7924]),
  (7927, [7926]),
  (7929, [7928]),
  (7931, [7930]),
  (7933, [7932]),
  (7935, [7934]),
  (7936, [7944]),
  (7937, [7945]),
  (7938, [7946]),
  (7939, [7947]),
  (7940, [7948]),
  (7941, [7949]),
  (7942, [7950]),
  (7943, [7951]),
  (7952, [7960]),
  (7953, [7961]),
  (7954, [7962]),
  (7955, [7963]),
  (7956, [7964]),
  (7957, [7965]),
  (7968, [7976]),
  (7969, [7977]),
  (7970, [7978]),
  (7971, [7979]),
  (7972, [7980]),
  (7973, [7981]),
  (7974, [7982]),
  (7975, [7983]),
  (7984, [7992]),
  (7985, [7993]),
  (7986, [7994]),
  (7987, [7995]),
  (7988, [7996]),
  (7989, [7997]),
  (7990, [7998]),
  (7991, [7999]),
  (8000, [8008]),
  (8001, [8009]),
  (8002, [8010]),
  (8003, [8011]),
  (8004, [8012]),
  (8005, [8013]),
  (8017, [8025]),
  (8019, [8027]),
  (8021, [8029]),
  (8023, [8031]),
  (8032, [8040]),
  (8033, [8041]),
  (8034, [8042]),
  (8035, [8043]),
  (8036, [8044]),
  (8037, [8045]),
  (8038, [8046]),
  (8039, [8047]),
  (8048, [8122]),
  (8049, [8123]),
  (8050, [8136]),
  (8051, [8137]),
  (8052, [8138]),
  (8053, [8139]),
  (8054, [8154]),
  (8055, [8155]),
  (8056, [8184]),
  (8057, [8185]),
  (8058, [8170]),
  (8059, [8171]),
  (8060, [8186]),
  (8061, [8187]),
  (8064, [8072]),
  (8065, [8073]),
  (8066, [8074]),
  (8067, [8075]),
  (8068, [8076]),
  (8069, [8077]),
  (8070, [8078]),
  (8071, [8079]),
  (8080, [8088]),
  (8081, [8089]),
  (8082, [8090]),
  (8083, [8091]),
  (8084, [8092]),
  (8085, [8093]),
  (8086, [8094]),
  (8087, [8095]),
  (8096, [8104]),
  (8097, [8105]),
  (8098, [8106]),
  (8099, [8107]),
  (8100, [8108]),
  (8101, [8109]),
  (8102, [8110]),
  (8103, [8111]),
  (8112, [8120]),
  (8113, [8121]),
  (8115, [8124]),
  (8131, [8140]),
  (8144, [8152]),
  (8145, [8153]),
  (8160, [8168]),
  (8161, [8169]),
  (8165, [8172]),
  (8179, [8188]),
  (8526, [8498]),
  (8560, [8544]),
  (8561, [8545]),
  (8562, [8546]),
  (8563, [8547]),
  (8564, [8548]),
  (8565, [8549]),
  (8566, [8550]),
  (8567, [8551]),
  (8568, [8552]),
  (8569, [8553]),
  (8570, [8554]),
  (8571, [8555]),
  (8572, [8556]),
  (8573, [8557]),
  (8574, [8558]),
  (8575, [8559]),
  (8580, [8579]),
  (9424, [9398]),
  (9425, [9399]),
  (9426, [9400]),
  (9427, [9401]),
  (9428, [9402]),
  (9429, [9403]),
  (9430, [9404]),
  (9431, [9405]),
  (9432, [9406]),
  (9433, [9407]),
  (9434, [9408]),
  (9435, [9409]),
  (9436, [9410]),
  (9437, [9411]),
  (9438, [9412]),
  (9439, [9413]),
  (9440, [9414]),
  (9441, [9415]),
  (9442, [9416]),
  (9443, [9417]),
  (9444, [9418]),
  (9445, [9419]),
  (9446, [9420]),
  (9447, [9421]),
  (9448, [9422]),
  (9449, [9423]),
  (11312, [11264]),
  (11313, [11265]),
  (11314, [11266]),
  (11315, [11267]),
  (11316, [11268]),
  (11317, [11269]),
  (11318, [11270]),
  (11319, [11271]),
  (11320, [11272]),
  (11321, [11273]),
  (11322, [11274]),
  (11323, [11275]),
  (11324, [11276]),
  (11325, [11277]),
  (11326, [11278]),
  (11327, [11279]),
  (11328, [11280]),
  (11329, [11281]),
  (11330, [11282]),
  (11331, [11283]),
  (11332, [11284]),
  (11333, [11285]),
  (11334, [11286]),
  (11335, [11287]),
  (11336, [11288]),
  (11337, [11289]),
  (11338, [11290]),
  (11339, [11291]),
  (11340, [11292]),
  (11341, [11293]),
  (11342, [11294]),
  (11343, [11295]),
  (11344, [11296]),
  (11345, [11297]),
  (11346, [11298]),
  (11347, [11299]),
  (11348, [11300]),
  (11349, [11301]),
  (11350, [11302]),
  (11351, [11303]),
  (11352, [11304]),
  (11353, [11305]),
  (11354, [11306]),
  (11355, [11307]),
  (11356, [11308]),
  (11357, [11309]),
  (11358, [11310]),
  (11359, [11311]),
  (11361, [11360]),
  (11365, [570]),
  (11366, [574]),
  (11368, [11367]),
  (11370, [11369]),
  (11372, [11371]),
  (11379, [11378]),
  (11382, [11381]),
  (11393, [11392]),
  (11395, [11394]),
  (11397, [11396]),
  (11399, [11398]),
  (11401, [11400]),
  (11403, [11402]),
  (11405, [11404]),
  (11407, [11406]),
  (11409, [11408]),
  (11411, [11410]),
  (11413, [11412]),
  (11415, [11414]),
  (11417, [11416]),
  (11419, [11418]),
  (11421, [11420]),
  (11423, [11422]),
  (11425, [11424]),
  (11427, [11426]),
  (11429, [11428]),
  (11431, [11430]),
  (11433, [11432]),
  (11435, [11434]),
  (11437, [11436]),
  (11439, [11438]),
  (11441, [11440]),
  (11443, [11442]),
  (11445, [11444]),
  (11447, [11446]),
  (11449, [11448]),
  (11451, [11450]),
  (11453, [11452]),
  (11455, [11454]),
  (11457, [11456]),
  (11459, [11458]),
  (11461, [11460]),
  (11463, [11462]),
  (11465, [11464]),
  (11467, [11466]),
  (11469, [11468]),
  (11471, [11470]),
  (11473, [11472]),
  (11475, [11474]),
  (11477, [11476]),
  (11479, [11478]),
  (11481, [11480]),
  (11483, [11482]),
  (11485, [11484]),
  (11487, [11486]),
  (11489, [11488]),
  (11491, [11490]),
  (11500, [11499]),
  (11502, [11501]),
  (11507, [11506]),
  (11520, [4256]),
  (11521, [4257]),
  (11522, [4258]),
  (11523, [4259]),
  (11524, [4260]),
  (11525, [4261]),
  (11526, [4262]),
  (11527, [4263]),
  (11528, [4264]),
  (11529, [4265]),
  (11530, [4266]),
  (11531, [4267]),
  (11532, [4268]),
  (11533, [4269]),
  (11534, [4270]),
  (11535, [4271]),
  (11536, [4272]),
  (11537, [4273]),
  (11538, [4274]),
  (11539, [4275]),
  (11540, [4276]),
  (11541, [4277]),
  (11542, [4278]),
  (11543, [4279]),
  (11544, [4280]),
  (11545, [4281]),
  (11546, [4282]),
  (11547, [4283]),
  (11548, [4284]),
  (11549, [4285]),
  (11550, [4286]),
  (11551, [4287]),
  (11552, [4288]),
  (11553, [4289]),
  (11554, [4290]),
  (11555, [4291]),
  (11556, [4292]),
  (11557, [4293]),
  (11559, [4295]),
  (11565, [4301]),
  (42561, [42560]),
  (42563, [42562]),
  (42565, [42564]),
  (42567, [42566]),
  (42569, [42568]),
  (42571, [42570]),
  (42573, [42572]),
  (42575, [42574]),
  (42577, [42576]),
  (42579, [42578]),
  (42581, [42580]),
  (42583, [42582]),
  (42585, [42584]),
  (42587, [42586]),
  (42589, [42588]),
  (42591, [42590]),
  (42593, [42592]),
  (42595, [42594]),
  (42597, [42596]),
  (42599, [42598]),
  (42601, [42600]),
  (42603, [42602]),
  (42605, [42604]),
  (42625, [42624]),
  (42627, [42626]),
  (42629, [42628]),
  (42631, [42630]),
  (42633, [42632]),
  (42635, [42634]),
  (42637, [42636]),
  (42639, [42638]),
  (42641, [42640]),
  (42643, [42642]),
  (42645, [42644]),
  (42647, [42646]),
  (42649, [42648]),
  (42651, [42650]),
  (42787, [42786]),
  (42789, [42788]),
  (42791, [42790]),
  (42793, [42792]),
  (42795, [42794]),
  (42797, [42796]),
  (42799, [42798]),
  (42803, [42802]),
  (42805, [42804]),
  (42807, [42806]),
  (42809, [42808]),
  (42811, [42810]),
  (42813, [42812]),
  (42815, [42814]),
  (42817, [42816]),
  (42819, [42818]),
  (42821, [42820]),
  (42823, [42822]),
  (42825, [42824]),
  (42827, [42826]),
  (42829, [42828]),
  (42831, [42830]),
  (42833, [42832]),
  (42835, [42834]),
  (42837, [42836]),
  (42839, [42838]),
  (42841, [42840]),
  (42843, [42842]),
  (42845, [42844]),
  (42847, [42846]),
  (42849, [42848]),
  (42851, [42850]),
  (42853, [42852]),
  (42855, [42854]),
  (42857, [42856]),
  (42859, [42858]),
  (42861, [42860]),
  (42863, [42862]),
  (42874, [42873]),
  (42876, [42875]),
  (42879, [42878]),
  (42881, [42880]),
  (42883, [42882]),
  (42885, [42884]),
  (42887, [42886]),
  (42892, [42891]),
  (42897, [42896]),
  (42899, [42898]),
  (42900, [42948]),
  (42903, [42902]),
  (42905, [42904]),
  (42907, [42906]),
  (42909, [42908]),
  (42911, [42910]),
  (42913, [42912]),
  (42915, [42914]),
  (42917, [42916]),
  (42919, [42918]),
  (42921, [42920]),
  (42933, [42932]),
  (42935, [42934]),
  (42937, [42936]),
  (42939, [42938]),
  (42941, [42940]),
  (42943, [42942]),
  (42945, [42944]),
  (42947, [42946]),
  (42952, [42951]),
  (42954, [42953]),
  (42961, [42960]),
  (42967, [42966]),
  (42969, [42968]),
  (42998, [42997]),
  (43859, [42931]),
  (43888, [5024]),
  (43889, [5025]),
  (43890, [5026]),
  (43891, [5027]),
  (43892, [5028]),
  (43893, [5029]),
  (43894, [5030]),
  (43895, [5031]),
  (43896, [5032]),
  (43897, [5033]),
  (43898, [5034]),
  (43899, [5035]),
  (43900, [5036]),
  (43901, [5037]),
  (43902, [5038]),
  (43903, [5039]),
  (43904, [5040]),
  (43905, [5041]),
  (43906, [5042]),
  (43907, [5043]),
  (43908, [5044]),
  (43909, [5045]),
  (43910, [5046]),
  (43911, [5047]),
  (43912, [5048]),
  (43913, [5049]),
  (43914, [5050]),
  (43915, [5051]),
  (43916, [5052]),
  (43917, [5053]),
  (43918, [5054]),
  (43919, [5055]),
  (43920, [5056]),
  (43921, [5057]),
  (43922, [5058]),
  (43923, [5059]),
  (43924, [5060]),
  (43925, [5061]),
  (43926, [5062]),
  (43927, [5063]),
  (43928, [5064]),
  (43929, [5065]),
  (43930, [5066]),
  (43931, [5067]),
  (43932, [5068]),
  (43933, [5069]),
  (43934, [5070]),
  (43935, [5071]),
  (43936, [5072]),
  (43937, [5073]),
  (43938, [5074]),
  (43939, [5075]),
  (43940, [5076]),
  (43941, [5077]),
  (43942, [5078]),
  (43943, [5079]),
  (43944, [5080]),
  (43945, [5081]),
  (43946, [5082]),
  (43947, [5083]),
  (43948, [5084]),
  (43949, [5085]),
  (43950, [5086]),
  (43951, [5087]),
  (43952, [5088]),
  (43953, [5089]),
  (43954, [5090]),
  (43955, [5091]),
  (43956, [5092]),
  (43957, [5093]),
  (43958, [5094]),
  (43959, [5095]),
  (43960, [5096]),
  (43961, [5097]),
  (43962, [5098]),
  (43963, [5099]),
  (43964, [5100]),
  (43965, [5101]),
  (43966, [5102]),
  (43967, [5103]),
  (65345, [65313]),
  (65346, [65314]),
  (65347, [65315]),
  (65348, [65316]),
  (65349, [65317]),
  (65350, [65318]),
  (65351, [65319]),
  (65352, [65320]),
  (65353, [65321]),
  (65354, [65322]),
  (65355, [65323]),
  (65356, [65324]),
  (65357, [65325]),
  (65358, [65326]),
  (65359, [65327]),
  (65360, [65328]),
  (65361, [65329]),
  (65362, [65330]),
  (65363, [65331]),
  (65364, [65332]),
  (65365, [65333]),
  (65366, [65334]),
  (65367, [65335]),
  (65368, [65336]),
  (65369, [65337]),
  (65370, [65338]),
  (66600, [66560]),
  (66601, [66561]),
  (66602, [66562]),
  (66603, [66563]),
  (66604, [66564]),
  (66605, [66565]),
  (66606, [66566]),
  (66607, [66567]),
  (66608, [66568]),
  (66609, [66569]),
  (66610, [66570]),
  (66611, [66571]),
  (66612, [66572]),
  (66613, [66573]),
  (66614, [66574]),
  (66615, [66575]),
  (66616, [66576]),
  (66617, [66577]),
  (66618, [66578]),
  (66619, [66579]),
  (66620, [66580]),
  (66621, [66581]),
  (66622, [66582]),
  (66623, [66583]),
  (66624, [66584]),
  (66625, [66585]),
  (66626, [66586]),
  (66627, [66587]),
  (66628, [66588]),
  (66629, [66589]),
  (66630, [66590]),
  (66631, [66591]),
  (66632, [66592]),
  (66633, [66593]),
  (66634, [66594]),
  (66635, [66595]),
  (66636, [66596]),
  (66637, [66597]),
  (66638, [66598]),
  (66639, [66599]),
  (66776, [66736]),
  (66777, [66737]),
  (66778, [66738]),
  (66779, [66739]),
  (66780, [66740]),
  (66781, [66741]),
  (66782, [66742]),
  (66783, [66743]),
  (66784, [66744]),
  (66785, [66745]),
  (66786, [66746]),
  (66787, [66747]),
  (66788, [66748]),
  (66789, [66749]),
  (66790, [66750]),
  (66791, [66751]),
  (66792, [66752]),
  (66793, [66753]),
  (66794, [66754]),
  (66795, [66755]),
  (66796, [66756]),
  (66797, [66757]),
  (66798, [66758]),
  (66799, [66759]),
  (66800, [66760]),
  (66801, [66761]),
  (66802, [66762]),
  (66803, [66763]),
  (66804, [66764]),
  (66805, [66765]),
  (66806, [66766]),
  (66807, [66767]),
  (66808, [66768]),
  (66809, [66769]),
  (66810, [66770]),
  (66811, [66771]),
  (66967, [66928]),
  (66968, [66929]),
  (66969, [66930]),
  (66970, [66931]),
  (66971, [66932]),
  (66972, [66933]),
  (66973, [66934]),
  (66974, [66935]),
  (66975, [66936]),
  (66976, [66937]),
  (66977, [66938]),
  (66979, [66940]),
  (66980, [66941]),
  (66981, [66942]),
  (66982, [66943]),
  (66983, [66944]),
  (66984, [66945]),
  (66985, [66946]),
  (66986, [66947]),
  (66987, [66948]),
  (66988, [66949]),
  (66989, [66950]),
  (66990, [66951]),
  (66991, [66952]),
  (66992, [66953]),
  (66993, [66954]),
  (66995, [66956]),
  (66996, [66957]),
  (66997, [66958]),
  (66998, [66959]),
  (66999, [66960]),
  (67000, [66961]),
  (67001, [66962]),
  (67003, [66964]),
  (67004, [66965]),
  (68800, [68736]),
  (68801, [68737]),
  (68802, [68738]),
  (68803, [68739]),
  (68804, [68740]),
  (68805, [68741]),
  (68806, [68742]),
  (68807, [68743]),
  (68808, [68744]),
  (68809, [68745]),
  (68810, [68746]),
  (68811, [68747]),
  (68812, [68748]),
  (68813, [68749]),
  (68814, [68750]),
  (68815, [68751]),
  (68816, [68752]),
  (68817, [68753]),
  (68818, [68754]),
  (68819, [68755]),
  (68820, [68756]),
  (68821, [68757]),
  (68822, [68758]),
  (68823, [68759]),
  (68824, [68760]),
  (68825, [68761]),
  (68826, [68762]),
  (68827, [68763]),
  (68828, [68764]),
  (68829, [68765]),
  (68830, [68766]),
  (68831, [68767]),
  (68832, [68768]),
  (68833, [68769]),
  (68834, [68770]),
  (68835, [68771]),
  (68836, [68772]),
  (68837, [68773]),
  (68838, [68774]),
  (68839, [68775]),
  (68840, [68776]),
  (68841, [68777]),
  (68842, [68778]),
  (68843, [68779]),
  (68844, [68780]),
  (68845, [68781]),
  (68846, [68782]),
  (68847, [68783]),
  (68848, [68784]),
  (68849, [68785]),
  (68850, [68786]),
  (71872, [71840]),
  (71873, [71841]),
  (71874, [71842]),
  (71875, [71843]),
  (71876, [71844]),
  (71877, [71845]),
  (71878, [71846]),
  (71879, [71847]),
  (71880, [71848]),
  (71881, [71849]),
  (71882, [71850]),
  (71883, [71851]),
  (71884, [71852]),
  (71885, [71853]),
  (71886, [71854]),
  (71887, [71855]),
  (71888, [71856]),
  (71889, [71857]),
  (71890, [71858]),
  (71891, [71859]),
  (71892, [71860]),
  (71893, [71861]),
  (71894, [71862]),
  (71895, [71863]),
  (71896, [71864]),
  (71897, [71865]),
  (71898, [71866]),
  (71899, [71867]),
  (71900, [71868]),
  (71901, [71869]),
  (71902, [71870]),
  (71903, [71871]),
  (93792, [93760]),
  (93793, [93761]),
  (93794, [93762]),
  (93795, [93763]),
  (93796, [93764]),
  (93797, [93765]),
  (93798, [93766]),
  (93799, [93767]),
  (93800, [93768]),
  (93801, [93769]),
  (93802, [93770]),
  (93803, [93771]),
  (93804, [93772]),
  (93805, [93773]),
  (93806, [93774]),
  (93807, [93775]),
  (93808, [93776]),
  (93809, [93777]),
  (93810, [93778]),
  (93811, [93779]),
  (93812, [93780]),
  (93813, [93781]),
  (93814, [93782]),
  (93815, [93783]),
  (93816, [93784]),
  (93817, [93785]),
  (93818, [93786]),
  (93819, [93787]),
  (93820, [93788]),
  (93821, [93789]),
  (93822, [93790]),
  (93823, [93791]),
  (125218, [125184]),
  (125219, [125185]),
  (125220, [125186]),
  (125221, [125187]),
  (125222, [125188]),
  (125223, [125189]),
  (125224, [125190]),
  (125225, [125191]),
  (125226, [125192]),
  (125227, [125193]),
  (125228, [125194]),
  (125229, [125195]),
  (125230, [125196]),
  (125231, [125197]),
  (125232, [125198]),
  (125233, [125199]),
  (125234, [125200]),
  (125235, [125201]),
  (125236, [125202]),
  (125237, [125203]),
  (125238, [125204]),
  (125239, [125205]),
  (125240, [125206]),
  (125241, [125207]),
  (125242, [125208]),
  (125243, [125209]),
  (125244, [125210]),
  (125245, [125211]),
  (125246, [125212]),
  (125247, [125213]),
  (125248, [125214]),
  (125249, [125215]),
  (125250, [125216]),
  (125251, [125217])]

/-- Lower-case code points that case-insensitive matching also identifies with each other
beyond their common upper case (dotless i and i, long s and s, the Greek symbol variants). -/
def foldVariantTable : List (Nat × List Nat) := [
  (105, [305]),
  (115, [383]),
  (181, [956]),
  (305, [105]),
  (383, [115]),
  (837, [953, 8126]),
  (912, [8147]),
  (944, [8163]),
  (946, [976]),
  (949, [1013]),
  (952, [977]),
  (953, [837, 8126]),
  (954, [1008]),
  (956, [181]),
  (960, [982]),
  (961, [1009]),
  (962, [963]),
  (963, [962]),
  (966, [981]),
  (976, [946]),
  (977, [952]),
  (981, [966]),
  (982, [960]),
  (1008, [954]),
  (1009, [961]),
  (1013, [949]),
  (1074, [7296]),
  (1076, [7297]),
  (1086, [7298]),
  (1089, [7299]),
  (1090, [7300, 7301]),
  (1098, [7302]),
  (1123, [7303]),
  (7296, [1074]),
  (7297, [1076]),
  (7298, [1086]),
  (7299, [1089]),
  (7300, [1090, 7301]),
  (7301, [1090, 7300]),
  (7302, [1098]),
  (7303, [1123]),
  (7304, [42571]),
  (7777, [7835]),
  (7835, [7777]),
  (8126, [837, 953]),
  (8147, [912]),
  (8163, [944]),
  (42571, [7304]),
  (64261, [64262]),
  (64262, [64261])]

/-- Code points that a simple case map moves. -/
def caseMovedRanges : Array (Nat × Nat) := #[
  (65, 90), (97, 122), (181, 181), (192, 214), (216, 246), (248, 311),
  (313, 396), (398, 410), (412, 425), (428, 441), (444, 445), (447, 447),
  (452, 544), (546, 563), (570, 596), (598, 599), (601, 601), (603, 604),
  (608, 609), (611, 611), (613, 614), (616, 620), (623, 623), (625, 626),
  (629, 629), (637, 637), (640, 640), (642, 643), (647, 652), (658, 658),
  (669, 670), (837, 837), (880, 883), (886, 887), (891, 893), (895, 895),
  (902, 902), (904, 906), (908, 908), (910, 929), (931, 977), (981, 1013),
  (1015, 1019), (1021, 1153), (1162, 1327), (1329, 1366), (1377, 1415), (4256, 4293),
  (4295, 4295), (4301, 4301), (4304, 4346), (4349, 4351), (5024, 5109), (5112, 5117),
  (7296, 7304), (7312, 7354), (7357, 7359), (7545, 7545), (7549, 7549), (7566, 7566),
  (7680, 7835), (7838, 7838), (7840, 7957), (7960, 7965), (7968, 8005), (8008, 8013),
  (8016, 8023), (8025, 8025), (8027, 8027), (8029, 8029), (8031, 8061), (8064, 8116),
  (8118, 8124), (8126, 8126), (8130, 8132), (8134, 8140), (8144, 8147), (8150, 8155),
  (8160, 8172), (8178, 8180), (8182, 8188), (8486, 8486), (8490, 8491), (8498, 8498),
  (8526, 8526), (8544, 8575), (8579, 8580), (9398, 9449), (11264, 11376), (11378, 11379),
  (11381, 11382), (11390, 11491), (11499, 11502), (11506, 11507), (11520, 11557), (11559, 11559),
  (11565, 11565), (42560, 42605), (42624, 42651), (42786, 42799), (42802, 42863), (42873, 42887),
  (42891, 42893), (42896, 42900), (42902, 42926), (42928, 42954), (42960, 42961), (42966, 42969),
  (42997, 42998), (43859, 43859), (43888, 43967), (64256, 64262), (64275, 64279), (65313, 65338),
  (65345, 65370), (66560, 66639), (66736, 66771), (66776, 66811), (66928, 66938), (66940, 66954),
  (66956, 66962), (66964, 66965), (66967, 66977), (66979, 66993), (66995, 67001), (67003, 67004),
  (68736, 68786), (68800, 68850), (71840, 71903), (93760, 93823), (125184, 125251)]

/-- Code points with the Cased property. -/
def casedRanges : Array (Nat × Nat) := #[
  (65, 90), (97, 122), (170, 170), (181, 181), (186, 186), (192, 214),
  (216, 246), (248, 442), (444, 447), (452, 659), (661, 696), (704, 705),
  (736, 740), (837, 837), (880, 883), (886, 887), (890, 893), (895, 895),
  (902, 902), (904, 906), (908, 908), (910, 929), (931, 1013), (1015, 1153),
  (1162, 1327), (1329, 1366), (1376, 1416), (4256, 4293), (4295, 4295), (4301, 4301),
  (4304, 4346), (4349, 4351), (5024, 5109), (5112, 5117), (7296, 7304), (7312, 7354),
  (7357, 7359), (7424, 7615), (7680, 7957), (7960, 7965), (7968, 8005), (8008, 8013),
  (8016, 8023), (8025, 8025), (8027, 8027), (8029, 8029), (8031, 8061), (8064, 8116),
  (8118, 8124), (8126, 8126), (8130, 8132), (8134, 8140), (8144, 8147), (8150, 8155),
  (8160, 8172), (8178, 8180), (8182, 8188), (8305, 8305), (8319, 8319), (8336, 8348),
  (8450, 8450), (8455, 8455), (8458, 8467), (8469, 8469), (8473, 8477), (8484, 8484),
  (8486, 8486), (8488, 8488), (8490, 8493), (8495, 8500), (8505, 8505), (8508, 8511),
  (8517, 8521), (8526, 8526), (8544, 8575), (8579, 8580), (9398, 9449), (11264, 11492),
  (11499, 11502), (11506, 11507), (11520, 11557), (11559, 11559), (11565, 11565), (42560, 42605),
  (42624, 42653), (42786, 42887), (42891, 42894), (42896, 42954), (42960, 42961), (42963, 42963),
  (42965, 42969), (42997, 42998), (43000, 43002), (43824, 43866), (43868, 43880), (43888, 43967),
  (64256, 64262), (64275, 64279), (65313, 65338), (65345, 65370), (66560, 66639), (66736, 66771),
  (66776, 66811), (66928, 66938), (66940, 66954), (66956, 66962), (66964, 66965), (66967, 66977),
  (66979, 66993), (66995, 67001), (67003, 67004), (67456, 67456), (67459, 67461), (67463, 67504),
  (67506, 67514), (68736, 68786), (68800, 68850), (71840, 71903), (93760, 93823), (119808, 119892),
  (119894, 119964), (119966, 119967), (119970, 119970), (119973, 119974), (119977, 119980), (119982, 119993),
  (119995, 119995), (119997, 120003), (120005, 120069), (120071, 120074), (120077, 120084), (120086, 120092),
  (120094, 120121), (120123, 120126), (120128, 120132), (120134, 120134), (120138, 120144), (120146, 120485),
  (120488, 120512), (120514, 120538), (120540, 120570), (120572, 120596), (120598, 120628), (120630, 120654),
  (120656, 120686), (120688, 120712), (120714, 120744), (120746, 120770), (120772, 120779), (122624, 122633),
  (122635, 122654), (125184, 125251), (127280, 127305), (127312, 127337), (127344, 127369)]

/-- Code points with the Case_Ignorable property. -/
def caseIgnorableRanges : Array (Nat × Nat) := #[
  (39, 39), (46, 46), (58, 58), (94, 94), (96, 96), (168, 168),
  (173, 173), (175, 175), (180, 180), (183, 184), (688, 879), (884, 885),
  (890, 890), (900, 901), (903, 903), (1155, 1161), (1369, 1369), (1375, 1375),
  (1425, 1469), (1471, 1471), (1473, 1474), (1476, 1477), (1479, 1479), (1524, 1524),
  (1536, 1541), (1552, 1562), (1564, 1564), (1600, 1600), (1611, 1631), (1648, 1648),
  (1750, 1757), (1759, 1768), (1770, 1773), (1807, 1807), (1809, 1809), (1840, 1866),
  (1958, 1968), (2027, 2037), (2042, 2042), (2045, 2045), (2070, 2093), (2137, 2139),
  (2184, 2184), (2192, 2193), (2200, 2207), (2249, 2306), (2362, 2362), (2364, 2364),
  (2369, 2376), (2381, 2381), (2385, 2391), (2402, 2403), (2417, 2417), (2433, 2433),
  (2492, 2492), (2497, 2500), (2509, 2509), (2530, 2531), (2558, 2558), (2561, 2562),
  (2620, 2620), (2625, 2626), (2631, 2632), (2635, 2637), (2641, 2641), (2672, 2673),
  (2677, 2677), (2689, 2690), (2748, 2748), (2753, 2757), (2759, 2760), (2765, 2765),
  (2786, 2787), (2810, 2815), (2817, 2817), (2876, 2876), (2879, 2879), (2881, 2884),
  (2893, 2893), (2901, 2902), (2914, 2915), (2946, 2946), (3008, 3008), (3021, 3021),
  (3072, 3072), (3076, 3076), (3132, 3132), (3134, 3136), (3142, 3144), (3146, 3149),
  (3157, 3158), (3170, 3171), (3201, 3201), (3260, 3260), (3263, 3263), (3270, 3270),
  (3276, 3277), (3298, 3299), (3328, 3329), (3387, 3388), (3393, 3396), (3405, 3405),
  (3426, 3427), (3457, 3457), (3530, 3530), (3538, 3540), (3542, 3542), (3633, 3633),
  (3636, 3642), (3654, 3662), (3761, 3761), (3764, 3772), (3782, 3782), (3784, 3789),
  (3864, 3865), (3893, 3893), (3895, 3895), (3897, 3897), (3953, 3966), (3968, 3972),
  (3974, 3975), (3981, 3991), (3993, 4028), (4038, 4038), (4141, 4144), (4146, 4151),
  (4153, 4154), (4157, 4158), (4184, 4185), (4190, 4192), (4209, 4212), (4226, 4226),
  (4229, 4230), (4237, 4237), (4253, 4253), (4348, 4348), (4957, 4959), (5906, 5908),
  (5938, 5939), (5970, 5971), (6002, 6003), (6068, 6069), (6071, 6077), (6086, 6086),
  (6089, 6099), (6103, 6103), (6109, 6109), (6155, 6159), (6211, 6211), (6277, 6278),
  (6313, 6313), (6432, 6434), (6439, 6440), (6450, 6450), (6457, 6459), (6679, 6680),
  (6683, 6683), (6742, 6742), (6744, 6750), (6752, 6752), (6754, 6754), (6757, 6764),
  (6771, 6780), (6783, 6783), (6823, 6823), (6832, 6862), (6912, 6915), (6964, 6964),
  (6966, 6970), (6972, 6972), (6978, 6978), (7019, 7027), (7040, 7041), (7074, 7077),
  (7080, 7081), (7083, 7085), (7142, 7142), (7144, 7145), (7149, 7149), (7151, 7153),
  (7212, 7219), (7222, 7223), (7288, 7293), (7376, 7378), (7380, 7392), (7394, 7400),
  (7405, 7405), (7412, 7412), (7416, 7417), (7468, 7530), (7544, 7544), (7579, 7679),
  (8125, 8125), (8127, 8129), (8141, 8143), (8157, 8159), (8173, 8175), (8189, 8190),
  (8203, 8207), (8216, 8217), (8228, 8228), (8231, 8231), (8234, 8238), (8288, 8292),
  (8294, 8303), (8305, 8305), (8319, 8319), (8336, 8348), (8400, 8432), (11388, 11389),
  (11503, 11505), (11631, 11631), (11647, 11647), (11744, 11775), (11823, 11823), (12293, 12293),
  (12330, 12333), (12337, 12341), (12347, 12347), (12441, 12446), (12540, 12542), (40981, 40981),
  (42232, 42237), (42508, 42508), (42607, 42610), (42612, 42621), (42623, 42623), (42652, 42655),
  (42736, 42737), (42752, 42785), (42864, 42864), (42888, 42890), (42994, 42996), (43000, 43001),
  (43010, 43010), (43014, 43014), (43019, 43019), (43045, 43046), (43052, 43052), (43204, 43205),
  (43232, 43249), (43263, 43263), (43302, 43309), (43335, 43345), (43392, 43394), (43443, 43443),
  (43446, 43449), (43452, 43453), (43471, 43471), (43493, 43494), (43561, 43566), (43569, 43570),
  (43573, 43574), (43587, 43587), (43596, 43596), (43632, 43632), (43644, 43644), (43696, 43696),
  (43698, 43700), (43703, 43704), (43710, 43711), (43713, 43713), (43741, 43741), (43756, 43757),
  (43763, 43764), (43766, 43766), (43867, 43871), (43881, 43883), (44005, 44005), (44008, 44008),
  (44013, 44013), (64286, 64286), (64434, 64450), (65024, 65039), (65043, 65043), (65056, 65071),
  (65106, 65106), (65109, 65109), (65279, 65279), (65287, 65287), (65294, 65294), (65306, 65306),
  (65342, 65342), (65344, 65344), (65392, 65392), (65438, 65439), (65507, 65507), (65529, 65531),
  (66045, 66045), (66272, 66272), (66422, 66426), (67456, 67461), (67463, 67504), (67506, 67514),
  (68097, 68099), (68101, 68102), (68108, 68111), (68152, 68154), (68159, 68159), (68325, 68326),
  (68900, 68903), (69291, 69292), (69446, 69456), (69506, 69509), (69633, 69633), (69688, 69702),
  (69744, 69744), (69747, 69748), (69759, 69761), (69811, 69814), (69817, 69818), (69821, 69821),
  (69826, 69826), (69837, 69837), (69888, 69890), (69927, 69931), (69933, 69940), (70003, 70003),
  (70016, 70017), (70070, 70078), (70089, 70092), (70095, 70095), (70191, 70193), (70196, 70196),
  (70198, 70199), (70206, 70206), (70367, 70367), (70371, 70378), (70400, 70401), (70459, 70460),
  (70464, 70464), (70502, 70508), (70512, 70516), (70712, 70719), (70722, 70724), (70726, 70726),
  (70750, 70750), (70835, 70840), (70842, 70842), (70847, 70848), (70850, 70851), (71090, 71093),
  (71100, 71101), (71103, 71104), (71132, 71133), (71219, 71226), (71229, 71229), (71231, 71232),
  (71339, 71339), (71341, 71341), (71344, 71349), (71351, 71351), (71453, 71455), (71458, 71461),
  (71463, 71467), (71727, 71735), (71737, 71738), (71995, 71996), (71998, 71998), (72003, 72003),
  (72148, 72151), (72154, 72155), (72160, 72160), (72193, 72202), (72243, 72248), (72251, 72254),
  (72263, 72263), (72273, 72278), (72281, 72283), (72330, 72342), (72344, 72345), (72752, 72758),
  (72760, 72765), (72767, 72767), (72850, 72871), (72874, 72880), (72882, 72883), (72885, 72886),
  (73009, 73014), (73018, 73018), (73020, 73021), (73023, 73029), (73031, 73031), (73104, 73105),
  (73109, 73109), (73111, 73111), (73459, 73460), (78896, 78904), (92912, 92916), (92976, 92982),
  (92992, 92995), (94031, 94031), (94095, 94111), (94176, 94177), (94179, 94180), (110576, 110579),
  (110581, 110587), (110589, 110590), (113821, 113822), (113824, 113827), (118528, 118573), (118576, 118598),
  (119143, 119145), (119155, 119170), (119173, 119179), (119210, 119213), (119362, 119364), (121344, 121398),
  (121403, 121452), (121461, 121461), (121476, 121476), (121499, 121503), (121505, 121519), (122880, 122886),
  (122888, 122904), (122907, 122913), (122915, 122916), (122918, 122922), (123184, 123197), (123566, 123566),
  (123628, 123631), (125136, 125142), (125252, 125259), (127995, 127999), (917505, 917505), (917536, 917631),
  (917760, 917999)]

def lowerSimple (c : Char) : Char :=
  if c.val < 128 then (if 'A' ≤ c ∧ c ≤ 'Z' then Char.ofNat (c.toNat + 32) else c)
  else Char.ofNat (CaseRun.apply lowerRuns c.toNat)

def upperSimple (c : Char) : Char :=
  if c.val < 128 then (if 'a' ≤ c ∧ c ≤ 'z' then Char.ofNat (c.toNat - 32) else c)
  else Char.ofNat (CaseRun.apply upperRuns c.toNat)

/-- A character is cased for matching when one of its simple case maps moves it. -/
def hasCase (c : Char) : Bool := lowerSimple c != c || upperSimple c != c

def isCased (c : Char) : Bool := inRanges casedRanges c.toNat

def isCaseIgnorable (c : Char) : Bool := inRanges caseIgnorableRanges c.toNat

/-- A capital sigma ends a word when a cased character stands before it and none after it,
case-ignorable characters being skipped on both sides. -/
def endsWord (before after : List Char) : Bool :=
  (match before.dropWhile isCaseIgnorable with
   | c :: _ => isCased c
   | [] => false) &&
  (match after.dropWhile isCaseIgnorable with
   | c :: _ => !isCased c
   | [] => true)

/-- Full lower-casing of the characters after `before` (kept reversed, nearest first). -/
def lowerChars : List Char → List Char → List Char
  | _, [] => []
  | before, c :: rest =>
    let here :=
      if c = '\u03a3' then [if endsWord before rest then '\u03c2' else '\u03c3']
      else if c = '\u0130' then ['i', '\u0307']
      else [lowerSimple c]
    here ++ lowerChars (c :: before) rest

/-- The full lower case of a string. -/
def lower (s : String) : String := String.ofList (lowerChars [] s.toList)

def lowerSourcesOf (x : Nat) : List Nat := (lookupKey lowerSources x).getD []

/-- Whether a simple case map moves some code point from `lo` to `hi`. -/
def caseMovedIn (lo hi : Nat) : Bool :=
  caseMovedRanges.any (fun (a, b) => a ≤ hi && lo ≤ b)

/-- The lower-case code points identified with `x` beyond a common upper case. -/
def foldVariants (x : Nat) : List Nat := (foldVariantTable.lookup x).getD []

end ClassAtlas.Text
