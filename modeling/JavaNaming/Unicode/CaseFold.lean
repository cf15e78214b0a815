/-!
# Simple case folding

Characters that differ only in case have the same folded form. `foldRuns` lists the characters that
are not their own folded form, in runs.
-/

namespace JavaNaming.Unicode

/-- Runs of characters: the first one, how many more there are, the step from one to the next, and
what is added to each for its folded form. -/
def foldRuns : List (Nat × Nat × Nat × Int) := [
  (65, 25, 1, 32), (181, 0, 1, 775), (192, 22, 1, 32), (216, 6, 1, 32),
  (256, 23, 2, 1), (306, 2, 2, 1), (313, 7, 2, 1), (330, 22, 2, 1),
  (376, 0, 1, -121), (377, 2, 2, 1), (383, 0, 1, -268), (385, 0, 1, 210),
  (386, 1, 2, 1), (390, 0, 1, 206), (391, 0, 1, 1), (393, 1, 1, 205),
  (395, 0, 1, 1), (398, 0, 1, 79), (399, 0, 1, 202), (400, 0, 1, 203),
  (401, 0, 1, 1), (403, 0, 1, 205), (404, 0, 1, 207), (406, 0, 1, 211),
  (407, 0, 1, 209), (408, 0, 1, 1), (412, 0, 1, 211), (413, 0, 1, 213),
  (415, 0, 1, 214), (416, 2, 2, 1), (422, 0, 1, 218), (423, 0, 1, 1),
  (425, 0, 1, 218), (428, 0, 1, 1), (430, 0, 1, 218), (431, 0, 1, 1),
  (433, 1, 1, 217), (435, 1, 2, 1), (439, 0, 1, 219), (440, 0, 1, 1),
  (444, 0, 1, 1), (452, 0, 1, 2), (453, 0, 1, 1), (455, 0, 1, 2),
  (456, 0, 1, 1), (458, 0, 1, 2), (459, 8, 2, 1), (478, 8, 2, 1),
  (497, 0, 1, 2), (498, 1, 2, 1), (502, 0, 1, -97), (503, 0, 1, -56),
  (504, 19, 2, 1), (544, 0, 1, -130), (546, 8, 2, 1), (570, 0, 1, 10795),
  (571, 0, 1, 1), (573, 0, 1, -163), (574, 0, 1, 10792), (577, 0, 1, 1),
  (579, 0, 1, -195), (580, 0, 1, 69), (581, 0, 1, 71), (582, 4, 2, 1),
  (837, 0, 1, 116), (880, 1, 2, 1), (886, 0, 1, 1), (895, 0, 1, 116),
  (902, 0, 1, 38), (904, 2, 1, 37), (908, 0, 1, 64), (910, 1, 1, 63),
  (913, 16, 1, 32), (931, 8, 1, 32), (962, 0, 1, 1), (975, 0, 1, 8),
  (976, 0, 1, -30), (977, 0, 1, -25), (981, 0, 1, -15), (982, 0, 1, -22),
  (984, 11, 2, 1), (1008, 0, 1, -54), (1009, 0, 1, -48), (1012, 0, 1, -60),
  (1013, 0, 1, -64), (1015, 0, 1, 1), (1017, 0, 1, -7), (1018, 0, 1, 1),
  (1021, 2, 1, -130), (1024, 15, 1, 80), (1040, 31, 1, 32), (1120, 16, 2, 1),
  (1162, 26, 2, 1), (1216, 0, 1, 15), (1217, 6, 2, 1), (1232, 47, 2, 1),
  (1329, 37, 1, 48), (4256, 37, 1, 7264), (4295, 0, 1, 7264), (4301, 0, 1, 7264),
  (5112, 5, 1, -8), (7296, 0, 1, -6222), (7297, 0, 1, -6221), (7298, 0, 1, -6212),
  (7299, 1, 1, -6210), (7301, 0, 1, -6211), (7302, 0, 1, -6204), (7303, 0, 1, -6180),
  (7304, 0, 1, 35267), (7305, 0, 1, 1), (7312, 42, 1, -3008), (7357, 2, 1, -3008),
  (7680, 74, 2, 1), (7835, 0, 1, -58), (7838, 0, 1, -7615), (7840, 47, 2, 1),
  (7944, 7, 1, -8), (7960, 5, 1, -8), (7976, 7, 1, -8), (7992, 7, 1, -8),
  (8008, 5, 1, -8), (8025, 3, 2, -8), (8040, 7, 1, -8), (8072, 7, 1, -8),
  (8088, 7, 1, -8), (8104, 7, 1, -8), (8120, 1, 1, -8), (8122, 1, 1, -74),
  (8124, 0, 1, -9), (8126, 0, 1, -7173), (8136, 3, 1, -86), (8140, 0, 1, -9),
  (8152, 1, 1, -8), (8154, 1, 1, -100), (8168, 1, 1, -8), (8170, 1, 1, -112),
  (8172, 0, 1, -7), (8184, 1, 1, -128), (8186, 1, 1, -126), (8188, 0, 1, -9),
  (8486, 0, 1, -7517), (8490, 0, 1, -8383), (8491, 0, 1, -8262), (8498, 0, 1, 28),
  (8544, 15, 1, 16), (8579, 0, 1, 1), (9398, 25, 1, 26), (11264, 47, 1, 48),
  (11360, 0, 1, 1), (11362, 0, 1, -10743), (11363, 0, 1, -3814), (11364, 0, 1, -10727),
  (11367, 2, 2, 1), (11373, 0, 1, -10780), (11374, 0, 1, -10749), (11375, 0, 1, -10783),
  (11376, 0, 1, -10782), (11378, 0, 1, 1), (11381, 0, 1, 1), (11390, 1, 1, -10815),
  (11392, 49, 2, 1), (11499, 1, 2, 1), (11506, 0, 1, 1), (42560, 22, 2, 1),
  (42624, 13, 2, 1), (42786, 6, 2, 1), (42802, 30, 2, 1), (42873, 1, 2, 1),
  (42877, 0, 1, -35332), (42878, 4, 2, 1), (42891, 0, 1, 1), (42893, 0, 1, -42280),
  (42896, 1, 2, 1), (42902, 9, 2, 1), (42922, 0, 1, -42308), (42923, 0, 1, -42319),
  (42924, 0, 1, -42315), (42925, 0, 1, -42305), (42926, 0, 1, -42308), (42928, 0, 1, -42258),
  (42929, 0, 1, -42282), (42930, 0, 1, -42261), (42931, 0, 1, 928), (42932, 7, 2, 1),
  (42948, 0, 1, -48), (42949, 0, 1, -42307), (42950, 0, 1, -35384), (42951, 1, 2, 1),
  (42955, 0, 1, -42343), (42956, 0, 1, 1), (42960, 0, 1, 1), (42966, 2, 2, 1),
  (42972, 0, 1, -42561), (42997, 0, 1, 1), (43888, 79, 1, -38864), (65313, 25, 1, 32),
  (66560, 39, 1, 40), (66736, 35, 1, 40), (66928, 10, 1, 39), (66940, 14, 1, 39),
  (66956, 6, 1, 39), (66964, 1, 1, 39), (68736, 50, 1, 64), (68944, 21, 1, 32),
  (71840, 31, 1, 32), (93760, 31, 1, 32), (125184, 33, 1, 34)]

/-- The characters that are not their own folded form, each with that form. -/
def foldPairs : List (Nat × Nat) :=
  foldRuns.flatMap fun (first, more, step, shift) =>
    (List.range (more + 1)).map fun i =>
      let c := first + step * i
      (c, (c + shift).toNat)

end JavaNaming.Unicode
