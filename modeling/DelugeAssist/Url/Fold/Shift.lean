-- Characters that count as others at one distance from them: capital letters as small ones, letters
-- in a style of their own as plain ones.

namespace DelugeAssist

/-- A stretch of characters, the step from one to the next, and the distance to what they count
as. -/
def shifts : List (Nat × Nat × Nat × Int) :=
  [(0xc0, 0xd6, 1, 32), (0xd8, 0xde, 1, 32), (0x100, 0x12e, 2, 1), (0x139, 0x145, 4, 1),
   (0x14a, 0x176, 2, 1), (0x179, 0x17d, 2, 1), (0x1a0, 0x1a4, 2, 1), (0x1cd, 0x1db, 2, 1),
   (0x1de, 0x1ee, 2, 1), (0x1f4, 0x21c, 4, 1), (0x1fa, 0x232, 4, 1), (0x224, 0x230, 4, 1),
   (0x246, 0x24e, 2, 1), (0x388, 0x38a, 1, 37), (0x391, 0x3a1, 1, 32), (0x3a3, 0x3ab, 1, 32),
   (0x3d8, 0x3ee, 2, 1), (0x3fd, 0x3ff, 1, -130), (0x400, 0x40f, 1, 80), (0x410, 0x42f, 1, 32),
   (0x460, 0x480, 2, 1), (0x48a, 0x4be, 2, 1), (0x4c1, 0x4cd, 2, 1), (0x4d0, 0x52e, 2, 1),
   (0x531, 0x556, 1, 48), (0x10a0, 0x10c5, 1, 7264), (0x13f8, 0x13fd, 1, -8),
   (0x1c90, 0x1cba, 1, -3008), (0x1cbd, 0x1cbf, 1, -3008), (0x1d30, 0x1d38, 4, -7372),
   (0x1d31, 0x1d39, 2, -7372), (0x1d5d, 0x1d5f, 1, -6571), (0x1da4, 0x1da6, 1, -6972),
   (0x1dae, 0x1db1, 1, -6972), (0x1dbc, 0x1dbe, 1, -6956), (0x1e00, 0x1e94, 2, 1),
   (0x1ea0, 0x1efe, 2, 1), (0x1f08, 0x1f0f, 1, -8), (0x1f18, 0x1f1d, 1, -8),
   (0x1f28, 0x1f2f, 1, -8), (0x1f38, 0x1f3f, 1, -8), (0x1f48, 0x1f4d, 1, -8),
   (0x1f59, 0x1f5f, 2, -8), (0x1f68, 0x1f6f, 1, -8), (0x2070, 0x2078, 4, -8256),
   (0x2075, 0x2077, 1, -8256), (0x2080, 0x2089, 1, -8272), (0x2096, 0x2099, 1, -8235),
   (0x2119, 0x211b, 1, -8361), (0x2135, 0x2138, 1, -7013), (0x2460, 0x2468, 1, -9263),
   (0x24b6, 0x24cf, 1, -9301), (0x24d0, 0x24e9, 1, -9327), (0x2c00, 0x2c2f, 1, 48),
   (0x2c67, 0x2c6b, 2, 1), (0x2c80, 0x2ce2, 2, 1), (0x3137, 0x3139, 1, -8244),
   (0x313a, 0x313f, 1, -8074), (0x3141, 0x3143, 1, -8251), (0x3145, 0x314e, 1, -8252),
   (0x314f, 0x3163, 1, -8174), (0x3178, 0x317c, 1, -8269), (0x3184, 0x3186, 1, -8237),
   (0x3263, 0x3265, 1, -8542), (0x3269, 0x326d, 1, -8539), (0x32e4, 0x32e9, 1, -538),
   (0x32ee, 0x32f2, 1, -528), (0x32f5, 0x32fa, 1, -525), (0x32fb, 0x32fe, 1, -524),
   (0xa640, 0xa66c, 2, 1), (0xa680, 0xa69a, 2, 1), (0xa722, 0xa76e, 4, 1),
   (0xa724, 0xa72c, 4, 1), (0xa734, 0xa76c, 4, 1), (0xa77e, 0xa786, 2, 1),
   (0xa792, 0xa7a6, 4, 1), (0xa798, 0xa7a8, 4, 1), (0xa7b4, 0xa7c2, 2, 1),
   (0xa7cc, 0xa7da, 2, 1), (0xab70, 0xabbf, 1, -38864), (0xfb24, 0xfb26, 1, -62793),
   (0xfe41, 0xfe44, 1, -52789), (0xff02, 0xff18, 2, -65248), (0xff07, 0xff0d, 2, -65248),
   (0xff11, 0xff1d, 2, -65248), (0xff21, 0xff3a, 1, -65216), (0xff3f, 0xff5b, 1, -65248),
   (0xff85, 0xff8a, 1, -52923), (0xff8f, 0xff93, 1, -52913), (0xff96, 0xff9b, 1, -52910),
   (0xffa7, 0xffa9, 1, -61092), (0xffaa, 0xffaf, 1, -60922), (0xffb1, 0xffb3, 1, -61099),
   (0xffb5, 0xffbe, 1, -61100), (0xffc2, 0xffc7, 1, -61025), (0xffca, 0xffcf, 1, -61027),
   (0xffd2, 0xffd7, 1, -61029), (0xffda, 0xffdc, 1, -61031), (0xffe9, 0xffec, 1, -56921),
   (0x10400, 0x10427, 1, 40), (0x104b0, 0x104d3, 1, 40), (0x10570, 0x10594, 2, 39),
   (0x10571, 0x10595, 4, 39), (0x1057f, 0x10587, 4, 39), (0x107b6, 0x107b8, 1, -67062),
   (0x10c80, 0x10cb2, 1, 64), (0x10d50, 0x10d65, 1, 32), (0x118a0, 0x118bf, 1, 32),
   (0x16e40, 0x16e5f, 1, 32), (0x16ea0, 0x16eb8, 1, 27), (0x1ccd6, 0x1ccef, 1, -117877),
   (0x1ccf0, 0x1ccf9, 1, -117952), (0x1d400, 0x1d419, 1, -119711),
   (0x1d41a, 0x1d433, 1, -119737), (0x1d434, 0x1d44d, 1, -119763),
   (0x1d44e, 0x1d466, 2, -119789), (0x1d44f, 0x1d467, 4, -119789),
   (0x1d459, 0x1d465, 4, -119789), (0x1d468, 0x1d481, 1, -119815),
   (0x1d482, 0x1d49b, 1, -119841), (0x1d49e, 0x1d4b2, 4, -119867),
   (0x1d4ab, 0x1d4b3, 4, -119867), (0x1d4ac, 0x1d4b4, 4, -119867),
   (0x1d4b6, 0x1d4b9, 1, -119893), (0x1d4bb, 0x1d4cf, 2, -119893),
   (0x1d4be, 0x1d4ce, 4, -119893), (0x1d4d0, 0x1d4e9, 1, -119919),
   (0x1d4ea, 0x1d503, 1, -119945), (0x1d505, 0x1d511, 4, -119971),
   (0x1d50a, 0x1d51a, 4, -119971), (0x1d50f, 0x1d51b, 4, -119971),
   (0x1d510, 0x1d51c, 4, -119971), (0x1d51e, 0x1d537, 1, -119997),
   (0x1d538, 0x1d544, 4, -120023), (0x1d539, 0x1d53d, 2, -120023),
   (0x1d53e, 0x1d54e, 4, -120023), (0x1d54b, 0x1d54d, 1, -120023),
   (0x1d552, 0x1d56b, 1, -120049), (0x1d56c, 0x1d585, 1, -120075),
   (0x1d586, 0x1d59f, 1, -120101), (0x1d5a0, 0x1d5b9, 1, -120127),
   (0x1d5ba, 0x1d5d3, 1, -120153), (0x1d5d4, 0x1d5ed, 1, -120179),
   (0x1d5ee, 0x1d607, 1, -120205), (0x1d608, 0x1d621, 1, -120231),
   (0x1d622, 0x1d63b, 1, -120257), (0x1d63c, 0x1d655, 1, -120283),
   (0x1d656, 0x1d66f, 1, -120309), (0x1d670, 0x1d689, 1, -120335),
   (0x1d68a, 0x1d6a3, 1, -120361), (0x1d6a8, 0x1d6b8, 1, -119543),
   (0x1d6ba, 0x1d6c0, 1, -119543), (0x1d6c2, 0x1d6d2, 1, -119569),
   (0x1d6d4, 0x1d6da, 1, -119569), (0x1d6e2, 0x1d6f2, 1, -119601),
   (0x1d6f4, 0x1d6fa, 1, -119601), (0x1d6fc, 0x1d70c, 1, -119627),
   (0x1d70e, 0x1d714, 1, -119627), (0x1d71c, 0x1d72c, 1, -119659),
   (0x1d72e, 0x1d734, 1, -119659), (0x1d736, 0x1d746, 1, -119685),
   (0x1d748, 0x1d74e, 1, -119685), (0x1d756, 0x1d766, 1, -119717),
   (0x1d768, 0x1d76e, 1, -119717), (0x1d770, 0x1d780, 1, -119743),
   (0x1d782, 0x1d788, 1, -119743), (0x1d790, 0x1d7a0, 1, -119775),
   (0x1d7a2, 0x1d7a8, 1, -119775), (0x1d7aa, 0x1d7ba, 1, -119801),
   (0x1d7bc, 0x1d7c2, 1, -119801), (0x1d7ce, 0x1d7d7, 1, -120734),
   (0x1d7d8, 0x1d7e1, 1, -120744), (0x1d7e2, 0x1d7eb, 1, -120754),
   (0x1d7ec, 0x1d7f5, 1, -120764), (0x1d7f6, 0x1d7ff, 1, -120774),
   (0x1e030, 0x1e038, 1, -121856), (0x1e039, 0x1e03b, 1, -121855),
   (0x1e03c, 0x1e046, 1, -121854), (0x1e051, 0x1e059, 1, -121889),
   (0x1e05f, 0x1e064, 1, -121884), (0x1e900, 0x1e921, 1, 34), (0x1ee0a, 0x1ee0d, 1, -124871),
   (0x1ee2a, 0x1ee2d, 1, -124903), (0x1ee8b, 0x1ee8d, 1, -124999),
   (0x1eeab, 0x1eead, 1, -125031), (0x1f130, 0x1f149, 1, -127183),
   (0x1fbf0, 0x1fbf9, 1, -129984)]

/-- What a character counts as, if it lies on one of the stretches. -/
def shifted? (c : Char) : Option Char :=
  let n := c.toNat
  let shift? := shifts.find? fun (first, last, step, _) =>
    first ≤ n && n ≤ last && (n - first) % step = 0
  shift?.map fun (_, _, _, distance) => Char.ofNat ((n : Int) + distance).toNat

end DelugeAssist
