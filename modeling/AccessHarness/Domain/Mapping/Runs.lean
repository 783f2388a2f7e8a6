/-!
# Characters replaced in runs

The characters above ASCII whose replacement follows from their place: capital letters of
an alphabet in order, circled and mathematical letters, wide and narrow forms.  A run is
given by its first and last code point and by the replacement of the first.
-/

namespace AccessHarness.Domain

/-- Runs in which the next character has the next replacement. -/
def runs : List (Nat × Nat × Nat) := [
  (0xc0, 0xd6, 0xe0), (0xd8, 0xde, 0xf8), (0x391, 0x3a1, 0x3b1), (0x3a3, 0x3ab, 0x3c3),
  (0x400, 0x40f, 0x450), (0x410, 0x42f, 0x430), (0x531, 0x556, 0x561), (0x10a0, 0x10c5, 0x2d00),
  (0x13f8, 0x13fd, 0x13f0), (0x1c90, 0x1cba, 0x10d0), (0x1d33, 0x1d3a, 0x67),
  (0x1dae, 0x1db1, 0x272), (0x1f08, 0x1f0f, 0x1f00), (0x1f18, 0x1f1d, 0x1f10),
  (0x1f28, 0x1f2f, 0x1f20), (0x1f38, 0x1f3f, 0x1f30), (0x1f48, 0x1f4d, 0x1f40),
  (0x1f68, 0x1f6f, 0x1f60), (0x2074, 0x2079, 0x34), (0x2080, 0x2089, 0x30),
  (0x2096, 0x2099, 0x6b), (0x2135, 0x2138, 0x5d0), (0x2460, 0x2468, 0x31), (0x24b6, 0x24cf, 0x61),
  (0x24d0, 0x24e9, 0x61), (0x2c00, 0x2c2f, 0x2c30), (0x313a, 0x313f, 0x11b0),
  (0x3145, 0x314e, 0x1109), (0x314f, 0x3163, 0x1161), (0x3178, 0x317c, 0x112b),
  (0x3269, 0x326d, 0x110e), (0x32e4, 0x32e9, 0x30ca), (0x32ee, 0x32f2, 0x30de),
  (0x32f5, 0x32fa, 0x30e8), (0x32fb, 0x32fe, 0x30ef), (0xab70, 0xabbf, 0x13a0),
  (0xfe41, 0xfe44, 0x300c), (0xff01, 0xff20, 0x21), (0xff21, 0xff3a, 0x61),
  (0xff3b, 0xff5e, 0x5b), (0xff85, 0xff8a, 0x30ca), (0xff8f, 0xff93, 0x30de),
  (0xff96, 0xff9b, 0x30e8), (0xffaa, 0xffaf, 0x11b0), (0xffb5, 0xffbe, 0x1109),
  (0xffc2, 0xffc7, 0x1161), (0xffca, 0xffcf, 0x1167), (0xffd2, 0xffd7, 0x116d),
  (0xffe9, 0xffec, 0x2190), (0x10400, 0x10427, 0x10428), (0x104b0, 0x104d3, 0x104d8),
  (0x10570, 0x1057a, 0x10597), (0x1057c, 0x1058a, 0x105a3), (0x1058c, 0x10592, 0x105b3),
  (0x10c80, 0x10cb2, 0x10cc0), (0x10d50, 0x10d65, 0x10d70), (0x118a0, 0x118bf, 0x118c0),
  (0x16e40, 0x16e5f, 0x16e60), (0x16ea0, 0x16eb8, 0x16ebb), (0x1ccd6, 0x1ccef, 0x61),
  (0x1ccf0, 0x1ccf9, 0x30), (0x1d400, 0x1d419, 0x61), (0x1d41a, 0x1d433, 0x61),
  (0x1d434, 0x1d44d, 0x61), (0x1d44e, 0x1d454, 0x61), (0x1d456, 0x1d467, 0x69),
  (0x1d468, 0x1d481, 0x61), (0x1d482, 0x1d49b, 0x61), (0x1d4a9, 0x1d4ac, 0x6e),
  (0x1d4ae, 0x1d4b5, 0x73), (0x1d4b6, 0x1d4b9, 0x61), (0x1d4bd, 0x1d4c3, 0x68),
  (0x1d4c5, 0x1d4cf, 0x70), (0x1d4d0, 0x1d4e9, 0x61), (0x1d4ea, 0x1d503, 0x61),
  (0x1d507, 0x1d50a, 0x64), (0x1d50d, 0x1d514, 0x6a), (0x1d516, 0x1d51c, 0x73),
  (0x1d51e, 0x1d537, 0x61), (0x1d53b, 0x1d53e, 0x64), (0x1d540, 0x1d544, 0x69),
  (0x1d54a, 0x1d550, 0x73), (0x1d552, 0x1d56b, 0x61), (0x1d56c, 0x1d585, 0x61),
  (0x1d586, 0x1d59f, 0x61), (0x1d5a0, 0x1d5b9, 0x61), (0x1d5ba, 0x1d5d3, 0x61),
  (0x1d5d4, 0x1d5ed, 0x61), (0x1d5ee, 0x1d607, 0x61), (0x1d608, 0x1d621, 0x61),
  (0x1d622, 0x1d63b, 0x61), (0x1d63c, 0x1d655, 0x61), (0x1d656, 0x1d66f, 0x61),
  (0x1d670, 0x1d689, 0x61), (0x1d68a, 0x1d6a3, 0x61), (0x1d6a8, 0x1d6b8, 0x3b1),
  (0x1d6ba, 0x1d6c0, 0x3c3), (0x1d6c2, 0x1d6d2, 0x3b1), (0x1d6d4, 0x1d6da, 0x3c3),
  (0x1d6e2, 0x1d6f2, 0x3b1), (0x1d6f4, 0x1d6fa, 0x3c3), (0x1d6fc, 0x1d70c, 0x3b1),
  (0x1d70e, 0x1d714, 0x3c3), (0x1d71c, 0x1d72c, 0x3b1), (0x1d72e, 0x1d734, 0x3c3),
  (0x1d736, 0x1d746, 0x3b1), (0x1d748, 0x1d74e, 0x3c3), (0x1d756, 0x1d766, 0x3b1),
  (0x1d768, 0x1d76e, 0x3c3), (0x1d770, 0x1d780, 0x3b1), (0x1d782, 0x1d788, 0x3c3),
  (0x1d790, 0x1d7a0, 0x3b1), (0x1d7a2, 0x1d7a8, 0x3c3), (0x1d7aa, 0x1d7ba, 0x3b1),
  (0x1d7bc, 0x1d7c2, 0x3c3), (0x1d7ce, 0x1d7d7, 0x30), (0x1d7d8, 0x1d7e1, 0x30),
  (0x1d7e2, 0x1d7eb, 0x30), (0x1d7ec, 0x1d7f5, 0x30), (0x1d7f6, 0x1d7ff, 0x30),
  (0x1e030, 0x1e038, 0x430), (0x1e03c, 0x1e046, 0x43e), (0x1e051, 0x1e059, 0x430),
  (0x1e05f, 0x1e064, 0x443), (0x1e900, 0x1e921, 0x1e922), (0x1ee0a, 0x1ee0d, 0x643),
  (0x1ee2a, 0x1ee2d, 0x643), (0x1f130, 0x1f149, 0x61), (0x1fbf0, 0x1fbf9, 0x30)]

/-- Runs of every other character: capital and small letters in turn, of which the one kind
is replaced by the other. -/
def alternatingRuns : List (Nat × Nat × Nat) := [
  (0x100, 0x12e, 0x101), (0x141, 0x147, 0x142), (0x14a, 0x176, 0x14b), (0x1cd, 0x1db, 0x1ce),
  (0x1de, 0x1ee, 0x1df), (0x1f8, 0x21e, 0x1f9), (0x222, 0x232, 0x223), (0x246, 0x24e, 0x247),
  (0x3d8, 0x3ee, 0x3d9), (0x460, 0x480, 0x461), (0x48a, 0x4be, 0x48b), (0x4c1, 0x4cd, 0x4c2),
  (0x4d0, 0x52e, 0x4d1), (0x1e00, 0x1e94, 0x1e01), (0x1ea0, 0x1efe, 0x1ea1),
  (0x1f59, 0x1f5f, 0x1f51), (0x2c80, 0x2ce2, 0x2c81), (0xa640, 0xa66c, 0xa641),
  (0xa680, 0xa69a, 0xa681), (0xa722, 0xa72e, 0xa723), (0xa732, 0xa76e, 0xa733),
  (0xa77e, 0xa786, 0xa77f), (0xa796, 0xa7a8, 0xa797), (0xa7b4, 0xa7c2, 0xa7b5),
  (0xa7cc, 0xa7da, 0xa7cd)]

/-- Runs of characters with one replacement: the forms of an Arabic letter. -/
def sharedRuns : List (Nat × Nat × Nat) := [
  (0x2000, 0x200a, 0x20), (0x210b, 0x210e, 0x68), (0xfb52, 0xfb55, 0x67b),
  (0xfb56, 0xfb59, 0x67e), (0xfb5a, 0xfb5d, 0x680), (0xfb5e, 0xfb61, 0x67a),
  (0xfb62, 0xfb65, 0x67f), (0xfb66, 0xfb69, 0x679), (0xfb6a, 0xfb6d, 0x6a4),
  (0xfb6e, 0xfb71, 0x6a6), (0xfb72, 0xfb75, 0x684), (0xfb76, 0xfb79, 0x683),
  (0xfb7a, 0xfb7d, 0x686), (0xfb7e, 0xfb81, 0x687), (0xfb8e, 0xfb91, 0x6a9),
  (0xfb92, 0xfb95, 0x6af), (0xfb96, 0xfb99, 0x6b3), (0xfb9a, 0xfb9d, 0x6b1),
  (0xfba0, 0xfba3, 0x6bb), (0xfba6, 0xfba9, 0x6c1), (0xfbaa, 0xfbad, 0x6be),
  (0xfbd3, 0xfbd6, 0x6ad), (0xfbe4, 0xfbe7, 0x6d0), (0xfbfc, 0xfbff, 0x6cc),
  (0xfe89, 0xfe8c, 0x626), (0xfe8f, 0xfe92, 0x628), (0xfe95, 0xfe98, 0x62a),
  (0xfe99, 0xfe9c, 0x62b), (0xfe9d, 0xfea0, 0x62c), (0xfea1, 0xfea4, 0x62d),
  (0xfea5, 0xfea8, 0x62e), (0xfeb1, 0xfeb4, 0x633), (0xfeb5, 0xfeb8, 0x634),
  (0xfeb9, 0xfebc, 0x635), (0xfebd, 0xfec0, 0x636), (0xfec1, 0xfec4, 0x637),
  (0xfec5, 0xfec8, 0x638), (0xfec9, 0xfecc, 0x639), (0xfecd, 0xfed0, 0x63a),
  (0xfed1, 0xfed4, 0x641), (0xfed5, 0xfed8, 0x642), (0xfed9, 0xfedc, 0x643),
  (0xfedd, 0xfee0, 0x644), (0xfee1, 0xfee4, 0x645), (0xfee5, 0xfee8, 0x646),
  (0xfee9, 0xfeec, 0x647), (0xfef1, 0xfef4, 0x64a)]

end AccessHarness.Domain
