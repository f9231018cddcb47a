import PromptForm.Text.Case
import PromptForm.Text.Word

/-! # Letters of host names

The characters beyond the basic ones that the name of a host may have: lowercase letters, digits and
the marks of scripts that write vowels as marks. Letters that are a second form of others have no
place in a name, nor has an accent beside the letter that it belongs to.
-/

namespace PromptForm.Host

/-- The lowercase letters and the numeric signs that no name may have, with other signs between them
that no name may have either. -/
def excludedRanges : List (Nat × Nat) := [
  (0xaa, 0xbe), (0x133, 0x133), (0x140, 0x140), (0x149, 0x149), (0x17f, 0x17f), (0x1c6, 0x1cc),
  (0x1f3, 0x1f3), (0x2b0, 0x2b8), (0x2e0, 0x2e4), (0x374, 0x374), (0x37a, 0x37a), (0x3d0, 0x3d6),
  (0x3f0, 0x3f2), (0x3f5, 0x3f5), (0x587, 0x587), (0x640, 0x640), (0x675, 0x678), (0x7fa, 0x7fa),
  (0x958, 0x95f), (0x9dc, 0x9df), (0x9f4, 0x9f9), (0xa33, 0xa33), (0xa36, 0xa36), (0xa59, 0xa5b),
  (0xa5e, 0xa5e), (0xb5c, 0xb5d), (0xb72, 0xb77), (0xbf0, 0xbf2), (0xc78, 0xc7e), (0xd58, 0xd5e),
  (0xd70, 0xd78), (0xe33, 0xe33), (0xeb3, 0xeb3), (0xedc, 0xedd), (0xf2a, 0xf33), (0xf43, 0xf43),
  (0xf4d, 0xf4d), (0xf52, 0xf52), (0xf57, 0xf57), (0xf5c, 0xf5c), (0xf69, 0xf69), (0x10fc, 0x10fc),
  (0x1100, 0x11ff), (0x1369, 0x137c), (0x13f8, 0x13fd), (0x16ee, 0x16f0), (0x17f0, 0x17f9),
  (0x19da, 0x19da), (0x1c80, 0x1c88), (0x1d2c, 0x1d2e), (0x1d30, 0x1d3a), (0x1d3c, 0x1d4d),
  (0x1d4f, 0x1d6a), (0x1d78, 0x1d78), (0x1d9b, 0x1dbf), (0x1e9a, 0x1e9b), (0x1f71, 0x1f71),
  (0x1f73, 0x1f73), (0x1f75, 0x1f75), (0x1f77, 0x1f77), (0x1f79, 0x1f79), (0x1f7b, 0x1f7b),
  (0x1f7d, 0x1fa7), (0x1fb2, 0x1fb4), (0x1fb7, 0x1fc4), (0x1fc7, 0x1fc7), (0x1fd3, 0x1fd3),
  (0x1fe3, 0x1fe3), (0x1ff2, 0x1ff4), (0x1ff7, 0x2149), (0x2150, 0x2182), (0x2185, 0x2793),
  (0x2c7c, 0x2c7d), (0x2cfd, 0x2cfd), (0x2d6f, 0x2d6f), (0x3021, 0x3029), (0x3031, 0x303b),
  (0x309f, 0x309f), (0x30ff, 0x30ff), (0x3131, 0x3195), (0x3220, 0x32bf), (0xa69c, 0xa69d),
  (0xa6e6, 0xa6ef), (0xa770, 0xa770), (0xa7f2, 0xa7f4), (0xa7f8, 0xa7f9), (0xa830, 0xa835),
  (0xa960, 0xa97c), (0xab5c, 0xab5f), (0xab69, 0xabbf), (0xd7b0, 0xfa0d), (0xfa10, 0xfa10),
  (0xfa12, 0xfa12), (0xfa15, 0xfa1e), (0xfa20, 0xfa20), (0xfa22, 0xfa22), (0xfa25, 0xfa26),
  (0xfa2a, 0xfb1d), (0xfb1f, 0xfdfb), (0xfe70, 0xfe72), (0xfe74, 0xffdc), (0x10107, 0x1018b),
  (0x102e1, 0x102fb), (0x10320, 0x10323), (0x10341, 0x10341), (0x1034a, 0x1034a),
  (0x103d1, 0x103d5), (0x10781, 0x107ba), (0x10858, 0x1085f), (0x10879, 0x1087f),
  (0x108a7, 0x108af), (0x108fb, 0x108ff), (0x10916, 0x1091b), (0x109bc, 0x109bd),
  (0x109c0, 0x109ff), (0x10a40, 0x10a48), (0x10a7d, 0x10a7e), (0x10a9d, 0x10a9f),
  (0x10aeb, 0x10aef), (0x10b58, 0x10b5f), (0x10b78, 0x10b7f), (0x10ba9, 0x10baf),
  (0x10cfa, 0x10cff), (0x10e60, 0x10e7e), (0x10f1d, 0x10f26), (0x10f51, 0x10f54),
  (0x10fc5, 0x10fcb), (0x11052, 0x11065), (0x111e1, 0x111f4), (0x1173a, 0x1173b),
  (0x118ea, 0x118f2), (0x11c5a, 0x11c6c), (0x11fc0, 0x11fd4), (0x12400, 0x1246e),
  (0x16b5b, 0x16b61), (0x16e80, 0x16e96), (0x1d2e0, 0x1d7ff), (0x1e8c7, 0x1e8cf),
  (0x1ec71, 0x1fbf9), (0x2f800, 0x2fa1d)]

/-- The marks that belong to the letters of a script, with letters of names between them. -/
def markRanges : List (Nat × Nat) := [
  (0x483, 0x487), (0x591, 0x5bd), (0x5bf, 0x5bf), (0x5c1, 0x5c2), (0x5c4, 0x5c5), (0x5c7, 0x5c7),
  (0x610, 0x61a), (0x64b, 0x65f), (0x670, 0x670), (0x6d6, 0x6dc), (0x6df, 0x6e8), (0x6ea, 0x6ed),
  (0x711, 0x7f3), (0x7fd, 0x7fd), (0x816, 0x82d), (0x859, 0x85b), (0x898, 0x8e1), (0x8e3, 0x957),
  (0x962, 0x963), (0x981, 0x9d7), (0x9e2, 0x9e3), (0x9fe, 0xa03), (0xa3c, 0xa51), (0xa70, 0xa75),
  (0xa81, 0xae3), (0xafa, 0xb57), (0xb62, 0xb63), (0xb82, 0xbd7), (0xc00, 0xc63), (0xc81, 0xc83),
  (0xcbc, 0xd4d), (0xd57, 0xd57), (0xd62, 0xd63), (0xd81, 0xdf3), (0xe31, 0xe31), (0xe34, 0xe3a),
  (0xe47, 0xe4e), (0xeb1, 0xeb1), (0xeb4, 0xecd), (0xf18, 0xf19), (0xf35, 0xf35), (0xf37, 0xf37),
  (0xf39, 0xf39), (0xf3e, 0xf3f), (0xf71, 0xf72), (0xf74, 0xf74), (0xf7a, 0xf80), (0xf82, 0xf84),
  (0xf86, 0xf92), (0xf94, 0xf9c), (0xf9e, 0xfa1), (0xfa3, 0xfa6), (0xfa8, 0xfab), (0xfad, 0xfb8),
  (0xfba, 0xfbc), (0xfc6, 0xfc6), (0x102b, 0x103e), (0x1056, 0x109d), (0x135d, 0x135f),
  (0x1712, 0x1734), (0x1752, 0x1773), (0x17b6, 0x17d3), (0x17dd, 0x17dd), (0x1885, 0x193b),
  (0x1a17, 0x1a1b), (0x1a55, 0x1a7f), (0x1ab0, 0x1abd), (0x1abf, 0x1b44), (0x1b6b, 0x1b73),
  (0x1b80, 0x1bf3), (0x1c24, 0x1c37), (0x1cd0, 0x1cd2), (0x1cd4, 0x1cf9), (0x1dc0, 0x1dff),
  (0x2cef, 0x2cf1), (0x2d7f, 0x2dff), (0x302a, 0x302d), (0x3099, 0x309a), (0xa66f, 0xa66f),
  (0xa674, 0xa67d), (0xa69e, 0xa69f), (0xa6f0, 0xa6f1), (0xa802, 0xa827), (0xa82c, 0xa82c),
  (0xa880, 0xa8c5), (0xa8e0, 0xa8f1), (0xa8ff, 0xa92d), (0xa947, 0xa953), (0xa980, 0xa9c0),
  (0xa9e5, 0xaa4d), (0xaa7b, 0xaac1), (0xaaeb, 0xaaef), (0xaaf5, 0xaaf6), (0xabe3, 0xabea),
  (0xabec, 0xabed), (0xfb1e, 0xfb1e), (0xfe20, 0xfe2f), (0x101fd, 0x102e0), (0x10376, 0x1037a),
  (0x10a01, 0x10a3f), (0x10ae5, 0x10ae6), (0x10d24, 0x10d27), (0x10eab, 0x10eac),
  (0x10f46, 0x10f50), (0x10f82, 0x10f85), (0x11000, 0x11046), (0x11070, 0x110ba),
  (0x110c2, 0x110c2), (0x11100, 0x11134), (0x11145, 0x11173), (0x11180, 0x111c0),
  (0x111c9, 0x111cc), (0x111ce, 0x111cf), (0x1122c, 0x11237), (0x1123e, 0x1123e),
  (0x112df, 0x11446), (0x1145e, 0x114c3), (0x115af, 0x115c0), (0x115dc, 0x11640),
  (0x116ab, 0x116b7), (0x1171d, 0x1172b), (0x1182c, 0x1183a), (0x11930, 0x11943),
  (0x119d1, 0x119e0), (0x119e4, 0x11a3e), (0x11a47, 0x11a99), (0x11c2f, 0x11c3f),
  (0x11c92, 0x11ef6), (0x16af0, 0x16af4), (0x16b30, 0x16b36), (0x16f4f, 0x16f92),
  (0x16fe4, 0x16ff1), (0x1bc9d, 0x1bc9e), (0x1cf00, 0x1cf46), (0x1da00, 0x1da36),
  (0x1da3b, 0x1da6c), (0x1da75, 0x1da75), (0x1da84, 0x1da84), (0x1da9b, 0x1e136),
  (0x1e2ae, 0x1e2ef), (0x1e8d0, 0x1e8d6), (0x1e944, 0x1e94a)]

/-- May a name have the character? -/
def isNameChar (c : Char) : Bool :=
  if c.toNat < 128 then c.isLower || c.isDigit || c == '-'
  else
    (Text.isWord c && Text.lowerChar c == [c] && !Text.inRanges excludedRanges c.toNat) ||
      Text.inRanges markRanges c.toNat

end PromptForm.Host
