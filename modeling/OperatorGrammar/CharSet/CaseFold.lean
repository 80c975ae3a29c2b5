import OperatorGrammar.CharSet.Basic

/-!
# Letter case

Simple case folding maps a character to the one that stands for all its case variants; two
characters differ in case only if they fold alike. A set is closed under it by adding every
character that folds like one of its members.
-/

namespace OperatorGrammar.CharSet

/-- A run `(first, image, count, step)` folds `first + i * step` to `image + i * step` for each `i`
below `count`. -/
def foldingRuns : List (Nat × Nat × Nat × Nat) := [
    (0x41, 0x61, 26, 1), (0xB5, 0x3BC, 1, 1), (0xC0, 0xE0, 23, 1), (0xD8, 0xF8, 7, 1),
    (0x100, 0x101, 24, 2), (0x132, 0x133, 3, 2), (0x139, 0x13A, 8, 2), (0x14A, 0x14B, 23, 2),
    (0x178, 0xFF, 1, 1), (0x179, 0x17A, 3, 2), (0x17F, 0x73, 1, 1), (0x181, 0x253, 1, 1),
    (0x182, 0x183, 2, 2), (0x186, 0x254, 1, 1), (0x187, 0x188, 1, 1), (0x189, 0x256, 2, 1),
    (0x18B, 0x18C, 1, 1), (0x18E, 0x1DD, 1, 1), (0x18F, 0x259, 1, 1), (0x190, 0x25B, 1, 1),
    (0x191, 0x192, 1, 1), (0x193, 0x260, 1, 1), (0x194, 0x263, 1, 1), (0x196, 0x269, 1, 1),
    (0x197, 0x268, 1, 1), (0x198, 0x199, 1, 1), (0x19C, 0x26F, 1, 1), (0x19D, 0x272, 1, 1),
    (0x19F, 0x275, 1, 1), (0x1A0, 0x1A1, 3, 2), (0x1A6, 0x280, 1, 1), (0x1A7, 0x1A8, 1, 1),
    (0x1A9, 0x283, 1, 1), (0x1AC, 0x1AD, 1, 1), (0x1AE, 0x288, 1, 1), (0x1AF, 0x1B0, 1, 1),
    (0x1B1, 0x28A, 2, 1), (0x1B3, 0x1B4, 2, 2), (0x1B7, 0x292, 1, 1), (0x1B8, 0x1B9, 1, 1),
    (0x1BC, 0x1BD, 1, 1), (0x1C4, 0x1C6, 1, 1), (0x1C5, 0x1C6, 1, 1), (0x1C7, 0x1C9, 1, 1),
    (0x1C8, 0x1C9, 1, 1), (0x1CA, 0x1CC, 1, 1), (0x1CB, 0x1CC, 9, 2), (0x1DE, 0x1DF, 9, 2),
    (0x1F1, 0x1F3, 1, 1), (0x1F2, 0x1F3, 2, 2), (0x1F6, 0x195, 1, 1), (0x1F7, 0x1BF, 1, 1),
    (0x1F8, 0x1F9, 20, 2), (0x220, 0x19E, 1, 1), (0x222, 0x223, 9, 2), (0x23A, 0x2C65, 1, 1),
    (0x23B, 0x23C, 1, 1), (0x23D, 0x19A, 1, 1), (0x23E, 0x2C66, 1, 1), (0x241, 0x242, 1, 1),
    (0x243, 0x180, 1, 1), (0x244, 0x289, 1, 1), (0x245, 0x28C, 1, 1), (0x246, 0x247, 5, 2),
    (0x345, 0x3B9, 1, 1), (0x370, 0x371, 2, 2), (0x376, 0x377, 1, 1), (0x37F, 0x3F3, 1, 1),
    (0x386, 0x3AC, 1, 1), (0x388, 0x3AD, 3, 1), (0x38C, 0x3CC, 1, 1), (0x38E, 0x3CD, 2, 1),
    (0x391, 0x3B1, 17, 1), (0x3A3, 0x3C3, 9, 1), (0x3C2, 0x3C3, 1, 1), (0x3CF, 0x3D7, 1, 1),
    (0x3D0, 0x3B2, 1, 1), (0x3D1, 0x3B8, 1, 1), (0x3D5, 0x3C6, 1, 1), (0x3D6, 0x3C0, 1, 1),
    (0x3D8, 0x3D9, 12, 2), (0x3F0, 0x3BA, 1, 1), (0x3F1, 0x3C1, 1, 1), (0x3F4, 0x3B8, 1, 1),
    (0x3F5, 0x3B5, 1, 1), (0x3F7, 0x3F8, 1, 1), (0x3F9, 0x3F2, 1, 1), (0x3FA, 0x3FB, 1, 1),
    (0x3FD, 0x37B, 3, 1), (0x400, 0x450, 16, 1), (0x410, 0x430, 32, 1), (0x460, 0x461, 17, 2),
    (0x48A, 0x48B, 27, 2), (0x4C0, 0x4CF, 1, 1), (0x4C1, 0x4C2, 7, 2), (0x4D0, 0x4D1, 48, 2),
    (0x531, 0x561, 38, 1), (0x10A0, 0x2D00, 38, 1), (0x10C7, 0x2D27, 1, 1), (0x10CD, 0x2D2D, 1, 1),
    (0x13F8, 0x13F0, 6, 1), (0x1C80, 0x432, 1, 1), (0x1C81, 0x434, 1, 1), (0x1C82, 0x43E, 1, 1),
    (0x1C83, 0x441, 2, 1), (0x1C85, 0x442, 1, 1), (0x1C86, 0x44A, 1, 1), (0x1C87, 0x463, 1, 1),
    (0x1C88, 0xA64B, 1, 1), (0x1C89, 0x1C8A, 1, 1), (0x1C90, 0x10D0, 43, 1), (0x1CBD, 0x10FD, 3, 1),
    (0x1E00, 0x1E01, 75, 2), (0x1E9B, 0x1E61, 1, 1), (0x1E9E, 0xDF, 1, 1), (0x1EA0, 0x1EA1, 48, 2),
    (0x1F08, 0x1F00, 8, 1), (0x1F18, 0x1F10, 6, 1), (0x1F28, 0x1F20, 8, 1), (0x1F38, 0x1F30, 8, 1),
    (0x1F48, 0x1F40, 6, 1), (0x1F59, 0x1F51, 4, 2), (0x1F68, 0x1F60, 8, 1), (0x1F88, 0x1F80, 8, 1),
    (0x1F98, 0x1F90, 8, 1), (0x1FA8, 0x1FA0, 8, 1), (0x1FB8, 0x1FB0, 2, 1), (0x1FBA, 0x1F70, 2, 1),
    (0x1FBC, 0x1FB3, 1, 1), (0x1FBE, 0x3B9, 1, 1), (0x1FC8, 0x1F72, 4, 1), (0x1FCC, 0x1FC3, 1, 1),
    (0x1FD3, 0x390, 1, 1), (0x1FD8, 0x1FD0, 2, 1), (0x1FDA, 0x1F76, 2, 1), (0x1FE3, 0x3B0, 1, 1),
    (0x1FE8, 0x1FE0, 2, 1), (0x1FEA, 0x1F7A, 2, 1), (0x1FEC, 0x1FE5, 1, 1), (0x1FF8, 0x1F78, 2, 1),
    (0x1FFA, 0x1F7C, 2, 1), (0x1FFC, 0x1FF3, 1, 1), (0x2126, 0x3C9, 1, 1), (0x212A, 0x6B, 1, 1),
    (0x212B, 0xE5, 1, 1), (0x2132, 0x214E, 1, 1), (0x2160, 0x2170, 16, 1), (0x2183, 0x2184, 1, 1),
    (0x24B6, 0x24D0, 26, 1), (0x2C00, 0x2C30, 48, 1), (0x2C60, 0x2C61, 1, 1), (0x2C62, 0x26B, 1, 1),
    (0x2C63, 0x1D7D, 1, 1), (0x2C64, 0x27D, 1, 1), (0x2C67, 0x2C68, 3, 2), (0x2C6D, 0x251, 1, 1),
    (0x2C6E, 0x271, 1, 1), (0x2C6F, 0x250, 1, 1), (0x2C70, 0x252, 1, 1), (0x2C72, 0x2C73, 1, 1),
    (0x2C75, 0x2C76, 1, 1), (0x2C7E, 0x23F, 2, 1), (0x2C80, 0x2C81, 50, 2), (0x2CEB, 0x2CEC, 2, 2),
    (0x2CF2, 0x2CF3, 1, 1), (0xA640, 0xA641, 23, 2), (0xA680, 0xA681, 14, 2),
    (0xA722, 0xA723, 7, 2), (0xA732, 0xA733, 31, 2), (0xA779, 0xA77A, 2, 2), (0xA77D, 0x1D79, 1, 1),
    (0xA77E, 0xA77F, 5, 2), (0xA78B, 0xA78C, 1, 1), (0xA78D, 0x265, 1, 1), (0xA790, 0xA791, 2, 2),
    (0xA796, 0xA797, 10, 2), (0xA7AA, 0x266, 1, 1), (0xA7AB, 0x25C, 1, 1), (0xA7AC, 0x261, 1, 1),
    (0xA7AD, 0x26C, 1, 1), (0xA7AE, 0x26A, 1, 1), (0xA7B0, 0x29E, 1, 1), (0xA7B1, 0x287, 1, 1),
    (0xA7B2, 0x29D, 1, 1), (0xA7B3, 0xAB53, 1, 1), (0xA7B4, 0xA7B5, 8, 2), (0xA7C4, 0xA794, 1, 1),
    (0xA7C5, 0x282, 1, 1), (0xA7C6, 0x1D8E, 1, 1), (0xA7C7, 0xA7C8, 2, 2), (0xA7CB, 0x264, 1, 1),
    (0xA7CC, 0xA7CD, 1, 1), (0xA7D0, 0xA7D1, 1, 1), (0xA7D6, 0xA7D7, 3, 2), (0xA7DC, 0x19B, 1, 1),
    (0xA7F5, 0xA7F6, 1, 1), (0xAB70, 0x13A0, 80, 1), (0xFB05, 0xFB06, 1, 1),
    (0xFF21, 0xFF41, 26, 1), (0x10400, 0x10428, 40, 1), (0x104B0, 0x104D8, 36, 1),
    (0x10570, 0x10597, 11, 1), (0x1057C, 0x105A3, 15, 1), (0x1058C, 0x105B3, 7, 1),
    (0x10594, 0x105BB, 2, 1), (0x10C80, 0x10CC0, 51, 1), (0x10D50, 0x10D70, 22, 1),
    (0x118A0, 0x118C0, 32, 1), (0x16E40, 0x16E60, 32, 1), (0x1E900, 0x1E922, 34, 1)]

/-- The characters that fold to another one, each with its image. -/
def foldings : List (Nat × Nat) :=
  foldingRuns.flatMap fun (first, image, count, step) ↦
    (List.range count).map fun i ↦ (first + i * step, image + i * step)

/-- The letters of ASCII that fold to another one. -/
def asciiFoldings : List (Nat × Nat) := (List.range 26).map fun i ↦ (0x41 + i, 0x61 + i)

/-- Adds the characters that fold like a member. -/
def closeUnder (pairs : List (Nat × Nat)) (s : CharSet) : CharSet :=
  let has (t : CharSet) (point : Nat) := insideFrom false t.edges point
  let images := s ∪ ofPoints ((pairs.filter fun p ↦ has s p.1).map Prod.snd)
  images ∪ ofPoints ((pairs.filter fun p ↦ has images p.2).map Prod.fst)

def foldCase (s : CharSet) : CharSet := s.closeUnder foldings

def foldAsciiCase (s : CharSet) : CharSet := s.closeUnder asciiFoldings

end OperatorGrammar.CharSet
