/-
**Writing directions.**

The direction of each code point that a label may hold. A label with a right-to-left code point
has to keep the rule of RFC 5893: it starts with a strong letter, holds only the directions that go
with it, ends in a letter or a number, and does not mix two kinds of numbers.
-/
import Courier.Text.CodePoint
namespace Courier.Idna

/-- A class of writing direction. -/
inductive Direction
  | left
  | right
  | arabicLetter
  | arabicNumber
  | europeanNumber
  | europeanSeparator
  | commonSeparator
  | europeanTerminator
  | otherNeutral
  | boundaryNeutral
  | mark
  /-- Permitted, but too new to have a known direction. -/
  | unassigned
  deriving DecidableEq

/-- Stretches of permitted code points that are not left to right. -/
def directionRuns : List (Nat × Nat × Direction) :=
  [(0x002D, 0x002D, .europeanSeparator), (0x0030, 0x0039, .europeanNumber),
   (0x00B7, 0x00B7, .otherNeutral), (0x02B9, 0x02BA, .otherNeutral),
   (0x02C6, 0x02CF, .otherNeutral), (0x02EC, 0x02EC, .otherNeutral), (0x0300, 0x036F, .mark),
   (0x0375, 0x0375, .otherNeutral), (0x0483, 0x0487, .mark), (0x0591, 0x05C7, .mark),
   (0x05D0, 0x05F4, .right), (0x0610, 0x061A, .mark), (0x0620, 0x064A, .arabicLetter),
   (0x064B, 0x065F, .mark), (0x0660, 0x0669, .arabicNumber), (0x066E, 0x066F, .arabicLetter),
   (0x0670, 0x0670, .mark), (0x0671, 0x06D5, .arabicLetter), (0x06D6, 0x06E4, .mark),
   (0x06E5, 0x06E6, .arabicLetter), (0x06E7, 0x06ED, .mark), (0x06EE, 0x06EF, .arabicLetter),
   (0x06F0, 0x06F9, .europeanNumber), (0x06FA, 0x0710, .arabicLetter), (0x0711, 0x0711, .mark),
   (0x0712, 0x072F, .arabicLetter), (0x0730, 0x074A, .mark), (0x074D, 0x07A5, .arabicLetter),
   (0x07A6, 0x07B0, .mark), (0x07B1, 0x07B1, .arabicLetter), (0x07C0, 0x07EA, .right),
   (0x07EB, 0x07F3, .mark), (0x07F4, 0x07F5, .right), (0x07FD, 0x07FD, .mark),
   (0x0800, 0x0815, .right), (0x0816, 0x0819, .mark), (0x081A, 0x081A, .right),
   (0x081B, 0x0823, .mark), (0x0824, 0x0824, .right), (0x0825, 0x0827, .mark),
   (0x0828, 0x0828, .right), (0x0829, 0x082D, .mark), (0x0840, 0x0858, .right),
   (0x0859, 0x085B, .mark), (0x0860, 0x088E, .arabicLetter), (0x088F, 0x0897, .unassigned),
   (0x0898, 0x089F, .mark), (0x08A0, 0x08C9, .arabicLetter), (0x08CA, 0x0902, .mark),
   (0x093A, 0x093A, .mark), (0x093C, 0x093C, .mark), (0x0941, 0x0948, .mark),
   (0x094D, 0x094D, .mark), (0x0951, 0x0957, .mark), (0x0962, 0x0963, .mark),
   (0x0981, 0x0981, .mark), (0x09BC, 0x09BC, .mark), (0x09C1, 0x09C4, .mark),
   (0x09CD, 0x09CD, .mark), (0x09E2, 0x09E3, .mark), (0x09FE, 0x0A02, .mark),
   (0x0A3C, 0x0A3C, .mark), (0x0A41, 0x0A51, .mark), (0x0A70, 0x0A71, .mark),
   (0x0A75, 0x0A82, .mark), (0x0ABC, 0x0ABC, .mark), (0x0AC1, 0x0AC8, .mark),
   (0x0ACD, 0x0ACD, .mark), (0x0AE2, 0x0AE3, .mark), (0x0AFA, 0x0B01, .mark),
   (0x0B3C, 0x0B3C, .mark), (0x0B3F, 0x0B3F, .mark), (0x0B41, 0x0B44, .mark),
   (0x0B4D, 0x0B56, .mark), (0x0B62, 0x0B63, .mark), (0x0B82, 0x0B82, .mark),
   (0x0BC0, 0x0BC0, .mark), (0x0BCD, 0x0BCD, .mark), (0x0C00, 0x0C00, .mark),
   (0x0C04, 0x0C04, .mark), (0x0C3C, 0x0C3C, .mark), (0x0C3E, 0x0C40, .mark),
   (0x0C46, 0x0C56, .mark), (0x0C5C, 0x0C5C, .unassigned), (0x0C62, 0x0C63, .mark),
   (0x0C81, 0x0C81, .mark), (0x0CBC, 0x0CBC, .mark), (0x0CCC, 0x0CCD, .mark),
   (0x0CDC, 0x0CDC, .unassigned), (0x0CE2, 0x0CE3, .mark), (0x0CF3, 0x0CF3, .unassigned),
   (0x0D00, 0x0D01, .mark), (0x0D3B, 0x0D3C, .mark), (0x0D41, 0x0D44, .mark),
   (0x0D4D, 0x0D4D, .mark), (0x0D62, 0x0D63, .mark), (0x0D81, 0x0D81, .mark),
   (0x0DCA, 0x0DCA, .mark), (0x0DD2, 0x0DD6, .mark), (0x0E31, 0x0E31, .mark),
   (0x0E34, 0x0E3A, .mark), (0x0E47, 0x0E4E, .mark), (0x0EB1, 0x0EB1, .mark),
   (0x0EB4, 0x0EBC, .mark), (0x0EC8, 0x0ECD, .mark), (0x0ECE, 0x0ECE, .unassigned),
   (0x0F18, 0x0F19, .mark), (0x0F35, 0x0F39, .mark), (0x0F71, 0x0F7E, .mark),
   (0x0F80, 0x0F87, .mark), (0x0F8D, 0x0FC6, .mark), (0x102D, 0x1030, .mark),
   (0x1032, 0x1037, .mark), (0x1039, 0x103A, .mark), (0x103D, 0x103E, .mark),
   (0x1058, 0x1059, .mark), (0x105E, 0x1060, .mark), (0x1071, 0x1074, .mark),
   (0x1082, 0x1082, .mark), (0x1085, 0x1086, .mark), (0x108D, 0x108D, .mark),
   (0x109D, 0x109D, .mark), (0x135D, 0x135F, .mark), (0x1712, 0x1714, .mark),
   (0x1732, 0x1733, .mark), (0x1752, 0x1753, .mark), (0x1772, 0x1773, .mark),
   (0x17B7, 0x17BD, .mark), (0x17C6, 0x17C6, .mark), (0x17C9, 0x17D3, .mark),
   (0x17DD, 0x17DD, .mark), (0x1885, 0x1886, .mark), (0x18A9, 0x18A9, .mark),
   (0x1920, 0x1922, .mark), (0x1927, 0x1928, .mark), (0x1932, 0x1932, .mark),
   (0x1939, 0x193B, .mark), (0x1A17, 0x1A18, .mark), (0x1A1B, 0x1A1B, .mark),
   (0x1A56, 0x1A56, .mark), (0x1A58, 0x1A60, .mark), (0x1A62, 0x1A62, .mark),
   (0x1A65, 0x1A6C, .mark), (0x1A73, 0x1A7F, .mark), (0x1AB0, 0x1ACE, .mark),
   (0x1ACF, 0x1AEB, .unassigned), (0x1B00, 0x1B03, .mark), (0x1B34, 0x1B34, .mark),
   (0x1B36, 0x1B3A, .mark), (0x1B3C, 0x1B3C, .mark), (0x1B42, 0x1B42, .mark),
   (0x1B6B, 0x1B81, .mark), (0x1BA2, 0x1BA5, .mark), (0x1BA8, 0x1BA9, .mark),
   (0x1BAB, 0x1BAD, .mark), (0x1BE6, 0x1BE6, .mark), (0x1BE8, 0x1BE9, .mark),
   (0x1BED, 0x1BED, .mark), (0x1BEF, 0x1BF1, .mark), (0x1C2C, 0x1C33, .mark),
   (0x1C36, 0x1C37, .mark), (0x1C8A, 0x1C8A, .unassigned), (0x1CD0, 0x1CE0, .mark),
   (0x1CE2, 0x1CE8, .mark), (0x1CED, 0x1CED, .mark), (0x1CF4, 0x1CF4, .mark),
   (0x1CF8, 0x1CF9, .mark), (0x1DC0, 0x1DFF, .mark), (0x200C, 0x200D, .boundaryNeutral),
   (0x2CEF, 0x2CF1, .mark), (0x2D7F, 0x2D7F, .mark), (0x2DE0, 0x2DFF, .mark),
   (0x2E2F, 0x2E2F, .otherNeutral), (0x302A, 0x302D, .mark), (0x3099, 0x309A, .mark),
   (0x30FB, 0x30FB, .otherNeutral), (0xA66F, 0xA67D, .mark), (0xA67F, 0xA67F, .otherNeutral),
   (0xA69E, 0xA69F, .mark), (0xA6F0, 0xA6F1, .mark), (0xA717, 0xA71F, .otherNeutral),
   (0xA788, 0xA788, .otherNeutral), (0xA7CD, 0xA7CF, .unassigned), (0xA7DB, 0xA7DB, .unassigned),
   (0xA802, 0xA802, .mark), (0xA806, 0xA806, .mark), (0xA80B, 0xA80B, .mark),
   (0xA825, 0xA826, .mark), (0xA82C, 0xA82C, .mark), (0xA8C4, 0xA8C5, .mark),
   (0xA8E0, 0xA8F1, .mark), (0xA8FF, 0xA8FF, .mark), (0xA926, 0xA92D, .mark),
   (0xA947, 0xA951, .mark), (0xA980, 0xA982, .mark), (0xA9B3, 0xA9B3, .mark),
   (0xA9B6, 0xA9B9, .mark), (0xA9BC, 0xA9BD, .mark), (0xA9E5, 0xA9E5, .mark),
   (0xAA29, 0xAA2E, .mark), (0xAA31, 0xAA32, .mark), (0xAA35, 0xAA36, .mark),
   (0xAA43, 0xAA43, .mark), (0xAA4C, 0xAA4C, .mark), (0xAA7C, 0xAA7C, .mark),
   (0xAAB0, 0xAAB0, .mark), (0xAAB2, 0xAAB4, .mark), (0xAAB7, 0xAAB8, .mark),
   (0xAABE, 0xAABF, .mark), (0xAAC1, 0xAAC1, .mark), (0xAAEC, 0xAAED, .mark),
   (0xAAF6, 0xAAF6, .mark), (0xABE5, 0xABE5, .mark), (0xABE8, 0xABE8, .mark),
   (0xABED, 0xABED, .mark), (0xFB1E, 0xFE2F, .mark), (0xFE73, 0xFE73, .arabicLetter),
   (0x101FD, 0x101FD, .mark), (0x102E0, 0x102E0, .mark), (0x10376, 0x1037A, .mark),
   (0x105C0, 0x105F3, .unassigned), (0x10800, 0x10939, .right), (0x10940, 0x10959, .unassigned),
   (0x10980, 0x10A00, .right), (0x10A01, 0x10A0F, .mark), (0x10A10, 0x10A35, .right),
   (0x10A38, 0x10A3F, .mark), (0x10A60, 0x10AE4, .right), (0x10AE5, 0x10AE6, .mark),
   (0x10B00, 0x10CF2, .right), (0x10D00, 0x10D23, .arabicLetter), (0x10D24, 0x10D27, .mark),
   (0x10D30, 0x10D39, .arabicNumber), (0x10D40, 0x10D85, .unassigned),
   (0x10E80, 0x10EA9, .right), (0x10EAB, 0x10EAC, .mark), (0x10EB0, 0x10EB1, .right),
   (0x10EC2, 0x10EFF, .unassigned), (0x10F00, 0x10F27, .right),
   (0x10F30, 0x10F45, .arabicLetter), (0x10F46, 0x10F50, .mark), (0x10F70, 0x10F81, .right),
   (0x10F82, 0x10F85, .mark), (0x10FB0, 0x10FF6, .right), (0x11001, 0x11001, .mark),
   (0x11038, 0x11046, .mark), (0x11070, 0x11070, .mark), (0x11073, 0x11074, .mark),
   (0x1107F, 0x11081, .mark), (0x110B3, 0x110B6, .mark), (0x110B9, 0x110C2, .mark),
   (0x11100, 0x11102, .mark), (0x11127, 0x1112B, .mark), (0x1112D, 0x11134, .mark),
   (0x11173, 0x11173, .mark), (0x11180, 0x11181, .mark), (0x111B6, 0x111BE, .mark),
   (0x111C9, 0x111CC, .mark), (0x111CF, 0x111CF, .mark), (0x1122F, 0x11231, .mark),
   (0x11234, 0x11234, .mark), (0x11236, 0x1123E, .mark), (0x1123F, 0x11241, .unassigned),
   (0x112DF, 0x112DF, .mark), (0x112E3, 0x112EA, .mark), (0x11300, 0x11301, .mark),
   (0x1133B, 0x1133C, .mark), (0x11340, 0x11340, .mark), (0x11366, 0x11374, .mark),
   (0x11380, 0x113E2, .unassigned), (0x11438, 0x1143F, .mark), (0x11442, 0x11444, .mark),
   (0x11446, 0x11446, .mark), (0x1145E, 0x1145E, .mark), (0x114B3, 0x114B8, .mark),
   (0x114BA, 0x114BA, .mark), (0x114BF, 0x114C0, .mark), (0x114C2, 0x114C3, .mark),
   (0x115B2, 0x115B5, .mark), (0x115BC, 0x115BD, .mark), (0x115BF, 0x115C0, .mark),
   (0x115DC, 0x115DD, .mark), (0x11633, 0x1163A, .mark), (0x1163D, 0x1163D, .mark),
   (0x1163F, 0x11640, .mark), (0x116AB, 0x116AB, .mark), (0x116AD, 0x116AD, .mark),
   (0x116B0, 0x116B5, .mark), (0x116B7, 0x116B7, .mark), (0x116D0, 0x116E3, .unassigned),
   (0x1171D, 0x1171F, .mark), (0x11722, 0x11725, .mark), (0x11727, 0x1172B, .mark),
   (0x1182F, 0x11837, .mark), (0x11839, 0x1183A, .mark), (0x1193B, 0x1193C, .mark),
   (0x1193E, 0x1193E, .mark), (0x11943, 0x11943, .mark), (0x119D4, 0x119DB, .mark),
   (0x119E0, 0x119E0, .mark), (0x11A01, 0x11A06, .mark), (0x11A09, 0x11A0A, .mark),
   (0x11A33, 0x11A38, .mark), (0x11A3B, 0x11A47, .mark), (0x11A51, 0x11A56, .mark),
   (0x11A59, 0x11A5B, .mark), (0x11A8A, 0x11A96, .mark), (0x11A98, 0x11A99, .mark),
   (0x11B60, 0x11BF9, .unassigned), (0x11C30, 0x11C3D, .mark), (0x11C92, 0x11CA7, .mark),
   (0x11CAA, 0x11CB0, .mark), (0x11CB2, 0x11CB3, .mark), (0x11CB5, 0x11CB6, .mark),
   (0x11D31, 0x11D45, .mark), (0x11D47, 0x11D47, .mark), (0x11D90, 0x11D91, .mark),
   (0x11D95, 0x11D95, .mark), (0x11D97, 0x11D97, .mark), (0x11DB0, 0x11DE9, .unassigned),
   (0x11EF3, 0x11EF4, .mark), (0x11F00, 0x11F5A, .unassigned), (0x1342F, 0x143FA, .unassigned),
   (0x16100, 0x16139, .unassigned), (0x16AF0, 0x16AF4, .mark), (0x16B30, 0x16B36, .mark),
   (0x16D40, 0x16D79, .unassigned), (0x16EBB, 0x16ED3, .unassigned), (0x16F4F, 0x16F4F, .mark),
   (0x16F8F, 0x16F92, .mark), (0x16FE4, 0x16FE4, .mark), (0x16FF2, 0x16FF3, .unassigned),
   (0x187F8, 0x187FF, .unassigned), (0x18CFF, 0x18CFF, .unassigned),
   (0x18D09, 0x18DF2, .unassigned), (0x1B132, 0x1B132, .unassigned),
   (0x1B155, 0x1B155, .unassigned), (0x1BC9D, 0x1DAAF, .mark), (0x1DF25, 0x1DF2A, .unassigned),
   (0x1E000, 0x1E02A, .mark), (0x1E08F, 0x1E08F, .unassigned), (0x1E130, 0x1E136, .mark),
   (0x1E2AE, 0x1E2AE, .mark), (0x1E2EC, 0x1E2EF, .mark), (0x1E4D0, 0x1E6FF, .unassigned),
   (0x1E800, 0x1E8C4, .right), (0x1E8D0, 0x1E8D6, .mark), (0x1E922, 0x1E943, .right),
   (0x1E944, 0x1E94A, .mark), (0x1E94B, 0x1E959, .right), (0x2B739, 0x2B73F, .unassigned),
   (0x2CEA2, 0x2CEAD, .unassigned), (0x2EBF0, 0x2EE5D, .unassigned),
   (0x31350, 0x33479, .unassigned)]

/-- The direction of a permitted code point. -/
def directionOf (n : Nat) : Direction :=
  match directionRuns.find? fun run => run.1 ≤ n && n ≤ run.2.1 with
  | some run => run.2.2
  | none => .left

namespace Direction

/-- Letters and numbers that make a label right to left. -/
def isRightToLeft (d : Direction) : Bool :=
  d = right || d = arabicLetter || d = arabicNumber

/-- The classes that may stand in any label with a right-to-left code point. -/
def isNeutral (d : Direction) : Bool :=
  d = europeanNumber || d = europeanSeparator || d = commonSeparator || d = europeanTerminator ||
    d = otherNeutral || d = boundaryNeutral || d = mark

end Direction

end Courier.Idna
