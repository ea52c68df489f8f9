import LoadDispatch.Text.CodeRange

/-!
# Scripts and joining

What a name may have depends in some places on the script of the neighbours, and in scripts with
joined letters on whether the neighbours join.
-/

namespace LoadDispatch.Url

/-- How a letter joins with its neighbours. -/
inductive Joining where
  /-- On both sides. -/
  | both
  /-- With what stands behind. -/
  | behind
  /-- With what stands in front. -/
  | front
  /-- It makes its neighbours join. -/
  | forced
  /-- It is passed over. -/
  | passed
deriving DecidableEq, Repr

/-- The ranges of code points that join. -/
def joiningRanges : List (Nat × Nat × Joining) := [
  (0x00AD, 0x00AD, .passed), (0x0300, 0x036F, .passed), (0x0483, 0x0489, .passed),
  (0x0591, 0x05BD, .passed), (0x05BF, 0x05BF, .passed), (0x05C1, 0x05C2, .passed),
  (0x05C4, 0x05C5, .passed), (0x05C7, 0x05C7, .passed), (0x0610, 0x061A, .passed),
  (0x061C, 0x061C, .passed), (0x0620, 0x0620, .both), (0x0622, 0x0625, .front),
  (0x0626, 0x0626, .both), (0x0627, 0x0627, .front), (0x0628, 0x0628, .both),
  (0x0629, 0x0629, .front), (0x062A, 0x062E, .both), (0x062F, 0x0632, .front),
  (0x0633, 0x063F, .both), (0x0640, 0x0640, .forced), (0x0641, 0x0647, .both),
  (0x0648, 0x0648, .front), (0x0649, 0x064A, .both), (0x064B, 0x065F, .passed),
  (0x066E, 0x066F, .both), (0x0670, 0x0670, .passed), (0x0671, 0x0673, .front),
  (0x0675, 0x0677, .front), (0x0678, 0x0687, .both), (0x0688, 0x0699, .front),
  (0x069A, 0x06BF, .both), (0x06C0, 0x06C0, .front), (0x06C1, 0x06C2, .both),
  (0x06C3, 0x06CB, .front), (0x06CC, 0x06CC, .both), (0x06CD, 0x06CD, .front),
  (0x06CE, 0x06CE, .both), (0x06CF, 0x06CF, .front), (0x06D0, 0x06D1, .both),
  (0x06D2, 0x06D3, .front), (0x06D5, 0x06D5, .front), (0x06D6, 0x06DC, .passed),
  (0x06DF, 0x06E4, .passed), (0x06E7, 0x06E8, .passed), (0x06EA, 0x06ED, .passed),
  (0x06EE, 0x06EF, .front), (0x06FA, 0x06FC, .both), (0x06FF, 0x06FF, .both),
  (0x070F, 0x070F, .passed), (0x0710, 0x0710, .front), (0x0711, 0x0711, .passed),
  (0x0712, 0x0714, .both), (0x0715, 0x0719, .front), (0x071A, 0x071D, .both),
  (0x071E, 0x071E, .front), (0x071F, 0x0727, .both), (0x0728, 0x0728, .front),
  (0x0729, 0x0729, .both), (0x072A, 0x072A, .front), (0x072B, 0x072B, .both),
  (0x072C, 0x072C, .front), (0x072D, 0x072E, .both), (0x072F, 0x072F, .front),
  (0x0730, 0x074A, .passed), (0x074D, 0x074D, .front), (0x074E, 0x0758, .both),
  (0x0759, 0x075B, .front), (0x075C, 0x076A, .both), (0x076B, 0x076C, .front),
  (0x076D, 0x0770, .both), (0x0771, 0x0771, .front), (0x0772, 0x0772, .both),
  (0x0773, 0x0774, .front), (0x0775, 0x0777, .both), (0x0778, 0x0779, .front),
  (0x077A, 0x077F, .both), (0x07A6, 0x07B0, .passed), (0x07CA, 0x07EA, .both),
  (0x07EB, 0x07F3, .passed), (0x07FA, 0x07FA, .forced), (0x07FD, 0x07FD, .passed),
  (0x0816, 0x0819, .passed), (0x081B, 0x0823, .passed), (0x0825, 0x0827, .passed),
  (0x0829, 0x082D, .passed), (0x0840, 0x0840, .front), (0x0841, 0x0845, .both),
  (0x0846, 0x0847, .front), (0x0848, 0x0848, .both), (0x0849, 0x0849, .front),
  (0x084A, 0x0853, .both), (0x0854, 0x0854, .front), (0x0855, 0x0855, .both),
  (0x0856, 0x0858, .front), (0x0859, 0x085B, .passed), (0x0860, 0x0860, .both),
  (0x0862, 0x0865, .both), (0x0867, 0x0867, .front), (0x0868, 0x0868, .both),
  (0x0869, 0x086A, .front), (0x0870, 0x0882, .front), (0x0883, 0x0885, .forced),
  (0x0886, 0x0886, .both), (0x0889, 0x088D, .both), (0x088E, 0x088E, .front),
  (0x088F, 0x088F, .both), (0x0897, 0x089F, .passed), (0x08A0, 0x08A9, .both),
  (0x08AA, 0x08AC, .front), (0x08AE, 0x08AE, .front), (0x08AF, 0x08B0, .both),
  (0x08B1, 0x08B2, .front), (0x08B3, 0x08B8, .both), (0x08B9, 0x08B9, .front),
  (0x08BA, 0x08C8, .both), (0x08CA, 0x08E1, .passed), (0x08E3, 0x0902, .passed),
  (0x093A, 0x093A, .passed), (0x093C, 0x093C, .passed), (0x0941, 0x0948, .passed),
  (0x094D, 0x094D, .passed), (0x0951, 0x0957, .passed), (0x0962, 0x0963, .passed),
  (0x0981, 0x0981, .passed), (0x09BC, 0x09BC, .passed), (0x09C1, 0x09C4, .passed),
  (0x09CD, 0x09CD, .passed), (0x09E2, 0x09E3, .passed), (0x09FE, 0x09FE, .passed),
  (0x0A01, 0x0A02, .passed), (0x0A3C, 0x0A3C, .passed), (0x0A41, 0x0A42, .passed),
  (0x0A47, 0x0A48, .passed), (0x0A4B, 0x0A4D, .passed), (0x0A51, 0x0A51, .passed),
  (0x0A70, 0x0A71, .passed), (0x0A75, 0x0A75, .passed), (0x0A81, 0x0A82, .passed),
  (0x0ABC, 0x0ABC, .passed), (0x0AC1, 0x0AC5, .passed), (0x0AC7, 0x0AC8, .passed),
  (0x0ACD, 0x0ACD, .passed), (0x0AE2, 0x0AE3, .passed), (0x0AFA, 0x0AFF, .passed),
  (0x0B01, 0x0B01, .passed), (0x0B3C, 0x0B3C, .passed), (0x0B3F, 0x0B3F, .passed),
  (0x0B41, 0x0B44, .passed), (0x0B4D, 0x0B4D, .passed), (0x0B55, 0x0B56, .passed),
  (0x0B62, 0x0B63, .passed), (0x0B82, 0x0B82, .passed), (0x0BC0, 0x0BC0, .passed),
  (0x0BCD, 0x0BCD, .passed), (0x0C00, 0x0C00, .passed), (0x0C04, 0x0C04, .passed),
  (0x0C3C, 0x0C3C, .passed), (0x0C3E, 0x0C40, .passed), (0x0C46, 0x0C48, .passed),
  (0x0C4A, 0x0C4D, .passed), (0x0C55, 0x0C56, .passed), (0x0C62, 0x0C63, .passed),
  (0x0C81, 0x0C81, .passed), (0x0CBC, 0x0CBC, .passed), (0x0CBF, 0x0CBF, .passed),
  (0x0CC6, 0x0CC6, .passed), (0x0CCC, 0x0CCD, .passed), (0x0CE2, 0x0CE3, .passed),
  (0x0D00, 0x0D01, .passed), (0x0D3B, 0x0D3C, .passed), (0x0D41, 0x0D44, .passed),
  (0x0D4D, 0x0D4D, .passed), (0x0D62, 0x0D63, .passed), (0x0D81, 0x0D81, .passed),
  (0x0DCA, 0x0DCA, .passed), (0x0DD2, 0x0DD4, .passed), (0x0DD6, 0x0DD6, .passed),
  (0x0E31, 0x0E31, .passed), (0x0E34, 0x0E3A, .passed), (0x0E47, 0x0E4E, .passed),
  (0x0EB1, 0x0EB1, .passed), (0x0EB4, 0x0EBC, .passed), (0x0EC8, 0x0ECE, .passed),
  (0x0F18, 0x0F19, .passed), (0x0F35, 0x0F35, .passed), (0x0F37, 0x0F37, .passed),
  (0x0F39, 0x0F39, .passed), (0x0F71, 0x0F7E, .passed), (0x0F80, 0x0F84, .passed),
  (0x0F86, 0x0F87, .passed), (0x0F8D, 0x0F97, .passed), (0x0F99, 0x0FBC, .passed),
  (0x0FC6, 0x0FC6, .passed), (0x102D, 0x1030, .passed), (0x1032, 0x1037, .passed),
  (0x1039, 0x103A, .passed), (0x103D, 0x103E, .passed), (0x1058, 0x1059, .passed),
  (0x105E, 0x1060, .passed), (0x1071, 0x1074, .passed), (0x1082, 0x1082, .passed),
  (0x1085, 0x1086, .passed), (0x108D, 0x108D, .passed), (0x109D, 0x109D, .passed),
  (0x135D, 0x135F, .passed), (0x1712, 0x1714, .passed), (0x1732, 0x1733, .passed),
  (0x1752, 0x1753, .passed), (0x1772, 0x1773, .passed), (0x17B4, 0x17B5, .passed),
  (0x17B7, 0x17BD, .passed), (0x17C6, 0x17C6, .passed), (0x17C9, 0x17D3, .passed),
  (0x17DD, 0x17DD, .passed), (0x1807, 0x1807, .both), (0x180A, 0x180A, .forced),
  (0x180B, 0x180D, .passed), (0x180F, 0x180F, .passed), (0x1820, 0x1878, .both),
  (0x1885, 0x1886, .passed), (0x1887, 0x18A8, .both), (0x18A9, 0x18A9, .passed),
  (0x18AA, 0x18AA, .both), (0x1920, 0x1922, .passed), (0x1927, 0x1928, .passed),
  (0x1932, 0x1932, .passed), (0x1939, 0x193B, .passed), (0x1A17, 0x1A18, .passed),
  (0x1A1B, 0x1A1B, .passed), (0x1A56, 0x1A56, .passed), (0x1A58, 0x1A5E, .passed),
  (0x1A60, 0x1A60, .passed), (0x1A62, 0x1A62, .passed), (0x1A65, 0x1A6C, .passed),
  (0x1A73, 0x1A7C, .passed), (0x1A7F, 0x1A7F, .passed), (0x1AB0, 0x1ADD, .passed),
  (0x1AE0, 0x1AEB, .passed), (0x1B00, 0x1B03, .passed), (0x1B34, 0x1B34, .passed),
  (0x1B36, 0x1B3A, .passed), (0x1B3C, 0x1B3C, .passed), (0x1B42, 0x1B42, .passed),
  (0x1B6B, 0x1B73, .passed), (0x1B80, 0x1B81, .passed), (0x1BA2, 0x1BA5, .passed),
  (0x1BA8, 0x1BA9, .passed), (0x1BAB, 0x1BAD, .passed), (0x1BE6, 0x1BE6, .passed),
  (0x1BE8, 0x1BE9, .passed), (0x1BED, 0x1BED, .passed), (0x1BEF, 0x1BF1, .passed),
  (0x1C2C, 0x1C33, .passed), (0x1C36, 0x1C37, .passed), (0x1CD0, 0x1CD2, .passed),
  (0x1CD4, 0x1CE0, .passed), (0x1CE2, 0x1CE8, .passed), (0x1CED, 0x1CED, .passed),
  (0x1CF4, 0x1CF4, .passed), (0x1CF8, 0x1CF9, .passed), (0x1DC0, 0x1DFF, .passed),
  (0x200B, 0x200B, .passed), (0x200D, 0x200D, .forced), (0x200E, 0x200F, .passed),
  (0x202A, 0x202E, .passed), (0x2060, 0x2064, .passed), (0x206A, 0x206F, .passed),
  (0x20D0, 0x20F0, .passed), (0x2CEF, 0x2CF1, .passed), (0x2D7F, 0x2D7F, .passed),
  (0x2DE0, 0x2DFF, .passed), (0x302A, 0x302D, .passed), (0x3099, 0x309A, .passed),
  (0xA66F, 0xA672, .passed), (0xA674, 0xA67D, .passed), (0xA69E, 0xA69F, .passed),
  (0xA6F0, 0xA6F1, .passed), (0xA802, 0xA802, .passed), (0xA806, 0xA806, .passed),
  (0xA80B, 0xA80B, .passed), (0xA825, 0xA826, .passed), (0xA82C, 0xA82C, .passed),
  (0xA840, 0xA871, .both), (0xA872, 0xA872, .behind), (0xA8C4, 0xA8C5, .passed),
  (0xA8E0, 0xA8F1, .passed), (0xA8FF, 0xA8FF, .passed), (0xA926, 0xA92D, .passed),
  (0xA947, 0xA951, .passed), (0xA980, 0xA982, .passed), (0xA9B3, 0xA9B3, .passed),
  (0xA9B6, 0xA9B9, .passed), (0xA9BC, 0xA9BD, .passed), (0xA9E5, 0xA9E5, .passed),
  (0xAA29, 0xAA2E, .passed), (0xAA31, 0xAA32, .passed), (0xAA35, 0xAA36, .passed),
  (0xAA43, 0xAA43, .passed), (0xAA4C, 0xAA4C, .passed), (0xAA7C, 0xAA7C, .passed),
  (0xAAB0, 0xAAB0, .passed), (0xAAB2, 0xAAB4, .passed), (0xAAB7, 0xAAB8, .passed),
  (0xAABE, 0xAABF, .passed), (0xAAC1, 0xAAC1, .passed), (0xAAEC, 0xAAED, .passed),
  (0xAAF6, 0xAAF6, .passed), (0xABE5, 0xABE5, .passed), (0xABE8, 0xABE8, .passed),
  (0xABED, 0xABED, .passed), (0xFB1E, 0xFB1E, .passed), (0xFE00, 0xFE0F, .passed),
  (0xFE20, 0xFE2F, .passed), (0xFEFF, 0xFEFF, .passed), (0xFFF9, 0xFFFB, .passed),
  (0x101FD, 0x101FD, .passed), (0x102E0, 0x102E0, .passed), (0x10376, 0x1037A, .passed),
  (0x10A01, 0x10A03, .passed), (0x10A05, 0x10A06, .passed), (0x10A0C, 0x10A0F, .passed),
  (0x10A38, 0x10A3A, .passed), (0x10A3F, 0x10A3F, .passed), (0x10AC0, 0x10AC4, .both),
  (0x10AC5, 0x10AC5, .front), (0x10AC7, 0x10AC7, .front), (0x10AC9, 0x10ACA, .front),
  (0x10ACD, 0x10ACD, .behind), (0x10ACE, 0x10AD2, .front), (0x10AD3, 0x10AD6, .both),
  (0x10AD7, 0x10AD7, .behind), (0x10AD8, 0x10ADC, .both), (0x10ADD, 0x10ADD, .front),
  (0x10ADE, 0x10AE0, .both), (0x10AE1, 0x10AE1, .front), (0x10AE4, 0x10AE4, .front),
  (0x10AE5, 0x10AE6, .passed), (0x10AEB, 0x10AEE, .both), (0x10AEF, 0x10AEF, .front),
  (0x10B80, 0x10B80, .both), (0x10B81, 0x10B81, .front), (0x10B82, 0x10B82, .both),
  (0x10B83, 0x10B85, .front), (0x10B86, 0x10B88, .both), (0x10B89, 0x10B89, .front),
  (0x10B8A, 0x10B8B, .both), (0x10B8C, 0x10B8C, .front), (0x10B8D, 0x10B8D, .both),
  (0x10B8E, 0x10B8F, .front), (0x10B90, 0x10B90, .both), (0x10B91, 0x10B91, .front),
  (0x10BA9, 0x10BAC, .front), (0x10BAD, 0x10BAE, .both), (0x10D00, 0x10D00, .behind),
  (0x10D01, 0x10D21, .both), (0x10D22, 0x10D22, .front), (0x10D23, 0x10D23, .both),
  (0x10D24, 0x10D27, .passed), (0x10D69, 0x10D6D, .passed), (0x10EAB, 0x10EAC, .passed),
  (0x10EC2, 0x10EC2, .front), (0x10EC3, 0x10EC4, .both), (0x10EC6, 0x10EC7, .both),
  (0x10EFA, 0x10EFF, .passed), (0x10F30, 0x10F32, .both), (0x10F33, 0x10F33, .front),
  (0x10F34, 0x10F44, .both), (0x10F46, 0x10F50, .passed), (0x10F51, 0x10F53, .both),
  (0x10F54, 0x10F54, .front), (0x10F70, 0x10F73, .both), (0x10F74, 0x10F75, .front),
  (0x10F76, 0x10F81, .both), (0x10F82, 0x10F85, .passed), (0x10FB0, 0x10FB0, .both),
  (0x10FB2, 0x10FB3, .both), (0x10FB4, 0x10FB6, .front), (0x10FB8, 0x10FB8, .both),
  (0x10FB9, 0x10FBA, .front), (0x10FBB, 0x10FBC, .both), (0x10FBD, 0x10FBD, .front),
  (0x10FBE, 0x10FBF, .both), (0x10FC1, 0x10FC1, .both), (0x10FC2, 0x10FC3, .front),
  (0x10FC4, 0x10FC4, .both), (0x10FC9, 0x10FC9, .front), (0x10FCA, 0x10FCA, .both),
  (0x10FCB, 0x10FCB, .behind), (0x11001, 0x11001, .passed), (0x11038, 0x11046, .passed),
  (0x11070, 0x11070, .passed), (0x11073, 0x11074, .passed), (0x1107F, 0x11081, .passed),
  (0x110B3, 0x110B6, .passed), (0x110B9, 0x110BA, .passed), (0x110C2, 0x110C2, .passed),
  (0x11100, 0x11102, .passed), (0x11127, 0x1112B, .passed), (0x1112D, 0x11134, .passed),
  (0x11173, 0x11173, .passed), (0x11180, 0x11181, .passed), (0x111B6, 0x111BE, .passed),
  (0x111C9, 0x111CC, .passed), (0x111CF, 0x111CF, .passed), (0x1122F, 0x11231, .passed),
  (0x11234, 0x11234, .passed), (0x11236, 0x11237, .passed), (0x1123E, 0x1123E, .passed),
  (0x11241, 0x11241, .passed), (0x112DF, 0x112DF, .passed), (0x112E3, 0x112EA, .passed),
  (0x11300, 0x11301, .passed), (0x1133B, 0x1133C, .passed), (0x11340, 0x11340, .passed),
  (0x11366, 0x1136C, .passed), (0x11370, 0x11374, .passed), (0x113BB, 0x113C0, .passed),
  (0x113CE, 0x113CE, .passed), (0x113D0, 0x113D0, .passed), (0x113D2, 0x113D2, .passed),
  (0x113E1, 0x113E2, .passed), (0x11438, 0x1143F, .passed), (0x11442, 0x11444, .passed),
  (0x11446, 0x11446, .passed), (0x1145E, 0x1145E, .passed), (0x114B3, 0x114B8, .passed),
  (0x114BA, 0x114BA, .passed), (0x114BF, 0x114C0, .passed), (0x114C2, 0x114C3, .passed),
  (0x115B2, 0x115B5, .passed), (0x115BC, 0x115BD, .passed), (0x115BF, 0x115C0, .passed),
  (0x115DC, 0x115DD, .passed), (0x11633, 0x1163A, .passed), (0x1163D, 0x1163D, .passed),
  (0x1163F, 0x11640, .passed), (0x116AB, 0x116AB, .passed), (0x116AD, 0x116AD, .passed),
  (0x116B0, 0x116B5, .passed), (0x116B7, 0x116B7, .passed), (0x1171D, 0x1171D, .passed),
  (0x1171F, 0x1171F, .passed), (0x11722, 0x11725, .passed), (0x11727, 0x1172B, .passed),
  (0x1182F, 0x11837, .passed), (0x11839, 0x1183A, .passed), (0x1193B, 0x1193C, .passed),
  (0x1193E, 0x1193E, .passed), (0x11943, 0x11943, .passed), (0x119D4, 0x119D7, .passed),
  (0x119DA, 0x119DB, .passed), (0x119E0, 0x119E0, .passed), (0x11A01, 0x11A0A, .passed),
  (0x11A33, 0x11A38, .passed), (0x11A3B, 0x11A3E, .passed), (0x11A47, 0x11A47, .passed),
  (0x11A51, 0x11A56, .passed), (0x11A59, 0x11A5B, .passed), (0x11A8A, 0x11A96, .passed),
  (0x11A98, 0x11A99, .passed), (0x11B60, 0x11B60, .passed), (0x11B62, 0x11B64, .passed),
  (0x11B66, 0x11B66, .passed), (0x11C30, 0x11C36, .passed), (0x11C38, 0x11C3D, .passed),
  (0x11C3F, 0x11C3F, .passed), (0x11C92, 0x11CA7, .passed), (0x11CAA, 0x11CB0, .passed),
  (0x11CB2, 0x11CB3, .passed), (0x11CB5, 0x11CB6, .passed), (0x11D31, 0x11D36, .passed),
  (0x11D3A, 0x11D3A, .passed), (0x11D3C, 0x11D3D, .passed), (0x11D3F, 0x11D45, .passed),
  (0x11D47, 0x11D47, .passed), (0x11D90, 0x11D91, .passed), (0x11D95, 0x11D95, .passed),
  (0x11D97, 0x11D97, .passed), (0x11EF3, 0x11EF4, .passed), (0x11F00, 0x11F01, .passed),
  (0x11F36, 0x11F3A, .passed), (0x11F40, 0x11F40, .passed), (0x11F42, 0x11F42, .passed),
  (0x11F5A, 0x11F5A, .passed), (0x13430, 0x13440, .passed), (0x13447, 0x13455, .passed),
  (0x1611E, 0x16129, .passed), (0x1612D, 0x1612F, .passed), (0x16AF0, 0x16AF4, .passed),
  (0x16B30, 0x16B36, .passed), (0x16F4F, 0x16F4F, .passed), (0x16F8F, 0x16F92, .passed),
  (0x16FE4, 0x16FE4, .passed), (0x1BC9D, 0x1BC9E, .passed), (0x1BCA0, 0x1BCA3, .passed),
  (0x1CF00, 0x1CF2D, .passed), (0x1CF30, 0x1CF46, .passed), (0x1D167, 0x1D169, .passed),
  (0x1D173, 0x1D182, .passed), (0x1D185, 0x1D18B, .passed), (0x1D1AA, 0x1D1AD, .passed),
  (0x1D242, 0x1D244, .passed), (0x1DA00, 0x1DA36, .passed), (0x1DA3B, 0x1DA6C, .passed),
  (0x1DA75, 0x1DA75, .passed), (0x1DA84, 0x1DA84, .passed), (0x1DA9B, 0x1DA9F, .passed),
  (0x1DAA1, 0x1DAAF, .passed), (0x1E000, 0x1E006, .passed), (0x1E008, 0x1E018, .passed),
  (0x1E01B, 0x1E021, .passed), (0x1E023, 0x1E024, .passed), (0x1E026, 0x1E02A, .passed),
  (0x1E08F, 0x1E08F, .passed), (0x1E130, 0x1E136, .passed), (0x1E2AE, 0x1E2AE, .passed),
  (0x1E2EC, 0x1E2EF, .passed), (0x1E4EC, 0x1E4EF, .passed), (0x1E5EE, 0x1E5EF, .passed),
  (0x1E6E3, 0x1E6E3, .passed), (0x1E6E6, 0x1E6E6, .passed), (0x1E6EE, 0x1E6EF, .passed),
  (0x1E6F5, 0x1E6F5, .passed), (0x1E8D0, 0x1E8D6, .passed), (0x1E900, 0x1E943, .both),
  (0x1E944, 0x1E94B, .passed), (0xE0001, 0xE0001, .passed), (0xE0020, 0xE007F, .passed),
  (0xE0100, 0xE01EF, .passed)]

/-- How a code point joins, if it does. -/
def joining? (code : Nat) : Option Joining :=
  (joiningRanges.find? fun (first, last, _) => first ≤ code && code ≤ last).map fun (_, _, j) => j

/-- Greek. -/
def isGreek (code : Nat) : Bool :=
  Text.inRanges [
    (0x0370, 0x0373), (0x0375, 0x0377), (0x037A, 0x037D), (0x037F, 0x037F), (0x0384, 0x0384),
    (0x0386, 0x0386), (0x0388, 0x038A), (0x038C, 0x038C), (0x038E, 0x03A1), (0x03A3, 0x03E1),
    (0x03F0, 0x03FF), (0x1D26, 0x1D2A), (0x1D5D, 0x1D61), (0x1D66, 0x1D6A), (0x1DBF, 0x1DBF),
    (0x1F00, 0x1F15), (0x1F18, 0x1F1D), (0x1F20, 0x1F45), (0x1F48, 0x1F4D), (0x1F50, 0x1F57),
    (0x1F59, 0x1F59), (0x1F5B, 0x1F5B), (0x1F5D, 0x1F5D), (0x1F5F, 0x1F7D), (0x1F80, 0x1FB4),
    (0x1FB6, 0x1FC4), (0x1FC6, 0x1FD3), (0x1FD6, 0x1FDB), (0x1FDD, 0x1FEF), (0x1FF2, 0x1FF4),
    (0x1FF6, 0x1FFE), (0x2126, 0x2126), (0xAB65, 0xAB65), (0x10140, 0x1018E), (0x101A0, 0x101A0),
    (0x1D200, 0x1D245)] code

/-- Hebrew. -/
def isHebrew (code : Nat) : Bool :=
  Text.inRanges [
    (0x0591, 0x05C7), (0x05D0, 0x05EA), (0x05EF, 0x05F4), (0xFB1D, 0xFB36), (0xFB38, 0xFB3C),
    (0xFB3E, 0xFB3E), (0xFB40, 0xFB41), (0xFB43, 0xFB44), (0xFB46, 0xFB4F)] code

/-- Hiragana, katakana or kanji. -/
def isJapanese (code : Nat) : Bool :=
  Text.inRanges [
    (0x2E80, 0x2E99), (0x2E9B, 0x2EF3), (0x2F00, 0x2FD5), (0x3005, 0x3005), (0x3007, 0x3007),
    (0x3021, 0x3029), (0x3038, 0x303B), (0x3041, 0x3096), (0x309D, 0x309F), (0x30A1, 0x30FA),
    (0x30FD, 0x30FF), (0x31F0, 0x31FF), (0x32D0, 0x32FE), (0x3300, 0x3357), (0x3400, 0x4DBF),
    (0x4E00, 0x9FFF), (0xF900, 0xFA6D), (0xFA70, 0xFAD9), (0xFF66, 0xFF6F), (0xFF71, 0xFF9D),
    (0x16FE2, 0x16FE3), (0x16FF0, 0x16FF6), (0x1AFF0, 0x1AFF3), (0x1AFF5, 0x1AFFB),
    (0x1AFFD, 0x1AFFE), (0x1B000, 0x1B000), (0x1B001, 0x1B11F), (0x1B120, 0x1B122),
    (0x1B132, 0x1B132), (0x1B150, 0x1B152), (0x1B155, 0x1B155), (0x1B164, 0x1B167),
    (0x1F200, 0x1F200), (0x20000, 0x2A6DF), (0x2A700, 0x2B81D), (0x2B820, 0x2CEAD),
    (0x2CEB0, 0x2EBE0), (0x2EBF0, 0x2EE5D), (0x2F800, 0x2FA1D), (0x30000, 0x3134A),
    (0x31350, 0x33479)] code

end LoadDispatch.Url
