/-!
# Letters and their marks

Which marks of a letter come in which order, and which letter and mark are also one letter. Only what a domain name may
hold is told apart.
-/

namespace PromptStudio

/-- Marks by their place at a letter, as ranges: at different places the mark of the smaller number stands first. -/
def markPlaces : List (Nat × Nat × Nat) := [
  (0x0300, 0x0314, 230), (0x0315, 0x0315, 232), (0x0316, 0x0319, 220), (0x031A, 0x031A, 232), (0x031B, 0x031B, 216),
  (0x031C, 0x0320, 220), (0x0321, 0x0322, 202), (0x0323, 0x0326, 220), (0x0327, 0x0328, 202), (0x0329, 0x0333, 220),
  (0x0334, 0x0338, 1), (0x0339, 0x033C, 220), (0x033D, 0x0346, 230), (0x0347, 0x0349, 220), (0x034A, 0x034C, 230),
  (0x034D, 0x034E, 220), (0x0350, 0x0352, 230), (0x0353, 0x0356, 220), (0x0357, 0x0357, 230), (0x0358, 0x0358, 232),
  (0x0359, 0x035A, 220), (0x035B, 0x035B, 230), (0x035C, 0x035C, 233), (0x035D, 0x035E, 234), (0x035F, 0x035F, 233),
  (0x0360, 0x0361, 234), (0x0362, 0x0362, 233), (0x0363, 0x036F, 230), (0x0483, 0x0487, 230), (0x0591, 0x0591, 220),
  (0x0592, 0x0595, 230), (0x0596, 0x0596, 220), (0x0597, 0x0599, 230), (0x059A, 0x059A, 222), (0x059B, 0x059B, 220),
  (0x059C, 0x05A1, 230), (0x05A2, 0x05A7, 220), (0x05A8, 0x05A9, 230), (0x05AA, 0x05AA, 220), (0x05AB, 0x05AC, 230),
  (0x05AD, 0x05AD, 222), (0x05AE, 0x05AE, 228), (0x05AF, 0x05AF, 230), (0x05B0, 0x05B0, 10), (0x05B1, 0x05B1, 11),
  (0x05B2, 0x05B2, 12), (0x05B3, 0x05B3, 13), (0x05B4, 0x05B4, 14), (0x05B5, 0x05B5, 15), (0x05B6, 0x05B6, 16),
  (0x05B7, 0x05B7, 17), (0x05B8, 0x05B8, 18), (0x05B9, 0x05BA, 19), (0x05BB, 0x05BB, 20), (0x05BC, 0x05BC, 21),
  (0x05BD, 0x05BD, 22), (0x05BF, 0x05BF, 23), (0x05C1, 0x05C1, 24), (0x05C2, 0x05C2, 25), (0x05C4, 0x05C4, 230),
  (0x05C5, 0x05C5, 220), (0x05C7, 0x05C7, 18), (0x0610, 0x0617, 230), (0x0618, 0x0618, 30), (0x0619, 0x0619, 31),
  (0x061A, 0x061A, 32), (0x064B, 0x064B, 27), (0x064C, 0x064C, 28), (0x064D, 0x064D, 29), (0x064E, 0x064E, 30),
  (0x064F, 0x064F, 31), (0x0650, 0x0650, 32), (0x0651, 0x0651, 33), (0x0652, 0x0652, 34), (0x0653, 0x0654, 230),
  (0x0655, 0x0656, 220), (0x0657, 0x065B, 230), (0x065C, 0x065C, 220), (0x065D, 0x065E, 230), (0x065F, 0x065F, 220),
  (0x0670, 0x0670, 35), (0x06D6, 0x06E2, 230), (0x06E3, 0x06E3, 220), (0x06E4, 0x06E4, 230), (0x06E7, 0x06E8, 230),
  (0x06EA, 0x06EA, 220), (0x06EB, 0x06EC, 230), (0x06ED, 0x06ED, 220), (0x0711, 0x0711, 36), (0x0730, 0x0730, 230),
  (0x0731, 0x0731, 220), (0x0732, 0x0733, 230), (0x0734, 0x0734, 220), (0x0735, 0x0736, 230), (0x0737, 0x0739, 220),
  (0x073A, 0x073A, 230), (0x073B, 0x073C, 220), (0x073D, 0x073D, 230), (0x073E, 0x073E, 220), (0x073F, 0x0741, 230),
  (0x0742, 0x0742, 220), (0x0743, 0x0743, 230), (0x0744, 0x0744, 220), (0x0745, 0x0745, 230), (0x0746, 0x0746, 220),
  (0x0747, 0x0747, 230), (0x0748, 0x0748, 220), (0x0749, 0x074A, 230), (0x07EB, 0x07F1, 230), (0x07F2, 0x07F2, 220),
  (0x07F3, 0x07F3, 230), (0x07FD, 0x07FD, 220), (0x0816, 0x0819, 230), (0x081B, 0x0823, 230), (0x0825, 0x0827, 230),
  (0x0829, 0x082D, 230), (0x0859, 0x085B, 220), (0x0898, 0x0898, 230), (0x0899, 0x089B, 220), (0x089C, 0x089F, 230),
  (0x08CA, 0x08CE, 230), (0x08CF, 0x08D3, 220), (0x08D4, 0x08E1, 230), (0x08E3, 0x08E3, 220), (0x08E4, 0x08E5, 230),
  (0x08E6, 0x08E6, 220), (0x08E7, 0x08E8, 230), (0x08E9, 0x08E9, 220), (0x08EA, 0x08EC, 230), (0x08ED, 0x08EF, 220),
  (0x08F0, 0x08F0, 27), (0x08F1, 0x08F1, 28), (0x08F2, 0x08F2, 29), (0x08F3, 0x08F5, 230), (0x08F6, 0x08F6, 220),
  (0x08F7, 0x08F8, 230), (0x08F9, 0x08FA, 220), (0x08FB, 0x08FF, 230), (0x093C, 0x093C, 7), (0x094D, 0x094D, 9),
  (0x0951, 0x0951, 230), (0x0952, 0x0952, 220), (0x0953, 0x0954, 230), (0x09BC, 0x09BC, 7), (0x09CD, 0x09CD, 9),
  (0x09FE, 0x09FE, 230), (0x0A3C, 0x0A3C, 7), (0x0A4D, 0x0A4D, 9), (0x0ABC, 0x0ABC, 7), (0x0ACD, 0x0ACD, 9),
  (0x0B3C, 0x0B3C, 7), (0x0B4D, 0x0B4D, 9), (0x0BCD, 0x0BCD, 9), (0x0C3C, 0x0C3C, 7), (0x0C4D, 0x0C4D, 9),
  (0x0C55, 0x0C55, 84), (0x0C56, 0x0C56, 91), (0x0CBC, 0x0CBC, 7), (0x0CCD, 0x0CCD, 9), (0x0D3B, 0x0D3C, 9),
  (0x0D4D, 0x0D4D, 9), (0x0DCA, 0x0DCA, 9), (0x0E38, 0x0E39, 103), (0x0E3A, 0x0E3A, 9), (0x0E48, 0x0E4B, 107),
  (0x0EB8, 0x0EB9, 118), (0x0EBA, 0x0EBA, 9), (0x0EC8, 0x0ECB, 122), (0x0F18, 0x0F19, 220), (0x0F35, 0x0F37, 220),
  (0x0F39, 0x0F39, 216), (0x0F71, 0x0F71, 129), (0x0F72, 0x0F72, 130), (0x0F74, 0x0F74, 132), (0x0F7A, 0x0F7D, 130),
  (0x0F80, 0x0F80, 130), (0x0F82, 0x0F83, 230), (0x0F84, 0x0F84, 9), (0x0F86, 0x0F87, 230), (0x0FC6, 0x0FC6, 220),
  (0x1037, 0x1037, 7), (0x1039, 0x103A, 9), (0x108D, 0x108D, 220), (0x135D, 0x135F, 230), (0x1714, 0x1715, 9),
  (0x1734, 0x1734, 9), (0x17D2, 0x17D2, 9), (0x17DD, 0x17DD, 230), (0x18A9, 0x18A9, 228), (0x1939, 0x1939, 222),
  (0x193A, 0x193A, 230), (0x193B, 0x193B, 220), (0x1A17, 0x1A17, 230), (0x1A18, 0x1A18, 220), (0x1A60, 0x1A60, 9),
  (0x1A75, 0x1A7C, 230), (0x1A7F, 0x1A7F, 220), (0x1AB0, 0x1AB4, 230), (0x1AB5, 0x1ABA, 220), (0x1ABB, 0x1ABC, 230),
  (0x1ABD, 0x1AC0, 220), (0x1AC1, 0x1AC2, 230), (0x1AC3, 0x1AC4, 220), (0x1AC5, 0x1AC9, 230), (0x1ACA, 0x1ACA, 220),
  (0x1ACB, 0x1ACE, 230), (0x1B34, 0x1B34, 7), (0x1B44, 0x1B44, 9), (0x1B6B, 0x1B6B, 230), (0x1B6C, 0x1B6C, 220),
  (0x1B6D, 0x1B73, 230), (0x1BAA, 0x1BAB, 9), (0x1BE6, 0x1BE6, 7), (0x1BF2, 0x1BF3, 9), (0x1C37, 0x1C37, 7),
  (0x1CD0, 0x1CD2, 230), (0x1CD4, 0x1CD4, 1), (0x1CD5, 0x1CD9, 220), (0x1CDA, 0x1CDB, 230), (0x1CDC, 0x1CDF, 220),
  (0x1CE0, 0x1CE0, 230), (0x1CE2, 0x1CE8, 1), (0x1CED, 0x1CED, 220), (0x1CF4, 0x1CF4, 230), (0x1CF8, 0x1CF9, 230),
  (0x1DC0, 0x1DC1, 230), (0x1DC2, 0x1DC2, 220), (0x1DC3, 0x1DC9, 230), (0x1DCA, 0x1DCA, 220), (0x1DCB, 0x1DCC, 230),
  (0x1DCD, 0x1DCD, 234), (0x1DCE, 0x1DCE, 214), (0x1DCF, 0x1DCF, 220), (0x1DD0, 0x1DD0, 202), (0x1DD1, 0x1DF5, 230),
  (0x1DF6, 0x1DF6, 232), (0x1DF7, 0x1DF8, 228), (0x1DF9, 0x1DF9, 220), (0x1DFA, 0x1DFA, 218), (0x1DFB, 0x1DFB, 230),
  (0x1DFC, 0x1DFC, 233), (0x1DFD, 0x1DFD, 220), (0x1DFE, 0x1DFE, 230), (0x1DFF, 0x1DFF, 220), (0x2CEF, 0x2CF1, 230),
  (0x2D7F, 0x2D7F, 9), (0x2DE0, 0x2DFF, 230), (0x302A, 0x302A, 218), (0x302B, 0x302B, 228), (0x302C, 0x302C, 232),
  (0x302D, 0x302D, 222), (0x3099, 0x309A, 8), (0xA66F, 0xA67D, 230), (0xA69E, 0xA69F, 230), (0xA6F0, 0xA6F1, 230),
  (0xA806, 0xA806, 9), (0xA82C, 0xA82C, 9), (0xA8C4, 0xA8C4, 9), (0xA8E0, 0xA8F1, 230), (0xA92B, 0xA92D, 220),
  (0xA953, 0xA953, 9), (0xA9B3, 0xA9B3, 7), (0xA9C0, 0xA9C0, 9), (0xAAB0, 0xAAB0, 230), (0xAAB2, 0xAAB3, 230),
  (0xAAB4, 0xAAB4, 220), (0xAAB7, 0xAAB8, 230), (0xAABE, 0xAABF, 230), (0xAAC1, 0xAAC1, 230), (0xAAF6, 0xAAF6, 9),
  (0xABED, 0xABED, 9), (0xFB1E, 0xFB1E, 26), (0xFE20, 0xFE26, 230), (0xFE27, 0xFE2D, 220), (0xFE2E, 0xFE2F, 230),
  (0x101FD, 0x101FD, 220), (0x102E0, 0x102E0, 220), (0x10376, 0x1037A, 230), (0x10A0D, 0x10A0D, 220),
  (0x10A0F, 0x10A0F, 230), (0x10A38, 0x10A38, 230), (0x10A39, 0x10A39, 1), (0x10A3A, 0x10A3A, 220),
  (0x10A3F, 0x10A3F, 9), (0x10AE5, 0x10AE5, 230), (0x10AE6, 0x10AE6, 220), (0x10D24, 0x10D27, 230),
  (0x10EAB, 0x10EAC, 230), (0x10F46, 0x10F47, 220), (0x10F48, 0x10F4A, 230), (0x10F4B, 0x10F4B, 220),
  (0x10F4C, 0x10F4C, 230), (0x10F4D, 0x10F50, 220), (0x10F82, 0x10F82, 230), (0x10F83, 0x10F83, 220),
  (0x10F84, 0x10F84, 230), (0x10F85, 0x10F85, 220), (0x11046, 0x11046, 9), (0x11070, 0x11070, 9), (0x1107F, 0x1107F, 9),
  (0x110B9, 0x110B9, 9), (0x110BA, 0x110BA, 7), (0x11100, 0x11102, 230), (0x11133, 0x11134, 9), (0x11173, 0x11173, 7),
  (0x111C0, 0x111C0, 9), (0x111CA, 0x111CA, 7), (0x11235, 0x11235, 9), (0x11236, 0x11236, 7), (0x112E9, 0x112E9, 7),
  (0x112EA, 0x112EA, 9), (0x1133B, 0x1133C, 7), (0x1134D, 0x1134D, 9), (0x11366, 0x11374, 230), (0x11442, 0x11442, 9),
  (0x11446, 0x11446, 7), (0x1145E, 0x1145E, 230), (0x114C2, 0x114C2, 9), (0x114C3, 0x114C3, 7), (0x115BF, 0x115BF, 9),
  (0x115C0, 0x115C0, 7), (0x1163F, 0x1163F, 9), (0x116B6, 0x116B6, 9), (0x116B7, 0x116B7, 7), (0x1172B, 0x1172B, 9),
  (0x11839, 0x11839, 9), (0x1183A, 0x1183A, 7), (0x1193D, 0x1193E, 9), (0x11943, 0x11943, 7), (0x119E0, 0x119E0, 9),
  (0x11A34, 0x11A34, 9), (0x11A47, 0x11A47, 9), (0x11A99, 0x11A99, 9), (0x11C3F, 0x11C3F, 9), (0x11D42, 0x11D42, 7),
  (0x11D44, 0x11D45, 9), (0x11D97, 0x11D97, 9), (0x16AF0, 0x16AF4, 1), (0x16B30, 0x16B36, 230), (0x16FF0, 0x16FF1, 6),
  (0x1BC9E, 0x1BC9E, 1), (0x1E000, 0x1E02A, 230), (0x1E130, 0x1E136, 230), (0x1E2AE, 0x1E2AE, 230),
  (0x1E2EC, 0x1E2EF, 230), (0x1E8D0, 0x1E8D6, 220), (0x1E944, 0x1E949, 230), (0x1E94A, 0x1E94A, 7)]

def markedLetters : List (Nat × List (Nat × Nat)) := [
  (0x0300, [(0x0061, 0x00E0), (0x0065, 0x00E8), (0x0069, 0x00EC), (0x006F, 0x00F2), (0x0075, 0x00F9), (0x00FC, 0x01DC),
    (0x006E, 0x01F9), (0x0435, 0x0450), (0x0438, 0x045D), (0x0113, 0x1E15), (0x014D, 0x1E51), (0x0077, 0x1E81),
    (0x00E2, 0x1EA7), (0x0103, 0x1EB1), (0x00EA, 0x1EC1), (0x00F4, 0x1ED3), (0x01A1, 0x1EDD), (0x01B0, 0x1EEB),
    (0x0079, 0x1EF3), (0x1F00, 0x1F02), (0x1F01, 0x1F03), (0x1F10, 0x1F12), (0x1F11, 0x1F13), (0x1F20, 0x1F22),
    (0x1F21, 0x1F23), (0x1F30, 0x1F32), (0x1F31, 0x1F33), (0x1F40, 0x1F42), (0x1F41, 0x1F43), (0x1F50, 0x1F52),
    (0x1F51, 0x1F53), (0x1F60, 0x1F62), (0x1F61, 0x1F63), (0x03B1, 0x1F70), (0x03B5, 0x1F72), (0x03B7, 0x1F74),
    (0x03B9, 0x1F76), (0x03BF, 0x1F78), (0x03C5, 0x1F7A), (0x03C9, 0x1F7C), (0x03CA, 0x1FD2), (0x03CB, 0x1FE2)]),
  (0x0301, [(0x0061, 0x00E1), (0x0065, 0x00E9), (0x0069, 0x00ED), (0x006F, 0x00F3), (0x0075, 0x00FA), (0x0079, 0x00FD),
    (0x0063, 0x0107), (0x006C, 0x013A), (0x006E, 0x0144), (0x0072, 0x0155), (0x0073, 0x015B), (0x007A, 0x017A),
    (0x00FC, 0x01D8), (0x0067, 0x01F5), (0x00E5, 0x01FB), (0x00E6, 0x01FD), (0x00F8, 0x01FF), (0x03CA, 0x0390),
    (0x03B1, 0x03AC), (0x03B5, 0x03AD), (0x03B7, 0x03AE), (0x03B9, 0x03AF), (0x03CB, 0x03B0), (0x03BF, 0x03CC),
    (0x03C5, 0x03CD), (0x03C9, 0x03CE), (0x0433, 0x0453), (0x043A, 0x045C), (0x00E7, 0x1E09), (0x0113, 0x1E17),
    (0x00EF, 0x1E2F), (0x006B, 0x1E31), (0x006D, 0x1E3F), (0x00F5, 0x1E4D), (0x014D, 0x1E53), (0x0070, 0x1E55),
    (0x0169, 0x1E79), (0x0077, 0x1E83), (0x00E2, 0x1EA5), (0x0103, 0x1EAF), (0x00EA, 0x1EBF), (0x00F4, 0x1ED1),
    (0x01A1, 0x1EDB), (0x01B0, 0x1EE9), (0x1F00, 0x1F04), (0x1F01, 0x1F05), (0x1F10, 0x1F14), (0x1F11, 0x1F15),
    (0x1F20, 0x1F24), (0x1F21, 0x1F25), (0x1F30, 0x1F34), (0x1F31, 0x1F35), (0x1F40, 0x1F44), (0x1F41, 0x1F45),
    (0x1F50, 0x1F54), (0x1F51, 0x1F55), (0x1F60, 0x1F64), (0x1F61, 0x1F65)]),
  (0x0302, [(0x0061, 0x00E2), (0x0065, 0x00EA), (0x0069, 0x00EE), (0x006F, 0x00F4), (0x0075, 0x00FB), (0x0063, 0x0109),
    (0x0067, 0x011D), (0x0068, 0x0125), (0x006A, 0x0135), (0x0073, 0x015D), (0x0077, 0x0175), (0x0079, 0x0177),
    (0x007A, 0x1E91), (0x1EA1, 0x1EAD), (0x1EB9, 0x1EC7), (0x1ECD, 0x1ED9)]),
  (0x0303, [(0x0061, 0x00E3), (0x006E, 0x00F1), (0x006F, 0x00F5), (0x0069, 0x0129), (0x0075, 0x0169), (0x0076, 0x1E7D),
    (0x00E2, 0x1EAB), (0x0103, 0x1EB5), (0x0065, 0x1EBD), (0x00EA, 0x1EC5), (0x00F4, 0x1ED7), (0x01A1, 0x1EE1),
    (0x01B0, 0x1EEF), (0x0079, 0x1EF9)]),
  (0x0304, [(0x0061, 0x0101), (0x0065, 0x0113), (0x0069, 0x012B), (0x006F, 0x014D), (0x0075, 0x016B), (0x00FC, 0x01D6),
    (0x00E4, 0x01DF), (0x0227, 0x01E1), (0x00E6, 0x01E3), (0x01EB, 0x01ED), (0x00F6, 0x022B), (0x00F5, 0x022D),
    (0x022F, 0x0231), (0x0079, 0x0233), (0x0438, 0x04E3), (0x0443, 0x04EF), (0x0067, 0x1E21), (0x1E37, 0x1E39),
    (0x1E5B, 0x1E5D), (0x03B1, 0x1FB1), (0x03B9, 0x1FD1), (0x03C5, 0x1FE1)]),
  (0x0306, [(0x0061, 0x0103), (0x0065, 0x0115), (0x0067, 0x011F), (0x0069, 0x012D), (0x006F, 0x014F), (0x0075, 0x016D),
    (0x0438, 0x0439), (0x0443, 0x045E), (0x0436, 0x04C2), (0x0430, 0x04D1), (0x0435, 0x04D7), (0x0229, 0x1E1D),
    (0x1EA1, 0x1EB7), (0x03B1, 0x1FB0), (0x03B9, 0x1FD0), (0x03C5, 0x1FE0)]),
  (0x0307, [(0x0063, 0x010B), (0x0065, 0x0117), (0x0067, 0x0121), (0x007A, 0x017C), (0x0061, 0x0227), (0x006F, 0x022F),
    (0x0062, 0x1E03), (0x0064, 0x1E0B), (0x0066, 0x1E1F), (0x0068, 0x1E23), (0x006D, 0x1E41), (0x006E, 0x1E45),
    (0x0070, 0x1E57), (0x0072, 0x1E59), (0x0073, 0x1E61), (0x015B, 0x1E65), (0x0161, 0x1E67), (0x1E63, 0x1E69),
    (0x0074, 0x1E6B), (0x0077, 0x1E87), (0x0078, 0x1E8B), (0x0079, 0x1E8F)]),
  (0x0308, [(0x0061, 0x00E4), (0x0065, 0x00EB), (0x0069, 0x00EF), (0x006F, 0x00F6), (0x0075, 0x00FC), (0x0079, 0x00FF),
    (0x03B9, 0x03CA), (0x03C5, 0x03CB), (0x0435, 0x0451), (0x0456, 0x0457), (0x0430, 0x04D3), (0x04D9, 0x04DB),
    (0x0436, 0x04DD), (0x0437, 0x04DF), (0x0438, 0x04E5), (0x043E, 0x04E7), (0x04E9, 0x04EB), (0x044D, 0x04ED),
    (0x0443, 0x04F1), (0x0447, 0x04F5), (0x044B, 0x04F9), (0x0068, 0x1E27), (0x00F5, 0x1E4F), (0x016B, 0x1E7B),
    (0x0077, 0x1E85), (0x0078, 0x1E8D), (0x0074, 0x1E97)]),
  (0x0309, [(0x0061, 0x1EA3), (0x00E2, 0x1EA9), (0x0103, 0x1EB3), (0x0065, 0x1EBB), (0x00EA, 0x1EC3), (0x0069, 0x1EC9),
    (0x006F, 0x1ECF), (0x00F4, 0x1ED5), (0x01A1, 0x1EDF), (0x0075, 0x1EE7), (0x01B0, 0x1EED), (0x0079, 0x1EF7)]),
  (0x030A, [(0x0061, 0x00E5), (0x0075, 0x016F), (0x0077, 0x1E98), (0x0079, 0x1E99)]),
  (0x030B, [(0x006F, 0x0151), (0x0075, 0x0171), (0x0443, 0x04F3)]),
  (0x030C, [(0x0063, 0x010D), (0x0064, 0x010F), (0x0065, 0x011B), (0x006C, 0x013E), (0x006E, 0x0148), (0x0072, 0x0159),
    (0x0073, 0x0161), (0x0074, 0x0165), (0x007A, 0x017E), (0x0061, 0x01CE), (0x0069, 0x01D0), (0x006F, 0x01D2),
    (0x0075, 0x01D4), (0x00FC, 0x01DA), (0x0067, 0x01E7), (0x006B, 0x01E9), (0x0292, 0x01EF), (0x006A, 0x01F0),
    (0x0068, 0x021F)]),
  (0x030F, [(0x0061, 0x0201), (0x0065, 0x0205), (0x0069, 0x0209), (0x006F, 0x020D), (0x0072, 0x0211), (0x0075, 0x0215),
    (0x0475, 0x0477)]),
  (0x0311, [(0x0061, 0x0203), (0x0065, 0x0207), (0x0069, 0x020B), (0x006F, 0x020F), (0x0072, 0x0213),
    (0x0075, 0x0217)]),
  (0x0313, [(0x03B1, 0x1F00), (0x03B5, 0x1F10), (0x03B7, 0x1F20), (0x03B9, 0x1F30), (0x03BF, 0x1F40), (0x03C5, 0x1F50),
    (0x03C9, 0x1F60), (0x03C1, 0x1FE4)]),
  (0x0314, [(0x03B1, 0x1F01), (0x03B5, 0x1F11), (0x03B7, 0x1F21), (0x03B9, 0x1F31), (0x03BF, 0x1F41), (0x03C5, 0x1F51),
    (0x03C9, 0x1F61), (0x03C1, 0x1FE5)]),
  (0x031B, [(0x006F, 0x01A1), (0x0075, 0x01B0)]),
  (0x0323, [(0x0062, 0x1E05), (0x0064, 0x1E0D), (0x0068, 0x1E25), (0x006B, 0x1E33), (0x006C, 0x1E37), (0x006D, 0x1E43),
    (0x006E, 0x1E47), (0x0072, 0x1E5B), (0x0073, 0x1E63), (0x0074, 0x1E6D), (0x0076, 0x1E7F), (0x0077, 0x1E89),
    (0x007A, 0x1E93), (0x0061, 0x1EA1), (0x0065, 0x1EB9), (0x0069, 0x1ECB), (0x006F, 0x1ECD), (0x01A1, 0x1EE3),
    (0x0075, 0x1EE5), (0x01B0, 0x1EF1), (0x0079, 0x1EF5)]),
  (0x0324, [(0x0075, 0x1E73)]),
  (0x0325, [(0x0061, 0x1E01)]),
  (0x0326, [(0x0073, 0x0219), (0x0074, 0x021B)]),
  (0x0327, [(0x0063, 0x00E7), (0x0067, 0x0123), (0x006B, 0x0137), (0x006C, 0x013C), (0x006E, 0x0146), (0x0072, 0x0157),
    (0x0073, 0x015F), (0x0074, 0x0163), (0x0065, 0x0229), (0x0064, 0x1E11), (0x0068, 0x1E29)]),
  (0x0328, [(0x0061, 0x0105), (0x0065, 0x0119), (0x0069, 0x012F), (0x0075, 0x0173), (0x006F, 0x01EB)]),
  (0x032D, [(0x0064, 0x1E13), (0x0065, 0x1E19), (0x006C, 0x1E3D), (0x006E, 0x1E4B), (0x0074, 0x1E71),
    (0x0075, 0x1E77)]),
  (0x032E, [(0x0068, 0x1E2B)]),
  (0x0330, [(0x0065, 0x1E1B), (0x0069, 0x1E2D), (0x0075, 0x1E75)]),
  (0x0331, [(0x0062, 0x1E07), (0x0064, 0x1E0F), (0x006B, 0x1E35), (0x006C, 0x1E3B), (0x006E, 0x1E49), (0x0072, 0x1E5F),
    (0x0074, 0x1E6F), (0x007A, 0x1E95), (0x0068, 0x1E96)]),
  (0x0342, [(0x1F00, 0x1F06), (0x1F01, 0x1F07), (0x1F20, 0x1F26), (0x1F21, 0x1F27), (0x1F30, 0x1F36), (0x1F31, 0x1F37),
    (0x1F50, 0x1F56), (0x1F51, 0x1F57), (0x1F60, 0x1F66), (0x1F61, 0x1F67), (0x03B1, 0x1FB6), (0x03B7, 0x1FC6),
    (0x03B9, 0x1FD6), (0x03CA, 0x1FD7), (0x03C5, 0x1FE6), (0x03CB, 0x1FE7), (0x03C9, 0x1FF6)]),
  (0x0653, [(0x0627, 0x0622)]),
  (0x0654, [(0x0627, 0x0623), (0x0648, 0x0624), (0x064A, 0x0626), (0x06D5, 0x06C0), (0x06C1, 0x06C2),
    (0x06D2, 0x06D3)]),
  (0x0655, [(0x0627, 0x0625)]),
  (0x093C, [(0x0928, 0x0929), (0x0930, 0x0931), (0x0933, 0x0934)]),
  (0x09BE, [(0x09C7, 0x09CB)]),
  (0x09D7, [(0x09C7, 0x09CC)]),
  (0x0B3E, [(0x0B47, 0x0B4B)]),
  (0x0B56, [(0x0B47, 0x0B48)]),
  (0x0B57, [(0x0B47, 0x0B4C)]),
  (0x0BBE, [(0x0BC6, 0x0BCA), (0x0BC7, 0x0BCB)]),
  (0x0BD7, [(0x0B92, 0x0B94), (0x0BC6, 0x0BCC)]),
  (0x0C56, [(0x0C46, 0x0C48)]),
  (0x0CC2, [(0x0CC6, 0x0CCA)]),
  (0x0CD5, [(0x0CBF, 0x0CC0), (0x0CC6, 0x0CC7), (0x0CCA, 0x0CCB)]),
  (0x0CD6, [(0x0CC6, 0x0CC8)]),
  (0x0D3E, [(0x0D46, 0x0D4A), (0x0D47, 0x0D4B)]),
  (0x0D57, [(0x0D46, 0x0D4C)]),
  (0x0DCA, [(0x0DD9, 0x0DDA), (0x0DDC, 0x0DDD)]),
  (0x0DCF, [(0x0DD9, 0x0DDC)]),
  (0x0DDF, [(0x0DD9, 0x0DDE)]),
  (0x102E, [(0x1025, 0x1026)]),
  (0x1B35, [(0x1B05, 0x1B06), (0x1B07, 0x1B08), (0x1B09, 0x1B0A), (0x1B0B, 0x1B0C), (0x1B0D, 0x1B0E), (0x1B11, 0x1B12),
    (0x1B3A, 0x1B3B), (0x1B3C, 0x1B3D), (0x1B3E, 0x1B40), (0x1B3F, 0x1B41), (0x1B42, 0x1B43)]),
  (0x3099, [(0x304B, 0x304C), (0x304D, 0x304E), (0x304F, 0x3050), (0x3051, 0x3052), (0x3053, 0x3054), (0x3055, 0x3056),
    (0x3057, 0x3058), (0x3059, 0x305A), (0x305B, 0x305C), (0x305D, 0x305E), (0x305F, 0x3060), (0x3061, 0x3062),
    (0x3064, 0x3065), (0x3066, 0x3067), (0x3068, 0x3069), (0x306F, 0x3070), (0x3072, 0x3073), (0x3075, 0x3076),
    (0x3078, 0x3079), (0x307B, 0x307C), (0x3046, 0x3094), (0x309D, 0x309E), (0x30AB, 0x30AC), (0x30AD, 0x30AE),
    (0x30AF, 0x30B0), (0x30B1, 0x30B2), (0x30B3, 0x30B4), (0x30B5, 0x30B6), (0x30B7, 0x30B8), (0x30B9, 0x30BA),
    (0x30BB, 0x30BC), (0x30BD, 0x30BE), (0x30BF, 0x30C0), (0x30C1, 0x30C2), (0x30C4, 0x30C5), (0x30C6, 0x30C7),
    (0x30C8, 0x30C9), (0x30CF, 0x30D0), (0x30D2, 0x30D3), (0x30D5, 0x30D6), (0x30D8, 0x30D9), (0x30DB, 0x30DC),
    (0x30A6, 0x30F4), (0x30EF, 0x30F7), (0x30F0, 0x30F8), (0x30F1, 0x30F9), (0x30F2, 0x30FA), (0x30FD, 0x30FE)]),
  (0x309A, [(0x306F, 0x3071), (0x3072, 0x3074), (0x3075, 0x3077), (0x3078, 0x307A), (0x307B, 0x307D), (0x30CF, 0x30D1),
    (0x30D2, 0x30D4), (0x30D5, 0x30D7), (0x30D8, 0x30DA), (0x30DB, 0x30DD)]),
  (0x110BA, [(0x11099, 0x1109A), (0x1109B, 0x1109C), (0x110A5, 0x110AB)]),
  (0x11127, [(0x11131, 0x1112E), (0x11132, 0x1112F)]),
  (0x1133E, [(0x11347, 0x1134B)]),
  (0x11357, [(0x11347, 0x1134C)]),
  (0x114B0, [(0x114B9, 0x114BC)]),
  (0x114BA, [(0x114B9, 0x114BB)]),
  (0x114BD, [(0x114B9, 0x114BE)]),
  (0x115AF, [(0x115B8, 0x115BA), (0x115B9, 0x115BB)]),
  (0x11930, [(0x11935, 0x11938)])]

end PromptStudio
