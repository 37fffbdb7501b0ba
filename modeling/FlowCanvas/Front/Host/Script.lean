import FlowCanvas.Front.Text.CodeRun

/-!
# Characters of host names

The code points that no name of a host may hold, and the directions in which letters are written.
The sets follow version 3.2 of the Unicode character database. Each is given by the code points at
which it starts or stops.
-/

namespace FlowCanvas.Front.Host

/-- Where the code points start and stop that no name may hold: spaces other than the plain one,
controls, private use, surrogates, code points that are no characters, and characters that change
how others are shown. -/
def prohibitedBounds : List Nat := [
  0x0080, 0x00A1, 0x0340, 0x0342, 0x06DD, 0x06DE, 0x070F, 0x0710, 0x1680, 0x1681, 0x180E, 0x180F,
  0x2000, 0x2010, 0x2028, 0x2030, 0x205F, 0x2064, 0x206A, 0x2070, 0x2FF0, 0x2FFC, 0x3000, 0x3001,
  0xD800, 0xF900, 0xFDD0, 0xFDF0, 0xFEFF, 0xFF00, 0xFFF9, 0x10000, 0x1D173, 0x1D17B, 0x1FFFE,
  0x20000, 0x2FFFE, 0x30000, 0x3FFFE, 0x40000, 0x4FFFE, 0x50000, 0x5FFFE, 0x60000, 0x6FFFE,
  0x70000, 0x7FFFE, 0x80000, 0x8FFFE, 0x90000, 0x9FFFE, 0xA0000, 0xAFFFE, 0xB0000, 0xBFFFE,
  0xC0000, 0xCFFFE, 0xD0000, 0xDFFFE, 0xE0000, 0xE0001, 0xE0002, 0xE0020, 0xE0080, 0xEFFFE,
  0x110000]

/-- May no name hold this code point? -/
def isProhibited (n : Nat) : Bool := Text.isWithin prohibitedBounds n

/-- Where the letters that are written from right to left start and stop. -/
def rightToLeftBounds : List Nat := [
  0x05BE, 0x05BF, 0x05C0, 0x05C1, 0x05C3, 0x05C4, 0x05D0, 0x05EB, 0x05F0, 0x05F5, 0x061B, 0x061C,
  0x061F, 0x0620, 0x0621, 0x063B, 0x0640, 0x064B, 0x066D, 0x0670, 0x0671, 0x06D6, 0x06DD, 0x06DE,
  0x06E5, 0x06E7, 0x06FA, 0x06FF, 0x0700, 0x070E, 0x0710, 0x0711, 0x0712, 0x072D, 0x0780, 0x07A6,
  0x07B1, 0x07B2, 0x200F, 0x2010, 0xFB1D, 0xFB1E, 0xFB1F, 0xFB29, 0xFB2A, 0xFB37, 0xFB38, 0xFB3D,
  0xFB3E, 0xFB3F, 0xFB40, 0xFB42, 0xFB43, 0xFB45, 0xFB46, 0xFBB2, 0xFBD3, 0xFD3E, 0xFD50, 0xFD90,
  0xFD92, 0xFDC8, 0xFDF0, 0xFDFD, 0xFE70, 0xFE75, 0xFE76, 0xFEFD]

/-- Is the letter written from right to left? -/
def isRightToLeft (n : Nat) : Bool := Text.isWithin rightToLeftBounds n

/-- Where the letters that are written from left to right start and stop. -/
def leftToRightBounds : List Nat := [
  0x0041, 0x005B, 0x0061, 0x007B, 0x00AA, 0x00AB, 0x00B5, 0x00B6, 0x00BA, 0x00BB, 0x00C0, 0x00D7,
  0x00D8, 0x00F7, 0x00F8, 0x0221, 0x0222, 0x0234, 0x0250, 0x02AE, 0x02B0, 0x02B9, 0x02BB, 0x02C2,
  0x02D0, 0x02D2, 0x02E0, 0x02E5, 0x02EE, 0x02EF, 0x037A, 0x037B, 0x0386, 0x0387, 0x0388, 0x038B,
  0x038C, 0x038D, 0x038E, 0x03A2, 0x03A3, 0x03CF, 0x03D0, 0x03F6, 0x0400, 0x0483, 0x048A, 0x04CF,
  0x04D0, 0x04F6, 0x04F8, 0x04FA, 0x0500, 0x0510, 0x0531, 0x0557, 0x0559, 0x0560, 0x0561, 0x0588,
  0x0589, 0x058A, 0x0903, 0x0904, 0x0905, 0x093A, 0x093D, 0x0941, 0x0949, 0x094D, 0x0950, 0x0951,
  0x0958, 0x0962, 0x0964, 0x0971, 0x0982, 0x0984, 0x0985, 0x098D, 0x098F, 0x0991, 0x0993, 0x09A9,
  0x09AA, 0x09B1, 0x09B2, 0x09B3, 0x09B6, 0x09BA, 0x09BE, 0x09C1, 0x09C7, 0x09C9, 0x09CB, 0x09CD,
  0x09D7, 0x09D8, 0x09DC, 0x09DE, 0x09DF, 0x09E2, 0x09E6, 0x09F2, 0x09F4, 0x09FB, 0x0A05, 0x0A0B,
  0x0A0F, 0x0A11, 0x0A13, 0x0A29, 0x0A2A, 0x0A31, 0x0A32, 0x0A34, 0x0A35, 0x0A37, 0x0A38, 0x0A3A,
  0x0A3E, 0x0A41, 0x0A59, 0x0A5D, 0x0A5E, 0x0A5F, 0x0A66, 0x0A70, 0x0A72, 0x0A75, 0x0A83, 0x0A84,
  0x0A85, 0x0A8C, 0x0A8D, 0x0A8E, 0x0A8F, 0x0A92, 0x0A93, 0x0AA9, 0x0AAA, 0x0AB1, 0x0AB2, 0x0AB4,
  0x0AB5, 0x0ABA, 0x0ABD, 0x0AC1, 0x0AC9, 0x0ACA, 0x0ACB, 0x0ACD, 0x0AD0, 0x0AD1, 0x0AE0, 0x0AE1,
  0x0AE6, 0x0AF0, 0x0B02, 0x0B04, 0x0B05, 0x0B0D, 0x0B0F, 0x0B11, 0x0B13, 0x0B29, 0x0B2A, 0x0B31,
  0x0B32, 0x0B34, 0x0B36, 0x0B3A, 0x0B3D, 0x0B3F, 0x0B40, 0x0B41, 0x0B47, 0x0B49, 0x0B4B, 0x0B4D,
  0x0B57, 0x0B58, 0x0B5C, 0x0B5E, 0x0B5F, 0x0B62, 0x0B66, 0x0B71, 0x0B83, 0x0B84, 0x0B85, 0x0B8B,
  0x0B8E, 0x0B91, 0x0B92, 0x0B96, 0x0B99, 0x0B9B, 0x0B9C, 0x0B9D, 0x0B9E, 0x0BA0, 0x0BA3, 0x0BA5,
  0x0BA8, 0x0BAB, 0x0BAE, 0x0BB6, 0x0BB7, 0x0BBA, 0x0BBE, 0x0BC0, 0x0BC1, 0x0BC3, 0x0BC6, 0x0BC9,
  0x0BCA, 0x0BCD, 0x0BD7, 0x0BD8, 0x0BE7, 0x0BF3, 0x0C01, 0x0C04, 0x0C05, 0x0C0D, 0x0C0E, 0x0C11,
  0x0C12, 0x0C29, 0x0C2A, 0x0C34, 0x0C35, 0x0C3A, 0x0C41, 0x0C45, 0x0C60, 0x0C62, 0x0C66, 0x0C70,
  0x0C82, 0x0C84, 0x0C85, 0x0C8D, 0x0C8E, 0x0C91, 0x0C92, 0x0CA9, 0x0CAA, 0x0CB4, 0x0CB5, 0x0CBA,
  0x0CBE, 0x0CBF, 0x0CC0, 0x0CC5, 0x0CC7, 0x0CC9, 0x0CCA, 0x0CCC, 0x0CD5, 0x0CD7, 0x0CDE, 0x0CDF,
  0x0CE0, 0x0CE2, 0x0CE6, 0x0CF0, 0x0D02, 0x0D04, 0x0D05, 0x0D0D, 0x0D0E, 0x0D11, 0x0D12, 0x0D29,
  0x0D2A, 0x0D3A, 0x0D3E, 0x0D41, 0x0D46, 0x0D49, 0x0D4A, 0x0D4D, 0x0D57, 0x0D58, 0x0D60, 0x0D62,
  0x0D66, 0x0D70, 0x0D82, 0x0D84, 0x0D85, 0x0D97, 0x0D9A, 0x0DB2, 0x0DB3, 0x0DBC, 0x0DBD, 0x0DBE,
  0x0DC0, 0x0DC7, 0x0DCF, 0x0DD2, 0x0DD8, 0x0DE0, 0x0DF2, 0x0DF5, 0x0E01, 0x0E31, 0x0E32, 0x0E34,
  0x0E40, 0x0E47, 0x0E4F, 0x0E5C, 0x0E81, 0x0E83, 0x0E84, 0x0E85, 0x0E87, 0x0E89, 0x0E8A, 0x0E8B,
  0x0E8D, 0x0E8E, 0x0E94, 0x0E98, 0x0E99, 0x0EA0, 0x0EA1, 0x0EA4, 0x0EA5, 0x0EA6, 0x0EA7, 0x0EA8,
  0x0EAA, 0x0EAC, 0x0EAD, 0x0EB1, 0x0EB2, 0x0EB4, 0x0EBD, 0x0EBE, 0x0EC0, 0x0EC5, 0x0EC6, 0x0EC7,
  0x0ED0, 0x0EDA, 0x0EDC, 0x0EDE, 0x0F00, 0x0F18, 0x0F1A, 0x0F35, 0x0F36, 0x0F37, 0x0F38, 0x0F39,
  0x0F3E, 0x0F48, 0x0F49, 0x0F6B, 0x0F7F, 0x0F80, 0x0F85, 0x0F86, 0x0F88, 0x0F8C, 0x0FBE, 0x0FC6,
  0x0FC7, 0x0FCD, 0x0FCF, 0x0FD0, 0x1000, 0x1022, 0x1023, 0x1028, 0x1029, 0x102B, 0x102C, 0x102D,
  0x1031, 0x1032, 0x1038, 0x1039, 0x1040, 0x1058, 0x10A0, 0x10C6, 0x10D0, 0x10F9, 0x10FB, 0x10FC,
  0x1100, 0x115A, 0x115F, 0x11A3, 0x11A8, 0x11FA, 0x1200, 0x1207, 0x1208, 0x1247, 0x1248, 0x1249,
  0x124A, 0x124E, 0x1250, 0x1257, 0x1258, 0x1259, 0x125A, 0x125E, 0x1260, 0x1287, 0x1288, 0x1289,
  0x128A, 0x128E, 0x1290, 0x12AF, 0x12B0, 0x12B1, 0x12B2, 0x12B6, 0x12B8, 0x12BF, 0x12C0, 0x12C1,
  0x12C2, 0x12C6, 0x12C8, 0x12CF, 0x12D0, 0x12D7, 0x12D8, 0x12EF, 0x12F0, 0x130F, 0x1310, 0x1311,
  0x1312, 0x1316, 0x1318, 0x131F, 0x1320, 0x1347, 0x1348, 0x135B, 0x1361, 0x137D, 0x13A0, 0x13F5,
  0x1401, 0x1677, 0x1681, 0x169B, 0x16A0, 0x16F1, 0x1700, 0x170D, 0x170E, 0x1712, 0x1720, 0x1732,
  0x1735, 0x1737, 0x1740, 0x1752, 0x1760, 0x176D, 0x176E, 0x1771, 0x1780, 0x17B7, 0x17BE, 0x17C6,
  0x17C7, 0x17C9, 0x17D4, 0x17DB, 0x17DC, 0x17DD, 0x17E0, 0x17EA, 0x1810, 0x181A, 0x1820, 0x1878,
  0x1880, 0x18A9, 0x1E00, 0x1E9C, 0x1EA0, 0x1EFA, 0x1F00, 0x1F16, 0x1F18, 0x1F1E, 0x1F20, 0x1F46,
  0x1F48, 0x1F4E, 0x1F50, 0x1F58, 0x1F59, 0x1F5A, 0x1F5B, 0x1F5C, 0x1F5D, 0x1F5E, 0x1F5F, 0x1F7E,
  0x1F80, 0x1FB5, 0x1FB6, 0x1FBD, 0x1FBE, 0x1FBF, 0x1FC2, 0x1FC5, 0x1FC6, 0x1FCD, 0x1FD0, 0x1FD4,
  0x1FD6, 0x1FDC, 0x1FE0, 0x1FED, 0x1FF2, 0x1FF5, 0x1FF6, 0x1FFD, 0x200E, 0x200F, 0x2071, 0x2072,
  0x207F, 0x2080, 0x2102, 0x2103, 0x2107, 0x2108, 0x210A, 0x2114, 0x2115, 0x2116, 0x2119, 0x211E,
  0x2124, 0x2125, 0x2126, 0x2127, 0x2128, 0x2129, 0x212A, 0x212E, 0x212F, 0x2132, 0x2133, 0x213A,
  0x213D, 0x2140, 0x2145, 0x214A, 0x2160, 0x2184, 0x2336, 0x237B, 0x2395, 0x2396, 0x249C, 0x24EA,
  0x3005, 0x3008, 0x3021, 0x302A, 0x3031, 0x3036, 0x3038, 0x303D, 0x3041, 0x3097, 0x309D, 0x30A0,
  0x30A1, 0x30FB, 0x30FC, 0x3100, 0x3105, 0x312D, 0x3131, 0x318F, 0x3190, 0x31B8, 0x31F0, 0x321D,
  0x3220, 0x3244, 0x3260, 0x327C, 0x327F, 0x32B1, 0x32C0, 0x32CC, 0x32D0, 0x32FF, 0x3300, 0x3377,
  0x337B, 0x33DE, 0x33E0, 0x33FF, 0x3400, 0x4DB6, 0x4E00, 0x9FA6, 0xA000, 0xA48D, 0xAC00, 0xD7A4,
  0xD800, 0xFA2E, 0xFA30, 0xFA6B, 0xFB00, 0xFB07, 0xFB13, 0xFB18, 0xFF21, 0xFF3B, 0xFF41, 0xFF5B,
  0xFF66, 0xFFBF, 0xFFC2, 0xFFC8, 0xFFCA, 0xFFD0, 0xFFD2, 0xFFD8, 0xFFDA, 0xFFDD, 0x10300, 0x1031F,
  0x10320, 0x10324, 0x10330, 0x1034B, 0x10400, 0x10426, 0x10428, 0x1044E, 0x1D000, 0x1D0F6,
  0x1D100, 0x1D127, 0x1D12A, 0x1D167, 0x1D16A, 0x1D173, 0x1D183, 0x1D185, 0x1D18C, 0x1D1AA,
  0x1D1AE, 0x1D1DE, 0x1D400, 0x1D455, 0x1D456, 0x1D49D, 0x1D49E, 0x1D4A0, 0x1D4A2, 0x1D4A3,
  0x1D4A5, 0x1D4A7, 0x1D4A9, 0x1D4AD, 0x1D4AE, 0x1D4BA, 0x1D4BB, 0x1D4BC, 0x1D4BD, 0x1D4C1,
  0x1D4C2, 0x1D4C4, 0x1D4C5, 0x1D506, 0x1D507, 0x1D50B, 0x1D50D, 0x1D515, 0x1D516, 0x1D51D,
  0x1D51E, 0x1D53A, 0x1D53B, 0x1D53F, 0x1D540, 0x1D545, 0x1D546, 0x1D547, 0x1D54A, 0x1D551,
  0x1D552, 0x1D6A4, 0x1D6A8, 0x1D7CA, 0x20000, 0x2A6D7, 0x2F800, 0x2FA1E, 0xF0000, 0xFFFFE,
  0x100000, 0x10FFFE]

/-- Is the letter written from left to right? -/
def isLeftToRight (n : Nat) : Bool := Text.isWithin leftToRightBounds n

end FlowCanvas.Front.Host
