import BatchExec.Text.CharacterName.Row

/-!
# Aliases

Other names that characters have: those of control characters, which have no name of their own,
abbreviations, and corrections of names that are wrong.
-/

namespace BatchExec

/-- Characters and their other names. -/
def nameAliases : List (Nat × String) := [
  (0x0000, "NULL, NUL"),
  (0x0001, "START OF HEADING, SOH"),
  (0x0002, "START OF TEXT, STX"),
  (0x0003, "END OF TEXT, ETX"),
  (0x0004, "END OF TRANSMISSION, EOT"),
  (0x0005, "ENQUIRY, ENQ"),
  (0x0006, "ACKNOWLEDGE, ACK"),
  (0x0007, "ALERT, BEL"),
  (0x0008, "BACKSPACE, BS"),
  (0x0009, "CHARACTER TABULATION, HORIZONTAL TABULATION, HT, TAB"),
  (0x000A, "LINE FEED, NEW LINE, END OF LINE, LF, NL, EOL"),
  (0x000B, "LINE TABULATION, VERTICAL TABULATION, VT"),
  (0x000C, "FORM FEED, FF"),
  (0x000D, "CARRIAGE RETURN, CR"),
  (0x000E, "SHIFT OUT, LOCKING-SHIFT ONE, SO"),
  (0x000F, "SHIFT IN, LOCKING-SHIFT ZERO, SI"),
  (0x0010, "DATA LINK ESCAPE, DLE"),
  (0x0011, "DEVICE CONTROL ONE, DC1"),
  (0x0012, "DEVICE CONTROL TWO, DC2"),
  (0x0013, "DEVICE CONTROL THREE, DC3"),
  (0x0014, "DEVICE CONTROL FOUR, DC4"),
  (0x0015, "NEGATIVE ACKNOWLEDGE, NAK"),
  (0x0016, "SYNCHRONOUS IDLE, SYN"),
  (0x0017, "END OF TRANSMISSION BLOCK, ETB"),
  (0x0018, "CANCEL, CAN"),
  (0x0019, "END OF MEDIUM, EOM"),
  (0x001A, "SUBSTITUTE, SUB"),
  (0x001B, "ESCAPE, ESC"),
  (0x001C, "INFORMATION SEPARATOR FOUR, FILE SEPARATOR, FS"),
  (0x001D, "INFORMATION SEPARATOR THREE, GROUP SEPARATOR, GS"),
  (0x001E, "INFORMATION SEPARATOR TWO, RECORD SEPARATOR, RS"),
  (0x001F, "INFORMATION SEPARATOR ONE, UNIT SEPARATOR, US"),
  (0x0020, "SP"),
  (0x007F, "DELETE, DEL"),
  (0x0080, "PADDING CHARACTER, PAD"),
  (0x0081, "HIGH OCTET PRESET, HOP"),
  (0x0082, "BREAK PERMITTED HERE, BPH"),
  (0x0083, "NO BREAK HERE, NBH"),
  (0x0084, "INDEX, IND"),
  (0x0085, "NEXT LINE, NEL"),
  (0x0086, "START OF SELECTED AREA, SSA"),
  (0x0087, "END OF SELECTED AREA, ESA"),
  (0x0088, "CHARACTER TABULATION SET, HORIZONTAL TABULATION SET, HTS"),
  (0x0089, "CHARACTER TABULATION WITH JUSTIFICATION, HORIZONTAL TABULATION WITH JUSTIFICATION"),
  (0x0089, "HTJ"),
  (0x008A, "LINE TABULATION SET, VERTICAL TABULATION SET, VTS"),
  (0x008B, "PARTIAL LINE FORWARD, PARTIAL LINE DOWN, PLD"),
  (0x008C, "PARTIAL LINE BACKWARD, PARTIAL LINE UP, PLU"),
  (0x008D, "REVERSE LINE FEED, REVERSE INDEX, RI"),
  (0x008E, "SINGLE SHIFT TWO, SINGLE-SHIFT-2, SS2"),
  (0x008F, "SINGLE SHIFT THREE, SINGLE-SHIFT-3, SS3"),
  (0x0090, "DEVICE CONTROL STRING, DCS"),
  (0x0091, "PRIVATE USE ONE, PRIVATE USE-1, PU1"),
  (0x0092, "PRIVATE USE TWO, PRIVATE USE-2, PU2"),
  (0x0093, "SET TRANSMIT STATE, STS"),
  (0x0094, "CANCEL CHARACTER, CCH"),
  (0x0095, "MESSAGE WAITING, MW"),
  (0x0096, "START OF GUARDED AREA, START OF PROTECTED AREA, SPA"),
  (0x0097, "END OF GUARDED AREA, END OF PROTECTED AREA, EPA"),
  (0x0098, "START OF STRING, SOS"),
  (0x0099, "SINGLE GRAPHIC CHARACTER INTRODUCER, SGC"),
  (0x009A, "SINGLE CHARACTER INTRODUCER, SCI"),
  (0x009B, "CONTROL SEQUENCE INTRODUCER, CSI"),
  (0x009C, "STRING TERMINATOR, ST"),
  (0x009D, "OPERATING SYSTEM COMMAND, OSC"),
  (0x009E, "PRIVACY MESSAGE, PM"),
  (0x009F, "APPLICATION PROGRAM COMMAND, APC"),
  (0x00A0, "NBSP"),
  (0x00AD, "SHY"),
  (0x01A2, "LATIN CAPITAL LETTER GHA"),
  (0x01A3, "LATIN SMALL LETTER GHA"),
  (0x034F, "CGJ"),
  (0x061C, "ALM"),
  (0x0709, "SYRIAC SUBLINEAR COLON SKEWED LEFT"),
  (0x0CDE, "KANNADA LETTER LLLA"),
  (0x0E9D, "LAO LETTER FO FON"),
  (0x0E9F, "LAO LETTER FO FAY"),
  (0x0EA3, "LAO LETTER RO"),
  (0x0EA5, "LAO LETTER LO"),
  (0x0FD0, "TIBETAN MARK BKA- SHOG GI MGO RGYAN"),
  (0x11EC, "HANGUL JONGSEONG YESIEUNG-KIYEOK"),
  (0x11ED, "HANGUL JONGSEONG YESIEUNG-SSANGKIYEOK"),
  (0x11EE, "HANGUL JONGSEONG SSANGYESIEUNG"),
  (0x11EF, "HANGUL JONGSEONG YESIEUNG-KHIEUKH"),
  (0x180B, "FVS1"),
  (0x180C, "FVS2"),
  (0x180D, "FVS3"),
  (0x180E, "MVS"),
  (0x180F, "FVS4"),
  (0x200B, "ZWSP"),
  (0x200C, "ZWNJ"),
  (0x200D, "ZWJ"),
  (0x200E, "LRM"),
  (0x200F, "RLM"),
  (0x202A, "LRE"),
  (0x202B, "RLE"),
  (0x202C, "PDF"),
  (0x202D, "LRO"),
  (0x202E, "RLO"),
  (0x202F, "NNBSP"),
  (0x205F, "MMSP"),
  (0x2060, "WJ"),
  (0x2066, "LRI"),
  (0x2067, "RLI"),
  (0x2068, "FSI"),
  (0x2069, "PDI"),
  (0x2118, "WEIERSTRASS ELLIPTIC FUNCTION"),
  (0x2448, "MICR ON US SYMBOL"),
  (0x2449, "MICR DASH SYMBOL"),
  (0x2B7A, "LEFTWARDS TRIANGLE-HEADED ARROW WITH DOUBLE VERTICAL STROKE"),
  (0x2B7C, "RIGHTWARDS TRIANGLE-HEADED ARROW WITH DOUBLE VERTICAL STROKE"),
  (0xA015, "YI SYLLABLE ITERATION MARK"),
  (0xAA6E, "MYANMAR LETTER KHAMTI LLA"),
  (0xFE18, "PRESENTATION FORM FOR VERTICAL RIGHT WHITE LENTICULAR BRACKET"),
  (0xFEFF, "BYTE ORDER MARK, BOM, ZWNBSP"),
  (0x122D4, "CUNEIFORM SIGN NU11 TENU"),
  (0x122D5, "CUNEIFORM SIGN NU11 OVER NU11 BUR OVER BUR"),
  (0x16E56, "MEDEFAIDRIN CAPITAL LETTER H"),
  (0x16E57, "MEDEFAIDRIN CAPITAL LETTER NG"),
  (0x16E76, "MEDEFAIDRIN SMALL LETTER H"),
  (0x16E77, "MEDEFAIDRIN SMALL LETTER NG"),
  (0x1B001, "HENTAIGANA LETTER E-1"),
  (0x1D0C5, "BYZANTINE MUSICAL SYMBOL FTHORA SKLIRON CHROMA VASIS")]

/-- The short names of variation selectors. -/
def selectorNames : List NameRow := [
  ⟨0xFE00, "VS", "1, 2, 3, 4, 5, 6, 7, 8, 9, 10, 11, 12, 13, 14, 15, 16"⟩,
  ⟨0xE0100, "VS", "17, 18, 19, 20, 21, 22, 23, 24, 25, 26, 27, 28, 29, 30, 31, 32, 33, 34, 35, 36"⟩,
  ⟨0xE0114, "VS", "37, 38, 39, 40, 41, 42, 43, 44, 45, 46, 47, 48, 49, 50, 51, 52, 53, 54, 55, 56"⟩,
  ⟨0xE0128, "VS", "57, 58, 59, 60, 61, 62, 63, 64, 65, 66, 67, 68, 69, 70, 71, 72, 73, 74, 75, 76"⟩,
  ⟨0xE013C, "VS", "77, 78, 79, 80, 81, 82, 83, 84, 85, 86, 87, 88, 89, 90, 91, 92, 93, 94, 95, 96"⟩,
  ⟨0xE0150, "VS", "97, 98, 99, 100, 101, 102, 103, 104, 105, 106, 107, 108, 109, 110, 111, 112"⟩,
  ⟨0xE0160, "VS", "113, 114, 115, 116, 117, 118, 119, 120, 121, 122, 123, 124, 125, 126, 127, 128"⟩,
  ⟨0xE0170, "VS", "129, 130, 131, 132, 133, 134, 135, 136, 137, 138, 139, 140, 141, 142, 143, 144"⟩,
  ⟨0xE0180, "VS", "145, 146, 147, 148, 149, 150, 151, 152, 153, 154, 155, 156, 157, 158, 159, 160"⟩,
  ⟨0xE0190, "VS", "161, 162, 163, 164, 165, 166, 167, 168, 169, 170, 171, 172, 173, 174, 175, 176"⟩,
  ⟨0xE01A0, "VS", "177, 178, 179, 180, 181, 182, 183, 184, 185, 186, 187, 188, 189, 190, 191, 192"⟩,
  ⟨0xE01B0, "VS", "193, 194, 195, 196, 197, 198, 199, 200, 201, 202, 203, 204, 205, 206, 207, 208"⟩,
  ⟨0xE01C0, "VS", "209, 210, 211, 212, 213, 214, 215, 216, 217, 218, 219, 220, 221, 222, 223, 224"⟩,
  ⟨0xE01D0, "VS", "225, 226, 227, 228, 229, 230, 231, 232, 233, 234, 235, 236, 237, 238, 239, 240"⟩,
  ⟨0xE01E0, "VS", "241, 242, 243, 244, 245, 246, 247, 248, 249, 250, 251, 252, 253, 254, 255, 256"⟩]

end BatchExec
