import BatchExec.Text.CharacterName.Row

/-!
# Latin letters

The names of Latin letters, of the digits and marks of ASCII, and of phonetic letters.
-/

namespace BatchExec

/-- The names of Latin letters, of the digits and marks of ASCII, and of phonetic letters. -/
def latinNames : List NameRow := [
  ⟨0x0020, "", "SPACE, EXCLAMATION MARK"⟩,
  ⟨0x0022, "", "QUOTATION MARK, NUMBER SIGN, DOLLAR SIGN, PERCENT SIGN, AMPERSAND, APOSTROPHE"⟩,
  ⟨0x0028, "", "LEFT PARENTHESIS, RIGHT PARENTHESIS, ASTERISK, PLUS SIGN, COMMA, HYPHEN-MINUS"⟩,
  ⟨0x002E, "", "FULL STOP, SOLIDUS, DIGIT ZERO, DIGIT ONE, DIGIT TWO, DIGIT THREE, DIGIT FOUR"⟩,
  ⟨0x0035, "", "DIGIT FIVE, DIGIT SIX, DIGIT SEVEN, DIGIT EIGHT, DIGIT NINE, COLON, SEMICOLON"⟩,
  ⟨0x003C, "", "LESS-THAN SIGN, EQUALS SIGN, GREATER-THAN SIGN, QUESTION MARK, COMMERCIAL AT"⟩,
  ⟨0x0041, "LATIN CAPITAL LETTER ", "A, B, C, D"⟩,
  ⟨0x0045, "LATIN CAPITAL LETTER ", "E, F, G, H, I, J, K, L, M, N, O, P, Q, R, S, T, U, V, W, X"⟩,
  ⟨0x0059, "", "LATIN CAPITAL LETTER Y, LATIN CAPITAL LETTER Z, LEFT SQUARE BRACKET"⟩,
  ⟨0x005C, "", "REVERSE SOLIDUS, RIGHT SQUARE BRACKET, CIRCUMFLEX ACCENT, LOW LINE, GRAVE ACCENT"⟩,
  ⟨0x0061, "LATIN SMALL LETTER ", "A, B, C, D, E"⟩,
  ⟨0x0066, "LATIN SMALL LETTER ", "F, G, H, I, J, K, L, M, N, O, P, Q, R, S, T, U, V, W, X, Y, Z"⟩,
  ⟨0x007B, "", "LEFT CURLY BRACKET, VERTICAL LINE, RIGHT CURLY BRACKET, TILDE"⟩,
  ⟨0x00A0, "", "NO-BREAK SPACE, INVERTED EXCLAMATION MARK, CENT SIGN, POUND SIGN"⟩,
  ⟨0x00A4, "", "CURRENCY SIGN, YEN SIGN, BROKEN BAR, SECTION SIGN, DIAERESIS, COPYRIGHT SIGN"⟩,
  ⟨0x00AA, "", "FEMININE ORDINAL INDICATOR, LEFT-POINTING DOUBLE ANGLE QUOTATION MARK"⟩,
  ⟨0x00AC, "", "NOT SIGN, SOFT HYPHEN, REGISTERED SIGN, MACRON, DEGREE SIGN"⟩,
  ⟨0x00B1, "", "PLUS-MINUS SIGN, SUPERSCRIPT TWO, SUPERSCRIPT THREE, ACUTE ACCENT, MICRO SIGN"⟩,
  ⟨0x00B6, "", "PILCROW SIGN, MIDDLE DOT, CEDILLA, SUPERSCRIPT ONE, MASCULINE ORDINAL INDICATOR"⟩,
  ⟨0x00BB, "", "RIGHT-POINTING DOUBLE ANGLE QUOTATION MARK, VULGAR FRACTION ONE QUARTER"⟩,
  ⟨0x00BD, "", "VULGAR FRACTION ONE HALF, VULGAR FRACTION THREE QUARTERS, INVERTED QUESTION MARK"⟩,
  ⟨0x00C0, "LATIN CAPITAL LETTER A WITH ", "GRAVE, ACUTE, CIRCUMFLEX, TILDE"⟩,
  ⟨0x00C4, "LATIN CAPITAL LETTER ", "A WITH DIAERESIS, A WITH RING ABOVE, AE, C WITH CEDILLA"⟩,
  ⟨0x00C8, "LATIN CAPITAL LETTER E WITH ", "GRAVE, ACUTE, CIRCUMFLEX"⟩,
  ⟨0x00CB, "LATIN CAPITAL LETTER ", "E WITH DIAERESIS, I WITH GRAVE, I WITH ACUTE"⟩,
  ⟨0x00CE, "LATIN CAPITAL LETTER ", "I WITH CIRCUMFLEX, I WITH DIAERESIS, ETH, N WITH TILDE"⟩,
  ⟨0x00D2, "LATIN CAPITAL LETTER O WITH ", "GRAVE, ACUTE, CIRCUMFLEX, TILDE"⟩,
  ⟨0x00D6, "", "LATIN CAPITAL LETTER O WITH DIAERESIS, MULTIPLICATION SIGN"⟩,
  ⟨0x00D8, "LATIN CAPITAL LETTER ", "O WITH STROKE, U WITH GRAVE, U WITH ACUTE"⟩,
  ⟨0x00DB, "LATIN CAPITAL LETTER ", "U WITH CIRCUMFLEX, U WITH DIAERESIS, Y WITH ACUTE, THORN"⟩,
  ⟨0x00DF, "LATIN SMALL LETTER ", "SHARP S, A WITH GRAVE, A WITH ACUTE, A WITH CIRCUMFLEX"⟩,
  ⟨0x00E3, "LATIN SMALL LETTER ", "A WITH TILDE, A WITH DIAERESIS, A WITH RING ABOVE, AE"⟩,
  ⟨0x00E7, "LATIN SMALL LETTER ", "C WITH CEDILLA, E WITH GRAVE, E WITH ACUTE, E WITH CIRCUMFLEX"⟩,
  ⟨0x00EB, "LATIN SMALL LETTER ", "E WITH DIAERESIS, I WITH GRAVE, I WITH ACUTE"⟩,
  ⟨0x00EE, "LATIN SMALL LETTER ", "I WITH CIRCUMFLEX, I WITH DIAERESIS, ETH, N WITH TILDE"⟩,
  ⟨0x00F2, "LATIN SMALL LETTER O WITH ", "GRAVE, ACUTE, CIRCUMFLEX, TILDE"⟩,
  ⟨0x00F6, "", "LATIN SMALL LETTER O WITH DIAERESIS, DIVISION SIGN"⟩,
  ⟨0x00F8, "LATIN SMALL LETTER ", "O WITH STROKE, U WITH GRAVE, U WITH ACUTE, U WITH CIRCUMFLEX"⟩,
  ⟨0x00FC, "LATIN SMALL LETTER ", "U WITH DIAERESIS, Y WITH ACUTE, THORN, Y WITH DIAERESIS"⟩,
  ⟨0x0100, "LATIN ", "CAPITAL LETTER A WITH MACRON, SMALL LETTER A WITH MACRON"⟩,
  ⟨0x0102, "LATIN ", "CAPITAL LETTER A WITH BREVE, SMALL LETTER A WITH BREVE"⟩,
  ⟨0x0104, "LATIN ", "CAPITAL LETTER A WITH OGONEK, SMALL LETTER A WITH OGONEK"⟩,
  ⟨0x0106, "LATIN ", "CAPITAL LETTER C WITH ACUTE, SMALL LETTER C WITH ACUTE"⟩,
  ⟨0x0108, "LATIN ", "CAPITAL LETTER C WITH CIRCUMFLEX, SMALL LETTER C WITH CIRCUMFLEX"⟩,
  ⟨0x010A, "LATIN ", "CAPITAL LETTER C WITH DOT ABOVE, SMALL LETTER C WITH DOT ABOVE"⟩,
  ⟨0x010C, "LATIN ", "CAPITAL LETTER C WITH CARON, SMALL LETTER C WITH CARON"⟩,
  ⟨0x010E, "LATIN ", "CAPITAL LETTER D WITH CARON, SMALL LETTER D WITH CARON"⟩,
  ⟨0x0110, "LATIN ", "CAPITAL LETTER D WITH STROKE, SMALL LETTER D WITH STROKE"⟩,
  ⟨0x0112, "LATIN ", "CAPITAL LETTER E WITH MACRON, SMALL LETTER E WITH MACRON"⟩,
  ⟨0x0114, "LATIN ", "CAPITAL LETTER E WITH BREVE, SMALL LETTER E WITH BREVE"⟩,
  ⟨0x0116, "LATIN ", "CAPITAL LETTER E WITH DOT ABOVE, SMALL LETTER E WITH DOT ABOVE"⟩,
  ⟨0x0118, "LATIN ", "CAPITAL LETTER E WITH OGONEK, SMALL LETTER E WITH OGONEK"⟩,
  ⟨0x011A, "LATIN ", "CAPITAL LETTER E WITH CARON, SMALL LETTER E WITH CARON"⟩,
  ⟨0x011C, "LATIN ", "CAPITAL LETTER G WITH CIRCUMFLEX, SMALL LETTER G WITH CIRCUMFLEX"⟩,
  ⟨0x011E, "LATIN ", "CAPITAL LETTER G WITH BREVE, SMALL LETTER G WITH BREVE"⟩,
  ⟨0x0120, "LATIN ", "CAPITAL LETTER G WITH DOT ABOVE, SMALL LETTER G WITH DOT ABOVE"⟩,
  ⟨0x0122, "LATIN ", "CAPITAL LETTER G WITH CEDILLA, SMALL LETTER G WITH CEDILLA"⟩,
  ⟨0x0124, "LATIN ", "CAPITAL LETTER H WITH CIRCUMFLEX, SMALL LETTER H WITH CIRCUMFLEX"⟩,
  ⟨0x0126, "LATIN ", "CAPITAL LETTER H WITH STROKE, SMALL LETTER H WITH STROKE"⟩,
  ⟨0x0128, "LATIN ", "CAPITAL LETTER I WITH TILDE, SMALL LETTER I WITH TILDE"⟩,
  ⟨0x012A, "LATIN ", "CAPITAL LETTER I WITH MACRON, SMALL LETTER I WITH MACRON"⟩,
  ⟨0x012C, "LATIN ", "CAPITAL LETTER I WITH BREVE, SMALL LETTER I WITH BREVE"⟩,
  ⟨0x012E, "LATIN ", "CAPITAL LETTER I WITH OGONEK, SMALL LETTER I WITH OGONEK"⟩,
  ⟨0x0130, "LATIN ", "CAPITAL LETTER I WITH DOT ABOVE, SMALL LETTER DOTLESS I"⟩,
  ⟨0x0132, "LATIN ", "CAPITAL LIGATURE IJ, SMALL LIGATURE IJ, CAPITAL LETTER J WITH CIRCUMFLEX"⟩,
  ⟨0x0135, "LATIN ", "SMALL LETTER J WITH CIRCUMFLEX, CAPITAL LETTER K WITH CEDILLA"⟩,
  ⟨0x0137, "LATIN ", "SMALL LETTER K WITH CEDILLA, SMALL LETTER KRA, CAPITAL LETTER L WITH ACUTE"⟩,
  ⟨0x013A, "LATIN ", "SMALL LETTER L WITH ACUTE, CAPITAL LETTER L WITH CEDILLA"⟩,
  ⟨0x013C, "LATIN ", "SMALL LETTER L WITH CEDILLA, CAPITAL LETTER L WITH CARON"⟩,
  ⟨0x013E, "LATIN ", "SMALL LETTER L WITH CARON, CAPITAL LETTER L WITH MIDDLE DOT"⟩,
  ⟨0x0140, "LATIN ", "SMALL LETTER L WITH MIDDLE DOT, CAPITAL LETTER L WITH STROKE"⟩,
  ⟨0x0142, "LATIN ", "SMALL LETTER L WITH STROKE, CAPITAL LETTER N WITH ACUTE"⟩,
  ⟨0x0144, "LATIN ", "SMALL LETTER N WITH ACUTE, CAPITAL LETTER N WITH CEDILLA"⟩,
  ⟨0x0146, "LATIN ", "SMALL LETTER N WITH CEDILLA, CAPITAL LETTER N WITH CARON"⟩,
  ⟨0x0148, "LATIN SMALL LETTER N ", "WITH CARON, PRECEDED BY APOSTROPHE"⟩,
  ⟨0x014A, "LATIN ", "CAPITAL LETTER ENG, SMALL LETTER ENG, CAPITAL LETTER O WITH MACRON"⟩,
  ⟨0x014D, "LATIN ", "SMALL LETTER O WITH MACRON, CAPITAL LETTER O WITH BREVE"⟩,
  ⟨0x014F, "LATIN ", "SMALL LETTER O WITH BREVE, CAPITAL LETTER O WITH DOUBLE ACUTE"⟩,
  ⟨0x0151, "LATIN ", "SMALL LETTER O WITH DOUBLE ACUTE, CAPITAL LIGATURE OE"⟩,
  ⟨0x0153, "LATIN ", "SMALL LIGATURE OE, CAPITAL LETTER R WITH ACUTE, SMALL LETTER R WITH ACUTE"⟩,
  ⟨0x0156, "LATIN ", "CAPITAL LETTER R WITH CEDILLA, SMALL LETTER R WITH CEDILLA"⟩,
  ⟨0x0158, "LATIN ", "CAPITAL LETTER R WITH CARON, SMALL LETTER R WITH CARON"⟩,
  ⟨0x015A, "LATIN ", "CAPITAL LETTER S WITH ACUTE, SMALL LETTER S WITH ACUTE"⟩,
  ⟨0x015C, "LATIN ", "CAPITAL LETTER S WITH CIRCUMFLEX, SMALL LETTER S WITH CIRCUMFLEX"⟩,
  ⟨0x015E, "LATIN ", "CAPITAL LETTER S WITH CEDILLA, SMALL LETTER S WITH CEDILLA"⟩,
  ⟨0x0160, "LATIN ", "CAPITAL LETTER S WITH CARON, SMALL LETTER S WITH CARON"⟩,
  ⟨0x0162, "LATIN ", "CAPITAL LETTER T WITH CEDILLA, SMALL LETTER T WITH CEDILLA"⟩,
  ⟨0x0164, "LATIN ", "CAPITAL LETTER T WITH CARON, SMALL LETTER T WITH CARON"⟩,
  ⟨0x0166, "LATIN ", "CAPITAL LETTER T WITH STROKE, SMALL LETTER T WITH STROKE"⟩,
  ⟨0x0168, "LATIN ", "CAPITAL LETTER U WITH TILDE, SMALL LETTER U WITH TILDE"⟩,
  ⟨0x016A, "LATIN ", "CAPITAL LETTER U WITH MACRON, SMALL LETTER U WITH MACRON"⟩,
  ⟨0x016C, "LATIN ", "CAPITAL LETTER U WITH BREVE, SMALL LETTER U WITH BREVE"⟩,
  ⟨0x016E, "LATIN ", "CAPITAL LETTER U WITH RING ABOVE, SMALL LETTER U WITH RING ABOVE"⟩,
  ⟨0x0170, "LATIN ", "CAPITAL LETTER U WITH DOUBLE ACUTE, SMALL LETTER U WITH DOUBLE ACUTE"⟩,
  ⟨0x0172, "LATIN ", "CAPITAL LETTER U WITH OGONEK, SMALL LETTER U WITH OGONEK"⟩,
  ⟨0x0174, "LATIN ", "CAPITAL LETTER W WITH CIRCUMFLEX, SMALL LETTER W WITH CIRCUMFLEX"⟩,
  ⟨0x0176, "LATIN ", "CAPITAL LETTER Y WITH CIRCUMFLEX, SMALL LETTER Y WITH CIRCUMFLEX"⟩,
  ⟨0x0178, "LATIN CAPITAL LETTER ", "Y WITH DIAERESIS, Z WITH ACUTE"⟩,
  ⟨0x017A, "LATIN ", "SMALL LETTER Z WITH ACUTE, CAPITAL LETTER Z WITH DOT ABOVE"⟩,
  ⟨0x017C, "LATIN ", "SMALL LETTER Z WITH DOT ABOVE, CAPITAL LETTER Z WITH CARON"⟩,
  ⟨0x017E, "LATIN SMALL LETTER ", "Z WITH CARON, LONG S, B WITH STROKE"⟩,
  ⟨0x0181, "LATIN CAPITAL LETTER B WITH ", "HOOK, TOPBAR"⟩,
  ⟨0x0183, "LATIN ", "SMALL LETTER B WITH TOPBAR, CAPITAL LETTER TONE SIX, SMALL LETTER TONE SIX"⟩,
  ⟨0x0186, "LATIN ", "CAPITAL LETTER OPEN O, CAPITAL LETTER C WITH HOOK, SMALL LETTER C WITH HOOK"⟩,
  ⟨0x0189, "LATIN CAPITAL LETTER ", "AFRICAN D, D WITH HOOK"⟩,
  ⟨0x018B, "LATIN ", "CAPITAL LETTER D WITH TOPBAR, SMALL LETTER D WITH TOPBAR"⟩,
  ⟨0x018D, "LATIN ", "SMALL LETTER TURNED DELTA, CAPITAL LETTER REVERSED E, CAPITAL LETTER SCHWA"⟩,
  ⟨0x0190, "LATIN ", "CAPITAL LETTER OPEN E, CAPITAL LETTER F WITH HOOK, SMALL LETTER F WITH HOOK"⟩,
  ⟨0x0193, "LATIN ", "CAPITAL LETTER G WITH HOOK, CAPITAL LETTER GAMMA, SMALL LETTER HV"⟩,
  ⟨0x0196, "LATIN CAPITAL LETTER ", "IOTA, I WITH STROKE, K WITH HOOK"⟩,
  ⟨0x0199, "LATIN SMALL LETTER ", "K WITH HOOK, L WITH BAR, LAMBDA WITH STROKE"⟩,
  ⟨0x019C, "LATIN CAPITAL LETTER ", "TURNED M, N WITH LEFT HOOK"⟩,
  ⟨0x019E, "LATIN ", "SMALL LETTER N WITH LONG RIGHT LEG, CAPITAL LETTER O WITH MIDDLE TILDE"⟩,
  ⟨0x01A0, "LATIN ", "CAPITAL LETTER O WITH HORN, SMALL LETTER O WITH HORN"⟩,
  ⟨0x01A2, "LATIN ", "CAPITAL LETTER OI, SMALL LETTER OI, CAPITAL LETTER P WITH HOOK"⟩,
  ⟨0x01A5, "LATIN ", "SMALL LETTER P WITH HOOK, LETTER YR, CAPITAL LETTER TONE TWO"⟩,
  ⟨0x01A8, "LATIN ", "SMALL LETTER TONE TWO, CAPITAL LETTER ESH, LETTER REVERSED ESH LOOP"⟩,
  ⟨0x01AB, "LATIN ", "SMALL LETTER T WITH PALATAL HOOK, CAPITAL LETTER T WITH HOOK"⟩,
  ⟨0x01AD, "LATIN ", "SMALL LETTER T WITH HOOK, CAPITAL LETTER T WITH RETROFLEX HOOK"⟩,
  ⟨0x01AF, "LATIN ", "CAPITAL LETTER U WITH HORN, SMALL LETTER U WITH HORN"⟩,
  ⟨0x01B1, "LATIN CAPITAL LETTER ", "UPSILON, V WITH HOOK, Y WITH HOOK"⟩,
  ⟨0x01B4, "LATIN ", "SMALL LETTER Y WITH HOOK, CAPITAL LETTER Z WITH STROKE"⟩,
  ⟨0x01B6, "LATIN ", "SMALL LETTER Z WITH STROKE, CAPITAL LETTER EZH, CAPITAL LETTER EZH REVERSED"⟩,
  ⟨0x01B9, "LATIN SMALL LETTER EZH ", "REVERSED, WITH TAIL"⟩,
  ⟨0x01BB, "LATIN ", "LETTER TWO WITH STROKE, CAPITAL LETTER TONE FIVE, SMALL LETTER TONE FIVE"⟩,
  ⟨0x01BE, "LATIN LETTER ", "INVERTED GLOTTAL STOP WITH STROKE, WYNN, DENTAL CLICK, LATERAL CLICK"⟩,
  ⟨0x01C2, "LATIN ", "LETTER ALVEOLAR CLICK, LETTER RETROFLEX CLICK, CAPITAL LETTER DZ WITH CARON"⟩,
  ⟨0x01C5, "LATIN ", "CAPITAL LETTER D WITH SMALL LETTER Z WITH CARON, SMALL LETTER DZ WITH CARON"⟩,
  ⟨0x01C7, "LATIN CAPITAL LETTER ", "LJ, L WITH SMALL LETTER J"⟩,
  ⟨0x01C9, "LATIN ", "SMALL LETTER LJ, CAPITAL LETTER NJ, CAPITAL LETTER N WITH SMALL LETTER J"⟩,
  ⟨0x01CC, "LATIN ", "SMALL LETTER NJ, CAPITAL LETTER A WITH CARON"⟩,
  ⟨0x01CE, "LATIN ", "SMALL LETTER A WITH CARON, CAPITAL LETTER I WITH CARON"⟩,
  ⟨0x01D0, "LATIN ", "SMALL LETTER I WITH CARON, CAPITAL LETTER O WITH CARON"⟩,
  ⟨0x01D2, "LATIN ", "SMALL LETTER O WITH CARON, CAPITAL LETTER U WITH CARON"⟩,
  ⟨0x01D4, "LATIN ", "SMALL LETTER U WITH CARON, CAPITAL LETTER U WITH DIAERESIS AND MACRON"⟩,
  ⟨0x01D6, "", "LATIN SMALL LETTER U WITH DIAERESIS AND MACRON"⟩,
  ⟨0x01D7, "", "LATIN CAPITAL LETTER U WITH DIAERESIS AND ACUTE"⟩,
  ⟨0x01D8, "", "LATIN SMALL LETTER U WITH DIAERESIS AND ACUTE"⟩,
  ⟨0x01D9, "", "LATIN CAPITAL LETTER U WITH DIAERESIS AND CARON"⟩,
  ⟨0x01DA, "", "LATIN SMALL LETTER U WITH DIAERESIS AND CARON"⟩,
  ⟨0x01DB, "", "LATIN CAPITAL LETTER U WITH DIAERESIS AND GRAVE"⟩,
  ⟨0x01DC, "", "LATIN SMALL LETTER U WITH DIAERESIS AND GRAVE"⟩,
  ⟨0x01DD, "LATIN ", "SMALL LETTER TURNED E, CAPITAL LETTER A WITH DIAERESIS AND MACRON"⟩,
  ⟨0x01DF, "", "LATIN SMALL LETTER A WITH DIAERESIS AND MACRON"⟩,
  ⟨0x01E0, "", "LATIN CAPITAL LETTER A WITH DOT ABOVE AND MACRON"⟩,
  ⟨0x01E1, "LATIN ", "SMALL LETTER A WITH DOT ABOVE AND MACRON, CAPITAL LETTER AE WITH MACRON"⟩,
  ⟨0x01E3, "LATIN ", "SMALL LETTER AE WITH MACRON, CAPITAL LETTER G WITH STROKE"⟩,
  ⟨0x01E5, "LATIN ", "SMALL LETTER G WITH STROKE, CAPITAL LETTER G WITH CARON"⟩,
  ⟨0x01E7, "LATIN ", "SMALL LETTER G WITH CARON, CAPITAL LETTER K WITH CARON"⟩,
  ⟨0x01E9, "LATIN ", "SMALL LETTER K WITH CARON, CAPITAL LETTER O WITH OGONEK"⟩,
  ⟨0x01EB, "LATIN ", "SMALL LETTER O WITH OGONEK, CAPITAL LETTER O WITH OGONEK AND MACRON"⟩,
  ⟨0x01ED, "LATIN ", "SMALL LETTER O WITH OGONEK AND MACRON, CAPITAL LETTER EZH WITH CARON"⟩,
  ⟨0x01EF, "LATIN SMALL LETTER ", "EZH WITH CARON, J WITH CARON"⟩,
  ⟨0x01F1, "LATIN CAPITAL LETTER ", "DZ, D WITH SMALL LETTER Z"⟩,
  ⟨0x01F3, "LATIN ", "SMALL LETTER DZ, CAPITAL LETTER G WITH ACUTE, SMALL LETTER G WITH ACUTE"⟩,
  ⟨0x01F6, "LATIN CAPITAL LETTER ", "HWAIR, WYNN, N WITH GRAVE"⟩,
  ⟨0x01F9, "LATIN ", "SMALL LETTER N WITH GRAVE, CAPITAL LETTER A WITH RING ABOVE AND ACUTE"⟩,
  ⟨0x01FB, "LATIN ", "SMALL LETTER A WITH RING ABOVE AND ACUTE, CAPITAL LETTER AE WITH ACUTE"⟩,
  ⟨0x01FD, "LATIN ", "SMALL LETTER AE WITH ACUTE, CAPITAL LETTER O WITH STROKE AND ACUTE"⟩,
  ⟨0x01FF, "LATIN ", "SMALL LETTER O WITH STROKE AND ACUTE, CAPITAL LETTER A WITH DOUBLE GRAVE"⟩,
  ⟨0x0201, "LATIN ", "SMALL LETTER A WITH DOUBLE GRAVE, CAPITAL LETTER A WITH INVERTED BREVE"⟩,
  ⟨0x0203, "LATIN ", "SMALL LETTER A WITH INVERTED BREVE, CAPITAL LETTER E WITH DOUBLE GRAVE"⟩,
  ⟨0x0205, "LATIN ", "SMALL LETTER E WITH DOUBLE GRAVE, CAPITAL LETTER E WITH INVERTED BREVE"⟩,
  ⟨0x0207, "LATIN ", "SMALL LETTER E WITH INVERTED BREVE, CAPITAL LETTER I WITH DOUBLE GRAVE"⟩,
  ⟨0x0209, "LATIN ", "SMALL LETTER I WITH DOUBLE GRAVE, CAPITAL LETTER I WITH INVERTED BREVE"⟩,
  ⟨0x020B, "LATIN ", "SMALL LETTER I WITH INVERTED BREVE, CAPITAL LETTER O WITH DOUBLE GRAVE"⟩,
  ⟨0x020D, "LATIN ", "SMALL LETTER O WITH DOUBLE GRAVE, CAPITAL LETTER O WITH INVERTED BREVE"⟩,
  ⟨0x020F, "LATIN ", "SMALL LETTER O WITH INVERTED BREVE, CAPITAL LETTER R WITH DOUBLE GRAVE"⟩,
  ⟨0x0211, "LATIN ", "SMALL LETTER R WITH DOUBLE GRAVE, CAPITAL LETTER R WITH INVERTED BREVE"⟩,
  ⟨0x0213, "LATIN ", "SMALL LETTER R WITH INVERTED BREVE, CAPITAL LETTER U WITH DOUBLE GRAVE"⟩,
  ⟨0x0215, "LATIN ", "SMALL LETTER U WITH DOUBLE GRAVE, CAPITAL LETTER U WITH INVERTED BREVE"⟩,
  ⟨0x0217, "LATIN ", "SMALL LETTER U WITH INVERTED BREVE, CAPITAL LETTER S WITH COMMA BELOW"⟩,
  ⟨0x0219, "LATIN ", "SMALL LETTER S WITH COMMA BELOW, CAPITAL LETTER T WITH COMMA BELOW"⟩,
  ⟨0x021B, "LATIN ", "SMALL LETTER T WITH COMMA BELOW, CAPITAL LETTER YOGH"⟩,
  ⟨0x021D, "LATIN ", "SMALL LETTER YOGH, CAPITAL LETTER H WITH CARON, SMALL LETTER H WITH CARON"⟩,
  ⟨0x0220, "LATIN ", "CAPITAL LETTER N WITH LONG RIGHT LEG, SMALL LETTER D WITH CURL"⟩,
  ⟨0x0222, "LATIN ", "CAPITAL LETTER OU, SMALL LETTER OU, CAPITAL LETTER Z WITH HOOK"⟩,
  ⟨0x0225, "LATIN ", "SMALL LETTER Z WITH HOOK, CAPITAL LETTER A WITH DOT ABOVE"⟩,
  ⟨0x0227, "LATIN ", "SMALL LETTER A WITH DOT ABOVE, CAPITAL LETTER E WITH CEDILLA"⟩,
  ⟨0x0229, "LATIN ", "SMALL LETTER E WITH CEDILLA, CAPITAL LETTER O WITH DIAERESIS AND MACRON"⟩,
  ⟨0x022B, "", "LATIN SMALL LETTER O WITH DIAERESIS AND MACRON"⟩,
  ⟨0x022C, "", "LATIN CAPITAL LETTER O WITH TILDE AND MACRON"⟩,
  ⟨0x022D, "LATIN ", "SMALL LETTER O WITH TILDE AND MACRON, CAPITAL LETTER O WITH DOT ABOVE"⟩,
  ⟨0x022F, "LATIN ", "SMALL LETTER O WITH DOT ABOVE, CAPITAL LETTER O WITH DOT ABOVE AND MACRON"⟩,
  ⟨0x0231, "", "LATIN SMALL LETTER O WITH DOT ABOVE AND MACRON"⟩,
  ⟨0x0232, "LATIN ", "CAPITAL LETTER Y WITH MACRON, SMALL LETTER Y WITH MACRON"⟩,
  ⟨0x0234, "LATIN SMALL LETTER ", "L WITH CURL, N WITH CURL, T WITH CURL, DOTLESS J, DB DIGRAPH"⟩,
  ⟨0x0239, "LATIN ", "SMALL LETTER QP DIGRAPH, CAPITAL LETTER A WITH STROKE"⟩,
  ⟨0x023B, "LATIN ", "CAPITAL LETTER C WITH STROKE, SMALL LETTER C WITH STROKE"⟩,
  ⟨0x023D, "LATIN CAPITAL LETTER ", "L WITH BAR, T WITH DIAGONAL STROKE"⟩,
  ⟨0x023F, "LATIN SMALL LETTER ", "S WITH SWASH TAIL, Z WITH SWASH TAIL"⟩,
  ⟨0x0241, "LATIN ", "CAPITAL LETTER GLOTTAL STOP, SMALL LETTER GLOTTAL STOP"⟩,
  ⟨0x0243, "LATIN CAPITAL LETTER ", "B WITH STROKE, U BAR, TURNED V, E WITH STROKE"⟩,
  ⟨0x0247, "LATIN ", "SMALL LETTER E WITH STROKE, CAPITAL LETTER J WITH STROKE"⟩,
  ⟨0x0249, "LATIN ", "SMALL LETTER J WITH STROKE, CAPITAL LETTER SMALL Q WITH HOOK TAIL"⟩,
  ⟨0x024B, "LATIN ", "SMALL LETTER Q WITH HOOK TAIL, CAPITAL LETTER R WITH STROKE"⟩,
  ⟨0x024D, "LATIN ", "SMALL LETTER R WITH STROKE, CAPITAL LETTER Y WITH STROKE"⟩,
  ⟨0x024F, "LATIN SMALL LETTER ", "Y WITH STROKE, TURNED A"⟩,
  ⟨0x0251, "LATIN SMALL LETTER ", "ALPHA, TURNED ALPHA, B WITH HOOK, OPEN O, C WITH CURL"⟩,
  ⟨0x0256, "LATIN SMALL LETTER ", "D WITH TAIL, D WITH HOOK, REVERSED E, SCHWA, SCHWA WITH HOOK"⟩,
  ⟨0x025B, "LATIN SMALL LETTER ", "OPEN E, REVERSED OPEN E, REVERSED OPEN E WITH HOOK"⟩,
  ⟨0x025E, "LATIN SMALL LETTER ", "CLOSED REVERSED OPEN E, DOTLESS J WITH STROKE"⟩,
  ⟨0x0260, "LATIN ", "SMALL LETTER G WITH HOOK, SMALL LETTER SCRIPT G, LETTER SMALL CAPITAL G"⟩,
  ⟨0x0263, "LATIN SMALL LETTER ", "GAMMA, RAMS HORN, TURNED H, H WITH HOOK, HENG WITH HOOK"⟩,
  ⟨0x0268, "LATIN ", "SMALL LETTER I WITH STROKE, SMALL LETTER IOTA, LETTER SMALL CAPITAL I"⟩,
  ⟨0x026B, "LATIN SMALL LETTER L WITH ", "MIDDLE TILDE, BELT"⟩,
  ⟨0x026D, "LATIN SMALL LETTER ", "L WITH RETROFLEX HOOK, LEZH, TURNED M, TURNED M WITH LONG LEG"⟩,
  ⟨0x0271, "LATIN SMALL LETTER ", "M WITH HOOK, N WITH LEFT HOOK, N WITH RETROFLEX HOOK"⟩,
  ⟨0x0274, "LATIN ", "LETTER SMALL CAPITAL N, SMALL LETTER BARRED O, LETTER SMALL CAPITAL OE"⟩,
  ⟨0x0277, "LATIN SMALL LETTER ", "CLOSED OMEGA, PHI, TURNED R"⟩,
  ⟨0x027A, "LATIN SMALL LETTER ", "TURNED R WITH LONG LEG, TURNED R WITH HOOK, R WITH LONG LEG"⟩,
  ⟨0x027D, "LATIN SMALL LETTER ", "R WITH TAIL, R WITH FISHHOOK, REVERSED R WITH FISHHOOK"⟩,
  ⟨0x0280, "LATIN LETTER SMALL CAPITAL ", "R, INVERTED R"⟩,
  ⟨0x0282, "LATIN SMALL LETTER ", "S WITH HOOK, ESH, DOTLESS J WITH STROKE AND HOOK"⟩,
  ⟨0x0285, "LATIN SMALL LETTER ", "SQUAT REVERSED ESH, ESH WITH CURL, TURNED T"⟩,
  ⟨0x0288, "LATIN SMALL LETTER ", "T WITH RETROFLEX HOOK, U BAR, UPSILON, V WITH HOOK, TURNED V"⟩,
  ⟨0x028D, "LATIN ", "SMALL LETTER TURNED W, SMALL LETTER TURNED Y, LETTER SMALL CAPITAL Y"⟩,
  ⟨0x0290, "LATIN SMALL LETTER ", "Z WITH RETROFLEX HOOK, Z WITH CURL, EZH, EZH WITH CURL"⟩,
  ⟨0x0294, "LATIN LETTER ", "GLOTTAL STOP, PHARYNGEAL VOICED FRICATIVE"⟩,
  ⟨0x0296, "LATIN LETTER ", "INVERTED GLOTTAL STOP, STRETCHED C, BILABIAL CLICK, SMALL CAPITAL B"⟩,
  ⟨0x029A, "LATIN ", "SMALL LETTER CLOSED OPEN E, LETTER SMALL CAPITAL G WITH HOOK"⟩,
  ⟨0x029C, "LATIN ", "LETTER SMALL CAPITAL H, SMALL LETTER J WITH CROSSED-TAIL"⟩,
  ⟨0x029E, "LATIN ", "SMALL LETTER TURNED K, LETTER SMALL CAPITAL L"⟩,
  ⟨0x02A0, "LATIN ", "SMALL LETTER Q WITH HOOK, LETTER GLOTTAL STOP WITH STROKE"⟩,
  ⟨0x02A2, "LATIN ", "LETTER REVERSED GLOTTAL STOP WITH STROKE, SMALL LETTER DZ DIGRAPH"⟩,
  ⟨0x02A4, "LATIN SMALL LETTER ", "DEZH DIGRAPH, DZ DIGRAPH WITH CURL, TS DIGRAPH, TESH DIGRAPH"⟩,
  ⟨0x02A8, "LATIN SMALL LETTER ", "TC DIGRAPH WITH CURL, FENG DIGRAPH, LS DIGRAPH, LZ DIGRAPH"⟩,
  ⟨0x02AC, "LATIN LETTER ", "BILABIAL PERCUSSIVE, BIDENTAL PERCUSSIVE"⟩,
  ⟨0x02AE, "LATIN SMALL LETTER TURNED H WITH ", "FISHHOOK, FISHHOOK AND TAIL"⟩,
  ⟨0x02B0, "MODIFIER LETTER SMALL ", "H, H WITH HOOK, J, R, TURNED R, TURNED R WITH HOOK"⟩,
  ⟨0x02B6, "MODIFIER LETTER ", "SMALL CAPITAL INVERTED R, SMALL W, SMALL Y, PRIME, DOUBLE PRIME"⟩,
  ⟨0x02BB, "MODIFIER LETTER ", "TURNED COMMA, APOSTROPHE, REVERSED COMMA, RIGHT HALF RING"⟩,
  ⟨0x02BF, "MODIFIER LETTER ", "LEFT HALF RING, GLOTTAL STOP, REVERSED GLOTTAL STOP"⟩,
  ⟨0x02C2, "MODIFIER LETTER ", "LEFT ARROWHEAD, RIGHT ARROWHEAD, UP ARROWHEAD"⟩,
  ⟨0x02C5, "", "MODIFIER LETTER DOWN ARROWHEAD, MODIFIER LETTER CIRCUMFLEX ACCENT, CARON"⟩,
  ⟨0x02C8, "MODIFIER LETTER ", "VERTICAL LINE, MACRON, ACUTE ACCENT, GRAVE ACCENT"⟩,
  ⟨0x02CC, "MODIFIER LETTER LOW ", "VERTICAL LINE, MACRON, GRAVE ACCENT, ACUTE ACCENT"⟩,
  ⟨0x02D0, "MODIFIER LETTER ", "TRIANGULAR COLON, HALF TRIANGULAR COLON, CENTRED RIGHT HALF RING"⟩,
  ⟨0x02D3, "MODIFIER LETTER ", "CENTRED LEFT HALF RING, UP TACK, DOWN TACK, PLUS SIGN, MINUS SIGN"⟩,
  ⟨0x02D8, "", "BREVE, DOT ABOVE, RING ABOVE, OGONEK, SMALL TILDE, DOUBLE ACUTE ACCENT"⟩,
  ⟨0x02DE, "MODIFIER LETTER ", "RHOTIC HOOK, CROSS ACCENT, SMALL GAMMA, SMALL L, SMALL S"⟩,
  ⟨0x02E3, "MODIFIER LETTER ", "SMALL X, SMALL REVERSED GLOTTAL STOP, EXTRA-HIGH TONE BAR"⟩,
  ⟨0x02E6, "MODIFIER LETTER ", "HIGH TONE BAR, MID TONE BAR, LOW TONE BAR, EXTRA-LOW TONE BAR"⟩,
  ⟨0x02EA, "MODIFIER LETTER ", "YIN DEPARTING TONE MARK, YANG DEPARTING TONE MARK"⟩,
  ⟨0x02EC, "MODIFIER LETTER ", "VOICING, UNASPIRATED, DOUBLE APOSTROPHE, LOW DOWN ARROWHEAD"⟩,
  ⟨0x02F0, "MODIFIER LETTER LOW ", "UP ARROWHEAD, LEFT ARROWHEAD, RIGHT ARROWHEAD, RING"⟩,
  ⟨0x02F4, "MODIFIER LETTER MIDDLE ", "GRAVE ACCENT, DOUBLE GRAVE ACCENT, DOUBLE ACUTE ACCENT"⟩,
  ⟨0x02F7, "MODIFIER LETTER ", "LOW TILDE, RAISED COLON, BEGIN HIGH TONE, END HIGH TONE"⟩,
  ⟨0x02FB, "MODIFIER LETTER ", "BEGIN LOW TONE, END LOW TONE, SHELF, OPEN SHELF, LOW LEFT ARROW"⟩,
  ⟨0x1D00, "LATIN ", "LETTER SMALL CAPITAL A, LETTER SMALL CAPITAL AE, SMALL LETTER TURNED AE"⟩,
  ⟨0x1D03, "LATIN LETTER SMALL CAPITAL ", "BARRED B, C, D, ETH"⟩,
  ⟨0x1D07, "LATIN ", "LETTER SMALL CAPITAL E, SMALL LETTER TURNED OPEN E, SMALL LETTER TURNED I"⟩,
  ⟨0x1D0A, "LATIN LETTER SMALL CAPITAL ", "J, K, L WITH STROKE, M, REVERSED N, O, OPEN O"⟩,
  ⟨0x1D11, "LATIN SMALL LETTER SIDEWAYS ", "O, OPEN O, O WITH STROKE"⟩,
  ⟨0x1D14, "LATIN ", "SMALL LETTER TURNED OE, LETTER SMALL CAPITAL OU"⟩,
  ⟨0x1D16, "LATIN SMALL LETTER ", "TOP HALF O, BOTTOM HALF O"⟩,
  ⟨0x1D18, "LATIN LETTER SMALL CAPITAL ", "P, REVERSED R, TURNED R, T, U"⟩,
  ⟨0x1D1D, "LATIN SMALL LETTER SIDEWAYS ", "U, DIAERESIZED U, TURNED M"⟩,
  ⟨0x1D20, "LATIN LETTER SMALL CAPITAL ", "V, W"⟩,
  ⟨0x1D22, "LATIN LETTER ", "SMALL CAPITAL Z, SMALL CAPITAL EZH, VOICED LARYNGEAL SPIRANT, AIN"⟩,
  ⟨0x1D26, "GREEK LETTER SMALL CAPITAL ", "GAMMA, LAMDA, PI, RHO"⟩,
  ⟨0x1D2A, "", "GREEK LETTER SMALL CAPITAL PSI, CYRILLIC LETTER SMALL CAPITAL EL"⟩,
  ⟨0x1D2C, "MODIFIER LETTER CAPITAL ", "A, AE, B, BARRED B, D, E, REVERSED E"⟩,
  ⟨0x1D33, "MODIFIER LETTER CAPITAL ", "G, H, I, J, K, L, M, N, REVERSED N, O, OU, P, R, T, U, W"⟩,
  ⟨0x1D43, "MODIFIER LETTER SMALL ", "A, TURNED A, ALPHA, TURNED AE, B"⟩,
  ⟨0x1D48, "MODIFIER LETTER SMALL ", "D, E, SCHWA, OPEN E, TURNED OPEN E, G, TURNED I, K, M, ENG"⟩,
  ⟨0x1D52, "MODIFIER LETTER SMALL ", "O, OPEN O, TOP HALF O, BOTTOM HALF O, P, T, U, SIDEWAYS U"⟩,
  ⟨0x1D5A, "MODIFIER LETTER SMALL ", "TURNED M, V, AIN, BETA, GREEK GAMMA, DELTA, GREEK PHI, CHI"⟩,
  ⟨0x1D62, "LATIN SUBSCRIPT SMALL LETTER ", "I, R, U, V"⟩,
  ⟨0x1D66, "GREEK SUBSCRIPT SMALL LETTER ", "BETA, GAMMA, RHO, PHI"⟩,
  ⟨0x1D6A, "", "GREEK SUBSCRIPT SMALL LETTER CHI, LATIN SMALL LETTER UE"⟩,
  ⟨0x1D6C, "LATIN SMALL LETTER ", "B WITH MIDDLE TILDE, D WITH MIDDLE TILDE, F WITH MIDDLE TILDE"⟩,
  ⟨0x1D6F, "LATIN SMALL LETTER ", "M WITH MIDDLE TILDE, N WITH MIDDLE TILDE, P WITH MIDDLE TILDE"⟩,
  ⟨0x1D72, "LATIN SMALL LETTER R WITH ", "MIDDLE TILDE, FISHHOOK AND MIDDLE TILDE"⟩,
  ⟨0x1D74, "LATIN SMALL LETTER ", "S WITH MIDDLE TILDE, T WITH MIDDLE TILDE, Z WITH MIDDLE TILDE"⟩,
  ⟨0x1D77, "", "LATIN SMALL LETTER TURNED G, MODIFIER LETTER CYRILLIC EN"⟩,
  ⟨0x1D79, "LATIN SMALL LETTER ", "INSULAR G, TH WITH STRIKETHROUGH"⟩,
  ⟨0x1D7B, "LATIN SMALL ", "CAPITAL LETTER I WITH STROKE, LETTER IOTA WITH STROKE"⟩,
  ⟨0x1D7D, "LATIN SMALL ", "LETTER P WITH STROKE, CAPITAL LETTER U WITH STROKE"⟩,
  ⟨0x1D7F, "LATIN SMALL LETTER ", "UPSILON WITH STROKE, B WITH PALATAL HOOK"⟩,
  ⟨0x1D81, "LATIN SMALL LETTER ", "D WITH PALATAL HOOK, F WITH PALATAL HOOK, G WITH PALATAL HOOK"⟩,
  ⟨0x1D84, "LATIN SMALL LETTER ", "K WITH PALATAL HOOK, L WITH PALATAL HOOK, M WITH PALATAL HOOK"⟩,
  ⟨0x1D87, "LATIN SMALL LETTER ", "N WITH PALATAL HOOK, P WITH PALATAL HOOK, R WITH PALATAL HOOK"⟩,
  ⟨0x1D8A, "LATIN SMALL LETTER ", "S WITH PALATAL HOOK, ESH WITH PALATAL HOOK"⟩,
  ⟨0x1D8C, "LATIN SMALL LETTER ", "V WITH PALATAL HOOK, X WITH PALATAL HOOK"⟩,
  ⟨0x1D8E, "LATIN SMALL LETTER ", "Z WITH PALATAL HOOK, A WITH RETROFLEX HOOK"⟩,
  ⟨0x1D90, "LATIN SMALL LETTER ", "ALPHA WITH RETROFLEX HOOK, D WITH HOOK AND TAIL"⟩,
  ⟨0x1D92, "LATIN SMALL LETTER ", "E WITH RETROFLEX HOOK, OPEN E WITH RETROFLEX HOOK"⟩,
  ⟨0x1D94, "", "LATIN SMALL LETTER REVERSED OPEN E WITH RETROFLEX HOOK"⟩,
  ⟨0x1D95, "LATIN SMALL LETTER ", "SCHWA WITH RETROFLEX HOOK, I WITH RETROFLEX HOOK"⟩,
  ⟨0x1D97, "LATIN SMALL LETTER ", "OPEN O WITH RETROFLEX HOOK, ESH WITH RETROFLEX HOOK"⟩,
  ⟨0x1D99, "LATIN SMALL LETTER ", "U WITH RETROFLEX HOOK, EZH WITH RETROFLEX HOOK"⟩,
  ⟨0x1D9B, "MODIFIER LETTER SMALL ", "TURNED ALPHA, C, C WITH CURL, ETH, REVERSED OPEN E"⟩,
  ⟨0x1DA0, "MODIFIER LETTER SMALL ", "F, DOTLESS J WITH STROKE, SCRIPT G, TURNED H, I WITH STROKE"⟩,
  ⟨0x1DA5, "MODIFIER LETTER SMALL ", "IOTA, CAPITAL I, CAPITAL I WITH STROKE, J WITH CROSSED-TAIL"⟩,
  ⟨0x1DA9, "MODIFIER LETTER SMALL L WITH ", "RETROFLEX HOOK, PALATAL HOOK"⟩,
  ⟨0x1DAB, "MODIFIER LETTER SMALL ", "CAPITAL L, M WITH HOOK, TURNED M WITH LONG LEG"⟩,
  ⟨0x1DAE, "MODIFIER LETTER SMALL N WITH ", "LEFT HOOK, RETROFLEX HOOK"⟩,
  ⟨0x1DB0, "MODIFIER LETTER SMALL ", "CAPITAL N, BARRED O, PHI, S WITH HOOK, ESH"⟩,
  ⟨0x1DB5, "MODIFIER LETTER SMALL ", "T WITH PALATAL HOOK, U BAR, UPSILON, CAPITAL U, V WITH HOOK"⟩,
  ⟨0x1DBA, "MODIFIER LETTER SMALL ", "TURNED V, Z, Z WITH RETROFLEX HOOK, Z WITH CURL, EZH, THETA"⟩,
  ⟨0x1E00, "", "LATIN CAPITAL LETTER A WITH RING BELOW"⟩,
  ⟨0x1E01, "LATIN ", "SMALL LETTER A WITH RING BELOW, CAPITAL LETTER B WITH DOT ABOVE"⟩,
  ⟨0x1E03, "LATIN ", "SMALL LETTER B WITH DOT ABOVE, CAPITAL LETTER B WITH DOT BELOW"⟩,
  ⟨0x1E05, "LATIN ", "SMALL LETTER B WITH DOT BELOW, CAPITAL LETTER B WITH LINE BELOW"⟩,
  ⟨0x1E07, "LATIN ", "SMALL LETTER B WITH LINE BELOW, CAPITAL LETTER C WITH CEDILLA AND ACUTE"⟩,
  ⟨0x1E09, "LATIN ", "SMALL LETTER C WITH CEDILLA AND ACUTE, CAPITAL LETTER D WITH DOT ABOVE"⟩,
  ⟨0x1E0B, "LATIN ", "SMALL LETTER D WITH DOT ABOVE, CAPITAL LETTER D WITH DOT BELOW"⟩,
  ⟨0x1E0D, "LATIN ", "SMALL LETTER D WITH DOT BELOW, CAPITAL LETTER D WITH LINE BELOW"⟩,
  ⟨0x1E0F, "LATIN ", "SMALL LETTER D WITH LINE BELOW, CAPITAL LETTER D WITH CEDILLA"⟩,
  ⟨0x1E11, "LATIN ", "SMALL LETTER D WITH CEDILLA, CAPITAL LETTER D WITH CIRCUMFLEX BELOW"⟩,
  ⟨0x1E13, "", "LATIN SMALL LETTER D WITH CIRCUMFLEX BELOW"⟩,
  ⟨0x1E14, "", "LATIN CAPITAL LETTER E WITH MACRON AND GRAVE"⟩,
  ⟨0x1E15, "", "LATIN SMALL LETTER E WITH MACRON AND GRAVE"⟩,
  ⟨0x1E16, "", "LATIN CAPITAL LETTER E WITH MACRON AND ACUTE"⟩,
  ⟨0x1E17, "", "LATIN SMALL LETTER E WITH MACRON AND ACUTE"⟩,
  ⟨0x1E18, "", "LATIN CAPITAL LETTER E WITH CIRCUMFLEX BELOW"⟩,
  ⟨0x1E19, "LATIN ", "SMALL LETTER E WITH CIRCUMFLEX BELOW, CAPITAL LETTER E WITH TILDE BELOW"⟩,
  ⟨0x1E1B, "LATIN ", "SMALL LETTER E WITH TILDE BELOW, CAPITAL LETTER E WITH CEDILLA AND BREVE"⟩,
  ⟨0x1E1D, "LATIN ", "SMALL LETTER E WITH CEDILLA AND BREVE, CAPITAL LETTER F WITH DOT ABOVE"⟩,
  ⟨0x1E1F, "LATIN ", "SMALL LETTER F WITH DOT ABOVE, CAPITAL LETTER G WITH MACRON"⟩,
  ⟨0x1E21, "LATIN ", "SMALL LETTER G WITH MACRON, CAPITAL LETTER H WITH DOT ABOVE"⟩,
  ⟨0x1E23, "LATIN ", "SMALL LETTER H WITH DOT ABOVE, CAPITAL LETTER H WITH DOT BELOW"⟩,
  ⟨0x1E25, "LATIN ", "SMALL LETTER H WITH DOT BELOW, CAPITAL LETTER H WITH DIAERESIS"⟩,
  ⟨0x1E27, "LATIN ", "SMALL LETTER H WITH DIAERESIS, CAPITAL LETTER H WITH CEDILLA"⟩,
  ⟨0x1E29, "LATIN ", "SMALL LETTER H WITH CEDILLA, CAPITAL LETTER H WITH BREVE BELOW"⟩,
  ⟨0x1E2B, "LATIN ", "SMALL LETTER H WITH BREVE BELOW, CAPITAL LETTER I WITH TILDE BELOW"⟩,
  ⟨0x1E2D, "LATIN ", "SMALL LETTER I WITH TILDE BELOW, CAPITAL LETTER I WITH DIAERESIS AND ACUTE"⟩,
  ⟨0x1E2F, "LATIN ", "SMALL LETTER I WITH DIAERESIS AND ACUTE, CAPITAL LETTER K WITH ACUTE"⟩,
  ⟨0x1E31, "LATIN ", "SMALL LETTER K WITH ACUTE, CAPITAL LETTER K WITH DOT BELOW"⟩,
  ⟨0x1E33, "LATIN ", "SMALL LETTER K WITH DOT BELOW, CAPITAL LETTER K WITH LINE BELOW"⟩,
  ⟨0x1E35, "LATIN ", "SMALL LETTER K WITH LINE BELOW, CAPITAL LETTER L WITH DOT BELOW"⟩,
  ⟨0x1E37, "LATIN ", "SMALL LETTER L WITH DOT BELOW, CAPITAL LETTER L WITH DOT BELOW AND MACRON"⟩,
  ⟨0x1E39, "LATIN ", "SMALL LETTER L WITH DOT BELOW AND MACRON, CAPITAL LETTER L WITH LINE BELOW"⟩,
  ⟨0x1E3B, "LATIN ", "SMALL LETTER L WITH LINE BELOW, CAPITAL LETTER L WITH CIRCUMFLEX BELOW"⟩,
  ⟨0x1E3D, "LATIN ", "SMALL LETTER L WITH CIRCUMFLEX BELOW, CAPITAL LETTER M WITH ACUTE"⟩,
  ⟨0x1E3F, "LATIN ", "SMALL LETTER M WITH ACUTE, CAPITAL LETTER M WITH DOT ABOVE"⟩,
  ⟨0x1E41, "LATIN ", "SMALL LETTER M WITH DOT ABOVE, CAPITAL LETTER M WITH DOT BELOW"⟩,
  ⟨0x1E43, "LATIN ", "SMALL LETTER M WITH DOT BELOW, CAPITAL LETTER N WITH DOT ABOVE"⟩,
  ⟨0x1E45, "LATIN ", "SMALL LETTER N WITH DOT ABOVE, CAPITAL LETTER N WITH DOT BELOW"⟩,
  ⟨0x1E47, "LATIN ", "SMALL LETTER N WITH DOT BELOW, CAPITAL LETTER N WITH LINE BELOW"⟩,
  ⟨0x1E49, "LATIN ", "SMALL LETTER N WITH LINE BELOW, CAPITAL LETTER N WITH CIRCUMFLEX BELOW"⟩,
  ⟨0x1E4B, "", "LATIN SMALL LETTER N WITH CIRCUMFLEX BELOW"⟩,
  ⟨0x1E4C, "LATIN ", "CAPITAL LETTER O WITH TILDE AND ACUTE, SMALL LETTER O WITH TILDE AND ACUTE"⟩,
  ⟨0x1E4E, "", "LATIN CAPITAL LETTER O WITH TILDE AND DIAERESIS"⟩,
  ⟨0x1E4F, "", "LATIN SMALL LETTER O WITH TILDE AND DIAERESIS"⟩,
  ⟨0x1E50, "", "LATIN CAPITAL LETTER O WITH MACRON AND GRAVE"⟩,
  ⟨0x1E51, "", "LATIN SMALL LETTER O WITH MACRON AND GRAVE"⟩,
  ⟨0x1E52, "", "LATIN CAPITAL LETTER O WITH MACRON AND ACUTE"⟩,
  ⟨0x1E53, "LATIN ", "SMALL LETTER O WITH MACRON AND ACUTE, CAPITAL LETTER P WITH ACUTE"⟩,
  ⟨0x1E55, "LATIN ", "SMALL LETTER P WITH ACUTE, CAPITAL LETTER P WITH DOT ABOVE"⟩,
  ⟨0x1E57, "LATIN ", "SMALL LETTER P WITH DOT ABOVE, CAPITAL LETTER R WITH DOT ABOVE"⟩,
  ⟨0x1E59, "LATIN ", "SMALL LETTER R WITH DOT ABOVE, CAPITAL LETTER R WITH DOT BELOW"⟩,
  ⟨0x1E5B, "LATIN ", "SMALL LETTER R WITH DOT BELOW, CAPITAL LETTER R WITH DOT BELOW AND MACRON"⟩,
  ⟨0x1E5D, "LATIN ", "SMALL LETTER R WITH DOT BELOW AND MACRON, CAPITAL LETTER R WITH LINE BELOW"⟩,
  ⟨0x1E5F, "LATIN ", "SMALL LETTER R WITH LINE BELOW, CAPITAL LETTER S WITH DOT ABOVE"⟩,
  ⟨0x1E61, "LATIN ", "SMALL LETTER S WITH DOT ABOVE, CAPITAL LETTER S WITH DOT BELOW"⟩,
  ⟨0x1E63, "LATIN ", "SMALL LETTER S WITH DOT BELOW, CAPITAL LETTER S WITH ACUTE AND DOT ABOVE"⟩,
  ⟨0x1E65, "", "LATIN SMALL LETTER S WITH ACUTE AND DOT ABOVE"⟩,
  ⟨0x1E66, "", "LATIN CAPITAL LETTER S WITH CARON AND DOT ABOVE"⟩,
  ⟨0x1E67, "", "LATIN SMALL LETTER S WITH CARON AND DOT ABOVE"⟩,
  ⟨0x1E68, "", "LATIN CAPITAL LETTER S WITH DOT BELOW AND DOT ABOVE"⟩,
  ⟨0x1E69, "", "LATIN SMALL LETTER S WITH DOT BELOW AND DOT ABOVE"⟩,
  ⟨0x1E6A, "", "LATIN CAPITAL LETTER T WITH DOT ABOVE"⟩,
  ⟨0x1E6B, "LATIN ", "SMALL LETTER T WITH DOT ABOVE, CAPITAL LETTER T WITH DOT BELOW"⟩,
  ⟨0x1E6D, "LATIN ", "SMALL LETTER T WITH DOT BELOW, CAPITAL LETTER T WITH LINE BELOW"⟩,
  ⟨0x1E6F, "LATIN ", "SMALL LETTER T WITH LINE BELOW, CAPITAL LETTER T WITH CIRCUMFLEX BELOW"⟩,
  ⟨0x1E71, "LATIN ", "SMALL LETTER T WITH CIRCUMFLEX BELOW, CAPITAL LETTER U WITH DIAERESIS BELOW"⟩,
  ⟨0x1E73, "LATIN ", "SMALL LETTER U WITH DIAERESIS BELOW, CAPITAL LETTER U WITH TILDE BELOW"⟩,
  ⟨0x1E75, "LATIN ", "SMALL LETTER U WITH TILDE BELOW, CAPITAL LETTER U WITH CIRCUMFLEX BELOW"⟩,
  ⟨0x1E77, "", "LATIN SMALL LETTER U WITH CIRCUMFLEX BELOW"⟩,
  ⟨0x1E78, "LATIN ", "CAPITAL LETTER U WITH TILDE AND ACUTE, SMALL LETTER U WITH TILDE AND ACUTE"⟩,
  ⟨0x1E7A, "", "LATIN CAPITAL LETTER U WITH MACRON AND DIAERESIS"⟩,
  ⟨0x1E7B, "LATIN ", "SMALL LETTER U WITH MACRON AND DIAERESIS, CAPITAL LETTER V WITH TILDE"⟩,
  ⟨0x1E7D, "LATIN ", "SMALL LETTER V WITH TILDE, CAPITAL LETTER V WITH DOT BELOW"⟩,
  ⟨0x1E7F, "LATIN ", "SMALL LETTER V WITH DOT BELOW, CAPITAL LETTER W WITH GRAVE"⟩,
  ⟨0x1E81, "LATIN ", "SMALL LETTER W WITH GRAVE, CAPITAL LETTER W WITH ACUTE"⟩,
  ⟨0x1E83, "LATIN ", "SMALL LETTER W WITH ACUTE, CAPITAL LETTER W WITH DIAERESIS"⟩,
  ⟨0x1E85, "LATIN ", "SMALL LETTER W WITH DIAERESIS, CAPITAL LETTER W WITH DOT ABOVE"⟩,
  ⟨0x1E87, "LATIN ", "SMALL LETTER W WITH DOT ABOVE, CAPITAL LETTER W WITH DOT BELOW"⟩,
  ⟨0x1E89, "LATIN ", "SMALL LETTER W WITH DOT BELOW, CAPITAL LETTER X WITH DOT ABOVE"⟩,
  ⟨0x1E8B, "LATIN ", "SMALL LETTER X WITH DOT ABOVE, CAPITAL LETTER X WITH DIAERESIS"⟩,
  ⟨0x1E8D, "LATIN ", "SMALL LETTER X WITH DIAERESIS, CAPITAL LETTER Y WITH DOT ABOVE"⟩,
  ⟨0x1E8F, "LATIN ", "SMALL LETTER Y WITH DOT ABOVE, CAPITAL LETTER Z WITH CIRCUMFLEX"⟩,
  ⟨0x1E91, "LATIN ", "SMALL LETTER Z WITH CIRCUMFLEX, CAPITAL LETTER Z WITH DOT BELOW"⟩,
  ⟨0x1E93, "LATIN ", "SMALL LETTER Z WITH DOT BELOW, CAPITAL LETTER Z WITH LINE BELOW"⟩,
  ⟨0x1E95, "LATIN SMALL LETTER ", "Z WITH LINE BELOW, H WITH LINE BELOW, T WITH DIAERESIS"⟩,
  ⟨0x1E98, "LATIN SMALL LETTER ", "W WITH RING ABOVE, Y WITH RING ABOVE, A WITH RIGHT HALF RING"⟩,
  ⟨0x1E9B, "LATIN SMALL LETTER LONG S WITH ", "DOT ABOVE, DIAGONAL STROKE, HIGH STROKE"⟩,
  ⟨0x1E9E, "LATIN ", "CAPITAL LETTER SHARP S, SMALL LETTER DELTA, CAPITAL LETTER A WITH DOT BELOW"⟩,
  ⟨0x1EA1, "LATIN ", "SMALL LETTER A WITH DOT BELOW, CAPITAL LETTER A WITH HOOK ABOVE"⟩,
  ⟨0x1EA3, "LATIN ", "SMALL LETTER A WITH HOOK ABOVE, CAPITAL LETTER A WITH CIRCUMFLEX AND ACUTE"⟩,
  ⟨0x1EA5, "", "LATIN SMALL LETTER A WITH CIRCUMFLEX AND ACUTE"⟩,
  ⟨0x1EA6, "", "LATIN CAPITAL LETTER A WITH CIRCUMFLEX AND GRAVE"⟩,
  ⟨0x1EA7, "", "LATIN SMALL LETTER A WITH CIRCUMFLEX AND GRAVE"⟩,
  ⟨0x1EA8, "", "LATIN CAPITAL LETTER A WITH CIRCUMFLEX AND HOOK ABOVE"⟩,
  ⟨0x1EA9, "", "LATIN SMALL LETTER A WITH CIRCUMFLEX AND HOOK ABOVE"⟩,
  ⟨0x1EAA, "", "LATIN CAPITAL LETTER A WITH CIRCUMFLEX AND TILDE"⟩,
  ⟨0x1EAB, "", "LATIN SMALL LETTER A WITH CIRCUMFLEX AND TILDE"⟩,
  ⟨0x1EAC, "", "LATIN CAPITAL LETTER A WITH CIRCUMFLEX AND DOT BELOW"⟩,
  ⟨0x1EAD, "", "LATIN SMALL LETTER A WITH CIRCUMFLEX AND DOT BELOW"⟩,
  ⟨0x1EAE, "LATIN ", "CAPITAL LETTER A WITH BREVE AND ACUTE, SMALL LETTER A WITH BREVE AND ACUTE"⟩,
  ⟨0x1EB0, "LATIN ", "CAPITAL LETTER A WITH BREVE AND GRAVE, SMALL LETTER A WITH BREVE AND GRAVE"⟩,
  ⟨0x1EB2, "", "LATIN CAPITAL LETTER A WITH BREVE AND HOOK ABOVE"⟩,
  ⟨0x1EB3, "", "LATIN SMALL LETTER A WITH BREVE AND HOOK ABOVE"⟩,
  ⟨0x1EB4, "LATIN ", "CAPITAL LETTER A WITH BREVE AND TILDE, SMALL LETTER A WITH BREVE AND TILDE"⟩,
  ⟨0x1EB6, "", "LATIN CAPITAL LETTER A WITH BREVE AND DOT BELOW"⟩,
  ⟨0x1EB7, "LATIN ", "SMALL LETTER A WITH BREVE AND DOT BELOW, CAPITAL LETTER E WITH DOT BELOW"⟩,
  ⟨0x1EB9, "LATIN ", "SMALL LETTER E WITH DOT BELOW, CAPITAL LETTER E WITH HOOK ABOVE"⟩,
  ⟨0x1EBB, "LATIN ", "SMALL LETTER E WITH HOOK ABOVE, CAPITAL LETTER E WITH TILDE"⟩,
  ⟨0x1EBD, "LATIN ", "SMALL LETTER E WITH TILDE, CAPITAL LETTER E WITH CIRCUMFLEX AND ACUTE"⟩,
  ⟨0x1EBF, "", "LATIN SMALL LETTER E WITH CIRCUMFLEX AND ACUTE"⟩,
  ⟨0x1EC0, "", "LATIN CAPITAL LETTER E WITH CIRCUMFLEX AND GRAVE"⟩,
  ⟨0x1EC1, "", "LATIN SMALL LETTER E WITH CIRCUMFLEX AND GRAVE"⟩,
  ⟨0x1EC2, "", "LATIN CAPITAL LETTER E WITH CIRCUMFLEX AND HOOK ABOVE"⟩,
  ⟨0x1EC3, "", "LATIN SMALL LETTER E WITH CIRCUMFLEX AND HOOK ABOVE"⟩,
  ⟨0x1EC4, "", "LATIN CAPITAL LETTER E WITH CIRCUMFLEX AND TILDE"⟩,
  ⟨0x1EC5, "", "LATIN SMALL LETTER E WITH CIRCUMFLEX AND TILDE"⟩,
  ⟨0x1EC6, "", "LATIN CAPITAL LETTER E WITH CIRCUMFLEX AND DOT BELOW"⟩,
  ⟨0x1EC7, "", "LATIN SMALL LETTER E WITH CIRCUMFLEX AND DOT BELOW"⟩,
  ⟨0x1EC8, "", "LATIN CAPITAL LETTER I WITH HOOK ABOVE"⟩,
  ⟨0x1EC9, "LATIN ", "SMALL LETTER I WITH HOOK ABOVE, CAPITAL LETTER I WITH DOT BELOW"⟩,
  ⟨0x1ECB, "LATIN ", "SMALL LETTER I WITH DOT BELOW, CAPITAL LETTER O WITH DOT BELOW"⟩,
  ⟨0x1ECD, "LATIN ", "SMALL LETTER O WITH DOT BELOW, CAPITAL LETTER O WITH HOOK ABOVE"⟩,
  ⟨0x1ECF, "LATIN ", "SMALL LETTER O WITH HOOK ABOVE, CAPITAL LETTER O WITH CIRCUMFLEX AND ACUTE"⟩,
  ⟨0x1ED1, "", "LATIN SMALL LETTER O WITH CIRCUMFLEX AND ACUTE"⟩,
  ⟨0x1ED2, "", "LATIN CAPITAL LETTER O WITH CIRCUMFLEX AND GRAVE"⟩,
  ⟨0x1ED3, "", "LATIN SMALL LETTER O WITH CIRCUMFLEX AND GRAVE"⟩,
  ⟨0x1ED4, "", "LATIN CAPITAL LETTER O WITH CIRCUMFLEX AND HOOK ABOVE"⟩,
  ⟨0x1ED5, "", "LATIN SMALL LETTER O WITH CIRCUMFLEX AND HOOK ABOVE"⟩,
  ⟨0x1ED6, "", "LATIN CAPITAL LETTER O WITH CIRCUMFLEX AND TILDE"⟩,
  ⟨0x1ED7, "", "LATIN SMALL LETTER O WITH CIRCUMFLEX AND TILDE"⟩,
  ⟨0x1ED8, "", "LATIN CAPITAL LETTER O WITH CIRCUMFLEX AND DOT BELOW"⟩,
  ⟨0x1ED9, "", "LATIN SMALL LETTER O WITH CIRCUMFLEX AND DOT BELOW"⟩,
  ⟨0x1EDA, "LATIN ", "CAPITAL LETTER O WITH HORN AND ACUTE, SMALL LETTER O WITH HORN AND ACUTE"⟩,
  ⟨0x1EDC, "LATIN ", "CAPITAL LETTER O WITH HORN AND GRAVE, SMALL LETTER O WITH HORN AND GRAVE"⟩,
  ⟨0x1EDE, "", "LATIN CAPITAL LETTER O WITH HORN AND HOOK ABOVE"⟩,
  ⟨0x1EDF, "", "LATIN SMALL LETTER O WITH HORN AND HOOK ABOVE"⟩,
  ⟨0x1EE0, "LATIN ", "CAPITAL LETTER O WITH HORN AND TILDE, SMALL LETTER O WITH HORN AND TILDE"⟩,
  ⟨0x1EE2, "", "LATIN CAPITAL LETTER O WITH HORN AND DOT BELOW"⟩,
  ⟨0x1EE3, "", "LATIN SMALL LETTER O WITH HORN AND DOT BELOW"⟩,
  ⟨0x1EE4, "LATIN ", "CAPITAL LETTER U WITH DOT BELOW, SMALL LETTER U WITH DOT BELOW"⟩,
  ⟨0x1EE6, "LATIN ", "CAPITAL LETTER U WITH HOOK ABOVE, SMALL LETTER U WITH HOOK ABOVE"⟩,
  ⟨0x1EE8, "LATIN ", "CAPITAL LETTER U WITH HORN AND ACUTE, SMALL LETTER U WITH HORN AND ACUTE"⟩,
  ⟨0x1EEA, "LATIN ", "CAPITAL LETTER U WITH HORN AND GRAVE, SMALL LETTER U WITH HORN AND GRAVE"⟩,
  ⟨0x1EEC, "", "LATIN CAPITAL LETTER U WITH HORN AND HOOK ABOVE"⟩,
  ⟨0x1EED, "", "LATIN SMALL LETTER U WITH HORN AND HOOK ABOVE"⟩,
  ⟨0x1EEE, "LATIN ", "CAPITAL LETTER U WITH HORN AND TILDE, SMALL LETTER U WITH HORN AND TILDE"⟩,
  ⟨0x1EF0, "", "LATIN CAPITAL LETTER U WITH HORN AND DOT BELOW"⟩,
  ⟨0x1EF1, "", "LATIN SMALL LETTER U WITH HORN AND DOT BELOW"⟩,
  ⟨0x1EF2, "LATIN ", "CAPITAL LETTER Y WITH GRAVE, SMALL LETTER Y WITH GRAVE"⟩,
  ⟨0x1EF4, "LATIN ", "CAPITAL LETTER Y WITH DOT BELOW, SMALL LETTER Y WITH DOT BELOW"⟩,
  ⟨0x1EF6, "LATIN ", "CAPITAL LETTER Y WITH HOOK ABOVE, SMALL LETTER Y WITH HOOK ABOVE"⟩,
  ⟨0x1EF8, "LATIN ", "CAPITAL LETTER Y WITH TILDE, SMALL LETTER Y WITH TILDE"⟩,
  ⟨0x1EFA, "LATIN ", "CAPITAL LETTER MIDDLE-WELSH LL, SMALL LETTER MIDDLE-WELSH LL"⟩,
  ⟨0x1EFC, "LATIN ", "CAPITAL LETTER MIDDLE-WELSH V, SMALL LETTER MIDDLE-WELSH V"⟩,
  ⟨0x1EFE, "LATIN ", "CAPITAL LETTER Y WITH LOOP, SMALL LETTER Y WITH LOOP"⟩,
  ⟨0x2C60, "LATIN ", "CAPITAL LETTER L WITH DOUBLE BAR, SMALL LETTER L WITH DOUBLE BAR"⟩,
  ⟨0x2C62, "LATIN CAPITAL LETTER ", "L WITH MIDDLE TILDE, P WITH STROKE, R WITH TAIL"⟩,
  ⟨0x2C65, "LATIN SMALL LETTER ", "A WITH STROKE, T WITH DIAGONAL STROKE"⟩,
  ⟨0x2C67, "LATIN ", "CAPITAL LETTER H WITH DESCENDER, SMALL LETTER H WITH DESCENDER"⟩,
  ⟨0x2C69, "LATIN ", "CAPITAL LETTER K WITH DESCENDER, SMALL LETTER K WITH DESCENDER"⟩,
  ⟨0x2C6B, "LATIN ", "CAPITAL LETTER Z WITH DESCENDER, SMALL LETTER Z WITH DESCENDER"⟩,
  ⟨0x2C6D, "LATIN CAPITAL LETTER ", "ALPHA, M WITH HOOK, TURNED A, TURNED ALPHA"⟩,
  ⟨0x2C71, "LATIN ", "SMALL LETTER V WITH RIGHT HOOK, CAPITAL LETTER W WITH HOOK"⟩,
  ⟨0x2C73, "LATIN ", "SMALL LETTER W WITH HOOK, SMALL LETTER V WITH CURL, CAPITAL LETTER HALF H"⟩,
  ⟨0x2C76, "LATIN SMALL LETTER ", "HALF H, TAILLESS PHI, E WITH NOTCH, TURNED R WITH TAIL"⟩,
  ⟨0x2C7A, "LATIN ", "SMALL LETTER O WITH LOW RING INSIDE, LETTER SMALL CAPITAL TURNED E"⟩,
  ⟨0x2C7C, "", "LATIN SUBSCRIPT SMALL LETTER J, MODIFIER LETTER CAPITAL V"⟩,
  ⟨0x2C7E, "LATIN CAPITAL LETTER ", "S WITH SWASH TAIL, Z WITH SWASH TAIL"⟩,
  ⟨0xA700, "MODIFIER LETTER CHINESE TONE ", "YIN PING, YANG PING"⟩,
  ⟨0xA702, "MODIFIER LETTER CHINESE TONE ", "YIN SHANG, YANG SHANG, YIN QU, YANG QU, YIN RU"⟩,
  ⟨0xA707, "MODIFIER LETTER ", "CHINESE TONE YANG RU, EXTRA-HIGH DOTTED TONE BAR"⟩,
  ⟨0xA709, "MODIFIER LETTER ", "HIGH DOTTED TONE BAR, MID DOTTED TONE BAR, LOW DOTTED TONE BAR"⟩,
  ⟨0xA70C, "MODIFIER LETTER EXTRA-", "LOW DOTTED TONE BAR, HIGH DOTTED LEFT-STEM TONE BAR"⟩,
  ⟨0xA70E, "", "MODIFIER LETTER HIGH DOTTED LEFT-STEM TONE BAR"⟩,
  ⟨0xA70F, "MODIFIER LETTER ", "MID DOTTED LEFT-STEM TONE BAR, LOW DOTTED LEFT-STEM TONE BAR"⟩,
  ⟨0xA711, "", "MODIFIER LETTER EXTRA-LOW DOTTED LEFT-STEM TONE BAR"⟩,
  ⟨0xA712, "MODIFIER LETTER ", "EXTRA-HIGH LEFT-STEM TONE BAR, HIGH LEFT-STEM TONE BAR"⟩,
  ⟨0xA714, "MODIFIER LETTER ", "MID LEFT-STEM TONE BAR, LOW LEFT-STEM TONE BAR"⟩,
  ⟨0xA716, "MODIFIER LETTER ", "EXTRA-LOW LEFT-STEM TONE BAR, DOT VERTICAL BAR"⟩,
  ⟨0xA718, "MODIFIER LETTER ", "DOT SLASH, DOT HORIZONTAL BAR, LOWER RIGHT CORNER ANGLE"⟩,
  ⟨0xA71B, "MODIFIER LETTER RAISED ", "UP ARROW, DOWN ARROW, EXCLAMATION MARK"⟩,
  ⟨0xA71E, "MODIFIER LETTER ", "RAISED INVERTED EXCLAMATION MARK, LOW INVERTED EXCLAMATION MARK"⟩,
  ⟨0xA720, "MODIFIER LETTER STRESS AND ", "HIGH TONE, LOW TONE"⟩,
  ⟨0xA722, "LATIN ", "CAPITAL LETTER EGYPTOLOGICAL ALEF, SMALL LETTER EGYPTOLOGICAL ALEF"⟩,
  ⟨0xA724, "LATIN ", "CAPITAL LETTER EGYPTOLOGICAL AIN, SMALL LETTER EGYPTOLOGICAL AIN"⟩,
  ⟨0xA726, "LATIN ", "CAPITAL LETTER HENG, SMALL LETTER HENG, CAPITAL LETTER TZ, SMALL LETTER TZ"⟩,
  ⟨0xA72A, "LATIN ", "CAPITAL LETTER TRESILLO, SMALL LETTER TRESILLO, CAPITAL LETTER CUATRILLO"⟩,
  ⟨0xA72D, "LATIN ", "SMALL LETTER CUATRILLO, CAPITAL LETTER CUATRILLO WITH COMMA"⟩,
  ⟨0xA72F, "LATIN ", "SMALL LETTER CUATRILLO WITH COMMA, LETTER SMALL CAPITAL F"⟩,
  ⟨0xA731, "LATIN ", "LETTER SMALL CAPITAL S, CAPITAL LETTER AA, SMALL LETTER AA"⟩,
  ⟨0xA734, "LATIN ", "CAPITAL LETTER AO, SMALL LETTER AO, CAPITAL LETTER AU, SMALL LETTER AU"⟩,
  ⟨0xA738, "LATIN ", "CAPITAL LETTER AV, SMALL LETTER AV, CAPITAL LETTER AV WITH HORIZONTAL BAR"⟩,
  ⟨0xA73B, "LATIN ", "SMALL LETTER AV WITH HORIZONTAL BAR, CAPITAL LETTER AY, SMALL LETTER AY"⟩,
  ⟨0xA73E, "LATIN ", "CAPITAL LETTER REVERSED C WITH DOT, SMALL LETTER REVERSED C WITH DOT"⟩,
  ⟨0xA740, "LATIN ", "CAPITAL LETTER K WITH STROKE, SMALL LETTER K WITH STROKE"⟩,
  ⟨0xA742, "LATIN ", "CAPITAL LETTER K WITH DIAGONAL STROKE, SMALL LETTER K WITH DIAGONAL STROKE"⟩,
  ⟨0xA744, "", "LATIN CAPITAL LETTER K WITH STROKE AND DIAGONAL STROKE"⟩,
  ⟨0xA745, "LATIN ", "SMALL LETTER K WITH STROKE AND DIAGONAL STROKE, CAPITAL LETTER BROKEN L"⟩,
  ⟨0xA747, "LATIN ", "SMALL LETTER BROKEN L, CAPITAL LETTER L WITH HIGH STROKE"⟩,
  ⟨0xA749, "LATIN ", "SMALL LETTER L WITH HIGH STROKE, CAPITAL LETTER O WITH LONG STROKE OVERLAY"⟩,
  ⟨0xA74B, "", "LATIN SMALL LETTER O WITH LONG STROKE OVERLAY"⟩,
  ⟨0xA74C, "LATIN ", "CAPITAL LETTER O WITH LOOP, SMALL LETTER O WITH LOOP, CAPITAL LETTER OO"⟩,
  ⟨0xA74F, "LATIN ", "SMALL LETTER OO, CAPITAL LETTER P WITH STROKE THROUGH DESCENDER"⟩,
  ⟨0xA751, "", "LATIN SMALL LETTER P WITH STROKE THROUGH DESCENDER"⟩,
  ⟨0xA752, "LATIN ", "CAPITAL LETTER P WITH FLOURISH, SMALL LETTER P WITH FLOURISH"⟩,
  ⟨0xA754, "LATIN ", "CAPITAL LETTER P WITH SQUIRREL TAIL, SMALL LETTER P WITH SQUIRREL TAIL"⟩,
  ⟨0xA756, "", "LATIN CAPITAL LETTER Q WITH STROKE THROUGH DESCENDER"⟩,
  ⟨0xA757, "", "LATIN SMALL LETTER Q WITH STROKE THROUGH DESCENDER"⟩,
  ⟨0xA758, "", "LATIN CAPITAL LETTER Q WITH DIAGONAL STROKE"⟩,
  ⟨0xA759, "LATIN ", "SMALL LETTER Q WITH DIAGONAL STROKE, CAPITAL LETTER R ROTUNDA"⟩,
  ⟨0xA75B, "LATIN ", "SMALL LETTER R ROTUNDA, CAPITAL LETTER RUM ROTUNDA"⟩,
  ⟨0xA75D, "LATIN ", "SMALL LETTER RUM ROTUNDA, CAPITAL LETTER V WITH DIAGONAL STROKE"⟩,
  ⟨0xA75F, "LATIN ", "SMALL LETTER V WITH DIAGONAL STROKE, CAPITAL LETTER VY"⟩,
  ⟨0xA761, "LATIN ", "SMALL LETTER VY, CAPITAL LETTER VISIGOTHIC Z, SMALL LETTER VISIGOTHIC Z"⟩,
  ⟨0xA764, "LATIN ", "CAPITAL LETTER THORN WITH STROKE, SMALL LETTER THORN WITH STROKE"⟩,
  ⟨0xA766, "", "LATIN CAPITAL LETTER THORN WITH STROKE THROUGH DESCENDER"⟩,
  ⟨0xA767, "", "LATIN SMALL LETTER THORN WITH STROKE THROUGH DESCENDER"⟩,
  ⟨0xA768, "LATIN ", "CAPITAL LETTER VEND, SMALL LETTER VEND"⟩,
  ⟨0xA76A, "LATIN ", "CAPITAL LETTER ET, SMALL LETTER ET, CAPITAL LETTER IS, SMALL LETTER IS"⟩,
  ⟨0xA76E, "", "LATIN CAPITAL LETTER CON, LATIN SMALL LETTER CON, MODIFIER LETTER US"⟩,
  ⟨0xA771, "LATIN SMALL LETTER ", "DUM, LUM, MUM, NUM"⟩,
  ⟨0xA775, "LATIN ", "SMALL LETTER RUM, LETTER SMALL CAPITAL RUM, SMALL LETTER TUM"⟩,
  ⟨0xA778, "LATIN ", "SMALL LETTER UM, CAPITAL LETTER INSULAR D, SMALL LETTER INSULAR D"⟩,
  ⟨0xA77B, "LATIN ", "CAPITAL LETTER INSULAR F, SMALL LETTER INSULAR F, CAPITAL LETTER INSULAR G"⟩,
  ⟨0xA77E, "LATIN ", "CAPITAL LETTER TURNED INSULAR G, SMALL LETTER TURNED INSULAR G"⟩,
  ⟨0xA780, "LATIN ", "CAPITAL LETTER TURNED L, SMALL LETTER TURNED L"⟩,
  ⟨0xA782, "LATIN ", "CAPITAL LETTER INSULAR R, SMALL LETTER INSULAR R, CAPITAL LETTER INSULAR S"⟩,
  ⟨0xA785, "LATIN ", "SMALL LETTER INSULAR S, CAPITAL LETTER INSULAR T, SMALL LETTER INSULAR T"⟩,
  ⟨0xA788, "MODIFIER LETTER ", "LOW CIRCUMFLEX ACCENT, COLON, SHORT EQUALS SIGN"⟩,
  ⟨0xA78B, "LATIN ", "CAPITAL LETTER SALTILLO, SMALL LETTER SALTILLO"⟩,
  ⟨0xA78D, "LATIN ", "CAPITAL LETTER TURNED H, SMALL LETTER L WITH RETROFLEX HOOK AND BELT"⟩,
  ⟨0xA78F, "LATIN ", "LETTER SINOLOGICAL DOT, CAPITAL LETTER N WITH DESCENDER"⟩,
  ⟨0xA791, "LATIN ", "SMALL LETTER N WITH DESCENDER, CAPITAL LETTER C WITH BAR"⟩,
  ⟨0xA793, "LATIN SMALL LETTER C WITH ", "BAR, PALATAL HOOK"⟩,
  ⟨0xA795, "LATIN ", "SMALL LETTER H WITH PALATAL HOOK, CAPITAL LETTER B WITH FLOURISH"⟩,
  ⟨0xA797, "LATIN ", "SMALL LETTER B WITH FLOURISH, CAPITAL LETTER F WITH STROKE"⟩,
  ⟨0xA799, "LATIN ", "SMALL LETTER F WITH STROKE, CAPITAL LETTER VOLAPUK AE"⟩,
  ⟨0xA79B, "LATIN ", "SMALL LETTER VOLAPUK AE, CAPITAL LETTER VOLAPUK OE"⟩,
  ⟨0xA79D, "LATIN ", "SMALL LETTER VOLAPUK OE, CAPITAL LETTER VOLAPUK UE, SMALL LETTER VOLAPUK UE"⟩,
  ⟨0xA7A0, "LATIN ", "CAPITAL LETTER G WITH OBLIQUE STROKE, SMALL LETTER G WITH OBLIQUE STROKE"⟩,
  ⟨0xA7A2, "LATIN ", "CAPITAL LETTER K WITH OBLIQUE STROKE, SMALL LETTER K WITH OBLIQUE STROKE"⟩,
  ⟨0xA7A4, "LATIN ", "CAPITAL LETTER N WITH OBLIQUE STROKE, SMALL LETTER N WITH OBLIQUE STROKE"⟩,
  ⟨0xA7A6, "LATIN ", "CAPITAL LETTER R WITH OBLIQUE STROKE, SMALL LETTER R WITH OBLIQUE STROKE"⟩,
  ⟨0xA7A8, "LATIN ", "CAPITAL LETTER S WITH OBLIQUE STROKE, SMALL LETTER S WITH OBLIQUE STROKE"⟩,
  ⟨0xA7AA, "LATIN CAPITAL LETTER ", "H WITH HOOK, REVERSED OPEN E, SCRIPT G, L WITH BELT"⟩,
  ⟨0xA7AE, "LATIN ", "CAPITAL LETTER SMALL CAPITAL I, LETTER SMALL CAPITAL Q"⟩,
  ⟨0xA7B0, "LATIN CAPITAL LETTER ", "TURNED K, TURNED T, J WITH CROSSED-TAIL, CHI, BETA"⟩,
  ⟨0xA7B5, "LATIN ", "SMALL LETTER BETA, CAPITAL LETTER OMEGA, SMALL LETTER OMEGA"⟩,
  ⟨0xA7B8, "LATIN ", "CAPITAL LETTER U WITH STROKE, SMALL LETTER U WITH STROKE"⟩,
  ⟨0xA7BA, "LATIN ", "CAPITAL LETTER GLOTTAL A, SMALL LETTER GLOTTAL A, CAPITAL LETTER GLOTTAL I"⟩,
  ⟨0xA7BD, "LATIN ", "SMALL LETTER GLOTTAL I, CAPITAL LETTER GLOTTAL U, SMALL LETTER GLOTTAL U"⟩,
  ⟨0xA7C0, "LATIN ", "CAPITAL LETTER OLD POLISH O, SMALL LETTER OLD POLISH O"⟩,
  ⟨0xA7C2, "LATIN ", "CAPITAL LETTER ANGLICANA W, SMALL LETTER ANGLICANA W"⟩,
  ⟨0xA7C4, "LATIN CAPITAL LETTER ", "C WITH PALATAL HOOK, S WITH HOOK"⟩,
  ⟨0xA7C6, "LATIN CAPITAL LETTER ", "Z WITH PALATAL HOOK, D WITH SHORT STROKE OVERLAY"⟩,
  ⟨0xA7C8, "", "LATIN SMALL LETTER D WITH SHORT STROKE OVERLAY"⟩,
  ⟨0xA7C9, "", "LATIN CAPITAL LETTER S WITH SHORT STROKE OVERLAY"⟩,
  ⟨0xA7CA, "", "LATIN SMALL LETTER S WITH SHORT STROKE OVERLAY"⟩,
  ⟨0xA7D0, "LATIN ", "CAPITAL LETTER CLOSED INSULAR G, SMALL LETTER CLOSED INSULAR G"⟩,
  ⟨0xA7D3, "", "LATIN SMALL LETTER DOUBLE THORN"⟩,
  ⟨0xA7D5, "", "LATIN SMALL LETTER DOUBLE WYNN"⟩,
  ⟨0xA7D6, "LATIN ", "CAPITAL LETTER MIDDLE SCOTS S, SMALL LETTER MIDDLE SCOTS S"⟩,
  ⟨0xA7D8, "LATIN ", "CAPITAL LETTER SIGMOID S, SMALL LETTER SIGMOID S"⟩,
  ⟨0xA7F2, "MODIFIER LETTER CAPITAL ", "C, F, Q"⟩,
  ⟨0xA7F5, "LATIN ", "CAPITAL LETTER REVERSED HALF H, SMALL LETTER REVERSED HALF H"⟩,
  ⟨0xA7F7, "", "LATIN EPIGRAPHIC LETTER SIDEWAYS I, MODIFIER LETTER CAPITAL H WITH STROKE"⟩,
  ⟨0xA7F9, "", "MODIFIER LETTER SMALL LIGATURE OE, LATIN LETTER SMALL CAPITAL TURNED M"⟩,
  ⟨0xA7FB, "LATIN EPIGRAPHIC LETTER ", "REVERSED F, REVERSED P, INVERTED M, I LONGA, ARCHAIC M"⟩,
  ⟨0xAB30, "LATIN SMALL LETTER ", "BARRED ALPHA, A REVERSED-SCHWA, BLACKLETTER E"⟩,
  ⟨0xAB33, "LATIN SMALL LETTER ", "BARRED E, E WITH FLOURISH, LENIS F, SCRIPT G WITH CROSSED-TAIL"⟩,
  ⟨0xAB37, "LATIN SMALL LETTER L WITH ", "INVERTED LAZY S, DOUBLE MIDDLE TILDE"⟩,
  ⟨0xAB39, "LATIN SMALL LETTER ", "L WITH MIDDLE RING, M WITH CROSSED-TAIL"⟩,
  ⟨0xAB3B, "LATIN SMALL LETTER ", "N WITH CROSSED-TAIL, ENG WITH CROSSED-TAIL, BLACKLETTER O"⟩,
  ⟨0xAB3E, "LATIN SMALL LETTER ", "BLACKLETTER O WITH STROKE, OPEN O WITH STROKE, INVERTED OE"⟩,
  ⟨0xAB41, "LATIN SMALL LETTER TURNED OE WITH ", "STROKE, HORIZONTAL STROKE"⟩,
  ⟨0xAB43, "LATIN SMALL LETTER ", "TURNED O OPEN-O, TURNED O OPEN-O WITH STROKE, STIRRUP R"⟩,
  ⟨0xAB46, "LATIN ", "LETTER SMALL CAPITAL R WITH RIGHT LEG, SMALL LETTER R WITHOUT HANDLE"⟩,
  ⟨0xAB48, "LATIN SMALL LETTER ", "DOUBLE R, R WITH CROSSED-TAIL, DOUBLE R WITH CROSSED-TAIL"⟩,
  ⟨0xAB4B, "LATIN SMALL LETTER ", "SCRIPT R, SCRIPT R WITH RING, BASELINE ESH"⟩,
  ⟨0xAB4E, "LATIN SMALL LETTER U ", "WITH SHORT RIGHT LEG, BAR WITH SHORT RIGHT LEG"⟩,
  ⟨0xAB50, "LATIN SMALL LETTER ", "UI, TURNED UI, U WITH LEFT HOOK, CHI, CHI WITH LOW RIGHT RING"⟩,
  ⟨0xAB55, "LATIN SMALL LETTER ", "CHI WITH LOW LEFT SERIF, X WITH LOW RIGHT RING"⟩,
  ⟨0xAB57, "LATIN SMALL LETTER X WITH LONG LEFT ", "LEG, LEG AND LOW RIGHT RING, LEG WITH SERIF"⟩,
  ⟨0xAB5A, "", "LATIN SMALL LETTER Y WITH SHORT RIGHT LEG, MODIFIER BREVE WITH INVERTED BREVE"⟩,
  ⟨0xAB5C, "MODIFIER LETTER SMALL ", "HENG, L WITH INVERTED LAZY S"⟩,
  ⟨0xAB5E, "MODIFIER LETTER SMALL ", "L WITH MIDDLE TILDE, U WITH LEFT HOOK"⟩,
  ⟨0xAB60, "LATIN SMALL LETTER ", "SAKHA YAT, IOTIFIED E, OPEN OE, UO"⟩,
  ⟨0xAB64, "", "LATIN SMALL LETTER INVERTED ALPHA, GREEK LETTER SMALL CAPITAL OMEGA"⟩,
  ⟨0xAB66, "", "LATIN SMALL LETTER DZ DIGRAPH WITH RETROFLEX HOOK"⟩,
  ⟨0xAB67, "LATIN SMALL LETTER ", "TS DIGRAPH WITH RETROFLEX HOOK, TURNED R WITH MIDDLE TILDE"⟩,
  ⟨0xAB69, "MODIFIER LETTER ", "SMALL TURNED W, LEFT TACK, RIGHT TACK"⟩,
  ⟨0x10780, "", "MODIFIER LETTER SMALL CAPITAL AA"⟩,
  ⟨0x10781, "MODIFIER LETTER SUPERSCRIPT ", "TRIANGULAR COLON, HALF TRIANGULAR COLON"⟩,
  ⟨0x10783, "MODIFIER LETTER SMALL ", "AE, CAPITAL B, B WITH HOOK"⟩,
  ⟨0x10787, "MODIFIER LETTER SMALL DZ ", "DIGRAPH, DIGRAPH WITH RETROFLEX HOOK"⟩,
  ⟨0x10789, "MODIFIER LETTER SMALL ", "DZ DIGRAPH WITH CURL, DEZH DIGRAPH"⟩,
  ⟨0x1078B, "MODIFIER LETTER SMALL ", "D WITH TAIL, D WITH HOOK, D WITH HOOK AND TAIL, REVERSED E"⟩,
  ⟨0x1078F, "MODIFIER LETTER SMALL ", "CLOSED REVERSED OPEN E, FENG DIGRAPH, RAMS HORN"⟩,
  ⟨0x10792, "MODIFIER LETTER SMALL ", "CAPITAL G, G WITH HOOK, CAPITAL G WITH HOOK, H WITH STROKE"⟩,
  ⟨0x10796, "MODIFIER LETTER SMALL ", "CAPITAL H, HENG WITH HOOK, DOTLESS J WITH STROKE AND HOOK"⟩,
  ⟨0x10799, "MODIFIER LETTER SMALL ", "LS DIGRAPH, LZ DIGRAPH, L WITH BELT"⟩,
  ⟨0x1079C, "MODIFIER LETTER SMALL ", "CAPITAL L WITH BELT, L WITH RETROFLEX HOOK AND BELT"⟩,
  ⟨0x1079E, "MODIFIER LETTER SMALL ", "LEZH, LEZH WITH RETROFLEX HOOK"⟩,
  ⟨0x107A0, "MODIFIER LETTER SMALL ", "TURNED Y, TURNED Y WITH BELT, O WITH STROKE"⟩,
  ⟨0x107A3, "MODIFIER LETTER SMALL ", "CAPITAL OE, CLOSED OMEGA, Q, TURNED R WITH LONG LEG"⟩,
  ⟨0x107A7, "MODIFIER LETTER SMALL ", "TURNED R WITH LONG LEG AND RETROFLEX HOOK, R WITH TAIL"⟩,
  ⟨0x107A9, "MODIFIER LETTER SMALL ", "R WITH FISHHOOK, CAPITAL R, TC DIGRAPH WITH CURL"⟩,
  ⟨0x107AC, "MODIFIER LETTER SMALL TS ", "DIGRAPH, DIGRAPH WITH RETROFLEX HOOK"⟩,
  ⟨0x107AE, "MODIFIER LETTER SMALL ", "TESH DIGRAPH, T WITH RETROFLEX HOOK, V WITH RIGHT HOOK"⟩,
  ⟨0x107B2, "", "MODIFIER LETTER SMALL CAPITAL Y"⟩,
  ⟨0x107B3, "MODIFIER LETTER ", "GLOTTAL STOP WITH STROKE, REVERSED GLOTTAL STOP WITH STROKE"⟩,
  ⟨0x107B5, "MODIFIER LETTER ", "BILABIAL CLICK, DENTAL CLICK, LATERAL CLICK, ALVEOLAR CLICK"⟩,
  ⟨0x107B9, "MODIFIER LETTER ", "RETROFLEX CLICK WITH RETROFLEX HOOK, SMALL S WITH CURL"⟩,
  ⟨0x1DF00, "", "LATIN SMALL LETTER FENG DIGRAPH WITH TRILL"⟩,
  ⟨0x1DF01, "LATIN ", "SMALL LETTER REVERSED SCRIPT G, LETTER SMALL CAPITAL TURNED G"⟩,
  ⟨0x1DF03, "LATIN ", "SMALL LETTER REVERSED K, LETTER SMALL CAPITAL L WITH BELT"⟩,
  ⟨0x1DF05, "LATIN SMALL LETTER ", "LEZH WITH RETROFLEX HOOK, TURNED Y WITH BELT"⟩,
  ⟨0x1DF07, "LATIN SMALL LETTER ", "REVERSED ENG, TURNED R WITH LONG LEG AND RETROFLEX HOOK"⟩,
  ⟨0x1DF09, "", "LATIN SMALL LETTER T WITH HOOK AND RETROFLEX HOOK"⟩,
  ⟨0x1DF0A, "", "LATIN LETTER RETROFLEX CLICK WITH RETROFLEX HOOK"⟩,
  ⟨0x1DF0B, "LATIN SMALL LETTER ESH WITH DOUBLE ", "BAR, BAR AND CURL"⟩,
  ⟨0x1DF0D, "LATIN ", "SMALL LETTER TURNED T WITH CURL, LETTER INVERTED GLOTTAL STOP WITH CURL"⟩,
  ⟨0x1DF0F, "LATIN LETTER ", "STRETCHED C WITH CURL, SMALL CAPITAL TURNED K"⟩,
  ⟨0x1DF11, "LATIN SMALL LETTER ", "L WITH FISHHOOK, DEZH DIGRAPH WITH PALATAL HOOK"⟩,
  ⟨0x1DF13, "LATIN SMALL LETTER ", "L WITH BELT AND PALATAL HOOK, ENG WITH PALATAL HOOK"⟩,
  ⟨0x1DF15, "LATIN SMALL LETTER ", "TURNED R WITH PALATAL HOOK, R WITH FISHHOOK AND PALATAL HOOK"⟩,
  ⟨0x1DF17, "", "LATIN SMALL LETTER TESH DIGRAPH WITH PALATAL HOOK"⟩,
  ⟨0x1DF18, "LATIN SMALL LETTER ", "EZH WITH PALATAL HOOK, DEZH DIGRAPH WITH RETROFLEX HOOK"⟩,
  ⟨0x1DF1A, "", "LATIN SMALL LETTER I WITH STROKE AND RETROFLEX HOOK"⟩,
  ⟨0x1DF1B, "LATIN SMALL LETTER ", "O WITH RETROFLEX HOOK, TESH DIGRAPH WITH RETROFLEX HOOK"⟩,
  ⟨0x1DF1D, "LATIN SMALL LETTER ", "C WITH RETROFLEX HOOK, S WITH CURL"⟩]

end BatchExec
