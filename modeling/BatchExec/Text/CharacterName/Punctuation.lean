import BatchExec.Text.CharacterName.Row

/-!
# Punctuation and symbols

The names of punctuation marks, arrows, geometric shapes, Braille patterns and other symbols.
-/

namespace BatchExec

/-- The names of punctuation marks, arrows, geometric shapes, Braille patterns and other symbols. -/
def punctuationNames : List NameRow := [
  ⟨0x2000, "", "EN QUAD, EM QUAD, EN SPACE, EM SPACE, THREE-PER-EM SPACE"⟩,
  ⟨0x2005, "", "FOUR-PER-EM SPACE, SIX-PER-EM SPACE, FIGURE SPACE, PUNCTUATION SPACE, THIN SPACE"⟩,
  ⟨0x200A, "", "HAIR SPACE, ZERO WIDTH SPACE, ZERO WIDTH NON-JOINER, ZERO WIDTH JOINER"⟩,
  ⟨0x200E, "", "LEFT-TO-RIGHT MARK, RIGHT-TO-LEFT MARK, HYPHEN, NON-BREAKING HYPHEN"⟩,
  ⟨0x2012, "", "FIGURE DASH, EN DASH, EM DASH, HORIZONTAL BAR, DOUBLE VERTICAL LINE"⟩,
  ⟨0x2017, "", "DOUBLE LOW LINE, LEFT SINGLE QUOTATION MARK, RIGHT SINGLE QUOTATION MARK"⟩,
  ⟨0x201A, "SINGLE ", "LOW-9 QUOTATION MARK, HIGH-REVERSED-9 QUOTATION MARK"⟩,
  ⟨0x201C, "", "LEFT DOUBLE QUOTATION MARK, RIGHT DOUBLE QUOTATION MARK"⟩,
  ⟨0x201E, "DOUBLE ", "LOW-9 QUOTATION MARK, HIGH-REVERSED-9 QUOTATION MARK"⟩,
  ⟨0x2020, "", "DAGGER, DOUBLE DAGGER, BULLET, TRIANGULAR BULLET, ONE DOT LEADER"⟩,
  ⟨0x2025, "", "TWO DOT LEADER, HORIZONTAL ELLIPSIS, HYPHENATION POINT, LINE SEPARATOR"⟩,
  ⟨0x2029, "", "PARAGRAPH SEPARATOR, LEFT-TO-RIGHT EMBEDDING, RIGHT-TO-LEFT EMBEDDING"⟩,
  ⟨0x202C, "", "POP DIRECTIONAL FORMATTING, LEFT-TO-RIGHT OVERRIDE, RIGHT-TO-LEFT OVERRIDE"⟩,
  ⟨0x202F, "", "NARROW NO-BREAK SPACE, PER MILLE SIGN, PER TEN THOUSAND SIGN, PRIME, DOUBLE PRIME"⟩,
  ⟨0x2034, "", "TRIPLE PRIME, REVERSED PRIME, REVERSED DOUBLE PRIME, REVERSED TRIPLE PRIME, CARET"⟩,
  ⟨0x2039, "SINGLE ", "LEFT-POINTING ANGLE QUOTATION MARK, RIGHT-POINTING ANGLE QUOTATION MARK"⟩,
  ⟨0x203B, "", "REFERENCE MARK, DOUBLE EXCLAMATION MARK"⟩,
  ⟨0x203D, "", "INTERROBANG, OVERLINE, UNDERTIE, CHARACTER TIE, CARET INSERTION POINT"⟩,
  ⟨0x2042, "", "ASTERISM, HYPHEN BULLET, FRACTION SLASH, LEFT SQUARE BRACKET WITH QUILL"⟩,
  ⟨0x2046, "", "RIGHT SQUARE BRACKET WITH QUILL, DOUBLE QUESTION MARK"⟩,
  ⟨0x2048, "", "QUESTION EXCLAMATION MARK, EXCLAMATION QUESTION MARK, TIRONIAN SIGN ET"⟩,
  ⟨0x204B, "", "REVERSED PILCROW SIGN, BLACK LEFTWARDS BULLET, BLACK RIGHTWARDS BULLET"⟩,
  ⟨0x204E, "", "LOW ASTERISK, REVERSED SEMICOLON, CLOSE UP, TWO ASTERISKS ALIGNED VERTICALLY"⟩,
  ⟨0x2052, "", "COMMERCIAL MINUS SIGN, SWUNG DASH, INVERTED UNDERTIE, FLOWER PUNCTUATION MARK"⟩,
  ⟨0x2056, "", "THREE DOT PUNCTUATION, QUADRUPLE PRIME, FOUR DOT PUNCTUATION"⟩,
  ⟨0x2059, "", "FIVE DOT PUNCTUATION, TWO DOT PUNCTUATION, FOUR DOT MARK, DOTTED CROSS"⟩,
  ⟨0x205D, "", "TRICOLON, VERTICAL FOUR DOTS, MEDIUM MATHEMATICAL SPACE, WORD JOINER"⟩,
  ⟨0x2061, "", "FUNCTION APPLICATION, INVISIBLE TIMES, INVISIBLE SEPARATOR, INVISIBLE PLUS"⟩,
  ⟨0x2066, "", "LEFT-TO-RIGHT ISOLATE, RIGHT-TO-LEFT ISOLATE, FIRST STRONG ISOLATE"⟩,
  ⟨0x2069, "", "POP DIRECTIONAL ISOLATE, INHIBIT SYMMETRIC SWAPPING, ACTIVATE SYMMETRIC SWAPPING"⟩,
  ⟨0x206C, "", "INHIBIT ARABIC FORM SHAPING, ACTIVATE ARABIC FORM SHAPING, NATIONAL DIGIT SHAPES"⟩,
  ⟨0x206F, "", "NOMINAL DIGIT SHAPES, SUPERSCRIPT ZERO, SUPERSCRIPT LATIN SMALL LETTER I"⟩,
  ⟨0x2074, "SUPERSCRIPT ", "FOUR, FIVE, SIX, SEVEN, EIGHT, NINE, PLUS SIGN, MINUS, EQUALS SIGN"⟩,
  ⟨0x207D, "SUPERSCRIPT ", "LEFT PARENTHESIS, RIGHT PARENTHESIS, LATIN SMALL LETTER N"⟩,
  ⟨0x2080, "SUBSCRIPT ", "ZERO, ONE, TWO, THREE, FOUR, FIVE, SIX, SEVEN, EIGHT, NINE"⟩,
  ⟨0x208A, "SUBSCRIPT ", "PLUS SIGN, MINUS, EQUALS SIGN, LEFT PARENTHESIS, RIGHT PARENTHESIS"⟩,
  ⟨0x2090, "LATIN SUBSCRIPT SMALL LETTER ", "A, E, O, X, SCHWA, H, K, L, M, N, P, S, T"⟩,
  ⟨0x20A0, "", "EURO-CURRENCY SIGN"⟩,
  ⟨0x20A1, "", "COLON SIGN, CRUZEIRO SIGN, FRENCH FRANC SIGN, LIRA SIGN, MILL SIGN"⟩,
  ⟨0x20A6, "", "NAIRA SIGN, PESETA SIGN, RUPEE SIGN, WON SIGN, NEW SHEQEL SIGN, DONG SIGN"⟩,
  ⟨0x20AC, "", "EURO SIGN, KIP SIGN, TUGRIK SIGN, DRACHMA SIGN, GERMAN PENNY SIGN, PESO SIGN"⟩,
  ⟨0x20B2, "", "GUARANI SIGN, AUSTRAL SIGN, HRYVNIA SIGN, CEDI SIGN, LIVRE TOURNOIS SIGN"⟩,
  ⟨0x20B7, "", "SPESMILO SIGN, TENGE SIGN, INDIAN RUPEE SIGN, TURKISH LIRA SIGN"⟩,
  ⟨0x20BB, "", "NORDIC MARK SIGN, MANAT SIGN, RUBLE SIGN, LARI SIGN, BITCOIN SIGN, SOM SIGN"⟩,
  ⟨0x20D0, "COMBINING ", "LEFT HARPOON ABOVE, RIGHT HARPOON ABOVE, LONG VERTICAL LINE OVERLAY"⟩,
  ⟨0x20D3, "COMBINING ", "SHORT VERTICAL LINE OVERLAY, ANTICLOCKWISE ARROW ABOVE"⟩,
  ⟨0x20D5, "COMBINING ", "CLOCKWISE ARROW ABOVE, LEFT ARROW ABOVE, RIGHT ARROW ABOVE"⟩,
  ⟨0x20D8, "COMBINING ", "RING OVERLAY, CLOCKWISE RING OVERLAY, ANTICLOCKWISE RING OVERLAY"⟩,
  ⟨0x20DB, "COMBINING ", "THREE DOTS ABOVE, FOUR DOTS ABOVE, ENCLOSING CIRCLE, ENCLOSING SQUARE"⟩,
  ⟨0x20DF, "COMBINING ", "ENCLOSING DIAMOND, ENCLOSING CIRCLE BACKSLASH, LEFT RIGHT ARROW ABOVE"⟩,
  ⟨0x20E2, "COMBINING ENCLOSING ", "SCREEN, KEYCAP, UPWARD POINTING TRIANGLE"⟩,
  ⟨0x20E5, "COMBINING ", "REVERSE SOLIDUS OVERLAY, DOUBLE VERTICAL STROKE OVERLAY, ANNUITY SYMBOL"⟩,
  ⟨0x20E8, "COMBINING ", "TRIPLE UNDERDOT, WIDE BRIDGE ABOVE, LEFTWARDS ARROW OVERLAY"⟩,
  ⟨0x20EB, "COMBINING ", "LONG DOUBLE SOLIDUS OVERLAY, RIGHTWARDS HARPOON WITH BARB DOWNWARDS"⟩,
  ⟨0x20ED, "", "COMBINING LEFTWARDS HARPOON WITH BARB DOWNWARDS"⟩,
  ⟨0x20EE, "COMBINING ", "LEFT ARROW BELOW, RIGHT ARROW BELOW, ASTERISK ABOVE"⟩,
  ⟨0x2100, "", "ACCOUNT OF, ADDRESSED TO THE SUBJECT, DOUBLE-STRUCK CAPITAL C"⟩,
  ⟨0x2103, "", "DEGREE CELSIUS, CENTRE LINE SYMBOL, CARE OF, CADA UNA, EULER CONSTANT, SCRUPLE"⟩,
  ⟨0x2109, "", "DEGREE FAHRENHEIT, SCRIPT SMALL G, SCRIPT CAPITAL H, BLACK-LETTER CAPITAL H"⟩,
  ⟨0x210D, "", "DOUBLE-STRUCK CAPITAL H, PLANCK CONSTANT, PLANCK CONSTANT OVER TWO PI"⟩,
  ⟨0x2110, "", "SCRIPT CAPITAL I, BLACK-LETTER CAPITAL I, SCRIPT CAPITAL L, SCRIPT SMALL L"⟩,
  ⟨0x2114, "", "L B BAR SYMBOL, DOUBLE-STRUCK CAPITAL N, NUMERO SIGN, SOUND RECORDING COPYRIGHT"⟩,
  ⟨0x2118, "", "SCRIPT CAPITAL P, DOUBLE-STRUCK CAPITAL P, DOUBLE-STRUCK CAPITAL Q"⟩,
  ⟨0x211B, "", "SCRIPT CAPITAL R, BLACK-LETTER CAPITAL R, DOUBLE-STRUCK CAPITAL R"⟩,
  ⟨0x211E, "", "PRESCRIPTION TAKE, RESPONSE, SERVICE MARK, TELEPHONE SIGN"⟩,
  ⟨0x2122, "", "TRADE MARK SIGN, VERSICLE, DOUBLE-STRUCK CAPITAL Z, OUNCE SIGN, OHM SIGN"⟩,
  ⟨0x2127, "", "INVERTED OHM SIGN, BLACK-LETTER CAPITAL Z, TURNED GREEK SMALL LETTER IOTA"⟩,
  ⟨0x212A, "", "KELVIN SIGN, ANGSTROM SIGN, SCRIPT CAPITAL B, BLACK-LETTER CAPITAL C"⟩,
  ⟨0x212E, "", "ESTIMATED SYMBOL, SCRIPT SMALL E, SCRIPT CAPITAL E, SCRIPT CAPITAL F"⟩,
  ⟨0x2132, "", "TURNED CAPITAL F, SCRIPT CAPITAL M, SCRIPT SMALL O, ALEF SYMBOL, BET SYMBOL"⟩,
  ⟨0x2137, "", "GIMEL SYMBOL, DALET SYMBOL, INFORMATION SOURCE, ROTATED CAPITAL Q, FACSIMILE SIGN"⟩,
  ⟨0x213C, "DOUBLE-STRUCK ", "SMALL PI, SMALL GAMMA, CAPITAL GAMMA, CAPITAL PI, N-ARY SUMMATION"⟩,
  ⟨0x2141, "TURNED SANS-SERIF CAPITAL ", "G, L"⟩,
  ⟨0x2143, "", "REVERSED SANS-SERIF CAPITAL L, TURNED SANS-SERIF CAPITAL Y"⟩,
  ⟨0x2145, "DOUBLE-STRUCK ITALIC ", "CAPITAL D, SMALL D, SMALL E, SMALL I"⟩,
  ⟨0x2149, "", "DOUBLE-STRUCK ITALIC SMALL J, PROPERTY LINE, TURNED AMPERSAND"⟩,
  ⟨0x214C, "", "PER SIGN, AKTIESELSKAB, TURNED SMALL F, SYMBOL FOR SAMARITAN SOURCE"⟩,
  ⟨0x2150, "VULGAR FRACTION ONE ", "SEVENTH, NINTH, TENTH, THIRD"⟩,
  ⟨0x2154, "VULGAR FRACTION ", "TWO THIRDS, ONE FIFTH, TWO FIFTHS, THREE FIFTHS, FOUR FIFTHS"⟩,
  ⟨0x2159, "VULGAR FRACTION ", "ONE SIXTH, FIVE SIXTHS, ONE EIGHTH, THREE EIGHTHS, FIVE EIGHTHS"⟩,
  ⟨0x215E, "", "VULGAR FRACTION SEVEN EIGHTHS, FRACTION NUMERATOR ONE"⟩,
  ⟨0x2160, "ROMAN NUMERAL ", "ONE, TWO, THREE, FOUR, FIVE"⟩,
  ⟨0x2165, "ROMAN NUMERAL ", "SIX, SEVEN, EIGHT, NINE, TEN, ELEVEN, TWELVE, FIFTY, ONE HUNDRED"⟩,
  ⟨0x216E, "", "ROMAN NUMERAL FIVE HUNDRED, ROMAN NUMERAL ONE THOUSAND, SMALL ROMAN NUMERAL ONE"⟩,
  ⟨0x2171, "SMALL ROMAN NUMERAL ", "TWO, THREE, FOUR, FIVE, SIX, SEVEN, EIGHT, NINE, TEN, ELEVEN"⟩,
  ⟨0x217B, "SMALL ROMAN NUMERAL ", "TWELVE, FIFTY, ONE HUNDRED, FIVE HUNDRED, ONE THOUSAND"⟩,
  ⟨0x2180, "ROMAN NUMERAL ", "ONE THOUSAND C D, FIVE THOUSAND, TEN THOUSAND, REVERSED ONE HUNDRED"⟩,
  ⟨0x2184, "", "LATIN SMALL LETTER REVERSED C, ROMAN NUMERAL SIX LATE FORM"⟩,
  ⟨0x2186, "ROMAN NUMERAL ", "FIFTY EARLY FORM, FIFTY THOUSAND, ONE HUNDRED THOUSAND"⟩,
  ⟨0x2189, "", "VULGAR FRACTION ZERO THIRDS, TURNED DIGIT TWO, TURNED DIGIT THREE"⟩,
  ⟨0x2190, "", "LEFTWARDS ARROW, UPWARDS ARROW, RIGHTWARDS ARROW"⟩,
  ⟨0x2193, "", "DOWNWARDS ARROW, LEFT RIGHT ARROW, UP DOWN ARROW, NORTH WEST ARROW"⟩,
  ⟨0x2197, "", "NORTH EAST ARROW, SOUTH EAST ARROW, SOUTH WEST ARROW, LEFTWARDS ARROW WITH STROKE"⟩,
  ⟨0x219B, "", "RIGHTWARDS ARROW WITH STROKE, LEFTWARDS WAVE ARROW, RIGHTWARDS WAVE ARROW"⟩,
  ⟨0x219E, "", "LEFTWARDS TWO HEADED ARROW, UPWARDS TWO HEADED ARROW, RIGHTWARDS TWO HEADED ARROW"⟩,
  ⟨0x21A1, "", "DOWNWARDS TWO HEADED ARROW, LEFTWARDS ARROW WITH TAIL, RIGHTWARDS ARROW WITH TAIL"⟩,
  ⟨0x21A4, "", "LEFTWARDS ARROW FROM BAR, UPWARDS ARROW FROM BAR, RIGHTWARDS ARROW FROM BAR"⟩,
  ⟨0x21A7, "", "DOWNWARDS ARROW FROM BAR, UP DOWN ARROW WITH BASE, LEFTWARDS ARROW WITH HOOK"⟩,
  ⟨0x21AA, "", "RIGHTWARDS ARROW WITH HOOK, LEFTWARDS ARROW WITH LOOP, RIGHTWARDS ARROW WITH LOOP"⟩,
  ⟨0x21AD, "", "LEFT RIGHT WAVE ARROW, LEFT RIGHT ARROW WITH STROKE, DOWNWARDS ZIGZAG ARROW"⟩,
  ⟨0x21B0, "UPWARDS ARROW WITH TIP ", "LEFTWARDS, RIGHTWARDS"⟩,
  ⟨0x21B2, "DOWNWARDS ARROW WITH TIP ", "LEFTWARDS, RIGHTWARDS"⟩,
  ⟨0x21B4, "", "RIGHTWARDS ARROW WITH CORNER DOWNWARDS, DOWNWARDS ARROW WITH CORNER LEFTWARDS"⟩,
  ⟨0x21B6, "", "ANTICLOCKWISE TOP SEMICIRCLE ARROW, CLOCKWISE TOP SEMICIRCLE ARROW"⟩,
  ⟨0x21B8, "", "NORTH WEST ARROW TO LONG BAR, LEFTWARDS ARROW TO BAR OVER RIGHTWARDS ARROW TO BAR"⟩,
  ⟨0x21BA, "", "ANTICLOCKWISE OPEN CIRCLE ARROW"⟩,
  ⟨0x21BB, "", "CLOCKWISE OPEN CIRCLE ARROW, LEFTWARDS HARPOON WITH BARB UPWARDS"⟩,
  ⟨0x21BD, "", "LEFTWARDS HARPOON WITH BARB DOWNWARDS, UPWARDS HARPOON WITH BARB RIGHTWARDS"⟩,
  ⟨0x21BF, "", "UPWARDS HARPOON WITH BARB LEFTWARDS, RIGHTWARDS HARPOON WITH BARB UPWARDS"⟩,
  ⟨0x21C1, "", "RIGHTWARDS HARPOON WITH BARB DOWNWARDS, DOWNWARDS HARPOON WITH BARB RIGHTWARDS"⟩,
  ⟨0x21C3, "", "DOWNWARDS HARPOON WITH BARB LEFTWARDS, RIGHTWARDS ARROW OVER LEFTWARDS ARROW"⟩,
  ⟨0x21C5, "", "UPWARDS ARROW LEFTWARDS OF DOWNWARDS ARROW, LEFTWARDS ARROW OVER RIGHTWARDS ARROW"⟩,
  ⟨0x21C7, "", "LEFTWARDS PAIRED ARROWS, UPWARDS PAIRED ARROWS, RIGHTWARDS PAIRED ARROWS"⟩,
  ⟨0x21CA, "", "DOWNWARDS PAIRED ARROWS, LEFTWARDS HARPOON OVER RIGHTWARDS HARPOON"⟩,
  ⟨0x21CC, "", "RIGHTWARDS HARPOON OVER LEFTWARDS HARPOON"⟩,
  ⟨0x21CD, "", "LEFTWARDS DOUBLE ARROW WITH STROKE, LEFT RIGHT DOUBLE ARROW WITH STROKE"⟩,
  ⟨0x21CF, "", "RIGHTWARDS DOUBLE ARROW WITH STROKE, LEFTWARDS DOUBLE ARROW"⟩,
  ⟨0x21D1, "", "UPWARDS DOUBLE ARROW, RIGHTWARDS DOUBLE ARROW, DOWNWARDS DOUBLE ARROW"⟩,
  ⟨0x21D4, "", "LEFT RIGHT DOUBLE ARROW, UP DOWN DOUBLE ARROW, NORTH WEST DOUBLE ARROW"⟩,
  ⟨0x21D7, "", "NORTH EAST DOUBLE ARROW, SOUTH EAST DOUBLE ARROW, SOUTH WEST DOUBLE ARROW"⟩,
  ⟨0x21DA, "", "LEFTWARDS TRIPLE ARROW, RIGHTWARDS TRIPLE ARROW, LEFTWARDS SQUIGGLE ARROW"⟩,
  ⟨0x21DD, "", "RIGHTWARDS SQUIGGLE ARROW, UPWARDS ARROW WITH DOUBLE STROKE"⟩,
  ⟨0x21DF, "", "DOWNWARDS ARROW WITH DOUBLE STROKE, LEFTWARDS DASHED ARROW"⟩,
  ⟨0x21E1, "", "UPWARDS DASHED ARROW, RIGHTWARDS DASHED ARROW, DOWNWARDS DASHED ARROW"⟩,
  ⟨0x21E4, "", "LEFTWARDS ARROW TO BAR, RIGHTWARDS ARROW TO BAR, LEFTWARDS WHITE ARROW"⟩,
  ⟨0x21E7, "", "UPWARDS WHITE ARROW, RIGHTWARDS WHITE ARROW, DOWNWARDS WHITE ARROW"⟩,
  ⟨0x21EA, "UPWARDS WHITE ARROW ", "FROM BAR, ON PEDESTAL, ON PEDESTAL WITH HORIZONTAL BAR"⟩,
  ⟨0x21ED, "UPWARDS WHITE ", "ARROW ON PEDESTAL WITH VERTICAL BAR, DOUBLE ARROW"⟩,
  ⟨0x21EF, "", "UPWARDS WHITE DOUBLE ARROW ON PEDESTAL, RIGHTWARDS WHITE ARROW FROM WALL"⟩,
  ⟨0x21F1, "", "NORTH WEST ARROW TO CORNER, SOUTH EAST ARROW TO CORNER, UP DOWN WHITE ARROW"⟩,
  ⟨0x21F4, "", "RIGHT ARROW WITH SMALL CIRCLE, DOWNWARDS ARROW LEFTWARDS OF UPWARDS ARROW"⟩,
  ⟨0x21F6, "", "THREE RIGHTWARDS ARROWS, LEFTWARDS ARROW WITH VERTICAL STROKE"⟩,
  ⟨0x21F8, "", "RIGHTWARDS ARROW WITH VERTICAL STROKE, LEFT RIGHT ARROW WITH VERTICAL STROKE"⟩,
  ⟨0x21FA, "", "LEFTWARDS ARROW WITH DOUBLE VERTICAL STROKE"⟩,
  ⟨0x21FB, "", "RIGHTWARDS ARROW WITH DOUBLE VERTICAL STROKE"⟩,
  ⟨0x21FC, "", "LEFT RIGHT ARROW WITH DOUBLE VERTICAL STROKE, LEFTWARDS OPEN-HEADED ARROW"⟩,
  ⟨0x21FE, "", "RIGHTWARDS OPEN-HEADED ARROW, LEFT RIGHT OPEN-HEADED ARROW"⟩,
  ⟨0x2400, "SYMBOL FOR ", "NULL, START OF HEADING"⟩,
  ⟨0x2402, "SYMBOL FOR ", "START OF TEXT, END OF TEXT, END OF TRANSMISSION, ENQUIRY, ACKNOWLEDGE"⟩,
  ⟨0x2407, "SYMBOL FOR ", "BELL, BACKSPACE, HORIZONTAL TABULATION, LINE FEED, VERTICAL TABULATION"⟩,
  ⟨0x240C, "SYMBOL FOR ", "FORM FEED, CARRIAGE RETURN, SHIFT OUT, SHIFT IN, DATA LINK ESCAPE"⟩,
  ⟨0x2411, "SYMBOL FOR DEVICE CONTROL ", "ONE, TWO, THREE"⟩,
  ⟨0x2414, "SYMBOL FOR ", "DEVICE CONTROL FOUR, NEGATIVE ACKNOWLEDGE, SYNCHRONOUS IDLE"⟩,
  ⟨0x2417, "SYMBOL FOR ", "END OF TRANSMISSION BLOCK, CANCEL, END OF MEDIUM, SUBSTITUTE, ESCAPE"⟩,
  ⟨0x241C, "SYMBOL FOR ", "FILE SEPARATOR, GROUP SEPARATOR, RECORD SEPARATOR, UNIT SEPARATOR"⟩,
  ⟨0x2420, "", "SYMBOL FOR SPACE, SYMBOL FOR DELETE, BLANK SYMBOL, OPEN BOX"⟩,
  ⟨0x2424, "SYMBOL FOR ", "NEWLINE, DELETE FORM TWO, SUBSTITUTE FORM TWO"⟩,
  ⟨0x2440, "", "OCR HOOK"⟩,
  ⟨0x2441, "OCR ", "CHAIR, FORK, INVERTED FORK, BELT BUCKLE, BOW TIE, BRANCH BANK IDENTIFICATION"⟩,
  ⟨0x2447, "OCR ", "AMOUNT OF CHECK, DASH, CUSTOMER ACCOUNT NUMBER, DOUBLE BACKSLASH"⟩,
  ⟨0x2500, "BOX DRAWINGS ", "LIGHT HORIZONTAL, HEAVY HORIZONTAL"⟩,
  ⟨0x2502, "BOX DRAWINGS ", "LIGHT VERTICAL, HEAVY VERTICAL, LIGHT TRIPLE DASH HORIZONTAL"⟩,
  ⟨0x2505, "BOX DRAWINGS ", "HEAVY TRIPLE DASH HORIZONTAL, LIGHT TRIPLE DASH VERTICAL"⟩,
  ⟨0x2507, "BOX DRAWINGS ", "HEAVY TRIPLE DASH VERTICAL, LIGHT QUADRUPLE DASH HORIZONTAL"⟩,
  ⟨0x2509, "BOX DRAWINGS ", "HEAVY QUADRUPLE DASH HORIZONTAL, LIGHT QUADRUPLE DASH VERTICAL"⟩,
  ⟨0x250B, "BOX DRAWINGS ", "HEAVY QUADRUPLE DASH VERTICAL, LIGHT DOWN AND RIGHT"⟩,
  ⟨0x250D, "BOX DRAWINGS DOWN ", "LIGHT AND RIGHT HEAVY, HEAVY AND RIGHT LIGHT"⟩,
  ⟨0x250F, "BOX DRAWINGS ", "HEAVY DOWN AND RIGHT, LIGHT DOWN AND LEFT"⟩,
  ⟨0x2511, "BOX DRAWINGS DOWN ", "LIGHT AND LEFT HEAVY, HEAVY AND LEFT LIGHT"⟩,
  ⟨0x2513, "BOX DRAWINGS ", "HEAVY DOWN AND LEFT, LIGHT UP AND RIGHT, UP LIGHT AND RIGHT HEAVY"⟩,
  ⟨0x2516, "BOX DRAWINGS ", "UP HEAVY AND RIGHT LIGHT, HEAVY UP AND RIGHT, LIGHT UP AND LEFT"⟩,
  ⟨0x2519, "BOX DRAWINGS ", "UP LIGHT AND LEFT HEAVY, UP HEAVY AND LEFT LIGHT, HEAVY UP AND LEFT"⟩,
  ⟨0x251C, "BOX DRAWINGS ", "LIGHT VERTICAL AND RIGHT, VERTICAL LIGHT AND RIGHT HEAVY"⟩,
  ⟨0x251E, "BOX DRAWINGS ", "UP HEAVY AND RIGHT DOWN LIGHT, DOWN HEAVY AND RIGHT UP LIGHT"⟩,
  ⟨0x2520, "BOX DRAWINGS ", "VERTICAL HEAVY AND RIGHT LIGHT, DOWN LIGHT AND RIGHT UP HEAVY"⟩,
  ⟨0x2522, "BOX DRAWINGS ", "UP LIGHT AND RIGHT DOWN HEAVY, HEAVY VERTICAL AND RIGHT"⟩,
  ⟨0x2524, "BOX DRAWINGS ", "LIGHT VERTICAL AND LEFT, VERTICAL LIGHT AND LEFT HEAVY"⟩,
  ⟨0x2526, "BOX DRAWINGS ", "UP HEAVY AND LEFT DOWN LIGHT, DOWN HEAVY AND LEFT UP LIGHT"⟩,
  ⟨0x2528, "BOX DRAWINGS ", "VERTICAL HEAVY AND LEFT LIGHT, DOWN LIGHT AND LEFT UP HEAVY"⟩,
  ⟨0x252A, "BOX DRAWINGS ", "UP LIGHT AND LEFT DOWN HEAVY, HEAVY VERTICAL AND LEFT"⟩,
  ⟨0x252C, "BOX DRAWINGS ", "LIGHT DOWN AND HORIZONTAL, LEFT HEAVY AND RIGHT DOWN LIGHT"⟩,
  ⟨0x252E, "BOX DRAWINGS ", "RIGHT HEAVY AND LEFT DOWN LIGHT, DOWN LIGHT AND HORIZONTAL HEAVY"⟩,
  ⟨0x2530, "BOX DRAWINGS ", "DOWN HEAVY AND HORIZONTAL LIGHT, RIGHT LIGHT AND LEFT DOWN HEAVY"⟩,
  ⟨0x2532, "BOX DRAWINGS ", "LEFT LIGHT AND RIGHT DOWN HEAVY, HEAVY DOWN AND HORIZONTAL"⟩,
  ⟨0x2534, "BOX DRAWINGS ", "LIGHT UP AND HORIZONTAL, LEFT HEAVY AND RIGHT UP LIGHT"⟩,
  ⟨0x2536, "BOX DRAWINGS ", "RIGHT HEAVY AND LEFT UP LIGHT, UP LIGHT AND HORIZONTAL HEAVY"⟩,
  ⟨0x2538, "BOX DRAWINGS ", "UP HEAVY AND HORIZONTAL LIGHT, RIGHT LIGHT AND LEFT UP HEAVY"⟩,
  ⟨0x253A, "BOX DRAWINGS ", "LEFT LIGHT AND RIGHT UP HEAVY, HEAVY UP AND HORIZONTAL"⟩,
  ⟨0x253C, "BOX DRAWINGS ", "LIGHT VERTICAL AND HORIZONTAL, LEFT HEAVY AND RIGHT VERTICAL LIGHT"⟩,
  ⟨0x253E, "", "BOX DRAWINGS RIGHT HEAVY AND LEFT VERTICAL LIGHT"⟩,
  ⟨0x253F, "", "BOX DRAWINGS VERTICAL LIGHT AND HORIZONTAL HEAVY"⟩,
  ⟨0x2540, "", "BOX DRAWINGS UP HEAVY AND DOWN HORIZONTAL LIGHT"⟩,
  ⟨0x2541, "", "BOX DRAWINGS DOWN HEAVY AND UP HORIZONTAL LIGHT"⟩,
  ⟨0x2542, "", "BOX DRAWINGS VERTICAL HEAVY AND HORIZONTAL LIGHT"⟩,
  ⟨0x2543, "", "BOX DRAWINGS LEFT UP HEAVY AND RIGHT DOWN LIGHT"⟩,
  ⟨0x2544, "", "BOX DRAWINGS RIGHT UP HEAVY AND LEFT DOWN LIGHT"⟩,
  ⟨0x2545, "", "BOX DRAWINGS LEFT DOWN HEAVY AND RIGHT UP LIGHT"⟩,
  ⟨0x2546, "", "BOX DRAWINGS RIGHT DOWN HEAVY AND LEFT UP LIGHT"⟩,
  ⟨0x2547, "", "BOX DRAWINGS DOWN LIGHT AND UP HORIZONTAL HEAVY"⟩,
  ⟨0x2548, "", "BOX DRAWINGS UP LIGHT AND DOWN HORIZONTAL HEAVY"⟩,
  ⟨0x2549, "", "BOX DRAWINGS RIGHT LIGHT AND LEFT VERTICAL HEAVY"⟩,
  ⟨0x254A, "", "BOX DRAWINGS LEFT LIGHT AND RIGHT VERTICAL HEAVY"⟩,
  ⟨0x254B, "BOX DRAWINGS ", "HEAVY VERTICAL AND HORIZONTAL, LIGHT DOUBLE DASH HORIZONTAL"⟩,
  ⟨0x254D, "BOX DRAWINGS ", "HEAVY DOUBLE DASH HORIZONTAL, LIGHT DOUBLE DASH VERTICAL"⟩,
  ⟨0x254F, "BOX DRAWINGS ", "HEAVY DOUBLE DASH VERTICAL, DOUBLE HORIZONTAL, DOUBLE VERTICAL"⟩,
  ⟨0x2552, "BOX DRAWINGS DOWN ", "SINGLE AND RIGHT DOUBLE, DOUBLE AND RIGHT SINGLE"⟩,
  ⟨0x2554, "BOX DRAWINGS ", "DOUBLE DOWN AND RIGHT, DOWN SINGLE AND LEFT DOUBLE"⟩,
  ⟨0x2556, "BOX DRAWINGS ", "DOWN DOUBLE AND LEFT SINGLE, DOUBLE DOWN AND LEFT"⟩,
  ⟨0x2558, "BOX DRAWINGS UP ", "SINGLE AND RIGHT DOUBLE, DOUBLE AND RIGHT SINGLE"⟩,
  ⟨0x255A, "BOX DRAWINGS ", "DOUBLE UP AND RIGHT, UP SINGLE AND LEFT DOUBLE"⟩,
  ⟨0x255C, "BOX DRAWINGS ", "UP DOUBLE AND LEFT SINGLE, DOUBLE UP AND LEFT"⟩,
  ⟨0x255E, "BOX DRAWINGS VERTICAL ", "SINGLE AND RIGHT DOUBLE, DOUBLE AND RIGHT SINGLE"⟩,
  ⟨0x2560, "BOX DRAWINGS ", "DOUBLE VERTICAL AND RIGHT, VERTICAL SINGLE AND LEFT DOUBLE"⟩,
  ⟨0x2562, "BOX DRAWINGS ", "VERTICAL DOUBLE AND LEFT SINGLE, DOUBLE VERTICAL AND LEFT"⟩,
  ⟨0x2564, "BOX DRAWINGS DOWN ", "SINGLE AND HORIZONTAL DOUBLE, DOUBLE AND HORIZONTAL SINGLE"⟩,
  ⟨0x2566, "BOX DRAWINGS ", "DOUBLE DOWN AND HORIZONTAL, UP SINGLE AND HORIZONTAL DOUBLE"⟩,
  ⟨0x2568, "BOX DRAWINGS ", "UP DOUBLE AND HORIZONTAL SINGLE, DOUBLE UP AND HORIZONTAL"⟩,
  ⟨0x256A, "BOX DRAWINGS VERTICAL ", "SINGLE AND HORIZONTAL DOUBLE, DOUBLE AND HORIZONTAL SINGLE"⟩,
  ⟨0x256C, "", "BOX DRAWINGS DOUBLE VERTICAL AND HORIZONTAL"⟩,
  ⟨0x256D, "BOX DRAWINGS LIGHT ARC ", "DOWN AND RIGHT, DOWN AND LEFT, UP AND LEFT"⟩,
  ⟨0x2570, "BOX DRAWINGS LIGHT ", "ARC UP AND RIGHT, DIAGONAL UPPER RIGHT TO LOWER LEFT"⟩,
  ⟨0x2572, "BOX DRAWINGS LIGHT DIAGONAL ", "UPPER LEFT TO LOWER RIGHT, CROSS"⟩,
  ⟨0x2574, "BOX DRAWINGS ", "LIGHT LEFT, LIGHT UP, LIGHT RIGHT, LIGHT DOWN, HEAVY LEFT"⟩,
  ⟨0x2579, "BOX DRAWINGS ", "HEAVY UP, HEAVY RIGHT, HEAVY DOWN, LIGHT LEFT AND HEAVY RIGHT"⟩,
  ⟨0x257D, "BOX DRAWINGS ", "LIGHT UP AND HEAVY DOWN, HEAVY LEFT AND LIGHT RIGHT"⟩,
  ⟨0x257F, "", "BOX DRAWINGS HEAVY UP AND LIGHT DOWN, UPPER HALF BLOCK"⟩,
  ⟨0x2581, "LOWER ", "ONE EIGHTH BLOCK, ONE QUARTER BLOCK, THREE EIGHTHS BLOCK"⟩,
  ⟨0x2584, "LOWER ", "HALF BLOCK, FIVE EIGHTHS BLOCK, THREE QUARTERS BLOCK, SEVEN EIGHTHS BLOCK"⟩,
  ⟨0x2588, "", "FULL BLOCK, LEFT SEVEN EIGHTHS BLOCK, LEFT THREE QUARTERS BLOCK"⟩,
  ⟨0x258B, "LEFT ", "FIVE EIGHTHS BLOCK, HALF BLOCK, THREE EIGHTHS BLOCK, ONE QUARTER BLOCK"⟩,
  ⟨0x258F, "", "LEFT ONE EIGHTH BLOCK, RIGHT HALF BLOCK, LIGHT SHADE, MEDIUM SHADE"⟩,
  ⟨0x2593, "", "DARK SHADE, UPPER ONE EIGHTH BLOCK, RIGHT ONE EIGHTH BLOCK, QUADRANT LOWER LEFT"⟩,
  ⟨0x2597, "QUADRANT ", "LOWER RIGHT, UPPER LEFT, UPPER LEFT AND LOWER LEFT AND LOWER RIGHT"⟩,
  ⟨0x259A, "QUADRANT UPPER LEFT AND ", "LOWER RIGHT, UPPER RIGHT AND LOWER LEFT"⟩,
  ⟨0x259C, "QUADRANT UPPER ", "LEFT AND UPPER RIGHT AND LOWER RIGHT, RIGHT, RIGHT AND LOWER LEFT"⟩,
  ⟨0x259F, "", "QUADRANT UPPER RIGHT AND LOWER LEFT AND LOWER RIGHT, BLACK SQUARE"⟩,
  ⟨0x25A1, "WHITE ", "SQUARE, SQUARE WITH ROUNDED CORNERS, SQUARE CONTAINING BLACK SMALL SQUARE"⟩,
  ⟨0x25A4, "SQUARE WITH ", "HORIZONTAL FILL, VERTICAL FILL"⟩,
  ⟨0x25A6, "SQUARE WITH ", "ORTHOGONAL CROSSHATCH FILL, UPPER LEFT TO LOWER RIGHT FILL"⟩,
  ⟨0x25A8, "SQUARE WITH ", "UPPER RIGHT TO LOWER LEFT FILL, DIAGONAL CROSSHATCH FILL"⟩,
  ⟨0x25AA, "", "BLACK SMALL SQUARE, WHITE SMALL SQUARE, BLACK RECTANGLE, WHITE RECTANGLE"⟩,
  ⟨0x25AE, "", "BLACK VERTICAL RECTANGLE, WHITE VERTICAL RECTANGLE, BLACK PARALLELOGRAM"⟩,
  ⟨0x25B1, "", "WHITE PARALLELOGRAM, BLACK UP-POINTING TRIANGLE, WHITE UP-POINTING TRIANGLE"⟩,
  ⟨0x25B4, "", "BLACK UP-POINTING SMALL TRIANGLE, WHITE UP-POINTING SMALL TRIANGLE"⟩,
  ⟨0x25B6, "", "BLACK RIGHT-POINTING TRIANGLE, WHITE RIGHT-POINTING TRIANGLE"⟩,
  ⟨0x25B8, "", "BLACK RIGHT-POINTING SMALL TRIANGLE, WHITE RIGHT-POINTING SMALL TRIANGLE"⟩,
  ⟨0x25BA, "", "BLACK RIGHT-POINTING POINTER, WHITE RIGHT-POINTING POINTER"⟩,
  ⟨0x25BC, "", "BLACK DOWN-POINTING TRIANGLE, WHITE DOWN-POINTING TRIANGLE"⟩,
  ⟨0x25BE, "", "BLACK DOWN-POINTING SMALL TRIANGLE, WHITE DOWN-POINTING SMALL TRIANGLE"⟩,
  ⟨0x25C0, "", "BLACK LEFT-POINTING TRIANGLE, WHITE LEFT-POINTING TRIANGLE"⟩,
  ⟨0x25C2, "", "BLACK LEFT-POINTING SMALL TRIANGLE, WHITE LEFT-POINTING SMALL TRIANGLE"⟩,
  ⟨0x25C4, "", "BLACK LEFT-POINTING POINTER, WHITE LEFT-POINTING POINTER"⟩,
  ⟨0x25C6, "", "BLACK DIAMOND, WHITE DIAMOND, WHITE DIAMOND CONTAINING BLACK SMALL DIAMOND"⟩,
  ⟨0x25C9, "", "FISHEYE, LOZENGE, WHITE CIRCLE, DOTTED CIRCLE, CIRCLE WITH VERTICAL FILL"⟩,
  ⟨0x25CE, "", "BULLSEYE, BLACK CIRCLE, CIRCLE WITH LEFT HALF BLACK, CIRCLE WITH RIGHT HALF BLACK"⟩,
  ⟨0x25D2, "CIRCLE WITH ", "LOWER HALF BLACK, UPPER HALF BLACK, UPPER RIGHT QUADRANT BLACK"⟩,
  ⟨0x25D5, "", "CIRCLE WITH ALL BUT UPPER LEFT QUADRANT BLACK, LEFT HALF BLACK CIRCLE"⟩,
  ⟨0x25D7, "", "RIGHT HALF BLACK CIRCLE, INVERSE BULLET, INVERSE WHITE CIRCLE"⟩,
  ⟨0x25DA, "", "UPPER HALF INVERSE WHITE CIRCLE, LOWER HALF INVERSE WHITE CIRCLE"⟩,
  ⟨0x25DC, "UPPER ", "LEFT QUADRANT CIRCULAR ARC, RIGHT QUADRANT CIRCULAR ARC"⟩,
  ⟨0x25DE, "LOWER ", "RIGHT QUADRANT CIRCULAR ARC, LEFT QUADRANT CIRCULAR ARC"⟩,
  ⟨0x25E0, "", "UPPER HALF CIRCLE, LOWER HALF CIRCLE, BLACK LOWER RIGHT TRIANGLE"⟩,
  ⟨0x25E3, "BLACK ", "LOWER LEFT TRIANGLE, UPPER LEFT TRIANGLE, UPPER RIGHT TRIANGLE"⟩,
  ⟨0x25E6, "", "WHITE BULLET, SQUARE WITH LEFT HALF BLACK, SQUARE WITH RIGHT HALF BLACK"⟩,
  ⟨0x25E9, "SQUARE WITH ", "UPPER LEFT DIAGONAL HALF BLACK, LOWER RIGHT DIAGONAL HALF BLACK"⟩,
  ⟨0x25EB, "", "WHITE SQUARE WITH VERTICAL BISECTING LINE"⟩,
  ⟨0x25EC, "", "WHITE UP-POINTING TRIANGLE WITH DOT, UP-POINTING TRIANGLE WITH LEFT HALF BLACK"⟩,
  ⟨0x25EE, "", "UP-POINTING TRIANGLE WITH RIGHT HALF BLACK, LARGE CIRCLE"⟩,
  ⟨0x25F0, "WHITE SQUARE WITH ", "UPPER LEFT QUADRANT, LOWER LEFT QUADRANT, LOWER RIGHT QUADRANT"⟩,
  ⟨0x25F3, "WHITE ", "SQUARE WITH UPPER RIGHT QUADRANT, CIRCLE WITH UPPER LEFT QUADRANT"⟩,
  ⟨0x25F5, "WHITE CIRCLE WITH ", "LOWER LEFT QUADRANT, LOWER RIGHT QUADRANT, UPPER RIGHT QUADRANT"⟩,
  ⟨0x25F8, "", "UPPER LEFT TRIANGLE, UPPER RIGHT TRIANGLE, LOWER LEFT TRIANGLE"⟩,
  ⟨0x25FB, "", "WHITE MEDIUM SQUARE, BLACK MEDIUM SQUARE, WHITE MEDIUM SMALL SQUARE"⟩,
  ⟨0x25FE, "", "BLACK MEDIUM SMALL SQUARE, LOWER RIGHT TRIANGLE, BLACK SUN WITH RAYS"⟩,
  ⟨0x2601, "", "CLOUD, UMBRELLA, SNOWMAN, COMET, BLACK STAR, WHITE STAR, LIGHTNING, THUNDERSTORM"⟩,
  ⟨0x2609, "", "SUN, ASCENDING NODE, DESCENDING NODE, CONJUNCTION, OPPOSITION, BLACK TELEPHONE"⟩,
  ⟨0x260F, "", "WHITE TELEPHONE, BALLOT BOX, BALLOT BOX WITH CHECK, BALLOT BOX WITH X, SALTIRE"⟩,
  ⟨0x2614, "", "UMBRELLA WITH RAIN DROPS, HOT BEVERAGE, WHITE SHOGI PIECE, BLACK SHOGI PIECE"⟩,
  ⟨0x2618, "", "SHAMROCK, REVERSED ROTATED FLORAL HEART BULLET, BLACK LEFT POINTING INDEX"⟩,
  ⟨0x261B, "", "BLACK RIGHT POINTING INDEX, WHITE LEFT POINTING INDEX, WHITE UP POINTING INDEX"⟩,
  ⟨0x261E, "", "WHITE RIGHT POINTING INDEX, WHITE DOWN POINTING INDEX, SKULL AND CROSSBONES"⟩,
  ⟨0x2621, "", "CAUTION SIGN, RADIOACTIVE SIGN, BIOHAZARD SIGN, CADUCEUS, ANKH"⟩,
  ⟨0x2626, "", "ORTHODOX CROSS, CHI RHO, CROSS OF LORRAINE, CROSS OF JERUSALEM, STAR AND CRESCENT"⟩,
  ⟨0x262B, "", "FARSI SYMBOL, ADI SHAKTI, HAMMER AND SICKLE, PEACE SYMBOL, YIN YANG"⟩,
  ⟨0x2630, "TRIGRAM FOR ", "HEAVEN, LAKE, FIRE, THUNDER, WIND, WATER, MOUNTAIN, EARTH"⟩,
  ⟨0x2638, "", "WHEEL OF DHARMA, WHITE FROWNING FACE, WHITE SMILING FACE, BLACK SMILING FACE"⟩,
  ⟨0x263C, "", "WHITE SUN WITH RAYS, FIRST QUARTER MOON, LAST QUARTER MOON, MERCURY, FEMALE SIGN"⟩,
  ⟨0x2641, "", "EARTH, MALE SIGN, JUPITER, SATURN, URANUS, NEPTUNE, PLUTO, ARIES, TAURUS, GEMINI"⟩,
  ⟨0x264B, "", "CANCER, LEO, VIRGO, LIBRA, SCORPIUS, SAGITTARIUS, CAPRICORN, AQUARIUS, PISCES"⟩,
  ⟨0x2654, "WHITE CHESS ", "KING, QUEEN, ROOK, BISHOP, KNIGHT, PAWN"⟩,
  ⟨0x265A, "BLACK CHESS ", "KING, QUEEN, ROOK, BISHOP, KNIGHT"⟩,
  ⟨0x265F, "", "BLACK CHESS PAWN, BLACK SPADE SUIT, WHITE HEART SUIT, WHITE DIAMOND SUIT"⟩,
  ⟨0x2663, "", "BLACK CLUB SUIT, WHITE SPADE SUIT, BLACK HEART SUIT, BLACK DIAMOND SUIT"⟩,
  ⟨0x2667, "", "WHITE CLUB SUIT, HOT SPRINGS, QUARTER NOTE, EIGHTH NOTE, BEAMED EIGHTH NOTES"⟩,
  ⟨0x266C, "", "BEAMED SIXTEENTH NOTES, MUSIC FLAT SIGN, MUSIC NATURAL SIGN, MUSIC SHARP SIGN"⟩,
  ⟨0x2670, "", "WEST SYRIAC CROSS, EAST SYRIAC CROSS, UNIVERSAL RECYCLING SYMBOL"⟩,
  ⟨0x2673, "RECYCLING SYMBOL FOR TYPE-", "1 PLASTICS, 2 PLASTICS, 3 PLASTICS"⟩,
  ⟨0x2676, "RECYCLING SYMBOL FOR TYPE-", "4 PLASTICS, 5 PLASTICS, 6 PLASTICS, 7 PLASTICS"⟩,
  ⟨0x267A, "", "RECYCLING SYMBOL FOR GENERIC MATERIALS, BLACK UNIVERSAL RECYCLING SYMBOL"⟩,
  ⟨0x267C, "", "RECYCLED PAPER SYMBOL, PARTIALLY-RECYCLED PAPER SYMBOL"⟩,
  ⟨0x267E, "", "PERMANENT PAPER SIGN, WHEELCHAIR SYMBOL, DIE FACE-1, DIE FACE-2"⟩,
  ⟨0x2682, "", "DIE FACE-3, DIE FACE-4, DIE FACE-5, DIE FACE-6, WHITE CIRCLE WITH DOT RIGHT"⟩,
  ⟨0x2687, "", "WHITE CIRCLE WITH TWO DOTS, BLACK CIRCLE WITH WHITE DOT RIGHT"⟩,
  ⟨0x2689, "", "BLACK CIRCLE WITH TWO WHITE DOTS, MONOGRAM FOR YANG, MONOGRAM FOR YIN"⟩,
  ⟨0x268C, "DIGRAM FOR ", "GREATER YANG, LESSER YIN, LESSER YANG, GREATER YIN"⟩,
  ⟨0x2690, "", "WHITE FLAG, BLACK FLAG, HAMMER AND PICK, ANCHOR, CROSSED SWORDS"⟩,
  ⟨0x2695, "", "STAFF OF AESCULAPIUS, SCALES, ALEMBIC, FLOWER, GEAR, STAFF OF HERMES"⟩,
  ⟨0x269B, "", "ATOM SYMBOL, FLEUR-DE-LIS, OUTLINED WHITE STAR, THREE LINES CONVERGING RIGHT"⟩,
  ⟨0x269F, "", "THREE LINES CONVERGING LEFT, WARNING SIGN, HIGH VOLTAGE SIGN"⟩,
  ⟨0x26A2, "", "DOUBLED FEMALE SIGN, DOUBLED MALE SIGN, INTERLOCKED FEMALE AND MALE SIGN"⟩,
  ⟨0x26A5, "MALE ", "AND FEMALE SIGN, WITH STROKE SIGN, WITH STROKE AND MALE AND FEMALE SIGN"⟩,
  ⟨0x26A8, "", "VERTICAL MALE WITH STROKE SIGN, HORIZONTAL MALE WITH STROKE SIGN"⟩,
  ⟨0x26AA, "MEDIUM ", "WHITE CIRCLE, BLACK CIRCLE, SMALL WHITE CIRCLE"⟩,
  ⟨0x26AD, "", "MARRIAGE SYMBOL, DIVORCE SYMBOL, UNMARRIED PARTNERSHIP SYMBOL, COFFIN"⟩,
  ⟨0x26B1, "", "FUNERAL URN, NEUTER, CERES, PALLAS, JUNO, VESTA, CHIRON, BLACK MOON LILITH"⟩,
  ⟨0x26B9, "", "SEXTILE, SEMISEXTILE, QUINCUNX, SESQUIQUADRATE, SOCCER BALL, BASEBALL"⟩,
  ⟨0x26BF, "", "SQUARED KEY, WHITE DRAUGHTS MAN, WHITE DRAUGHTS KING, BLACK DRAUGHTS MAN"⟩,
  ⟨0x26C3, "", "BLACK DRAUGHTS KING, SNOWMAN WITHOUT SNOW, SUN BEHIND CLOUD, RAIN, BLACK SNOWMAN"⟩,
  ⟨0x26C8, "", "THUNDER CLOUD AND RAIN, TURNED WHITE SHOGI PIECE, TURNED BLACK SHOGI PIECE"⟩,
  ⟨0x26CB, "", "WHITE DIAMOND IN SQUARE, CROSSING LANES, DISABLED CAR, OPHIUCHUS"⟩,
  ⟨0x26CF, "", "PICK, CAR SLIDING, HELMET WITH WHITE CROSS, CIRCLED CROSSING LANES, CHAINS"⟩,
  ⟨0x26D4, "", "NO ENTRY, ALTERNATE ONE-WAY LEFT WAY TRAFFIC, BLACK TWO-WAY LEFT WAY TRAFFIC"⟩,
  ⟨0x26D7, "", "WHITE TWO-WAY LEFT WAY TRAFFIC, BLACK LEFT LANE MERGE, WHITE LEFT LANE MERGE"⟩,
  ⟨0x26DA, "", "DRIVE SLOW SIGN, HEAVY WHITE DOWN-POINTING TRIANGLE, LEFT CLOSED ENTRY"⟩,
  ⟨0x26DD, "", "SQUARED SALTIRE, FALLING DIAGONAL IN WHITE CIRCLE IN BLACK SQUARE"⟩,
  ⟨0x26DF, "", "BLACK TRUCK, RESTRICTED LEFT ENTRY-1, RESTRICTED LEFT ENTRY-2"⟩,
  ⟨0x26E2, "", "ASTRONOMICAL SYMBOL FOR URANUS, HEAVY CIRCLE WITH STROKE AND TWO DOTS ABOVE"⟩,
  ⟨0x26E4, "", "PENTAGRAM, RIGHT-HANDED INTERLACED PENTAGRAM"⟩,
  ⟨0x26E6, "", "LEFT-HANDED INTERLACED PENTAGRAM, INVERTED PENTAGRAM, BLACK CROSS ON SHIELD"⟩,
  ⟨0x26E9, "", "SHINTO SHRINE, CHURCH, CASTLE, HISTORIC SITE, GEAR WITHOUT HUB"⟩,
  ⟨0x26EE, "", "GEAR WITH HANDLES, MAP SYMBOL FOR LIGHTHOUSE, MOUNTAIN, UMBRELLA ON GROUND"⟩,
  ⟨0x26F2, "", "FOUNTAIN, FLAG IN HOLE, FERRY, SAILBOAT, SQUARE FOUR CORNERS, SKIER, ICE SKATE"⟩,
  ⟨0x26F9, "", "PERSON WITH BALL, TENT, JAPANESE BANK SYMBOL, HEADSTONE GRAVEYARD SYMBOL"⟩,
  ⟨0x26FD, "", "FUEL PUMP, CUP ON BLACK SQUARE, WHITE FLAG WITH HORIZONTAL MIDDLE BLACK STRIPE"⟩,
  ⟨0x2700, "", "BLACK SAFETY SCISSORS, UPPER BLADE SCISSORS, BLACK SCISSORS, LOWER BLADE SCISSORS"⟩,
  ⟨0x2704, "", "WHITE SCISSORS, WHITE HEAVY CHECK MARK, TELEPHONE LOCATION SIGN, TAPE DRIVE"⟩,
  ⟨0x2708, "", "AIRPLANE, ENVELOPE, RAISED FIST, RAISED HAND, VICTORY HAND, WRITING HAND"⟩,
  ⟨0x270E, "", "LOWER RIGHT PENCIL, PENCIL, UPPER RIGHT PENCIL, WHITE NIB, BLACK NIB"⟩,
  ⟨0x2713, "", "CHECK MARK, HEAVY CHECK MARK, MULTIPLICATION X, HEAVY MULTIPLICATION X, BALLOT X"⟩,
  ⟨0x2718, "", "HEAVY BALLOT X, OUTLINED GREEK CROSS, HEAVY GREEK CROSS, OPEN CENTRE CROSS"⟩,
  ⟨0x271C, "", "HEAVY OPEN CENTRE CROSS, LATIN CROSS, SHADOWED WHITE LATIN CROSS"⟩,
  ⟨0x271F, "", "OUTLINED LATIN CROSS, MALTESE CROSS, STAR OF DAVID, FOUR TEARDROP-SPOKED ASTERISK"⟩,
  ⟨0x2723, "", "FOUR BALLOON-SPOKED ASTERISK, HEAVY FOUR BALLOON-SPOKED ASTERISK"⟩,
  ⟨0x2725, "", "FOUR CLUB-SPOKED ASTERISK, BLACK FOUR POINTED STAR"⟩,
  ⟨0x2727, "", "WHITE FOUR POINTED STAR, SPARKLES, STRESS OUTLINED WHITE STAR"⟩,
  ⟨0x272A, "", "CIRCLED WHITE STAR, OPEN CENTRE BLACK STAR, BLACK CENTRE WHITE STAR"⟩,
  ⟨0x272D, "", "OUTLINED BLACK STAR, HEAVY OUTLINED BLACK STAR, PINWHEEL STAR"⟩,
  ⟨0x2730, "", "SHADOWED WHITE STAR, HEAVY ASTERISK, OPEN CENTRE ASTERISK, EIGHT SPOKED ASTERISK"⟩,
  ⟨0x2734, "", "EIGHT POINTED BLACK STAR, EIGHT POINTED PINWHEEL STAR, SIX POINTED BLACK STAR"⟩,
  ⟨0x2737, "", "EIGHT POINTED RECTILINEAR BLACK STAR, HEAVY EIGHT POINTED RECTILINEAR BLACK STAR"⟩,
  ⟨0x2739, "", "TWELVE POINTED BLACK STAR, SIXTEEN POINTED ASTERISK"⟩,
  ⟨0x273B, "", "TEARDROP-SPOKED ASTERISK, OPEN CENTRE TEARDROP-SPOKED ASTERISK"⟩,
  ⟨0x273D, "", "HEAVY TEARDROP-SPOKED ASTERISK, SIX PETALLED BLACK AND WHITE FLORETTE"⟩,
  ⟨0x273F, "", "BLACK FLORETTE, WHITE FLORETTE, EIGHT PETALLED OUTLINED BLACK FLORETTE"⟩,
  ⟨0x2742, "", "CIRCLED OPEN CENTRE EIGHT POINTED STAR, HEAVY TEARDROP-SPOKED PINWHEEL ASTERISK"⟩,
  ⟨0x2744, "", "SNOWFLAKE, TIGHT TRIFOLIATE SNOWFLAKE, HEAVY CHEVRON SNOWFLAKE, SPARKLE"⟩,
  ⟨0x2748, "", "HEAVY SPARKLE, BALLOON-SPOKED ASTERISK, EIGHT TEARDROP-SPOKED PROPELLER ASTERISK"⟩,
  ⟨0x274B, "", "HEAVY EIGHT TEARDROP-SPOKED PROPELLER ASTERISK, CROSS MARK, SHADOWED WHITE CIRCLE"⟩,
  ⟨0x274E, "", "NEGATIVE SQUARED CROSS MARK, LOWER RIGHT DROP-SHADOWED WHITE SQUARE"⟩,
  ⟨0x2750, "", "UPPER RIGHT DROP-SHADOWED WHITE SQUARE, LOWER RIGHT SHADOWED WHITE SQUARE"⟩,
  ⟨0x2752, "", "UPPER RIGHT SHADOWED WHITE SQUARE, BLACK QUESTION MARK ORNAMENT"⟩,
  ⟨0x2754, "WHITE ", "QUESTION MARK ORNAMENT, EXCLAMATION MARK ORNAMENT"⟩,
  ⟨0x2756, "", "BLACK DIAMOND MINUS WHITE X, HEAVY EXCLAMATION MARK SYMBOL"⟩,
  ⟨0x2758, "", "LIGHT VERTICAL BAR, MEDIUM VERTICAL BAR, HEAVY VERTICAL BAR"⟩,
  ⟨0x275B, "HEAVY SINGLE ", "TURNED COMMA QUOTATION MARK ORNAMENT, COMMA QUOTATION MARK ORNAMENT"⟩,
  ⟨0x275D, "HEAVY DOUBLE ", "TURNED COMMA QUOTATION MARK ORNAMENT, COMMA QUOTATION MARK ORNAMENT"⟩,
  ⟨0x275F, "", "HEAVY LOW SINGLE COMMA QUOTATION MARK ORNAMENT"⟩,
  ⟨0x2760, "", "HEAVY LOW DOUBLE COMMA QUOTATION MARK ORNAMENT"⟩,
  ⟨0x2761, "", "CURVED STEM PARAGRAPH SIGN ORNAMENT"⟩,
  ⟨0x2762, "HEAVY ", "EXCLAMATION MARK ORNAMENT, HEART EXCLAMATION MARK ORNAMENT"⟩,
  ⟨0x2764, "", "HEAVY BLACK HEART, ROTATED HEAVY BLACK HEART BULLET"⟩,
  ⟨0x2766, "", "FLORAL HEART, ROTATED FLORAL HEART BULLET, MEDIUM LEFT PARENTHESIS ORNAMENT"⟩,
  ⟨0x2769, "MEDIUM ", "RIGHT PARENTHESIS ORNAMENT, FLATTENED LEFT PARENTHESIS ORNAMENT"⟩,
  ⟨0x276B, "MEDIUM ", "FLATTENED RIGHT PARENTHESIS ORNAMENT, LEFT-POINTING ANGLE BRACKET ORNAMENT"⟩,
  ⟨0x276D, "", "MEDIUM RIGHT-POINTING ANGLE BRACKET ORNAMENT"⟩,
  ⟨0x276E, "", "HEAVY LEFT-POINTING ANGLE QUOTATION MARK ORNAMENT"⟩,
  ⟨0x276F, "", "HEAVY RIGHT-POINTING ANGLE QUOTATION MARK ORNAMENT"⟩,
  ⟨0x2770, "HEAVY ", "LEFT-POINTING ANGLE BRACKET ORNAMENT, RIGHT-POINTING ANGLE BRACKET ORNAMENT"⟩,
  ⟨0x2772, "LIGHT ", "LEFT TORTOISE SHELL BRACKET ORNAMENT, RIGHT TORTOISE SHELL BRACKET ORNAMENT"⟩,
  ⟨0x2774, "MEDIUM ", "LEFT CURLY BRACKET ORNAMENT, RIGHT CURLY BRACKET ORNAMENT"⟩,
  ⟨0x2776, "DINGBAT NEGATIVE CIRCLED DIGIT ", "ONE, TWO, THREE, FOUR, FIVE, SIX"⟩,
  ⟨0x277C, "DINGBAT NEGATIVE CIRCLED ", "DIGIT SEVEN, DIGIT EIGHT, DIGIT NINE, NUMBER TEN"⟩,
  ⟨0x2780, "DINGBAT CIRCLED SANS-SERIF DIGIT ", "ONE, TWO, THREE, FOUR, FIVE, SIX"⟩,
  ⟨0x2786, "DINGBAT CIRCLED SANS-SERIF ", "DIGIT SEVEN, DIGIT EIGHT, DIGIT NINE, NUMBER TEN"⟩,
  ⟨0x278A, "DINGBAT NEGATIVE CIRCLED SANS-SERIF DIGIT ", "ONE, TWO, THREE, FOUR, FIVE, SIX, SEVEN"⟩,
  ⟨0x2791, "DINGBAT NEGATIVE CIRCLED SANS-SERIF ", "DIGIT EIGHT, DIGIT NINE, NUMBER TEN"⟩,
  ⟨0x2794, "", "HEAVY WIDE-HEADED RIGHTWARDS ARROW"⟩,
  ⟨0x2795, "HEAVY ", "PLUS SIGN, MINUS SIGN, DIVISION SIGN, SOUTH EAST ARROW"⟩,
  ⟨0x2799, "", "HEAVY RIGHTWARDS ARROW, HEAVY NORTH EAST ARROW, DRAFTING POINT RIGHTWARDS ARROW"⟩,
  ⟨0x279C, "", "HEAVY ROUND-TIPPED RIGHTWARDS ARROW, TRIANGLE-HEADED RIGHTWARDS ARROW"⟩,
  ⟨0x279E, "", "HEAVY TRIANGLE-HEADED RIGHTWARDS ARROW, DASHED TRIANGLE-HEADED RIGHTWARDS ARROW"⟩,
  ⟨0x27A0, "", "HEAVY DASHED TRIANGLE-HEADED RIGHTWARDS ARROW, BLACK RIGHTWARDS ARROW"⟩,
  ⟨0x27A2, "THREE-D ", "TOP-LIGHTED RIGHTWARDS ARROWHEAD, BOTTOM-LIGHTED RIGHTWARDS ARROWHEAD"⟩,
  ⟨0x27A4, "", "BLACK RIGHTWARDS ARROWHEAD, HEAVY BLACK CURVED DOWNWARDS AND RIGHTWARDS ARROW"⟩,
  ⟨0x27A6, "", "HEAVY BLACK CURVED UPWARDS AND RIGHTWARDS ARROW, SQUAT BLACK RIGHTWARDS ARROW"⟩,
  ⟨0x27A8, "", "HEAVY CONCAVE-POINTED BLACK RIGHTWARDS ARROW, RIGHT-SHADED WHITE RIGHTWARDS ARROW"⟩,
  ⟨0x27AA, "", "LEFT-SHADED WHITE RIGHTWARDS ARROW, BACK-TILTED SHADOWED WHITE RIGHTWARDS ARROW"⟩,
  ⟨0x27AC, "", "FRONT-TILTED SHADOWED WHITE RIGHTWARDS ARROW"⟩,
  ⟨0x27AD, "", "HEAVY LOWER RIGHT-SHADOWED WHITE RIGHTWARDS ARROW"⟩,
  ⟨0x27AE, "", "HEAVY UPPER RIGHT-SHADOWED WHITE RIGHTWARDS ARROW"⟩,
  ⟨0x27AF, "", "NOTCHED LOWER RIGHT-SHADOWED WHITE RIGHTWARDS ARROW"⟩,
  ⟨0x27B0, "", "CURLY LOOP, NOTCHED UPPER RIGHT-SHADOWED WHITE RIGHTWARDS ARROW"⟩,
  ⟨0x27B2, "", "CIRCLED HEAVY WHITE RIGHTWARDS ARROW, WHITE-FEATHERED RIGHTWARDS ARROW"⟩,
  ⟨0x27B4, "BLACK-FEATHERED ", "SOUTH EAST ARROW, RIGHTWARDS ARROW, NORTH EAST ARROW"⟩,
  ⟨0x27B7, "HEAVY BLACK-FEATHERED ", "SOUTH EAST ARROW, RIGHTWARDS ARROW, NORTH EAST ARROW"⟩,
  ⟨0x27BA, "", "TEARDROP-BARBED RIGHTWARDS ARROW, HEAVY TEARDROP-SHANKED RIGHTWARDS ARROW"⟩,
  ⟨0x27BC, "", "WEDGE-TAILED RIGHTWARDS ARROW, HEAVY WEDGE-TAILED RIGHTWARDS ARROW"⟩,
  ⟨0x27BE, "", "OPEN-OUTLINED RIGHTWARDS ARROW, DOUBLE CURLY LOOP"⟩,
  ⟨0x27F0, "", "UPWARDS QUADRUPLE ARROW, DOWNWARDS QUADRUPLE ARROW"⟩,
  ⟨0x27F2, "", "ANTICLOCKWISE GAPPED CIRCLE ARROW, CLOCKWISE GAPPED CIRCLE ARROW"⟩,
  ⟨0x27F4, "", "RIGHT ARROW WITH CIRCLED PLUS, LONG LEFTWARDS ARROW, LONG RIGHTWARDS ARROW"⟩,
  ⟨0x27F7, "LONG ", "LEFT RIGHT ARROW, LEFTWARDS DOUBLE ARROW, RIGHTWARDS DOUBLE ARROW"⟩,
  ⟨0x27FA, "LONG ", "LEFT RIGHT DOUBLE ARROW, LEFTWARDS ARROW FROM BAR, RIGHTWARDS ARROW FROM BAR"⟩,
  ⟨0x27FD, "LONG ", "LEFTWARDS DOUBLE ARROW FROM BAR, RIGHTWARDS DOUBLE ARROW FROM BAR"⟩,
  ⟨0x27FF, "", "LONG RIGHTWARDS SQUIGGLE ARROW, BRAILLE PATTERN BLANK"⟩,
  ⟨0x2801, "BRAILLE PATTERN DOTS-", "1, 2, 12, 3, 13, 23, 123, 4, 14, 24, 124, 34, 134, 234"⟩,
  ⟨0x280F, "BRAILLE PATTERN DOTS-", "1234, 5, 15, 25, 125, 35, 135, 235, 1235, 45, 145, 245, 1245"⟩,
  ⟨0x281C, "BRAILLE PATTERN DOTS-", "345, 1345, 2345, 12345, 6, 16, 26, 126, 36, 136, 236, 1236"⟩,
  ⟨0x2828, "BRAILLE PATTERN DOTS-", "46, 146, 246, 1246, 346, 1346, 2346, 12346, 56, 156, 256"⟩,
  ⟨0x2833, "BRAILLE PATTERN DOTS-", "1256, 356, 1356, 2356, 12356, 456, 1456, 2456, 12456, 3456"⟩,
  ⟨0x283D, "BRAILLE PATTERN DOTS-", "13456, 23456, 123456, 7, 17, 27, 127, 37, 137, 237, 1237"⟩,
  ⟨0x2848, "BRAILLE PATTERN DOTS-", "47, 147, 247, 1247, 347, 1347, 2347, 12347, 57, 157, 257"⟩,
  ⟨0x2853, "BRAILLE PATTERN DOTS-", "1257, 357, 1357, 2357, 12357, 457, 1457, 2457, 12457, 3457"⟩,
  ⟨0x285D, "BRAILLE PATTERN DOTS-", "13457, 23457, 123457, 67, 167, 267, 1267, 367, 1367, 2367"⟩,
  ⟨0x2867, "BRAILLE PATTERN DOTS-", "12367, 467, 1467, 2467, 12467, 3467, 13467, 23467, 123467"⟩,
  ⟨0x2870, "BRAILLE PATTERN DOTS-", "567, 1567, 2567, 12567, 3567, 13567, 23567, 123567, 4567"⟩,
  ⟨0x2879, "BRAILLE PATTERN DOTS-", "14567, 24567, 124567, 34567, 134567, 234567, 1234567, 8, 18"⟩,
  ⟨0x2882, "BRAILLE PATTERN DOTS-", "28, 128, 38, 138, 238, 1238, 48, 148, 248, 1248, 348, 1348"⟩,
  ⟨0x288E, "BRAILLE PATTERN DOTS-", "2348, 12348, 58, 158, 258, 1258, 358, 1358, 2358, 12358"⟩,
  ⟨0x2898, "BRAILLE PATTERN DOTS-", "458, 1458, 2458, 12458, 3458, 13458, 23458, 123458, 68, 168"⟩,
  ⟨0x28A2, "BRAILLE PATTERN DOTS-", "268, 1268, 368, 1368, 2368, 12368, 468, 1468, 2468, 12468"⟩,
  ⟨0x28AC, "BRAILLE PATTERN DOTS-", "3468, 13468, 23468, 123468, 568, 1568, 2568, 12568, 3568"⟩,
  ⟨0x28B5, "BRAILLE PATTERN DOTS-", "13568, 23568, 123568, 4568, 14568, 24568, 124568, 34568"⟩,
  ⟨0x28BD, "BRAILLE PATTERN DOTS-", "134568, 234568, 1234568, 78, 178, 278, 1278, 378, 1378"⟩,
  ⟨0x28C6, "BRAILLE PATTERN DOTS-", "2378, 12378, 478, 1478, 2478, 12478, 3478, 13478, 23478"⟩,
  ⟨0x28CF, "BRAILLE PATTERN DOTS-", "123478, 578, 1578, 2578, 12578, 3578, 13578, 23578, 123578"⟩,
  ⟨0x28D8, "BRAILLE PATTERN DOTS-", "4578, 14578, 24578, 124578, 34578, 134578, 234578, 1234578"⟩,
  ⟨0x28E0, "BRAILLE PATTERN DOTS-", "678, 1678, 2678, 12678, 3678, 13678, 23678, 123678, 4678"⟩,
  ⟨0x28E9, "BRAILLE PATTERN DOTS-", "14678, 24678, 124678, 34678, 134678, 234678, 1234678, 5678"⟩,
  ⟨0x28F1, "BRAILLE PATTERN DOTS-", "15678, 25678, 125678, 35678, 135678, 235678, 1235678, 45678"⟩,
  ⟨0x28F9, "BRAILLE PATTERN DOTS-", "145678, 245678, 1245678, 345678, 1345678, 2345678, 12345678"⟩,
  ⟨0x2E00, "", "RIGHT ANGLE SUBSTITUTION MARKER"⟩,
  ⟨0x2E01, "", "RIGHT ANGLE DOTTED SUBSTITUTION MARKER, LEFT SUBSTITUTION BRACKET"⟩,
  ⟨0x2E03, "", "RIGHT SUBSTITUTION BRACKET, LEFT DOTTED SUBSTITUTION BRACKET"⟩,
  ⟨0x2E05, "", "RIGHT DOTTED SUBSTITUTION BRACKET, RAISED INTERPOLATION MARKER"⟩,
  ⟨0x2E07, "", "RAISED DOTTED INTERPOLATION MARKER, DOTTED TRANSPOSITION MARKER"⟩,
  ⟨0x2E09, "", "LEFT TRANSPOSITION BRACKET, RIGHT TRANSPOSITION BRACKET, RAISED SQUARE"⟩,
  ⟨0x2E0C, "", "LEFT RAISED OMISSION BRACKET, RIGHT RAISED OMISSION BRACKET, EDITORIAL CORONIS"⟩,
  ⟨0x2E0F, "", "PARAGRAPHOS, FORKED PARAGRAPHOS, REVERSED FORKED PARAGRAPHOS, HYPODIASTOLE"⟩,
  ⟨0x2E13, "", "DOTTED OBELOS, DOWNWARDS ANCORA, UPWARDS ANCORA, DOTTED RIGHT-POINTING ANGLE"⟩,
  ⟨0x2E17, "", "DOUBLE OBLIQUE HYPHEN, INVERTED INTERROBANG, PALM BRANCH, HYPHEN WITH DIAERESIS"⟩,
  ⟨0x2E1B, "", "TILDE WITH RING ABOVE, LEFT LOW PARAPHRASE BRACKET, RIGHT LOW PARAPHRASE BRACKET"⟩,
  ⟨0x2E1E, "", "TILDE WITH DOT ABOVE, TILDE WITH DOT BELOW, LEFT VERTICAL BAR WITH QUILL"⟩,
  ⟨0x2E21, "", "RIGHT VERTICAL BAR WITH QUILL, TOP LEFT HALF BRACKET"⟩,
  ⟨0x2E23, "", "TOP RIGHT HALF BRACKET, BOTTOM LEFT HALF BRACKET, BOTTOM RIGHT HALF BRACKET"⟩,
  ⟨0x2E26, "", "LEFT SIDEWAYS U BRACKET, RIGHT SIDEWAYS U BRACKET, LEFT DOUBLE PARENTHESIS"⟩,
  ⟨0x2E29, "", "RIGHT DOUBLE PARENTHESIS, TWO DOTS OVER ONE DOT PUNCTUATION"⟩,
  ⟨0x2E2B, "", "ONE DOT OVER TWO DOTS PUNCTUATION, SQUARED FOUR DOT PUNCTUATION, FIVE DOT MARK"⟩,
  ⟨0x2E2E, "", "REVERSED QUESTION MARK, VERTICAL TILDE, RING POINT, WORD SEPARATOR MIDDLE DOT"⟩,
  ⟨0x2E32, "", "TURNED COMMA, RAISED DOT, RAISED COMMA, TURNED SEMICOLON, DAGGER WITH LEFT GUARD"⟩,
  ⟨0x2E37, "", "DAGGER WITH RIGHT GUARD, TURNED DAGGER, TOP HALF SECTION SIGN, TWO-EM DASH"⟩,
  ⟨0x2E3B, "", "THREE-EM DASH, STENOGRAPHIC FULL STOP, VERTICAL SIX DOTS, WIGGLY VERTICAL LINE"⟩,
  ⟨0x2E3F, "", "CAPITULUM, DOUBLE HYPHEN, REVERSED COMMA, DOUBLE LOW-REVERSED-9 QUOTATION MARK"⟩,
  ⟨0x2E43, "", "DASH WITH LEFT UPTURN, DOUBLE SUSPENSION MARK"⟩,
  ⟨0x2E45, "", "INVERTED LOW KAVYKA, INVERTED LOW KAVYKA WITH KAVYKA ABOVE, LOW KAVYKA"⟩,
  ⟨0x2E48, "", "LOW KAVYKA WITH DOT, DOUBLE STACKED COMMA, DOTTED SOLIDUS, TRIPLE DAGGER"⟩,
  ⟨0x2E4C, "", "MEDIEVAL COMMA, PARAGRAPHUS MARK, PUNCTUS ELEVATUS MARK, CORNISH VERSE DIVIDER"⟩,
  ⟨0x2E50, "CROSS PATTY WITH ", "RIGHT CROSSBAR, LEFT CROSSBAR"⟩,
  ⟨0x2E52, "", "TIRONIAN SIGN CAPITAL ET, MEDIEVAL EXCLAMATION MARK, MEDIEVAL QUESTION MARK"⟩,
  ⟨0x2E55, "", "LEFT SQUARE BRACKET WITH STROKE, RIGHT SQUARE BRACKET WITH STROKE"⟩,
  ⟨0x2E57, "", "LEFT SQUARE BRACKET WITH DOUBLE STROKE, RIGHT SQUARE BRACKET WITH DOUBLE STROKE"⟩,
  ⟨0x2E59, "TOP HALF ", "LEFT PARENTHESIS, RIGHT PARENTHESIS"⟩,
  ⟨0x2E5B, "", "BOTTOM HALF LEFT PARENTHESIS, BOTTOM HALF RIGHT PARENTHESIS, OBLIQUE HYPHEN"⟩,
  ⟨0xFE00, "VARIATION SELECTOR-", "1, 2, 3, 4, 5, 6, 7, 8, 9, 10, 11, 12, 13, 14, 15, 16"⟩,
  ⟨0xFFF9, "INTERLINEAR ANNOTATION ", "ANCHOR, SEPARATOR, TERMINATOR"⟩,
  ⟨0xFFFC, "", "OBJECT REPLACEMENT CHARACTER, REPLACEMENT CHARACTER"⟩,
  ⟨0x1FB00, "BLOCK SEXTANT-", "1, 2, 12, 3, 13, 23, 123, 4, 14, 24"⟩,
  ⟨0x1FB0A, "BLOCK SEXTANT-", "124, 34, 134, 234, 1234, 5, 15, 25, 125, 35, 235, 1235, 45, 145"⟩,
  ⟨0x1FB18, "BLOCK SEXTANT-", "245, 1245, 345, 1345, 2345, 12345, 6, 16, 26, 126, 36, 136, 236"⟩,
  ⟨0x1FB25, "BLOCK SEXTANT-", "1236, 46, 146, 1246, 346, 1346, 2346, 12346, 56, 156, 256, 1256"⟩,
  ⟨0x1FB31, "BLOCK SEXTANT-", "356, 1356, 2356, 12356, 456, 1456, 2456, 12456, 3456, 13456, 23456"⟩,
  ⟨0x1FB3C, "LOWER LEFT BLOCK DIAGONAL LOWER MIDDLE LEFT TO LOWER ", "CENTRE, RIGHT"⟩,
  ⟨0x1FB3E, "", "LOWER LEFT BLOCK DIAGONAL UPPER MIDDLE LEFT TO LOWER CENTRE"⟩,
  ⟨0x1FB3F, "LOWER LEFT BLOCK DIAGONAL UPPER ", "MIDDLE LEFT TO LOWER RIGHT, LEFT TO LOWER CENTRE"⟩,
  ⟨0x1FB41, "LOWER RIGHT BLOCK DIAGONAL UPPER MIDDLE LEFT TO UPPER ", "CENTRE, RIGHT"⟩,
  ⟨0x1FB43, "LOWER RIGHT BLOCK DIAGONAL LOWER MIDDLE LEFT TO UPPER ", "CENTRE, RIGHT"⟩,
  ⟨0x1FB45, "", "LOWER RIGHT BLOCK DIAGONAL LOWER LEFT TO UPPER CENTRE"⟩,
  ⟨0x1FB46, "", "LOWER RIGHT BLOCK DIAGONAL LOWER MIDDLE LEFT TO UPPER MIDDLE RIGHT"⟩,
  ⟨0x1FB47, "", "LOWER RIGHT BLOCK DIAGONAL LOWER CENTRE TO LOWER MIDDLE RIGHT"⟩,
  ⟨0x1FB48, "", "LOWER RIGHT BLOCK DIAGONAL LOWER LEFT TO LOWER MIDDLE RIGHT"⟩,
  ⟨0x1FB49, "", "LOWER RIGHT BLOCK DIAGONAL LOWER CENTRE TO UPPER MIDDLE RIGHT"⟩,
  ⟨0x1FB4A, "", "LOWER RIGHT BLOCK DIAGONAL LOWER LEFT TO UPPER MIDDLE RIGHT"⟩,
  ⟨0x1FB4B, "", "LOWER RIGHT BLOCK DIAGONAL LOWER CENTRE TO UPPER RIGHT"⟩,
  ⟨0x1FB4C, "", "LOWER LEFT BLOCK DIAGONAL UPPER CENTRE TO UPPER MIDDLE RIGHT"⟩,
  ⟨0x1FB4D, "", "LOWER LEFT BLOCK DIAGONAL UPPER LEFT TO UPPER MIDDLE RIGHT"⟩,
  ⟨0x1FB4E, "", "LOWER LEFT BLOCK DIAGONAL UPPER CENTRE TO LOWER MIDDLE RIGHT"⟩,
  ⟨0x1FB4F, "", "LOWER LEFT BLOCK DIAGONAL UPPER LEFT TO LOWER MIDDLE RIGHT"⟩,
  ⟨0x1FB50, "", "LOWER LEFT BLOCK DIAGONAL UPPER CENTRE TO LOWER RIGHT"⟩,
  ⟨0x1FB51, "", "LOWER LEFT BLOCK DIAGONAL UPPER MIDDLE LEFT TO LOWER MIDDLE RIGHT"⟩,
  ⟨0x1FB52, "UPPER RIGHT BLOCK DIAGONAL LOWER MIDDLE LEFT TO LOWER ", "CENTRE, RIGHT"⟩,
  ⟨0x1FB54, "UPPER RIGHT BLOCK DIAGONAL UPPER MIDDLE LEFT TO LOWER ", "CENTRE, RIGHT"⟩,
  ⟨0x1FB56, "", "UPPER RIGHT BLOCK DIAGONAL UPPER LEFT TO LOWER CENTRE"⟩,
  ⟨0x1FB57, "UPPER LEFT BLOCK DIAGONAL UPPER MIDDLE LEFT TO UPPER ", "CENTRE, RIGHT"⟩,
  ⟨0x1FB59, "", "UPPER LEFT BLOCK DIAGONAL LOWER MIDDLE LEFT TO UPPER CENTRE"⟩,
  ⟨0x1FB5A, "UPPER LEFT BLOCK DIAGONAL LOWER ", "MIDDLE LEFT TO UPPER RIGHT, LEFT TO UPPER CENTRE"⟩,
  ⟨0x1FB5C, "", "UPPER LEFT BLOCK DIAGONAL LOWER MIDDLE LEFT TO UPPER MIDDLE RIGHT"⟩,
  ⟨0x1FB5D, "", "UPPER LEFT BLOCK DIAGONAL LOWER CENTRE TO LOWER MIDDLE RIGHT"⟩,
  ⟨0x1FB5E, "", "UPPER LEFT BLOCK DIAGONAL LOWER LEFT TO LOWER MIDDLE RIGHT"⟩,
  ⟨0x1FB5F, "", "UPPER LEFT BLOCK DIAGONAL LOWER CENTRE TO UPPER MIDDLE RIGHT"⟩,
  ⟨0x1FB60, "", "UPPER LEFT BLOCK DIAGONAL LOWER LEFT TO UPPER MIDDLE RIGHT"⟩,
  ⟨0x1FB61, "", "UPPER LEFT BLOCK DIAGONAL LOWER CENTRE TO UPPER RIGHT"⟩,
  ⟨0x1FB62, "", "UPPER RIGHT BLOCK DIAGONAL UPPER CENTRE TO UPPER MIDDLE RIGHT"⟩,
  ⟨0x1FB63, "", "UPPER RIGHT BLOCK DIAGONAL UPPER LEFT TO UPPER MIDDLE RIGHT"⟩,
  ⟨0x1FB64, "", "UPPER RIGHT BLOCK DIAGONAL UPPER CENTRE TO LOWER MIDDLE RIGHT"⟩,
  ⟨0x1FB65, "", "UPPER RIGHT BLOCK DIAGONAL UPPER LEFT TO LOWER MIDDLE RIGHT"⟩,
  ⟨0x1FB66, "", "UPPER RIGHT BLOCK DIAGONAL UPPER CENTRE TO LOWER RIGHT"⟩,
  ⟨0x1FB67, "", "UPPER RIGHT BLOCK DIAGONAL UPPER MIDDLE LEFT TO LOWER MIDDLE RIGHT"⟩,
  ⟨0x1FB68, "", "UPPER AND RIGHT AND LOWER TRIANGULAR THREE QUARTERS BLOCK"⟩,
  ⟨0x1FB69, "", "LEFT AND LOWER AND RIGHT TRIANGULAR THREE QUARTERS BLOCK"⟩,
  ⟨0x1FB6A, "", "UPPER AND LEFT AND LOWER TRIANGULAR THREE QUARTERS BLOCK"⟩,
  ⟨0x1FB6B, "", "LEFT AND UPPER AND RIGHT TRIANGULAR THREE QUARTERS BLOCK"⟩,
  ⟨0x1FB6C, "", "LEFT TRIANGULAR ONE QUARTER BLOCK, UPPER TRIANGULAR ONE QUARTER BLOCK"⟩,
  ⟨0x1FB6E, "", "RIGHT TRIANGULAR ONE QUARTER BLOCK, LOWER TRIANGULAR ONE QUARTER BLOCK"⟩,
  ⟨0x1FB70, "VERTICAL ONE EIGHTH BLOCK-", "2, 3, 4, 5, 6, 7"⟩,
  ⟨0x1FB76, "HORIZONTAL ONE EIGHTH BLOCK-", "2, 3, 4, 5, 6, 7"⟩,
  ⟨0x1FB7C, "LEFT AND ", "LOWER ONE EIGHTH BLOCK, UPPER ONE EIGHTH BLOCK"⟩,
  ⟨0x1FB7E, "RIGHT AND ", "UPPER ONE EIGHTH BLOCK, LOWER ONE EIGHTH BLOCK"⟩,
  ⟨0x1FB80, "", "UPPER AND LOWER ONE EIGHTH BLOCK, HORIZONTAL ONE EIGHTH BLOCK-1358"⟩,
  ⟨0x1FB82, "UPPER ", "ONE QUARTER BLOCK, THREE EIGHTHS BLOCK"⟩,
  ⟨0x1FB84, "UPPER ", "FIVE EIGHTHS BLOCK, THREE QUARTERS BLOCK, SEVEN EIGHTHS BLOCK"⟩,
  ⟨0x1FB87, "RIGHT ", "ONE QUARTER BLOCK, THREE EIGHTHS BLOCK, FIVE EIGHTHS BLOCK"⟩,
  ⟨0x1FB8A, "", "RIGHT THREE QUARTERS BLOCK, RIGHT SEVEN EIGHTHS BLOCK, LEFT HALF MEDIUM SHADE"⟩,
  ⟨0x1FB8D, "", "RIGHT HALF MEDIUM SHADE, UPPER HALF MEDIUM SHADE, LOWER HALF MEDIUM SHADE"⟩,
  ⟨0x1FB90, "", "INVERSE MEDIUM SHADE, UPPER HALF BLOCK AND LOWER HALF INVERSE MEDIUM SHADE"⟩,
  ⟨0x1FB92, "", "UPPER HALF INVERSE MEDIUM SHADE AND LOWER HALF BLOCK"⟩,
  ⟨0x1FB94, "", "LEFT HALF INVERSE MEDIUM SHADE AND RIGHT HALF BLOCK"⟩,
  ⟨0x1FB95, "", "CHECKER BOARD FILL, INVERSE CHECKER BOARD FILL, HEAVY HORIZONTAL FILL"⟩,
  ⟨0x1FB98, "UPPER ", "LEFT TO LOWER RIGHT FILL, RIGHT TO LOWER LEFT FILL"⟩,
  ⟨0x1FB9A, "", "UPPER AND LOWER TRIANGULAR HALF BLOCK, LEFT AND RIGHT TRIANGULAR HALF BLOCK"⟩,
  ⟨0x1FB9C, "UPPER ", "LEFT TRIANGULAR MEDIUM SHADE, RIGHT TRIANGULAR MEDIUM SHADE"⟩,
  ⟨0x1FB9E, "LOWER ", "RIGHT TRIANGULAR MEDIUM SHADE, LEFT TRIANGULAR MEDIUM SHADE"⟩,
  ⟨0x1FBA0, "BOX DRAWINGS LIGHT DIAGONAL UPPER CENTRE TO MIDDLE ", "LEFT, RIGHT"⟩,
  ⟨0x1FBA2, "BOX DRAWINGS LIGHT DIAGONAL MIDDLE ", "LEFT TO LOWER CENTRE, RIGHT TO LOWER CENTRE"⟩,
  ⟨0x1FBA4, "", "BOX DRAWINGS LIGHT DIAGONAL UPPER CENTRE TO MIDDLE LEFT TO LOWER CENTRE"⟩,
  ⟨0x1FBA5, "", "BOX DRAWINGS LIGHT DIAGONAL UPPER CENTRE TO MIDDLE RIGHT TO LOWER CENTRE"⟩,
  ⟨0x1FBA6, "", "BOX DRAWINGS LIGHT DIAGONAL MIDDLE LEFT TO LOWER CENTRE TO MIDDLE RIGHT"⟩,
  ⟨0x1FBA7, "", "BOX DRAWINGS LIGHT DIAGONAL MIDDLE LEFT TO UPPER CENTRE TO MIDDLE RIGHT"⟩,
  ⟨0x1FBA8, "BOX ",
    "DRAWINGS LIGHT DIAGONAL UPPER CENTRE TO MIDDLE LEFT AND MIDDLE RIGHT TO LOWER CENTRE"⟩,
  ⟨0x1FBA9, "BOX ",
    "DRAWINGS LIGHT DIAGONAL UPPER CENTRE TO MIDDLE RIGHT AND MIDDLE LEFT TO LOWER CENTRE"⟩,
  ⟨0x1FBAA, "BOX ",
    "DRAWINGS LIGHT DIAGONAL UPPER CENTRE TO MIDDLE RIGHT TO LOWER CENTRE TO MIDDLE LEFT"⟩,
  ⟨0x1FBAB, "BOX ",
    "DRAWINGS LIGHT DIAGONAL UPPER CENTRE TO MIDDLE LEFT TO LOWER CENTRE TO MIDDLE RIGHT"⟩,
  ⟨0x1FBAC, "BOX ",
    "DRAWINGS LIGHT DIAGONAL MIDDLE LEFT TO UPPER CENTRE TO MIDDLE RIGHT TO LOWER CENTRE"⟩,
  ⟨0x1FBAD, "BOX ",
    "DRAWINGS LIGHT DIAGONAL MIDDLE RIGHT TO UPPER CENTRE TO MIDDLE LEFT TO LOWER CENTRE"⟩,
  ⟨0x1FBAE, "BOX DRAWINGS LIGHT ", "DIAGONAL DIAMOND, HORIZONTAL WITH VERTICAL STROKE"⟩,
  ⟨0x1FBB0, "", "ARROWHEAD-SHAPED POINTER, INVERSE CHECK MARK, LEFT HALF RUNNING MAN"⟩,
  ⟨0x1FBB3, "", "RIGHT HALF RUNNING MAN, INVERSE DOWNWARDS ARROW WITH TIP LEFTWARDS"⟩,
  ⟨0x1FBB5, "", "LEFTWARDS ARROW AND UPPER AND LOWER ONE EIGHTH BLOCK"⟩,
  ⟨0x1FBB6, "", "RIGHTWARDS ARROW AND UPPER AND LOWER ONE EIGHTH BLOCK"⟩,
  ⟨0x1FBB7, "", "DOWNWARDS ARROW AND RIGHT ONE EIGHTH BLOCK"⟩,
  ⟨0x1FBB8, "", "UPWARDS ARROW AND RIGHT ONE EIGHTH BLOCK"⟩,
  ⟨0x1FBB9, "", "LEFT HALF FOLDER, RIGHT HALF FOLDER, VOIDED GREEK CROSS, RIGHT OPEN SQUARED DOT"⟩,
  ⟨0x1FBBD, "NEGATIVE DIAGONAL ", "CROSS, MIDDLE RIGHT TO LOWER CENTRE"⟩,
  ⟨0x1FBBF, "", "NEGATIVE DIAGONAL DIAMOND, WHITE HEAVY SALTIRE WITH ROUNDED CORNERS"⟩,
  ⟨0x1FBC1, "", "LEFT THIRD WHITE RIGHT POINTING INDEX, MIDDLE THIRD WHITE RIGHT POINTING INDEX"⟩,
  ⟨0x1FBC3, "", "RIGHT THIRD WHITE RIGHT POINTING INDEX, NEGATIVE SQUARED QUESTION MARK"⟩,
  ⟨0x1FBC5, "STICK ", "FIGURE, FIGURE WITH ARMS RAISED, FIGURE LEANING LEFT"⟩,
  ⟨0x1FBC8, "", "STICK FIGURE LEANING RIGHT, STICK FIGURE WITH DRESS, WHITE UP-POINTING CHEVRON"⟩,
  ⟨0x1FBF0, "SEGMENTED DIGIT ", "ZERO, ONE, TWO, THREE, FOUR, FIVE, SIX, SEVEN, EIGHT, NINE"⟩,
  ⟨0xE0001, "", "LANGUAGE TAG"⟩,
  ⟨0xE0020, "TAG ", "SPACE, EXCLAMATION MARK, QUOTATION MARK, NUMBER SIGN, DOLLAR SIGN"⟩,
  ⟨0xE0025, "TAG ", "PERCENT SIGN, AMPERSAND, APOSTROPHE, LEFT PARENTHESIS, RIGHT PARENTHESIS"⟩,
  ⟨0xE002A, "TAG ", "ASTERISK, PLUS SIGN, COMMA, HYPHEN-MINUS, FULL STOP, SOLIDUS"⟩,
  ⟨0xE0030, "TAG DIGIT ", "ZERO, ONE, TWO, THREE, FOUR, FIVE"⟩,
  ⟨0xE0036, "TAG ", "DIGIT SIX, DIGIT SEVEN, DIGIT EIGHT, DIGIT NINE, COLON, SEMICOLON"⟩,
  ⟨0xE003C, "TAG ", "LESS-THAN SIGN, EQUALS SIGN, GREATER-THAN SIGN, QUESTION MARK, COMMERCIAL AT"⟩,
  ⟨0xE0041, "TAG LATIN CAPITAL LETTER ", "A, B, C, D, E, F"⟩,
  ⟨0xE0047, "TAG LATIN CAPITAL LETTER ", "G, H, I, J, K, L, M, N, O, P, Q, R, S, T, U, V, W, X, Y"⟩,
  ⟨0xE005A, "TAG ", "LATIN CAPITAL LETTER Z, LEFT SQUARE BRACKET, REVERSE SOLIDUS"⟩,
  ⟨0xE005D, "TAG ", "RIGHT SQUARE BRACKET, CIRCUMFLEX ACCENT, LOW LINE, GRAVE ACCENT"⟩,
  ⟨0xE0061, "TAG LATIN SMALL LETTER ", "A, B, C, D, E"⟩,
  ⟨0xE0066, "TAG LATIN SMALL LETTER ", "F, G, H, I, J, K, L, M, N, O, P, Q, R, S, T, U, V, W, X"⟩,
  ⟨0xE0079, "TAG ", "LATIN SMALL LETTER Y, LATIN SMALL LETTER Z, LEFT CURLY BRACKET"⟩,
  ⟨0xE007C, "", "TAG VERTICAL LINE, TAG RIGHT CURLY BRACKET, TAG TILDE, CANCEL TAG"⟩,
  ⟨0xE0100, "VARIATION SELECTOR-", "17, 18, 19, 20, 21, 22, 23, 24, 25"⟩,
  ⟨0xE0109, "VARIATION SELECTOR-", "26, 27, 28, 29, 30, 31, 32, 33, 34, 35, 36, 37, 38, 39, 40"⟩,
  ⟨0xE0118, "VARIATION SELECTOR-", "41, 42, 43, 44, 45, 46, 47, 48, 49, 50, 51, 52, 53, 54, 55"⟩,
  ⟨0xE0127, "VARIATION SELECTOR-", "56, 57, 58, 59, 60, 61, 62, 63, 64, 65, 66, 67, 68, 69, 70"⟩,
  ⟨0xE0136, "VARIATION SELECTOR-", "71, 72, 73, 74, 75, 76, 77, 78, 79, 80, 81, 82, 83, 84, 85"⟩,
  ⟨0xE0145, "VARIATION SELECTOR-", "86, 87, 88, 89, 90, 91, 92, 93, 94, 95, 96, 97, 98, 99, 100"⟩,
  ⟨0xE0154, "VARIATION SELECTOR-", "101, 102, 103, 104, 105, 106, 107, 108, 109, 110, 111, 112"⟩,
  ⟨0xE0160, "VARIATION SELECTOR-", "113, 114, 115, 116, 117, 118, 119, 120, 121, 122, 123, 124"⟩,
  ⟨0xE016C, "VARIATION SELECTOR-", "125, 126, 127, 128, 129, 130, 131, 132, 133, 134, 135, 136"⟩,
  ⟨0xE0178, "VARIATION SELECTOR-", "137, 138, 139, 140, 141, 142, 143, 144, 145, 146, 147, 148"⟩,
  ⟨0xE0184, "VARIATION SELECTOR-", "149, 150, 151, 152, 153, 154, 155, 156, 157, 158, 159, 160"⟩,
  ⟨0xE0190, "VARIATION SELECTOR-", "161, 162, 163, 164, 165, 166, 167, 168, 169, 170, 171, 172"⟩,
  ⟨0xE019C, "VARIATION SELECTOR-", "173, 174, 175, 176, 177, 178, 179, 180, 181, 182, 183, 184"⟩,
  ⟨0xE01A8, "VARIATION SELECTOR-", "185, 186, 187, 188, 189, 190, 191, 192, 193, 194, 195, 196"⟩,
  ⟨0xE01B4, "VARIATION SELECTOR-", "197, 198, 199, 200, 201, 202, 203, 204, 205, 206, 207, 208"⟩,
  ⟨0xE01C0, "VARIATION SELECTOR-", "209, 210, 211, 212, 213, 214, 215, 216, 217, 218, 219, 220"⟩,
  ⟨0xE01CC, "VARIATION SELECTOR-", "221, 222, 223, 224, 225, 226, 227, 228, 229, 230, 231, 232"⟩,
  ⟨0xE01D8, "VARIATION SELECTOR-", "233, 234, 235, 236, 237, 238, 239, 240, 241, 242, 243, 244"⟩,
  ⟨0xE01E4, "VARIATION SELECTOR-", "245, 246, 247, 248, 249, 250, 251, 252, 253, 254, 255, 256"⟩]

end BatchExec
