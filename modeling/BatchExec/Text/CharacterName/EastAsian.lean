import BatchExec.Text.CharacterName.Row

/-!
# East Asian scripts

The names of kana, Hangul and Bopomofo letters, of enclosed and halfwidth forms, and of the letters
of neighbouring scripts.
-/

namespace BatchExec

/-- The names of kana, Hangul and Bopomofo letters, of enclosed and halfwidth forms, and of the
letters of neighbouring scripts. -/
def eastAsianNames : List NameRow := [
  ⟨0x1100, "", "HANGUL CHOSEONG KIYEOK"⟩,
  ⟨0x1101, "HANGUL CHOSEONG ", "SSANGKIYEOK, NIEUN, TIKEUT, SSANGTIKEUT, RIEUL, MIEUM, PIEUP"⟩,
  ⟨0x1108, "HANGUL CHOSEONG ", "SSANGPIEUP, SIOS, SSANGSIOS, IEUNG, CIEUC, SSANGCIEUC, CHIEUCH"⟩,
  ⟨0x110F, "HANGUL CHOSEONG ", "KHIEUKH, THIEUTH, PHIEUPH, HIEUH, NIEUN-KIYEOK, SSANGNIEUN"⟩,
  ⟨0x1115, "HANGUL CHOSEONG ", "NIEUN-TIKEUT, NIEUN-PIEUP, TIKEUT-KIYEOK, RIEUL-NIEUN, SSANGRIEUL"⟩,
  ⟨0x111A, "HANGUL CHOSEONG ", "RIEUL-HIEUH, KAPYEOUNRIEUL, MIEUM-PIEUP, KAPYEOUNMIEUM"⟩,
  ⟨0x111E, "HANGUL CHOSEONG PIEUP-", "KIYEOK, NIEUN, TIKEUT, SIOS, SIOS-KIYEOK, SIOS-TIKEUT"⟩,
  ⟨0x1124, "HANGUL CHOSEONG PIEUP-", "SIOS-PIEUP, SSANGSIOS, SIOS-CIEUC, CIEUC, CHIEUCH"⟩,
  ⟨0x1129, "HANGUL CHOSEONG ", "PIEUP-THIEUTH, PIEUP-PHIEUPH, KAPYEOUNPIEUP, KAPYEOUNSSANGPIEUP"⟩,
  ⟨0x112D, "HANGUL CHOSEONG SIOS-", "KIYEOK, NIEUN, TIKEUT, RIEUL, MIEUM, PIEUP, PIEUP-KIYEOK"⟩,
  ⟨0x1134, "HANGUL CHOSEONG SIOS-", "SSANGSIOS, IEUNG, CIEUC, CHIEUCH, KHIEUKH, THIEUTH, PHIEUPH"⟩,
  ⟨0x113B, "HANGUL CHOSEONG ", "SIOS-HIEUH, CHITUEUMSIOS, CHITUEUMSSANGSIOS, CEONGCHIEUMSIOS"⟩,
  ⟨0x113F, "HANGUL CHOSEONG ", "CEONGCHIEUMSSANGSIOS, PANSIOS, IEUNG-KIYEOK, IEUNG-TIKEUT"⟩,
  ⟨0x1143, "HANGUL CHOSEONG ", "IEUNG-MIEUM, IEUNG-PIEUP, IEUNG-SIOS, IEUNG-PANSIOS, SSANGIEUNG"⟩,
  ⟨0x1148, "HANGUL CHOSEONG IEUNG-", "CIEUC, CHIEUCH, THIEUTH, PHIEUPH"⟩,
  ⟨0x114C, "HANGUL CHOSEONG ", "YESIEUNG, CIEUC-IEUNG, CHITUEUMCIEUC, CHITUEUMSSANGCIEUC"⟩,
  ⟨0x1150, "HANGUL CHOSEONG ", "CEONGCHIEUMCIEUC, CEONGCHIEUMSSANGCIEUC, CHIEUCH-KHIEUKH"⟩,
  ⟨0x1153, "HANGUL CHOSEONG ", "CHIEUCH-HIEUH, CHITUEUMCHIEUCH, CEONGCHIEUMCHIEUCH, PHIEUPH-PIEUP"⟩,
  ⟨0x1157, "HANGUL CHOSEONG ", "KAPYEOUNPHIEUPH, SSANGHIEUH, YEORINHIEUH, KIYEOK-TIKEUT"⟩,
  ⟨0x115B, "HANGUL CHOSEONG ", "NIEUN-SIOS, NIEUN-CIEUC, NIEUN-HIEUH, TIKEUT-RIEUL, FILLER"⟩,
  ⟨0x1160, "HANGUL JUNGSEONG ", "FILLER, A, AE, YA, YAE, EO, E"⟩,
  ⟨0x1167, "HANGUL JUNGSEONG ", "YEO, YE, O, WA, WAE, OE, YO, U, WEO, WE, WI, YU, EU, YI, I, A-O"⟩,
  ⟨0x1177, "HANGUL JUNGSEONG ", "A-U, YA-O, YA-YO, EO-O, EO-U, EO-EU, YEO-O, YEO-U, O-EO, O-E"⟩,
  ⟨0x1181, "HANGUL JUNGSEONG ", "O-YE, O-O, O-U, YO-YA, YO-YAE, YO-YEO, YO-O, YO-I, U-A, U-AE"⟩,
  ⟨0x118B, "HANGUL JUNGSEONG ", "U-EO-EU, U-YE, U-U, YU-A, YU-EO, YU-E, YU-YEO, YU-YE, YU-U, YU-I"⟩,
  ⟨0x1195, "HANGUL JUNGSEONG ", "EU-U, EU-EU, YI-U, I-A, I-YA, I-O, I-U, I-EU, I-ARAEA, ARAEA"⟩,
  ⟨0x119F, "HANGUL JUNGSEONG ", "ARAEA-EO, ARAEA-U, ARAEA-I, SSANGARAEA, A-EU, YA-U, YEO-YA"⟩,
  ⟨0x11A6, "HANGUL ", "JUNGSEONG O-YA, JUNGSEONG O-YAE, JONGSEONG KIYEOK, JONGSEONG SSANGKIYEOK"⟩,
  ⟨0x11AA, "HANGUL JONGSEONG ", "KIYEOK-SIOS, NIEUN, NIEUN-CIEUC, NIEUN-HIEUH, TIKEUT"⟩,
  ⟨0x11AF, "HANGUL JONGSEONG ", "RIEUL, RIEUL-KIYEOK, RIEUL-MIEUM, RIEUL-PIEUP, RIEUL-SIOS"⟩,
  ⟨0x11B4, "HANGUL JONGSEONG ", "RIEUL-THIEUTH, RIEUL-PHIEUPH, RIEUL-HIEUH, MIEUM, PIEUP"⟩,
  ⟨0x11B9, "HANGUL JONGSEONG ", "PIEUP-SIOS, SIOS, SSANGSIOS, IEUNG, CIEUC, CHIEUCH, KHIEUKH"⟩,
  ⟨0x11C0, "HANGUL JONGSEONG ", "THIEUTH, PHIEUPH, HIEUH, KIYEOK-RIEUL, KIYEOK-SIOS-KIYEOK"⟩,
  ⟨0x11C5, "HANGUL JONGSEONG NIEUN-", "KIYEOK, TIKEUT, SIOS, PANSIOS"⟩,
  ⟨0x11C9, "HANGUL JONGSEONG ", "NIEUN-THIEUTH, TIKEUT-KIYEOK, TIKEUT-RIEUL, RIEUL-KIYEOK-SIOS"⟩,
  ⟨0x11CD, "HANGUL JONGSEONG ", "RIEUL-NIEUN, RIEUL-TIKEUT, RIEUL-TIKEUT-HIEUH, SSANGRIEUL"⟩,
  ⟨0x11D1, "HANGUL JONGSEONG RIEUL-", "MIEUM-KIYEOK, MIEUM-SIOS, PIEUP-SIOS, PIEUP-HIEUH"⟩,
  ⟨0x11D5, "HANGUL JONGSEONG RIEUL-", "KAPYEOUNPIEUP, SSANGSIOS, PANSIOS, KHIEUKH, YEORINHIEUH"⟩,
  ⟨0x11DA, "HANGUL JONGSEONG MIEUM-", "KIYEOK, RIEUL, PIEUP, SIOS, SSANGSIOS"⟩,
  ⟨0x11DF, "HANGUL JONGSEONG ", "MIEUM-PANSIOS, MIEUM-CHIEUCH, MIEUM-HIEUH, KAPYEOUNMIEUM"⟩,
  ⟨0x11E3, "HANGUL JONGSEONG ", "PIEUP-RIEUL, PIEUP-PHIEUPH, PIEUP-HIEUH, KAPYEOUNPIEUP"⟩,
  ⟨0x11E7, "HANGUL JONGSEONG ", "SIOS-KIYEOK, SIOS-TIKEUT, SIOS-RIEUL, SIOS-PIEUP, PANSIOS"⟩,
  ⟨0x11EC, "HANGUL JONGSEONG ", "IEUNG-KIYEOK, IEUNG-SSANGKIYEOK, SSANGIEUNG, IEUNG-KHIEUKH"⟩,
  ⟨0x11F0, "HANGUL JONGSEONG ", "YESIEUNG, YESIEUNG-SIOS, YESIEUNG-PANSIOS, PHIEUPH-PIEUP"⟩,
  ⟨0x11F4, "HANGUL JONGSEONG ", "KAPYEOUNPHIEUPH, HIEUH-NIEUN, HIEUH-RIEUL, HIEUH-MIEUM"⟩,
  ⟨0x11F8, "HANGUL JONGSEONG ", "HIEUH-PIEUP, YEORINHIEUH, KIYEOK-NIEUN, KIYEOK-PIEUP"⟩,
  ⟨0x11FC, "HANGUL JONGSEONG ", "KIYEOK-CHIEUCH, KIYEOK-KHIEUKH, KIYEOK-HIEUH, SSANGNIEUN"⟩,
  ⟨0x1800, "MONGOLIAN ", "BIRGA, ELLIPSIS, COMMA, FULL STOP, COLON, FOUR DOTS, TODO SOFT HYPHEN"⟩,
  ⟨0x1807, "MONGOLIAN ", "SIBE SYLLABLE BOUNDARY MARKER, MANCHU COMMA, MANCHU FULL STOP, NIRUGU"⟩,
  ⟨0x180B, "MONGOLIAN FREE VARIATION SELECTOR ", "ONE, TWO, THREE"⟩,
  ⟨0x180E, "MONGOLIAN ", "VOWEL SEPARATOR, FREE VARIATION SELECTOR FOUR"⟩,
  ⟨0x1810, "MONGOLIAN DIGIT ", "ZERO, ONE, TWO, THREE, FOUR, FIVE, SIX, SEVEN, EIGHT, NINE"⟩,
  ⟨0x1820, "MONGOLIAN LETTER ", "A, E, I, O, U, OE"⟩,
  ⟨0x1826, "MONGOLIAN LETTER ", "UE, EE, NA, ANG, BA, PA, QA, GA, MA, LA, SA, SHA, TA, DA, CHA"⟩,
  ⟨0x1835, "MONGOLIAN LETTER ", "JA, YA, RA, WA, FA, KA, KHA, TSA, ZA, HAA, ZRA, LHA, ZHI, CHI"⟩,
  ⟨0x1843, "MONGOLIAN LETTER TODO ", "LONG VOWEL SIGN, E, I, O, U, OE, UE, ANG"⟩,
  ⟨0x184B, "MONGOLIAN LETTER TODO ", "BA, PA, QA, GA, MA, TA, DA, CHA, JA, TSA, YA, WA, KA, GAA"⟩,
  ⟨0x1859, "MONGOLIAN LETTER ", "TODO HAA, TODO JIA, TODO NIA, TODO DZA, SIBE E, SIBE I, SIBE IY"⟩,
  ⟨0x1860, "MONGOLIAN LETTER SIBE ", "UE, U, ANG, KA, GA, HA, PA, SHA, TA, DA, JA, FA, GAA, HAA"⟩,
  ⟨0x186E, "MONGOLIAN LETTER ", "SIBE TSA, SIBE ZA, SIBE RAA, SIBE CHA, SIBE ZHA, MANCHU I"⟩,
  ⟨0x1874, "MONGOLIAN LETTER ", "MANCHU KA, MANCHU RA, MANCHU FA, MANCHU ZHA, CHA WITH TWO DOTS"⟩,
  ⟨0x1880, "", "MONGOLIAN LETTER ALI GALI ANUSVARA ONE"⟩,
  ⟨0x1881, "MONGOLIAN LETTER ALI GALI ", "VISARGA ONE, DAMARU, UBADAMA, INVERTED UBADAMA"⟩,
  ⟨0x1885, "MONGOLIAN LETTER ALI GALI ", "BALUDA, THREE BALUDA, A, I, KA, NGA, CA"⟩,
  ⟨0x188C, "MONGOLIAN LETTER ALI GALI ", "TTA, TTHA, DDA, NNA, TA, DA, PA, PHA, SSA, ZHA, ZA, AH"⟩,
  ⟨0x1898, "MONGOLIAN LETTER ", "TODO ALI GALI TA, TODO ALI GALI ZHA, MANCHU ALI GALI GHA"⟩,
  ⟨0x189B, "MONGOLIAN LETTER MANCHU ALI GALI ", "NGA, CA, JHA, TTA, DDHA, TA, DHA, SSA, CYA, ZHA"⟩,
  ⟨0x18A5, "MONGOLIAN LETTER ", "MANCHU ALI GALI ZA, ALI GALI HALF U, ALI GALI HALF YA"⟩,
  ⟨0x18A8, "MONGOLIAN LETTER ", "MANCHU ALI GALI BHA, ALI GALI DAGALGA, MANCHU ALI GALI LHA"⟩,
  ⟨0x2460, "CIRCLED DIGIT ", "ONE, TWO, THREE, FOUR, FIVE, SIX, SEVEN, EIGHT"⟩,
  ⟨0x2468, "CIRCLED ", "DIGIT NINE, NUMBER TEN, NUMBER ELEVEN, NUMBER TWELVE, NUMBER THIRTEEN"⟩,
  ⟨0x246D, "CIRCLED NUMBER ", "FOURTEEN, FIFTEEN, SIXTEEN, SEVENTEEN, EIGHTEEN, NINETEEN, TWENTY"⟩,
  ⟨0x2474, "PARENTHESIZED DIGIT ", "ONE, TWO, THREE, FOUR, FIVE, SIX, SEVEN, EIGHT, NINE"⟩,
  ⟨0x247D, "PARENTHESIZED NUMBER ", "TEN, ELEVEN, TWELVE, THIRTEEN, FOURTEEN"⟩,
  ⟨0x2482, "PARENTHESIZED NUMBER ", "FIFTEEN, SIXTEEN, SEVENTEEN, EIGHTEEN, NINETEEN, TWENTY"⟩,
  ⟨0x2488, "DIGIT ", "ONE FULL STOP, TWO FULL STOP, THREE FULL STOP"⟩,
  ⟨0x248B, "DIGIT ", "FOUR FULL STOP, FIVE FULL STOP, SIX FULL STOP, SEVEN FULL STOP"⟩,
  ⟨0x248F, "", "DIGIT EIGHT FULL STOP, DIGIT NINE FULL STOP, NUMBER TEN FULL STOP"⟩,
  ⟨0x2492, "NUMBER ", "ELEVEN FULL STOP, TWELVE FULL STOP, THIRTEEN FULL STOP, FOURTEEN FULL STOP"⟩,
  ⟨0x2496, "NUMBER ", "FIFTEEN FULL STOP, SIXTEEN FULL STOP, SEVENTEEN FULL STOP"⟩,
  ⟨0x2499, "NUMBER ", "EIGHTEEN FULL STOP, NINETEEN FULL STOP, TWENTY FULL STOP"⟩,
  ⟨0x249C, "PARENTHESIZED LATIN SMALL LETTER ", "A, B, C, D, E, F, G, H, I, J"⟩,
  ⟨0x24A6, "PARENTHESIZED LATIN SMALL LETTER ", "K, L, M, N, O, P, Q, R, S, T, U, V, W, X, Y, Z"⟩,
  ⟨0x24B6, "CIRCLED LATIN CAPITAL LETTER ", "A, B, C, D, E, F, G, H"⟩,
  ⟨0x24BE, "CIRCLED LATIN CAPITAL LETTER ", "I, J, K, L, M, N, O, P, Q, R, S, T, U, V, W, X, Y, Z"⟩,
  ⟨0x24D0, "CIRCLED LATIN SMALL LETTER ", "A, B, C, D, E, F"⟩,
  ⟨0x24D6, "CIRCLED LATIN SMALL LETTER ", "G, H, I, J, K, L, M, N, O, P, Q, R, S, T, U, V, W, X"⟩,
  ⟨0x24E8, "CIRCLED ", "LATIN SMALL LETTER Y, LATIN SMALL LETTER Z, DIGIT ZERO"⟩,
  ⟨0x24EB, "NEGATIVE CIRCLED NUMBER ", "ELEVEN, TWELVE, THIRTEEN, FOURTEEN"⟩,
  ⟨0x24EF, "NEGATIVE CIRCLED NUMBER ", "FIFTEEN, SIXTEEN, SEVENTEEN, EIGHTEEN, NINETEEN, TWENTY"⟩,
  ⟨0x24F5, "DOUBLE CIRCLED DIGIT ", "ONE, TWO, THREE, FOUR, FIVE, SIX, SEVEN, EIGHT"⟩,
  ⟨0x24FD, "", "DOUBLE CIRCLED DIGIT NINE, DOUBLE CIRCLED NUMBER TEN, NEGATIVE CIRCLED DIGIT ZERO"⟩,
  ⟨0x3000, "IDEOGRAPHIC ", "SPACE, COMMA"⟩,
  ⟨0x3002, "", "IDEOGRAPHIC FULL STOP, DITTO MARK, JAPANESE INDUSTRIAL STANDARD SYMBOL"⟩,
  ⟨0x3005, "IDEOGRAPHIC ", "ITERATION MARK, CLOSING MARK"⟩,
  ⟨0x3007, "", "IDEOGRAPHIC NUMBER ZERO, LEFT ANGLE BRACKET, RIGHT ANGLE BRACKET"⟩,
  ⟨0x300A, "", "LEFT DOUBLE ANGLE BRACKET, RIGHT DOUBLE ANGLE BRACKET, LEFT CORNER BRACKET"⟩,
  ⟨0x300D, "", "RIGHT CORNER BRACKET, LEFT WHITE CORNER BRACKET, RIGHT WHITE CORNER BRACKET"⟩,
  ⟨0x3010, "", "LEFT BLACK LENTICULAR BRACKET, RIGHT BLACK LENTICULAR BRACKET"⟩,
  ⟨0x3012, "", "POSTAL MARK, GETA MARK, LEFT TORTOISE SHELL BRACKET"⟩,
  ⟨0x3015, "", "RIGHT TORTOISE SHELL BRACKET, LEFT WHITE LENTICULAR BRACKET"⟩,
  ⟨0x3017, "", "RIGHT WHITE LENTICULAR BRACKET, LEFT WHITE TORTOISE SHELL BRACKET"⟩,
  ⟨0x3019, "", "RIGHT WHITE TORTOISE SHELL BRACKET, LEFT WHITE SQUARE BRACKET"⟩,
  ⟨0x301B, "", "RIGHT WHITE SQUARE BRACKET, WAVE DASH, REVERSED DOUBLE PRIME QUOTATION MARK"⟩,
  ⟨0x301E, "", "DOUBLE PRIME QUOTATION MARK, LOW DOUBLE PRIME QUOTATION MARK, POSTAL MARK FACE"⟩,
  ⟨0x3021, "HANGZHOU NUMERAL ", "ONE, TWO, THREE, FOUR, FIVE, SIX, SEVEN"⟩,
  ⟨0x3028, "", "HANGZHOU NUMERAL EIGHT, HANGZHOU NUMERAL NINE, IDEOGRAPHIC LEVEL TONE MARK"⟩,
  ⟨0x302B, "IDEOGRAPHIC ", "RISING TONE MARK, DEPARTING TONE MARK, ENTERING TONE MARK"⟩,
  ⟨0x302E, "", "HANGUL SINGLE DOT TONE MARK, HANGUL DOUBLE DOT TONE MARK, WAVY DASH"⟩,
  ⟨0x3031, "VERTICAL KANA REPEAT ", "MARK, WITH VOICED SOUND MARK, MARK UPPER HALF"⟩,
  ⟨0x3034, "VERTICAL KANA REPEAT ", "WITH VOICED SOUND MARK UPPER HALF, MARK LOWER HALF"⟩,
  ⟨0x3036, "", "CIRCLED POSTAL MARK, IDEOGRAPHIC TELEGRAPH LINE FEED SEPARATOR SYMBOL"⟩,
  ⟨0x3038, "HANGZHOU NUMERAL ", "TEN, TWENTY, THIRTY"⟩,
  ⟨0x303B, "", "VERTICAL IDEOGRAPHIC ITERATION MARK, MASU MARK, PART ALTERNATION MARK"⟩,
  ⟨0x303E, "IDEOGRAPHIC ", "VARIATION INDICATOR, HALF FILL SPACE"⟩,
  ⟨0x3041, "HIRAGANA LETTER ", "SMALL A, A, SMALL I"⟩,
  ⟨0x3044, "HIRAGANA LETTER ", "I, SMALL U, U, SMALL E, E, SMALL O, O, KA, GA, KI, GI, KU"⟩,
  ⟨0x3050, "HIRAGANA LETTER ", "GU, KE, GE, KO, GO, SA, ZA, SI, ZI, SU, ZU, SE, ZE, SO, ZO, TA"⟩,
  ⟨0x3060, "HIRAGANA LETTER ", "DA, TI, DI, SMALL TU, TU, DU, TE, DE, TO, DO, NA, NI, NU, NE, NO"⟩,
  ⟨0x306F, "HIRAGANA LETTER ", "HA, BA, PA, HI, BI, PI, HU, BU, PU, HE, BE, PE, HO, BO, PO, MA"⟩,
  ⟨0x307F, "HIRAGANA LETTER ", "MI, MU, ME, MO, SMALL YA, YA, SMALL YU, YU, SMALL YO, YO, RA, RI"⟩,
  ⟨0x308B, "HIRAGANA LETTER ", "RU, RE, RO, SMALL WA, WA, WI, WE, WO, N, VU, SMALL KA, SMALL KE"⟩,
  ⟨0x3099, "COMBINING KATAKANA-HIRAGANA ", "VOICED SOUND MARK, SEMI-VOICED SOUND MARK"⟩,
  ⟨0x309B, "KATAKANA-HIRAGANA ", "VOICED SOUND MARK, SEMI-VOICED SOUND MARK"⟩,
  ⟨0x309D, "HIRAGANA ", "ITERATION MARK, VOICED ITERATION MARK"⟩,
  ⟨0x309F, "", "HIRAGANA DIGRAPH YORI, KATAKANA-HIRAGANA DOUBLE HYPHEN"⟩,
  ⟨0x30A1, "KATAKANA LETTER ", "SMALL A, A, SMALL I, I, SMALL U"⟩,
  ⟨0x30A6, "KATAKANA LETTER ", "U, SMALL E, E, SMALL O, O, KA, GA, KI, GI, KU, GU, KE, GE"⟩,
  ⟨0x30B3, "KATAKANA LETTER ", "KO, GO, SA, ZA, SI, ZI, SU, ZU, SE, ZE, SO, ZO, TA, DA, TI, DI"⟩,
  ⟨0x30C3, "KATAKANA LETTER ", "SMALL TU, TU, DU, TE, DE, TO, DO, NA, NI, NU, NE, NO, HA, BA, PA"⟩,
  ⟨0x30D2, "KATAKANA LETTER ", "HI, BI, PI, HU, BU, PU, HE, BE, PE, HO, BO, PO, MA, MI, MU, ME"⟩,
  ⟨0x30E2, "KATAKANA LETTER ", "MO, SMALL YA, YA, SMALL YU, YU, SMALL YO, YO, RA, RI, RU, RE, RO"⟩,
  ⟨0x30EE, "KATAKANA LETTER ", "SMALL WA, WA, WI, WE, WO, N, VU, SMALL KA, SMALL KE, VA, VI, VE"⟩,
  ⟨0x30FA, "", "KATAKANA LETTER VO, KATAKANA MIDDLE DOT, KATAKANA-HIRAGANA PROLONGED SOUND MARK"⟩,
  ⟨0x30FD, "KATAKANA ", "ITERATION MARK, VOICED ITERATION MARK, DIGRAPH KOTO"⟩,
  ⟨0x3105, "BOPOMOFO LETTER ", "B, P, M, F, D, T, N, L, G, K, H"⟩,
  ⟨0x3110, "BOPOMOFO LETTER ", "J, Q, X, ZH, CH, SH, R, Z, C, S, A, O, E, EH, AI, EI, AU, OU, AN"⟩,
  ⟨0x3123, "BOPOMOFO LETTER ", "EN, ANG, ENG, ER, I, U, IU, V, NG, GN, IH, O WITH DOT ABOVE, NN"⟩,
  ⟨0x3131, "HANGUL LETTER ", "KIYEOK, SSANGKIYEOK, KIYEOK-SIOS"⟩,
  ⟨0x3134, "HANGUL LETTER ", "NIEUN, NIEUN-CIEUC, NIEUN-HIEUH, TIKEUT, SSANGTIKEUT, RIEUL"⟩,
  ⟨0x313A, "HANGUL LETTER RIEUL-", "KIYEOK, MIEUM, PIEUP, SIOS, THIEUTH, PHIEUPH"⟩,
  ⟨0x3140, "HANGUL LETTER ", "RIEUL-HIEUH, MIEUM, PIEUP, SSANGPIEUP, PIEUP-SIOS, SIOS, SSANGSIOS"⟩,
  ⟨0x3147, "HANGUL LETTER ", "IEUNG, CIEUC, SSANGCIEUC, CHIEUCH, KHIEUKH, THIEUTH, PHIEUPH"⟩,
  ⟨0x314E, "HANGUL LETTER ", "HIEUH, A, AE, YA, YAE, EO, E, YEO, YE, O, WA, WAE, OE, YO, U, WEO"⟩,
  ⟨0x315E, "HANGUL ", "LETTER WE, LETTER WI, LETTER YU, LETTER EU, LETTER YI, LETTER I, FILLER"⟩,
  ⟨0x3165, "HANGUL LETTER ", "SSANGNIEUN, NIEUN-TIKEUT, NIEUN-SIOS, NIEUN-PANSIOS"⟩,
  ⟨0x3169, "HANGUL LETTER RIEUL-", "KIYEOK-SIOS, TIKEUT, PIEUP-SIOS, PANSIOS, YEORINHIEUH"⟩,
  ⟨0x316E, "HANGUL LETTER ", "MIEUM-PIEUP, MIEUM-SIOS, MIEUM-PANSIOS, KAPYEOUNMIEUM"⟩,
  ⟨0x3172, "HANGUL LETTER PIEUP-", "KIYEOK, TIKEUT, SIOS-KIYEOK, SIOS-TIKEUT"⟩,
  ⟨0x3176, "HANGUL LETTER ", "PIEUP-CIEUC, PIEUP-THIEUTH, KAPYEOUNPIEUP, KAPYEOUNSSANGPIEUP"⟩,
  ⟨0x317A, "HANGUL LETTER SIOS-", "KIYEOK, NIEUN, TIKEUT, PIEUP"⟩,
  ⟨0x317E, "HANGUL LETTER ", "SIOS-CIEUC, PANSIOS, SSANGIEUNG, YESIEUNG, YESIEUNG-SIOS"⟩,
  ⟨0x3183, "HANGUL LETTER ", "YESIEUNG-PANSIOS, KAPYEOUNPHIEUPH, SSANGHIEUH, YEORINHIEUH"⟩,
  ⟨0x3187, "HANGUL LETTER ", "YO-YA, YO-YAE, YO-I, YU-YEO, YU-YE, YU-I, ARAEA, ARAEAE"⟩,
  ⟨0x3190, "IDEOGRAPHIC ANNOTATION ", "LINKING MARK, REVERSE MARK"⟩,
  ⟨0x3192, "IDEOGRAPHIC ANNOTATION ", "ONE MARK, TWO MARK, THREE MARK, FOUR MARK, TOP MARK"⟩,
  ⟨0x3197, "IDEOGRAPHIC ANNOTATION ", "MIDDLE MARK, BOTTOM MARK, FIRST MARK, SECOND MARK"⟩,
  ⟨0x319B, "IDEOGRAPHIC ANNOTATION ", "THIRD MARK, FOURTH MARK, HEAVEN MARK, EARTH MARK"⟩,
  ⟨0x319F, "", "IDEOGRAPHIC ANNOTATION MAN MARK, BOPOMOFO LETTER BU, BOPOMOFO LETTER ZI"⟩,
  ⟨0x31A2, "BOPOMOFO LETTER ", "JI, GU, EE, ENN, OO, ONN, IR, ANN, INN, UNN, IM, NGG, AINN, AUNN"⟩,
  ⟨0x31B0, "BOPOMOFO ", "LETTER AM, LETTER OM, LETTER ONG, LETTER INNN, FINAL LETTER P"⟩,
  ⟨0x31B5, "BOPOMOFO ", "FINAL LETTER T, FINAL LETTER K, FINAL LETTER H, LETTER GH, LETTER LH"⟩,
  ⟨0x31BA, "BOPOMOFO ", "LETTER ZY, FINAL LETTER G, LETTER GW, LETTER KW, LETTER OE, LETTER AH"⟩,
  ⟨0x31C0, "CJK STROKE ", "T, WG, XG, BXG, SW"⟩,
  ⟨0x31C5, "CJK STROKE ", "HZZ, HZG, HP, HZWG, SZWG, HZT, HZZP, HPWG, HZW, HZZZ, N, H, S, P, SP"⟩,
  ⟨0x31D4, "CJK STROKE ", "D, HZ, HG, SZ, SWZ, ST, SG, PD, PZ, TN, SZZ, SWG, HXWG, HZZZG, PG, Q"⟩,
  ⟨0x31F0, "KATAKANA LETTER SMALL ", "KU, SI, SU, TO, NU, HA, HI, HU, HE, HO, MU, RA, RI, RU"⟩,
  ⟨0x31FE, "", "KATAKANA LETTER SMALL RE, KATAKANA LETTER SMALL RO, PARENTHESIZED HANGUL KIYEOK"⟩,
  ⟨0x3201, "PARENTHESIZED HANGUL ", "NIEUN, TIKEUT, RIEUL, MIEUM, PIEUP, SIOS, IEUNG, CIEUC"⟩,
  ⟨0x3209, "PARENTHESIZED HANGUL ", "CHIEUCH, KHIEUKH, THIEUTH, PHIEUPH, HIEUH, KIYEOK A, NIEUN A"⟩,
  ⟨0x3210, "PARENTHESIZED HANGUL ", "TIKEUT A, RIEUL A, MIEUM A, PIEUP A, SIOS A, IEUNG A"⟩,
  ⟨0x3216, "PARENTHESIZED HANGUL ", "CIEUC A, CHIEUCH A, KHIEUKH A, THIEUTH A, PHIEUPH A, HIEUH A"⟩,
  ⟨0x321C, "PARENTHESIZED ", "HANGUL CIEUC U, KOREAN CHARACTER OJEON, KOREAN CHARACTER O HU"⟩,
  ⟨0x3220, "PARENTHESIZED IDEOGRAPH ", "ONE, TWO, THREE, FOUR, FIVE, SIX, SEVEN, EIGHT, NINE"⟩,
  ⟨0x3229, "PARENTHESIZED IDEOGRAPH ", "TEN, MOON, FIRE, WATER, WOOD, METAL, EARTH, SUN, STOCK"⟩,
  ⟨0x3232, "PARENTHESIZED IDEOGRAPH ", "HAVE, SOCIETY, NAME, SPECIAL, FINANCIAL, CONGRATULATION"⟩,
  ⟨0x3238, "PARENTHESIZED IDEOGRAPH ", "LABOR, REPRESENT, CALL, STUDY, SUPERVISE, ENTERPRISE"⟩,
  ⟨0x323E, "PARENTHESIZED IDEOGRAPH ", "RESOURCE, ALLIANCE, FESTIVAL, REST, SELF, REACH"⟩,
  ⟨0x3244, "CIRCLED IDEOGRAPH ", "QUESTION, KINDERGARTEN"⟩,
  ⟨0x3246, "CIRCLED ", "IDEOGRAPH SCHOOL, IDEOGRAPH KOTO, NUMBER TEN ON BLACK SQUARE"⟩,
  ⟨0x3249, "CIRCLED NUMBER ", "TWENTY ON BLACK SQUARE, THIRTY ON BLACK SQUARE"⟩,
  ⟨0x324B, "CIRCLED NUMBER ", "FORTY ON BLACK SQUARE, FIFTY ON BLACK SQUARE"⟩,
  ⟨0x324D, "CIRCLED NUMBER ", "SIXTY ON BLACK SQUARE, SEVENTY ON BLACK SQUARE"⟩,
  ⟨0x324F, "", "CIRCLED NUMBER EIGHTY ON BLACK SQUARE, PARTNERSHIP SIGN"⟩,
  ⟨0x3251, "CIRCLED NUMBER TWENTY ", "ONE, TWO, THREE, FOUR, FIVE, SIX, SEVEN, EIGHT, NINE"⟩,
  ⟨0x325A, "CIRCLED NUMBER ", "THIRTY, THIRTY ONE, THIRTY TWO, THIRTY THREE, THIRTY FOUR"⟩,
  ⟨0x325F, "CIRCLED ", "NUMBER THIRTY FIVE, HANGUL KIYEOK, HANGUL NIEUN, HANGUL TIKEUT"⟩,
  ⟨0x3263, "CIRCLED HANGUL ", "RIEUL, MIEUM, PIEUP, SIOS, IEUNG, CIEUC, CHIEUCH, KHIEUKH, THIEUTH"⟩,
  ⟨0x326C, "CIRCLED HANGUL ", "PHIEUPH, HIEUH, KIYEOK A, NIEUN A, TIKEUT A, RIEUL A, MIEUM A"⟩,
  ⟨0x3273, "CIRCLED HANGUL ", "PIEUP A, SIOS A, IEUNG A, CIEUC A, CHIEUCH A, KHIEUKH A, THIEUTH A"⟩,
  ⟨0x327A, "CIRCLED ", "HANGUL PHIEUPH A, HANGUL HIEUH A, KOREAN CHARACTER CHAMKO"⟩,
  ⟨0x327D, "", "CIRCLED KOREAN CHARACTER JUEUI, CIRCLED HANGUL IEUNG U, KOREAN STANDARD SYMBOL"⟩,
  ⟨0x3280, "CIRCLED IDEOGRAPH ", "ONE, TWO, THREE, FOUR, FIVE, SIX, SEVEN, EIGHT, NINE, TEN, MOON"⟩,
  ⟨0x328B, "CIRCLED IDEOGRAPH ", "FIRE, WATER, WOOD, METAL, EARTH, SUN, STOCK, HAVE, SOCIETY"⟩,
  ⟨0x3294, "CIRCLED IDEOGRAPH ", "NAME, SPECIAL, FINANCIAL, CONGRATULATION, LABOR, SECRET, MALE"⟩,
  ⟨0x329B, "CIRCLED IDEOGRAPH ", "FEMALE, SUITABLE, EXCELLENT, PRINT, ATTENTION, ITEM, REST, COPY"⟩,
  ⟨0x32A3, "CIRCLED IDEOGRAPH ", "CORRECT, HIGH, CENTRE, LOW, LEFT, RIGHT, MEDICINE, RELIGION"⟩,
  ⟨0x32AB, "CIRCLED IDEOGRAPH ", "STUDY, SUPERVISE, ENTERPRISE, RESOURCE, ALLIANCE, NIGHT"⟩,
  ⟨0x32B1, "CIRCLED NUMBER THIRTY ", "SIX, SEVEN, EIGHT"⟩,
  ⟨0x32B4, "CIRCLED NUMBER ", "THIRTY NINE, FORTY, FORTY ONE, FORTY TWO, FORTY THREE, FORTY FOUR"⟩,
  ⟨0x32BA, "CIRCLED NUMBER ", "FORTY FIVE, FORTY SIX, FORTY SEVEN, FORTY EIGHT, FORTY NINE, FIFTY"⟩,
  ⟨0x32C0, "IDEOGRAPHIC TELEGRAPH SYMBOL FOR ", "JANUARY, FEBRUARY, MARCH, APRIL, MAY, JUNE, JULY"⟩,
  ⟨0x32C7, "IDEOGRAPHIC TELEGRAPH SYMBOL FOR ", "AUGUST, SEPTEMBER, OCTOBER, NOVEMBER, DECEMBER"⟩,
  ⟨0x32CC, "", "SQUARE HG, SQUARE ERG, SQUARE EV, LIMITED LIABILITY SIGN"⟩,
  ⟨0x32D0, "CIRCLED KATAKANA ", "A, I, U, E, O, KA, KI, KU, KE, KO, SA, SI, SU, SE, SO"⟩,
  ⟨0x32DF, "CIRCLED KATAKANA ", "TA, TI, TU, TE, TO, NA, NI, NU, NE, NO, HA, HI, HU, HE, HO, MA"⟩,
  ⟨0x32EF, "CIRCLED KATAKANA ", "MI, MU, ME, MO, YA, YU, YO, RA, RI, RU, RE, RO, WA, WI, WE, WO"⟩,
  ⟨0x32FF, "SQUARE ", "ERA NAME REIWA, APAATO, ARUHUA, ANPEA, AARU"⟩,
  ⟨0x3304, "SQUARE ", "ININGU, INTI, UON, ESUKUUDO, EEKAA, ONSU, OOMU, KAIRI, KARATTO, KARORII"⟩,
  ⟨0x330E, "SQUARE ", "GARON, GANMA, GIGA, GINII, KYURII, GIRUDAA, KIRO, KIROGURAMU, KIROMEETORU"⟩,
  ⟨0x3317, "SQUARE ", "KIROWATTO, GURAMU, GURAMUTON, KURUZEIRO, KUROONE, KEESU, KORUNA, KOOPO"⟩,
  ⟨0x331F, "SQUARE ", "SAIKURU, SANTIIMU, SIRINGU, SENTI, SENTO, DAASU, DESI, DORU, TON, NANO"⟩,
  ⟨0x3329, "SQUARE ", "NOTTO, HAITU, PAASENTO, PAATU, BAARERU, PIASUTORU, PIKURU, PIKO, BIRU"⟩,
  ⟨0x3332, "SQUARE ", "HUARADDO, HUIITO, BUSSYERU, HURAN, HEKUTAARU, PESO, PENIHI, HERUTU, PENSU"⟩,
  ⟨0x333B, "SQUARE ", "PEEZI, BEETA, POINTO, BORUTO, HON, PONDO, HOORU, HOON, MAIKURO, MAIRU"⟩,
  ⟨0x3345, "SQUARE ", "MAHHA, MARUKU, MANSYON, MIKURON, MIRI, MIRIBAARU, MEGA, MEGATON, MEETORU"⟩,
  ⟨0x334E, "SQUARE ", "YAADO, YAARU, YUAN, RITTORU, RIRA, RUPII, RUUBURU, REMU, RENTOGEN, WATTO"⟩,
  ⟨0x3358, "IDEOGRAPHIC TELEGRAPH SYMBOL FOR HOUR ", "ZERO, ONE, TWO, THREE, FOUR, FIVE, SIX"⟩,
  ⟨0x335F, "IDEOGRAPHIC TELEGRAPH SYMBOL FOR HOUR ", "SEVEN, EIGHT, NINE, TEN, ELEVEN, TWELVE"⟩,
  ⟨0x3365, "IDEOGRAPHIC TELEGRAPH SYMBOL FOR HOUR ", "THIRTEEN, FOURTEEN, FIFTEEN, SIXTEEN"⟩,
  ⟨0x3369, "IDEOGRAPHIC TELEGRAPH SYMBOL FOR HOUR ", "SEVENTEEN, EIGHTEEN, NINETEEN, TWENTY"⟩,
  ⟨0x336D, "IDEOGRAPHIC TELEGRAPH SYMBOL FOR HOUR TWENTY-", "ONE, TWO, THREE, FOUR"⟩,
  ⟨0x3371, "SQUARE ", "HPA, DA, AU, BAR, OV, PC, DM, DM SQUARED"⟩,
  ⟨0x3379, "SQUARE ", "DM CUBED, IU, ERA NAME HEISEI, ERA NAME SYOUWA, ERA NAME TAISYOU"⟩,
  ⟨0x337E, "SQUARE ", "ERA NAME MEIZI, CORPORATION, PA AMPS, NA, MU A, MA, KA, KB, MB, GB, CAL"⟩,
  ⟨0x3389, "SQUARE ", "KCAL, PF, NF, MU F, MU G, MG, KG, HZ, KHZ, MHZ, GHZ, THZ, MU L, ML, DL, KL"⟩,
  ⟨0x3399, "SQUARE ", "FM, NM, MU M, MM, CM, KM, MM SQUARED, CM SQUARED, M SQUARED, KM SQUARED"⟩,
  ⟨0x33A3, "SQUARE ", "MM CUBED, CM CUBED, M CUBED, KM CUBED, M OVER S, M OVER S SQUARED, PA, KPA"⟩,
  ⟨0x33AB, "SQUARE ", "MPA, GPA, RAD, RAD OVER S, RAD OVER S SQUARED, PS, NS, MU S, MS, PV, NV"⟩,
  ⟨0x33B6, "SQUARE ", "MU V, MV, KV, MV MEGA, PW, NW, MU W, MW, KW, MW MEGA, K OHM, M OHM, AM, BQ"⟩,
  ⟨0x33C4, "SQUARE ", "CC, CD, C OVER KG, CO, DB, GY, HA, HP, IN, KK, KM CAPITAL, KT, LM, LN, LOG"⟩,
  ⟨0x33D3, "SQUARE ", "LX, MB SMALL, MIL, MOL, PH, PM, PPM, PR, SR, SV, WB, V OVER M, A OVER M"⟩,
  ⟨0x33E0, "IDEOGRAPHIC TELEGRAPH SYMBOL FOR DAY ", "ONE, TWO, THREE, FOUR, FIVE, SIX, SEVEN"⟩,
  ⟨0x33E7, "IDEOGRAPHIC TELEGRAPH SYMBOL FOR DAY ", "EIGHT, NINE, TEN, ELEVEN, TWELVE, THIRTEEN"⟩,
  ⟨0x33ED, "IDEOGRAPHIC TELEGRAPH SYMBOL FOR DAY ", "FOURTEEN, FIFTEEN, SIXTEEN, SEVENTEEN"⟩,
  ⟨0x33F1, "IDEOGRAPHIC TELEGRAPH SYMBOL FOR DAY ", "EIGHTEEN, NINETEEN, TWENTY, TWENTY-ONE"⟩,
  ⟨0x33F5, "IDEOGRAPHIC TELEGRAPH SYMBOL FOR DAY TWENTY-", "TWO, THREE, FOUR, FIVE, SIX, SEVEN"⟩,
  ⟨0x33FB, "IDEOGRAPHIC TELEGRAPH SYMBOL FOR DAY ", "TWENTY-EIGHT, TWENTY-NINE, THIRTY"⟩,
  ⟨0x33FE, "", "IDEOGRAPHIC TELEGRAPH SYMBOL FOR DAY THIRTY-ONE, SQUARE GAL"⟩,
  ⟨0xA4D0, "LISU LETTER ", "BA, PA, PHA, DA, TA, THA"⟩,
  ⟨0xA4D6, "LISU LETTER ", "GA, KA, KHA, JA, CA, CHA, DZA, TSA, TSHA, MA, NA, LA, SA, ZHA, ZA"⟩,
  ⟨0xA4E5, "LISU LETTER ", "NGA, HA, XA, HHA, FA, WA, SHA, YA, GHA, A, AE, E, EU, I, O, U, UE, UH"⟩,
  ⟨0xA4F7, "LISU LETTER ", "OE, TONE MYA TI, TONE NA PO, TONE MYA CYA, TONE MYA BO, TONE MYA NA"⟩,
  ⟨0xA4FD, "LISU ", "LETTER TONE MYA JEU, PUNCTUATION COMMA, PUNCTUATION FULL STOP"⟩,
  ⟨0xA960, "HANGUL CHOSEONG TIKEUT-", "MIEUM, PIEUP, SIOS"⟩,
  ⟨0xA963, "HANGUL CHOSEONG ", "TIKEUT-CIEUC, RIEUL-KIYEOK, RIEUL-SSANGKIYEOK, RIEUL-TIKEUT"⟩,
  ⟨0xA967, "HANGUL CHOSEONG RIEUL-", "SSANGTIKEUT, MIEUM, PIEUP, SSANGPIEUP, KAPYEOUNPIEUP, SIOS"⟩,
  ⟨0xA96D, "HANGUL CHOSEONG ", "RIEUL-CIEUC, RIEUL-KHIEUKH, MIEUM-KIYEOK, MIEUM-TIKEUT"⟩,
  ⟨0xA971, "HANGUL CHOSEONG ", "MIEUM-SIOS, PIEUP-SIOS-THIEUTH, PIEUP-KHIEUKH, PIEUP-HIEUH"⟩,
  ⟨0xA975, "HANGUL CHOSEONG ", "SSANGSIOS-PIEUP, IEUNG-RIEUL, IEUNG-HIEUH, SSANGCIEUC-HIEUH"⟩,
  ⟨0xA979, "HANGUL CHOSEONG ", "SSANGTHIEUTH, PHIEUPH-HIEUH, HIEUH-SIOS, SSANGYEORINHIEUH"⟩,
  ⟨0xD7B0, "HANGUL JUNGSEONG ", "O-YEO, O-O-I, YO-A, YO-AE, YO-EO"⟩,
  ⟨0xD7B5, "HANGUL JUNGSEONG ", "U-YEO, U-I-I, YU-AE, YU-O, EU-A, EU-EO, EU-E, EU-O, I-YA-O"⟩,
  ⟨0xD7BE, "HANGUL JUNGSEONG ", "I-YAE, I-YEO, I-YE, I-O-I, I-YO, I-YU, I-I, ARAEA-A, ARAEA-E"⟩,
  ⟨0xD7CB, "HANGUL JONGSEONG ", "NIEUN-RIEUL, NIEUN-CHIEUCH, SSANGTIKEUT"⟩,
  ⟨0xD7CE, "HANGUL JONGSEONG ", "SSANGTIKEUT-PIEUP, TIKEUT-PIEUP, TIKEUT-SIOS, TIKEUT-SIOS-KIYEOK"⟩,
  ⟨0xD7D2, "HANGUL JONGSEONG ", "TIKEUT-CIEUC, TIKEUT-CHIEUCH, TIKEUT-THIEUTH, RIEUL-SSANGKIYEOK"⟩,
  ⟨0xD7D6, "HANGUL JONGSEONG ", "RIEUL-KIYEOK-HIEUH, SSANGRIEUL-KHIEUKH, RIEUL-MIEUM-HIEUH"⟩,
  ⟨0xD7D9, "HANGUL JONGSEONG RIEUL-", "PIEUP-TIKEUT, PIEUP-PHIEUPH, YESIEUNG, YEORINHIEUH-HIEUH"⟩,
  ⟨0xD7DD, "HANGUL JONGSEONG ", "KAPYEOUNRIEUL, MIEUM-NIEUN, MIEUM-SSANGNIEUN, SSANGMIEUM"⟩,
  ⟨0xD7E1, "HANGUL JONGSEONG ", "MIEUM-PIEUP-SIOS, MIEUM-CIEUC, PIEUP-TIKEUT, PIEUP-RIEUL-PHIEUPH"⟩,
  ⟨0xD7E5, "HANGUL JONGSEONG ", "PIEUP-MIEUM, SSANGPIEUP, PIEUP-SIOS-TIKEUT, PIEUP-CIEUC"⟩,
  ⟨0xD7E9, "HANGUL JONGSEONG ", "PIEUP-CHIEUCH, SIOS-MIEUM, SIOS-KAPYEOUNPIEUP, SSANGSIOS-KIYEOK"⟩,
  ⟨0xD7ED, "HANGUL JONGSEONG ", "SSANGSIOS-TIKEUT, SIOS-PANSIOS, SIOS-CIEUC, SIOS-CHIEUCH"⟩,
  ⟨0xD7F1, "HANGUL JONGSEONG ", "SIOS-THIEUTH, SIOS-HIEUH, PANSIOS-PIEUP, PANSIOS-KAPYEOUNPIEUP"⟩,
  ⟨0xD7F5, "HANGUL JONGSEONG ", "YESIEUNG-MIEUM, YESIEUNG-HIEUH, CIEUC-PIEUP"⟩,
  ⟨0xD7F8, "HANGUL JONGSEONG ", "CIEUC-SSANGPIEUP, SSANGCIEUC, PHIEUPH-SIOS, PHIEUPH-THIEUTH"⟩,
  ⟨0xFE10, "PRESENTATION FORM FOR VERTICAL ", "COMMA, IDEOGRAPHIC COMMA, IDEOGRAPHIC FULL STOP"⟩,
  ⟨0xFE13, "PRESENTATION FORM FOR VERTICAL ", "COLON, SEMICOLON, EXCLAMATION MARK"⟩,
  ⟨0xFE16, "PRESENTATION FORM FOR VERTICAL ", "QUESTION MARK, LEFT WHITE LENTICULAR BRACKET"⟩,
  ⟨0xFE18, "", "PRESENTATION FORM FOR VERTICAL RIGHT WHITE LENTICULAR BRAKCET"⟩,
  ⟨0xFE19, "", "PRESENTATION FORM FOR VERTICAL HORIZONTAL ELLIPSIS"⟩,
  ⟨0xFE30, "PRESENTATION FORM FOR VERTICAL ", "TWO DOT LEADER, EM DASH"⟩,
  ⟨0xFE32, "PRESENTATION FORM FOR VERTICAL ", "EN DASH, LOW LINE, WAVY LOW LINE, LEFT PARENTHESIS"⟩,
  ⟨0xFE36, "PRESENTATION FORM FOR VERTICAL ", "RIGHT PARENTHESIS, LEFT CURLY BRACKET"⟩,
  ⟨0xFE38, "PRESENTATION FORM FOR VERTICAL ", "RIGHT CURLY BRACKET, LEFT TORTOISE SHELL BRACKET"⟩,
  ⟨0xFE3A, "", "PRESENTATION FORM FOR VERTICAL RIGHT TORTOISE SHELL BRACKET"⟩,
  ⟨0xFE3B, "", "PRESENTATION FORM FOR VERTICAL LEFT BLACK LENTICULAR BRACKET"⟩,
  ⟨0xFE3C, "", "PRESENTATION FORM FOR VERTICAL RIGHT BLACK LENTICULAR BRACKET"⟩,
  ⟨0xFE3D, "", "PRESENTATION FORM FOR VERTICAL LEFT DOUBLE ANGLE BRACKET"⟩,
  ⟨0xFE3E, "PRESENTATION FORM FOR VERTICAL ", "RIGHT DOUBLE ANGLE BRACKET, LEFT ANGLE BRACKET"⟩,
  ⟨0xFE40, "PRESENTATION FORM FOR VERTICAL ", "RIGHT ANGLE BRACKET, LEFT CORNER BRACKET"⟩,
  ⟨0xFE42, "PRESENTATION FORM FOR VERTICAL ", "RIGHT CORNER BRACKET, LEFT WHITE CORNER BRACKET"⟩,
  ⟨0xFE44, "", "PRESENTATION FORM FOR VERTICAL RIGHT WHITE CORNER BRACKET"⟩,
  ⟨0xFE45, "", "SESAME DOT, WHITE SESAME DOT"⟩,
  ⟨0xFE47, "PRESENTATION FORM FOR VERTICAL ", "LEFT SQUARE BRACKET, RIGHT SQUARE BRACKET"⟩,
  ⟨0xFE49, "", "DASHED OVERLINE, CENTRELINE OVERLINE"⟩,
  ⟨0xFE4B, "", "WAVY OVERLINE, DOUBLE WAVY OVERLINE, DASHED LOW LINE, CENTRELINE LOW LINE"⟩,
  ⟨0xFE4F, "", "WAVY LOW LINE, SMALL COMMA, SMALL IDEOGRAPHIC COMMA, SMALL FULL STOP"⟩,
  ⟨0xFE54, "SMALL ", "SEMICOLON, COLON, QUESTION MARK"⟩,
  ⟨0xFE57, "SMALL ", "EXCLAMATION MARK, EM DASH, LEFT PARENTHESIS, RIGHT PARENTHESIS"⟩,
  ⟨0xFE5B, "SMALL ", "LEFT CURLY BRACKET, RIGHT CURLY BRACKET, LEFT TORTOISE SHELL BRACKET"⟩,
  ⟨0xFE5E, "SMALL ", "RIGHT TORTOISE SHELL BRACKET, NUMBER SIGN, AMPERSAND, ASTERISK"⟩,
  ⟨0xFE62, "SMALL ", "PLUS SIGN, HYPHEN-MINUS, LESS-THAN SIGN, GREATER-THAN SIGN, EQUALS SIGN"⟩,
  ⟨0xFE68, "SMALL ", "REVERSE SOLIDUS, DOLLAR SIGN, PERCENT SIGN, COMMERCIAL AT"⟩,
  ⟨0xFF01, "", "FULLWIDTH EXCLAMATION MARK"⟩,
  ⟨0xFF02, "FULLWIDTH ", "QUOTATION MARK, NUMBER SIGN, DOLLAR SIGN, PERCENT SIGN"⟩,
  ⟨0xFF06, "FULLWIDTH ", "AMPERSAND, APOSTROPHE, LEFT PARENTHESIS, RIGHT PARENTHESIS"⟩,
  ⟨0xFF0A, "FULLWIDTH ", "ASTERISK, PLUS SIGN, COMMA, HYPHEN-MINUS, FULL STOP, SOLIDUS"⟩,
  ⟨0xFF10, "FULLWIDTH DIGIT ", "ZERO, ONE, TWO, THREE, FOUR, FIVE, SIX"⟩,
  ⟨0xFF17, "FULLWIDTH ", "DIGIT SEVEN, DIGIT EIGHT, DIGIT NINE, COLON, SEMICOLON, LESS-THAN SIGN"⟩,
  ⟨0xFF1D, "FULLWIDTH ", "EQUALS SIGN, GREATER-THAN SIGN, QUESTION MARK, COMMERCIAL AT"⟩,
  ⟨0xFF21, "FULLWIDTH LATIN CAPITAL LETTER ", "A, B, C, D, E, F, G, H"⟩,
  ⟨0xFF29, "FULLWIDTH LATIN CAPITAL LETTER ", "I, J, K, L, M, N, O, P, Q, R, S, T, U, V, W, X, Y"⟩,
  ⟨0xFF3A, "FULLWIDTH ", "LATIN CAPITAL LETTER Z, LEFT SQUARE BRACKET, REVERSE SOLIDUS"⟩,
  ⟨0xFF3D, "FULLWIDTH ", "RIGHT SQUARE BRACKET, CIRCUMFLEX ACCENT, LOW LINE, GRAVE ACCENT"⟩,
  ⟨0xFF41, "FULLWIDTH LATIN SMALL LETTER ", "A, B, C, D, E, F, G, H"⟩,
  ⟨0xFF49, "FULLWIDTH LATIN SMALL LETTER ", "I, J, K, L, M, N, O, P, Q, R, S, T, U, V, W, X, Y, Z"⟩,
  ⟨0xFF5B, "FULLWIDTH ", "LEFT CURLY BRACKET, VERTICAL LINE, RIGHT CURLY BRACKET"⟩,
  ⟨0xFF5E, "FULLWIDTH ", "TILDE, LEFT WHITE PARENTHESIS, RIGHT WHITE PARENTHESIS"⟩,
  ⟨0xFF61, "HALFWIDTH ", "IDEOGRAPHIC FULL STOP, LEFT CORNER BRACKET, RIGHT CORNER BRACKET"⟩,
  ⟨0xFF64, "HALFWIDTH ", "IDEOGRAPHIC COMMA, KATAKANA MIDDLE DOT, KATAKANA LETTER WO"⟩,
  ⟨0xFF67, "HALFWIDTH KATAKANA LETTER SMALL ", "A, I, U, E, O, YA, YU, YO"⟩,
  ⟨0xFF6F, "HALFWIDTH ", "KATAKANA LETTER SMALL TU, KATAKANA-HIRAGANA PROLONGED SOUND MARK"⟩,
  ⟨0xFF71, "HALFWIDTH KATAKANA LETTER ", "A, I, U, E, O, KA, KI, KU, KE, KO, SA, SI, SU, SE, SO"⟩,
  ⟨0xFF80, "HALFWIDTH KATAKANA LETTER ", "TA, TI, TU, TE, TO, NA, NI, NU, NE, NO, HA, HI, HU, HE"⟩,
  ⟨0xFF8E, "HALFWIDTH KATAKANA LETTER ", "HO, MA, MI, MU, ME, MO, YA, YU, YO, RA, RI, RU, RE, RO"⟩,
  ⟨0xFF9C, "HALFWIDTH KATAKANA ", "LETTER WA, LETTER N, VOICED SOUND MARK, SEMI-VOICED SOUND MARK"⟩,
  ⟨0xFFA0, "HALFWIDTH HANGUL ", "FILLER, LETTER KIYEOK, LETTER SSANGKIYEOK, LETTER KIYEOK-SIOS"⟩,
  ⟨0xFFA4, "HALFWIDTH HANGUL LETTER ", "NIEUN, NIEUN-CIEUC, NIEUN-HIEUH, TIKEUT, SSANGTIKEUT"⟩,
  ⟨0xFFA9, "HALFWIDTH HANGUL LETTER ", "RIEUL, RIEUL-KIYEOK, RIEUL-MIEUM, RIEUL-PIEUP, RIEUL-SIOS"⟩,
  ⟨0xFFAE, "HALFWIDTH HANGUL LETTER ", "RIEUL-THIEUTH, RIEUL-PHIEUPH, RIEUL-HIEUH, MIEUM, PIEUP"⟩,
  ⟨0xFFB3, "HALFWIDTH HANGUL LETTER ", "SSANGPIEUP, PIEUP-SIOS, SIOS, SSANGSIOS, IEUNG, CIEUC"⟩,
  ⟨0xFFB9, "HALFWIDTH HANGUL LETTER ", "SSANGCIEUC, CHIEUCH, KHIEUKH, THIEUTH, PHIEUPH, HIEUH"⟩,
  ⟨0xFFC2, "HALFWIDTH HANGUL LETTER ", "A, AE, YA, YAE, EO, E"⟩,
  ⟨0xFFCA, "HALFWIDTH HANGUL LETTER ", "YEO, YE, O, WA, WAE, OE"⟩,
  ⟨0xFFD2, "HALFWIDTH HANGUL LETTER ", "YO, U, WEO, WE, WI, YU"⟩,
  ⟨0xFFDA, "HALFWIDTH HANGUL LETTER ", "EU, YI, I"⟩,
  ⟨0xFFE0, "FULLWIDTH ", "CENT SIGN, POUND SIGN, NOT SIGN, MACRON, BROKEN BAR, YEN SIGN, WON SIGN"⟩,
  ⟨0xFFE8, "HALFWIDTH ", "FORMS LIGHT VERTICAL, LEFTWARDS ARROW, UPWARDS ARROW"⟩,
  ⟨0xFFEB, "HALFWIDTH ", "RIGHTWARDS ARROW, DOWNWARDS ARROW, BLACK SQUARE, WHITE CIRCLE"⟩,
  ⟨0x1AFF0, "KATAKANA LETTER MINNAN TONE-", "2, 3, 4, 5"⟩,
  ⟨0x1AFF5, "KATAKANA LETTER MINNAN TONE-", "7, 8"⟩,
  ⟨0x1AFF7, "KATAKANA LETTER MINNAN NASALIZED TONE-", "1, 2, 3, 4, 5"⟩,
  ⟨0x1AFFD, "KATAKANA LETTER MINNAN NASALIZED TONE-", "7, 8"⟩,
  ⟨0x1B000, "", "KATAKANA LETTER ARCHAIC E, HIRAGANA LETTER ARCHAIC YE, HENTAIGANA LETTER A-1"⟩,
  ⟨0x1B003, "HENTAIGANA LETTER ", "A-2, A-3, A-WO, I-1, I-2, I-3, I-4, U-1, U-2, U-3, U-4, U-5"⟩,
  ⟨0x1B00F, "HENTAIGANA LETTER ", "E-2, E-3, E-4, E-5, E-6, O-1, O-2, O-3, KA-1, KA-2, KA-3, KA-4"⟩,
  ⟨0x1B01B, "HENTAIGANA LETTER ", "KA-5, KA-6, KA-7, KA-8, KA-9, KA-10, KA-11, KA-KE, KI-1, KI-2"⟩,
  ⟨0x1B025, "HENTAIGANA LETTER ", "KI-3, KI-4, KI-5, KI-6, KI-7, KI-8, KU-1, KU-2, KU-3, KU-4"⟩,
  ⟨0x1B02F, "HENTAIGANA LETTER ", "KU-5, KU-6, KU-7, KE-1, KE-2, KE-3, KE-4, KE-5, KE-6, KO-1"⟩,
  ⟨0x1B039, "HENTAIGANA LETTER ", "KO-2, KO-3, KO-KI, SA-1, SA-2, SA-3, SA-4, SA-5, SA-6, SA-7"⟩,
  ⟨0x1B043, "HENTAIGANA LETTER ", "SA-8, SI-1, SI-2, SI-3, SI-4, SI-5, SI-6, SU-1, SU-2, SU-3"⟩,
  ⟨0x1B04D, "HENTAIGANA LETTER ", "SU-4, SU-5, SU-6, SU-7, SU-8, SE-1, SE-2, SE-3, SE-4, SE-5"⟩,
  ⟨0x1B057, "HENTAIGANA LETTER ", "SO-1, SO-2, SO-3, SO-4, SO-5, SO-6, SO-7, TA-1, TA-2, TA-3"⟩,
  ⟨0x1B061, "HENTAIGANA LETTER ", "TA-4, TI-1, TI-2, TI-3, TI-4, TI-5, TI-6, TI-7, TU-1, TU-2"⟩,
  ⟨0x1B06B, "HENTAIGANA LETTER ", "TU-3, TU-4, TU-TO, TE-1, TE-2, TE-3, TE-4, TE-5, TE-6, TE-7"⟩,
  ⟨0x1B075, "HENTAIGANA LETTER ", "TE-8, TE-9, TO-1, TO-2, TO-3, TO-4, TO-5, TO-6, TO-RA, NA-1"⟩,
  ⟨0x1B07F, "HENTAIGANA LETTER ", "NA-2, NA-3, NA-4, NA-5, NA-6, NA-7, NA-8, NA-9, NI-1, NI-2"⟩,
  ⟨0x1B089, "HENTAIGANA LETTER ", "NI-3, NI-4, NI-5, NI-6, NI-7, NI-TE, NU-1, NU-2, NU-3, NE-1"⟩,
  ⟨0x1B093, "HENTAIGANA LETTER ", "NE-2, NE-3, NE-4, NE-5, NE-6, NE-KO, NO-1, NO-2, NO-3, NO-4"⟩,
  ⟨0x1B09D, "HENTAIGANA LETTER ", "NO-5, HA-1, HA-2, HA-3, HA-4, HA-5, HA-6, HA-7, HA-8, HA-9"⟩,
  ⟨0x1B0A7, "HENTAIGANA LETTER ", "HA-10, HA-11, HI-1, HI-2, HI-3, HI-4, HI-5, HI-6, HI-7, HU-1"⟩,
  ⟨0x1B0B1, "HENTAIGANA LETTER ", "HU-2, HU-3, HE-1, HE-2, HE-3, HE-4, HE-5, HE-6, HE-7, HO-1"⟩,
  ⟨0x1B0BB, "HENTAIGANA LETTER ", "HO-2, HO-3, HO-4, HO-5, HO-6, HO-7, HO-8, MA-1, MA-2, MA-3"⟩,
  ⟨0x1B0C5, "HENTAIGANA LETTER ", "MA-4, MA-5, MA-6, MA-7, MI-1, MI-2, MI-3, MI-4, MI-5, MI-6"⟩,
  ⟨0x1B0CF, "HENTAIGANA LETTER ", "MI-7, MU-1, MU-2, MU-3, MU-4, ME-1, ME-2, ME-MA, MO-1, MO-2"⟩,
  ⟨0x1B0D9, "HENTAIGANA LETTER ", "MO-3, MO-4, MO-5, MO-6, YA-1, YA-2, YA-3, YA-4, YA-5, YA-YO"⟩,
  ⟨0x1B0E3, "HENTAIGANA LETTER ", "YU-1, YU-2, YU-3, YU-4, YO-1, YO-2, YO-3, YO-4, YO-5, YO-6"⟩,
  ⟨0x1B0ED, "HENTAIGANA LETTER ", "RA-1, RA-2, RA-3, RA-4, RI-1, RI-2, RI-3, RI-4, RI-5, RI-6"⟩,
  ⟨0x1B0F7, "HENTAIGANA LETTER ", "RI-7, RU-1, RU-2, RU-3, RU-4, RU-5, RU-6, RE-1, RE-2, RE-3"⟩,
  ⟨0x1B101, "HENTAIGANA LETTER ", "RE-4, RO-1, RO-2, RO-3, RO-4, RO-5, RO-6, WA-1, WA-2, WA-3"⟩,
  ⟨0x1B10B, "HENTAIGANA LETTER ", "WA-4, WA-5, WI-1, WI-2, WI-3, WI-4, WI-5, WE-1, WE-2, WE-3"⟩,
  ⟨0x1B115, "HENTAIGANA LETTER ", "WE-4, WO-1, WO-2, WO-3, WO-4, WO-5, WO-6, WO-7, N-MU-MO-1"⟩,
  ⟨0x1B11E, "", "HENTAIGANA LETTER N-MU-MO-2, HIRAGANA LETTER ARCHAIC WU"⟩,
  ⟨0x1B120, "KATAKANA LETTER ARCHAIC ", "YI, YE, WU"⟩,
  ⟨0x1B150, "HIRAGANA LETTER SMALL ", "WI, WE, WO"⟩,
  ⟨0x1B164, "KATAKANA LETTER SMALL ", "WI, WE, WO, N"⟩,
  ⟨0x1F200, "", "SQUARE HIRAGANA HOKA, SQUARED KATAKANA KOKO, SQUARED KATAKANA SA"⟩,
  ⟨0x1F210, "", "SQUARED CJK UNIFIED IDEOGRAPH-624B"⟩,
  ⟨0x1F211, "SQUARED ", "CJK UNIFIED IDEOGRAPH-5B57, CJK UNIFIED IDEOGRAPH-53CC, KATAKANA DE"⟩,
  ⟨0x1F214, "SQUARED CJK UNIFIED IDEOGRAPH-", "4E8C, 591A, 89E3, 5929, 4EA4, 6620, 7121, 6599"⟩,
  ⟨0x1F21C, "SQUARED CJK UNIFIED IDEOGRAPH-", "524D, 5F8C, 518D, 65B0, 521D, 7D42, 751F, 8CA9"⟩,
  ⟨0x1F224, "SQUARED CJK UNIFIED IDEOGRAPH-", "58F0, 5439, 6F14, 6295, 6355, 4E00, 4E09, 904A"⟩,
  ⟨0x1F22C, "SQUARED CJK UNIFIED IDEOGRAPH-", "5DE6, 4E2D, 53F3, 6307, 8D70, 6253, 7981, 7A7A"⟩,
  ⟨0x1F234, "SQUARED CJK UNIFIED IDEOGRAPH-", "5408, 6E80, 6709, 6708, 7533, 5272, 55B6, 914D"⟩,
  ⟨0x1F240, "TORTOISE SHELL BRACKETED CJK UNIFIED IDEOGRAPH-", "672C, 4E09, 4E8C, 5B89"⟩,
  ⟨0x1F244, "TORTOISE SHELL BRACKETED CJK UNIFIED IDEOGRAPH-", "70B9, 6253, 76D7, 52DD, 6557"⟩,
  ⟨0x1F250, "CIRCLED IDEOGRAPH ", "ADVANTAGE, ACCEPT"⟩,
  ⟨0x1F260, "ROUNDED SYMBOL FOR ", "FU, LU, SHOU, XI, SHUANGXI, CAI"⟩]

end BatchExec
