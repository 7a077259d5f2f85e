import BatchExec.Text.CharacterName.Row

/-!
# Scripts of Southeast Asia

The names of Thai, Lao, Tibetan, Myanmar, Khmer and related letters, and of those of the islands.
-/

namespace BatchExec

/-- The names of Thai, Lao, Tibetan, Myanmar, Khmer and related letters, and of those of the
islands. -/
def southeastAsianNames : List NameRow := [
  ⟨0x0E01, "THAI CHARACTER ", "KO KAI, KHO KHAI, KHO KHUAT"⟩,
  ⟨0x0E04, "THAI CHARACTER ", "KHO KHWAI, KHO KHON, KHO RAKHANG, NGO NGU, CHO CHAN, CHO CHING"⟩,
  ⟨0x0E0A, "THAI CHARACTER ", "CHO CHANG, SO SO, CHO CHOE, YO YING, DO CHADA, TO PATAK, THO THAN"⟩,
  ⟨0x0E11, "THAI CHARACTER ", "THO NANGMONTHO, THO PHUTHAO, NO NEN, DO DEK, TO TAO, THO THUNG"⟩,
  ⟨0x0E17, "THAI CHARACTER ", "THO THAHAN, THO THONG, NO NU, BO BAIMAI, PO PLA, PHO PHUNG, FO FA"⟩,
  ⟨0x0E1E, "THAI CHARACTER ", "PHO PHAN, FO FAN, PHO SAMPHAO, MO MA, YO YAK, RO RUA, RU, LO LING"⟩,
  ⟨0x0E26, "THAI CHARACTER ", "LU, WO WAEN, SO SALA, SO RUSI, SO SUA, HO HIP, LO CHULA, O ANG"⟩,
  ⟨0x0E2E, "THAI CHARACTER ", "HO NOKHUK, PAIYANNOI, SARA A, MAI HAN-AKAT, SARA AA, SARA AM"⟩,
  ⟨0x0E34, "THAI CHARACTER ", "SARA I, SARA II, SARA UE, SARA UEE, SARA U, SARA UU, PHINTHU"⟩,
  ⟨0x0E3F, "", "THAI CURRENCY SYMBOL BAHT"⟩,
  ⟨0x0E40, "THAI CHARACTER SARA ", "E, AE, O, AI MAIMUAN, AI MAIMALAI"⟩,
  ⟨0x0E45, "THAI CHARACTER ", "LAKKHANGYAO, MAIYAMOK, MAITAIKHU, MAI EK, MAI THO"⟩,
  ⟨0x0E4A, "THAI CHARACTER ", "MAI TRI, MAI CHATTAWA, THANTHAKHAT, NIKHAHIT, YAMAKKAN, FONGMAN"⟩,
  ⟨0x0E50, "THAI DIGIT ", "ZERO, ONE, TWO, THREE, FOUR, FIVE, SIX"⟩,
  ⟨0x0E57, "THAI ", "DIGIT SEVEN, DIGIT EIGHT, DIGIT NINE, CHARACTER ANGKHANKHU, CHARACTER KHOMUT"⟩,
  ⟨0x0E81, "LAO LETTER ", "KO, KHO SUNG"⟩,
  ⟨0x0E84, "", "LAO LETTER KHO TAM"⟩,
  ⟨0x0E86, "LAO LETTER ", "PALI GHA, NGO, CO, PALI CHA, SO TAM"⟩,
  ⟨0x0E8C, "LAO LETTER ", "PALI JHA, NYO, PALI NYA, PALI TTA, PALI TTHA"⟩,
  ⟨0x0E91, "LAO LETTER ", "PALI DDA, PALI DDHA, PALI NNA, DO, TO, THO SUNG, THO TAM, PALI DHA, NO"⟩,
  ⟨0x0E9A, "LAO LETTER ", "BO, PO, PHO SUNG, FO TAM, PHO TAM, FO SUNG, PALI BHA, MO, YO, LO LING"⟩,
  ⟨0x0EA5, "", "LAO LETTER LO LOOT"⟩,
  ⟨0x0EA7, "LAO LETTER ", "WO, SANSKRIT SHA, SANSKRIT SSA, SO SUNG"⟩,
  ⟨0x0EAB, "LAO ", "LETTER HO SUNG, LETTER PALI LLA, LETTER O, LETTER HO TAM, ELLIPSIS"⟩,
  ⟨0x0EB0, "LAO VOWEL SIGN ", "A, MAI KAN, AA, AM, I, II, Y, YY, U, UU"⟩,
  ⟨0x0EBA, "LAO ", "SIGN PALI VIRAMA, VOWEL SIGN MAI KON, SEMIVOWEL SIGN LO, SEMIVOWEL SIGN NYO"⟩,
  ⟨0x0EC0, "LAO VOWEL SIGN ", "E, EI, O, AY, AI"⟩,
  ⟨0x0EC6, "", "LAO KO LA"⟩,
  ⟨0x0EC8, "", "LAO TONE MAI EK"⟩,
  ⟨0x0EC9, "LAO ", "TONE MAI THO, TONE MAI TI, TONE MAI CATAWA, CANCELLATION MARK, NIGGAHITA"⟩,
  ⟨0x0ED0, "LAO DIGIT ", "ZERO, ONE, TWO, THREE, FOUR, FIVE, SIX, SEVEN, EIGHT, NINE"⟩,
  ⟨0x0EDC, "LAO ", "HO NO, HO MO, LETTER KHMU GO, LETTER KHMU NYO"⟩,
  ⟨0x0F00, "", "TIBETAN SYLLABLE OM"⟩,
  ⟨0x0F01, "TIBETAN MARK GTER YIG MGO ", "TRUNCATED A, -UM RNAM BCAD MA, -UM GTER TSHEG MA"⟩,
  ⟨0x0F04, "TIBETAN MARK ", "INITIAL YIG MGO MDUN MA, CLOSING YIG MGO SGAB MA"⟩,
  ⟨0x0F06, "TIBETAN MARK ", "CARET YIG MGO PHUR SHAD MA, YIG MGO TSHEG SHAD MA"⟩,
  ⟨0x0F08, "TIBETAN MARK ", "SBRUL SHAD, BSKUR YIG MGO, BKA- SHOG YIG MGO, INTERSYLLABIC TSHEG"⟩,
  ⟨0x0F0C, "TIBETAN MARK ", "DELIMITER TSHEG BSTAR, SHAD, NYIS SHAD, TSHEG SHAD, NYIS TSHEG SHAD"⟩,
  ⟨0x0F11, "TIBETAN MARK ", "RIN CHEN SPUNGS SHAD, RGYA GRAM SHAD, CARET -DZUD RTAGS ME LONG CAN"⟩,
  ⟨0x0F14, "TIBETAN ", "MARK GTER TSHEG, LOGOTYPE SIGN CHAD RTAGS, LOGOTYPE SIGN LHAG RTAGS"⟩,
  ⟨0x0F17, "TIBETAN ASTROLOGICAL SIGN ", "SGRA GCAN -CHAR RTAGS, -KHYUD PA"⟩,
  ⟨0x0F19, "TIBETAN ", "ASTROLOGICAL SIGN SDONG TSHUGS, SIGN RDEL DKAR GCIG"⟩,
  ⟨0x0F1B, "TIBETAN SIGN RDEL ", "DKAR GNYIS, DKAR GSUM, NAG GCIG, NAG GNYIS, DKAR RDEL NAG"⟩,
  ⟨0x0F20, "TIBETAN DIGIT ", "ZERO, ONE, TWO, THREE, FOUR, FIVE, SIX, SEVEN, EIGHT, NINE"⟩,
  ⟨0x0F2A, "TIBETAN DIGIT HALF ", "ONE, TWO, THREE, FOUR, FIVE, SIX, SEVEN, EIGHT, NINE"⟩,
  ⟨0x0F33, "TIBETAN ", "DIGIT HALF ZERO, MARK BSDUS RTAGS, MARK NGAS BZUNG NYI ZLA"⟩,
  ⟨0x0F36, "TIBETAN MARK ", "CARET -DZUD RTAGS BZHI MIG CAN, NGAS BZUNG SGOR RTAGS"⟩,
  ⟨0x0F38, "TIBETAN MARK ", "CHE MGO, TSA -PHRU, GUG RTAGS GYON, GUG RTAGS GYAS"⟩,
  ⟨0x0F3C, "TIBETAN ", "MARK ANG KHANG GYON, MARK ANG KHANG GYAS, SIGN YAR TSHES, SIGN MAR TSHES"⟩,
  ⟨0x0F40, "TIBETAN LETTER ", "KA, KHA, GA, GHA, NGA, CA, CHA, JA"⟩,
  ⟨0x0F49, "TIBETAN LETTER ", "NYA, TTA, TTHA, DDA, DDHA, NNA, TA, THA, DA"⟩,
  ⟨0x0F52, "TIBETAN LETTER ", "DHA, NA, PA, PHA, BA, BHA, MA, TSA, TSHA, DZA, DZHA, WA, ZHA, ZA"⟩,
  ⟨0x0F60, "TIBETAN LETTER ", "-A, YA, RA, LA, SHA, SSA, SA, HA, A, KSSA, FIXED-FORM RA, KKA, RRA"⟩,
  ⟨0x0F71, "TIBETAN VOWEL SIGN ", "AA, I, II"⟩,
  ⟨0x0F74, "TIBETAN VOWEL SIGN ", "U, UU, VOCALIC R, VOCALIC RR, VOCALIC L, VOCALIC LL, E, EE, O"⟩,
  ⟨0x0F7D, "TIBETAN ", "VOWEL SIGN OO, SIGN RJES SU NGA RO, SIGN RNAM BCAD, VOWEL SIGN REVERSED I"⟩,
  ⟨0x0F81, "TIBETAN ", "VOWEL SIGN REVERSED II, SIGN NYI ZLA NAA DA, SIGN SNA LDAN, MARK HALANTA"⟩,
  ⟨0x0F85, "TIBETAN ", "MARK PALUTA, SIGN LCI RTAGS, SIGN YANG RTAGS, SIGN LCE TSA CAN"⟩,
  ⟨0x0F89, "TIBETAN SIGN ", "MCHU CAN, GRU CAN RGYINGS, GRU MED RGYINGS, INVERTED MCHU CAN"⟩,
  ⟨0x0F8D, "TIBETAN SUBJOINED SIGN ", "LCE TSA CAN, MCHU CAN, INVERTED MCHU CAN"⟩,
  ⟨0x0F90, "TIBETAN SUBJOINED LETTER ", "KA, KHA, GA, GHA, NGA, CA, CHA, JA"⟩,
  ⟨0x0F99, "TIBETAN SUBJOINED LETTER ", "NYA, TTA, TTHA, DDA, DDHA, NNA"⟩,
  ⟨0x0F9F, "TIBETAN SUBJOINED LETTER ", "TA, THA, DA, DHA, NA, PA, PHA, BA, BHA, MA, TSA, TSHA"⟩,
  ⟨0x0FAB, "TIBETAN SUBJOINED LETTER ", "DZA, DZHA, WA, ZHA, ZA, -A, YA, RA, LA, SHA, SSA, SA"⟩,
  ⟨0x0FB7, "TIBETAN SUBJOINED LETTER ", "HA, A, KSSA, FIXED-FORM WA, FIXED-FORM YA, FIXED-FORM RA"⟩,
  ⟨0x0FBE, "TIBETAN KU RU ", "KHA, KHA BZHI MIG CAN"⟩,
  ⟨0x0FC0, "TIBETAN CANTILLATION SIGN ", "HEAVY BEAT, LIGHT BEAT, CANG TE-U, SBUB -CHAL"⟩,
  ⟨0x0FC4, "TIBETAN SYMBOL ", "DRIL BU, RDO RJE, PADMA GDAN, RDO RJE RGYA GRAM, PHUR PA"⟩,
  ⟨0x0FC9, "TIBETAN SYMBOL NOR ", "BU, BU NYIS -KHYIL, BU GSUM -KHYIL, BU BZHI -KHYIL"⟩,
  ⟨0x0FCE, "TIBETAN SIGN RDEL NAG ", "RDEL DKAR, GSUM"⟩,
  ⟨0x0FD0, "TIBETAN MARK ", "BSKA- SHOG GI MGO RGYAN, MNYAM YIG GI MGO RGYAN"⟩,
  ⟨0x0FD2, "TIBETAN MARK ", "NYIS TSHEG, INITIAL BRDA RNYING YIG MGO MDUN MA"⟩,
  ⟨0x0FD4, "", "TIBETAN MARK CLOSING BRDA RNYING YIG MGO SGAB MA"⟩,
  ⟨0x0FD5, "", "RIGHT-FACING SVASTI SIGN, LEFT-FACING SVASTI SIGN"⟩,
  ⟨0x0FD7, "", "RIGHT-FACING SVASTI SIGN WITH DOTS, LEFT-FACING SVASTI SIGN WITH DOTS"⟩,
  ⟨0x0FD9, "TIBETAN MARK ", "LEADING MCHAN RTAGS, TRAILING MCHAN RTAGS"⟩,
  ⟨0x1000, "MYANMAR LETTER ", "KA, KHA, GA, GHA, NGA, CA, CHA, JA, JHA, NYA, NNYA, TTA, TTHA"⟩,
  ⟨0x100D, "MYANMAR LETTER ", "DDA, DDHA, NNA, TA, THA, DA, DHA, NA, PA, PHA, BA, BHA, MA, YA"⟩,
  ⟨0x101B, "MYANMAR LETTER ", "RA, LA, WA, SA, HA, LLA, A, SHAN A, I, II, U, UU, E, MON E, O, AU"⟩,
  ⟨0x102B, "MYANMAR VOWEL SIGN ", "TALL AA, AA, I, II, U, UU, E, AI, MON II, MON O, E ABOVE"⟩,
  ⟨0x1036, "MYANMAR SIGN ", "ANUSVARA, DOT BELOW, VISARGA, VIRAMA"⟩,
  ⟨0x103A, "MYANMAR ", "SIGN ASAT, CONSONANT SIGN MEDIAL YA, CONSONANT SIGN MEDIAL RA"⟩,
  ⟨0x103D, "MYANMAR ", "CONSONANT SIGN MEDIAL WA, CONSONANT SIGN MEDIAL HA, LETTER GREAT SA"⟩,
  ⟨0x1040, "MYANMAR DIGIT ", "ZERO, ONE, TWO, THREE, FOUR, FIVE, SIX"⟩,
  ⟨0x1047, "MYANMAR ", "DIGIT SEVEN, DIGIT EIGHT, DIGIT NINE, SIGN LITTLE SECTION, SIGN SECTION"⟩,
  ⟨0x104C, "MYANMAR SYMBOL ", "LOCATIVE, COMPLETED, AFOREMENTIONED, GENITIVE"⟩,
  ⟨0x1050, "MYANMAR LETTER ", "SHA, SSA, VOCALIC R, VOCALIC RR, VOCALIC L, VOCALIC LL"⟩,
  ⟨0x1056, "MYANMAR VOWEL SIGN VOCALIC ", "R, RR, L, LL"⟩,
  ⟨0x105A, "MYANMAR LETTER MON ", "NGA, JHA, BBA, BBE"⟩,
  ⟨0x105E, "MYANMAR CONSONANT SIGN MON MEDIAL ", "NA, MA, LA"⟩,
  ⟨0x1061, "MYANMAR ", "LETTER SGAW KAREN SHA, VOWEL SIGN SGAW KAREN EU"⟩,
  ⟨0x1063, "MYANMAR TONE MARK SGAW KAREN ", "HATHI, KE PHO"⟩,
  ⟨0x1065, "MYANMAR LETTER WESTERN PWO KAREN ", "THA, PWA"⟩,
  ⟨0x1067, "MYANMAR VOWEL SIGN WESTERN PWO KAREN ", "EU, UE"⟩,
  ⟨0x1069, "MYANMAR SIGN WESTERN PWO KAREN TONE-", "1, 2, 3, 4, 5"⟩,
  ⟨0x106E, "MYANMAR LETTER EASTERN PWO KAREN ", "NNA, YWA, GHWA"⟩,
  ⟨0x1071, "MYANMAR VOWEL SIGN ", "GEBA KAREN I, KAYAH OE, KAYAH U, KAYAH EE"⟩,
  ⟨0x1075, "MYANMAR LETTER SHAN ", "KA, KHA, GA, CA, ZA, NYA, DA, NA, PHA, FA, BA"⟩,
  ⟨0x1080, "MYANMAR ", "LETTER SHAN THA, LETTER SHAN HA, CONSONANT SIGN SHAN MEDIAL WA"⟩,
  ⟨0x1083, "MYANMAR VOWEL SIGN SHAN ", "AA, E, E ABOVE, FINAL Y"⟩,
  ⟨0x1087, "MYANMAR SIGN SHAN TONE-", "2, 3, 5"⟩,
  ⟨0x108A, "MYANMAR SIGN SHAN ", "TONE-6, COUNCIL TONE-2, COUNCIL TONE-3, COUNCIL EMPHATIC TONE"⟩,
  ⟨0x108E, "MYANMAR ", "LETTER RUMAI PALAUNG FA, SIGN RUMAI PALAUNG TONE-5"⟩,
  ⟨0x1090, "MYANMAR SHAN DIGIT ", "ZERO, ONE, TWO, THREE, FOUR, FIVE, SIX, SEVEN, EIGHT, NINE"⟩,
  ⟨0x109A, "MYANMAR ", "SIGN KHAMTI TONE-1, SIGN KHAMTI TONE-3, VOWEL SIGN AITON A"⟩,
  ⟨0x109D, "MYANMAR ", "VOWEL SIGN AITON AI, SYMBOL SHAN ONE, SYMBOL SHAN EXCLAMATION"⟩,
  ⟨0x1700, "TAGALOG LETTER ", "A, I, U, KA, GA, NGA, TA, DA, NA, PA, BA, MA, YA, RA, LA, WA, SA"⟩,
  ⟨0x1711, "TAGALOG ", "LETTER HA, VOWEL SIGN I, VOWEL SIGN U, SIGN VIRAMA, SIGN PAMUDPOD"⟩,
  ⟨0x171F, "", "TAGALOG LETTER ARCHAIC RA"⟩,
  ⟨0x1720, "HANUNOO LETTER ", "A, I, U, KA, GA, NGA, TA, DA, NA, PA, BA, MA, YA, RA, LA, WA"⟩,
  ⟨0x1730, "HANUNOO ", "LETTER SA, LETTER HA, VOWEL SIGN I, VOWEL SIGN U, SIGN PAMUDPOD"⟩,
  ⟨0x1735, "PHILIPPINE ", "SINGLE PUNCTUATION, DOUBLE PUNCTUATION"⟩,
  ⟨0x1740, "BUHID LETTER ", "A, I, U, KA, GA, NGA, TA, DA, NA, PA, BA, MA, YA, RA"⟩,
  ⟨0x174E, "BUHID ", "LETTER LA, LETTER WA, LETTER SA, LETTER HA, VOWEL SIGN I, VOWEL SIGN U"⟩,
  ⟨0x1760, "TAGBANWA LETTER ", "A, I, U, KA, GA, NGA, TA, DA, NA, PA, BA, MA, YA"⟩,
  ⟨0x176E, "TAGBANWA LETTER ", "LA, WA, SA"⟩,
  ⟨0x1772, "TAGBANWA VOWEL SIGN ", "I, U"⟩,
  ⟨0x1780, "KHMER LETTER ", "KA, KHA, KO, KHO, NGO"⟩,
  ⟨0x1785, "KHMER LETTER ", "CA, CHA, CO, CHO, NYO, DA, TTHA, DO, TTHO, NNO, TA, THA, TO, THO"⟩,
  ⟨0x1793, "KHMER LETTER ", "NO, BA, PHA, PO, PHO, MO, YO, RO, LO, VO, SHA, SSO, SA, HA, LA, QA"⟩,
  ⟨0x17A3, "KHMER INDEPENDENT VOWEL ", "QAQ, QAA, QI, QII, QU, QUK, QUU, QUUV"⟩,
  ⟨0x17AB, "KHMER INDEPENDENT VOWEL ", "RY, RYY, LY, LYY, QE, QAI, QOO TYPE ONE, QOO TYPE TWO"⟩,
  ⟨0x17B3, "KHMER ", "INDEPENDENT VOWEL QAU, VOWEL INHERENT AQ, VOWEL INHERENT AA"⟩,
  ⟨0x17B6, "KHMER VOWEL SIGN ", "AA, I, II, Y, YY, U, UU, UA, OE, YA, IE, E, AE, AI, OO, AU"⟩,
  ⟨0x17C6, "KHMER SIGN ", "NIKAHIT, REAHMUK, YUUKALEAPINTU, MUUSIKATOAN, TRIISAP, BANTOC, ROBAT"⟩,
  ⟨0x17CD, "KHMER SIGN ", "TOANDAKHIAT, KAKABAT, AHSDA, SAMYOK SANNYA, VIRIAM, COENG, BATHAMASAT"⟩,
  ⟨0x17D4, "KHMER SIGN ", "KHAN, BARIYOOSAN, CAMNUC PII KUUH, LEK TOO, BEYYAL, PHNAEK MUAN"⟩,
  ⟨0x17DA, "KHMER ", "SIGN KOOMUUT, CURRENCY SYMBOL RIEL, SIGN AVAKRAHASANYA, SIGN ATTHACAN"⟩,
  ⟨0x17E0, "KHMER DIGIT ", "ZERO, ONE, TWO, THREE, FOUR, FIVE, SIX, SEVEN, EIGHT, NINE"⟩,
  ⟨0x17F0, "KHMER SYMBOL LEK ATTAK ", "SON, MUOY, PII"⟩,
  ⟨0x17F3, "KHMER SYMBOL LEK ATTAK ", "BEI, BUON, PRAM, PRAM-MUOY, PRAM-PII, PRAM-BEI, PRAM-BUON"⟩,
  ⟨0x1900, "", "LIMBU VOWEL-CARRIER LETTER"⟩,
  ⟨0x1901, "LIMBU LETTER ", "KA, KHA, GA, GHA, NGA, CA, CHA, JA, JHA, YAN, TA, THA, DA, DHA, NA"⟩,
  ⟨0x1910, "LIMBU LETTER ", "PA, PHA, BA, BHA, MA, YA, RA, LA, WA, SHA, SSA, SA, HA, GYAN, TRA"⟩,
  ⟨0x1920, "LIMBU VOWEL SIGN ", "A, I, U, EE, AI, OO, AU, E"⟩,
  ⟨0x1928, "LIMBU ", "VOWEL SIGN O, SUBJOINED LETTER YA, SUBJOINED LETTER RA, SUBJOINED LETTER WA"⟩,
  ⟨0x1930, "LIMBU SMALL LETTER ", "KA, NGA, ANUSVARA, TA, NA, PA, MA"⟩,
  ⟨0x1937, "LIMBU ", "SMALL LETTER RA, SMALL LETTER LA, SIGN MUKPHRENG, SIGN KEMPHRENG, SIGN SA-I"⟩,
  ⟨0x1940, "", "LIMBU SIGN LOO"⟩,
  ⟨0x1944, "LIMBU ", "EXCLAMATION MARK, QUESTION MARK"⟩,
  ⟨0x1946, "LIMBU DIGIT ", "ZERO, ONE, TWO, THREE, FOUR, FIVE, SIX, SEVEN, EIGHT, NINE"⟩,
  ⟨0x1950, "TAI LE LETTER ", "KA, XA, NGA, TSA, SA, YA, TA, THA, LA, PA, PHA, MA, FA"⟩,
  ⟨0x195D, "TAI LE LETTER ", "VA, HA, QA, KHA, TSHA, NA, A, I, EE, EH, U, OO, O, UE, E, AUE, AI"⟩,
  ⟨0x1970, "TAI LE LETTER TONE-", "2, 3, 4, 5, 6"⟩,
  ⟨0x1980, "NEW TAI LUE LETTER ", "HIGH QA, LOW QA, HIGH KA"⟩,
  ⟨0x1983, "NEW TAI LUE LETTER ", "HIGH XA, HIGH NGA, LOW KA, LOW XA, LOW NGA, HIGH TSA, HIGH SA"⟩,
  ⟨0x198A, "NEW TAI LUE LETTER ", "HIGH YA, LOW TSA, LOW SA, LOW YA, HIGH TA, HIGH THA, HIGH NA"⟩,
  ⟨0x1991, "NEW TAI LUE LETTER ", "LOW TA, LOW THA, LOW NA, HIGH PA, HIGH PHA, HIGH MA, LOW PA"⟩,
  ⟨0x1998, "NEW TAI LUE LETTER ", "LOW PHA, LOW MA, HIGH FA, HIGH VA, HIGH LA, LOW FA, LOW VA"⟩,
  ⟨0x199F, "NEW TAI LUE LETTER ", "LOW LA, HIGH HA, HIGH DA, HIGH BA, LOW HA, LOW DA, LOW BA"⟩,
  ⟨0x19A6, "NEW TAI LUE LETTER ", "HIGH KVA, HIGH XVA, LOW KVA, LOW XVA, HIGH SUA, LOW SUA"⟩,
  ⟨0x19B0, "NEW TAI LUE VOWEL SIGN ", "VOWEL SHORTENER, AA"⟩,
  ⟨0x19B2, "NEW TAI LUE VOWEL SIGN ", "II, U, UU, E, AE, O, OA, UE, AY, AAY, UY, OY, OAY, UEY, IY"⟩,
  ⟨0x19C1, "NEW TAI LUE LETTER FINAL ", "V, NG, N, M, K"⟩,
  ⟨0x19C6, "NEW TAI LUE ", "LETTER FINAL D, LETTER FINAL B, TONE MARK-1, TONE MARK-2"⟩,
  ⟨0x19D0, "NEW TAI LUE DIGIT ", "ZERO, ONE, TWO, THREE, FOUR, FIVE"⟩,
  ⟨0x19D6, "NEW TAI LUE ", "DIGIT SIX, DIGIT SEVEN, DIGIT EIGHT, DIGIT NINE, THAM DIGIT ONE"⟩,
  ⟨0x19DE, "", "NEW TAI LUE SIGN LAE, NEW TAI LUE SIGN LAEV, KHMER SYMBOL PATHAMASAT"⟩,
  ⟨0x19E1, "KHMER SYMBOL ", "MUOY KOET, PII KOET, BEI KOET, BUON KOET, PRAM KOET, PRAM-MUOY KOET"⟩,
  ⟨0x19E7, "KHMER SYMBOL ", "PRAM-PII KOET, PRAM-BEI KOET, PRAM-BUON KOET, DAP KOET"⟩,
  ⟨0x19EB, "KHMER SYMBOL DAP-", "MUOY KOET, PII KOET, BEI KOET, BUON KOET, PRAM KOET"⟩,
  ⟨0x19F0, "KHMER SYMBOL ", "TUTEYASAT, MUOY ROC, PII ROC, BEI ROC, BUON ROC, PRAM ROC"⟩,
  ⟨0x19F6, "KHMER SYMBOL ", "PRAM-MUOY ROC, PRAM-PII ROC, PRAM-BEI ROC, PRAM-BUON ROC, DAP ROC"⟩,
  ⟨0x19FB, "KHMER SYMBOL DAP-", "MUOY ROC, PII ROC, BEI ROC, BUON ROC, PRAM ROC"⟩,
  ⟨0x1A00, "BUGINESE LETTER ", "KA, GA, NGA, NGKA, PA, BA, MA, MPA"⟩,
  ⟨0x1A08, "BUGINESE LETTER ", "TA, DA, NA, NRA, CA, JA, NYA, NYCA, YA, RA, LA, VA, SA, A, HA"⟩,
  ⟨0x1A17, "BUGINESE VOWEL SIGN ", "I, U, E, O, AE"⟩,
  ⟨0x1A1E, "BUGINESE ", "PALLAWA, END OF SECTION"⟩,
  ⟨0x1A20, "TAI THAM LETTER ", "HIGH KA, HIGH KHA, HIGH KXA, LOW KA, LOW KXA"⟩,
  ⟨0x1A25, "TAI THAM LETTER ", "LOW KHA, NGA, HIGH CA, HIGH CHA, LOW CA, LOW SA, LOW CHA, NYA"⟩,
  ⟨0x1A2D, "TAI THAM LETTER ", "RATA, HIGH RATHA, DA, LOW RATHA, RANA, HIGH TA, HIGH THA, LOW TA"⟩,
  ⟨0x1A35, "TAI THAM LETTER ", "LOW THA, NA, BA, HIGH PA, HIGH PHA, HIGH FA, LOW PA, LOW FA"⟩,
  ⟨0x1A3D, "TAI THAM LETTER ", "LOW PHA, MA, LOW YA, HIGH YA, RA, RUE, LA, LUE, WA, HIGH SHA"⟩,
  ⟨0x1A47, "TAI THAM LETTER ", "HIGH SSA, HIGH SA, HIGH HA, LLA, A, LOW HA, I, II, U, UU, EE"⟩,
  ⟨0x1A52, "TAI THAM ", "LETTER OO, LETTER LAE, LETTER GREAT SA, CONSONANT SIGN MEDIAL RA"⟩,
  ⟨0x1A56, "TAI THAM ", "CONSONANT SIGN MEDIAL LA, CONSONANT SIGN LA TANG LAI, SIGN MAI KANG LAI"⟩,
  ⟨0x1A59, "TAI THAM CONSONANT SIGN ", "FINAL NGA, LOW PA, HIGH RATHA OR LOW PA, MA, BA, SA"⟩,
  ⟨0x1A60, "", "TAI THAM SIGN SAKOT"⟩,
  ⟨0x1A61, "TAI THAM VOWEL SIGN ", "A, MAI SAT, AA, TALL AA, I, II, UE"⟩,
  ⟨0x1A68, "TAI THAM VOWEL SIGN ", "UUE, U, UU, O, OA BELOW, OY, E, AE, OO, AI, THAM AI, OA ABOVE"⟩,
  ⟨0x1A74, "TAI THAM SIGN ", "MAI KANG, TONE-1, TONE-2, KHUEN TONE-3"⟩,
  ⟨0x1A78, "TAI THAM SIGN ", "KHUEN TONE-4, KHUEN TONE-5, RA HAAM, MAI SAM, KHUEN-LUE KARAN"⟩,
  ⟨0x1A7F, "", "TAI THAM COMBINING CRYPTOGRAMMIC DOT"⟩,
  ⟨0x1A80, "TAI THAM HORA DIGIT ", "ZERO, ONE, TWO, THREE, FOUR, FIVE, SIX, SEVEN, EIGHT, NINE"⟩,
  ⟨0x1A90, "TAI THAM THAM DIGIT ", "ZERO, ONE, TWO, THREE, FOUR, FIVE, SIX, SEVEN, EIGHT, NINE"⟩,
  ⟨0x1AA0, "TAI THAM SIGN ", "WIANG, WIANGWAAK, SAWAN, KEOW, HOY, DOKMAI, REVERSED ROTATED RANA"⟩,
  ⟨0x1AA7, "TAI THAM SIGN ", "MAI YAMOK, KAAN, KAANKUU, SATKAAN, SATKAANKUU, HANG, CAANG"⟩,
  ⟨0x1B00, "", "BALINESE SIGN ULU RICEM"⟩,
  ⟨0x1B01, "BALINESE ", "SIGN ULU CANDRA, SIGN CECEK, SIGN SURANG, SIGN BISAH, LETTER AKARA"⟩,
  ⟨0x1B06, "BALINESE LETTER ", "AKARA TEDUNG, IKARA, IKARA TEDUNG, UKARA, UKARA TEDUNG, RA REPA"⟩,
  ⟨0x1B0C, "BALINESE LETTER ", "RA REPA TEDUNG, LA LENGA, LA LENGA TEDUNG, EKARA, AIKARA, OKARA"⟩,
  ⟨0x1B12, "BALINESE LETTER ", "OKARA TEDUNG, KA, KA MAHAPRANA, GA, GA GORA, NGA, CA, CA LACA, JA"⟩,
  ⟨0x1B1B, "BALINESE LETTER ", "JA JERA, NYA, TA LATIK, TA MURDA MAHAPRANA, DA MURDA ALPAPRANA"⟩,
  ⟨0x1B20, "BALINESE LETTER ", "DA MURDA MAHAPRANA, NA RAMBAT, TA, TA TAWA, DA, DA MADU"⟩,
  ⟨0x1B26, "BALINESE LETTER ", "NA, PA, PA KAPAL, BA, BA KEMBANG, MA, YA, RA, LA, WA, SA SAGA"⟩,
  ⟨0x1B31, "BALINESE ", "LETTER SA SAPA, LETTER SA, LETTER HA, SIGN REREKAN, VOWEL SIGN TEDUNG"⟩,
  ⟨0x1B36, "BALINESE VOWEL SIGN ", "ULU, ULU SARI, SUKU, SUKU ILUT, RA REPA, RA REPA TEDUNG"⟩,
  ⟨0x1B3C, "BALINESE VOWEL SIGN ", "LA LENGA, LA LENGA TEDUNG, TALING, TALING REPA"⟩,
  ⟨0x1B40, "BALINESE VOWEL SIGN ", "TALING TEDUNG, TALING REPA TEDUNG, PEPET, PEPET TEDUNG"⟩,
  ⟨0x1B44, "BALINESE ", "ADEG ADEG, LETTER KAF SASAK, LETTER KHOT SASAK, LETTER TZIR SASAK"⟩,
  ⟨0x1B48, "BALINESE LETTER ", "EF SASAK, VE SASAK, ZAL SASAK, ASYURA SASAK, ARCHAIC JNYA"⟩,
  ⟨0x1B50, "BALINESE DIGIT ", "ZERO, ONE, TWO, THREE, FOUR"⟩,
  ⟨0x1B55, "BALINESE ", "DIGIT FIVE, DIGIT SIX, DIGIT SEVEN, DIGIT EIGHT, DIGIT NINE, PANTI"⟩,
  ⟨0x1B5B, "BALINESE ", "PAMADA, WINDU, CARIK PAMUNGKAH, CARIK SIKI, CARIK PAREREN, PAMENENG"⟩,
  ⟨0x1B61, "BALINESE MUSICAL SYMBOL ", "DONG, DENG, DUNG, DANG, DANG SURANG, DING, DAENG"⟩,
  ⟨0x1B68, "BALINESE MUSICAL SYMBOL ", "DEUNG, DAING, DANG GEDE, COMBINING TEGEH, COMBINING ENDEP"⟩,
  ⟨0x1B6D, "BALINESE MUSICAL SYMBOL COMBINING ", "KEMPUL, KEMPLI, JEGOGAN, KEMPUL WITH JEGOGAN"⟩,
  ⟨0x1B71, "BALINESE MUSICAL SYMBOL COMBINING ", "KEMPLI WITH JEGOGAN, BENDE, GONG"⟩,
  ⟨0x1B74, "BALINESE MUSICAL SYMBOL RIGHT-HAND ", "OPEN DUG, OPEN DAG, CLOSED TUK, CLOSED TAK"⟩,
  ⟨0x1B78, "BALINESE MUSICAL SYMBOL LEFT-HAND ", "OPEN PANG, OPEN PUNG, CLOSED PLAK, CLOSED PLUK"⟩,
  ⟨0x1B7C, "BALINESE ", "MUSICAL SYMBOL LEFT-HAND OPEN PING, PANTI LANTANG, PAMADA LANTANG"⟩,
  ⟨0x1B80, "SUNDANESE SIGN ", "PANYECEK, PANGLAYAR, PANGWISAD"⟩,
  ⟨0x1B83, "SUNDANESE LETTER ", "A, I, U, AE, O, E, EU, KA, QA, GA, NGA, CA, JA, ZA"⟩,
  ⟨0x1B91, "SUNDANESE LETTER ", "NYA, TA, DA, NA, PA, FA, VA, BA, MA, YA, RA, LA, WA, SA, XA, HA"⟩,
  ⟨0x1BA1, "SUNDANESE CONSONANT SIGN ", "PAMINGKAL, PANYAKRA, PANYIKU"⟩,
  ⟨0x1BA4, "SUNDANESE VOWEL SIGN ", "PANGHULU, PANYUKU, PANAELAENG, PANOLONG"⟩,
  ⟨0x1BA8, "SUNDANESE ", "VOWEL SIGN PAMEPET, VOWEL SIGN PANEULEUNG, SIGN PAMAAEH, SIGN VIRAMA"⟩,
  ⟨0x1BAC, "SUNDANESE ", "CONSONANT SIGN PASANGAN MA, CONSONANT SIGN PASANGAN WA, LETTER KHA"⟩,
  ⟨0x1BAF, "SUNDANESE ", "LETTER SYA, DIGIT ZERO, DIGIT ONE, DIGIT TWO, DIGIT THREE, DIGIT FOUR"⟩,
  ⟨0x1BB5, "SUNDANESE ", "DIGIT FIVE, DIGIT SIX, DIGIT SEVEN, DIGIT EIGHT, DIGIT NINE, AVAGRAHA"⟩,
  ⟨0x1BBB, "SUNDANESE LETTER ", "REU, LEU, BHA, FINAL K, FINAL M"⟩,
  ⟨0x1BC0, "BATAK LETTER ", "A, SIMALUNGUN A, HA, SIMALUNGUN HA, MANDAILING HA"⟩,
  ⟨0x1BC5, "BATAK LETTER ", "BA, KARO BA, PA, SIMALUNGUN PA, NA, MANDAILING NA, WA, SIMALUNGUN WA"⟩,
  ⟨0x1BCD, "BATAK LETTER ", "PAKPAK WA, GA, SIMALUNGUN GA, JA, DA, RA, SIMALUNGUN RA"⟩,
  ⟨0x1BD4, "BATAK LETTER ", "MA, SIMALUNGUN MA, SOUTHERN TA, NORTHERN TA, SA, SIMALUNGUN SA"⟩,
  ⟨0x1BDA, "BATAK LETTER ", "MANDAILING SA, YA, SIMALUNGUN YA, NGA, LA, SIMALUNGUN LA, NYA"⟩,
  ⟨0x1BE1, "BATAK ", "LETTER CA, LETTER NDA, LETTER MBA, LETTER I, LETTER U, SIGN TOMPI"⟩,
  ⟨0x1BE7, "BATAK VOWEL SIGN ", "E, PAKPAK E, EE, I, KARO I, O, KARO O, U, U FOR SIMALUNGUN SA"⟩,
  ⟨0x1BF0, "BATAK ", "CONSONANT SIGN NG, CONSONANT SIGN H, PANGOLAT, PANONGONAN"⟩,
  ⟨0x1BFC, "BATAK SYMBOL BINDU ", "NA METEK, PINARBORAS, JUDUL, PANGOLAT"⟩,
  ⟨0x1C00, "LEPCHA LETTER ", "KA, KLA, KHA"⟩,
  ⟨0x1C03, "LEPCHA LETTER ", "GA, GLA, NGA, CA, CHA, JA, NYA, TA, THA, DA, NA, PA, PLA, PHA, FA"⟩,
  ⟨0x1C12, "LEPCHA LETTER ", "FLA, BA, BLA, MA, MLA, TSA, TSHA, DZA, YA, RA, LA, HA, HLA, VA, SA"⟩,
  ⟨0x1C21, "LEPCHA ", "LETTER SHA, LETTER WA, LETTER A, SUBJOINED LETTER YA, SUBJOINED LETTER RA"⟩,
  ⟨0x1C26, "LEPCHA VOWEL SIGN ", "AA, I, O, OO, U, UU, E"⟩,
  ⟨0x1C2D, "LEPCHA CONSONANT SIGN ", "K, M, L, N, P, R, T"⟩,
  ⟨0x1C34, "LEPCHA ", "CONSONANT SIGN NYIN-DO, CONSONANT SIGN KANG, SIGN RAN, SIGN NUKTA"⟩,
  ⟨0x1C3B, "LEPCHA PUNCTUATION ", "TA-ROL, NYET THYOOM TA-ROL, CER-WA, TSHOOK CER-WA, TSHOOK"⟩,
  ⟨0x1C40, "LEPCHA DIGIT ", "ZERO, ONE, TWO, THREE, FOUR, FIVE, SIX, SEVEN, EIGHT, NINE"⟩,
  ⟨0x1C4D, "LEPCHA LETTER ", "TTA, TTHA, DDA"⟩,
  ⟨0x1C50, "OL CHIKI DIGIT ", "ZERO, ONE, TWO, THREE, FOUR, FIVE, SIX, SEVEN, EIGHT, NINE"⟩,
  ⟨0x1C5A, "OL CHIKI LETTER ", "LA, AT, AG, ANG, AL, LAA, AAK, AAJ, AAM, AAW, LI, IS, IH"⟩,
  ⟨0x1C67, "OL CHIKI LETTER ", "INY, IR, LU, UC, UD, UNN, UY, LE, EP, EDD, EN, ERR, LO, OTT, OB"⟩,
  ⟨0x1C76, "OL CHIKI ", "LETTER OV, LETTER OH, MU TTUDDAG, GAAHLAA TTUDDAAG, MU-GAAHLAA TTUDDAAG"⟩,
  ⟨0x1C7B, "OL CHIKI ", "RELAA, PHAARKAA, AHAD, PUNCTUATION MUCAAD, PUNCTUATION DOUBLE MUCAAD"⟩,
  ⟨0x1CC0, "SUNDANESE PUNCTUATION BINDU ", "SURYA, PANGLONG, PURNAMA, CAKRA"⟩,
  ⟨0x1CC4, "SUNDANESE PUNCTUATION BINDU ", "LEU SATANGA, KA SATANGA, DA SATANGA, BA SATANGA"⟩,
  ⟨0xA900, "KAYAH LI DIGIT ", "ZERO, ONE, TWO, THREE, FOUR, FIVE, SIX, SEVEN, EIGHT, NINE"⟩,
  ⟨0xA90A, "KAYAH LI LETTER ", "KA, KHA, GA, NGA, SA, SHA, ZA, NYA, TA"⟩,
  ⟨0xA913, "KAYAH LI LETTER ", "HTA, NA, PA, PHA, MA, DA, BA, RA, YA, LA, WA, THA, HA, VA, CA, A"⟩,
  ⟨0xA923, "KAYAH LI ", "LETTER OE, LETTER I, LETTER OO, VOWEL UE, VOWEL E, VOWEL U, VOWEL EE"⟩,
  ⟨0xA92A, "KAYAH LI ", "VOWEL O, TONE PLOPHU, TONE CALYA, TONE CALYA PLOPHU, SIGN CWI, SIGN SHYA"⟩,
  ⟨0xA930, "REJANG LETTER ", "KA, GA, NGA, TA, DA, NA, PA, BA"⟩,
  ⟨0xA938, "REJANG LETTER ", "MA, CA, JA, NYA, SA, RA, LA, YA, WA, HA, MBA, NGGA, NDA, NYJA, A"⟩,
  ⟨0xA947, "REJANG VOWEL SIGN ", "I, U, E, AI, O"⟩,
  ⟨0xA94C, "REJANG ", "VOWEL SIGN AU, VOWEL SIGN EU, VOWEL SIGN EA, CONSONANT SIGN NG"⟩,
  ⟨0xA950, "REJANG ", "CONSONANT SIGN N, CONSONANT SIGN R, CONSONANT SIGN H, VIRAMA"⟩,
  ⟨0xA95F, "", "REJANG SECTION MARK"⟩,
  ⟨0xA980, "JAVANESE SIGN ", "PANYANGGA, CECAK, LAYAR, WIGNYAN"⟩,
  ⟨0xA984, "JAVANESE LETTER ", "A, I KAWI, I, II, U, PA CEREK"⟩,
  ⟨0xA98A, "JAVANESE LETTER ", "NGA LELET, NGA LELET RASWADI, E, AI, O, KA, KA SASAK, KA MURDA"⟩,
  ⟨0xA992, "JAVANESE LETTER ", "GA, GA MURDA, NGA, CA, CA MURDA, JA, NYA MURDA, JA MAHAPRANA"⟩,
  ⟨0xA99A, "JAVANESE LETTER ", "NYA, TTA, TTA MAHAPRANA, DDA, DDA MAHAPRANA, NA MURDA"⟩,
  ⟨0xA9A0, "JAVANESE LETTER ", "TA, TA MURDA, DA, DA MAHAPRANA, NA, PA, PA MURDA, BA, BA MURDA"⟩,
  ⟨0xA9A9, "JAVANESE LETTER ", "MA, YA, RA, RA AGUNG, LA, WA, SA MURDA, SA MAHAPRANA, SA"⟩,
  ⟨0xA9B2, "JAVANESE ", "LETTER HA, SIGN CECAK TELU, VOWEL SIGN TARUNG, VOWEL SIGN TOLONG"⟩,
  ⟨0xA9B6, "JAVANESE VOWEL SIGN ", "WULU, WULU MELIK, SUKU, SUKU MENDUT, TALING, DIRGA MURE"⟩,
  ⟨0xA9BC, "JAVANESE ", "VOWEL SIGN PEPET, CONSONANT SIGN KERET, CONSONANT SIGN PENGKAL"⟩,
  ⟨0xA9BF, "JAVANESE ", "CONSONANT SIGN CAKRA, PANGKON, LEFT RERENGGAN, RIGHT RERENGGAN"⟩,
  ⟨0xA9C3, "JAVANESE PADA ", "ANDAP, MADYA, LUHUR, WINDU, PANGKAT, LINGSA, LUNGSI"⟩,
  ⟨0xA9CA, "JAVANESE ", "PADA ADEG, PADA ADEG ADEG, PADA PISELEH, TURNED PADA PISELEH"⟩,
  ⟨0xA9CF, "", "JAVANESE PANGRANGKEP"⟩,
  ⟨0xA9D0, "JAVANESE DIGIT ", "ZERO, ONE, TWO, THREE, FOUR, FIVE, SIX, SEVEN, EIGHT, NINE"⟩,
  ⟨0xA9DE, "JAVANESE PADA ", "TIRTA TUMETES, ISEN-ISEN"⟩,
  ⟨0xA9E0, "MYANMAR LETTER SHAN ", "GHA, CHA, JHA, NNA"⟩,
  ⟨0xA9E4, "MYANMAR ", "LETTER SHAN BHA, SIGN SHAN SAW, MODIFIER LETTER SHAN REDUPLICATION"⟩,
  ⟨0xA9E7, "MYANMAR LETTER TAI LAING ", "NYA, FA, GA, GHA, JA, JHA, DDA"⟩,
  ⟨0xA9EE, "MYANMAR ", "LETTER TAI LAING DDHA, LETTER TAI LAING NNA, TAI LAING DIGIT ZERO"⟩,
  ⟨0xA9F1, "MYANMAR TAI LAING DIGIT ", "ONE, TWO, THREE, FOUR, FIVE, SIX, SEVEN, EIGHT, NINE"⟩,
  ⟨0xA9FA, "MYANMAR LETTER TAI LAING ", "LLA, DA, DHA, BA, BHA"⟩,
  ⟨0xAA00, "CHAM LETTER ", "A, I, U, E, AI, O, KA, KHA, GA, GHA, NGUE"⟩,
  ⟨0xAA0B, "CHAM LETTER ", "NGA, CHA, CHHA, JA, JHA, NHUE, NHA, NHJA, TA, THA, DA, DHA, NUE, NA"⟩,
  ⟨0xAA19, "CHAM LETTER ", "DDA, PA, PPA, PHA, BA, BHA, MUE, MA, BBA, YA, RA, LA, VA, SSA, SA, HA"⟩,
  ⟨0xAA29, "CHAM VOWEL SIGN ", "AA, I, II, EI, U, OE, O, AI, AU, UE"⟩,
  ⟨0xAA33, "CHAM CONSONANT SIGN ", "YA, RA, LA, WA"⟩,
  ⟨0xAA40, "CHAM ", "LETTER FINAL K, LETTER FINAL G, LETTER FINAL NG, CONSONANT SIGN FINAL NG"⟩,
  ⟨0xAA44, "CHAM LETTER FINAL ", "CH, T, N, P, Y, R, L"⟩,
  ⟨0xAA4B, "CHAM ", "LETTER FINAL SS, CONSONANT SIGN FINAL M, CONSONANT SIGN FINAL H"⟩,
  ⟨0xAA50, "CHAM DIGIT ", "ZERO, ONE, TWO, THREE, FOUR, FIVE, SIX, SEVEN, EIGHT, NINE"⟩,
  ⟨0xAA5C, "CHAM PUNCTUATION ", "SPIRAL, DANDA, DOUBLE DANDA"⟩,
  ⟨0xAA5F, "", "CHAM PUNCTUATION TRIPLE DANDA, MYANMAR LETTER KHAMTI GA, MYANMAR LETTER KHAMTI CA"⟩,
  ⟨0xAA62, "MYANMAR LETTER KHAMTI ", "CHA, JA, JHA, NYA, TTA, TTHA, DDA, DDHA, DHA, NA, SA, HA"⟩,
  ⟨0xAA6E, "MYANMAR ", "LETTER KHAMTI HHA, LETTER KHAMTI FA, MODIFIER LETTER KHAMTI REDUPLICATION"⟩,
  ⟨0xAA71, "MYANMAR LETTER KHAMTI ", "XA, ZA, RA"⟩,
  ⟨0xAA74, "MYANMAR LOGOGRAM KHAMTI ", "OAY, QN, HM"⟩,
  ⟨0xAA77, "MYANMAR SYMBOL AITON ", "EXCLAMATION, ONE, TWO"⟩,
  ⟨0xAA7A, "MYANMAR ", "LETTER AITON RA, SIGN PAO KAREN TONE, SIGN TAI LAING TONE-2"⟩,
  ⟨0xAA7D, "MYANMAR ", "SIGN TAI LAING TONE-5, LETTER SHWE PALAUNG CHA, LETTER SHWE PALAUNG SHA"⟩,
  ⟨0xAA80, "TAI VIET LETTER ", "LOW KO, HIGH KO, LOW KHO, HIGH KHO, LOW KHHO"⟩,
  ⟨0xAA85, "TAI VIET LETTER ", "HIGH KHHO, LOW GO, HIGH GO, LOW NGO, HIGH NGO, LOW CO, HIGH CO"⟩,
  ⟨0xAA8C, "TAI VIET LETTER ", "LOW CHO, HIGH CHO, LOW SO, HIGH SO, LOW NYO, HIGH NYO, LOW DO"⟩,
  ⟨0xAA93, "TAI VIET LETTER ", "HIGH DO, LOW TO, HIGH TO, LOW THO, HIGH THO, LOW NO, HIGH NO"⟩,
  ⟨0xAA9A, "TAI VIET LETTER ", "LOW BO, HIGH BO, LOW PO, HIGH PO, LOW PHO, HIGH PHO, LOW FO"⟩,
  ⟨0xAAA1, "TAI VIET LETTER ", "HIGH FO, LOW MO, HIGH MO, LOW YO, HIGH YO, LOW RO, HIGH RO"⟩,
  ⟨0xAAA8, "TAI VIET LETTER ", "LOW LO, HIGH LO, LOW VO, HIGH VO, LOW HO, HIGH HO, LOW O, HIGH O"⟩,
  ⟨0xAAB0, "TAI VIET ", "MAI KANG, VOWEL AA, VOWEL I, VOWEL UE, VOWEL U, VOWEL E, VOWEL O"⟩,
  ⟨0xAAB7, "TAI VIET ", "MAI KHIT, VOWEL IA, VOWEL UEA, VOWEL UA, VOWEL AUE, VOWEL AY, VOWEL AN"⟩,
  ⟨0xAABE, "TAI VIET ", "VOWEL AM, TONE MAI EK, TONE MAI NUENG, TONE MAI THO, TONE MAI SONG"⟩,
  ⟨0xAADB, "TAI VIET SYMBOL ", "KON, NUENG, SAM, HO HOI, KOI KOI"⟩,
  ⟨0x16A40, "", "MRO LETTER TA"⟩,
  ⟨0x16A41, "MRO LETTER ", "NGI, YO, MIM, BA, DA, A, PHI, KHAI, HAO, DAI, CHU, KEAAE, OL, MAEM"⟩,
  ⟨0x16A4F, "MRO LETTER ", "NIN, PA, OO, O, RO, SHI, THEA, EA, WA, E, KO, LAN, LA, HAI, RI, TEK"⟩,
  ⟨0x16A60, "MRO DIGIT ", "ZERO, ONE, TWO, THREE, FOUR, FIVE, SIX, SEVEN, EIGHT, NINE"⟩,
  ⟨0x16A6E, "MRO ", "DANDA, DOUBLE DANDA"⟩,
  ⟨0x16A70, "TANGSA LETTER ", "OZ, OC, OQ, OX, AZ, AC, AQ, AX, VZ, VC, VQ, VX"⟩,
  ⟨0x16A7C, "TANGSA LETTER ", "EZ, EC, EQ, EX, IZ, IC, IQ, IX, UZ, UC, UQ, UX, AWZ, AWC, AWQ, AWX"⟩,
  ⟨0x16A8C, "TANGSA LETTER ", "UIZ, UIC, UIQ, UIX, FINAL NG, LONG UEX, SHORT UEZ, SHORT AWX, UEC"⟩,
  ⟨0x16A95, "TANGSA LETTER ", "UEZ, UEQ, UEX, UIUZ, UIUC, UIUQ, UIUX, MZ, MC, MQ, MX, KA, KHA"⟩,
  ⟨0x16AA2, "TANGSA LETTER ", "GA, NGA, SA, YA, WA, PA, NYA, PHA, BA, MA, NA, HA, LA, HTA, TA"⟩,
  ⟨0x16AB1, "TANGSA LETTER ", "DA, RA, NHA, SHA, CA, TSA, GHA, HTTA, THA, XA, FA, DHA, CHA, ZA"⟩,
  ⟨0x16AC0, "TANGSA DIGIT ", "ZERO, ONE, TWO, THREE, FOUR, FIVE, SIX, SEVEN, EIGHT, NINE"⟩,
  ⟨0x16B00, "PAHAWH HMONG VOWEL ", "KEEB, KEEV, KIB, KIV, KAUB, KAUV"⟩,
  ⟨0x16B06, "PAHAWH HMONG VOWEL ", "KUB, KUV, KEB, KEV, KAIB, KAIV, KOOB, KOOV, KAWB, KAWV, KUAB"⟩,
  ⟨0x16B11, "PAHAWH HMONG VOWEL ", "KUAV, KOB, KOV, KIAB, KIAV, KAB, KAV, KWB, KWV, KAAB, KAAV"⟩,
  ⟨0x16B1C, "PAHAWH HMONG CONSONANT ", "VAU, NTSAU, LAU, HAU, NLAU, RAU, NKAU, QHAU, YAU, HLAU"⟩,
  ⟨0x16B26, "PAHAWH HMONG CONSONANT ", "MAU, CHAU, NCHAU, HNAU, PLHAU, NTHAU, NAU, AU, XAU, CAU"⟩,
  ⟨0x16B30, "PAHAWH HMONG MARK CIM ", "TUB, SO, KES, KHAV, SUAM, HOM, TAUM"⟩,
  ⟨0x16B37, "PAHAWH HMONG SIGN ", "VOS THOM, VOS TSHAB CEEB, CIM CHEEM, VOS THIAB"⟩,
  ⟨0x16B3B, "PAHAWH HMONG SIGN ", "VOS FEEM, XYEEM NTXIV, XYEEM RHO, XYEEM TOV, XYEEM FAIB"⟩,
  ⟨0x16B40, "PAHAWH HMONG SIGN ", "VOS SEEV, MEEJ SUAB, VOS NRUA, IB YAM, XAUS, CIM TSOV ROG"⟩,
  ⟨0x16B50, "PAHAWH HMONG DIGIT ", "ZERO, ONE, TWO, THREE, FOUR, FIVE, SIX, SEVEN, EIGHT, NINE"⟩,
  ⟨0x16B5B, "PAHAWH HMONG NUMBER ", "TENS, HUNDREDS, TEN THOUSANDS"⟩,
  ⟨0x16B5E, "PAHAWH HMONG NUMBER ", "MILLIONS, HUNDRED MILLIONS, TEN BILLIONS, TRILLIONS"⟩,
  ⟨0x16B63, "PAHAWH HMONG SIGN ", "VOS LUB, XYOO"⟩,
  ⟨0x16B65, "PAHAWH HMONG SIGN ", "HLI, THIRD-STAGE HLI, ZWJ THAJ, HNUB, NQIG, XIAB, NTUJ, AV"⟩,
  ⟨0x16B6D, "PAHAWH HMONG SIGN ", "TXHEEJ CEEV, MEEJ TSEEB, TAU, LOS, MUS, CIM HAIS LUS NTOG NTOG"⟩,
  ⟨0x16B73, "PAHAWH HMONG SIGN CIM ", "CUAM TSHOOJ, TXWV, TXWV CHWV, PUB DAWB, NRES TOS"⟩,
  ⟨0x16B7D, "PAHAWH HMONG CLAN SIGN ", "TSHEEJ, YEEG, LIS, LAUJ, XYOOJ, KOO, HAWJ, MUAS, THOJ"⟩,
  ⟨0x16B86, "PAHAWH HMONG CLAN SIGN ", "TSAB, PHAB, KHAB, HAM, VAJ, FAJ, YAJ, TSWB, KWM, VWJ"⟩,
  ⟨0x16F00, "MIAO LETTER ", "PA, BA, YI PA, PLA, MA, MHA, ARCHAIC MA"⟩,
  ⟨0x16F07, "MIAO LETTER ", "FA, VA, VFA, TA, DA, YI TTA, YI TA, TTA, DDA, NA, NHA, YI NNA"⟩,
  ⟨0x16F13, "MIAO LETTER ", "ARCHAIC NA, NNA, NNHA, LA, LYA, LHA, LHYA, TLHA, DLHA, TLHYA, DLHYA"⟩,
  ⟨0x16F1E, "MIAO LETTER ", "KA, GA, YI KA, QA, QGA, NGA, NGHA, ARCHAIC NGA, HA, XA, GHA, GHHA"⟩,
  ⟨0x16F2A, "MIAO LETTER ", "TSSA, DZZA, NYA, NYHA, TSHA, DZHA, YI TSHA, YI DZHA, REFORMED TSHA"⟩,
  ⟨0x16F33, "MIAO LETTER ", "SHA, SSA, ZHA, ZSHA, TSA, DZA, YI TSA, SA, ZA, ZSA, ZZA, ZZSA"⟩,
  ⟨0x16F3F, "MIAO LETTER ", "ARCHAIC ZZA, ZZYA, ZZSYA, WA, AH, HHA, BRI, SYI, DZYI, TE, TSE, RTE"⟩,
  ⟨0x16F4F, "MIAO ", "SIGN CONSONANT MODIFIER BAR, LETTER NASALIZATION"⟩,
  ⟨0x16F51, "MIAO SIGN ", "ASPIRATION, REFORMED VOICING, REFORMED ASPIRATION"⟩,
  ⟨0x16F54, "MIAO VOWEL SIGN ", "A, AA, AHH, AN, ANG, O, OO, WO, W, E, EN, ENG"⟩,
  ⟨0x16F60, "MIAO VOWEL SIGN ", "OEY, I, IA, IAN, IANG, IO, IE, II, IU, ING, U, UA, UAN, UANG"⟩,
  ⟨0x16F6E, "MIAO VOWEL SIGN ", "UU, UEI, UNG, Y, YI, AE, AEE, ERR, ROUNDED ERR, ER, ROUNDED ER"⟩,
  ⟨0x16F79, "MIAO VOWEL SIGN ", "AI, EI, AU, OU, N, NG, UOG, YUI, OG, OER, VW, IG, EA, IONG, UI"⟩,
  ⟨0x16F8F, "MIAO TONE ", "RIGHT, TOP RIGHT, ABOVE, BELOW"⟩,
  ⟨0x16F93, "MIAO LETTER TONE-", "2, 3, 4, 5, 6, 7, 8"⟩,
  ⟨0x16F9A, "MIAO LETTER REFORMED TONE-", "1, 2, 4, 5, 6, 8"⟩,
  ⟨0x1E100, "NYIAKENG PUACHUE HMONG LETTER ", "MA, TSA, NTA, TA, HA, NA, XA, NKA, CA, LA"⟩,
  ⟨0x1E10A, "NYIAKENG PUACHUE HMONG LETTER ", "SA, ZA, NCA, NTSA, KA, DA, NYA, NRA, VA, NTXA, TXA"⟩,
  ⟨0x1E115, "NYIAKENG PUACHUE HMONG LETTER ", "FA, RA, QA, YA, NQA, PA, XYA, NPA, DLA, NPLA, HAH"⟩,
  ⟨0x1E120, "NYIAKENG PUACHUE HMONG LETTER ", "MLA, PLA, GA, RRA, A, AA, I, U, O, OO, E, EE, W"⟩,
  ⟨0x1E130, "NYIAKENG PUACHUE HMONG TONE-", "B, M, J, V, S, G, D"⟩,
  ⟨0x1E137, "NYIAKENG PUACHUE HMONG SIGN FOR ", "PERSON, THING, LOCATION, ANIMAL"⟩,
  ⟨0x1E13B, "NYIAKENG PUACHUE HMONG ", "SIGN FOR INVERTEBRATE, SIGN XW XW, SYLLABLE LENGTHENER"⟩,
  ⟨0x1E140, "NYIAKENG PUACHUE HMONG DIGIT ", "ZERO, ONE"⟩,
  ⟨0x1E142, "NYIAKENG PUACHUE HMONG DIGIT ", "TWO, THREE, FOUR, FIVE, SIX, SEVEN, EIGHT, NINE"⟩,
  ⟨0x1E14E, "NYIAKENG PUACHUE HMONG ", "LOGOGRAM NYAJ, CIRCLED CA"⟩,
  ⟨0x1E290, "TOTO LETTER ", "PA, BA, TA, DA, KA, GA, MA, NA, NGA, SA, CHA, YA, WA, JA, HA, RA"⟩,
  ⟨0x1E2A0, "TOTO LETTER ", "LA, I, BREATHY I, IU, BREATHY IU, U, E, BREATHY E, EO, BREATHY EO"⟩,
  ⟨0x1E2AA, "TOTO ", "LETTER O, LETTER AE, LETTER BREATHY AE, LETTER A, SIGN RISING TONE"⟩,
  ⟨0x1E2C0, "WANCHO LETTER ", "AA, A, BA, CA, DA, GA, YA, PHA, LA, NA, PA, TA"⟩,
  ⟨0x1E2CC, "WANCHO LETTER ", "THA, FA, SA, SHA, JA, ZA, WA, VA, KA, O, AU, RA, MA, KHA, HA, E"⟩,
  ⟨0x1E2DC, "WANCHO LETTER ", "I, NGA, U, LLHA, TSA, TRA, ONG, AANG, ANG, ING, ON, EN, AAN, NYA"⟩,
  ⟨0x1E2EA, "WANCHO ", "LETTER UEN, LETTER YIH, TONE TUP, TONE TUPNI, TONE KOI, TONE KOINI"⟩,
  ⟨0x1E2F0, "WANCHO DIGIT ", "ZERO, ONE, TWO, THREE, FOUR, FIVE, SIX, SEVEN, EIGHT, NINE"⟩,
  ⟨0x1E2FF, "", "WANCHO NGUN SIGN"⟩]

end BatchExec
