import BatchExec.Text.CharacterName.Row

/-!
# Scripts of India

The names of the letters of the Indian scripts in use.
-/

namespace BatchExec

/-- The names of the letters of the Indian scripts in use. -/
def indicNames : List NameRow := [
  ⟨0x0900, "DEVANAGARI SIGN ", "INVERTED CANDRABINDU, CANDRABINDU, ANUSVARA"⟩,
  ⟨0x0903, "DEVANAGARI ", "SIGN VISARGA, LETTER SHORT A, LETTER A, LETTER AA, LETTER I, LETTER II"⟩,
  ⟨0x0909, "DEVANAGARI LETTER ", "U, UU, VOCALIC R, VOCALIC L, CANDRA E, SHORT E, E, AI, CANDRA O"⟩,
  ⟨0x0912, "DEVANAGARI LETTER ", "SHORT O, O, AU, KA, KHA, GA, GHA, NGA, CA, CHA, JA, JHA"⟩,
  ⟨0x091E, "DEVANAGARI LETTER ", "NYA, TTA, TTHA, DDA, DDHA, NNA, TA, THA, DA, DHA, NA, NNNA, PA"⟩,
  ⟨0x092B, "DEVANAGARI LETTER ", "PHA, BA, BHA, MA, YA, RA, RRA, LA, LLA, LLLA, VA, SHA, SSA, SA"⟩,
  ⟨0x0939, "DEVANAGARI ", "LETTER HA, VOWEL SIGN OE, VOWEL SIGN OOE, SIGN NUKTA, SIGN AVAGRAHA"⟩,
  ⟨0x093E, "DEVANAGARI VOWEL SIGN ", "AA, I, II, U, UU, VOCALIC R"⟩,
  ⟨0x0944, "DEVANAGARI VOWEL SIGN ", "VOCALIC RR, CANDRA E, SHORT E, E, AI, CANDRA O, SHORT O, O"⟩,
  ⟨0x094C, "DEVANAGARI ", "VOWEL SIGN AU, SIGN VIRAMA, VOWEL SIGN PRISHTHAMATRA E, VOWEL SIGN AW"⟩,
  ⟨0x0950, "DEVANAGARI ", "OM, STRESS SIGN UDATTA, STRESS SIGN ANUDATTA, GRAVE ACCENT"⟩,
  ⟨0x0954, "DEVANAGARI ", "ACUTE ACCENT, VOWEL SIGN CANDRA LONG E, VOWEL SIGN UE, VOWEL SIGN UUE"⟩,
  ⟨0x0958, "DEVANAGARI LETTER ", "QA, KHHA, GHHA, ZA, DDDHA, RHA, FA, YYA, VOCALIC RR, VOCALIC LL"⟩,
  ⟨0x0962, "DEVANAGARI ", "VOWEL SIGN VOCALIC L, VOWEL SIGN VOCALIC LL, DANDA, DOUBLE DANDA"⟩,
  ⟨0x0966, "DEVANAGARI DIGIT ", "ZERO, ONE, TWO, THREE, FOUR, FIVE, SIX, SEVEN"⟩,
  ⟨0x096E, "DEVANAGARI ", "DIGIT EIGHT, DIGIT NINE, ABBREVIATION SIGN, SIGN HIGH SPACING DOT"⟩,
  ⟨0x0972, "DEVANAGARI LETTER ", "CANDRA A, OE, OOE, AW, UE, UUE"⟩,
  ⟨0x0978, "DEVANAGARI LETTER ", "MARWARI DDA, ZHA, HEAVY YA, GGA, JJA, GLOTTAL STOP, DDDA, BBA"⟩,
  ⟨0x0980, "BENGALI ", "ANJI, SIGN CANDRABINDU, SIGN ANUSVARA, SIGN VISARGA"⟩,
  ⟨0x0985, "BENGALI LETTER ", "A, AA, I, II, U, UU, VOCALIC R, VOCALIC L"⟩,
  ⟨0x098F, "BENGALI LETTER ", "E, AI"⟩,
  ⟨0x0993, "BENGALI LETTER ", "O, AU, KA, KHA, GA, GHA, NGA, CA"⟩,
  ⟨0x099B, "BENGALI LETTER ", "CHA, JA, JHA, NYA, TTA, TTHA, DDA, DDHA, NNA, TA, THA, DA, DHA, NA"⟩,
  ⟨0x09AA, "BENGALI LETTER ", "PA, PHA, BA, BHA, MA, YA, RA"⟩,
  ⟨0x09B2, "", "BENGALI LETTER LA"⟩,
  ⟨0x09B6, "BENGALI LETTER ", "SHA, SSA, SA, HA"⟩,
  ⟨0x09BC, "BENGALI SIGN ", "NUKTA, AVAGRAHA"⟩,
  ⟨0x09BE, "BENGALI VOWEL SIGN ", "AA, I, II, U, UU, VOCALIC R, VOCALIC RR"⟩,
  ⟨0x09C7, "BENGALI VOWEL SIGN ", "E, AI"⟩,
  ⟨0x09CB, "BENGALI ", "VOWEL SIGN O, VOWEL SIGN AU, SIGN VIRAMA, LETTER KHANDA TA"⟩,
  ⟨0x09D7, "", "BENGALI AU LENGTH MARK"⟩,
  ⟨0x09DC, "BENGALI LETTER ", "RRA, RHA"⟩,
  ⟨0x09DF, "BENGALI LETTER ", "YYA, VOCALIC RR"⟩,
  ⟨0x09E1, "BENGALI ", "LETTER VOCALIC LL, VOWEL SIGN VOCALIC L, VOWEL SIGN VOCALIC LL"⟩,
  ⟨0x09E6, "BENGALI DIGIT ", "ZERO, ONE, TWO, THREE, FOUR, FIVE, SIX"⟩,
  ⟨0x09ED, "BENGALI ", "DIGIT SEVEN, DIGIT EIGHT, DIGIT NINE, LETTER RA WITH MIDDLE DIAGONAL"⟩,
  ⟨0x09F1, "BENGALI ", "LETTER RA WITH LOWER DIAGONAL, RUPEE MARK, RUPEE SIGN"⟩,
  ⟨0x09F4, "BENGALI CURRENCY NUMERATOR ", "ONE, TWO, THREE, FOUR"⟩,
  ⟨0x09F8, "BENGALI CURRENCY ", "NUMERATOR ONE LESS THAN THE DENOMINATOR, DENOMINATOR SIXTEEN"⟩,
  ⟨0x09FA, "BENGALI ", "ISSHAR, GANDA MARK, LETTER VEDIC ANUSVARA, ABBREVIATION SIGN, SANDHI MARK"⟩,
  ⟨0x0A01, "GURMUKHI SIGN ", "ADAK BINDI, BINDI, VISARGA"⟩,
  ⟨0x0A05, "GURMUKHI LETTER ", "A, AA, I, II, U, UU"⟩,
  ⟨0x0A0F, "GURMUKHI LETTER ", "EE, AI"⟩,
  ⟨0x0A13, "GURMUKHI LETTER ", "OO, AU, KA, KHA, GA, GHA, NGA, CA, CHA"⟩,
  ⟨0x0A1C, "GURMUKHI LETTER ", "JA, JHA, NYA, TTA, TTHA, DDA, DDHA, NNA, TA, THA, DA, DHA, NA"⟩,
  ⟨0x0A2A, "GURMUKHI LETTER ", "PA, PHA, BA, BHA, MA, YA, RA"⟩,
  ⟨0x0A32, "GURMUKHI LETTER ", "LA, LLA"⟩,
  ⟨0x0A35, "GURMUKHI LETTER ", "VA, SHA"⟩,
  ⟨0x0A38, "GURMUKHI LETTER ", "SA, HA"⟩,
  ⟨0x0A3C, "", "GURMUKHI SIGN NUKTA"⟩,
  ⟨0x0A3E, "GURMUKHI VOWEL SIGN ", "AA, I, II, U, UU"⟩,
  ⟨0x0A47, "GURMUKHI VOWEL SIGN ", "EE, AI"⟩,
  ⟨0x0A4B, "GURMUKHI ", "VOWEL SIGN OO, VOWEL SIGN AU, SIGN VIRAMA"⟩,
  ⟨0x0A51, "", "GURMUKHI SIGN UDAAT"⟩,
  ⟨0x0A59, "GURMUKHI LETTER ", "KHHA, GHHA, ZA, RRA"⟩,
  ⟨0x0A5E, "", "GURMUKHI LETTER FA"⟩,
  ⟨0x0A66, "GURMUKHI DIGIT ", "ZERO, ONE, TWO, THREE, FOUR, FIVE, SIX, SEVEN, EIGHT, NINE"⟩,
  ⟨0x0A70, "GURMUKHI ", "TIPPI, ADDAK, IRI, URA, EK ONKAR, SIGN YAKASH, ABBREVIATION SIGN"⟩,
  ⟨0x0A81, "GUJARATI SIGN ", "CANDRABINDU, ANUSVARA, VISARGA"⟩,
  ⟨0x0A85, "GUJARATI LETTER ", "A, AA, I, II"⟩,
  ⟨0x0A89, "GUJARATI ", "LETTER U, LETTER UU, LETTER VOCALIC R, LETTER VOCALIC L, VOWEL CANDRA E"⟩,
  ⟨0x0A8F, "GUJARATI ", "LETTER E, LETTER AI, VOWEL CANDRA O"⟩,
  ⟨0x0A93, "GUJARATI LETTER ", "O, AU, KA, KHA, GA, GHA, NGA, CA, CHA"⟩,
  ⟨0x0A9C, "GUJARATI LETTER ", "JA, JHA, NYA, TTA, TTHA, DDA, DDHA, NNA, TA, THA, DA, DHA, NA"⟩,
  ⟨0x0AAA, "GUJARATI LETTER ", "PA, PHA, BA, BHA, MA, YA, RA"⟩,
  ⟨0x0AB2, "GUJARATI LETTER ", "LA, LLA"⟩,
  ⟨0x0AB5, "GUJARATI LETTER ", "VA, SHA, SSA, SA, HA"⟩,
  ⟨0x0ABC, "GUJARATI SIGN ", "NUKTA, AVAGRAHA"⟩,
  ⟨0x0ABE, "GUJARATI VOWEL SIGN ", "AA, I, II, U, UU, VOCALIC R, VOCALIC RR, CANDRA E"⟩,
  ⟨0x0AC7, "GUJARATI VOWEL SIGN ", "E, AI, CANDRA O"⟩,
  ⟨0x0ACB, "GUJARATI ", "VOWEL SIGN O, VOWEL SIGN AU, SIGN VIRAMA"⟩,
  ⟨0x0AD0, "", "GUJARATI OM"⟩,
  ⟨0x0AE0, "", "GUJARATI LETTER VOCALIC RR"⟩,
  ⟨0x0AE1, "GUJARATI ", "LETTER VOCALIC LL, VOWEL SIGN VOCALIC L, VOWEL SIGN VOCALIC LL"⟩,
  ⟨0x0AE6, "GUJARATI DIGIT ", "ZERO, ONE, TWO, THREE, FOUR, FIVE, SIX"⟩,
  ⟨0x0AED, "GUJARATI ", "DIGIT SEVEN, DIGIT EIGHT, DIGIT NINE, ABBREVIATION SIGN, RUPEE SIGN"⟩,
  ⟨0x0AF9, "GUJARATI ", "LETTER ZHA, SIGN SUKUN, SIGN SHADDA, SIGN MADDAH"⟩,
  ⟨0x0AFD, "GUJARATI SIGN ", "THREE-DOT NUKTA ABOVE, CIRCLE NUKTA ABOVE, TWO-CIRCLE NUKTA ABOVE"⟩,
  ⟨0x0B01, "ORIYA SIGN ", "CANDRABINDU, ANUSVARA, VISARGA"⟩,
  ⟨0x0B05, "ORIYA LETTER ", "A, AA, I, II, U, UU, VOCALIC R, VOCALIC L"⟩,
  ⟨0x0B0F, "ORIYA LETTER ", "E, AI"⟩,
  ⟨0x0B13, "ORIYA LETTER ", "O, AU, KA, KHA, GA, GHA, NGA, CA"⟩,
  ⟨0x0B1B, "ORIYA LETTER ", "CHA, JA, JHA, NYA, TTA, TTHA, DDA, DDHA, NNA, TA, THA, DA, DHA, NA"⟩,
  ⟨0x0B2A, "ORIYA LETTER ", "PA, PHA, BA, BHA, MA, YA, RA"⟩,
  ⟨0x0B32, "ORIYA LETTER ", "LA, LLA"⟩,
  ⟨0x0B35, "ORIYA LETTER ", "VA, SHA, SSA, SA, HA"⟩,
  ⟨0x0B3C, "ORIYA SIGN ", "NUKTA, AVAGRAHA"⟩,
  ⟨0x0B3E, "ORIYA VOWEL SIGN ", "AA, I, II, U, UU, VOCALIC R, VOCALIC RR"⟩,
  ⟨0x0B47, "ORIYA VOWEL SIGN ", "E, AI"⟩,
  ⟨0x0B4B, "ORIYA ", "VOWEL SIGN O, VOWEL SIGN AU, SIGN VIRAMA"⟩,
  ⟨0x0B55, "ORIYA ", "SIGN OVERLINE, AI LENGTH MARK, AU LENGTH MARK"⟩,
  ⟨0x0B5C, "ORIYA LETTER ", "RRA, RHA"⟩,
  ⟨0x0B5F, "ORIYA LETTER ", "YYA, VOCALIC RR"⟩,
  ⟨0x0B61, "ORIYA ", "LETTER VOCALIC LL, VOWEL SIGN VOCALIC L, VOWEL SIGN VOCALIC LL"⟩,
  ⟨0x0B66, "ORIYA DIGIT ", "ZERO, ONE, TWO, THREE, FOUR, FIVE, SIX, SEVEN, EIGHT"⟩,
  ⟨0x0B6F, "ORIYA ", "DIGIT NINE, ISSHAR, LETTER WA, FRACTION ONE QUARTER, FRACTION ONE HALF"⟩,
  ⟨0x0B74, "ORIYA FRACTION ", "THREE QUARTERS, ONE SIXTEENTH, ONE EIGHTH, THREE SIXTEENTHS"⟩,
  ⟨0x0B82, "TAMIL SIGN ", "ANUSVARA, VISARGA"⟩,
  ⟨0x0B85, "TAMIL LETTER ", "A, AA, I, II, U, UU"⟩,
  ⟨0x0B8E, "TAMIL LETTER ", "E, EE, AI"⟩,
  ⟨0x0B92, "TAMIL LETTER ", "O, OO, AU, KA"⟩,
  ⟨0x0B99, "TAMIL LETTER ", "NGA, CA"⟩,
  ⟨0x0B9C, "", "TAMIL LETTER JA"⟩,
  ⟨0x0B9E, "TAMIL LETTER ", "NYA, TTA"⟩,
  ⟨0x0BA3, "TAMIL LETTER ", "NNA, TA"⟩,
  ⟨0x0BA8, "TAMIL LETTER ", "NA, NNNA, PA"⟩,
  ⟨0x0BAE, "TAMIL LETTER ", "MA, YA, RA, RRA, LA, LLA, LLLA, VA, SHA, SSA, SA, HA"⟩,
  ⟨0x0BBE, "TAMIL VOWEL SIGN ", "AA, I, II, U, UU"⟩,
  ⟨0x0BC6, "TAMIL VOWEL SIGN ", "E, EE, AI"⟩,
  ⟨0x0BCA, "TAMIL ", "VOWEL SIGN O, VOWEL SIGN OO, VOWEL SIGN AU, SIGN VIRAMA"⟩,
  ⟨0x0BD0, "", "TAMIL OM"⟩,
  ⟨0x0BD7, "", "TAMIL AU LENGTH MARK"⟩,
  ⟨0x0BE6, "TAMIL DIGIT ", "ZERO, ONE, TWO, THREE, FOUR, FIVE, SIX, SEVEN, EIGHT, NINE"⟩,
  ⟨0x0BF0, "TAMIL ", "NUMBER TEN, NUMBER ONE HUNDRED, NUMBER ONE THOUSAND, DAY SIGN, MONTH SIGN"⟩,
  ⟨0x0BF5, "TAMIL ", "YEAR SIGN, DEBIT SIGN, CREDIT SIGN, AS ABOVE SIGN, RUPEE SIGN, NUMBER SIGN"⟩,
  ⟨0x0C00, "", "TELUGU SIGN COMBINING CANDRABINDU ABOVE"⟩,
  ⟨0x0C01, "TELUGU SIGN ", "CANDRABINDU, ANUSVARA, VISARGA, COMBINING ANUSVARA ABOVE"⟩,
  ⟨0x0C05, "TELUGU LETTER ", "A, AA, I, II, U, UU, VOCALIC R, VOCALIC L"⟩,
  ⟨0x0C0E, "TELUGU LETTER ", "E, EE, AI"⟩,
  ⟨0x0C12, "TELUGU LETTER ", "O, OO, AU, KA, KHA, GA, GHA, NGA, CA"⟩,
  ⟨0x0C1B, "TELUGU LETTER ", "CHA, JA, JHA, NYA, TTA, TTHA, DDA, DDHA, NNA, TA, THA, DA, DHA, NA"⟩,
  ⟨0x0C2A, "", "TELUGU LETTER PA"⟩,
  ⟨0x0C2B, "TELUGU LETTER ", "PHA, BA, BHA, MA, YA, RA, RRA, LA, LLA, LLLA, VA, SHA, SSA, SA, HA"⟩,
  ⟨0x0C3C, "TELUGU SIGN ", "NUKTA, AVAGRAHA"⟩,
  ⟨0x0C3E, "TELUGU VOWEL SIGN ", "AA, I, II, U, UU, VOCALIC R, VOCALIC RR"⟩,
  ⟨0x0C46, "TELUGU VOWEL SIGN ", "E, EE, AI"⟩,
  ⟨0x0C4A, "TELUGU ", "VOWEL SIGN O, VOWEL SIGN OO, VOWEL SIGN AU, SIGN VIRAMA"⟩,
  ⟨0x0C55, "TELUGU ", "LENGTH MARK, AI LENGTH MARK"⟩,
  ⟨0x0C58, "TELUGU LETTER ", "TSA, DZA, RRRA"⟩,
  ⟨0x0C5D, "", "TELUGU LETTER NAKAARA POLLU"⟩,
  ⟨0x0C60, "", "TELUGU LETTER VOCALIC RR"⟩,
  ⟨0x0C61, "TELUGU ", "LETTER VOCALIC LL, VOWEL SIGN VOCALIC L, VOWEL SIGN VOCALIC LL"⟩,
  ⟨0x0C66, "TELUGU DIGIT ", "ZERO, ONE, TWO, THREE, FOUR, FIVE, SIX, SEVEN, EIGHT, NINE"⟩,
  ⟨0x0C77, "", "TELUGU SIGN SIDDHAM"⟩,
  ⟨0x0C78, "TELUGU FRACTION DIGIT ", "ZERO FOR ODD POWERS OF FOUR, ONE FOR ODD POWERS OF FOUR"⟩,
  ⟨0x0C7A, "TELUGU FRACTION DIGIT ", "TWO FOR ODD POWERS OF FOUR, THREE FOR ODD POWERS OF FOUR"⟩,
  ⟨0x0C7C, "TELUGU FRACTION DIGIT ", "ONE FOR EVEN POWERS OF FOUR, TWO FOR EVEN POWERS OF FOUR"⟩,
  ⟨0x0C7E, "TELUGU ", "FRACTION DIGIT THREE FOR EVEN POWERS OF FOUR, SIGN TUUMU"⟩,
  ⟨0x0C80, "KANNADA SIGN ", "SPACING CANDRABINDU, CANDRABINDU, ANUSVARA, VISARGA, SIDDHAM"⟩,
  ⟨0x0C85, "KANNADA LETTER ", "A, AA, I, II, U, UU, VOCALIC R, VOCALIC L"⟩,
  ⟨0x0C8E, "KANNADA LETTER ", "E, EE, AI"⟩,
  ⟨0x0C92, "KANNADA LETTER ", "O, OO, AU, KA, KHA, GA, GHA, NGA, CA"⟩,
  ⟨0x0C9B, "KANNADA LETTER ", "CHA, JA, JHA, NYA, TTA, TTHA, DDA, DDHA, NNA, TA, THA, DA, DHA, NA"⟩,
  ⟨0x0CAA, "KANNADA LETTER ", "PA, PHA, BA, BHA, MA, YA, RA, RRA, LA, LLA"⟩,
  ⟨0x0CB5, "KANNADA LETTER ", "VA, SHA, SSA, SA, HA"⟩,
  ⟨0x0CBC, "KANNADA SIGN ", "NUKTA, AVAGRAHA"⟩,
  ⟨0x0CBE, "KANNADA VOWEL SIGN ", "AA, I, II, U, UU, VOCALIC R, VOCALIC RR"⟩,
  ⟨0x0CC6, "KANNADA VOWEL SIGN ", "E, EE, AI"⟩,
  ⟨0x0CCA, "KANNADA ", "VOWEL SIGN O, VOWEL SIGN OO, VOWEL SIGN AU, SIGN VIRAMA"⟩,
  ⟨0x0CD5, "KANNADA ", "LENGTH MARK, AI LENGTH MARK"⟩,
  ⟨0x0CDD, "KANNADA LETTER ", "NAKAARA POLLU, FA"⟩,
  ⟨0x0CE0, "", "KANNADA LETTER VOCALIC RR"⟩,
  ⟨0x0CE1, "KANNADA ", "LETTER VOCALIC LL, VOWEL SIGN VOCALIC L, VOWEL SIGN VOCALIC LL"⟩,
  ⟨0x0CE6, "KANNADA DIGIT ", "ZERO, ONE, TWO, THREE, FOUR, FIVE, SIX, SEVEN, EIGHT, NINE"⟩,
  ⟨0x0CF1, "KANNADA SIGN ", "JIHVAMULIYA, UPADHMANIYA"⟩,
  ⟨0x0D00, "MALAYALAM SIGN ", "COMBINING ANUSVARA ABOVE, CANDRABINDU, ANUSVARA, VISARGA"⟩,
  ⟨0x0D04, "MALAYALAM LETTER ", "VEDIC ANUSVARA, A, AA, I, II, U, UU, VOCALIC R, VOCALIC L"⟩,
  ⟨0x0D0E, "MALAYALAM LETTER ", "E, EE, AI"⟩,
  ⟨0x0D12, "MALAYALAM LETTER ", "O, OO, AU, KA, KHA, GA, GHA, NGA, CA, CHA, JA, JHA, NYA, TTA"⟩,
  ⟨0x0D20, "MALAYALAM LETTER ", "TTHA, DDA, DDHA, NNA, TA, THA, DA, DHA, NA, NNNA, PA, PHA, BA"⟩,
  ⟨0x0D2D, "MALAYALAM LETTER ", "BHA, MA, YA, RA, RRA, LA, LLA, LLLA, VA, SHA, SSA, SA, HA, TTTA"⟩,
  ⟨0x0D3B, "MALAYALAM SIGN ", "VERTICAL BAR VIRAMA, CIRCULAR VIRAMA, AVAGRAHA"⟩,
  ⟨0x0D3E, "MALAYALAM VOWEL SIGN ", "AA, I, II, U, UU, VOCALIC R, VOCALIC RR"⟩,
  ⟨0x0D46, "MALAYALAM VOWEL SIGN ", "E, EE, AI"⟩,
  ⟨0x0D4A, "", "MALAYALAM VOWEL SIGN O"⟩,
  ⟨0x0D4B, "MALAYALAM ", "VOWEL SIGN OO, VOWEL SIGN AU, SIGN VIRAMA, LETTER DOT REPH, SIGN PARA"⟩,
  ⟨0x0D54, "MALAYALAM ", "LETTER CHILLU M, LETTER CHILLU Y, LETTER CHILLU LLL, AU LENGTH MARK"⟩,
  ⟨0x0D58, "MALAYALAM FRACTION ONE ", "ONE-HUNDRED-AND-SIXTIETH, FORTIETH"⟩,
  ⟨0x0D5A, "MALAYALAM FRACTION ", "THREE EIGHTIETHS, ONE TWENTIETH, ONE TENTH, THREE TWENTIETHS"⟩,
  ⟨0x0D5E, "MALAYALAM ", "FRACTION ONE FIFTH, LETTER ARCHAIC II, LETTER VOCALIC RR"⟩,
  ⟨0x0D61, "MALAYALAM ", "LETTER VOCALIC LL, VOWEL SIGN VOCALIC L, VOWEL SIGN VOCALIC LL"⟩,
  ⟨0x0D66, "MALAYALAM DIGIT ", "ZERO, ONE, TWO, THREE, FOUR, FIVE, SIX, SEVEN, EIGHT"⟩,
  ⟨0x0D6F, "MALAYALAM ", "DIGIT NINE, NUMBER TEN, NUMBER ONE HUNDRED, NUMBER ONE THOUSAND"⟩,
  ⟨0x0D73, "MALAYALAM FRACTION ", "ONE QUARTER, ONE HALF, THREE QUARTERS, ONE SIXTEENTH"⟩,
  ⟨0x0D77, "MALAYALAM ", "FRACTION ONE EIGHTH, FRACTION THREE SIXTEENTHS, DATE MARK"⟩,
  ⟨0x0D7A, "MALAYALAM LETTER CHILLU ", "NN, N, RR, L, LL, K"⟩,
  ⟨0x0D81, "SINHALA SIGN ", "CANDRABINDU, ANUSVARAYA, VISARGAYA"⟩,
  ⟨0x0D85, "SINHALA LETTER ", "AYANNA, AAYANNA, AEYANNA, AEEYANNA"⟩,
  ⟨0x0D89, "SINHALA LETTER ", "IYANNA, IIYANNA, UYANNA, UUYANNA, IRUYANNA, IRUUYANNA, ILUYANNA"⟩,
  ⟨0x0D90, "SINHALA LETTER ", "ILUUYANNA, EYANNA, EEYANNA, AIYANNA, OYANNA, OOYANNA, AUYANNA"⟩,
  ⟨0x0D9A, "", "SINHALA LETTER ALPAPRAANA KAYANNA"⟩,
  ⟨0x0D9B, "SINHALA LETTER ", "MAHAAPRAANA KAYANNA, ALPAPRAANA GAYANNA, MAHAAPRAANA GAYANNA"⟩,
  ⟨0x0D9E, "SINHALA LETTER ", "KANTAJA NAASIKYAYA, SANYAKA GAYANNA, ALPAPRAANA CAYANNA"⟩,
  ⟨0x0DA1, "SINHALA LETTER ", "MAHAAPRAANA CAYANNA, ALPAPRAANA JAYANNA, MAHAAPRAANA JAYANNA"⟩,
  ⟨0x0DA4, "SINHALA LETTER TAALUJA ", "NAASIKYAYA, SANYOOGA NAAKSIKYAYA"⟩,
  ⟨0x0DA6, "SINHALA LETTER ", "SANYAKA JAYANNA, ALPAPRAANA TTAYANNA, MAHAAPRAANA TTAYANNA"⟩,
  ⟨0x0DA9, "SINHALA LETTER ", "ALPAPRAANA DDAYANNA, MAHAAPRAANA DDAYANNA, MUURDHAJA NAYANNA"⟩,
  ⟨0x0DAC, "SINHALA LETTER ", "SANYAKA DDAYANNA, ALPAPRAANA TAYANNA, MAHAAPRAANA TAYANNA"⟩,
  ⟨0x0DAF, "SINHALA LETTER ", "ALPAPRAANA DAYANNA, MAHAAPRAANA DAYANNA, DANTAJA NAYANNA"⟩,
  ⟨0x0DB3, "", "SINHALA LETTER SANYAKA DAYANNA"⟩,
  ⟨0x0DB4, "SINHALA LETTER ", "ALPAPRAANA PAYANNA, MAHAAPRAANA PAYANNA, ALPAPRAANA BAYANNA"⟩,
  ⟨0x0DB7, "SINHALA LETTER ", "MAHAAPRAANA BAYANNA, MAYANNA, AMBA BAYANNA, YAYANNA, RAYANNA"⟩,
  ⟨0x0DBD, "", "SINHALA LETTER DANTAJA LAYANNA"⟩,
  ⟨0x0DC0, "SINHALA LETTER ", "VAYANNA, TAALUJA SAYANNA, MUURDHAJA SAYANNA"⟩,
  ⟨0x0DC3, "SINHALA LETTER ", "DANTAJA SAYANNA, HAYANNA, MUURDHAJA LAYANNA, FAYANNA"⟩,
  ⟨0x0DCA, "", "SINHALA SIGN AL-LAKUNA"⟩,
  ⟨0x0DCF, "SINHALA VOWEL SIGN ", "AELA-PILLA, KETTI AEDA-PILLA, DIGA AEDA-PILLA"⟩,
  ⟨0x0DD2, "SINHALA VOWEL SIGN ", "KETTI IS-PILLA, DIGA IS-PILLA, KETTI PAA-PILLA"⟩,
  ⟨0x0DD6, "", "SINHALA VOWEL SIGN DIGA PAA-PILLA"⟩,
  ⟨0x0DD8, "SINHALA VOWEL SIGN ", "GAETTA-PILLA, KOMBUVA, DIGA KOMBUVA, KOMBU DEKA"⟩,
  ⟨0x0DDC, "SINHALA VOWEL SIGN KOMBUVA HAA ", "AELA-PILLA, DIGA AELA-PILLA"⟩,
  ⟨0x0DDE, "SINHALA VOWEL SIGN ", "KOMBUVA HAA GAYANUKITTA, GAYANUKITTA"⟩,
  ⟨0x0DE6, "SINHALA LITH DIGIT ", "ZERO, ONE, TWO, THREE, FOUR, FIVE, SIX, SEVEN, EIGHT, NINE"⟩,
  ⟨0x0DF2, "", "SINHALA VOWEL SIGN DIGA GAETTA-PILLA"⟩,
  ⟨0x0DF3, "SINHALA ", "VOWEL SIGN DIGA GAYANUKITTA, PUNCTUATION KUNDDALIYA"⟩,
  ⟨0x1CD0, "", "VEDIC TONE KARSHANA"⟩,
  ⟨0x1CD1, "VEDIC ", "TONE SHARA, TONE PRENKHA, SIGN NIHSHVASA, SIGN YAJURVEDIC MIDLINE SVARITA"⟩,
  ⟨0x1CD5, "VEDIC TONE YAJURVEDIC ", "AGGRAVATED INDEPENDENT SVARITA, INDEPENDENT SVARITA"⟩,
  ⟨0x1CD7, "VEDIC TONE ", "YAJURVEDIC KATHAKA INDEPENDENT SVARITA, CANDRA BELOW"⟩,
  ⟨0x1CD9, "VEDIC TONE ", "YAJURVEDIC KATHAKA INDEPENDENT SVARITA SCHROEDER, DOUBLE SVARITA"⟩,
  ⟨0x1CDB, "VEDIC TONE ", "TRIPLE SVARITA, KATHAKA ANUDATTA, DOT BELOW, TWO DOTS BELOW"⟩,
  ⟨0x1CDF, "VEDIC TONE ", "THREE DOTS BELOW, RIGVEDIC KASHMIRI INDEPENDENT SVARITA"⟩,
  ⟨0x1CE1, "", "VEDIC TONE ATHARVAVEDIC INDEPENDENT SVARITA"⟩,
  ⟨0x1CE2, "VEDIC SIGN ", "VISARGA SVARITA, VISARGA UDATTA, REVERSED VISARGA UDATTA"⟩,
  ⟨0x1CE5, "VEDIC SIGN ", "VISARGA ANUDATTA, REVERSED VISARGA ANUDATTA, VISARGA UDATTA WITH TAIL"⟩,
  ⟨0x1CE8, "VEDIC SIGN ", "VISARGA ANUDATTA WITH TAIL, ANUSVARA ANTARGOMUKHA"⟩,
  ⟨0x1CEA, "VEDIC SIGN ANUSVARA ", "BAHIRGOMUKHA, VAMAGOMUKHA, VAMAGOMUKHA WITH TAIL"⟩,
  ⟨0x1CED, "VEDIC SIGN ", "TIRYAK, HEXIFORM LONG ANUSVARA, LONG ANUSVARA, RTHANG LONG ANUSVARA"⟩,
  ⟨0x1CF1, "VEDIC SIGN ", "ANUSVARA UBHAYATO MUKHA, ARDHAVISARGA, ROTATED ARDHAVISARGA"⟩,
  ⟨0x1CF4, "VEDIC ", "TONE CANDRA ABOVE, SIGN JIHVAMULIYA, SIGN UPADHMANIYA, SIGN ATIKRAMA"⟩,
  ⟨0x1CF8, "VEDIC ", "TONE RING ABOVE, TONE DOUBLE RING ABOVE, SIGN DOUBLE ANUSVARA ANTARGOMUKHA"⟩,
  ⟨0xA800, "", "SYLOTI NAGRI LETTER A"⟩,
  ⟨0xA801, "SYLOTI NAGRI ", "LETTER I, SIGN DVISVARA, LETTER U, LETTER E, LETTER O, SIGN HASANTA"⟩,
  ⟨0xA807, "SYLOTI NAGRI ", "LETTER KO, LETTER KHO, LETTER GO, LETTER GHO, SIGN ANUSVARA"⟩,
  ⟨0xA80C, "SYLOTI NAGRI LETTER ", "CO, CHO, JO, JHO, TTO, TTHO"⟩,
  ⟨0xA812, "SYLOTI NAGRI LETTER ", "DDO, DDHO, TO, THO, DO, DHO, NO, PO, PHO, BO, BHO, MO, RO, LO"⟩,
  ⟨0xA820, "SYLOTI NAGRI ", "LETTER RRO, LETTER SO, LETTER HO, VOWEL SIGN A, VOWEL SIGN I"⟩,
  ⟨0xA825, "SYLOTI NAGRI ", "VOWEL SIGN U, VOWEL SIGN E, VOWEL SIGN OO, POETRY MARK-1"⟩,
  ⟨0xA829, "SYLOTI NAGRI ", "POETRY MARK-2, POETRY MARK-3, POETRY MARK-4, SIGN ALTERNATE HASANTA"⟩,
  ⟨0xA830, "NORTH INDIC FRACTION ONE ", "QUARTER, HALF"⟩,
  ⟨0xA832, "NORTH INDIC FRACTION ", "THREE QUARTERS, ONE SIXTEENTH, ONE EIGHTH, THREE SIXTEENTHS"⟩,
  ⟨0xA836, "NORTH INDIC ", "QUARTER MARK, PLACEHOLDER MARK, RUPEE MARK, QUANTITY MARK"⟩,
  ⟨0xA840, "PHAGS-PA LETTER ", "KA, KHA, GA, NGA, CA, CHA, JA, NYA, TA, THA"⟩,
  ⟨0xA84A, "PHAGS-PA LETTER ", "DA, NA, PA, PHA, BA, MA, TSA, TSHA, DZA, WA, ZHA, ZA, SMALL A"⟩,
  ⟨0xA857, "PHAGS-PA LETTER ", "YA, RA, LA, SHA, SA, HA, A, I, U, E, O, QA, XA, FA, GGA, EE"⟩,
  ⟨0xA867, "PHAGS-PA ", "SUBJOINED LETTER WA, SUBJOINED LETTER YA, LETTER TTA, LETTER TTHA"⟩,
  ⟨0xA86B, "PHAGS-PA LETTER ", "DDA, NNA, ALTERNATE YA, VOICELESS SHA, VOICED HA, ASPIRATED FA"⟩,
  ⟨0xA871, "PHAGS-PA ", "SUBJOINED LETTER RA, SUPERFIXED LETTER RA, LETTER CANDRABINDU"⟩,
  ⟨0xA874, "PHAGS-PA ", "SINGLE HEAD MARK, DOUBLE HEAD MARK, MARK SHAD, MARK DOUBLE SHAD"⟩,
  ⟨0xA880, "SAURASHTRA SIGN ", "ANUSVARA, VISARGA"⟩,
  ⟨0xA882, "SAURASHTRA LETTER ", "A, AA, I, II, U, UU, VOCALIC R, VOCALIC RR"⟩,
  ⟨0xA88A, "SAURASHTRA LETTER ", "VOCALIC L, VOCALIC LL, E, EE, AI, O, OO, AU, KA, KHA"⟩,
  ⟨0xA894, "SAURASHTRA LETTER ", "GA, GHA, NGA, CA, CHA, JA, JHA, NYA, TTA, TTHA, DDA, DDHA, NNA"⟩,
  ⟨0xA8A1, "SAURASHTRA LETTER ", "TA, THA, DA, DHA, NA, PA, PHA, BA, BHA, MA, YA, RA, LA, VA, SHA"⟩,
  ⟨0xA8B0, "SAURASHTRA ", "LETTER SSA, LETTER SA, LETTER HA, LETTER LLA, CONSONANT SIGN HAARU"⟩,
  ⟨0xA8B5, "SAURASHTRA VOWEL SIGN ", "AA, I, II, U, UU"⟩,
  ⟨0xA8BA, "SAURASHTRA VOWEL SIGN ", "VOCALIC R, VOCALIC RR, VOCALIC L, VOCALIC LL, E, EE, AI, O"⟩,
  ⟨0xA8C2, "SAURASHTRA ", "VOWEL SIGN OO, VOWEL SIGN AU, SIGN VIRAMA, SIGN CANDRABINDU"⟩,
  ⟨0xA8CE, "SAURASHTRA ", "DANDA, DOUBLE DANDA"⟩,
  ⟨0xA8D0, "SAURASHTRA DIGIT ", "ZERO, ONE, TWO, THREE, FOUR, FIVE, SIX, SEVEN, EIGHT, NINE"⟩,
  ⟨0xA8E0, "COMBINING DEVANAGARI DIGIT ", "ZERO, ONE, TWO, THREE, FOUR, FIVE, SIX, SEVEN"⟩,
  ⟨0xA8E8, "COMBINING DEVANAGARI ", "DIGIT EIGHT, DIGIT NINE, LETTER A, LETTER U, LETTER KA"⟩,
  ⟨0xA8ED, "COMBINING DEVANAGARI ", "LETTER NA, LETTER PA, LETTER RA, LETTER VI, SIGN AVAGRAHA"⟩,
  ⟨0xA8F2, "DEVANAGARI SIGN ", "SPACING CANDRABINDU, CANDRABINDU VIRAMA"⟩,
  ⟨0xA8F4, "DEVANAGARI SIGN ", "DOUBLE CANDRABINDU VIRAMA, CANDRABINDU TWO, CANDRABINDU THREE"⟩,
  ⟨0xA8F7, "DEVANAGARI ", "SIGN CANDRABINDU AVAGRAHA, SIGN PUSHPIKA, GAP FILLER"⟩,
  ⟨0xA8FA, "DEVANAGARI ", "CARET, HEADSTROKE, SIGN SIDDHAM, JAIN OM, LETTER AY, VOWEL SIGN AY"⟩,
  ⟨0xAAE0, "MEETEI MAYEK LETTER ", "E, O, CHA, NYA, TTA, TTHA, DDA, DDHA, NNA, SHA, SSA"⟩,
  ⟨0xAAEB, "MEETEI MAYEK VOWEL SIGN ", "II, UU, AAI, AU, AAU"⟩,
  ⟨0xAAF0, "MEETEI MAYEK ", "CHEIKHAN, AHANG KHUDAM, ANJI, SYLLABLE REPETITION MARK"⟩,
  ⟨0xAAF4, "MEETEI MAYEK ", "WORD REPETITION MARK, VOWEL SIGN VISARGA, VIRAMA"⟩,
  ⟨0xABC0, "MEETEI MAYEK LETTER ", "KOK, SAM, LAI, MIT, PA, NA, CHIL, TIL, KHOU, NGOU, THOU"⟩,
  ⟨0xABCB, "MEETEI MAYEK LETTER ", "WAI, YANG, HUK, UN, I, PHAM, ATIYA, GOK, JHAM, RAI, BA, JIL"⟩,
  ⟨0xABD7, "MEETEI MAYEK LETTER ", "DIL, GHOU, DHOU, BHAM, KOK LONSUM, LAI LONSUM, MIT LONSUM"⟩,
  ⟨0xABDE, "MEETEI MAYEK LETTER ", "PA LONSUM, NA LONSUM, TIL LONSUM, NGOU LONSUM, I LONSUM"⟩,
  ⟨0xABE3, "MEETEI MAYEK VOWEL SIGN ", "ONAP, INAP, ANAP, YENAP, SOUNAP, UNAP"⟩,
  ⟨0xABE9, "MEETEI MAYEK ", "VOWEL SIGN CHEINAP, VOWEL SIGN NUNG, CHEIKHEI, LUM IYEK, APUN IYEK"⟩,
  ⟨0xABF0, "MEETEI MAYEK DIGIT ", "ZERO, ONE, TWO, THREE, FOUR, FIVE, SIX, SEVEN, EIGHT, NINE"⟩,
  ⟨0x11FB0, "", "LISU LETTER YHA"⟩,
  ⟨0x11FC0, "", "TAMIL FRACTION ONE THREE-HUNDRED-AND-TWENTIETH"⟩,
  ⟨0x11FC1, "TAMIL FRACTION ONE ", "ONE-HUNDRED-AND-SIXTIETH, EIGHTIETH, SIXTY-FOURTH, FORTIETH"⟩,
  ⟨0x11FC5, "TAMIL FRACTION ", "ONE THIRTY-SECOND, THREE EIGHTIETHS, THREE SIXTY-FOURTHS"⟩,
  ⟨0x11FC8, "TAMIL FRACTION ONE ", "TWENTIETH, SIXTEENTH-1, SIXTEENTH-2, TENTH, EIGHTH"⟩,
  ⟨0x11FCD, "TAMIL FRACTION ", "THREE TWENTIETHS, THREE SIXTEENTHS, ONE FIFTH, ONE QUARTER"⟩,
  ⟨0x11FD1, "TAMIL FRACTION ", "ONE HALF-1, ONE HALF-2, THREE QUARTERS, DOWNSCALING FACTOR KIIZH"⟩,
  ⟨0x11FD5, "TAMIL SIGN ", "NEL, CEVITU, AAZHAAKKU, UZHAKKU, MUUVUZHAKKU"⟩,
  ⟨0x11FDA, "TAMIL SIGN ", "KURUNI, PATHAKKU, MUKKURUNI, KAACU, PANAM, PON, VARAAKAN, PAARAM"⟩,
  ⟨0x11FE2, "TAMIL ", "SIGN KUZHI, SIGN VELI, WET CULTIVATION SIGN, DRY CULTIVATION SIGN"⟩,
  ⟨0x11FE6, "TAMIL ", "LAND SIGN, SALT PAN SIGN, TRADITIONAL CREDIT SIGN, TRADITIONAL NUMBER SIGN"⟩,
  ⟨0x11FEA, "TAMIL ", "CURRENT SIGN, AND ODD SIGN, SPENT SIGN, TOTAL SIGN"⟩,
  ⟨0x11FEE, "TAMIL ", "IN POSSESSION SIGN, STARTING FROM SIGN, SIGN MUTHALIYA, SIGN VAKAIYARAA"⟩,
  ⟨0x11FFF, "", "TAMIL PUNCTUATION END OF TEXT"⟩]

end BatchExec
