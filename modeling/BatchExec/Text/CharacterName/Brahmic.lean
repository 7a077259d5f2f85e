import BatchExec.Text.CharacterName.Row

/-!
# Brahmic scripts

The names of the letters of historic and minor scripts that descend from Brahmi.
-/

namespace BatchExec

/-- The names of the letters of historic and minor scripts that descend from Brahmi. -/
def brahmicNames : List NameRow := [
  ⟨0x11000, "", "BRAHMI SIGN CANDRABINDU"⟩,
  ⟨0x11001, "BRAHMI ", "SIGN ANUSVARA, SIGN VISARGA, SIGN JIHVAMULIYA, SIGN UPADHMANIYA, LETTER A"⟩,
  ⟨0x11006, "BRAHMI LETTER ", "AA, I, II, U, UU, VOCALIC R, VOCALIC RR, VOCALIC L, VOCALIC LL, E"⟩,
  ⟨0x11010, "BRAHMI LETTER ", "AI, O, AU, KA, KHA, GA, GHA, NGA, CA, CHA, JA, JHA, NYA, TTA, TTHA"⟩,
  ⟨0x1101F, "BRAHMI LETTER ", "DDA, DDHA, NNA, TA, THA, DA, DHA, NA, PA, PHA, BA, BHA, MA, YA"⟩,
  ⟨0x1102D, "BRAHMI LETTER ", "RA, LA, VA, SHA, SSA, SA, HA, LLA, OLD TAMIL LLLA, OLD TAMIL RRA"⟩,
  ⟨0x11037, "BRAHMI ", "LETTER OLD TAMIL NNNA, VOWEL SIGN AA, VOWEL SIGN BHATTIPROLU AA"⟩,
  ⟨0x1103A, "BRAHMI VOWEL SIGN ", "I, II, U, UU, VOCALIC R, VOCALIC RR, VOCALIC L, VOCALIC LL, E"⟩,
  ⟨0x11043, "BRAHMI ", "VOWEL SIGN AI, VOWEL SIGN O, VOWEL SIGN AU, VIRAMA, DANDA, DOUBLE DANDA"⟩,
  ⟨0x11049, "BRAHMI PUNCTUATION ", "DOT, DOUBLE DOT, LINE, CRESCENT BAR, LOTUS"⟩,
  ⟨0x11052, "BRAHMI NUMBER ", "ONE, TWO, THREE"⟩,
  ⟨0x11055, "BRAHMI NUMBER ", "FOUR, FIVE, SIX, SEVEN, EIGHT, NINE, TEN, TWENTY, THIRTY, FORTY"⟩,
  ⟨0x1105F, "BRAHMI NUMBER ", "FIFTY, SIXTY, SEVENTY, EIGHTY, NINETY, ONE HUNDRED, ONE THOUSAND"⟩,
  ⟨0x11066, "BRAHMI DIGIT ", "ZERO, ONE, TWO, THREE, FOUR, FIVE, SIX, SEVEN"⟩,
  ⟨0x1106E, "BRAHMI ", "DIGIT EIGHT, DIGIT NINE, SIGN OLD TAMIL VIRAMA, LETTER OLD TAMIL SHORT E"⟩,
  ⟨0x11072, "BRAHMI ", "LETTER OLD TAMIL SHORT O, VOWEL SIGN OLD TAMIL SHORT E"⟩,
  ⟨0x11074, "BRAHMI ", "VOWEL SIGN OLD TAMIL SHORT O, LETTER OLD TAMIL LLA"⟩,
  ⟨0x1107F, "", "BRAHMI NUMBER JOINER"⟩,
  ⟨0x11080, "KAITHI SIGN ", "CANDRABINDU, ANUSVARA, VISARGA"⟩,
  ⟨0x11083, "KAITHI LETTER ", "A, AA, I, II, U, UU, E, AI, O, AU, KA, KHA, GA, GHA, NGA, CA, CHA"⟩,
  ⟨0x11094, "KAITHI LETTER ", "JA, JHA, NYA, TTA, TTHA, DDA, DDDHA, DDHA, RHA, NNA, TA, THA, DA"⟩,
  ⟨0x110A1, "KAITHI LETTER ", "DHA, NA, PA, PHA, BA, BHA, MA, YA, RA, LA, VA, SHA, SSA, SA, HA"⟩,
  ⟨0x110B0, "KAITHI VOWEL SIGN ", "AA, I, II, U, UU, E"⟩,
  ⟨0x110B6, "KAITHI ", "VOWEL SIGN AI, VOWEL SIGN O, VOWEL SIGN AU, SIGN VIRAMA, SIGN NUKTA"⟩,
  ⟨0x110BB, "KAITHI ", "ABBREVIATION SIGN, ENUMERATION SIGN, NUMBER SIGN, SECTION MARK"⟩,
  ⟨0x110BF, "KAITHI ", "DOUBLE SECTION MARK, DANDA, DOUBLE DANDA, VOWEL SIGN VOCALIC R"⟩,
  ⟨0x110CD, "", "KAITHI NUMBER SIGN ABOVE"⟩,
  ⟨0x110D0, "SORA SOMPENG LETTER ", "SAH, TAH, BAH, CAH, DAH, GAH, MAH, NGAH, LAH, NAH, VAH, PAH"⟩,
  ⟨0x110DC, "SORA SOMPENG LETTER ", "YAH, RAH, HAH, KAH, JAH, NYAH, AH, EEH, IH, UH, OH, EH, MAE"⟩,
  ⟨0x110F0, "SORA SOMPENG DIGIT ", "ZERO, ONE, TWO, THREE, FOUR, FIVE, SIX, SEVEN, EIGHT, NINE"⟩,
  ⟨0x11100, "CHAKMA SIGN ", "CANDRABINDU, ANUSVARA, VISARGA"⟩,
  ⟨0x11103, "CHAKMA LETTER ", "AA, I, U, E, KAA, KHAA, GAA, GHAA, NGAA, CAA, CHAA, JAA"⟩,
  ⟨0x1110F, "CHAKMA LETTER ", "JHAA, NYAA, TTAA, TTHAA, DDAA, DDHAA, NNAA, TAA, THAA, DAA, DHAA"⟩,
  ⟨0x1111A, "CHAKMA LETTER ", "NAA, PAA, PHAA, BAA, BHAA, MAA, YYAA, YAA, RAA, LAA, WAA, SAA, HAA"⟩,
  ⟨0x11127, "CHAKMA VOWEL SIGN ", "A, I, II, U, UU, E, AI, O"⟩,
  ⟨0x1112F, "CHAKMA ", "VOWEL SIGN AU, VOWEL SIGN OI, O MARK, AU MARK, VIRAMA, MAAYYAA"⟩,
  ⟨0x11136, "CHAKMA DIGIT ", "ZERO, ONE, TWO, THREE, FOUR, FIVE, SIX"⟩,
  ⟨0x1113D, "CHAKMA ", "DIGIT SEVEN, DIGIT EIGHT, DIGIT NINE, SECTION MARK, DANDA, DOUBLE DANDA"⟩,
  ⟨0x11143, "CHAKMA ", "QUESTION MARK, LETTER LHAA, VOWEL SIGN AA, VOWEL SIGN EI, LETTER VAA"⟩,
  ⟨0x11150, "MAHAJANI LETTER ", "A, I, U, E, O, KA"⟩,
  ⟨0x11156, "MAHAJANI LETTER ", "KHA, GA, GHA, CA, CHA, JA, JHA, NYA, TTA, TTHA, DDA, DDHA, NNA"⟩,
  ⟨0x11163, "MAHAJANI LETTER ", "TA, THA, DA, DHA, NA, PA, PHA, BA, BHA, MA, RA, LA, VA, SA, HA"⟩,
  ⟨0x11172, "MAHAJANI ", "LETTER RRA, SIGN NUKTA, ABBREVIATION SIGN, SECTION MARK, LIGATURE SHRI"⟩,
  ⟨0x11180, "SHARADA SIGN ", "CANDRABINDU, ANUSVARA, VISARGA"⟩,
  ⟨0x11183, "SHARADA LETTER ", "A, AA, I, II, U, UU, VOCALIC R"⟩,
  ⟨0x1118A, "SHARADA LETTER ", "VOCALIC RR, VOCALIC L, VOCALIC LL, E, AI, O, AU, KA, KHA, GA, GHA"⟩,
  ⟨0x11195, "SHARADA LETTER ", "NGA, CA, CHA, JA, JHA, NYA, TTA, TTHA, DDA, DDHA, NNA, TA, THA"⟩,
  ⟨0x111A2, "SHARADA LETTER ", "DA, DHA, NA, PA, PHA, BA, BHA, MA, YA, RA, LA, LLA, VA, SHA, SSA"⟩,
  ⟨0x111B1, "SHARADA ", "LETTER SA, LETTER HA, VOWEL SIGN AA, VOWEL SIGN I, VOWEL SIGN II"⟩,
  ⟨0x111B6, "SHARADA VOWEL SIGN ", "U, UU, VOCALIC R, VOCALIC RR, VOCALIC L, VOCALIC LL, E, AI, O"⟩,
  ⟨0x111BF, "SHARADA ", "VOWEL SIGN AU, SIGN VIRAMA, SIGN AVAGRAHA, SIGN JIHVAMULIYA"⟩,
  ⟨0x111C3, "SHARADA ", "SIGN UPADHMANIYA, OM, DANDA, DOUBLE DANDA, ABBREVIATION SIGN, SEPARATOR"⟩,
  ⟨0x111C9, "SHARADA ", "SANDHI MARK, SIGN NUKTA, VOWEL MODIFIER MARK, EXTRA SHORT VOWEL MARK"⟩,
  ⟨0x111CD, "SHARADA ", "SUTRA MARK, VOWEL SIGN PRISHTHAMATRA E, SIGN INVERTED CANDRABINDU"⟩,
  ⟨0x111D0, "SHARADA DIGIT ", "ZERO, ONE, TWO, THREE, FOUR, FIVE"⟩,
  ⟨0x111D6, "SHARADA ", "DIGIT SIX, DIGIT SEVEN, DIGIT EIGHT, DIGIT NINE, EKAM, SIGN SIDDHAM"⟩,
  ⟨0x111DC, "SHARADA ", "HEADSTROKE, CONTINUATION SIGN, SECTION MARK-1, SECTION MARK-2"⟩,
  ⟨0x111E1, "SINHALA ARCHAIC DIGIT ", "ONE, TWO, THREE, FOUR, FIVE, SIX, SEVEN, EIGHT, NINE"⟩,
  ⟨0x111EA, "SINHALA ARCHAIC NUMBER ", "TEN, TWENTY, THIRTY, FORTY, FIFTY"⟩,
  ⟨0x111EF, "SINHALA ARCHAIC NUMBER ", "SIXTY, SEVENTY, EIGHTY, NINETY, ONE HUNDRED, ONE THOUSAND"⟩,
  ⟨0x11200, "KHOJKI LETTER ", "A, AA"⟩,
  ⟨0x11202, "KHOJKI LETTER ", "I, U, E, AI, O, AU, KA, KHA, GA, GGA, GHA, NGA, CA, CHA, JA, JJA"⟩,
  ⟨0x11213, "KHOJKI LETTER ", "NYA, TTA, TTHA, DDA, DDHA, NNA, TA, THA, DA"⟩,
  ⟨0x1121C, "KHOJKI LETTER ", "DDDA, DHA, NA, PA, PHA, BA, BBA, BHA, MA, YA, RA, LA, VA, SA, HA"⟩,
  ⟨0x1122B, "KHOJKI ", "LETTER LLA, VOWEL SIGN AA, VOWEL SIGN I, VOWEL SIGN II, VOWEL SIGN U"⟩,
  ⟨0x11230, "KHOJKI ", "VOWEL SIGN E, VOWEL SIGN AI, VOWEL SIGN O, VOWEL SIGN AU, SIGN ANUSVARA"⟩,
  ⟨0x11235, "KHOJKI ", "SIGN VIRAMA, SIGN NUKTA, SIGN SHADDA, DANDA, DOUBLE DANDA, WORD SEPARATOR"⟩,
  ⟨0x1123B, "KHOJKI ", "SECTION MARK, DOUBLE SECTION MARK, ABBREVIATION SIGN, SIGN SUKUN"⟩,
  ⟨0x11280, "MULTANI LETTER ", "A, I, U, E, KA, KHA, GA"⟩,
  ⟨0x11288, "", "MULTANI LETTER GHA"⟩,
  ⟨0x1128A, "MULTANI LETTER ", "CA, CHA, JA, JJA"⟩,
  ⟨0x1128F, "MULTANI LETTER ", "NYA, TTA"⟩,
  ⟨0x11291, "MULTANI LETTER ", "TTHA, DDA, DDDA, DDHA, NNA, TA, THA, DA, DHA, NA, PA, PHA, BA"⟩,
  ⟨0x1129F, "MULTANI LETTER ", "BHA, MA, YA, RA, LA"⟩,
  ⟨0x112A4, "MULTANI ", "LETTER VA, LETTER SA, LETTER HA, LETTER RRA, LETTER RHA, SECTION MARK"⟩,
  ⟨0x112B0, "KHUDAWADI LETTER ", "A, AA, I, II, U, UU, E, AI, O, AU, KA, KHA, GA, GGA, GHA, NGA"⟩,
  ⟨0x112C0, "KHUDAWADI LETTER ", "CA, CHA, JA, JJA, JHA, NYA, TTA, TTHA, DDA, DDDA, RRA, DDHA"⟩,
  ⟨0x112CC, "KHUDAWADI LETTER ", "NNA, TA, THA, DA, DHA, NA, PA, PHA, BA, BBA, BHA, MA, YA, RA"⟩,
  ⟨0x112DA, "KHUDAWADI ", "LETTER LA, LETTER VA, LETTER SHA, LETTER SA, LETTER HA, SIGN ANUSVARA"⟩,
  ⟨0x112E0, "KHUDAWADI VOWEL SIGN ", "AA, I, II, U, UU, E"⟩,
  ⟨0x112E6, "KHUDAWADI ", "VOWEL SIGN AI, VOWEL SIGN O, VOWEL SIGN AU, SIGN NUKTA, SIGN VIRAMA"⟩,
  ⟨0x112F0, "KHUDAWADI DIGIT ", "ZERO, ONE, TWO, THREE, FOUR, FIVE, SIX, SEVEN, EIGHT, NINE"⟩,
  ⟨0x11300, "GRANTHA SIGN ", "COMBINING ANUSVARA ABOVE, CANDRABINDU, ANUSVARA, VISARGA"⟩,
  ⟨0x11305, "GRANTHA LETTER ", "A, AA, I, II, U, UU, VOCALIC R, VOCALIC L"⟩,
  ⟨0x1130F, "GRANTHA LETTER ", "EE, AI"⟩,
  ⟨0x11313, "GRANTHA LETTER ", "OO, AU, KA, KHA, GA, GHA, NGA, CA, CHA"⟩,
  ⟨0x1131C, "GRANTHA LETTER ", "JA, JHA, NYA, TTA, TTHA, DDA, DDHA, NNA, TA, THA, DA, DHA, NA"⟩,
  ⟨0x1132A, "GRANTHA LETTER ", "PA, PHA, BA, BHA, MA, YA, RA"⟩,
  ⟨0x11332, "GRANTHA LETTER ", "LA, LLA"⟩,
  ⟨0x11335, "GRANTHA LETTER ", "VA, SHA, SSA, SA, HA"⟩,
  ⟨0x1133B, "", "COMBINING BINDU BELOW, GRANTHA SIGN NUKTA, GRANTHA SIGN AVAGRAHA"⟩,
  ⟨0x1133E, "GRANTHA VOWEL SIGN ", "AA, I, II, U, UU, VOCALIC R, VOCALIC RR"⟩,
  ⟨0x11347, "GRANTHA VOWEL SIGN ", "EE, AI"⟩,
  ⟨0x1134B, "GRANTHA ", "VOWEL SIGN OO, VOWEL SIGN AU, SIGN VIRAMA"⟩,
  ⟨0x11350, "", "GRANTHA OM"⟩,
  ⟨0x11357, "", "GRANTHA AU LENGTH MARK"⟩,
  ⟨0x1135D, "", "GRANTHA SIGN PLUTA"⟩,
  ⟨0x1135E, "GRANTHA LETTER ", "VEDIC ANUSVARA, VEDIC DOUBLE ANUSVARA, VOCALIC RR"⟩,
  ⟨0x11361, "GRANTHA ", "LETTER VOCALIC LL, VOWEL SIGN VOCALIC L, VOWEL SIGN VOCALIC LL"⟩,
  ⟨0x11366, "COMBINING GRANTHA DIGIT ", "ZERO, ONE, TWO, THREE, FOUR, FIVE, SIX"⟩,
  ⟨0x11370, "COMBINING GRANTHA LETTER ", "A, KA, NA, VI, PA"⟩,
  ⟨0x11400, "NEWA LETTER ", "A, AA, I, II, U, UU, VOCALIC R, VOCALIC RR, VOCALIC L, VOCALIC LL"⟩,
  ⟨0x1140A, "NEWA LETTER ", "E, AI, O, AU, KA, KHA, GA, GHA, NGA, NGHA, CA, CHA, JA, JHA"⟩,
  ⟨0x11418, "NEWA LETTER ", "NYA, NYHA, TTA, TTHA, DDA, DDHA, NNA, TA, THA, DA, DHA, NA, NHA, PA"⟩,
  ⟨0x11426, "NEWA LETTER ", "PHA, BA, BHA, MA, MHA, YA, RA, RHA, LA, LHA, WA, SHA, SSA, SA, HA"⟩,
  ⟨0x11435, "NEWA VOWEL SIGN ", "AA, I, II, U, UU, VOCALIC R, VOCALIC RR, VOCALIC L, VOCALIC LL"⟩,
  ⟨0x1143E, "NEWA ", "VOWEL SIGN E, VOWEL SIGN AI, VOWEL SIGN O, VOWEL SIGN AU, SIGN VIRAMA"⟩,
  ⟨0x11443, "NEWA SIGN ", "CANDRABINDU, ANUSVARA, VISARGA, NUKTA, AVAGRAHA, FINAL ANUSVARA"⟩,
  ⟨0x11449, "NEWA ", "OM, SIDDHI, DANDA, DOUBLE DANDA, COMMA, GAP FILLER, ABBREVIATION SIGN"⟩,
  ⟨0x11450, "NEWA DIGIT ", "ZERO, ONE, TWO, THREE, FOUR, FIVE, SIX"⟩,
  ⟨0x11457, "NEWA ", "DIGIT SEVEN, DIGIT EIGHT, DIGIT NINE, DOUBLE COMMA, PLACEHOLDER MARK"⟩,
  ⟨0x1145D, "", "NEWA INSERTION SIGN"⟩,
  ⟨0x1145E, "NEWA ", "SANDHI MARK, LETTER VEDIC ANUSVARA, SIGN JIHVAMULIYA, SIGN UPADHMANIYA"⟩,
  ⟨0x11480, "", "TIRHUTA ANJI"⟩,
  ⟨0x11481, "TIRHUTA LETTER ", "A, AA, I, II, U, UU, VOCALIC R, VOCALIC RR"⟩,
  ⟨0x11489, "TIRHUTA LETTER ", "VOCALIC L, VOCALIC LL, E, AI, O, AU, KA, KHA, GA, GHA, NGA"⟩,
  ⟨0x11494, "TIRHUTA LETTER ", "CA, CHA, JA, JHA, NYA, TTA, TTHA, DDA, DDHA, NNA, TA, THA, DA"⟩,
  ⟨0x114A1, "TIRHUTA LETTER ", "DHA, NA, PA, PHA, BA, BHA, MA, YA, RA, LA, VA, SHA, SSA, SA, HA"⟩,
  ⟨0x114B0, "TIRHUTA VOWEL SIGN ", "AA, I, II, U, UU, VOCALIC R"⟩,
  ⟨0x114B6, "TIRHUTA VOWEL SIGN ", "VOCALIC RR, VOCALIC L, VOCALIC LL, E, SHORT E, AI, O, SHORT O"⟩,
  ⟨0x114BE, "TIRHUTA ", "VOWEL SIGN AU, SIGN CANDRABINDU, SIGN ANUSVARA, SIGN VISARGA"⟩,
  ⟨0x114C2, "TIRHUTA ", "SIGN VIRAMA, SIGN NUKTA, SIGN AVAGRAHA, GVANG, ABBREVIATION SIGN, OM"⟩,
  ⟨0x114D0, "TIRHUTA DIGIT ", "ZERO, ONE, TWO, THREE, FOUR, FIVE, SIX, SEVEN, EIGHT, NINE"⟩,
  ⟨0x11580, "SIDDHAM LETTER ", "A, AA, I, II, U, UU, VOCALIC R, VOCALIC RR"⟩,
  ⟨0x11588, "SIDDHAM LETTER ", "VOCALIC L, VOCALIC LL, E, AI, O, AU, KA, KHA, GA, GHA, NGA"⟩,
  ⟨0x11593, "SIDDHAM LETTER ", "CA, CHA, JA, JHA, NYA, TTA, TTHA, DDA, DDHA, NNA, TA, THA, DA"⟩,
  ⟨0x115A0, "SIDDHAM LETTER ", "DHA, NA, PA, PHA, BA, BHA, MA, YA, RA, LA, VA, SHA, SSA, SA, HA"⟩,
  ⟨0x115AF, "SIDDHAM VOWEL SIGN ", "AA, I, II, U, UU, VOCALIC R, VOCALIC RR"⟩,
  ⟨0x115B8, "SIDDHAM VOWEL SIGN ", "E, AI, O, AU"⟩,
  ⟨0x115BC, "SIDDHAM SIGN ", "CANDRABINDU, ANUSVARA, VISARGA, VIRAMA, NUKTA, SIDDHAM"⟩,
  ⟨0x115C2, "SIDDHAM ", "DANDA, DOUBLE DANDA, SEPARATOR DOT, SEPARATOR BAR, REPETITION MARK-1"⟩,
  ⟨0x115C7, "SIDDHAM ", "REPETITION MARK-2, REPETITION MARK-3, END OF TEXT MARK"⟩,
  ⟨0x115CA, "SIDDHAM SECTION MARK WITH TRIDENT AND ", "U-SHAPED ORNAMENTS, DOTTED CRESCENTS"⟩,
  ⟨0x115CC, "", "SIDDHAM SECTION MARK WITH RAYS AND DOTTED CRESCENTS"⟩,
  ⟨0x115CD, "SIDDHAM SECTION MARK WITH RAYS AND DOTTED ", "DOUBLE CRESCENTS, TRIPLE CRESCENTS"⟩,
  ⟨0x115CF, "SIDDHAM SECTION MARK DOUBLE ", "RING, RING WITH RAYS"⟩,
  ⟨0x115D1, "SIDDHAM SECTION MARK WITH ", "DOUBLE CRESCENTS, TRIPLE CRESCENTS"⟩,
  ⟨0x115D3, "SIDDHAM SECTION MARK WITH ", "QUADRUPLE CRESCENTS, SEPTUPLE CRESCENTS"⟩,
  ⟨0x115D5, "SIDDHAM SECTION MARK WITH CIRCLES AND ", "RAYS, TWO ENCLOSURES, FOUR ENCLOSURES"⟩,
  ⟨0x115D8, "", "SIDDHAM LETTER THREE-CIRCLE ALTERNATE I"⟩,
  ⟨0x115D9, "SIDDHAM LETTER TWO-CIRCLE ALTERNATE ", "I, II"⟩,
  ⟨0x115DB, "SIDDHAM ", "LETTER ALTERNATE U, VOWEL SIGN ALTERNATE U, VOWEL SIGN ALTERNATE UU"⟩,
  ⟨0x11600, "MODI LETTER ", "A, AA, I, II"⟩,
  ⟨0x11604, "MODI LETTER ", "U, UU, VOCALIC R, VOCALIC RR, VOCALIC L, VOCALIC LL, E, AI, O, AU"⟩,
  ⟨0x1160E, "MODI LETTER ", "KA, KHA, GA, GHA, NGA, CA, CHA, JA, JHA, NYA, TTA, TTHA, DDA, DDHA"⟩,
  ⟨0x1161C, "MODI LETTER ", "NNA, TA, THA, DA, DHA, NA, PA, PHA, BA, BHA, MA, YA, RA, LA, VA, SHA"⟩,
  ⟨0x1162C, "MODI ", "LETTER SSA, LETTER SA, LETTER HA, LETTER LLA, VOWEL SIGN AA, VOWEL SIGN I"⟩,
  ⟨0x11632, "MODI VOWEL SIGN ", "II, U, UU, VOCALIC R, VOCALIC RR, VOCALIC L, VOCALIC LL, E, AI"⟩,
  ⟨0x1163B, "MODI ", "VOWEL SIGN O, VOWEL SIGN AU, SIGN ANUSVARA, SIGN VISARGA, SIGN VIRAMA"⟩,
  ⟨0x11640, "MODI ", "SIGN ARDHACANDRA, DANDA, DOUBLE DANDA, ABBREVIATION SIGN, SIGN HUVA"⟩,
  ⟨0x11650, "MODI DIGIT ", "ZERO, ONE, TWO, THREE, FOUR, FIVE, SIX, SEVEN, EIGHT, NINE"⟩,
  ⟨0x11660, "MONGOLIAN ", "BIRGA WITH ORNAMENT, ROTATED BIRGA, DOUBLE BIRGA WITH ORNAMENT"⟩,
  ⟨0x11663, "MONGOLIAN ", "TRIPLE BIRGA WITH ORNAMENT, BIRGA WITH DOUBLE ORNAMENT"⟩,
  ⟨0x11665, "MONGOLIAN ROTATED BIRGA WITH ", "ORNAMENT, DOUBLE ORNAMENT"⟩,
  ⟨0x11667, "MONGOLIAN INVERTED ", "BIRGA, BIRGA WITH DOUBLE ORNAMENT"⟩,
  ⟨0x11669, "MONGOLIAN SWIRL ", "BIRGA, BIRGA WITH ORNAMENT, BIRGA WITH DOUBLE ORNAMENT"⟩,
  ⟨0x1166C, "", "MONGOLIAN TURNED SWIRL BIRGA WITH DOUBLE ORNAMENT"⟩,
  ⟨0x11680, "TAKRI LETTER ", "A, AA, I, II, U, UU, E, AI, O, AU"⟩,
  ⟨0x1168A, "TAKRI LETTER ", "KA, KHA, GA, GHA, NGA, CA, CHA, JA, JHA, NYA, TTA, TTHA, DDA, DDHA"⟩,
  ⟨0x11698, "TAKRI LETTER ", "NNA, TA, THA, DA, DHA, NA, PA, PHA, BA, BHA, MA, YA, RA, LA, VA"⟩,
  ⟨0x116A7, "TAKRI ", "LETTER SHA, LETTER SA, LETTER HA, LETTER RRA, SIGN ANUSVARA, SIGN VISARGA"⟩,
  ⟨0x116AD, "TAKRI VOWEL SIGN ", "AA, I, II, U, UU, E, AI, O, AU"⟩,
  ⟨0x116B6, "TAKRI ", "SIGN VIRAMA, SIGN NUKTA, LETTER ARCHAIC KHA, ABBREVIATION SIGN"⟩,
  ⟨0x116C0, "TAKRI DIGIT ", "ZERO, ONE, TWO, THREE, FOUR, FIVE, SIX, SEVEN, EIGHT, NINE"⟩,
  ⟨0x11700, "AHOM LETTER ", "KA, KHA"⟩,
  ⟨0x11702, "AHOM LETTER ", "NGA, NA, TA, ALTERNATE TA, PA, PHA, BA, MA, JA, CHA, THA, RA, LA, SA"⟩,
  ⟨0x11710, "AHOM LETTER ", "NYA, HA, A, DA, DHA, GA, ALTERNATE GA, GHA, BHA, JHA, ALTERNATE BA"⟩,
  ⟨0x1171D, "AHOM CONSONANT SIGN MEDIAL ", "LA, RA, LIGATING RA"⟩,
  ⟨0x11720, "AHOM VOWEL SIGN ", "A, AA, I, II, U, UU, E"⟩,
  ⟨0x11727, "AHOM ", "VOWEL SIGN AW, VOWEL SIGN O, VOWEL SIGN AI, VOWEL SIGN AM, SIGN KILLER"⟩,
  ⟨0x11730, "AHOM DIGIT ", "ZERO, ONE, TWO, THREE, FOUR"⟩,
  ⟨0x11735, "AHOM ", "DIGIT FIVE, DIGIT SIX, DIGIT SEVEN, DIGIT EIGHT, DIGIT NINE, NUMBER TEN"⟩,
  ⟨0x1173B, "AHOM ", "NUMBER TWENTY, SIGN SMALL SECTION, SIGN SECTION, SIGN RULAI, SYMBOL VI"⟩,
  ⟨0x11740, "AHOM LETTER ", "CA, TTA, TTHA, DDA, DDHA, NNA, LLA"⟩,
  ⟨0x11800, "DOGRA LETTER ", "A, AA, I, II, U, UU, E, AI, O, AU, KA, KHA, GA, GHA, NGA"⟩,
  ⟨0x1180F, "DOGRA LETTER ", "CA, CHA, JA, JHA, NYA, TTA, TTHA, DDA, DDHA, NNA, TA, THA, DA, DHA"⟩,
  ⟨0x1181D, "DOGRA LETTER ", "NA, PA, PHA, BA, BHA, MA, YA, RA, LA, VA, SHA, SSA, SA, HA, RRA"⟩,
  ⟨0x1182C, "DOGRA VOWEL SIGN ", "AA, I, II, U, UU, VOCALIC R, VOCALIC RR, E, AI, O, AU"⟩,
  ⟨0x11837, "DOGRA ", "SIGN ANUSVARA, SIGN VISARGA, SIGN VIRAMA, SIGN NUKTA, ABBREVIATION SIGN"⟩,
  ⟨0x118A0, "WARANG CITI CAPITAL LETTER ", "NGAA, A, WI, YU, YA, YO, II, UU, E, O, ANG"⟩,
  ⟨0x118AB, "WARANG CITI CAPITAL LETTER ", "GA, KO, ENY, YUJ, UC, ENN, ODD, TTE, NUNG, DA, AT"⟩,
  ⟨0x118B6, "WARANG CITI CAPITAL LETTER ", "AM, BU, PU, HIYO, HOLO, HORR, HAR, SSUU, SII, VIYO"⟩,
  ⟨0x118C0, "WARANG CITI SMALL LETTER ", "NGAA, A, WI, YU, YA, YO, II, UU, E"⟩,
  ⟨0x118C9, "WARANG CITI SMALL LETTER ", "O, ANG, GA, KO, ENY, YUJ, UC, ENN, ODD, TTE, NUNG, DA"⟩,
  ⟨0x118D5, "WARANG CITI SMALL LETTER ", "AT, AM, BU, PU, HIYO, HOLO, HORR, HAR, SSUU, SII, VIYO"⟩,
  ⟨0x118E0, "WARANG CITI DIGIT ", "ZERO, ONE, TWO, THREE, FOUR, FIVE"⟩,
  ⟨0x118E6, "WARANG CITI ", "DIGIT SIX, DIGIT SEVEN, DIGIT EIGHT, DIGIT NINE, NUMBER TEN"⟩,
  ⟨0x118EB, "WARANG CITI NUMBER ", "TWENTY, THIRTY, FORTY, FIFTY, SIXTY, SEVENTY, EIGHTY, NINETY"⟩,
  ⟨0x118FF, "", "WARANG CITI OM"⟩,
  ⟨0x11900, "DIVES AKURU LETTER ", "A, AA, I, II, U, UU, E"⟩,
  ⟨0x11909, "", "DIVES AKURU LETTER O"⟩,
  ⟨0x1190C, "DIVES AKURU LETTER ", "KA, KHA, GA, GHA, NGA, CA, CHA, JA"⟩,
  ⟨0x11915, "DIVES AKURU LETTER ", "NYA, TTA"⟩,
  ⟨0x11918, "DIVES AKURU LETTER ", "DDA, DDHA, NNA, TA, THA, DA, DHA, NA, PA, PHA"⟩,
  ⟨0x11922, "DIVES AKURU LETTER ", "BA, BHA, MA, YA, YYA, RA, LA, VA, SHA, SSA, SA, HA, LLA, ZA"⟩,
  ⟨0x11930, "DIVES AKURU VOWEL SIGN ", "AA, I, II, U, UU, E"⟩,
  ⟨0x11937, "DIVES AKURU VOWEL SIGN ", "AI, O"⟩,
  ⟨0x1193B, "DIVES AKURU SIGN ", "ANUSVARA, CANDRABINDU"⟩,
  ⟨0x1193D, "DIVES AKURU ", "SIGN HALANTA, VIRAMA, PREFIXED NASAL SIGN, MEDIAL YA, INITIAL RA"⟩,
  ⟨0x11942, "DIVES AKURU ", "MEDIAL RA, SIGN NUKTA, DOUBLE DANDA, GAP FILLER, END OF TEXT MARK"⟩,
  ⟨0x11950, "DIVES AKURU DIGIT ", "ZERO, ONE, TWO, THREE, FOUR, FIVE, SIX, SEVEN, EIGHT, NINE"⟩,
  ⟨0x119A0, "NANDINAGARI LETTER ", "A, AA, I, II, U, UU, VOCALIC R, VOCALIC RR"⟩,
  ⟨0x119AA, "NANDINAGARI LETTER ", "E, AI, O, AU, KA, KHA, GA, GHA, NGA, CA, CHA, JA"⟩,
  ⟨0x119B6, "NANDINAGARI LETTER ", "JHA, NYA, TTA, TTHA, DDA, DDHA, NNA, TA, THA, DA, DHA, NA, PA"⟩,
  ⟨0x119C3, "NANDINAGARI LETTER ", "PHA, BA, BHA, MA, YA, RA, LA, VA, SHA, SSA, SA, HA, LLA, RRA"⟩,
  ⟨0x119D1, "NANDINAGARI VOWEL SIGN ", "AA, I, II, U, UU, VOCALIC R, VOCALIC RR"⟩,
  ⟨0x119DA, "NANDINAGARI VOWEL SIGN ", "E, AI, O"⟩,
  ⟨0x119DD, "NANDINAGARI ", "VOWEL SIGN AU, SIGN ANUSVARA, SIGN VISARGA, SIGN VIRAMA"⟩,
  ⟨0x119E1, "NANDINAGARI ", "SIGN AVAGRAHA, SIGN SIDDHAM, HEADSTROKE, VOWEL SIGN PRISHTHAMATRA E"⟩,
  ⟨0x11A00, "", "ZANABAZAR SQUARE LETTER A"⟩,
  ⟨0x11A01, "ZANABAZAR SQUARE VOWEL SIGN ", "I, UE, U, E, OE"⟩,
  ⟨0x11A06, "ZANABAZAR SQUARE VOWEL ", "SIGN O, SIGN AI, SIGN AU, SIGN REVERSED I, LENGTH MARK"⟩,
  ⟨0x11A0B, "ZANABAZAR SQUARE LETTER ", "KA, KHA, GA, GHA, NGA"⟩,
  ⟨0x11A10, "ZANABAZAR SQUARE LETTER ", "CA, CHA, JA, NYA, TTA, TTHA, DDA, DDHA, NNA, TA, THA"⟩,
  ⟨0x11A1B, "ZANABAZAR SQUARE LETTER ", "DA, DHA, NA, PA, PHA, BA, BHA, MA, TSA, TSHA, DZA, DZHA"⟩,
  ⟨0x11A27, "ZANABAZAR SQUARE LETTER ", "ZHA, ZA, -A, YA, RA, LA, VA, SHA, SSA, SA, HA, KSSA"⟩,
  ⟨0x11A33, "ZANABAZAR SQUARE ", "FINAL CONSONANT MARK, SIGN VIRAMA, SIGN CANDRABINDU"⟩,
  ⟨0x11A36, "ZANABAZAR SQUARE SIGN ", "CANDRABINDU WITH ORNAMENT, CANDRA WITH ORNAMENT"⟩,
  ⟨0x11A38, "ZANABAZAR SQUARE ", "SIGN ANUSVARA, SIGN VISARGA, CLUSTER-INITIAL LETTER RA"⟩,
  ⟨0x11A3B, "ZANABAZAR SQUARE CLUSTER-FINAL LETTER ", "YA, RA, LA"⟩,
  ⟨0x11A3E, "ZANABAZAR SQUARE ", "CLUSTER-FINAL LETTER VA, INITIAL HEAD MARK"⟩,
  ⟨0x11A40, "ZANABAZAR SQUARE ", "CLOSING HEAD MARK, MARK TSHEG, MARK SHAD, MARK DOUBLE SHAD"⟩,
  ⟨0x11A44, "ZANABAZAR SQUARE ", "MARK LONG TSHEG, INITIAL DOUBLE-LINED HEAD MARK"⟩,
  ⟨0x11A46, "ZANABAZAR SQUARE ", "CLOSING DOUBLE-LINED HEAD MARK, SUBJOINER"⟩,
  ⟨0x11A50, "", "SOYOMBO LETTER A"⟩,
  ⟨0x11A51, "SOYOMBO VOWEL SIGN ", "I, UE, U, E, O, OE"⟩,
  ⟨0x11A57, "SOYOMBO VOWEL ", "SIGN AI, SIGN AU, SIGN VOCALIC R, SIGN VOCALIC L, LENGTH MARK"⟩,
  ⟨0x11A5C, "SOYOMBO LETTER ", "KA, KHA, GA, GHA, NGA, CA, CHA, JA, JHA"⟩,
  ⟨0x11A65, "SOYOMBO LETTER ", "NYA, TTA, TTHA, DDA, DDHA, NNA, TA, THA, DA, DHA, NA, PA, PHA, BA"⟩,
  ⟨0x11A73, "SOYOMBO LETTER ", "BHA, MA, TSA, TSHA, DZA, ZHA, ZA, -A, YA, RA, LA, VA, SHA, SSA"⟩,
  ⟨0x11A81, "SOYOMBO ", "LETTER SA, LETTER HA, LETTER KSSA, SIGN JIHVAMULIYA, SIGN UPADHMANIYA"⟩,
  ⟨0x11A86, "SOYOMBO CLUSTER-INITIAL LETTER ", "RA, LA, SHA, SA"⟩,
  ⟨0x11A8A, "SOYOMBO FINAL CONSONANT SIGN ", "G, K, NG, D, N, B, M, R, L, SH, S"⟩,
  ⟨0x11A95, "SOYOMBO ", "FINAL CONSONANT SIGN -A, SIGN ANUSVARA, SIGN VISARGA, GEMINATION MARK"⟩,
  ⟨0x11A99, "SOYOMBO ", "SUBJOINER, MARK TSHEG, MARK SHAD, MARK DOUBLE SHAD, MARK PLUTA"⟩,
  ⟨0x11A9E, "SOYOMBO HEAD MARK WITH MOON AND SUN AND ", "TRIPLE FLAME, FLAME"⟩,
  ⟨0x11AA0, "SOYOMBO ", "HEAD MARK WITH MOON AND SUN, TERMINAL MARK-1, TERMINAL MARK-2"⟩,
  ⟨0x11AB0, "CANADIAN SYLLABICS NATTILIK ", "HI, HII, HO, HOO, HA, HAA, SHRI, SHRII, SHRO, SHROO"⟩,
  ⟨0x11ABA, "CANADIAN SYLLABICS ", "NATTILIK SHRA, NATTILIK SHRAA, SPE, SPI, SPO, SPA"⟩,
  ⟨0x11AC0, "PAU CIN HAU LETTER ", "PA, KA, LA, MA, DA, ZA, VA, NGA, HA, GA, KHA, SA"⟩,
  ⟨0x11ACC, "PAU CIN HAU LETTER ", "BA, CA, TA, THA, NA, PHA, RA, FA, CHA, A, E, I, O, U, UA, IA"⟩,
  ⟨0x11ADC, "PAU CIN HAU LETTER FINAL ", "P, K, T, M, N, L, W, NG"⟩,
  ⟨0x11AE4, "PAU CIN HAU ", "LETTER FINAL Y, RISING TONE LONG, RISING TONE, SANDHI GLOTTAL STOP"⟩,
  ⟨0x11AE8, "PAU CIN HAU ", "RISING TONE LONG FINAL, RISING TONE FINAL, SANDHI GLOTTAL STOP FINAL"⟩,
  ⟨0x11AEB, "PAU CIN HAU SANDHI ", "TONE LONG, TONE, TONE LONG FINAL, TONE FINAL"⟩,
  ⟨0x11AEF, "PAU CIN HAU ", "MID-LEVEL TONE, GLOTTAL STOP VARIANT, MID-LEVEL TONE LONG FINAL"⟩,
  ⟨0x11AF2, "PAU CIN HAU ", "MID-LEVEL TONE FINAL, LOW-FALLING TONE LONG"⟩,
  ⟨0x11AF4, "PAU CIN HAU ", "LOW-FALLING TONE, GLOTTAL STOP, LOW-FALLING TONE LONG FINAL"⟩,
  ⟨0x11AF7, "PAU CIN HAU ", "LOW-FALLING TONE FINAL, GLOTTAL STOP FINAL"⟩,
  ⟨0x11C00, "BHAIKSUKI LETTER ", "A, AA, I, II, U, UU, VOCALIC R, VOCALIC RR, VOCALIC L"⟩,
  ⟨0x11C0A, "BHAIKSUKI LETTER ", "E, AI, O, AU, KA, KHA, GA, GHA, NGA"⟩,
  ⟨0x11C13, "BHAIKSUKI LETTER ", "CA, CHA, JA, JHA, NYA, TTA, TTHA, DDA, DDHA, NNA, TA, THA, DA"⟩,
  ⟨0x11C20, "BHAIKSUKI LETTER ", "DHA, NA, PA, PHA, BA, BHA, MA, YA, RA, LA, VA, SHA, SSA, SA, HA"⟩,
  ⟨0x11C2F, "BHAIKSUKI VOWEL SIGN ", "AA, I, II, U, UU, VOCALIC R, VOCALIC RR, VOCALIC L"⟩,
  ⟨0x11C38, "BHAIKSUKI VOWEL SIGN ", "E, AI, O, AU"⟩,
  ⟨0x11C3C, "BHAIKSUKI SIGN ", "CANDRABINDU, ANUSVARA, VISARGA, VIRAMA, AVAGRAHA"⟩,
  ⟨0x11C41, "BHAIKSUKI ", "DANDA, DOUBLE DANDA, WORD SEPARATOR, GAP FILLER-1, GAP FILLER-2"⟩,
  ⟨0x11C50, "BHAIKSUKI DIGIT ", "ZERO, ONE, TWO, THREE, FOUR, FIVE, SIX, SEVEN, EIGHT, NINE"⟩,
  ⟨0x11C5A, "BHAIKSUKI NUMBER ", "ONE, TWO, THREE, FOUR, FIVE, SIX"⟩,
  ⟨0x11C60, "BHAIKSUKI NUMBER ", "SEVEN, EIGHT, NINE, TEN, TWENTY, THIRTY, FORTY, FIFTY, SIXTY"⟩,
  ⟨0x11C69, "BHAIKSUKI ", "NUMBER SEVENTY, NUMBER EIGHTY, NUMBER NINETY, HUNDREDS UNIT MARK"⟩,
  ⟨0x11C70, "MARCHEN ", "HEAD MARK, MARK SHAD"⟩,
  ⟨0x11C72, "MARCHEN LETTER ", "KA, KHA, GA, NGA, CA, CHA, JA, NYA, TA, THA, DA, NA, PA, PHA, BA"⟩,
  ⟨0x11C81, "MARCHEN LETTER ", "MA, TSA, TSHA, DZA, WA, ZHA, ZA, -A, YA, RA, LA, SHA, SA, HA, A"⟩,
  ⟨0x11C92, "MARCHEN SUBJOINED LETTER ", "KA, KHA, GA, NGA, CA, CHA, JA, NYA, TA, THA"⟩,
  ⟨0x11C9C, "MARCHEN SUBJOINED LETTER ", "DA, NA, PA, PHA, BA, MA, TSA, TSHA, DZA, WA, ZHA, ZA"⟩,
  ⟨0x11CA9, "MARCHEN SUBJOINED LETTER ", "YA, RA, LA, SHA, SA, HA"⟩,
  ⟨0x11CAF, "MARCHEN ", "SUBJOINED LETTER A, VOWEL SIGN AA, VOWEL SIGN I, VOWEL SIGN U"⟩,
  ⟨0x11CB3, "MARCHEN ", "VOWEL SIGN E, VOWEL SIGN O, SIGN ANUSVARA, SIGN CANDRABINDU"⟩,
  ⟨0x11D00, "MASARAM GONDI LETTER ", "A, AA, I, II, U, UU, E"⟩,
  ⟨0x11D08, "MASARAM GONDI LETTER ", "AI, O"⟩,
  ⟨0x11D0B, "MASARAM GONDI LETTER ", "AU, KA, KHA, GA, GHA, NGA, CA, CHA, JA, JHA, NYA, TTA, TTHA"⟩,
  ⟨0x11D18, "MASARAM GONDI LETTER ", "DDA, DDHA, NNA, TA, THA, DA, DHA, NA, PA, PHA, BA, BHA"⟩,
  ⟨0x11D24, "MASARAM GONDI LETTER ", "MA, YA, RA, LA, VA, SHA, SSA, SA, HA, LLA, KSSA, JNYA, TRA"⟩,
  ⟨0x11D31, "MASARAM GONDI VOWEL SIGN ", "AA, I, II, U, UU, VOCALIC R"⟩,
  ⟨0x11D3A, "", "MASARAM GONDI VOWEL SIGN E"⟩,
  ⟨0x11D3C, "MASARAM GONDI VOWEL SIGN ", "AI, O"⟩,
  ⟨0x11D3F, "MASARAM GONDI ", "VOWEL SIGN AU, SIGN ANUSVARA, SIGN VISARGA"⟩,
  ⟨0x11D42, "MASARAM GONDI ", "SIGN NUKTA, SIGN CANDRA, SIGN HALANTA, VIRAMA, REPHA, RA-KARA"⟩,
  ⟨0x11D50, "MASARAM GONDI DIGIT ", "ZERO, ONE, TWO, THREE, FOUR, FIVE, SIX, SEVEN, EIGHT, NINE"⟩,
  ⟨0x11D60, "GUNJALA GONDI LETTER ", "A, AA, I, II, U, UU"⟩,
  ⟨0x11D67, "GUNJALA GONDI LETTER ", "EE, AI"⟩,
  ⟨0x11D6A, "GUNJALA GONDI LETTER ", "OO, AU, YA, VA, BA, BHA, MA"⟩,
  ⟨0x11D71, "GUNJALA GONDI LETTER ", "KA, KHA, TA, THA, LA, GA, GHA, DA, DHA, NA, CA, CHA, TTA"⟩,
  ⟨0x11D7E, "GUNJALA GONDI LETTER ", "TTHA, LLA, JA, JHA, DDA, DDHA, NGA, PA, PHA, HA, RA, SA"⟩,
  ⟨0x11D8A, "GUNJALA GONDI VOWEL SIGN ", "AA, I, II, U, UU"⟩,
  ⟨0x11D90, "GUNJALA GONDI VOWEL SIGN ", "EE, AI"⟩,
  ⟨0x11D93, "", "GUNJALA GONDI VOWEL SIGN OO"⟩,
  ⟨0x11D94, "GUNJALA GONDI ", "VOWEL SIGN AU, SIGN ANUSVARA, SIGN VISARGA, VIRAMA, OM"⟩,
  ⟨0x11DA0, "GUNJALA GONDI DIGIT ", "ZERO, ONE, TWO, THREE, FOUR, FIVE, SIX, SEVEN, EIGHT, NINE"⟩,
  ⟨0x11EE0, "MAKASAR LETTER ", "KA, GA, NGA, PA, BA, MA, TA, DA, NA, CA, JA, NYA, YA, RA"⟩,
  ⟨0x11EEE, "MAKASAR ", "LETTER LA, LETTER VA, LETTER SA, LETTER A, ANGKA, VOWEL SIGN I"⟩,
  ⟨0x11EF4, "MAKASAR ", "VOWEL SIGN U, VOWEL SIGN E, VOWEL SIGN O, PASSIMBANG, END OF SECTION"⟩]

end BatchExec
