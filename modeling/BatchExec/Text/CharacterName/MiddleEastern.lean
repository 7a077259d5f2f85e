import BatchExec.Text.CharacterName.Row

/-!
# Scripts of the Middle East

The names of Hebrew, Arabic, Syriac, Thaana, Samaritan and Mandaic letters.
-/

namespace BatchExec

/-- The names of Hebrew, Arabic, Syriac, Thaana, Samaritan and Mandaic letters. -/
def middleEasternNames : List NameRow := [
  ⟨0x0591, "HEBREW ACCENT ", "ETNAHTA, SEGOL, SHALSHELET, ZAQEF QATAN, ZAQEF GADOL, TIPEHA, REVIA"⟩,
  ⟨0x0598, "HEBREW ACCENT ", "ZARQA, PASHTA, YETIV, TEVIR, GERESH, GERESH MUQDAM, GERSHAYIM"⟩,
  ⟨0x059F, "HEBREW ACCENT ", "QARNEY PARA, TELISHA GEDOLA, PAZER, ATNAH HAFUKH, MUNAH, MAHAPAKH"⟩,
  ⟨0x05A5, "HEBREW ACCENT ", "MERKHA, MERKHA KEFULA, DARGA, QADMA, TELISHA QETANA, YERAH BEN YOMO"⟩,
  ⟨0x05AB, "HEBREW ", "ACCENT OLE, ACCENT ILUY, ACCENT DEHI, ACCENT ZINOR, MARK MASORA CIRCLE"⟩,
  ⟨0x05B0, "HEBREW POINT ", "SHEVA, HATAF SEGOL, HATAF PATAH, HATAF QAMATS, HIRIQ, TSERE, SEGOL"⟩,
  ⟨0x05B7, "HEBREW POINT ", "PATAH, QAMATS, HOLAM, HOLAM HASER FOR VAV, QUBUTS, DAGESH OR MAPIQ"⟩,
  ⟨0x05BD, "HEBREW ", "POINT METEG, PUNCTUATION MAQAF, POINT RAFE, PUNCTUATION PASEQ"⟩,
  ⟨0x05C1, "HEBREW ", "POINT SHIN DOT, POINT SIN DOT, PUNCTUATION SOF PASUQ, MARK UPPER DOT"⟩,
  ⟨0x05C5, "HEBREW ", "MARK LOWER DOT, PUNCTUATION NUN HAFUKHA, POINT QAMATS QATAN"⟩,
  ⟨0x05D0, "HEBREW LETTER ", "ALEF, BET, GIMEL, DALET, HE, VAV, ZAYIN, HET, TET"⟩,
  ⟨0x05D9, "HEBREW LETTER ", "YOD, FINAL KAF, KAF, LAMED, FINAL MEM, MEM, FINAL NUN, NUN, SAMEKH"⟩,
  ⟨0x05E2, "HEBREW LETTER ", "AYIN, FINAL PE, PE, FINAL TSADI, TSADI, QOF, RESH, SHIN, TAV"⟩,
  ⟨0x05EF, "HEBREW ", "YOD TRIANGLE, LIGATURE YIDDISH DOUBLE VAV, LIGATURE YIDDISH VAV YOD"⟩,
  ⟨0x05F2, "HEBREW ", "LIGATURE YIDDISH DOUBLE YOD, PUNCTUATION GERESH, PUNCTUATION GERSHAYIM"⟩,
  ⟨0x0600, "ARABIC ", "NUMBER SIGN, SIGN SANAH, FOOTNOTE MARKER, SIGN SAFHA, SIGN SAMVAT"⟩,
  ⟨0x0605, "", "ARABIC NUMBER MARK ABOVE, ARABIC-INDIC CUBE ROOT, ARABIC-INDIC FOURTH ROOT"⟩,
  ⟨0x0608, "", "ARABIC RAY, ARABIC-INDIC PER MILLE SIGN, ARABIC-INDIC PER TEN THOUSAND SIGN"⟩,
  ⟨0x060B, "", "AFGHANI SIGN, ARABIC COMMA, ARABIC DATE SEPARATOR"⟩,
  ⟨0x060E, "ARABIC ", "POETIC VERSE SIGN, SIGN MISRA, SIGN SALLALLAHOU ALAYHE WASSALLAM"⟩,
  ⟨0x0611, "ARABIC SIGN ", "ALAYHE ASSALLAM, RAHMATULLAH ALAYHE, RADI ALLAHOU ANHU"⟩,
  ⟨0x0614, "ARABIC ", "SIGN TAKHALLUS, SMALL HIGH TAH, SMALL HIGH LIGATURE ALEF WITH LAM WITH YEH"⟩,
  ⟨0x0617, "ARABIC ", "SMALL HIGH ZAIN, SMALL FATHA, SMALL DAMMA, SMALL KASRA, SEMICOLON"⟩,
  ⟨0x061C, "ARABIC ", "LETTER MARK, END OF TEXT MARK, TRIPLE DOT PUNCTUATION MARK, QUESTION MARK"⟩,
  ⟨0x0620, "ARABIC LETTER ", "KASHMIRI YEH, HAMZA, ALEF WITH MADDA ABOVE"⟩,
  ⟨0x0623, "ARABIC LETTER ", "ALEF WITH HAMZA ABOVE, WAW WITH HAMZA ABOVE, ALEF WITH HAMZA BELOW"⟩,
  ⟨0x0626, "ARABIC LETTER ", "YEH WITH HAMZA ABOVE, ALEF, BEH, TEH MARBUTA, TEH, THEH, JEEM"⟩,
  ⟨0x062D, "ARABIC LETTER ", "HAH, KHAH, DAL, THAL, REH, ZAIN, SEEN, SHEEN, SAD, DAD, TAH, ZAH"⟩,
  ⟨0x0639, "ARABIC LETTER ", "AIN, GHAIN, KEHEH WITH TWO DOTS ABOVE, KEHEH WITH THREE DOTS BELOW"⟩,
  ⟨0x063D, "ARABIC LETTER FARSI YEH WITH ", "INVERTED V, TWO DOTS ABOVE"⟩,
  ⟨0x063F, "ARABIC ", "LETTER FARSI YEH WITH THREE DOTS ABOVE, TATWEEL"⟩,
  ⟨0x0641, "ARABIC LETTER ", "FEH, QAF, KAF, LAM, MEEM, NOON, HEH"⟩,
  ⟨0x0648, "ARABIC ", "LETTER WAW, LETTER ALEF MAKSURA, LETTER YEH, FATHATAN, DAMMATAN"⟩,
  ⟨0x064D, "ARABIC ", "KASRATAN, FATHA, DAMMA, KASRA, SHADDA, SUKUN, MADDAH ABOVE, HAMZA ABOVE"⟩,
  ⟨0x0655, "ARABIC ", "HAMZA BELOW, SUBSCRIPT ALEF, INVERTED DAMMA, MARK NOON GHUNNA, ZWARAKAY"⟩,
  ⟨0x065A, "ARABIC VOWEL SIGN ", "SMALL V ABOVE, INVERTED SMALL V ABOVE, DOT BELOW"⟩,
  ⟨0x065D, "ARABIC ", "REVERSED DAMMA, FATHA WITH TWO DOTS, WAVY HAMZA BELOW"⟩,
  ⟨0x0660, "ARABIC-INDIC DIGIT ", "ZERO, ONE, TWO, THREE, FOUR, FIVE, SIX, SEVEN, EIGHT, NINE"⟩,
  ⟨0x066A, "ARABIC ", "PERCENT SIGN, DECIMAL SEPARATOR, THOUSANDS SEPARATOR, FIVE POINTED STAR"⟩,
  ⟨0x066E, "ARABIC LETTER ", "DOTLESS BEH, DOTLESS QAF, SUPERSCRIPT ALEF"⟩,
  ⟨0x0671, "ARABIC LETTER ALEF ", "WASLA, WITH WAVY HAMZA ABOVE, WITH WAVY HAMZA BELOW"⟩,
  ⟨0x0674, "ARABIC LETTER ", "HIGH HAMZA, HIGH HAMZA ALEF, HIGH HAMZA WAW, U WITH HAMZA ABOVE"⟩,
  ⟨0x0678, "ARABIC LETTER ", "HIGH HAMZA YEH, TTEH, TTEHEH, BEEH, TEH WITH RING"⟩,
  ⟨0x067D, "ARABIC LETTER ", "TEH WITH THREE DOTS ABOVE DOWNWARDS, PEH, TEHEH, BEHEH"⟩,
  ⟨0x0681, "ARABIC LETTER ", "HAH WITH HAMZA ABOVE, HAH WITH TWO DOTS VERTICAL ABOVE, NYEH, DYEH"⟩,
  ⟨0x0685, "ARABIC LETTER ", "HAH WITH THREE DOTS ABOVE, TCHEH, TCHEHEH, DDAL, DAL WITH RING"⟩,
  ⟨0x068A, "ARABIC LETTER ", "DAL WITH DOT BELOW, DAL WITH DOT BELOW AND SMALL TAH, DAHAL, DDAHAL"⟩,
  ⟨0x068E, "ARABIC LETTER ", "DUL, DAL WITH THREE DOTS ABOVE DOWNWARDS, DAL WITH FOUR DOTS ABOVE"⟩,
  ⟨0x0691, "ARABIC LETTER ", "RREH, REH WITH SMALL V, REH WITH RING, REH WITH DOT BELOW"⟩,
  ⟨0x0695, "ARABIC LETTER REH WITH ", "SMALL V BELOW, DOT BELOW AND DOT ABOVE, TWO DOTS ABOVE"⟩,
  ⟨0x0698, "ARABIC LETTER ", "JEH, REH WITH FOUR DOTS ABOVE, SEEN WITH DOT BELOW AND DOT ABOVE"⟩,
  ⟨0x069B, "ARABIC LETTER SEEN WITH THREE DOTS ", "BELOW, BELOW AND THREE DOTS ABOVE"⟩,
  ⟨0x069D, "", "ARABIC LETTER SAD WITH TWO DOTS BELOW"⟩,
  ⟨0x069E, "ARABIC LETTER ", "SAD WITH THREE DOTS ABOVE, TAH WITH THREE DOTS ABOVE"⟩,
  ⟨0x06A0, "ARABIC LETTER ", "AIN WITH THREE DOTS ABOVE, DOTLESS FEH, FEH WITH DOT MOVED BELOW"⟩,
  ⟨0x06A3, "ARABIC LETTER ", "FEH WITH DOT BELOW, VEH, FEH WITH THREE DOTS BELOW"⟩,
  ⟨0x06A6, "ARABIC LETTER ", "PEHEH, QAF WITH DOT ABOVE, QAF WITH THREE DOTS ABOVE"⟩,
  ⟨0x06A9, "ARABIC LETTER ", "KEHEH, SWASH KAF, KAF WITH RING, KAF WITH DOT ABOVE"⟩,
  ⟨0x06AD, "ARABIC LETTER ", "NG, KAF WITH THREE DOTS BELOW, GAF, GAF WITH RING"⟩,
  ⟨0x06B1, "ARABIC LETTER ", "NGOEH, GAF WITH TWO DOTS BELOW, GUEH, GAF WITH THREE DOTS ABOVE"⟩,
  ⟨0x06B5, "ARABIC LETTER LAM WITH ", "SMALL V, DOT ABOVE, THREE DOTS ABOVE"⟩,
  ⟨0x06B8, "ARABIC LETTER ", "LAM WITH THREE DOTS BELOW, NOON WITH DOT BELOW"⟩,
  ⟨0x06BA, "ARABIC LETTER ", "NOON GHUNNA, RNOON, NOON WITH RING, NOON WITH THREE DOTS ABOVE"⟩,
  ⟨0x06BE, "ARABIC LETTER ", "HEH DOACHASHMEE, TCHEH WITH DOT ABOVE, HEH WITH YEH ABOVE, HEH GOAL"⟩,
  ⟨0x06C2, "ARABIC LETTER ", "HEH GOAL WITH HAMZA ABOVE, TEH MARBUTA GOAL, WAW WITH RING"⟩,
  ⟨0x06C5, "ARABIC LETTER ", "KIRGHIZ OE, OE, U, YU, KIRGHIZ YU, WAW WITH TWO DOTS ABOVE, VE"⟩,
  ⟨0x06CC, "ARABIC LETTER ", "FARSI YEH, YEH WITH TAIL, YEH WITH SMALL V, WAW WITH DOT ABOVE, E"⟩,
  ⟨0x06D1, "ARABIC LETTER YEH ", "WITH THREE DOTS BELOW, BARREE, BARREE WITH HAMZA ABOVE"⟩,
  ⟨0x06D4, "ARABIC ", "FULL STOP, LETTER AE, SMALL HIGH LIGATURE SAD WITH LAM WITH ALEF MAKSURA"⟩,
  ⟨0x06D7, "", "ARABIC SMALL HIGH LIGATURE QAF WITH LAM WITH ALEF MAKSURA"⟩,
  ⟨0x06D8, "ARABIC SMALL HIGH ", "MEEM INITIAL FORM, LAM ALEF, JEEM"⟩,
  ⟨0x06DB, "ARABIC ", "SMALL HIGH THREE DOTS, SMALL HIGH SEEN, END OF AYAH, START OF RUB EL HIZB"⟩,
  ⟨0x06DF, "ARABIC SMALL HIGH ", "ROUNDED ZERO, UPRIGHT RECTANGULAR ZERO, DOTLESS HEAD OF KHAH"⟩,
  ⟨0x06E2, "ARABIC SMALL ", "HIGH MEEM ISOLATED FORM, LOW SEEN, HIGH MADDA, WAW, YEH"⟩,
  ⟨0x06E7, "ARABIC ", "SMALL HIGH YEH, SMALL HIGH NOON, PLACE OF SAJDAH, EMPTY CENTRE LOW STOP"⟩,
  ⟨0x06EB, "ARABIC ", "EMPTY CENTRE HIGH STOP, ROUNDED HIGH STOP WITH FILLED CENTRE"⟩,
  ⟨0x06ED, "ARABIC ", "SMALL LOW MEEM, LETTER DAL WITH INVERTED V"⟩,
  ⟨0x06EF, "", "ARABIC LETTER REH WITH INVERTED V, EXTENDED ARABIC-INDIC DIGIT ZERO"⟩,
  ⟨0x06F1, "EXTENDED ARABIC-INDIC DIGIT ", "ONE, TWO, THREE, FOUR, FIVE, SIX, SEVEN, EIGHT, NINE"⟩,
  ⟨0x06FA, "ARABIC LETTER ", "SHEEN WITH DOT BELOW, DAD WITH DOT BELOW, GHAIN WITH DOT BELOW"⟩,
  ⟨0x06FD, "ARABIC SIGN SINDHI ", "AMPERSAND, POSTPOSITION MEN"⟩,
  ⟨0x06FF, "", "ARABIC LETTER HEH WITH INVERTED V, SYRIAC END OF PARAGRAPH"⟩,
  ⟨0x0701, "SYRIAC ", "SUPRALINEAR FULL STOP, SUBLINEAR FULL STOP, SUPRALINEAR COLON"⟩,
  ⟨0x0704, "SYRIAC ", "SUBLINEAR COLON, HORIZONTAL COLON, COLON SKEWED LEFT, COLON SKEWED RIGHT"⟩,
  ⟨0x0708, "SYRIAC ", "SUPRALINEAR COLON SKEWED LEFT, SUBLINEAR COLON SKEWED RIGHT"⟩,
  ⟨0x070A, "SYRIAC ", "CONTRACTION, HARKLEAN OBELUS, HARKLEAN METOBELUS, HARKLEAN ASTERISCUS"⟩,
  ⟨0x070F, "SYRIAC ", "ABBREVIATION MARK, LETTER ALAPH, LETTER SUPERSCRIPT ALAPH"⟩,
  ⟨0x0712, "SYRIAC LETTER ", "BETH, GAMAL, GAMAL GARSHUNI, DALATH, DOTLESS DALATH RISH, HE"⟩,
  ⟨0x0718, "SYRIAC LETTER ", "WAW, ZAIN, HETH, TETH, TETH GARSHUNI, YUDH, YUDH HE, KAPH, LAMADH"⟩,
  ⟨0x0721, "SYRIAC LETTER ", "MIM, NUN, SEMKATH, FINAL SEMKATH, E, PE, REVERSED PE, SADHE, QAPH"⟩,
  ⟨0x072A, "SYRIAC LETTER ", "RISH, SHIN, TAW, PERSIAN BHETH, PERSIAN GHAMAL, PERSIAN DHALATH"⟩,
  ⟨0x0730, "SYRIAC ", "PTHAHA ABOVE, PTHAHA BELOW, PTHAHA DOTTED, ZQAPHA ABOVE, ZQAPHA BELOW"⟩,
  ⟨0x0735, "SYRIAC ", "ZQAPHA DOTTED, RBASA ABOVE, RBASA BELOW, DOTTED ZLAMA HORIZONTAL"⟩,
  ⟨0x0739, "SYRIAC ", "DOTTED ZLAMA ANGULAR, HBASA ABOVE, HBASA BELOW, HBASA-ESASA DOTTED"⟩,
  ⟨0x073D, "SYRIAC ", "ESASA ABOVE, ESASA BELOW, RWAHA, FEMININE DOT, QUSHSHAYA, RUKKAKHA"⟩,
  ⟨0x0743, "SYRIAC ", "TWO VERTICAL DOTS ABOVE, TWO VERTICAL DOTS BELOW, THREE DOTS ABOVE"⟩,
  ⟨0x0746, "SYRIAC ", "THREE DOTS BELOW, OBLIQUE LINE ABOVE, OBLIQUE LINE BELOW, MUSIC, BARREKH"⟩,
  ⟨0x074D, "SYRIAC LETTER SOGDIAN ", "ZHAIN, KHAPH"⟩,
  ⟨0x074F, "", "SYRIAC LETTER SOGDIAN FE, ARABIC LETTER BEH WITH THREE DOTS HORIZONTALLY BELOW"⟩,
  ⟨0x0751, "", "ARABIC LETTER BEH WITH DOT BELOW AND THREE DOTS ABOVE"⟩,
  ⟨0x0752, "", "ARABIC LETTER BEH WITH THREE DOTS POINTING UPWARDS BELOW"⟩,
  ⟨0x0753, "", "ARABIC LETTER BEH WITH THREE DOTS POINTING UPWARDS BELOW AND TWO DOTS ABOVE"⟩,
  ⟨0x0754, "", "ARABIC LETTER BEH WITH TWO DOTS BELOW AND DOT ABOVE"⟩,
  ⟨0x0755, "ARABIC LETTER BEH WITH ", "INVERTED SMALL V BELOW, SMALL V"⟩,
  ⟨0x0757, "ARABIC LETTER HAH WITH ", "TWO DOTS ABOVE, THREE DOTS POINTING UPWARDS BELOW"⟩,
  ⟨0x0759, "", "ARABIC LETTER DAL WITH TWO DOTS VERTICALLY BELOW AND SMALL TAH"⟩,
  ⟨0x075A, "", "ARABIC LETTER DAL WITH INVERTED SMALL V BELOW"⟩,
  ⟨0x075B, "ARABIC LETTER ", "REH WITH STROKE, SEEN WITH FOUR DOTS ABOVE"⟩,
  ⟨0x075D, "ARABIC LETTER AIN WITH ", "TWO DOTS ABOVE, THREE DOTS POINTING DOWNWARDS ABOVE"⟩,
  ⟨0x075F, "", "ARABIC LETTER AIN WITH TWO DOTS VERTICALLY ABOVE"⟩,
  ⟨0x0760, "ARABIC LETTER FEH WITH ", "TWO DOTS BELOW, THREE DOTS POINTING UPWARDS BELOW"⟩,
  ⟨0x0762, "ARABIC LETTER KEHEH WITH ", "DOT ABOVE, THREE DOTS ABOVE"⟩,
  ⟨0x0764, "ARABIC LETTER ", "KEHEH WITH THREE DOTS POINTING UPWARDS BELOW, MEEM WITH DOT ABOVE"⟩,
  ⟨0x0766, "ARABIC LETTER ", "MEEM WITH DOT BELOW, NOON WITH TWO DOTS BELOW, NOON WITH SMALL TAH"⟩,
  ⟨0x0769, "ARABIC LETTER ", "NOON WITH SMALL V, LAM WITH BAR, REH WITH TWO DOTS VERTICALLY ABOVE"⟩,
  ⟨0x076C, "ARABIC LETTER ", "REH WITH HAMZA ABOVE, SEEN WITH TWO DOTS VERTICALLY ABOVE"⟩,
  ⟨0x076E, "ARABIC LETTER HAH WITH SMALL ARABIC LETTER TAH ", "BELOW, AND TWO DOTS"⟩,
  ⟨0x0770, "", "ARABIC LETTER SEEN WITH SMALL ARABIC LETTER TAH AND TWO DOTS"⟩,
  ⟨0x0771, "", "ARABIC LETTER REH WITH SMALL ARABIC LETTER TAH AND TWO DOTS"⟩,
  ⟨0x0772, "", "ARABIC LETTER HAH WITH SMALL ARABIC LETTER TAH ABOVE"⟩,
  ⟨0x0773, "ARABIC LETTER ALEF WITH EXTENDED ARABIC-INDIC DIGIT ", "TWO ABOVE, THREE ABOVE"⟩,
  ⟨0x0775, "", "ARABIC LETTER FARSI YEH WITH EXTENDED ARABIC-INDIC DIGIT TWO ABOVE"⟩,
  ⟨0x0776, "ARABIC LETTER FARSI YEH WITH EXTENDED ARABIC-INDIC DIGIT ", "THREE ABOVE, FOUR BELOW"⟩,
  ⟨0x0778, "ARABIC LETTER WAW WITH EXTENDED ARABIC-INDIC DIGIT ", "TWO ABOVE, THREE ABOVE"⟩,
  ⟨0x077A, "ARABIC LETTER YEH BARREE WITH EXTENDED ARABIC-INDIC DIGIT ", "TWO ABOVE, THREE ABOVE"⟩,
  ⟨0x077C, "", "ARABIC LETTER HAH WITH EXTENDED ARABIC-INDIC DIGIT FOUR BELOW"⟩,
  ⟨0x077D, "ARABIC LETTER SEEN WITH ", "EXTENDED ARABIC-INDIC DIGIT FOUR ABOVE, INVERTED V"⟩,
  ⟨0x077F, "", "ARABIC LETTER KAF WITH TWO DOTS ABOVE, THAANA LETTER HAA, THAANA LETTER SHAVIYANI"⟩,
  ⟨0x0782, "THAANA LETTER ", "NOONU, RAA, BAA, LHAVIYANI, KAAFU, ALIFU, VAAVU, MEEMU, FAAFU"⟩,
  ⟨0x078B, "THAANA LETTER ", "DHAALU, THAA, LAAMU, GAAFU, GNAVIYANI, SEENU, DAVIYANI, ZAVIYANI"⟩,
  ⟨0x0793, "THAANA LETTER ", "TAVIYANI, YAA, PAVIYANI, JAVIYANI, CHAVIYANI, TTAA, HHAA, KHAA"⟩,
  ⟨0x079B, "THAANA LETTER ", "THAALU, ZAA, SHEENU, SAADHU, DAADHU, TO, ZO, AINU, GHAINU, QAAFU"⟩,
  ⟨0x07A5, "THAANA ", "LETTER WAAVU, ABAFILI, AABAAFILI, IBIFILI, EEBEEFILI, UBUFILI"⟩,
  ⟨0x07AB, "THAANA ", "OOBOOFILI, EBEFILI, EYBEYFILI, OBOFILI, OABOAFILI, SUKUN, LETTER NAA"⟩,
  ⟨0x07C0, "NKO DIGIT ", "ZERO, ONE, TWO, THREE, FOUR, FIVE, SIX, SEVEN, EIGHT, NINE"⟩,
  ⟨0x07CA, "NKO LETTER ", "A, EE, I, E, U, OO, O, DAGBASINNA, N, BA, PA, TA, JA, CHA, DA, RA, RRA"⟩,
  ⟨0x07DB, "NKO LETTER ", "SA, GBA, FA, KA, LA, NA WOLOSO, MA, NYA, NA, HA, WA, YA, NYA WOLOSO"⟩,
  ⟨0x07E8, "NKO ", "LETTER JONA JA, LETTER JONA CHA, LETTER JONA RA, COMBINING SHORT HIGH TONE"⟩,
  ⟨0x07EC, "NKO COMBINING ", "SHORT LOW TONE, SHORT RISING TONE, LONG DESCENDING TONE"⟩,
  ⟨0x07EF, "NKO COMBINING ", "LONG HIGH TONE, LONG LOW TONE, LONG RISING TONE, NASALIZATION MARK"⟩,
  ⟨0x07F3, "NKO ", "COMBINING DOUBLE DOT ABOVE, HIGH TONE APOSTROPHE, LOW TONE APOSTROPHE"⟩,
  ⟨0x07F6, "NKO ", "SYMBOL OO DENNEN, SYMBOL GBAKURUNEN, COMMA, EXCLAMATION MARK, LAJANYALAN"⟩,
  ⟨0x07FD, "NKO ", "DANTAYALAN, DOROME SIGN, TAMAN SIGN"⟩,
  ⟨0x0800, "SAMARITAN LETTER ", "ALAF, BIT, GAMAN, DALAT, IY, BAA, ZEN, IT, TIT"⟩,
  ⟨0x0809, "SAMARITAN LETTER ", "YUT, KAAF, LABAT, MIM, NUN, SINGAAT, IN, FI, TSAADIY, QUF, RISH"⟩,
  ⟨0x0814, "SAMARITAN ", "LETTER SHAN, LETTER TAAF, MARK IN, MARK IN-ALAF, MARK OCCLUSION"⟩,
  ⟨0x0819, "SAMARITAN ", "MARK DAGESH, MODIFIER LETTER EPENTHETIC YUT, MARK EPENTHETIC YUT"⟩,
  ⟨0x081C, "SAMARITAN VOWEL SIGN ", "LONG E, E, OVERLONG AA, LONG AA, AA, OVERLONG A, LONG A"⟩,
  ⟨0x0823, "SAMARITAN ", "VOWEL SIGN A, MODIFIER LETTER SHORT A, VOWEL SIGN SHORT A"⟩,
  ⟨0x0826, "SAMARITAN ", "VOWEL SIGN LONG U, VOWEL SIGN U, MODIFIER LETTER I, VOWEL SIGN LONG I"⟩,
  ⟨0x082A, "SAMARITAN ", "VOWEL SIGN I, VOWEL SIGN O, VOWEL SIGN SUKUN, MARK NEQUDAA"⟩,
  ⟨0x0830, "SAMARITAN PUNCTUATION ", "NEQUDAA, AFSAAQ, ANGED, BAU, ATMAAU"⟩,
  ⟨0x0835, "SAMARITAN ", "PUNCTUATION SHIYYAALAA, ABBREVIATION MARK, PUNCTUATION MELODIC QITSA"⟩,
  ⟨0x0838, "SAMARITAN PUNCTUATION ", "ZIQAA, QITSA, ZAEF, TURU, ARKAANU, SOF MASHFAAT, ANNAAU"⟩,
  ⟨0x0840, "MANDAIC LETTER ", "HALQA, AB, AG, AD, AH, USHENNA, AZ, IT, ATT, AKSA"⟩,
  ⟨0x084A, "MANDAIC LETTER ", "AK, AL, AM, AN, AS, IN, AP, ASZ, AQ, AR, ASH, AT, DUSHENNA, KAD"⟩,
  ⟨0x0858, "MANDAIC ", "LETTER AIN, AFFRICATION MARK, VOCALIZATION MARK, GEMINATION MARK"⟩,
  ⟨0x085E, "", "MANDAIC PUNCTUATION"⟩,
  ⟨0x0860, "SYRIAC LETTER MALAYALAM ", "NGA, JA, NYA, TTA, NNA, NNNA, BHA, RA, LLA, LLLA, SSA"⟩,
  ⟨0x0870, "ARABIC LETTER ALEF WITH ATTACHED ", "FATHA, TOP RIGHT FATHA"⟩,
  ⟨0x0872, "ARABIC LETTER ALEF WITH ", "RIGHT MIDDLE STROKE, LEFT MIDDLE STROKE"⟩,
  ⟨0x0874, "ARABIC LETTER ALEF WITH ATTACHED ", "KASRA, BOTTOM RIGHT KASRA, ROUND DOT ABOVE"⟩,
  ⟨0x0877, "ARABIC LETTER ALEF WITH ATTACHED ", "RIGHT ROUND DOT, LEFT ROUND DOT, ROUND DOT BELOW"⟩,
  ⟨0x087A, "ARABIC LETTER ALEF WITH ", "DOT ABOVE, ATTACHED TOP RIGHT FATHA AND DOT ABOVE"⟩,
  ⟨0x087C, "", "ARABIC LETTER ALEF WITH RIGHT MIDDLE STROKE AND DOT ABOVE"⟩,
  ⟨0x087D, "", "ARABIC LETTER ALEF WITH ATTACHED BOTTOM RIGHT KASRA AND DOT ABOVE"⟩,
  ⟨0x087E, "", "ARABIC LETTER ALEF WITH ATTACHED TOP RIGHT FATHA AND LEFT RING"⟩,
  ⟨0x087F, "", "ARABIC LETTER ALEF WITH RIGHT MIDDLE STROKE AND LEFT RING"⟩,
  ⟨0x0880, "", "ARABIC LETTER ALEF WITH ATTACHED BOTTOM RIGHT KASRA AND LEFT RING"⟩,
  ⟨0x0881, "ARABIC LETTER ALEF WITH ATTACHED ", "RIGHT HAMZA, LEFT HAMZA"⟩,
  ⟨0x0883, "ARABIC TATWEEL WITH ", "OVERSTRUCK HAMZA, OVERSTRUCK WAW, TWO DOTS BELOW"⟩,
  ⟨0x0886, "ARABIC ", "LETTER THIN YEH, BASELINE ROUND DOT, RAISED ROUND DOT"⟩,
  ⟨0x0889, "ARABIC LETTER ", "NOON WITH INVERTED SMALL V, HAH WITH INVERTED SMALL V BELOW"⟩,
  ⟨0x088B, "ARABIC LETTER TAH WITH ", "DOT BELOW, THREE DOTS BELOW"⟩,
  ⟨0x088D, "ARABIC ", "LETTER KEHEH WITH TWO DOTS VERTICALLY BELOW, VERTICAL TAIL"⟩,
  ⟨0x0890, "ARABIC ", "POUND MARK ABOVE, PIASTRE MARK ABOVE"⟩,
  ⟨0x0898, "ARABIC SMALL ", "HIGH WORD AL-JUZ, LOW WORD ISHMAAM, LOW WORD IMAALA"⟩,
  ⟨0x089B, "ARABIC ", "SMALL LOW WORD TASHEEL, MADDA WAAJIB, SUPERSCRIPT ALEF MOKHASSAS"⟩,
  ⟨0x089E, "ARABIC ", "DOUBLED MADDA, HALF MADDA OVER MADDA, LETTER BEH WITH SMALL V BELOW"⟩,
  ⟨0x08A1, "ARABIC LETTER ", "BEH WITH HAMZA ABOVE, JEEM WITH TWO DOTS ABOVE"⟩,
  ⟨0x08A3, "ARABIC LETTER ", "TAH WITH TWO DOTS ABOVE, FEH WITH DOT BELOW AND THREE DOTS ABOVE"⟩,
  ⟨0x08A5, "ARABIC LETTER ", "QAF WITH DOT BELOW, LAM WITH DOUBLE BAR, MEEM WITH THREE DOTS ABOVE"⟩,
  ⟨0x08A8, "ARABIC LETTER YEH WITH TWO DOTS BELOW AND ", "HAMZA ABOVE, DOT ABOVE"⟩,
  ⟨0x08AA, "ARABIC LETTER ", "REH WITH LOOP, WAW WITH DOT WITHIN"⟩,
  ⟨0x08AC, "ARABIC LETTER ", "ROHINGYA YEH, LOW ALEF, DAL WITH THREE DOTS BELOW"⟩,
  ⟨0x08AF, "ARABIC LETTER ", "SAD WITH THREE DOTS BELOW, GAF WITH INVERTED STROKE"⟩,
  ⟨0x08B1, "ARABIC LETTER ", "STRAIGHT WAW, ZAIN WITH INVERTED V ABOVE, AIN WITH THREE DOTS BELOW"⟩,
  ⟨0x08B4, "ARABIC LETTER ", "KAF WITH DOT BELOW, QAF WITH DOT BELOW AND NO DOTS ABOVE"⟩,
  ⟨0x08B6, "ARABIC LETTER ", "BEH WITH SMALL MEEM ABOVE, PEH WITH SMALL MEEM ABOVE"⟩,
  ⟨0x08B8, "ARABIC LETTER ", "TEH WITH SMALL TEH ABOVE, REH WITH SMALL NOON ABOVE"⟩,
  ⟨0x08BA, "", "ARABIC LETTER YEH WITH TWO DOTS BELOW AND SMALL NOON ABOVE"⟩,
  ⟨0x08BB, "ARABIC LETTER AFRICAN ", "FEH, QAF"⟩,
  ⟨0x08BD, "ARABIC LETTER ", "AFRICAN NOON, PEH WITH SMALL V, TEH WITH SMALL V, TTEH WITH SMALL V"⟩,
  ⟨0x08C1, "ARABIC LETTER ", "TCHEH WITH SMALL V, KEHEH WITH SMALL V, GHAIN WITH THREE DOTS ABOVE"⟩,
  ⟨0x08C4, "ARABIC LETTER ", "AFRICAN QAF WITH THREE DOTS ABOVE, JEEM WITH THREE DOTS ABOVE"⟩,
  ⟨0x08C6, "ARABIC LETTER ", "JEEM WITH THREE DOTS BELOW, LAM WITH SMALL ARABIC LETTER TAH ABOVE"⟩,
  ⟨0x08C8, "ARABIC ", "LETTER GRAF, SMALL FARSI YEH"⟩,
  ⟨0x08CA, "ARABIC SMALL HIGH ", "FARSI YEH, YEH BARREE WITH TWO DOTS BELOW, WORD SAH"⟩,
  ⟨0x08CD, "ARABIC ", "SMALL HIGH ZAH, LARGE ROUND DOT ABOVE, LARGE ROUND DOT BELOW, SUKUN BELOW"⟩,
  ⟨0x08D1, "ARABIC ", "LARGE CIRCLE BELOW, LARGE ROUND DOT INSIDE CIRCLE BELOW, SMALL LOW WAW"⟩,
  ⟨0x08D4, "ARABIC SMALL HIGH ", "WORD AR-RUB, SAD, AIN, QAF, NOON WITH KASRA"⟩,
  ⟨0x08D9, "ARABIC SMALL ", "LOW NOON WITH KASRA, HIGH WORD ATH-THALATHA, HIGH WORD AS-SAJDA"⟩,
  ⟨0x08DC, "ARABIC SMALL HIGH ", "WORD AN-NISF, WORD SAKTA, WORD QIF, WORD WAQFA, FOOTNOTE MARKER"⟩,
  ⟨0x08E1, "ARABIC ", "SMALL HIGH SIGN SAFHA, DISPUTED END OF AYAH, TURNED DAMMA BELOW"⟩,
  ⟨0x08E4, "ARABIC CURLY ", "FATHA, DAMMA, KASRA, FATHATAN, DAMMATAN"⟩,
  ⟨0x08E9, "ARABIC ", "CURLY KASRATAN, TONE ONE DOT ABOVE, TONE TWO DOTS ABOVE, TONE LOOP ABOVE"⟩,
  ⟨0x08ED, "ARABIC ", "TONE ONE DOT BELOW, TONE TWO DOTS BELOW, TONE LOOP BELOW, OPEN FATHATAN"⟩,
  ⟨0x08F1, "ARABIC ", "OPEN DAMMATAN, OPEN KASRATAN, SMALL HIGH WAW, FATHA WITH RING"⟩,
  ⟨0x08F5, "ARABIC ", "FATHA WITH DOT ABOVE, KASRA WITH DOT BELOW, LEFT ARROWHEAD ABOVE"⟩,
  ⟨0x08F8, "ARABIC ", "RIGHT ARROWHEAD ABOVE, LEFT ARROWHEAD BELOW, RIGHT ARROWHEAD BELOW"⟩,
  ⟨0x08FB, "ARABIC DOUBLE RIGHT ARROWHEAD ", "ABOVE, ABOVE WITH DOT"⟩,
  ⟨0x08FD, "ARABIC ", "RIGHT ARROWHEAD ABOVE WITH DOT, DAMMA WITH DOT, MARK SIDEWAYS NOON GHUNNA"⟩,
  ⟨0xFB1D, "HEBREW ", "LETTER YOD WITH HIRIQ, POINT JUDEO-SPANISH VARIKA"⟩,
  ⟨0xFB1F, "HEBREW ", "LIGATURE YIDDISH YOD YOD PATAH, LETTER ALTERNATIVE AYIN"⟩,
  ⟨0xFB21, "HEBREW LETTER WIDE ", "ALEF, DALET, HE, KAF, LAMED, FINAL MEM"⟩,
  ⟨0xFB27, "HEBREW LETTER ", "WIDE RESH, WIDE TAV, ALTERNATIVE PLUS SIGN, SHIN WITH SHIN DOT"⟩,
  ⟨0xFB2B, "HEBREW LETTER SHIN WITH ", "SIN DOT, DAGESH AND SHIN DOT, DAGESH AND SIN DOT"⟩,
  ⟨0xFB2E, "HEBREW LETTER ALEF WITH ", "PATAH, QAMATS, MAPIQ"⟩,
  ⟨0xFB31, "HEBREW LETTER ", "BET WITH DAGESH, GIMEL WITH DAGESH, DALET WITH DAGESH"⟩,
  ⟨0xFB34, "HEBREW LETTER ", "HE WITH MAPIQ, VAV WITH DAGESH, ZAYIN WITH DAGESH"⟩,
  ⟨0xFB38, "HEBREW LETTER ", "TET WITH DAGESH, YOD WITH DAGESH"⟩,
  ⟨0xFB3A, "HEBREW LETTER ", "FINAL KAF WITH DAGESH, KAF WITH DAGESH, LAMED WITH DAGESH"⟩,
  ⟨0xFB3E, "", "HEBREW LETTER MEM WITH DAGESH"⟩,
  ⟨0xFB40, "HEBREW LETTER ", "NUN WITH DAGESH, SAMEKH WITH DAGESH"⟩,
  ⟨0xFB43, "HEBREW LETTER ", "FINAL PE WITH DAGESH, PE WITH DAGESH"⟩,
  ⟨0xFB46, "HEBREW LETTER ", "TSADI WITH DAGESH, QOF WITH DAGESH, RESH WITH DAGESH"⟩,
  ⟨0xFB49, "HEBREW LETTER ", "SHIN WITH DAGESH, TAV WITH DAGESH, VAV WITH HOLAM, BET WITH RAFE"⟩,
  ⟨0xFB4D, "HEBREW ", "LETTER KAF WITH RAFE, LETTER PE WITH RAFE, LIGATURE ALEF LAMED"⟩,
  ⟨0xFB50, "ARABIC LETTER ALEF WASLA ", "ISOLATED FORM, FINAL FORM"⟩,
  ⟨0xFB52, "ARABIC LETTER BEEH ", "ISOLATED FORM, FINAL FORM, INITIAL FORM, MEDIAL FORM"⟩,
  ⟨0xFB56, "ARABIC LETTER PEH ", "ISOLATED FORM, FINAL FORM, INITIAL FORM, MEDIAL FORM"⟩,
  ⟨0xFB5A, "ARABIC LETTER BEHEH ", "ISOLATED FORM, FINAL FORM, INITIAL FORM, MEDIAL FORM"⟩,
  ⟨0xFB5E, "ARABIC LETTER TTEHEH ", "ISOLATED FORM, FINAL FORM, INITIAL FORM, MEDIAL FORM"⟩,
  ⟨0xFB62, "ARABIC LETTER TEHEH ", "ISOLATED FORM, FINAL FORM, INITIAL FORM, MEDIAL FORM"⟩,
  ⟨0xFB66, "ARABIC LETTER TTEH ", "ISOLATED FORM, FINAL FORM, INITIAL FORM, MEDIAL FORM"⟩,
  ⟨0xFB6A, "ARABIC LETTER VEH ", "ISOLATED FORM, FINAL FORM, INITIAL FORM, MEDIAL FORM"⟩,
  ⟨0xFB6E, "ARABIC LETTER PEHEH ", "ISOLATED FORM, FINAL FORM, INITIAL FORM, MEDIAL FORM"⟩,
  ⟨0xFB72, "ARABIC LETTER DYEH ", "ISOLATED FORM, FINAL FORM, INITIAL FORM, MEDIAL FORM"⟩,
  ⟨0xFB76, "ARABIC LETTER NYEH ", "ISOLATED FORM, FINAL FORM, INITIAL FORM, MEDIAL FORM"⟩,
  ⟨0xFB7A, "ARABIC LETTER TCHEH ", "ISOLATED FORM, FINAL FORM, INITIAL FORM, MEDIAL FORM"⟩,
  ⟨0xFB7E, "ARABIC LETTER TCHEHEH ", "ISOLATED FORM, FINAL FORM, INITIAL FORM, MEDIAL FORM"⟩,
  ⟨0xFB82, "ARABIC LETTER ", "DDAHAL ISOLATED FORM, DDAHAL FINAL FORM, DAHAL ISOLATED FORM"⟩,
  ⟨0xFB85, "ARABIC LETTER ", "DAHAL FINAL FORM, DUL ISOLATED FORM, DUL FINAL FORM"⟩,
  ⟨0xFB88, "ARABIC LETTER ", "DDAL ISOLATED FORM, DDAL FINAL FORM, JEH ISOLATED FORM"⟩,
  ⟨0xFB8B, "ARABIC LETTER ", "JEH FINAL FORM, RREH ISOLATED FORM, RREH FINAL FORM"⟩,
  ⟨0xFB8E, "ARABIC LETTER KEHEH ", "ISOLATED FORM, FINAL FORM, INITIAL FORM, MEDIAL FORM"⟩,
  ⟨0xFB92, "ARABIC LETTER GAF ", "ISOLATED FORM, FINAL FORM, INITIAL FORM, MEDIAL FORM"⟩,
  ⟨0xFB96, "ARABIC LETTER GUEH ", "ISOLATED FORM, FINAL FORM, INITIAL FORM, MEDIAL FORM"⟩,
  ⟨0xFB9A, "ARABIC LETTER NGOEH ", "ISOLATED FORM, FINAL FORM, INITIAL FORM, MEDIAL FORM"⟩,
  ⟨0xFB9E, "ARABIC LETTER NOON GHUNNA ", "ISOLATED FORM, FINAL FORM"⟩,
  ⟨0xFBA0, "ARABIC LETTER RNOON ", "ISOLATED FORM, FINAL FORM, INITIAL FORM"⟩,
  ⟨0xFBA3, "ARABIC LETTER ", "RNOON MEDIAL FORM, HEH WITH YEH ABOVE ISOLATED FORM"⟩,
  ⟨0xFBA5, "ARABIC LETTER HEH ", "WITH YEH ABOVE FINAL FORM, GOAL ISOLATED FORM, GOAL FINAL FORM"⟩,
  ⟨0xFBA8, "ARABIC LETTER HEH ", "GOAL INITIAL FORM, GOAL MEDIAL FORM, DOACHASHMEE ISOLATED FORM"⟩,
  ⟨0xFBAB, "ARABIC LETTER HEH DOACHASHMEE ", "FINAL FORM, INITIAL FORM, MEDIAL FORM"⟩,
  ⟨0xFBAE, "ARABIC LETTER YEH BARREE ", "ISOLATED FORM, FINAL FORM"⟩,
  ⟨0xFBB0, "ARABIC LETTER YEH BARREE WITH HAMZA ABOVE ", "ISOLATED FORM, FINAL FORM"⟩,
  ⟨0xFBB2, "ARABIC SYMBOL DOT ", "ABOVE, BELOW"⟩,
  ⟨0xFBB4, "ARABIC SYMBOL ", "TWO DOTS ABOVE, TWO DOTS BELOW, THREE DOTS ABOVE, THREE DOTS BELOW"⟩,
  ⟨0xFBB8, "ARABIC SYMBOL THREE DOTS POINTING DOWNWARDS ", "ABOVE, BELOW"⟩,
  ⟨0xFBBA, "ARABIC SYMBOL ", "FOUR DOTS ABOVE, FOUR DOTS BELOW, DOUBLE VERTICAL BAR BELOW"⟩,
  ⟨0xFBBD, "ARABIC SYMBOL TWO DOTS VERTICALLY ", "ABOVE, BELOW"⟩,
  ⟨0xFBBF, "ARABIC SYMBOL ", "RING, SMALL TAH ABOVE, SMALL TAH BELOW, WASLA ABOVE"⟩,
  ⟨0xFBD3, "ARABIC LETTER NG ", "ISOLATED FORM, FINAL FORM, INITIAL FORM, MEDIAL FORM"⟩,
  ⟨0xFBD7, "ARABIC LETTER ", "U ISOLATED FORM, U FINAL FORM, OE ISOLATED FORM, OE FINAL FORM"⟩,
  ⟨0xFBDB, "ARABIC LETTER ", "YU ISOLATED FORM, YU FINAL FORM, U WITH HAMZA ABOVE ISOLATED FORM"⟩,
  ⟨0xFBDE, "ARABIC LETTER ", "VE ISOLATED FORM, VE FINAL FORM, KIRGHIZ OE ISOLATED FORM"⟩,
  ⟨0xFBE1, "ARABIC LETTER KIRGHIZ ", "OE FINAL FORM, YU ISOLATED FORM, YU FINAL FORM"⟩,
  ⟨0xFBE4, "ARABIC LETTER E ", "ISOLATED FORM, FINAL FORM, INITIAL FORM, MEDIAL FORM"⟩,
  ⟨0xFBE8, "ARABIC LETTER UIGHUR KAZAKH KIRGHIZ ALEF MAKSURA ", "INITIAL FORM, MEDIAL FORM"⟩,
  ⟨0xFBEA, "", "ARABIC LIGATURE YEH WITH HAMZA ABOVE WITH ALEF ISOLATED FORM"⟩,
  ⟨0xFBEB, "ARABIC LIGATURE YEH WITH HAMZA ABOVE WITH ", "ALEF FINAL FORM, AE ISOLATED FORM"⟩,
  ⟨0xFBED, "ARABIC LIGATURE YEH WITH HAMZA ABOVE WITH ", "AE FINAL FORM, WAW ISOLATED FORM"⟩,
  ⟨0xFBEF, "ARABIC LIGATURE YEH WITH HAMZA ABOVE WITH ", "WAW FINAL FORM, U ISOLATED FORM"⟩,
  ⟨0xFBF1, "ARABIC LIGATURE YEH WITH HAMZA ABOVE WITH ", "U FINAL FORM, OE ISOLATED FORM"⟩,
  ⟨0xFBF3, "ARABIC LIGATURE YEH WITH HAMZA ABOVE WITH ", "OE FINAL FORM, YU ISOLATED FORM"⟩,
  ⟨0xFBF5, "ARABIC LIGATURE YEH WITH HAMZA ABOVE WITH ", "YU FINAL FORM, E ISOLATED FORM"⟩,
  ⟨0xFBF7, "ARABIC LIGATURE YEH WITH HAMZA ABOVE WITH E ", "FINAL FORM, INITIAL FORM"⟩,
  ⟨0xFBF9, "ARABIC ",
    "LIGATURE UIGHUR KIRGHIZ YEH WITH HAMZA ABOVE WITH ALEF MAKSURA ISOLATED FORM"⟩,
  ⟨0xFBFA, "", "ARABIC LIGATURE UIGHUR KIRGHIZ YEH WITH HAMZA ABOVE WITH ALEF MAKSURA FINAL FORM"⟩,
  ⟨0xFBFB, "ARABIC ",
    "LIGATURE UIGHUR KIRGHIZ YEH WITH HAMZA ABOVE WITH ALEF MAKSURA INITIAL FORM"⟩,
  ⟨0xFBFC, "ARABIC LETTER FARSI YEH ", "ISOLATED FORM, FINAL FORM, INITIAL FORM, MEDIAL FORM"⟩,
  ⟨0xFC00, "", "ARABIC LIGATURE YEH WITH HAMZA ABOVE WITH JEEM ISOLATED FORM"⟩,
  ⟨0xFC01, "ARABIC LIGATURE YEH WITH HAMZA ABOVE WITH ", "HAH ISOLATED FORM, MEEM ISOLATED FORM"⟩,
  ⟨0xFC03, "", "ARABIC LIGATURE YEH WITH HAMZA ABOVE WITH ALEF MAKSURA ISOLATED FORM"⟩,
  ⟨0xFC04, "", "ARABIC LIGATURE YEH WITH HAMZA ABOVE WITH YEH ISOLATED FORM"⟩,
  ⟨0xFC05, "ARABIC LIGATURE BEH WITH ", "JEEM ISOLATED FORM, HAH ISOLATED FORM"⟩,
  ⟨0xFC07, "ARABIC LIGATURE BEH WITH ", "KHAH ISOLATED FORM, MEEM ISOLATED FORM"⟩,
  ⟨0xFC09, "ARABIC LIGATURE BEH WITH ", "ALEF MAKSURA ISOLATED FORM, YEH ISOLATED FORM"⟩,
  ⟨0xFC0B, "ARABIC LIGATURE TEH WITH ", "JEEM ISOLATED FORM, HAH ISOLATED FORM"⟩,
  ⟨0xFC0D, "ARABIC LIGATURE TEH WITH ", "KHAH ISOLATED FORM, MEEM ISOLATED FORM"⟩,
  ⟨0xFC0F, "ARABIC LIGATURE TEH WITH ", "ALEF MAKSURA ISOLATED FORM, YEH ISOLATED FORM"⟩,
  ⟨0xFC11, "ARABIC LIGATURE THEH WITH ", "JEEM ISOLATED FORM, MEEM ISOLATED FORM"⟩,
  ⟨0xFC13, "ARABIC LIGATURE THEH WITH ", "ALEF MAKSURA ISOLATED FORM, YEH ISOLATED FORM"⟩,
  ⟨0xFC15, "ARABIC LIGATURE JEEM WITH ", "HAH ISOLATED FORM, MEEM ISOLATED FORM"⟩,
  ⟨0xFC17, "ARABIC LIGATURE HAH WITH ", "JEEM ISOLATED FORM, MEEM ISOLATED FORM"⟩,
  ⟨0xFC19, "ARABIC LIGATURE KHAH WITH ", "JEEM ISOLATED FORM, HAH ISOLATED FORM"⟩,
  ⟨0xFC1B, "ARABIC LIGATURE ", "KHAH WITH MEEM ISOLATED FORM, SEEN WITH JEEM ISOLATED FORM"⟩,
  ⟨0xFC1D, "ARABIC LIGATURE SEEN WITH ", "HAH ISOLATED FORM, KHAH ISOLATED FORM"⟩,
  ⟨0xFC1F, "ARABIC LIGATURE ", "SEEN WITH MEEM ISOLATED FORM, SAD WITH HAH ISOLATED FORM"⟩,
  ⟨0xFC21, "ARABIC LIGATURE ", "SAD WITH MEEM ISOLATED FORM, DAD WITH JEEM ISOLATED FORM"⟩,
  ⟨0xFC23, "ARABIC LIGATURE DAD WITH ", "HAH ISOLATED FORM, KHAH ISOLATED FORM"⟩,
  ⟨0xFC25, "ARABIC LIGATURE ", "DAD WITH MEEM ISOLATED FORM, TAH WITH HAH ISOLATED FORM"⟩,
  ⟨0xFC27, "ARABIC LIGATURE ", "TAH WITH MEEM ISOLATED FORM, ZAH WITH MEEM ISOLATED FORM"⟩,
  ⟨0xFC29, "ARABIC LIGATURE AIN WITH ", "JEEM ISOLATED FORM, MEEM ISOLATED FORM"⟩,
  ⟨0xFC2B, "ARABIC LIGATURE GHAIN WITH ", "JEEM ISOLATED FORM, MEEM ISOLATED FORM"⟩,
  ⟨0xFC2D, "ARABIC LIGATURE FEH WITH ", "JEEM ISOLATED FORM, HAH ISOLATED FORM"⟩,
  ⟨0xFC2F, "ARABIC LIGATURE FEH WITH ", "KHAH ISOLATED FORM, MEEM ISOLATED FORM"⟩,
  ⟨0xFC31, "ARABIC LIGATURE FEH WITH ", "ALEF MAKSURA ISOLATED FORM, YEH ISOLATED FORM"⟩,
  ⟨0xFC33, "ARABIC LIGATURE QAF WITH ", "HAH ISOLATED FORM, MEEM ISOLATED FORM"⟩,
  ⟨0xFC35, "ARABIC LIGATURE QAF WITH ", "ALEF MAKSURA ISOLATED FORM, YEH ISOLATED FORM"⟩,
  ⟨0xFC37, "ARABIC LIGATURE KAF WITH ", "ALEF ISOLATED FORM, JEEM ISOLATED FORM"⟩,
  ⟨0xFC39, "ARABIC LIGATURE KAF WITH ", "HAH ISOLATED FORM, KHAH ISOLATED FORM"⟩,
  ⟨0xFC3B, "ARABIC LIGATURE KAF WITH ", "LAM ISOLATED FORM, MEEM ISOLATED FORM"⟩,
  ⟨0xFC3D, "ARABIC LIGATURE KAF WITH ", "ALEF MAKSURA ISOLATED FORM, YEH ISOLATED FORM"⟩,
  ⟨0xFC3F, "ARABIC LIGATURE LAM WITH ", "JEEM ISOLATED FORM, HAH ISOLATED FORM"⟩,
  ⟨0xFC41, "ARABIC LIGATURE LAM WITH ", "KHAH ISOLATED FORM, MEEM ISOLATED FORM"⟩,
  ⟨0xFC43, "ARABIC LIGATURE LAM WITH ", "ALEF MAKSURA ISOLATED FORM, YEH ISOLATED FORM"⟩,
  ⟨0xFC45, "ARABIC LIGATURE MEEM WITH ", "JEEM ISOLATED FORM, HAH ISOLATED FORM"⟩,
  ⟨0xFC47, "ARABIC LIGATURE MEEM WITH ", "KHAH ISOLATED FORM, MEEM ISOLATED FORM"⟩,
  ⟨0xFC49, "ARABIC LIGATURE MEEM WITH ", "ALEF MAKSURA ISOLATED FORM, YEH ISOLATED FORM"⟩,
  ⟨0xFC4B, "ARABIC LIGATURE NOON WITH ", "JEEM ISOLATED FORM, HAH ISOLATED FORM"⟩,
  ⟨0xFC4D, "ARABIC LIGATURE NOON WITH ", "KHAH ISOLATED FORM, MEEM ISOLATED FORM"⟩,
  ⟨0xFC4F, "ARABIC LIGATURE NOON WITH ", "ALEF MAKSURA ISOLATED FORM, YEH ISOLATED FORM"⟩,
  ⟨0xFC51, "ARABIC LIGATURE HEH WITH ", "JEEM ISOLATED FORM, MEEM ISOLATED FORM"⟩,
  ⟨0xFC53, "ARABIC LIGATURE HEH WITH ", "ALEF MAKSURA ISOLATED FORM, YEH ISOLATED FORM"⟩,
  ⟨0xFC55, "ARABIC LIGATURE YEH WITH ", "JEEM ISOLATED FORM, HAH ISOLATED FORM"⟩,
  ⟨0xFC57, "ARABIC LIGATURE YEH WITH ", "KHAH ISOLATED FORM, MEEM ISOLATED FORM"⟩,
  ⟨0xFC59, "ARABIC LIGATURE YEH WITH ", "ALEF MAKSURA ISOLATED FORM, YEH ISOLATED FORM"⟩,
  ⟨0xFC5B, "", "ARABIC LIGATURE THAL WITH SUPERSCRIPT ALEF ISOLATED FORM"⟩,
  ⟨0xFC5C, "", "ARABIC LIGATURE REH WITH SUPERSCRIPT ALEF ISOLATED FORM"⟩,
  ⟨0xFC5D, "", "ARABIC LIGATURE ALEF MAKSURA WITH SUPERSCRIPT ALEF ISOLATED FORM"⟩,
  ⟨0xFC5E, "ARABIC LIGATURE SHADDA WITH ", "DAMMATAN ISOLATED FORM, KASRATAN ISOLATED FORM"⟩,
  ⟨0xFC60, "ARABIC LIGATURE SHADDA WITH ", "FATHA ISOLATED FORM, DAMMA ISOLATED FORM"⟩,
  ⟨0xFC62, "ARABIC LIGATURE SHADDA WITH ", "KASRA ISOLATED FORM, SUPERSCRIPT ALEF ISOLATED FORM"⟩,
  ⟨0xFC64, "ARABIC LIGATURE YEH WITH HAMZA ABOVE WITH ", "REH FINAL FORM, ZAIN FINAL FORM"⟩,
  ⟨0xFC66, "ARABIC LIGATURE YEH WITH HAMZA ABOVE WITH ", "MEEM FINAL FORM, NOON FINAL FORM"⟩,
  ⟨0xFC68, "ARABIC LIGATURE YEH WITH HAMZA ABOVE WITH ", "ALEF MAKSURA FINAL FORM, YEH FINAL FORM"⟩,
  ⟨0xFC6A, "ARABIC LIGATURE BEH WITH ", "REH FINAL FORM, ZAIN FINAL FORM, MEEM FINAL FORM"⟩,
  ⟨0xFC6D, "ARABIC LIGATURE BEH WITH ", "NOON FINAL FORM, ALEF MAKSURA FINAL FORM, YEH FINAL FORM"⟩,
  ⟨0xFC70, "ARABIC LIGATURE TEH WITH ", "REH FINAL FORM, ZAIN FINAL FORM, MEEM FINAL FORM"⟩,
  ⟨0xFC73, "ARABIC LIGATURE TEH WITH ", "NOON FINAL FORM, ALEF MAKSURA FINAL FORM"⟩,
  ⟨0xFC75, "ARABIC LIGATURE ", "TEH WITH YEH FINAL FORM, THEH WITH REH FINAL FORM"⟩,
  ⟨0xFC77, "ARABIC LIGATURE THEH WITH ", "ZAIN FINAL FORM, MEEM FINAL FORM, NOON FINAL FORM"⟩,
  ⟨0xFC7A, "ARABIC LIGATURE THEH WITH ", "ALEF MAKSURA FINAL FORM, YEH FINAL FORM"⟩,
  ⟨0xFC7C, "ARABIC LIGATURE FEH WITH ", "ALEF MAKSURA FINAL FORM, YEH FINAL FORM"⟩,
  ⟨0xFC7E, "ARABIC LIGATURE QAF WITH ", "ALEF MAKSURA FINAL FORM, YEH FINAL FORM"⟩,
  ⟨0xFC80, "ARABIC LIGATURE KAF WITH ", "ALEF FINAL FORM, LAM FINAL FORM"⟩,
  ⟨0xFC82, "ARABIC LIGATURE KAF WITH ", "MEEM FINAL FORM, ALEF MAKSURA FINAL FORM, YEH FINAL FORM"⟩,
  ⟨0xFC85, "ARABIC LIGATURE LAM WITH ", "MEEM FINAL FORM, ALEF MAKSURA FINAL FORM"⟩,
  ⟨0xFC87, "ARABIC LIGATURE ", "LAM WITH YEH FINAL FORM, MEEM WITH ALEF FINAL FORM"⟩,
  ⟨0xFC89, "ARABIC LIGATURE ", "MEEM WITH MEEM FINAL FORM, NOON WITH REH FINAL FORM"⟩,
  ⟨0xFC8B, "ARABIC LIGATURE NOON WITH ", "ZAIN FINAL FORM, MEEM FINAL FORM, NOON FINAL FORM"⟩,
  ⟨0xFC8E, "ARABIC LIGATURE NOON WITH ", "ALEF MAKSURA FINAL FORM, YEH FINAL FORM"⟩,
  ⟨0xFC90, "", "ARABIC LIGATURE ALEF MAKSURA WITH SUPERSCRIPT ALEF FINAL FORM"⟩,
  ⟨0xFC91, "ARABIC LIGATURE YEH WITH ", "REH FINAL FORM, ZAIN FINAL FORM, MEEM FINAL FORM"⟩,
  ⟨0xFC94, "ARABIC LIGATURE YEH WITH ", "NOON FINAL FORM, ALEF MAKSURA FINAL FORM"⟩,
  ⟨0xFC96, "ARABIC LIGATURE YEH WITH ", "YEH FINAL FORM, HAMZA ABOVE WITH JEEM INITIAL FORM"⟩,
  ⟨0xFC98, "ARABIC LIGATURE YEH WITH HAMZA ABOVE WITH ", "HAH INITIAL FORM, KHAH INITIAL FORM"⟩,
  ⟨0xFC9A, "ARABIC LIGATURE YEH WITH HAMZA ABOVE WITH ", "MEEM INITIAL FORM, HEH INITIAL FORM"⟩,
  ⟨0xFC9C, "ARABIC LIGATURE BEH WITH ", "JEEM INITIAL FORM, HAH INITIAL FORM"⟩,
  ⟨0xFC9E, "ARABIC LIGATURE BEH WITH ", "KHAH INITIAL FORM, MEEM INITIAL FORM, HEH INITIAL FORM"⟩,
  ⟨0xFCA1, "ARABIC LIGATURE TEH WITH ", "JEEM INITIAL FORM, HAH INITIAL FORM"⟩,
  ⟨0xFCA3, "ARABIC LIGATURE TEH WITH ", "KHAH INITIAL FORM, MEEM INITIAL FORM, HEH INITIAL FORM"⟩,
  ⟨0xFCA6, "ARABIC LIGATURE ", "THEH WITH MEEM INITIAL FORM, JEEM WITH HAH INITIAL FORM"⟩,
  ⟨0xFCA8, "ARABIC LIGATURE ", "JEEM WITH MEEM INITIAL FORM, HAH WITH JEEM INITIAL FORM"⟩,
  ⟨0xFCAA, "ARABIC LIGATURE ", "HAH WITH MEEM INITIAL FORM, KHAH WITH JEEM INITIAL FORM"⟩,
  ⟨0xFCAC, "ARABIC LIGATURE ", "KHAH WITH MEEM INITIAL FORM, SEEN WITH JEEM INITIAL FORM"⟩,
  ⟨0xFCAE, "ARABIC LIGATURE SEEN WITH ", "HAH INITIAL FORM, KHAH INITIAL FORM, MEEM INITIAL FORM"⟩,
  ⟨0xFCB1, "ARABIC LIGATURE SAD WITH ", "HAH INITIAL FORM, KHAH INITIAL FORM, MEEM INITIAL FORM"⟩,
  ⟨0xFCB4, "ARABIC LIGATURE DAD WITH ", "JEEM INITIAL FORM, HAH INITIAL FORM, KHAH INITIAL FORM"⟩,
  ⟨0xFCB7, "ARABIC LIGATURE ", "DAD WITH MEEM INITIAL FORM, TAH WITH HAH INITIAL FORM"⟩,
  ⟨0xFCB9, "ARABIC LIGATURE ", "ZAH WITH MEEM INITIAL FORM, AIN WITH JEEM INITIAL FORM"⟩,
  ⟨0xFCBB, "ARABIC LIGATURE ", "AIN WITH MEEM INITIAL FORM, GHAIN WITH JEEM INITIAL FORM"⟩,
  ⟨0xFCBD, "ARABIC LIGATURE ", "GHAIN WITH MEEM INITIAL FORM, FEH WITH JEEM INITIAL FORM"⟩,
  ⟨0xFCBF, "ARABIC LIGATURE FEH WITH ", "HAH INITIAL FORM, KHAH INITIAL FORM, MEEM INITIAL FORM"⟩,
  ⟨0xFCC2, "ARABIC LIGATURE QAF WITH ", "HAH INITIAL FORM, MEEM INITIAL FORM"⟩,
  ⟨0xFCC4, "ARABIC LIGATURE KAF WITH ", "JEEM INITIAL FORM, HAH INITIAL FORM"⟩,
  ⟨0xFCC6, "ARABIC LIGATURE KAF WITH ", "KHAH INITIAL FORM, LAM INITIAL FORM, MEEM INITIAL FORM"⟩,
  ⟨0xFCC9, "ARABIC LIGATURE LAM WITH ", "JEEM INITIAL FORM, HAH INITIAL FORM"⟩,
  ⟨0xFCCB, "ARABIC LIGATURE LAM WITH ", "KHAH INITIAL FORM, MEEM INITIAL FORM, HEH INITIAL FORM"⟩,
  ⟨0xFCCE, "ARABIC LIGATURE MEEM WITH ", "JEEM INITIAL FORM, HAH INITIAL FORM, KHAH INITIAL FORM"⟩,
  ⟨0xFCD1, "ARABIC LIGATURE ", "MEEM WITH MEEM INITIAL FORM, NOON WITH JEEM INITIAL FORM"⟩,
  ⟨0xFCD3, "ARABIC LIGATURE NOON WITH ", "HAH INITIAL FORM, KHAH INITIAL FORM, MEEM INITIAL FORM"⟩,
  ⟨0xFCD6, "ARABIC LIGATURE ", "NOON WITH HEH INITIAL FORM, HEH WITH JEEM INITIAL FORM"⟩,
  ⟨0xFCD8, "ARABIC LIGATURE HEH WITH ", "MEEM INITIAL FORM, SUPERSCRIPT ALEF INITIAL FORM"⟩,
  ⟨0xFCDA, "ARABIC LIGATURE YEH WITH ", "JEEM INITIAL FORM, HAH INITIAL FORM"⟩,
  ⟨0xFCDC, "ARABIC LIGATURE YEH WITH ", "KHAH INITIAL FORM, MEEM INITIAL FORM, HEH INITIAL FORM"⟩,
  ⟨0xFCDF, "ARABIC LIGATURE YEH WITH HAMZA ABOVE WITH ", "MEEM MEDIAL FORM, HEH MEDIAL FORM"⟩,
  ⟨0xFCE1, "ARABIC LIGATURE BEH WITH ", "MEEM MEDIAL FORM, HEH MEDIAL FORM"⟩,
  ⟨0xFCE3, "ARABIC LIGATURE TEH WITH ", "MEEM MEDIAL FORM, HEH MEDIAL FORM"⟩,
  ⟨0xFCE5, "ARABIC LIGATURE THEH WITH ", "MEEM MEDIAL FORM, HEH MEDIAL FORM"⟩,
  ⟨0xFCE7, "ARABIC LIGATURE SEEN WITH ", "MEEM MEDIAL FORM, HEH MEDIAL FORM"⟩,
  ⟨0xFCE9, "ARABIC LIGATURE SHEEN WITH ", "MEEM MEDIAL FORM, HEH MEDIAL FORM"⟩,
  ⟨0xFCEB, "ARABIC LIGATURE KAF WITH ", "LAM MEDIAL FORM, MEEM MEDIAL FORM"⟩,
  ⟨0xFCED, "ARABIC LIGATURE ", "LAM WITH MEEM MEDIAL FORM, NOON WITH MEEM MEDIAL FORM"⟩,
  ⟨0xFCEF, "ARABIC LIGATURE ", "NOON WITH HEH MEDIAL FORM, YEH WITH MEEM MEDIAL FORM"⟩,
  ⟨0xFCF1, "ARABIC LIGATURE ", "YEH WITH HEH MEDIAL FORM, SHADDA WITH FATHA MEDIAL FORM"⟩,
  ⟨0xFCF3, "ARABIC LIGATURE SHADDA WITH ", "DAMMA MEDIAL FORM, KASRA MEDIAL FORM"⟩,
  ⟨0xFCF5, "ARABIC LIGATURE TAH WITH ", "ALEF MAKSURA ISOLATED FORM, YEH ISOLATED FORM"⟩,
  ⟨0xFCF7, "ARABIC LIGATURE AIN WITH ", "ALEF MAKSURA ISOLATED FORM, YEH ISOLATED FORM"⟩,
  ⟨0xFCF9, "ARABIC LIGATURE GHAIN WITH ", "ALEF MAKSURA ISOLATED FORM, YEH ISOLATED FORM"⟩,
  ⟨0xFCFB, "ARABIC LIGATURE SEEN WITH ", "ALEF MAKSURA ISOLATED FORM, YEH ISOLATED FORM"⟩,
  ⟨0xFCFD, "", "ARABIC LIGATURE SHEEN WITH ALEF MAKSURA ISOLATED FORM"⟩,
  ⟨0xFCFE, "ARABIC LIGATURE ", "SHEEN WITH YEH ISOLATED FORM, HAH WITH ALEF MAKSURA ISOLATED FORM"⟩,
  ⟨0xFD00, "ARABIC LIGATURE ", "HAH WITH YEH ISOLATED FORM, JEEM WITH ALEF MAKSURA ISOLATED FORM"⟩,
  ⟨0xFD02, "ARABIC LIGATURE ", "JEEM WITH YEH ISOLATED FORM, KHAH WITH ALEF MAKSURA ISOLATED FORM"⟩,
  ⟨0xFD04, "ARABIC LIGATURE ", "KHAH WITH YEH ISOLATED FORM, SAD WITH ALEF MAKSURA ISOLATED FORM"⟩,
  ⟨0xFD06, "ARABIC LIGATURE ", "SAD WITH YEH ISOLATED FORM, DAD WITH ALEF MAKSURA ISOLATED FORM"⟩,
  ⟨0xFD08, "ARABIC LIGATURE ", "DAD WITH YEH ISOLATED FORM, SHEEN WITH JEEM ISOLATED FORM"⟩,
  ⟨0xFD0A, "ARABIC LIGATURE SHEEN WITH ", "HAH ISOLATED FORM, KHAH ISOLATED FORM"⟩,
  ⟨0xFD0C, "ARABIC LIGATURE SHEEN WITH ", "MEEM ISOLATED FORM, REH ISOLATED FORM"⟩,
  ⟨0xFD0E, "ARABIC LIGATURE ", "SEEN WITH REH ISOLATED FORM, SAD WITH REH ISOLATED FORM"⟩,
  ⟨0xFD10, "ARABIC LIGATURE ", "DAD WITH REH ISOLATED FORM, TAH WITH ALEF MAKSURA FINAL FORM"⟩,
  ⟨0xFD12, "ARABIC LIGATURE ", "TAH WITH YEH FINAL FORM, AIN WITH ALEF MAKSURA FINAL FORM"⟩,
  ⟨0xFD14, "ARABIC LIGATURE ", "AIN WITH YEH FINAL FORM, GHAIN WITH ALEF MAKSURA FINAL FORM"⟩,
  ⟨0xFD16, "ARABIC LIGATURE ", "GHAIN WITH YEH FINAL FORM, SEEN WITH ALEF MAKSURA FINAL FORM"⟩,
  ⟨0xFD18, "ARABIC LIGATURE ", "SEEN WITH YEH FINAL FORM, SHEEN WITH ALEF MAKSURA FINAL FORM"⟩,
  ⟨0xFD1A, "ARABIC LIGATURE ", "SHEEN WITH YEH FINAL FORM, HAH WITH ALEF MAKSURA FINAL FORM"⟩,
  ⟨0xFD1C, "ARABIC LIGATURE ", "HAH WITH YEH FINAL FORM, JEEM WITH ALEF MAKSURA FINAL FORM"⟩,
  ⟨0xFD1E, "ARABIC LIGATURE ", "JEEM WITH YEH FINAL FORM, KHAH WITH ALEF MAKSURA FINAL FORM"⟩,
  ⟨0xFD20, "ARABIC LIGATURE ", "KHAH WITH YEH FINAL FORM, SAD WITH ALEF MAKSURA FINAL FORM"⟩,
  ⟨0xFD22, "ARABIC LIGATURE ", "SAD WITH YEH FINAL FORM, DAD WITH ALEF MAKSURA FINAL FORM"⟩,
  ⟨0xFD24, "ARABIC LIGATURE ", "DAD WITH YEH FINAL FORM, SHEEN WITH JEEM FINAL FORM"⟩,
  ⟨0xFD26, "ARABIC LIGATURE SHEEN WITH ", "HAH FINAL FORM, KHAH FINAL FORM, MEEM FINAL FORM"⟩,
  ⟨0xFD29, "ARABIC LIGATURE ", "SHEEN WITH REH FINAL FORM, SEEN WITH REH FINAL FORM"⟩,
  ⟨0xFD2B, "ARABIC LIGATURE ", "SAD WITH REH FINAL FORM, DAD WITH REH FINAL FORM"⟩,
  ⟨0xFD2D, "ARABIC LIGATURE SHEEN WITH ", "JEEM INITIAL FORM, HAH INITIAL FORM, KHAH INITIAL FORM"⟩,
  ⟨0xFD30, "ARABIC LIGATURE ", "SHEEN WITH MEEM INITIAL FORM, SEEN WITH HEH INITIAL FORM"⟩,
  ⟨0xFD32, "ARABIC LIGATURE ", "SHEEN WITH HEH INITIAL FORM, TAH WITH MEEM INITIAL FORM"⟩,
  ⟨0xFD34, "ARABIC LIGATURE SEEN WITH ", "JEEM MEDIAL FORM, HAH MEDIAL FORM, KHAH MEDIAL FORM"⟩,
  ⟨0xFD37, "ARABIC LIGATURE SHEEN WITH ", "JEEM MEDIAL FORM, HAH MEDIAL FORM"⟩,
  ⟨0xFD39, "ARABIC LIGATURE ", "SHEEN WITH KHAH MEDIAL FORM, TAH WITH MEEM MEDIAL FORM"⟩,
  ⟨0xFD3B, "ARABIC LIGATURE ", "ZAH WITH MEEM MEDIAL FORM, ALEF WITH FATHATAN FINAL FORM"⟩,
  ⟨0xFD3D, "", "ARABIC LIGATURE ALEF WITH FATHATAN ISOLATED FORM, ORNATE LEFT PARENTHESIS"⟩,
  ⟨0xFD3F, "", "ORNATE RIGHT PARENTHESIS, ARABIC LIGATURE RAHIMAHU ALLAAH"⟩,
  ⟨0xFD41, "ARABIC LIGATURE RADI ALLAAHU ", "ANH, ANHAA, ANHUM, ANHUMAA, ANHUNNA"⟩,
  ⟨0xFD46, "ARABIC LIGATURE ", "SALLALLAAHU ALAYHI WA-AALIH, ALAYHI AS-SALAAM, ALAYHIM AS-SALAAM"⟩,
  ⟨0xFD49, "ARABIC LIGATURE ", "ALAYHIMAA AS-SALAAM, ALAYHI AS-SALAATU WAS-SALAAM"⟩,
  ⟨0xFD4B, "ARABIC LIGATURE ", "QUDDISA SIRRAH, SALLALLAHU ALAYHI WAAALIHEE WA-SALLAM"⟩,
  ⟨0xFD4D, "ARABIC LIGATURE ", "ALAYHAA AS-SALAAM, TABAARAKA WA-TAAALAA, RAHIMAHUM ALLAAH"⟩,
  ⟨0xFD50, "ARABIC LIGATURE TEH WITH ", "JEEM WITH MEEM INITIAL FORM, HAH WITH JEEM FINAL FORM"⟩,
  ⟨0xFD52, "ARABIC LIGATURE TEH WITH HAH WITH ", "JEEM INITIAL FORM, MEEM INITIAL FORM"⟩,
  ⟨0xFD54, "ARABIC LIGATURE TEH WITH ", "KHAH WITH MEEM INITIAL FORM, MEEM WITH JEEM INITIAL FORM"⟩,
  ⟨0xFD56, "ARABIC LIGATURE TEH WITH MEEM WITH ", "HAH INITIAL FORM, KHAH INITIAL FORM"⟩,
  ⟨0xFD58, "ARABIC LIGATURE JEEM WITH MEEM WITH HAH ", "FINAL FORM, INITIAL FORM"⟩,
  ⟨0xFD5A, "ARABIC LIGATURE HAH WITH MEEM WITH ", "YEH FINAL FORM, ALEF MAKSURA FINAL FORM"⟩,
  ⟨0xFD5C, "", "ARABIC LIGATURE SEEN WITH HAH WITH JEEM INITIAL FORM"⟩,
  ⟨0xFD5D, "ARABIC LIGATURE SEEN WITH JEEM WITH ", "HAH INITIAL FORM, ALEF MAKSURA FINAL FORM"⟩,
  ⟨0xFD5F, "", "ARABIC LIGATURE SEEN WITH MEEM WITH HAH FINAL FORM"⟩,
  ⟨0xFD60, "ARABIC LIGATURE SEEN WITH MEEM WITH ", "HAH INITIAL FORM, JEEM INITIAL FORM"⟩,
  ⟨0xFD62, "ARABIC LIGATURE SEEN WITH MEEM WITH MEEM ", "FINAL FORM, INITIAL FORM"⟩,
  ⟨0xFD64, "", "ARABIC LIGATURE SAD WITH HAH WITH HAH FINAL FORM"⟩,
  ⟨0xFD65, "ARABIC LIGATURE SAD WITH ", "HAH WITH HAH INITIAL FORM, MEEM WITH MEEM FINAL FORM"⟩,
  ⟨0xFD67, "", "ARABIC LIGATURE SHEEN WITH HAH WITH MEEM FINAL FORM"⟩,
  ⟨0xFD68, "ARABIC LIGATURE SHEEN WITH ", "HAH WITH MEEM INITIAL FORM, JEEM WITH YEH FINAL FORM"⟩,
  ⟨0xFD6A, "ARABIC LIGATURE SHEEN WITH MEEM WITH KHAH ", "FINAL FORM, INITIAL FORM"⟩,
  ⟨0xFD6C, "ARABIC LIGATURE SHEEN WITH MEEM WITH MEEM ", "FINAL FORM, INITIAL FORM"⟩,
  ⟨0xFD6E, "", "ARABIC LIGATURE DAD WITH HAH WITH ALEF MAKSURA FINAL FORM"⟩,
  ⟨0xFD6F, "ARABIC LIGATURE DAD WITH KHAH WITH MEEM ", "FINAL FORM, INITIAL FORM"⟩,
  ⟨0xFD71, "ARABIC LIGATURE TAH WITH MEEM WITH HAH ", "FINAL FORM, INITIAL FORM"⟩,
  ⟨0xFD73, "ARABIC LIGATURE TAH WITH MEEM WITH ", "MEEM INITIAL FORM, YEH FINAL FORM"⟩,
  ⟨0xFD75, "ARABIC LIGATURE AIN WITH ", "JEEM WITH MEEM FINAL FORM, MEEM WITH MEEM FINAL FORM"⟩,
  ⟨0xFD77, "ARABIC LIGATURE AIN WITH MEEM WITH ", "MEEM INITIAL FORM, ALEF MAKSURA FINAL FORM"⟩,
  ⟨0xFD79, "", "ARABIC LIGATURE GHAIN WITH MEEM WITH MEEM FINAL FORM"⟩,
  ⟨0xFD7A, "ARABIC LIGATURE GHAIN WITH MEEM WITH ", "YEH FINAL FORM, ALEF MAKSURA FINAL FORM"⟩,
  ⟨0xFD7C, "ARABIC LIGATURE FEH WITH KHAH WITH MEEM ", "FINAL FORM, INITIAL FORM"⟩,
  ⟨0xFD7E, "ARABIC LIGATURE QAF WITH MEEM WITH ", "HAH FINAL FORM, MEEM FINAL FORM"⟩,
  ⟨0xFD80, "", "ARABIC LIGATURE LAM WITH HAH WITH MEEM FINAL FORM"⟩,
  ⟨0xFD81, "ARABIC LIGATURE LAM WITH HAH WITH ", "YEH FINAL FORM, ALEF MAKSURA FINAL FORM"⟩,
  ⟨0xFD83, "ARABIC LIGATURE LAM WITH JEEM WITH JEEM ", "INITIAL FORM, FINAL FORM"⟩,
  ⟨0xFD85, "ARABIC LIGATURE LAM WITH KHAH WITH MEEM ", "FINAL FORM, INITIAL FORM"⟩,
  ⟨0xFD87, "ARABIC LIGATURE LAM WITH MEEM WITH HAH ", "FINAL FORM, INITIAL FORM"⟩,
  ⟨0xFD89, "", "ARABIC LIGATURE MEEM WITH HAH WITH JEEM INITIAL FORM"⟩,
  ⟨0xFD8A, "ARABIC LIGATURE MEEM WITH HAH WITH ", "MEEM INITIAL FORM, YEH FINAL FORM"⟩,
  ⟨0xFD8C, "ARABIC LIGATURE MEEM WITH JEEM WITH ", "HAH INITIAL FORM, MEEM INITIAL FORM"⟩,
  ⟨0xFD8E, "ARABIC LIGATURE MEEM WITH KHAH WITH ", "JEEM INITIAL FORM, MEEM INITIAL FORM"⟩,
  ⟨0xFD92, "", "ARABIC LIGATURE MEEM WITH JEEM WITH KHAH INITIAL FORM"⟩,
  ⟨0xFD93, "ARABIC LIGATURE HEH WITH MEEM WITH ", "JEEM INITIAL FORM, MEEM INITIAL FORM"⟩,
  ⟨0xFD95, "ARABIC LIGATURE NOON WITH HAH WITH ", "MEEM INITIAL FORM, ALEF MAKSURA FINAL FORM"⟩,
  ⟨0xFD97, "", "ARABIC LIGATURE NOON WITH JEEM WITH MEEM FINAL FORM"⟩,
  ⟨0xFD98, "ARABIC LIGATURE NOON WITH JEEM WITH ", "MEEM INITIAL FORM, ALEF MAKSURA FINAL FORM"⟩,
  ⟨0xFD9A, "ARABIC LIGATURE NOON WITH MEEM WITH ", "YEH FINAL FORM, ALEF MAKSURA FINAL FORM"⟩,
  ⟨0xFD9C, "ARABIC LIGATURE YEH WITH MEEM WITH MEEM ", "FINAL FORM, INITIAL FORM"⟩,
  ⟨0xFD9E, "", "ARABIC LIGATURE BEH WITH KHAH WITH YEH FINAL FORM"⟩,
  ⟨0xFD9F, "ARABIC LIGATURE TEH WITH JEEM WITH ", "YEH FINAL FORM, ALEF MAKSURA FINAL FORM"⟩,
  ⟨0xFDA1, "ARABIC LIGATURE TEH WITH KHAH WITH ", "YEH FINAL FORM, ALEF MAKSURA FINAL FORM"⟩,
  ⟨0xFDA3, "ARABIC LIGATURE TEH WITH MEEM WITH ", "YEH FINAL FORM, ALEF MAKSURA FINAL FORM"⟩,
  ⟨0xFDA5, "", "ARABIC LIGATURE JEEM WITH MEEM WITH YEH FINAL FORM"⟩,
  ⟨0xFDA6, "", "ARABIC LIGATURE JEEM WITH HAH WITH ALEF MAKSURA FINAL FORM"⟩,
  ⟨0xFDA7, "", "ARABIC LIGATURE JEEM WITH MEEM WITH ALEF MAKSURA FINAL FORM"⟩,
  ⟨0xFDA8, "", "ARABIC LIGATURE SEEN WITH KHAH WITH ALEF MAKSURA FINAL FORM"⟩,
  ⟨0xFDA9, "", "ARABIC LIGATURE SAD WITH HAH WITH YEH FINAL FORM"⟩,
  ⟨0xFDAA, "", "ARABIC LIGATURE SHEEN WITH HAH WITH YEH FINAL FORM"⟩,
  ⟨0xFDAB, "", "ARABIC LIGATURE DAD WITH HAH WITH YEH FINAL FORM"⟩,
  ⟨0xFDAC, "ARABIC LIGATURE LAM WITH ", "JEEM WITH YEH FINAL FORM, MEEM WITH YEH FINAL FORM"⟩,
  ⟨0xFDAE, "", "ARABIC LIGATURE YEH WITH HAH WITH YEH FINAL FORM"⟩,
  ⟨0xFDAF, "ARABIC LIGATURE YEH WITH ", "JEEM WITH YEH FINAL FORM, MEEM WITH YEH FINAL FORM"⟩,
  ⟨0xFDB1, "", "ARABIC LIGATURE MEEM WITH MEEM WITH YEH FINAL FORM"⟩,
  ⟨0xFDB2, "", "ARABIC LIGATURE QAF WITH MEEM WITH YEH FINAL FORM"⟩,
  ⟨0xFDB3, "", "ARABIC LIGATURE NOON WITH HAH WITH YEH FINAL FORM"⟩,
  ⟨0xFDB4, "", "ARABIC LIGATURE QAF WITH MEEM WITH HAH INITIAL FORM"⟩,
  ⟨0xFDB5, "", "ARABIC LIGATURE LAM WITH HAH WITH MEEM INITIAL FORM"⟩,
  ⟨0xFDB6, "", "ARABIC LIGATURE AIN WITH MEEM WITH YEH FINAL FORM"⟩,
  ⟨0xFDB7, "", "ARABIC LIGATURE KAF WITH MEEM WITH YEH FINAL FORM"⟩,
  ⟨0xFDB8, "", "ARABIC LIGATURE NOON WITH JEEM WITH HAH INITIAL FORM"⟩,
  ⟨0xFDB9, "", "ARABIC LIGATURE MEEM WITH KHAH WITH YEH FINAL FORM"⟩,
  ⟨0xFDBA, "", "ARABIC LIGATURE LAM WITH JEEM WITH MEEM INITIAL FORM"⟩,
  ⟨0xFDBB, "", "ARABIC LIGATURE KAF WITH MEEM WITH MEEM FINAL FORM"⟩,
  ⟨0xFDBC, "", "ARABIC LIGATURE LAM WITH JEEM WITH MEEM FINAL FORM"⟩,
  ⟨0xFDBD, "", "ARABIC LIGATURE NOON WITH JEEM WITH HAH FINAL FORM"⟩,
  ⟨0xFDBE, "", "ARABIC LIGATURE JEEM WITH HAH WITH YEH FINAL FORM"⟩,
  ⟨0xFDBF, "", "ARABIC LIGATURE HAH WITH JEEM WITH YEH FINAL FORM"⟩,
  ⟨0xFDC0, "", "ARABIC LIGATURE MEEM WITH JEEM WITH YEH FINAL FORM"⟩,
  ⟨0xFDC1, "", "ARABIC LIGATURE FEH WITH MEEM WITH YEH FINAL FORM"⟩,
  ⟨0xFDC2, "", "ARABIC LIGATURE BEH WITH HAH WITH YEH FINAL FORM"⟩,
  ⟨0xFDC3, "", "ARABIC LIGATURE KAF WITH MEEM WITH MEEM INITIAL FORM"⟩,
  ⟨0xFDC4, "", "ARABIC LIGATURE AIN WITH JEEM WITH MEEM INITIAL FORM"⟩,
  ⟨0xFDC5, "", "ARABIC LIGATURE SAD WITH MEEM WITH MEEM INITIAL FORM"⟩,
  ⟨0xFDC6, "", "ARABIC LIGATURE SEEN WITH KHAH WITH YEH FINAL FORM"⟩,
  ⟨0xFDC7, "", "ARABIC LIGATURE NOON WITH JEEM WITH YEH FINAL FORM"⟩,
  ⟨0xFDCF, "", "ARABIC LIGATURE SALAAMUHU ALAYNAA"⟩,
  ⟨0xFDF0, "", "ARABIC LIGATURE SALLA USED AS KORANIC STOP SIGN ISOLATED FORM"⟩,
  ⟨0xFDF1, "", "ARABIC LIGATURE QALA USED AS KORANIC STOP SIGN ISOLATED FORM"⟩,
  ⟨0xFDF2, "ARABIC LIGATURE ", "ALLAH ISOLATED FORM, AKBAR ISOLATED FORM"⟩,
  ⟨0xFDF4, "ARABIC LIGATURE ", "MOHAMMAD ISOLATED FORM, SALAM ISOLATED FORM, RASOUL ISOLATED FORM"⟩,
  ⟨0xFDF7, "ARABIC LIGATURE ", "ALAYHE ISOLATED FORM, WASALLAM ISOLATED FORM"⟩,
  ⟨0xFDF9, "ARABIC LIGATURE ", "SALLA ISOLATED FORM, SALLALLAHOU ALAYHE WASALLAM, JALLAJALALOUHOU"⟩,
  ⟨0xFDFC, "", "RIAL SIGN, ARABIC LIGATURE BISMILLAH AR-RAHMAN AR-RAHEEM"⟩,
  ⟨0xFDFE, "ARABIC LIGATURE ", "SUBHAANAHU WA TAAALAA, AZZA WA JALL"⟩,
  ⟨0xFE70, "ARABIC ", "FATHATAN ISOLATED FORM, TATWEEL WITH FATHATAN ABOVE"⟩,
  ⟨0xFE72, "ARABIC ", "DAMMATAN ISOLATED FORM, TAIL FRAGMENT, KASRATAN ISOLATED FORM"⟩,
  ⟨0xFE76, "ARABIC FATHA ", "ISOLATED FORM, MEDIAL FORM"⟩,
  ⟨0xFE78, "ARABIC ", "DAMMA ISOLATED FORM, DAMMA MEDIAL FORM, KASRA ISOLATED FORM"⟩,
  ⟨0xFE7B, "ARABIC ", "KASRA MEDIAL FORM, SHADDA ISOLATED FORM, SHADDA MEDIAL FORM"⟩,
  ⟨0xFE7E, "ARABIC ", "SUKUN ISOLATED FORM, SUKUN MEDIAL FORM, LETTER HAMZA ISOLATED FORM"⟩,
  ⟨0xFE81, "ARABIC LETTER ALEF WITH MADDA ABOVE ", "ISOLATED FORM, FINAL FORM"⟩,
  ⟨0xFE83, "ARABIC LETTER ALEF WITH HAMZA ABOVE ", "ISOLATED FORM, FINAL FORM"⟩,
  ⟨0xFE85, "ARABIC LETTER WAW WITH HAMZA ABOVE ", "ISOLATED FORM, FINAL FORM"⟩,
  ⟨0xFE87, "ARABIC LETTER ALEF WITH HAMZA BELOW ", "ISOLATED FORM, FINAL FORM"⟩,
  ⟨0xFE89, "", "ARABIC LETTER YEH WITH HAMZA ABOVE ISOLATED FORM"⟩,
  ⟨0xFE8A, "ARABIC LETTER YEH WITH HAMZA ABOVE ", "FINAL FORM, INITIAL FORM, MEDIAL FORM"⟩,
  ⟨0xFE8D, "ARABIC LETTER ALEF ", "ISOLATED FORM, FINAL FORM"⟩,
  ⟨0xFE8F, "ARABIC LETTER BEH ", "ISOLATED FORM, FINAL FORM, INITIAL FORM"⟩,
  ⟨0xFE92, "ARABIC LETTER ", "BEH MEDIAL FORM, TEH MARBUTA ISOLATED FORM, TEH MARBUTA FINAL FORM"⟩,
  ⟨0xFE95, "ARABIC LETTER TEH ", "ISOLATED FORM, FINAL FORM, INITIAL FORM, MEDIAL FORM"⟩,
  ⟨0xFE99, "ARABIC LETTER THEH ", "ISOLATED FORM, FINAL FORM, INITIAL FORM, MEDIAL FORM"⟩,
  ⟨0xFE9D, "ARABIC LETTER JEEM ", "ISOLATED FORM, FINAL FORM, INITIAL FORM, MEDIAL FORM"⟩,
  ⟨0xFEA1, "ARABIC LETTER HAH ", "ISOLATED FORM, FINAL FORM, INITIAL FORM, MEDIAL FORM"⟩,
  ⟨0xFEA5, "ARABIC LETTER KHAH ", "ISOLATED FORM, FINAL FORM, INITIAL FORM"⟩,
  ⟨0xFEA8, "ARABIC LETTER ", "KHAH MEDIAL FORM, DAL ISOLATED FORM, DAL FINAL FORM"⟩,
  ⟨0xFEAB, "ARABIC LETTER ", "THAL ISOLATED FORM, THAL FINAL FORM, REH ISOLATED FORM"⟩,
  ⟨0xFEAE, "ARABIC LETTER ", "REH FINAL FORM, ZAIN ISOLATED FORM, ZAIN FINAL FORM"⟩,
  ⟨0xFEB1, "ARABIC LETTER SEEN ", "ISOLATED FORM, FINAL FORM, INITIAL FORM, MEDIAL FORM"⟩,
  ⟨0xFEB5, "ARABIC LETTER SHEEN ", "ISOLATED FORM, FINAL FORM, INITIAL FORM, MEDIAL FORM"⟩,
  ⟨0xFEB9, "ARABIC LETTER SAD ", "ISOLATED FORM, FINAL FORM, INITIAL FORM, MEDIAL FORM"⟩,
  ⟨0xFEBD, "ARABIC LETTER DAD ", "ISOLATED FORM, FINAL FORM, INITIAL FORM, MEDIAL FORM"⟩,
  ⟨0xFEC1, "ARABIC LETTER TAH ", "ISOLATED FORM, FINAL FORM, INITIAL FORM, MEDIAL FORM"⟩,
  ⟨0xFEC5, "ARABIC LETTER ZAH ", "ISOLATED FORM, FINAL FORM, INITIAL FORM, MEDIAL FORM"⟩,
  ⟨0xFEC9, "ARABIC LETTER AIN ", "ISOLATED FORM, FINAL FORM, INITIAL FORM, MEDIAL FORM"⟩,
  ⟨0xFECD, "ARABIC LETTER GHAIN ", "ISOLATED FORM, FINAL FORM, INITIAL FORM, MEDIAL FORM"⟩,
  ⟨0xFED1, "ARABIC LETTER FEH ", "ISOLATED FORM, FINAL FORM, INITIAL FORM, MEDIAL FORM"⟩,
  ⟨0xFED5, "ARABIC LETTER QAF ", "ISOLATED FORM, FINAL FORM, INITIAL FORM, MEDIAL FORM"⟩,
  ⟨0xFED9, "ARABIC LETTER KAF ", "ISOLATED FORM, FINAL FORM, INITIAL FORM, MEDIAL FORM"⟩,
  ⟨0xFEDD, "ARABIC LETTER LAM ", "ISOLATED FORM, FINAL FORM, INITIAL FORM, MEDIAL FORM"⟩,
  ⟨0xFEE1, "ARABIC LETTER MEEM ", "ISOLATED FORM, FINAL FORM, INITIAL FORM, MEDIAL FORM"⟩,
  ⟨0xFEE5, "ARABIC LETTER NOON ", "ISOLATED FORM, FINAL FORM, INITIAL FORM"⟩,
  ⟨0xFEE8, "ARABIC LETTER ", "NOON MEDIAL FORM, HEH ISOLATED FORM, HEH FINAL FORM"⟩,
  ⟨0xFEEB, "ARABIC LETTER ", "HEH INITIAL FORM, HEH MEDIAL FORM, WAW ISOLATED FORM"⟩,
  ⟨0xFEEE, "ARABIC LETTER ", "WAW FINAL FORM, ALEF MAKSURA ISOLATED FORM, ALEF MAKSURA FINAL FORM"⟩,
  ⟨0xFEF1, "ARABIC LETTER YEH ", "ISOLATED FORM, FINAL FORM, INITIAL FORM, MEDIAL FORM"⟩,
  ⟨0xFEF5, "ARABIC LIGATURE LAM WITH ALEF WITH MADDA ABOVE ", "ISOLATED FORM, FINAL FORM"⟩,
  ⟨0xFEF7, "ARABIC LIGATURE LAM WITH ALEF WITH HAMZA ABOVE ", "ISOLATED FORM, FINAL FORM"⟩,
  ⟨0xFEF9, "ARABIC LIGATURE LAM WITH ALEF WITH HAMZA BELOW ", "ISOLATED FORM, FINAL FORM"⟩,
  ⟨0xFEFB, "ARABIC LIGATURE LAM WITH ALEF ", "ISOLATED FORM, FINAL FORM"⟩,
  ⟨0xFEFF, "", "ZERO WIDTH NO-BREAK SPACE"⟩,
  ⟨0x1EC71, "INDIC SIYAQ NUMBER ", "ONE, TWO, THREE"⟩,
  ⟨0x1EC74, "INDIC SIYAQ NUMBER ", "FOUR, FIVE, SIX, SEVEN, EIGHT, NINE, TEN, TWENTY, THIRTY"⟩,
  ⟨0x1EC7D, "INDIC SIYAQ NUMBER ", "FORTY, FIFTY, SIXTY, SEVENTY, EIGHTY, NINETY, ONE HUNDRED"⟩,
  ⟨0x1EC84, "INDIC SIYAQ NUMBER ", "TWO HUNDRED, THREE HUNDRED, FOUR HUNDRED, FIVE HUNDRED"⟩,
  ⟨0x1EC88, "INDIC SIYAQ NUMBER ", "SIX HUNDRED, SEVEN HUNDRED, EIGHT HUNDRED, NINE HUNDRED"⟩,
  ⟨0x1EC8C, "INDIC SIYAQ NUMBER ", "ONE THOUSAND, TWO THOUSAND, THREE THOUSAND, FOUR THOUSAND"⟩,
  ⟨0x1EC90, "INDIC SIYAQ NUMBER ", "FIVE THOUSAND, SIX THOUSAND, SEVEN THOUSAND, EIGHT THOUSAND"⟩,
  ⟨0x1EC94, "INDIC SIYAQ NUMBER ", "NINE THOUSAND, TEN THOUSAND, TWENTY THOUSAND, THIRTY THOUSAND"⟩,
  ⟨0x1EC98, "INDIC SIYAQ NUMBER ", "FORTY THOUSAND, FIFTY THOUSAND, SIXTY THOUSAND"⟩,
  ⟨0x1EC9B, "INDIC SIYAQ NUMBER ", "SEVENTY THOUSAND, EIGHTY THOUSAND, NINETY THOUSAND"⟩,
  ⟨0x1EC9E, "INDIC SIYAQ ", "NUMBER LAKH, NUMBER LAKHAN, LAKH MARK, NUMBER KAROR, NUMBER KARORAN"⟩,
  ⟨0x1ECA3, "INDIC SIYAQ NUMBER PREFIXED ", "ONE, TWO, THREE, FOUR, FIVE, SIX, SEVEN"⟩,
  ⟨0x1ECAA, "INDIC SIYAQ ", "NUMBER PREFIXED EIGHT, NUMBER PREFIXED NINE, PLACEHOLDER"⟩,
  ⟨0x1ECAD, "INDIC SIYAQ FRACTION ", "ONE QUARTER, ONE HALF, THREE QUARTERS"⟩,
  ⟨0x1ECB0, "INDIC SIYAQ ", "RUPEE MARK, NUMBER ALTERNATE ONE, NUMBER ALTERNATE TWO"⟩,
  ⟨0x1ECB3, "INDIC SIYAQ ", "NUMBER ALTERNATE TEN THOUSAND, ALTERNATE LAKH MARK"⟩,
  ⟨0x1ED01, "OTTOMAN SIYAQ NUMBER ", "ONE, TWO, THREE, FOUR, FIVE, SIX, SEVEN, EIGHT"⟩,
  ⟨0x1ED09, "OTTOMAN SIYAQ NUMBER ", "NINE, TEN, TWENTY, THIRTY, FORTY, FIFTY, SIXTY, SEVENTY"⟩,
  ⟨0x1ED11, "OTTOMAN SIYAQ NUMBER ", "EIGHTY, NINETY, ONE HUNDRED, TWO HUNDRED, THREE HUNDRED"⟩,
  ⟨0x1ED16, "OTTOMAN SIYAQ NUMBER ", "FOUR HUNDRED, FIVE HUNDRED, SIX HUNDRED, SEVEN HUNDRED"⟩,
  ⟨0x1ED1A, "OTTOMAN SIYAQ NUMBER ", "EIGHT HUNDRED, NINE HUNDRED, ONE THOUSAND, TWO THOUSAND"⟩,
  ⟨0x1ED1E, "OTTOMAN SIYAQ NUMBER ", "THREE THOUSAND, FOUR THOUSAND, FIVE THOUSAND, SIX THOUSAND"⟩,
  ⟨0x1ED22, "OTTOMAN SIYAQ NUMBER ", "SEVEN THOUSAND, EIGHT THOUSAND, NINE THOUSAND, TEN THOUSAND"⟩,
  ⟨0x1ED26, "OTTOMAN SIYAQ NUMBER ", "TWENTY THOUSAND, THIRTY THOUSAND, FORTY THOUSAND"⟩,
  ⟨0x1ED29, "OTTOMAN SIYAQ NUMBER ", "FIFTY THOUSAND, SIXTY THOUSAND, SEVENTY THOUSAND"⟩,
  ⟨0x1ED2C, "OTTOMAN SIYAQ ", "NUMBER EIGHTY THOUSAND, NUMBER NINETY THOUSAND, MARRATAN"⟩,
  ⟨0x1ED2F, "OTTOMAN SIYAQ ALTERNATE NUMBER ", "TWO, THREE, FOUR"⟩,
  ⟨0x1ED32, "OTTOMAN SIYAQ ALTERNATE NUMBER ", "FIVE, SIX, SEVEN, EIGHT, NINE, TEN, FOUR HUNDRED"⟩,
  ⟨0x1ED39, "OTTOMAN SIYAQ ALTERNATE NUMBER ", "SIX HUNDRED, TWO THOUSAND, TEN THOUSAND"⟩,
  ⟨0x1ED3C, "OTTOMAN SIYAQ FRACTION ONE ", "HALF, SIXTH"⟩,
  ⟨0x1EE00, "ARABIC MATHEMATICAL ", "ALEF, BEH, JEEM, DAL"⟩,
  ⟨0x1EE05, "ARABIC MATHEMATICAL ", "WAW, ZAIN, HAH, TAH, YEH, KAF, LAM, MEEM, NOON, SEEN, AIN"⟩,
  ⟨0x1EE10, "ARABIC MATHEMATICAL ", "FEH, SAD, QAF, REH, SHEEN, TEH, THEH, KHAH, THAL, DAD, ZAH"⟩,
  ⟨0x1EE1B, "ARABIC MATHEMATICAL ", "GHAIN, DOTLESS BEH, DOTLESS NOON, DOTLESS FEH, DOTLESS QAF"⟩,
  ⟨0x1EE21, "ARABIC MATHEMATICAL INITIAL ", "BEH, JEEM"⟩,
  ⟨0x1EE24, "", "ARABIC MATHEMATICAL INITIAL HEH"⟩,
  ⟨0x1EE27, "", "ARABIC MATHEMATICAL INITIAL HAH"⟩,
  ⟨0x1EE29, "ARABIC MATHEMATICAL INITIAL ", "YEH, KAF, LAM, MEEM, NOON, SEEN, AIN, FEH, SAD, QAF"⟩,
  ⟨0x1EE34, "ARABIC MATHEMATICAL INITIAL ", "SHEEN, TEH, THEH, KHAH"⟩,
  ⟨0x1EE39, "", "ARABIC MATHEMATICAL INITIAL DAD"⟩,
  ⟨0x1EE3B, "", "ARABIC MATHEMATICAL INITIAL GHAIN"⟩,
  ⟨0x1EE42, "", "ARABIC MATHEMATICAL TAILED JEEM"⟩,
  ⟨0x1EE47, "", "ARABIC MATHEMATICAL TAILED HAH"⟩,
  ⟨0x1EE49, "", "ARABIC MATHEMATICAL TAILED YEH"⟩,
  ⟨0x1EE4B, "", "ARABIC MATHEMATICAL TAILED LAM"⟩,
  ⟨0x1EE4D, "ARABIC MATHEMATICAL TAILED ", "NOON, SEEN, AIN"⟩,
  ⟨0x1EE51, "ARABIC MATHEMATICAL TAILED ", "SAD, QAF"⟩,
  ⟨0x1EE54, "", "ARABIC MATHEMATICAL TAILED SHEEN"⟩,
  ⟨0x1EE57, "", "ARABIC MATHEMATICAL TAILED KHAH"⟩,
  ⟨0x1EE59, "", "ARABIC MATHEMATICAL TAILED DAD"⟩,
  ⟨0x1EE5B, "", "ARABIC MATHEMATICAL TAILED GHAIN"⟩,
  ⟨0x1EE5D, "", "ARABIC MATHEMATICAL TAILED DOTLESS NOON"⟩,
  ⟨0x1EE5F, "", "ARABIC MATHEMATICAL TAILED DOTLESS QAF"⟩,
  ⟨0x1EE61, "ARABIC MATHEMATICAL STRETCHED ", "BEH, JEEM"⟩,
  ⟨0x1EE64, "", "ARABIC MATHEMATICAL STRETCHED HEH"⟩,
  ⟨0x1EE67, "ARABIC MATHEMATICAL STRETCHED ", "HAH, TAH, YEH, KAF"⟩,
  ⟨0x1EE6C, "ARABIC MATHEMATICAL STRETCHED ", "MEEM, NOON, SEEN, AIN, FEH, SAD, QAF"⟩,
  ⟨0x1EE74, "ARABIC MATHEMATICAL STRETCHED ", "SHEEN, TEH, THEH, KHAH"⟩,
  ⟨0x1EE79, "ARABIC MATHEMATICAL STRETCHED ", "DAD, ZAH, GHAIN, DOTLESS BEH"⟩,
  ⟨0x1EE7E, "", "ARABIC MATHEMATICAL STRETCHED DOTLESS FEH"⟩,
  ⟨0x1EE80, "ARABIC MATHEMATICAL LOOPED ", "ALEF, BEH, JEEM, DAL, HEH, WAW, ZAIN, HAH, TAH, YEH"⟩,
  ⟨0x1EE8B, "ARABIC MATHEMATICAL LOOPED ", "LAM, MEEM, NOON, SEEN, AIN, FEH, SAD, QAF"⟩,
  ⟨0x1EE93, "ARABIC MATHEMATICAL LOOPED ", "REH, SHEEN, TEH, THEH, KHAH, THAL, DAD, ZAH, GHAIN"⟩,
  ⟨0x1EEA1, "ARABIC MATHEMATICAL DOUBLE-STRUCK ", "BEH, JEEM, DAL"⟩,
  ⟨0x1EEA5, "ARABIC MATHEMATICAL DOUBLE-STRUCK ", "WAW, ZAIN, HAH, TAH, YEH"⟩,
  ⟨0x1EEAB, "ARABIC MATHEMATICAL DOUBLE-STRUCK ", "LAM, MEEM, NOON, SEEN, AIN, FEH, SAD, QAF, REH"⟩,
  ⟨0x1EEB4, "ARABIC MATHEMATICAL DOUBLE-STRUCK ", "SHEEN, TEH, THEH, KHAH, THAL, DAD, ZAH, GHAIN"⟩,
  ⟨0x1EEF0, "ARABIC MATHEMATICAL OPERATOR ", "MEEM WITH HAH WITH TATWEEL, HAH WITH DAL"⟩]

end BatchExec
