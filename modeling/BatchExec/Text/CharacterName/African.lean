import BatchExec.Text.CharacterName.Row

/-!
# African scripts

The names of Ethiopic, Tifinagh, Vai, Bamum and other African letters.
-/

namespace BatchExec

/-- The names of Ethiopic, Tifinagh, Vai, Bamum and other African letters. -/
def africanNames : List NameRow := [
  ⟨0x1200, "ETHIOPIC SYLLABLE ", "HA, HU, HI, HAA, HEE, HE"⟩,
  ⟨0x1206, "ETHIOPIC SYLLABLE ", "HO, HOA, LA, LU, LI, LAA, LEE, LE, LO, LWA, HHA, HHU, HHI, HHAA"⟩,
  ⟨0x1214, "ETHIOPIC SYLLABLE ", "HHEE, HHE, HHO, HHWA, MA, MU, MI, MAA, MEE, ME, MO, MWA, SZA"⟩,
  ⟨0x1221, "ETHIOPIC SYLLABLE ", "SZU, SZI, SZAA, SZEE, SZE, SZO, SZWA, RA, RU, RI, RAA, REE, RE"⟩,
  ⟨0x122E, "ETHIOPIC SYLLABLE ", "RO, RWA, SA, SU, SI, SAA, SEE, SE, SO, SWA, SHA, SHU, SHI, SHAA"⟩,
  ⟨0x123C, "ETHIOPIC SYLLABLE ", "SHEE, SHE, SHO, SHWA, QA, QU, QI, QAA, QEE, QE, QO, QOA, QWA"⟩,
  ⟨0x124A, "ETHIOPIC SYLLABLE ", "QWI, QWAA, QWEE, QWE"⟩,
  ⟨0x1250, "ETHIOPIC SYLLABLE ", "QHA, QHU, QHI, QHAA, QHEE, QHE, QHO"⟩,
  ⟨0x1258, "", "ETHIOPIC SYLLABLE QHWA"⟩,
  ⟨0x125A, "ETHIOPIC SYLLABLE ", "QHWI, QHWAA, QHWEE, QHWE"⟩,
  ⟨0x1260, "ETHIOPIC SYLLABLE ", "BA, BU, BI, BAA, BEE, BE, BO, BWA, VA, VU, VI, VAA"⟩,
  ⟨0x126C, "ETHIOPIC SYLLABLE ", "VEE, VE, VO, VWA, TA, TU, TI, TAA, TEE, TE, TO, TWA, CA, CU, CI"⟩,
  ⟨0x127B, "ETHIOPIC SYLLABLE ", "CAA, CEE, CE, CO, CWA, XA, XU, XI, XAA, XEE, XE, XO, XOA, XWA"⟩,
  ⟨0x128A, "ETHIOPIC SYLLABLE ", "XWI, XWAA, XWEE, XWE"⟩,
  ⟨0x1290, "ETHIOPIC SYLLABLE ", "NA, NU, NI, NAA"⟩,
  ⟨0x1294, "ETHIOPIC SYLLABLE ", "NEE, NE, NO, NWA, NYA, NYU, NYI, NYAA, NYEE, NYE, NYO, NYWA"⟩,
  ⟨0x12A0, "ETHIOPIC SYLLABLE GLOTTAL ", "A, U, I, AA, EE, E"⟩,
  ⟨0x12A6, "ETHIOPIC SYLLABLE ", "GLOTTAL O, GLOTTAL WA, KA, KU, KI, KAA, KEE, KE, KO, KOA, KWA"⟩,
  ⟨0x12B2, "ETHIOPIC SYLLABLE ", "KWI, KWAA, KWEE, KWE"⟩,
  ⟨0x12B8, "ETHIOPIC SYLLABLE ", "KXA, KXU, KXI, KXAA, KXEE, KXE, KXO"⟩,
  ⟨0x12C0, "", "ETHIOPIC SYLLABLE KXWA"⟩,
  ⟨0x12C2, "ETHIOPIC SYLLABLE ", "KXWI, KXWAA, KXWEE, KXWE"⟩,
  ⟨0x12C8, "ETHIOPIC SYLLABLE ", "WA, WU, WI, WAA, WEE, WE, WO, WOA"⟩,
  ⟨0x12D0, "ETHIOPIC SYLLABLE PHARYNGEAL ", "A, U, I, AA, EE, E, O"⟩,
  ⟨0x12D8, "ETHIOPIC SYLLABLE ", "ZA, ZU, ZI, ZAA"⟩,
  ⟨0x12DC, "ETHIOPIC SYLLABLE ", "ZEE, ZE, ZO, ZWA, ZHA, ZHU, ZHI, ZHAA, ZHEE, ZHE, ZHO, ZHWA"⟩,
  ⟨0x12E8, "ETHIOPIC SYLLABLE ", "YA, YU, YI, YAA, YEE, YE, YO, YOA, DA, DU, DI, DAA, DEE, DE"⟩,
  ⟨0x12F6, "ETHIOPIC SYLLABLE ", "DO, DWA, DDA, DDU, DDI, DDAA, DDEE, DDE, DDO, DDWA, JA, JU, JI"⟩,
  ⟨0x1303, "ETHIOPIC SYLLABLE ", "JAA, JEE, JE, JO, JWA, GA, GU, GI, GAA, GEE, GE, GO, GOA, GWA"⟩,
  ⟨0x1312, "ETHIOPIC SYLLABLE ", "GWI, GWAA, GWEE, GWE"⟩,
  ⟨0x1318, "ETHIOPIC SYLLABLE ", "GGA, GGU, GGI, GGAA, GGEE"⟩,
  ⟨0x131D, "ETHIOPIC SYLLABLE ", "GGE, GGO, GGWAA, THA, THU, THI, THAA, THEE, THE, THO, THWA"⟩,
  ⟨0x1328, "ETHIOPIC SYLLABLE ", "CHA, CHU, CHI, CHAA, CHEE, CHE, CHO, CHWA, PHA, PHU, PHI, PHAA"⟩,
  ⟨0x1334, "ETHIOPIC SYLLABLE ", "PHEE, PHE, PHO, PHWA, TSA, TSU, TSI, TSAA, TSEE, TSE, TSO, TSWA"⟩,
  ⟨0x1340, "ETHIOPIC SYLLABLE ", "TZA, TZU, TZI, TZAA, TZEE, TZE, TZO, TZOA, FA, FU, FI, FAA, FEE"⟩,
  ⟨0x134D, "ETHIOPIC SYLLABLE ", "FE, FO, FWA, PA, PU, PI, PAA, PEE, PE, PO, PWA, RYA, MYA, FYA"⟩,
  ⟨0x135D, "ETHIOPIC COMBINING ", "GEMINATION AND VOWEL LENGTH MARK, VOWEL LENGTH MARK"⟩,
  ⟨0x135F, "ETHIOPIC ", "COMBINING GEMINATION MARK, SECTION MARK, WORDSPACE, FULL STOP, COMMA"⟩,
  ⟨0x1364, "ETHIOPIC ", "SEMICOLON, COLON, PREFACE COLON, QUESTION MARK, PARAGRAPH SEPARATOR"⟩,
  ⟨0x1369, "ETHIOPIC DIGIT ", "ONE, TWO, THREE, FOUR, FIVE, SIX, SEVEN, EIGHT"⟩,
  ⟨0x1371, "ETHIOPIC ", "DIGIT NINE, NUMBER TEN, NUMBER TWENTY, NUMBER THIRTY, NUMBER FORTY"⟩,
  ⟨0x1376, "ETHIOPIC NUMBER ", "FIFTY, SIXTY, SEVENTY, EIGHTY, NINETY, HUNDRED, TEN THOUSAND"⟩,
  ⟨0x1380, "ETHIOPIC SYLLABLE ", "SEBATBEIT MWA, MWI, MWEE, MWE, SEBATBEIT BWA, BWI, BWEE"⟩,
  ⟨0x1387, "ETHIOPIC SYLLABLE ", "BWE, SEBATBEIT FWA, FWI, FWEE, FWE, SEBATBEIT PWA, PWI, PWEE"⟩,
  ⟨0x138F, "ETHIOPIC ", "SYLLABLE PWE, TONAL MARK YIZET, TONAL MARK DERET, TONAL MARK RIKRIK"⟩,
  ⟨0x1393, "ETHIOPIC TONAL MARK ", "SHORT RIKRIK, DIFAT, KENAT, CHIRET, HIDET, DERET-HIDET, KURT"⟩,
  ⟨0x2D30, "TIFINAGH LETTER ", "YA, YAB, YABH, YAG, YAGHH, BERBER ACADEMY YAJ"⟩,
  ⟨0x2D36, "TIFINAGH LETTER ", "YAJ, YAD, YADH, YADD, YADDH, YEY, YAF, YAK, TUAREG YAK"⟩,
  ⟨0x2D3F, "TIFINAGH LETTER ", "YAKHH, YAH, BERBER ACADEMY YAH, TUAREG YAH, YAHH, YAA, YAKH"⟩,
  ⟨0x2D46, "TIFINAGH LETTER ", "TUAREG YAKH, YAQ, TUAREG YAQ, YI, YAZH, AHAGGAR YAZH, TUAREG YAZH"⟩,
  ⟨0x2D4D, "TIFINAGH LETTER ", "YAL, YAM, YAN, TUAREG YAGN, TUAREG YANG, YAP, YU, YAR"⟩,
  ⟨0x2D55, "TIFINAGH LETTER ", "YARR, YAGH, TUAREG YAGH, AYER YAGH, YAS, YASS, YASH, YAT, YATH"⟩,
  ⟨0x2D5E, "TIFINAGH LETTER ", "YACH, YATT, YAV, YAW, YAY, YAZ, TAWELLEMET YAZ, YAZZ, YE, YO"⟩,
  ⟨0x2D6F, "TIFINAGH ", "MODIFIER LETTER LABIALIZATION MARK, SEPARATOR MARK"⟩,
  ⟨0x2D7F, "", "TIFINAGH CONSONANT JOINER, ETHIOPIC SYLLABLE LOA"⟩,
  ⟨0x2D81, "ETHIOPIC SYLLABLE ", "MOA, ROA, SOA, SHOA, BOA, TOA, COA, NOA, NYOA, GLOTTAL OA, ZOA"⟩,
  ⟨0x2D8C, "ETHIOPIC SYLLABLE ", "DOA, DDOA, JOA, THOA, CHOA, PHOA, POA, GGWA, GGWI, GGWEE, GGWE"⟩,
  ⟨0x2DA0, "ETHIOPIC SYLLABLE ", "SSA, SSU, SSI, SSAA, SSEE, SSE, SSO"⟩,
  ⟨0x2DA8, "ETHIOPIC SYLLABLE ", "CCA, CCU, CCI, CCAA, CCEE, CCE, CCO"⟩,
  ⟨0x2DB0, "ETHIOPIC SYLLABLE ", "ZZA, ZZU, ZZI, ZZAA, ZZEE, ZZE, ZZO"⟩,
  ⟨0x2DB8, "ETHIOPIC SYLLABLE ", "CCHA, CCHU, CCHI, CCHAA, CCHEE, CCHE, CCHO"⟩,
  ⟨0x2DC0, "ETHIOPIC SYLLABLE ", "QYA, QYU, QYI, QYAA, QYEE, QYE, QYO"⟩,
  ⟨0x2DC8, "ETHIOPIC SYLLABLE ", "KYA, KYU, KYI, KYAA, KYEE, KYE, KYO"⟩,
  ⟨0x2DD0, "ETHIOPIC SYLLABLE ", "XYA, XYU, XYI, XYAA, XYEE, XYE, XYO"⟩,
  ⟨0x2DD8, "ETHIOPIC SYLLABLE ", "GYA, GYU, GYI, GYAA, GYEE, GYE, GYO"⟩,
  ⟨0xA500, "VAI SYLLABLE ", "EE, EEN, HEE, WEE, WEEN, PEE, BHEE, BEE, MBEE, KPEE"⟩,
  ⟨0xA50A, "VAI SYLLABLE ", "MGBEE, GBEE, FEE, VEE, TEE, THEE, DHEE, DHHEE, LEE, REE, DEE, NDEE"⟩,
  ⟨0xA516, "VAI SYLLABLE ", "SEE, SHEE, ZEE, ZHEE, CEE, JEE, NJEE, YEE, KEE, NGGEE, GEE, MEE, NEE"⟩,
  ⟨0xA523, "VAI SYLLABLE ", "NYEE, I, IN, HI, HIN, WI, WIN, PI, BHI, BI, MBI, KPI, MGBI, GBI, FI"⟩,
  ⟨0xA532, "VAI SYLLABLE ", "VI, TI, THI, DHI, DHHI, LI, RI, DI, NDI, SI, SHI, ZI, ZHI, CI, JI"⟩,
  ⟨0xA541, "VAI SYLLABLE ", "NJI, YI, KI, NGGI, GI, MI, NI, NYI, A, AN, NGAN, HA, HAN, WA, WAN"⟩,
  ⟨0xA550, "VAI SYLLABLE ", "PA, BHA, BA, MBA, KPA, KPAN, MGBA, GBA, FA, VA, TA, THA, DHA, DHHA"⟩,
  ⟨0xA55E, "VAI SYLLABLE ", "LA, RA, DA, NDA, SA, SHA, ZA, ZHA, CA, JA, NJA, YA, KA, KAN, NGGA"⟩,
  ⟨0xA56D, "VAI SYLLABLE ", "GA, MA, NA, NYA, OO, OON, HOO, WOO, WOON, POO, BHOO, BOO, MBOO, KPOO"⟩,
  ⟨0xA57B, "VAI SYLLABLE ", "MGBOO, GBOO, FOO, VOO, TOO, THOO, DHOO, DHHOO, LOO, ROO, DOO, NDOO"⟩,
  ⟨0xA587, "VAI SYLLABLE ", "SOO, SHOO, ZOO, ZHOO, COO, JOO, NJOO, YOO, KOO, NGGOO, GOO, MOO, NOO"⟩,
  ⟨0xA594, "VAI SYLLABLE ", "NYOO, U, UN, HU, HUN, WU, WUN, PU, BHU, BU, MBU, KPU, MGBU, GBU, FU"⟩,
  ⟨0xA5A3, "VAI SYLLABLE ", "VU, TU, THU, DHU, DHHU, LU, RU, DU, NDU, SU, SHU, ZU, ZHU, CU, JU"⟩,
  ⟨0xA5B2, "VAI SYLLABLE ", "NJU, YU, KU, NGGU, GU, MU, NU, NYU, O, ON, NGON, HO, HON, WO, WON"⟩,
  ⟨0xA5C1, "VAI SYLLABLE ", "PO, BHO, BO, MBO, KPO, MGBO, GBO, GBON, FO, VO, TO, THO, DHO, DHHO"⟩,
  ⟨0xA5CF, "VAI SYLLABLE ", "LO, RO, DO, NDO, SO, SHO, ZO, ZHO, CO, JO, NJO, YO, KO, NGGO, GO, MO"⟩,
  ⟨0xA5DF, "VAI SYLLABLE ", "NO, NYO, E, EN, NGEN, HE, HEN, WE, WEN, PE, BHE, BE, MBE, KPE, KPEN"⟩,
  ⟨0xA5EE, "VAI SYLLABLE ", "MGBE, GBE, GBEN, FE, VE, TE, THE, DHE, DHHE, LE, RE, DE, NDE, SE"⟩,
  ⟨0xA5FC, "VAI SYLLABLE ", "SHE, ZE, ZHE, CE, JE, NJE, YE, KE, NGGE, NGGEN, GE, GEN, ME, NE, NYE"⟩,
  ⟨0xA60B, "VAI ", "SYLLABLE NG, SYLLABLE LENGTHENER, COMMA, FULL STOP, QUESTION MARK"⟩,
  ⟨0xA610, "VAI ", "SYLLABLE NDOLE FA, SYLLABLE NDOLE KA, SYLLABLE NDOLE SOO, SYMBOL FEENG"⟩,
  ⟨0xA614, "VAI SYMBOL ", "KEENG, TING, NII, BANG, FAA, TAA, DANG, DOONG, KUNG, TONG, DO-O, JONG"⟩,
  ⟨0xA620, "VAI DIGIT ", "ZERO, ONE, TWO, THREE, FOUR, FIVE, SIX"⟩,
  ⟨0xA627, "VAI ", "DIGIT SEVEN, DIGIT EIGHT, DIGIT NINE, SYLLABLE NDOLE MA, SYLLABLE NDOLE DO"⟩,
  ⟨0xA6A0, "BAMUM LETTER ", "A, KA, U, KU, EE, REE, TAE, O, NYI, I, LA, PA, RII, RIEE, LEEEE"⟩,
  ⟨0xA6AF, "BAMUM LETTER ", "MEEEE, TAA, NDAA, NJAEM, M, SUU, MU, SHII, SI, SHEUX, SEUX, KYEE"⟩,
  ⟨0xA6BB, "BAMUM LETTER ", "KET, NUAE, NU, NJUAE, YOQ, SHU, YUQ, YA, NSHA, KEUX, PEUX, NJEE"⟩,
  ⟨0xA6C7, "BAMUM LETTER ", "NTEE, PUE, WUE, PEE, FEE, RU, LU, MI, NI, REUX, RAE, KEN, NGKWAEN"⟩,
  ⟨0xA6D4, "BAMUM LETTER ", "NGGA, NGA, SHO, PUAE, FU, FOM, WA, NA, LI, PI, LOQ, KO, MBEN, REN"⟩,
  ⟨0xA6E2, "BAMUM LETTER ", "MEN, MA, TI, KI, MO, MBAA, TET, KPA, TEN, NTUU, SAMBA, FAAMAE, KOVUU"⟩,
  ⟨0xA6EF, "BAMUM ", "LETTER KOGHOM, COMBINING MARK KOQNDON, COMBINING MARK TUKWENTIS"⟩,
  ⟨0xA6F2, "BAMUM ", "NJAEMLI, FULL STOP, COLON, COMMA, SEMICOLON, QUESTION MARK"⟩,
  ⟨0xAB01, "ETHIOPIC SYLLABLE ", "TTHU, TTHI, TTHAA, TTHEE, TTHE, TTHO"⟩,
  ⟨0xAB09, "ETHIOPIC SYLLABLE ", "DDHU, DDHI, DDHAA, DDHEE, DDHE, DDHO"⟩,
  ⟨0xAB11, "ETHIOPIC SYLLABLE ", "DZU, DZI, DZAA, DZEE, DZE, DZO"⟩,
  ⟨0xAB20, "ETHIOPIC SYLLABLE ", "CCHHA, CCHHU, CCHHI, CCHHAA, CCHHEE, CCHHE, CCHHO"⟩,
  ⟨0xAB28, "ETHIOPIC SYLLABLE ", "BBA, BBU, BBI, BBAA, BBEE, BBE, BBO"⟩,
  ⟨0x16800, "", "BAMUM LETTER PHASE-A NGKUE MFON"⟩,
  ⟨0x16801, "BAMUM LETTER PHASE-A ", "GBIEE FON, PON MFON PIPAEMGBIEE, PON MFON PIPAEMBA"⟩,
  ⟨0x16804, "BAMUM LETTER PHASE-A ", "NAA MFON, SHUENSHUET, TITA MFON, NZA MFON, SHINDA PA NJI"⟩,
  ⟨0x16809, "BAMUM LETTER PHASE-A ", "PON PA NJI PIPAEMGBIEE, PON PA NJI PIPAEMBA, MAEMBGBIEE"⟩,
  ⟨0x1680C, "BAMUM LETTER PHASE-A ", "TU MAEMBA, NGANGU, MAEMVEUX, MANSUAE, MVEUAENGAM, SEUNYAM"⟩,
  ⟨0x16812, "BAMUM LETTER PHASE-A ", "NTOQPEN, KEUKEUTNDA, NKINDI, SUU, NGKUENZEUM, LAPAQ"⟩,
  ⟨0x16818, "BAMUM LETTER PHASE-A ", "LET KUT, NTAP MFAA, MAEKEUP, PASHAE, GHEUAERAE, PAMSHAE"⟩,
  ⟨0x1681E, "BAMUM LETTER PHASE-A ", "MON NGGEUAET, NZUN MEUT, U YUQ NAE, GHEUAEGHEUAE, NTAP NTAA"⟩,
  ⟨0x16823, "BAMUM LETTER PHASE-A ", "SISA, MGBASA, MEUNJOMNDEUQ, MOOMPUQ, KAFA, PA LEERAEWA"⟩,
  ⟨0x16829, "BAMUM LETTER PHASE-A ", "NDA LEERAEWA, PET, MAEMKPEN, NIKA, PUP, TUAEP, LUAEP"⟩,
  ⟨0x16830, "BAMUM LETTER PHASE-A ", "SONJAM, TEUTEUWEN, MAENYI, KET, NDAANGGEUAET, KUOQ, MOOMEUT"⟩,
  ⟨0x16837, "BAMUM LETTER PHASE-A ", "SHUM, LOMMAE, FIRI, ROM, KPOQ, SOQ, MAP PIEET, SHIRAE"⟩,
  ⟨0x1683F, "BAMUM LETTER PHASE-A ", "NTAP, SHOQ NSHUT YUM, NYIT MONGKEUAEQ, PAARAE, NKAARAE"⟩,
  ⟨0x16844, "BAMUM LETTER PHASE-A ", "UNKNOWN, NGGEN, MAESI, NJAM, MBANYI, NYET, TEUAEN, SOT"⟩,
  ⟨0x1684C, "BAMUM LETTER PHASE-A ", "PAAM, NSHIEE, MAEM, NYI, KAQ, NSHA, VEE, LU, NEN, NAQ, MBAQ"⟩,
  ⟨0x16857, "BAMUM LETTER PHASE-B ", "NSHUET, TU MAEMGBIEE, SIEE, SET TU, LOM NTEUM, MBA MAELEE"⟩,
  ⟨0x1685D, "BAMUM LETTER PHASE-B ", "KIEEM, YEURAE, MBAARAE, KAM, PEESHI, YAFU LEERAEWA"⟩,
  ⟨0x16863, "BAMUM LETTER PHASE-B ", "LAM NSHUT NYAM, NTIEE SHEUOQ, NDU NJAA, GHEUGHEUAEM"⟩,
  ⟨0x16867, "BAMUM LETTER PHASE-B ", "PIT, TU NSIEE, SHET NJAQ, SHEUAEQTU, MFON TEUAEQ"⟩,
  ⟨0x1686C, "BAMUM LETTER PHASE-B ", "MBIT MBAAKET, NYI NTEUM, KEUPUQ, GHEUGHEN, KEUYEUX, LAANAE"⟩,
  ⟨0x16872, "BAMUM LETTER PHASE-B ", "PARUM, VEUM, NGKINDI MVOP, NGGEU MBU, WUAET, SAKEUAE, TAAM"⟩,
  ⟨0x16879, "BAMUM LETTER PHASE-B ", "MEUQ, NGGUOQ, NGGUOQ LARGE, MFIYAQ, SUE, MBEURI, MONTIEEN"⟩,
  ⟨0x16880, "BAMUM LETTER PHASE-B ", "NYAEMAE, PUNGAAM, MEUT NGGEET, FEUX, MBUOQ, FEE, KEUAEM"⟩,
  ⟨0x16887, "BAMUM LETTER PHASE-B ", "MA NJEUAENA, MA NJUQA, LET, NGGAAM, NSEN, MA, KIQ, NGOM"⟩,
  ⟨0x1688F, "BAMUM LETTER PHASE-C ", "NGKUE MAEMBA, NZA, YUM, WANGKUOQ, NGGEN, NDEUAEREE"⟩,
  ⟨0x16895, "BAMUM LETTER PHASE-C ", "NGKAQ, GHARAE, MBEEKEET, GBAYI, NYIR MKPARAQ MEUN, NTU MBIT"⟩,
  ⟨0x1689B, "BAMUM LETTER PHASE-C ", "MBEUM, PIRIEEN, NDOMBU, MBAA CABBAGE-TREE, KEUSHEUAEP"⟩,
  ⟨0x168A0, "BAMUM LETTER PHASE-C ", "GHAP, KEUKAQ, YU MUOMAE, NZEUM, MBUE, NSEUAEN, MBIT"⟩,
  ⟨0x168A7, "BAMUM LETTER PHASE-C ", "YEUQ, KPARAQ, KAA, SEUX, NDIDA, TAASHAE, NJUEQ, TITA YUE"⟩,
  ⟨0x168AF, "BAMUM LETTER PHASE-C ", "SUAET, NGGUAEN NYAM, VEUX, NANSANAQ, MA KEUAERI, NTAA"⟩,
  ⟨0x168B5, "BAMUM LETTER PHASE-C ", "NGGUON, LAP, MBIRIEEN, MGBASAQ, NTEUNGBA, TEUTEUX, NGGUM"⟩,
  ⟨0x168BC, "BAMUM LETTER PHASE-C ", "FUE, NDEUT, NSA, NSHAQ, BUNG, VEUAEPEN, MBERAE, RU, NJAEM"⟩,
  ⟨0x168C5, "BAMUM LETTER PHASE-C ", "LAM, TITUAEP, NSUOT NGOM, NJEEEE, KET, NGGU, MAESI, MBUAEM"⟩,
  ⟨0x168CD, "BAMUM LETTER PHASE-C ", "LU, KUT, NJAM, NGOM, WUP, NGGUEET, NSOM, NTEN, KUOP NKAARAE"⟩,
  ⟨0x168D6, "BAMUM LETTER PHASE-C ", "NSUN, NDAM, MA NSIEE, YAA, NDAP, SHUEQ, SETFON, MBI"⟩,
  ⟨0x168DE, "BAMUM LETTER PHASE-C ", "MAEMBA, MBANYI, KEUSEUX, MBEUX, KEUM, MBAA PICKET, YUWOQ"⟩,
  ⟨0x168E5, "BAMUM LETTER PHASE-C ", "NJEUX, MIEE, MUAE, SHIQ, KEN LAW, KEN FATIGUE, NGAQ, NAQ"⟩,
  ⟨0x168ED, "BAMUM LETTER PHASE-", "C LIQ, C PIN, C PEN, C TET, D MBUO, D WAP, D NJI, D MFON"⟩,
  ⟨0x168F5, "BAMUM LETTER PHASE-D ", "NJIEE, LIEE, NJEUT, NSHEE, NGGAAMAE, NYAM, WUAEN, NGKUN"⟩,
  ⟨0x168FD, "BAMUM LETTER PHASE-D ", "SHEE, NGKAP, KEUAETMEUN, TEUT, SHEUAE, NJAP, SUE, KET"⟩,
  ⟨0x16905, "BAMUM LETTER PHASE-D ", "YAEMMAE, KUOM, SAP, MFEUT, NDEUX, MALEERI, MEUT, SEUAEQ"⟩,
  ⟨0x1690D, "BAMUM LETTER PHASE-D ", "YEN, NJEUAEM, KEUOT MBUAE, NGKEURI, TU, GHAA, NGKYEE"⟩,
  ⟨0x16914, "BAMUM LETTER PHASE-D ", "FEUFEUAET, NDEE, MGBOFUM, LEUAEP, NDON, MONI, MGBEUN, PUUT"⟩,
  ⟨0x1691C, "BAMUM LETTER PHASE-D ", "MGBIEE, MFO, LUM, NSIEEP, MBAA, KWAET, NYET, TEUAEN, SOT"⟩,
  ⟨0x16925, "BAMUM LETTER PHASE-D ", "YUWOQ, KEUM, RAEM, TEEEE, NGKEUAEQ, MFEUAE, NSIEET, KEUP"⟩,
  ⟨0x1692D, "BAMUM LETTER PHASE-D ", "PIP, PEUTAE, NYUE, LET, NGGAAM, MFIEE, NGGWAEN, YUOM, PAP"⟩,
  ⟨0x16936, "BAMUM LETTER PHASE-D ", "YUOP, NDAM, NTEUM, SUAE, KUN, NGGEUX, NGKIEE, TUOT, MEUN"⟩,
  ⟨0x1693F, "BAMUM LETTER PHASE-D ", "KUQ, NSUM, TEUN, MAENJET, NGGAP, LEUM, NGGUOM, NSHUT, NJUEQ"⟩,
  ⟨0x16948, "BAMUM LETTER PHASE-D ", "GHEUAE, KU, REN OLD, TAE, TOQ, NYI, RII, LEEEE, MEEEE"⟩,
  ⟨0x16951, "BAMUM LETTER PHASE-D ", "M, SUU, MU, SHII, SHEUX, KYEE, NU, SHU, NTEE, PEE, NI"⟩,
  ⟨0x1695C, "BAMUM LETTER PHASE-D ", "SHOQ, PUQ, MVOP, LOQ, REN MUCH, TI, NTUU, MBAA SEVEN, SAQ"⟩,
  ⟨0x16965, "BAMUM LETTER PHASE-", "D FAA, E NDAP, E TOON, E MBEUM, E LAP, E VOM, E LOON, E PAA"⟩,
  ⟨0x1696D, "BAMUM LETTER PHASE-E ", "SOM, RAQ, NSHUOP, NDUN, PUAE, TAM, NGKA, KPEUX, WUO, SEE"⟩,
  ⟨0x16977, "BAMUM LETTER PHASE-E ", "NGGEUAET, PAAM, TOO, KUOP, LOM, NSHIEE, NGOP, MAEM, NGKEUX"⟩,
  ⟨0x16980, "BAMUM LETTER PHASE-E ", "NGOQ, NSHUE, RIMGBA, NJEUX, PEEM, SAA, NGGURAE, MGBA, GHEUX"⟩,
  ⟨0x16989, "BAMUM LETTER PHASE-E ", "NGKEUAEM, NJAEMLI, MAP, LOOT, NGGEEEE, NDIQ, TAEN NTEUM"⟩,
  ⟨0x16990, "BAMUM LETTER PHASE-E ", "SET, PUM, NDAA SOFTNESS, NGGUAESHAE NYAM, YIEE, GHEUN"⟩,
  ⟨0x16996, "BAMUM LETTER PHASE-E ", "TUAE, YEUAE, PO, TUMAE, KEUAE, SUAEN, TEUAEQ, VEUAE, WEUX"⟩,
  ⟨0x1699F, "BAMUM LETTER PHASE-E ", "LAAM, PU, TAAQ, GHAAMAE, NGEUREUT, SHEUAEQ, MGBEN, MBEE"⟩,
  ⟨0x169A7, "BAMUM LETTER PHASE-E ", "NZAQ, NKOM, GBET, TUM, KUET, YAP, NYI CLEAVER, YIT, MFEUQ"⟩,
  ⟨0x169B0, "BAMUM LETTER PHASE-E ", "NDIAQ, PIEEQ, YUEQ, LEUAEM, FUE, GBEUX, NGKUP, KET, MAE"⟩,
  ⟨0x169B9, "BAMUM LETTER PHASE-E ", "NGKAAMI, GHET, FA, NTUM, PEUT, YEUM, NGGEUAE, NYI BETWEEN"⟩,
  ⟨0x169C1, "BAMUM LETTER PHASE-E ", "NZUQ, POON, MIEE, FUET, NAE, MUAE, GHEUAE, FU I"⟩,
  ⟨0x169C9, "BAMUM LETTER PHASE-E ", "MVI, PUAQ, NGKUM, KUT, PIET, NTAP, YEUAET, NGGUP, PA PEOPLE"⟩,
  ⟨0x169D2, "BAMUM LETTER PHASE-E ", "FU CALL, FOM, NJEE, A, TOQ, O, I, LAQ, PA PLURAL, TAA"⟩,
  ⟨0x169DC, "BAMUM LETTER PHASE-E ", "TAQ, NDAA MY HOUSE, SHIQ, YEUX, NGUAE, YUAEN, YOQ SWIMMING"⟩,
  ⟨0x169E3, "BAMUM LETTER PHASE-E ", "YOQ COVER, YUQ, YUN, KEUX, PEUX, NJEE EPOCH, PUE, WUE, FEE"⟩,
  ⟨0x169EC, "BAMUM LETTER PHASE-E ", "VEE, LU, MI, REUX, RAE, NGUAET, NGA, SHO, SHOQ, FU REMEDY"⟩,
  ⟨0x169F6, "BAMUM LETTER PHASE-E ", "NA, PI, LOQ, KO, MEN, MA, MAQ, TEU, KI, MON, TEN, FAQ, GHOM"⟩,
  ⟨0x16A03, "BAMUM LETTER PHASE-F ", "KA, U, KU, EE, REE, TAE, NYI, LA, RII"⟩,
  ⟨0x16A0C, "BAMUM LETTER PHASE-F ", "RIEE, MEEEE, TAA, NDAA, NJAEM, M, SUU, SHII, SI, SEUX, KYEE"⟩,
  ⟨0x16A17, "BAMUM LETTER PHASE-F ", "KET, NUAE, NU, NJUAE, YOQ, SHU, YA, NSHA, PEUX, NTEE, WUE"⟩,
  ⟨0x16A22, "BAMUM LETTER PHASE-F ", "PEE, RU, NI, REUX, KEN, NGKWAEN, NGGA, SHO, PUAE, FOM, WA"⟩,
  ⟨0x16A2D, "BAMUM LETTER PHASE-F ", "LI, LOQ, KO, MBEN, REN, MA, MO, MBAA, TET, KPA, SAMBA, VUEQ"⟩,
  ⟨0x16AD0, "", "BASSA VAH LETTER ENNI"⟩,
  ⟨0x16AD1, "BASSA VAH LETTER ", "KA, SE, FA, MBE, YIE, GAH, DHII, KPAH, JO, HWAH, WA, ZO, GBU"⟩,
  ⟨0x16ADE, "BASSA VAH LETTER ", "DO, CE, UWU, TO, BA, VU, YEIN, PA, WADDA, A, O, OO, U, EE, E, I"⟩,
  ⟨0x16AF0, "BASSA VAH COMBINING ", "HIGH TONE, LOW TONE, MID TONE"⟩,
  ⟨0x16AF3, "BASSA VAH ", "COMBINING LOW-MID TONE, COMBINING HIGH-LOW TONE, FULL STOP"⟩,
  ⟨0x16E40, "MEDEFAIDRIN CAPITAL LETTER ", "M, S, V, W, ATIU, Z, KP, P, T, G, F, I, K, A, J, E"⟩,
  ⟨0x16E50, "MEDEFAIDRIN CAPITAL LETTER ", "B, C, U, YU, L, Q, HP, NY, X, D, OE, N, R, O, AI, Y"⟩,
  ⟨0x16E60, "MEDEFAIDRIN SMALL LETTER ", "M, S, V, W, ATIU, Z, KP, P, T, G, F, I, K, A, J"⟩,
  ⟨0x16E6F, "MEDEFAIDRIN SMALL LETTER ", "E, B, C, U, YU, L, Q, HP, NY, X, D, OE, N, R, O, AI, Y"⟩,
  ⟨0x16E80, "MEDEFAIDRIN DIGIT ", "ZERO, ONE, TWO, THREE, FOUR, FIVE, SIX, SEVEN, EIGHT, NINE"⟩,
  ⟨0x16E8A, "MEDEFAIDRIN NUMBER ", "TEN, ELEVEN, TWELVE, THIRTEEN"⟩,
  ⟨0x16E8E, "MEDEFAIDRIN NUMBER ", "FOURTEEN, FIFTEEN, SIXTEEN, SEVENTEEN, EIGHTEEN, NINETEEN"⟩,
  ⟨0x16E94, "MEDEFAIDRIN DIGIT ", "ONE ALTERNATE FORM, TWO ALTERNATE FORM, THREE ALTERNATE FORM"⟩,
  ⟨0x16E97, "MEDEFAIDRIN ", "COMMA, FULL STOP, SYMBOL AIVA, EXCLAMATION OH"⟩,
  ⟨0x1E7E0, "ETHIOPIC SYLLABLE ", "HHYA, HHYU, HHYI, HHYAA, HHYEE, HHYE, HHYO"⟩,
  ⟨0x1E7E8, "ETHIOPIC SYLLABLE ", "GURAGE HHWA, HHWI, HHWEE, HHWE"⟩,
  ⟨0x1E7ED, "ETHIOPIC SYLLABLE GURAGE ", "MWI, MWEE"⟩,
  ⟨0x1E7F0, "ETHIOPIC SYLLABLE GURAGE ", "QWI, QWEE, QWE, BWI, BWEE"⟩,
  ⟨0x1E7F5, "ETHIOPIC SYLLABLE GURAGE ", "KWI, KWEE, KWE, GWI, GWEE, GWE, FWI, FWEE, PWI, PWEE"⟩,
  ⟨0x1E800, "MENDE KIKAKUI SYLLABLE ", "M001 KI, M002 KA, M003 KU, M065 KEE, M095 KE"⟩,
  ⟨0x1E805, "MENDE KIKAKUI SYLLABLE ", "M076 KOO, M048 KO, M179 KUA, M004 WI, M005 WA, M006 WU"⟩,
  ⟨0x1E80B, "MENDE KIKAKUI SYLLABLE ", "M126 WEE, M118 WE, M114 WOO, M045 WO, M194 WUI, M143 WEI"⟩,
  ⟨0x1E811, "MENDE KIKAKUI SYLLABLE ", "M061 WVI, M049 WVA, M139 WVE, M007 MIN, M008 MAN"⟩,
  ⟨0x1E816, "MENDE KIKAKUI SYLLABLE ", "M009 MUN, M059 MEN, M094 MON, M154 MUAN, M189 MUEN"⟩,
  ⟨0x1E81B, "MENDE KIKAKUI SYLLABLE ", "M010 BI, M011 BA, M012 BU, M150 BEE, M097 BE, M103 BOO"⟩,
  ⟨0x1E821, "MENDE KIKAKUI SYLLABLE ", "M138 BO, M013 I, M014 A, M015 U, M163 EE, M100 E"⟩,
  ⟨0x1E827, "MENDE KIKAKUI SYLLABLE ", "M165 OO, M147 O, M137 EI, M131 IN, M135 IN, M195 AN"⟩,
  ⟨0x1E82D, "MENDE KIKAKUI SYLLABLE ", "M178 EN, M019 SI, M020 SA, M021 SU, M162 SEE, M116 SE"⟩,
  ⟨0x1E833, "MENDE KIKAKUI SYLLABLE ", "M136 SOO, M079 SO, M196 SIA, M025 LI, M026 LA, M027 LU"⟩,
  ⟨0x1E839, "MENDE KIKAKUI SYLLABLE ", "M084 LEE, M073 LE, M054 LOO, M153 LO, M110 LONG LE"⟩,
  ⟨0x1E83E, "MENDE KIKAKUI SYLLABLE ", "M016 DI, M017 DA, M018 DU, M089 DEE, M180 DOO"⟩,
  ⟨0x1E843, "MENDE KIKAKUI SYLLABLE ", "M181 DO, M022 TI, M023 TA, M024 TU, M091 TEE, M055 TE"⟩,
  ⟨0x1E849, "MENDE KIKAKUI SYLLABLE ", "M104 TOO, M069 TO, M028 JI, M029 JA, M030 JU, M157 JEE"⟩,
  ⟨0x1E84F, "MENDE KIKAKUI SYLLABLE ", "M113 JE, M160 JOO, M063 JO, M175 LONG JO, M031 YI"⟩,
  ⟨0x1E854, "MENDE KIKAKUI SYLLABLE ", "M032 YA, M033 YU, M109 YEE, M080 YE, M141 YOO, M121 YO"⟩,
  ⟨0x1E85A, "MENDE KIKAKUI SYLLABLE ", "M034 FI, M035 FA, M036 FU, M078 FEE, M075 FE, M133 FOO"⟩,
  ⟨0x1E860, "MENDE KIKAKUI SYLLABLE ", "M088 FO, M197 FUA, M101 FAN, M037 NIN, M038 NAN, M039 NUN"⟩,
  ⟨0x1E866, "MENDE KIKAKUI SYLLABLE ", "M117 NEN, M169 NON, M176 HI, M041 HA, M186 HU, M040 HEE"⟩,
  ⟨0x1E86C, "MENDE KIKAKUI SYLLABLE ", "M096 HE, M042 HOO, M140 HO, M083 HEEI, M128 HOOU"⟩,
  ⟨0x1E871, "MENDE KIKAKUI SYLLABLE ", "M053 HIN, M130 HAN, M087 HUN, M052 HEN, M193 HON"⟩,
  ⟨0x1E876, "MENDE KIKAKUI SYLLABLE ", "M046 HUAN, M090 NGGI, M043 NGGA, M082 NGGU, M115 NGGEE"⟩,
  ⟨0x1E87B, "MENDE KIKAKUI SYLLABLE ", "M146 NGGE, M156 NGGOO, M120 NGGO, M159 NGGAA, M127 NGGUA"⟩,
  ⟨0x1E880, "MENDE KIKAKUI SYLLABLE ", "M086 LONG NGGE, M106 LONG NGGOO, M183 LONG NGGO"⟩,
  ⟨0x1E883, "MENDE KIKAKUI SYLLABLE ", "M155 GI, M111 GA, M168 GU, M190 GEE, M166 GUEI"⟩,
  ⟨0x1E888, "MENDE KIKAKUI SYLLABLE ", "M167 GUAN, M184 NGEN, M057 NGON, M177 NGUAN, M068 PI"⟩,
  ⟨0x1E88D, "MENDE KIKAKUI SYLLABLE ", "M099 PA, M050 PU, M081 PEE, M051 PE, M102 POO, M066 PO"⟩,
  ⟨0x1E893, "MENDE KIKAKUI SYLLABLE ", "M145 MBI, M062 MBA, M122 MBU, M047 MBEE, M188 MBEE"⟩,
  ⟨0x1E898, "MENDE KIKAKUI SYLLABLE ", "M072 MBE, M172 MBOO, M174 MBO, M187 MBUU, M161 LONG MBE"⟩,
  ⟨0x1E89D, "MENDE KIKAKUI SYLLABLE ", "M105 LONG MBOO, M142 LONG MBO, M132 KPI, M092 KPA"⟩,
  ⟨0x1E8A1, "MENDE KIKAKUI SYLLABLE ", "M074 KPU, M044 KPEE, M108 KPE, M112 KPOO, M158 KPO"⟩,
  ⟨0x1E8A6, "MENDE KIKAKUI SYLLABLE ", "M124 GBI, M056 GBA, M148 GBU, M093 GBEE, M107 GBE"⟩,
  ⟨0x1E8AB, "MENDE KIKAKUI SYLLABLE ", "M071 GBOO, M070 GBO, M171 RA, M123 NDI, M129 NDA"⟩,
  ⟨0x1E8B0, "MENDE KIKAKUI SYLLABLE ", "M125 NDU, M191 NDEE, M119 NDE, M067 NDOO, M064 NDO"⟩,
  ⟨0x1E8B5, "MENDE KIKAKUI SYLLABLE ", "M152 NJA, M192 NJU, M149 NJEE, M134 NJOO, M182 VI"⟩,
  ⟨0x1E8BA, "MENDE KIKAKUI SYLLABLE ", "M185 VA, M151 VU, M173 VEE, M085 VE, M144 VOO, M077 VO"⟩,
  ⟨0x1E8C0, "MENDE KIKAKUI SYLLABLE ", "M164 NYIN, M058 NYAN, M170 NYUN, M098 NYEN, M060 NYON"⟩,
  ⟨0x1E8C7, "MENDE KIKAKUI DIGIT ", "ONE, TWO, THREE, FOUR, FIVE, SIX, SEVEN, EIGHT, NINE"⟩,
  ⟨0x1E8D0, "MENDE KIKAKUI COMBINING NUMBER ", "TEENS, TENS, HUNDREDS, THOUSANDS"⟩,
  ⟨0x1E8D4, "MENDE KIKAKUI COMBINING NUMBER ", "TEN THOUSANDS, HUNDRED THOUSANDS, MILLIONS"⟩,
  ⟨0x1E900, "ADLAM CAPITAL LETTER ", "ALIF, DAALI, LAAM, MIIM, BA, SINNYIIYHE, PE, BHE"⟩,
  ⟨0x1E908, "ADLAM CAPITAL LETTER ", "RA, E, FA, I, O, DHA, YHE, WAW, NUN, KAF, YA, U, JIIM, CHI"⟩,
  ⟨0x1E916, "ADLAM CAPITAL LETTER ", "HA, QAAF, GA, NYA, TU, NHA, VA, KHA, GBE, ZAL, KPO, SHA"⟩,
  ⟨0x1E922, "ADLAM SMALL LETTER ", "ALIF, DAALI, LAAM, MIIM, BA, SINNYIIYHE, PE"⟩,
  ⟨0x1E929, "ADLAM SMALL LETTER ", "BHE, RA, E, FA, I, O, DHA, YHE, WAW, NUN, KAF, YA, U, JIIM"⟩,
  ⟨0x1E937, "ADLAM SMALL LETTER ", "CHI, HA, QAAF, GA, NYA, TU, NHA, VA, KHA, GBE, ZAL, KPO, SHA"⟩,
  ⟨0x1E944, "ADLAM ", "ALIF LENGTHENER, VOWEL LENGTHENER, GEMINATION MARK, HAMZA"⟩,
  ⟨0x1E948, "ADLAM ", "CONSONANT MODIFIER, GEMINATE CONSONANT MODIFIER, NUKTA, NASALIZATION MARK"⟩,
  ⟨0x1E950, "ADLAM DIGIT ", "ZERO, ONE, TWO, THREE, FOUR, FIVE, SIX, SEVEN, EIGHT, NINE"⟩,
  ⟨0x1E95E, "ADLAM INITIAL ", "EXCLAMATION MARK, QUESTION MARK"⟩]

end BatchExec
