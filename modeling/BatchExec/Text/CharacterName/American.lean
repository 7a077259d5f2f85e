import BatchExec.Text.CharacterName.Row

/-!
# American scripts

The names of Cherokee letters and Canadian syllables, and of Ogham and Runic letters.
-/

namespace BatchExec

/-- The names of Cherokee letters and Canadian syllables, and of Ogham and Runic letters. -/
def americanNames : List NameRow := [
  ⟨0x13A0, "CHEROKEE LETTER ", "A, E, I, O, U, V, GA, KA, GE"⟩,
  ⟨0x13A9, "CHEROKEE LETTER ", "GI, GO, GU, GV, HA, HE, HI, HO, HU, HV, LA, LE, LI, LO, LU, LV"⟩,
  ⟨0x13B9, "CHEROKEE LETTER ", "MA, ME, MI, MO, MU, NA, HNA, NAH, NE, NI, NO, NU, NV, QUA, QUE"⟩,
  ⟨0x13C8, "CHEROKEE LETTER ", "QUI, QUO, QUU, QUV, SA, S, SE, SI, SO, SU, SV, DA, TA, DE, TE, DI"⟩,
  ⟨0x13D8, "CHEROKEE LETTER ", "TI, DO, DU, DV, DLA, TLA, TLE, TLI, TLO, TLU, TLV, TSA, TSE, TSI"⟩,
  ⟨0x13E6, "CHEROKEE LETTER ", "TSO, TSU, TSV, WA, WE, WI, WO, WU, WV, YA, YE, YI, YO, YU, YV, MV"⟩,
  ⟨0x13F8, "CHEROKEE SMALL LETTER ", "YE, YI, YO, YU, YV, MV"⟩,
  ⟨0x1400, "CANADIAN SYLLABICS ", "HYPHEN, E, AAI, I, II, O, OO, Y-CREE OO, CARRIER EE"⟩,
  ⟨0x1409, "CANADIAN SYLLABICS ", "CARRIER I, A, AA, WE, WEST-CREE WE, WI, WEST-CREE WI"⟩,
  ⟨0x1410, "CANADIAN SYLLABICS ", "WII, WEST-CREE WII, WO, WEST-CREE WO, WOO, WEST-CREE WOO"⟩,
  ⟨0x1416, "CANADIAN SYLLABICS ", "NASKAPI WOO, WA, WEST-CREE WA, WAA, WEST-CREE WAA"⟩,
  ⟨0x141B, "CANADIAN SYLLABICS ", "NASKAPI WAA, AI, Y-CREE W, GLOTTAL STOP, FINAL ACUTE"⟩,
  ⟨0x1420, "CANADIAN SYLLABICS FINAL ", "GRAVE, BOTTOM HALF RING, TOP HALF RING, RIGHT HALF RING"⟩,
  ⟨0x1424, "CANADIAN SYLLABICS FINAL ", "RING, DOUBLE ACUTE, DOUBLE SHORT VERTICAL STROKES"⟩,
  ⟨0x1427, "CANADIAN SYLLABICS FINAL ", "MIDDLE DOT, SHORT HORIZONTAL STROKE, PLUS, DOWN TACK"⟩,
  ⟨0x142B, "CANADIAN SYLLABICS ", "EN, IN, ON, AN, PE, PAAI, PI, PII, PO, POO, Y-CREE POO"⟩,
  ⟨0x1436, "CANADIAN SYLLABICS ", "CARRIER HEE, CARRIER HI, PA, PAA, PWE, WEST-CREE PWE"⟩,
  ⟨0x143C, "CANADIAN SYLLABICS ", "PWI, WEST-CREE PWI, PWII, WEST-CREE PWII, PWO, WEST-CREE PWO"⟩,
  ⟨0x1442, "CANADIAN SYLLABICS ", "PWOO, WEST-CREE PWOO, PWA, WEST-CREE PWA, PWAA, WEST-CREE PWAA"⟩,
  ⟨0x1448, "CANADIAN SYLLABICS ", "Y-CREE PWAA, P, WEST-CREE P, CARRIER H, TE, TAAI, TI, TII"⟩,
  ⟨0x1450, "CANADIAN SYLLABICS ", "TO, TOO, Y-CREE TOO, CARRIER DEE, CARRIER DI, TA, TAA, TWE"⟩,
  ⟨0x1458, "CANADIAN SYLLABICS ", "WEST-CREE TWE, TWI, WEST-CREE TWI, TWII, WEST-CREE TWII, TWO"⟩,
  ⟨0x145E, "CANADIAN SYLLABICS ", "WEST-CREE TWO, TWOO, WEST-CREE TWOO, TWA, WEST-CREE TWA, TWAA"⟩,
  ⟨0x1464, "CANADIAN SYLLABICS ", "WEST-CREE TWAA, NASKAPI TWAA, T, TTE, TTI, TTO, TTA, KE, KAAI"⟩,
  ⟨0x146D, "CANADIAN SYLLABICS ", "KI, KII, KO, KOO, Y-CREE KOO, KA, KAA, KWE, WEST-CREE KWE"⟩,
  ⟨0x1476, "CANADIAN SYLLABICS ", "KWI, WEST-CREE KWI, KWII, WEST-CREE KWII, KWO, WEST-CREE KWO"⟩,
  ⟨0x147C, "CANADIAN SYLLABICS ", "KWOO, WEST-CREE KWOO, KWA, WEST-CREE KWA, KWAA, WEST-CREE KWAA"⟩,
  ⟨0x1482, "CANADIAN SYLLABICS ", "NASKAPI KWAA, K, KW, SOUTH-SLAVEY KEH, SOUTH-SLAVEY KIH"⟩,
  ⟨0x1487, "CANADIAN SYLLABICS ", "SOUTH-SLAVEY KOH, SOUTH-SLAVEY KAH, CE, CAAI, CI, CII, CO, COO"⟩,
  ⟨0x148F, "CANADIAN SYLLABICS ", "Y-CREE COO, CA, CAA, CWE, WEST-CREE CWE, CWI, WEST-CREE CWI"⟩,
  ⟨0x1496, "CANADIAN SYLLABICS ", "CWII, WEST-CREE CWII, CWO, WEST-CREE CWO, CWOO, WEST-CREE CWOO"⟩,
  ⟨0x149C, "CANADIAN SYLLABICS ", "CWA, WEST-CREE CWA, CWAA, WEST-CREE CWAA, NASKAPI CWAA"⟩,
  ⟨0x14A1, "CANADIAN SYLLABICS ", "C, SAYISI TH, ME, MAAI, MI, MII, MO, MOO, Y-CREE MOO, MA, MAA"⟩,
  ⟨0x14AC, "CANADIAN SYLLABICS ", "MWE, WEST-CREE MWE, MWI, WEST-CREE MWI, MWII, WEST-CREE MWII"⟩,
  ⟨0x14B2, "CANADIAN SYLLABICS ", "MWO, WEST-CREE MWO, MWOO, WEST-CREE MWOO, MWA, WEST-CREE MWA"⟩,
  ⟨0x14B8, "CANADIAN SYLLABICS ", "MWAA, WEST-CREE MWAA, NASKAPI MWAA, M, WEST-CREE M"⟩,
  ⟨0x14BD, "CANADIAN SYLLABICS ", "MH, ATHAPASCAN M, SAYISI M, NE, NAAI, NI, NII, NO, NOO"⟩,
  ⟨0x14C6, "CANADIAN SYLLABICS ", "Y-CREE NOO, NA, NAA, NWE, WEST-CREE NWE, NWA, WEST-CREE NWA"⟩,
  ⟨0x14CD, "CANADIAN SYLLABICS ", "NWAA, WEST-CREE NWAA, NASKAPI NWAA, N, CARRIER NG"⟩,
  ⟨0x14D2, "CANADIAN SYLLABICS ", "NH, LE, LAAI, LI, LII, LO, LOO, Y-CREE LOO, LA, LAA"⟩,
  ⟨0x14DC, "CANADIAN SYLLABICS ", "LWE, WEST-CREE LWE, LWI, WEST-CREE LWI, LWII, WEST-CREE LWII"⟩,
  ⟨0x14E2, "CANADIAN SYLLABICS ", "LWO, WEST-CREE LWO, LWOO, WEST-CREE LWOO, LWA, WEST-CREE LWA"⟩,
  ⟨0x14E8, "CANADIAN SYLLABICS ", "LWAA, WEST-CREE LWAA, L, WEST-CREE L, MEDIAL L, SE, SAAI"⟩,
  ⟨0x14EF, "CANADIAN SYLLABICS ", "SI, SII, SO, SOO, Y-CREE SOO, SA, SAA, SWE, WEST-CREE SWE"⟩,
  ⟨0x14F8, "CANADIAN SYLLABICS ", "SWI, WEST-CREE SWI, SWII, WEST-CREE SWII, SWO, WEST-CREE SWO"⟩,
  ⟨0x14FE, "CANADIAN SYLLABICS ", "SWOO, WEST-CREE SWOO, SWA, WEST-CREE SWA, SWAA, WEST-CREE SWAA"⟩,
  ⟨0x1504, "CANADIAN SYLLABICS ", "NASKAPI SWAA, S, ATHAPASCAN S, SW, BLACKFOOT S, MOOSE-CREE SK"⟩,
  ⟨0x150A, "CANADIAN SYLLABICS NASKAPI ", "SKW, S-W, SPWA, STWA"⟩,
  ⟨0x150E, "CANADIAN SYLLABICS ", "NASKAPI SKWA, NASKAPI SCWA, SHE, SHI, SHII, SHO, SHOO"⟩,
  ⟨0x1515, "CANADIAN SYLLABICS ", "SHA, SHAA, SHWE, WEST-CREE SHWE, SHWI, WEST-CREE SHWI, SHWII"⟩,
  ⟨0x151C, "CANADIAN SYLLABICS ", "WEST-CREE SHWII, SHWO, WEST-CREE SHWO, SHWOO, WEST-CREE SHWOO"⟩,
  ⟨0x1521, "CANADIAN SYLLABICS ", "SHWA, WEST-CREE SHWA, SHWAA, WEST-CREE SHWAA, SH, YE, YAAI"⟩,
  ⟨0x1528, "CANADIAN SYLLABICS ", "YI, YII, YO, YOO, Y-CREE YOO, YA, YAA, YWE, WEST-CREE YWE"⟩,
  ⟨0x1531, "CANADIAN SYLLABICS ", "YWI, WEST-CREE YWI, YWII, WEST-CREE YWII, YWO, WEST-CREE YWO"⟩,
  ⟨0x1537, "CANADIAN SYLLABICS ", "YWOO, WEST-CREE YWOO, YWA, WEST-CREE YWA, YWAA, WEST-CREE YWAA"⟩,
  ⟨0x153D, "CANADIAN SYLLABICS ", "NASKAPI YWAA, Y, BIBLE-CREE Y, WEST-CREE Y, SAYISI YI, RE"⟩,
  ⟨0x1543, "CANADIAN SYLLABICS ", "R-CREE RE, WEST-CREE LE, RAAI, RI, RII, RO, ROO, WEST-CREE LO"⟩,
  ⟨0x154B, "CANADIAN SYLLABICS ", "RA, RAA, WEST-CREE LA, RWAA, WEST-CREE RWAA, R, WEST-CREE R"⟩,
  ⟨0x1552, "CANADIAN SYLLABICS ", "MEDIAL R, FE, FAAI, FI, FII, FO, FOO, FA, FAA, FWAA"⟩,
  ⟨0x155C, "CANADIAN SYLLABICS ", "WEST-CREE FWAA, F, THE, N-CREE THE, THI, N-CREE THI, THII"⟩,
  ⟨0x1563, "CANADIAN SYLLABICS ", "N-CREE THII, THO, THOO, THA, THAA, THWAA, WEST-CREE THWAA"⟩,
  ⟨0x156A, "CANADIAN SYLLABICS ", "TH, TTHE, TTHI, TTHO, TTHA, TTH, TYE, TYI, TYO, TYA"⟩,
  ⟨0x1574, "CANADIAN SYLLABICS NUNAVIK ", "HE, HI, HII, HO, HOO, HA"⟩,
  ⟨0x157A, "CANADIAN SYLLABICS ", "NUNAVIK HAA, NUNAVIK H, NUNAVUT H, HK, QAAI, QI, QII, QO, QOO"⟩,
  ⟨0x1583, "CANADIAN SYLLABICS ", "QA, QAA, Q, TLHE, TLHI, TLHO, TLHA, WEST-CREE RE, WEST-CREE RI"⟩,
  ⟨0x158C, "CANADIAN SYLLABICS ", "WEST-CREE RO, WEST-CREE RA, NGAAI, NGI, NGII, NGO, NGOO, NGA"⟩,
  ⟨0x1594, "CANADIAN SYLLABICS ", "NGAA, NG, NNG, SAYISI SHE, SAYISI SHI, SAYISI SHO, SAYISI SHA"⟩,
  ⟨0x159B, "CANADIAN SYLLABICS WOODS-CREE ", "THE, THI, THO, THA"⟩,
  ⟨0x159F, "CANADIAN SYLLABICS ", "WOODS-CREE TH, LHI, LHII, LHO, LHOO, LHA, LHAA, LH"⟩,
  ⟨0x15A7, "CANADIAN SYLLABICS TH-CREE ", "THE, THI, THII, THO, THOO"⟩,
  ⟨0x15AC, "CANADIAN SYLLABICS ", "TH-CREE THA, TH-CREE THAA, TH-CREE TH, AIVILIK B, BLACKFOOT E"⟩,
  ⟨0x15B1, "CANADIAN SYLLABICS BLACKFOOT ", "I, O, A, WE, WI, WO, WA, NE, NI, NO, NA, KE, KI, KO"⟩,
  ⟨0x15BF, "CANADIAN SYLLABICS ", "BLACKFOOT KA, SAYISI HE, SAYISI HI, SAYISI HO, SAYISI HA"⟩,
  ⟨0x15C4, "CANADIAN SYLLABICS CARRIER ", "GHU, GHO, GHE, GHEE, GHI, GHA, RU, RO, RE, REE"⟩,
  ⟨0x15CE, "CANADIAN SYLLABICS CARRIER ", "RI, RA, WU, WO, WE, WEE, WI, WA, HWU, HWO, HWE, HWEE"⟩,
  ⟨0x15DA, "CANADIAN SYLLABICS CARRIER ", "HWI, HWA, THU, THO, THE, THEE, THI, THA, TTU, TTO, TTE"⟩,
  ⟨0x15E5, "CANADIAN SYLLABICS CARRIER ", "TTEE, TTI, TTA, PU, PO, PE, PEE, PI, PA, P, GU, GO"⟩,
  ⟨0x15F1, "CANADIAN SYLLABICS CARRIER ", "GE, GEE, GI, GA, KHU, KHO, KHE, KHEE, KHI, KHA, KKU"⟩,
  ⟨0x15FC, "CANADIAN SYLLABICS CARRIER ", "KKO, KKE, KKEE, KKI, KKA, KK, NU, NO, NE, NEE, NI, NA"⟩,
  ⟨0x1608, "CANADIAN SYLLABICS CARRIER ", "MU, MO, ME, MEE, MI, MA, YU, YO, YE, YEE, YI, YA, JU"⟩,
  ⟨0x1615, "CANADIAN SYLLABICS ", "SAYISI JU, CARRIER JO, CARRIER JE, CARRIER JEE, CARRIER JI"⟩,
  ⟨0x161A, "CANADIAN SYLLABICS ", "SAYISI JI, CARRIER JA, CARRIER JJU, CARRIER JJO, CARRIER JJE"⟩,
  ⟨0x161F, "CANADIAN SYLLABICS CARRIER ", "JJEE, JJI, JJA, LU, LO, LE, LEE, LI, LA, DLU, DLO, DLE"⟩,
  ⟨0x162B, "CANADIAN SYLLABICS CARRIER ", "DLEE, DLI, DLA, LHU, LHO, LHE, LHEE, LHI, LHA, TLHU"⟩,
  ⟨0x1635, "CANADIAN SYLLABICS CARRIER ", "TLHO, TLHE, TLHEE, TLHI, TLHA, TLU, TLO, TLE, TLEE"⟩,
  ⟨0x163E, "CANADIAN SYLLABICS CARRIER ", "TLI, TLA, ZU, ZO, ZE, ZEE, ZI, ZA, Z, INITIAL Z, DZU"⟩,
  ⟨0x1649, "CANADIAN SYLLABICS CARRIER ", "DZO, DZE, DZEE, DZI, DZA, SU, SO, SE, SEE, SI, SA, SHU"⟩,
  ⟨0x1655, "CANADIAN SYLLABICS CARRIER ", "SHO, SHE, SHEE, SHI, SHA, SH, TSU, TSO, TSE, TSEE, TSI"⟩,
  ⟨0x1660, "CANADIAN SYLLABICS CARRIER ", "TSA, CHU, CHO, CHE, CHEE, CHI, CHA, TTSU, TTSO, TTSE"⟩,
  ⟨0x166A, "CANADIAN SYLLABICS ", "CARRIER TTSEE, CARRIER TTSI, CARRIER TTSA, CHI SIGN"⟩,
  ⟨0x166E, "CANADIAN SYLLABICS ", "FULL STOP, QAI, NGAI, NNGI, NNGII, NNGO, NNGOO, NNGA, NNGAA"⟩,
  ⟨0x1677, "CANADIAN SYLLABICS WOODS-CREE ", "THWEE, THWI, THWII, THWO, THWOO, THWA"⟩,
  ⟨0x167D, "CANADIAN SYLLABICS ", "WOODS-CREE THWAA, WOODS-CREE FINAL TH, BLACKFOOT W"⟩,
  ⟨0x1680, "OGHAM ", "SPACE MARK, LETTER BEITH, LETTER LUIS, LETTER FEARN, LETTER SAIL"⟩,
  ⟨0x1685, "OGHAM LETTER ", "NION, UATH, DAIR, TINNE, COLL, CEIRT, MUIN, GORT, NGEADAL, STRAIF"⟩,
  ⟨0x168F, "OGHAM LETTER ", "RUIS, AILM, ONN, UR, EADHADH, IODHADH, EABHADH, OR, UILLEANN, IFIN"⟩,
  ⟨0x1699, "OGHAM ", "LETTER EAMHANCHOLL, LETTER PEITH, FEATHER MARK, REVERSED FEATHER MARK"⟩,
  ⟨0x16A0, "RUNIC LETTER ", "FEHU FEOH FE F, V, URUZ UR U, YR, Y, W, THURISAZ THURS THORN"⟩,
  ⟨0x16A7, "RUNIC LETTER ", "ETH, ANSUZ A, OS O, AC A, AESC, LONG-BRANCH-OSS O"⟩,
  ⟨0x16AD, "RUNIC LETTER ", "SHORT-TWIG-OSS O, O, OE, ON, RAIDO RAD REID R, KAUNA, CEN"⟩,
  ⟨0x16B4, "RUNIC LETTER ", "KAUN K, G, ENG, GEBO GYFU G, GAR, WUNJO WYNN W, HAGLAZ H, HAEGL H"⟩,
  ⟨0x16BC, "RUNIC LETTER ", "LONG-BRANCH-HAGALL H, SHORT-TWIG-HAGALL H, NAUDIZ NYD NAUD N"⟩,
  ⟨0x16BF, "RUNIC LETTER ", "SHORT-TWIG-NAUD N, DOTTED-N, ISAZ IS ISS I, E, JERAN J"⟩,
  ⟨0x16C4, "RUNIC LETTER ", "GER, LONG-BRANCH-AR AE, SHORT-TWIG-AR A, IWAZ EOH, PERTHO PEORTH P"⟩,
  ⟨0x16C9, "RUNIC LETTER ", "ALGIZ EOLHX, SOWILO S, SIGEL LONG-BRANCH-SOL S, SHORT-TWIG-SOL S"⟩,
  ⟨0x16CD, "RUNIC LETTER ", "C, Z, TIWAZ TIR TYR T, SHORT-TWIG-TYR T, D, BERKANAN BEORC BJARKAN B"⟩,
  ⟨0x16D3, "RUNIC LETTER ", "SHORT-TWIG-BJARKAN B, DOTTED-P, OPEN-P, EHWAZ EH E, MANNAZ MAN M"⟩,
  ⟨0x16D8, "RUNIC LETTER ", "LONG-BRANCH-MADR M, SHORT-TWIG-MADR M, LAUKAZ LAGU LOGR L, DOTTED-L"⟩,
  ⟨0x16DC, "RUNIC LETTER ", "INGWAZ, ING, DAGAZ DAEG D, OTHALAN ETHEL O, EAR, IOR, CWEORTH"⟩,
  ⟨0x16E3, "RUNIC LETTER ", "CALC, CEALC, STAN, LONG-BRANCH-YR, SHORT-TWIG-YR, ICELANDIC-YR, Q, X"⟩,
  ⟨0x16EB, "RUNIC ", "SINGLE PUNCTUATION, MULTIPLE PUNCTUATION, CROSS PUNCTUATION, ARLAUG SYMBOL"⟩,
  ⟨0x16EF, "RUNIC ", "TVIMADUR SYMBOL, BELGTHOR SYMBOL, LETTER K, LETTER SH, LETTER OO"⟩,
  ⟨0x16F4, "RUNIC LETTER FRANKS CASKET ", "OS, IS, EH, AC, AESC"⟩,
  ⟨0x18B0, "CANADIAN SYLLABICS ", "OY, AY, AAY, WAY, POY, PAY, PWOY, TAY"⟩,
  ⟨0x18B8, "CANADIAN SYLLABICS ", "KAY, KWAY, MAY, NOY, NAY, LAY, SOY, SAY, SHOY, SHAY, SHWOY"⟩,
  ⟨0x18C3, "CANADIAN SYLLABICS ", "YOY, YAY, RAY, NWI, OJIBWAY NWI, NWII, OJIBWAY NWII, NWO"⟩,
  ⟨0x18CB, "CANADIAN SYLLABICS ", "OJIBWAY NWO, NWOO, OJIBWAY NWOO, RWEE, RWI, RWII, RWO, RWOO"⟩,
  ⟨0x18D3, "CANADIAN SYLLABICS ", "RWA, OJIBWAY P, OJIBWAY T, OJIBWAY K, OJIBWAY C, OJIBWAY M"⟩,
  ⟨0x18D9, "CANADIAN SYLLABICS ", "OJIBWAY N, OJIBWAY S, OJIBWAY SH, EASTERN W, WESTERN W"⟩,
  ⟨0x18DE, "CANADIAN SYLLABICS ", "FINAL SMALL RING, FINAL RAISED DOT, R-CREE RWE, WEST-CREE LOO"⟩,
  ⟨0x18E2, "CANADIAN SYLLABICS ", "WEST-CREE LAA, THWE, THWA, TTHWE, TTHOO, TTHAA, TLHWE"⟩,
  ⟨0x18E9, "CANADIAN SYLLABICS ", "TLHOO, SAYISI SHWE, SAYISI SHOO, SAYISI HOO, CARRIER GWU"⟩,
  ⟨0x18EE, "CANADIAN SYLLABICS ", "CARRIER DENE GEE, CARRIER GAA, CARRIER GWA, SAYISI JUU"⟩,
  ⟨0x18F2, "CANADIAN SYLLABICS ", "CARRIER JWA, BEAVER DENE L, BEAVER DENE R, CARRIER DENTAL S"⟩,
  ⟨0xAB70, "CHEROKEE SMALL LETTER ", "A, E, I, O, U, V, GA, KA, GE, GI, GO"⟩,
  ⟨0xAB7B, "CHEROKEE SMALL LETTER ", "GU, GV, HA, HE, HI, HO, HU, HV, LA, LE, LI, LO, LU, LV, MA"⟩,
  ⟨0xAB8A, "CHEROKEE SMALL LETTER ", "ME, MI, MO, MU, NA, HNA, NAH, NE, NI, NO, NU, NV, QUA, QUE"⟩,
  ⟨0xAB98, "CHEROKEE SMALL LETTER ", "QUI, QUO, QUU, QUV, SA, S, SE, SI, SO, SU, SV, DA, TA, DE"⟩,
  ⟨0xABA6, "CHEROKEE SMALL LETTER ", "TE, DI, TI, DO, DU, DV, DLA, TLA, TLE, TLI, TLO, TLU, TLV"⟩,
  ⟨0xABB3, "CHEROKEE SMALL LETTER ", "TSA, TSE, TSI, TSO, TSU, TSV, WA, WE, WI, WO, WU, WV, YA"⟩]

end BatchExec
