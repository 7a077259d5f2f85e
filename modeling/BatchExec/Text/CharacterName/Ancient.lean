import BatchExec.Text.CharacterName.Row

/-!
# Ancient scripts

The names of the letters of the ancient Mediterranean and Near East.
-/

namespace BatchExec

/-- The names of the letters of the ancient Mediterranean and Near East. -/
def ancientNames : List NameRow := [
  ⟨0x10000, "LINEAR B SYLLABLE ", "B008 A, B038 E, B028 I, B061 O, B010 U"⟩,
  ⟨0x10005, "LINEAR B SYLLABLE ", "B001 DA, B045 DE, B007 DI, B014 DO, B051 DU, B057 JA, B046 JE"⟩,
  ⟨0x1000D, "LINEAR B SYLLABLE ", "B036 JO, B065 JU, B077 KA, B044 KE, B067 KI"⟩,
  ⟨0x10012, "LINEAR B SYLLABLE ", "B070 KO, B081 KU, B080 MA, B013 ME, B073 MI, B015 MO, B023 MU"⟩,
  ⟨0x10019, "LINEAR B SYLLABLE ", "B006 NA, B024 NE, B030 NI, B052 NO, B055 NU, B003 PA, B072 PE"⟩,
  ⟨0x10020, "LINEAR B SYLLABLE ", "B039 PI, B011 PO, B050 PU, B016 QA, B078 QE, B021 QI, B032 QO"⟩,
  ⟨0x10028, "LINEAR B SYLLABLE ", "B060 RA, B027 RE, B053 RI, B002 RO, B026 RU"⟩,
  ⟨0x1002D, "LINEAR B SYLLABLE ", "B031 SA, B009 SE, B041 SI, B012 SO, B058 SU, B059 TA, B004 TE"⟩,
  ⟨0x10034, "LINEAR B SYLLABLE ", "B037 TI, B005 TO, B069 TU, B054 WA, B075 WE, B040 WI, B042 WO"⟩,
  ⟨0x1003C, "LINEAR B SYLLABLE ", "B017 ZA, B074 ZE"⟩,
  ⟨0x1003F, "LINEAR B SYLLABLE ", "B020 ZO, B025 A2, B043 A3"⟩,
  ⟨0x10042, "LINEAR B SYLLABLE ", "B085 AU, B071 DWE, B090 DWO, B048 NWA, B029 PU2, B062 PTE"⟩,
  ⟨0x10048, "LINEAR B SYLLABLE ", "B076 RA2, B033 RA3, B068 RO2, B066 TA2, B087 TWE, B091 TWO"⟩,
  ⟨0x10050, "LINEAR B SYMBOL ", "B018, B019, B022"⟩,
  ⟨0x10053, "LINEAR B SYMBOL ", "B034, B047, B049, B056, B063, B064, B079, B082, B083, B086, B089"⟩,
  ⟨0x10080, "LINEAR B IDEOGRAM ", "B100 MAN, B102 WOMAN, B104 DEER, B105 EQUID, B105F MARE"⟩,
  ⟨0x10085, "LINEAR B IDEOGRAM ", "B105M STALLION, B106F EWE, B106M RAM, B107F SHE-GOAT"⟩,
  ⟨0x10089, "LINEAR B IDEOGRAM ", "B107M HE-GOAT, B108F SOW, B108M BOAR, B109F COW"⟩,
  ⟨0x1008D, "LINEAR B IDEOGRAM ", "B109M BULL, B120 WHEAT, B121 BARLEY, B122 OLIVE, B123 SPICE"⟩,
  ⟨0x10092, "LINEAR B ", "IDEOGRAM B125 CYPERUS, MONOGRAM B127 KAPO, MONOGRAM B128 KANAKO"⟩,
  ⟨0x10095, "LINEAR B IDEOGRAM ", "B130 OIL, B131 WINE, B132"⟩,
  ⟨0x10098, "LINEAR B ", "MONOGRAM B133 AREPA, MONOGRAM B135 MERI, IDEOGRAM B140 BRONZE"⟩,
  ⟨0x1009B, "LINEAR B IDEOGRAM ", "B141 GOLD, B142, B145 WOOL, B146, B150, B151 HORN, B152"⟩,
  ⟨0x100A2, "LINEAR B ", "IDEOGRAM B153, IDEOGRAM B154, MONOGRAM B156 TURO2, IDEOGRAM B157"⟩,
  ⟨0x100A6, "LINEAR B IDEOGRAM ", "B158, B159 CLOTH, B160, B161, B162 GARMENT, B163 ARMOUR, B164"⟩,
  ⟨0x100AD, "LINEAR B IDEOGRAM ", "B165, B166, B167, B168, B169, B170, B171, B172, B173 MONTH"⟩,
  ⟨0x100B6, "LINEAR B IDEOGRAM ", "B174, B176 TREE, B177, B178, B179, B180, B181, B182"⟩,
  ⟨0x100BE, "LINEAR B IDEOGRAM ", "B183, B184, B185, B189, B190, B191 HELMET, B220 FOOTSTOOL"⟩,
  ⟨0x100C5, "LINEAR B IDEOGRAM ", "B225 BATHTUB, B230 SPEAR, B231 ARROW, B232, B233 SWORD, B234"⟩,
  ⟨0x100CB, "LINEAR B IDEOGRAM ", "B236, B240 WHEELED CHARIOT, B241 CHARIOT, B242 CHARIOT FRAME"⟩,
  ⟨0x100CF, "LINEAR B ", "IDEOGRAM B243 WHEEL, IDEOGRAM B245, IDEOGRAM B246, MONOGRAM B247 DIPTE"⟩,
  ⟨0x100D3, "LINEAR B IDEOGRAM ", "B248, B249, B251, B252, B253, B254 DART"⟩,
  ⟨0x100D9, "LINEAR B IDEOGRAM ", "B255, B256, B257, B258, B259, VESSEL B155, VESSEL B200"⟩,
  ⟨0x100E0, "LINEAR B IDEOGRAM VESSEL ", "B201, B202, B203, B204, B205, B206, B207, B208, B209"⟩,
  ⟨0x100E9, "LINEAR B IDEOGRAM VESSEL ", "B210, B211, B212, B213, B214, B215, B216, B217, B218"⟩,
  ⟨0x100F2, "LINEAR B IDEOGRAM VESSEL ", "B219, B221, B222, B226, B227, B228, B229, B250, B305"⟩,
  ⟨0x10100, "AEGEAN ", "WORD SEPARATOR LINE, WORD SEPARATOR DOT, CHECK MARK"⟩,
  ⟨0x10107, "AEGEAN NUMBER ", "ONE, TWO, THREE, FOUR, FIVE"⟩,
  ⟨0x1010C, "AEGEAN NUMBER ", "SIX, SEVEN, EIGHT, NINE, TEN, TWENTY, THIRTY, FORTY, FIFTY, SIXTY"⟩,
  ⟨0x10116, "AEGEAN NUMBER ", "SEVENTY, EIGHTY, NINETY, ONE HUNDRED, TWO HUNDRED, THREE HUNDRED"⟩,
  ⟨0x1011C, "AEGEAN NUMBER ", "FOUR HUNDRED, FIVE HUNDRED, SIX HUNDRED, SEVEN HUNDRED"⟩,
  ⟨0x10120, "AEGEAN NUMBER ", "EIGHT HUNDRED, NINE HUNDRED, ONE THOUSAND, TWO THOUSAND"⟩,
  ⟨0x10124, "AEGEAN NUMBER ", "THREE THOUSAND, FOUR THOUSAND, FIVE THOUSAND, SIX THOUSAND"⟩,
  ⟨0x10128, "AEGEAN NUMBER ", "SEVEN THOUSAND, EIGHT THOUSAND, NINE THOUSAND, TEN THOUSAND"⟩,
  ⟨0x1012C, "AEGEAN NUMBER ", "TWENTY THOUSAND, THIRTY THOUSAND, FORTY THOUSAND, FIFTY THOUSAND"⟩,
  ⟨0x10130, "AEGEAN NUMBER ", "SIXTY THOUSAND, SEVENTY THOUSAND, EIGHTY THOUSAND, NINETY THOUSAND"⟩,
  ⟨0x10137, "AEGEAN WEIGHT ", "BASE UNIT, FIRST SUBUNIT, SECOND SUBUNIT"⟩,
  ⟨0x1013A, "AEGEAN ", "WEIGHT THIRD SUBUNIT, WEIGHT FOURTH SUBUNIT, DRY MEASURE FIRST SUBUNIT"⟩,
  ⟨0x1013D, "AEGEAN ", "LIQUID MEASURE FIRST SUBUNIT, MEASURE SECOND SUBUNIT"⟩,
  ⟨0x1013F, "", "AEGEAN MEASURE THIRD SUBUNIT, GREEK ACROPHONIC ATTIC ONE QUARTER"⟩,
  ⟨0x10141, "GREEK ACROPHONIC ATTIC ", "ONE HALF, ONE DRACHMA, FIVE, FIFTY, FIVE HUNDRED"⟩,
  ⟨0x10146, "GREEK ACROPHONIC ATTIC ", "FIVE THOUSAND, FIFTY THOUSAND, FIVE TALENTS, TEN TALENTS"⟩,
  ⟨0x1014A, "GREEK ACROPHONIC ATTIC ", "FIFTY TALENTS, ONE HUNDRED TALENTS, FIVE HUNDRED TALENTS"⟩,
  ⟨0x1014D, "GREEK ACROPHONIC ATTIC ", "ONE THOUSAND TALENTS, FIVE THOUSAND TALENTS, FIVE STATERS"⟩,
  ⟨0x10150, "GREEK ACROPHONIC ATTIC ", "TEN STATERS, FIFTY STATERS, ONE HUNDRED STATERS"⟩,
  ⟨0x10153, "GREEK ACROPHONIC ATTIC ", "FIVE HUNDRED STATERS, ONE THOUSAND STATERS"⟩,
  ⟨0x10155, "GREEK ACROPHONIC ATTIC ", "TEN THOUSAND STATERS, FIFTY THOUSAND STATERS"⟩,
  ⟨0x10157, "GREEK ACROPHONIC ", "ATTIC TEN MNAS, HERAEUM ONE PLETHRON"⟩,
  ⟨0x10159, "GREEK ACROPHONIC ", "THESPIAN ONE, HERMIONIAN ONE, EPIDAUREAN TWO, THESPIAN TWO"⟩,
  ⟨0x1015D, "GREEK ACROPHONIC ", "CYRENAIC TWO DRACHMAS, EPIDAUREAN TWO DRACHMAS, TROEZENIAN FIVE"⟩,
  ⟨0x10160, "GREEK ACROPHONIC ", "TROEZENIAN TEN, TROEZENIAN TEN ALTERNATE FORM, HERMIONIAN TEN"⟩,
  ⟨0x10163, "GREEK ACROPHONIC ", "MESSENIAN TEN, THESPIAN TEN, THESPIAN THIRTY, TROEZENIAN FIFTY"⟩,
  ⟨0x10167, "GREEK ACROPHONIC ", "TROEZENIAN FIFTY ALTERNATE FORM, HERMIONIAN FIFTY"⟩,
  ⟨0x10169, "GREEK ACROPHONIC THESPIAN ", "FIFTY, ONE HUNDRED, THREE HUNDRED"⟩,
  ⟨0x1016C, "GREEK ACROPHONIC ", "EPIDAUREAN FIVE HUNDRED, TROEZENIAN FIVE HUNDRED"⟩,
  ⟨0x1016E, "GREEK ACROPHONIC ", "THESPIAN FIVE HUNDRED, CARYSTIAN FIVE HUNDRED"⟩,
  ⟨0x10170, "GREEK ACROPHONIC ", "NAXIAN FIVE HUNDRED, THESPIAN ONE THOUSAND"⟩,
  ⟨0x10172, "GREEK ACROPHONIC ", "THESPIAN FIVE THOUSAND, DELPHIC FIVE MNAS, STRATIAN FIFTY MNAS"⟩,
  ⟨0x10175, "GREEK ", "ONE HALF SIGN, ONE HALF SIGN ALTERNATE FORM, TWO THIRDS SIGN"⟩,
  ⟨0x10178, "GREEK ", "THREE QUARTERS SIGN, YEAR SIGN, TALENT SIGN, DRACHMA SIGN, OBOL SIGN"⟩,
  ⟨0x1017D, "GREEK ", "TWO OBOLS SIGN, THREE OBOLS SIGN, FOUR OBOLS SIGN, FIVE OBOLS SIGN"⟩,
  ⟨0x10181, "GREEK ", "METRETES SIGN, KYATHOS BASE SIGN, LITRA SIGN, OUNKIA SIGN, XESTES SIGN"⟩,
  ⟨0x10186, "GREEK ", "ARTABE SIGN, AROURA SIGN, GRAMMA SIGN, TRYBLION BASE SIGN, ZERO SIGN"⟩,
  ⟨0x1018B, "", "GREEK ONE QUARTER SIGN, GREEK SINUSOID SIGN, GREEK INDICTION SIGN, NOMISMA SIGN"⟩,
  ⟨0x10190, "", "ROMAN SEXTANS SIGN"⟩,
  ⟨0x10191, "ROMAN ", "UNCIA SIGN, SEMUNCIA SIGN, SEXTULA SIGN, DIMIDIA SEXTULA SIGN"⟩,
  ⟨0x10195, "ROMAN ", "SILIQUA SIGN, DENARIUS SIGN, QUINARIUS SIGN, SESTERTIUS SIGN"⟩,
  ⟨0x10199, "", "ROMAN DUPONDIUS SIGN, ROMAN AS SIGN, ROMAN CENTURIAL SIGN, ASCIA SYMBOL"⟩,
  ⟨0x101A0, "", "GREEK SYMBOL TAU RHO"⟩,
  ⟨0x101D0, "PHAISTOS DISC SIGN ", "PEDESTRIAN, PLUMED HEAD, TATTOOED HEAD, CAPTIVE"⟩,
  ⟨0x101D4, "PHAISTOS DISC SIGN ", "CHILD, WOMAN, HELMET, GAUNTLET, TIARA, ARROW, BOW, SHIELD"⟩,
  ⟨0x101DC, "PHAISTOS DISC SIGN ", "CLUB, MANACLES, MATTOCK, SAW, LID, BOOMERANG, CARPENTRY PLANE"⟩,
  ⟨0x101E3, "PHAISTOS DISC SIGN ", "DOLIUM, COMB, SLING, COLUMN, BEEHIVE, SHIP, HORN, HIDE"⟩,
  ⟨0x101EB, "PHAISTOS DISC SIGN ", "BULLS LEG, CAT, RAM, EAGLE, DOVE, TUNNY, BEE, PLANE TREE"⟩,
  ⟨0x101F3, "PHAISTOS DISC SIGN ", "VINE, PAPYRUS, ROSETTE, LILY, OX BACK, FLUTE, GRATER"⟩,
  ⟨0x101FA, "PHAISTOS DISC SIGN ", "STRAINER, SMALL AXE, WAVY BAND, COMBINING OBLIQUE STROKE"⟩,
  ⟨0x10280, "LYCIAN LETTER ", "A, E, B, BH, G, D, I, W, Z"⟩,
  ⟨0x10289, "LYCIAN LETTER ", "TH, J, K, Q, L, M, N, MM, NN, U, P, KK, R, S, T, TT, AN, EN, H, X"⟩,
  ⟨0x102A0, "CARIAN LETTER ", "A, P2, D, L, UUU, R, LD, A2, Q, B, M, O, D2, T, SH, SH2, S, C-18"⟩,
  ⟨0x102B2, "CARIAN LETTER ", "U, NN, X, N, TT2, P, SS, I, E, UUUU, K, K2, ND, UU, G, G2, ST"⟩,
  ⟨0x102C3, "CARIAN LETTER ", "ST2, NG, II, C-39, TT, UUU2, RR, MB, MB2, MB3, MB4, LD2, E2, UUU3"⟩,
  ⟨0x102E0, "", "COPTIC EPACT THOUSANDS MARK"⟩,
  ⟨0x102E1, "COPTIC EPACT DIGIT ", "ONE, TWO, THREE, FOUR, FIVE, SIX, SEVEN"⟩,
  ⟨0x102E8, "COPTIC EPACT ", "DIGIT EIGHT, DIGIT NINE, NUMBER TEN, NUMBER TWENTY, NUMBER THIRTY"⟩,
  ⟨0x102ED, "COPTIC EPACT NUMBER ", "FORTY, FIFTY, SIXTY, SEVENTY, EIGHTY, NINETY, ONE HUNDRED"⟩,
  ⟨0x102F4, "COPTIC EPACT NUMBER ", "TWO HUNDRED, THREE HUNDRED, FOUR HUNDRED, FIVE HUNDRED"⟩,
  ⟨0x102F8, "COPTIC EPACT NUMBER ", "SIX HUNDRED, SEVEN HUNDRED, EIGHT HUNDRED, NINE HUNDRED"⟩,
  ⟨0x10300, "", "OLD ITALIC LETTER A"⟩,
  ⟨0x10301, "OLD ITALIC LETTER ", "BE, KE, DE, E, VE, ZE, HE, THE, I, KA, EL, EM, EN, ESH, O, PE"⟩,
  ⟨0x10311, "OLD ITALIC LETTER ", "SHE, KU, ER, ES, TE, U, EKS, PHE, KHE, EF, ERS, CHE, II, UU"⟩,
  ⟨0x1031F, "OLD ITALIC ", "LETTER ESS, NUMERAL ONE, NUMERAL FIVE, NUMERAL TEN, NUMERAL FIFTY"⟩,
  ⟨0x1032D, "OLD ITALIC LETTER ", "YE, NORTHERN TSE"⟩,
  ⟨0x1032F, "", "OLD ITALIC LETTER SOUTHERN TSE, GOTHIC LETTER AHSA"⟩,
  ⟨0x10331, "GOTHIC LETTER ", "BAIRKAN, GIBA, DAGS, AIHVUS, QAIRTHRA, IUJA, HAGL, THIUTH, EIS"⟩,
  ⟨0x1033A, "GOTHIC LETTER ", "KUSMA, LAGUS, MANNA, NAUTHS, JER, URUS, PAIRTHRA, NINETY, RAIDA"⟩,
  ⟨0x10343, "GOTHIC LETTER ", "SAUIL, TEIWS, WINJA, FAIHU, IGGWS, HWAIR, OTHAL, NINE HUNDRED"⟩,
  ⟨0x10350, "OLD PERMIC LETTER ", "AN, BUR, GAI"⟩,
  ⟨0x10353, "OLD PERMIC LETTER ", "DOI, E, ZHOI, DZHOI, ZATA, DZITA, I, KOKE, LEI, MENOE, NENOE"⟩,
  ⟨0x1035E, "OLD PERMIC LETTER ", "VOOI, PEEI, REI, SII, TAI, U, CHERY, SHOOI, SHCHOOI, YRY"⟩,
  ⟨0x10368, "OLD PERMIC LETTER ", "YERU, O, OO, EF, HA, TSIU, VER, YER, YERI, YAT, IE, YU, YA, IA"⟩,
  ⟨0x10376, "COMBINING OLD PERMIC LETTER ", "AN, DOI, ZATA, NENOE, SII"⟩,
  ⟨0x10380, "UGARITIC LETTER ", "ALPA, BETA, GAMLA, KHA, DELTA, HO"⟩,
  ⟨0x10386, "UGARITIC LETTER ", "WO, ZETA, HOTA, TET, YOD, KAF, SHIN, LAMDA, MEM, DHAL, NUN, ZU"⟩,
  ⟨0x10392, "UGARITIC LETTER ", "SAMKA, AIN, PU, SADE, QOPA, RASHA, THANNA, GHAIN, TO, I, U, SSU"⟩,
  ⟨0x1039F, "", "UGARITIC WORD DIVIDER"⟩,
  ⟨0x103A0, "OLD PERSIAN SIGN ", "A, I, U, KA, KU"⟩,
  ⟨0x103A5, "OLD PERSIAN SIGN ", "GA, GU, XA, CA, JA, JI, TA, TU, DA, DI, DU, THA, PA, BA, FA, NA"⟩,
  ⟨0x103B5, "OLD PERSIAN SIGN ", "NU, MA, MI, MU, YA, VA, VI, RA, RU, LA, SA, ZA, SHA, SSA, HA"⟩,
  ⟨0x103C8, "OLD PERSIAN SIGN ", "AURAMAZDAA, AURAMAZDAA-2, AURAMAZDAAHA, XSHAAYATHIYA, DAHYAAUSH"⟩,
  ⟨0x103CD, "OLD PERSIAN ", "SIGN DAHYAAUSH-2, SIGN BAGA, SIGN BUUMISH, WORD DIVIDER"⟩,
  ⟨0x103D1, "OLD PERSIAN NUMBER ", "ONE, TWO, TEN, TWENTY, HUNDRED"⟩,
  ⟨0x10400, "DESERET CAPITAL LETTER LONG ", "I, E"⟩,
  ⟨0x10402, "DESERET CAPITAL LETTER ", "LONG A, LONG AH, LONG O, LONG OO, SHORT I, SHORT E"⟩,
  ⟨0x10408, "DESERET CAPITAL LETTER ", "SHORT A, SHORT AH, SHORT O, SHORT OO, AY, OW, WU, YEE"⟩,
  ⟨0x10410, "DESERET CAPITAL LETTER ", "H, PEE, BEE, TEE, DEE, CHEE, JEE, KAY, GAY, EF, VEE, ETH"⟩,
  ⟨0x1041C, "DESERET CAPITAL LETTER ", "THEE, ES, ZEE, ESH, ZHEE, ER, EL, EM, EN, ENG, OI, EW"⟩,
  ⟨0x10428, "DESERET SMALL LETTER ", "LONG I, LONG E, LONG A, LONG AH, LONG O, LONG OO, SHORT I"⟩,
  ⟨0x1042F, "DESERET SMALL LETTER ", "SHORT E, SHORT A, SHORT AH, SHORT O, SHORT OO, AY, OW, WU"⟩,
  ⟨0x10437, "DESERET SMALL LETTER ", "YEE, H, PEE, BEE, TEE, DEE, CHEE, JEE, KAY, GAY, EF, VEE"⟩,
  ⟨0x10443, "DESERET SMALL LETTER ", "ETH, THEE, ES, ZEE, ESH, ZHEE, ER, EL, EM, EN, ENG, OI, EW"⟩,
  ⟨0x10450, "SHAVIAN LETTER ", "PEEP, TOT, KICK, FEE, THIGH, SO, SURE, CHURCH, YEA"⟩,
  ⟨0x10459, "SHAVIAN LETTER ", "HUNG, BIB, DEAD, GAG, VOW, THEY, ZOO, MEASURE, JUDGE, WOE, HA-HA"⟩,
  ⟨0x10464, "SHAVIAN LETTER ", "LOLL, MIME, IF, EGG, ASH, ADO, ON, WOOL, OUT, AH, ROAR, NUN"⟩,
  ⟨0x10470, "SHAVIAN LETTER ", "EAT, AGE, ICE, UP, OAK, OOZE, OIL, AWE, ARE, OR, AIR, ERR, ARRAY"⟩,
  ⟨0x1047D, "", "SHAVIAN LETTER EAR, SHAVIAN LETTER IAN, SHAVIAN LETTER YEW, OSMANYA LETTER ALEF"⟩,
  ⟨0x10481, "OSMANYA LETTER ", "BA, TA, JA, XA, KHA, DEEL, RA, SA, SHIIN, DHA, CAYN, GA, FA, QAAF"⟩,
  ⟨0x1048F, "OSMANYA LETTER ", "KAAF, LAAN, MIIN, NUUN, WAW, HA, YA, A, E, I, O, U, AA, EE, OO"⟩,
  ⟨0x104A0, "OSMANYA DIGIT ", "ZERO, ONE, TWO, THREE, FOUR, FIVE, SIX, SEVEN, EIGHT, NINE"⟩,
  ⟨0x104B0, "OSAGE CAPITAL LETTER ", "A, AI, AIN, AH, BRA, CHA, EHCHA, E, EIN, HA, HYA"⟩,
  ⟨0x104BB, "OSAGE CAPITAL LETTER ", "I, KA, EHKA, KYA, LA, MA, NA, O, OIN, PA, EHPA, SA, SHA"⟩,
  ⟨0x104C8, "OSAGE CAPITAL LETTER ", "TA, EHTA, TSA, EHTSA, TSHA, DHA, U, WA, KHA, GHA, ZA, ZHA"⟩,
  ⟨0x104D8, "OSAGE SMALL LETTER ", "A, AI, AIN, AH, BRA, CHA, EHCHA, E, EIN, HA"⟩,
  ⟨0x104E2, "OSAGE SMALL LETTER ", "HYA, I, KA, EHKA, KYA, LA, MA, NA, O, OIN, PA, EHPA, SA, SHA"⟩,
  ⟨0x104F0, "OSAGE SMALL LETTER ", "TA, EHTA, TSA, EHTSA, TSHA, DHA, U, WA, KHA, GHA, ZA, ZHA"⟩,
  ⟨0x10500, "ELBASAN LETTER ", "A, BE, CE, CHE, DE, NDE, DHE, EI, E, FE"⟩,
  ⟨0x1050A, "ELBASAN LETTER ", "GE, GJE, HE, I, JE, KE, LE, LLE, ME, NE, NA, NJE, O, PE, QE, RE"⟩,
  ⟨0x1051A, "ELBASAN LETTER ", "RRE, SE, SHE, TE, THE, U, VE, XE, Y, ZE, ZHE, GHE, GHAMMA, KHE"⟩,
  ⟨0x10530, "CAUCASIAN ALBANIAN LETTER ", "ALT, BET, GIM"⟩,
  ⟨0x10533, "CAUCASIAN ALBANIAN LETTER ", "DAT, EB, ZARL, EYN, ZHIL, TAS, CHA, YOWD, ZHA, IRB"⟩,
  ⟨0x1053D, "CAUCASIAN ALBANIAN LETTER ", "SHA, LAN, INYA, XEYN, DYAN, CAR, JHOX, KAR, LYIT, HEYT"⟩,
  ⟨0x10547, "CAUCASIAN ALBANIAN LETTER ", "QAY, AOR, CHOY, CHI, CYAY, MAQ, QAR, NOWC, DZYAY, SHAK"⟩,
  ⟨0x10551, "CAUCASIAN ALBANIAN LETTER ", "JAYN, ON, TYAY, FAM, DZAY, CHAT, PEN, GHEYS, RAT, SEYK"⟩,
  ⟨0x1055B, "CAUCASIAN ALBANIAN LETTER ", "VEYZ, TIWR, SHOY, IWN, CYAW, CAYN, YAYD, PIWR, KIW"⟩,
  ⟨0x1056F, "", "CAUCASIAN ALBANIAN CITATION MARK"⟩,
  ⟨0x10570, "VITHKUQI CAPITAL LETTER ", "A, BBE, BE, CE, CHE, DE, DHE, EI, E, FE, GA"⟩,
  ⟨0x1057C, "", "VITHKUQI CAPITAL LETTER HA"⟩,
  ⟨0x1057D, "VITHKUQI CAPITAL LETTER ", "HHA, I, IJE, JE, KA, LA, LLA, ME, NE, NJE, O, PE, QA, RE"⟩,
  ⟨0x1058C, "VITHKUQI CAPITAL LETTER ", "SE, SHE, TE, THE, U, VE, XE"⟩,
  ⟨0x10594, "VITHKUQI CAPITAL LETTER ", "Y, ZE"⟩,
  ⟨0x10597, "VITHKUQI SMALL LETTER ", "A, BBE, BE, CE, CHE, DE, DHE, EI, E, FE, GA"⟩,
  ⟨0x105A3, "", "VITHKUQI SMALL LETTER HA"⟩,
  ⟨0x105A4, "VITHKUQI SMALL LETTER ", "HHA, I, IJE, JE, KA, LA, LLA, ME, NE, NJE, O, PE, QA, RE"⟩,
  ⟨0x105B3, "VITHKUQI SMALL LETTER ", "SE, SHE, TE, THE, U, VE, XE"⟩,
  ⟨0x105BB, "VITHKUQI SMALL LETTER ", "Y, ZE"⟩,
  ⟨0x10600, "LINEAR A SIGN ", "AB001, AB002, AB003, AB004, AB005, AB006"⟩,
  ⟨0x10606, "LINEAR A SIGN ", "AB007, AB008, AB009, AB010, AB011, AB013, AB016, AB017, AB020"⟩,
  ⟨0x1060F, "LINEAR A SIGN ", "AB021, AB021F, AB021M, AB022, AB022F, AB022M, AB023, AB023M, AB024"⟩,
  ⟨0x10618, "LINEAR A SIGN ", "AB026, AB027, AB028, A028B, AB029, AB030, AB031, AB034, AB037"⟩,
  ⟨0x10621, "LINEAR A SIGN ", "AB038, AB039, AB040, AB041, AB044, AB045, AB046, AB047, AB048"⟩,
  ⟨0x1062A, "LINEAR A SIGN ", "AB049, AB050, AB051, AB053, AB054, AB055, AB056, AB057, AB058"⟩,
  ⟨0x10633, "LINEAR A SIGN ", "AB059, AB060, AB061, AB065, AB066, AB067, AB069, AB070, AB073"⟩,
  ⟨0x1063C, "LINEAR A SIGN ", "AB074, AB076, AB077, AB078, AB079, AB080, AB081, AB082, AB085"⟩,
  ⟨0x10645, "LINEAR A SIGN ", "AB086, AB087, A100-102, AB118, AB120, A120B, AB122, AB123, AB131A"⟩,
  ⟨0x1064E, "LINEAR A SIGN ", "AB131B, A131C, AB164, AB171, AB180, AB188, AB191, A301, A302"⟩,
  ⟨0x10657, "LINEAR A SIGN ", "A303, A304, A305, A306, A307, A308, A309A, A309B, A309C, A310"⟩,
  ⟨0x10661, "LINEAR A SIGN ", "A311, A312, A313A, A313B, A313C, A314, A315, A316, A317, A318"⟩,
  ⟨0x1066B, "LINEAR A SIGN ", "A319, A320, A321, A322, A323, A324, A325, A326, A327, A328, A329"⟩,
  ⟨0x10676, "LINEAR A SIGN ", "A330, A331, A332, A333, A334, A335, A336, A337, A338, A339, A340"⟩,
  ⟨0x10681, "LINEAR A SIGN ", "A341, A342, A343, A344, A345, A346, A347, A348, A349, A350, A351"⟩,
  ⟨0x1068C, "LINEAR A SIGN ", "A352, A353, A354, A355, A356, A357, A358, A359, A360, A361, A362"⟩,
  ⟨0x10697, "LINEAR A SIGN ", "A363, A364, A365, A366, A367, A368, A369, A370, A371, A400-VAS"⟩,
  ⟨0x106A1, "LINEAR A SIGN ", "A401-VAS, A402-VAS, A403-VAS, A404-VAS, A405-VAS, A406-VAS"⟩,
  ⟨0x106A7, "LINEAR A SIGN ", "A407-VAS, A408-VAS, A409-VAS, A410-VAS, A411-VAS, A412-VAS"⟩,
  ⟨0x106AD, "LINEAR A SIGN ", "A413-VAS, A414-VAS, A415-VAS, A416-VAS, A417-VAS, A418-VAS"⟩,
  ⟨0x106B3, "LINEAR A SIGN ", "A501, A502, A503, A504, A505, A506, A508, A509, A510, A511, A512"⟩,
  ⟨0x106BE, "LINEAR A SIGN ", "A513, A515, A516, A520, A521, A523, A524, A525, A526, A527, A528"⟩,
  ⟨0x106C9, "LINEAR A SIGN ", "A529, A530, A531, A532, A534, A535, A536, A537, A538, A539, A540"⟩,
  ⟨0x106D4, "LINEAR A SIGN ", "A541, A542, A545, A547, A548, A549, A550, A551, A552, A553, A554"⟩,
  ⟨0x106DF, "LINEAR A SIGN ", "A555, A556, A557, A559, A563, A564, A565, A566, A568, A569, A570"⟩,
  ⟨0x106EA, "LINEAR A SIGN ", "A571, A572, A573, A574, A575, A576, A577, A578, A579, A580, A581"⟩,
  ⟨0x106F5, "LINEAR A SIGN ", "A582, A583, A584, A585, A586, A587, A588, A589, A591, A592, A594"⟩,
  ⟨0x10700, "LINEAR A SIGN ", "A595, A596, A598, A600, A601, A602, A603, A604, A606, A608, A609"⟩,
  ⟨0x1070B, "LINEAR A SIGN ", "A610, A611, A612, A613, A614, A615, A616, A617, A618, A619, A620"⟩,
  ⟨0x10716, "LINEAR A SIGN ", "A621, A622, A623, A624, A626, A627, A628, A629, A634, A637, A638"⟩,
  ⟨0x10721, "LINEAR A SIGN ", "A640, A642, A643, A644, A645, A646, A648, A649, A651, A652, A653"⟩,
  ⟨0x1072C, "LINEAR A SIGN ", "A654, A655, A656, A657, A658, A659, A660, A661, A662, A663, A664"⟩,
  ⟨0x10740, "LINEAR A SIGN ", "A701 A, A702 B, A703 D, A704 E, A705 F, A706 H, A707 J, A708 K"⟩,
  ⟨0x10748, "LINEAR A SIGN ", "A709 L, A709-2 L2, A709-3 L3, A709-4 L4, A709-6 L6, A710 W, A711 X"⟩,
  ⟨0x1074F, "LINEAR A SIGN ", "A712 Y, A713 OMEGA, A714 ABB, A715 BB, A717 DD, A726 EYYY, A732 JE"⟩,
  ⟨0x10760, "LINEAR A SIGN ", "A800, A801, A802, A803, A804, A805, A806, A807"⟩,
  ⟨0x10800, "CYPRIOT SYLLABLE ", "A, E, I, O, U, JA"⟩,
  ⟨0x10808, "", "CYPRIOT SYLLABLE JO"⟩,
  ⟨0x1080A, "CYPRIOT SYLLABLE ", "KA, KE, KI, KO, KU, LA, LE, LI, LO, LU, MA, ME"⟩,
  ⟨0x10816, "CYPRIOT SYLLABLE ", "MI, MO, MU, NA, NE, NI, NO, NU, PA, PE, PI, PO, PU, RA, RE, RI"⟩,
  ⟨0x10826, "CYPRIOT SYLLABLE ", "RO, RU, SA, SE, SI, SO, SU, TA, TE, TI, TO, TU, WA, WE, WI, WO"⟩,
  ⟨0x10837, "CYPRIOT SYLLABLE ", "XA, XE"⟩,
  ⟨0x1083C, "", "CYPRIOT SYLLABLE ZA"⟩,
  ⟨0x1083F, "", "CYPRIOT SYLLABLE ZO"⟩,
  ⟨0x10840, "IMPERIAL ARAMAIC LETTER ", "ALEPH, BETH, GIMEL"⟩,
  ⟨0x10843, "IMPERIAL ARAMAIC LETTER ", "DALETH, HE, WAW, ZAYIN, HETH, TETH, YODH, KAPH, LAMEDH"⟩,
  ⟨0x1084C, "IMPERIAL ARAMAIC LETTER ", "MEM, NUN, SAMEKH, AYIN, PE, SADHE, QOPH, RESH, SHIN, TAW"⟩,
  ⟨0x10857, "IMPERIAL ARAMAIC ", "SECTION SIGN, NUMBER ONE, NUMBER TWO, NUMBER THREE"⟩,
  ⟨0x1085B, "IMPERIAL ARAMAIC NUMBER ", "TEN, TWENTY, ONE HUNDRED, ONE THOUSAND, TEN THOUSAND"⟩,
  ⟨0x10860, "PALMYRENE LETTER ", "ALEPH, BETH"⟩,
  ⟨0x10862, "PALMYRENE LETTER ", "GIMEL, DALETH, HE, WAW, ZAYIN, HETH, TETH, YODH, KAPH, LAMEDH"⟩,
  ⟨0x1086C, "PALMYRENE LETTER ", "MEM, FINAL NUN, NUN, SAMEKH, AYIN, PE, SADHE, QOPH, RESH"⟩,
  ⟨0x10875, "PALMYRENE ", "LETTER SHIN, LETTER TAW, LEFT-POINTING FLEURON, RIGHT-POINTING FLEURON"⟩,
  ⟨0x10879, "PALMYRENE NUMBER ", "ONE, TWO, THREE, FOUR, FIVE, TEN, TWENTY"⟩,
  ⟨0x10880, "NABATAEAN LETTER ", "FINAL ALEPH, ALEPH, FINAL BETH, BETH, GIMEL, DALETH, FINAL HE"⟩,
  ⟨0x10887, "NABATAEAN LETTER ", "HE, WAW, ZAYIN, HETH, TETH, FINAL YODH, YODH, FINAL KAPH"⟩,
  ⟨0x1088F, "NABATAEAN LETTER ", "KAPH, FINAL LAMEDH, LAMEDH, FINAL MEM, MEM, FINAL NUN"⟩,
  ⟨0x10895, "NABATAEAN LETTER ", "NUN, SAMEKH, AYIN, PE, SADHE, QOPH, RESH, FINAL SHIN, SHIN, TAW"⟩,
  ⟨0x108A7, "", "NABATAEAN NUMBER ONE"⟩,
  ⟨0x108A8, "NABATAEAN ", "NUMBER TWO, NUMBER THREE, NUMBER FOUR, CRUCIFORM NUMBER FOUR"⟩,
  ⟨0x108AC, "NABATAEAN NUMBER ", "FIVE, TEN, TWENTY, ONE HUNDRED"⟩,
  ⟨0x108E0, "HATRAN LETTER ", "ALEPH, BETH, GIMEL, DALETH-RESH, HE, WAW, ZAYN, HETH"⟩,
  ⟨0x108E8, "HATRAN LETTER ", "TETH, YODH, KAPH, LAMEDH, MEM, NUN, SAMEKH, AYN, PE, SADHE, QOPH"⟩,
  ⟨0x108F4, "HATRAN LETTER ", "SHIN, TAW"⟩,
  ⟨0x108FB, "HATRAN NUMBER ", "ONE, FIVE, TEN, TWENTY, ONE HUNDRED"⟩,
  ⟨0x10900, "PHOENICIAN LETTER ", "ALF, BET, GAML, DELT, HE, WAU, ZAI, HET, TET, YOD"⟩,
  ⟨0x1090A, "PHOENICIAN LETTER ", "KAF, LAMD, MEM, NUN, SEMK, AIN, PE, SADE, QOF, ROSH, SHIN, TAU"⟩,
  ⟨0x10916, "PHOENICIAN NUMBER ", "ONE, TEN, TWENTY, ONE HUNDRED, TWO, THREE"⟩,
  ⟨0x1091F, "", "PHOENICIAN WORD SEPARATOR"⟩,
  ⟨0x10920, "LYDIAN LETTER ", "A, B, G, D, E, V"⟩,
  ⟨0x10926, "LYDIAN LETTER ", "I, Y, K, L, M, N, O, R, SS, T, U, F, Q, S, TT, AN, EN, LY, NN, C"⟩,
  ⟨0x1093F, "", "LYDIAN TRIANGULAR MARK"⟩,
  ⟨0x10980, "MEROITIC HIEROGLYPHIC LETTER ", "A, E, I, O, YA, WA"⟩,
  ⟨0x10986, "MEROITIC HIEROGLYPHIC LETTER ", "BA, BA-2, PA, MA, NA, NA-2, NE, NE-2, RA, RA-2, LA"⟩,
  ⟨0x10991, "MEROITIC HIEROGLYPHIC LETTER ", "KHA, HHA, SA, SA-2, SE, KA, QA, TA, TA-2, TE, TE-2"⟩,
  ⟨0x1099C, "MEROITIC HIEROGLYPHIC ", "LETTER TO, LETTER DA, SYMBOL VIDJ, SYMBOL VIDJ-2"⟩,
  ⟨0x109A0, "MEROITIC CURSIVE LETTER ", "A, E, I, O, YA, WA, BA, PA, MA, NA, NE, RA"⟩,
  ⟨0x109AC, "MEROITIC CURSIVE LETTER ", "LA, KHA, HHA, SA, ARCHAIC SA, SE, KA, QA, TA, TE, TO, DA"⟩,
  ⟨0x109BC, "", "MEROITIC CURSIVE FRACTION ELEVEN TWELFTHS"⟩,
  ⟨0x109BD, "MEROITIC CURSIVE ", "FRACTION ONE HALF, LOGOGRAM RMT, LOGOGRAM IMN"⟩,
  ⟨0x109C0, "MEROITIC CURSIVE NUMBER ", "ONE, TWO, THREE, FOUR, FIVE, SIX, SEVEN, EIGHT"⟩,
  ⟨0x109C8, "MEROITIC CURSIVE NUMBER ", "NINE, TEN, TWENTY, THIRTY, FORTY, FIFTY, SIXTY, SEVENTY"⟩,
  ⟨0x109D2, "MEROITIC CURSIVE NUMBER ", "ONE HUNDRED, TWO HUNDRED, THREE HUNDRED, FOUR HUNDRED"⟩,
  ⟨0x109D6, "MEROITIC CURSIVE NUMBER ", "FIVE HUNDRED, SIX HUNDRED, SEVEN HUNDRED, EIGHT HUNDRED"⟩,
  ⟨0x109DA, "MEROITIC CURSIVE NUMBER ", "NINE HUNDRED, ONE THOUSAND, TWO THOUSAND, THREE THOUSAND"⟩,
  ⟨0x109DE, "MEROITIC CURSIVE NUMBER ", "FOUR THOUSAND, FIVE THOUSAND, SIX THOUSAND"⟩,
  ⟨0x109E1, "MEROITIC CURSIVE NUMBER ", "SEVEN THOUSAND, EIGHT THOUSAND, NINE THOUSAND"⟩,
  ⟨0x109E4, "MEROITIC CURSIVE NUMBER ", "TEN THOUSAND, TWENTY THOUSAND, THIRTY THOUSAND"⟩,
  ⟨0x109E7, "MEROITIC CURSIVE NUMBER ", "FORTY THOUSAND, FIFTY THOUSAND, SIXTY THOUSAND"⟩,
  ⟨0x109EA, "MEROITIC CURSIVE NUMBER ", "SEVENTY THOUSAND, EIGHTY THOUSAND, NINETY THOUSAND"⟩,
  ⟨0x109ED, "MEROITIC CURSIVE NUMBER ", "ONE HUNDRED THOUSAND, TWO HUNDRED THOUSAND"⟩,
  ⟨0x109EF, "MEROITIC CURSIVE NUMBER ", "THREE HUNDRED THOUSAND, FOUR HUNDRED THOUSAND"⟩,
  ⟨0x109F1, "MEROITIC CURSIVE NUMBER ", "FIVE HUNDRED THOUSAND, SIX HUNDRED THOUSAND"⟩,
  ⟨0x109F3, "MEROITIC CURSIVE NUMBER ", "SEVEN HUNDRED THOUSAND, EIGHT HUNDRED THOUSAND"⟩,
  ⟨0x109F5, "MEROITIC CURSIVE ", "NUMBER NINE HUNDRED THOUSAND, FRACTION ONE TWELFTH"⟩,
  ⟨0x109F7, "MEROITIC CURSIVE FRACTION ", "TWO TWELFTHS, THREE TWELFTHS, FOUR TWELFTHS"⟩,
  ⟨0x109FA, "MEROITIC CURSIVE FRACTION ", "FIVE TWELFTHS, SIX TWELFTHS, SEVEN TWELFTHS"⟩,
  ⟨0x109FD, "MEROITIC CURSIVE FRACTION ", "EIGHT TWELFTHS, NINE TWELFTHS, TEN TWELFTHS"⟩,
  ⟨0x10A00, "KHAROSHTHI ", "LETTER A, VOWEL SIGN I, VOWEL SIGN U, VOWEL SIGN VOCALIC R"⟩,
  ⟨0x10A05, "KHAROSHTHI VOWEL SIGN ", "E, O"⟩,
  ⟨0x10A0C, "KHAROSHTHI ", "VOWEL LENGTH MARK, SIGN DOUBLE RING BELOW, SIGN ANUSVARA"⟩,
  ⟨0x10A0F, "KHAROSHTHI ", "SIGN VISARGA, LETTER KA, LETTER KHA, LETTER GA, LETTER GHA"⟩,
  ⟨0x10A15, "KHAROSHTHI LETTER ", "CA, CHA, JA"⟩,
  ⟨0x10A19, "KHAROSHTHI LETTER ", "NYA, TTA, TTHA"⟩,
  ⟨0x10A1C, "KHAROSHTHI LETTER ", "DDA, DDHA, NNA, TA, THA, DA, DHA, NA, PA, PHA, BA, BHA, MA"⟩,
  ⟨0x10A29, "KHAROSHTHI LETTER ", "YA, RA, LA, VA, SHA, SSA, SA, ZA, HA, KKA, TTTHA, TTTA, VHA"⟩,
  ⟨0x10A38, "KHAROSHTHI SIGN ", "BAR ABOVE, CAUDA, DOT BELOW"⟩,
  ⟨0x10A3F, "KHAROSHTHI ", "VIRAMA, DIGIT ONE"⟩,
  ⟨0x10A41, "KHAROSHTHI ", "DIGIT TWO, DIGIT THREE, DIGIT FOUR, NUMBER TEN, NUMBER TWENTY"⟩,
  ⟨0x10A46, "KHAROSHTHI ", "NUMBER ONE HUNDRED, NUMBER ONE THOUSAND, FRACTION ONE HALF"⟩,
  ⟨0x10A50, "KHAROSHTHI PUNCTUATION ", "DOT, SMALL CIRCLE, CIRCLE"⟩,
  ⟨0x10A53, "KHAROSHTHI PUNCTUATION ", "CRESCENT BAR, MANGALAM, LOTUS, DANDA, DOUBLE DANDA, LINES"⟩,
  ⟨0x10A60, "OLD SOUTH ARABIAN LETTER ", "HE, LAMEDH"⟩,
  ⟨0x10A62, "OLD SOUTH ARABIAN LETTER ", "HETH, MEM, QOPH, WAW, SHIN, RESH, BETH, TAW, SAT"⟩,
  ⟨0x10A6B, "OLD SOUTH ARABIAN LETTER ", "KAPH, NUN, KHETH, SADHE, SAMEKH, FE, ALEF, AYN, DHADHE"⟩,
  ⟨0x10A74, "OLD SOUTH ARABIAN LETTER ", "GIMEL, DALETH, GHAYN, TETH, ZAYN, DHALETH, YODH, THAW"⟩,
  ⟨0x10A7C, "OLD SOUTH ARABIAN ", "LETTER THETH, NUMBER ONE, NUMBER FIFTY, NUMERIC INDICATOR"⟩,
  ⟨0x10A80, "OLD NORTH ARABIAN LETTER ", "HEH, LAM, HAH, MEEM, QAF, WAW, ES-2"⟩,
  ⟨0x10A87, "OLD NORTH ARABIAN LETTER ", "REH, BEH, TEH, ES-1, KAF, NOON, KHAH, SAD, ES-3, FEH"⟩,
  ⟨0x10A91, "OLD NORTH ARABIAN LETTER ", "ALEF, AIN, DAD, GEEM, DAL, GHAIN, TAH, ZAIN, THAL, YEH"⟩,
  ⟨0x10A9B, "OLD NORTH ARABIAN ", "LETTER THEH, LETTER ZAH, NUMBER ONE, NUMBER TEN, NUMBER TWENTY"⟩,
  ⟨0x10AC0, "MANICHAEAN LETTER ", "ALEPH, BETH, BHETH, GIMEL"⟩,
  ⟨0x10AC4, "MANICHAEAN ", "LETTER GHIMEL, LETTER DALETH, LETTER HE, LETTER WAW, SIGN UD"⟩,
  ⟨0x10AC9, "MANICHAEAN LETTER ", "ZAYIN, ZHAYIN, JAYIN, JHAYIN, HETH, TETH, YODH, KAPH"⟩,
  ⟨0x10AD1, "MANICHAEAN LETTER ", "XAPH, KHAPH, LAMEDH, DHAMEDH, THAMEDH, MEM, NUN, SAMEKH, AYIN"⟩,
  ⟨0x10ADA, "MANICHAEAN LETTER ", "AAYIN, PE, FE, SADHE, QOPH, XOPH, QHOPH, RESH, SHIN, SSHIN"⟩,
  ⟨0x10AE4, "MANICHAEAN ", "LETTER TAW, ABBREVIATION MARK ABOVE, ABBREVIATION MARK BELOW"⟩,
  ⟨0x10AEB, "MANICHAEAN NUMBER ", "ONE, FIVE, TEN, TWENTY, ONE HUNDRED"⟩,
  ⟨0x10AF0, "MANICHAEAN PUNCTUATION ", "STAR, FLEURON, DOUBLE DOT WITHIN DOT"⟩,
  ⟨0x10AF3, "MANICHAEAN PUNCTUATION ", "DOT WITHIN DOT, DOT, TWO DOTS, LINE FILLER"⟩,
  ⟨0x10B00, "AVESTAN LETTER ", "A, AA, AO, AAO, AN, AAN, AE, AEE, E, EE"⟩,
  ⟨0x10B0A, "AVESTAN LETTER ", "O, OO, I, II, U, UU, KE, XE, XYE, XVE, GE, GGE, GHE, CE, JE, TE"⟩,
  ⟨0x10B1A, "AVESTAN LETTER ", "THE, DE, DHE, TTE, PE, FE, BE, BHE, NGE, NGYE, NGVE, NE, NYE, NNE"⟩,
  ⟨0x10B28, "AVESTAN LETTER ", "ME, HME, YYE, YE, VE, RE, LE, SE, ZE, SHE, ZHE, SHYE, SSHE, HE"⟩,
  ⟨0x10B39, "", "AVESTAN ABBREVIATION MARK"⟩,
  ⟨0x10B3A, "", "TINY TWO DOTS OVER ONE DOT PUNCTUATION, SMALL TWO DOTS OVER ONE DOT PUNCTUATION"⟩,
  ⟨0x10B3C, "LARGE ", "TWO DOTS OVER ONE DOT PUNCTUATION, ONE DOT OVER TWO DOTS PUNCTUATION"⟩,
  ⟨0x10B3E, "LARGE ", "TWO RINGS OVER ONE RING PUNCTUATION, ONE RING OVER TWO RINGS PUNCTUATION"⟩,
  ⟨0x10B40, "INSCRIPTIONAL PARTHIAN LETTER ", "ALEPH, BETH, GIMEL, DALETH, HE, WAW"⟩,
  ⟨0x10B46, "INSCRIPTIONAL PARTHIAN LETTER ", "ZAYIN, HETH, TETH, YODH, KAPH, LAMEDH, MEM, NUN"⟩,
  ⟨0x10B4E, "INSCRIPTIONAL PARTHIAN LETTER ", "SAMEKH, AYIN, PE, SADHE, QOPH, RESH, SHIN, TAW"⟩,
  ⟨0x10B58, "INSCRIPTIONAL PARTHIAN NUMBER ", "ONE, TWO, THREE"⟩,
  ⟨0x10B5B, "INSCRIPTIONAL PARTHIAN NUMBER ", "FOUR, TEN, TWENTY, ONE HUNDRED, ONE THOUSAND"⟩,
  ⟨0x10B60, "INSCRIPTIONAL PAHLAVI LETTER ", "ALEPH, BETH, GIMEL, DALETH"⟩,
  ⟨0x10B64, "INSCRIPTIONAL PAHLAVI LETTER ", "HE, WAW-AYIN-RESH, ZAYIN, HETH, TETH, YODH, KAPH"⟩,
  ⟨0x10B6B, "INSCRIPTIONAL PAHLAVI LETTER ", "LAMEDH, MEM-QOPH, NUN, SAMEKH, PE, SADHE, SHIN, TAW"⟩,
  ⟨0x10B78, "INSCRIPTIONAL PAHLAVI NUMBER ", "ONE, TWO, THREE, FOUR, TEN, TWENTY, ONE HUNDRED"⟩,
  ⟨0x10B7F, "", "INSCRIPTIONAL PAHLAVI NUMBER ONE THOUSAND, PSALTER PAHLAVI LETTER ALEPH"⟩,
  ⟨0x10B81, "PSALTER PAHLAVI LETTER ", "BETH, GIMEL, DALETH, HE, WAW-AYIN-RESH, ZAYIN, HETH, YODH"⟩,
  ⟨0x10B89, "PSALTER PAHLAVI LETTER ", "KAPH, LAMEDH, MEM-QOPH, NUN, SAMEKH, PE, SADHE, SHIN, TAW"⟩,
  ⟨0x10B99, "", "PSALTER PAHLAVI SECTION MARK"⟩,
  ⟨0x10B9A, "PSALTER PAHLAVI ", "TURNED SECTION MARK, FOUR DOTS WITH CROSS, FOUR DOTS WITH DOT"⟩,
  ⟨0x10BA9, "PSALTER PAHLAVI NUMBER ", "ONE, TWO, THREE, FOUR, TEN, TWENTY, ONE HUNDRED"⟩,
  ⟨0x10C00, "OLD TURKIC LETTER ", "ORKHON A, YENISEI A, YENISEI AE"⟩,
  ⟨0x10C03, "OLD TURKIC LETTER ", "ORKHON I, YENISEI I, YENISEI E, ORKHON O, ORKHON OE"⟩,
  ⟨0x10C08, "OLD TURKIC LETTER ", "YENISEI OE, ORKHON AB, YENISEI AB, ORKHON AEB, YENISEI AEB"⟩,
  ⟨0x10C0D, "OLD TURKIC LETTER ", "ORKHON AG, YENISEI AG, ORKHON AEG, YENISEI AEG, ORKHON AD"⟩,
  ⟨0x10C12, "OLD TURKIC LETTER ", "YENISEI AD, ORKHON AED, ORKHON EZ, YENISEI EZ, ORKHON AY"⟩,
  ⟨0x10C17, "OLD TURKIC LETTER ", "YENISEI AY, ORKHON AEY, YENISEI AEY, ORKHON AEK, YENISEI AEK"⟩,
  ⟨0x10C1C, "OLD TURKIC LETTER ", "ORKHON OEK, YENISEI OEK, ORKHON AL, YENISEI AL, ORKHON AEL"⟩,
  ⟨0x10C21, "OLD TURKIC LETTER ", "ORKHON ELT, ORKHON EM, ORKHON AN, ORKHON AEN, YENISEI AEN"⟩,
  ⟨0x10C26, "OLD TURKIC LETTER ", "ORKHON ENT, YENISEI ENT, ORKHON ENC, YENISEI ENC, ORKHON ENY"⟩,
  ⟨0x10C2B, "OLD TURKIC LETTER ", "YENISEI ENY, YENISEI ANG, ORKHON ENG, YENISEI AENG, ORKHON EP"⟩,
  ⟨0x10C30, "OLD TURKIC LETTER ", "ORKHON OP, ORKHON IC, ORKHON EC, YENISEI EC, ORKHON AQ"⟩,
  ⟨0x10C35, "OLD TURKIC LETTER ", "YENISEI AQ, ORKHON IQ, YENISEI IQ, ORKHON OQ, YENISEI OQ"⟩,
  ⟨0x10C3A, "OLD TURKIC LETTER ", "ORKHON AR, YENISEI AR, ORKHON AER, ORKHON AS, ORKHON AES"⟩,
  ⟨0x10C3F, "OLD TURKIC LETTER ", "ORKHON ASH, YENISEI ASH, ORKHON ESH, YENISEI ESH, ORKHON AT"⟩,
  ⟨0x10C44, "OLD TURKIC LETTER ", "YENISEI AT, ORKHON AET, YENISEI AET, ORKHON OT, ORKHON BASH"⟩,
  ⟨0x10C80, "OLD HUNGARIAN CAPITAL LETTER ", "A, AA, EB, AMB, EC, ENC, ECS, ED"⟩,
  ⟨0x10C88, "OLD HUNGARIAN CAPITAL LETTER ", "AND, E, CLOSE E, EE, EF, EG, EGY, EH, I, II, EJ, EK"⟩,
  ⟨0x10C94, "OLD HUNGARIAN CAPITAL LETTER ", "AK, UNK, EL, ELY, EM, EN, ENY, O, OO, NIKOLSBURG OE"⟩,
  ⟨0x10C9E, "OLD HUNGARIAN CAPITAL LETTER ", "RUDIMENTA OE, OEE, EP, EMP, ER, SHORT ER"⟩,
  ⟨0x10CA4, "OLD HUNGARIAN CAPITAL LETTER ", "ES, ESZ, ET, ENT, ETY, ECH, U, UU, NIKOLSBURG UE"⟩,
  ⟨0x10CAD, "OLD HUNGARIAN CAPITAL LETTER ", "RUDIMENTA UE, EV, EZ, EZS, ENT-SHAPED SIGN, US"⟩,
  ⟨0x10CC0, "OLD HUNGARIAN SMALL LETTER ", "A, AA, EB, AMB, EC, ENC, ECS, ED"⟩,
  ⟨0x10CC8, "OLD HUNGARIAN SMALL LETTER ", "AND, E, CLOSE E, EE, EF, EG, EGY, EH, I, II, EJ, EK"⟩,
  ⟨0x10CD4, "OLD HUNGARIAN SMALL LETTER ", "AK, UNK, EL, ELY, EM, EN, ENY, O, OO, NIKOLSBURG OE"⟩,
  ⟨0x10CDE, "OLD HUNGARIAN SMALL LETTER ", "RUDIMENTA OE, OEE, EP, EMP, ER, SHORT ER"⟩,
  ⟨0x10CE4, "OLD HUNGARIAN SMALL LETTER ", "ES, ESZ, ET, ENT, ETY, ECH, U, UU, NIKOLSBURG UE"⟩,
  ⟨0x10CED, "OLD HUNGARIAN SMALL LETTER ", "RUDIMENTA UE, EV, EZ, EZS, ENT-SHAPED SIGN, US"⟩,
  ⟨0x10CFA, "OLD HUNGARIAN NUMBER ", "ONE, FIVE, TEN, FIFTY, ONE HUNDRED, ONE THOUSAND"⟩,
  ⟨0x10D00, "HANIFI ROHINGYA LETTER ", "A, BA, PA, TA, TTA, JA, CA, HA, KHA, FA, DA, DDA, RA"⟩,
  ⟨0x10D0D, "HANIFI ROHINGYA LETTER ", "RRA, ZA, SA, SHA, KA, GA, LA, MA, NA, WA, KINNA WA, YA"⟩,
  ⟨0x10D19, "HANIFI ROHINGYA ", "LETTER KINNA YA, LETTER NGA, LETTER NYA, LETTER VA, VOWEL A"⟩,
  ⟨0x10D1E, "HANIFI ROHINGYA ", "VOWEL I, VOWEL U, VOWEL E, VOWEL O, MARK SAKIN, MARK NA KHONNA"⟩,
  ⟨0x10D24, "HANIFI ROHINGYA SIGN ", "HARBAHAY, TAHALA, TANA, TASSI"⟩,
  ⟨0x10D30, "HANIFI ROHINGYA DIGIT ", "ZERO, ONE, TWO, THREE, FOUR, FIVE, SIX, SEVEN, EIGHT, NINE"⟩,
  ⟨0x10E60, "RUMI DIGIT ", "ONE, TWO, THREE, FOUR, FIVE, SIX, SEVEN, EIGHT, NINE"⟩,
  ⟨0x10E69, "RUMI NUMBER ", "TEN, TWENTY, THIRTY, FORTY, FIFTY, SIXTY, SEVENTY, EIGHTY, NINETY"⟩,
  ⟨0x10E72, "RUMI NUMBER ", "ONE HUNDRED, TWO HUNDRED, THREE HUNDRED, FOUR HUNDRED, FIVE HUNDRED"⟩,
  ⟨0x10E77, "RUMI NUMBER ", "SIX HUNDRED, SEVEN HUNDRED, EIGHT HUNDRED, NINE HUNDRED"⟩,
  ⟨0x10E7B, "RUMI FRACTION ", "ONE HALF, ONE QUARTER, ONE THIRD, TWO THIRDS"⟩,
  ⟨0x10E80, "YEZIDI LETTER ", "ELIF, BE, PE"⟩,
  ⟨0x10E83, "YEZIDI LETTER ", "PHE, THE, SE, CIM, CHIM, CHHIM, HHA, XA, DAL, ZAL, RA, RHA, ZA, JA"⟩,
  ⟨0x10E91, "YEZIDI LETTER ", "SIN, SHIN, SAD, DAD, TA, ZE, EYN, XHEYN, FA, VA, VA ALTERNATE FORM"⟩,
  ⟨0x10E9C, "YEZIDI LETTER ", "QAF, KAF, KHAF, GAF, LAM, MIM, NUN, UM, WAW, OW, EW, HAY, YOT, ET"⟩,
  ⟨0x10EAB, "YEZIDI ", "COMBINING HAMZA MARK, COMBINING MADDA MARK, HYPHENATION MARK"⟩,
  ⟨0x10EB0, "YEZIDI LETTER ", "LAM WITH DOT ABOVE, YOT WITH CIRCUMFLEX ABOVE"⟩,
  ⟨0x10F00, "OLD SOGDIAN LETTER ", "ALEPH, FINAL ALEPH, BETH"⟩,
  ⟨0x10F03, "OLD SOGDIAN LETTER ", "FINAL BETH, GIMEL, HE, FINAL HE, WAW, ZAYIN, HETH, YODH, KAPH"⟩,
  ⟨0x10F0C, "OLD SOGDIAN LETTER ", "LAMEDH, MEM, NUN, FINAL NUN, FINAL NUN WITH VERTICAL TAIL"⟩,
  ⟨0x10F11, "OLD SOGDIAN LETTER ", "SAMEKH, AYIN, ALTERNATE AYIN, PE, SADHE"⟩,
  ⟨0x10F16, "OLD SOGDIAN LETTER ", "FINAL SADHE, FINAL SADHE WITH VERTICAL TAIL, RESH-AYIN-DALETH"⟩,
  ⟨0x10F19, "OLD SOGDIAN LETTER ", "SHIN, TAW, FINAL TAW, FINAL TAW WITH VERTICAL TAIL"⟩,
  ⟨0x10F1D, "OLD SOGDIAN NUMBER ", "ONE, TWO, THREE, FOUR, FIVE, TEN, TWENTY, THIRTY"⟩,
  ⟨0x10F25, "OLD SOGDIAN ", "NUMBER ONE HUNDRED, FRACTION ONE HALF, LIGATURE AYIN-DALETH"⟩,
  ⟨0x10F30, "SOGDIAN LETTER ", "ALEPH, BETH, GIMEL, HE, WAW, ZAYIN, HETH"⟩,
  ⟨0x10F37, "SOGDIAN LETTER ", "YODH, KAPH, LAMEDH, MEM, NUN, SAMEKH, AYIN, PE, SADHE, RESH-AYIN"⟩,
  ⟨0x10F41, "SOGDIAN ", "LETTER SHIN, LETTER TAW, LETTER FETH, LETTER LESH, INDEPENDENT SHIN"⟩,
  ⟨0x10F46, "SOGDIAN COMBINING ", "DOT BELOW, TWO DOTS BELOW, DOT ABOVE"⟩,
  ⟨0x10F49, "SOGDIAN COMBINING ", "TWO DOTS ABOVE, CURVE ABOVE, CURVE BELOW, HOOK ABOVE"⟩,
  ⟨0x10F4D, "SOGDIAN COMBINING ", "HOOK BELOW, LONG HOOK BELOW, RESH BELOW, STROKE BELOW"⟩,
  ⟨0x10F51, "SOGDIAN NUMBER ", "ONE, TEN, TWENTY, ONE HUNDRED"⟩,
  ⟨0x10F55, "SOGDIAN PUNCTUATION TWO VERTICAL ", "BARS, BARS WITH DOTS"⟩,
  ⟨0x10F57, "SOGDIAN PUNCTUATION ", "CIRCLE WITH DOT, TWO CIRCLES WITH DOTS, HALF CIRCLE WITH DOT"⟩,
  ⟨0x10F70, "OLD UYGHUR LETTER ", "ALEPH, BETH, GIMEL-HETH, WAW, ZAYIN, FINAL HETH, YODH, KAPH"⟩,
  ⟨0x10F78, "OLD UYGHUR LETTER ", "LAMEDH, MEM, NUN, SAMEKH, PE, SADHE, RESH, SHIN, TAW, LESH"⟩,
  ⟨0x10F82, "OLD UYGHUR COMBINING ", "DOT ABOVE, DOT BELOW, TWO DOTS ABOVE, TWO DOTS BELOW"⟩,
  ⟨0x10F86, "OLD UYGHUR PUNCTUATION ", "BAR, TWO BARS, TWO DOTS, FOUR DOTS"⟩,
  ⟨0x10FB0, "CHORASMIAN LETTER ", "ALEPH, SMALL ALEPH"⟩,
  ⟨0x10FB2, "CHORASMIAN LETTER ", "BETH, GIMEL, DALETH, HE, WAW, CURLED WAW, ZAYIN, HETH, YODH"⟩,
  ⟨0x10FBB, "CHORASMIAN LETTER ", "KAPH, LAMEDH, MEM, NUN, SAMEKH, AYIN, PE, RESH, SHIN, TAW"⟩,
  ⟨0x10FC5, "CHORASMIAN NUMBER ", "ONE, TWO, THREE, FOUR, TEN, TWENTY, ONE HUNDRED"⟩,
  ⟨0x10FE0, "ELYMAIC LETTER ", "ALEPH, BETH, GIMEL, DALETH, HE, WAW, ZAYIN"⟩,
  ⟨0x10FE7, "ELYMAIC LETTER ", "HETH, TETH, YODH, KAPH, LAMEDH, MEM, NUN, SAMEKH, AYIN, PE, SADHE"⟩,
  ⟨0x10FF2, "ELYMAIC ", "LETTER QOPH, LETTER RESH, LETTER SHIN, LETTER TAW, LIGATURE ZAYIN-YODH"⟩]

end BatchExec
