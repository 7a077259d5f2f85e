import BatchExec.Text.CharacterName.Row

/-!
# Radicals and syllables

The names of radicals, hexagrams, Yi syllables and Tangut components.
-/

namespace BatchExec

/-- The names of radicals, hexagrams, Yi syllables and Tangut components. -/
def ideographicNames : List NameRow := [
  ⟨0x2E80, "CJK RADICAL ", "REPEAT, CLIFF, SECOND ONE, SECOND TWO"⟩,
  ⟨0x2E84, "CJK RADICAL ", "SECOND THREE, PERSON, BOX, TABLE, KNIFE ONE, KNIFE TWO, DIVINATION"⟩,
  ⟨0x2E8B, "CJK RADICAL ", "SEAL, SMALL ONE, SMALL TWO, LAME ONE, LAME TWO, LAME THREE, LAME FOUR"⟩,
  ⟨0x2E92, "CJK RADICAL ", "SNAKE, THREAD, SNOUT ONE, SNOUT TWO, HEART ONE, HEART TWO, HAND, RAP"⟩,
  ⟨0x2E9B, "CJK RADICAL ", "CHOKE, SUN"⟩,
  ⟨0x2E9D, "CJK RADICAL ", "MOON, DEATH, MOTHER, CIVILIAN, WATER ONE, WATER TWO, FIRE, PAW ONE"⟩,
  ⟨0x2EA5, "CJK RADICAL ", "PAW TWO, SIMPLIFIED HALF TREE TRUNK, COW, DOG, JADE, BOLT OF CLOTH"⟩,
  ⟨0x2EAB, "CJK RADICAL ", "EYE, SPIRIT ONE, SPIRIT TWO, BAMBOO, SILK, C-SIMPLIFIED SILK"⟩,
  ⟨0x2EB1, "CJK RADICAL ", "NET ONE, NET TWO, NET THREE, NET FOUR, MESH, SHEEP, RAM"⟩,
  ⟨0x2EB8, "CJK RADICAL ", "EWE, OLD, BRUSH ONE, BRUSH TWO, MEAT, MORTAR, GRASS ONE, GRASS TWO"⟩,
  ⟨0x2EC0, "CJK RADICAL ", "GRASS THREE, TIGER, CLOTHES, WEST ONE, WEST TWO, C-SIMPLIFIED SEE"⟩,
  ⟨0x2EC6, "CJK RADICAL ", "SIMPLIFIED HORN, HORN, C-SIMPLIFIED SPEECH, C-SIMPLIFIED SHELL"⟩,
  ⟨0x2ECA, "CJK RADICAL ", "FOOT, C-SIMPLIFIED CART, SIMPLIFIED WALK, WALK ONE, WALK TWO"⟩,
  ⟨0x2ECF, "CJK RADICAL ", "CITY, C-SIMPLIFIED GOLD, LONG ONE, LONG TWO, C-SIMPLIFIED LONG"⟩,
  ⟨0x2ED4, "CJK RADICAL ", "C-SIMPLIFIED GATE, MOUND ONE, MOUND TWO, RAIN, BLUE"⟩,
  ⟨0x2ED9, "CJK RADICAL C-SIMPLIFIED ", "TANNED LEATHER, LEAF, WIND"⟩,
  ⟨0x2EDC, "CJK RADICAL ", "C-SIMPLIFIED FLY, EAT ONE, EAT TWO, EAT THREE, C-SIMPLIFIED EAT, HEAD"⟩,
  ⟨0x2EE2, "CJK RADICAL ", "C-SIMPLIFIED HORSE, BONE, GHOST, C-SIMPLIFIED FISH, C-SIMPLIFIED BIRD"⟩,
  ⟨0x2EE7, "CJK RADICAL ", "C-SIMPLIFIED SALT, SIMPLIFIED WHEAT, SIMPLIFIED YELLOW"⟩,
  ⟨0x2EEA, "CJK RADICAL ", "C-SIMPLIFIED FROG, J-SIMPLIFIED EVEN, C-SIMPLIFIED EVEN"⟩,
  ⟨0x2EED, "CJK RADICAL ", "J-SIMPLIFIED TOOTH, C-SIMPLIFIED TOOTH, J-SIMPLIFIED DRAGON"⟩,
  ⟨0x2EF0, "CJK RADICAL ", "C-SIMPLIFIED DRAGON, TURTLE, J-SIMPLIFIED TURTLE, C-SIMPLIFIED TURTLE"⟩,
  ⟨0x2F00, "", "KANGXI RADICAL ONE"⟩,
  ⟨0x2F01, "KANGXI RADICAL ", "LINE, DOT, SLASH, SECOND, HOOK, TWO, LID, MAN, LEGS, ENTER, EIGHT"⟩,
  ⟨0x2F0C, "KANGXI RADICAL ", "DOWN BOX, COVER, ICE, TABLE, OPEN BOX, KNIFE, POWER, WRAP, SPOON"⟩,
  ⟨0x2F15, "KANGXI RADICAL ", "RIGHT OPEN BOX, HIDING ENCLOSURE, TEN, DIVINATION, SEAL, CLIFF"⟩,
  ⟨0x2F1B, "KANGXI RADICAL ", "PRIVATE, AGAIN, MOUTH, ENCLOSURE, EARTH, SCHOLAR, GO, GO SLOWLY"⟩,
  ⟨0x2F23, "KANGXI RADICAL ", "EVENING, BIG, WOMAN, CHILD, ROOF, INCH, SMALL, LAME, CORPSE"⟩,
  ⟨0x2F2C, "KANGXI RADICAL ", "SPROUT, MOUNTAIN, RIVER, WORK, ONESELF, TURBAN, DRY, SHORT THREAD"⟩,
  ⟨0x2F34, "KANGXI RADICAL ", "DOTTED CLIFF, LONG STRIDE, TWO HANDS, SHOOT, BOW, SNOUT"⟩,
  ⟨0x2F3A, "KANGXI RADICAL ", "BRISTLE, STEP, HEART, HALBERD, DOOR, HAND, BRANCH, RAP, SCRIPT"⟩,
  ⟨0x2F43, "KANGXI RADICAL ", "DIPPER, AXE, SQUARE, NOT, SUN, SAY, MOON, TREE, LACK, STOP, DEATH"⟩,
  ⟨0x2F4E, "KANGXI RADICAL ", "WEAPON, DO NOT, COMPARE, FUR, CLAN, STEAM, WATER, FIRE, CLAW"⟩,
  ⟨0x2F57, "KANGXI RADICAL ", "FATHER, DOUBLE X, HALF TREE TRUNK, SLICE, FANG, COW, DOG, PROFOUND"⟩,
  ⟨0x2F5F, "KANGXI RADICAL ", "JADE, MELON, TILE, SWEET, LIFE, USE, FIELD, BOLT OF CLOTH"⟩,
  ⟨0x2F67, "KANGXI RADICAL ", "SICKNESS, DOTTED TENT, WHITE, SKIN, DISH, EYE, SPEAR"⟩,
  ⟨0x2F6E, "KANGXI RADICAL ", "ARROW, STONE, SPIRIT, TRACK, GRAIN, CAVE, STAND, BAMBOO, RICE"⟩,
  ⟨0x2F77, "KANGXI RADICAL ", "SILK, JAR, NET, SHEEP, FEATHER, OLD, AND, PLOW, EAR, BRUSH, MEAT"⟩,
  ⟨0x2F82, "KANGXI RADICAL ", "MINISTER, SELF, ARRIVE, MORTAR, TONGUE, OPPOSE, BOAT, STOPPING"⟩,
  ⟨0x2F8A, "KANGXI RADICAL ", "COLOR, GRASS, TIGER, INSECT, BLOOD, WALK ENCLOSURE, CLOTHES, WEST"⟩,
  ⟨0x2F92, "KANGXI RADICAL ", "SEE, HORN, SPEECH, VALLEY, BEAN, PIG, BADGER, SHELL, RED, RUN"⟩,
  ⟨0x2F9C, "KANGXI RADICAL ", "FOOT, BODY, CART, BITTER, MORNING, WALK, CITY, WINE, DISTINGUISH"⟩,
  ⟨0x2FA5, "KANGXI RADICAL ", "VILLAGE, GOLD, LONG, GATE, MOUND, SLAVE, SHORT TAILED BIRD"⟩,
  ⟨0x2FAC, "KANGXI RADICAL ", "RAIN, BLUE, WRONG, FACE, LEATHER, TANNED LEATHER"⟩,
  ⟨0x2FB2, "KANGXI RADICAL ", "LEEK, SOUND, LEAF, WIND, FLY, EAT, HEAD, FRAGRANT, HORSE"⟩,
  ⟨0x2FBB, "KANGXI RADICAL ", "BONE, TALL, HAIR, FIGHT, SACRIFICIAL WINE, CAULDRON, GHOST, FISH"⟩,
  ⟨0x2FC3, "KANGXI RADICAL ", "BIRD, SALT, DEER, WHEAT, HEMP, YELLOW, MILLET, BLACK, EMBROIDERY"⟩,
  ⟨0x2FCC, "KANGXI RADICAL ", "FROG, TRIPOD, DRUM, RAT, NOSE, EVEN, TOOTH, DRAGON, TURTLE, FLUTE"⟩,
  ⟨0x2FF0, "", "IDEOGRAPHIC DESCRIPTION CHARACTER LEFT TO RIGHT"⟩,
  ⟨0x2FF1, "IDEOGRAPHIC DESCRIPTION CHARACTER ", "ABOVE TO BELOW, LEFT TO MIDDLE AND RIGHT"⟩,
  ⟨0x2FF3, "IDEOGRAPHIC DESCRIPTION CHARACTER ", "ABOVE TO MIDDLE AND BELOW, FULL SURROUND"⟩,
  ⟨0x2FF5, "IDEOGRAPHIC DESCRIPTION CHARACTER SURROUND FROM ", "ABOVE, BELOW"⟩,
  ⟨0x2FF7, "IDEOGRAPHIC DESCRIPTION CHARACTER SURROUND FROM ", "LEFT, UPPER LEFT, UPPER RIGHT"⟩,
  ⟨0x2FFA, "IDEOGRAPHIC DESCRIPTION CHARACTER ", "SURROUND FROM LOWER LEFT, OVERLAID"⟩,
  ⟨0x4DC0, "", "HEXAGRAM FOR THE CREATIVE HEAVEN"⟩,
  ⟨0x4DC1, "HEXAGRAM FOR ", "THE RECEPTIVE EARTH, DIFFICULTY AT THE BEGINNING"⟩,
  ⟨0x4DC3, "HEXAGRAM FOR ", "YOUTHFUL FOLLY, WAITING, CONFLICT, THE ARMY"⟩,
  ⟨0x4DC7, "HEXAGRAM FOR ", "HOLDING TOGETHER, SMALL TAMING, TREADING, PEACE, STANDSTILL"⟩,
  ⟨0x4DCC, "HEXAGRAM FOR ", "FELLOWSHIP, GREAT POSSESSION, MODESTY, ENTHUSIASM, FOLLOWING"⟩,
  ⟨0x4DD1, "HEXAGRAM FOR ", "WORK ON THE DECAYED, APPROACH, CONTEMPLATION, BITING THROUGH, GRACE"⟩,
  ⟨0x4DD6, "HEXAGRAM FOR ", "SPLITTING APART, RETURN, INNOCENCE, GREAT TAMING, MOUTH CORNERS"⟩,
  ⟨0x4DDB, "HEXAGRAM FOR ", "GREAT PREPONDERANCE, THE ABYSMAL WATER, THE CLINGING FIRE, INFLUENCE"⟩,
  ⟨0x4DDF, "HEXAGRAM FOR ", "DURATION, RETREAT, GREAT POWER, PROGRESS, DARKENING OF THE LIGHT"⟩,
  ⟨0x4DE4, "HEXAGRAM FOR ", "THE FAMILY, OPPOSITION, OBSTRUCTION, DELIVERANCE"⟩,
  ⟨0x4DE8, "HEXAGRAM FOR ", "DECREASE, INCREASE, BREAKTHROUGH, COMING TO MEET, GATHERING TOGETHER"⟩,
  ⟨0x4DED, "HEXAGRAM FOR ", "PUSHING UPWARD, OPPRESSION, THE WELL, REVOLUTION, THE CAULDRON"⟩,
  ⟨0x4DF2, "HEXAGRAM FOR ", "THE AROUSING THUNDER, THE KEEPING STILL MOUNTAIN, DEVELOPMENT"⟩,
  ⟨0x4DF5, "HEXAGRAM FOR ", "THE MARRYING MAIDEN, ABUNDANCE, THE WANDERER, THE GENTLE WIND"⟩,
  ⟨0x4DF9, "HEXAGRAM FOR ", "THE JOYOUS LAKE, DISPERSION, LIMITATION, INNER TRUTH"⟩,
  ⟨0x4DFD, "HEXAGRAM FOR ", "SMALL PREPONDERANCE, AFTER COMPLETION, BEFORE COMPLETION"⟩,
  ⟨0xA000, "YI SYLLABLE ", "IT, IX, I, IP, IET, IEX, IE, IEP, AT, AX, A, AP, UOX, UO, UOP"⟩,
  ⟨0xA00F, "YI SYLLABLE ", "OT, OX, O, OP, EX, E, WU, BIT, BIX, BI, BIP, BIET, BIEX, BIE, BIEP"⟩,
  ⟨0xA01E, "YI SYLLABLE ", "BAT, BAX, BA, BAP, BUOX, BUO, BUOP, BOT, BOX, BO, BOP, BEX, BE, BEP"⟩,
  ⟨0xA02C, "YI SYLLABLE ", "BUT, BUX, BU, BUP, BURX, BUR, BYT, BYX, BY, BYP, BYRX, BYR, PIT, PIX"⟩,
  ⟨0xA03A, "YI SYLLABLE ", "PI, PIP, PIEX, PIE, PIEP, PAT, PAX, PA, PAP, PUOX, PUO, PUOP, POT"⟩,
  ⟨0xA047, "YI SYLLABLE ", "POX, PO, POP, PUT, PUX, PU, PUP, PURX, PUR, PYT, PYX, PY, PYP, PYRX"⟩,
  ⟨0xA055, "YI SYLLABLE ", "PYR, BBIT, BBIX, BBI, BBIP, BBIET, BBIEX, BBIE, BBIEP, BBAT, BBAX"⟩,
  ⟨0xA060, "YI SYLLABLE ", "BBA, BBAP, BBUOX, BBUO, BBUOP, BBOT, BBOX, BBO, BBOP, BBEX, BBE, BBEP"⟩,
  ⟨0xA06C, "YI SYLLABLE ", "BBUT, BBUX, BBU, BBUP, BBURX, BBUR, BBYT, BBYX, BBY, BBYP, NBIT, NBIX"⟩,
  ⟨0xA078, "YI SYLLABLE ", "NBI, NBIP, NBIEX, NBIE, NBIEP, NBAT, NBAX, NBA, NBAP, NBOT, NBOX"⟩,
  ⟨0xA083, "YI SYLLABLE ", "NBO, NBOP, NBUT, NBUX, NBU, NBUP, NBURX, NBUR, NBYT, NBYX, NBY, NBYP"⟩,
  ⟨0xA08F, "YI SYLLABLE ", "NBYRX, NBYR, HMIT, HMIX, HMI, HMIP, HMIEX, HMIE, HMIEP, HMAT, HMAX"⟩,
  ⟨0xA09A, "YI SYLLABLE ", "HMA, HMAP, HMUOX, HMUO, HMUOP, HMOT, HMOX, HMO, HMOP, HMUT, HMUX"⟩,
  ⟨0xA0A5, "YI SYLLABLE ", "HMU, HMUP, HMURX, HMUR, HMYX, HMY, HMYP, HMYRX, HMYR, MIT, MIX, MI"⟩,
  ⟨0xA0B1, "YI SYLLABLE ", "MIP, MIEX, MIE, MIEP, MAT, MAX, MA, MAP, MUOT, MUOX, MUO, MUOP, MOT"⟩,
  ⟨0xA0BE, "YI SYLLABLE ", "MOX, MO, MOP, MEX, ME, MUT, MUX, MU, MUP, MURX, MUR, MYT, MYX, MY"⟩,
  ⟨0xA0CC, "YI SYLLABLE ", "MYP, FIT, FIX, FI, FIP, FAT, FAX, FA, FAP, FOX, FO, FOP, FUT, FUX, FU"⟩,
  ⟨0xA0DB, "YI SYLLABLE ", "FUP, FURX, FUR, FYT, FYX, FY, FYP, VIT, VIX, VI, VIP, VIET, VIEX, VIE"⟩,
  ⟨0xA0E9, "YI SYLLABLE ", "VIEP, VAT, VAX, VA, VAP, VOT, VOX, VO, VOP, VEX, VEP, VUT, VUX, VU"⟩,
  ⟨0xA0F7, "YI SYLLABLE ", "VUP, VURX, VUR, VYT, VYX, VY, VYP, VYRX, VYR, DIT, DIX, DI, DIP, DIEX"⟩,
  ⟨0xA105, "YI SYLLABLE ", "DIE, DIEP, DAT, DAX, DA, DAP, DUOX, DUO, DOT, DOX, DO, DOP, DEX, DE"⟩,
  ⟨0xA113, "YI SYLLABLE ", "DEP, DUT, DUX, DU, DUP, DURX, DUR, TIT, TIX, TI, TIP, TIEX, TIE, TIEP"⟩,
  ⟨0xA121, "YI SYLLABLE ", "TAT, TAX, TA, TAP, TUOT, TUOX, TUO, TUOP, TOT, TOX, TO, TOP, TEX, TE"⟩,
  ⟨0xA12F, "YI SYLLABLE ", "TEP, TUT, TUX, TU, TUP, TURX, TUR, DDIT, DDIX, DDI, DDIP, DDIEX, DDIE"⟩,
  ⟨0xA13C, "YI SYLLABLE ", "DDIEP, DDAT, DDAX, DDA, DDAP, DDUOX, DDUO, DDUOP, DDOT, DDOX, DDO"⟩,
  ⟨0xA147, "YI SYLLABLE ", "DDOP, DDEX, DDE, DDEP, DDUT, DDUX, DDU, DDUP, DDURX, DDUR, NDIT, NDIX"⟩,
  ⟨0xA153, "YI SYLLABLE ", "NDI, NDIP, NDIEX, NDIE, NDAT, NDAX, NDA, NDAP, NDOT, NDOX, NDO, NDOP"⟩,
  ⟨0xA15F, "YI SYLLABLE ", "NDEX, NDE, NDEP, NDUT, NDUX, NDU, NDUP, NDURX, NDUR, HNIT, HNIX, HNI"⟩,
  ⟨0xA16B, "YI SYLLABLE ", "HNIP, HNIET, HNIEX, HNIE, HNIEP, HNAT, HNAX, HNA, HNAP, HNUOX, HNUO"⟩,
  ⟨0xA176, "YI SYLLABLE ", "HNOT, HNOX, HNOP, HNEX, HNE, HNEP, HNUT, NIT, NIX, NI, NIP, NIEX"⟩,
  ⟨0xA182, "YI SYLLABLE ", "NIE, NIEP, NAX, NA, NAP, NUOX, NUO, NUOP, NOT, NOX, NO, NOP, NEX"⟩,
  ⟨0xA18F, "YI SYLLABLE ", "NE, NEP, NUT, NUX, NU, NUP, NURX, NUR, HLIT, HLIX, HLI, HLIP, HLIEX"⟩,
  ⟨0xA19C, "YI SYLLABLE ", "HLIE, HLIEP, HLAT, HLAX, HLA, HLAP, HLUOX, HLUO, HLUOP, HLOX, HLO"⟩,
  ⟨0xA1A7, "YI SYLLABLE ", "HLOP, HLEX, HLE, HLEP, HLUT, HLUX, HLU, HLUP, HLURX, HLUR, HLYT, HLYX"⟩,
  ⟨0xA1B3, "YI SYLLABLE ", "HLY, HLYP, HLYRX, HLYR, LIT, LIX, LI, LIP, LIET, LIEX, LIE, LIEP, LAT"⟩,
  ⟨0xA1C0, "YI SYLLABLE ", "LAX, LA, LAP, LUOT, LUOX, LUO, LUOP, LOT, LOX, LO, LOP, LEX, LE, LEP"⟩,
  ⟨0xA1CE, "YI SYLLABLE ", "LUT, LUX, LU, LUP, LURX, LUR, LYT, LYX, LY, LYP, LYRX, LYR, GIT, GIX"⟩,
  ⟨0xA1DC, "YI SYLLABLE ", "GI, GIP, GIET, GIEX, GIE, GIEP, GAT, GAX, GA, GAP, GUOT, GUOX, GUO"⟩,
  ⟨0xA1E9, "YI SYLLABLE ", "GUOP, GOT, GOX, GO, GOP, GET, GEX, GE, GEP, GUT, GUX, GU, GUP, GURX"⟩,
  ⟨0xA1F7, "YI SYLLABLE ", "GUR, KIT, KIX, KI, KIP, KIEX, KIE, KIEP, KAT, KAX, KA, KAP, KUOX"⟩,
  ⟨0xA204, "YI SYLLABLE ", "KUO, KUOP, KOT, KOX, KO, KOP, KET, KEX, KE, KEP, KUT, KUX, KU, KUP"⟩,
  ⟨0xA212, "YI SYLLABLE ", "KURX, KUR, GGIT, GGIX, GGI, GGIEX, GGIE, GGIEP, GGAT, GGAX, GGA, GGAP"⟩,
  ⟨0xA21E, "YI SYLLABLE ", "GGUOT, GGUOX, GGUO, GGUOP, GGOT, GGOX, GGO, GGOP, GGET, GGEX, GGE"⟩,
  ⟨0xA229, "YI SYLLABLE ", "GGEP, GGUT, GGUX, GGU, GGUP, GGURX, GGUR, MGIEX, MGIE, MGAT, MGAX"⟩,
  ⟨0xA234, "YI SYLLABLE ", "MGA, MGAP, MGUOX, MGUO, MGUOP, MGOT, MGOX, MGO, MGOP, MGEX, MGE, MGEP"⟩,
  ⟨0xA240, "YI SYLLABLE ", "MGUT, MGUX, MGU, MGUP, MGURX, MGUR, HXIT, HXIX, HXI, HXIP, HXIET"⟩,
  ⟨0xA24B, "YI SYLLABLE ", "HXIEX, HXIE, HXIEP, HXAT, HXAX, HXA, HXAP, HXUOT, HXUOX, HXUO, HXUOP"⟩,
  ⟨0xA256, "YI SYLLABLE ", "HXOT, HXOX, HXO, HXOP, HXEX, HXE, HXEP, NGIEX, NGIE, NGIEP, NGAT"⟩,
  ⟨0xA261, "YI SYLLABLE ", "NGAX, NGA, NGAP, NGUOT, NGUOX, NGUO, NGOT, NGOX, NGO, NGOP, NGEX"⟩,
  ⟨0xA26C, "YI SYLLABLE ", "NGE, NGEP, HIT, HIEX, HIE, HAT, HAX, HA, HAP, HUOT, HUOX, HUO, HUOP"⟩,
  ⟨0xA279, "YI SYLLABLE ", "HOT, HOX, HO, HOP, HEX, HE, HEP, WAT, WAX, WA, WAP, WUOX, WUO, WUOP"⟩,
  ⟨0xA287, "YI SYLLABLE ", "WOX, WO, WOP, WEX, WE, WEP, ZIT, ZIX, ZI, ZIP, ZIEX, ZIE, ZIEP, ZAT"⟩,
  ⟨0xA295, "YI SYLLABLE ", "ZAX, ZA, ZAP, ZUOX, ZUO, ZUOP, ZOT, ZOX, ZO, ZOP, ZEX, ZE, ZEP, ZUT"⟩,
  ⟨0xA2A3, "YI SYLLABLE ", "ZUX, ZU, ZUP, ZURX, ZUR, ZYT, ZYX, ZY, ZYP, ZYRX, ZYR, CIT, CIX, CI"⟩,
  ⟨0xA2B1, "YI SYLLABLE ", "CIP, CIET, CIEX, CIE, CIEP, CAT, CAX, CA, CAP, CUOX, CUO, CUOP, COT"⟩,
  ⟨0xA2BE, "YI SYLLABLE ", "COX, CO, COP, CEX, CE, CEP, CUT, CUX, CU, CUP, CURX, CUR, CYT, CYX"⟩,
  ⟨0xA2CC, "YI SYLLABLE ", "CY, CYP, CYRX, CYR, ZZIT, ZZIX, ZZI, ZZIP, ZZIET, ZZIEX, ZZIE, ZZIEP"⟩,
  ⟨0xA2D8, "YI SYLLABLE ", "ZZAT, ZZAX, ZZA, ZZAP, ZZOX, ZZO, ZZOP, ZZEX, ZZE, ZZEP, ZZUX, ZZU"⟩,
  ⟨0xA2E4, "YI SYLLABLE ", "ZZUP, ZZURX, ZZUR, ZZYT, ZZYX, ZZY, ZZYP, ZZYRX, ZZYR, NZIT, NZIX"⟩,
  ⟨0xA2EF, "YI SYLLABLE ", "NZI, NZIP, NZIEX, NZIE, NZIEP, NZAT, NZAX, NZA, NZAP, NZUOX, NZUO"⟩,
  ⟨0xA2FA, "YI SYLLABLE ", "NZOX, NZOP, NZEX, NZE, NZUX, NZU, NZUP, NZURX, NZUR, NZYT, NZYX, NZY"⟩,
  ⟨0xA306, "YI SYLLABLE ", "NZYP, NZYRX, NZYR, SIT, SIX, SI, SIP, SIEX, SIE, SIEP, SAT, SAX, SA"⟩,
  ⟨0xA313, "YI SYLLABLE ", "SAP, SUOX, SUO, SUOP, SOT, SOX, SO, SOP, SEX, SE, SEP, SUT, SUX, SU"⟩,
  ⟨0xA321, "YI SYLLABLE ", "SUP, SURX, SUR, SYT, SYX, SY, SYP, SYRX, SYR, SSIT, SSIX, SSI, SSIP"⟩,
  ⟨0xA32E, "YI SYLLABLE ", "SSIEX, SSIE, SSIEP, SSAT, SSAX, SSA, SSAP, SSOT, SSOX, SSO, SSOP"⟩,
  ⟨0xA339, "YI SYLLABLE ", "SSEX, SSE, SSEP, SSUT, SSUX, SSU, SSUP, SSYT, SSYX, SSY, SSYP, SSYRX"⟩,
  ⟨0xA345, "YI SYLLABLE ", "SSYR, ZHAT, ZHAX, ZHA, ZHAP, ZHUOX, ZHUO, ZHUOP, ZHOT, ZHOX, ZHO"⟩,
  ⟨0xA350, "YI SYLLABLE ", "ZHOP, ZHET, ZHEX, ZHE, ZHEP, ZHUT, ZHUX, ZHU, ZHUP, ZHURX, ZHUR, ZHYT"⟩,
  ⟨0xA35C, "YI SYLLABLE ", "ZHYX, ZHY, ZHYP, ZHYRX, ZHYR, CHAT, CHAX, CHA, CHAP, CHUOT, CHUOX"⟩,
  ⟨0xA367, "YI SYLLABLE ", "CHUO, CHUOP, CHOT, CHOX, CHO, CHOP, CHET, CHEX, CHE, CHEP, CHUX"⟩,
  ⟨0xA372, "YI SYLLABLE ", "CHU, CHUP, CHURX, CHUR, CHYT, CHYX, CHY, CHYP, CHYRX, CHYR, RRAX, RRA"⟩,
  ⟨0xA37E, "YI SYLLABLE ", "RRUOX, RRUO, RROT, RROX, RRO, RROP, RRET, RREX, RRE, RREP, RRUT, RRUX"⟩,
  ⟨0xA38A, "YI SYLLABLE ", "RRU, RRUP, RRURX, RRUR, RRYT, RRYX, RRY, RRYP, RRYRX, RRYR, NRAT"⟩,
  ⟨0xA395, "YI SYLLABLE ", "NRAX, NRA, NRAP, NROX, NRO, NROP, NRET, NREX, NRE, NREP, NRUT, NRUX"⟩,
  ⟨0xA3A1, "YI SYLLABLE ", "NRU, NRUP, NRURX, NRUR, NRYT, NRYX, NRY, NRYP, NRYRX, NRYR, SHAT"⟩,
  ⟨0xA3AC, "YI SYLLABLE ", "SHAX, SHA, SHAP, SHUOX, SHUO, SHUOP, SHOT, SHOX, SHO, SHOP, SHET"⟩,
  ⟨0xA3B7, "YI SYLLABLE ", "SHEX, SHE, SHEP, SHUT, SHUX, SHU, SHUP, SHURX, SHUR, SHYT, SHYX, SHY"⟩,
  ⟨0xA3C3, "YI SYLLABLE ", "SHYP, SHYRX, SHYR, RAT, RAX, RA, RAP, RUOX, RUO, RUOP, ROT, ROX, RO"⟩,
  ⟨0xA3D0, "YI SYLLABLE ", "ROP, REX, RE, REP, RUT, RUX, RU, RUP, RURX, RUR, RYT, RYX, RY, RYP"⟩,
  ⟨0xA3DE, "YI SYLLABLE ", "RYRX, RYR, JIT, JIX, JI, JIP, JIET, JIEX, JIE, JIEP, JUOT, JUOX, JUO"⟩,
  ⟨0xA3EB, "YI SYLLABLE ", "JUOP, JOT, JOX, JO, JOP, JUT, JUX, JU, JUP, JURX, JUR, JYT, JYX, JY"⟩,
  ⟨0xA3F9, "YI SYLLABLE ", "JYP, JYRX, JYR, QIT, QIX, QI, QIP, QIET, QIEX, QIE, QIEP, QUOT, QUOX"⟩,
  ⟨0xA406, "YI SYLLABLE ", "QUO, QUOP, QOT, QOX, QO, QOP, QUT, QUX, QU, QUP, QURX, QUR, QYT, QYX"⟩,
  ⟨0xA414, "YI SYLLABLE ", "QY, QYP, QYRX, QYR, JJIT, JJIX, JJI, JJIP, JJIET, JJIEX, JJIE, JJIEP"⟩,
  ⟨0xA420, "YI SYLLABLE ", "JJUOX, JJUO, JJUOP, JJOT, JJOX, JJO, JJOP, JJUT, JJUX, JJU, JJUP"⟩,
  ⟨0xA42B, "YI SYLLABLE ", "JJURX, JJUR, JJYT, JJYX, JJY, JJYP, NJIT, NJIX, NJI, NJIP, NJIET"⟩,
  ⟨0xA436, "YI SYLLABLE ", "NJIEX, NJIE, NJIEP, NJUOX, NJUO, NJOT, NJOX, NJO, NJOP, NJUX, NJU"⟩,
  ⟨0xA441, "YI SYLLABLE ", "NJUP, NJURX, NJUR, NJYT, NJYX, NJY, NJYP, NJYRX, NJYR, NYIT, NYIX"⟩,
  ⟨0xA44C, "YI SYLLABLE ", "NYI, NYIP, NYIET, NYIEX, NYIE, NYIEP, NYUOX, NYUO, NYUOP, NYOT, NYOX"⟩,
  ⟨0xA457, "YI SYLLABLE ", "NYO, NYOP, NYUT, NYUX, NYU, NYUP, XIT, XIX, XI, XIP, XIET, XIEX, XIE"⟩,
  ⟨0xA464, "YI SYLLABLE ", "XIEP, XUOX, XUO, XOT, XOX, XO, XOP, XYT, XYX, XY, XYP, XYRX, XYR, YIT"⟩,
  ⟨0xA472, "YI SYLLABLE ", "YIX, YI, YIP, YIET, YIEX, YIE, YIEP, YUOT, YUOX, YUO, YUOP, YOT, YOX"⟩,
  ⟨0xA47F, "YI SYLLABLE ", "YO, YOP, YUT, YUX, YU, YUP, YURX, YUR, YYT, YYX, YY, YYP, YYRX, YYR"⟩,
  ⟨0xA490, "YI RADICAL ", "QOT, LI, KIT, NYIP, CYP, SSI, GGOP, GEP, MI, HXIT, LYR, BBUT, MOP, YO"⟩,
  ⟨0xA49E, "YI RADICAL ", "PUT, HXUO, TAT, GA, ZUP, CYT, DDUR, BUR, GGUO, NYOP, TU, OP, JJUT, ZOT"⟩,
  ⟨0xA4AC, "YI RADICAL ", "PYT, HMO, YIT, VUR, SHY, VEP, ZA, JO, NZUP, JJY, GOT, JJIE, WO, DU"⟩,
  ⟨0xA4BA, "YI RADICAL ", "SHUR, LIE, CY, CUOP, CIP, HXOP, SHAT, ZUR, SHOP, CHE, ZZIET, NBIE, KE"⟩,
  ⟨0x16FE0, "", "TANGUT ITERATION MARK, NUSHU ITERATION MARK"⟩,
  ⟨0x16FE2, "", "OLD CHINESE HOOK MARK, OLD CHINESE ITERATION MARK, KHITAN SMALL SCRIPT FILLER"⟩,
  ⟨0x16FF0, "VIETNAMESE ALTERNATE READING MARK ", "CA, NHAY"⟩,
  ⟨0x18800, "", "TANGUT COMPONENT-001"⟩,
  ⟨0x18801, "TANGUT COMPONENT-", "002, 003, 004, 005, 006, 007, 008, 009, 010, 011, 012, 013, 014"⟩,
  ⟨0x1880E, "TANGUT COMPONENT-", "015, 016, 017, 018, 019, 020, 021, 022, 023, 024, 025, 026, 027"⟩,
  ⟨0x1881B, "TANGUT COMPONENT-", "028, 029, 030, 031, 032, 033, 034, 035, 036, 037, 038, 039, 040"⟩,
  ⟨0x18828, "TANGUT COMPONENT-", "041, 042, 043, 044, 045, 046, 047, 048, 049, 050, 051, 052, 053"⟩,
  ⟨0x18835, "TANGUT COMPONENT-", "054, 055, 056, 057, 058, 059, 060, 061, 062, 063, 064, 065, 066"⟩,
  ⟨0x18842, "TANGUT COMPONENT-", "067, 068, 069, 070, 071, 072, 073, 074, 075, 076, 077, 078, 079"⟩,
  ⟨0x1884F, "TANGUT COMPONENT-", "080, 081, 082, 083, 084, 085, 086, 087, 088, 089, 090, 091, 092"⟩,
  ⟨0x1885C, "TANGUT COMPONENT-", "093, 094, 095, 096, 097, 098, 099, 100, 101, 102, 103, 104, 105"⟩,
  ⟨0x18869, "TANGUT COMPONENT-", "106, 107, 108, 109, 110, 111, 112, 113, 114, 115, 116, 117, 118"⟩,
  ⟨0x18876, "TANGUT COMPONENT-", "119, 120, 121, 122, 123, 124, 125, 126, 127, 128, 129, 130, 131"⟩,
  ⟨0x18883, "TANGUT COMPONENT-", "132, 133, 134, 135, 136, 137, 138, 139, 140, 141, 142, 143, 144"⟩,
  ⟨0x18890, "TANGUT COMPONENT-", "145, 146, 147, 148, 149, 150, 151, 152, 153, 154, 155, 156, 157"⟩,
  ⟨0x1889D, "TANGUT COMPONENT-", "158, 159, 160, 161, 162, 163, 164, 165, 166, 167, 168, 169, 170"⟩,
  ⟨0x188AA, "TANGUT COMPONENT-", "171, 172, 173, 174, 175, 176, 177, 178, 179, 180, 181, 182, 183"⟩,
  ⟨0x188B7, "TANGUT COMPONENT-", "184, 185, 186, 187, 188, 189, 190, 191, 192, 193, 194, 195, 196"⟩,
  ⟨0x188C4, "TANGUT COMPONENT-", "197, 198, 199, 200, 201, 202, 203, 204, 205, 206, 207, 208, 209"⟩,
  ⟨0x188D1, "TANGUT COMPONENT-", "210, 211, 212, 213, 214, 215, 216, 217, 218, 219, 220, 221, 222"⟩,
  ⟨0x188DE, "TANGUT COMPONENT-", "223, 224, 225, 226, 227, 228, 229, 230, 231, 232, 233, 234, 235"⟩,
  ⟨0x188EB, "TANGUT COMPONENT-", "236, 237, 238, 239, 240, 241, 242, 243, 244, 245, 246, 247, 248"⟩,
  ⟨0x188F8, "TANGUT COMPONENT-", "249, 250, 251, 252, 253, 254, 255, 256, 257, 258, 259, 260, 261"⟩,
  ⟨0x18905, "TANGUT COMPONENT-", "262, 263, 264, 265, 266, 267, 268, 269, 270, 271, 272, 273, 274"⟩,
  ⟨0x18912, "TANGUT COMPONENT-", "275, 276, 277, 278, 279, 280, 281, 282, 283, 284, 285, 286, 287"⟩,
  ⟨0x1891F, "TANGUT COMPONENT-", "288, 289, 290, 291, 292, 293, 294, 295, 296, 297, 298, 299, 300"⟩,
  ⟨0x1892C, "TANGUT COMPONENT-", "301, 302, 303, 304, 305, 306, 307, 308, 309, 310, 311, 312, 313"⟩,
  ⟨0x18939, "TANGUT COMPONENT-", "314, 315, 316, 317, 318, 319, 320, 321, 322, 323, 324, 325, 326"⟩,
  ⟨0x18946, "TANGUT COMPONENT-", "327, 328, 329, 330, 331, 332, 333, 334, 335, 336, 337, 338, 339"⟩,
  ⟨0x18953, "TANGUT COMPONENT-", "340, 341, 342, 343, 344, 345, 346, 347, 348, 349, 350, 351, 352"⟩,
  ⟨0x18960, "TANGUT COMPONENT-", "353, 354, 355, 356, 357, 358, 359, 360, 361, 362, 363, 364, 365"⟩,
  ⟨0x1896D, "TANGUT COMPONENT-", "366, 367, 368, 369, 370, 371, 372, 373, 374, 375, 376, 377, 378"⟩,
  ⟨0x1897A, "TANGUT COMPONENT-", "379, 380, 381, 382, 383, 384, 385, 386, 387, 388, 389, 390, 391"⟩,
  ⟨0x18987, "TANGUT COMPONENT-", "392, 393, 394, 395, 396, 397, 398, 399, 400, 401, 402, 403, 404"⟩,
  ⟨0x18994, "TANGUT COMPONENT-", "405, 406, 407, 408, 409, 410, 411, 412, 413, 414, 415, 416, 417"⟩,
  ⟨0x189A1, "TANGUT COMPONENT-", "418, 419, 420, 421, 422, 423, 424, 425, 426, 427, 428, 429, 430"⟩,
  ⟨0x189AE, "TANGUT COMPONENT-", "431, 432, 433, 434, 435, 436, 437, 438, 439, 440, 441, 442, 443"⟩,
  ⟨0x189BB, "TANGUT COMPONENT-", "444, 445, 446, 447, 448, 449, 450, 451, 452, 453, 454, 455, 456"⟩,
  ⟨0x189C8, "TANGUT COMPONENT-", "457, 458, 459, 460, 461, 462, 463, 464, 465, 466, 467, 468, 469"⟩,
  ⟨0x189D5, "TANGUT COMPONENT-", "470, 471, 472, 473, 474, 475, 476, 477, 478, 479, 480, 481, 482"⟩,
  ⟨0x189E2, "TANGUT COMPONENT-", "483, 484, 485, 486, 487, 488, 489, 490, 491, 492, 493, 494, 495"⟩,
  ⟨0x189EF, "TANGUT COMPONENT-", "496, 497, 498, 499, 500, 501, 502, 503, 504, 505, 506, 507, 508"⟩,
  ⟨0x189FC, "TANGUT COMPONENT-", "509, 510, 511, 512, 513, 514, 515, 516, 517, 518, 519, 520, 521"⟩,
  ⟨0x18A09, "TANGUT COMPONENT-", "522, 523, 524, 525, 526, 527, 528, 529, 530, 531, 532, 533, 534"⟩,
  ⟨0x18A16, "TANGUT COMPONENT-", "535, 536, 537, 538, 539, 540, 541, 542, 543, 544, 545, 546, 547"⟩,
  ⟨0x18A23, "TANGUT COMPONENT-", "548, 549, 550, 551, 552, 553, 554, 555, 556, 557, 558, 559, 560"⟩,
  ⟨0x18A30, "TANGUT COMPONENT-", "561, 562, 563, 564, 565, 566, 567, 568, 569, 570, 571, 572, 573"⟩,
  ⟨0x18A3D, "TANGUT COMPONENT-", "574, 575, 576, 577, 578, 579, 580, 581, 582, 583, 584, 585, 586"⟩,
  ⟨0x18A4A, "TANGUT COMPONENT-", "587, 588, 589, 590, 591, 592, 593, 594, 595, 596, 597, 598, 599"⟩,
  ⟨0x18A57, "TANGUT COMPONENT-", "600, 601, 602, 603, 604, 605, 606, 607, 608, 609, 610, 611, 612"⟩,
  ⟨0x18A64, "TANGUT COMPONENT-", "613, 614, 615, 616, 617, 618, 619, 620, 621, 622, 623, 624, 625"⟩,
  ⟨0x18A71, "TANGUT COMPONENT-", "626, 627, 628, 629, 630, 631, 632, 633, 634, 635, 636, 637, 638"⟩,
  ⟨0x18A7E, "TANGUT COMPONENT-", "639, 640, 641, 642, 643, 644, 645, 646, 647, 648, 649, 650, 651"⟩,
  ⟨0x18A8B, "TANGUT COMPONENT-", "652, 653, 654, 655, 656, 657, 658, 659, 660, 661, 662, 663, 664"⟩,
  ⟨0x18A98, "TANGUT COMPONENT-", "665, 666, 667, 668, 669, 670, 671, 672, 673, 674, 675, 676, 677"⟩,
  ⟨0x18AA5, "TANGUT COMPONENT-", "678, 679, 680, 681, 682, 683, 684, 685, 686, 687, 688, 689, 690"⟩,
  ⟨0x18AB2, "TANGUT COMPONENT-", "691, 692, 693, 694, 695, 696, 697, 698, 699, 700, 701, 702, 703"⟩,
  ⟨0x18ABF, "TANGUT COMPONENT-", "704, 705, 706, 707, 708, 709, 710, 711, 712, 713, 714, 715, 716"⟩,
  ⟨0x18ACC, "TANGUT COMPONENT-", "717, 718, 719, 720, 721, 722, 723, 724, 725, 726, 727, 728, 729"⟩,
  ⟨0x18AD9, "TANGUT COMPONENT-", "730, 731, 732, 733, 734, 735, 736, 737, 738, 739, 740, 741, 742"⟩,
  ⟨0x18AE6, "TANGUT COMPONENT-", "743, 744, 745, 746, 747, 748, 749, 750, 751, 752, 753, 754, 755"⟩,
  ⟨0x18AF3, "TANGUT COMPONENT-", "756, 757, 758, 759, 760, 761, 762, 763, 764, 765, 766, 767, 768"⟩]

end BatchExec
