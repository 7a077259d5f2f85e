import BatchExec.Text.CharacterName.Row

/-!
# Hieroglyphs

The names of Egyptian and Anatolian hieroglyphs.
-/

namespace BatchExec

/-- The names of Egyptian and Anatolian hieroglyphs. -/
def hieroglyphicNames : List NameRow := [
  ⟨0x13000, "EGYPTIAN HIEROGLYPH ", "A001, A002, A003, A004"⟩,
  ⟨0x13004, "EGYPTIAN HIEROGLYPH ", "A005, A005A, A006, A006A, A006B, A007, A008, A009, A010"⟩,
  ⟨0x1300D, "EGYPTIAN HIEROGLYPH ", "A011, A012, A013, A014, A014A, A015, A016, A017, A017A, A018"⟩,
  ⟨0x13017, "EGYPTIAN HIEROGLYPH ", "A019, A020, A021, A022, A023, A024, A025, A026, A027, A028"⟩,
  ⟨0x13021, "EGYPTIAN HIEROGLYPH ", "A029, A030, A031, A032, A032A, A033, A034, A035, A036, A037"⟩,
  ⟨0x1302B, "EGYPTIAN HIEROGLYPH ", "A038, A039, A040, A040A, A041, A042, A042A, A043, A043A"⟩,
  ⟨0x13034, "EGYPTIAN HIEROGLYPH ", "A044, A045, A045A, A046, A047, A048, A049, A050, A051, A052"⟩,
  ⟨0x1303E, "EGYPTIAN HIEROGLYPH ", "A053, A054, A055, A056, A057, A058, A059, A060, A061, A062"⟩,
  ⟨0x13048, "EGYPTIAN HIEROGLYPH ", "A063, A064, A065, A066, A067, A068, A069, A070, B001, B002"⟩,
  ⟨0x13052, "EGYPTIAN HIEROGLYPH ", "B003, B004, B005, B005A, B006, B007, B008, B009, C001, C002"⟩,
  ⟨0x1305C, "EGYPTIAN HIEROGLYPH ", "C002A, C002B, C002C, C003, C004, C005, C006, C007, C008"⟩,
  ⟨0x13065, "EGYPTIAN HIEROGLYPH ", "C009, C010, C010A, C011, C012, C013, C014, C015, C016, C017"⟩,
  ⟨0x1306F, "EGYPTIAN HIEROGLYPH ", "C018, C019, C020, C021, C022, C023, C024, D001, D002, D003"⟩,
  ⟨0x13079, "EGYPTIAN HIEROGLYPH ", "D004, D005, D006, D007, D008, D008A, D009, D010, D011, D012"⟩,
  ⟨0x13083, "EGYPTIAN HIEROGLYPH ", "D013, D014, D015, D016, D017, D018, D019, D020, D021, D022"⟩,
  ⟨0x1308D, "EGYPTIAN HIEROGLYPH ", "D023, D024, D025, D026, D027, D027A, D028, D029, D030, D031"⟩,
  ⟨0x13097, "EGYPTIAN HIEROGLYPH ", "D031A, D032, D033, D034, D034A, D035, D036, D037, D038, D039"⟩,
  ⟨0x130A1, "EGYPTIAN HIEROGLYPH ", "D040, D041, D042, D043, D044, D045, D046, D046A, D047, D048"⟩,
  ⟨0x130AB, "EGYPTIAN HIEROGLYPH ", "D048A, D049, D050, D050A, D050B, D050C, D050D, D050E, D050F"⟩,
  ⟨0x130B4, "EGYPTIAN HIEROGLYPH ", "D050G, D050H, D050I, D051, D052, D052A, D053, D054, D054A"⟩,
  ⟨0x130BD, "EGYPTIAN HIEROGLYPH ", "D055, D056, D057, D058, D059, D060, D061, D062, D063, D064"⟩,
  ⟨0x130C7, "EGYPTIAN HIEROGLYPH ", "D065, D066, D067, D067A, D067B, D067C, D067D, D067E, D067F"⟩,
  ⟨0x130D0, "EGYPTIAN HIEROGLYPH ", "D067G, D067H, E001, E002, E003, E004, E005, E006, E007"⟩,
  ⟨0x130D9, "EGYPTIAN HIEROGLYPH ", "E008, E008A, E009, E009A, E010, E011, E012, E013, E014, E015"⟩,
  ⟨0x130E3, "EGYPTIAN HIEROGLYPH ", "E016, E016A, E017, E017A, E018, E019, E020, E020A, E021"⟩,
  ⟨0x130EC, "EGYPTIAN HIEROGLYPH ", "E022, E023, E024, E025, E026, E027, E028, E028A, E029, E030"⟩,
  ⟨0x130F6, "EGYPTIAN HIEROGLYPH ", "E031, E032, E033, E034, E034A, E036, E037, E038, F001, F001A"⟩,
  ⟨0x13100, "EGYPTIAN HIEROGLYPH ", "F002, F003, F004, F005, F006, F007, F008, F009, F010, F011"⟩,
  ⟨0x1310A, "EGYPTIAN HIEROGLYPH ", "F012, F013, F013A, F014, F015, F016, F017, F018, F019, F020"⟩,
  ⟨0x13114, "EGYPTIAN HIEROGLYPH ", "F021, F021A, F022, F023, F024, F025, F026, F027, F028, F029"⟩,
  ⟨0x1311E, "EGYPTIAN HIEROGLYPH ", "F030, F031, F031A, F032, F033, F034, F035, F036, F037, F037A"⟩,
  ⟨0x13128, "EGYPTIAN HIEROGLYPH ", "F038, F038A, F039, F040, F041, F042, F043, F044, F045, F045A"⟩,
  ⟨0x13132, "EGYPTIAN HIEROGLYPH ", "F046, F046A, F047, F047A, F048, F049, F050, F051, F051A"⟩,
  ⟨0x1313B, "EGYPTIAN HIEROGLYPH ", "F051B, F051C, F052, F053, G001, G002, G003, G004, G005, G006"⟩,
  ⟨0x13145, "EGYPTIAN HIEROGLYPH ", "G006A, G007, G007A, G007B, G008, G009, G010, G011, G011A"⟩,
  ⟨0x1314E, "EGYPTIAN HIEROGLYPH ", "G012, G013, G014, G015, G016, G017, G018, G019, G020, G020A"⟩,
  ⟨0x13158, "EGYPTIAN HIEROGLYPH ", "G021, G022, G023, G024, G025, G026, G026A, G027, G028, G029"⟩,
  ⟨0x13162, "EGYPTIAN HIEROGLYPH ", "G030, G031, G032, G033, G034, G035, G036, G036A, G037, G037A"⟩,
  ⟨0x1316C, "EGYPTIAN HIEROGLYPH ", "G038, G039, G040, G041, G042, G043, G043A, G044, G045, G045A"⟩,
  ⟨0x13176, "EGYPTIAN HIEROGLYPH ", "G046, G047, G048, G049, G050, G051, G052, G053, G054, H001"⟩,
  ⟨0x13180, "EGYPTIAN HIEROGLYPH ", "H002, H003, H004, H005, H006, H006A, H007, H008, I001, I002"⟩,
  ⟨0x1318A, "EGYPTIAN HIEROGLYPH ", "I003, I004, I005, I005A, I006, I007, I008, I009, I009A, I010"⟩,
  ⟨0x13194, "EGYPTIAN HIEROGLYPH ", "I010A, I011, I011A, I012, I013, I014, I015, K001, K002, K003"⟩,
  ⟨0x1319E, "EGYPTIAN HIEROGLYPH ", "K004, K005, K006, K007, K008, L001, L002, L002A, L003, L004"⟩,
  ⟨0x131A8, "EGYPTIAN HIEROGLYPH ", "L005, L006, L006A, L007, L008, M001, M001A, M001B, M002"⟩,
  ⟨0x131B1, "EGYPTIAN HIEROGLYPH ", "M003, M003A, M004, M005, M006, M007, M008, M009, M010, M010A"⟩,
  ⟨0x131BB, "EGYPTIAN HIEROGLYPH ", "M011, M012, M012A, M012B, M012C, M012D, M012E, M012F, M012G"⟩,
  ⟨0x131C4, "EGYPTIAN HIEROGLYPH ", "M012H, M013, M014, M015, M015A, M016, M016A, M017, M017A"⟩,
  ⟨0x131CD, "EGYPTIAN HIEROGLYPH ", "M018, M019, M020, M021, M022, M022A, M023, M024, M024A"⟩,
  ⟨0x131D6, "EGYPTIAN HIEROGLYPH ", "M025, M026, M027, M028, M028A, M029, M030, M031, M031A"⟩,
  ⟨0x131DF, "EGYPTIAN HIEROGLYPH ", "M032, M033, M033A, M033B, M034, M035, M036, M037, M038, M039"⟩,
  ⟨0x131E9, "EGYPTIAN HIEROGLYPH ", "M040, M040A, M041, M042, M043, M044, N001, N002, N003, N004"⟩,
  ⟨0x131F3, "EGYPTIAN HIEROGLYPH ", "N005, N006, N007, N008, N009, N010, N011, N012, N013, N014"⟩,
  ⟨0x131FD, "EGYPTIAN HIEROGLYPH ", "N015, N016, N017, N018, N018A, N018B, N019, N020, N021, N022"⟩,
  ⟨0x13207, "EGYPTIAN HIEROGLYPH ", "N023, N024, N025, N025A, N026, N027, N028, N029, N030, N031"⟩,
  ⟨0x13211, "EGYPTIAN HIEROGLYPH ", "N032, N033, N033A, N034, N034A, N035, N035A, N036, N037"⟩,
  ⟨0x1321A, "EGYPTIAN HIEROGLYPH ", "N037A, N038, N039, N040, N041, N042, NL001, NL002, NL003"⟩,
  ⟨0x13223, "EGYPTIAN HIEROGLYPH ", "NL004, NL005, NL005A, NL006, NL007, NL008, NL009, NL010"⟩,
  ⟨0x1322B, "EGYPTIAN HIEROGLYPH ", "NL011, NL012, NL013, NL014, NL015, NL016, NL017, NL017A"⟩,
  ⟨0x13233, "EGYPTIAN HIEROGLYPH ", "NL018, NL019, NL020, NU001, NU002, NU003, NU004, NU005"⟩,
  ⟨0x1323B, "EGYPTIAN HIEROGLYPH ", "NU006, NU007, NU008, NU009, NU010, NU010A, NU011, NU011A"⟩,
  ⟨0x13243, "EGYPTIAN HIEROGLYPH ", "NU012, NU013, NU014, NU015, NU016, NU017, NU018, NU018A"⟩,
  ⟨0x1324B, "EGYPTIAN HIEROGLYPH ", "NU019, NU020, NU021, NU022, NU022A, O001, O001A, O002"⟩,
  ⟨0x13253, "EGYPTIAN HIEROGLYPH ", "O003, O004, O005, O005A, O006, O006A, O006B, O006C, O006D"⟩,
  ⟨0x1325C, "EGYPTIAN HIEROGLYPH ", "O006E, O006F, O007, O008, O009, O010, O010A, O010B, O010C"⟩,
  ⟨0x13265, "EGYPTIAN HIEROGLYPH ", "O011, O012, O013, O014, O015, O016, O017, O018, O019, O019A"⟩,
  ⟨0x1326F, "EGYPTIAN HIEROGLYPH ", "O020, O020A, O021, O022, O023, O024, O024A, O025, O025A"⟩,
  ⟨0x13278, "EGYPTIAN HIEROGLYPH ", "O026, O027, O028, O029, O029A, O030, O030A, O031, O032"⟩,
  ⟨0x13281, "EGYPTIAN HIEROGLYPH ", "O033, O033A, O034, O035, O036, O036A, O036B, O036C, O036D"⟩,
  ⟨0x1328A, "EGYPTIAN HIEROGLYPH ", "O037, O038, O039, O040, O041, O042, O043, O044, O045, O046"⟩,
  ⟨0x13294, "EGYPTIAN HIEROGLYPH ", "O047, O048, O049, O050, O050A, O050B, O051, P001, P001A"⟩,
  ⟨0x1329D, "EGYPTIAN HIEROGLYPH ", "P002, P003, P003A, P004, P005, P006, P007, P008, P009, P010"⟩,
  ⟨0x132A7, "EGYPTIAN HIEROGLYPH ", "P011, Q001, Q002, Q003, Q004, Q005, Q006, Q007, R001, R002"⟩,
  ⟨0x132B1, "EGYPTIAN HIEROGLYPH ", "R002A, R003, R003A, R003B, R004, R005, R006, R007, R008"⟩,
  ⟨0x132BA, "EGYPTIAN HIEROGLYPH ", "R009, R010, R010A, R011, R012, R013, R014, R015, R016, R016A"⟩,
  ⟨0x132C4, "EGYPTIAN HIEROGLYPH ", "R017, R018, R019, R020, R021, R022, R023, R024, R025, R026"⟩,
  ⟨0x132CE, "EGYPTIAN HIEROGLYPH ", "R027, R028, R029, S001, S002, S002A, S003, S004, S005, S006"⟩,
  ⟨0x132D8, "EGYPTIAN HIEROGLYPH ", "S006A, S007, S008, S009, S010, S011, S012, S013, S014, S014A"⟩,
  ⟨0x132E2, "EGYPTIAN HIEROGLYPH ", "S014B, S015, S016, S017, S017A, S018, S019, S020, S021"⟩,
  ⟨0x132EB, "EGYPTIAN HIEROGLYPH ", "S022, S023, S024, S025, S026, S026A, S026B, S027, S028, S029"⟩,
  ⟨0x132F5, "EGYPTIAN HIEROGLYPH ", "S030, S031, S032, S033, S034, S035, S035A, S036, S037, S038"⟩,
  ⟨0x132FF, "EGYPTIAN HIEROGLYPH ", "S039, S040, S041, S042, S043, S044, S045, S046, T001, T002"⟩,
  ⟨0x13309, "EGYPTIAN HIEROGLYPH ", "T003, T003A, T004, T005, T006, T007, T007A, T008, T008A"⟩,
  ⟨0x13312, "EGYPTIAN HIEROGLYPH ", "T009, T009A, T010, T011, T011A, T012, T013, T014, T015"⟩,
  ⟨0x1331B, "EGYPTIAN HIEROGLYPH ", "T016, T016A, T017, T018, T019, T020, T021, T022, T023, T024"⟩,
  ⟨0x13325, "EGYPTIAN HIEROGLYPH ", "T025, T026, T027, T028, T029, T030, T031, T032, T032A, T033"⟩,
  ⟨0x1332F, "EGYPTIAN HIEROGLYPH ", "T033A, T034, T035, T036, U001, U002, U003, U004, U005, U006"⟩,
  ⟨0x13339, "EGYPTIAN HIEROGLYPH ", "U006A, U006B, U007, U008, U009, U010, U011, U012, U013, U014"⟩,
  ⟨0x13343, "EGYPTIAN HIEROGLYPH ", "U015, U016, U017, U018, U019, U020, U021, U022, U023, U023A"⟩,
  ⟨0x1334D, "EGYPTIAN HIEROGLYPH ", "U024, U025, U026, U027, U028, U029, U029A, U030, U031, U032"⟩,
  ⟨0x13357, "EGYPTIAN HIEROGLYPH ", "U032A, U033, U034, U035, U036, U037, U038, U039, U040, U041"⟩,
  ⟨0x13361, "EGYPTIAN HIEROGLYPH ", "U042, V001, V001A, V001B, V001C, V001D, V001E, V001F, V001G"⟩,
  ⟨0x1336A, "EGYPTIAN HIEROGLYPH ", "V001H, V001I, V002, V002A, V003, V004, V005, V006, V007"⟩,
  ⟨0x13373, "EGYPTIAN HIEROGLYPH ", "V007A, V007B, V008, V009, V010, V011, V011A, V011B, V011C"⟩,
  ⟨0x1337C, "EGYPTIAN HIEROGLYPH ", "V012, V012A, V012B, V013, V014, V015, V016, V017, V018, V019"⟩,
  ⟨0x13386, "EGYPTIAN HIEROGLYPH ", "V020, V020A, V020B, V020C, V020D, V020E, V020F, V020G, V020H"⟩,
  ⟨0x1338F, "EGYPTIAN HIEROGLYPH ", "V020I, V020J, V020K, V020L, V021, V022, V023, V023A, V024"⟩,
  ⟨0x13398, "EGYPTIAN HIEROGLYPH ", "V025, V026, V027, V028, V028A, V029, V029A, V030, V030A"⟩,
  ⟨0x133A1, "EGYPTIAN HIEROGLYPH ", "V031, V031A, V032, V033, V033A, V034, V035, V036, V037"⟩,
  ⟨0x133AA, "EGYPTIAN HIEROGLYPH ", "V037A, V038, V039, V040, V040A, W001, W002, W003, W003A"⟩,
  ⟨0x133B3, "EGYPTIAN HIEROGLYPH ", "W004, W005, W006, W007, W008, W009, W009A, W010, W010A"⟩,
  ⟨0x133BC, "EGYPTIAN HIEROGLYPH ", "W011, W012, W013, W014, W014A, W015, W016, W017, W017A, W018"⟩,
  ⟨0x133C6, "EGYPTIAN HIEROGLYPH ", "W018A, W019, W020, W021, W022, W023, W024, W024A, W025, X001"⟩,
  ⟨0x133D0, "EGYPTIAN HIEROGLYPH ", "X002, X003, X004, X004A, X004B, X005, X006, X006A, X007"⟩,
  ⟨0x133D9, "EGYPTIAN HIEROGLYPH ", "X008, X008A, Y001, Y001A, Y002, Y003, Y004, Y005, Y006, Y007"⟩,
  ⟨0x133E3, "EGYPTIAN HIEROGLYPH ", "Y008, Z001, Z002, Z002A, Z002B, Z002C, Z002D, Z003, Z003A"⟩,
  ⟨0x133EC, "EGYPTIAN HIEROGLYPH ", "Z003B, Z004, Z004A, Z005, Z005A, Z006, Z007, Z008, Z009"⟩,
  ⟨0x133F5, "EGYPTIAN HIEROGLYPH ", "Z010, Z011, Z012, Z013, Z014, Z015, Z015A, Z015B, Z015C"⟩,
  ⟨0x133FE, "EGYPTIAN HIEROGLYPH ", "Z015D, Z015E, Z015F, Z015G, Z015H, Z015I, Z016, Z016A, Z016B"⟩,
  ⟨0x13407, "EGYPTIAN HIEROGLYPH ", "Z016C, Z016D, Z016E, Z016F, Z016G, Z016H, AA001, AA002"⟩,
  ⟨0x1340F, "EGYPTIAN HIEROGLYPH ", "AA003, AA004, AA005, AA006, AA007, AA007A, AA007B, AA008"⟩,
  ⟨0x13417, "EGYPTIAN HIEROGLYPH ", "AA009, AA010, AA011, AA012, AA013, AA014, AA015, AA016"⟩,
  ⟨0x1341F, "EGYPTIAN HIEROGLYPH ", "AA017, AA018, AA019, AA020, AA021, AA022, AA023, AA024"⟩,
  ⟨0x13427, "EGYPTIAN HIEROGLYPH ", "AA025, AA026, AA027, AA028, AA029, AA030, AA031, AA032"⟩,
  ⟨0x13430, "EGYPTIAN HIEROGLYPH ", "VERTICAL JOINER, HORIZONTAL JOINER"⟩,
  ⟨0x13432, "EGYPTIAN HIEROGLYPH INSERT AT ", "TOP START, BOTTOM START, TOP END, BOTTOM END"⟩,
  ⟨0x13436, "EGYPTIAN HIEROGLYPH ", "OVERLAY MIDDLE, BEGIN SEGMENT, END SEGMENT"⟩,
  ⟨0x14400, "", "ANATOLIAN HIEROGLYPH A001"⟩,
  ⟨0x14401, "ANATOLIAN HIEROGLYPH ", "A002, A003, A004, A005, A006, A007, A008, A009, A010, A010A"⟩,
  ⟨0x1440B, "ANATOLIAN HIEROGLYPH ", "A011, A012, A013, A014, A015, A016, A017, A018, A019, A020"⟩,
  ⟨0x14415, "ANATOLIAN HIEROGLYPH ", "A021, A022, A023, A024, A025, A026, A026A, A027, A028, A029"⟩,
  ⟨0x1441F, "ANATOLIAN HIEROGLYPH ", "A030, A031, A032, A033, A034, A035, A036, A037, A038, A039"⟩,
  ⟨0x14429, "ANATOLIAN HIEROGLYPH ", "A039A, A040, A041, A041A, A042, A043, A044, A045, A045A"⟩,
  ⟨0x14432, "ANATOLIAN HIEROGLYPH ", "A046, A046A, A046B, A047, A048, A049, A050, A051, A052"⟩,
  ⟨0x1443B, "ANATOLIAN HIEROGLYPH ", "A053, A054, A055, A056, A057, A058, A059, A060, A061, A062"⟩,
  ⟨0x14445, "ANATOLIAN HIEROGLYPH ", "A063, A064, A065, A066, A066A, A066B, A066C, A067, A068"⟩,
  ⟨0x1444E, "ANATOLIAN HIEROGLYPH ", "A069, A070, A071, A072, A073, A074, A075, A076, A077, A078"⟩,
  ⟨0x14458, "ANATOLIAN HIEROGLYPH ", "A079, A080, A081, A082, A083, A084, A085, A086, A087, A088"⟩,
  ⟨0x14462, "ANATOLIAN HIEROGLYPH ", "A089, A090, A091, A092, A093, A094, A095, A096, A097, A097A"⟩,
  ⟨0x1446C, "ANATOLIAN HIEROGLYPH ", "A098, A098A, A099, A100, A100A, A101, A101A, A102, A102A"⟩,
  ⟨0x14475, "ANATOLIAN HIEROGLYPH ", "A103, A104, A104A, A104B, A104C, A105, A105A, A105B, A106"⟩,
  ⟨0x1447E, "ANATOLIAN HIEROGLYPH ", "A107, A107A, A107B, A107C, A108, A109, A110, A110A, A110B"⟩,
  ⟨0x14487, "ANATOLIAN HIEROGLYPH ", "A111, A112, A113, A114, A115, A115A, A116, A117, A118"⟩,
  ⟨0x14490, "ANATOLIAN HIEROGLYPH ", "A119, A120, A121, A122, A123, A124, A125, A125A, A126, A127"⟩,
  ⟨0x1449A, "ANATOLIAN HIEROGLYPH ", "A128, A129, A130, A131, A132, A133, A134, A135, A135A, A136"⟩,
  ⟨0x144A4, "ANATOLIAN HIEROGLYPH ", "A137, A138, A139, A140, A141, A142, A143, A144, A145, A146"⟩,
  ⟨0x144AE, "ANATOLIAN HIEROGLYPH ", "A147, A148, A149, A150, A151, A152, A153, A154, A155, A156"⟩,
  ⟨0x144B8, "ANATOLIAN HIEROGLYPH ", "A157, A158, A159, A160, A161, A162, A163, A164, A165, A166"⟩,
  ⟨0x144C2, "ANATOLIAN HIEROGLYPH ", "A167, A168, A169, A170, A171, A172, A173, A174, A175, A176"⟩,
  ⟨0x144CC, "ANATOLIAN HIEROGLYPH ", "A177, A178, A179, A180, A181, A182, A183, A184, A185, A186"⟩,
  ⟨0x144D6, "ANATOLIAN HIEROGLYPH ", "A187, A188, A189, A190, A191, A192, A193, A194, A195, A196"⟩,
  ⟨0x144E0, "ANATOLIAN HIEROGLYPH ", "A197, A198, A199, A200, A201, A202, A202A, A202B, A203"⟩,
  ⟨0x144E9, "ANATOLIAN HIEROGLYPH ", "A204, A205, A206, A207, A207A, A208, A209, A209A, A210"⟩,
  ⟨0x144F2, "ANATOLIAN HIEROGLYPH ", "A211, A212, A213, A214, A215, A215A, A216, A216A, A217"⟩,
  ⟨0x144FB, "ANATOLIAN HIEROGLYPH ", "A218, A219, A220, A221, A222, A223, A224, A225, A226, A227"⟩,
  ⟨0x14505, "ANATOLIAN HIEROGLYPH ", "A227A, A228, A229, A230, A231, A232, A233, A234, A235, A236"⟩,
  ⟨0x1450F, "ANATOLIAN HIEROGLYPH ", "A237, A238, A239, A240, A241, A242, A243, A244, A245, A246"⟩,
  ⟨0x14519, "ANATOLIAN HIEROGLYPH ", "A247, A248, A249, A250, A251, A252, A253, A254, A255, A256"⟩,
  ⟨0x14523, "ANATOLIAN HIEROGLYPH ", "A257, A258, A259, A260, A261, A262, A263, A264, A265, A266"⟩,
  ⟨0x1452D, "ANATOLIAN HIEROGLYPH ", "A267, A267A, A268, A269, A270, A271, A272, A273, A274, A275"⟩,
  ⟨0x14537, "ANATOLIAN HIEROGLYPH ", "A276, A277, A278, A279, A280, A281, A282, A283, A284, A285"⟩,
  ⟨0x14541, "ANATOLIAN HIEROGLYPH ", "A286, A287, A288, A289, A289A, A290, A291, A292, A293, A294"⟩,
  ⟨0x1454B, "ANATOLIAN HIEROGLYPH ", "A294A, A295, A296, A297, A298, A299, A299A, A300, A301"⟩,
  ⟨0x14554, "ANATOLIAN HIEROGLYPH ", "A302, A303, A304, A305, A306, A307, A308, A309, A309A, A310"⟩,
  ⟨0x1455E, "ANATOLIAN HIEROGLYPH ", "A311, A312, A313, A314, A315, A316, A317, A318, A319, A320"⟩,
  ⟨0x14568, "ANATOLIAN HIEROGLYPH ", "A321, A322, A323, A324, A325, A326, A327, A328, A329, A329A"⟩,
  ⟨0x14572, "ANATOLIAN HIEROGLYPH ", "A330, A331, A332A, A332B, A332C, A333, A334, A335, A336"⟩,
  ⟨0x1457B, "ANATOLIAN HIEROGLYPH ", "A336A, A336B, A336C, A337, A338, A339, A340, A341, A342"⟩,
  ⟨0x14584, "ANATOLIAN HIEROGLYPH ", "A343, A344, A345, A346, A347, A348, A349, A350, A351, A352"⟩,
  ⟨0x1458E, "ANATOLIAN HIEROGLYPH ", "A353, A354, A355, A356, A357, A358, A359, A359A, A360, A361"⟩,
  ⟨0x14598, "ANATOLIAN HIEROGLYPH ", "A362, A363, A364, A364A, A365, A366, A367, A368, A368A"⟩,
  ⟨0x145A1, "ANATOLIAN HIEROGLYPH ", "A369, A370, A371, A371A, A372, A373, A374, A375, A376"⟩,
  ⟨0x145AA, "ANATOLIAN HIEROGLYPH ", "A377, A378, A379, A380, A381, A381A, A382, A383 RA OR RI"⟩,
  ⟨0x145B2, "ANATOLIAN HIEROGLYPH ", "A383A, A384, A385, A386, A386A, A387, A388, A389"⟩,
  ⟨0x145BA, "ANATOLIAN HIEROGLYPH ", "A390, A391, A392, A393 EIGHT, A394, A395, A396, A397, A398"⟩,
  ⟨0x145C3, "ANATOLIAN HIEROGLYPH ", "A399, A400, A401, A402, A403, A404, A405, A406, A407, A408"⟩,
  ⟨0x145CD, "ANATOLIAN HIEROGLYPH ", "A409, A410 BEGIN LOGOGRAM MARK, A410A END LOGOGRAM MARK"⟩,
  ⟨0x145D0, "ANATOLIAN HIEROGLYPH ", "A411, A412, A413, A414, A415, A416, A417, A418, A419, A420"⟩,
  ⟨0x145DA, "ANATOLIAN HIEROGLYPH ", "A421, A422, A423, A424, A425, A426, A427, A428, A429, A430"⟩,
  ⟨0x145E4, "ANATOLIAN HIEROGLYPH ", "A431, A432, A433, A434, A435, A436, A437, A438, A439, A440"⟩,
  ⟨0x145EE, "ANATOLIAN HIEROGLYPH ", "A441, A442, A443, A444, A445, A446, A447, A448, A449, A450"⟩,
  ⟨0x145F8, "ANATOLIAN HIEROGLYPH ", "A450A, A451, A452, A453, A454, A455, A456, A457, A457A"⟩,
  ⟨0x14601, "ANATOLIAN HIEROGLYPH ", "A458, A459, A460, A461, A462, A463, A464, A465, A466, A467"⟩,
  ⟨0x1460B, "ANATOLIAN HIEROGLYPH ", "A468, A469, A470, A471, A472, A473, A474, A475, A476, A477"⟩,
  ⟨0x14615, "ANATOLIAN HIEROGLYPH ", "A478, A479, A480, A481, A482, A483, A484, A485, A486, A487"⟩,
  ⟨0x1461F, "ANATOLIAN HIEROGLYPH ", "A488, A489, A490, A491, A492, A493, A494, A495, A496, A497"⟩,
  ⟨0x14629, "ANATOLIAN HIEROGLYPH ", "A501, A502, A503, A504, A505, A506, A507, A508, A509, A510"⟩,
  ⟨0x14633, "ANATOLIAN HIEROGLYPH ", "A511, A512, A513, A514, A515, A516, A517, A518, A519, A520"⟩,
  ⟨0x1463D, "ANATOLIAN HIEROGLYPH ", "A521, A522, A523, A524, A525, A526, A527, A528, A529, A530"⟩]

end BatchExec
