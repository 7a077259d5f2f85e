import BatchExec.Text.CharacterName.Row

/-!
# Cuneiform

The names of cuneiform signs.
-/

namespace BatchExec

/-- The names of cuneiform signs. -/
def cuneiformNames : List NameRow := [
  ⟨0x12000, "", "CUNEIFORM SIGN A"⟩,
  ⟨0x12001, "CUNEIFORM SIGN A TIMES ", "A, BAD, GAN2 TENU, HA, IGI, LAGAR GUNU"⟩,
  ⟨0x12007, "CUNEIFORM SIGN ", "A TIMES MUSH, A TIMES SAG, A2, AB, AB TIMES ASH2"⟩,
  ⟨0x1200C, "CUNEIFORM SIGN AB TIMES ", "DUN3 GUNU, GAL, GAN2 TENU, HA, IGI GUNU, IMIN, LAGAB"⟩,
  ⟨0x12013, "CUNEIFORM SIGN ", "AB TIMES SHESH, AB TIMES U PLUS U PLUS U, AB GUNU, AB2"⟩,
  ⟨0x12017, "CUNEIFORM SIGN AB2 TIMES ", "BALAG, GAN2 TENU, ME PLUS EN, SHA3, TAK4"⟩,
  ⟨0x1201C, "CUNEIFORM SIGN ", "AD, AK, AK TIMES ERIN2, AK TIMES SHITA PLUS GISH, AL"⟩,
  ⟨0x12021, "CUNEIFORM SIGN AL TIMES ", "AL, DIM2, GISH, HA, KAD3, KI, SHE, USH"⟩,
  ⟨0x12029, "CUNEIFORM SIGN ", "ALAN, ALEPH, AMAR, AMAR TIMES SHE, AN, AN OVER AN, AN THREE TIMES"⟩,
  ⟨0x12030, "CUNEIFORM SIGN ", "AN PLUS NAGA OPPOSING AN PLUS NAGA, AN PLUS NAGA SQUARED, ANSHE"⟩,
  ⟨0x12033, "CUNEIFORM SIGN ", "APIN, ARAD, ARAD TIMES KUR, ARKAB, ASAL2, ASH, ASH ZIDA TENU"⟩,
  ⟨0x1203A, "CUNEIFORM SIGN ASH ", "KABA TENU, OVER ASH TUG2 OVER TUG2 TUG2 OVER TUG2 PAP"⟩,
  ⟨0x1203C, "CUNEIFORM SIGN ASH OVER ASH OVER ", "ASH, ASH CROSSING ASH OVER ASH OVER ASH"⟩,
  ⟨0x1203E, "CUNEIFORM SIGN ", "ASH2, ASHGAB"⟩,
  ⟨0x12040, "CUNEIFORM SIGN ", "BA, BAD, BAG3, BAHAR2, BAL, BAL OVER BAL, BALAG, BAR, BARA2, BI"⟩,
  ⟨0x1204A, "CUNEIFORM SIGN ", "BI TIMES A, BI TIMES GAR, BI TIMES IGI GUNU, BU, BU OVER BU AB"⟩,
  ⟨0x1204F, "CUNEIFORM SIGN ", "BU OVER BU UN, BU CROSSING BU, BULUG, BULUG OVER BULUG, BUR, BUR2"⟩,
  ⟨0x12055, "CUNEIFORM SIGN ", "DA, DAG, DAG KISIM5 TIMES A PLUS MASH, DAG KISIM5 TIMES AMAR"⟩,
  ⟨0x12059, "CUNEIFORM SIGN DAG KISIM5 TIMES ", "BALAG, BI, GA, GA PLUS MASH, GI, GIR2, GUD, HA"⟩,
  ⟨0x12061, "CUNEIFORM SIGN DAG KISIM5 TIMES ", "IR, IR PLUS LU, KAK, LA, LU, LU PLUS MASH2, LUM"⟩,
  ⟨0x12068, "CUNEIFORM SIGN DAG KISIM5 TIMES ", "NE, PAP PLUS PAP, SI, TAK4, U2 PLUS GIR2, USH"⟩,
  ⟨0x1206E, "CUNEIFORM SIGN ", "DAM, DAR, DARA3, DARA4, DI, DIB, DIM, DIM TIMES SHE, DIM2, DIN"⟩,
  ⟨0x12078, "CUNEIFORM SIGN ", "DIN KASKAL U GUNU DISH, DISH, DU, DU OVER DU, DU GUNU, DU SHESHIG"⟩,
  ⟨0x1207E, "CUNEIFORM SIGN ", "DUB, DUB TIMES ESH2, DUB2, DUG, DUGUD, DUH, DUN, DUN3, DUN3 GUNU"⟩,
  ⟨0x12087, "CUNEIFORM SIGN ", "DUN3 GUNU GUNU, DUN4, DUR2, E, E TIMES PAP, E OVER E NUN OVER NUN"⟩,
  ⟨0x1208D, "CUNEIFORM SIGN ", "E2, E2 TIMES A PLUS HA PLUS DA, E2 TIMES GAR, E2 TIMES MI"⟩,
  ⟨0x12091, "CUNEIFORM SIGN ", "E2 TIMES SAL, E2 TIMES SHE, E2 TIMES U, EDIN, EGIR, EL, EN"⟩,
  ⟨0x12098, "CUNEIFORM SIGN EN ", "TIMES GAN2, TIMES GAN2 TENU, TIMES ME, CROSSING EN"⟩,
  ⟨0x1209C, "CUNEIFORM SIGN ", "EN OPPOSING EN, EN SQUARED, EREN, ERIN2, ESH2, EZEN, EZEN TIMES A"⟩,
  ⟨0x120A3, "CUNEIFORM SIGN EZEN TIMES ", "A PLUS LAL, A PLUS LAL TIMES LAL, AN, BAD, DUN3 GUNU"⟩,
  ⟨0x120A8, "CUNEIFORM SIGN EZEN TIMES ", "DUN3 GUNU GUNU, HA, HA GUNU, IGI GUNU, KASKAL"⟩,
  ⟨0x120AD, "CUNEIFORM SIGN EZEN TIMES ", "KASKAL SQUARED, KU3, LA, LAL TIMES LAL, LI, LU, U2"⟩,
  ⟨0x120B4, "CUNEIFORM SIGN ", "EZEN TIMES UD, GA, GA GUNU, GA2, GA2 TIMES A PLUS DA PLUS HA"⟩,
  ⟨0x120B9, "CUNEIFORM SIGN GA2 TIMES ", "A PLUS HA, A PLUS IGI, AB2 TENU PLUS TAB"⟩,
  ⟨0x120BC, "CUNEIFORM SIGN GA2 TIMES ", "AN, ASH, ASH2 PLUS GAL, BAD, BAR PLUS RA"⟩,
  ⟨0x120C1, "CUNEIFORM SIGN GA2 TIMES ", "BUR, BUR PLUS RA, DA, DI, DIM TIMES SHE, DUB"⟩,
  ⟨0x120C7, "CUNEIFORM SIGN GA2 TIMES ", "EL, EL PLUS LA, EN, EN TIMES GAN2 TENU, GAN2 TENU, GAR"⟩,
  ⟨0x120CD, "CUNEIFORM SIGN GA2 TIMES ", "GI, GI4, GI4 PLUS A, GIR2 PLUS SU, HA PLUS LU PLUS ESH2"⟩,
  ⟨0x120D2, "CUNEIFORM SIGN GA2 TIMES ", "HAL, HAL PLUS LA, HI PLUS LI, HUB2, IGI GUNU"⟩,
  ⟨0x120D7, "CUNEIFORM SIGN GA2 TIMES ", "ISH PLUS HU PLUS ASH, KAK, KASKAL, KID, KID PLUS LAL"⟩,
  ⟨0x120DC, "CUNEIFORM SIGN GA2 TIMES ", "KU3 PLUS AN, LA, ME PLUS EN, MI, NUN, NUN OVER NUN"⟩,
  ⟨0x120E2, "CUNEIFORM SIGN GA2 TIMES ", "PA, SAL, SAR, SHE, SHE PLUS TUR, SHID, SUM"⟩,
  ⟨0x120E9, "CUNEIFORM SIGN GA2 ", "TIMES TAK4, TIMES U, TIMES UD, TIMES UD PLUS DU, OVER GA2"⟩,
  ⟨0x120EE, "CUNEIFORM SIGN ", "GABA, GABA CROSSING GABA, GAD, GAD OVER GAD GAR OVER GAR, GAL"⟩,
  ⟨0x120F3, "CUNEIFORM SIGN ", "GAL GAD OVER GAD GAR OVER GAR, GALAM, GAM, GAN, GAN2, GAN2 TENU"⟩,
  ⟨0x120F9, "CUNEIFORM SIGN ", "GAN2 OVER GAN2, GAN2 CROSSING GAN2, GAR, GAR3, GASHAN, GESHTIN"⟩,
  ⟨0x120FF, "CUNEIFORM SIGN ", "GESHTIN TIMES KUR, GI, GI TIMES E, GI TIMES U, GI CROSSING GI"⟩,
  ⟨0x12104, "CUNEIFORM SIGN ", "GI4, GI4 OVER GI4, GI4 CROSSING GI4, GIDIM, GIR2, GIR2 GUNU, GIR3"⟩,
  ⟨0x1210B, "CUNEIFORM SIGN GIR3 TIMES ", "A PLUS IGI, GAN2 TENU, IGI, LU PLUS IGI"⟩,
  ⟨0x1210F, "CUNEIFORM SIGN ", "GIR3 TIMES PA, GISAL, GISH, GISH CROSSING GISH"⟩,
  ⟨0x12113, "CUNEIFORM SIGN ", "GISH TIMES BAD, GISH TIMES TAK4, GISH TENU, GU, GU CROSSING GU"⟩,
  ⟨0x12118, "CUNEIFORM SIGN ", "GU2, GU2 TIMES KAK, GU2 TIMES KAK TIMES IGI GUNU, GU2 TIMES NUN"⟩,
  ⟨0x1211C, "CUNEIFORM SIGN ", "GU2 TIMES SAL PLUS TUG2, GU2 GUNU, GUD, GUD TIMES A PLUS KUR"⟩,
  ⟨0x12120, "CUNEIFORM SIGN ", "GUD TIMES KUR, GUD OVER GUD LUGAL, GUL, GUM, GUM TIMES SHE"⟩,
  ⟨0x12125, "CUNEIFORM SIGN ", "GUR, GUR7, GURUN, GURUSH, HA, HA TENU, HA GUNU, HAL, HI"⟩,
  ⟨0x1212E, "CUNEIFORM SIGN HI TIMES ", "ASH, ASH2, BAD, DISH, GAD, KIN, NUN"⟩,
  ⟨0x12135, "CUNEIFORM SIGN ", "HI TIMES SHE, HI TIMES U, HU, HUB2, HUB2 TIMES AN, HUB2 TIMES HAL"⟩,
  ⟨0x1213B, "CUNEIFORM SIGN ", "HUB2 TIMES KASKAL, HUB2 TIMES LISH, HUB2 TIMES UD, HUL2"⟩,
  ⟨0x1213F, "CUNEIFORM SIGN ", "I, I A, IB, IDIM, IDIM OVER IDIM BUR, IDIM OVER IDIM SQUARED"⟩,
  ⟨0x12145, "CUNEIFORM SIGN ", "IG, IGI, IGI DIB, IGI RI, IGI OVER IGI SHIR OVER SHIR UD OVER UD"⟩,
  ⟨0x1214A, "CUNEIFORM SIGN ", "IGI GUNU, IL, IL TIMES GAN2 TENU, IL2, IM, IM TIMES TAK4"⟩,
  ⟨0x12150, "CUNEIFORM SIGN ", "IM CROSSING IM, IM OPPOSING IM, IM SQUARED, IMIN, IN, IR, ISH, KA"⟩,
  ⟨0x12158, "CUNEIFORM SIGN KA TIMES ", "A, AD, AD PLUS KU3, ASH2, BAD, BALAG, BAR, BI, ERIN2"⟩,
  ⟨0x12161, "CUNEIFORM SIGN KA TIMES ", "ESH2, GA, GAL, GAN2 TENU, GAR, GAR PLUS SHA3 PLUS A, GI"⟩,
  ⟨0x12168, "CUNEIFORM SIGN KA TIMES ", "GIR2, GISH PLUS SAR, GISH CROSSING GISH, GU, GUR7, IGI"⟩,
  ⟨0x1216E, "CUNEIFORM SIGN KA TIMES ", "IM, KAK, KI, KID, LI, LU, ME, ME PLUS DU, ME PLUS GI"⟩,
  ⟨0x12177, "CUNEIFORM SIGN KA TIMES ", "ME PLUS TE, MI, MI PLUS NUNUZ, NE, NUN, PI, RU"⟩,
  ⟨0x1217E, "CUNEIFORM SIGN KA TIMES ", "SA, SAR, SHA, SHE, SHID, SHU, SIG, SUHUR, TAR, U, U2, UD"⟩,
  ⟨0x1218A, "CUNEIFORM SIGN ", "KA TIMES UMUM TIMES PA, KA TIMES USH, KA TIMES ZI, KA2"⟩,
  ⟨0x1218E, "CUNEIFORM SIGN ", "KA2 CROSSING KA2, KAB, KAD2, KAD3, KAD4, KAD5, KAD5 OVER KAD5"⟩,
  ⟨0x12195, "CUNEIFORM SIGN ", "KAK, KAK TIMES IGI GUNU, KAL, KAL TIMES BAD, KAL CROSSING KAL"⟩,
  ⟨0x1219A, "CUNEIFORM SIGN ", "KAM2, KAM4, KASKAL, KASKAL LAGAB TIMES U OVER LAGAB TIMES U"⟩,
  ⟨0x1219E, "", "CUNEIFORM SIGN KASKAL OVER KASKAL LAGAB TIMES U OVER LAGAB TIMES U"⟩,
  ⟨0x1219F, "CUNEIFORM SIGN ", "KESH2, KI, KI TIMES BAD, KI TIMES U"⟩,
  ⟨0x121A3, "CUNEIFORM SIGN ", "KI TIMES UD, KID, KIN, KISAL, KISH, KISIM5, KISIM5 OVER KISIM5"⟩,
  ⟨0x121AA, "CUNEIFORM SIGN ", "KU, KU OVER HI TIMES ASH2 KU OVER HI TIMES ASH2"⟩,
  ⟨0x121AC, "CUNEIFORM SIGN ", "KU3, KU4, KU4 VARIANT FORM"⟩,
  ⟨0x121AF, "CUNEIFORM SIGN ", "KU7, KUL, KUL GUNU, KUN, KUR, KUR OPPOSING KUR, KUSHU2"⟩,
  ⟨0x121B6, "CUNEIFORM SIGN ", "KWU318, LA, LAGAB, LAGAB TIMES A, LAGAB TIMES A PLUS DA PLUS HA"⟩,
  ⟨0x121BB, "CUNEIFORM SIGN LAGAB TIMES ", "A PLUS GAR, A PLUS LAL, AL, AN, ASH ZIDA TENU"⟩,
  ⟨0x121C0, "CUNEIFORM SIGN LAGAB TIMES ", "BAD, BI, DAR, EN, GA, GAR, GUD, GUD PLUS GUD"⟩,
  ⟨0x121C8, "CUNEIFORM SIGN LAGAB TIMES ", "HA, HAL, HI TIMES NUN, IGI GUNU, IM, IM PLUS HA"⟩,
  ⟨0x121CE, "CUNEIFORM SIGN LAGAB TIMES ", "IM PLUS LU, KI, KIN, KU3, KUL, KUL PLUS HI PLUS A"⟩,
  ⟨0x121D4, "CUNEIFORM SIGN LAGAB TIMES ", "LAGAB, LISH, LU, LUL, ME, ME PLUS EN"⟩,
  ⟨0x121DA, "CUNEIFORM SIGN LAGAB TIMES ", "MUSH, NE, SHE PLUS SUM, SHITA PLUS GISH PLUS ERIN2"⟩,
  ⟨0x121DE, "CUNEIFORM SIGN LAGAB TIMES ", "SHITA PLUS GISH TENU, SHU2, SHU2 PLUS SHU2"⟩,
  ⟨0x121E1, "CUNEIFORM SIGN LAGAB TIMES ", "SUM, TAG, TAK4, TE PLUS A PLUS SU PLUS NA"⟩,
  ⟨0x121E5, "CUNEIFORM SIGN LAGAB TIMES ", "U, U PLUS A, U PLUS U PLUS U, U2 PLUS ASH, UD, USH"⟩,
  ⟨0x121EB, "CUNEIFORM SIGN ", "LAGAB SQUARED, LAGAR, LAGAR TIMES SHE, LAGAR TIMES SHE PLUS SUM"⟩,
  ⟨0x121EF, "CUNEIFORM SIGN ", "LAGAR GUNU, LAGAR GUNU OVER LAGAR GUNU SHE, LAHSHU"⟩,
  ⟨0x121F2, "CUNEIFORM SIGN ", "LAL, LAL TIMES LAL, LAM, LAM TIMES KUR, LAM TIMES KUR PLUS RU"⟩,
  ⟨0x121F7, "CUNEIFORM SIGN ", "LI, LIL, LIMMU2, LISH, LU, LU TIMES BAD, LU2"⟩,
  ⟨0x121FE, "CUNEIFORM SIGN LU2 TIMES ", "AL, BAD, ESH2, ESH2 TENU"⟩,
  ⟨0x12202, "CUNEIFORM SIGN LU2 TIMES ", "GAN2 TENU, HI TIMES BAD, IM, KAD2, KAD3, KAD3 PLUS ASH"⟩,
  ⟨0x12208, "CUNEIFORM SIGN LU2 TIMES ", "KI, LA PLUS ASH, LAGAB, ME PLUS EN, NE, NU, SI PLUS ASH"⟩,
  ⟨0x1220F, "CUNEIFORM SIGN LU2 ", "TIMES SIK2 PLUS BU, TIMES TUG2, TENU, CROSSING LU2"⟩,
  ⟨0x12213, "CUNEIFORM SIGN ", "LU2 OPPOSING LU2, LU2 SQUARED, LU2 SHESHIG, LU3, LUGAL"⟩,
  ⟨0x12218, "CUNEIFORM SIGN ", "LUGAL OVER LUGAL, LUGAL OPPOSING LUGAL, LUGAL SHESHIG, LUH, LUL"⟩,
  ⟨0x1221D, "CUNEIFORM SIGN ", "LUM, LUM OVER LUM, LUM OVER LUM GAR OVER GAR, MA, MA TIMES TAK4"⟩,
  ⟨0x12222, "CUNEIFORM SIGN ", "MA GUNU, MA2, MAH, MAR, MASH, MASH2, ME, MES, MI, MIN"⟩,
  ⟨0x1222C, "CUNEIFORM SIGN ", "MU, MU OVER MU, MUG, MUG GUNU, MUNSUB, MURGU2, MUSH, MUSH TIMES A"⟩,
  ⟨0x12234, "CUNEIFORM SIGN MUSH ", "TIMES KUR, TIMES ZA, OVER MUSH, OVER MUSH TIMES A PLUS NA"⟩,
  ⟨0x12238, "CUNEIFORM SIGN ", "MUSH CROSSING MUSH, MUSH3, MUSH3 TIMES A, MUSH3 TIMES A PLUS DI"⟩,
  ⟨0x1223C, "CUNEIFORM SIGN ", "MUSH3 TIMES DI, MUSH3 GUNU, NA, NA2, NAGA, NAGA INVERTED"⟩,
  ⟨0x12242, "CUNEIFORM SIGN ", "NAGA TIMES SHU TENU, NAGA OPPOSING NAGA, NAGAR, NAM NUTILLU, NAM"⟩,
  ⟨0x12247, "CUNEIFORM SIGN ", "NAM2, NE, NE TIMES A, NE TIMES UD, NE SHESHIG, NI, NI TIMES E"⟩,
  ⟨0x1224E, "CUNEIFORM SIGN ", "NI2, NIM, NIM TIMES GAN2 TENU, NIM TIMES GAR PLUS GAN2 TENU"⟩,
  ⟨0x12252, "CUNEIFORM SIGN ", "NINDA2, NINDA2 TIMES AN, NINDA2 TIMES ASH"⟩,
  ⟨0x12255, "CUNEIFORM SIGN NINDA2 TIMES ", "ASH PLUS ASH, GUD, ME PLUS GAN2 TENU, NE, NUN, SHE"⟩,
  ⟨0x1225B, "CUNEIFORM SIGN NINDA2 TIMES SHE PLUS ", "A AN, ASH, ASH PLUS ASH"⟩,
  ⟨0x1225E, "CUNEIFORM SIGN ", "NINDA2 TIMES U2 PLUS ASH, NINDA2 TIMES USH, NISAG, NU, NU11, NUN"⟩,
  ⟨0x12264, "CUNEIFORM SIGN NUN LAGAR TIMES ", "GAR, MASH, SAL, SAL OVER NUN LAGAR TIMES SAL"⟩,
  ⟨0x12268, "CUNEIFORM SIGN NUN ", "LAGAR TIMES USH, TENU, OVER NUN, CROSSING NUN"⟩,
  ⟨0x1226C, "CUNEIFORM SIGN ", "NUN CROSSING NUN LAGAR OVER LAGAR, NUNUZ, NUNUZ AB2 TIMES ASHGAB"⟩,
  ⟨0x1226F, "CUNEIFORM SIGN NUNUZ AB2 TIMES ", "BI, DUG, GUD, IGI GUNU, KAD3, LA, NE, SILA3, U2"⟩,
  ⟨0x12278, "CUNEIFORM SIGN ", "NUNUZ KISIM5 TIMES BI, NUNUZ KISIM5 TIMES BI U, PA, PAD, PAN"⟩,
  ⟨0x1227D, "CUNEIFORM SIGN ", "PAP, PESH2, PI, PI TIMES A, PI TIMES AB, PI TIMES BI, PI TIMES BU"⟩,
  ⟨0x12284, "CUNEIFORM SIGN PI ", "TIMES E, TIMES I, TIMES IB, TIMES U, TIMES U2, CROSSING PI"⟩,
  ⟨0x1228A, "CUNEIFORM SIGN ", "PIRIG, PIRIG TIMES KAL, PIRIG TIMES UD, PIRIG TIMES ZA"⟩,
  ⟨0x1228E, "CUNEIFORM SIGN ", "PIRIG OPPOSING PIRIG, RA, RAB, RI, RU, SA, SAG NUTILLU, SAG"⟩,
  ⟨0x12296, "CUNEIFORM SIGN SAG TIMES ", "A, DU, DUB, HA, KAK, KUR, LUM, MI, NUN, SAL, SHID, TAB"⟩,
  ⟨0x122A2, "CUNEIFORM SIGN SAG ", "TIMES U2, TIMES UB, TIMES UM, TIMES UR, TIMES USH, OVER SAG"⟩,
  ⟨0x122A8, "CUNEIFORM SIGN ", "SAG GUNU, SAL, SAL LAGAB TIMES ASH2, SANGA2, SAR, SHA, SHA3"⟩,
  ⟨0x122AF, "CUNEIFORM SIGN SHA3 TIMES ", "A, BAD, GISH, NE, SHU2"⟩,
  ⟨0x122B4, "CUNEIFORM SIGN ", "SHA3 TIMES TUR, SHA3 TIMES U, SHA3 TIMES U PLUS A, SHA6"⟩,
  ⟨0x122B8, "CUNEIFORM SIGN ", "SHAB6, SHAR2, SHE, SHE HU, SHE OVER SHE GAD OVER GAD GAR OVER GAR"⟩,
  ⟨0x122BD, "CUNEIFORM SIGN ", "SHE OVER SHE TAB OVER TAB GAR OVER GAR, SHEG9, SHEN"⟩,
  ⟨0x122C0, "CUNEIFORM SIGN ", "SHESH, SHESH2, SHESHLAM, SHID, SHID TIMES A, SHID TIMES IM, SHIM"⟩,
  ⟨0x122C7, "CUNEIFORM SIGN SHIM TIMES ", "A, BAL, BULUG, DIN, GAR, IGI, IGI GUNU, KUSHU2, LUL"⟩,
  ⟨0x122D0, "CUNEIFORM SIGN ", "SHIM TIMES MUG, SHIM TIMES SAL, SHINIG, SHIR, SHIR TENU"⟩,
  ⟨0x122D5, "CUNEIFORM SIGN ", "SHIR OVER SHIR BUR OVER BUR, SHITA, SHU, SHU OVER INVERTED SHU"⟩,
  ⟨0x122D9, "CUNEIFORM SIGN ", "SHU2, SHUBUR, SI, SI GUNU, SIG, SIG4, SIG4 OVER SIG4 SHU2"⟩,
  ⟨0x122E0, "CUNEIFORM SIGN ", "SIK2, SILA3, SU, SU OVER SU, SUD, SUD2, SUHUR, SUM, SUMASH"⟩,
  ⟨0x122E9, "CUNEIFORM SIGN ", "SUR, SUR9, TA, TA ASTERISK, TA TIMES HI, TA TIMES MI, TA GUNU"⟩,
  ⟨0x122F0, "CUNEIFORM SIGN ", "TAB, TAB OVER TAB NI OVER NI DISH OVER DISH, TAB SQUARED, TAG"⟩,
  ⟨0x122F4, "CUNEIFORM SIGN TAG TIMES ", "BI, GUD, SHE, SHU, TUG2"⟩,
  ⟨0x122F9, "CUNEIFORM SIGN ", "TAG TIMES UD, TAK4, TAR, TE, TE GUNU, TI, TI TENU, TIL, TIR"⟩,
  ⟨0x12302, "CUNEIFORM SIGN TIR ", "TIMES TAK4, OVER TIR, OVER TIR GAD OVER GAD GAR OVER GAR"⟩,
  ⟨0x12305, "CUNEIFORM SIGN ", "TU, TUG2, TUK, TUM, TUR, TUR OVER TUR ZA OVER ZA, U"⟩,
  ⟨0x1230C, "CUNEIFORM SIGN U ", "GUD, U U, OVER U PA OVER PA GAR OVER GAR, OVER U SUR OVER SUR"⟩,
  ⟨0x12310, "CUNEIFORM SIGN ", "U OVER U U REVERSED OVER U REVERSED, U2, UB, UD"⟩,
  ⟨0x12314, "CUNEIFORM SIGN UD ", "KUSHU2, TIMES BAD, TIMES MI, TIMES U PLUS U PLUS U"⟩,
  ⟨0x12318, "CUNEIFORM SIGN UD ", "TIMES U PLUS U PLUS U GUNU, GUNU, SHESHIG, SHESHIG TIMES BAD"⟩,
  ⟨0x1231C, "CUNEIFORM SIGN ", "UDUG, UM, UM TIMES LAGAB, UM TIMES ME PLUS DA"⟩,
  ⟨0x12320, "CUNEIFORM SIGN ", "UM TIMES SHA3, UM TIMES U, UMBIN, UMUM, UMUM TIMES KASKAL"⟩,
  ⟨0x12325, "CUNEIFORM SIGN ", "UMUM TIMES PA, UN, UN GUNU, UR, UR CROSSING UR, UR SHESHIG, UR2"⟩,
  ⟨0x1232C, "CUNEIFORM SIGN UR2 TIMES ", "A PLUS HA, A PLUS NA, AL, HA, NUN, U2, U2 PLUS ASH"⟩,
  ⟨0x12333, "CUNEIFORM SIGN ", "UR2 TIMES U2 PLUS BI, UR4, URI, URI3, URU, URU TIMES A"⟩,
  ⟨0x12339, "CUNEIFORM SIGN URU TIMES ", "ASHGAB, BAR, DUN, GA, GAL, GAN2 TENU, GAR, GU, HA, IGI"⟩,
  ⟨0x12343, "CUNEIFORM SIGN URU TIMES ", "IM, ISH, KI, LUM, MIN, PA, SHE, SIG4, TU, U PLUS GUD"⟩,
  ⟨0x1234D, "CUNEIFORM SIGN ", "URU TIMES UD, URU TIMES URUDA, URUDA, URUDA TIMES U"⟩,
  ⟨0x12351, "CUNEIFORM SIGN ", "USH, USH TIMES A, USH TIMES KU, USH TIMES KUR, USH TIMES TAK4"⟩,
  ⟨0x12356, "CUNEIFORM SIGN ", "USHX, USH2, USHUMX, UTUKI, UZ3, UZ3 TIMES KASKAL, UZU"⟩,
  ⟨0x1235D, "CUNEIFORM SIGN ", "ZA, ZA TENU, ZA SQUARED TIMES KUR, ZAG, ZAMX, ZE2, ZI, ZI OVER ZI"⟩,
  ⟨0x12365, "CUNEIFORM SIGN ", "ZI3, ZIB, ZIB KABA TENU, ZIG, ZIZ2, ZU, ZU5, ZU5 TIMES A, ZUBUR"⟩,
  ⟨0x1236E, "CUNEIFORM SIGN ", "ZUM, KAP ELAMITE, AB TIMES NUN, AB2 TIMES A, AMAR TIMES KUG"⟩,
  ⟨0x12373, "CUNEIFORM SIGN ", "DAG KISIM5 TIMES U2 PLUS MASH, DAG3, DISH PLUS SHU, DUB TIMES SHE"⟩,
  ⟨0x12377, "CUNEIFORM SIGN ", "EZEN TIMES GUD, EZEN TIMES SHE, GA2 TIMES AN PLUS KAK PLUS A"⟩,
  ⟨0x1237A, "CUNEIFORM SIGN ", "GA2 TIMES ASH2, GE22, GIG, HUSH, KA TIMES ANSHE"⟩,
  ⟨0x1237F, "CUNEIFORM SIGN KA TIMES ", "ASH3, GISH, GUD, HI TIMES ASH2, LUM, PA, SHUL, TU, UR2"⟩,
  ⟨0x12388, "CUNEIFORM SIGN ", "LAGAB TIMES GI, LU2 SHESHIG TIMES BAD, LU2 TIMES ESH2 PLUS LAL"⟩,
  ⟨0x1238B, "CUNEIFORM SIGN ", "LU2 TIMES SHU, MESH, MUSH3 TIMES ZA, NA4, NIN, NIN9"⟩,
  ⟨0x12391, "CUNEIFORM SIGN ", "NINDA2 TIMES BAL, NINDA2 TIMES GI, NU11 ROTATED NINETY DEGREES"⟩,
  ⟨0x12394, "CUNEIFORM SIGN ", "PESH2 ASTERISK, PIR2, SAG TIMES IGI GUNU, TI2, UM TIMES ME, U U"⟩,
  ⟨0x12400, "CUNEIFORM NUMERIC SIGN ", "TWO ASH, THREE ASH, FOUR ASH, FIVE ASH, SIX ASH"⟩,
  ⟨0x12405, "CUNEIFORM NUMERIC SIGN ", "SEVEN ASH, EIGHT ASH, NINE ASH, THREE DISH, FOUR DISH"⟩,
  ⟨0x1240A, "CUNEIFORM NUMERIC SIGN ", "FIVE DISH, SIX DISH, SEVEN DISH, EIGHT DISH, NINE DISH"⟩,
  ⟨0x1240F, "CUNEIFORM NUMERIC SIGN ", "FOUR U, FIVE U, SIX U, SEVEN U, EIGHT U, NINE U"⟩,
  ⟨0x12415, "CUNEIFORM NUMERIC SIGN ", "ONE GESH2, TWO GESH2, THREE GESH2, FOUR GESH2, FIVE GESH2"⟩,
  ⟨0x1241A, "CUNEIFORM NUMERIC SIGN ", "SIX GESH2, SEVEN GESH2, EIGHT GESH2, NINE GESH2"⟩,
  ⟨0x1241E, "CUNEIFORM NUMERIC SIGN ", "ONE GESHU, TWO GESHU, THREE GESHU, FOUR GESHU, FIVE GESHU"⟩,
  ⟨0x12423, "CUNEIFORM NUMERIC SIGN ", "TWO SHAR2, THREE SHAR2, THREE SHAR2 VARIANT FORM"⟩,
  ⟨0x12426, "CUNEIFORM NUMERIC SIGN ", "FOUR SHAR2, FIVE SHAR2, SIX SHAR2"⟩,
  ⟨0x12429, "CUNEIFORM NUMERIC SIGN ", "SEVEN SHAR2, EIGHT SHAR2, NINE SHAR2, ONE SHARU"⟩,
  ⟨0x1242D, "CUNEIFORM NUMERIC SIGN ", "TWO SHARU, THREE SHARU, THREE SHARU VARIANT FORM"⟩,
  ⟨0x12430, "CUNEIFORM NUMERIC SIGN ", "FOUR SHARU, FIVE SHARU, SHAR2 TIMES GAL PLUS DISH"⟩,
  ⟨0x12433, "CUNEIFORM NUMERIC SIGN ", "SHAR2 TIMES GAL PLUS MIN, ONE BURU, TWO BURU"⟩,
  ⟨0x12436, "CUNEIFORM NUMERIC SIGN ", "THREE BURU, THREE BURU VARIANT FORM, FOUR BURU, FIVE BURU"⟩,
  ⟨0x1243A, "CUNEIFORM NUMERIC SIGN THREE VARIANT FORM ", "ESH16, ESH21"⟩,
  ⟨0x1243C, "CUNEIFORM NUMERIC SIGN FOUR VARIANT FORM ", "LIMMU, LIMMU4, LIMMU A"⟩,
  ⟨0x1243F, "CUNEIFORM NUMERIC SIGN ", "FOUR VARIANT FORM LIMMU B, SIX VARIANT FORM ASH9"⟩,
  ⟨0x12441, "CUNEIFORM NUMERIC SIGN SEVEN VARIANT FORM ", "IMIN3, IMIN A, IMIN B"⟩,
  ⟨0x12444, "CUNEIFORM NUMERIC SIGN EIGHT VARIANT FORM ", "USSU, USSU3"⟩,
  ⟨0x12446, "CUNEIFORM NUMERIC SIGN NINE VARIANT FORM ", "ILIMMU, ILIMMU3, ILIMMU4"⟩,
  ⟨0x12449, "CUNEIFORM NUMERIC SIGN ", "NINE VARIANT FORM ILIMMU A, TWO ASH TENU"⟩,
  ⟨0x1244B, "CUNEIFORM NUMERIC SIGN ", "THREE ASH TENU, FOUR ASH TENU, FIVE ASH TENU"⟩,
  ⟨0x1244E, "CUNEIFORM NUMERIC SIGN ", "SIX ASH TENU, ONE BAN2, TWO BAN2, THREE BAN2, FOUR BAN2"⟩,
  ⟨0x12453, "CUNEIFORM NUMERIC SIGN ", "FOUR BAN2 VARIANT FORM, FIVE BAN2, FIVE BAN2 VARIANT FORM"⟩,
  ⟨0x12456, "CUNEIFORM NUMERIC SIGN ", "NIGIDAMIN, NIGIDAESH, ONE ESHE3, TWO ESHE3"⟩,
  ⟨0x1245A, "CUNEIFORM NUMERIC SIGN ", "ONE THIRD DISH, TWO THIRDS DISH, FIVE SIXTHS DISH"⟩,
  ⟨0x1245D, "CUNEIFORM NUMERIC SIGN ", "ONE THIRD VARIANT FORM A, TWO THIRDS VARIANT FORM A"⟩,
  ⟨0x1245F, "CUNEIFORM NUMERIC SIGN ", "ONE EIGHTH ASH, ONE QUARTER ASH, OLD ASSYRIAN ONE SIXTH"⟩,
  ⟨0x12462, "CUNEIFORM NUMERIC SIGN ", "OLD ASSYRIAN ONE QUARTER, ONE QUARTER GUR, ONE HALF GUR"⟩,
  ⟨0x12465, "CUNEIFORM NUMERIC SIGN ELAMITE ", "ONE THIRD, TWO THIRDS, FORTY"⟩,
  ⟨0x12468, "CUNEIFORM NUMERIC SIGN ", "ELAMITE FIFTY, FOUR U VARIANT FORM, FIVE U VARIANT FORM"⟩,
  ⟨0x1246B, "CUNEIFORM NUMERIC SIGN ", "SIX U VARIANT FORM, SEVEN U VARIANT FORM"⟩,
  ⟨0x1246D, "CUNEIFORM NUMERIC SIGN ", "EIGHT U VARIANT FORM, NINE U VARIANT FORM"⟩,
  ⟨0x12470, "CUNEIFORM PUNCTUATION SIGN ", "OLD ASSYRIAN WORD DIVIDER, VERTICAL COLON"⟩,
  ⟨0x12472, "CUNEIFORM PUNCTUATION SIGN DIAGONAL ", "COLON, TRICOLON, QUADCOLON"⟩,
  ⟨0x12480, "CUNEIFORM SIGN ", "AB TIMES NUN TENU, AB TIMES SHU2, AD TIMES ESH2"⟩,
  ⟨0x12483, "CUNEIFORM SIGN ", "BAD TIMES DISH TENU, BAHAR2 TIMES AB2, BAHAR2 TIMES NI"⟩,
  ⟨0x12486, "CUNEIFORM SIGN ", "BAHAR2 TIMES ZA, BU OVER BU TIMES NA2, DA TIMES TAK4"⟩,
  ⟨0x12489, "CUNEIFORM SIGN ", "DAG TIMES KUR, DIM TIMES IGI, DIM TIMES U U U, DIM2 TIMES UD"⟩,
  ⟨0x1248D, "CUNEIFORM SIGN DUG TIMES ", "ANSHE, ASH, ASH AT LEFT, DIN, DUN, ERIN2"⟩,
  ⟨0x12493, "CUNEIFORM SIGN DUG TIMES ", "GA, GI, GIR2 GUNU, GISH, HA, HI, IGI GUNU, KASKAL, KUR"⟩,
  ⟨0x1249C, "CUNEIFORM SIGN DUG TIMES ", "KUSHU2, KUSHU2 PLUS KASKAL, LAK-020, LAM, LAM TIMES KUR"⟩,
  ⟨0x124A1, "CUNEIFORM SIGN DUG TIMES ", "LUH PLUS GISH, MASH, MES, MI, NI, PI, SHE, SI GUNU"⟩,
  ⟨0x124A9, "CUNEIFORM SIGN ", "E2 TIMES KUR, E2 TIMES PAP, ERIN2 X, ESH2 CROSSING ESH2"⟩,
  ⟨0x124AD, "CUNEIFORM SIGN EZEN SHESHIG TIMES ", "ASH, HI, IGI GUNU, LA, LAL, ME"⟩,
  ⟨0x124B3, "CUNEIFORM SIGN EZEN ", "SHESHIG TIMES MES, SHESHIG TIMES SU, TIMES SU"⟩,
  ⟨0x124B6, "CUNEIFORM SIGN GA2 TIMES ", "BAHAR2, DIM GUNU, DUG TIMES IGI GUNU"⟩,
  ⟨0x124B9, "CUNEIFORM SIGN GA2 TIMES ", "DUG TIMES KASKAL, EREN, GA, GAR PLUS DI"⟩,
  ⟨0x124BD, "CUNEIFORM SIGN GA2 TIMES ", "GAR PLUS NE, HA PLUS A, KUSHU2 PLUS KASKAL, LAM"⟩,
  ⟨0x124C1, "CUNEIFORM SIGN GA2 TIMES ", "LAM TIMES KUR, LUH, MUSH, NE, NE PLUS E2, NE PLUS GI"⟩,
  ⟨0x124C7, "CUNEIFORM SIGN ", "GA2 TIMES SHIM, GA2 TIMES ZIZ2, GABA ROTATED NINETY DEGREES"⟩,
  ⟨0x124CA, "CUNEIFORM SIGN ", "GESHTIN TIMES U, GISH TIMES GISH CROSSING GISH"⟩,
  ⟨0x124CC, "CUNEIFORM SIGN ", "GU2 TIMES IGI GUNU, GUD PLUS GISH TIMES TAK4"⟩,
  ⟨0x124CE, "CUNEIFORM SIGN ", "HA TENU GUNU, HI TIMES ASH OVER HI TIMES ASH, KA TIMES BU"⟩,
  ⟨0x124D1, "CUNEIFORM SIGN ", "KA TIMES KA, KA TIMES U U U, KA TIMES UR, LAGAB TIMES ZU OVER ZU"⟩,
  ⟨0x124D5, "CUNEIFORM SIGN LAK-", "003, 021, 025, 030, 050"⟩,
  ⟨0x124DA, "CUNEIFORM SIGN LAK-", "051, 062, 079 OVER LAK-079 GUNU, 080, 081 OVER LAK-081, 092"⟩,
  ⟨0x124E0, "CUNEIFORM SIGN LAK-", "130, 142, 210, 219, 220, 225, 228, 238, 265, 266, 343, 347"⟩,
  ⟨0x124EC, "CUNEIFORM SIGN LAK-", "348, 383, 384, 390, 441, 449, 449 TIMES GU, 449 TIMES IGI"⟩,
  ⟨0x124F4, "CUNEIFORM SIGN LAK-449 TIMES ", "PAP PLUS LU3, PAP PLUS PAP PLUS LU3, U2 PLUS BA"⟩,
  ⟨0x124F7, "CUNEIFORM SIGN LAK-", "450, 457, 470, 483, 490, 492, 493, 495, 550, 608, 617"⟩,
  ⟨0x12502, "CUNEIFORM SIGN LAK-617 TIMES ", "ASH, BAD, DUN3 GUNU GUNU, KU3, LA, TAR, TE"⟩,
  ⟨0x12509, "CUNEIFORM SIGN LAK-", "617 TIMES U2, 617 TIMES UD, 617 TIMES URUDA, 636, 648"⟩,
  ⟨0x1250E, "CUNEIFORM SIGN LAK-648 TIMES ", "DUB, GA, IGI, IGI GUNU"⟩,
  ⟨0x12512, "CUNEIFORM SIGN LAK-648 TIMES ", "NI, PAP PLUS PAP PLUS LU3, SHESH PLUS KI, UD"⟩,
  ⟨0x12516, "CUNEIFORM SIGN ", "LAK-648 TIMES URUDA, LAK-724, LAK-749, LU2 GUNU TIMES ASH"⟩,
  ⟨0x1251A, "CUNEIFORM SIGN LU2 TIMES ", "DISH, HAL, PAP, PAP PLUS PAP PLUS LU3, TAK4"⟩,
  ⟨0x1251F, "CUNEIFORM SIGN ", "MI PLUS ZA7, MUSH OVER MUSH TIMES GA, MUSH OVER MUSH TIMES KAK"⟩,
  ⟨0x12522, "CUNEIFORM SIGN NINDA2 TIMES ", "DIM GUNU, GISH, GUL, HI, KESH2"⟩,
  ⟨0x12527, "CUNEIFORM SIGN NINDA2 TIMES ", "LAK-050, MASH, PAP PLUS PAP, U, U PLUS U, URUDA"⟩,
  ⟨0x1252D, "CUNEIFORM SIGN SAG ", "GUNU TIMES HA, TIMES EN, TIMES SHE AT LEFT"⟩,
  ⟨0x12530, "CUNEIFORM SIGN ", "SAG TIMES TAK4, SHA6 TENU, SHE OVER SHE, SHE PLUS HUB2"⟩,
  ⟨0x12534, "CUNEIFORM SIGN ", "SHE PLUS NAM2, SHE PLUS SAR, SHU2 PLUS DUG TIMES NI"⟩,
  ⟨0x12537, "CUNEIFORM SIGN ", "SHU2 PLUS E2 TIMES AN, SI TIMES TAK4, TAK4 PLUS SAG"⟩,
  ⟨0x1253A, "CUNEIFORM SIGN ", "TUM TIMES GAN2 TENU, TUM TIMES THREE DISH, UR2 INVERTED"⟩,
  ⟨0x1253D, "CUNEIFORM SIGN ", "UR2 TIMES UD, URU TIMES DARA3, URU TIMES LAK-668, URU TIMES LU3"⟩,
  ⟨0x12541, "CUNEIFORM SIGN ", "ZA7, ZU OVER ZU PLUS SAR, ZU5 TIMES THREE DISH TENU"⟩,
  ⟨0x12F90, "CYPRO-MINOAN SIGN ", "CM001, CM002, CM004, CM005, CM006, CM007, CM008, CM009, CM010"⟩,
  ⟨0x12F99, "CYPRO-MINOAN SIGN ", "CM011, CM012, CM012B, CM013, CM015, CM017, CM019, CM021, CM023"⟩,
  ⟨0x12FA2, "CYPRO-MINOAN SIGN ", "CM024, CM025, CM026, CM027, CM028, CM029, CM030, CM033, CM034"⟩,
  ⟨0x12FAB, "CYPRO-MINOAN SIGN ", "CM035, CM036, CM037, CM038, CM039, CM040, CM041, CM044, CM046"⟩,
  ⟨0x12FB4, "CYPRO-MINOAN SIGN ", "CM047, CM049, CM050, CM051, CM052, CM053, CM054, CM055, CM056"⟩,
  ⟨0x12FBD, "CYPRO-MINOAN SIGN ", "CM058, CM059, CM060, CM061, CM062, CM063, CM064, CM066, CM067"⟩,
  ⟨0x12FC6, "CYPRO-MINOAN SIGN ", "CM068, CM069, CM070, CM071, CM072, CM073, CM074, CM075, CM075B"⟩,
  ⟨0x12FCF, "CYPRO-MINOAN SIGN ", "CM076, CM078, CM079, CM080, CM081, CM082, CM083, CM084, CM085"⟩,
  ⟨0x12FD8, "CYPRO-MINOAN SIGN ", "CM086, CM087, CM088, CM089, CM090, CM091, CM092, CM094, CM095"⟩,
  ⟨0x12FE1, "CYPRO-MINOAN SIGN ", "CM096, CM097, CM098, CM099, CM100, CM101, CM102, CM103, CM104"⟩,
  ⟨0x12FEA, "CYPRO-MINOAN SIGN ", "CM105, CM107, CM108, CM109, CM110, CM112, CM114, CM301, CM302"⟩]

end BatchExec
