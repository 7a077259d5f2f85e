import BatchExec.Text.CharacterName.Row

/-!
# Notations

The names of musical symbols and mathematical letters.
-/

namespace BatchExec

/-- The names of musical symbols and mathematical letters. -/
def notationNames : List NameRow := [
  ⟨0x1CF00, "ZNAMENNY COMBINING MARK ", "GORAZDO NIZKO S KRYZHEM ON LEFT, NIZKO S KRYZHEM ON LEFT"⟩,
  ⟨0x1CF02, "ZNAMENNY COMBINING MARK ", "TSATA ON LEFT, GORAZDO NIZKO ON LEFT, NIZKO ON LEFT"⟩,
  ⟨0x1CF05, "ZNAMENNY COMBINING MARK ", "SREDNE ON LEFT, MALO POVYSHE ON LEFT, POVYSHE ON LEFT"⟩,
  ⟨0x1CF08, "ZNAMENNY COMBINING MARK ", "VYSOKO ON LEFT, MALO POVYSHE S KHOKHLOM ON LEFT"⟩,
  ⟨0x1CF0A, "ZNAMENNY COMBINING MARK ", "POVYSHE S KHOKHLOM ON LEFT, VYSOKO S KHOKHLOM ON LEFT"⟩,
  ⟨0x1CF0C, "", "ZNAMENNY COMBINING MARK GORAZDO NIZKO S KRYZHEM ON RIGHT"⟩,
  ⟨0x1CF0D, "", "ZNAMENNY COMBINING MARK NIZKO S KRYZHEM ON RIGHT"⟩,
  ⟨0x1CF0E, "ZNAMENNY COMBINING MARK ", "TSATA ON RIGHT, GORAZDO NIZKO ON RIGHT, NIZKO ON RIGHT"⟩,
  ⟨0x1CF11, "ZNAMENNY COMBINING MARK ", "SREDNE ON RIGHT, MALO POVYSHE ON RIGHT, POVYSHE ON RIGHT"⟩,
  ⟨0x1CF14, "ZNAMENNY COMBINING MARK ", "VYSOKO ON RIGHT, MALO POVYSHE S KHOKHLOM ON RIGHT"⟩,
  ⟨0x1CF16, "", "ZNAMENNY COMBINING MARK POVYSHE S KHOKHLOM ON RIGHT"⟩,
  ⟨0x1CF17, "ZNAMENNY COMBINING MARK ", "VYSOKO S KHOKHLOM ON RIGHT, TSATA S KRYZHEM"⟩,
  ⟨0x1CF19, "ZNAMENNY COMBINING MARK ", "MALO POVYSHE S KRYZHEM, STRANNO MALO POVYSHE"⟩,
  ⟨0x1CF1B, "ZNAMENNY COMBINING MARK ", "POVYSHE S KRYZHEM, POVYSHE STRANNO, VYSOKO S KRYZHEM"⟩,
  ⟨0x1CF1E, "ZNAMENNY COMBINING MARK ", "MALO POVYSHE STRANNO, GORAZDO VYSOKO, ZELO"⟩,
  ⟨0x1CF21, "ZNAMENNY COMBINING MARK ", "ON, RAVNO, TIKHAYA, BORZAYA, UDARKA, PODVERTKA, LOMKA"⟩,
  ⟨0x1CF28, "ZNAMENNY COMBINING MARK ", "KUPNAYA, KACHKA, ZEVOK, SKOBA, RAZSEKA, KRYZH ON LEFT"⟩,
  ⟨0x1CF30, "ZNAMENNY COMBINING TONAL RANGE MARK ", "MRACHNO, SVETLO, TRESVETLO"⟩,
  ⟨0x1CF33, "ZNAMENNY COMBINING MARK ", "ZADERZHKA, DEMESTVENNY ZADERZHKA"⟩,
  ⟨0x1CF35, "ZNAMENNY COMBINING MARK ", "OTSECHKA, PODCHASHIE, PODCHASHIE WITH VERTICAL STROKE"⟩,
  ⟨0x1CF38, "ZNAMENNY COMBINING MARK ", "CHASHKA, CHASHKA POLNAYA, OBLACHKO, SOROCHYA NOZHKA"⟩,
  ⟨0x1CF3C, "ZNAMENNY COMBINING ", "MARK TOCHKA, MARK DVOETOCHIE, ATTACHING VERTICAL OMET"⟩,
  ⟨0x1CF3F, "ZNAMENNY COMBINING ", "MARK CURVED OMET, MARK KRYZH, LOWER TONAL RANGE INDICATOR"⟩,
  ⟨0x1CF42, "ZNAMENNY PRIZNAK MODIFIER ", "LEVEL-2, LEVEL-3, DIRECTION FLIP, KRYZH, ROG"⟩,
  ⟨0x1CF50, "ZNAMENNY NEUME ", "KRYUK, KRYUK TIKHY, PARAKLIT, DVA V CHELNU, KLYUCH, ZANOZHEK"⟩,
  ⟨0x1CF56, "ZNAMENNY NEUME ", "STOPITSA, STOPITSA S OCHKOM, PEREVODKA, PEREVODKA NEPOSTOYANNAYA"⟩,
  ⟨0x1CF5A, "ZNAMENNY NEUME ", "STOPITSA WITH SOROCHYA NOZHKA, CHELYUSTKA, PALKA, ZAPYATAYA"⟩,
  ⟨0x1CF5E, "ZNAMENNY NEUME GOLUBCHIK ", "BORZY, TIKHY, MRACHNY, SVETLY, TRESVETLY"⟩,
  ⟨0x1CF63, "ZNAMENNY NEUME VRAKHIYA ", "PROSTAYA, MRACHNAYA, SVETLAYA, TRESVETLAYA"⟩,
  ⟨0x1CF67, "ZNAMENNY NEUME VRAKHIYA KLYUCHEVAYA ", "PROSTAYA, MRACHNAYA, SVETLAYA, TRESVETLAYA"⟩,
  ⟨0x1CF6B, "ZNAMENNY NEUME ", "DOUBLE ZAPYATAYA, REVERSED CHELYUSTKA, DERBITSA, KHAMILO"⟩,
  ⟨0x1CF6F, "ZNAMENNY NEUME ", "CHASHKA, PODCHASHIE, SKAMEYTSA MRACHNAYA, SKAMEYTSA SVETLAYA"⟩,
  ⟨0x1CF73, "ZNAMENNY NEUME ", "SKAMEYTSA TRESVETLAYA, SKAMEYTSA TIKHAYA, DEMESTVENNY KLYUCH"⟩,
  ⟨0x1CF76, "ZNAMENNY NEUME SKAMEYTSA ", "KLYUCHEVAYA SVETLAYA, KLYUCHENEPOSTOYANNAYA"⟩,
  ⟨0x1CF78, "ZNAMENNY NEUME SKAMEYTSA ", "KLYUCHEVAYA TIKHAYA, DVOECHELNAYA PROSTAYA"⟩,
  ⟨0x1CF7A, "ZNAMENNY NEUME SKAMEYTSA DVOECHELNAYA ", "SVETLAYA, NEPOSTOYANNAYA, KLYUCHEVAYA"⟩,
  ⟨0x1CF7D, "ZNAMENNY NEUME ", "SLOZHITIE, SLOZHITIE S ZAPYATOY"⟩,
  ⟨0x1CF7F, "ZNAMENNY NEUME ", "SLOZHITIE ZAKRYTOE, SLOZHITIE S KRYZHEM, KRYZH, ROG, FITA"⟩,
  ⟨0x1CF84, "ZNAMENNY NEUME ", "KOBYLA, ZMEYTSA, STATYA, STATYA S ZAPYATOY, STATYA S KRYZHEM"⟩,
  ⟨0x1CF89, "ZNAMENNY NEUME STATYA ", "S ZAPYATOY I KRYZHEM, S KRYZHEM I ZAPYATOY, ZAKRYTAYA"⟩,
  ⟨0x1CF8C, "ZNAMENNY NEUME STATYA ", "ZAKRYTAYA S ZAPYATOY, S ROGOM, S DVUMYA ZAPYATYMI"⟩,
  ⟨0x1CF8F, "ZNAMENNY NEUME ", "STATYA S ZAPYATOY I PODCHASHIEM, POLKULIZMY"⟩,
  ⟨0x1CF91, "ZNAMENNY NEUME ", "STATYA NEPOSTOYANNAYA, STRELA PROSTAYA, STRELA MRACHNOTIKHAYA"⟩,
  ⟨0x1CF94, "ZNAMENNY NEUME STRELA ", "KRYZHEVAYA, POLUPOVODNAYA, POVODNAYA, NEPOSTOYANNAYA"⟩,
  ⟨0x1CF98, "ZNAMENNY NEUME STRELA ", "KLYUCHEPOVODNAYA, KLYUCHENEPOSTOYANNAYA, TIKHAYA PUTNAYA"⟩,
  ⟨0x1CF9B, "ZNAMENNY NEUME STRELA ", "DVOECHELNAYA, DVOECHELNOKRYZHEVAYA, DVOECHELNOPOVODNAYA"⟩,
  ⟨0x1CF9E, "ZNAMENNY NEUME STRELA ", "DVOECHELNAYA KLYUCHEVAYA, DVOECHELNOPOVODNAYA KLYUCHEVAYA"⟩,
  ⟨0x1CFA0, "", "ZNAMENNY NEUME STRELA GROMNAYA WITH SINGLE ZAPYATAYA"⟩,
  ⟨0x1CFA1, "ZNAMENNY NEUME STRELA ", "GROMOPOVODNAYA WITH SINGLE ZAPYATAYA, GROMNAYA"⟩,
  ⟨0x1CFA3, "ZNAMENNY NEUME STRELA ", "GROMOPOVODNAYA, GROMOPOVODNAYA WITH DOUBLE ZAPYATAYA"⟩,
  ⟨0x1CFA5, "ZNAMENNY NEUME ", "STRELA GROMOKRYZHEVAYA, STRELA GROMOKRYZHEVAYA POVODNAYA, MECHIK"⟩,
  ⟨0x1CFA8, "ZNAMENNY NEUME MECHIK ", "POVODNY, KLYUCHEVOY, KLYUCHEPOVODNY, KLYUCHENEPOSTOYANNY"⟩,
  ⟨0x1CFAC, "ZNAMENNY NEUME STRELA ", "TRYASOGLASNAYA, TRYASOPOVODNAYA"⟩,
  ⟨0x1CFAE, "ZNAMENNY NEUME ", "STRELA TRYASOSTRELNAYA, OSOKA, OSOKA SVETLAYA"⟩,
  ⟨0x1CFB1, "ZNAMENNY NEUME OSOKA ", "TRESVETLAYA, KRYUKOVAYA SVETLAYA, KLYUCHEVAYA SVETLAYA"⟩,
  ⟨0x1CFB4, "ZNAMENNY NEUME ", "OSOKA KLYUCHEVAYA NEPOSTOYANNAYA, STRELA KRYUKOVAYA"⟩,
  ⟨0x1CFB6, "ZNAMENNY NEUME STRELA KRYUKOVAYA ", "POVODNAYA, GROMNAYA WITH SINGLE ZAPYATAYA"⟩,
  ⟨0x1CFB8, "", "ZNAMENNY NEUME STRELA KRYUKOVAYA GROMOPOVODNAYA WITH SINGLE ZAPYATAYA"⟩,
  ⟨0x1CFB9, "ZNAMENNY NEUME STRELA KRYUKOVAYA ", "GROMNAYA, GROMOPOVODNAYA"⟩,
  ⟨0x1CFBB, "", "ZNAMENNY NEUME STRELA KRYUKOVAYA GROMOPOVODNAYA WITH DOUBLE ZAPYATAYA"⟩,
  ⟨0x1CFBC, "ZNAMENNY NEUME STRELA KRYUKOVAYA ", "GROMOKRYZHEVAYA, GROMOKRYZHEVAYA POVODNAYA"⟩,
  ⟨0x1CFBE, "ZNAMENNY NEUME ", "STRELA KRYUKOVAYA TRYASKA, KUFISMA, OBLAKO, DUDA, NEMKA, PAUK"⟩,
  ⟨0x1D000, "BYZANTINE MUSICAL SYMBOL ", "PSILI, DASEIA, PERISPOMENI"⟩,
  ⟨0x1D003, "BYZANTINE MUSICAL SYMBOL ", "OXEIA EKFONITIKON, OXEIA DIPLI, VAREIA EKFONITIKON"⟩,
  ⟨0x1D006, "BYZANTINE MUSICAL SYMBOL ", "VAREIA DIPLI, KATHISTI, SYRMATIKI, PARAKLITIKI"⟩,
  ⟨0x1D00A, "BYZANTINE MUSICAL SYMBOL ", "YPOKRISIS, YPOKRISIS DIPLI, KREMASTI, APESO EKFONITIKON"⟩,
  ⟨0x1D00E, "BYZANTINE MUSICAL SYMBOL ", "EXO EKFONITIKON, TELEIA, KENTIMATA, APOSTROFOS"⟩,
  ⟨0x1D012, "BYZANTINE MUSICAL SYMBOL ", "APOSTROFOS DIPLI, SYNEVMA, THITA, OLIGON ARCHAION"⟩,
  ⟨0x1D016, "BYZANTINE MUSICAL SYMBOL ", "GORGON ARCHAION, PSILON, CHAMILON, VATHY"⟩,
  ⟨0x1D01A, "BYZANTINE MUSICAL SYMBOL ", "ISON ARCHAION, KENTIMA ARCHAION, KENTIMATA ARCHAION"⟩,
  ⟨0x1D01D, "BYZANTINE MUSICAL SYMBOL ", "SAXIMATA, PARICHON, STAVROS APODEXIA"⟩,
  ⟨0x1D020, "BYZANTINE MUSICAL SYMBOL ", "OXEIAI ARCHAION, VAREIAI ARCHAION, APODERMA ARCHAION"⟩,
  ⟨0x1D023, "BYZANTINE MUSICAL SYMBOL ", "APOTHEMA, KLASMA, REVMA, PIASMA ARCHAION"⟩,
  ⟨0x1D027, "BYZANTINE MUSICAL SYMBOL ", "TINAGMA, ANATRICHISMA, SEISMA, SYNAGMA ARCHAION"⟩,
  ⟨0x1D02B, "BYZANTINE MUSICAL SYMBOL ", "SYNAGMA META STAVROU, OYRANISMA ARCHAION, THEMA"⟩,
  ⟨0x1D02E, "BYZANTINE MUSICAL SYMBOL ", "LEMOI, DYO, TRIA, TESSERA, KRATIMATA, APESO EXO NEO"⟩,
  ⟨0x1D034, "BYZANTINE MUSICAL SYMBOL ", "FTHORA ARCHAION, IMIFTHORA, TROMIKON ARCHAION"⟩,
  ⟨0x1D037, "BYZANTINE MUSICAL SYMBOL ", "KATAVA TROMIKON, PELASTON, PSIFISTON, KONTEVMA"⟩,
  ⟨0x1D03B, "BYZANTINE MUSICAL SYMBOL ", "CHOREVMA ARCHAION, RAPISMA, PARAKALESMA ARCHAION"⟩,
  ⟨0x1D03E, "BYZANTINE MUSICAL SYMBOL ", "PARAKLITIKI ARCHAION, ICHADIN, NANA"⟩,
  ⟨0x1D041, "BYZANTINE MUSICAL SYMBOL ", "PETASMA, KONTEVMA ALLO, TROMIKON ALLO, STRAGGISMATA"⟩,
  ⟨0x1D045, "BYZANTINE MUSICAL SYMBOL ", "GRONTHISMATA, ISON NEO, OLIGON NEO, OXEIA NEO"⟩,
  ⟨0x1D049, "BYZANTINE MUSICAL SYMBOL ", "PETASTI, KOUFISMA, PETASTOKOUFISMA, KRATIMOKOUFISMA"⟩,
  ⟨0x1D04D, "BYZANTINE MUSICAL SYMBOL ", "PELASTON NEO, KENTIMATA NEO ANO, KENTIMA NEO ANO"⟩,
  ⟨0x1D050, "BYZANTINE MUSICAL SYMBOL ", "YPSILI, APOSTROFOS NEO, APOSTROFOI SYNDESMOS NEO"⟩,
  ⟨0x1D053, "BYZANTINE MUSICAL SYMBOL ", "YPORROI, KRATIMOYPORROON, ELAFRON, CHAMILI"⟩,
  ⟨0x1D057, "BYZANTINE MUSICAL SYMBOL ", "MIKRON ISON, VAREIA NEO, PIASMA NEO, PSIFISTON NEO"⟩,
  ⟨0x1D05B, "BYZANTINE MUSICAL SYMBOL ", "OMALON, ANTIKENOMA, LYGISMA, PARAKLITIKI NEO"⟩,
  ⟨0x1D05F, "BYZANTINE MUSICAL SYMBOL ", "PARAKALESMA NEO, ETERON PARAKALESMA, KYLISMA"⟩,
  ⟨0x1D062, "BYZANTINE MUSICAL SYMBOL ", "ANTIKENOKYLISMA, TROMIKON NEO, EKSTREPTON, SYNAGMA NEO"⟩,
  ⟨0x1D066, "BYZANTINE MUSICAL SYMBOL ", "SYRMA, CHOREVMA NEO, EPEGERMA, SEISMA NEO, XIRON KLASMA"⟩,
  ⟨0x1D06B, "BYZANTINE MUSICAL SYMBOL ", "TROMIKOPSIFISTON, PSIFISTOLYGISMA, TROMIKOLYGISMA"⟩,
  ⟨0x1D06E, "BYZANTINE MUSICAL SYMBOL ", "TROMIKOPARAKALESMA, PSIFISTOPARAKALESMA, TROMIKOSYNAGMA"⟩,
  ⟨0x1D071, "BYZANTINE MUSICAL SYMBOL ", "PSIFISTOSYNAGMA, GORGOSYNTHETON, ARGOSYNTHETON"⟩,
  ⟨0x1D074, "BYZANTINE MUSICAL SYMBOL ", "ETERON ARGOSYNTHETON, OYRANISMA NEO, THEMATISMOS ESO"⟩,
  ⟨0x1D077, "BYZANTINE MUSICAL SYMBOL ", "THEMATISMOS EXO, THEMA APLOUN, THES KAI APOTHES"⟩,
  ⟨0x1D07A, "BYZANTINE MUSICAL SYMBOL ", "KATAVASMA, ENDOFONON, YFEN KATO, YFEN ANO"⟩,
  ⟨0x1D07E, "BYZANTINE MUSICAL SYMBOL ", "STAVROS, KLASMA ANO, DIPLI ARCHAION, KRATIMA ARCHAION"⟩,
  ⟨0x1D082, "BYZANTINE MUSICAL SYMBOL ", "KRATIMA ALLO, KRATIMA NEO, APODERMA NEO, APLI"⟩,
  ⟨0x1D086, "BYZANTINE MUSICAL SYMBOL ", "DIPLI, TRIPLI, TETRAPLI, KORONIS, LEIMMA ENOS CHRONOU"⟩,
  ⟨0x1D08B, "BYZANTINE MUSICAL SYMBOL LEIMMA ", "DYO CHRONON, TRION CHRONON, TESSARON CHRONON"⟩,
  ⟨0x1D08E, "BYZANTINE MUSICAL SYMBOL ", "LEIMMA IMISEOS CHRONOU, GORGON NEO ANO"⟩,
  ⟨0x1D090, "BYZANTINE MUSICAL SYMBOL GORGON PARESTIGMENON ", "ARISTERA, DEXIA"⟩,
  ⟨0x1D092, "BYZANTINE MUSICAL SYMBOL ", "DIGORGON, DIGORGON PARESTIGMENON ARISTERA KATO"⟩,
  ⟨0x1D094, "BYZANTINE MUSICAL SYMBOL DIGORGON PARESTIGMENON ", "ARISTERA ANO, DEXIA"⟩,
  ⟨0x1D096, "BYZANTINE MUSICAL SYMBOL ", "TRIGORGON, ARGON, IMIDIARGON, DIARGON, AGOGI POLI ARGI"⟩,
  ⟨0x1D09B, "BYZANTINE MUSICAL SYMBOL AGOGI ", "ARGOTERI, ARGI, METRIA, MESI, GORGI, GORGOTERI"⟩,
  ⟨0x1D0A1, "BYZANTINE MUSICAL SYMBOL ", "AGOGI POLI GORGI, MARTYRIA PROTOS ICHOS"⟩,
  ⟨0x1D0A3, "BYZANTINE MUSICAL SYMBOL MARTYRIA ", "ALLI PROTOS ICHOS, DEYTEROS ICHOS"⟩,
  ⟨0x1D0A5, "BYZANTINE MUSICAL SYMBOL MARTYRIA ", "ALLI DEYTEROS ICHOS, TRITOS ICHOS, TRIFONIAS"⟩,
  ⟨0x1D0A8, "BYZANTINE MUSICAL SYMBOL MARTYRIA TETARTOS ", "ICHOS, LEGETOS ICHOS"⟩,
  ⟨0x1D0AA, "BYZANTINE MUSICAL SYMBOL MARTYRIA ", "LEGETOS ICHOS, PLAGIOS ICHOS"⟩,
  ⟨0x1D0AC, "BYZANTINE MUSICAL SYMBOL ", "ISAKIA TELOUS ICHIMATOS, APOSTROFOI TELOUS ICHIMATOS"⟩,
  ⟨0x1D0AE, "BYZANTINE MUSICAL SYMBOL FANEROSIS ", "TETRAFONIAS, MONOFONIAS, DIFONIAS"⟩,
  ⟨0x1D0B1, "BYZANTINE MUSICAL SYMBOL MARTYRIA ", "VARYS ICHOS, PROTOVARYS ICHOS"⟩,
  ⟨0x1D0B3, "BYZANTINE MUSICAL SYMBOL ", "MARTYRIA PLAGIOS TETARTOS ICHOS, GORTHMIKON N APLOUN"⟩,
  ⟨0x1D0B5, "BYZANTINE MUSICAL SYMBOL ", "GORTHMIKON N DIPLOUN, ENARXIS KAI FTHORA VOU"⟩,
  ⟨0x1D0B7, "BYZANTINE MUSICAL SYMBOL ", "IMIFONON, IMIFTHORON, FTHORA ARCHAION DEYTEROU ICHOU"⟩,
  ⟨0x1D0BA, "BYZANTINE MUSICAL SYMBOL FTHORA DIATONIKI ", "PA, NANA"⟩,
  ⟨0x1D0BC, "BYZANTINE MUSICAL SYMBOL FTHORA ", "NAOS ICHOS, DIATONIKI DI, SKLIRON DIATONON DI"⟩,
  ⟨0x1D0BF, "BYZANTINE MUSICAL SYMBOL FTHORA DIATONIKI ", "KE, ZO, NI KATO, NI ANO"⟩,
  ⟨0x1D0C3, "BYZANTINE MUSICAL SYMBOL FTHORA MALAKON CHROMA ", "DIFONIAS, MONOFONIAS"⟩,
  ⟨0x1D0C5, "", "BYZANTINE MUSICAL SYMBOL FHTORA SKLIRON CHROMA VASIS"⟩,
  ⟨0x1D0C6, "", "BYZANTINE MUSICAL SYMBOL FTHORA SKLIRON CHROMA SYNAFI"⟩,
  ⟨0x1D0C7, "BYZANTINE MUSICAL SYMBOL ", "FTHORA NENANO, CHROA ZYGOS, CHROA KLITON"⟩,
  ⟨0x1D0CA, "BYZANTINE MUSICAL SYMBOL ", "CHROA SPATHI, FTHORA I YFESIS TETARTIMORION"⟩,
  ⟨0x1D0CC, "BYZANTINE MUSICAL SYMBOL ", "FTHORA ENARMONIOS ANTIFONIA, YFESIS TRITIMORION"⟩,
  ⟨0x1D0CE, "BYZANTINE MUSICAL SYMBOL DIESIS ", "TRITIMORION, TETARTIMORION"⟩,
  ⟨0x1D0D0, "BYZANTINE MUSICAL SYMBOL DIESIS ", "APLI DYO DODEKATA, MONOGRAMMOS TESSERA DODEKATA"⟩,
  ⟨0x1D0D2, "BYZANTINE MUSICAL SYMBOL DIESIS ", "DIGRAMMOS EX DODEKATA, TRIGRAMMOS OKTO DODEKATA"⟩,
  ⟨0x1D0D4, "BYZANTINE MUSICAL SYMBOL YFESIS ", "APLI DYO DODEKATA, MONOGRAMMOS TESSERA DODEKATA"⟩,
  ⟨0x1D0D6, "BYZANTINE MUSICAL SYMBOL YFESIS ", "DIGRAMMOS EX DODEKATA, TRIGRAMMOS OKTO DODEKATA"⟩,
  ⟨0x1D0D8, "BYZANTINE MUSICAL SYMBOL GENIKI ", "DIESIS, YFESIS"⟩,
  ⟨0x1D0DA, "BYZANTINE MUSICAL SYMBOL DIASTOLI APLI ", "MIKRI, MEGALI"⟩,
  ⟨0x1D0DC, "BYZANTINE MUSICAL SYMBOL ", "DIASTOLI DIPLI, DIASTOLI THESEOS, SIMANSIS THESEOS"⟩,
  ⟨0x1D0DF, "BYZANTINE MUSICAL SYMBOL SIMANSIS THESEOS ", "DISIMOU, TRISIMOU, TETRASIMOU"⟩,
  ⟨0x1D0E2, "BYZANTINE MUSICAL SYMBOL SIMANSIS ", "ARSEOS, ARSEOS DISIMOU, ARSEOS TRISIMOU"⟩,
  ⟨0x1D0E5, "BYZANTINE MUSICAL SYMBOL ", "SIMANSIS ARSEOS TETRASIMOU, DIGRAMMA GG, DIFTOGGOS OU"⟩,
  ⟨0x1D0E8, "BYZANTINE MUSICAL SYMBOL ", "STIGMA, ARKTIKO PA, ARKTIKO VOU, ARKTIKO GA, ARKTIKO DI"⟩,
  ⟨0x1D0ED, "BYZANTINE MUSICAL SYMBOL ", "ARKTIKO KE, ARKTIKO ZO, ARKTIKO NI, KENTIMATA NEO MESO"⟩,
  ⟨0x1D0F1, "BYZANTINE MUSICAL SYMBOL ", "KENTIMA NEO MESO, KENTIMATA NEO KATO"⟩,
  ⟨0x1D0F3, "BYZANTINE MUSICAL SYMBOL ", "KENTIMA NEO KATO, KLASMA KATO, GORGON NEO KATO"⟩,
  ⟨0x1D100, "MUSICAL SYMBOL ", "SINGLE BARLINE, DOUBLE BARLINE, FINAL BARLINE"⟩,
  ⟨0x1D103, "MUSICAL SYMBOL ", "REVERSE FINAL BARLINE, DASHED BARLINE, SHORT BARLINE"⟩,
  ⟨0x1D106, "MUSICAL SYMBOL ", "LEFT REPEAT SIGN, RIGHT REPEAT SIGN, REPEAT DOTS, DAL SEGNO"⟩,
  ⟨0x1D10A, "MUSICAL SYMBOL ", "DA CAPO, SEGNO, CODA, REPEATED FIGURE-1, REPEATED FIGURE-2"⟩,
  ⟨0x1D10F, "MUSICAL SYMBOL ", "REPEATED FIGURE-3, FERMATA, FERMATA BELOW, BREATH MARK"⟩,
  ⟨0x1D113, "MUSICAL SYMBOL ", "CAESURA, BRACE, BRACKET, ONE-LINE STAFF, TWO-LINE STAFF"⟩,
  ⟨0x1D118, "MUSICAL SYMBOL ", "THREE-LINE STAFF, FOUR-LINE STAFF, FIVE-LINE STAFF"⟩,
  ⟨0x1D11B, "MUSICAL SYMBOL ", "SIX-LINE STAFF, SIX-STRING FRETBOARD, FOUR-STRING FRETBOARD"⟩,
  ⟨0x1D11E, "MUSICAL SYMBOL ", "G CLEF, G CLEF OTTAVA ALTA, G CLEF OTTAVA BASSA, C CLEF, F CLEF"⟩,
  ⟨0x1D123, "MUSICAL SYMBOL ", "F CLEF OTTAVA ALTA, F CLEF OTTAVA BASSA, DRUM CLEF-1, DRUM CLEF-2"⟩,
  ⟨0x1D129, "MUSICAL SYMBOL ", "MULTIPLE MEASURE REST, DOUBLE SHARP, DOUBLE FLAT, FLAT UP"⟩,
  ⟨0x1D12D, "MUSICAL SYMBOL ", "FLAT DOWN, NATURAL UP, NATURAL DOWN, SHARP UP, SHARP DOWN"⟩,
  ⟨0x1D132, "MUSICAL SYMBOL ", "QUARTER TONE SHARP, QUARTER TONE FLAT, COMMON TIME, CUT TIME"⟩,
  ⟨0x1D136, "MUSICAL SYMBOL ", "OTTAVA ALTA, OTTAVA BASSA, QUINDICESIMA ALTA, QUINDICESIMA BASSA"⟩,
  ⟨0x1D13A, "MUSICAL SYMBOL ", "MULTI REST, WHOLE REST, HALF REST, QUARTER REST, EIGHTH REST"⟩,
  ⟨0x1D13F, "MUSICAL SYMBOL ", "SIXTEENTH REST, THIRTY-SECOND REST, SIXTY-FOURTH REST"⟩,
  ⟨0x1D142, "MUSICAL SYMBOL ", "ONE HUNDRED TWENTY-EIGHTH REST, X NOTEHEAD, PLUS NOTEHEAD"⟩,
  ⟨0x1D145, "MUSICAL SYMBOL ", "CIRCLE X NOTEHEAD, SQUARE NOTEHEAD WHITE, SQUARE NOTEHEAD BLACK"⟩,
  ⟨0x1D148, "MUSICAL SYMBOL TRIANGLE NOTEHEAD ", "UP WHITE, UP BLACK, LEFT WHITE, LEFT BLACK"⟩,
  ⟨0x1D14C, "MUSICAL SYMBOL TRIANGLE NOTEHEAD ", "RIGHT WHITE, RIGHT BLACK, DOWN WHITE"⟩,
  ⟨0x1D14F, "MUSICAL SYMBOL TRIANGLE NOTEHEAD ", "DOWN BLACK, UP RIGHT WHITE, UP RIGHT BLACK"⟩,
  ⟨0x1D152, "MUSICAL SYMBOL MOON NOTEHEAD ", "WHITE, BLACK"⟩,
  ⟨0x1D154, "MUSICAL SYMBOL TRIANGLE-ROUND NOTEHEAD DOWN ", "WHITE, BLACK"⟩,
  ⟨0x1D156, "MUSICAL SYMBOL ", "PARENTHESIS NOTEHEAD, VOID NOTEHEAD"⟩,
  ⟨0x1D158, "MUSICAL SYMBOL ", "NOTEHEAD BLACK, NULL NOTEHEAD, CLUSTER NOTEHEAD WHITE"⟩,
  ⟨0x1D15B, "MUSICAL SYMBOL ", "CLUSTER NOTEHEAD BLACK, BREVE, WHOLE NOTE, HALF NOTE"⟩,
  ⟨0x1D15F, "MUSICAL SYMBOL ", "QUARTER NOTE, EIGHTH NOTE, SIXTEENTH NOTE, THIRTY-SECOND NOTE"⟩,
  ⟨0x1D163, "MUSICAL SYMBOL ", "SIXTY-FOURTH NOTE, ONE HUNDRED TWENTY-EIGHTH NOTE, COMBINING STEM"⟩,
  ⟨0x1D166, "MUSICAL SYMBOL COMBINING ", "SPRECHGESANG STEM, TREMOLO-1, TREMOLO-2, TREMOLO-3"⟩,
  ⟨0x1D16A, "MUSICAL SYMBOL FINGERED TREMOLO-", "1, 2, 3"⟩,
  ⟨0x1D16D, "MUSICAL SYMBOL COMBINING ", "AUGMENTATION DOT, FLAG-1, FLAG-2, FLAG-3, FLAG-4"⟩,
  ⟨0x1D172, "MUSICAL SYMBOL ", "COMBINING FLAG-5, BEGIN BEAM, END BEAM, BEGIN TIE"⟩,
  ⟨0x1D176, "MUSICAL SYMBOL ", "END TIE, BEGIN SLUR, END SLUR, BEGIN PHRASE, END PHRASE"⟩,
  ⟨0x1D17B, "MUSICAL SYMBOL COMBINING ", "ACCENT, STACCATO, TENUTO, STACCATISSIMO"⟩,
  ⟨0x1D17F, "MUSICAL SYMBOL COMBINING ", "MARCATO, MARCATO-STACCATO, ACCENT-STACCATO"⟩,
  ⟨0x1D182, "MUSICAL SYMBOL ", "COMBINING LOURE, ARPEGGIATO UP, ARPEGGIATO DOWN"⟩,
  ⟨0x1D185, "MUSICAL SYMBOL COMBINING ", "DOIT, RIP, FLIP, SMEAR, BEND, DOUBLE TONGUE"⟩,
  ⟨0x1D18B, "MUSICAL SYMBOL ", "COMBINING TRIPLE TONGUE, RINFORZANDO, SUBITO"⟩,
  ⟨0x1D18E, "MUSICAL SYMBOL ", "Z, PIANO, MEZZO, FORTE, CRESCENDO, DECRESCENDO, GRACE NOTE SLASH"⟩,
  ⟨0x1D195, "MUSICAL SYMBOL ", "GRACE NOTE NO SLASH, TR, TURN, INVERTED TURN, TURN SLASH, TURN UP"⟩,
  ⟨0x1D19B, "MUSICAL SYMBOL ORNAMENT STROKE-", "1, 2, 3, 4, 5, 6, 7, 8, 9, 10, 11"⟩,
  ⟨0x1D1A6, "MUSICAL SYMBOL ", "HAUPTSTIMME, NEBENSTIMME, END OF STIMME, DEGREE SLASH"⟩,
  ⟨0x1D1AA, "MUSICAL SYMBOL COMBINING ", "DOWN BOW, UP BOW, HARMONIC"⟩,
  ⟨0x1D1AD, "MUSICAL SYMBOL ", "COMBINING SNAP PIZZICATO, PEDAL MARK, PEDAL UP MARK"⟩,
  ⟨0x1D1B0, "MUSICAL SYMBOL ", "HALF PEDAL MARK, GLISSANDO UP, GLISSANDO DOWN, WITH FINGERNAILS"⟩,
  ⟨0x1D1B4, "MUSICAL SYMBOL ", "DAMP, DAMP ALL, MAXIMA, LONGA, BREVIS, SEMIBREVIS WHITE"⟩,
  ⟨0x1D1BA, "MUSICAL SYMBOL ", "SEMIBREVIS BLACK, MINIMA, MINIMA BLACK, SEMIMINIMA WHITE"⟩,
  ⟨0x1D1BE, "MUSICAL SYMBOL ", "SEMIMINIMA BLACK, FUSA WHITE, FUSA BLACK, LONGA PERFECTA REST"⟩,
  ⟨0x1D1C2, "MUSICAL SYMBOL ", "LONGA IMPERFECTA REST, BREVIS REST, SEMIBREVIS REST, MINIMA REST"⟩,
  ⟨0x1D1C6, "MUSICAL SYMBOL ", "SEMIMINIMA REST, TEMPUS PERFECTUM CUM PROLATIONE PERFECTA"⟩,
  ⟨0x1D1C8, "MUSICAL SYMBOL TEMPUS PERFECTUM CUM PROLATIONE ", "IMPERFECTA, PERFECTA DIMINUTION-1"⟩,
  ⟨0x1D1CA, "MUSICAL SYMBOL TEMPUS IMPERFECTUM CUM PROLATIONE ", "PERFECTA, IMPERFECTA"⟩,
  ⟨0x1D1CC, "MUSICAL SYMBOL TEMPUS IMPERFECTUM CUM PROLATIONE IMPERFECTA DIMINUTION-", "1, 2, 3"⟩,
  ⟨0x1D1CF, "MUSICAL SYMBOL ", "CROIX, GREGORIAN C CLEF"⟩,
  ⟨0x1D1D1, "MUSICAL SYMBOL ", "GREGORIAN F CLEF, SQUARE B, VIRGA, PODATUS, CLIVIS"⟩,
  ⟨0x1D1D6, "MUSICAL SYMBOL ", "SCANDICUS, CLIMACUS, TORCULUS, PORRECTUS, PORRECTUS FLEXUS"⟩,
  ⟨0x1D1DB, "MUSICAL SYMBOL ", "SCANDICUS FLEXUS, TORCULUS RESUPINUS, PES SUBPUNCTIS"⟩,
  ⟨0x1D1DE, "MUSICAL SYMBOL KIEVAN ", "C CLEF, END OF PIECE, FINAL NOTE, RECITATIVE MARK"⟩,
  ⟨0x1D1E2, "MUSICAL SYMBOL KIEVAN ", "WHOLE NOTE, HALF NOTE, QUARTER NOTE STEM DOWN"⟩,
  ⟨0x1D1E5, "MUSICAL SYMBOL KIEVAN ", "QUARTER NOTE STEM UP, EIGHTH NOTE STEM DOWN"⟩,
  ⟨0x1D1E7, "MUSICAL SYMBOL ", "KIEVAN EIGHTH NOTE STEM UP, KIEVAN FLAT SIGN, SORI, KORON"⟩,
  ⟨0x1D200, "", "GREEK VOCAL NOTATION SYMBOL-1"⟩,
  ⟨0x1D201, "GREEK VOCAL NOTATION SYMBOL-", "2, 3, 4, 5, 6, 7, 8, 9, 10, 11, 12, 13, 14, 15, 16"⟩,
  ⟨0x1D210, "GREEK VOCAL NOTATION SYMBOL-", "17, 18, 19, 20, 21, 22, 23, 24, 50, 51, 52, 53, 54"⟩,
  ⟨0x1D21D, "GREEK INSTRUMENTAL NOTATION SYMBOL-", "1, 2, 4"⟩,
  ⟨0x1D220, "GREEK INSTRUMENTAL NOTATION SYMBOL-", "5, 7, 8, 11, 12, 13, 14, 17, 18, 19, 23, 24"⟩,
  ⟨0x1D22C, "GREEK INSTRUMENTAL NOTATION SYMBOL-", "25, 26, 27, 29, 30, 32, 36, 37, 38, 39, 40"⟩,
  ⟨0x1D237, "GREEK INSTRUMENTAL NOTATION SYMBOL-", "42, 43, 45, 47, 48, 49, 50, 51, 52, 53, 54"⟩,
  ⟨0x1D242, "COMBINING GREEK MUSICAL ", "TRISEME, TETRASEME"⟩,
  ⟨0x1D244, "", "COMBINING GREEK MUSICAL PENTASEME, GREEK MUSICAL LEIMMA"⟩,
  ⟨0x1D2E0, "MAYAN NUMERAL ", "ZERO, ONE, TWO, THREE"⟩,
  ⟨0x1D2E4, "MAYAN NUMERAL ", "FOUR, FIVE, SIX, SEVEN, EIGHT, NINE, TEN, ELEVEN, TWELVE, THIRTEEN"⟩,
  ⟨0x1D2EE, "MAYAN NUMERAL ", "FOURTEEN, FIFTEEN, SIXTEEN, SEVENTEEN, EIGHTEEN, NINETEEN"⟩,
  ⟨0x1D300, "", "MONOGRAM FOR EARTH"⟩,
  ⟨0x1D301, "DIGRAM FOR ", "HEAVENLY EARTH, HUMAN EARTH, EARTHLY HEAVEN, EARTHLY HUMAN, EARTH"⟩,
  ⟨0x1D306, "TETRAGRAM FOR ", "CENTRE, FULL CIRCLE, MIRED, BARRIER, KEEPING SMALL, CONTRARIETY"⟩,
  ⟨0x1D30C, "TETRAGRAM FOR ", "ASCENT, OPPOSITION, BRANCHING OUT, DEFECTIVENESS OR DISTORTION"⟩,
  ⟨0x1D310, "TETRAGRAM FOR ", "DIVERGENCE, YOUTHFULNESS, INCREASE, PENETRATION, REACH, CONTACT"⟩,
  ⟨0x1D316, "TETRAGRAM FOR ", "HOLDING BACK, WAITING, FOLLOWING, ADVANCE, RELEASE, RESISTANCE"⟩,
  ⟨0x1D31C, "TETRAGRAM FOR ", "EASE, JOY, CONTENTION, ENDEAVOUR, DUTIES, CHANGE, DECISIVENESS"⟩,
  ⟨0x1D323, "TETRAGRAM FOR ", "BOLD RESOLUTION, PACKING, LEGION, CLOSENESS, KINSHIP, GATHERING"⟩,
  ⟨0x1D329, "TETRAGRAM FOR ", "STRENGTH, PURITY, FULLNESS, RESIDENCE, LAW OR MODEL, RESPONSE"⟩,
  ⟨0x1D32F, "TETRAGRAM FOR ", "GOING TO MEET, ENCOUNTERS, STOVE, GREATNESS, ENLARGEMENT, PATTERN"⟩,
  ⟨0x1D335, "TETRAGRAM FOR ", "RITUAL, FLIGHT, VASTNESS OR WASTING, CONSTANCY, MEASURE, ETERNITY"⟩,
  ⟨0x1D33B, "TETRAGRAM FOR ", "UNITY, DIMINISHMENT, CLOSED MOUTH, GUARDEDNESS, GATHERING IN"⟩,
  ⟨0x1D340, "TETRAGRAM FOR ", "MASSING, ACCUMULATION, EMBELLISHMENT, DOUBT, WATCH, SINKING"⟩,
  ⟨0x1D346, "TETRAGRAM FOR ", "INNER, DEPARTURE, DARKENING, DIMMING, EXHAUSTION, SEVERANCE"⟩,
  ⟨0x1D34C, "TETRAGRAM FOR ", "STOPPAGE, HARDNESS, COMPLETION, CLOSURE, FAILURE, AGGRAVATION"⟩,
  ⟨0x1D352, "TETRAGRAM FOR ", "COMPLIANCE, ON THE VERGE, DIFFICULTIES, LABOURING, FOSTERING"⟩,
  ⟨0x1D360, "COUNTING ROD UNIT DIGIT ", "ONE, TWO, THREE, FOUR, FIVE, SIX, SEVEN, EIGHT, NINE"⟩,
  ⟨0x1D369, "COUNTING ROD TENS DIGIT ", "ONE, TWO, THREE, FOUR, FIVE, SIX, SEVEN, EIGHT, NINE"⟩,
  ⟨0x1D372, "IDEOGRAPHIC TALLY MARK ", "ONE, TWO, THREE, FOUR"⟩,
  ⟨0x1D376, "", "IDEOGRAPHIC TALLY MARK FIVE, TALLY MARK ONE, TALLY MARK FIVE"⟩,
  ⟨0x1D400, "MATHEMATICAL BOLD CAPITAL ", "A, B, C, D, E, F, G, H"⟩,
  ⟨0x1D408, "MATHEMATICAL BOLD CAPITAL ", "I, J, K, L, M, N, O, P, Q, R, S, T, U, V, W, X, Y, Z"⟩,
  ⟨0x1D41A, "MATHEMATICAL BOLD SMALL ", "A, B, C, D, E, F, G"⟩,
  ⟨0x1D421, "MATHEMATICAL BOLD SMALL ", "H, I, J, K, L, M, N, O, P, Q, R, S, T, U, V, W, X, Y, Z"⟩,
  ⟨0x1D434, "MATHEMATICAL ITALIC CAPITAL ", "A, B, C, D, E, F, G, H"⟩,
  ⟨0x1D43C, "MATHEMATICAL ITALIC CAPITAL ", "I, J, K, L, M, N, O, P, Q, R, S, T, U, V, W, X, Y, Z"⟩,
  ⟨0x1D44E, "MATHEMATICAL ITALIC SMALL ", "A, B, C, D, E, F, G"⟩,
  ⟨0x1D456, "MATHEMATICAL ITALIC SMALL ", "I, J, K, L, M, N, O, P, Q, R, S, T, U, V, W, X, Y, Z"⟩,
  ⟨0x1D468, "MATHEMATICAL BOLD ITALIC CAPITAL ", "A, B, C, D, E, F, G, H, I, J"⟩,
  ⟨0x1D472, "MATHEMATICAL BOLD ITALIC CAPITAL ", "K, L, M, N, O, P, Q, R, S, T, U, V, W, X, Y, Z"⟩,
  ⟨0x1D482, "MATHEMATICAL BOLD ITALIC SMALL ", "A, B, C, D, E, F, G"⟩,
  ⟨0x1D489, "MATHEMATICAL BOLD ITALIC SMALL ", "H, I, J, K, L, M, N, O, P, Q, R, S, T, U, V, W, X"⟩,
  ⟨0x1D49A, "MATHEMATICAL ", "BOLD ITALIC SMALL Y, BOLD ITALIC SMALL Z, SCRIPT CAPITAL A"⟩,
  ⟨0x1D49E, "MATHEMATICAL SCRIPT CAPITAL ", "C, D"⟩,
  ⟨0x1D4A2, "", "MATHEMATICAL SCRIPT CAPITAL G"⟩,
  ⟨0x1D4A5, "MATHEMATICAL SCRIPT CAPITAL ", "J, K"⟩,
  ⟨0x1D4A9, "MATHEMATICAL SCRIPT CAPITAL ", "N, O, P, Q"⟩,
  ⟨0x1D4AE, "MATHEMATICAL SCRIPT CAPITAL ", "S, T, U, V, W, X"⟩,
  ⟨0x1D4B4, "MATHEMATICAL SCRIPT ", "CAPITAL Y, CAPITAL Z, SMALL A, SMALL B, SMALL C, SMALL D"⟩,
  ⟨0x1D4BB, "", "MATHEMATICAL SCRIPT SMALL F"⟩,
  ⟨0x1D4BD, "MATHEMATICAL SCRIPT SMALL ", "H, I, J, K, L, M, N"⟩,
  ⟨0x1D4C5, "MATHEMATICAL SCRIPT SMALL ", "P, Q, R, S, T, U, V, W, X, Y, Z"⟩,
  ⟨0x1D4D0, "MATHEMATICAL BOLD SCRIPT CAPITAL ", "A, B, C, D, E, F, G, H, I, J"⟩,
  ⟨0x1D4DA, "MATHEMATICAL BOLD SCRIPT CAPITAL ", "K, L, M, N, O, P, Q, R, S, T, U, V, W, X, Y, Z"⟩,
  ⟨0x1D4EA, "MATHEMATICAL BOLD SCRIPT SMALL ", "A, B, C, D, E, F, G, H"⟩,
  ⟨0x1D4F2, "MATHEMATICAL BOLD SCRIPT SMALL ", "I, J, K, L, M, N, O, P, Q, R, S, T, U, V, W, X, Y"⟩,
  ⟨0x1D503, "MATHEMATICAL ", "BOLD SCRIPT SMALL Z, FRAKTUR CAPITAL A, FRAKTUR CAPITAL B"⟩,
  ⟨0x1D507, "MATHEMATICAL FRAKTUR CAPITAL ", "D, E, F, G"⟩,
  ⟨0x1D50D, "MATHEMATICAL FRAKTUR CAPITAL ", "J, K, L, M, N, O, P, Q"⟩,
  ⟨0x1D516, "MATHEMATICAL FRAKTUR CAPITAL ", "S, T, U, V, W, X, Y"⟩,
  ⟨0x1D51E, "MATHEMATICAL FRAKTUR SMALL ", "A, B, C, D, E, F, G"⟩,
  ⟨0x1D525, "MATHEMATICAL FRAKTUR SMALL ", "H, I, J, K, L, M, N, O, P, Q, R, S, T, U, V, W, X, Y"⟩,
  ⟨0x1D537, "MATHEMATICAL ", "FRAKTUR SMALL Z, DOUBLE-STRUCK CAPITAL A, DOUBLE-STRUCK CAPITAL B"⟩,
  ⟨0x1D53B, "MATHEMATICAL DOUBLE-STRUCK CAPITAL ", "D, E, F, G"⟩,
  ⟨0x1D540, "MATHEMATICAL DOUBLE-STRUCK CAPITAL ", "I, J, K, L, M"⟩,
  ⟨0x1D546, "", "MATHEMATICAL DOUBLE-STRUCK CAPITAL O"⟩,
  ⟨0x1D54A, "MATHEMATICAL DOUBLE-STRUCK CAPITAL ", "S, T, U, V, W, X, Y"⟩,
  ⟨0x1D552, "MATHEMATICAL DOUBLE-STRUCK SMALL ", "A, B, C, D, E, F, G, H, I, J"⟩,
  ⟨0x1D55C, "MATHEMATICAL DOUBLE-STRUCK SMALL ", "K, L, M, N, O, P, Q, R, S, T, U, V, W, X, Y, Z"⟩,
  ⟨0x1D56C, "MATHEMATICAL BOLD FRAKTUR CAPITAL ", "A, B, C, D, E, F, G, H, I, J"⟩,
  ⟨0x1D576, "MATHEMATICAL BOLD FRAKTUR CAPITAL ", "K, L, M, N, O, P, Q, R, S, T, U, V, W, X, Y, Z"⟩,
  ⟨0x1D586, "MATHEMATICAL BOLD FRAKTUR SMALL ", "A, B, C, D, E, F, G, H, I, J"⟩,
  ⟨0x1D590, "MATHEMATICAL BOLD FRAKTUR SMALL ", "K, L, M, N, O, P, Q, R, S, T, U, V, W, X, Y, Z"⟩,
  ⟨0x1D5A0, "MATHEMATICAL SANS-SERIF CAPITAL ", "A, B, C, D, E, F, G, H, I, J"⟩,
  ⟨0x1D5AA, "MATHEMATICAL SANS-SERIF CAPITAL ", "K, L, M, N, O, P, Q, R, S, T, U, V, W, X, Y, Z"⟩,
  ⟨0x1D5BA, "MATHEMATICAL SANS-SERIF SMALL ", "A, B, C, D, E, F, G, H, I"⟩,
  ⟨0x1D5C3, "MATHEMATICAL SANS-SERIF SMALL ", "J, K, L, M, N, O, P, Q, R, S, T, U, V, W, X, Y, Z"⟩,
  ⟨0x1D5D4, "MATHEMATICAL SANS-SERIF BOLD CAPITAL ", "A, B, C, D, E, F, G, H, I, J, K"⟩,
  ⟨0x1D5DF, "MATHEMATICAL SANS-SERIF BOLD CAPITAL ", "L, M, N, O, P, Q, R, S, T, U, V, W, X, Y, Z"⟩,
  ⟨0x1D5EE, "MATHEMATICAL SANS-SERIF BOLD SMALL ", "A, B, C, D, E, F, G, H, I, J, K"⟩,
  ⟨0x1D5F9, "MATHEMATICAL SANS-SERIF BOLD SMALL ", "L, M, N, O, P, Q, R, S, T, U, V, W, X, Y, Z"⟩,
  ⟨0x1D608, "MATHEMATICAL SANS-SERIF ITALIC CAPITAL ", "A, B, C, D, E, F, G, H, I, J, K, L"⟩,
  ⟨0x1D614, "MATHEMATICAL SANS-SERIF ITALIC CAPITAL ", "M, N, O, P, Q, R, S, T, U, V, W, X, Y, Z"⟩,
  ⟨0x1D622, "MATHEMATICAL SANS-SERIF ITALIC SMALL ", "A, B, C, D, E, F, G, H, I, J, K"⟩,
  ⟨0x1D62D, "MATHEMATICAL SANS-SERIF ITALIC SMALL ", "L, M, N, O, P, Q, R, S, T, U, V, W, X, Y, Z"⟩,
  ⟨0x1D63C, "MATHEMATICAL SANS-SERIF BOLD ITALIC CAPITAL ", "A, B"⟩,
  ⟨0x1D63E, "MATHEMATICAL SANS-SERIF BOLD ITALIC CAPITAL ", "C, D, E, F, G, H, I, J, K, L, M, N"⟩,
  ⟨0x1D64A, "MATHEMATICAL SANS-SERIF BOLD ITALIC CAPITAL ", "O, P, Q, R, S, T, U, V, W, X, Y, Z"⟩,
  ⟨0x1D656, "MATHEMATICAL SANS-SERIF BOLD ITALIC SMALL ", "A, B, C, D, E, F, G, H, I, J, K, L, M"⟩,
  ⟨0x1D663, "MATHEMATICAL SANS-SERIF BOLD ITALIC SMALL ", "N, O, P, Q, R, S, T, U, V, W, X, Y, Z"⟩,
  ⟨0x1D670, "MATHEMATICAL MONOSPACE CAPITAL ", "A, B, C, D, E, F, G, H, I"⟩,
  ⟨0x1D679, "MATHEMATICAL MONOSPACE CAPITAL ", "J, K, L, M, N, O, P, Q, R, S, T, U, V, W, X, Y, Z"⟩,
  ⟨0x1D68A, "MATHEMATICAL MONOSPACE SMALL ", "A, B, C, D, E, F, G, H"⟩,
  ⟨0x1D692, "MATHEMATICAL MONOSPACE SMALL ", "I, J, K, L, M, N, O, P, Q, R, S, T, U, V, W, X, Y"⟩,
  ⟨0x1D6A3, "MATHEMATICAL ", "MONOSPACE SMALL Z, ITALIC SMALL DOTLESS I, ITALIC SMALL DOTLESS J"⟩,
  ⟨0x1D6A8, "MATHEMATICAL BOLD CAPITAL ", "ALPHA, BETA, GAMMA, DELTA, EPSILON"⟩,
  ⟨0x1D6AD, "MATHEMATICAL BOLD CAPITAL ", "ZETA, ETA, THETA, IOTA, KAPPA, LAMDA, MU, NU, XI"⟩,
  ⟨0x1D6B6, "MATHEMATICAL BOLD CAPITAL ", "OMICRON, PI, RHO, THETA SYMBOL, SIGMA, TAU, UPSILON"⟩,
  ⟨0x1D6BD, "MATHEMATICAL BOLD ", "CAPITAL PHI, CAPITAL CHI, CAPITAL PSI, CAPITAL OMEGA, NABLA"⟩,
  ⟨0x1D6C2, "MATHEMATICAL BOLD SMALL ", "ALPHA, BETA, GAMMA, DELTA, EPSILON, ZETA"⟩,
  ⟨0x1D6C8, "MATHEMATICAL BOLD SMALL ", "ETA, THETA, IOTA, KAPPA, LAMDA, MU, NU, XI, OMICRON"⟩,
  ⟨0x1D6D1, "MATHEMATICAL BOLD SMALL ", "PI, RHO, FINAL SIGMA, SIGMA, TAU, UPSILON, PHI, CHI"⟩,
  ⟨0x1D6D9, "MATHEMATICAL BOLD ", "SMALL PSI, SMALL OMEGA, PARTIAL DIFFERENTIAL, EPSILON SYMBOL"⟩,
  ⟨0x1D6DD, "MATHEMATICAL BOLD ", "THETA SYMBOL, KAPPA SYMBOL, PHI SYMBOL, RHO SYMBOL, PI SYMBOL"⟩,
  ⟨0x1D6E2, "MATHEMATICAL ITALIC CAPITAL ", "ALPHA, BETA, GAMMA, DELTA, EPSILON"⟩,
  ⟨0x1D6E7, "MATHEMATICAL ITALIC CAPITAL ", "ZETA, ETA, THETA, IOTA, KAPPA, LAMDA, MU, NU, XI"⟩,
  ⟨0x1D6F0, "MATHEMATICAL ITALIC CAPITAL ", "OMICRON, PI, RHO, THETA SYMBOL, SIGMA, TAU, UPSILON"⟩,
  ⟨0x1D6F7, "MATHEMATICAL ITALIC ", "CAPITAL PHI, CAPITAL CHI, CAPITAL PSI, CAPITAL OMEGA, NABLA"⟩,
  ⟨0x1D6FC, "MATHEMATICAL ITALIC SMALL ", "ALPHA, BETA, GAMMA, DELTA, EPSILON, ZETA, ETA, THETA"⟩,
  ⟨0x1D704, "MATHEMATICAL ITALIC SMALL ", "IOTA, KAPPA, LAMDA, MU, NU, XI, OMICRON, PI, RHO"⟩,
  ⟨0x1D70D, "MATHEMATICAL ITALIC SMALL ", "FINAL SIGMA, SIGMA, TAU, UPSILON, PHI, CHI, PSI, OMEGA"⟩,
  ⟨0x1D715, "MATHEMATICAL ITALIC ", "PARTIAL DIFFERENTIAL, EPSILON SYMBOL, THETA SYMBOL"⟩,
  ⟨0x1D718, "MATHEMATICAL ITALIC ", "KAPPA SYMBOL, PHI SYMBOL, RHO SYMBOL, PI SYMBOL"⟩,
  ⟨0x1D71C, "MATHEMATICAL BOLD ITALIC CAPITAL ", "ALPHA, BETA, GAMMA, DELTA"⟩,
  ⟨0x1D720, "MATHEMATICAL BOLD ITALIC CAPITAL ", "EPSILON, ZETA, ETA, THETA, IOTA, KAPPA, LAMDA"⟩,
  ⟨0x1D727, "MATHEMATICAL BOLD ITALIC CAPITAL ", "MU, NU, XI, OMICRON, PI, RHO, THETA SYMBOL"⟩,
  ⟨0x1D72E, "MATHEMATICAL BOLD ITALIC CAPITAL ", "SIGMA, TAU, UPSILON, PHI, CHI, PSI, OMEGA"⟩,
  ⟨0x1D735, "MATHEMATICAL BOLD ITALIC ", "NABLA, SMALL ALPHA, SMALL BETA, SMALL GAMMA"⟩,
  ⟨0x1D739, "MATHEMATICAL BOLD ITALIC SMALL ", "DELTA, EPSILON, ZETA, ETA, THETA, IOTA, KAPPA"⟩,
  ⟨0x1D740, "MATHEMATICAL BOLD ITALIC SMALL ", "LAMDA, MU, NU, XI, OMICRON, PI, RHO, FINAL SIGMA"⟩,
  ⟨0x1D748, "MATHEMATICAL BOLD ITALIC SMALL ", "SIGMA, TAU, UPSILON, PHI, CHI, PSI, OMEGA"⟩,
  ⟨0x1D74F, "MATHEMATICAL BOLD ITALIC ", "PARTIAL DIFFERENTIAL, EPSILON SYMBOL, THETA SYMBOL"⟩,
  ⟨0x1D752, "MATHEMATICAL BOLD ITALIC ", "KAPPA SYMBOL, PHI SYMBOL, RHO SYMBOL, PI SYMBOL"⟩,
  ⟨0x1D756, "MATHEMATICAL SANS-SERIF BOLD CAPITAL ", "ALPHA, BETA"⟩,
  ⟨0x1D758, "MATHEMATICAL SANS-SERIF BOLD CAPITAL ", "GAMMA, DELTA, EPSILON, ZETA, ETA, THETA"⟩,
  ⟨0x1D75E, "MATHEMATICAL SANS-SERIF BOLD CAPITAL ", "IOTA, KAPPA, LAMDA, MU, NU, XI, OMICRON, PI"⟩,
  ⟨0x1D766, "MATHEMATICAL SANS-SERIF BOLD CAPITAL ", "RHO, THETA SYMBOL, SIGMA, TAU, UPSILON, PHI"⟩,
  ⟨0x1D76C, "MATHEMATICAL SANS-SERIF BOLD ", "CAPITAL CHI, CAPITAL PSI, CAPITAL OMEGA, NABLA"⟩,
  ⟨0x1D770, "MATHEMATICAL SANS-SERIF BOLD SMALL ", "ALPHA, BETA, GAMMA, DELTA"⟩,
  ⟨0x1D774, "MATHEMATICAL SANS-SERIF BOLD SMALL ", "EPSILON, ZETA, ETA, THETA, IOTA, KAPPA, LAMDA"⟩,
  ⟨0x1D77B, "MATHEMATICAL SANS-SERIF BOLD SMALL ", "MU, NU, XI, OMICRON, PI, RHO, FINAL SIGMA"⟩,
  ⟨0x1D782, "MATHEMATICAL SANS-SERIF BOLD SMALL ", "SIGMA, TAU, UPSILON, PHI, CHI, PSI, OMEGA"⟩,
  ⟨0x1D789, "MATHEMATICAL SANS-SERIF BOLD ", "PARTIAL DIFFERENTIAL, EPSILON SYMBOL, THETA SYMBOL"⟩,
  ⟨0x1D78C, "MATHEMATICAL SANS-SERIF BOLD ", "KAPPA SYMBOL, PHI SYMBOL, RHO SYMBOL, PI SYMBOL"⟩,
  ⟨0x1D790, "MATHEMATICAL SANS-SERIF BOLD ITALIC CAPITAL ", "ALPHA, BETA"⟩,
  ⟨0x1D792, "MATHEMATICAL SANS-SERIF BOLD ITALIC CAPITAL ", "GAMMA, DELTA, EPSILON, ZETA, ETA"⟩,
  ⟨0x1D797, "MATHEMATICAL SANS-SERIF BOLD ITALIC CAPITAL ", "THETA, IOTA, KAPPA, LAMDA, MU, NU"⟩,
  ⟨0x1D79D, "MATHEMATICAL SANS-SERIF BOLD ITALIC CAPITAL ", "XI, OMICRON, PI, RHO, THETA SYMBOL"⟩,
  ⟨0x1D7A2, "MATHEMATICAL SANS-SERIF BOLD ITALIC CAPITAL ", "SIGMA, TAU, UPSILON, PHI, CHI, PSI"⟩,
  ⟨0x1D7A8, "MATHEMATICAL SANS-SERIF BOLD ITALIC ", "CAPITAL OMEGA, NABLA, SMALL ALPHA"⟩,
  ⟨0x1D7AB, "MATHEMATICAL SANS-SERIF BOLD ITALIC SMALL ", "BETA, GAMMA, DELTA, EPSILON, ZETA"⟩,
  ⟨0x1D7B0, "MATHEMATICAL SANS-SERIF BOLD ITALIC SMALL ", "ETA, THETA, IOTA, KAPPA, LAMDA, MU"⟩,
  ⟨0x1D7B6, "MATHEMATICAL SANS-SERIF BOLD ITALIC SMALL ", "NU, XI, OMICRON, PI, RHO, FINAL SIGMA"⟩,
  ⟨0x1D7BC, "MATHEMATICAL SANS-SERIF BOLD ITALIC SMALL ", "SIGMA, TAU, UPSILON, PHI, CHI"⟩,
  ⟨0x1D7C1, "MATHEMATICAL SANS-SERIF BOLD ITALIC ", "SMALL PSI, SMALL OMEGA, PARTIAL DIFFERENTIAL"⟩,
  ⟨0x1D7C4, "MATHEMATICAL SANS-SERIF BOLD ITALIC ", "EPSILON SYMBOL, THETA SYMBOL, KAPPA SYMBOL"⟩,
  ⟨0x1D7C7, "MATHEMATICAL SANS-SERIF BOLD ITALIC ", "PHI SYMBOL, RHO SYMBOL, PI SYMBOL"⟩,
  ⟨0x1D7CA, "MATHEMATICAL BOLD ", "CAPITAL DIGAMMA, SMALL DIGAMMA"⟩,
  ⟨0x1D7CE, "MATHEMATICAL BOLD DIGIT ", "ZERO, ONE, TWO, THREE, FOUR, FIVE, SIX, SEVEN, EIGHT"⟩,
  ⟨0x1D7D7, "MATHEMATICAL ", "BOLD DIGIT NINE, DOUBLE-STRUCK DIGIT ZERO, DOUBLE-STRUCK DIGIT ONE"⟩,
  ⟨0x1D7DA, "MATHEMATICAL DOUBLE-STRUCK DIGIT ", "TWO, THREE, FOUR, FIVE, SIX, SEVEN, EIGHT, NINE"⟩,
  ⟨0x1D7E2, "MATHEMATICAL SANS-SERIF DIGIT ", "ZERO, ONE"⟩,
  ⟨0x1D7E4, "MATHEMATICAL SANS-SERIF DIGIT ", "TWO, THREE, FOUR, FIVE, SIX, SEVEN, EIGHT, NINE"⟩,
  ⟨0x1D7EC, "MATHEMATICAL SANS-SERIF BOLD DIGIT ", "ZERO, ONE, TWO"⟩,
  ⟨0x1D7EF, "MATHEMATICAL SANS-SERIF BOLD DIGIT ", "THREE, FOUR, FIVE, SIX, SEVEN, EIGHT, NINE"⟩,
  ⟨0x1D7F6, "MATHEMATICAL MONOSPACE DIGIT ", "ZERO, ONE"⟩,
  ⟨0x1D7F8, "MATHEMATICAL MONOSPACE DIGIT ", "TWO, THREE, FOUR, FIVE, SIX, SEVEN, EIGHT, NINE"⟩]

end BatchExec
