import BatchExec.Text.CharacterName.Row

/-!
# European scripts

The names of combining marks and of Greek, Coptic, Cyrillic, Glagolitic, Armenian and Georgian
letters.
-/

namespace BatchExec

/-- The names of combining marks and of Greek, Coptic, Cyrillic, Glagolitic, Armenian and Georgian
letters. -/
def europeanNames : List NameRow := [
  ⟨0x0300, "COMBINING ", "GRAVE ACCENT, ACUTE ACCENT"⟩,
  ⟨0x0302, "COMBINING ", "CIRCUMFLEX ACCENT, TILDE, MACRON, OVERLINE, BREVE, DOT ABOVE, DIAERESIS"⟩,
  ⟨0x0309, "COMBINING ", "HOOK ABOVE, RING ABOVE, DOUBLE ACUTE ACCENT, CARON, VERTICAL LINE ABOVE"⟩,
  ⟨0x030E, "COMBINING ", "DOUBLE VERTICAL LINE ABOVE, DOUBLE GRAVE ACCENT, CANDRABINDU"⟩,
  ⟨0x0311, "COMBINING ", "INVERTED BREVE, TURNED COMMA ABOVE, COMMA ABOVE, REVERSED COMMA ABOVE"⟩,
  ⟨0x0315, "COMBINING ", "COMMA ABOVE RIGHT, GRAVE ACCENT BELOW, ACUTE ACCENT BELOW"⟩,
  ⟨0x0318, "COMBINING ", "LEFT TACK BELOW, RIGHT TACK BELOW, LEFT ANGLE ABOVE, HORN"⟩,
  ⟨0x031C, "COMBINING ", "LEFT HALF RING BELOW, UP TACK BELOW, DOWN TACK BELOW, PLUS SIGN BELOW"⟩,
  ⟨0x0320, "COMBINING ", "MINUS SIGN BELOW, PALATALIZED HOOK BELOW, RETROFLEX HOOK BELOW"⟩,
  ⟨0x0323, "COMBINING ", "DOT BELOW, DIAERESIS BELOW, RING BELOW, COMMA BELOW, CEDILLA"⟩,
  ⟨0x0328, "COMBINING ", "OGONEK, VERTICAL LINE BELOW, BRIDGE BELOW, INVERTED DOUBLE ARCH BELOW"⟩,
  ⟨0x032C, "COMBINING ", "CARON BELOW, CIRCUMFLEX ACCENT BELOW, BREVE BELOW, INVERTED BREVE BELOW"⟩,
  ⟨0x0330, "COMBINING ", "TILDE BELOW, MACRON BELOW, LOW LINE, DOUBLE LOW LINE"⟩,
  ⟨0x0334, "COMBINING ", "TILDE OVERLAY, SHORT STROKE OVERLAY, LONG STROKE OVERLAY"⟩,
  ⟨0x0337, "COMBINING ", "SHORT SOLIDUS OVERLAY, LONG SOLIDUS OVERLAY, RIGHT HALF RING BELOW"⟩,
  ⟨0x033A, "COMBINING ", "INVERTED BRIDGE BELOW, SQUARE BELOW, SEAGULL BELOW, X ABOVE"⟩,
  ⟨0x033E, "COMBINING ", "VERTICAL TILDE, DOUBLE OVERLINE, GRAVE TONE MARK, ACUTE TONE MARK"⟩,
  ⟨0x0342, "COMBINING GREEK ", "PERISPOMENI, KORONIS, DIALYTIKA TONOS, YPOGEGRAMMENI"⟩,
  ⟨0x0346, "COMBINING ", "BRIDGE ABOVE, EQUALS SIGN BELOW, DOUBLE VERTICAL LINE BELOW"⟩,
  ⟨0x0349, "COMBINING ", "LEFT ANGLE BELOW, NOT TILDE ABOVE, HOMOTHETIC ABOVE"⟩,
  ⟨0x034C, "COMBINING ", "ALMOST EQUAL TO ABOVE, LEFT RIGHT ARROW BELOW, UPWARDS ARROW BELOW"⟩,
  ⟨0x034F, "COMBINING ", "GRAPHEME JOINER, RIGHT ARROWHEAD ABOVE, LEFT HALF RING ABOVE"⟩,
  ⟨0x0352, "COMBINING ", "FERMATA, X BELOW, LEFT ARROWHEAD BELOW, RIGHT ARROWHEAD BELOW"⟩,
  ⟨0x0356, "COMBINING RIGHT ", "ARROWHEAD AND UP ARROWHEAD BELOW, HALF RING ABOVE"⟩,
  ⟨0x0358, "COMBINING ", "DOT ABOVE RIGHT, ASTERISK BELOW, DOUBLE RING BELOW"⟩,
  ⟨0x035B, "COMBINING ", "ZIGZAG ABOVE, DOUBLE BREVE BELOW, DOUBLE BREVE, DOUBLE MACRON"⟩,
  ⟨0x035F, "COMBINING DOUBLE ", "MACRON BELOW, TILDE, INVERTED BREVE, RIGHTWARDS ARROW BELOW"⟩,
  ⟨0x0363, "COMBINING LATIN SMALL LETTER ", "A, E, I, O, U, C, D, H, M, R, T, V, X"⟩,
  ⟨0x0370, "GREEK ", "CAPITAL LETTER HETA, SMALL LETTER HETA, CAPITAL LETTER ARCHAIC SAMPI"⟩,
  ⟨0x0373, "GREEK ", "SMALL LETTER ARCHAIC SAMPI, NUMERAL SIGN, LOWER NUMERAL SIGN"⟩,
  ⟨0x0376, "GREEK ", "CAPITAL LETTER PAMPHYLIAN DIGAMMA, SMALL LETTER PAMPHYLIAN DIGAMMA"⟩,
  ⟨0x037A, "GREEK ", "YPOGEGRAMMENI, SMALL REVERSED LUNATE SIGMA SYMBOL"⟩,
  ⟨0x037C, "GREEK SMALL ", "DOTTED LUNATE SIGMA SYMBOL, REVERSED DOTTED LUNATE SIGMA SYMBOL"⟩,
  ⟨0x037E, "GREEK ", "QUESTION MARK, CAPITAL LETTER YOT"⟩,
  ⟨0x0384, "GREEK ", "TONOS, DIALYTIKA TONOS, CAPITAL LETTER ALPHA WITH TONOS, ANO TELEIA"⟩,
  ⟨0x0388, "GREEK CAPITAL LETTER ", "EPSILON WITH TONOS, ETA WITH TONOS, IOTA WITH TONOS"⟩,
  ⟨0x038C, "", "GREEK CAPITAL LETTER OMICRON WITH TONOS"⟩,
  ⟨0x038E, "", "GREEK CAPITAL LETTER UPSILON WITH TONOS"⟩,
  ⟨0x038F, "GREEK ", "CAPITAL LETTER OMEGA WITH TONOS, SMALL LETTER IOTA WITH DIALYTIKA AND TONOS"⟩,
  ⟨0x0391, "GREEK CAPITAL LETTER ", "ALPHA, BETA, GAMMA, DELTA, EPSILON, ZETA"⟩,
  ⟨0x0397, "GREEK CAPITAL LETTER ", "ETA, THETA, IOTA, KAPPA, LAMDA, MU, NU, XI, OMICRON, PI, RHO"⟩,
  ⟨0x03A3, "GREEK CAPITAL LETTER ", "SIGMA, TAU, UPSILON, PHI"⟩,
  ⟨0x03A7, "GREEK CAPITAL LETTER ", "CHI, PSI, OMEGA, IOTA WITH DIALYTIKA, UPSILON WITH DIALYTIKA"⟩,
  ⟨0x03AC, "GREEK SMALL LETTER ", "ALPHA WITH TONOS, EPSILON WITH TONOS, ETA WITH TONOS"⟩,
  ⟨0x03AF, "GREEK SMALL LETTER ", "IOTA WITH TONOS, UPSILON WITH DIALYTIKA AND TONOS"⟩,
  ⟨0x03B1, "GREEK SMALL LETTER ", "ALPHA, BETA, GAMMA, DELTA, EPSILON, ZETA, ETA, THETA"⟩,
  ⟨0x03B9, "GREEK SMALL LETTER ", "IOTA, KAPPA, LAMDA, MU, NU, XI, OMICRON, PI, RHO, FINAL SIGMA"⟩,
  ⟨0x03C3, "GREEK SMALL LETTER ", "SIGMA, TAU, UPSILON, PHI, CHI, PSI, OMEGA, IOTA WITH DIALYTIKA"⟩,
  ⟨0x03CB, "GREEK SMALL LETTER ", "UPSILON WITH DIALYTIKA, OMICRON WITH TONOS, UPSILON WITH TONOS"⟩,
  ⟨0x03CE, "GREEK ", "SMALL LETTER OMEGA WITH TONOS, CAPITAL KAI SYMBOL, BETA SYMBOL"⟩,
  ⟨0x03D1, "GREEK ", "THETA SYMBOL, UPSILON WITH HOOK SYMBOL, UPSILON WITH ACUTE AND HOOK SYMBOL"⟩,
  ⟨0x03D4, "GREEK ", "UPSILON WITH DIAERESIS AND HOOK SYMBOL, PHI SYMBOL"⟩,
  ⟨0x03D6, "GREEK ", "PI SYMBOL, KAI SYMBOL, LETTER ARCHAIC KOPPA, SMALL LETTER ARCHAIC KOPPA"⟩,
  ⟨0x03DA, "GREEK ", "LETTER STIGMA, SMALL LETTER STIGMA, LETTER DIGAMMA"⟩,
  ⟨0x03DD, "GREEK ", "SMALL LETTER DIGAMMA, LETTER KOPPA, SMALL LETTER KOPPA, LETTER SAMPI"⟩,
  ⟨0x03E1, "", "GREEK SMALL LETTER SAMPI, COPTIC CAPITAL LETTER SHEI, COPTIC SMALL LETTER SHEI"⟩,
  ⟨0x03E4, "COPTIC ", "CAPITAL LETTER FEI, SMALL LETTER FEI, CAPITAL LETTER KHEI"⟩,
  ⟨0x03E7, "COPTIC ", "SMALL LETTER KHEI, CAPITAL LETTER HORI, SMALL LETTER HORI"⟩,
  ⟨0x03EA, "COPTIC ", "CAPITAL LETTER GANGIA, SMALL LETTER GANGIA, CAPITAL LETTER SHIMA"⟩,
  ⟨0x03ED, "COPTIC ", "SMALL LETTER SHIMA, CAPITAL LETTER DEI, SMALL LETTER DEI"⟩,
  ⟨0x03F0, "GREEK ", "KAPPA SYMBOL, RHO SYMBOL, LUNATE SIGMA SYMBOL"⟩,
  ⟨0x03F3, "GREEK ", "LETTER YOT, CAPITAL THETA SYMBOL, LUNATE EPSILON SYMBOL"⟩,
  ⟨0x03F6, "GREEK ", "REVERSED LUNATE EPSILON SYMBOL, CAPITAL LETTER SHO, SMALL LETTER SHO"⟩,
  ⟨0x03F9, "GREEK ", "CAPITAL LUNATE SIGMA SYMBOL, CAPITAL LETTER SAN, SMALL LETTER SAN"⟩,
  ⟨0x03FC, "GREEK ", "RHO WITH STROKE SYMBOL, CAPITAL REVERSED LUNATE SIGMA SYMBOL"⟩,
  ⟨0x03FE, "GREEK CAPITAL ", "DOTTED LUNATE SIGMA SYMBOL, REVERSED DOTTED LUNATE SIGMA SYMBOL"⟩,
  ⟨0x0400, "", "CYRILLIC CAPITAL LETTER IE WITH GRAVE"⟩,
  ⟨0x0401, "CYRILLIC CAPITAL LETTER ", "IO, DJE, GJE, UKRAINIAN IE, DZE, BYELORUSSIAN-UKRAINIAN I"⟩,
  ⟨0x0407, "CYRILLIC CAPITAL LETTER ", "YI, JE, LJE, NJE, TSHE, KJE, I WITH GRAVE, SHORT U"⟩,
  ⟨0x040F, "CYRILLIC CAPITAL LETTER ", "DZHE, A, BE, VE, GHE, DE, IE, ZHE, ZE, I, SHORT I"⟩,
  ⟨0x041A, "CYRILLIC CAPITAL LETTER ", "KA, EL, EM, EN, O, PE, ER, ES, TE, U, EF, HA, TSE"⟩,
  ⟨0x0427, "CYRILLIC CAPITAL LETTER ", "CHE, SHA, SHCHA, HARD SIGN, YERU, SOFT SIGN, E, YU, YA"⟩,
  ⟨0x0430, "CYRILLIC SMALL LETTER ", "A, BE, VE, GHE, DE, IE, ZHE, ZE, I, SHORT I"⟩,
  ⟨0x043A, "CYRILLIC SMALL LETTER ", "KA, EL, EM, EN, O, PE, ER, ES, TE, U, EF, HA, TSE, CHE, SHA"⟩,
  ⟨0x0449, "CYRILLIC SMALL LETTER ", "SHCHA, HARD SIGN, YERU, SOFT SIGN, E, YU, YA, IE WITH GRAVE"⟩,
  ⟨0x0451, "CYRILLIC SMALL LETTER ", "IO, DJE, GJE, UKRAINIAN IE, DZE, BYELORUSSIAN-UKRAINIAN I"⟩,
  ⟨0x0457, "CYRILLIC SMALL LETTER ", "YI, JE, LJE, NJE, TSHE, KJE, I WITH GRAVE, SHORT U"⟩,
  ⟨0x045F, "CYRILLIC ", "SMALL LETTER DZHE, CAPITAL LETTER OMEGA, SMALL LETTER OMEGA"⟩,
  ⟨0x0462, "CYRILLIC ", "CAPITAL LETTER YAT, SMALL LETTER YAT, CAPITAL LETTER IOTIFIED E"⟩,
  ⟨0x0465, "CYRILLIC ", "SMALL LETTER IOTIFIED E, CAPITAL LETTER LITTLE YUS"⟩,
  ⟨0x0467, "CYRILLIC ", "SMALL LETTER LITTLE YUS, CAPITAL LETTER IOTIFIED LITTLE YUS"⟩,
  ⟨0x0469, "CYRILLIC ", "SMALL LETTER IOTIFIED LITTLE YUS, CAPITAL LETTER BIG YUS"⟩,
  ⟨0x046B, "CYRILLIC ", "SMALL LETTER BIG YUS, CAPITAL LETTER IOTIFIED BIG YUS"⟩,
  ⟨0x046D, "CYRILLIC ", "SMALL LETTER IOTIFIED BIG YUS, CAPITAL LETTER KSI"⟩,
  ⟨0x046F, "CYRILLIC ", "SMALL LETTER KSI, CAPITAL LETTER PSI, SMALL LETTER PSI"⟩,
  ⟨0x0472, "CYRILLIC ", "CAPITAL LETTER FITA, SMALL LETTER FITA, CAPITAL LETTER IZHITSA"⟩,
  ⟨0x0475, "CYRILLIC ", "SMALL LETTER IZHITSA, CAPITAL LETTER IZHITSA WITH DOUBLE GRAVE ACCENT"⟩,
  ⟨0x0477, "", "CYRILLIC SMALL LETTER IZHITSA WITH DOUBLE GRAVE ACCENT"⟩,
  ⟨0x0478, "CYRILLIC ", "CAPITAL LETTER UK, SMALL LETTER UK, CAPITAL LETTER ROUND OMEGA"⟩,
  ⟨0x047B, "CYRILLIC ", "SMALL LETTER ROUND OMEGA, CAPITAL LETTER OMEGA WITH TITLO"⟩,
  ⟨0x047D, "CYRILLIC ", "SMALL LETTER OMEGA WITH TITLO, CAPITAL LETTER OT, SMALL LETTER OT"⟩,
  ⟨0x0480, "CYRILLIC ", "CAPITAL LETTER KOPPA, SMALL LETTER KOPPA, THOUSANDS SIGN"⟩,
  ⟨0x0483, "COMBINING CYRILLIC ", "TITLO, PALATALIZATION, DASIA PNEUMATA"⟩,
  ⟨0x0486, "COMBINING CYRILLIC ", "PSILI PNEUMATA, POKRYTIE, HUNDRED THOUSANDS SIGN"⟩,
  ⟨0x0489, "", "COMBINING CYRILLIC MILLIONS SIGN, CYRILLIC CAPITAL LETTER SHORT I WITH TAIL"⟩,
  ⟨0x048B, "CYRILLIC ", "SMALL LETTER SHORT I WITH TAIL, CAPITAL LETTER SEMISOFT SIGN"⟩,
  ⟨0x048D, "CYRILLIC ", "SMALL LETTER SEMISOFT SIGN, CAPITAL LETTER ER WITH TICK"⟩,
  ⟨0x048F, "CYRILLIC ", "SMALL LETTER ER WITH TICK, CAPITAL LETTER GHE WITH UPTURN"⟩,
  ⟨0x0491, "CYRILLIC ", "SMALL LETTER GHE WITH UPTURN, CAPITAL LETTER GHE WITH STROKE"⟩,
  ⟨0x0493, "CYRILLIC ", "SMALL LETTER GHE WITH STROKE, CAPITAL LETTER GHE WITH MIDDLE HOOK"⟩,
  ⟨0x0495, "CYRILLIC ", "SMALL LETTER GHE WITH MIDDLE HOOK, CAPITAL LETTER ZHE WITH DESCENDER"⟩,
  ⟨0x0497, "CYRILLIC ", "SMALL LETTER ZHE WITH DESCENDER, CAPITAL LETTER ZE WITH DESCENDER"⟩,
  ⟨0x0499, "CYRILLIC ", "SMALL LETTER ZE WITH DESCENDER, CAPITAL LETTER KA WITH DESCENDER"⟩,
  ⟨0x049B, "CYRILLIC ", "SMALL LETTER KA WITH DESCENDER, CAPITAL LETTER KA WITH VERTICAL STROKE"⟩,
  ⟨0x049D, "CYRILLIC ", "SMALL LETTER KA WITH VERTICAL STROKE, CAPITAL LETTER KA WITH STROKE"⟩,
  ⟨0x049F, "CYRILLIC ", "SMALL LETTER KA WITH STROKE, CAPITAL LETTER BASHKIR KA"⟩,
  ⟨0x04A1, "CYRILLIC ", "SMALL LETTER BASHKIR KA, CAPITAL LETTER EN WITH DESCENDER"⟩,
  ⟨0x04A3, "CYRILLIC ", "SMALL LETTER EN WITH DESCENDER, CAPITAL LIGATURE EN GHE"⟩,
  ⟨0x04A5, "CYRILLIC ", "SMALL LIGATURE EN GHE, CAPITAL LETTER PE WITH MIDDLE HOOK"⟩,
  ⟨0x04A7, "CYRILLIC ", "SMALL LETTER PE WITH MIDDLE HOOK, CAPITAL LETTER ABKHASIAN HA"⟩,
  ⟨0x04A9, "CYRILLIC ", "SMALL LETTER ABKHASIAN HA, CAPITAL LETTER ES WITH DESCENDER"⟩,
  ⟨0x04AB, "CYRILLIC ", "SMALL LETTER ES WITH DESCENDER, CAPITAL LETTER TE WITH DESCENDER"⟩,
  ⟨0x04AD, "CYRILLIC ", "SMALL LETTER TE WITH DESCENDER, CAPITAL LETTER STRAIGHT U"⟩,
  ⟨0x04AF, "CYRILLIC ", "SMALL LETTER STRAIGHT U, CAPITAL LETTER STRAIGHT U WITH STROKE"⟩,
  ⟨0x04B1, "CYRILLIC ", "SMALL LETTER STRAIGHT U WITH STROKE, CAPITAL LETTER HA WITH DESCENDER"⟩,
  ⟨0x04B3, "CYRILLIC ", "SMALL LETTER HA WITH DESCENDER, CAPITAL LIGATURE TE TSE"⟩,
  ⟨0x04B5, "CYRILLIC ", "SMALL LIGATURE TE TSE, CAPITAL LETTER CHE WITH DESCENDER"⟩,
  ⟨0x04B7, "CYRILLIC ", "SMALL LETTER CHE WITH DESCENDER, CAPITAL LETTER CHE WITH VERTICAL STROKE"⟩,
  ⟨0x04B9, "", "CYRILLIC SMALL LETTER CHE WITH VERTICAL STROKE"⟩,
  ⟨0x04BA, "CYRILLIC ", "CAPITAL LETTER SHHA, SMALL LETTER SHHA, CAPITAL LETTER ABKHASIAN CHE"⟩,
  ⟨0x04BD, "CYRILLIC ", "SMALL LETTER ABKHASIAN CHE, CAPITAL LETTER ABKHASIAN CHE WITH DESCENDER"⟩,
  ⟨0x04BF, "", "CYRILLIC SMALL LETTER ABKHASIAN CHE WITH DESCENDER"⟩,
  ⟨0x04C0, "CYRILLIC ", "LETTER PALOCHKA, CAPITAL LETTER ZHE WITH BREVE"⟩,
  ⟨0x04C2, "CYRILLIC ", "SMALL LETTER ZHE WITH BREVE, CAPITAL LETTER KA WITH HOOK"⟩,
  ⟨0x04C4, "CYRILLIC ", "SMALL LETTER KA WITH HOOK, CAPITAL LETTER EL WITH TAIL"⟩,
  ⟨0x04C6, "CYRILLIC ", "SMALL LETTER EL WITH TAIL, CAPITAL LETTER EN WITH HOOK"⟩,
  ⟨0x04C8, "CYRILLIC ", "SMALL LETTER EN WITH HOOK, CAPITAL LETTER EN WITH TAIL"⟩,
  ⟨0x04CA, "CYRILLIC ", "SMALL LETTER EN WITH TAIL, CAPITAL LETTER KHAKASSIAN CHE"⟩,
  ⟨0x04CC, "CYRILLIC ", "SMALL LETTER KHAKASSIAN CHE, CAPITAL LETTER EM WITH TAIL"⟩,
  ⟨0x04CE, "CYRILLIC SMALL LETTER ", "EM WITH TAIL, PALOCHKA"⟩,
  ⟨0x04D0, "CYRILLIC ", "CAPITAL LETTER A WITH BREVE, SMALL LETTER A WITH BREVE"⟩,
  ⟨0x04D2, "CYRILLIC ", "CAPITAL LETTER A WITH DIAERESIS, SMALL LETTER A WITH DIAERESIS"⟩,
  ⟨0x04D4, "CYRILLIC ", "CAPITAL LIGATURE A IE, SMALL LIGATURE A IE, CAPITAL LETTER IE WITH BREVE"⟩,
  ⟨0x04D7, "CYRILLIC ", "SMALL LETTER IE WITH BREVE, CAPITAL LETTER SCHWA"⟩,
  ⟨0x04D9, "CYRILLIC ", "SMALL LETTER SCHWA, CAPITAL LETTER SCHWA WITH DIAERESIS"⟩,
  ⟨0x04DB, "CYRILLIC ", "SMALL LETTER SCHWA WITH DIAERESIS, CAPITAL LETTER ZHE WITH DIAERESIS"⟩,
  ⟨0x04DD, "CYRILLIC ", "SMALL LETTER ZHE WITH DIAERESIS, CAPITAL LETTER ZE WITH DIAERESIS"⟩,
  ⟨0x04DF, "CYRILLIC ", "SMALL LETTER ZE WITH DIAERESIS, CAPITAL LETTER ABKHASIAN DZE"⟩,
  ⟨0x04E1, "CYRILLIC ", "SMALL LETTER ABKHASIAN DZE, CAPITAL LETTER I WITH MACRON"⟩,
  ⟨0x04E3, "CYRILLIC ", "SMALL LETTER I WITH MACRON, CAPITAL LETTER I WITH DIAERESIS"⟩,
  ⟨0x04E5, "CYRILLIC ", "SMALL LETTER I WITH DIAERESIS, CAPITAL LETTER O WITH DIAERESIS"⟩,
  ⟨0x04E7, "CYRILLIC ", "SMALL LETTER O WITH DIAERESIS, CAPITAL LETTER BARRED O"⟩,
  ⟨0x04E9, "CYRILLIC ", "SMALL LETTER BARRED O, CAPITAL LETTER BARRED O WITH DIAERESIS"⟩,
  ⟨0x04EB, "", "CYRILLIC SMALL LETTER BARRED O WITH DIAERESIS"⟩,
  ⟨0x04EC, "CYRILLIC ", "CAPITAL LETTER E WITH DIAERESIS, SMALL LETTER E WITH DIAERESIS"⟩,
  ⟨0x04EE, "CYRILLIC ", "CAPITAL LETTER U WITH MACRON, SMALL LETTER U WITH MACRON"⟩,
  ⟨0x04F0, "CYRILLIC ", "CAPITAL LETTER U WITH DIAERESIS, SMALL LETTER U WITH DIAERESIS"⟩,
  ⟨0x04F2, "CYRILLIC ", "CAPITAL LETTER U WITH DOUBLE ACUTE, SMALL LETTER U WITH DOUBLE ACUTE"⟩,
  ⟨0x04F4, "CYRILLIC ", "CAPITAL LETTER CHE WITH DIAERESIS, SMALL LETTER CHE WITH DIAERESIS"⟩,
  ⟨0x04F6, "CYRILLIC ", "CAPITAL LETTER GHE WITH DESCENDER, SMALL LETTER GHE WITH DESCENDER"⟩,
  ⟨0x04F8, "CYRILLIC ", "CAPITAL LETTER YERU WITH DIAERESIS, SMALL LETTER YERU WITH DIAERESIS"⟩,
  ⟨0x04FA, "", "CYRILLIC CAPITAL LETTER GHE WITH STROKE AND HOOK"⟩,
  ⟨0x04FB, "CYRILLIC ", "SMALL LETTER GHE WITH STROKE AND HOOK, CAPITAL LETTER HA WITH HOOK"⟩,
  ⟨0x04FD, "CYRILLIC ", "SMALL LETTER HA WITH HOOK, CAPITAL LETTER HA WITH STROKE"⟩,
  ⟨0x04FF, "CYRILLIC ", "SMALL LETTER HA WITH STROKE, CAPITAL LETTER KOMI DE"⟩,
  ⟨0x0501, "CYRILLIC ", "SMALL LETTER KOMI DE, CAPITAL LETTER KOMI DJE, SMALL LETTER KOMI DJE"⟩,
  ⟨0x0504, "CYRILLIC ", "CAPITAL LETTER KOMI ZJE, SMALL LETTER KOMI ZJE, CAPITAL LETTER KOMI DZJE"⟩,
  ⟨0x0507, "CYRILLIC ", "SMALL LETTER KOMI DZJE, CAPITAL LETTER KOMI LJE"⟩,
  ⟨0x0509, "CYRILLIC ", "SMALL LETTER KOMI LJE, CAPITAL LETTER KOMI NJE, SMALL LETTER KOMI NJE"⟩,
  ⟨0x050C, "CYRILLIC ", "CAPITAL LETTER KOMI SJE, SMALL LETTER KOMI SJE, CAPITAL LETTER KOMI TJE"⟩,
  ⟨0x050F, "CYRILLIC ", "SMALL LETTER KOMI TJE, CAPITAL LETTER REVERSED ZE"⟩,
  ⟨0x0511, "CYRILLIC ", "SMALL LETTER REVERSED ZE, CAPITAL LETTER EL WITH HOOK"⟩,
  ⟨0x0513, "CYRILLIC ", "SMALL LETTER EL WITH HOOK, CAPITAL LETTER LHA"⟩,
  ⟨0x0515, "CYRILLIC ", "SMALL LETTER LHA, CAPITAL LETTER RHA, SMALL LETTER RHA"⟩,
  ⟨0x0518, "CYRILLIC ", "CAPITAL LETTER YAE, SMALL LETTER YAE, CAPITAL LETTER QA, SMALL LETTER QA"⟩,
  ⟨0x051C, "CYRILLIC ", "CAPITAL LETTER WE, SMALL LETTER WE, CAPITAL LETTER ALEUT KA"⟩,
  ⟨0x051F, "CYRILLIC ", "SMALL LETTER ALEUT KA, CAPITAL LETTER EL WITH MIDDLE HOOK"⟩,
  ⟨0x0521, "CYRILLIC ", "SMALL LETTER EL WITH MIDDLE HOOK, CAPITAL LETTER EN WITH MIDDLE HOOK"⟩,
  ⟨0x0523, "CYRILLIC ", "SMALL LETTER EN WITH MIDDLE HOOK, CAPITAL LETTER PE WITH DESCENDER"⟩,
  ⟨0x0525, "CYRILLIC ", "SMALL LETTER PE WITH DESCENDER, CAPITAL LETTER SHHA WITH DESCENDER"⟩,
  ⟨0x0527, "CYRILLIC ", "SMALL LETTER SHHA WITH DESCENDER, CAPITAL LETTER EN WITH LEFT HOOK"⟩,
  ⟨0x0529, "CYRILLIC ", "SMALL LETTER EN WITH LEFT HOOK, CAPITAL LETTER DZZHE"⟩,
  ⟨0x052B, "CYRILLIC ", "SMALL LETTER DZZHE, CAPITAL LETTER DCHE, SMALL LETTER DCHE"⟩,
  ⟨0x052E, "CYRILLIC ", "CAPITAL LETTER EL WITH DESCENDER, SMALL LETTER EL WITH DESCENDER"⟩,
  ⟨0x0531, "ARMENIAN CAPITAL LETTER ", "AYB, BEN, GIM"⟩,
  ⟨0x0534, "ARMENIAN CAPITAL LETTER ", "DA, ECH, ZA, EH, ET, TO, ZHE, INI, LIWN, XEH, CA, KEN"⟩,
  ⟨0x0540, "ARMENIAN CAPITAL LETTER ", "HO, JA, GHAD, CHEH, MEN, YI, NOW, SHA, VO, CHA, PEH, JHEH"⟩,
  ⟨0x054C, "ARMENIAN CAPITAL LETTER ", "RA, SEH, VEW, TIWN, REH, CO, YIWN, PIWR, KEH, OH, FEH"⟩,
  ⟨0x0559, "", "ARMENIAN MODIFIER LETTER LEFT HALF RING"⟩,
  ⟨0x055A, "ARMENIAN ", "APOSTROPHE, EMPHASIS MARK, EXCLAMATION MARK, COMMA, QUESTION MARK"⟩,
  ⟨0x055F, "ARMENIAN ", "ABBREVIATION MARK, SMALL LETTER TURNED AYB, SMALL LETTER AYB"⟩,
  ⟨0x0562, "ARMENIAN SMALL LETTER ", "BEN, GIM, DA, ECH, ZA, EH, ET, TO, ZHE, INI, LIWN, XEH, CA"⟩,
  ⟨0x056F, "ARMENIAN SMALL LETTER ", "KEN, HO, JA, GHAD, CHEH, MEN, YI, NOW, SHA, VO, CHA, PEH"⟩,
  ⟨0x057B, "ARMENIAN SMALL LETTER ", "JHEH, RA, SEH, VEW, TIWN, REH, CO, YIWN, PIWR, KEH, OH, FEH"⟩,
  ⟨0x0587, "ARMENIAN ", "SMALL LIGATURE ECH YIWN, SMALL LETTER YI WITH STROKE, FULL STOP, HYPHEN"⟩,
  ⟨0x058D, "", "RIGHT-FACING ARMENIAN ETERNITY SIGN"⟩,
  ⟨0x058E, "", "LEFT-FACING ARMENIAN ETERNITY SIGN, ARMENIAN DRAM SIGN"⟩,
  ⟨0x10A0, "GEORGIAN CAPITAL LETTER ", "AN, BAN, GAN, DON"⟩,
  ⟨0x10A4, "GEORGIAN CAPITAL LETTER ", "EN, VIN, ZEN, TAN, IN, KAN, LAS, MAN, NAR, ON, PAR, ZHAR"⟩,
  ⟨0x10B0, "GEORGIAN CAPITAL LETTER ", "RAE, SAN, TAR, UN, PHAR, KHAR, GHAN, QAR, SHIN, CHIN, CAN"⟩,
  ⟨0x10BB, "GEORGIAN CAPITAL LETTER ", "JIL, CIL, CHAR, XAN, JHAN, HAE, HE, HIE, WE, HAR, HOE"⟩,
  ⟨0x10C7, "", "GEORGIAN CAPITAL LETTER YN"⟩,
  ⟨0x10CD, "", "GEORGIAN CAPITAL LETTER AEN"⟩,
  ⟨0x10D0, "GEORGIAN LETTER ", "AN, BAN, GAN, DON, EN"⟩,
  ⟨0x10D5, "GEORGIAN LETTER ", "VIN, ZEN, TAN, IN, KAN, LAS, MAN, NAR, ON, PAR, ZHAR, RAE, SAN"⟩,
  ⟨0x10E2, "GEORGIAN LETTER ", "TAR, UN, PHAR, KHAR, GHAN, QAR, SHIN, CHIN, CAN, JIL, CIL, CHAR"⟩,
  ⟨0x10EE, "GEORGIAN LETTER ", "XAN, JHAN, HAE, HE, HIE, WE, HAR, HOE, FI, YN, ELIFI, TURNED GAN"⟩,
  ⟨0x10FA, "", "GEORGIAN LETTER AIN, GEORGIAN PARAGRAPH SEPARATOR, MODIFIER LETTER GEORGIAN NAR"⟩,
  ⟨0x10FD, "GEORGIAN LETTER ", "AEN, HARD SIGN, LABIAL SIGN"⟩,
  ⟨0x1AB0, "", "COMBINING DOUBLED CIRCUMFLEX ACCENT"⟩,
  ⟨0x1AB1, "COMBINING ", "DIAERESIS-RING, INFINITY, DOWNWARDS ARROW, TRIPLE DOT"⟩,
  ⟨0x1AB5, "COMBINING ", "X-X BELOW, WIGGLY LINE BELOW, OPEN MARK BELOW, DOUBLE OPEN MARK BELOW"⟩,
  ⟨0x1AB9, "COMBINING ", "LIGHT CENTRALIZATION STROKE BELOW, STRONG CENTRALIZATION STROKE BELOW"⟩,
  ⟨0x1ABB, "COMBINING ", "PARENTHESES ABOVE, DOUBLE PARENTHESES ABOVE"⟩,
  ⟨0x1ABD, "COMBINING ", "PARENTHESES BELOW, PARENTHESES OVERLAY, LATIN SMALL LETTER W BELOW"⟩,
  ⟨0x1AC0, "COMBINING ", "LATIN SMALL LETTER TURNED W BELOW, LEFT PARENTHESIS ABOVE LEFT"⟩,
  ⟨0x1AC2, "COMBINING ", "RIGHT PARENTHESIS ABOVE RIGHT, LEFT PARENTHESIS BELOW LEFT"⟩,
  ⟨0x1AC4, "COMBINING ", "RIGHT PARENTHESIS BELOW RIGHT, SQUARE BRACKETS ABOVE"⟩,
  ⟨0x1AC6, "COMBINING ", "NUMBER SIGN ABOVE, INVERTED DOUBLE ARCH ABOVE, PLUS SIGN ABOVE"⟩,
  ⟨0x1AC9, "COMBINING ", "DOUBLE PLUS SIGN ABOVE, DOUBLE PLUS SIGN BELOW, TRIPLE ACUTE ACCENT"⟩,
  ⟨0x1ACC, "COMBINING LATIN SMALL LETTER INSULAR ", "G, R, T"⟩,
  ⟨0x1C80, "CYRILLIC SMALL LETTER ", "ROUNDED VE, LONG-LEGGED DE, NARROW O, WIDE ES, TALL TE"⟩,
  ⟨0x1C85, "CYRILLIC SMALL LETTER ", "THREE-LEGGED TE, TALL HARD SIGN, TALL YAT, UNBLENDED UK"⟩,
  ⟨0x1C90, "GEORGIAN MTAVRULI CAPITAL LETTER ", "AN, BAN, GAN, DON, EN, VIN, ZEN"⟩,
  ⟨0x1C97, "GEORGIAN MTAVRULI CAPITAL LETTER ", "TAN, IN, KAN, LAS, MAN, NAR, ON, PAR, ZHAR, RAE"⟩,
  ⟨0x1CA1, "GEORGIAN MTAVRULI CAPITAL LETTER ", "SAN, TAR, UN, PHAR, KHAR, GHAN, QAR, SHIN, CHIN"⟩,
  ⟨0x1CAA, "GEORGIAN MTAVRULI CAPITAL LETTER ", "CAN, JIL, CIL, CHAR, XAN, JHAN, HAE, HE, HIE"⟩,
  ⟨0x1CB3, "GEORGIAN MTAVRULI CAPITAL LETTER ", "WE, HAR, HOE, FI, YN, ELIFI, TURNED GAN, AIN"⟩,
  ⟨0x1CBD, "GEORGIAN MTAVRULI CAPITAL LETTER ", "AEN, HARD SIGN, LABIAL SIGN"⟩,
  ⟨0x1DC0, "", "COMBINING DOTTED GRAVE ACCENT"⟩,
  ⟨0x1DC1, "COMBINING ", "DOTTED ACUTE ACCENT, SNAKE BELOW, SUSPENSION MARK, MACRON-ACUTE"⟩,
  ⟨0x1DC5, "COMBINING ", "GRAVE-MACRON, MACRON-GRAVE, ACUTE-MACRON, GRAVE-ACUTE-GRAVE"⟩,
  ⟨0x1DC9, "COMBINING ", "ACUTE-GRAVE-ACUTE, LATIN SMALL LETTER R BELOW, BREVE-MACRON"⟩,
  ⟨0x1DCC, "COMBINING ", "MACRON-BREVE, DOUBLE CIRCUMFLEX ABOVE, OGONEK ABOVE, ZIGZAG BELOW"⟩,
  ⟨0x1DD0, "COMBINING ", "IS BELOW, UR ABOVE, US ABOVE, LATIN SMALL LETTER FLATTENED OPEN A ABOVE"⟩,
  ⟨0x1DD4, "COMBINING LATIN SMALL LETTER ", "AE, AO, AV, C CEDILLA, INSULAR D, ETH"⟩,
  ⟨0x1DDA, "COMBINING LATIN ", "SMALL LETTER G, LETTER SMALL CAPITAL G, SMALL LETTER K"⟩,
  ⟨0x1DDD, "COMBINING LATIN ", "SMALL LETTER L, LETTER SMALL CAPITAL L, LETTER SMALL CAPITAL M"⟩,
  ⟨0x1DE0, "COMBINING LATIN ", "SMALL LETTER N, LETTER SMALL CAPITAL N, LETTER SMALL CAPITAL R"⟩,
  ⟨0x1DE3, "COMBINING LATIN SMALL LETTER ", "R ROTUNDA, S, LONG S, Z"⟩,
  ⟨0x1DE7, "COMBINING LATIN SMALL LETTER ", "ALPHA, B, BETA, SCHWA, F, L WITH DOUBLE MIDDLE TILDE"⟩,
  ⟨0x1DED, "", "COMBINING LATIN SMALL LETTER O WITH LIGHT CENTRALIZATION STROKE"⟩,
  ⟨0x1DEE, "COMBINING LATIN SMALL LETTER ", "P, ESH, U WITH LIGHT CENTRALIZATION STROKE, W"⟩,
  ⟨0x1DF2, "COMBINING LATIN SMALL LETTER ", "A WITH DIAERESIS, O WITH DIAERESIS, U WITH DIAERESIS"⟩,
  ⟨0x1DF5, "COMBINING ", "UP TACK ABOVE, KAVYKA ABOVE RIGHT, KAVYKA ABOVE LEFT"⟩,
  ⟨0x1DF8, "COMBINING ", "DOT ABOVE LEFT, WIDE INVERTED BRIDGE BELOW, DOT BELOW LEFT"⟩,
  ⟨0x1DFB, "COMBINING ", "DELETION MARK, DOUBLE INVERTED BREVE BELOW, ALMOST EQUAL TO BELOW"⟩,
  ⟨0x1DFE, "COMBINING ", "LEFT ARROWHEAD ABOVE, RIGHT ARROWHEAD AND DOWN ARROWHEAD BELOW"⟩,
  ⟨0x1F00, "GREEK SMALL LETTER ALPHA WITH ", "PSILI, DASIA, PSILI AND VARIA"⟩,
  ⟨0x1F03, "GREEK SMALL LETTER ALPHA WITH ", "DASIA AND VARIA, PSILI AND OXIA, DASIA AND OXIA"⟩,
  ⟨0x1F06, "GREEK SMALL LETTER ALPHA WITH ", "PSILI AND PERISPOMENI, DASIA AND PERISPOMENI"⟩,
  ⟨0x1F08, "GREEK CAPITAL LETTER ALPHA WITH ", "PSILI, DASIA, PSILI AND VARIA"⟩,
  ⟨0x1F0B, "GREEK CAPITAL LETTER ALPHA WITH ", "DASIA AND VARIA, PSILI AND OXIA, DASIA AND OXIA"⟩,
  ⟨0x1F0E, "GREEK CAPITAL LETTER ALPHA WITH ", "PSILI AND PERISPOMENI, DASIA AND PERISPOMENI"⟩,
  ⟨0x1F10, "GREEK SMALL LETTER EPSILON WITH ", "PSILI, DASIA, PSILI AND VARIA"⟩,
  ⟨0x1F13, "GREEK SMALL LETTER EPSILON WITH ", "DASIA AND VARIA, PSILI AND OXIA, DASIA AND OXIA"⟩,
  ⟨0x1F18, "GREEK CAPITAL LETTER EPSILON WITH ", "PSILI, DASIA, PSILI AND VARIA"⟩,
  ⟨0x1F1B, "GREEK CAPITAL LETTER EPSILON WITH ", "DASIA AND VARIA, PSILI AND OXIA, DASIA AND OXIA"⟩,
  ⟨0x1F20, "GREEK SMALL LETTER ETA WITH ", "PSILI, DASIA, PSILI AND VARIA"⟩,
  ⟨0x1F23, "GREEK SMALL LETTER ETA WITH ", "DASIA AND VARIA, PSILI AND OXIA, DASIA AND OXIA"⟩,
  ⟨0x1F26, "GREEK SMALL LETTER ETA WITH ", "PSILI AND PERISPOMENI, DASIA AND PERISPOMENI"⟩,
  ⟨0x1F28, "GREEK CAPITAL LETTER ETA WITH ", "PSILI, DASIA, PSILI AND VARIA"⟩,
  ⟨0x1F2B, "GREEK CAPITAL LETTER ETA WITH ", "DASIA AND VARIA, PSILI AND OXIA, DASIA AND OXIA"⟩,
  ⟨0x1F2E, "GREEK CAPITAL LETTER ETA WITH ", "PSILI AND PERISPOMENI, DASIA AND PERISPOMENI"⟩,
  ⟨0x1F30, "GREEK SMALL LETTER IOTA WITH ", "PSILI, DASIA, PSILI AND VARIA"⟩,
  ⟨0x1F33, "GREEK SMALL LETTER IOTA WITH ", "DASIA AND VARIA, PSILI AND OXIA, DASIA AND OXIA"⟩,
  ⟨0x1F36, "GREEK SMALL LETTER IOTA WITH ", "PSILI AND PERISPOMENI, DASIA AND PERISPOMENI"⟩,
  ⟨0x1F38, "GREEK CAPITAL LETTER IOTA WITH ", "PSILI, DASIA, PSILI AND VARIA"⟩,
  ⟨0x1F3B, "GREEK CAPITAL LETTER IOTA WITH ", "DASIA AND VARIA, PSILI AND OXIA, DASIA AND OXIA"⟩,
  ⟨0x1F3E, "GREEK CAPITAL LETTER IOTA WITH ", "PSILI AND PERISPOMENI, DASIA AND PERISPOMENI"⟩,
  ⟨0x1F40, "GREEK SMALL LETTER OMICRON WITH ", "PSILI, DASIA, PSILI AND VARIA"⟩,
  ⟨0x1F43, "GREEK SMALL LETTER OMICRON WITH ", "DASIA AND VARIA, PSILI AND OXIA, DASIA AND OXIA"⟩,
  ⟨0x1F48, "GREEK CAPITAL LETTER OMICRON WITH ", "PSILI, DASIA, PSILI AND VARIA"⟩,
  ⟨0x1F4B, "GREEK CAPITAL LETTER OMICRON WITH ", "DASIA AND VARIA, PSILI AND OXIA, DASIA AND OXIA"⟩,
  ⟨0x1F50, "GREEK SMALL LETTER UPSILON WITH ", "PSILI, DASIA, PSILI AND VARIA"⟩,
  ⟨0x1F53, "GREEK SMALL LETTER UPSILON WITH ", "DASIA AND VARIA, PSILI AND OXIA, DASIA AND OXIA"⟩,
  ⟨0x1F56, "GREEK SMALL LETTER UPSILON WITH ", "PSILI AND PERISPOMENI, DASIA AND PERISPOMENI"⟩,
  ⟨0x1F59, "", "GREEK CAPITAL LETTER UPSILON WITH DASIA"⟩,
  ⟨0x1F5B, "", "GREEK CAPITAL LETTER UPSILON WITH DASIA AND VARIA"⟩,
  ⟨0x1F5D, "", "GREEK CAPITAL LETTER UPSILON WITH DASIA AND OXIA"⟩,
  ⟨0x1F5F, "", "GREEK CAPITAL LETTER UPSILON WITH DASIA AND PERISPOMENI"⟩,
  ⟨0x1F60, "GREEK SMALL LETTER OMEGA WITH ", "PSILI, DASIA, PSILI AND VARIA"⟩,
  ⟨0x1F63, "GREEK SMALL LETTER OMEGA WITH ", "DASIA AND VARIA, PSILI AND OXIA, DASIA AND OXIA"⟩,
  ⟨0x1F66, "GREEK SMALL LETTER OMEGA WITH ", "PSILI AND PERISPOMENI, DASIA AND PERISPOMENI"⟩,
  ⟨0x1F68, "GREEK CAPITAL LETTER OMEGA WITH ", "PSILI, DASIA, PSILI AND VARIA"⟩,
  ⟨0x1F6B, "GREEK CAPITAL LETTER OMEGA WITH ", "DASIA AND VARIA, PSILI AND OXIA, DASIA AND OXIA"⟩,
  ⟨0x1F6E, "GREEK CAPITAL LETTER OMEGA WITH ", "PSILI AND PERISPOMENI, DASIA AND PERISPOMENI"⟩,
  ⟨0x1F70, "", "GREEK SMALL LETTER ALPHA WITH VARIA"⟩,
  ⟨0x1F71, "GREEK SMALL LETTER ", "ALPHA WITH OXIA, EPSILON WITH VARIA, EPSILON WITH OXIA"⟩,
  ⟨0x1F74, "GREEK SMALL LETTER ", "ETA WITH VARIA, ETA WITH OXIA, IOTA WITH VARIA, IOTA WITH OXIA"⟩,
  ⟨0x1F78, "GREEK SMALL LETTER ", "OMICRON WITH VARIA, OMICRON WITH OXIA, UPSILON WITH VARIA"⟩,
  ⟨0x1F7B, "GREEK SMALL LETTER ", "UPSILON WITH OXIA, OMEGA WITH VARIA, OMEGA WITH OXIA"⟩,
  ⟨0x1F80, "GREEK SMALL LETTER ALPHA WITH ", "PSILI AND YPOGEGRAMMENI, DASIA AND YPOGEGRAMMENI"⟩,
  ⟨0x1F82, "", "GREEK SMALL LETTER ALPHA WITH PSILI AND VARIA AND YPOGEGRAMMENI"⟩,
  ⟨0x1F83, "", "GREEK SMALL LETTER ALPHA WITH DASIA AND VARIA AND YPOGEGRAMMENI"⟩,
  ⟨0x1F84, "", "GREEK SMALL LETTER ALPHA WITH PSILI AND OXIA AND YPOGEGRAMMENI"⟩,
  ⟨0x1F85, "", "GREEK SMALL LETTER ALPHA WITH DASIA AND OXIA AND YPOGEGRAMMENI"⟩,
  ⟨0x1F86, "", "GREEK SMALL LETTER ALPHA WITH PSILI AND PERISPOMENI AND YPOGEGRAMMENI"⟩,
  ⟨0x1F87, "", "GREEK SMALL LETTER ALPHA WITH DASIA AND PERISPOMENI AND YPOGEGRAMMENI"⟩,
  ⟨0x1F88, "", "GREEK CAPITAL LETTER ALPHA WITH PSILI AND PROSGEGRAMMENI"⟩,
  ⟨0x1F89, "", "GREEK CAPITAL LETTER ALPHA WITH DASIA AND PROSGEGRAMMENI"⟩,
  ⟨0x1F8A, "", "GREEK CAPITAL LETTER ALPHA WITH PSILI AND VARIA AND PROSGEGRAMMENI"⟩,
  ⟨0x1F8B, "", "GREEK CAPITAL LETTER ALPHA WITH DASIA AND VARIA AND PROSGEGRAMMENI"⟩,
  ⟨0x1F8C, "", "GREEK CAPITAL LETTER ALPHA WITH PSILI AND OXIA AND PROSGEGRAMMENI"⟩,
  ⟨0x1F8D, "", "GREEK CAPITAL LETTER ALPHA WITH DASIA AND OXIA AND PROSGEGRAMMENI"⟩,
  ⟨0x1F8E, "", "GREEK CAPITAL LETTER ALPHA WITH PSILI AND PERISPOMENI AND PROSGEGRAMMENI"⟩,
  ⟨0x1F8F, "", "GREEK CAPITAL LETTER ALPHA WITH DASIA AND PERISPOMENI AND PROSGEGRAMMENI"⟩,
  ⟨0x1F90, "GREEK SMALL LETTER ETA WITH ", "PSILI AND YPOGEGRAMMENI, DASIA AND YPOGEGRAMMENI"⟩,
  ⟨0x1F92, "", "GREEK SMALL LETTER ETA WITH PSILI AND VARIA AND YPOGEGRAMMENI"⟩,
  ⟨0x1F93, "", "GREEK SMALL LETTER ETA WITH DASIA AND VARIA AND YPOGEGRAMMENI"⟩,
  ⟨0x1F94, "", "GREEK SMALL LETTER ETA WITH PSILI AND OXIA AND YPOGEGRAMMENI"⟩,
  ⟨0x1F95, "", "GREEK SMALL LETTER ETA WITH DASIA AND OXIA AND YPOGEGRAMMENI"⟩,
  ⟨0x1F96, "", "GREEK SMALL LETTER ETA WITH PSILI AND PERISPOMENI AND YPOGEGRAMMENI"⟩,
  ⟨0x1F97, "", "GREEK SMALL LETTER ETA WITH DASIA AND PERISPOMENI AND YPOGEGRAMMENI"⟩,
  ⟨0x1F98, "GREEK CAPITAL LETTER ETA WITH ", "PSILI AND PROSGEGRAMMENI, DASIA AND PROSGEGRAMMENI"⟩,
  ⟨0x1F9A, "", "GREEK CAPITAL LETTER ETA WITH PSILI AND VARIA AND PROSGEGRAMMENI"⟩,
  ⟨0x1F9B, "", "GREEK CAPITAL LETTER ETA WITH DASIA AND VARIA AND PROSGEGRAMMENI"⟩,
  ⟨0x1F9C, "", "GREEK CAPITAL LETTER ETA WITH PSILI AND OXIA AND PROSGEGRAMMENI"⟩,
  ⟨0x1F9D, "", "GREEK CAPITAL LETTER ETA WITH DASIA AND OXIA AND PROSGEGRAMMENI"⟩,
  ⟨0x1F9E, "", "GREEK CAPITAL LETTER ETA WITH PSILI AND PERISPOMENI AND PROSGEGRAMMENI"⟩,
  ⟨0x1F9F, "", "GREEK CAPITAL LETTER ETA WITH DASIA AND PERISPOMENI AND PROSGEGRAMMENI"⟩,
  ⟨0x1FA0, "GREEK SMALL LETTER OMEGA WITH ", "PSILI AND YPOGEGRAMMENI, DASIA AND YPOGEGRAMMENI"⟩,
  ⟨0x1FA2, "", "GREEK SMALL LETTER OMEGA WITH PSILI AND VARIA AND YPOGEGRAMMENI"⟩,
  ⟨0x1FA3, "", "GREEK SMALL LETTER OMEGA WITH DASIA AND VARIA AND YPOGEGRAMMENI"⟩,
  ⟨0x1FA4, "", "GREEK SMALL LETTER OMEGA WITH PSILI AND OXIA AND YPOGEGRAMMENI"⟩,
  ⟨0x1FA5, "", "GREEK SMALL LETTER OMEGA WITH DASIA AND OXIA AND YPOGEGRAMMENI"⟩,
  ⟨0x1FA6, "", "GREEK SMALL LETTER OMEGA WITH PSILI AND PERISPOMENI AND YPOGEGRAMMENI"⟩,
  ⟨0x1FA7, "", "GREEK SMALL LETTER OMEGA WITH DASIA AND PERISPOMENI AND YPOGEGRAMMENI"⟩,
  ⟨0x1FA8, "", "GREEK CAPITAL LETTER OMEGA WITH PSILI AND PROSGEGRAMMENI"⟩,
  ⟨0x1FA9, "", "GREEK CAPITAL LETTER OMEGA WITH DASIA AND PROSGEGRAMMENI"⟩,
  ⟨0x1FAA, "", "GREEK CAPITAL LETTER OMEGA WITH PSILI AND VARIA AND PROSGEGRAMMENI"⟩,
  ⟨0x1FAB, "", "GREEK CAPITAL LETTER OMEGA WITH DASIA AND VARIA AND PROSGEGRAMMENI"⟩,
  ⟨0x1FAC, "", "GREEK CAPITAL LETTER OMEGA WITH PSILI AND OXIA AND PROSGEGRAMMENI"⟩,
  ⟨0x1FAD, "", "GREEK CAPITAL LETTER OMEGA WITH DASIA AND OXIA AND PROSGEGRAMMENI"⟩,
  ⟨0x1FAE, "", "GREEK CAPITAL LETTER OMEGA WITH PSILI AND PERISPOMENI AND PROSGEGRAMMENI"⟩,
  ⟨0x1FAF, "", "GREEK CAPITAL LETTER OMEGA WITH DASIA AND PERISPOMENI AND PROSGEGRAMMENI"⟩,
  ⟨0x1FB0, "GREEK SMALL LETTER ALPHA WITH ", "VRACHY, MACRON, VARIA AND YPOGEGRAMMENI"⟩,
  ⟨0x1FB3, "GREEK SMALL LETTER ALPHA WITH ", "YPOGEGRAMMENI, OXIA AND YPOGEGRAMMENI"⟩,
  ⟨0x1FB6, "GREEK SMALL LETTER ALPHA WITH ", "PERISPOMENI, PERISPOMENI AND YPOGEGRAMMENI"⟩,
  ⟨0x1FB8, "GREEK CAPITAL LETTER ALPHA WITH ", "VRACHY, MACRON, VARIA, OXIA, PROSGEGRAMMENI"⟩,
  ⟨0x1FBD, "GREEK ", "KORONIS, PROSGEGRAMMENI, PSILI, PERISPOMENI"⟩,
  ⟨0x1FC1, "GREEK ", "DIALYTIKA AND PERISPOMENI, SMALL LETTER ETA WITH VARIA AND YPOGEGRAMMENI"⟩,
  ⟨0x1FC3, "GREEK SMALL LETTER ETA WITH ", "YPOGEGRAMMENI, OXIA AND YPOGEGRAMMENI"⟩,
  ⟨0x1FC6, "GREEK SMALL LETTER ETA WITH ", "PERISPOMENI, PERISPOMENI AND YPOGEGRAMMENI"⟩,
  ⟨0x1FC8, "", "GREEK CAPITAL LETTER EPSILON WITH VARIA"⟩,
  ⟨0x1FC9, "GREEK CAPITAL LETTER ", "EPSILON WITH OXIA, ETA WITH VARIA, ETA WITH OXIA"⟩,
  ⟨0x1FCC, "GREEK ", "CAPITAL LETTER ETA WITH PROSGEGRAMMENI, PSILI AND VARIA"⟩,
  ⟨0x1FCE, "GREEK ", "PSILI AND OXIA, PSILI AND PERISPOMENI, SMALL LETTER IOTA WITH VRACHY"⟩,
  ⟨0x1FD1, "GREEK SMALL LETTER IOTA WITH ", "MACRON, DIALYTIKA AND VARIA, DIALYTIKA AND OXIA"⟩,
  ⟨0x1FD6, "GREEK SMALL LETTER IOTA WITH ", "PERISPOMENI, DIALYTIKA AND PERISPOMENI"⟩,
  ⟨0x1FD8, "GREEK CAPITAL LETTER IOTA WITH ", "VRACHY, MACRON, VARIA, OXIA"⟩,
  ⟨0x1FDD, "", "GREEK DASIA AND VARIA"⟩,
  ⟨0x1FDE, "GREEK ", "DASIA AND OXIA, DASIA AND PERISPOMENI, SMALL LETTER UPSILON WITH VRACHY"⟩,
  ⟨0x1FE1, "GREEK SMALL LETTER UPSILON WITH ", "MACRON, DIALYTIKA AND VARIA, DIALYTIKA AND OXIA"⟩,
  ⟨0x1FE4, "GREEK SMALL LETTER RHO WITH ", "PSILI, DASIA"⟩,
  ⟨0x1FE6, "GREEK SMALL LETTER UPSILON WITH ", "PERISPOMENI, DIALYTIKA AND PERISPOMENI"⟩,
  ⟨0x1FE8, "GREEK CAPITAL LETTER UPSILON WITH ", "VRACHY, MACRON"⟩,
  ⟨0x1FEA, "GREEK CAPITAL LETTER ", "UPSILON WITH VARIA, UPSILON WITH OXIA, RHO WITH DASIA"⟩,
  ⟨0x1FED, "GREEK ", "DIALYTIKA AND VARIA, DIALYTIKA AND OXIA, VARIA"⟩,
  ⟨0x1FF2, "", "GREEK SMALL LETTER OMEGA WITH VARIA AND YPOGEGRAMMENI"⟩,
  ⟨0x1FF3, "GREEK SMALL LETTER OMEGA WITH ", "YPOGEGRAMMENI, OXIA AND YPOGEGRAMMENI"⟩,
  ⟨0x1FF6, "GREEK SMALL LETTER OMEGA WITH ", "PERISPOMENI, PERISPOMENI AND YPOGEGRAMMENI"⟩,
  ⟨0x1FF8, "", "GREEK CAPITAL LETTER OMICRON WITH VARIA"⟩,
  ⟨0x1FF9, "GREEK CAPITAL LETTER ", "OMICRON WITH OXIA, OMEGA WITH VARIA, OMEGA WITH OXIA"⟩,
  ⟨0x1FFC, "GREEK ", "CAPITAL LETTER OMEGA WITH PROSGEGRAMMENI, OXIA, DASIA"⟩,
  ⟨0x2C00, "GLAGOLITIC CAPITAL LETTER ", "AZU, BUKY"⟩,
  ⟨0x2C02, "GLAGOLITIC CAPITAL LETTER ", "VEDE, GLAGOLI, DOBRO, YESTU, ZHIVETE, DZELO, ZEMLJA"⟩,
  ⟨0x2C09, "GLAGOLITIC CAPITAL LETTER ", "IZHE, INITIAL IZHE, I, DJERVI, KAKO, LJUDIJE, MYSLITE"⟩,
  ⟨0x2C10, "GLAGOLITIC CAPITAL LETTER ", "NASHI, ONU, POKOJI, RITSI, SLOVO, TVRIDO, UKU, FRITU"⟩,
  ⟨0x2C18, "GLAGOLITIC CAPITAL LETTER ", "HERU, OTU, PE, SHTA, TSI, CHRIVI, SHA, YERU, YERI"⟩,
  ⟨0x2C21, "GLAGOLITIC CAPITAL LETTER ", "YATI, SPIDERY HA, YU, SMALL YUS, SMALL YUS WITH TAIL"⟩,
  ⟨0x2C26, "GLAGOLITIC CAPITAL LETTER ", "YO, IOTATED SMALL YUS, BIG YUS, IOTATED BIG YUS"⟩,
  ⟨0x2C2A, "GLAGOLITIC CAPITAL LETTER ", "FITA, IZHITSA, SHTAPIC, TROKUTASTI A, LATINATE MYSLITE"⟩,
  ⟨0x2C2F, "GLAGOLITIC ", "CAPITAL LETTER CAUDATE CHRIVI, SMALL LETTER AZU, SMALL LETTER BUKY"⟩,
  ⟨0x2C32, "GLAGOLITIC SMALL LETTER ", "VEDE, GLAGOLI, DOBRO, YESTU, ZHIVETE, DZELO, ZEMLJA, IZHE"⟩,
  ⟨0x2C3A, "GLAGOLITIC SMALL LETTER ", "INITIAL IZHE, I, DJERVI, KAKO, LJUDIJE, MYSLITE, NASHI"⟩,
  ⟨0x2C41, "GLAGOLITIC SMALL LETTER ", "ONU, POKOJI, RITSI, SLOVO, TVRIDO, UKU, FRITU, HERU, OTU"⟩,
  ⟨0x2C4A, "GLAGOLITIC SMALL LETTER ", "PE, SHTA, TSI, CHRIVI, SHA, YERU, YERI, YATI, SPIDERY HA"⟩,
  ⟨0x2C53, "GLAGOLITIC SMALL LETTER ", "YU, SMALL YUS, SMALL YUS WITH TAIL, YO, IOTATED SMALL YUS"⟩,
  ⟨0x2C58, "GLAGOLITIC SMALL LETTER ", "BIG YUS, IOTATED BIG YUS, FITA, IZHITSA"⟩,
  ⟨0x2C5C, "GLAGOLITIC SMALL LETTER ", "SHTAPIC, TROKUTASTI A, LATINATE MYSLITE, CAUDATE CHRIVI"⟩,
  ⟨0x2C80, "", "COPTIC CAPITAL LETTER ALFA"⟩,
  ⟨0x2C81, "COPTIC ", "SMALL LETTER ALFA, CAPITAL LETTER VIDA, SMALL LETTER VIDA"⟩,
  ⟨0x2C84, "COPTIC ", "CAPITAL LETTER GAMMA, SMALL LETTER GAMMA, CAPITAL LETTER DALDA"⟩,
  ⟨0x2C87, "COPTIC ", "SMALL LETTER DALDA, CAPITAL LETTER EIE, SMALL LETTER EIE"⟩,
  ⟨0x2C8A, "COPTIC ", "CAPITAL LETTER SOU, SMALL LETTER SOU, CAPITAL LETTER ZATA"⟩,
  ⟨0x2C8D, "COPTIC ", "SMALL LETTER ZATA, CAPITAL LETTER HATE, SMALL LETTER HATE"⟩,
  ⟨0x2C90, "COPTIC ", "CAPITAL LETTER THETHE, SMALL LETTER THETHE, CAPITAL LETTER IAUDA"⟩,
  ⟨0x2C93, "COPTIC ", "SMALL LETTER IAUDA, CAPITAL LETTER KAPA, SMALL LETTER KAPA"⟩,
  ⟨0x2C96, "COPTIC ", "CAPITAL LETTER LAULA, SMALL LETTER LAULA, CAPITAL LETTER MI"⟩,
  ⟨0x2C99, "COPTIC ", "SMALL LETTER MI, CAPITAL LETTER NI, SMALL LETTER NI, CAPITAL LETTER KSI"⟩,
  ⟨0x2C9D, "COPTIC ", "SMALL LETTER KSI, CAPITAL LETTER O, SMALL LETTER O, CAPITAL LETTER PI"⟩,
  ⟨0x2CA1, "COPTIC ", "SMALL LETTER PI, CAPITAL LETTER RO, SMALL LETTER RO, CAPITAL LETTER SIMA"⟩,
  ⟨0x2CA5, "COPTIC ", "SMALL LETTER SIMA, CAPITAL LETTER TAU, SMALL LETTER TAU"⟩,
  ⟨0x2CA8, "COPTIC ", "CAPITAL LETTER UA, SMALL LETTER UA, CAPITAL LETTER FI, SMALL LETTER FI"⟩,
  ⟨0x2CAC, "COPTIC ", "CAPITAL LETTER KHI, SMALL LETTER KHI, CAPITAL LETTER PSI, SMALL LETTER PSI"⟩,
  ⟨0x2CB0, "COPTIC ", "CAPITAL LETTER OOU, SMALL LETTER OOU, CAPITAL LETTER DIALECT-P ALEF"⟩,
  ⟨0x2CB3, "COPTIC ", "SMALL LETTER DIALECT-P ALEF, CAPITAL LETTER OLD COPTIC AIN"⟩,
  ⟨0x2CB5, "COPTIC ", "SMALL LETTER OLD COPTIC AIN, CAPITAL LETTER CRYPTOGRAMMIC EIE"⟩,
  ⟨0x2CB7, "COPTIC ", "SMALL LETTER CRYPTOGRAMMIC EIE, CAPITAL LETTER DIALECT-P KAPA"⟩,
  ⟨0x2CB9, "COPTIC ", "SMALL LETTER DIALECT-P KAPA, CAPITAL LETTER DIALECT-P NI"⟩,
  ⟨0x2CBB, "COPTIC ", "SMALL LETTER DIALECT-P NI, CAPITAL LETTER CRYPTOGRAMMIC NI"⟩,
  ⟨0x2CBD, "COPTIC ", "SMALL LETTER CRYPTOGRAMMIC NI, CAPITAL LETTER OLD COPTIC OOU"⟩,
  ⟨0x2CBF, "COPTIC ", "SMALL LETTER OLD COPTIC OOU, CAPITAL LETTER SAMPI"⟩,
  ⟨0x2CC1, "COPTIC ", "SMALL LETTER SAMPI, CAPITAL LETTER CROSSED SHEI, SMALL LETTER CROSSED SHEI"⟩,
  ⟨0x2CC4, "COPTIC ", "CAPITAL LETTER OLD COPTIC SHEI, SMALL LETTER OLD COPTIC SHEI"⟩,
  ⟨0x2CC6, "COPTIC ", "CAPITAL LETTER OLD COPTIC ESH, SMALL LETTER OLD COPTIC ESH"⟩,
  ⟨0x2CC8, "COPTIC ", "CAPITAL LETTER AKHMIMIC KHEI, SMALL LETTER AKHMIMIC KHEI"⟩,
  ⟨0x2CCA, "COPTIC ", "CAPITAL LETTER DIALECT-P HORI, SMALL LETTER DIALECT-P HORI"⟩,
  ⟨0x2CCC, "COPTIC ", "CAPITAL LETTER OLD COPTIC HORI, SMALL LETTER OLD COPTIC HORI"⟩,
  ⟨0x2CCE, "COPTIC ", "CAPITAL LETTER OLD COPTIC HA, SMALL LETTER OLD COPTIC HA"⟩,
  ⟨0x2CD0, "COPTIC ", "CAPITAL LETTER L-SHAPED HA, SMALL LETTER L-SHAPED HA"⟩,
  ⟨0x2CD2, "COPTIC ", "CAPITAL LETTER OLD COPTIC HEI, SMALL LETTER OLD COPTIC HEI"⟩,
  ⟨0x2CD4, "COPTIC ", "CAPITAL LETTER OLD COPTIC HAT, SMALL LETTER OLD COPTIC HAT"⟩,
  ⟨0x2CD6, "COPTIC ", "CAPITAL LETTER OLD COPTIC GANGIA, SMALL LETTER OLD COPTIC GANGIA"⟩,
  ⟨0x2CD8, "COPTIC ", "CAPITAL LETTER OLD COPTIC DJA, SMALL LETTER OLD COPTIC DJA"⟩,
  ⟨0x2CDA, "COPTIC ", "CAPITAL LETTER OLD COPTIC SHIMA, SMALL LETTER OLD COPTIC SHIMA"⟩,
  ⟨0x2CDC, "COPTIC ", "CAPITAL LETTER OLD NUBIAN SHIMA, SMALL LETTER OLD NUBIAN SHIMA"⟩,
  ⟨0x2CDE, "COPTIC ", "CAPITAL LETTER OLD NUBIAN NGI, SMALL LETTER OLD NUBIAN NGI"⟩,
  ⟨0x2CE0, "COPTIC ", "CAPITAL LETTER OLD NUBIAN NYI, SMALL LETTER OLD NUBIAN NYI"⟩,
  ⟨0x2CE2, "COPTIC ", "CAPITAL LETTER OLD NUBIAN WAU, SMALL LETTER OLD NUBIAN WAU"⟩,
  ⟨0x2CE4, "COPTIC SYMBOL ", "KAI, MI RO, PI RO, STAUROS, TAU RO, KHI RO, SHIMA SIMA"⟩,
  ⟨0x2CEB, "COPTIC ", "CAPITAL LETTER CRYPTOGRAMMIC SHEI, SMALL LETTER CRYPTOGRAMMIC SHEI"⟩,
  ⟨0x2CED, "COPTIC ", "CAPITAL LETTER CRYPTOGRAMMIC GANGIA, SMALL LETTER CRYPTOGRAMMIC GANGIA"⟩,
  ⟨0x2CEF, "COPTIC COMBINING ", "NI ABOVE, SPIRITUS ASPER, SPIRITUS LENIS"⟩,
  ⟨0x2CF2, "COPTIC ", "CAPITAL LETTER BOHAIRIC KHEI, SMALL LETTER BOHAIRIC KHEI"⟩,
  ⟨0x2CF9, "", "COPTIC OLD NUBIAN FULL STOP"⟩,
  ⟨0x2CFA, "COPTIC OLD NUBIAN ", "DIRECT QUESTION MARK, INDIRECT QUESTION MARK, VERSE DIVIDER"⟩,
  ⟨0x2CFD, "COPTIC ", "FRACTION ONE HALF, FULL STOP, MORPHOLOGICAL DIVIDER"⟩,
  ⟨0x2D00, "GEORGIAN SMALL LETTER ", "AN, BAN, GAN"⟩,
  ⟨0x2D03, "GEORGIAN SMALL LETTER ", "DON, EN, VIN, ZEN, TAN, IN, KAN, LAS, MAN, NAR, ON, PAR"⟩,
  ⟨0x2D0F, "GEORGIAN SMALL LETTER ", "ZHAR, RAE, SAN, TAR, UN, PHAR, KHAR, GHAN, QAR, SHIN, CHIN"⟩,
  ⟨0x2D1A, "GEORGIAN SMALL LETTER ", "CAN, JIL, CIL, CHAR, XAN, JHAN, HAE, HE, HIE, WE, HAR, HOE"⟩,
  ⟨0x2D27, "", "GEORGIAN SMALL LETTER YN"⟩,
  ⟨0x2D2D, "", "GEORGIAN SMALL LETTER AEN"⟩,
  ⟨0x2DE0, "COMBINING CYRILLIC LETTER ", "BE, VE, GHE, DE, ZHE, ZE"⟩,
  ⟨0x2DE6, "COMBINING CYRILLIC LETTER ", "KA, EL, EM, EN, O, PE, ER, ES, TE, HA, TSE, CHE, SHA"⟩,
  ⟨0x2DF3, "COMBINING CYRILLIC LETTER ", "SHCHA, FITA, ES-TE, A, IE, DJERV, MONOGRAPH UK, YAT"⟩,
  ⟨0x2DFB, "COMBINING CYRILLIC LETTER ", "YU, IOTIFIED A, LITTLE YUS, BIG YUS, IOTIFIED BIG YUS"⟩,
  ⟨0xA640, "CYRILLIC ", "CAPITAL LETTER ZEMLYA, SMALL LETTER ZEMLYA"⟩,
  ⟨0xA642, "CYRILLIC ", "CAPITAL LETTER DZELO, SMALL LETTER DZELO, CAPITAL LETTER REVERSED DZE"⟩,
  ⟨0xA645, "CYRILLIC ", "SMALL LETTER REVERSED DZE, CAPITAL LETTER IOTA, SMALL LETTER IOTA"⟩,
  ⟨0xA648, "CYRILLIC ", "CAPITAL LETTER DJERV, SMALL LETTER DJERV, CAPITAL LETTER MONOGRAPH UK"⟩,
  ⟨0xA64B, "CYRILLIC ", "SMALL LETTER MONOGRAPH UK, CAPITAL LETTER BROAD OMEGA"⟩,
  ⟨0xA64D, "CYRILLIC ", "SMALL LETTER BROAD OMEGA, CAPITAL LETTER NEUTRAL YER"⟩,
  ⟨0xA64F, "CYRILLIC ", "SMALL LETTER NEUTRAL YER, CAPITAL LETTER YERU WITH BACK YER"⟩,
  ⟨0xA651, "CYRILLIC ", "SMALL LETTER YERU WITH BACK YER, CAPITAL LETTER IOTIFIED YAT"⟩,
  ⟨0xA653, "CYRILLIC ", "SMALL LETTER IOTIFIED YAT, CAPITAL LETTER REVERSED YU"⟩,
  ⟨0xA655, "CYRILLIC ", "SMALL LETTER REVERSED YU, CAPITAL LETTER IOTIFIED A"⟩,
  ⟨0xA657, "CYRILLIC ", "SMALL LETTER IOTIFIED A, CAPITAL LETTER CLOSED LITTLE YUS"⟩,
  ⟨0xA659, "CYRILLIC ", "SMALL LETTER CLOSED LITTLE YUS, CAPITAL LETTER BLENDED YUS"⟩,
  ⟨0xA65B, "CYRILLIC ", "SMALL LETTER BLENDED YUS, CAPITAL LETTER IOTIFIED CLOSED LITTLE YUS"⟩,
  ⟨0xA65D, "", "CYRILLIC SMALL LETTER IOTIFIED CLOSED LITTLE YUS"⟩,
  ⟨0xA65E, "CYRILLIC ", "CAPITAL LETTER YN, SMALL LETTER YN, CAPITAL LETTER REVERSED TSE"⟩,
  ⟨0xA661, "CYRILLIC ", "SMALL LETTER REVERSED TSE, CAPITAL LETTER SOFT DE"⟩,
  ⟨0xA663, "CYRILLIC ", "SMALL LETTER SOFT DE, CAPITAL LETTER SOFT EL, SMALL LETTER SOFT EL"⟩,
  ⟨0xA666, "CYRILLIC ", "CAPITAL LETTER SOFT EM, SMALL LETTER SOFT EM, CAPITAL LETTER MONOCULAR O"⟩,
  ⟨0xA669, "CYRILLIC ", "SMALL LETTER MONOCULAR O, CAPITAL LETTER BINOCULAR O"⟩,
  ⟨0xA66B, "CYRILLIC ", "SMALL LETTER BINOCULAR O, CAPITAL LETTER DOUBLE MONOCULAR O"⟩,
  ⟨0xA66D, "CYRILLIC ", "SMALL LETTER DOUBLE MONOCULAR O, LETTER MULTIOCULAR O"⟩,
  ⟨0xA66F, "COMBINING CYRILLIC ", "VZMET, TEN MILLIONS SIGN"⟩,
  ⟨0xA671, "COMBINING CYRILLIC ", "HUNDRED MILLIONS SIGN, THOUSAND MILLIONS SIGN"⟩,
  ⟨0xA673, "", "SLAVONIC ASTERISK, COMBINING CYRILLIC LETTER UKRAINIAN IE"⟩,
  ⟨0xA675, "COMBINING CYRILLIC LETTER ", "I, YI, U, HARD SIGN, YERU, SOFT SIGN, OMEGA"⟩,
  ⟨0xA67C, "", "COMBINING CYRILLIC KAVYKA, COMBINING CYRILLIC PAYEROK, CYRILLIC KAVYKA"⟩,
  ⟨0xA67F, "CYRILLIC ", "PAYEROK, CAPITAL LETTER DWE, SMALL LETTER DWE, CAPITAL LETTER DZWE"⟩,
  ⟨0xA683, "CYRILLIC ", "SMALL LETTER DZWE, CAPITAL LETTER ZHWE, SMALL LETTER ZHWE"⟩,
  ⟨0xA686, "CYRILLIC ", "CAPITAL LETTER CCHE, SMALL LETTER CCHE, CAPITAL LETTER DZZE"⟩,
  ⟨0xA689, "CYRILLIC ", "SMALL LETTER DZZE, CAPITAL LETTER TE WITH MIDDLE HOOK"⟩,
  ⟨0xA68B, "CYRILLIC ", "SMALL LETTER TE WITH MIDDLE HOOK, CAPITAL LETTER TWE"⟩,
  ⟨0xA68D, "CYRILLIC ", "SMALL LETTER TWE, CAPITAL LETTER TSWE, SMALL LETTER TSWE"⟩,
  ⟨0xA690, "CYRILLIC ", "CAPITAL LETTER TSSE, SMALL LETTER TSSE, CAPITAL LETTER TCHE"⟩,
  ⟨0xA693, "CYRILLIC ", "SMALL LETTER TCHE, CAPITAL LETTER HWE, SMALL LETTER HWE"⟩,
  ⟨0xA696, "CYRILLIC ", "CAPITAL LETTER SHWE, SMALL LETTER SHWE, CAPITAL LETTER DOUBLE O"⟩,
  ⟨0xA699, "CYRILLIC ", "SMALL LETTER DOUBLE O, CAPITAL LETTER CROSSED O, SMALL LETTER CROSSED O"⟩,
  ⟨0xA69C, "MODIFIER LETTER CYRILLIC ", "HARD SIGN, SOFT SIGN"⟩,
  ⟨0xA69E, "COMBINING CYRILLIC LETTER ", "EF, IOTIFIED E"⟩,
  ⟨0xFB00, "LATIN SMALL LIGATURE ", "FF, FI, FL, FFI, FFL, LONG S T, ST"⟩,
  ⟨0xFB13, "ARMENIAN SMALL LIGATURE ", "MEN NOW, MEN ECH, MEN INI, VEW NOW, MEN XEH"⟩,
  ⟨0xFE20, "COMBINING ", "LIGATURE LEFT HALF, LIGATURE RIGHT HALF, DOUBLE TILDE LEFT HALF"⟩,
  ⟨0xFE23, "COMBINING ", "DOUBLE TILDE RIGHT HALF, MACRON LEFT HALF, MACRON RIGHT HALF"⟩,
  ⟨0xFE26, "COMBINING ", "CONJOINING MACRON, LIGATURE LEFT HALF BELOW, LIGATURE RIGHT HALF BELOW"⟩,
  ⟨0xFE29, "COMBINING ", "TILDE LEFT HALF BELOW, TILDE RIGHT HALF BELOW, MACRON LEFT HALF BELOW"⟩,
  ⟨0xFE2C, "COMBINING ", "MACRON RIGHT HALF BELOW, CONJOINING MACRON BELOW"⟩,
  ⟨0xFE2E, "COMBINING CYRILLIC TITLO ", "LEFT HALF, RIGHT HALF"⟩,
  ⟨0x1E000, "COMBINING GLAGOLITIC LETTER ", "AZU, BUKY, VEDE, GLAGOLI, DOBRO, YESTU, ZHIVETE"⟩,
  ⟨0x1E008, "COMBINING GLAGOLITIC LETTER ", "ZEMLJA, IZHE, INITIAL IZHE"⟩,
  ⟨0x1E00B, "COMBINING GLAGOLITIC LETTER ", "I, DJERVI, KAKO, LJUDIJE, MYSLITE, NASHI"⟩,
  ⟨0x1E011, "COMBINING GLAGOLITIC LETTER ", "ONU, POKOJI, RITSI, SLOVO, TVRIDO, UKU, FRITU, HERU"⟩,
  ⟨0x1E01B, "COMBINING GLAGOLITIC LETTER ", "SHTA, TSI, CHRIVI, SHA, YERU, YERI, YATI"⟩,
  ⟨0x1E023, "COMBINING GLAGOLITIC LETTER ", "YU, SMALL YUS"⟩,
  ⟨0x1E026, "", "COMBINING GLAGOLITIC LETTER YO"⟩,
  ⟨0x1E027, "COMBINING GLAGOLITIC LETTER ", "IOTATED SMALL YUS, BIG YUS, IOTATED BIG YUS, FITA"⟩]

end BatchExec
