import BatchExec.Text.CharacterName.Row

/-!
# Mathematical symbols

The names of operators and technical symbols.
-/

namespace BatchExec

/-- The names of operators and technical symbols. -/
def mathematicalNames : List NameRow := [
  ⟨0x2200, "", "FOR ALL, COMPLEMENT, PARTIAL DIFFERENTIAL, THERE EXISTS, THERE DOES NOT EXIST"⟩,
  ⟨0x2205, "", "EMPTY SET, INCREMENT, NABLA, ELEMENT OF, NOT AN ELEMENT OF, SMALL ELEMENT OF"⟩,
  ⟨0x220B, "", "CONTAINS AS MEMBER, DOES NOT CONTAIN AS MEMBER, SMALL CONTAINS AS MEMBER"⟩,
  ⟨0x220E, "", "END OF PROOF, N-ARY PRODUCT, N-ARY COPRODUCT, N-ARY SUMMATION, MINUS SIGN"⟩,
  ⟨0x2213, "", "MINUS-OR-PLUS SIGN, DOT PLUS, DIVISION SLASH, SET MINUS, ASTERISK OPERATOR"⟩,
  ⟨0x2218, "", "RING OPERATOR, BULLET OPERATOR, SQUARE ROOT, CUBE ROOT, FOURTH ROOT"⟩,
  ⟨0x221D, "", "PROPORTIONAL TO, INFINITY, RIGHT ANGLE, ANGLE, MEASURED ANGLE, SPHERICAL ANGLE"⟩,
  ⟨0x2223, "", "DIVIDES, DOES NOT DIVIDE, PARALLEL TO, NOT PARALLEL TO, LOGICAL AND"⟩,
  ⟨0x2228, "", "LOGICAL OR, INTERSECTION, UNION, INTEGRAL, DOUBLE INTEGRAL, TRIPLE INTEGRAL"⟩,
  ⟨0x222E, "", "CONTOUR INTEGRAL, SURFACE INTEGRAL, VOLUME INTEGRAL, CLOCKWISE INTEGRAL"⟩,
  ⟨0x2232, "", "CLOCKWISE CONTOUR INTEGRAL, ANTICLOCKWISE CONTOUR INTEGRAL, THEREFORE"⟩,
  ⟨0x2235, "", "BECAUSE, RATIO, PROPORTION, DOT MINUS, EXCESS, GEOMETRIC PROPORTION, HOMOTHETIC"⟩,
  ⟨0x223C, "", "TILDE OPERATOR, REVERSED TILDE, INVERTED LAZY S, SINE WAVE, WREATH PRODUCT"⟩,
  ⟨0x2241, "", "NOT TILDE, MINUS TILDE, ASYMPTOTICALLY EQUAL TO, NOT ASYMPTOTICALLY EQUAL TO"⟩,
  ⟨0x2245, "APPROXIMATELY ", "EQUAL TO, BUT NOT ACTUALLY EQUAL TO"⟩,
  ⟨0x2247, "", "NEITHER APPROXIMATELY NOR ACTUALLY EQUAL TO"⟩,
  ⟨0x2248, "", "ALMOST EQUAL TO, NOT ALMOST EQUAL TO, ALMOST EQUAL OR EQUAL TO"⟩,
  ⟨0x224B, "", "TRIPLE TILDE, ALL EQUAL TO, EQUIVALENT TO, GEOMETRICALLY EQUIVALENT TO"⟩,
  ⟨0x224F, "", "DIFFERENCE BETWEEN, APPROACHES THE LIMIT, GEOMETRICALLY EQUAL TO"⟩,
  ⟨0x2252, "", "APPROXIMATELY EQUAL TO OR THE IMAGE OF, IMAGE OF OR APPROXIMATELY EQUAL TO"⟩,
  ⟨0x2254, "", "COLON EQUALS, EQUALS COLON, RING IN EQUAL TO, RING EQUAL TO"⟩,
  ⟨0x2258, "", "CORRESPONDS TO, ESTIMATES, EQUIANGULAR TO, STAR EQUALS, DELTA EQUAL TO"⟩,
  ⟨0x225D, "", "EQUAL TO BY DEFINITION, MEASURED BY, QUESTIONED EQUAL TO, NOT EQUAL TO"⟩,
  ⟨0x2261, "", "IDENTICAL TO, NOT IDENTICAL TO, STRICTLY EQUIVALENT TO, LESS-THAN OR EQUAL TO"⟩,
  ⟨0x2265, "", "GREATER-THAN OR EQUAL TO, LESS-THAN OVER EQUAL TO, GREATER-THAN OVER EQUAL TO"⟩,
  ⟨0x2268, "", "LESS-THAN BUT NOT EQUAL TO, GREATER-THAN BUT NOT EQUAL TO, MUCH LESS-THAN"⟩,
  ⟨0x226B, "", "MUCH GREATER-THAN, BETWEEN, NOT EQUIVALENT TO, NOT LESS-THAN, NOT GREATER-THAN"⟩,
  ⟨0x2270, "NEITHER ", "LESS-THAN NOR EQUAL TO, GREATER-THAN NOR EQUAL TO"⟩,
  ⟨0x2272, "", "LESS-THAN OR EQUIVALENT TO, GREATER-THAN OR EQUIVALENT TO"⟩,
  ⟨0x2274, "NEITHER ", "LESS-THAN NOR EQUIVALENT TO, GREATER-THAN NOR EQUIVALENT TO"⟩,
  ⟨0x2276, "", "LESS-THAN OR GREATER-THAN, GREATER-THAN OR LESS-THAN"⟩,
  ⟨0x2278, "NEITHER ", "LESS-THAN NOR GREATER-THAN, GREATER-THAN NOR LESS-THAN"⟩,
  ⟨0x227A, "", "PRECEDES, SUCCEEDS, PRECEDES OR EQUAL TO, SUCCEEDS OR EQUAL TO"⟩,
  ⟨0x227E, "", "PRECEDES OR EQUIVALENT TO, SUCCEEDS OR EQUIVALENT TO, DOES NOT PRECEDE"⟩,
  ⟨0x2281, "", "DOES NOT SUCCEED, SUBSET OF, SUPERSET OF, NOT A SUBSET OF, NOT A SUPERSET OF"⟩,
  ⟨0x2286, "", "SUBSET OF OR EQUAL TO, SUPERSET OF OR EQUAL TO, NEITHER A SUBSET OF NOR EQUAL TO"⟩,
  ⟨0x2289, "", "NEITHER A SUPERSET OF NOR EQUAL TO, SUBSET OF WITH NOT EQUAL TO"⟩,
  ⟨0x228B, "", "SUPERSET OF WITH NOT EQUAL TO, MULTISET, MULTISET MULTIPLICATION, MULTISET UNION"⟩,
  ⟨0x228F, "SQUARE ", "IMAGE OF, ORIGINAL OF, IMAGE OF OR EQUAL TO, ORIGINAL OF OR EQUAL TO"⟩,
  ⟨0x2293, "", "SQUARE CAP, SQUARE CUP, CIRCLED PLUS, CIRCLED MINUS, CIRCLED TIMES"⟩,
  ⟨0x2298, "CIRCLED ", "DIVISION SLASH, DOT OPERATOR, RING OPERATOR, ASTERISK OPERATOR, EQUALS"⟩,
  ⟨0x229D, "", "CIRCLED DASH, SQUARED PLUS, SQUARED MINUS, SQUARED TIMES, SQUARED DOT OPERATOR"⟩,
  ⟨0x22A2, "", "RIGHT TACK, LEFT TACK, DOWN TACK, UP TACK, ASSERTION, MODELS, TRUE, FORCES"⟩,
  ⟨0x22AA, "", "TRIPLE VERTICAL BAR RIGHT TURNSTILE, DOUBLE VERTICAL BAR DOUBLE RIGHT TURNSTILE"⟩,
  ⟨0x22AC, "", "DOES NOT PROVE, NOT TRUE, DOES NOT FORCE"⟩,
  ⟨0x22AF, "", "NEGATED DOUBLE VERTICAL BAR DOUBLE RIGHT TURNSTILE, PRECEDES UNDER RELATION"⟩,
  ⟨0x22B1, "", "SUCCEEDS UNDER RELATION, NORMAL SUBGROUP OF, CONTAINS AS NORMAL SUBGROUP"⟩,
  ⟨0x22B4, "", "NORMAL SUBGROUP OF OR EQUAL TO, CONTAINS AS NORMAL SUBGROUP OR EQUAL TO"⟩,
  ⟨0x22B6, "", "ORIGINAL OF, IMAGE OF, MULTIMAP, HERMITIAN CONJUGATE MATRIX, INTERCALATE"⟩,
  ⟨0x22BB, "", "XOR, NAND, NOR, RIGHT ANGLE WITH ARC, RIGHT TRIANGLE, N-ARY LOGICAL AND"⟩,
  ⟨0x22C1, "", "N-ARY LOGICAL OR, N-ARY INTERSECTION, N-ARY UNION, DIAMOND OPERATOR, DOT OPERATOR"⟩,
  ⟨0x22C6, "", "STAR OPERATOR, DIVISION TIMES, BOWTIE, LEFT NORMAL FACTOR SEMIDIRECT PRODUCT"⟩,
  ⟨0x22CA, "", "RIGHT NORMAL FACTOR SEMIDIRECT PRODUCT, LEFT SEMIDIRECT PRODUCT"⟩,
  ⟨0x22CC, "", "RIGHT SEMIDIRECT PRODUCT, REVERSED TILDE EQUALS, CURLY LOGICAL OR"⟩,
  ⟨0x22CF, "", "CURLY LOGICAL AND, DOUBLE SUBSET, DOUBLE SUPERSET, DOUBLE INTERSECTION"⟩,
  ⟨0x22D3, "", "DOUBLE UNION, PITCHFORK, EQUAL AND PARALLEL TO, LESS-THAN WITH DOT"⟩,
  ⟨0x22D7, "", "GREATER-THAN WITH DOT, VERY MUCH LESS-THAN, VERY MUCH GREATER-THAN"⟩,
  ⟨0x22DA, "", "LESS-THAN EQUAL TO OR GREATER-THAN, GREATER-THAN EQUAL TO OR LESS-THAN"⟩,
  ⟨0x22DC, "EQUAL TO OR ", "LESS-THAN, GREATER-THAN, PRECEDES"⟩,
  ⟨0x22DF, "", "EQUAL TO OR SUCCEEDS, DOES NOT PRECEDE OR EQUAL, DOES NOT SUCCEED OR EQUAL"⟩,
  ⟨0x22E2, "NOT SQUARE ", "IMAGE OF OR EQUAL TO, ORIGINAL OF OR EQUAL TO"⟩,
  ⟨0x22E4, "SQUARE ", "IMAGE OF OR NOT EQUAL TO, ORIGINAL OF OR NOT EQUAL TO"⟩,
  ⟨0x22E6, "", "LESS-THAN BUT NOT EQUIVALENT TO, GREATER-THAN BUT NOT EQUIVALENT TO"⟩,
  ⟨0x22E8, "", "PRECEDES BUT NOT EQUIVALENT TO, SUCCEEDS BUT NOT EQUIVALENT TO"⟩,
  ⟨0x22EA, "", "NOT NORMAL SUBGROUP OF, DOES NOT CONTAIN AS NORMAL SUBGROUP"⟩,
  ⟨0x22EC, "", "NOT NORMAL SUBGROUP OF OR EQUAL TO, DOES NOT CONTAIN AS NORMAL SUBGROUP OR EQUAL"⟩,
  ⟨0x22EE, "", "VERTICAL ELLIPSIS, MIDLINE HORIZONTAL ELLIPSIS"⟩,
  ⟨0x22F0, "", "UP RIGHT DIAGONAL ELLIPSIS, DOWN RIGHT DIAGONAL ELLIPSIS"⟩,
  ⟨0x22F2, "ELEMENT OF WITH ", "LONG HORIZONTAL STROKE, VERTICAL BAR AT END OF HORIZONTAL STROKE"⟩,
  ⟨0x22F4, "", "SMALL ELEMENT OF WITH VERTICAL BAR AT END OF HORIZONTAL STROKE"⟩,
  ⟨0x22F5, "", "ELEMENT OF WITH DOT ABOVE, ELEMENT OF WITH OVERBAR, SMALL ELEMENT OF WITH OVERBAR"⟩,
  ⟨0x22F8, "ELEMENT OF WITH ", "UNDERBAR, TWO HORIZONTAL STROKES"⟩,
  ⟨0x22FA, "CONTAINS WITH ", "LONG HORIZONTAL STROKE, VERTICAL BAR AT END OF HORIZONTAL STROKE"⟩,
  ⟨0x22FC, "", "SMALL CONTAINS WITH VERTICAL BAR AT END OF HORIZONTAL STROKE"⟩,
  ⟨0x22FD, "", "CONTAINS WITH OVERBAR, SMALL CONTAINS WITH OVERBAR"⟩,
  ⟨0x22FF, "", "Z NOTATION BAG MEMBERSHIP, DIAMETER SIGN, ELECTRIC ARROW, HOUSE"⟩,
  ⟨0x2303, "", "UP ARROWHEAD, DOWN ARROWHEAD, PROJECTIVE, PERSPECTIVE, WAVY LINE, LEFT CEILING"⟩,
  ⟨0x2309, "", "RIGHT CEILING, LEFT FLOOR, RIGHT FLOOR, BOTTOM RIGHT CROP, BOTTOM LEFT CROP"⟩,
  ⟨0x230E, "", "TOP RIGHT CROP, TOP LEFT CROP, REVERSED NOT SIGN, SQUARE LOZENGE"⟩,
  ⟨0x2312, "", "ARC, SEGMENT, SECTOR, TELEPHONE RECORDER, POSITION INDICATOR, VIEWDATA SQUARE"⟩,
  ⟨0x2318, "", "PLACE OF INTEREST SIGN, TURNED NOT SIGN, WATCH, HOURGLASS, TOP LEFT CORNER"⟩,
  ⟨0x231D, "", "TOP RIGHT CORNER, BOTTOM LEFT CORNER, BOTTOM RIGHT CORNER, TOP HALF INTEGRAL"⟩,
  ⟨0x2321, "", "BOTTOM HALF INTEGRAL, FROWN, SMILE, UP ARROWHEAD BETWEEN TWO HORIZONTAL BARS"⟩,
  ⟨0x2325, "", "OPTION KEY, ERASE TO THE RIGHT, X IN A RECTANGLE BOX"⟩,
  ⟨0x2328, "", "KEYBOARD, LEFT-POINTING ANGLE BRACKET, RIGHT-POINTING ANGLE BRACKET"⟩,
  ⟨0x232B, "", "ERASE TO THE LEFT, BENZENE RING, CYLINDRICITY, ALL AROUND-PROFILE"⟩,
  ⟨0x232F, "", "SYMMETRY, TOTAL RUNOUT, DIMENSION ORIGIN, CONICAL TAPER, SLOPE, COUNTERBORE"⟩,
  ⟨0x2335, "", "COUNTERSINK, APL FUNCTIONAL SYMBOL I-BEAM, APL FUNCTIONAL SYMBOL SQUISH QUAD"⟩,
  ⟨0x2338, "APL FUNCTIONAL SYMBOL QUAD ", "EQUAL, DIVIDE, DIAMOND, JOT, CIRCLE"⟩,
  ⟨0x233D, "APL FUNCTIONAL SYMBOL ", "CIRCLE STILE, CIRCLE JOT, SLASH BAR, BACKSLASH BAR"⟩,
  ⟨0x2341, "APL FUNCTIONAL SYMBOL QUAD ", "SLASH, BACKSLASH, LESS-THAN, GREATER-THAN"⟩,
  ⟨0x2345, "APL FUNCTIONAL SYMBOL ", "LEFTWARDS VANE, RIGHTWARDS VANE, QUAD LEFTWARDS ARROW"⟩,
  ⟨0x2348, "APL FUNCTIONAL SYMBOL ", "QUAD RIGHTWARDS ARROW, CIRCLE BACKSLASH"⟩,
  ⟨0x234A, "APL FUNCTIONAL SYMBOL ", "DOWN TACK UNDERBAR, DELTA STILE, QUAD DOWN CARET"⟩,
  ⟨0x234D, "APL FUNCTIONAL SYMBOL ", "QUAD DELTA, DOWN TACK JOT, UPWARDS VANE, QUAD UPWARDS ARROW"⟩,
  ⟨0x2351, "APL FUNCTIONAL SYMBOL ", "UP TACK OVERBAR, DEL STILE, QUAD UP CARET"⟩,
  ⟨0x2354, "APL FUNCTIONAL SYMBOL ", "QUAD DEL, UP TACK JOT, DOWNWARDS VANE, QUAD DOWNWARDS ARROW"⟩,
  ⟨0x2358, "APL FUNCTIONAL SYMBOL ", "QUOTE UNDERBAR, DELTA UNDERBAR, DIAMOND UNDERBAR"⟩,
  ⟨0x235B, "APL FUNCTIONAL SYMBOL ", "JOT UNDERBAR, CIRCLE UNDERBAR, UP SHOE JOT"⟩,
  ⟨0x235E, "APL FUNCTIONAL SYMBOL ", "QUOTE QUAD, CIRCLE STAR, QUAD COLON, UP TACK DIAERESIS"⟩,
  ⟨0x2362, "APL FUNCTIONAL SYMBOL ", "DEL DIAERESIS, STAR DIAERESIS, JOT DIAERESIS"⟩,
  ⟨0x2365, "APL FUNCTIONAL SYMBOL ", "CIRCLE DIAERESIS, DOWN SHOE STILE, LEFT SHOE STILE"⟩,
  ⟨0x2368, "APL FUNCTIONAL SYMBOL ", "TILDE DIAERESIS, GREATER-THAN DIAERESIS, COMMA BAR"⟩,
  ⟨0x236B, "APL FUNCTIONAL SYMBOL ", "DEL TILDE, ZILDE, STILE TILDE, SEMICOLON UNDERBAR"⟩,
  ⟨0x236F, "APL FUNCTIONAL SYMBOL ", "QUAD NOT EQUAL, QUAD QUESTION, DOWN CARET TILDE"⟩,
  ⟨0x2372, "APL FUNCTIONAL SYMBOL ", "UP CARET TILDE, IOTA, RHO, OMEGA, ALPHA UNDERBAR"⟩,
  ⟨0x2377, "APL FUNCTIONAL SYMBOL ", "EPSILON UNDERBAR, IOTA UNDERBAR, OMEGA UNDERBAR, ALPHA"⟩,
  ⟨0x237B, "", "NOT CHECK MARK, RIGHT ANGLE WITH DOWNWARDS ZIGZAG ARROW"⟩,
  ⟨0x237D, "", "SHOULDERED OPEN BOX, BELL SYMBOL, VERTICAL LINE WITH MIDDLE DOT, INSERTION SYMBOL"⟩,
  ⟨0x2381, "", "CONTINUOUS UNDERLINE SYMBOL, DISCONTINUOUS UNDERLINE SYMBOL, EMPHASIS SYMBOL"⟩,
  ⟨0x2384, "", "COMPOSITION SYMBOL, WHITE SQUARE WITH CENTRE VERTICAL LINE, ENTER SYMBOL"⟩,
  ⟨0x2387, "", "ALTERNATIVE KEY SYMBOL, HELM SYMBOL, CIRCLED HORIZONTAL BAR WITH NOTCH"⟩,
  ⟨0x238A, "", "CIRCLED TRIANGLE DOWN, BROKEN CIRCLE WITH NORTHWEST ARROW"⟩,
  ⟨0x238C, "", "UNDO SYMBOL, MONOSTABLE SYMBOL, HYSTERESIS SYMBOL"⟩,
  ⟨0x238F, "OPEN-CIRCUIT-OUTPUT ", "H-TYPE SYMBOL, L-TYPE SYMBOL"⟩,
  ⟨0x2391, "PASSIVE-PULL-", "DOWN-OUTPUT SYMBOL, UP-OUTPUT SYMBOL"⟩,
  ⟨0x2393, "", "DIRECT CURRENT SYMBOL FORM TWO, SOFTWARE-FUNCTION SYMBOL"⟩,
  ⟨0x2395, "", "APL FUNCTIONAL SYMBOL QUAD, DECIMAL SEPARATOR KEY SYMBOL"⟩,
  ⟨0x2397, "", "PREVIOUS PAGE, NEXT PAGE, PRINT SCREEN SYMBOL, CLEAR SCREEN SYMBOL"⟩,
  ⟨0x239B, "LEFT PARENTHESIS ", "UPPER HOOK, EXTENSION, LOWER HOOK"⟩,
  ⟨0x239E, "RIGHT PARENTHESIS ", "UPPER HOOK, EXTENSION, LOWER HOOK"⟩,
  ⟨0x23A1, "LEFT SQUARE BRACKET ", "UPPER CORNER, EXTENSION, LOWER CORNER"⟩,
  ⟨0x23A4, "RIGHT SQUARE BRACKET ", "UPPER CORNER, EXTENSION, LOWER CORNER"⟩,
  ⟨0x23A7, "LEFT CURLY BRACKET ", "UPPER HOOK, MIDDLE PIECE"⟩,
  ⟨0x23A9, "", "LEFT CURLY BRACKET LOWER HOOK, CURLY BRACKET EXTENSION"⟩,
  ⟨0x23AB, "RIGHT CURLY BRACKET ", "UPPER HOOK, MIDDLE PIECE"⟩,
  ⟨0x23AD, "", "RIGHT CURLY BRACKET LOWER HOOK, INTEGRAL EXTENSION"⟩,
  ⟨0x23AF, "", "HORIZONTAL LINE EXTENSION, UPPER LEFT OR LOWER RIGHT CURLY BRACKET SECTION"⟩,
  ⟨0x23B1, "", "UPPER RIGHT OR LOWER LEFT CURLY BRACKET SECTION"⟩,
  ⟨0x23B2, "", "SUMMATION TOP, SUMMATION BOTTOM, TOP SQUARE BRACKET"⟩,
  ⟨0x23B5, "BOTTOM SQUARE ", "BRACKET, BRACKET OVER TOP SQUARE BRACKET"⟩,
  ⟨0x23B7, "", "RADICAL SYMBOL BOTTOM, LEFT VERTICAL BOX LINE, RIGHT VERTICAL BOX LINE"⟩,
  ⟨0x23BA, "HORIZONTAL SCAN LINE-", "1, 3, 7, 9"⟩,
  ⟨0x23BE, "DENTISTRY SYMBOL LIGHT VERTICAL AND ", "TOP RIGHT, BOTTOM RIGHT"⟩,
  ⟨0x23C0, "DENTISTRY SYMBOL LIGHT ", "VERTICAL WITH CIRCLE, DOWN AND HORIZONTAL WITH CIRCLE"⟩,
  ⟨0x23C2, "", "DENTISTRY SYMBOL LIGHT UP AND HORIZONTAL WITH CIRCLE"⟩,
  ⟨0x23C3, "DENTISTRY SYMBOL LIGHT ", "VERTICAL WITH TRIANGLE, DOWN AND HORIZONTAL WITH TRIANGLE"⟩,
  ⟨0x23C5, "DENTISTRY SYMBOL LIGHT ", "UP AND HORIZONTAL WITH TRIANGLE, VERTICAL AND WAVE"⟩,
  ⟨0x23C7, "DENTISTRY SYMBOL LIGHT ", "DOWN AND HORIZONTAL WITH WAVE, UP AND HORIZONTAL WITH WAVE"⟩,
  ⟨0x23C9, "DENTISTRY SYMBOL LIGHT ", "DOWN AND HORIZONTAL, UP AND HORIZONTAL"⟩,
  ⟨0x23CB, "DENTISTRY SYMBOL LIGHT VERTICAL AND ", "TOP LEFT, BOTTOM LEFT"⟩,
  ⟨0x23CD, "", "SQUARE FOOT, RETURN SYMBOL, EJECT SYMBOL, VERTICAL LINE EXTENSION"⟩,
  ⟨0x23D1, "METRICAL ", "BREVE, LONG OVER SHORT, SHORT OVER LONG, LONG OVER TWO SHORTS"⟩,
  ⟨0x23D5, "METRICAL ", "TWO SHORTS OVER LONG, TWO SHORTS JOINED, TRISEME, TETRASEME, PENTASEME"⟩,
  ⟨0x23DA, "", "EARTH GROUND, FUSE, TOP PARENTHESIS, BOTTOM PARENTHESIS, TOP CURLY BRACKET"⟩,
  ⟨0x23DF, "", "BOTTOM CURLY BRACKET, TOP TORTOISE SHELL BRACKET, BOTTOM TORTOISE SHELL BRACKET"⟩,
  ⟨0x23E2, "", "WHITE TRAPEZIUM, BENZENE RING WITH CIRCLE, STRAIGHTNESS"⟩,
  ⟨0x23E5, "", "FLATNESS, AC CURRENT, ELECTRICAL INTERSECTION, DECIMAL EXPONENT SYMBOL"⟩,
  ⟨0x23E9, "BLACK ", "RIGHT-POINTING DOUBLE TRIANGLE, LEFT-POINTING DOUBLE TRIANGLE"⟩,
  ⟨0x23EB, "BLACK ", "UP-POINTING DOUBLE TRIANGLE, DOWN-POINTING DOUBLE TRIANGLE"⟩,
  ⟨0x23ED, "", "BLACK RIGHT-POINTING DOUBLE TRIANGLE WITH VERTICAL BAR"⟩,
  ⟨0x23EE, "", "BLACK LEFT-POINTING DOUBLE TRIANGLE WITH VERTICAL BAR"⟩,
  ⟨0x23EF, "", "BLACK RIGHT-POINTING TRIANGLE WITH DOUBLE VERTICAL BAR"⟩,
  ⟨0x23F0, "", "ALARM CLOCK, STOPWATCH, TIMER CLOCK, HOURGLASS WITH FLOWING SAND"⟩,
  ⟨0x23F4, "BLACK MEDIUM ", "LEFT-POINTING TRIANGLE, RIGHT-POINTING TRIANGLE"⟩,
  ⟨0x23F6, "BLACK MEDIUM ", "UP-POINTING TRIANGLE, DOWN-POINTING TRIANGLE"⟩,
  ⟨0x23F8, "", "DOUBLE VERTICAL BAR, BLACK SQUARE FOR STOP, BLACK CIRCLE FOR RECORD, POWER SYMBOL"⟩,
  ⟨0x23FC, "", "POWER ON-OFF SYMBOL, POWER ON SYMBOL, POWER SLEEP SYMBOL, OBSERVER EYE SYMBOL"⟩,
  ⟨0x27C0, "", "THREE DIMENSIONAL ANGLE"⟩,
  ⟨0x27C1, "", "WHITE TRIANGLE CONTAINING SMALL WHITE TRIANGLE, PERPENDICULAR, OPEN SUBSET"⟩,
  ⟨0x27C4, "", "OPEN SUPERSET, LEFT S-SHAPED BAG DELIMITER, RIGHT S-SHAPED BAG DELIMITER"⟩,
  ⟨0x27C7, "", "OR WITH DOT INSIDE, REVERSE SOLIDUS PRECEDING SUBSET, SUPERSET PRECEDING SOLIDUS"⟩,
  ⟨0x27CA, "", "VERTICAL BAR WITH HORIZONTAL STROKE, MATHEMATICAL RISING DIAGONAL, LONG DIVISION"⟩,
  ⟨0x27CD, "", "MATHEMATICAL FALLING DIAGONAL, SQUARED LOGICAL AND, SQUARED LOGICAL OR"⟩,
  ⟨0x27D0, "", "WHITE DIAMOND WITH CENTRED DOT, AND WITH DOT, ELEMENT OF OPENING UPWARDS"⟩,
  ⟨0x27D3, "", "LOWER RIGHT CORNER WITH DOT, UPPER LEFT CORNER WITH DOT"⟩,
  ⟨0x27D5, "", "LEFT OUTER JOIN, RIGHT OUTER JOIN, FULL OUTER JOIN, LARGE UP TACK"⟩,
  ⟨0x27D9, "", "LARGE DOWN TACK, LEFT AND RIGHT DOUBLE TURNSTILE, LEFT AND RIGHT TACK"⟩,
  ⟨0x27DC, "", "LEFT MULTIMAP, LONG RIGHT TACK, LONG LEFT TACK, UP TACK WITH CIRCLE ABOVE"⟩,
  ⟨0x27E0, "", "LOZENGE DIVIDED BY HORIZONTAL RULE, WHITE CONCAVE-SIDED DIAMOND"⟩,
  ⟨0x27E2, "WHITE CONCAVE-SIDED DIAMOND WITH ", "LEFTWARDS TICK, RIGHTWARDS TICK"⟩,
  ⟨0x27E4, "WHITE SQUARE WITH ", "LEFTWARDS TICK, RIGHTWARDS TICK"⟩,
  ⟨0x27E6, "MATHEMATICAL ", "LEFT WHITE SQUARE BRACKET, RIGHT WHITE SQUARE BRACKET"⟩,
  ⟨0x27E8, "MATHEMATICAL ", "LEFT ANGLE BRACKET, RIGHT ANGLE BRACKET, LEFT DOUBLE ANGLE BRACKET"⟩,
  ⟨0x27EB, "MATHEMATICAL ", "RIGHT DOUBLE ANGLE BRACKET, LEFT WHITE TORTOISE SHELL BRACKET"⟩,
  ⟨0x27ED, "", "MATHEMATICAL RIGHT WHITE TORTOISE SHELL BRACKET"⟩,
  ⟨0x27EE, "MATHEMATICAL ", "LEFT FLATTENED PARENTHESIS, RIGHT FLATTENED PARENTHESIS"⟩,
  ⟨0x2900, "RIGHTWARDS TWO-HEADED ARROW WITH ", "VERTICAL STROKE, DOUBLE VERTICAL STROKE"⟩,
  ⟨0x2902, "", "LEFTWARDS DOUBLE ARROW WITH VERTICAL STROKE"⟩,
  ⟨0x2903, "", "RIGHTWARDS DOUBLE ARROW WITH VERTICAL STROKE"⟩,
  ⟨0x2904, "", "LEFT RIGHT DOUBLE ARROW WITH VERTICAL STROKE"⟩,
  ⟨0x2905, "", "RIGHTWARDS TWO-HEADED ARROW FROM BAR"⟩,
  ⟨0x2906, "", "LEFTWARDS DOUBLE ARROW FROM BAR, RIGHTWARDS DOUBLE ARROW FROM BAR"⟩,
  ⟨0x2908, "", "DOWNWARDS ARROW WITH HORIZONTAL STROKE, UPWARDS ARROW WITH HORIZONTAL STROKE"⟩,
  ⟨0x290A, "", "UPWARDS TRIPLE ARROW, DOWNWARDS TRIPLE ARROW, LEFTWARDS DOUBLE DASH ARROW"⟩,
  ⟨0x290D, "", "RIGHTWARDS DOUBLE DASH ARROW, LEFTWARDS TRIPLE DASH ARROW"⟩,
  ⟨0x290F, "RIGHTWARDS ", "TRIPLE DASH ARROW, TWO-HEADED TRIPLE DASH ARROW"⟩,
  ⟨0x2911, "", "RIGHTWARDS ARROW WITH DOTTED STEM, UPWARDS ARROW TO BAR, DOWNWARDS ARROW TO BAR"⟩,
  ⟨0x2914, "RIGHTWARDS ARROW WITH TAIL WITH ", "VERTICAL STROKE, DOUBLE VERTICAL STROKE"⟩,
  ⟨0x2916, "RIGHTWARDS TWO-HEADED ARROW WITH ", "TAIL, TAIL WITH VERTICAL STROKE"⟩,
  ⟨0x2918, "", "RIGHTWARDS TWO-HEADED ARROW WITH TAIL WITH DOUBLE VERTICAL STROKE"⟩,
  ⟨0x2919, "", "LEFTWARDS ARROW-TAIL, RIGHTWARDS ARROW-TAIL, LEFTWARDS DOUBLE ARROW-TAIL"⟩,
  ⟨0x291C, "", "RIGHTWARDS DOUBLE ARROW-TAIL, LEFTWARDS ARROW TO BLACK DIAMOND"⟩,
  ⟨0x291E, "", "RIGHTWARDS ARROW TO BLACK DIAMOND, LEFTWARDS ARROW FROM BAR TO BLACK DIAMOND"⟩,
  ⟨0x2920, "", "RIGHTWARDS ARROW FROM BAR TO BLACK DIAMOND"⟩,
  ⟨0x2921, "NORTH ", "WEST AND SOUTH EAST ARROW, EAST AND SOUTH WEST ARROW, WEST ARROW WITH HOOK"⟩,
  ⟨0x2924, "", "NORTH EAST ARROW WITH HOOK, SOUTH EAST ARROW WITH HOOK"⟩,
  ⟨0x2926, "", "SOUTH WEST ARROW WITH HOOK, NORTH WEST ARROW AND NORTH EAST ARROW"⟩,
  ⟨0x2928, "", "NORTH EAST ARROW AND SOUTH EAST ARROW, SOUTH EAST ARROW AND SOUTH WEST ARROW"⟩,
  ⟨0x292A, "", "SOUTH WEST ARROW AND NORTH WEST ARROW, RISING DIAGONAL CROSSING FALLING DIAGONAL"⟩,
  ⟨0x292C, "", "FALLING DIAGONAL CROSSING RISING DIAGONAL"⟩,
  ⟨0x292D, "", "SOUTH EAST ARROW CROSSING NORTH EAST ARROW"⟩,
  ⟨0x292E, "", "NORTH EAST ARROW CROSSING SOUTH EAST ARROW"⟩,
  ⟨0x292F, "", "FALLING DIAGONAL CROSSING NORTH EAST ARROW"⟩,
  ⟨0x2930, "", "RISING DIAGONAL CROSSING SOUTH EAST ARROW"⟩,
  ⟨0x2931, "", "NORTH EAST ARROW CROSSING NORTH WEST ARROW"⟩,
  ⟨0x2932, "", "NORTH WEST ARROW CROSSING NORTH EAST ARROW, WAVE ARROW POINTING DIRECTLY RIGHT"⟩,
  ⟨0x2934, "ARROW POINTING RIGHTWARDS THEN CURVING ", "UPWARDS, DOWNWARDS"⟩,
  ⟨0x2936, "", "ARROW POINTING DOWNWARDS THEN CURVING LEFTWARDS"⟩,
  ⟨0x2937, "", "ARROW POINTING DOWNWARDS THEN CURVING RIGHTWARDS, RIGHT-SIDE ARC CLOCKWISE ARROW"⟩,
  ⟨0x2939, "", "LEFT-SIDE ARC ANTICLOCKWISE ARROW, TOP ARC ANTICLOCKWISE ARROW"⟩,
  ⟨0x293B, "", "BOTTOM ARC ANTICLOCKWISE ARROW, TOP ARC CLOCKWISE ARROW WITH MINUS"⟩,
  ⟨0x293D, "", "TOP ARC ANTICLOCKWISE ARROW WITH PLUS, LOWER RIGHT SEMICIRCULAR CLOCKWISE ARROW"⟩,
  ⟨0x293F, "", "LOWER LEFT SEMICIRCULAR ANTICLOCKWISE ARROW, ANTICLOCKWISE CLOSED CIRCLE ARROW"⟩,
  ⟨0x2941, "", "CLOCKWISE CLOSED CIRCLE ARROW, RIGHTWARDS ARROW ABOVE SHORT LEFTWARDS ARROW"⟩,
  ⟨0x2943, "", "LEFTWARDS ARROW ABOVE SHORT RIGHTWARDS ARROW"⟩,
  ⟨0x2944, "", "SHORT RIGHTWARDS ARROW ABOVE LEFTWARDS ARROW, RIGHTWARDS ARROW WITH PLUS BELOW"⟩,
  ⟨0x2946, "", "LEFTWARDS ARROW WITH PLUS BELOW, RIGHTWARDS ARROW THROUGH X"⟩,
  ⟨0x2948, "", "LEFT RIGHT ARROW THROUGH SMALL CIRCLE, UPWARDS TWO-HEADED ARROW FROM SMALL CIRCLE"⟩,
  ⟨0x294A, "LEFT BARB ", "UP RIGHT BARB DOWN HARPOON, DOWN RIGHT BARB UP HARPOON"⟩,
  ⟨0x294C, "UP BARB ", "RIGHT DOWN BARB LEFT HARPOON, LEFT DOWN BARB RIGHT HARPOON"⟩,
  ⟨0x294E, "", "LEFT BARB UP RIGHT BARB UP HARPOON, UP BARB RIGHT DOWN BARB RIGHT HARPOON"⟩,
  ⟨0x2950, "", "LEFT BARB DOWN RIGHT BARB DOWN HARPOON, UP BARB LEFT DOWN BARB LEFT HARPOON"⟩,
  ⟨0x2952, "", "LEFTWARDS HARPOON WITH BARB UP TO BAR, RIGHTWARDS HARPOON WITH BARB UP TO BAR"⟩,
  ⟨0x2954, "", "UPWARDS HARPOON WITH BARB RIGHT TO BAR, DOWNWARDS HARPOON WITH BARB RIGHT TO BAR"⟩,
  ⟨0x2956, "", "LEFTWARDS HARPOON WITH BARB DOWN TO BAR, RIGHTWARDS HARPOON WITH BARB DOWN TO BAR"⟩,
  ⟨0x2958, "", "UPWARDS HARPOON WITH BARB LEFT TO BAR, DOWNWARDS HARPOON WITH BARB LEFT TO BAR"⟩,
  ⟨0x295A, "", "LEFTWARDS HARPOON WITH BARB UP FROM BAR, RIGHTWARDS HARPOON WITH BARB UP FROM BAR"⟩,
  ⟨0x295C, "", "UPWARDS HARPOON WITH BARB RIGHT FROM BAR"⟩,
  ⟨0x295D, "", "DOWNWARDS HARPOON WITH BARB RIGHT FROM BAR"⟩,
  ⟨0x295E, "", "LEFTWARDS HARPOON WITH BARB DOWN FROM BAR"⟩,
  ⟨0x295F, "", "RIGHTWARDS HARPOON WITH BARB DOWN FROM BAR"⟩,
  ⟨0x2960, "", "UPWARDS HARPOON WITH BARB LEFT FROM BAR"⟩,
  ⟨0x2961, "", "DOWNWARDS HARPOON WITH BARB LEFT FROM BAR"⟩,
  ⟨0x2962, "", "LEFTWARDS HARPOON WITH BARB UP ABOVE LEFTWARDS HARPOON WITH BARB DOWN"⟩,
  ⟨0x2963, "", "UPWARDS HARPOON WITH BARB LEFT BESIDE UPWARDS HARPOON WITH BARB RIGHT"⟩,
  ⟨0x2964, "", "RIGHTWARDS HARPOON WITH BARB UP ABOVE RIGHTWARDS HARPOON WITH BARB DOWN"⟩,
  ⟨0x2965, "", "DOWNWARDS HARPOON WITH BARB LEFT BESIDE DOWNWARDS HARPOON WITH BARB RIGHT"⟩,
  ⟨0x2966, "", "LEFTWARDS HARPOON WITH BARB UP ABOVE RIGHTWARDS HARPOON WITH BARB UP"⟩,
  ⟨0x2967, "", "LEFTWARDS HARPOON WITH BARB DOWN ABOVE RIGHTWARDS HARPOON WITH BARB DOWN"⟩,
  ⟨0x2968, "", "RIGHTWARDS HARPOON WITH BARB UP ABOVE LEFTWARDS HARPOON WITH BARB UP"⟩,
  ⟨0x2969, "", "RIGHTWARDS HARPOON WITH BARB DOWN ABOVE LEFTWARDS HARPOON WITH BARB DOWN"⟩,
  ⟨0x296A, "LEFTWARDS HARPOON WITH BARB ", "UP ABOVE LONG DASH, DOWN BELOW LONG DASH"⟩,
  ⟨0x296C, "RIGHTWARDS HARPOON WITH BARB ", "UP ABOVE LONG DASH, DOWN BELOW LONG DASH"⟩,
  ⟨0x296E, "", "UPWARDS HARPOON WITH BARB LEFT BESIDE DOWNWARDS HARPOON WITH BARB RIGHT"⟩,
  ⟨0x296F, "", "DOWNWARDS HARPOON WITH BARB LEFT BESIDE UPWARDS HARPOON WITH BARB RIGHT"⟩,
  ⟨0x2970, "", "RIGHT DOUBLE ARROW WITH ROUNDED HEAD, EQUALS SIGN ABOVE RIGHTWARDS ARROW"⟩,
  ⟨0x2972, "", "TILDE OPERATOR ABOVE RIGHTWARDS ARROW, LEFTWARDS ARROW ABOVE TILDE OPERATOR"⟩,
  ⟨0x2974, "RIGHTWARDS ARROW ABOVE ", "TILDE OPERATOR, ALMOST EQUAL TO"⟩,
  ⟨0x2976, "", "LESS-THAN ABOVE LEFTWARDS ARROW, LEFTWARDS ARROW THROUGH LESS-THAN"⟩,
  ⟨0x2978, "", "GREATER-THAN ABOVE RIGHTWARDS ARROW, SUBSET ABOVE RIGHTWARDS ARROW"⟩,
  ⟨0x297A, "", "LEFTWARDS ARROW THROUGH SUBSET, SUPERSET ABOVE LEFTWARDS ARROW, LEFT FISH TAIL"⟩,
  ⟨0x297D, "", "RIGHT FISH TAIL, UP FISH TAIL, DOWN FISH TAIL, TRIPLE VERTICAL BAR DELIMITER"⟩,
  ⟨0x2981, "", "Z NOTATION SPOT, Z NOTATION TYPE COLON, LEFT WHITE CURLY BRACKET"⟩,
  ⟨0x2984, "", "RIGHT WHITE CURLY BRACKET, LEFT WHITE PARENTHESIS, RIGHT WHITE PARENTHESIS"⟩,
  ⟨0x2987, "Z NOTATION ", "LEFT IMAGE BRACKET, RIGHT IMAGE BRACKET, LEFT BINDING BRACKET"⟩,
  ⟨0x298A, "", "Z NOTATION RIGHT BINDING BRACKET, LEFT SQUARE BRACKET WITH UNDERBAR"⟩,
  ⟨0x298C, "", "RIGHT SQUARE BRACKET WITH UNDERBAR, LEFT SQUARE BRACKET WITH TICK IN TOP CORNER"⟩,
  ⟨0x298E, "", "RIGHT SQUARE BRACKET WITH TICK IN BOTTOM CORNER"⟩,
  ⟨0x298F, "", "LEFT SQUARE BRACKET WITH TICK IN BOTTOM CORNER"⟩,
  ⟨0x2990, "", "RIGHT SQUARE BRACKET WITH TICK IN TOP CORNER, LEFT ANGLE BRACKET WITH DOT"⟩,
  ⟨0x2992, "", "RIGHT ANGLE BRACKET WITH DOT, LEFT ARC LESS-THAN BRACKET"⟩,
  ⟨0x2994, "", "RIGHT ARC GREATER-THAN BRACKET, DOUBLE LEFT ARC GREATER-THAN BRACKET"⟩,
  ⟨0x2996, "", "DOUBLE RIGHT ARC LESS-THAN BRACKET, LEFT BLACK TORTOISE SHELL BRACKET"⟩,
  ⟨0x2998, "", "RIGHT BLACK TORTOISE SHELL BRACKET, DOTTED FENCE, VERTICAL ZIGZAG LINE"⟩,
  ⟨0x299B, "", "MEASURED ANGLE OPENING LEFT, RIGHT ANGLE VARIANT WITH SQUARE"⟩,
  ⟨0x299D, "", "MEASURED RIGHT ANGLE WITH DOT, ANGLE WITH S INSIDE"⟩,
  ⟨0x299F, "", "ACUTE ANGLE, SPHERICAL ANGLE OPENING LEFT, SPHERICAL ANGLE OPENING UP"⟩,
  ⟨0x29A2, "", "TURNED ANGLE, REVERSED ANGLE, ANGLE WITH UNDERBAR, REVERSED ANGLE WITH UNDERBAR"⟩,
  ⟨0x29A6, "OBLIQUE ANGLE OPENING ", "UP, DOWN"⟩,
  ⟨0x29A8, "", "MEASURED ANGLE WITH OPEN ARM ENDING IN ARROW POINTING UP AND RIGHT"⟩,
  ⟨0x29A9, "MEASURED ANGLE WITH OPEN ARM ENDING IN ARROW POINTING ", "UP AND LEFT, DOWN AND RIGHT"⟩,
  ⟨0x29AB, "MEASURED ANGLE WITH OPEN ARM ENDING IN ARROW POINTING ", "DOWN AND LEFT, RIGHT AND UP"⟩,
  ⟨0x29AD, "MEASURED ANGLE WITH OPEN ARM ENDING IN ARROW POINTING ", "LEFT AND UP, RIGHT AND DOWN"⟩,
  ⟨0x29AF, "", "MEASURED ANGLE WITH OPEN ARM ENDING IN ARROW POINTING LEFT AND DOWN"⟩,
  ⟨0x29B0, "", "REVERSED EMPTY SET"⟩,
  ⟨0x29B1, "EMPTY SET WITH ", "OVERBAR, SMALL CIRCLE ABOVE, RIGHT ARROW ABOVE"⟩,
  ⟨0x29B4, "", "EMPTY SET WITH LEFT ARROW ABOVE, CIRCLE WITH HORIZONTAL BAR"⟩,
  ⟨0x29B6, "CIRCLED ", "VERTICAL BAR, PARALLEL, REVERSE SOLIDUS, PERPENDICULAR"⟩,
  ⟨0x29BA, "", "CIRCLE DIVIDED BY HORIZONTAL BAR AND TOP HALF DIVIDED BY VERTICAL BAR"⟩,
  ⟨0x29BB, "", "CIRCLE WITH SUPERIMPOSED X, CIRCLED ANTICLOCKWISE-ROTATED DIVISION SIGN"⟩,
  ⟨0x29BD, "", "UP ARROW THROUGH CIRCLE, CIRCLED WHITE BULLET, CIRCLED BULLET"⟩,
  ⟨0x29C0, "", "CIRCLED LESS-THAN, CIRCLED GREATER-THAN, CIRCLE WITH SMALL CIRCLE TO THE RIGHT"⟩,
  ⟨0x29C3, "", "CIRCLE WITH TWO HORIZONTAL STROKES TO THE RIGHT, SQUARED RISING DIAGONAL SLASH"⟩,
  ⟨0x29C5, "SQUARED ", "FALLING DIAGONAL SLASH, ASTERISK, SMALL CIRCLE, SQUARE"⟩,
  ⟨0x29C9, "", "TWO JOINED SQUARES, TRIANGLE WITH DOT ABOVE, TRIANGLE WITH UNDERBAR"⟩,
  ⟨0x29CC, "", "S IN TRIANGLE, TRIANGLE WITH SERIFS AT BOTTOM, RIGHT TRIANGLE ABOVE LEFT TRIANGLE"⟩,
  ⟨0x29CF, "", "LEFT TRIANGLE BESIDE VERTICAL BAR, VERTICAL BAR BESIDE RIGHT TRIANGLE"⟩,
  ⟨0x29D1, "BOWTIE WITH ", "LEFT HALF BLACK, RIGHT HALF BLACK"⟩,
  ⟨0x29D3, "", "BLACK BOWTIE, TIMES WITH LEFT HALF BLACK, TIMES WITH RIGHT HALF BLACK"⟩,
  ⟨0x29D6, "", "WHITE HOURGLASS, BLACK HOURGLASS, LEFT WIGGLY FENCE, RIGHT WIGGLY FENCE"⟩,
  ⟨0x29DA, "", "LEFT DOUBLE WIGGLY FENCE, RIGHT DOUBLE WIGGLY FENCE, INCOMPLETE INFINITY"⟩,
  ⟨0x29DD, "", "TIE OVER INFINITY, INFINITY NEGATED WITH VERTICAL BAR, DOUBLE-ENDED MULTIMAP"⟩,
  ⟨0x29E0, "", "SQUARE WITH CONTOURED OUTLINE, INCREASES AS, SHUFFLE PRODUCT"⟩,
  ⟨0x29E3, "EQUALS SIGN AND SLANTED ", "PARALLEL, PARALLEL WITH TILDE ABOVE"⟩,
  ⟨0x29E5, "", "IDENTICAL TO AND SLANTED PARALLEL, GLEICH STARK, THERMODYNAMIC"⟩,
  ⟨0x29E8, "DOWN-POINTING TRIANGLE WITH ", "LEFT HALF BLACK, RIGHT HALF BLACK"⟩,
  ⟨0x29EA, "", "BLACK DIAMOND WITH DOWN ARROW, BLACK LOZENGE, WHITE CIRCLE WITH DOWN ARROW"⟩,
  ⟨0x29ED, "", "BLACK CIRCLE WITH DOWN ARROW, ERROR-BARRED WHITE SQUARE"⟩,
  ⟨0x29EF, "ERROR-BARRED ", "BLACK SQUARE, WHITE DIAMOND, BLACK DIAMOND, WHITE CIRCLE"⟩,
  ⟨0x29F3, "", "ERROR-BARRED BLACK CIRCLE, RULE-DELAYED, REVERSE SOLIDUS OPERATOR"⟩,
  ⟨0x29F6, "", "SOLIDUS WITH OVERBAR, REVERSE SOLIDUS WITH HORIZONTAL STROKE, BIG SOLIDUS"⟩,
  ⟨0x29F9, "", "BIG REVERSE SOLIDUS, DOUBLE PLUS, TRIPLE PLUS, LEFT-POINTING CURVED ANGLE BRACKET"⟩,
  ⟨0x29FD, "", "RIGHT-POINTING CURVED ANGLE BRACKET, TINY, MINY, N-ARY CIRCLED DOT OPERATOR"⟩,
  ⟨0x2A01, "N-ARY ", "CIRCLED PLUS OPERATOR, CIRCLED TIMES OPERATOR, UNION OPERATOR WITH DOT"⟩,
  ⟨0x2A04, "N-ARY ", "UNION OPERATOR WITH PLUS, SQUARE INTERSECTION OPERATOR"⟩,
  ⟨0x2A06, "", "N-ARY SQUARE UNION OPERATOR, TWO LOGICAL AND OPERATOR"⟩,
  ⟨0x2A08, "", "TWO LOGICAL OR OPERATOR, N-ARY TIMES OPERATOR, MODULO TWO SUM"⟩,
  ⟨0x2A0B, "", "SUMMATION WITH INTEGRAL, QUADRUPLE INTEGRAL OPERATOR, FINITE PART INTEGRAL"⟩,
  ⟨0x2A0E, "", "INTEGRAL WITH DOUBLE STROKE, INTEGRAL AVERAGE WITH SLASH, CIRCULATION FUNCTION"⟩,
  ⟨0x2A11, "", "ANTICLOCKWISE INTEGRATION, LINE INTEGRATION WITH RECTANGULAR PATH AROUND POLE"⟩,
  ⟨0x2A13, "LINE INTEGRATION ", "WITH SEMICIRCULAR PATH AROUND POLE, NOT INCLUDING THE POLE"⟩,
  ⟨0x2A15, "", "INTEGRAL AROUND A POINT OPERATOR, QUATERNION INTEGRAL OPERATOR"⟩,
  ⟨0x2A17, "INTEGRAL WITH ", "LEFTWARDS ARROW WITH HOOK, TIMES SIGN, INTERSECTION, UNION"⟩,
  ⟨0x2A1B, "", "INTEGRAL WITH OVERBAR, INTEGRAL WITH UNDERBAR, JOIN, LARGE LEFT TRIANGLE OPERATOR"⟩,
  ⟨0x2A1F, "Z NOTATION SCHEMA ", "COMPOSITION, PIPING, PROJECTION"⟩,
  ⟨0x2A22, "PLUS SIGN WITH ", "SMALL CIRCLE ABOVE, CIRCUMFLEX ACCENT ABOVE"⟩,
  ⟨0x2A24, "PLUS SIGN WITH ", "TILDE ABOVE, DOT BELOW, TILDE BELOW, SUBSCRIPT TWO, BLACK TRIANGLE"⟩,
  ⟨0x2A29, "MINUS SIGN WITH ", "COMMA ABOVE, DOT BELOW, FALLING DOTS"⟩,
  ⟨0x2A2C, "", "MINUS SIGN WITH RISING DOTS, PLUS SIGN IN LEFT HALF CIRCLE"⟩,
  ⟨0x2A2E, "", "PLUS SIGN IN RIGHT HALF CIRCLE, VECTOR OR CROSS PRODUCT"⟩,
  ⟨0x2A30, "MULTIPLICATION SIGN WITH ", "DOT ABOVE, UNDERBAR"⟩,
  ⟨0x2A32, "", "SEMIDIRECT PRODUCT WITH BOTTOM CLOSED, SMASH PRODUCT"⟩,
  ⟨0x2A34, "MULTIPLICATION SIGN IN ", "LEFT HALF CIRCLE, RIGHT HALF CIRCLE"⟩,
  ⟨0x2A36, "", "CIRCLED MULTIPLICATION SIGN WITH CIRCUMFLEX ACCENT"⟩,
  ⟨0x2A37, "", "MULTIPLICATION SIGN IN DOUBLE CIRCLE, CIRCLED DIVISION SIGN"⟩,
  ⟨0x2A39, "", "PLUS SIGN IN TRIANGLE, MINUS SIGN IN TRIANGLE, MULTIPLICATION SIGN IN TRIANGLE"⟩,
  ⟨0x2A3C, "", "INTERIOR PRODUCT, RIGHTHAND INTERIOR PRODUCT, Z NOTATION RELATIONAL COMPOSITION"⟩,
  ⟨0x2A3F, "", "AMALGAMATION OR COPRODUCT, INTERSECTION WITH DOT"⟩,
  ⟨0x2A41, "", "UNION WITH MINUS SIGN, UNION WITH OVERBAR, INTERSECTION WITH OVERBAR"⟩,
  ⟨0x2A44, "", "INTERSECTION WITH LOGICAL AND, UNION WITH LOGICAL OR, UNION ABOVE INTERSECTION"⟩,
  ⟨0x2A47, "", "INTERSECTION ABOVE UNION, UNION ABOVE BAR ABOVE INTERSECTION"⟩,
  ⟨0x2A49, "", "INTERSECTION ABOVE BAR ABOVE UNION, UNION BESIDE AND JOINED WITH UNION"⟩,
  ⟨0x2A4B, "", "INTERSECTION BESIDE AND JOINED WITH INTERSECTION, CLOSED UNION WITH SERIFS"⟩,
  ⟨0x2A4D, "", "CLOSED INTERSECTION WITH SERIFS, DOUBLE SQUARE INTERSECTION"⟩,
  ⟨0x2A4F, "", "DOUBLE SQUARE UNION, CLOSED UNION WITH SERIFS AND SMASH PRODUCT"⟩,
  ⟨0x2A51, "LOGICAL ", "AND WITH DOT ABOVE, OR WITH DOT ABOVE"⟩,
  ⟨0x2A53, "", "DOUBLE LOGICAL AND, DOUBLE LOGICAL OR, TWO INTERSECTING LOGICAL AND"⟩,
  ⟨0x2A56, "", "TWO INTERSECTING LOGICAL OR, SLOPING LARGE OR, SLOPING LARGE AND"⟩,
  ⟨0x2A59, "LOGICAL ", "OR OVERLAPPING LOGICAL AND, AND WITH MIDDLE STEM"⟩,
  ⟨0x2A5B, "LOGICAL ", "OR WITH MIDDLE STEM, AND WITH HORIZONTAL DASH, OR WITH HORIZONTAL DASH"⟩,
  ⟨0x2A5E, "LOGICAL AND WITH ", "DOUBLE OVERBAR, UNDERBAR, DOUBLE UNDERBAR"⟩,
  ⟨0x2A61, "", "SMALL VEE WITH UNDERBAR, LOGICAL OR WITH DOUBLE OVERBAR"⟩,
  ⟨0x2A63, "", "LOGICAL OR WITH DOUBLE UNDERBAR, Z NOTATION DOMAIN ANTIRESTRICTION"⟩,
  ⟨0x2A65, "", "Z NOTATION RANGE ANTIRESTRICTION, EQUALS SIGN WITH DOT BELOW"⟩,
  ⟨0x2A67, "", "IDENTICAL WITH DOT ABOVE, TRIPLE HORIZONTAL BAR WITH DOUBLE VERTICAL STROKE"⟩,
  ⟨0x2A69, "", "TRIPLE HORIZONTAL BAR WITH TRIPLE VERTICAL STROKE, TILDE OPERATOR WITH DOT ABOVE"⟩,
  ⟨0x2A6B, "", "TILDE OPERATOR WITH RISING DOTS, SIMILAR MINUS SIMILAR, CONGRUENT WITH DOT ABOVE"⟩,
  ⟨0x2A6E, "", "EQUALS WITH ASTERISK, ALMOST EQUAL TO WITH CIRCUMFLEX ACCENT"⟩,
  ⟨0x2A70, "", "APPROXIMATELY EQUAL OR EQUAL TO, EQUALS SIGN ABOVE PLUS SIGN"⟩,
  ⟨0x2A72, "", "PLUS SIGN ABOVE EQUALS SIGN, EQUALS SIGN ABOVE TILDE OPERATOR"⟩,
  ⟨0x2A74, "", "DOUBLE COLON EQUAL, TWO CONSECUTIVE EQUALS SIGNS, THREE CONSECUTIVE EQUALS SIGNS"⟩,
  ⟨0x2A77, "", "EQUALS SIGN WITH TWO DOTS ABOVE AND TWO DOTS BELOW"⟩,
  ⟨0x2A78, "", "EQUIVALENT WITH FOUR DOTS ABOVE, LESS-THAN WITH CIRCLE INSIDE"⟩,
  ⟨0x2A7A, "", "GREATER-THAN WITH CIRCLE INSIDE, LESS-THAN WITH QUESTION MARK ABOVE"⟩,
  ⟨0x2A7C, "", "GREATER-THAN WITH QUESTION MARK ABOVE, LESS-THAN OR SLANTED EQUAL TO"⟩,
  ⟨0x2A7E, "", "GREATER-THAN OR SLANTED EQUAL TO, LESS-THAN OR SLANTED EQUAL TO WITH DOT INSIDE"⟩,
  ⟨0x2A80, "", "GREATER-THAN OR SLANTED EQUAL TO WITH DOT INSIDE"⟩,
  ⟨0x2A81, "", "LESS-THAN OR SLANTED EQUAL TO WITH DOT ABOVE"⟩,
  ⟨0x2A82, "", "GREATER-THAN OR SLANTED EQUAL TO WITH DOT ABOVE"⟩,
  ⟨0x2A83, "", "LESS-THAN OR SLANTED EQUAL TO WITH DOT ABOVE RIGHT"⟩,
  ⟨0x2A84, "", "GREATER-THAN OR SLANTED EQUAL TO WITH DOT ABOVE LEFT"⟩,
  ⟨0x2A85, "", "LESS-THAN OR APPROXIMATE, GREATER-THAN OR APPROXIMATE"⟩,
  ⟨0x2A87, "", "LESS-THAN AND SINGLE-LINE NOT EQUAL TO, GREATER-THAN AND SINGLE-LINE NOT EQUAL TO"⟩,
  ⟨0x2A89, "", "LESS-THAN AND NOT APPROXIMATE, GREATER-THAN AND NOT APPROXIMATE"⟩,
  ⟨0x2A8B, "", "LESS-THAN ABOVE DOUBLE-LINE EQUAL ABOVE GREATER-THAN"⟩,
  ⟨0x2A8C, "", "GREATER-THAN ABOVE DOUBLE-LINE EQUAL ABOVE LESS-THAN"⟩,
  ⟨0x2A8D, "", "LESS-THAN ABOVE SIMILAR OR EQUAL"⟩,
  ⟨0x2A8E, "", "GREATER-THAN ABOVE SIMILAR OR EQUAL, LESS-THAN ABOVE SIMILAR ABOVE GREATER-THAN"⟩,
  ⟨0x2A90, "", "GREATER-THAN ABOVE SIMILAR ABOVE LESS-THAN"⟩,
  ⟨0x2A91, "", "LESS-THAN ABOVE GREATER-THAN ABOVE DOUBLE-LINE EQUAL"⟩,
  ⟨0x2A92, "", "GREATER-THAN ABOVE LESS-THAN ABOVE DOUBLE-LINE EQUAL"⟩,
  ⟨0x2A93, "", "LESS-THAN ABOVE SLANTED EQUAL ABOVE GREATER-THAN ABOVE SLANTED EQUAL"⟩,
  ⟨0x2A94, "", "GREATER-THAN ABOVE SLANTED EQUAL ABOVE LESS-THAN ABOVE SLANTED EQUAL"⟩,
  ⟨0x2A95, "SLANTED EQUAL TO OR ", "LESS-THAN, GREATER-THAN"⟩,
  ⟨0x2A97, "SLANTED EQUAL TO OR ", "LESS-THAN WITH DOT INSIDE, GREATER-THAN WITH DOT INSIDE"⟩,
  ⟨0x2A99, "DOUBLE-LINE EQUAL TO OR ", "LESS-THAN, GREATER-THAN"⟩,
  ⟨0x2A9B, "DOUBLE-LINE SLANTED EQUAL TO OR ", "LESS-THAN, GREATER-THAN"⟩,
  ⟨0x2A9D, "SIMILAR OR ", "LESS-THAN, GREATER-THAN"⟩,
  ⟨0x2A9F, "SIMILAR ABOVE ", "LESS-THAN ABOVE EQUALS SIGN, GREATER-THAN ABOVE EQUALS SIGN"⟩,
  ⟨0x2AA1, "DOUBLE NESTED ", "LESS-THAN, GREATER-THAN"⟩,
  ⟨0x2AA3, "", "DOUBLE NESTED LESS-THAN WITH UNDERBAR, GREATER-THAN OVERLAPPING LESS-THAN"⟩,
  ⟨0x2AA5, "", "GREATER-THAN BESIDE LESS-THAN, LESS-THAN CLOSED BY CURVE"⟩,
  ⟨0x2AA7, "", "GREATER-THAN CLOSED BY CURVE, LESS-THAN CLOSED BY CURVE ABOVE SLANTED EQUAL"⟩,
  ⟨0x2AA9, "", "GREATER-THAN CLOSED BY CURVE ABOVE SLANTED EQUAL, SMALLER THAN, LARGER THAN"⟩,
  ⟨0x2AAC, "", "SMALLER THAN OR EQUAL TO, LARGER THAN OR EQUAL TO, EQUALS SIGN WITH BUMPY ABOVE"⟩,
  ⟨0x2AAF, "", "PRECEDES ABOVE SINGLE-LINE EQUALS SIGN, SUCCEEDS ABOVE SINGLE-LINE EQUALS SIGN"⟩,
  ⟨0x2AB1, "", "PRECEDES ABOVE SINGLE-LINE NOT EQUAL TO, SUCCEEDS ABOVE SINGLE-LINE NOT EQUAL TO"⟩,
  ⟨0x2AB3, "", "PRECEDES ABOVE EQUALS SIGN, SUCCEEDS ABOVE EQUALS SIGN"⟩,
  ⟨0x2AB5, "", "PRECEDES ABOVE NOT EQUAL TO, SUCCEEDS ABOVE NOT EQUAL TO"⟩,
  ⟨0x2AB7, "", "PRECEDES ABOVE ALMOST EQUAL TO, SUCCEEDS ABOVE ALMOST EQUAL TO"⟩,
  ⟨0x2AB9, "", "PRECEDES ABOVE NOT ALMOST EQUAL TO, SUCCEEDS ABOVE NOT ALMOST EQUAL TO"⟩,
  ⟨0x2ABB, "", "DOUBLE PRECEDES, DOUBLE SUCCEEDS, SUBSET WITH DOT"⟩,
  ⟨0x2ABE, "", "SUPERSET WITH DOT, SUBSET WITH PLUS SIGN BELOW, SUPERSET WITH PLUS SIGN BELOW"⟩,
  ⟨0x2AC1, "", "SUBSET WITH MULTIPLICATION SIGN BELOW, SUPERSET WITH MULTIPLICATION SIGN BELOW"⟩,
  ⟨0x2AC3, "", "SUBSET OF OR EQUAL TO WITH DOT ABOVE, SUPERSET OF OR EQUAL TO WITH DOT ABOVE"⟩,
  ⟨0x2AC5, "", "SUBSET OF ABOVE EQUALS SIGN, SUPERSET OF ABOVE EQUALS SIGN"⟩,
  ⟨0x2AC7, "", "SUBSET OF ABOVE TILDE OPERATOR, SUPERSET OF ABOVE TILDE OPERATOR"⟩,
  ⟨0x2AC9, "", "SUBSET OF ABOVE ALMOST EQUAL TO, SUPERSET OF ABOVE ALMOST EQUAL TO"⟩,
  ⟨0x2ACB, "", "SUBSET OF ABOVE NOT EQUAL TO, SUPERSET OF ABOVE NOT EQUAL TO"⟩,
  ⟨0x2ACD, "SQUARE ", "LEFT OPEN BOX OPERATOR, RIGHT OPEN BOX OPERATOR"⟩,
  ⟨0x2ACF, "CLOSED ", "SUBSET, SUPERSET, SUBSET OR EQUAL TO"⟩,
  ⟨0x2AD2, "", "CLOSED SUPERSET OR EQUAL TO, SUBSET ABOVE SUPERSET, SUPERSET ABOVE SUBSET"⟩,
  ⟨0x2AD5, "", "SUBSET ABOVE SUBSET, SUPERSET ABOVE SUPERSET, SUPERSET BESIDE SUBSET"⟩,
  ⟨0x2AD8, "", "SUPERSET BESIDE AND JOINED BY DASH WITH SUBSET, ELEMENT OF OPENING DOWNWARDS"⟩,
  ⟨0x2ADA, "", "PITCHFORK WITH TEE TOP, TRANSVERSAL INTERSECTION, FORKING"⟩,
  ⟨0x2ADD, "", "NONFORKING, SHORT LEFT TACK, SHORT DOWN TACK, SHORT UP TACK, PERPENDICULAR WITH S"⟩,
  ⟨0x2AE2, "", "VERTICAL BAR TRIPLE RIGHT TURNSTILE, DOUBLE VERTICAL BAR LEFT TURNSTILE"⟩,
  ⟨0x2AE4, "", "VERTICAL BAR DOUBLE LEFT TURNSTILE, DOUBLE VERTICAL BAR DOUBLE LEFT TURNSTILE"⟩,
  ⟨0x2AE6, "", "LONG DASH FROM LEFT MEMBER OF DOUBLE VERTICAL, SHORT DOWN TACK WITH OVERBAR"⟩,
  ⟨0x2AE8, "SHORT UP TACK ", "WITH UNDERBAR, ABOVE SHORT DOWN TACK"⟩,
  ⟨0x2AEA, "DOUBLE ", "DOWN TACK, UP TACK, STROKE NOT SIGN"⟩,
  ⟨0x2AED, "", "REVERSED DOUBLE STROKE NOT SIGN, DOES NOT DIVIDE WITH REVERSED NEGATION SLASH"⟩,
  ⟨0x2AEF, "VERTICAL LINE WITH CIRCLE ", "ABOVE, BELOW"⟩,
  ⟨0x2AF1, "", "DOWN TACK WITH CIRCLE BELOW, PARALLEL WITH HORIZONTAL STROKE"⟩,
  ⟨0x2AF3, "", "PARALLEL WITH TILDE OPERATOR, TRIPLE VERTICAL BAR BINARY RELATION"⟩,
  ⟨0x2AF5, "TRIPLE ", "VERTICAL BAR WITH HORIZONTAL STROKE, COLON OPERATOR, NESTED LESS-THAN"⟩,
  ⟨0x2AF8, "", "TRIPLE NESTED GREATER-THAN, DOUBLE-LINE SLANTED LESS-THAN OR EQUAL TO"⟩,
  ⟨0x2AFA, "", "DOUBLE-LINE SLANTED GREATER-THAN OR EQUAL TO, TRIPLE SOLIDUS BINARY RELATION"⟩,
  ⟨0x2AFC, "", "LARGE TRIPLE VERTICAL BAR OPERATOR, DOUBLE SOLIDUS OPERATOR, WHITE VERTICAL BAR"⟩,
  ⟨0x2AFF, "", "N-ARY WHITE VERTICAL BAR, NORTH EAST WHITE ARROW, NORTH WEST WHITE ARROW"⟩,
  ⟨0x2B02, "", "SOUTH EAST WHITE ARROW, SOUTH WEST WHITE ARROW, LEFT RIGHT WHITE ARROW"⟩,
  ⟨0x2B05, "", "LEFTWARDS BLACK ARROW, UPWARDS BLACK ARROW, DOWNWARDS BLACK ARROW"⟩,
  ⟨0x2B08, "", "NORTH EAST BLACK ARROW, NORTH WEST BLACK ARROW, SOUTH EAST BLACK ARROW"⟩,
  ⟨0x2B0B, "", "SOUTH WEST BLACK ARROW, LEFT RIGHT BLACK ARROW, UP DOWN BLACK ARROW"⟩,
  ⟨0x2B0E, "RIGHTWARDS ARROW WITH TIP ", "DOWNWARDS, UPWARDS"⟩,
  ⟨0x2B10, "LEFTWARDS ARROW WITH TIP ", "DOWNWARDS, UPWARDS"⟩,
  ⟨0x2B12, "SQUARE WITH ", "TOP HALF BLACK, BOTTOM HALF BLACK"⟩,
  ⟨0x2B14, "SQUARE WITH ", "UPPER RIGHT DIAGONAL HALF BLACK, LOWER LEFT DIAGONAL HALF BLACK"⟩,
  ⟨0x2B16, "DIAMOND WITH ", "LEFT HALF BLACK, RIGHT HALF BLACK, TOP HALF BLACK, BOTTOM HALF BLACK"⟩,
  ⟨0x2B1A, "", "DOTTED SQUARE, BLACK LARGE SQUARE, WHITE LARGE SQUARE, BLACK VERY SMALL SQUARE"⟩,
  ⟨0x2B1E, "", "WHITE VERY SMALL SQUARE, BLACK PENTAGON, WHITE PENTAGON, WHITE HEXAGON"⟩,
  ⟨0x2B22, "", "BLACK HEXAGON, HORIZONTAL BLACK HEXAGON, BLACK LARGE CIRCLE, BLACK MEDIUM DIAMOND"⟩,
  ⟨0x2B26, "", "WHITE MEDIUM DIAMOND, BLACK MEDIUM LOZENGE, WHITE MEDIUM LOZENGE"⟩,
  ⟨0x2B29, "", "BLACK SMALL DIAMOND, BLACK SMALL LOZENGE, WHITE SMALL LOZENGE"⟩,
  ⟨0x2B2C, "", "BLACK HORIZONTAL ELLIPSE, WHITE HORIZONTAL ELLIPSE, BLACK VERTICAL ELLIPSE"⟩,
  ⟨0x2B2F, "", "WHITE VERTICAL ELLIPSE, LEFT ARROW WITH SMALL CIRCLE, THREE LEFTWARDS ARROWS"⟩,
  ⟨0x2B32, "", "LEFT ARROW WITH CIRCLED PLUS, LONG LEFTWARDS SQUIGGLE ARROW"⟩,
  ⟨0x2B34, "LEFTWARDS TWO-HEADED ARROW WITH ", "VERTICAL STROKE, DOUBLE VERTICAL STROKE"⟩,
  ⟨0x2B36, "LEFTWARDS TWO-HEADED ", "ARROW FROM BAR, TRIPLE DASH ARROW"⟩,
  ⟨0x2B38, "LEFTWARDS ARROW WITH ", "DOTTED STEM, TAIL WITH VERTICAL STROKE"⟩,
  ⟨0x2B3A, "LEFTWARDS ", "ARROW WITH TAIL WITH DOUBLE VERTICAL STROKE, TWO-HEADED ARROW WITH TAIL"⟩,
  ⟨0x2B3C, "LEFTWARDS TWO-HEADED ARROW WITH TAIL WITH ", "VERTICAL STROKE, DOUBLE VERTICAL STROKE"⟩,
  ⟨0x2B3E, "", "LEFTWARDS ARROW THROUGH X, WAVE ARROW POINTING DIRECTLY LEFT"⟩,
  ⟨0x2B40, "", "EQUALS SIGN ABOVE LEFTWARDS ARROW, REVERSE TILDE OPERATOR ABOVE LEFTWARDS ARROW"⟩,
  ⟨0x2B42, "", "LEFTWARDS ARROW ABOVE REVERSE ALMOST EQUAL TO"⟩,
  ⟨0x2B43, "", "RIGHTWARDS ARROW THROUGH GREATER-THAN"⟩,
  ⟨0x2B44, "", "RIGHTWARDS ARROW THROUGH SUPERSET, LEFTWARDS QUADRUPLE ARROW"⟩,
  ⟨0x2B46, "", "RIGHTWARDS QUADRUPLE ARROW, REVERSE TILDE OPERATOR ABOVE RIGHTWARDS ARROW"⟩,
  ⟨0x2B48, "", "RIGHTWARDS ARROW ABOVE REVERSE ALMOST EQUAL TO"⟩,
  ⟨0x2B49, "", "TILDE OPERATOR ABOVE LEFTWARDS ARROW"⟩,
  ⟨0x2B4A, "LEFTWARDS ARROW ABOVE ", "ALMOST EQUAL TO, REVERSE TILDE OPERATOR"⟩,
  ⟨0x2B4C, "", "RIGHTWARDS ARROW ABOVE REVERSE TILDE OPERATOR"⟩,
  ⟨0x2B4D, "", "DOWNWARDS TRIANGLE-HEADED ZIGZAG ARROW"⟩,
  ⟨0x2B4E, "SHORT ", "SLANTED NORTH ARROW, BACKSLANTED SOUTH ARROW"⟩,
  ⟨0x2B50, "", "WHITE MEDIUM STAR, BLACK SMALL STAR, WHITE SMALL STAR"⟩,
  ⟨0x2B53, "", "BLACK RIGHT-POINTING PENTAGON, WHITE RIGHT-POINTING PENTAGON, HEAVY LARGE CIRCLE"⟩,
  ⟨0x2B56, "HEAVY ", "OVAL WITH OVAL INSIDE, CIRCLE WITH CIRCLE INSIDE, CIRCLE, CIRCLED SALTIRE"⟩,
  ⟨0x2B5A, "", "SLANTED NORTH ARROW WITH HOOKED HEAD, BACKSLANTED SOUTH ARROW WITH HOOKED TAIL"⟩,
  ⟨0x2B5C, "", "SLANTED NORTH ARROW WITH HORIZONTAL TAIL"⟩,
  ⟨0x2B5D, "", "BACKSLANTED SOUTH ARROW WITH HORIZONTAL TAIL"⟩,
  ⟨0x2B5E, "", "BENT ARROW POINTING DOWNWARDS THEN NORTH EAST"⟩,
  ⟨0x2B5F, "", "SHORT BENT ARROW POINTING DOWNWARDS THEN NORTH EAST"⟩,
  ⟨0x2B60, "", "LEFTWARDS TRIANGLE-HEADED ARROW, UPWARDS TRIANGLE-HEADED ARROW"⟩,
  ⟨0x2B62, "", "RIGHTWARDS TRIANGLE-HEADED ARROW, DOWNWARDS TRIANGLE-HEADED ARROW"⟩,
  ⟨0x2B64, "", "LEFT RIGHT TRIANGLE-HEADED ARROW, UP DOWN TRIANGLE-HEADED ARROW"⟩,
  ⟨0x2B66, "NORTH ", "WEST TRIANGLE-HEADED ARROW, EAST TRIANGLE-HEADED ARROW"⟩,
  ⟨0x2B68, "SOUTH ", "EAST TRIANGLE-HEADED ARROW, WEST TRIANGLE-HEADED ARROW"⟩,
  ⟨0x2B6A, "", "LEFTWARDS TRIANGLE-HEADED DASHED ARROW, UPWARDS TRIANGLE-HEADED DASHED ARROW"⟩,
  ⟨0x2B6C, "", "RIGHTWARDS TRIANGLE-HEADED DASHED ARROW, DOWNWARDS TRIANGLE-HEADED DASHED ARROW"⟩,
  ⟨0x2B6E, "", "CLOCKWISE TRIANGLE-HEADED OPEN CIRCLE ARROW"⟩,
  ⟨0x2B6F, "", "ANTICLOCKWISE TRIANGLE-HEADED OPEN CIRCLE ARROW"⟩,
  ⟨0x2B70, "", "LEFTWARDS TRIANGLE-HEADED ARROW TO BAR, UPWARDS TRIANGLE-HEADED ARROW TO BAR"⟩,
  ⟨0x2B72, "", "RIGHTWARDS TRIANGLE-HEADED ARROW TO BAR, DOWNWARDS TRIANGLE-HEADED ARROW TO BAR"⟩,
  ⟨0x2B76, "NORTH ", "WEST TRIANGLE-HEADED ARROW TO BAR, EAST TRIANGLE-HEADED ARROW TO BAR"⟩,
  ⟨0x2B78, "SOUTH ", "EAST TRIANGLE-HEADED ARROW TO BAR, WEST TRIANGLE-HEADED ARROW TO BAR"⟩,
  ⟨0x2B7A, "", "LEFTWARDS TRIANGLE-HEADED ARROW WITH DOUBLE HORIZONTAL STROKE"⟩,
  ⟨0x2B7B, "", "UPWARDS TRIANGLE-HEADED ARROW WITH DOUBLE HORIZONTAL STROKE"⟩,
  ⟨0x2B7C, "", "RIGHTWARDS TRIANGLE-HEADED ARROW WITH DOUBLE HORIZONTAL STROKE"⟩,
  ⟨0x2B7D, "", "DOWNWARDS TRIANGLE-HEADED ARROW WITH DOUBLE HORIZONTAL STROKE"⟩,
  ⟨0x2B7E, "", "HORIZONTAL TAB KEY, VERTICAL TAB KEY"⟩,
  ⟨0x2B80, "", "LEFTWARDS TRIANGLE-HEADED ARROW OVER RIGHTWARDS TRIANGLE-HEADED ARROW"⟩,
  ⟨0x2B81, "", "UPWARDS TRIANGLE-HEADED ARROW LEFTWARDS OF DOWNWARDS TRIANGLE-HEADED ARROW"⟩,
  ⟨0x2B82, "", "RIGHTWARDS TRIANGLE-HEADED ARROW OVER LEFTWARDS TRIANGLE-HEADED ARROW"⟩,
  ⟨0x2B83, "", "DOWNWARDS TRIANGLE-HEADED ARROW LEFTWARDS OF UPWARDS TRIANGLE-HEADED ARROW"⟩,
  ⟨0x2B84, "", "LEFTWARDS TRIANGLE-HEADED PAIRED ARROWS, UPWARDS TRIANGLE-HEADED PAIRED ARROWS"⟩,
  ⟨0x2B86, "", "RIGHTWARDS TRIANGLE-HEADED PAIRED ARROWS, DOWNWARDS TRIANGLE-HEADED PAIRED ARROWS"⟩,
  ⟨0x2B88, "", "LEFTWARDS BLACK CIRCLED WHITE ARROW, UPWARDS BLACK CIRCLED WHITE ARROW"⟩,
  ⟨0x2B8A, "", "RIGHTWARDS BLACK CIRCLED WHITE ARROW, DOWNWARDS BLACK CIRCLED WHITE ARROW"⟩,
  ⟨0x2B8C, "ANTICLOCKWISE TRIANGLE-HEADED ", "RIGHT U-SHAPED ARROW, BOTTOM U-SHAPED ARROW"⟩,
  ⟨0x2B8E, "ANTICLOCKWISE TRIANGLE-HEADED ", "LEFT U-SHAPED ARROW, TOP U-SHAPED ARROW"⟩,
  ⟨0x2B90, "", "RETURN LEFT, RETURN RIGHT, NEWLINE LEFT"⟩,
  ⟨0x2B93, "", "NEWLINE RIGHT, FOUR CORNER ARROWS CIRCLING ANTICLOCKWISE, RIGHTWARDS BLACK ARROW"⟩,
  ⟨0x2B97, "", "SYMBOL FOR TYPE A ELECTRONICS"⟩,
  ⟨0x2B98, "", "THREE-D TOP-LIGHTED LEFTWARDS EQUILATERAL ARROWHEAD"⟩,
  ⟨0x2B99, "", "THREE-D RIGHT-LIGHTED UPWARDS EQUILATERAL ARROWHEAD"⟩,
  ⟨0x2B9A, "", "THREE-D TOP-LIGHTED RIGHTWARDS EQUILATERAL ARROWHEAD"⟩,
  ⟨0x2B9B, "", "THREE-D LEFT-LIGHTED DOWNWARDS EQUILATERAL ARROWHEAD"⟩,
  ⟨0x2B9C, "BLACK ", "LEFTWARDS EQUILATERAL ARROWHEAD, UPWARDS EQUILATERAL ARROWHEAD"⟩,
  ⟨0x2B9E, "BLACK ", "RIGHTWARDS EQUILATERAL ARROWHEAD, DOWNWARDS EQUILATERAL ARROWHEAD"⟩,
  ⟨0x2BA0, "DOWNWARDS TRIANGLE-HEADED ARROW WITH LONG TIP ", "LEFTWARDS, RIGHTWARDS"⟩,
  ⟨0x2BA2, "UPWARDS TRIANGLE-HEADED ARROW WITH LONG TIP ", "LEFTWARDS, RIGHTWARDS"⟩,
  ⟨0x2BA4, "", "LEFTWARDS TRIANGLE-HEADED ARROW WITH LONG TIP UPWARDS"⟩,
  ⟨0x2BA5, "", "RIGHTWARDS TRIANGLE-HEADED ARROW WITH LONG TIP UPWARDS"⟩,
  ⟨0x2BA6, "", "LEFTWARDS TRIANGLE-HEADED ARROW WITH LONG TIP DOWNWARDS"⟩,
  ⟨0x2BA7, "", "RIGHTWARDS TRIANGLE-HEADED ARROW WITH LONG TIP DOWNWARDS"⟩,
  ⟨0x2BA8, "BLACK CURVED DOWNWARDS AND ", "LEFTWARDS ARROW, RIGHTWARDS ARROW"⟩,
  ⟨0x2BAA, "BLACK CURVED UPWARDS AND ", "LEFTWARDS ARROW, RIGHTWARDS ARROW"⟩,
  ⟨0x2BAC, "BLACK CURVED ", "LEFTWARDS AND UPWARDS ARROW, RIGHTWARDS AND UPWARDS ARROW"⟩,
  ⟨0x2BAE, "BLACK CURVED ", "LEFTWARDS AND DOWNWARDS ARROW, RIGHTWARDS AND DOWNWARDS ARROW"⟩,
  ⟨0x2BB0, "RIBBON ARROW DOWN ", "LEFT, RIGHT"⟩,
  ⟨0x2BB2, "RIBBON ARROW ", "UP LEFT, UP RIGHT, LEFT UP, RIGHT UP, LEFT DOWN, RIGHT DOWN"⟩,
  ⟨0x2BB8, "", "UPWARDS WHITE ARROW FROM BAR WITH HORIZONTAL BAR, UP ARROWHEAD IN A RECTANGLE BOX"⟩,
  ⟨0x2BBA, "OVERLAPPING WHITE ", "SQUARES, AND BLACK SQUARES"⟩,
  ⟨0x2BBC, "", "OVERLAPPING BLACK SQUARES, BALLOT BOX WITH LIGHT X"⟩,
  ⟨0x2BBE, "", "CIRCLED X, CIRCLED BOLD X, BLACK SQUARE CENTRED, BLACK DIAMOND CENTRED"⟩,
  ⟨0x2BC2, "", "TURNED BLACK PENTAGON, HORIZONTAL BLACK OCTAGON, BLACK OCTAGON"⟩,
  ⟨0x2BC5, "BLACK MEDIUM ", "UP-POINTING TRIANGLE CENTRED, DOWN-POINTING TRIANGLE CENTRED"⟩,
  ⟨0x2BC7, "BLACK MEDIUM ", "LEFT-POINTING TRIANGLE CENTRED, RIGHT-POINTING TRIANGLE CENTRED"⟩,
  ⟨0x2BC9, "", "NEPTUNE FORM TWO, TOP HALF BLACK CIRCLE, BOTTOM HALF BLACK CIRCLE"⟩,
  ⟨0x2BCC, "", "LIGHT FOUR POINTED BLACK CUSP, ROTATED LIGHT FOUR POINTED BLACK CUSP"⟩,
  ⟨0x2BCE, "", "WHITE FOUR POINTED CUSP, ROTATED WHITE FOUR POINTED CUSP"⟩,
  ⟨0x2BD0, "", "SQUARE POSITION INDICATOR, UNCERTAINTY SIGN, GROUP MARK, PLUTO FORM TWO"⟩,
  ⟨0x2BD4, "", "PLUTO FORM THREE, PLUTO FORM FOUR, PLUTO FORM FIVE, TRANSPLUTO, PROSERPINA"⟩,
  ⟨0x2BD9, "", "ASTRAEA, HYGIEA, PHOLUS, NESSUS, WHITE MOON SELENA, BLACK DIAMOND ON CROSS"⟩,
  ⟨0x2BDF, "", "TRUE LIGHT MOON ARTA, CUPIDO, HADES, ZEUS, KRONOS, APOLLON, ADMETOS, VULCANUS"⟩,
  ⟨0x2BE7, "", "POSEIDON, LEFT HALF BLACK STAR, RIGHT HALF BLACK STAR, STAR WITH LEFT HALF BLACK"⟩,
  ⟨0x2BEB, "", "STAR WITH RIGHT HALF BLACK, LEFTWARDS TWO-HEADED ARROW WITH TRIANGLE ARROWHEADS"⟩,
  ⟨0x2BED, "", "UPWARDS TWO-HEADED ARROW WITH TRIANGLE ARROWHEADS"⟩,
  ⟨0x2BEE, "", "RIGHTWARDS TWO-HEADED ARROW WITH TRIANGLE ARROWHEADS"⟩,
  ⟨0x2BEF, "", "DOWNWARDS TWO-HEADED ARROW WITH TRIANGLE ARROWHEADS"⟩,
  ⟨0x2BF0, "", "ERIS FORM ONE, ERIS FORM TWO, SEDNA, RUSSIAN ASTROLOGICAL SYMBOL VIGINTILE"⟩,
  ⟨0x2BF4, "RUSSIAN ASTROLOGICAL SYMBOL ", "NOVILE, QUINTILE, BINOVILE, SENTAGON, TREDECILE"⟩,
  ⟨0x2BF9, "", "EQUALS SIGN WITH INFINITY BELOW, UNITED SYMBOL, SEPARATED SYMBOL"⟩,
  ⟨0x2BFC, "", "DOUBLED SYMBOL, PASSED SYMBOL, REVERSED RIGHT ANGLE, HELLSCHREIBER PAUSE SYMBOL"⟩]

end BatchExec
