import BatchExec.Text.CharacterName.Row

/-!
# Shorthand and sign writing

The names of Duployan letters and of the signs of SignWriting.
-/

namespace BatchExec

/-- The names of Duployan letters and of the signs of SignWriting. -/
def shorthandNames : List NameRow := [
  ⟨0x1BC00, "DUPLOYAN LETTER ", "H, X, P, T, F, K"⟩,
  ⟨0x1BC06, "DUPLOYAN LETTER ", "L, B, D, V, G, R, P N, D S, F N, K M, R S, TH, SLOAN DH, DH, KK"⟩,
  ⟨0x1BC15, "DUPLOYAN LETTER ", "SLOAN J, HL, LH, RH, M, N, J, S, M N, N M, J M, S J, M WITH DOT"⟩,
  ⟨0x1BC22, "DUPLOYAN LETTER ", "N WITH DOT, J WITH DOT, J WITH DOTS INSIDE AND ABOVE, S WITH DOT"⟩,
  ⟨0x1BC26, "DUPLOYAN LETTER ", "S WITH DOT BELOW, M S, N S, J S, S S, M N S, N M S, J M S, S J S"⟩,
  ⟨0x1BC2F, "DUPLOYAN LETTER ", "J S WITH DOT, J N, J N S, S T, S T R, S P, S P R, T S, T R S, W"⟩,
  ⟨0x1BC39, "DUPLOYAN LETTER ", "WH, W R, S N, S M, K R S, G R S, S K, S K R, A, SLOAN OW, OA, O"⟩,
  ⟨0x1BC45, "DUPLOYAN LETTER ", "AOU, I, E, IE, SHORT I, UI, EE, SLOAN EH, ROMANIAN I, SLOAN EE"⟩,
  ⟨0x1BC4F, "DUPLOYAN LETTER ", "LONG I, YE, U, EU, XW, U N, LONG U, ROMANIAN U, UH, SLOAN U, OOH"⟩,
  ⟨0x1BC5A, "DUPLOYAN LETTER ", "OW, OU, WA, WO, WI, WEI, WOW, NASAL U, NASAL O, NASAL I, NASAL A"⟩,
  ⟨0x1BC65, "DUPLOYAN LETTER ", "PERNIN AN, PERNIN AM, SLOAN EN, SLOAN AN, SLOAN ON, VOCALIC M"⟩,
  ⟨0x1BC70, "", "DUPLOYAN AFFIX LEFT HORIZONTAL SECANT"⟩,
  ⟨0x1BC71, "DUPLOYAN AFFIX ", "MID HORIZONTAL SECANT, RIGHT HORIZONTAL SECANT"⟩,
  ⟨0x1BC73, "DUPLOYAN AFFIX ", "LOW VERTICAL SECANT, MID VERTICAL SECANT, HIGH VERTICAL SECANT"⟩,
  ⟨0x1BC76, "DUPLOYAN AFFIX ATTACHED ", "SECANT, LEFT-TO-RIGHT SECANT"⟩,
  ⟨0x1BC78, "DUPLOYAN AFFIX ATTACHED ", "TANGENT, TAIL, E HOOK, I HOOK, TANGENT HOOK"⟩,
  ⟨0x1BC80, "DUPLOYAN AFFIX HIGH ", "ACUTE, TIGHT ACUTE"⟩,
  ⟨0x1BC82, "DUPLOYAN AFFIX HIGH ", "GRAVE, LONG GRAVE, DOT, CIRCLE, LINE, WAVE, VERTICAL"⟩,
  ⟨0x1BC90, "DUPLOYAN AFFIX LOW ", "ACUTE, TIGHT ACUTE"⟩,
  ⟨0x1BC92, "DUPLOYAN AFFIX LOW ", "GRAVE, LONG GRAVE, DOT, CIRCLE, LINE, WAVE, VERTICAL, ARROW"⟩,
  ⟨0x1BC9C, "", "DUPLOYAN SIGN O WITH CROSS"⟩,
  ⟨0x1BC9D, "DUPLOYAN ", "THICK LETTER SELECTOR, DOUBLE MARK, PUNCTUATION CHINOOK FULL STOP"⟩,
  ⟨0x1BCA0, "SHORTHAND FORMAT ", "LETTER OVERLAP, CONTINUING OVERLAP, DOWN STEP, UP STEP"⟩,
  ⟨0x1D800, "", "SIGNWRITING HAND-FIST INDEX"⟩,
  ⟨0x1D801, "SIGNWRITING HAND-", "CIRCLE INDEX, CUP INDEX, OVAL INDEX, HINGE INDEX, ANGLE INDEX"⟩,
  ⟨0x1D806, "SIGNWRITING HAND-", "FIST INDEX BENT, CIRCLE INDEX BENT, FIST THUMB UNDER INDEX BENT"⟩,
  ⟨0x1D809, "SIGNWRITING HAND-FIST INDEX ", "RAISED KNUCKLE, CUPPED, HINGED, HINGED LOW"⟩,
  ⟨0x1D80D, "SIGNWRITING HAND-", "CIRCLE INDEX HINGE, FIST INDEX MIDDLE, CIRCLE INDEX MIDDLE"⟩,
  ⟨0x1D810, "SIGNWRITING HAND-FIST INDEX MIDDLE ", "BENT, RAISED KNUCKLES"⟩,
  ⟨0x1D812, "SIGNWRITING HAND-FIST INDEX ", "MIDDLE HINGED, UP MIDDLE HINGED, HINGED MIDDLE UP"⟩,
  ⟨0x1D815, "SIGNWRITING HAND-FIST INDEX MIDDLE ", "CONJOINED, CONJOINED INDEX BENT"⟩,
  ⟨0x1D817, "SIGNWRITING HAND-FIST INDEX MIDDLE CONJOINED ", "MIDDLE BENT, CUPPED, HINGED"⟩,
  ⟨0x1D81A, "SIGNWRITING HAND-", "FIST INDEX MIDDLE CROSSED, CIRCLE INDEX MIDDLE CROSSED"⟩,
  ⟨0x1D81C, "SIGNWRITING HAND-FIST ", "MIDDLE BENT OVER INDEX, INDEX BENT OVER MIDDLE"⟩,
  ⟨0x1D81E, "SIGNWRITING HAND-", "FIST INDEX MIDDLE THUMB, CIRCLE INDEX MIDDLE THUMB"⟩,
  ⟨0x1D820, "SIGNWRITING HAND-FIST INDEX MIDDLE ", "STRAIGHT THUMB BENT, BENT THUMB STRAIGHT"⟩,
  ⟨0x1D822, "SIGNWRITING HAND-FIST INDEX MIDDLE ", "THUMB BENT, HINGED SPREAD THUMB SIDE"⟩,
  ⟨0x1D824, "SIGNWRITING HAND-FIST INDEX UP MIDDLE HINGED THUMB ", "SIDE, CONJOINED"⟩,
  ⟨0x1D826, "", "SIGNWRITING HAND-FIST INDEX HINGED MIDDLE UP THUMB SIDE"⟩,
  ⟨0x1D827, "", "SIGNWRITING HAND-FIST INDEX MIDDLE UP SPREAD THUMB FORWARD"⟩,
  ⟨0x1D828, "SIGNWRITING HAND-FIST INDEX MIDDLE THUMB ", "CUPPED, CIRCLED, HOOKED, HINGED"⟩,
  ⟨0x1D82C, "", "SIGNWRITING HAND-FIST THUMB BETWEEN INDEX MIDDLE STRAIGHT"⟩,
  ⟨0x1D82D, "", "SIGNWRITING HAND-FIST INDEX MIDDLE CONJOINED THUMB SIDE"⟩,
  ⟨0x1D82E, "SIGNWRITING HAND-FIST INDEX MIDDLE CONJOINED THUMB SIDE ", "CONJOINED, BENT"⟩,
  ⟨0x1D830, "SIGNWRITING HAND-FIST ", "MIDDLE THUMB HOOKED INDEX UP, INDEX THUMB HOOKED MIDDLE UP"⟩,
  ⟨0x1D832, "", "SIGNWRITING HAND-FIST INDEX MIDDLE CONJOINED HINGED THUMB SIDE"⟩,
  ⟨0x1D833, "", "SIGNWRITING HAND-FIST INDEX MIDDLE CROSSED THUMB SIDE"⟩,
  ⟨0x1D834, "SIGNWRITING HAND-FIST INDEX MIDDLE CONJOINED ", "THUMB FORWARD, CUPPED THUMB FORWARD"⟩,
  ⟨0x1D836, "SIGNWRITING HAND-FIST ", "MIDDLE THUMB CUPPED INDEX UP, INDEX THUMB CUPPED MIDDLE UP"⟩,
  ⟨0x1D838, "SIGNWRITING HAND-FIST MIDDLE THUMB CIRCLED INDEX ", "UP, HINGED"⟩,
  ⟨0x1D83A, "", "SIGNWRITING HAND-FIST INDEX THUMB ANGLED OUT MIDDLE UP"⟩,
  ⟨0x1D83B, "SIGNWRITING HAND-FIST INDEX THUMB ", "ANGLED IN MIDDLE UP, CIRCLED MIDDLE UP"⟩,
  ⟨0x1D83D, "SIGNWRITING HAND-FIST INDEX MIDDLE THUMB ", "CONJOINED HINGED, ANGLED OUT, ANGLED"⟩,
  ⟨0x1D840, "", "SIGNWRITING HAND-FIST MIDDLE THUMB ANGLED OUT INDEX UP"⟩,
  ⟨0x1D841, "SIGNWRITING HAND-FIST MIDDLE THUMB ANGLED ", "OUT INDEX CROSSED, INDEX UP"⟩,
  ⟨0x1D843, "SIGNWRITING HAND-", "FIST INDEX THUMB HOOKED MIDDLE HINGED, FLAT FOUR FINGERS"⟩,
  ⟨0x1D845, "SIGNWRITING HAND-FLAT FOUR FINGERS ", "BENT, HINGED, CONJOINED, CONJOINED SPLIT"⟩,
  ⟨0x1D849, "SIGNWRITING HAND-", "CLAW FOUR FINGERS CONJOINED, FIST FOUR FINGERS CONJOINED BENT"⟩,
  ⟨0x1D84B, "SIGNWRITING HAND-", "HINGE FOUR FINGERS CONJOINED, FLAT FIVE FINGERS SPREAD"⟩,
  ⟨0x1D84D, "SIGNWRITING HAND-FLAT ", "HEEL FIVE FINGERS SPREAD, FIVE FINGERS SPREAD FOUR BENT"⟩,
  ⟨0x1D84F, "", "SIGNWRITING HAND-FLAT HEEL FIVE FINGERS SPREAD FOUR BENT"⟩,
  ⟨0x1D850, "SIGNWRITING HAND-FLAT ", "FIVE FINGERS SPREAD BENT, HEEL FIVE FINGERS SPREAD BENT"⟩,
  ⟨0x1D852, "SIGNWRITING HAND-", "FLAT FIVE FINGERS SPREAD THUMB FORWARD, CUP FIVE FINGERS SPREAD"⟩,
  ⟨0x1D854, "SIGNWRITING HAND-", "CUP FIVE FINGERS SPREAD OPEN, HINGE FIVE FINGERS SPREAD OPEN"⟩,
  ⟨0x1D856, "SIGNWRITING HAND-", "OVAL FIVE FINGERS SPREAD, FLAT FIVE FINGERS SPREAD HINGED"⟩,
  ⟨0x1D858, "SIGNWRITING HAND-FLAT FIVE FINGERS SPREAD HINGED ", "THUMB SIDE, NO THUMB"⟩,
  ⟨0x1D85A, "SIGNWRITING HAND-", "FLAT, FLAT BETWEEN PALM FACINGS"⟩,
  ⟨0x1D85C, "SIGNWRITING HAND-FLAT ", "HEEL, THUMB SIDE, HEEL THUMB SIDE, THUMB BENT"⟩,
  ⟨0x1D860, "SIGNWRITING HAND-FLAT ", "THUMB FORWARD, SPLIT INDEX THUMB SIDE, SPLIT CENTRE"⟩,
  ⟨0x1D863, "SIGNWRITING HAND-FLAT SPLIT ", "CENTRE THUMB SIDE, CENTRE THUMB SIDE BENT, LITTLE"⟩,
  ⟨0x1D866, "SIGNWRITING HAND-", "CLAW, CLAW THUMB SIDE, CLAW NO THUMB, CLAW THUMB FORWARD"⟩,
  ⟨0x1D86A, "SIGNWRITING HAND-", "HOOK CURLICUE, HOOK, CUP OPEN, CUP, CUP OPEN THUMB SIDE"⟩,
  ⟨0x1D86F, "SIGNWRITING HAND-CUP ", "THUMB SIDE, OPEN NO THUMB, NO THUMB, OPEN THUMB FORWARD"⟩,
  ⟨0x1D873, "SIGNWRITING HAND-", "CUP THUMB FORWARD, CURLICUE OPEN, CURLICUE, CIRCLE"⟩,
  ⟨0x1D877, "SIGNWRITING HAND-", "OVAL, OVAL THUMB SIDE, OVAL NO THUMB, OVAL THUMB FORWARD"⟩,
  ⟨0x1D87B, "SIGNWRITING HAND-", "HINGE OPEN, HINGE OPEN THUMB FORWARD, HINGE, HINGE SMALL"⟩,
  ⟨0x1D87F, "SIGNWRITING HAND-HINGE ", "OPEN THUMB SIDE, THUMB SIDE, OPEN NO THUMB, NO THUMB"⟩,
  ⟨0x1D883, "SIGNWRITING HAND-HINGE THUMB ", "SIDE TOUCHING INDEX, BETWEEN MIDDLE RING"⟩,
  ⟨0x1D885, "SIGNWRITING HAND-", "ANGLE, FIST INDEX MIDDLE RING, CIRCLE INDEX MIDDLE RING"⟩,
  ⟨0x1D888, "SIGNWRITING HAND-", "HINGE INDEX MIDDLE RING, ANGLE INDEX MIDDLE RING, HINGE LITTLE"⟩,
  ⟨0x1D88B, "SIGNWRITING HAND-FIST INDEX MIDDLE RING ", "BENT, CONJOINED"⟩,
  ⟨0x1D88D, "SIGNWRITING HAND-", "HINGE INDEX MIDDLE RING CONJOINED, FIST LITTLE DOWN"⟩,
  ⟨0x1D88F, "SIGNWRITING HAND-FIST LITTLE DOWN ", "RIPPLE STRAIGHT, RIPPLE CURVED, OTHERS CIRCLED"⟩,
  ⟨0x1D892, "SIGNWRITING HAND-FIST ", "LITTLE UP, THUMB UNDER LITTLE UP"⟩,
  ⟨0x1D894, "SIGNWRITING HAND-", "CIRCLE LITTLE UP, OVAL LITTLE UP, ANGLE LITTLE UP"⟩,
  ⟨0x1D897, "SIGNWRITING HAND-FIST LITTLE ", "RAISED KNUCKLE, BENT, TOUCHES THUMB"⟩,
  ⟨0x1D89A, "SIGNWRITING HAND-", "FIST LITTLE THUMB, HINGE LITTLE THUMB"⟩,
  ⟨0x1D89C, "SIGNWRITING HAND-", "FIST LITTLE INDEX THUMB, HINGE LITTLE INDEX THUMB"⟩,
  ⟨0x1D89E, "", "SIGNWRITING HAND-ANGLE LITTLE INDEX THUMB INDEX THUMB OUT"⟩,
  ⟨0x1D89F, "SIGNWRITING HAND-", "ANGLE LITTLE INDEX THUMB INDEX THUMB, FIST LITTLE INDEX"⟩,
  ⟨0x1D8A1, "SIGNWRITING HAND-", "CIRCLE LITTLE INDEX, HINGE LITTLE INDEX, ANGLE LITTLE INDEX"⟩,
  ⟨0x1D8A4, "SIGNWRITING HAND-", "FIST INDEX MIDDLE LITTLE, CIRCLE INDEX MIDDLE LITTLE"⟩,
  ⟨0x1D8A6, "SIGNWRITING HAND-HINGE ", "INDEX MIDDLE LITTLE, RING"⟩,
  ⟨0x1D8A8, "SIGNWRITING HAND-", "ANGLE INDEX MIDDLE LITTLE, FIST INDEX MIDDLE CROSS LITTLE"⟩,
  ⟨0x1D8AA, "", "SIGNWRITING HAND-CIRCLE INDEX MIDDLE CROSS LITTLE"⟩,
  ⟨0x1D8AB, "SIGNWRITING HAND-", "FIST RING DOWN, HINGE RING DOWN INDEX THUMB HOOK MIDDLE"⟩,
  ⟨0x1D8AD, "SIGNWRITING HAND-", "ANGLE RING DOWN MIDDLE THUMB INDEX CROSS, FIST RING UP"⟩,
  ⟨0x1D8AF, "SIGNWRITING HAND-", "FIST RING RAISED KNUCKLE, FIST RING LITTLE, CIRCLE RING LITTLE"⟩,
  ⟨0x1D8B2, "SIGNWRITING HAND-", "OVAL RING LITTLE, ANGLE RING LITTLE, FIST RING MIDDLE"⟩,
  ⟨0x1D8B5, "SIGNWRITING HAND-FIST RING ", "MIDDLE CONJOINED, MIDDLE RAISED KNUCKLES, INDEX"⟩,
  ⟨0x1D8B8, "SIGNWRITING HAND-", "FIST RING THUMB, HOOK RING THUMB, FIST INDEX RING LITTLE"⟩,
  ⟨0x1D8BB, "SIGNWRITING HAND-", "CIRCLE INDEX RING LITTLE, CURLICUE INDEX RING LITTLE ON"⟩,
  ⟨0x1D8BD, "SIGNWRITING HAND-HOOK INDEX RING LITTLE ", "OUT, IN"⟩,
  ⟨0x1D8BF, "SIGNWRITING HAND-", "HOOK INDEX RING LITTLE UNDER, CUP INDEX RING LITTLE"⟩,
  ⟨0x1D8C1, "SIGNWRITING HAND-", "HINGE INDEX RING LITTLE, ANGLE INDEX RING LITTLE OUT"⟩,
  ⟨0x1D8C3, "SIGNWRITING HAND-", "ANGLE INDEX RING LITTLE, FIST MIDDLE DOWN, HINGE MIDDLE"⟩,
  ⟨0x1D8C6, "SIGNWRITING HAND-", "FIST MIDDLE UP, CIRCLE MIDDLE UP, FIST MIDDLE RAISED KNUCKLE"⟩,
  ⟨0x1D8C9, "SIGNWRITING HAND-", "FIST MIDDLE UP THUMB SIDE, HOOK MIDDLE THUMB"⟩,
  ⟨0x1D8CB, "SIGNWRITING HAND-FIST MIDDLE ", "THUMB LITTLE, LITTLE, RING LITTLE"⟩,
  ⟨0x1D8CE, "SIGNWRITING HAND-", "CIRCLE MIDDLE RING LITTLE, CURLICUE MIDDLE RING LITTLE ON"⟩,
  ⟨0x1D8D0, "SIGNWRITING HAND-", "CUP MIDDLE RING LITTLE, HINGE MIDDLE RING LITTLE"⟩,
  ⟨0x1D8D2, "SIGNWRITING HAND-ANGLE MIDDLE RING LITTLE ", "OUT, IN"⟩,
  ⟨0x1D8D4, "SIGNWRITING HAND-", "ANGLE MIDDLE RING LITTLE, CIRCLE MIDDLE RING LITTLE BENT"⟩,
  ⟨0x1D8D6, "SIGNWRITING HAND-CLAW MIDDLE RING LITTLE ", "CONJOINED, CONJOINED SIDE"⟩,
  ⟨0x1D8D8, "SIGNWRITING HAND-HOOK MIDDLE RING LITTLE CONJOINED ", "OUT, IN"⟩,
  ⟨0x1D8DA, "SIGNWRITING HAND-", "HOOK MIDDLE RING LITTLE CONJOINED, HINGE INDEX HINGED"⟩,
  ⟨0x1D8DC, "SIGNWRITING HAND-", "FIST INDEX THUMB SIDE, HINGE INDEX THUMB SIDE"⟩,
  ⟨0x1D8DE, "SIGNWRITING HAND-FIST INDEX THUMB SIDE THUMB ", "DIAGONAL, CONJOINED, BENT"⟩,
  ⟨0x1D8E1, "SIGNWRITING HAND-FIST INDEX THUMB SIDE ", "INDEX BENT, BOTH BENT, INDEX HINGE"⟩,
  ⟨0x1D8E4, "SIGNWRITING HAND-FIST INDEX THUMB FORWARD INDEX ", "STRAIGHT, BENT"⟩,
  ⟨0x1D8E6, "SIGNWRITING HAND-FIST INDEX THUMB ", "HOOK, CURLICUE, CURVE THUMB INSIDE"⟩,
  ⟨0x1D8E9, "", "SIGNWRITING HAND-CLAW INDEX THUMB CURVE THUMB INSIDE"⟩,
  ⟨0x1D8EA, "", "SIGNWRITING HAND-FIST INDEX THUMB CURVE THUMB UNDER"⟩,
  ⟨0x1D8EB, "SIGNWRITING HAND-", "FIST INDEX THUMB CIRCLE, CUP INDEX THUMB, CUP INDEX THUMB OPEN"⟩,
  ⟨0x1D8EE, "SIGNWRITING HAND-HINGE INDEX ", "THUMB OPEN, THUMB LARGE, THUMB"⟩,
  ⟨0x1D8F1, "SIGNWRITING HAND-", "HINGE INDEX THUMB SMALL, ANGLE INDEX THUMB OUT"⟩,
  ⟨0x1D8F3, "SIGNWRITING HAND-", "ANGLE INDEX THUMB IN, ANGLE INDEX THUMB, FIST THUMB"⟩,
  ⟨0x1D8F6, "SIGNWRITING HAND-FIST THUMB ", "HEEL, SIDE DIAGONAL, SIDE CONJOINED, SIDE BENT"⟩,
  ⟨0x1D8FA, "SIGNWRITING HAND-FIST THUMB ", "FORWARD, BETWEEN INDEX MIDDLE, BETWEEN MIDDLE RING"⟩,
  ⟨0x1D8FD, "SIGNWRITING HAND-FIST THUMB ", "BETWEEN RING LITTLE, UNDER TWO FINGERS"⟩,
  ⟨0x1D8FF, "SIGNWRITING HAND-FIST THUMB ", "OVER TWO FINGERS, UNDER THREE FINGERS"⟩,
  ⟨0x1D901, "SIGNWRITING HAND-FIST THUMB ", "UNDER FOUR FINGERS, OVER FOUR RAISED KNUCKLES"⟩,
  ⟨0x1D903, "SIGNWRITING ", "HAND-FIST, HAND-FIST HEEL, TOUCH SINGLE, TOUCH MULTIPLE"⟩,
  ⟨0x1D907, "SIGNWRITING ", "TOUCH BETWEEN, GRASP SINGLE, GRASP MULTIPLE, GRASP BETWEEN"⟩,
  ⟨0x1D90B, "SIGNWRITING ", "STRIKE SINGLE, STRIKE MULTIPLE, STRIKE BETWEEN, BRUSH SINGLE"⟩,
  ⟨0x1D90F, "SIGNWRITING ", "BRUSH MULTIPLE, BRUSH BETWEEN, RUB SINGLE, RUB MULTIPLE"⟩,
  ⟨0x1D913, "SIGNWRITING ", "RUB BETWEEN, SURFACE SYMBOLS, SURFACE BETWEEN, SQUEEZE LARGE SINGLE"⟩,
  ⟨0x1D917, "SIGNWRITING SQUEEZE ", "SMALL SINGLE, LARGE MULTIPLE, SMALL MULTIPLE, SEQUENTIAL"⟩,
  ⟨0x1D91B, "SIGNWRITING FLICK ", "LARGE SINGLE, SMALL SINGLE, LARGE MULTIPLE"⟩,
  ⟨0x1D91E, "SIGNWRITING ", "FLICK SMALL MULTIPLE, FLICK SEQUENTIAL, SQUEEZE FLICK ALTERNATING"⟩,
  ⟨0x1D921, "SIGNWRITING MOVEMENT-HINGE UP ", "DOWN LARGE, DOWN SMALL, SEQUENTIAL"⟩,
  ⟨0x1D924, "SIGNWRITING MOVEMENT-HINGE ", "DOWN SEQUENTIAL, UP DOWN ALTERNATING LARGE"⟩,
  ⟨0x1D926, "SIGNWRITING MOVEMENT-HINGE ", "UP DOWN ALTERNATING SMALL, SIDE TO SIDE SCISSORS"⟩,
  ⟨0x1D928, "SIGNWRITING MOVEMENT-", "WALLPLANE FINGER CONTACT, FLOORPLANE FINGER CONTACT"⟩,
  ⟨0x1D92A, "SIGNWRITING MOVEMENT-WALLPLANE SINGLE STRAIGHT ", "SMALL, MEDIUM, LARGE"⟩,
  ⟨0x1D92D, "SIGNWRITING MOVEMENT-WALLPLANE SINGLE ", "STRAIGHT LARGEST, WRIST FLEX"⟩,
  ⟨0x1D92F, "SIGNWRITING MOVEMENT-WALLPLANE DOUBLE ", "STRAIGHT, WRIST FLEX, ALTERNATING"⟩,
  ⟨0x1D932, "SIGNWRITING MOVEMENT-WALLPLANE ", "DOUBLE ALTERNATING WRIST FLEX, CROSS"⟩,
  ⟨0x1D934, "SIGNWRITING MOVEMENT-WALLPLANE TRIPLE ", "STRAIGHT MOVEMENT, WRIST FLEX"⟩,
  ⟨0x1D936, "SIGNWRITING MOVEMENT-WALLPLANE TRIPLE ", "ALTERNATING, ALTERNATING WRIST FLEX"⟩,
  ⟨0x1D938, "SIGNWRITING MOVEMENT-WALLPLANE BEND ", "SMALL, MEDIUM, LARGE"⟩,
  ⟨0x1D93B, "SIGNWRITING MOVEMENT-WALLPLANE CORNER ", "SMALL, MEDIUM, LARGE"⟩,
  ⟨0x1D93E, "SIGNWRITING MOVEMENT-WALLPLANE ", "CORNER ROTATION, CHECK SMALL, CHECK MEDIUM"⟩,
  ⟨0x1D941, "SIGNWRITING MOVEMENT-WALLPLANE ", "CHECK LARGE, BOX SMALL, BOX MEDIUM, BOX LARGE"⟩,
  ⟨0x1D945, "SIGNWRITING MOVEMENT-WALLPLANE ZIGZAG ", "SMALL, MEDIUM, LARGE"⟩,
  ⟨0x1D948, "SIGNWRITING MOVEMENT-WALLPLANE PEAKS ", "SMALL, MEDIUM, LARGE"⟩,
  ⟨0x1D94B, "SIGNWRITING TRAVEL-WALLPLANE ROTATION-WALLPLANE ", "SINGLE, DOUBLE, ALTERNATING"⟩,
  ⟨0x1D94E, "SIGNWRITING TRAVEL-WALLPLANE ROTATION-FLOORPLANE ", "SINGLE, DOUBLE"⟩,
  ⟨0x1D950, "SIGNWRITING TRAVEL-WALLPLANE ", "ROTATION-FLOORPLANE ALTERNATING, SHAKING"⟩,
  ⟨0x1D952, "SIGNWRITING TRAVEL-WALLPLANE ARM SPIRAL ", "SINGLE, DOUBLE, TRIPLE"⟩,
  ⟨0x1D955, "SIGNWRITING MOVEMENT-DIAGONAL AWAY ", "SMALL, MEDIUM, LARGE, LARGEST"⟩,
  ⟨0x1D959, "SIGNWRITING MOVEMENT-DIAGONAL TOWARDS ", "SMALL, MEDIUM, LARGE, LARGEST"⟩,
  ⟨0x1D95D, "SIGNWRITING MOVEMENT-DIAGONAL BETWEEN AWAY ", "SMALL, MEDIUM, LARGE, LARGEST"⟩,
  ⟨0x1D961, "SIGNWRITING MOVEMENT-DIAGONAL BETWEEN TOWARDS ", "SMALL, MEDIUM, LARGE, LARGEST"⟩,
  ⟨0x1D965, "SIGNWRITING MOVEMENT-FLOORPLANE SINGLE STRAIGHT ", "SMALL, MEDIUM, LARGE"⟩,
  ⟨0x1D968, "SIGNWRITING MOVEMENT-FLOORPLANE SINGLE ", "STRAIGHT LARGEST, WRIST FLEX"⟩,
  ⟨0x1D96A, "SIGNWRITING MOVEMENT-FLOORPLANE DOUBLE ", "STRAIGHT, WRIST FLEX, ALTERNATING"⟩,
  ⟨0x1D96D, "SIGNWRITING MOVEMENT-FLOORPLANE ", "DOUBLE ALTERNATING WRIST FLEX, CROSS"⟩,
  ⟨0x1D96F, "SIGNWRITING MOVEMENT-FLOORPLANE TRIPLE ", "STRAIGHT MOVEMENT, WRIST FLEX"⟩,
  ⟨0x1D971, "SIGNWRITING MOVEMENT-FLOORPLANE TRIPLE ALTERNATING ", "MOVEMENT, WRIST FLEX"⟩,
  ⟨0x1D973, "SIGNWRITING MOVEMENT-FLOORPLANE ", "BEND, CORNER SMALL, CORNER MEDIUM, CORNER LARGE"⟩,
  ⟨0x1D977, "SIGNWRITING MOVEMENT-FLOORPLANE ", "CHECK, BOX SMALL, BOX MEDIUM, BOX LARGE"⟩,
  ⟨0x1D97B, "SIGNWRITING MOVEMENT-FLOORPLANE ZIGZAG ", "SMALL, MEDIUM, LARGE"⟩,
  ⟨0x1D97E, "SIGNWRITING MOVEMENT-FLOORPLANE PEAKS ", "SMALL, MEDIUM, LARGE"⟩,
  ⟨0x1D981, "SIGNWRITING TRAVEL-FLOORPLANE ROTATION-FLOORPLANE ", "SINGLE, DOUBLE, ALTERNATING"⟩,
  ⟨0x1D984, "SIGNWRITING TRAVEL-FLOORPLANE ROTATION-WALLPLANE ", "SINGLE, DOUBLE"⟩,
  ⟨0x1D986, "SIGNWRITING TRAVEL-FLOORPLANE ", "ROTATION-WALLPLANE ALTERNATING, SHAKING"⟩,
  ⟨0x1D988, "SIGNWRITING MOVEMENT-WALLPLANE CURVE QUARTER ", "SMALL, MEDIUM, LARGE, LARGEST"⟩,
  ⟨0x1D98C, "SIGNWRITING MOVEMENT-WALLPLANE CURVE HALF-CIRCLE ", "SMALL, MEDIUM, LARGE, LARGEST"⟩,
  ⟨0x1D990, "SIGNWRITING MOVEMENT-WALLPLANE CURVE THREE-QUARTER CIRCLE ", "SMALL, MEDIUM"⟩,
  ⟨0x1D992, "SIGNWRITING MOVEMENT-WALLPLANE HUMP ", "SMALL, MEDIUM, LARGE"⟩,
  ⟨0x1D995, "SIGNWRITING MOVEMENT-WALLPLANE LOOP ", "SMALL, MEDIUM, LARGE, SMALL DOUBLE"⟩,
  ⟨0x1D999, "SIGNWRITING MOVEMENT-WALLPLANE WAVE CURVE DOUBLE ", "SMALL, MEDIUM, LARGE"⟩,
  ⟨0x1D99C, "SIGNWRITING MOVEMENT-WALLPLANE WAVE CURVE TRIPLE ", "SMALL, MEDIUM"⟩,
  ⟨0x1D99E, "SIGNWRITING MOVEMENT-WALLPLANE ", "WAVE CURVE TRIPLE LARGE, CURVE THEN STRAIGHT"⟩,
  ⟨0x1D9A0, "SIGNWRITING MOVEMENT-WALLPLANE CURVED CROSS ", "SMALL, MEDIUM"⟩,
  ⟨0x1D9A2, "SIGNWRITING ROTATION-WALLPLANE ", "SINGLE, DOUBLE"⟩,
  ⟨0x1D9A4, "SIGNWRITING ", "ROTATION-WALLPLANE ALTERNATE, MOVEMENT-WALLPLANE SHAKING"⟩,
  ⟨0x1D9A6, "SIGNWRITING MOVEMENT-WALLPLANE ", "CURVE HITTING FRONT WALL, HUMP HITTING FRONT WALL"⟩,
  ⟨0x1D9A8, "SIGNWRITING MOVEMENT-WALLPLANE ", "LOOP HITTING FRONT WALL, WAVE HITTING FRONT WALL"⟩,
  ⟨0x1D9AA, "", "SIGNWRITING ROTATION-WALLPLANE SINGLE HITTING FRONT WALL"⟩,
  ⟨0x1D9AB, "", "SIGNWRITING ROTATION-WALLPLANE DOUBLE HITTING FRONT WALL"⟩,
  ⟨0x1D9AC, "", "SIGNWRITING ROTATION-WALLPLANE ALTERNATING HITTING FRONT WALL"⟩,
  ⟨0x1D9AD, "SIGNWRITING MOVEMENT-WALLPLANE ", "CURVE HITTING CHEST, HUMP HITTING CHEST"⟩,
  ⟨0x1D9AF, "SIGNWRITING MOVEMENT-WALLPLANE ", "LOOP HITTING CHEST, WAVE HITTING CHEST"⟩,
  ⟨0x1D9B1, "", "SIGNWRITING ROTATION-WALLPLANE SINGLE HITTING CHEST"⟩,
  ⟨0x1D9B2, "SIGNWRITING ROTATION-WALLPLANE ", "DOUBLE HITTING CHEST, ALTERNATING HITTING CHEST"⟩,
  ⟨0x1D9B4, "SIGNWRITING MOVEMENT-WALLPLANE WAVE DIAGONAL PATH ", "SMALL, MEDIUM, LARGE"⟩,
  ⟨0x1D9B7, "SIGNWRITING MOVEMENT-FLOORPLANE CURVE HITTING CEILING ", "SMALL, LARGE"⟩,
  ⟨0x1D9B9, "SIGNWRITING MOVEMENT-FLOORPLANE HUMP HITTING CEILING ", "SMALL DOUBLE, LARGE DOUBLE"⟩,
  ⟨0x1D9BB, "SIGNWRITING MOVEMENT-FLOORPLANE HUMP HITTING CEILING ", "SMALL TRIPLE, LARGE TRIPLE"⟩,
  ⟨0x1D9BD, "SIGNWRITING MOVEMENT-FLOORPLANE LOOP HITTING CEILING ", "SMALL SINGLE, LARGE SINGLE"⟩,
  ⟨0x1D9BF, "SIGNWRITING MOVEMENT-FLOORPLANE LOOP HITTING CEILING ", "SMALL DOUBLE, LARGE DOUBLE"⟩,
  ⟨0x1D9C1, "SIGNWRITING MOVEMENT-FLOORPLANE WAVE HITTING CEILING ", "SMALL, LARGE"⟩,
  ⟨0x1D9C3, "SIGNWRITING ROTATION-FLOORPLANE ", "SINGLE HITTING CEILING, DOUBLE HITTING CEILING"⟩,
  ⟨0x1D9C5, "", "SIGNWRITING ROTATION-FLOORPLANE ALTERNATING HITTING CEILING"⟩,
  ⟨0x1D9C6, "SIGNWRITING MOVEMENT-FLOORPLANE CURVE HITTING FLOOR ", "SMALL, LARGE"⟩,
  ⟨0x1D9C8, "SIGNWRITING MOVEMENT-FLOORPLANE HUMP HITTING FLOOR ", "SMALL DOUBLE, LARGE DOUBLE"⟩,
  ⟨0x1D9CA, "", "SIGNWRITING MOVEMENT-FLOORPLANE HUMP HITTING FLOOR TRIPLE SMALL TRIPLE"⟩,
  ⟨0x1D9CB, "", "SIGNWRITING MOVEMENT-FLOORPLANE HUMP HITTING FLOOR TRIPLE LARGE TRIPLE"⟩,
  ⟨0x1D9CC, "SIGNWRITING MOVEMENT-FLOORPLANE LOOP HITTING FLOOR ", "SMALL SINGLE, LARGE SINGLE"⟩,
  ⟨0x1D9CE, "SIGNWRITING MOVEMENT-FLOORPLANE LOOP HITTING FLOOR ", "SMALL DOUBLE, LARGE DOUBLE"⟩,
  ⟨0x1D9D0, "SIGNWRITING MOVEMENT-FLOORPLANE WAVE HITTING FLOOR ", "SMALL, LARGE"⟩,
  ⟨0x1D9D2, "", "SIGNWRITING ROTATION-FLOORPLANE SINGLE HITTING FLOOR"⟩,
  ⟨0x1D9D3, "SIGNWRITING ROTATION-FLOORPLANE ", "DOUBLE HITTING FLOOR, ALTERNATING HITTING FLOOR"⟩,
  ⟨0x1D9D5, "SIGNWRITING MOVEMENT-FLOORPLANE CURVE ", "SMALL, MEDIUM, LARGE"⟩,
  ⟨0x1D9D8, "SIGNWRITING MOVEMENT-FLOORPLANE ", "CURVE LARGEST, CURVE COMBINED, HUMP SMALL"⟩,
  ⟨0x1D9DB, "SIGNWRITING MOVEMENT-FLOORPLANE ", "LOOP SMALL, WAVE SNAKE, WAVE SMALL, WAVE LARGE"⟩,
  ⟨0x1D9DF, "SIGNWRITING ROTATION-FLOORPLANE ", "SINGLE, DOUBLE, ALTERNATING"⟩,
  ⟨0x1D9E2, "", "SIGNWRITING MOVEMENT-FLOORPLANE SHAKING PARALLEL"⟩,
  ⟨0x1D9E3, "SIGNWRITING MOVEMENT-WALLPLANE ARM CIRCLE ", "SMALL SINGLE, MEDIUM SINGLE"⟩,
  ⟨0x1D9E5, "SIGNWRITING MOVEMENT-WALLPLANE ARM CIRCLE ", "SMALL DOUBLE, MEDIUM DOUBLE"⟩,
  ⟨0x1D9E7, "", "SIGNWRITING MOVEMENT-FLOORPLANE ARM CIRCLE HITTING WALL SMALL SINGLE"⟩,
  ⟨0x1D9E8, "", "SIGNWRITING MOVEMENT-FLOORPLANE ARM CIRCLE HITTING WALL MEDIUM SINGLE"⟩,
  ⟨0x1D9E9, "", "SIGNWRITING MOVEMENT-FLOORPLANE ARM CIRCLE HITTING WALL LARGE SINGLE"⟩,
  ⟨0x1D9EA, "", "SIGNWRITING MOVEMENT-FLOORPLANE ARM CIRCLE HITTING WALL SMALL DOUBLE"⟩,
  ⟨0x1D9EB, "", "SIGNWRITING MOVEMENT-FLOORPLANE ARM CIRCLE HITTING WALL MEDIUM DOUBLE"⟩,
  ⟨0x1D9EC, "", "SIGNWRITING MOVEMENT-FLOORPLANE ARM CIRCLE HITTING WALL LARGE DOUBLE"⟩,
  ⟨0x1D9ED, "SIGNWRITING MOVEMENT-WALLPLANE WRIST CIRCLE FRONT ", "SINGLE, DOUBLE"⟩,
  ⟨0x1D9EF, "SIGNWRITING MOVEMENT-FLOORPLANE WRIST CIRCLE HITTING WALL ", "SINGLE, DOUBLE"⟩,
  ⟨0x1D9F1, "SIGNWRITING MOVEMENT-WALLPLANE FINGER CIRCLES ", "SINGLE, DOUBLE"⟩,
  ⟨0x1D9F3, "SIGNWRITING MOVEMENT-FLOORPLANE FINGER CIRCLES HITTING WALL ", "SINGLE, DOUBLE"⟩,
  ⟨0x1D9F5, "SIGNWRITING DYNAMIC ", "ARROWHEAD SMALL, ARROWHEAD LARGE, FAST"⟩,
  ⟨0x1D9F8, "SIGNWRITING DYNAMIC ", "SLOW, TENSE, RELAXED, SIMULTANEOUS, SIMULTANEOUS ALTERNATING"⟩,
  ⟨0x1D9FD, "SIGNWRITING ", "DYNAMIC EVERY OTHER TIME, DYNAMIC GRADUAL, HEAD"⟩,
  ⟨0x1DA00, "SIGNWRITING HEAD ", "RIM, MOVEMENT-WALLPLANE STRAIGHT, MOVEMENT-WALLPLANE TILT"⟩,
  ⟨0x1DA03, "SIGNWRITING HEAD MOVEMENT-", "FLOORPLANE STRAIGHT, WALLPLANE CURVE, FLOORPLANE CURVE"⟩,
  ⟨0x1DA06, "SIGNWRITING ", "HEAD MOVEMENT CIRCLE, FACE DIRECTION POSITION NOSE FORWARD TILTING"⟩,
  ⟨0x1DA08, "SIGNWRITING FACE DIRECTION POSITION NOSE UP OR ", "DOWN, DOWN TILTING"⟩,
  ⟨0x1DA0A, "SIGNWRITING EYEBROWS STRAIGHT ", "UP, NEUTRAL, DOWN"⟩,
  ⟨0x1DA0D, "SIGNWRITING DREAMY EYEBROWS ", "NEUTRAL DOWN, DOWN NEUTRAL, UP NEUTRAL, NEUTRAL UP"⟩,
  ⟨0x1DA11, "SIGNWRITING ", "FOREHEAD NEUTRAL, FOREHEAD CONTACT, FOREHEAD WRINKLED, EYES OPEN"⟩,
  ⟨0x1DA15, "SIGNWRITING ", "EYES SQUEEZED, EYES CLOSED, EYE BLINK SINGLE, EYE BLINK MULTIPLE"⟩,
  ⟨0x1DA19, "SIGNWRITING EYES ", "HALF OPEN, WIDE OPEN, HALF CLOSED, WIDENING MOVEMENT"⟩,
  ⟨0x1DA1D, "SIGNWRITING ", "EYE WINK, EYELASHES UP, EYELASHES DOWN, EYELASHES FLUTTERING"⟩,
  ⟨0x1DA21, "SIGNWRITING EYEGAZE-WALLPLANE ", "STRAIGHT, STRAIGHT DOUBLE, STRAIGHT ALTERNATING"⟩,
  ⟨0x1DA24, "SIGNWRITING EYEGAZE-FLOORPLANE ", "STRAIGHT, STRAIGHT DOUBLE, STRAIGHT ALTERNATING"⟩,
  ⟨0x1DA27, "SIGNWRITING EYEGAZE-", "WALLPLANE CURVED, FLOORPLANE CURVED, WALLPLANE CIRCLING"⟩,
  ⟨0x1DA2A, "SIGNWRITING CHEEKS ", "PUFFED, NEUTRAL, SUCKED"⟩,
  ⟨0x1DA2D, "SIGNWRITING TENSE CHEEKS ", "HIGH, MIDDLE, LOW"⟩,
  ⟨0x1DA30, "SIGNWRITING ", "EARS, NOSE NEUTRAL, NOSE CONTACT, NOSE WRINKLES, NOSE WIGGLES"⟩,
  ⟨0x1DA35, "SIGNWRITING AIR ", "BLOWING OUT, SUCKING IN, BLOW SMALL ROTATIONS"⟩,
  ⟨0x1DA38, "SIGNWRITING ", "AIR SUCK SMALL ROTATIONS, BREATH INHALE, BREATH EXHALE"⟩,
  ⟨0x1DA3B, "SIGNWRITING MOUTH ", "CLOSED NEUTRAL, CLOSED FORWARD, CLOSED CONTACT, SMILE"⟩,
  ⟨0x1DA3F, "SIGNWRITING MOUTH ", "SMILE WRINKLED, SMILE OPEN, FROWN, FROWN WRINKLED, FROWN OPEN"⟩,
  ⟨0x1DA44, "SIGNWRITING MOUTH OPEN ", "CIRCLE, FORWARD, WRINKLED, OVAL"⟩,
  ⟨0x1DA48, "SIGNWRITING MOUTH OPEN ", "OVAL WRINKLED, OVAL YAWN, RECTANGLE, RECTANGLE WRINKLED"⟩,
  ⟨0x1DA4C, "SIGNWRITING MOUTH ", "OPEN RECTANGLE YAWN, KISS, KISS FORWARD"⟩,
  ⟨0x1DA4F, "SIGNWRITING MOUTH ", "KISS WRINKLED, TENSE, TENSE FORWARD, TENSE SUCKED"⟩,
  ⟨0x1DA53, "SIGNWRITING ", "LIPS PRESSED TOGETHER, LIP LOWER OVER UPPER, LIP UPPER OVER LOWER"⟩,
  ⟨0x1DA56, "SIGNWRITING MOUTH ", "CORNERS, WRINKLES SINGLE, WRINKLES DOUBLE"⟩,
  ⟨0x1DA59, "SIGNWRITING TONGUE ", "STICKING OUT FAR, LICKING LIPS, TIP BETWEEN LIPS"⟩,
  ⟨0x1DA5C, "SIGNWRITING TONGUE ", "TIP TOUCHING INSIDE MOUTH, INSIDE MOUTH RELAXED"⟩,
  ⟨0x1DA5E, "SIGNWRITING TONGUE ", "MOVES AGAINST CHEEK, CENTRE STICKING OUT"⟩,
  ⟨0x1DA60, "SIGNWRITING ", "TONGUE CENTRE INSIDE MOUTH, TEETH, TEETH MOVEMENT"⟩,
  ⟨0x1DA63, "SIGNWRITING TEETH ON ", "TONGUE, TONGUE MOVEMENT, LIPS, LIPS MOVEMENT"⟩,
  ⟨0x1DA67, "SIGNWRITING ", "TEETH BITE LIPS, MOVEMENT-WALLPLANE JAW, MOVEMENT-FLOORPLANE JAW"⟩,
  ⟨0x1DA6A, "SIGNWRITING ", "NECK, HAIR, EXCITEMENT, SHOULDER HIP SPINE, SHOULDER HIP POSITIONS"⟩,
  ⟨0x1DA6F, "SIGNWRITING ", "WALLPLANE SHOULDER HIP MOVE, FLOORPLANE SHOULDER HIP MOVE"⟩,
  ⟨0x1DA71, "SIGNWRITING ", "SHOULDER TILTING FROM WAIST, TORSO-WALLPLANE STRAIGHT STRETCH"⟩,
  ⟨0x1DA73, "SIGNWRITING TORSO-", "WALLPLANE CURVED BEND, FLOORPLANE TWISTING"⟩,
  ⟨0x1DA75, "SIGNWRITING ", "UPPER BODY TILTING FROM HIP JOINTS, LIMB COMBINATION"⟩,
  ⟨0x1DA77, "SIGNWRITING LIMB LENGTH-", "1, 2, 3, 4, 5, 6, 7"⟩,
  ⟨0x1DA7E, "SIGNWRITING ", "FINGER, LOCATION-WALLPLANE SPACE, LOCATION-FLOORPLANE SPACE"⟩,
  ⟨0x1DA81, "SIGNWRITING LOCATION ", "HEIGHT, WIDTH, DEPTH, HEAD NECK, TORSO, LIMBS DIGITS"⟩,
  ⟨0x1DA87, "SIGNWRITING ", "COMMA, FULL STOP, SEMICOLON, COLON, PARENTHESIS"⟩,
  ⟨0x1DA9B, "SIGNWRITING FILL MODIFIER-", "2, 3, 4, 5, 6"⟩,
  ⟨0x1DAA1, "SIGNWRITING ROTATION MODIFIER-", "2, 3, 4, 5, 6, 7, 8, 9, 10, 11, 12, 13, 14, 15, 16"⟩]

end BatchExec
