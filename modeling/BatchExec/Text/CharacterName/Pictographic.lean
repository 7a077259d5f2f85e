import BatchExec.Text.CharacterName.Row

/-!
# Pictographs

The names of tiles, cards, pictographs and emoticons.
-/

namespace BatchExec

/-- The names of tiles, cards, pictographs and emoticons. -/
def pictographicNames : List NameRow := [
  ⟨0x1F000, "MAHJONG TILE ", "EAST WIND, SOUTH WIND"⟩,
  ⟨0x1F002, "MAHJONG TILE ", "WEST WIND, NORTH WIND, RED DRAGON, GREEN DRAGON, WHITE DRAGON"⟩,
  ⟨0x1F007, "MAHJONG TILE ", "ONE OF CHARACTERS, TWO OF CHARACTERS, THREE OF CHARACTERS"⟩,
  ⟨0x1F00A, "MAHJONG TILE ", "FOUR OF CHARACTERS, FIVE OF CHARACTERS, SIX OF CHARACTERS"⟩,
  ⟨0x1F00D, "MAHJONG TILE ", "SEVEN OF CHARACTERS, EIGHT OF CHARACTERS, NINE OF CHARACTERS"⟩,
  ⟨0x1F010, "MAHJONG TILE ", "ONE OF BAMBOOS, TWO OF BAMBOOS, THREE OF BAMBOOS"⟩,
  ⟨0x1F013, "MAHJONG TILE ", "FOUR OF BAMBOOS, FIVE OF BAMBOOS, SIX OF BAMBOOS, SEVEN OF BAMBOOS"⟩,
  ⟨0x1F017, "MAHJONG TILE ", "EIGHT OF BAMBOOS, NINE OF BAMBOOS, ONE OF CIRCLES, TWO OF CIRCLES"⟩,
  ⟨0x1F01B, "MAHJONG TILE ", "THREE OF CIRCLES, FOUR OF CIRCLES, FIVE OF CIRCLES, SIX OF CIRCLES"⟩,
  ⟨0x1F01F, "MAHJONG TILE ", "SEVEN OF CIRCLES, EIGHT OF CIRCLES, NINE OF CIRCLES, PLUM, ORCHID"⟩,
  ⟨0x1F024, "MAHJONG TILE ", "BAMBOO, CHRYSANTHEMUM, SPRING, SUMMER, AUTUMN, WINTER, JOKER, BACK"⟩,
  ⟨0x1F030, "", "DOMINO TILE HORIZONTAL BACK"⟩,
  ⟨0x1F031, "DOMINO TILE HORIZONTAL-00-", "00, 01, 02, 03, 04, 05, 06"⟩,
  ⟨0x1F038, "DOMINO TILE HORIZONTAL-", "01-00, 01-01, 01-02, 01-03, 01-04, 01-05, 01-06, 02-00"⟩,
  ⟨0x1F040, "DOMINO TILE HORIZONTAL-", "02-01, 02-02, 02-03, 02-04, 02-05, 02-06, 03-00, 03-01"⟩,
  ⟨0x1F048, "DOMINO TILE HORIZONTAL-", "03-02, 03-03, 03-04, 03-05, 03-06, 04-00, 04-01, 04-02"⟩,
  ⟨0x1F050, "DOMINO TILE HORIZONTAL-", "04-03, 04-04, 04-05, 04-06, 05-00, 05-01, 05-02, 05-03"⟩,
  ⟨0x1F058, "DOMINO TILE HORIZONTAL-", "05-04, 05-05, 05-06, 06-00, 06-01, 06-02, 06-03, 06-04"⟩,
  ⟨0x1F060, "DOMINO TILE ", "HORIZONTAL-06-05, HORIZONTAL-06-06, VERTICAL BACK, VERTICAL-00-00"⟩,
  ⟨0x1F064, "DOMINO TILE VERTICAL-", "00-01, 00-02, 00-03, 00-04, 00-05, 00-06, 01-00, 01-01"⟩,
  ⟨0x1F06C, "DOMINO TILE VERTICAL-", "01-02, 01-03, 01-04, 01-05, 01-06, 02-00, 02-01, 02-02"⟩,
  ⟨0x1F074, "DOMINO TILE VERTICAL-", "02-03, 02-04, 02-05, 02-06, 03-00, 03-01, 03-02, 03-03"⟩,
  ⟨0x1F07C, "DOMINO TILE VERTICAL-", "03-04, 03-05, 03-06, 04-00, 04-01, 04-02, 04-03, 04-04"⟩,
  ⟨0x1F084, "DOMINO TILE VERTICAL-", "04-05, 04-06, 05-00, 05-01, 05-02, 05-03, 05-04, 05-05"⟩,
  ⟨0x1F08C, "DOMINO TILE VERTICAL-", "05-06, 06-00, 06-01, 06-02, 06-03, 06-04, 06-05, 06-06"⟩,
  ⟨0x1F0A0, "PLAYING CARD ", "BACK, ACE OF SPADES, TWO OF SPADES"⟩,
  ⟨0x1F0A3, "PLAYING CARD ", "THREE OF SPADES, FOUR OF SPADES, FIVE OF SPADES, SIX OF SPADES"⟩,
  ⟨0x1F0A7, "PLAYING CARD ", "SEVEN OF SPADES, EIGHT OF SPADES, NINE OF SPADES, TEN OF SPADES"⟩,
  ⟨0x1F0AB, "PLAYING CARD ", "JACK OF SPADES, KNIGHT OF SPADES, QUEEN OF SPADES, KING OF SPADES"⟩,
  ⟨0x1F0B1, "PLAYING CARD ", "ACE OF HEARTS, TWO OF HEARTS, THREE OF HEARTS"⟩,
  ⟨0x1F0B4, "PLAYING CARD ", "FOUR OF HEARTS, FIVE OF HEARTS, SIX OF HEARTS, SEVEN OF HEARTS"⟩,
  ⟨0x1F0B8, "PLAYING CARD ", "EIGHT OF HEARTS, NINE OF HEARTS, TEN OF HEARTS, JACK OF HEARTS"⟩,
  ⟨0x1F0BC, "PLAYING CARD ", "KNIGHT OF HEARTS, QUEEN OF HEARTS, KING OF HEARTS, RED JOKER"⟩,
  ⟨0x1F0C1, "PLAYING CARD ", "ACE OF DIAMONDS, TWO OF DIAMONDS, THREE OF DIAMONDS"⟩,
  ⟨0x1F0C4, "PLAYING CARD ", "FOUR OF DIAMONDS, FIVE OF DIAMONDS, SIX OF DIAMONDS"⟩,
  ⟨0x1F0C7, "PLAYING CARD ", "SEVEN OF DIAMONDS, EIGHT OF DIAMONDS, NINE OF DIAMONDS"⟩,
  ⟨0x1F0CA, "PLAYING CARD ", "TEN OF DIAMONDS, JACK OF DIAMONDS, KNIGHT OF DIAMONDS"⟩,
  ⟨0x1F0CD, "PLAYING CARD ", "QUEEN OF DIAMONDS, KING OF DIAMONDS, BLACK JOKER"⟩,
  ⟨0x1F0D1, "PLAYING CARD ", "ACE OF CLUBS, TWO OF CLUBS"⟩,
  ⟨0x1F0D3, "PLAYING CARD ", "THREE OF CLUBS, FOUR OF CLUBS, FIVE OF CLUBS, SIX OF CLUBS"⟩,
  ⟨0x1F0D7, "PLAYING CARD ", "SEVEN OF CLUBS, EIGHT OF CLUBS, NINE OF CLUBS, TEN OF CLUBS"⟩,
  ⟨0x1F0DB, "PLAYING CARD ", "JACK OF CLUBS, KNIGHT OF CLUBS, QUEEN OF CLUBS, KING OF CLUBS"⟩,
  ⟨0x1F0DF, "PLAYING CARD ", "WHITE JOKER, FOOL, TRUMP-1, TRUMP-2, TRUMP-3, TRUMP-4"⟩,
  ⟨0x1F0E5, "PLAYING CARD TRUMP-", "5, 6, 7, 8, 9, 10, 11, 12, 13, 14, 15, 16, 17, 18, 19, 20, 21"⟩,
  ⟨0x1F100, "DIGIT ", "ZERO FULL STOP, ZERO COMMA, ONE COMMA"⟩,
  ⟨0x1F103, "DIGIT ", "TWO COMMA, THREE COMMA, FOUR COMMA, FIVE COMMA, SIX COMMA, SEVEN COMMA"⟩,
  ⟨0x1F109, "", "DIGIT EIGHT COMMA, DIGIT NINE COMMA, DINGBAT CIRCLED SANS-SERIF DIGIT ZERO"⟩,
  ⟨0x1F10C, "", "DINGBAT NEGATIVE CIRCLED SANS-SERIF DIGIT ZERO, CIRCLED ZERO WITH SLASH"⟩,
  ⟨0x1F10E, "CIRCLED ", "ANTICLOCKWISE ARROW, DOLLAR SIGN WITH OVERLAID BACKSLASH"⟩,
  ⟨0x1F110, "PARENTHESIZED LATIN CAPITAL LETTER ", "A, B, C, D, E, F, G, H, I, J, K"⟩,
  ⟨0x1F11B, "PARENTHESIZED LATIN CAPITAL LETTER ", "L, M, N, O, P, Q, R, S, T, U, V, W, X, Y, Z"⟩,
  ⟨0x1F12A, "", "TORTOISE SHELL BRACKETED LATIN CAPITAL LETTER S"⟩,
  ⟨0x1F12B, "", "CIRCLED ITALIC LATIN CAPITAL LETTER C"⟩,
  ⟨0x1F12C, "", "CIRCLED ITALIC LATIN CAPITAL LETTER R, CIRCLED CD, CIRCLED WZ, COPYLEFT SYMBOL"⟩,
  ⟨0x1F130, "SQUARED LATIN CAPITAL LETTER ", "A, B, C, D, E, F, G"⟩,
  ⟨0x1F137, "SQUARED LATIN CAPITAL LETTER ", "H, I, J, K, L, M, N, O, P, Q, R, S, T, U, V, W, X"⟩,
  ⟨0x1F148, "SQUARED ", "LATIN CAPITAL LETTER Y, LATIN CAPITAL LETTER Z, HV, MV, SD, SS, PPV, WC"⟩,
  ⟨0x1F150, "NEGATIVE CIRCLED LATIN CAPITAL LETTER ", "A, B, C, D, E, F, G, H, I, J, K, L"⟩,
  ⟨0x1F15C, "NEGATIVE CIRCLED LATIN CAPITAL LETTER ", "M, N, O, P, Q, R, S, T, U, V, W, X, Y, Z"⟩,
  ⟨0x1F16A, "RAISED ", "MC SIGN, MD SIGN, MR SIGN"⟩,
  ⟨0x1F16D, "CIRCLED ", "CC, C WITH OVERLAID BACKSLASH, HUMAN FIGURE"⟩,
  ⟨0x1F170, "NEGATIVE SQUARED LATIN CAPITAL LETTER ", "A, B, C, D, E, F, G, H, I, J, K, L"⟩,
  ⟨0x1F17C, "NEGATIVE SQUARED LATIN CAPITAL LETTER ", "M, N, O, P, Q, R, S, T, U, V, W, X, Y, Z"⟩,
  ⟨0x1F18A, "", "CROSSED NEGATIVE SQUARED LATIN CAPITAL LETTER P"⟩,
  ⟨0x1F18B, "NEGATIVE SQUARED ", "IC, PA, SA, AB, WC"⟩,
  ⟨0x1F190, "", "SQUARE DJ, SQUARED CL, SQUARED COOL, SQUARED FREE, SQUARED ID, SQUARED NEW"⟩,
  ⟨0x1F196, "SQUARED ", "NG, OK, SOS, UP WITH EXCLAMATION MARK, VS, THREE D, SECOND SCREEN, TWO K"⟩,
  ⟨0x1F19E, "SQUARED ", "FOUR K, EIGHT K, FIVE POINT ONE, SEVEN POINT ONE, TWENTY-TWO POINT TWO"⟩,
  ⟨0x1F1A3, "SQUARED ", "SIXTY P, ONE HUNDRED TWENTY P, LATIN SMALL LETTER D, HC, HDR, HI-RES"⟩,
  ⟨0x1F1A9, "", "SQUARED LOSSLESS, SQUARED SHV, SQUARED UHD, SQUARED VOD, MASK WORK SYMBOL"⟩,
  ⟨0x1F1E6, "REGIONAL INDICATOR SYMBOL LETTER ", "A, B, C, D, E, F, G, H, I, J"⟩,
  ⟨0x1F1F0, "REGIONAL INDICATOR SYMBOL LETTER ", "K, L, M, N, O, P, Q, R, S, T, U, V, W, X, Y, Z"⟩,
  ⟨0x1F300, "", "CYCLONE, FOGGY, CLOSED UMBRELLA, NIGHT WITH STARS, SUNRISE OVER MOUNTAINS"⟩,
  ⟨0x1F305, "", "SUNRISE, CITYSCAPE AT DUSK, SUNSET OVER BUILDINGS, RAINBOW"⟩,
  ⟨0x1F309, "", "BRIDGE AT NIGHT, WATER WAVE, VOLCANO, MILKY WAY, EARTH GLOBE EUROPE-AFRICA"⟩,
  ⟨0x1F30E, "", "EARTH GLOBE AMERICAS, EARTH GLOBE ASIA-AUSTRALIA, GLOBE WITH MERIDIANS"⟩,
  ⟨0x1F311, "", "NEW MOON SYMBOL, WAXING CRESCENT MOON SYMBOL, FIRST QUARTER MOON SYMBOL"⟩,
  ⟨0x1F314, "", "WAXING GIBBOUS MOON SYMBOL, FULL MOON SYMBOL, WANING GIBBOUS MOON SYMBOL"⟩,
  ⟨0x1F317, "", "LAST QUARTER MOON SYMBOL, WANING CRESCENT MOON SYMBOL, CRESCENT MOON"⟩,
  ⟨0x1F31A, "", "NEW MOON WITH FACE, FIRST QUARTER MOON WITH FACE, LAST QUARTER MOON WITH FACE"⟩,
  ⟨0x1F31D, "", "FULL MOON WITH FACE, SUN WITH FACE, GLOWING STAR, SHOOTING STAR, THERMOMETER"⟩,
  ⟨0x1F322, "", "BLACK DROPLET, WHITE SUN, WHITE SUN WITH SMALL CLOUD, WHITE SUN BEHIND CLOUD"⟩,
  ⟨0x1F326, "", "WHITE SUN BEHIND CLOUD WITH RAIN, CLOUD WITH RAIN, CLOUD WITH SNOW"⟩,
  ⟨0x1F329, "", "CLOUD WITH LIGHTNING, CLOUD WITH TORNADO, FOG, WIND BLOWING FACE, HOT DOG"⟩,
  ⟨0x1F32E, "", "TACO, BURRITO, CHESTNUT, SEEDLING, EVERGREEN TREE, DECIDUOUS TREE, PALM TREE"⟩,
  ⟨0x1F335, "", "CACTUS, HOT PEPPER, TULIP, CHERRY BLOSSOM, ROSE, HIBISCUS, SUNFLOWER, BLOSSOM"⟩,
  ⟨0x1F33D, "", "EAR OF MAIZE, EAR OF RICE, HERB, FOUR LEAF CLOVER, MAPLE LEAF, FALLEN LEAF"⟩,
  ⟨0x1F343, "", "LEAF FLUTTERING IN WIND, MUSHROOM, TOMATO, AUBERGINE, GRAPES, MELON, WATERMELON"⟩,
  ⟨0x1F34A, "", "TANGERINE, LEMON, BANANA, PINEAPPLE, RED APPLE, GREEN APPLE, PEAR, PEACH"⟩,
  ⟨0x1F352, "", "CHERRIES, STRAWBERRY, HAMBURGER, SLICE OF PIZZA, MEAT ON BONE, POULTRY LEG"⟩,
  ⟨0x1F358, "", "RICE CRACKER, RICE BALL, COOKED RICE, CURRY AND RICE, STEAMING BOWL, SPAGHETTI"⟩,
  ⟨0x1F35E, "", "BREAD, FRENCH FRIES, ROASTED SWEET POTATO, DANGO, ODEN, SUSHI, FRIED SHRIMP"⟩,
  ⟨0x1F365, "", "FISH CAKE WITH SWIRL DESIGN, SOFT ICE CREAM, SHAVED ICE, ICE CREAM, DOUGHNUT"⟩,
  ⟨0x1F36A, "", "COOKIE, CHOCOLATE BAR, CANDY, LOLLIPOP, CUSTARD, HONEY POT, SHORTCAKE, BENTO BOX"⟩,
  ⟨0x1F372, "", "POT OF FOOD, COOKING, FORK AND KNIFE, TEACUP WITHOUT HANDLE, SAKE BOTTLE AND CUP"⟩,
  ⟨0x1F377, "", "WINE GLASS, COCKTAIL GLASS, TROPICAL DRINK, BEER MUG, CLINKING BEER MUGS"⟩,
  ⟨0x1F37C, "", "BABY BOTTLE, FORK AND KNIFE WITH PLATE, BOTTLE WITH POPPING CORK"⟩,
  ⟨0x1F37F, "", "POPCORN, RIBBON, WRAPPED PRESENT, BIRTHDAY CAKE, JACK-O-LANTERN"⟩,
  ⟨0x1F384, "", "CHRISTMAS TREE, FATHER CHRISTMAS, FIREWORKS, FIREWORK SPARKLER, BALLOON"⟩,
  ⟨0x1F389, "", "PARTY POPPER, CONFETTI BALL, TANABATA TREE, CROSSED FLAGS, PINE DECORATION"⟩,
  ⟨0x1F38E, "", "JAPANESE DOLLS, CARP STREAMER, WIND CHIME, MOON VIEWING CEREMONY"⟩,
  ⟨0x1F392, "", "SCHOOL SATCHEL, GRADUATION CAP, HEART WITH TIP ON THE LEFT"⟩,
  ⟨0x1F395, "", "BOUQUET OF FLOWERS, MILITARY MEDAL, REMINDER RIBBON, MUSICAL KEYBOARD WITH JACKS"⟩,
  ⟨0x1F399, "", "STUDIO MICROPHONE, LEVEL SLIDER, CONTROL KNOBS, BEAMED ASCENDING MUSICAL NOTES"⟩,
  ⟨0x1F39D, "", "BEAMED DESCENDING MUSICAL NOTES, FILM FRAMES, ADMISSION TICKETS"⟩,
  ⟨0x1F3A0, "", "CAROUSEL HORSE, FERRIS WHEEL, ROLLER COASTER, FISHING POLE AND FISH"⟩,
  ⟨0x1F3A4, "", "MICROPHONE, MOVIE CAMERA, CINEMA, HEADPHONE, ARTIST PALETTE"⟩,
  ⟨0x1F3A9, "", "TOP HAT, CIRCUS TENT, TICKET, CLAPPER BOARD, PERFORMING ARTS, VIDEO GAME"⟩,
  ⟨0x1F3AF, "", "DIRECT HIT, SLOT MACHINE, BILLIARDS, GAME DIE, BOWLING, FLOWER PLAYING CARDS"⟩,
  ⟨0x1F3B5, "", "MUSICAL NOTE, MULTIPLE MUSICAL NOTES, SAXOPHONE, GUITAR, MUSICAL KEYBOARD"⟩,
  ⟨0x1F3BA, "", "TRUMPET, VIOLIN, MUSICAL SCORE, RUNNING SHIRT WITH SASH, TENNIS RACQUET AND BALL"⟩,
  ⟨0x1F3BF, "", "SKI AND SKI BOOT, BASKETBALL AND HOOP, CHEQUERED FLAG, SNOWBOARDER"⟩,
  ⟨0x1F3C3, "", "RUNNER, SURFER, SPORTS MEDAL, TROPHY, HORSE RACING, AMERICAN FOOTBALL"⟩,
  ⟨0x1F3C9, "", "RUGBY FOOTBALL, SWIMMER, WEIGHT LIFTER, GOLFER, RACING MOTORCYCLE"⟩,
  ⟨0x1F3CE, "", "RACING CAR, CRICKET BAT AND BALL, VOLLEYBALL, FIELD HOCKEY STICK AND BALL"⟩,
  ⟨0x1F3D2, "", "ICE HOCKEY STICK AND PUCK, TABLE TENNIS PADDLE AND BALL"⟩,
  ⟨0x1F3D4, "", "SNOW CAPPED MOUNTAIN, CAMPING, BEACH WITH UMBRELLA, BUILDING CONSTRUCTION"⟩,
  ⟨0x1F3D8, "", "HOUSE BUILDINGS, CITYSCAPE, DERELICT HOUSE BUILDING, CLASSICAL BUILDING"⟩,
  ⟨0x1F3DC, "", "DESERT, DESERT ISLAND, NATIONAL PARK, STADIUM, HOUSE BUILDING, HOUSE WITH GARDEN"⟩,
  ⟨0x1F3E2, "", "OFFICE BUILDING, JAPANESE POST OFFICE, EUROPEAN POST OFFICE, HOSPITAL"⟩,
  ⟨0x1F3E6, "", "BANK, AUTOMATED TELLER MACHINE, HOTEL, LOVE HOTEL, CONVENIENCE STORE, SCHOOL"⟩,
  ⟨0x1F3EC, "", "DEPARTMENT STORE, FACTORY, IZAKAYA LANTERN, JAPANESE CASTLE, EUROPEAN CASTLE"⟩,
  ⟨0x1F3F1, "", "WHITE PENNANT, BLACK PENNANT, WAVING WHITE FLAG, WAVING BLACK FLAG, ROSETTE"⟩,
  ⟨0x1F3F6, "", "BLACK ROSETTE, LABEL, BADMINTON RACQUET AND SHUTTLECOCK, BOW AND ARROW, AMPHORA"⟩,
  ⟨0x1F3FB, "EMOJI MODIFIER FITZPATRICK TYPE-", "1-2, 3, 4, 5"⟩,
  ⟨0x1F3FF, "", "EMOJI MODIFIER FITZPATRICK TYPE-6, RAT, MOUSE, OX, WATER BUFFALO"⟩,
  ⟨0x1F404, "", "COW, TIGER, LEOPARD, RABBIT, CAT, DRAGON, CROCODILE, WHALE, SNAIL, SNAKE, HORSE"⟩,
  ⟨0x1F40F, "", "RAM, GOAT, SHEEP, MONKEY, ROOSTER, CHICKEN, DOG, PIG, BOAR, ELEPHANT, OCTOPUS"⟩,
  ⟨0x1F41A, "", "SPIRAL SHELL, BUG, ANT, HONEYBEE, LADY BEETLE, FISH, TROPICAL FISH, BLOWFISH"⟩,
  ⟨0x1F422, "", "TURTLE, HATCHING CHICK, BABY CHICK, FRONT-FACING BABY CHICK, BIRD, PENGUIN"⟩,
  ⟨0x1F428, "", "KOALA, POODLE, DROMEDARY CAMEL, BACTRIAN CAMEL, DOLPHIN, MOUSE FACE, COW FACE"⟩,
  ⟨0x1F42F, "", "TIGER FACE, RABBIT FACE, CAT FACE, DRAGON FACE, SPOUTING WHALE, HORSE FACE"⟩,
  ⟨0x1F435, "", "MONKEY FACE, DOG FACE, PIG FACE, FROG FACE, HAMSTER FACE, WOLF FACE, BEAR FACE"⟩,
  ⟨0x1F43C, "", "PANDA FACE, PIG NOSE, PAW PRINTS, CHIPMUNK, EYES, EYE, EAR, NOSE, MOUTH"⟩,
  ⟨0x1F445, "", "TONGUE, WHITE UP POINTING BACKHAND INDEX, WHITE DOWN POINTING BACKHAND INDEX"⟩,
  ⟨0x1F448, "WHITE ", "LEFT POINTING BACKHAND INDEX, RIGHT POINTING BACKHAND INDEX"⟩,
  ⟨0x1F44A, "", "FISTED HAND SIGN, WAVING HAND SIGN, OK HAND SIGN, THUMBS UP SIGN"⟩,
  ⟨0x1F44E, "", "THUMBS DOWN SIGN, CLAPPING HANDS SIGN, OPEN HANDS SIGN, CROWN, WOMANS HAT"⟩,
  ⟨0x1F453, "", "EYEGLASSES, NECKTIE, T-SHIRT, JEANS, DRESS, KIMONO, BIKINI, WOMANS CLOTHES"⟩,
  ⟨0x1F45B, "", "PURSE, HANDBAG, POUCH, MANS SHOE, ATHLETIC SHOE, HIGH-HEELED SHOE, WOMANS SANDAL"⟩,
  ⟨0x1F462, "", "WOMANS BOOTS, FOOTPRINTS, BUST IN SILHOUETTE, BUSTS IN SILHOUETTE, BOY"⟩,
  ⟨0x1F467, "", "GIRL, MAN, WOMAN, FAMILY, MAN AND WOMAN HOLDING HANDS, TWO MEN HOLDING HANDS"⟩,
  ⟨0x1F46D, "", "TWO WOMEN HOLDING HANDS, POLICE OFFICER, WOMAN WITH BUNNY EARS, BRIDE WITH VEIL"⟩,
  ⟨0x1F471, "", "PERSON WITH BLOND HAIR, MAN WITH GUA PI MAO, MAN WITH TURBAN, OLDER MAN"⟩,
  ⟨0x1F475, "", "OLDER WOMAN, BABY, CONSTRUCTION WORKER, PRINCESS, JAPANESE OGRE, JAPANESE GOBLIN"⟩,
  ⟨0x1F47B, "", "GHOST, BABY ANGEL, EXTRATERRESTRIAL ALIEN, ALIEN MONSTER, IMP, SKULL"⟩,
  ⟨0x1F481, "", "INFORMATION DESK PERSON, GUARDSMAN, DANCER, LIPSTICK, NAIL POLISH, FACE MASSAGE"⟩,
  ⟨0x1F487, "", "HAIRCUT, BARBER POLE, SYRINGE, PILL, KISS MARK, LOVE LETTER, RING, GEM STONE"⟩,
  ⟨0x1F48F, "", "KISS, BOUQUET, COUPLE WITH HEART, WEDDING, BEATING HEART, BROKEN HEART"⟩,
  ⟨0x1F495, "", "TWO HEARTS, SPARKLING HEART, GROWING HEART, HEART WITH ARROW, BLUE HEART"⟩,
  ⟨0x1F49A, "", "GREEN HEART, YELLOW HEART, PURPLE HEART, HEART WITH RIBBON, REVOLVING HEARTS"⟩,
  ⟨0x1F49F, "", "HEART DECORATION, DIAMOND SHAPE WITH A DOT INSIDE, ELECTRIC LIGHT BULB"⟩,
  ⟨0x1F4A2, "", "ANGER SYMBOL, BOMB, SLEEPING SYMBOL, COLLISION SYMBOL, SPLASHING SWEAT SYMBOL"⟩,
  ⟨0x1F4A7, "", "DROPLET, DASH SYMBOL, PILE OF POO, FLEXED BICEPS, DIZZY SYMBOL"⟩,
  ⟨0x1F4AC, "", "SPEECH BALLOON, THOUGHT BALLOON, WHITE FLOWER, HUNDRED POINTS SYMBOL"⟩,
  ⟨0x1F4B0, "", "MONEY BAG, CURRENCY EXCHANGE, HEAVY DOLLAR SIGN, CREDIT CARD"⟩,
  ⟨0x1F4B4, "BANKNOTE WITH ", "YEN SIGN, DOLLAR SIGN, EURO SIGN, POUND SIGN"⟩,
  ⟨0x1F4B8, "", "MONEY WITH WINGS, CHART WITH UPWARDS TREND AND YEN SIGN"⟩,
  ⟨0x1F4BA, "", "SEAT, PERSONAL COMPUTER, BRIEFCASE, MINIDISC, FLOPPY DISK"⟩,
  ⟨0x1F4BF, "", "OPTICAL DISC, DVD, FILE FOLDER, OPEN FILE FOLDER, PAGE WITH CURL, PAGE FACING UP"⟩,
  ⟨0x1F4C5, "", "CALENDAR, TEAR-OFF CALENDAR, CARD INDEX, CHART WITH UPWARDS TREND"⟩,
  ⟨0x1F4C9, "", "CHART WITH DOWNWARDS TREND, BAR CHART, CLIPBOARD, PUSHPIN, ROUND PUSHPIN"⟩,
  ⟨0x1F4CE, "", "PAPERCLIP, STRAIGHT RULER, TRIANGULAR RULER, BOOKMARK TABS, LEDGER, NOTEBOOK"⟩,
  ⟨0x1F4D4, "", "NOTEBOOK WITH DECORATIVE COVER, CLOSED BOOK, OPEN BOOK, GREEN BOOK, BLUE BOOK"⟩,
  ⟨0x1F4D9, "", "ORANGE BOOK, BOOKS, NAME BADGE, SCROLL, MEMO, TELEPHONE RECEIVER, PAGER"⟩,
  ⟨0x1F4E0, "", "FAX MACHINE, SATELLITE ANTENNA, PUBLIC ADDRESS LOUDSPEAKER, CHEERING MEGAPHONE"⟩,
  ⟨0x1F4E4, "", "OUTBOX TRAY, INBOX TRAY, PACKAGE, E-MAIL SYMBOL, INCOMING ENVELOPE"⟩,
  ⟨0x1F4E9, "", "ENVELOPE WITH DOWNWARDS ARROW ABOVE, CLOSED MAILBOX WITH LOWERED FLAG"⟩,
  ⟨0x1F4EB, "", "CLOSED MAILBOX WITH RAISED FLAG, OPEN MAILBOX WITH RAISED FLAG"⟩,
  ⟨0x1F4ED, "", "OPEN MAILBOX WITH LOWERED FLAG, POSTBOX, POSTAL HORN, NEWSPAPER, MOBILE PHONE"⟩,
  ⟨0x1F4F2, "", "MOBILE PHONE WITH RIGHTWARDS ARROW AT LEFT, VIBRATION MODE, MOBILE PHONE OFF"⟩,
  ⟨0x1F4F5, "", "NO MOBILE PHONES, ANTENNA WITH BARS, CAMERA, CAMERA WITH FLASH, VIDEO CAMERA"⟩,
  ⟨0x1F4FA, "", "TELEVISION, RADIO, VIDEOCASSETTE, FILM PROJECTOR, PORTABLE STEREO, PRAYER BEADS"⟩,
  ⟨0x1F500, "", "TWISTED RIGHTWARDS ARROWS, CLOCKWISE RIGHTWARDS AND LEFTWARDS OPEN CIRCLE ARROWS"⟩,
  ⟨0x1F502, "", "CLOCKWISE RIGHTWARDS AND LEFTWARDS OPEN CIRCLE ARROWS WITH CIRCLED ONE OVERLAY"⟩,
  ⟨0x1F503, "", "CLOCKWISE DOWNWARDS AND UPWARDS OPEN CIRCLE ARROWS"⟩,
  ⟨0x1F504, "", "ANTICLOCKWISE DOWNWARDS AND UPWARDS OPEN CIRCLE ARROWS"⟩,
  ⟨0x1F505, "", "LOW BRIGHTNESS SYMBOL, HIGH BRIGHTNESS SYMBOL, SPEAKER WITH CANCELLATION STROKE"⟩,
  ⟨0x1F508, "", "SPEAKER, SPEAKER WITH ONE SOUND WAVE, SPEAKER WITH THREE SOUND WAVES"⟩,
  ⟨0x1F50B, "", "BATTERY, ELECTRIC PLUG, LEFT-POINTING MAGNIFYING GLASS"⟩,
  ⟨0x1F50E, "", "RIGHT-POINTING MAGNIFYING GLASS, LOCK WITH INK PEN, CLOSED LOCK WITH KEY"⟩,
  ⟨0x1F511, "", "KEY, LOCK, OPEN LOCK, BELL, BELL WITH CANCELLATION STROKE, BOOKMARK, LINK SYMBOL"⟩,
  ⟨0x1F518, "", "RADIO BUTTON, BACK WITH LEFTWARDS ARROW ABOVE, END WITH LEFTWARDS ARROW ABOVE"⟩,
  ⟨0x1F51B, "", "ON WITH EXCLAMATION MARK WITH LEFT RIGHT ARROW ABOVE"⟩,
  ⟨0x1F51C, "", "SOON WITH RIGHTWARDS ARROW ABOVE"⟩,
  ⟨0x1F51D, "", "TOP WITH UPWARDS ARROW ABOVE, NO ONE UNDER EIGHTEEN SYMBOL, KEYCAP TEN"⟩,
  ⟨0x1F520, "INPUT SYMBOL FOR ", "LATIN CAPITAL LETTERS, LATIN SMALL LETTERS, NUMBERS"⟩,
  ⟨0x1F523, "", "INPUT SYMBOL FOR SYMBOLS, INPUT SYMBOL FOR LATIN LETTERS, FIRE, ELECTRIC TORCH"⟩,
  ⟨0x1F527, "", "WRENCH, HAMMER, NUT AND BOLT, HOCHO, PISTOL, MICROSCOPE, TELESCOPE, CRYSTAL BALL"⟩,
  ⟨0x1F52F, "", "SIX POINTED STAR WITH MIDDLE DOT, JAPANESE SYMBOL FOR BEGINNER, TRIDENT EMBLEM"⟩,
  ⟨0x1F532, "", "BLACK SQUARE BUTTON, WHITE SQUARE BUTTON, LARGE RED CIRCLE, LARGE BLUE CIRCLE"⟩,
  ⟨0x1F536, "", "LARGE ORANGE DIAMOND, LARGE BLUE DIAMOND, SMALL ORANGE DIAMOND"⟩,
  ⟨0x1F539, "", "SMALL BLUE DIAMOND, UP-POINTING RED TRIANGLE, DOWN-POINTING RED TRIANGLE"⟩,
  ⟨0x1F53C, "", "UP-POINTING SMALL RED TRIANGLE, DOWN-POINTING SMALL RED TRIANGLE"⟩,
  ⟨0x1F53E, "", "LOWER RIGHT SHADOWED WHITE CIRCLE, UPPER RIGHT SHADOWED WHITE CIRCLE"⟩,
  ⟨0x1F540, "", "CIRCLED CROSS POMMEE, CROSS POMMEE WITH HALF-CIRCLE BELOW"⟩,
  ⟨0x1F542, "", "CROSS POMMEE, NOTCHED LEFT SEMICIRCLE WITH THREE DOTS"⟩,
  ⟨0x1F544, "", "NOTCHED RIGHT SEMICIRCLE WITH THREE DOTS, SYMBOL FOR MARKS CHAPTER"⟩,
  ⟨0x1F546, "", "WHITE LATIN CROSS, HEAVY LATIN CROSS, CELTIC CROSS, OM SYMBOL, DOVE OF PEACE"⟩,
  ⟨0x1F54B, "", "KAABA, MOSQUE, SYNAGOGUE, MENORAH WITH NINE BRANCHES, BOWL OF HYGIEIA"⟩,
  ⟨0x1F550, "CLOCK FACE ", "ONE OCLOCK, TWO OCLOCK, THREE OCLOCK"⟩,
  ⟨0x1F553, "CLOCK FACE ", "FOUR OCLOCK, FIVE OCLOCK, SIX OCLOCK, SEVEN OCLOCK, EIGHT OCLOCK"⟩,
  ⟨0x1F558, "CLOCK FACE ", "NINE OCLOCK, TEN OCLOCK, ELEVEN OCLOCK, TWELVE OCLOCK, ONE-THIRTY"⟩,
  ⟨0x1F55D, "CLOCK FACE ", "TWO-THIRTY, THREE-THIRTY, FOUR-THIRTY, FIVE-THIRTY, SIX-THIRTY"⟩,
  ⟨0x1F562, "CLOCK FACE ", "SEVEN-THIRTY, EIGHT-THIRTY, NINE-THIRTY, TEN-THIRTY, ELEVEN-THIRTY"⟩,
  ⟨0x1F567, "", "CLOCK FACE TWELVE-THIRTY, RIGHT SPEAKER, RIGHT SPEAKER WITH ONE SOUND WAVE"⟩,
  ⟨0x1F56A, "", "RIGHT SPEAKER WITH THREE SOUND WAVES, BULLHORN"⟩,
  ⟨0x1F56C, "", "BULLHORN WITH SOUND WAVES, RINGING BELL, BOOK, CANDLE, MANTELPIECE CLOCK"⟩,
  ⟨0x1F571, "", "BLACK SKULL AND CROSSBONES, NO PIRACY, HOLE, MAN IN BUSINESS SUIT LEVITATING"⟩,
  ⟨0x1F575, "", "SLEUTH OR SPY, DARK SUNGLASSES, SPIDER, SPIDER WEB, JOYSTICK"⟩,
  ⟨0x1F57A, "", "MAN DANCING, LEFT HAND TELEPHONE RECEIVER, TELEPHONE RECEIVER WITH PAGE"⟩,
  ⟨0x1F57D, "", "RIGHT HAND TELEPHONE RECEIVER, WHITE TOUCHTONE TELEPHONE"⟩,
  ⟨0x1F57F, "", "BLACK TOUCHTONE TELEPHONE, TELEPHONE ON TOP OF MODEM, CLAMSHELL MOBILE PHONE"⟩,
  ⟨0x1F582, "", "BACK OF ENVELOPE, STAMPED ENVELOPE, ENVELOPE WITH LIGHTNING"⟩,
  ⟨0x1F585, "", "FLYING ENVELOPE, PEN OVER STAMPED ENVELOPE, LINKED PAPERCLIPS, BLACK PUSHPIN"⟩,
  ⟨0x1F589, "LOWER LEFT ", "PENCIL, BALLPOINT PEN, FOUNTAIN PEN, PAINTBRUSH, CRAYON"⟩,
  ⟨0x1F58E, "", "LEFT WRITING HAND, TURNED OK HAND SIGN, RAISED HAND WITH FINGERS SPLAYED"⟩,
  ⟨0x1F591, "REVERSED ", "RAISED HAND WITH FINGERS SPLAYED, THUMBS UP SIGN"⟩,
  ⟨0x1F593, "REVERSED ", "THUMBS DOWN SIGN, VICTORY HAND, HAND WITH MIDDLE FINGER EXTENDED"⟩,
  ⟨0x1F596, "", "RAISED HAND WITH PART BETWEEN MIDDLE AND RING FINGERS"⟩,
  ⟨0x1F597, "", "WHITE DOWN POINTING LEFT HAND INDEX"⟩,
  ⟨0x1F598, "SIDEWAYS WHITE ", "LEFT POINTING INDEX, RIGHT POINTING INDEX"⟩,
  ⟨0x1F59A, "SIDEWAYS BLACK ", "LEFT POINTING INDEX, RIGHT POINTING INDEX"⟩,
  ⟨0x1F59C, "BLACK ", "LEFT POINTING BACKHAND INDEX, RIGHT POINTING BACKHAND INDEX"⟩,
  ⟨0x1F59E, "SIDEWAYS WHITE ", "UP POINTING INDEX, DOWN POINTING INDEX"⟩,
  ⟨0x1F5A0, "SIDEWAYS BLACK ", "UP POINTING INDEX, DOWN POINTING INDEX"⟩,
  ⟨0x1F5A2, "BLACK ", "UP POINTING BACKHAND INDEX, DOWN POINTING BACKHAND INDEX"⟩,
  ⟨0x1F5A4, "", "BLACK HEART, DESKTOP COMPUTER, KEYBOARD AND MOUSE, THREE NETWORKED COMPUTERS"⟩,
  ⟨0x1F5A8, "", "PRINTER, POCKET CALCULATOR, BLACK HARD SHELL FLOPPY DISK"⟩,
  ⟨0x1F5AB, "", "WHITE HARD SHELL FLOPPY DISK, SOFT SHELL FLOPPY DISK, TAPE CARTRIDGE"⟩,
  ⟨0x1F5AE, "", "WIRED KEYBOARD, ONE BUTTON MOUSE, TWO BUTTON MOUSE, THREE BUTTON MOUSE"⟩,
  ⟨0x1F5B2, "", "TRACKBALL, OLD PERSONAL COMPUTER, HARD DISK, SCREEN, PRINTER ICON"⟩,
  ⟨0x1F5B7, "", "FAX ICON, OPTICAL DISC ICON, DOCUMENT WITH TEXT, DOCUMENT WITH TEXT AND PICTURE"⟩,
  ⟨0x1F5BB, "", "DOCUMENT WITH PICTURE, FRAME WITH PICTURE, FRAME WITH TILES"⟩,
  ⟨0x1F5BE, "", "FRAME WITH AN X, BLACK FOLDER, FOLDER, OPEN FOLDER, CARD INDEX DIVIDERS"⟩,
  ⟨0x1F5C3, "", "CARD FILE BOX, FILE CABINET, EMPTY NOTE, EMPTY NOTE PAGE, EMPTY NOTE PAD"⟩,
  ⟨0x1F5C8, "", "NOTE, NOTE PAGE, NOTE PAD, EMPTY DOCUMENT, EMPTY PAGE, EMPTY PAGES, DOCUMENT"⟩,
  ⟨0x1F5CF, "", "PAGE, PAGES, WASTEBASKET, SPIRAL NOTE PAD, SPIRAL CALENDAR PAD, DESKTOP WINDOW"⟩,
  ⟨0x1F5D5, "", "MINIMIZE, MAXIMIZE, OVERLAP, CLOCKWISE RIGHT AND LEFT SEMICIRCLE ARROWS"⟩,
  ⟨0x1F5D9, "", "CANCELLATION X, INCREASE FONT SIZE SYMBOL, DECREASE FONT SIZE SYMBOL"⟩,
  ⟨0x1F5DC, "", "COMPRESSION, OLD KEY, ROLLED-UP NEWSPAPER, PAGE WITH CIRCLED TEXT"⟩,
  ⟨0x1F5E0, "", "STOCK CHART, DAGGER KNIFE, LIPS, SPEAKING HEAD IN SILHOUETTE, THREE RAYS ABOVE"⟩,
  ⟨0x1F5E5, "", "THREE RAYS BELOW, THREE RAYS LEFT, THREE RAYS RIGHT, LEFT SPEECH BUBBLE"⟩,
  ⟨0x1F5E9, "", "RIGHT SPEECH BUBBLE, TWO SPEECH BUBBLES, THREE SPEECH BUBBLES"⟩,
  ⟨0x1F5EC, "", "LEFT THOUGHT BUBBLE, RIGHT THOUGHT BUBBLE, LEFT ANGER BUBBLE"⟩,
  ⟨0x1F5EF, "", "RIGHT ANGER BUBBLE, MOOD BUBBLE, LIGHTNING MOOD BUBBLE, LIGHTNING MOOD"⟩,
  ⟨0x1F5F3, "BALLOT ", "BOX WITH BALLOT, SCRIPT X, BOX WITH SCRIPT X, BOLD SCRIPT X"⟩,
  ⟨0x1F5F7, "", "BALLOT BOX WITH BOLD SCRIPT X, LIGHT CHECK MARK, BALLOT BOX WITH BOLD CHECK"⟩,
  ⟨0x1F5FA, "", "WORLD MAP, MOUNT FUJI, TOKYO TOWER, STATUE OF LIBERTY, SILHOUETTE OF JAPAN"⟩,
  ⟨0x1F5FF, "", "MOYAI, GRINNING FACE, GRINNING FACE WITH SMILING EYES, FACE WITH TEARS OF JOY"⟩,
  ⟨0x1F603, "SMILING FACE WITH OPEN ", "MOUTH, MOUTH AND SMILING EYES, MOUTH AND COLD SWEAT"⟩,
  ⟨0x1F606, "SMILING FACE WITH ", "OPEN MOUTH AND TIGHTLY-CLOSED EYES, HALO, HORNS"⟩,
  ⟨0x1F609, "", "WINKING FACE, SMILING FACE WITH SMILING EYES, FACE SAVOURING DELICIOUS FOOD"⟩,
  ⟨0x1F60C, "", "RELIEVED FACE, SMILING FACE WITH HEART-SHAPED EYES, SMILING FACE WITH SUNGLASSES"⟩,
  ⟨0x1F60F, "", "SMIRKING FACE, NEUTRAL FACE, EXPRESSIONLESS FACE, UNAMUSED FACE"⟩,
  ⟨0x1F613, "", "FACE WITH COLD SWEAT, PENSIVE FACE, CONFUSED FACE, CONFOUNDED FACE"⟩,
  ⟨0x1F617, "", "KISSING FACE, FACE THROWING A KISS, KISSING FACE WITH SMILING EYES"⟩,
  ⟨0x1F61A, "", "KISSING FACE WITH CLOSED EYES, FACE WITH STUCK-OUT TONGUE"⟩,
  ⟨0x1F61C, "FACE WITH STUCK-OUT TONGUE AND ", "WINKING EYE, TIGHTLY-CLOSED EYES"⟩,
  ⟨0x1F61E, "", "DISAPPOINTED FACE, WORRIED FACE, ANGRY FACE, POUTING FACE, CRYING FACE"⟩,
  ⟨0x1F623, "", "PERSEVERING FACE, FACE WITH LOOK OF TRIUMPH, DISAPPOINTED BUT RELIEVED FACE"⟩,
  ⟨0x1F626, "", "FROWNING FACE WITH OPEN MOUTH, ANGUISHED FACE, FEARFUL FACE"⟩,
  ⟨0x1F629, "", "WEARY FACE, SLEEPY FACE, TIRED FACE, GRIMACING FACE, LOUDLY CRYING FACE"⟩,
  ⟨0x1F62E, "", "FACE WITH OPEN MOUTH, HUSHED FACE, FACE WITH OPEN MOUTH AND COLD SWEAT"⟩,
  ⟨0x1F631, "", "FACE SCREAMING IN FEAR, ASTONISHED FACE, FLUSHED FACE"⟩,
  ⟨0x1F634, "", "SLEEPING FACE, DIZZY FACE, FACE WITHOUT MOUTH, FACE WITH MEDICAL MASK"⟩,
  ⟨0x1F638, "", "GRINNING CAT FACE WITH SMILING EYES, CAT FACE WITH TEARS OF JOY"⟩,
  ⟨0x1F63A, "SMILING CAT FACE WITH ", "OPEN MOUTH, HEART-SHAPED EYES"⟩,
  ⟨0x1F63C, "", "CAT FACE WITH WRY SMILE, KISSING CAT FACE WITH CLOSED EYES, POUTING CAT FACE"⟩,
  ⟨0x1F63F, "", "CRYING CAT FACE, WEARY CAT FACE, SLIGHTLY FROWNING FACE, SLIGHTLY SMILING FACE"⟩,
  ⟨0x1F643, "", "UPSIDE-DOWN FACE, FACE WITH ROLLING EYES, FACE WITH NO GOOD GESTURE"⟩,
  ⟨0x1F646, "", "FACE WITH OK GESTURE, PERSON BOWING DEEPLY, SEE-NO-EVIL MONKEY"⟩,
  ⟨0x1F649, "", "HEAR-NO-EVIL MONKEY, SPEAK-NO-EVIL MONKEY, HAPPY PERSON RAISING ONE HAND"⟩,
  ⟨0x1F64C, "PERSON ", "RAISING BOTH HANDS IN CELEBRATION, FROWNING"⟩,
  ⟨0x1F64E, "", "PERSON WITH POUTING FACE, PERSON WITH FOLDED HANDS, NORTH WEST POINTING LEAF"⟩,
  ⟨0x1F651, "", "SOUTH WEST POINTING LEAF, NORTH EAST POINTING LEAF, SOUTH EAST POINTING LEAF"⟩,
  ⟨0x1F654, "TURNED ", "NORTH WEST POINTING LEAF, SOUTH WEST POINTING LEAF"⟩,
  ⟨0x1F656, "TURNED ", "NORTH EAST POINTING LEAF, SOUTH EAST POINTING LEAF"⟩,
  ⟨0x1F658, "", "NORTH WEST POINTING VINE LEAF, SOUTH WEST POINTING VINE LEAF"⟩,
  ⟨0x1F65A, "", "NORTH EAST POINTING VINE LEAF, SOUTH EAST POINTING VINE LEAF"⟩,
  ⟨0x1F65C, "HEAVY ", "NORTH WEST POINTING VINE LEAF, SOUTH WEST POINTING VINE LEAF"⟩,
  ⟨0x1F65E, "HEAVY ", "NORTH EAST POINTING VINE LEAF, SOUTH EAST POINTING VINE LEAF"⟩,
  ⟨0x1F660, "", "NORTH WEST POINTING BUD, SOUTH WEST POINTING BUD"⟩,
  ⟨0x1F662, "", "NORTH EAST POINTING BUD, SOUTH EAST POINTING BUD, HEAVY NORTH WEST POINTING BUD"⟩,
  ⟨0x1F665, "HEAVY ", "SOUTH WEST POINTING BUD, NORTH EAST POINTING BUD, SOUTH EAST POINTING BUD"⟩,
  ⟨0x1F668, "HOLLOW QUILT SQUARE ", "ORNAMENT, ORNAMENT IN BLACK SQUARE"⟩,
  ⟨0x1F66A, "SOLID QUILT SQUARE ", "ORNAMENT, ORNAMENT IN BLACK SQUARE"⟩,
  ⟨0x1F66C, "", "LEFTWARDS ROCKET, UPWARDS ROCKET, RIGHTWARDS ROCKET"⟩,
  ⟨0x1F66F, "", "DOWNWARDS ROCKET, SCRIPT LIGATURE ET ORNAMENT, HEAVY SCRIPT LIGATURE ET ORNAMENT"⟩,
  ⟨0x1F672, "", "LIGATURE OPEN ET ORNAMENT, HEAVY LIGATURE OPEN ET ORNAMENT"⟩,
  ⟨0x1F674, "", "HEAVY AMPERSAND ORNAMENT, SWASH AMPERSAND ORNAMENT"⟩,
  ⟨0x1F676, "", "SANS-SERIF HEAVY DOUBLE TURNED COMMA QUOTATION MARK ORNAMENT"⟩,
  ⟨0x1F677, "", "SANS-SERIF HEAVY DOUBLE COMMA QUOTATION MARK ORNAMENT"⟩,
  ⟨0x1F678, "", "SANS-SERIF HEAVY LOW DOUBLE COMMA QUOTATION MARK ORNAMENT"⟩,
  ⟨0x1F679, "", "HEAVY INTERROBANG ORNAMENT"⟩,
  ⟨0x1F67A, "", "SANS-SERIF INTERROBANG ORNAMENT, HEAVY SANS-SERIF INTERROBANG ORNAMENT"⟩,
  ⟨0x1F67C, "VERY HEAVY ", "SOLIDUS, REVERSE SOLIDUS"⟩,
  ⟨0x1F67E, "", "CHECKER BOARD, REVERSE CHECKER BOARD, ROCKET, HELICOPTER, STEAM LOCOMOTIVE"⟩,
  ⟨0x1F683, "", "RAILWAY CAR, HIGH-SPEED TRAIN, HIGH-SPEED TRAIN WITH BULLET NOSE"⟩,
  ⟨0x1F686, "", "TRAIN, METRO, LIGHT RAIL, STATION, TRAM, TRAM CAR, BUS"⟩,
  ⟨0x1F68D, "", "ONCOMING BUS, TROLLEYBUS, BUS STOP, MINIBUS, AMBULANCE, FIRE ENGINE, POLICE CAR"⟩,
  ⟨0x1F694, "", "ONCOMING POLICE CAR, TAXI, ONCOMING TAXI, AUTOMOBILE, ONCOMING AUTOMOBILE"⟩,
  ⟨0x1F699, "", "RECREATIONAL VEHICLE, DELIVERY TRUCK, ARTICULATED LORRY, TRACTOR, MONORAIL"⟩,
  ⟨0x1F69E, "", "MOUNTAIN RAILWAY, SUSPENSION RAILWAY, MOUNTAIN CABLEWAY, AERIAL TRAMWAY"⟩,
  ⟨0x1F6A2, "", "SHIP, ROWBOAT, SPEEDBOAT, HORIZONTAL TRAFFIC LIGHT, VERTICAL TRAFFIC LIGHT"⟩,
  ⟨0x1F6A7, "", "CONSTRUCTION SIGN, POLICE CARS REVOLVING LIGHT, TRIANGULAR FLAG ON POST, DOOR"⟩,
  ⟨0x1F6AB, "", "NO ENTRY SIGN, SMOKING SYMBOL, NO SMOKING SYMBOL, PUT LITTER IN ITS PLACE SYMBOL"⟩,
  ⟨0x1F6AF, "", "DO NOT LITTER SYMBOL, POTABLE WATER SYMBOL, NON-POTABLE WATER SYMBOL"⟩,
  ⟨0x1F6B2, "", "BICYCLE, NO BICYCLES, BICYCLIST, MOUNTAIN BICYCLIST, PEDESTRIAN, NO PEDESTRIANS"⟩,
  ⟨0x1F6B8, "", "CHILDREN CROSSING, MENS SYMBOL, WOMENS SYMBOL, RESTROOM, BABY SYMBOL"⟩,
  ⟨0x1F6BD, "", "TOILET, WATER CLOSET, SHOWER, BATH, BATHTUB, PASSPORT CONTROL, CUSTOMS"⟩,
  ⟨0x1F6C4, "", "BAGGAGE CLAIM, LEFT LUGGAGE, TRIANGLE WITH ROUNDED CORNERS, PROHIBITED SIGN"⟩,
  ⟨0x1F6C8, "", "CIRCLED INFORMATION SOURCE, BOYS SYMBOL, GIRLS SYMBOL, COUCH AND LAMP"⟩,
  ⟨0x1F6CC, "", "SLEEPING ACCOMMODATION, SHOPPING BAGS, BELLHOP BELL, BED, PLACE OF WORSHIP"⟩,
  ⟨0x1F6D1, "", "OCTAGONAL SIGN, SHOPPING TROLLEY, STUPA, PAGODA, HINDU TEMPLE, HUT, ELEVATOR"⟩,
  ⟨0x1F6DD, "", "PLAYGROUND SLIDE, WHEEL, RING BUOY, HAMMER AND WRENCH, SHIELD"⟩,
  ⟨0x1F6E2, "", "OIL DRUM, MOTORWAY, RAILWAY TRACK, MOTOR BOAT, UP-POINTING MILITARY AIRPLANE"⟩,
  ⟨0x1F6E7, "", "UP-POINTING AIRPLANE, UP-POINTING SMALL AIRPLANE, SMALL AIRPLANE"⟩,
  ⟨0x1F6EA, "", "NORTHEAST-POINTING AIRPLANE, AIRPLANE DEPARTURE, AIRPLANE ARRIVING"⟩,
  ⟨0x1F6F0, "", "SATELLITE, ONCOMING FIRE ENGINE"⟩,
  ⟨0x1F6F2, "", "DIESEL LOCOMOTIVE, PASSENGER SHIP, SCOOTER, MOTOR SCOOTER, CANOE"⟩,
  ⟨0x1F6F7, "", "SLED, FLYING SAUCER, SKATEBOARD, AUTO RICKSHAW, PICKUP TRUCK, ROLLER SKATE"⟩,
  ⟨0x1F700, "ALCHEMICAL SYMBOL FOR ", "QUINTESSENCE, AIR, FIRE, EARTH"⟩,
  ⟨0x1F704, "ALCHEMICAL SYMBOL FOR ", "WATER, AQUAFORTIS, AQUA REGIA, AQUA REGIA-2, AQUA VITAE"⟩,
  ⟨0x1F709, "ALCHEMICAL SYMBOL FOR ", "AQUA VITAE-2, VINEGAR, VINEGAR-2, VINEGAR-3, SULFUR"⟩,
  ⟨0x1F70E, "ALCHEMICAL SYMBOL FOR ", "PHILOSOPHERS SULFUR, BLACK SULFUR, MERCURY SUBLIMATE"⟩,
  ⟨0x1F711, "ALCHEMICAL SYMBOL FOR ", "MERCURY SUBLIMATE-2, MERCURY SUBLIMATE-3, CINNABAR"⟩,
  ⟨0x1F714, "ALCHEMICAL SYMBOL FOR ", "SALT, NITRE, VITRIOL, VITRIOL-2, ROCK SALT, ROCK SALT-2"⟩,
  ⟨0x1F71A, "ALCHEMICAL SYMBOL FOR ", "GOLD, SILVER, IRON ORE, IRON ORE-2, CROCUS OF IRON"⟩,
  ⟨0x1F71F, "ALCHEMICAL SYMBOL FOR ", "REGULUS OF IRON, COPPER ORE, IRON-COPPER ORE"⟩,
  ⟨0x1F722, "ALCHEMICAL SYMBOL FOR ", "SUBLIMATE OF COPPER, CROCUS OF COPPER, CROCUS OF COPPER-2"⟩,
  ⟨0x1F725, "ALCHEMICAL SYMBOL FOR ", "COPPER ANTIMONIATE, SALT OF COPPER ANTIMONIATE"⟩,
  ⟨0x1F727, "ALCHEMICAL SYMBOL FOR ", "SUBLIMATE OF SALT OF COPPER, VERDIGRIS, TIN ORE, LEAD ORE"⟩,
  ⟨0x1F72B, "ALCHEMICAL SYMBOL FOR ", "ANTIMONY ORE, SUBLIMATE OF ANTIMONY, SALT OF ANTIMONY"⟩,
  ⟨0x1F72E, "ALCHEMICAL SYMBOL FOR ", "SUBLIMATE OF SALT OF ANTIMONY, VINEGAR OF ANTIMONY"⟩,
  ⟨0x1F730, "ALCHEMICAL SYMBOL FOR REGULUS OF ", "ANTIMONY, ANTIMONY-2"⟩,
  ⟨0x1F732, "ALCHEMICAL SYMBOL FOR ", "REGULUS, REGULUS-2, REGULUS-3, REGULUS-4, ALKALI"⟩,
  ⟨0x1F737, "ALCHEMICAL SYMBOL FOR ", "ALKALI-2, MARCASITE, SAL-AMMONIAC, ARSENIC, REALGAR"⟩,
  ⟨0x1F73C, "ALCHEMICAL SYMBOL FOR ", "REALGAR-2, AURIPIGMENT, BISMUTH ORE, TARTAR, TARTAR-2"⟩,
  ⟨0x1F741, "ALCHEMICAL SYMBOL FOR ", "QUICK LIME, BORAX, BORAX-2, BORAX-3, ALUM, OIL, SPIRIT"⟩,
  ⟨0x1F748, "ALCHEMICAL SYMBOL FOR ", "TINCTURE, GUM, WAX, POWDER, CALX, TUTTY, CAPUT MORTUUM"⟩,
  ⟨0x1F74F, "ALCHEMICAL SYMBOL FOR ", "SCEPTER OF JOVE, CADUCEUS, TRIDENT, STARRED TRIDENT"⟩,
  ⟨0x1F753, "ALCHEMICAL SYMBOL FOR ", "LODESTONE, SOAP, URINE, HORSE DUNG, ASHES, POT ASHES"⟩,
  ⟨0x1F759, "ALCHEMICAL SYMBOL FOR ", "BRICK, POWDERED BRICK, AMALGAM, STRATUM SUPER STRATUM"⟩,
  ⟨0x1F75D, "ALCHEMICAL SYMBOL FOR ", "STRATUM SUPER STRATUM-2, SUBLIMATION"⟩,
  ⟨0x1F75F, "ALCHEMICAL SYMBOL FOR ", "PRECIPITATE, DISTILL, DISSOLVE, DISSOLVE-2, PURIFY"⟩,
  ⟨0x1F764, "ALCHEMICAL SYMBOL FOR ", "PUTREFACTION, CRUCIBLE, CRUCIBLE-2, CRUCIBLE-3, CRUCIBLE-4"⟩,
  ⟨0x1F769, "ALCHEMICAL SYMBOL FOR ", "CRUCIBLE-5, ALEMBIC, BATH OF MARY, BATH OF VAPOURS, RETORT"⟩,
  ⟨0x1F76E, "ALCHEMICAL SYMBOL FOR ", "HOUR, NIGHT, DAY-NIGHT, MONTH, HALF DRAM, HALF OUNCE"⟩,
  ⟨0x1F780, "", "BLACK LEFT-POINTING ISOSCELES RIGHT TRIANGLE"⟩,
  ⟨0x1F781, "", "BLACK UP-POINTING ISOSCELES RIGHT TRIANGLE"⟩,
  ⟨0x1F782, "", "BLACK RIGHT-POINTING ISOSCELES RIGHT TRIANGLE"⟩,
  ⟨0x1F783, "", "BLACK DOWN-POINTING ISOSCELES RIGHT TRIANGLE"⟩,
  ⟨0x1F784, "", "BLACK SLIGHTLY SMALL CIRCLE, MEDIUM BOLD WHITE CIRCLE"⟩,
  ⟨0x1F786, "", "BOLD WHITE CIRCLE, HEAVY WHITE CIRCLE, VERY HEAVY WHITE CIRCLE"⟩,
  ⟨0x1F789, "", "EXTREMELY HEAVY WHITE CIRCLE, WHITE CIRCLE CONTAINING BLACK SMALL CIRCLE"⟩,
  ⟨0x1F78B, "", "ROUND TARGET, BLACK TINY SQUARE, BLACK SLIGHTLY SMALL SQUARE"⟩,
  ⟨0x1F78E, "", "LIGHT WHITE SQUARE, MEDIUM WHITE SQUARE, BOLD WHITE SQUARE"⟩,
  ⟨0x1F791, "", "HEAVY WHITE SQUARE, VERY HEAVY WHITE SQUARE, EXTREMELY HEAVY WHITE SQUARE"⟩,
  ⟨0x1F794, "WHITE SQUARE CONTAINING BLACK ", "VERY SMALL SQUARE, MEDIUM SQUARE"⟩,
  ⟨0x1F796, "", "SQUARE TARGET, BLACK TINY DIAMOND, BLACK VERY SMALL DIAMOND"⟩,
  ⟨0x1F799, "", "BLACK MEDIUM SMALL DIAMOND, WHITE DIAMOND CONTAINING BLACK VERY SMALL DIAMOND"⟩,
  ⟨0x1F79B, "", "WHITE DIAMOND CONTAINING BLACK MEDIUM DIAMOND, DIAMOND TARGET"⟩,
  ⟨0x1F79D, "BLACK ", "TINY LOZENGE, VERY SMALL LOZENGE, MEDIUM SMALL LOZENGE"⟩,
  ⟨0x1F7A0, "", "WHITE LOZENGE CONTAINING BLACK SMALL LOZENGE, THIN GREEK CROSS"⟩,
  ⟨0x1F7A2, "", "LIGHT GREEK CROSS, MEDIUM GREEK CROSS, BOLD GREEK CROSS, VERY BOLD GREEK CROSS"⟩,
  ⟨0x1F7A6, "", "VERY HEAVY GREEK CROSS, EXTREMELY HEAVY GREEK CROSS, THIN SALTIRE"⟩,
  ⟨0x1F7A9, "", "LIGHT SALTIRE, MEDIUM SALTIRE, BOLD SALTIRE, HEAVY SALTIRE, VERY HEAVY SALTIRE"⟩,
  ⟨0x1F7AE, "", "EXTREMELY HEAVY SALTIRE, LIGHT FIVE SPOKED ASTERISK, MEDIUM FIVE SPOKED ASTERISK"⟩,
  ⟨0x1F7B1, "", "BOLD FIVE SPOKED ASTERISK, HEAVY FIVE SPOKED ASTERISK"⟩,
  ⟨0x1F7B3, "", "VERY HEAVY FIVE SPOKED ASTERISK, EXTREMELY HEAVY FIVE SPOKED ASTERISK"⟩,
  ⟨0x1F7B5, "", "LIGHT SIX SPOKED ASTERISK, MEDIUM SIX SPOKED ASTERISK, BOLD SIX SPOKED ASTERISK"⟩,
  ⟨0x1F7B8, "", "HEAVY SIX SPOKED ASTERISK, VERY HEAVY SIX SPOKED ASTERISK"⟩,
  ⟨0x1F7BA, "", "EXTREMELY HEAVY SIX SPOKED ASTERISK, LIGHT EIGHT SPOKED ASTERISK"⟩,
  ⟨0x1F7BC, "", "MEDIUM EIGHT SPOKED ASTERISK, BOLD EIGHT SPOKED ASTERISK"⟩,
  ⟨0x1F7BE, "", "HEAVY EIGHT SPOKED ASTERISK, VERY HEAVY EIGHT SPOKED ASTERISK"⟩,
  ⟨0x1F7C0, "", "LIGHT THREE POINTED BLACK STAR, MEDIUM THREE POINTED BLACK STAR"⟩,
  ⟨0x1F7C2, "", "THREE POINTED BLACK STAR, MEDIUM THREE POINTED PINWHEEL STAR"⟩,
  ⟨0x1F7C4, "", "LIGHT FOUR POINTED BLACK STAR, MEDIUM FOUR POINTED BLACK STAR"⟩,
  ⟨0x1F7C6, "", "FOUR POINTED BLACK STAR, MEDIUM FOUR POINTED PINWHEEL STAR"⟩,
  ⟨0x1F7C8, "", "REVERSE LIGHT FOUR POINTED PINWHEEL STAR, LIGHT FIVE POINTED BLACK STAR"⟩,
  ⟨0x1F7CA, "", "HEAVY FIVE POINTED BLACK STAR, MEDIUM SIX POINTED BLACK STAR"⟩,
  ⟨0x1F7CC, "", "HEAVY SIX POINTED BLACK STAR, SIX POINTED PINWHEEL STAR"⟩,
  ⟨0x1F7CE, "", "MEDIUM EIGHT POINTED BLACK STAR, HEAVY EIGHT POINTED BLACK STAR"⟩,
  ⟨0x1F7D0, "", "VERY HEAVY EIGHT POINTED BLACK STAR, HEAVY EIGHT POINTED PINWHEEL STAR"⟩,
  ⟨0x1F7D2, "", "LIGHT TWELVE POINTED BLACK STAR, HEAVY TWELVE POINTED BLACK STAR"⟩,
  ⟨0x1F7D4, "", "HEAVY TWELVE POINTED PINWHEEL STAR, CIRCLED TRIANGLE"⟩,
  ⟨0x1F7D6, "", "NEGATIVE CIRCLED TRIANGLE, CIRCLED SQUARE, NEGATIVE CIRCLED SQUARE"⟩,
  ⟨0x1F7E0, "LARGE ", "ORANGE CIRCLE, YELLOW CIRCLE"⟩,
  ⟨0x1F7E2, "LARGE ", "GREEN CIRCLE, PURPLE CIRCLE, BROWN CIRCLE, RED SQUARE, BLUE SQUARE"⟩,
  ⟨0x1F7E7, "LARGE ", "ORANGE SQUARE, YELLOW SQUARE, GREEN SQUARE, PURPLE SQUARE, BROWN SQUARE"⟩,
  ⟨0x1F7F0, "", "HEAVY EQUALS SIGN"⟩,
  ⟨0x1F800, "", "LEFTWARDS ARROW WITH SMALL TRIANGLE ARROWHEAD"⟩,
  ⟨0x1F801, "", "UPWARDS ARROW WITH SMALL TRIANGLE ARROWHEAD"⟩,
  ⟨0x1F802, "", "RIGHTWARDS ARROW WITH SMALL TRIANGLE ARROWHEAD"⟩,
  ⟨0x1F803, "", "DOWNWARDS ARROW WITH SMALL TRIANGLE ARROWHEAD"⟩,
  ⟨0x1F804, "", "LEFTWARDS ARROW WITH MEDIUM TRIANGLE ARROWHEAD"⟩,
  ⟨0x1F805, "", "UPWARDS ARROW WITH MEDIUM TRIANGLE ARROWHEAD"⟩,
  ⟨0x1F806, "", "RIGHTWARDS ARROW WITH MEDIUM TRIANGLE ARROWHEAD"⟩,
  ⟨0x1F807, "", "DOWNWARDS ARROW WITH MEDIUM TRIANGLE ARROWHEAD"⟩,
  ⟨0x1F808, "", "LEFTWARDS ARROW WITH LARGE TRIANGLE ARROWHEAD"⟩,
  ⟨0x1F809, "", "UPWARDS ARROW WITH LARGE TRIANGLE ARROWHEAD"⟩,
  ⟨0x1F80A, "", "RIGHTWARDS ARROW WITH LARGE TRIANGLE ARROWHEAD"⟩,
  ⟨0x1F80B, "", "DOWNWARDS ARROW WITH LARGE TRIANGLE ARROWHEAD"⟩,
  ⟨0x1F810, "", "LEFTWARDS ARROW WITH SMALL EQUILATERAL ARROWHEAD"⟩,
  ⟨0x1F811, "", "UPWARDS ARROW WITH SMALL EQUILATERAL ARROWHEAD"⟩,
  ⟨0x1F812, "", "RIGHTWARDS ARROW WITH SMALL EQUILATERAL ARROWHEAD"⟩,
  ⟨0x1F813, "", "DOWNWARDS ARROW WITH SMALL EQUILATERAL ARROWHEAD"⟩,
  ⟨0x1F814, "", "LEFTWARDS ARROW WITH EQUILATERAL ARROWHEAD"⟩,
  ⟨0x1F815, "", "UPWARDS ARROW WITH EQUILATERAL ARROWHEAD"⟩,
  ⟨0x1F816, "", "RIGHTWARDS ARROW WITH EQUILATERAL ARROWHEAD"⟩,
  ⟨0x1F817, "", "DOWNWARDS ARROW WITH EQUILATERAL ARROWHEAD"⟩,
  ⟨0x1F818, "", "HEAVY LEFTWARDS ARROW WITH EQUILATERAL ARROWHEAD"⟩,
  ⟨0x1F819, "", "HEAVY UPWARDS ARROW WITH EQUILATERAL ARROWHEAD"⟩,
  ⟨0x1F81A, "", "HEAVY RIGHTWARDS ARROW WITH EQUILATERAL ARROWHEAD"⟩,
  ⟨0x1F81B, "", "HEAVY DOWNWARDS ARROW WITH EQUILATERAL ARROWHEAD"⟩,
  ⟨0x1F81C, "", "HEAVY LEFTWARDS ARROW WITH LARGE EQUILATERAL ARROWHEAD"⟩,
  ⟨0x1F81D, "", "HEAVY UPWARDS ARROW WITH LARGE EQUILATERAL ARROWHEAD"⟩,
  ⟨0x1F81E, "", "HEAVY RIGHTWARDS ARROW WITH LARGE EQUILATERAL ARROWHEAD"⟩,
  ⟨0x1F81F, "", "HEAVY DOWNWARDS ARROW WITH LARGE EQUILATERAL ARROWHEAD"⟩,
  ⟨0x1F820, "", "LEFTWARDS TRIANGLE-HEADED ARROW WITH NARROW SHAFT"⟩,
  ⟨0x1F821, "", "UPWARDS TRIANGLE-HEADED ARROW WITH NARROW SHAFT"⟩,
  ⟨0x1F822, "", "RIGHTWARDS TRIANGLE-HEADED ARROW WITH NARROW SHAFT"⟩,
  ⟨0x1F823, "", "DOWNWARDS TRIANGLE-HEADED ARROW WITH NARROW SHAFT"⟩,
  ⟨0x1F824, "", "LEFTWARDS TRIANGLE-HEADED ARROW WITH MEDIUM SHAFT"⟩,
  ⟨0x1F825, "", "UPWARDS TRIANGLE-HEADED ARROW WITH MEDIUM SHAFT"⟩,
  ⟨0x1F826, "", "RIGHTWARDS TRIANGLE-HEADED ARROW WITH MEDIUM SHAFT"⟩,
  ⟨0x1F827, "", "DOWNWARDS TRIANGLE-HEADED ARROW WITH MEDIUM SHAFT"⟩,
  ⟨0x1F828, "", "LEFTWARDS TRIANGLE-HEADED ARROW WITH BOLD SHAFT"⟩,
  ⟨0x1F829, "", "UPWARDS TRIANGLE-HEADED ARROW WITH BOLD SHAFT"⟩,
  ⟨0x1F82A, "", "RIGHTWARDS TRIANGLE-HEADED ARROW WITH BOLD SHAFT"⟩,
  ⟨0x1F82B, "", "DOWNWARDS TRIANGLE-HEADED ARROW WITH BOLD SHAFT"⟩,
  ⟨0x1F82C, "", "LEFTWARDS TRIANGLE-HEADED ARROW WITH HEAVY SHAFT"⟩,
  ⟨0x1F82D, "", "UPWARDS TRIANGLE-HEADED ARROW WITH HEAVY SHAFT"⟩,
  ⟨0x1F82E, "", "RIGHTWARDS TRIANGLE-HEADED ARROW WITH HEAVY SHAFT"⟩,
  ⟨0x1F82F, "", "DOWNWARDS TRIANGLE-HEADED ARROW WITH HEAVY SHAFT"⟩,
  ⟨0x1F830, "", "LEFTWARDS TRIANGLE-HEADED ARROW WITH VERY HEAVY SHAFT"⟩,
  ⟨0x1F831, "", "UPWARDS TRIANGLE-HEADED ARROW WITH VERY HEAVY SHAFT"⟩,
  ⟨0x1F832, "", "RIGHTWARDS TRIANGLE-HEADED ARROW WITH VERY HEAVY SHAFT"⟩,
  ⟨0x1F833, "", "DOWNWARDS TRIANGLE-HEADED ARROW WITH VERY HEAVY SHAFT"⟩,
  ⟨0x1F834, "", "LEFTWARDS FINGER-POST ARROW"⟩,
  ⟨0x1F835, "", "UPWARDS FINGER-POST ARROW, RIGHTWARDS FINGER-POST ARROW"⟩,
  ⟨0x1F837, "", "DOWNWARDS FINGER-POST ARROW, LEFTWARDS SQUARED ARROW, UPWARDS SQUARED ARROW"⟩,
  ⟨0x1F83A, "", "RIGHTWARDS SQUARED ARROW, DOWNWARDS SQUARED ARROW, LEFTWARDS COMPRESSED ARROW"⟩,
  ⟨0x1F83D, "", "UPWARDS COMPRESSED ARROW, RIGHTWARDS COMPRESSED ARROW"⟩,
  ⟨0x1F83F, "", "DOWNWARDS COMPRESSED ARROW, LEFTWARDS HEAVY COMPRESSED ARROW"⟩,
  ⟨0x1F841, "", "UPWARDS HEAVY COMPRESSED ARROW, RIGHTWARDS HEAVY COMPRESSED ARROW"⟩,
  ⟨0x1F843, "", "DOWNWARDS HEAVY COMPRESSED ARROW, LEFTWARDS HEAVY ARROW"⟩,
  ⟨0x1F845, "", "UPWARDS HEAVY ARROW, RIGHTWARDS HEAVY ARROW, DOWNWARDS HEAVY ARROW"⟩,
  ⟨0x1F850, "", "LEFTWARDS SANS-SERIF ARROW, UPWARDS SANS-SERIF ARROW"⟩,
  ⟨0x1F852, "", "RIGHTWARDS SANS-SERIF ARROW, DOWNWARDS SANS-SERIF ARROW"⟩,
  ⟨0x1F854, "NORTH ", "WEST SANS-SERIF ARROW, EAST SANS-SERIF ARROW"⟩,
  ⟨0x1F856, "SOUTH ", "EAST SANS-SERIF ARROW, WEST SANS-SERIF ARROW"⟩,
  ⟨0x1F858, "", "LEFT RIGHT SANS-SERIF ARROW, UP DOWN SANS-SERIF ARROW"⟩,
  ⟨0x1F860, "WIDE-HEADED ", "LEFTWARDS LIGHT BARB ARROW, UPWARDS LIGHT BARB ARROW"⟩,
  ⟨0x1F862, "WIDE-HEADED ", "RIGHTWARDS LIGHT BARB ARROW, DOWNWARDS LIGHT BARB ARROW"⟩,
  ⟨0x1F864, "WIDE-HEADED NORTH ", "WEST LIGHT BARB ARROW, EAST LIGHT BARB ARROW"⟩,
  ⟨0x1F866, "WIDE-HEADED SOUTH ", "EAST LIGHT BARB ARROW, WEST LIGHT BARB ARROW"⟩,
  ⟨0x1F868, "WIDE-HEADED ", "LEFTWARDS BARB ARROW, UPWARDS BARB ARROW"⟩,
  ⟨0x1F86A, "WIDE-HEADED ", "RIGHTWARDS BARB ARROW, DOWNWARDS BARB ARROW, NORTH WEST BARB ARROW"⟩,
  ⟨0x1F86D, "WIDE-HEADED ", "NORTH EAST BARB ARROW, SOUTH EAST BARB ARROW, SOUTH WEST BARB ARROW"⟩,
  ⟨0x1F870, "WIDE-HEADED ", "LEFTWARDS MEDIUM BARB ARROW, UPWARDS MEDIUM BARB ARROW"⟩,
  ⟨0x1F872, "WIDE-HEADED ", "RIGHTWARDS MEDIUM BARB ARROW, DOWNWARDS MEDIUM BARB ARROW"⟩,
  ⟨0x1F874, "WIDE-HEADED NORTH ", "WEST MEDIUM BARB ARROW, EAST MEDIUM BARB ARROW"⟩,
  ⟨0x1F876, "WIDE-HEADED SOUTH ", "EAST MEDIUM BARB ARROW, WEST MEDIUM BARB ARROW"⟩,
  ⟨0x1F878, "WIDE-HEADED ", "LEFTWARDS HEAVY BARB ARROW, UPWARDS HEAVY BARB ARROW"⟩,
  ⟨0x1F87A, "WIDE-HEADED ", "RIGHTWARDS HEAVY BARB ARROW, DOWNWARDS HEAVY BARB ARROW"⟩,
  ⟨0x1F87C, "WIDE-HEADED NORTH ", "WEST HEAVY BARB ARROW, EAST HEAVY BARB ARROW"⟩,
  ⟨0x1F87E, "WIDE-HEADED SOUTH ", "EAST HEAVY BARB ARROW, WEST HEAVY BARB ARROW"⟩,
  ⟨0x1F880, "WIDE-HEADED ", "LEFTWARDS VERY HEAVY BARB ARROW, UPWARDS VERY HEAVY BARB ARROW"⟩,
  ⟨0x1F882, "WIDE-HEADED ", "RIGHTWARDS VERY HEAVY BARB ARROW, DOWNWARDS VERY HEAVY BARB ARROW"⟩,
  ⟨0x1F884, "WIDE-HEADED NORTH ", "WEST VERY HEAVY BARB ARROW, EAST VERY HEAVY BARB ARROW"⟩,
  ⟨0x1F886, "WIDE-HEADED SOUTH ", "EAST VERY HEAVY BARB ARROW, WEST VERY HEAVY BARB ARROW"⟩,
  ⟨0x1F890, "", "LEFTWARDS TRIANGLE ARROWHEAD"⟩,
  ⟨0x1F891, "", "UPWARDS TRIANGLE ARROWHEAD, RIGHTWARDS TRIANGLE ARROWHEAD"⟩,
  ⟨0x1F893, "", "DOWNWARDS TRIANGLE ARROWHEAD, LEFTWARDS WHITE ARROW WITHIN TRIANGLE ARROWHEAD"⟩,
  ⟨0x1F895, "", "UPWARDS WHITE ARROW WITHIN TRIANGLE ARROWHEAD"⟩,
  ⟨0x1F896, "", "RIGHTWARDS WHITE ARROW WITHIN TRIANGLE ARROWHEAD"⟩,
  ⟨0x1F897, "", "DOWNWARDS WHITE ARROW WITHIN TRIANGLE ARROWHEAD"⟩,
  ⟨0x1F898, "", "LEFTWARDS ARROW WITH NOTCHED TAIL, UPWARDS ARROW WITH NOTCHED TAIL"⟩,
  ⟨0x1F89A, "", "RIGHTWARDS ARROW WITH NOTCHED TAIL, DOWNWARDS ARROW WITH NOTCHED TAIL"⟩,
  ⟨0x1F89C, "HEAVY ARROW SHAFT WIDTH ", "ONE, TWO THIRDS, ONE HALF"⟩,
  ⟨0x1F89F, "", "HEAVY ARROW SHAFT WIDTH ONE THIRD, LEFTWARDS BOTTOM-SHADED WHITE ARROW"⟩,
  ⟨0x1F8A1, "", "RIGHTWARDS BOTTOM SHADED WHITE ARROW, LEFTWARDS TOP SHADED WHITE ARROW"⟩,
  ⟨0x1F8A3, "", "RIGHTWARDS TOP SHADED WHITE ARROW, LEFTWARDS LEFT-SHADED WHITE ARROW"⟩,
  ⟨0x1F8A5, "", "RIGHTWARDS RIGHT-SHADED WHITE ARROW, LEFTWARDS RIGHT-SHADED WHITE ARROW"⟩,
  ⟨0x1F8A7, "", "RIGHTWARDS LEFT-SHADED WHITE ARROW, LEFTWARDS BACK-TILTED SHADOWED WHITE ARROW"⟩,
  ⟨0x1F8A9, "", "RIGHTWARDS BACK-TILTED SHADOWED WHITE ARROW"⟩,
  ⟨0x1F8AA, "", "LEFTWARDS FRONT-TILTED SHADOWED WHITE ARROW"⟩,
  ⟨0x1F8AB, "", "RIGHTWARDS FRONT-TILTED SHADOWED WHITE ARROW"⟩,
  ⟨0x1F8AC, "WHITE ARROW SHAFT WIDTH ", "ONE, TWO THIRDS"⟩,
  ⟨0x1F8B0, "ARROW POINTING ", "UPWARDS THEN NORTH WEST, RIGHTWARDS THEN CURVING SOUTH WEST"⟩,
  ⟨0x1F900, "CIRCLED CROSS FORMEE WITH ", "FOUR DOTS, TWO DOTS"⟩,
  ⟨0x1F902, "", "CIRCLED CROSS FORMEE, LEFT HALF CIRCLE WITH FOUR DOTS"⟩,
  ⟨0x1F904, "LEFT HALF ", "CIRCLE WITH THREE DOTS, CIRCLE WITH TWO DOTS, CIRCLE WITH DOT, CIRCLE"⟩,
  ⟨0x1F908, "DOWNWARD FACING ", "HOOK, NOTCHED HOOK, HOOK WITH DOT"⟩,
  ⟨0x1F90B, "", "DOWNWARD FACING NOTCHED HOOK WITH DOT, PINCHED FINGERS, WHITE HEART, BROWN HEART"⟩,
  ⟨0x1F90F, "", "PINCHING HAND, ZIPPER-MOUTH FACE, MONEY-MOUTH FACE, FACE WITH THERMOMETER"⟩,
  ⟨0x1F913, "", "NERD FACE, THINKING FACE, FACE WITH HEAD-BANDAGE, ROBOT FACE, HUGGING FACE"⟩,
  ⟨0x1F918, "", "SIGN OF THE HORNS, CALL ME HAND, RAISED BACK OF HAND, LEFT-FACING FIST"⟩,
  ⟨0x1F91C, "", "RIGHT-FACING FIST, HANDSHAKE, HAND WITH INDEX AND MIDDLE FINGERS CROSSED"⟩,
  ⟨0x1F91F, "", "I LOVE YOU HAND SIGN, FACE WITH COWBOY HAT"⟩,
  ⟨0x1F921, "", "CLOWN FACE, NAUSEATED FACE, ROLLING ON THE FLOOR LAUGHING, DROOLING FACE"⟩,
  ⟨0x1F925, "", "LYING FACE, FACE PALM, SNEEZING FACE, FACE WITH ONE EYEBROW RAISED"⟩,
  ⟨0x1F929, "GRINNING FACE WITH ", "STAR EYES, ONE LARGE AND ONE SMALL EYE"⟩,
  ⟨0x1F92B, "", "FACE WITH FINGER COVERING CLOSED LIPS, SERIOUS FACE WITH SYMBOLS COVERING MOUTH"⟩,
  ⟨0x1F92D, "", "SMILING FACE WITH SMILING EYES AND HAND COVERING MOUTH"⟩,
  ⟨0x1F92E, "", "FACE WITH OPEN MOUTH VOMITING, SHOCKED FACE WITH EXPLODING HEAD"⟩,
  ⟨0x1F930, "", "PREGNANT WOMAN, BREAST-FEEDING, PALMS UP TOGETHER"⟩,
  ⟨0x1F933, "", "SELFIE, PRINCE, MAN IN TUXEDO, MOTHER CHRISTMAS, SHRUG, PERSON DOING CARTWHEEL"⟩,
  ⟨0x1F939, "", "JUGGLING, FENCER, MODERN PENTATHLON, WRESTLERS, WATER POLO"⟩,
  ⟨0x1F93E, "", "HANDBALL, DIVING MASK, WILTED FLOWER, DRUM WITH DRUMSTICKS, CLINKING GLASSES"⟩,
  ⟨0x1F943, "", "TUMBLER GLASS, SPOON, GOAL NET, RIFLE, FIRST PLACE MEDAL, SECOND PLACE MEDAL"⟩,
  ⟨0x1F949, "", "THIRD PLACE MEDAL, BOXING GLOVE, MARTIAL ARTS UNIFORM, CURLING STONE"⟩,
  ⟨0x1F94D, "", "LACROSSE STICK AND BALL, SOFTBALL, FLYING DISC, CROISSANT, AVOCADO, CUCUMBER"⟩,
  ⟨0x1F953, "", "BACON, POTATO, CARROT, BAGUETTE BREAD, GREEN SALAD, SHALLOW PAN OF FOOD"⟩,
  ⟨0x1F959, "", "STUFFED FLATBREAD, EGG, GLASS OF MILK, PEANUTS, KIWIFRUIT, PANCAKES, DUMPLING"⟩,
  ⟨0x1F960, "", "FORTUNE COOKIE, TAKEOUT BOX, CHOPSTICKS, BOWL WITH SPOON, CUP WITH STRAW"⟩,
  ⟨0x1F965, "", "COCONUT, BROCCOLI, PIE, PRETZEL, CUT OF MEAT, SANDWICH, CANNED FOOD, LEAFY GREEN"⟩,
  ⟨0x1F96D, "", "MANGO, MOON CAKE, BAGEL, SMILING FACE WITH SMILING EYES AND THREE HEARTS"⟩,
  ⟨0x1F971, "", "YAWNING FACE, SMILING FACE WITH TEAR, FACE WITH PARTY HORN AND PARTY HAT"⟩,
  ⟨0x1F974, "", "FACE WITH UNEVEN EYES AND WAVY MOUTH, OVERHEATED FACE, FREEZING FACE"⟩,
  ⟨0x1F977, "", "NINJA, DISGUISED FACE, FACE HOLDING BACK TEARS, FACE WITH PLEADING EYES"⟩,
  ⟨0x1F97B, "", "SARI, LAB COAT, GOGGLES, HIKING BOOT, FLAT SHOE, CRAB, LION FACE, SCORPION"⟩,
  ⟨0x1F983, "", "TURKEY, UNICORN FACE, EAGLE, DUCK, BAT, SHARK, OWL, FOX FACE, BUTTERFLY, DEER"⟩,
  ⟨0x1F98D, "", "GORILLA, LIZARD, RHINOCEROS, SHRIMP, SQUID, GIRAFFE FACE, ZEBRA FACE, HEDGEHOG"⟩,
  ⟨0x1F995, "", "SAUROPOD, T-REX, CRICKET, KANGAROO, LLAMA, PEACOCK, HIPPOPOTAMUS, PARROT"⟩,
  ⟨0x1F99D, "", "RACCOON, LOBSTER, MOSQUITO, MICROBE, BADGER, SWAN, MAMMOTH, DODO, SLOTH, OTTER"⟩,
  ⟨0x1F9A7, "", "ORANGUTAN, SKUNK, FLAMINGO, OYSTER, BEAVER, BISON, SEAL, GUIDE DOG, PROBING CANE"⟩,
  ⟨0x1F9B0, "EMOJI COMPONENT ", "RED HAIR, CURLY HAIR, BALD"⟩,
  ⟨0x1F9B3, "", "EMOJI COMPONENT WHITE HAIR, BONE, LEG, FOOT, TOOTH, SUPERHERO, SUPERVILLAIN"⟩,
  ⟨0x1F9BA, "", "SAFETY VEST, EAR WITH HEARING AID, MOTORIZED WHEELCHAIR, MANUAL WHEELCHAIR"⟩,
  ⟨0x1F9BE, "", "MECHANICAL ARM, MECHANICAL LEG, CHEESE WEDGE, CUPCAKE, SALT SHAKER, BEVERAGE BOX"⟩,
  ⟨0x1F9C4, "", "GARLIC, ONION, FALAFEL, WAFFLE, BUTTER, MATE DRINK, ICE CUBE, BUBBLE TEA"⟩,
  ⟨0x1F9CC, "", "TROLL, STANDING PERSON, KNEELING PERSON, DEAF PERSON, FACE WITH MONOCLE, ADULT"⟩,
  ⟨0x1F9D2, "", "CHILD, OLDER ADULT, BEARDED PERSON, PERSON WITH HEADSCARF, PERSON IN STEAMY ROOM"⟩,
  ⟨0x1F9D7, "", "PERSON CLIMBING, PERSON IN LOTUS POSITION, MAGE, FAIRY, VAMPIRE, MERPERSON"⟩,
  ⟨0x1F9DD, "", "ELF, GENIE, ZOMBIE, BRAIN, ORANGE HEART, BILLED CAP, SCARF, GLOVES, COAT, SOCKS"⟩,
  ⟨0x1F9E7, "", "RED GIFT ENVELOPE, FIRECRACKER, JIGSAW PUZZLE PIECE, TEST TUBE, PETRI DISH"⟩,
  ⟨0x1F9EC, "", "DNA DOUBLE HELIX, COMPASS, ABACUS, FIRE EXTINGUISHER, TOOLBOX, BRICK, MAGNET"⟩,
  ⟨0x1F9F3, "", "LUGGAGE, LOTION BOTTLE, SPOOL OF THREAD, BALL OF YARN, SAFETY PIN, TEDDY BEAR"⟩,
  ⟨0x1F9F9, "", "BROOM, BASKET, ROLL OF PAPER, BAR OF SOAP, SPONGE, RECEIPT, NAZAR AMULET"⟩,
  ⟨0x1FA00, "NEUTRAL CHESS ", "KING, QUEEN, ROOK, BISHOP, KNIGHT"⟩,
  ⟨0x1FA05, "", "NEUTRAL CHESS PAWN, WHITE CHESS KNIGHT ROTATED FORTY-FIVE DEGREES"⟩,
  ⟨0x1FA07, "", "BLACK CHESS KNIGHT ROTATED FORTY-FIVE DEGREES"⟩,
  ⟨0x1FA08, "", "NEUTRAL CHESS KNIGHT ROTATED FORTY-FIVE DEGREES"⟩,
  ⟨0x1FA09, "WHITE CHESS ", "KING ROTATED NINETY DEGREES, QUEEN ROTATED NINETY DEGREES"⟩,
  ⟨0x1FA0B, "WHITE CHESS ", "ROOK ROTATED NINETY DEGREES, BISHOP ROTATED NINETY DEGREES"⟩,
  ⟨0x1FA0D, "WHITE CHESS ", "KNIGHT ROTATED NINETY DEGREES, PAWN ROTATED NINETY DEGREES"⟩,
  ⟨0x1FA0F, "BLACK CHESS ", "KING ROTATED NINETY DEGREES, QUEEN ROTATED NINETY DEGREES"⟩,
  ⟨0x1FA11, "BLACK CHESS ", "ROOK ROTATED NINETY DEGREES, BISHOP ROTATED NINETY DEGREES"⟩,
  ⟨0x1FA13, "BLACK CHESS ", "KNIGHT ROTATED NINETY DEGREES, PAWN ROTATED NINETY DEGREES"⟩,
  ⟨0x1FA15, "NEUTRAL CHESS ", "KING ROTATED NINETY DEGREES, QUEEN ROTATED NINETY DEGREES"⟩,
  ⟨0x1FA17, "NEUTRAL CHESS ", "ROOK ROTATED NINETY DEGREES, BISHOP ROTATED NINETY DEGREES"⟩,
  ⟨0x1FA19, "NEUTRAL CHESS ", "KNIGHT ROTATED NINETY DEGREES, PAWN ROTATED NINETY DEGREES"⟩,
  ⟨0x1FA1B, "", "WHITE CHESS KNIGHT ROTATED ONE HUNDRED THIRTY-FIVE DEGREES"⟩,
  ⟨0x1FA1C, "", "BLACK CHESS KNIGHT ROTATED ONE HUNDRED THIRTY-FIVE DEGREES"⟩,
  ⟨0x1FA1D, "", "NEUTRAL CHESS KNIGHT ROTATED ONE HUNDRED THIRTY-FIVE DEGREES"⟩,
  ⟨0x1FA1E, "WHITE CHESS TURNED ", "KING, QUEEN, ROOK, BISHOP, KNIGHT, PAWN"⟩,
  ⟨0x1FA24, "BLACK CHESS TURNED ", "KING, QUEEN, ROOK, BISHOP, KNIGHT, PAWN"⟩,
  ⟨0x1FA2A, "NEUTRAL CHESS TURNED ", "KING, QUEEN, ROOK, BISHOP, KNIGHT, PAWN"⟩,
  ⟨0x1FA30, "", "WHITE CHESS KNIGHT ROTATED TWO HUNDRED TWENTY-FIVE DEGREES"⟩,
  ⟨0x1FA31, "", "BLACK CHESS KNIGHT ROTATED TWO HUNDRED TWENTY-FIVE DEGREES"⟩,
  ⟨0x1FA32, "", "NEUTRAL CHESS KNIGHT ROTATED TWO HUNDRED TWENTY-FIVE DEGREES"⟩,
  ⟨0x1FA33, "", "WHITE CHESS KING ROTATED TWO HUNDRED SEVENTY DEGREES"⟩,
  ⟨0x1FA34, "", "WHITE CHESS QUEEN ROTATED TWO HUNDRED SEVENTY DEGREES"⟩,
  ⟨0x1FA35, "", "WHITE CHESS ROOK ROTATED TWO HUNDRED SEVENTY DEGREES"⟩,
  ⟨0x1FA36, "", "WHITE CHESS BISHOP ROTATED TWO HUNDRED SEVENTY DEGREES"⟩,
  ⟨0x1FA37, "", "WHITE CHESS KNIGHT ROTATED TWO HUNDRED SEVENTY DEGREES"⟩,
  ⟨0x1FA38, "", "WHITE CHESS PAWN ROTATED TWO HUNDRED SEVENTY DEGREES"⟩,
  ⟨0x1FA39, "", "BLACK CHESS KING ROTATED TWO HUNDRED SEVENTY DEGREES"⟩,
  ⟨0x1FA3A, "", "BLACK CHESS QUEEN ROTATED TWO HUNDRED SEVENTY DEGREES"⟩,
  ⟨0x1FA3B, "", "BLACK CHESS ROOK ROTATED TWO HUNDRED SEVENTY DEGREES"⟩,
  ⟨0x1FA3C, "", "BLACK CHESS BISHOP ROTATED TWO HUNDRED SEVENTY DEGREES"⟩,
  ⟨0x1FA3D, "", "BLACK CHESS KNIGHT ROTATED TWO HUNDRED SEVENTY DEGREES"⟩,
  ⟨0x1FA3E, "", "BLACK CHESS PAWN ROTATED TWO HUNDRED SEVENTY DEGREES"⟩,
  ⟨0x1FA3F, "", "NEUTRAL CHESS KING ROTATED TWO HUNDRED SEVENTY DEGREES"⟩,
  ⟨0x1FA40, "", "NEUTRAL CHESS QUEEN ROTATED TWO HUNDRED SEVENTY DEGREES"⟩,
  ⟨0x1FA41, "", "NEUTRAL CHESS ROOK ROTATED TWO HUNDRED SEVENTY DEGREES"⟩,
  ⟨0x1FA42, "", "NEUTRAL CHESS BISHOP ROTATED TWO HUNDRED SEVENTY DEGREES"⟩,
  ⟨0x1FA43, "", "NEUTRAL CHESS KNIGHT ROTATED TWO HUNDRED SEVENTY DEGREES"⟩,
  ⟨0x1FA44, "", "NEUTRAL CHESS PAWN ROTATED TWO HUNDRED SEVENTY DEGREES"⟩,
  ⟨0x1FA45, "", "WHITE CHESS KNIGHT ROTATED THREE HUNDRED FIFTEEN DEGREES"⟩,
  ⟨0x1FA46, "", "BLACK CHESS KNIGHT ROTATED THREE HUNDRED FIFTEEN DEGREES"⟩,
  ⟨0x1FA47, "", "NEUTRAL CHESS KNIGHT ROTATED THREE HUNDRED FIFTEEN DEGREES"⟩,
  ⟨0x1FA48, "", "WHITE CHESS EQUIHOPPER, BLACK CHESS EQUIHOPPER"⟩,
  ⟨0x1FA4A, "", "NEUTRAL CHESS EQUIHOPPER, WHITE CHESS EQUIHOPPER ROTATED NINETY DEGREES"⟩,
  ⟨0x1FA4C, "", "BLACK CHESS EQUIHOPPER ROTATED NINETY DEGREES"⟩,
  ⟨0x1FA4D, "", "NEUTRAL CHESS EQUIHOPPER ROTATED NINETY DEGREES"⟩,
  ⟨0x1FA4E, "WHITE CHESS KNIGHT-", "QUEEN, ROOK, BISHOP"⟩,
  ⟨0x1FA51, "BLACK CHESS KNIGHT-", "QUEEN, ROOK, BISHOP"⟩,
  ⟨0x1FA60, "XIANGQI RED ", "GENERAL, MANDARIN, ELEPHANT, HORSE, CHARIOT, CANNON, SOLDIER"⟩,
  ⟨0x1FA67, "XIANGQI BLACK ", "GENERAL, MANDARIN, ELEPHANT, HORSE, CHARIOT, CANNON, SOLDIER"⟩,
  ⟨0x1FA70, "", "BALLET SHOES, ONE-PIECE SWIMSUIT, BRIEFS, SHORTS, THONG SANDAL"⟩,
  ⟨0x1FA78, "", "DROP OF BLOOD, ADHESIVE BANDAGE, STETHOSCOPE, X-RAY, CRUTCH"⟩,
  ⟨0x1FA80, "", "YO-YO, KITE, PARACHUTE, BOOMERANG, MAGIC WAND, PINATA, NESTING DOLLS"⟩,
  ⟨0x1FA90, "", "RINGED PLANET, CHAIR, RAZOR, AXE, DIYA LAMP, BANJO, MILITARY HELMET"⟩,
  ⟨0x1FA97, "", "ACCORDION, LONG DRUM, COIN, CARPENTRY SAW, SCREWDRIVER, LADDER, HOOK"⟩,
  ⟨0x1FA9E, "", "MIRROR, WINDOW, PLUNGER, SEWING NEEDLE, KNOT, BUCKET, MOUSE TRAP, TOOTHBRUSH"⟩,
  ⟨0x1FAA6, "", "HEADSTONE, PLACARD, ROCK, MIRROR BALL, IDENTIFICATION CARD, LOW BATTERY, HAMSA"⟩,
  ⟨0x1FAB0, "", "FLY, WORM, BEETLE"⟩,
  ⟨0x1FAB3, "", "COCKROACH, POTTED PLANT, WOOD, FEATHER, LOTUS, CORAL, EMPTY NEST, NEST WITH EGGS"⟩,
  ⟨0x1FAC0, "", "ANATOMICAL HEART"⟩,
  ⟨0x1FAC1, "", "LUNGS, PEOPLE HUGGING, PREGNANT MAN, PREGNANT PERSON, PERSON WITH CROWN"⟩,
  ⟨0x1FAD0, "", "BLUEBERRIES, BELL PEPPER"⟩,
  ⟨0x1FAD2, "", "OLIVE, FLATBREAD, TAMALE, FONDUE, TEAPOT, POURING LIQUID, BEANS, JAR"⟩,
  ⟨0x1FAE0, "", "MELTING FACE"⟩,
  ⟨0x1FAE1, "", "SALUTING FACE, FACE WITH OPEN EYES AND HAND OVER MOUTH, FACE WITH PEEKING EYE"⟩,
  ⟨0x1FAE4, "", "FACE WITH DIAGONAL MOUTH, DOTTED LINE FACE, BITING LIP, BUBBLES"⟩,
  ⟨0x1FAF0, "", "HAND WITH INDEX FINGER AND THUMB CROSSED, RIGHTWARDS HAND, LEFTWARDS HAND"⟩,
  ⟨0x1FAF3, "", "PALM DOWN HAND, PALM UP HAND, INDEX POINTING AT THE VIEWER, HEART HANDS"⟩]

end BatchExec
