import MediaDepot.Text.Name.Run

/-!
# Names of letters

The names of the characters below U+1400: the letters of living scripts.
-/

namespace MediaDepot.Text

/-- The names, by the first character of each run. -/
def letterNames : List NameRun := [
  ⟨0x0020, ["0SPACE,0EXCLAMATION MARK,0QUOTATION/1,0NUMBER SIGN,0DOLLAR/1,0PERCENT/1,0AMPERSAND",
    "0APOSTROPHE,0LEFT PARENTHESIS,0RIGHT/1,0ASTERISK,0PLUS SIGN,0COMMA,0HYPHEN-MINUS",
    "0FULL STOP,0SOLIDUS,0DIGIT ZERO,1ONE,1TWO,1THREE,1FOUR,1FIVE,1SIX,1SEVEN,1EIGHT,1NINE",
    "0COLON,0SEMICOLON,0LESS-THAN SIGN,0EQUALS/1,0GREATER-THAN/1,0QUESTION MARK,0COMMERCIAL AT",
    "0LATIN CAPITAL LETTER A,3B,3C,3D,3E,3F,3G,3H,3I,3J,3K,3L,3M,3N,3O,3P,3Q,3R,3S,3T,3U,3V,3W",
    "3X,3Y,3Z,0LEFT SQUARE BRACKET,0REVERSE SOLIDUS,0RIGHT SQUARE BRACKET,0CIRCUMFLEX ACCENT",
    "0LOW LINE,0GRAVE ACCENT,0LATIN SMALL LETTER A,3B,3C,3D,3E,3F,3G,3H,3I,3J,3K,3L,3M,3N,3O,3P",
    "3Q,3R,3S,3T,3U,3V,3W,3X,3Y,3Z,0LEFT CURLY BRACKET,0VERTICAL LINE,0RIGHT CURLY BRACKET",
    "0TILDE"]⟩,
  ⟨0x00A0, ["0NO-BREAK SPACE,0INVERTED EXCLAMATION MARK,0CENT SIGN,0POUND/1,0CURRENCY/1,0YEN/1",
    "0BROKEN BAR,0SECTION SIGN,0DIAERESIS,0COPYRIGHT SIGN,0FEMININE ORDINAL INDICATOR",
    "0LEFT-POINTING DOUBLE ANGLE QUOTATION MARK,0NOT SIGN,0SOFT HYPHEN,0REGISTERED SIGN,0MACRON",
    "0DEGREE SIGN,0PLUS-MINUS/1,0SUPERSCRIPT TWO,1THREE,0ACUTE ACCENT,0MICRO SIGN,0PILCROW/1",
    "0MIDDLE DOT,0CEDILLA,0SUPERSCRIPT ONE,0MASCULINE ORDINAL INDICATOR",
    "0RIGHT-POINTING DOUBLE ANGLE QUOTATION MARK,0VULGAR FRACTION ONE QUARTER,3HALF",
    "2THREE QUARTERS,0INVERTED QUESTION MARK,0LATIN CAPITAL LETTER A WITH GRAVE,5ACUTE",
    "5CIRCUMFLEX,5TILDE,5DIAERESIS,5RING ABOVE,3AE,3C WITH CEDILLA,3E WITH GRAVE,5ACUTE",
    "5CIRCUMFLEX,5DIAERESIS,3I WITH GRAVE,5ACUTE,5CIRCUMFLEX,5DIAERESIS,3ETH,3N WITH TILDE",
    "3O WITH GRAVE,5ACUTE,5CIRCUMFLEX,5TILDE,5DIAERESIS,0MULTIPLICATION SIGN",
    "0LATIN CAPITAL LETTER O WITH STROKE,3U WITH GRAVE,5ACUTE,5CIRCUMFLEX,5DIAERESIS",
    "3Y WITH ACUTE,3THORN,1SMALL LETTER SHARP S,3A WITH GRAVE,5ACUTE,5CIRCUMFLEX,5TILDE",
    "5DIAERESIS,5RING ABOVE,3AE,3C WITH CEDILLA,3E WITH GRAVE,5ACUTE,5CIRCUMFLEX,5DIAERESIS",
    "3I WITH GRAVE,5ACUTE,5CIRCUMFLEX,5DIAERESIS,3ETH,3N WITH TILDE,3O WITH GRAVE,5ACUTE",
    "5CIRCUMFLEX,5TILDE,5DIAERESIS,0DIVISION SIGN,0LATIN SMALL LETTER O WITH STROKE",
    "3U WITH GRAVE,5ACUTE,5CIRCUMFLEX,5DIAERESIS,3Y WITH ACUTE,3THORN,3Y WITH DIAERESIS",
    "1CAPITAL LETTER A WITH MACRON,1SMALL/4,1CAPITAL LETTER A WITH BREVE,1SMALL/4",
    "1CAPITAL LETTER A WITH OGONEK,1SMALL/4,1CAPITAL LETTER C WITH ACUTE,1SMALL/4",
    "1CAPITAL LETTER C WITH CIRCUMFLEX,1SMALL/4,1CAPITAL LETTER C WITH DOT ABOVE,1SMALL/5",
    "1CAPITAL LETTER C WITH CARON,1SMALL/4,1CAPITAL LETTER D/2,1SMALL/4",
    "1CAPITAL LETTER D WITH STROKE,1SMALL/4,1CAPITAL LETTER E WITH MACRON,1SMALL/4",
    "1CAPITAL LETTER E WITH BREVE,1SMALL/4,1CAPITAL LETTER E WITH DOT ABOVE,1SMALL/5",
    "1CAPITAL LETTER E WITH OGONEK,1SMALL/4,1CAPITAL LETTER E WITH CARON,1SMALL/4",
    "1CAPITAL LETTER G WITH CIRCUMFLEX,1SMALL/4,1CAPITAL LETTER G WITH BREVE,1SMALL/4",
    "1CAPITAL LETTER G WITH DOT ABOVE,1SMALL/5,1CAPITAL LETTER G WITH CEDILLA,1SMALL/4",
    "1CAPITAL LETTER H WITH CIRCUMFLEX,1SMALL/4,1CAPITAL LETTER H WITH STROKE,1SMALL/4",
    "1CAPITAL LETTER I WITH TILDE,1SMALL/4,1CAPITAL LETTER I WITH MACRON,1SMALL/4",
    "1CAPITAL LETTER I WITH BREVE,1SMALL/4,1CAPITAL LETTER I WITH OGONEK,1SMALL/4",
    "1CAPITAL LETTER I WITH DOT ABOVE,1SMALL LETTER DOTLESS I,1CAPITAL LIGATURE IJ,1SMALL/2",
    "1CAPITAL LETTER J WITH CIRCUMFLEX,1SMALL/4,1CAPITAL LETTER K WITH CEDILLA,1SMALL/4,3KRA",
    "1CAPITAL LETTER L WITH ACUTE,1SMALL/4,1CAPITAL LETTER L WITH CEDILLA,1SMALL/4",
    "1CAPITAL LETTER L WITH CARON,1SMALL/4,1CAPITAL LETTER L WITH MIDDLE DOT,1SMALL/5",
    "1CAPITAL LETTER L WITH STROKE,1SMALL/4,1CAPITAL LETTER N WITH ACUTE,1SMALL/4",
    "1CAPITAL LETTER N WITH CEDILLA,1SMALL/4,1CAPITAL LETTER N WITH CARON,1SMALL/4",
    "4PRECEDED BY APOSTROPHE,1CAPITAL LETTER ENG,1SMALL/2,1CAPITAL LETTER O WITH MACRON",
    "1SMALL/4,1CAPITAL LETTER O WITH BREVE,1SMALL/4,1CAPITAL LETTER O WITH DOUBLE ACUTE",
    "1SMALL/5,1CAPITAL LIGATURE OE,1SMALL/2,1CAPITAL LETTER R WITH ACUTE,1SMALL/4",
    "1CAPITAL LETTER R WITH CEDILLA,1SMALL/4,1CAPITAL LETTER R WITH CARON,1SMALL/4",
    "1CAPITAL LETTER S WITH ACUTE,1SMALL/4,1CAPITAL LETTER S WITH CIRCUMFLEX,1SMALL/4",
    "1CAPITAL LETTER S WITH CEDILLA,1SMALL/4,1CAPITAL LETTER S WITH CARON,1SMALL/4",
    "1CAPITAL LETTER T WITH CEDILLA,1SMALL/4,1CAPITAL LETTER T WITH CARON,1SMALL/4",
    "1CAPITAL LETTER T WITH STROKE,1SMALL/4,1CAPITAL LETTER U WITH TILDE,1SMALL/4",
    "1CAPITAL LETTER U WITH MACRON,1SMALL/4,1CAPITAL LETTER U WITH BREVE,1SMALL/4",
    "1CAPITAL LETTER U WITH RING ABOVE,1SMALL/5,1CAPITAL LETTER U WITH DOUBLE ACUTE,1SMALL/5",
    "1CAPITAL LETTER U WITH OGONEK,1SMALL/4,1CAPITAL LETTER W WITH CIRCUMFLEX,1SMALL/4",
    "1CAPITAL LETTER Y/2,1SMALL/4,1CAPITAL LETTER Y WITH DIAERESIS,3Z WITH ACUTE,1SMALL/4",
    "1CAPITAL LETTER Z WITH DOT ABOVE,1SMALL/5,1CAPITAL LETTER Z WITH CARON,1SMALL/4,3LONG S",
    "3B WITH STROKE,1CAPITAL LETTER B WITH HOOK,5TOPBAR,1SMALL/4,1CAPITAL LETTER TONE SIX",
    "1SMALL/3,1CAPITAL LETTER OPEN O,3C WITH HOOK,1SMALL/4,1CAPITAL LETTER AFRICAN D",
    "3D WITH HOOK,5TOPBAR,1SMALL/4,3TURNED DELTA,1CAPITAL LETTER REVERSED E,3SCHWA,3OPEN E",
    "3F WITH HOOK,1SMALL/4,1CAPITAL LETTER G/2,3GAMMA,1SMALL LETTER HV,1CAPITAL LETTER IOTA",
    "3I WITH STROKE,3K WITH HOOK,1SMALL/4,3L WITH BAR,3LAMBDA WITH STROKE",
    "1CAPITAL LETTER TURNED M,3N WITH LEFT HOOK,1SMALL LETTER N WITH LONG RIGHT LEG",
    "1CAPITAL LETTER O WITH MIDDLE TILDE,5HORN,1SMALL/4,1CAPITAL LETTER OI,1SMALL/2",
    "1CAPITAL LETTER P WITH HOOK,1SMALL/4,1LETTER YR,1CAPITAL LETTER TONE TWO,1SMALL/3",
    "1CAPITAL LETTER ESH,1LETTER REVERSED ESH LOOP,1SMALL LETTER T WITH PALATAL HOOK",
    "1CAPITAL LETTER T WITH/1,1SMALL/4,1CAPITAL LETTER T WITH RETROFLEX/1,3U WITH HORN,1SMALL/4",
    "1CAPITAL LETTER UPSILON,3V WITH HOOK,3Y/2,1SMALL/4,1CAPITAL LETTER Z WITH STROKE,1SMALL/4",
    "1CAPITAL LETTER EZH,4REVERSED,1SMALL/3,4WITH TAIL,1LETTER TWO WITH STROKE",
    "1CAPITAL LETTER TONE FIVE,1SMALL/3,1LETTER INVERTED GLOTTAL STOP WITH STROKE,2WYNN",
    "2DENTAL CLICK,2LATERAL/1,2ALVEOLAR/1,2RETROFLEX/1,1CAPITAL LETTER DZ WITH CARON",
    "3D WITH SMALL LETTER Z/2,1SMALL LETTER DZ/2,1CAPITAL LETTER LJ,3L WITH SMALL LETTER J",
    "1SMALL LETTER LJ,1CAPITAL LETTER NJ,3N WITH SMALL LETTER J,1SMALL LETTER NJ",
    "1CAPITAL LETTER A WITH CARON,1SMALL/4,1CAPITAL LETTER I/2,1SMALL/4,1CAPITAL LETTER O/2",
    "1SMALL/4,1CAPITAL LETTER U/2,1SMALL/4,1CAPITAL LETTER U WITH DIAERESIS AND MACRON,1SMALL/6",
    "1CAPITAL LETTER U WITH DIAERESIS AND ACUTE,1SMALL/6",
    "1CAPITAL LETTER U WITH DIAERESIS AND CARON,1SMALL/6",
    "1CAPITAL LETTER U WITH DIAERESIS AND GRAVE,1SMALL/6,3TURNED E",
    "1CAPITAL LETTER A WITH DIAERESIS AND MACRON,1SMALL/6,1CAPITAL LETTER A WITH DOT ABOVE/2",
    "1SMALL/7,1CAPITAL LETTER AE WITH/1,1SMALL/4,1CAPITAL LETTER G WITH STROKE,1SMALL/4",
    "1CAPITAL LETTER G WITH CARON,1SMALL/4,1CAPITAL LETTER K/2,1SMALL/4",
    "1CAPITAL LETTER O WITH OGONEK,1SMALL/4,1CAPITAL LETTER O WITH OGONEK AND MACRON,1SMALL/6",
    "1CAPITAL LETTER EZH WITH CARON,1SMALL/4,3J/2,1CAPITAL LETTER DZ,3D WITH SMALL LETTER Z",
    "1SMALL LETTER DZ,1CAPITAL LETTER G WITH ACUTE,1SMALL/4,1CAPITAL LETTER HWAIR,3WYNN",
    "3N WITH GRAVE,1SMALL/4,1CAPITAL LETTER A WITH RING ABOVE AND ACUTE,1SMALL/7",
    "1CAPITAL LETTER AE WITH/1,1SMALL/4,1CAPITAL LETTER O WITH STROKE AND/1,1SMALL/6",
    "1CAPITAL LETTER A WITH DOUBLE GRAVE,1SMALL/5,1CAPITAL LETTER A WITH INVERTED BREVE",
    "1SMALL/5,1CAPITAL LETTER E WITH DOUBLE GRAVE,1SMALL/5",
    "1CAPITAL LETTER E WITH INVERTED BREVE,1SMALL/5,1CAPITAL LETTER I WITH DOUBLE GRAVE",
    "1SMALL/5,1CAPITAL LETTER I WITH INVERTED BREVE,1SMALL/5",
    "1CAPITAL LETTER O WITH DOUBLE GRAVE,1SMALL/5,1CAPITAL LETTER O WITH INVERTED BREVE",
    "1SMALL/5,1CAPITAL LETTER R WITH DOUBLE GRAVE,1SMALL/5",
    "1CAPITAL LETTER R WITH INVERTED BREVE,1SMALL/5,1CAPITAL LETTER U WITH DOUBLE GRAVE",
    "1SMALL/5,1CAPITAL LETTER U WITH INVERTED BREVE,1SMALL/5,1CAPITAL LETTER S WITH COMMA BELOW",
    "1SMALL/5,1CAPITAL LETTER T/3,1SMALL/5,1CAPITAL LETTER YOGH,1SMALL/2",
    "1CAPITAL LETTER H WITH CARON,1SMALL/4,1CAPITAL LETTER N WITH LONG RIGHT LEG",
    "1SMALL LETTER D WITH CURL,1CAPITAL LETTER OU,1SMALL/2,1CAPITAL LETTER Z WITH HOOK,1SMALL/4",
    "1CAPITAL LETTER A WITH DOT ABOVE,1SMALL/5,1CAPITAL LETTER E WITH CEDILLA,1SMALL/4",
    "1CAPITAL LETTER O WITH DIAERESIS AND MACRON,1SMALL/6,1CAPITAL LETTER O WITH TILDE/2",
    "1SMALL/6,1CAPITAL LETTER O WITH DOT ABOVE,1SMALL/5",
    "1CAPITAL LETTER O WITH DOT ABOVE AND MACRON,1SMALL/7,1CAPITAL LETTER Y WITH/1,1SMALL/4",
    "3L WITH CURL,3N/2,3T/2,3DOTLESS J,3DB DIGRAPH,3QP/1,1CAPITAL LETTER A WITH STROKE,3C/2",
    "1SMALL/4,1CAPITAL LETTER L WITH BAR,3T WITH DIAGONAL STROKE",
    "1SMALL LETTER S WITH SWASH TAIL,3Z/3,1CAPITAL LETTER GLOTTAL STOP,1SMALL/3",
    "1CAPITAL LETTER B WITH STROKE,3U BAR,3TURNED V,3E WITH STROKE,1SMALL/4,1CAPITAL LETTER J/2",
    "1SMALL/4,1CAPITAL LETTER SMALL Q WITH HOOK TAIL,1SMALL LETTER/4",
    "1CAPITAL LETTER R WITH STROKE,1SMALL/4,1CAPITAL LETTER Y/2,1SMALL/4,3TURNED A,3ALPHA",
    "3TURNED/1,3B WITH HOOK,3OPEN O,3C WITH CURL,3D WITH TAIL,5HOOK,3REVERSED E,3SCHWA",
    "4WITH HOOK,3OPEN E,3REVERSED/2,6WITH HOOK,3CLOSED REVERSED OPEN E,3DOTLESS J WITH STROKE",
    "3G WITH HOOK,3SCRIPT G,1LETTER SMALL CAPITAL/1,1SMALL LETTER GAMMA,3RAMS HORN,3TURNED H",
    "3H WITH HOOK,3HENG/2,3I WITH STROKE,3IOTA,1LETTER SMALL CAPITAL I",
    "1SMALL LETTER L WITH MIDDLE TILDE,5BELT,5RETROFLEX HOOK,3LEZH,3TURNED M,5WITH LONG LEG",
    "3M WITH HOOK,3N WITH LEFT/1,5RETROFLEX/1,1LETTER SMALL CAPITAL N,1SMALL LETTER BARRED O",
    "1LETTER SMALL CAPITAL OE,1SMALL LETTER CLOSED OMEGA,3PHI,3TURNED R,5WITH LONG LEG,6HOOK",
    "3R WITH LONG LEG,5TAIL,5FISHHOOK,3REVERSED/3,1LETTER SMALL CAPITAL R,4INVERTED/1",
    "1SMALL LETTER S WITH HOOK,3ESH,3DOTLESS J WITH STROKE AND HOOK,3SQUAT REVERSED ESH",
    "3ESH WITH CURL,3TURNED T,3T WITH RETROFLEX HOOK,3U BAR,3UPSILON,3V WITH HOOK,3TURNED V,4W",
    "4Y,1LETTER SMALL CAPITAL/1,1SMALL LETTER Z WITH RETROFLEX HOOK,5CURL,3EZH,4WITH CURL",
    "1LETTER GLOTTAL STOP,2PHARYNGEAL VOICED FRICATIVE,2INVERTED GLOTTAL STOP,2STRETCHED C",
    "2BILABIAL CLICK,2SMALL CAPITAL B,1SMALL LETTER CLOSED OPEN E",
    "1LETTER SMALL CAPITAL G WITH HOOK,4H,1SMALL LETTER J WITH CROSSED-TAIL,3TURNED K",
    "1LETTER SMALL CAPITAL L,1SMALL LETTER Q WITH HOOK,1LETTER GLOTTAL STOP WITH STROKE",
    "2REVERSED/4,1SMALL LETTER DZ DIGRAPH,3DEZH/1,3DZ DIGRAPH WITH CURL,3TS DIGRAPH,3TESH/1",
    "3TC DIGRAPH WITH CURL,3FENG DIGRAPH,3LS/1,3LZ/1,1LETTER BILABIAL PERCUSSIVE,2BIDENTAL/1",
    "1SMALL LETTER TURNED H WITH FISHHOOK,7AND TAIL,0MODIFIER LETTER SMALL H,4WITH HOOK,3J,3R",
    "3TURNED/1,5WITH HOOK,3CAPITAL INVERTED R,3W,3Y,2PRIME,2DOUBLE/1,2TURNED COMMA,2APOSTROPHE",
    "2REVERSED COMMA,2RIGHT HALF RING,2LEFT/2,2GLOTTAL STOP,2REVERSED/2,2LEFT ARROWHEAD",
    "2RIGHT/1,2UP/1,2DOWN/1,2CIRCUMFLEX ACCENT,0CARON,0MODIFIER LETTER VERTICAL LINE,2MACRON",
    "2ACUTE ACCENT,2GRAVE/1,2LOW VERTICAL LINE,3MACRON,3GRAVE ACCENT,3ACUTE/1,2TRIANGULAR COLON",
    "2HALF/2,2CENTRED RIGHT HALF RING,3LEFT/2,2UP TACK,2DOWN/1,2PLUS SIGN,2MINUS/1,0BREVE",
    "0DOT ABOVE,0RING/1,0OGONEK,0SMALL TILDE,0DOUBLE ACUTE ACCENT,0MODIFIER LETTER RHOTIC HOOK",
    "2CROSS ACCENT,2SMALL GAMMA,3L,3S,3X,3REVERSED GLOTTAL STOP,2EXTRA-HIGH TONE BAR,2HIGH/2",
    "2MID/2,2LOW/2,2EXTRA-LOW/2,2YIN DEPARTING TONE MARK,2YANG/3,2VOICING,2UNASPIRATED",
    "2DOUBLE APOSTROPHE,2LOW DOWN ARROWHEAD,3UP/1,3LEFT/1,3RIGHT/1,3RING,2MIDDLE GRAVE ACCENT",
    "3DOUBLE/2,4ACUTE/1,2LOW TILDE,2RAISED COLON,2BEGIN HIGH TONE,2END/2,2BEGIN LOW/1,2END/2",
    "2SHELF,2OPEN/1,2LOW LEFT ARROW,0COMBINING GRAVE ACCENT,1ACUTE/1,1CIRCUMFLEX/1,1TILDE",
    "1MACRON,1OVERLINE,1BREVE,1DOT ABOVE,1DIAERESIS,1HOOK ABOVE,1RING/1,1DOUBLE ACUTE ACCENT",
    "1CARON,1VERTICAL LINE ABOVE,1DOUBLE/3,2GRAVE ACCENT,1CANDRABINDU,1INVERTED BREVE",
    "1TURNED COMMA ABOVE,1/2,1REVERSED/2,1COMMA ABOVE RIGHT,1GRAVE ACCENT BELOW,1ACUTE/2",
    "1LEFT TACK/1,1RIGHT/2,1LEFT ANGLE ABOVE,1HORN,1LEFT HALF RING BELOW,1UP TACK/1,1DOWN/2",
    "1PLUS SIGN/1,1MINUS/2,1PALATALIZED HOOK/1,1RETROFLEX/2,1DOT/1,1DIAERESIS/1,1RING/1",
    "1COMMA/1,1CEDILLA,1OGONEK,1VERTICAL LINE BELOW,1BRIDGE/1,1INVERTED DOUBLE ARCH/1,1CARON/1",
    "1CIRCUMFLEX ACCENT/1,1BREVE/1,1INVERTED/2,1TILDE/1,1MACRON/1,1LOW LINE,1DOUBLE/2",
    "1TILDE OVERLAY,1SHORT STROKE/1,1LONG/2,1SHORT SOLIDUS/1,1LONG/2,1RIGHT HALF RING BELOW",
    "1INVERTED BRIDGE/1,1SQUARE/1,1SEAGULL/1,1X ABOVE,1VERTICAL TILDE,1DOUBLE OVERLINE",
    "1GRAVE TONE MARK,1ACUTE/2,1GREEK PERISPOMENI,2KORONIS,2DIALYTIKA TONOS,2YPOGEGRAMMENI",
    "1BRIDGE ABOVE,1EQUALS SIGN BELOW,1DOUBLE VERTICAL LINE/1,1LEFT ANGLE/1,1NOT TILDE ABOVE",
    "1HOMOTHETIC/1,1ALMOST EQUAL TO/1,1LEFT RIGHT ARROW BELOW,1UPWARDS/2,1GRAPHEME JOINER",
    "1RIGHT ARROWHEAD ABOVE,1LEFT HALF RING/1,1FERMATA,1X BELOW,1LEFT ARROWHEAD/1,1RIGHT/2",
    "3AND UP ARROWHEAD/1,2HALF RING ABOVE,1DOT ABOVE RIGHT,1ASTERISK BELOW,1DOUBLE RING/1",
    "1ZIGZAG ABOVE,1DOUBLE BREVE BELOW,3,2MACRON,3BELOW,2TILDE,2INVERTED BREVE",
    "2RIGHTWARDS ARROW BELOW,1LATIN SMALL LETTER A,4E,4I,4O,4U,4C,4D,4H,4M,4R,4T,4V,4X",
    "0GREEK CAPITAL LETTER HETA,1SMALL/2,1CAPITAL LETTER ARCHAIC SAMPI,1SMALL/3,1NUMERAL SIGN",
    "1LOWER/2,1CAPITAL LETTER PAMPHYLIAN DIGAMMA,1SMALL/3"]⟩,
  ⟨0x037A, ["0GREEK YPOGEGRAMMENI,1SMALL REVERSED LUNATE SIGMA SYMBOL,2DOTTED/3,2REVERSED/4",
    "1QUESTION MARK,1CAPITAL LETTER YOT"]⟩,
  ⟨0x0384, ["0GREEK TONOS,1DIALYTIKA/1,1CAPITAL LETTER ALPHA WITH/1,1ANO TELEIA",
    "1CAPITAL LETTER EPSILON WITH TONOS,3ETA/2,3IOTA/2"]⟩,
  ⟨0x038C, ["0GREEK CAPITAL LETTER OMICRON WITH TONOS"]⟩,
  ⟨0x038E, ["0GREEK CAPITAL LETTER UPSILON WITH TONOS,3OMEGA/2",
    "1SMALL LETTER IOTA WITH DIALYTIKA AND/1,1CAPITAL LETTER ALPHA,3BETA,3GAMMA,3DELTA,3EPSILON",
    "3ZETA,3ETA,3THETA,3IOTA,3KAPPA,3LAMDA,3MU,3NU,3XI,3OMICRON,3PI,3RHO"]⟩,
  ⟨0x03A3, ["0GREEK CAPITAL LETTER SIGMA,3TAU,3UPSILON,3PHI,3CHI,3PSI,3OMEGA",
    "3IOTA WITH DIALYTIKA,3UPSILON/2,1SMALL LETTER ALPHA WITH TONOS,3EPSILON/2,3ETA/2,3IOTA/2",
    "3UPSILON WITH DIALYTIKA AND/1,3ALPHA,3BETA,3GAMMA,3DELTA,3EPSILON,3ZETA,3ETA,3THETA,3IOTA",
    "3KAPPA,3LAMDA,3MU,3NU,3XI,3OMICRON,3PI,3RHO,3FINAL SIGMA,3/1,3TAU,3UPSILON,3PHI,3CHI,3PSI",
    "3OMEGA,3IOTA WITH DIALYTIKA,3UPSILON/2,3OMICRON WITH TONOS,3UPSILON/2,3OMEGA/2",
    "1CAPITAL KAI SYMBOL,1BETA/1,1THETA/1,1UPSILON WITH HOOK/1,3ACUTE AND/2,3DIAERESIS/3,1PHI/1",
    "1PI/1,1KAI/1,1LETTER ARCHAIC KOPPA,1SMALL/3,1LETTER STIGMA,1SMALL/2,1LETTER DIGAMMA",
    "1SMALL/2,1LETTER KOPPA,1SMALL/2,1LETTER SAMPI,1SMALL/2,0COPTIC CAPITAL LETTER SHEI",
    "1SMALL/2,1CAPITAL LETTER FEI,1SMALL/2,1CAPITAL LETTER KHEI,1SMALL/2,1CAPITAL LETTER HORI",
    "1SMALL/2,1CAPITAL LETTER GANGIA,1SMALL/2,1CAPITAL LETTER SHIMA,1SMALL/2",
    "1CAPITAL LETTER DEI,1SMALL/2,0GREEK KAPPA SYMBOL,1RHO/1,1LUNATE SIGMA/1,1LETTER YOT",
    "1CAPITAL THETA SYMBOL,1LUNATE EPSILON/1,1REVERSED/3,1CAPITAL LETTER SHO,1SMALL/2",
    "1CAPITAL LUNATE SIGMA SYMBOL,2LETTER SAN,1SMALL/2,1RHO WITH STROKE SYMBOL",
    "1CAPITAL REVERSED LUNATE SIGMA/1,2DOTTED/3,2REVERSED/4",
    "0CYRILLIC CAPITAL LETTER IE WITH GRAVE,3IO,3DJE,3GJE,3UKRAINIAN IE,3DZE",
    "3BYELORUSSIAN-UKRAINIAN I,3YI,3JE,3LJE,3NJE,3TSHE,3KJE,3I WITH GRAVE,3SHORT U,3DZHE,3A,3BE",
    "3VE,3GHE,3DE,3IE,3ZHE,3ZE,3I,3SHORT/1,3KA,3EL,3EM,3EN,3O,3PE,3ER,3ES,3TE,3U,3EF,3HA,3TSE",
    "3CHE,3SHA,3SHCHA,3HARD SIGN,3YERU,3SOFT SIGN,3E,3YU,3YA,1SMALL LETTER A,3BE,3VE,3GHE,3DE",
    "3IE,3ZHE,3ZE,3I,3SHORT/1,3KA,3EL,3EM,3EN,3O,3PE,3ER,3ES,3TE,3U,3EF,3HA,3TSE,3CHE,3SHA",
    "3SHCHA,3HARD SIGN,3YERU,3SOFT SIGN,3E,3YU,3YA,3IE WITH GRAVE,3IO,3DJE,3GJE,3UKRAINIAN IE",
    "3DZE,3BYELORUSSIAN-UKRAINIAN I,3YI,3JE,3LJE,3NJE,3TSHE,3KJE,3I WITH GRAVE,3SHORT U,3DZHE",
    "1CAPITAL LETTER OMEGA,1SMALL/2,1CAPITAL LETTER YAT,1SMALL/2,1CAPITAL LETTER IOTIFIED E",
    "1SMALL/3,1CAPITAL LETTER LITTLE YUS,1SMALL/3,1CAPITAL LETTER IOTIFIED/2,1SMALL/4",
    "1CAPITAL LETTER BIG/1,1SMALL/3,1CAPITAL LETTER IOTIFIED/2,1SMALL/4,1CAPITAL LETTER KSI",
    "1SMALL/2,1CAPITAL LETTER PSI,1SMALL/2,1CAPITAL LETTER FITA,1SMALL/2",
    "1CAPITAL LETTER IZHITSA,1SMALL/2,1CAPITAL LETTER IZHITSA WITH DOUBLE GRAVE ACCENT,1SMALL/6",
    "1CAPITAL LETTER UK,1SMALL/2,1CAPITAL LETTER ROUND OMEGA,1SMALL/3",
    "1CAPITAL LETTER OMEGA WITH TITLO,1SMALL/4,1CAPITAL LETTER OT,1SMALL/2",
    "1CAPITAL LETTER KOPPA,1SMALL/2,1THOUSANDS SIGN,0COMBINING CYRILLIC TITLO,2PALATALIZATION",
    "2DASIA PNEUMATA,2PSILI/1,2POKRYTIE,2HUNDRED THOUSANDS SIGN,2MILLIONS/1",
    "0CYRILLIC CAPITAL LETTER SHORT I WITH TAIL,1SMALL/5,1CAPITAL LETTER SEMISOFT SIGN,1SMALL/3",
    "1CAPITAL LETTER ER WITH TICK,1SMALL/4,1CAPITAL LETTER GHE WITH UPTURN,1SMALL/4",
    "1CAPITAL LETTER GHE WITH STROKE,1SMALL/4,1CAPITAL LETTER GHE WITH MIDDLE HOOK,1SMALL/5",
    "1CAPITAL LETTER ZHE WITH DESCENDER,1SMALL/4,1CAPITAL LETTER ZE/2,1SMALL/4",
    "1CAPITAL LETTER KA/2,1SMALL/4,1CAPITAL LETTER KA WITH VERTICAL STROKE,1SMALL/5",
    "1CAPITAL LETTER KA WITH/1,1SMALL/4,1CAPITAL LETTER BASHKIR KA,1SMALL/3",
    "1CAPITAL LETTER EN WITH DESCENDER,1SMALL/4,1CAPITAL LIGATURE EN GHE,1SMALL/3",
    "1CAPITAL LETTER PE WITH MIDDLE HOOK,1SMALL/5,1CAPITAL LETTER ABKHASIAN HA,1SMALL/3",
    "1CAPITAL LETTER ES WITH DESCENDER,1SMALL/4,1CAPITAL LETTER TE/2,1SMALL/4",
    "1CAPITAL LETTER STRAIGHT U,1SMALL/3,1CAPITAL LETTER STRAIGHT U WITH STROKE,1SMALL/5",
    "1CAPITAL LETTER HA WITH DESCENDER,1SMALL/4,1CAPITAL LIGATURE TE TSE,1SMALL/3",
    "1CAPITAL LETTER CHE WITH DESCENDER,1SMALL/4,1CAPITAL LETTER CHE WITH VERTICAL STROKE",
    "1SMALL/5,1CAPITAL LETTER SHHA,1SMALL/2,1CAPITAL LETTER ABKHASIAN CHE,1SMALL/3",
    "1CAPITAL LETTER ABKHASIAN CHE WITH DESCENDER,1SMALL/5,1LETTER PALOCHKA",
    "1CAPITAL LETTER ZHE WITH BREVE,1SMALL/4,1CAPITAL LETTER KA WITH HOOK,1SMALL/4",
    "1CAPITAL LETTER EL WITH TAIL,1SMALL/4,1CAPITAL LETTER EN WITH HOOK,1SMALL/4",
    "1CAPITAL LETTER EN WITH TAIL,1SMALL/4,1CAPITAL LETTER KHAKASSIAN CHE,1SMALL/3",
    "1CAPITAL LETTER EM WITH TAIL,1SMALL/4,3PALOCHKA,1CAPITAL LETTER A WITH BREVE,1SMALL/4",
    "1CAPITAL LETTER A WITH DIAERESIS,1SMALL/4,1CAPITAL LIGATURE A IE,1SMALL/3",
    "1CAPITAL LETTER IE WITH BREVE,1SMALL/4,1CAPITAL LETTER SCHWA,1SMALL/2",
    "1CAPITAL LETTER SCHWA WITH DIAERESIS,1SMALL/4,1CAPITAL LETTER ZHE/2,1SMALL/4",
    "1CAPITAL LETTER ZE/2,1SMALL/4,1CAPITAL LETTER ABKHASIAN DZE,1SMALL/3",
    "1CAPITAL LETTER I WITH MACRON,1SMALL/4,1CAPITAL LETTER I WITH DIAERESIS,1SMALL/4",
    "1CAPITAL LETTER O/2,1SMALL/4,1CAPITAL LETTER BARRED O,1SMALL/3",
    "1CAPITAL LETTER BARRED O WITH DIAERESIS,1SMALL/5,1CAPITAL LETTER E/2,1SMALL/4",
    "1CAPITAL LETTER U WITH MACRON,1SMALL/4,1CAPITAL LETTER U WITH DIAERESIS,1SMALL/4",
    "1CAPITAL LETTER U WITH DOUBLE ACUTE,1SMALL/5,1CAPITAL LETTER CHE WITH DIAERESIS,1SMALL/4",
    "1CAPITAL LETTER GHE WITH DESCENDER,1SMALL/4,1CAPITAL LETTER YERU WITH DIAERESIS,1SMALL/4",
    "1CAPITAL LETTER GHE WITH STROKE AND HOOK,1SMALL/6,1CAPITAL LETTER HA WITH/1,1SMALL/4",
    "1CAPITAL LETTER HA WITH STROKE,1SMALL/4,1CAPITAL LETTER KOMI DE,1SMALL/3",
    "1CAPITAL LETTER KOMI DJE,1SMALL/3,1CAPITAL LETTER KOMI ZJE,1SMALL/3",
    "1CAPITAL LETTER KOMI DZJE,1SMALL/3,1CAPITAL LETTER KOMI LJE,1SMALL/3",
    "1CAPITAL LETTER KOMI NJE,1SMALL/3,1CAPITAL LETTER KOMI SJE,1SMALL/3",
    "1CAPITAL LETTER KOMI TJE,1SMALL/3,1CAPITAL LETTER REVERSED ZE,1SMALL/3",
    "1CAPITAL LETTER EL WITH HOOK,1SMALL/4,1CAPITAL LETTER LHA,1SMALL/2,1CAPITAL LETTER RHA",
    "1SMALL/2,1CAPITAL LETTER YAE,1SMALL/2,1CAPITAL LETTER QA,1SMALL/2,1CAPITAL LETTER WE",
    "1SMALL/2,1CAPITAL LETTER ALEUT KA,1SMALL/3,1CAPITAL LETTER EL WITH MIDDLE HOOK,1SMALL/5",
    "1CAPITAL LETTER EN/3,1SMALL/5,1CAPITAL LETTER PE WITH DESCENDER,1SMALL/4",
    "1CAPITAL LETTER SHHA/2,1SMALL/4,1CAPITAL LETTER EN WITH LEFT HOOK,1SMALL/5",
    "1CAPITAL LETTER DZZHE,1SMALL/2,1CAPITAL LETTER DCHE,1SMALL/2",
    "1CAPITAL LETTER EL WITH DESCENDER,1SMALL/4"]⟩,
  ⟨0x0531, ["0ARMENIAN CAPITAL LETTER AYB,3BEN,3GIM,3DA,3ECH,3ZA,3EH,3ET,3TO,3ZHE,3INI,3LIWN",
    "3XEH,3CA,3KEN,3HO,3JA,3GHAD,3CHEH,3MEN,3YI,3NOW,3SHA,3VO,3CHA,3PEH,3JHEH,3RA,3SEH,3VEW",
    "3TIWN,3REH,3CO,3YIWN,3PIWR,3KEH,3OH,3FEH"]⟩,
  ⟨0x0559, ["0ARMENIAN MODIFIER LETTER LEFT HALF RING,1APOSTROPHE,1EMPHASIS MARK,1EXCLAMATION/1",
    "1COMMA,1QUESTION MARK,1ABBREVIATION/1,1SMALL LETTER TURNED AYB,3/1,3BEN,3GIM,3DA,3ECH,3ZA",
    "3EH,3ET,3TO,3ZHE,3INI,3LIWN,3XEH,3CA,3KEN,3HO,3JA,3GHAD,3CHEH,3MEN,3YI,3NOW,3SHA,3VO,3CHA",
    "3PEH,3JHEH,3RA,3SEH,3VEW,3TIWN,3REH,3CO,3YIWN,3PIWR,3KEH,3OH,3FEH,2LIGATURE ECH YIWN",
    "2LETTER YI WITH STROKE,1FULL STOP,1HYPHEN"]⟩,
  ⟨0x058D, ["0RIGHT-FACING ARMENIAN ETERNITY SIGN,0LEFT/4,0ARMENIAN DRAM/1"]⟩,
  ⟨0x0591, ["0HEBREW ACCENT ETNAHTA,2SEGOL,2SHALSHELET,2ZAQEF QATAN,3GADOL,2TIPEHA,2REVIA",
    "2ZARQA,2PASHTA,2YETIV,2TEVIR,2GERESH,3MUQDAM,2GERSHAYIM,2QARNEY PARA,2TELISHA GEDOLA",
    "2PAZER,2ATNAH HAFUKH,2MUNAH,2MAHAPAKH,2MERKHA,3KEFULA,2DARGA,2QADMA,2TELISHA QETANA",
    "2YERAH BEN YOMO,2OLE,2ILUY,2DEHI,2ZINOR,1MARK MASORA CIRCLE,1POINT SHEVA,2HATAF SEGOL",
    "3PATAH,3QAMATS,2HIRIQ,2TSERE,2SEGOL,2PATAH,2QAMATS,2HOLAM,3HASER FOR VAV,2QUBUTS",
    "2DAGESH OR MAPIQ,2METEG,1PUNCTUATION MAQAF,1POINT RAFE,1PUNCTUATION PASEQ,1POINT SHIN DOT",
    "2SIN/1,1PUNCTUATION SOF PASUQ,1MARK UPPER DOT,2LOWER/1,1PUNCTUATION NUN HAFUKHA",
    "1POINT QAMATS QATAN"]⟩,
  ⟨0x05D0, ["0HEBREW LETTER ALEF,2BET,2GIMEL,2DALET,2HE,2VAV,2ZAYIN,2HET,2TET,2YOD,2FINAL KAF",
    "2/1,2LAMED,2FINAL MEM,2/1,2FINAL NUN,2/1,2SAMEKH,2AYIN,2FINAL PE,2/1,2FINAL TSADI,2/1,2QOF",
    "2RESH,2SHIN,2TAV"]⟩,
  ⟨0x05EF, ["0HEBREW YOD TRIANGLE,1LIGATURE YIDDISH DOUBLE VAV,3VAV YOD,3DOUBLE/1",
    "1PUNCTUATION GERESH,2GERSHAYIM"]⟩,
  ⟨0x0600, ["0ARABIC NUMBER SIGN,1SIGN SANAH,1FOOTNOTE MARKER,1SIGN SAFHA,2SAMVAT",
    "1NUMBER MARK ABOVE,1-INDIC CUBE ROOT,2FOURTH/1,1RAY,1-INDIC PER MILLE SIGN,3TEN THOUSAND/1",
    "0AFGHANI/1,0ARABIC COMMA,1DATE SEPARATOR,1POETIC VERSE SIGN,1SIGN MISRA",
    "2SALLALLAHOU ALAYHE WASSALLAM,2ALAYHE ASSALLAM,2RAHMATULLAH ALAYHE,2RADI ALLAHOU ANHU",
    "2TAKHALLUS,1SMALL HIGH TAH,3LIGATURE ALEF WITH LAM WITH YEH,3ZAIN,2FATHA,2DAMMA,2KASRA",
    "1SEMICOLON,1LETTER MARK,1END OF TEXT/1,1TRIPLE DOT PUNCTUATION/1,1QUESTION/1",
    "1LETTER KASHMIRI YEH,2HAMZA,2ALEF WITH MADDA ABOVE,4HAMZA/1,2WAW/3,2ALEF WITH HAMZA BELOW",
    "2YEH WITH HAMZA ABOVE,2ALEF,2BEH,2TEH MARBUTA,3,2THEH,2JEEM,2HAH,2KHAH,2DAL,2THAL,2REH",
    "2ZAIN,2SEEN,2SHEEN,2SAD,2DAD,2TAH,2ZAH,2AIN,2GHAIN,2KEHEH WITH TWO DOTS ABOVE",
    "4THREE DOTS BELOW,2FARSI YEH WITH INVERTED V,5TWO DOTS ABOVE,5THREE/2,1TATWEEL,1LETTER FEH",
    "2QAF,2KAF,2LAM,2MEEM,2NOON,2HEH,2WAW,2ALEF MAKSURA,2YEH,1FATHATAN,1DAMMATAN,1KASRATAN",
    "1FATHA,1DAMMA,1KASRA,1SHADDA,1SUKUN,1MADDAH ABOVE,1HAMZA/1,2BELOW,1SUBSCRIPT ALEF",
    "1INVERTED DAMMA,1MARK NOON GHUNNA,1ZWARAKAY,1VOWEL SIGN SMALL V ABOVE,3INVERTED/3",
    "3DOT BELOW,1REVERSED DAMMA,1FATHA WITH TWO DOTS,1WAVY HAMZA BELOW,1-INDIC DIGIT ZERO,3ONE",
    "3TWO,3THREE,3FOUR,3FIVE,3SIX,3SEVEN,3EIGHT,3NINE,1PERCENT SIGN,1DECIMAL SEPARATOR",
    "1THOUSANDS/1,1FIVE POINTED STAR,1LETTER DOTLESS BEH,3QAF,2SUPERSCRIPT ALEF,2ALEF WASLA",
    "3WITH WAVY HAMZA ABOVE,6BELOW,2HIGH HAMZA,4ALEF,4WAW,2U WITH HAMZA ABOVE,2HIGH HAMZA YEH",
    "2TTEH,2TTEHEH,2BEEH,2TEH WITH RING,4THREE DOTS ABOVE DOWNWARDS,2PEH,2TEHEH,2BEHEH",
    "2HAH WITH HAMZA ABOVE,4TWO DOTS VERTICAL/1,2NYEH,2DYEH,2HAH WITH THREE DOTS ABOVE,2TCHEH",
    "2TCHEHEH,2DDAL,2DAL WITH RING,4DOT BELOW,6AND SMALL TAH,2DAHAL,2DDAHAL,2DUL",
    "2DAL WITH THREE DOTS ABOVE DOWNWARDS,4FOUR DOTS ABOVE,2RREH,2REH WITH SMALL V,4RING",
    "4DOT BELOW,4SMALL V/1,4DOT BELOW AND DOT ABOVE,4TWO DOTS/1,2JEH,2REH WITH FOUR DOTS ABOVE",
    "2SEEN WITH DOT BELOW AND DOT/1,4THREE DOTS BELOW,7AND THREE DOTS ABOVE",
    "2SAD WITH TWO DOTS BELOW,4THREE DOTS ABOVE,2TAH/4,2AIN/4,2DOTLESS FEH",
    "2FEH WITH DOT MOVED BELOW,5/1,2VEH,2FEH WITH THREE DOTS BELOW,2PEHEH,2QAF WITH DOT ABOVE",
    "4THREE DOTS/1,2KEHEH,2SWASH KAF,2KAF WITH RING,4DOT ABOVE,2NG,2KAF WITH THREE DOTS BELOW",
    "2GAF,3WITH RING,2NGOEH,2GAF WITH TWO DOTS BELOW,2GUEH,2GAF WITH THREE DOTS ABOVE",
    "2LAM WITH SMALL V,4DOT ABOVE,4THREE DOTS/1,6BELOW,2NOON WITH DOT/1,3GHUNNA,2RNOON",
    "2NOON WITH RING,4THREE DOTS ABOVE,2HEH DOACHASHMEE,2TCHEH WITH DOT ABOVE,2HEH WITH YEH/1",
    "3GOAL,4WITH HAMZA ABOVE,2TEH MARBUTA GOAL,2WAW WITH RING,2KIRGHIZ OE,2/1,2U,2YU,2KIRGHIZ/1",
    "2WAW WITH TWO DOTS ABOVE,2VE,2FARSI YEH,2YEH WITH TAIL,4SMALL V,2WAW WITH DOT ABOVE,2E",
    "2YEH WITH THREE DOTS BELOW,3BARREE,4WITH HAMZA ABOVE,1FULL STOP,1LETTER AE",
    "1SMALL HIGH LIGATURE SAD WITH LAM WITH ALEF MAKSURA,4QAF/5,3MEEM INITIAL FORM,3LAM ALEF",
    "3JEEM,3THREE DOTS,3SEEN,1END OF AYAH,1START OF RUB EL HIZB,1SMALL HIGH ROUNDED ZERO",
    "3UPRIGHT RECTANGULAR/1,3DOTLESS HEAD OF KHAH,3MEEM ISOLATED FORM,2LOW SEEN,2HIGH MADDA",
    "2WAW,2YEH,2HIGH/1,3NOON,1PLACE OF SAJDAH,1EMPTY CENTRE LOW STOP,3HIGH/1",
    "1ROUNDED HIGH STOP WITH FILLED CENTRE,1SMALL LOW MEEM,1LETTER DAL WITH INVERTED V,2REH/3",
    "0EXTENDED ARABIC-INDIC DIGIT ZERO,4ONE,4TWO,4THREE,4FOUR,4FIVE,4SIX,4SEVEN,4EIGHT,4NINE",
    "0ARABIC LETTER SHEEN WITH DOT BELOW,2DAD/3,2GHAIN/3,1SIGN SINDHI AMPERSAND",
    "3POSTPOSITION MEN,1LETTER HEH WITH INVERTED V,0SYRIAC END OF PARAGRAPH",
    "1SUPRALINEAR FULL STOP,1SUBLINEAR/2,1SUPRALINEAR COLON,1SUBLINEAR/1,1HORIZONTAL/1",
    "1COLON SKEWED LEFT,3RIGHT,1SUPRALINEAR COLON SKEWED LEFT,1SUBLINEAR COLON SKEWED RIGHT",
    "1CONTRACTION,1HARKLEAN OBELUS,2METOBELUS,2ASTERISCUS"]⟩,
  ⟨0x070F, ["0SYRIAC ABBREVIATION MARK,1LETTER ALAPH,2SUPERSCRIPT/1,2BETH,2GAMAL,3GARSHUNI",
    "2DALATH,2DOTLESS DALATH RISH,2HE,2WAW,2ZAIN,2HETH,2TETH,3GARSHUNI,2YUDH,3HE,2KAPH,2LAMADH",
    "2MIM,2NUN,2SEMKATH,2FINAL/1,2E,2PE,2REVERSED/1,2SADHE,2QAPH,2RISH,2SHIN,2TAW",
    "2PERSIAN BHETH,3GHAMAL,3DHALATH,1PTHAHA ABOVE,2BELOW,2DOTTED,1ZQAPHA ABOVE,2BELOW,2DOTTED",
    "1RBASA ABOVE,2BELOW,1DOTTED ZLAMA HORIZONTAL,3ANGULAR,1HBASA ABOVE,2BELOW,2-ESASA DOTTED",
    "1ESASA ABOVE,2BELOW,1RWAHA,1FEMININE DOT,1QUSHSHAYA,1RUKKAKHA,1TWO VERTICAL DOTS ABOVE",
    "4BELOW,1THREE DOTS ABOVE,3BELOW,1OBLIQUE LINE ABOVE,3BELOW,1MUSIC,1BARREKH"]⟩,
  ⟨0x074D, ["0SYRIAC LETTER SOGDIAN ZHAIN,3KHAPH,3FE",
    "0ARABIC LETTER BEH WITH THREE DOTS HORIZONTALLY BELOW,4DOT BELOW AND THREE DOTS ABOVE",
    "4THREE DOTS POINTING UPWARDS BELOW,9AND TWO DOTS ABOVE,4TWO DOTS BELOW AND DOT/1",
    "4INVERTED SMALL V BELOW,4SMALL V,2HAH WITH TWO DOTS ABOVE",
    "4THREE DOTS POINTING UPWARDS BELOW,2DAL WITH TWO DOTS VERTICALLY BELOW AND SMALL TAH",
    "4INVERTED SMALL V BELOW,2REH WITH STROKE,2SEEN WITH FOUR DOTS ABOVE,2AIN WITH TWO/2",
    "4THREE DOTS POINTING DOWNWARDS/1,4TWO DOTS VERTICALLY/1,2FEH WITH TWO DOTS BELOW",
    "4THREE DOTS POINTING UPWARDS/1,2KEHEH WITH DOT ABOVE,4THREE DOTS/1,6POINTING UPWARDS BELOW",
    "2MEEM WITH DOT ABOVE,5BELOW,2NOON WITH TWO DOTS/1,4SMALL TAH,5V,2LAM WITH BAR",
    "2REH WITH TWO DOTS VERTICALLY ABOVE,4HAMZA/1,2SEEN WITH TWO DOTS VERTICALLY/1",
    "2HAH WITH SMALL ARABIC LETTER TAH BELOW,8AND TWO DOTS,2SEEN/8,2REH/8",
    "2HAH WITH SMALL ARABIC LETTER TAH ABOVE,2ALEF WITH EXTENDED ARABIC-INDIC DIGIT TWO/1",
    "8THREE/1,2FARSI YEH WITH EXTENDED ARABIC-INDIC DIGIT TWO/1,9THREE/1,9FOUR BELOW",
    "2WAW WITH EXTENDED ARABIC-INDIC DIGIT TWO ABOVE,8THREE/1",
    "2YEH BARREE WITH EXTENDED ARABIC-INDIC DIGIT TWO/1,9THREE/1",
    "2HAH WITH EXTENDED ARABIC-INDIC DIGIT FOUR BELOW",
    "2SEEN WITH EXTENDED ARABIC-INDIC DIGIT FOUR ABOVE,4INVERTED V,2KAF WITH TWO DOTS ABOVE",
    "0THAANA LETTER HAA,2SHAVIYANI,2NOONU,2RAA,2BAA,2LHAVIYANI,2KAAFU,2ALIFU,2VAAVU,2MEEMU",
    "2FAAFU,2DHAALU,2THAA,2LAAMU,2GAAFU,2GNAVIYANI,2SEENU,2DAVIYANI,2ZAVIYANI,2TAVIYANI,2YAA",
    "2PAVIYANI,2JAVIYANI,2CHAVIYANI,2TTAA,2HHAA,2KHAA,2THAALU,2ZAA,2SHEENU,2SAADHU,2DAADHU,2TO",
    "2ZO,2AINU,2GHAINU,2QAAFU,2WAAVU,1ABAFILI,1AABAAFILI,1IBIFILI,1EEBEEFILI,1UBUFILI",
    "1OOBOOFILI,1EBEFILI,1EYBEYFILI,1OBOFILI,1OABOAFILI,1SUKUN,1LETTER NAA"]⟩,
  ⟨0x07C0, ["0NKO DIGIT ZERO,2ONE,2TWO,2THREE,2FOUR,2FIVE,2SIX,2SEVEN,2EIGHT,2NINE,1LETTER A",
    "2EE,2I,2E,2U,2OO,2O,2DAGBASINNA,2N,2BA,2PA,2TA,2JA,2CHA,2DA,2RA,2RRA,2SA,2GBA,2FA,2KA,2LA",
    "2NA WOLOSO,2MA,2NYA,2NA,2HA,2WA,2YA,2NYA WOLOSO,2JONA JA,3CHA,3RA",
    "1COMBINING SHORT HIGH TONE,3LOW/1,3RISING/1,2LONG DESCENDING/1,3HIGH/1,3LOW/1,3RISING/1",
    "2NASALIZATION MARK,2DOUBLE DOT ABOVE,1HIGH TONE APOSTROPHE,1LOW/2,1SYMBOL OO DENNEN",
    "2GBAKURUNEN,1COMMA,1EXCLAMATION MARK,1LAJANYALAN"]⟩,
  ⟨0x07FD, ["0NKO DANTAYALAN,1DOROME SIGN,1TAMAN/1,0SAMARITAN LETTER ALAF,2BIT,2GAMAN,2DALAT",
    "2IY,2BAA,2ZEN,2IT,2TIT,2YUT,2KAAF,2LABAT,2MIM,2NUN,2SINGAAT,2IN,2FI,2TSAADIY,2QUF,2RISH",
    "2SHAN,2TAAF,1MARK IN,3-ALAF,2OCCLUSION,2DAGESH,1MODIFIER LETTER EPENTHETIC YUT,1MARK/2",
    "1VOWEL SIGN LONG E,3/1,3OVERLONG AA,3LONG/1,3/1,3OVERLONG A,3LONG/1,3/1",
    "1MODIFIER LETTER SHORT/1,1VOWEL SIGN/2,3LONG U,3/1,1MODIFIER LETTER I,1VOWEL SIGN LONG/1",
    "3/1,3O,3SUKUN,1MARK NEQUDAA"]⟩,
  ⟨0x0830, ["0SAMARITAN PUNCTUATION NEQUDAA,2AFSAAQ,2ANGED,2BAU,2ATMAAU,2SHIYYAALAA",
    "1ABBREVIATION MARK,1PUNCTUATION MELODIC QITSA,2ZIQAA,2QITSA,2ZAEF,2TURU,2ARKAANU",
    "2SOF MASHFAAT,2ANNAAU"]⟩,
  ⟨0x0840, ["0MANDAIC LETTER HALQA,2AB,2AG,2AD,2AH,2USHENNA,2AZ,2IT,2ATT,2AKSA,2AK,2AL,2AM,2AN",
    "2AS,2IN,2AP,2ASZ,2AQ,2AR,2ASH,2AT,2DUSHENNA,2KAD,2AIN,1AFFRICATION MARK,1VOCALIZATION/1",
    "1GEMINATION/1"]⟩,
  ⟨0x085E, ["0MANDAIC PUNCTUATION"]⟩,
  ⟨0x0860, ["0SYRIAC LETTER MALAYALAM NGA,3JA,3NYA,3TTA,3NNA,3NNNA,3BHA,3RA,3LLA,3LLLA,3SSA"]⟩,
  ⟨0x0870, ["0ARABIC LETTER ALEF WITH ATTACHED FATHA,5TOP RIGHT/1,4RIGHT MIDDLE STROKE,4LEFT/2",
    "4ATTACHED KASRA,5BOTTOM RIGHT/1,5ROUND DOT ABOVE,5RIGHT ROUND DOT,5LEFT/2,5ROUND DOT BELOW",
    "4DOT ABOVE,4ATTACHED TOP RIGHT FATHA AND/2,4RIGHT MIDDLE STROKE/3",
    "4ATTACHED BOTTOM RIGHT KASRA/3,5TOP RIGHT FATHA AND LEFT RING,4RIGHT MIDDLE STROKE/3",
    "4ATTACHED BOTTOM RIGHT KASRA/3,5RIGHT HAMZA,5LEFT/1,1TATWEEL WITH OVERSTRUCK/1,4WAW",
    "3TWO DOTS BELOW,1LETTER THIN YEH,1BASELINE ROUND DOT,1RAISED/2",
    "1LETTER NOON WITH INVERTED SMALL V,2HAH WITH INVERTED SMALL V BELOW,2TAH WITH DOT/1",
    "4THREE DOTS/1,2KEHEH WITH TWO DOTS VERTICALLY/1,1VERTICAL TAIL"]⟩,
  ⟨0x0890, ["0ARABIC POUND MARK ABOVE,1PIASTRE/2"]⟩,
  ⟨0x0898, ["0ARABIC SMALL HIGH WORD AL-JUZ,2LOW WORD ISHMAAM,4IMAALA,4TASHEEL,1MADDA WAAJIB",
    "1SUPERSCRIPT ALEF MOKHASSAS,1DOUBLED MADDA,1HALF MADDA OVER/1",
    "1LETTER BEH WITH SMALL V BELOW,4HAMZA ABOVE,2JEEM WITH TWO DOTS/1,2TAH/4",
    "2FEH WITH DOT BELOW AND THREE/2,2QAF WITH DOT BELOW,2LAM WITH DOUBLE BAR",
    "2MEEM WITH THREE DOTS ABOVE,2YEH WITH TWO DOTS BELOW AND HAMZA/1,8DOT/1,2REH WITH LOOP",
    "2WAW WITH DOT WITHIN,2ROHINGYA YEH,2LOW ALEF,2DAL WITH THREE DOTS BELOW,2SAD/4",
    "2GAF WITH INVERTED STROKE,2STRAIGHT WAW,2ZAIN WITH INVERTED V ABOVE",
    "2AIN WITH THREE DOTS BELOW,2KAF WITH DOT/1,2QAF WITH DOT BELOW AND NO DOTS ABOVE",
    "2BEH WITH SMALL MEEM/1,2PEH/4,2TEH WITH SMALL TEH/1,2REH WITH SMALL NOON/1",
    "2YEH WITH TWO DOTS BELOW AND/3,2AFRICAN FEH,3QAF,3NOON,2PEH WITH SMALL V,2TEH/3,2TTEH/3",
    "2TCHEH/3,2KEHEH/3,2GHAIN WITH THREE DOTS ABOVE,2AFRICAN QAF/4,2JEEM/4,6BELOW",
    "2LAM WITH SMALL ARABIC LETTER TAH ABOVE,2GRAF,1SMALL FARSI YEH,2HIGH/2",
    "3YEH BARREE WITH TWO DOTS BELOW,3WORD SAH,3ZAH,1LARGE ROUND DOT ABOVE,4BELOW,1SUKUN/1",
    "1LARGE CIRCLE/1,2ROUND DOT INSIDE/2,1SMALL LOW WAW,2HIGH WORD AR-RUB,3SAD,3AIN,3QAF",
    "3NOON WITH KASRA,2LOW/3,2HIGH WORD ATH-THALATHA,4AS-SAJDA,4AN-NISF,4SAKTA,4QIF,4WAQFA",
    "3FOOTNOTE MARKER,3SIGN SAFHA,1DISPUTED END OF AYAH,1TURNED DAMMA BELOW,1CURLY FATHA,2DAMMA",
    "2KASRA,2FATHATAN,2DAMMATAN,2KASRATAN,1TONE ONE DOT ABOVE,2TWO DOTS/1,2LOOP/1",
    "2ONE DOT BELOW,2TWO DOTS/1,2LOOP/1,1OPEN FATHATAN,2DAMMATAN,2KASRATAN,1SMALL HIGH WAW",
    "1FATHA WITH RING,3DOT ABOVE,1KASRA WITH DOT BELOW,1LEFT ARROWHEAD ABOVE,1RIGHT/2",
    "1LEFT ARROWHEAD BELOW,1RIGHT/2,1DOUBLE RIGHT ARROWHEAD ABOVE,5WITH DOT,1/5,1DAMMA/2",
    "1MARK SIDEWAYS NOON GHUNNA,0DEVANAGARI SIGN INVERTED CANDRABINDU,2/1,2ANUSVARA,2VISARGA",
    "1LETTER SHORT A,2/1,2AA,2I,2II,2U,2UU,2VOCALIC R,3L,2CANDRA E,2SHORT/1,2/1,2AI,2CANDRA O",
    "2SHORT/1,2/1,2AU,2KA,2KHA,2GA,2GHA,2NGA,2CA,2CHA,2JA,2JHA,2NYA,2TTA,2TTHA,2DDA,2DDHA,2NNA",
    "2TA,2THA,2DA,2DHA,2NA,2NNNA,2PA,2PHA,2BA,2BHA,2MA,2YA,2RA,2RRA,2LA,2LLA,2LLLA,2VA,2SHA",
    "2SSA,2SA,2HA,1VOWEL SIGN OE,3OOE,1SIGN NUKTA,2AVAGRAHA,1VOWEL SIGN AA,3I,3II,3U,3UU",
    "3VOCALIC R,4RR,3CANDRA E,3SHORT/1,3/1,3AI,3CANDRA O,3SHORT/1,3/1,3AU,1SIGN VIRAMA",
    "1VOWEL SIGN PRISHTHAMATRA E,3AW,1OM,1STRESS SIGN UDATTA,3ANUDATTA,1GRAVE ACCENT,1ACUTE/1",
    "1VOWEL SIGN CANDRA LONG E,3UE,3UUE,1LETTER QA,2KHHA,2GHHA,2ZA,2DDDHA,2RHA,2FA,2YYA",
    "2VOCALIC RR,3LL,1VOWEL SIGN VOCALIC L,4LL,1DANDA,1DOUBLE/1,1DIGIT ZERO,2ONE,2TWO,2THREE",
    "2FOUR,2FIVE,2SIX,2SEVEN,2EIGHT,2NINE,1ABBREVIATION SIGN,1SIGN HIGH SPACING DOT",
    "1LETTER CANDRA A,2OE,2OOE,2AW,2UE,2UUE,2MARWARI DDA,2ZHA,2HEAVY YA,2GGA,2JJA,2GLOTTAL STOP",
    "2DDDA,2BBA,0BENGALI ANJI,1SIGN CANDRABINDU,2ANUSVARA,2VISARGA"]⟩,
  ⟨0x0985, ["0BENGALI LETTER A,2AA,2I,2II,2U,2UU,2VOCALIC R,3L"]⟩,
  ⟨0x098F, ["0BENGALI LETTER E,2AI"]⟩,
  ⟨0x0993, ["0BENGALI LETTER O,2AU,2KA,2KHA,2GA,2GHA,2NGA,2CA,2CHA,2JA,2JHA,2NYA,2TTA,2TTHA",
    "2DDA,2DDHA,2NNA,2TA,2THA,2DA,2DHA,2NA"]⟩,
  ⟨0x09AA, ["0BENGALI LETTER PA,2PHA,2BA,2BHA,2MA,2YA,2RA"]⟩,
  ⟨0x09B2, ["0BENGALI LETTER LA"]⟩,
  ⟨0x09B6, ["0BENGALI LETTER SHA,2SSA,2SA,2HA"]⟩,
  ⟨0x09BC, ["0BENGALI SIGN NUKTA,2AVAGRAHA,1VOWEL SIGN AA,3I,3II,3U,3UU,3VOCALIC R,4RR"]⟩,
  ⟨0x09C7, ["0BENGALI VOWEL SIGN E,3AI"]⟩,
  ⟨0x09CB, ["0BENGALI VOWEL SIGN O,3AU,1SIGN VIRAMA,1LETTER KHANDA TA"]⟩,
  ⟨0x09D7, ["0BENGALI AU LENGTH MARK"]⟩,
  ⟨0x09DC, ["0BENGALI LETTER RRA,2RHA"]⟩,
  ⟨0x09DF, ["0BENGALI LETTER YYA,2VOCALIC RR,3LL,1VOWEL SIGN VOCALIC L,4LL"]⟩,
  ⟨0x09E6, ["0BENGALI DIGIT ZERO,2ONE,2TWO,2THREE,2FOUR,2FIVE,2SIX,2SEVEN,2EIGHT,2NINE",
    "1LETTER RA WITH MIDDLE DIAGONAL,4LOWER/1,1RUPEE MARK,2SIGN,1CURRENCY NUMERATOR ONE,3TWO",
    "3THREE,3FOUR,3ONE LESS THAN THE DENOMINATOR,2DENOMINATOR SIXTEEN,1ISSHAR,1GANDA MARK",
    "1LETTER VEDIC ANUSVARA,1ABBREVIATION SIGN,1SANDHI MARK"]⟩,
  ⟨0x0A01, ["0GURMUKHI SIGN ADAK BINDI,2/1,2VISARGA"]⟩,
  ⟨0x0A05, ["0GURMUKHI LETTER A,2AA,2I,2II,2U,2UU"]⟩,
  ⟨0x0A0F, ["0GURMUKHI LETTER EE,2AI"]⟩,
  ⟨0x0A13, ["0GURMUKHI LETTER OO,2AU,2KA,2KHA,2GA,2GHA,2NGA,2CA,2CHA,2JA,2JHA,2NYA,2TTA,2TTHA",
    "2DDA,2DDHA,2NNA,2TA,2THA,2DA,2DHA,2NA"]⟩,
  ⟨0x0A2A, ["0GURMUKHI LETTER PA,2PHA,2BA,2BHA,2MA,2YA,2RA"]⟩,
  ⟨0x0A32, ["0GURMUKHI LETTER LA,2LLA"]⟩,
  ⟨0x0A35, ["0GURMUKHI LETTER VA,2SHA"]⟩,
  ⟨0x0A38, ["0GURMUKHI LETTER SA,2HA"]⟩,
  ⟨0x0A3C, ["0GURMUKHI SIGN NUKTA"]⟩,
  ⟨0x0A3E, ["0GURMUKHI VOWEL SIGN AA,3I,3II,3U,3UU"]⟩,
  ⟨0x0A47, ["0GURMUKHI VOWEL SIGN EE,3AI"]⟩,
  ⟨0x0A4B, ["0GURMUKHI VOWEL SIGN OO,3AU,1SIGN VIRAMA"]⟩,
  ⟨0x0A51, ["0GURMUKHI SIGN UDAAT"]⟩,
  ⟨0x0A59, ["0GURMUKHI LETTER KHHA,2GHHA,2ZA,2RRA"]⟩,
  ⟨0x0A5E, ["0GURMUKHI LETTER FA"]⟩,
  ⟨0x0A66, ["0GURMUKHI DIGIT ZERO,2ONE,2TWO,2THREE,2FOUR,2FIVE,2SIX,2SEVEN,2EIGHT,2NINE,1TIPPI",
    "1ADDAK,1IRI,1URA,1EK ONKAR,1SIGN YAKASH,1ABBREVIATION SIGN"]⟩,
  ⟨0x0A81, ["0GUJARATI SIGN CANDRABINDU,2ANUSVARA,2VISARGA"]⟩,
  ⟨0x0A85, ["0GUJARATI LETTER A,2AA,2I,2II,2U,2UU,2VOCALIC R,3L,1VOWEL CANDRA E"]⟩,
  ⟨0x0A8F, ["0GUJARATI LETTER E,2AI,1VOWEL CANDRA O"]⟩,
  ⟨0x0A93, ["0GUJARATI LETTER O,2AU,2KA,2KHA,2GA,2GHA,2NGA,2CA,2CHA,2JA,2JHA,2NYA,2TTA,2TTHA",
    "2DDA,2DDHA,2NNA,2TA,2THA,2DA,2DHA,2NA"]⟩,
  ⟨0x0AAA, ["0GUJARATI LETTER PA,2PHA,2BA,2BHA,2MA,2YA,2RA"]⟩,
  ⟨0x0AB2, ["0GUJARATI LETTER LA,2LLA"]⟩,
  ⟨0x0AB5, ["0GUJARATI LETTER VA,2SHA,2SSA,2SA,2HA"]⟩,
  ⟨0x0ABC, ["0GUJARATI SIGN NUKTA,2AVAGRAHA,1VOWEL SIGN AA,3I,3II,3U,3UU,3VOCALIC R,4RR",
    "3CANDRA E"]⟩,
  ⟨0x0AC7, ["0GUJARATI VOWEL SIGN E,3AI,3CANDRA O"]⟩,
  ⟨0x0ACB, ["0GUJARATI VOWEL SIGN O,3AU,1SIGN VIRAMA"]⟩,
  ⟨0x0AD0, ["0GUJARATI OM"]⟩,
  ⟨0x0AE0, ["0GUJARATI LETTER VOCALIC RR,3LL,1VOWEL SIGN VOCALIC L,4LL"]⟩,
  ⟨0x0AE6, ["0GUJARATI DIGIT ZERO,2ONE,2TWO,2THREE,2FOUR,2FIVE,2SIX,2SEVEN,2EIGHT,2NINE",
    "1ABBREVIATION SIGN,1RUPEE/1"]⟩,
  ⟨0x0AF9, ["0GUJARATI LETTER ZHA,1SIGN SUKUN,2SHADDA,2MADDAH,2THREE-DOT NUKTA ABOVE,2CIRCLE/2",
    "2TWO-CIRCLE/2"]⟩,
  ⟨0x0B01, ["0ORIYA SIGN CANDRABINDU,2ANUSVARA,2VISARGA"]⟩,
  ⟨0x0B05, ["0ORIYA LETTER A,2AA,2I,2II,2U,2UU,2VOCALIC R,3L"]⟩,
  ⟨0x0B0F, ["0ORIYA LETTER E,2AI"]⟩,
  ⟨0x0B13, ["0ORIYA LETTER O,2AU,2KA,2KHA,2GA,2GHA,2NGA,2CA,2CHA,2JA,2JHA,2NYA,2TTA,2TTHA,2DDA",
    "2DDHA,2NNA,2TA,2THA,2DA,2DHA,2NA"]⟩,
  ⟨0x0B2A, ["0ORIYA LETTER PA,2PHA,2BA,2BHA,2MA,2YA,2RA"]⟩,
  ⟨0x0B32, ["0ORIYA LETTER LA,2LLA"]⟩,
  ⟨0x0B35, ["0ORIYA LETTER VA,2SHA,2SSA,2SA,2HA"]⟩,
  ⟨0x0B3C, ["0ORIYA SIGN NUKTA,2AVAGRAHA,1VOWEL SIGN AA,3I,3II,3U,3UU,3VOCALIC R,4RR"]⟩,
  ⟨0x0B47, ["0ORIYA VOWEL SIGN E,3AI"]⟩,
  ⟨0x0B4B, ["0ORIYA VOWEL SIGN O,3AU,1SIGN VIRAMA"]⟩,
  ⟨0x0B55, ["0ORIYA SIGN OVERLINE,1AI LENGTH MARK,1AU/2"]⟩,
  ⟨0x0B5C, ["0ORIYA LETTER RRA,2RHA"]⟩,
  ⟨0x0B5F, ["0ORIYA LETTER YYA,2VOCALIC RR,3LL,1VOWEL SIGN VOCALIC L,4LL"]⟩,
  ⟨0x0B66, ["0ORIYA DIGIT ZERO,2ONE,2TWO,2THREE,2FOUR,2FIVE,2SIX,2SEVEN,2EIGHT,2NINE,1ISSHAR",
    "1LETTER WA,1FRACTION ONE QUARTER,3HALF,2THREE QUARTERS,2ONE SIXTEENTH,3EIGHTH",
    "2THREE SIXTEENTHS"]⟩,
  ⟨0x0B82, ["0TAMIL SIGN ANUSVARA,2VISARGA"]⟩,
  ⟨0x0B85, ["0TAMIL LETTER A,2AA,2I,2II,2U,2UU"]⟩,
  ⟨0x0B8E, ["0TAMIL LETTER E,2EE,2AI"]⟩,
  ⟨0x0B92, ["0TAMIL LETTER O,2OO,2AU,2KA"]⟩,
  ⟨0x0B99, ["0TAMIL LETTER NGA,2CA"]⟩,
  ⟨0x0B9C, ["0TAMIL LETTER JA"]⟩,
  ⟨0x0B9E, ["0TAMIL LETTER NYA,2TTA"]⟩,
  ⟨0x0BA3, ["0TAMIL LETTER NNA,2TA"]⟩,
  ⟨0x0BA8, ["0TAMIL LETTER NA,2NNNA,2PA"]⟩,
  ⟨0x0BAE, ["0TAMIL LETTER MA,2YA,2RA,2RRA,2LA,2LLA,2LLLA,2VA,2SHA,2SSA,2SA,2HA"]⟩,
  ⟨0x0BBE, ["0TAMIL VOWEL SIGN AA,3I,3II,3U,3UU"]⟩,
  ⟨0x0BC6, ["0TAMIL VOWEL SIGN E,3EE,3AI"]⟩,
  ⟨0x0BCA, ["0TAMIL VOWEL SIGN O,3OO,3AU,1SIGN VIRAMA"]⟩,
  ⟨0x0BD0, ["0TAMIL OM"]⟩,
  ⟨0x0BD7, ["0TAMIL AU LENGTH MARK"]⟩,
  ⟨0x0BE6, ["0TAMIL DIGIT ZERO,2ONE,2TWO,2THREE,2FOUR,2FIVE,2SIX,2SEVEN,2EIGHT,2NINE",
    "1NUMBER TEN,2ONE HUNDRED,3THOUSAND,1DAY SIGN,1MONTH/1,1YEAR/1,1DEBIT/1,1CREDIT/1",
    "1AS ABOVE/1,1RUPEE/1,1NUMBER/1"]⟩,
  ⟨0x0C00, ["0TELUGU SIGN COMBINING CANDRABINDU ABOVE,2CANDRABINDU,2ANUSVARA,2VISARGA",
    "2COMBINING ANUSVARA ABOVE,1LETTER A,2AA,2I,2II,2U,2UU,2VOCALIC R,3L"]⟩,
  ⟨0x0C0E, ["0TELUGU LETTER E,2EE,2AI"]⟩,
  ⟨0x0C12, ["0TELUGU LETTER O,2OO,2AU,2KA,2KHA,2GA,2GHA,2NGA,2CA,2CHA,2JA,2JHA,2NYA,2TTA,2TTHA",
    "2DDA,2DDHA,2NNA,2TA,2THA,2DA,2DHA,2NA"]⟩,
  ⟨0x0C2A, ["0TELUGU LETTER PA,2PHA,2BA,2BHA,2MA,2YA,2RA,2RRA,2LA,2LLA,2LLLA,2VA,2SHA,2SSA,2SA",
    "2HA"]⟩,
  ⟨0x0C3C, ["0TELUGU SIGN NUKTA,2AVAGRAHA,1VOWEL SIGN AA,3I,3II,3U,3UU,3VOCALIC R,4RR"]⟩,
  ⟨0x0C46, ["0TELUGU VOWEL SIGN E,3EE,3AI"]⟩,
  ⟨0x0C4A, ["0TELUGU VOWEL SIGN O,3OO,3AU,1SIGN VIRAMA"]⟩,
  ⟨0x0C55, ["0TELUGU LENGTH MARK,1AI/2"]⟩,
  ⟨0x0C58, ["0TELUGU LETTER TSA,2DZA,2RRRA"]⟩,
  ⟨0x0C5D, ["0TELUGU LETTER NAKAARA POLLU"]⟩,
  ⟨0x0C60, ["0TELUGU LETTER VOCALIC RR,3LL,1VOWEL SIGN VOCALIC L,4LL"]⟩,
  ⟨0x0C66, ["0TELUGU DIGIT ZERO,2ONE,2TWO,2THREE,2FOUR,2FIVE,2SIX,2SEVEN,2EIGHT,2NINE"]⟩,
  ⟨0x0C77, ["0TELUGU SIGN SIDDHAM,1FRACTION DIGIT ZERO FOR ODD POWERS OF FOUR,3ONE/5,3TWO/5",
    "3THREE/5,3ONE FOR EVEN/3,3TWO/5,3THREE/5,1SIGN TUUMU,0KANNADA SIGN SPACING CANDRABINDU,2/1",
    "2ANUSVARA,2VISARGA,2SIDDHAM,1LETTER A,2AA,2I,2II,2U,2UU,2VOCALIC R,3L"]⟩,
  ⟨0x0C8E, ["0KANNADA LETTER E,2EE,2AI"]⟩,
  ⟨0x0C92, ["0KANNADA LETTER O,2OO,2AU,2KA,2KHA,2GA,2GHA,2NGA,2CA,2CHA,2JA,2JHA,2NYA,2TTA,2TTHA",
    "2DDA,2DDHA,2NNA,2TA,2THA,2DA,2DHA,2NA"]⟩,
  ⟨0x0CAA, ["0KANNADA LETTER PA,2PHA,2BA,2BHA,2MA,2YA,2RA,2RRA,2LA,2LLA"]⟩,
  ⟨0x0CB5, ["0KANNADA LETTER VA,2SHA,2SSA,2SA,2HA"]⟩,
  ⟨0x0CBC, ["0KANNADA SIGN NUKTA,2AVAGRAHA,1VOWEL SIGN AA,3I,3II,3U,3UU,3VOCALIC R,4RR"]⟩,
  ⟨0x0CC6, ["0KANNADA VOWEL SIGN E,3EE,3AI"]⟩,
  ⟨0x0CCA, ["0KANNADA VOWEL SIGN O,3OO,3AU,1SIGN VIRAMA"]⟩,
  ⟨0x0CD5, ["0KANNADA LENGTH MARK,1AI/2"]⟩,
  ⟨0x0CDD, ["0KANNADA LETTER NAKAARA POLLU,2FA"]⟩,
  ⟨0x0CE0, ["0KANNADA LETTER VOCALIC RR,3LL,1VOWEL SIGN VOCALIC L,4LL"]⟩,
  ⟨0x0CE6, ["0KANNADA DIGIT ZERO,2ONE,2TWO,2THREE,2FOUR,2FIVE,2SIX,2SEVEN,2EIGHT,2NINE"]⟩,
  ⟨0x0CF1, ["0KANNADA SIGN JIHVAMULIYA,2UPADHMANIYA"]⟩,
  ⟨0x0D00, ["0MALAYALAM SIGN COMBINING ANUSVARA ABOVE,2CANDRABINDU,2ANUSVARA,2VISARGA",
    "1LETTER VEDIC ANUSVARA,2A,2AA,2I,2II,2U,2UU,2VOCALIC R,3L"]⟩,
  ⟨0x0D0E, ["0MALAYALAM LETTER E,2EE,2AI"]⟩,
  ⟨0x0D12, ["0MALAYALAM LETTER O,2OO,2AU,2KA,2KHA,2GA,2GHA,2NGA,2CA,2CHA,2JA,2JHA,2NYA,2TTA",
    "2TTHA,2DDA,2DDHA,2NNA,2TA,2THA,2DA,2DHA,2NA,2NNNA,2PA,2PHA,2BA,2BHA,2MA,2YA,2RA,2RRA,2LA",
    "2LLA,2LLLA,2VA,2SHA,2SSA,2SA,2HA,2TTTA,1SIGN VERTICAL BAR VIRAMA,2CIRCULAR/1,2AVAGRAHA",
    "1VOWEL SIGN AA,3I,3II,3U,3UU,3VOCALIC R,4RR"]⟩,
  ⟨0x0D46, ["0MALAYALAM VOWEL SIGN E,3EE,3AI"]⟩,
  ⟨0x0D4A, ["0MALAYALAM VOWEL SIGN O,3OO,3AU,1SIGN VIRAMA,1LETTER DOT REPH,1SIGN PARA"]⟩,
  ⟨0x0D54, ["0MALAYALAM LETTER CHILLU M,3Y,3LLL,1AU LENGTH MARK",
    "1FRACTION ONE ONE-HUNDRED-AND-SIXTIETH,3FORTIETH,2THREE EIGHTIETHS,2ONE TWENTIETH,3TENTH",
    "2THREE TWENTIETHS,2ONE FIFTH,1LETTER ARCHAIC II,2VOCALIC RR,3LL,1VOWEL SIGN VOCALIC L,4LL"]⟩,
  ⟨0x0D66, ["0MALAYALAM DIGIT ZERO,2ONE,2TWO,2THREE,2FOUR,2FIVE,2SIX,2SEVEN,2EIGHT,2NINE",
    "1NUMBER TEN,2ONE HUNDRED,3THOUSAND,1FRACTION ONE QUARTER,3HALF,2THREE QUARTERS",
    "2ONE SIXTEENTH,3EIGHTH,2THREE SIXTEENTHS,1DATE MARK,1LETTER CHILLU NN,3N,3RR,3L,3LL,3K"]⟩,
  ⟨0x0D81, ["0SINHALA SIGN CANDRABINDU,2ANUSVARAYA,2VISARGAYA"]⟩,
  ⟨0x0D85, ["0SINHALA LETTER AYANNA,2AAYANNA,2AEYANNA,2AEEYANNA,2IYANNA,2IIYANNA,2UYANNA",
    "2UUYANNA,2IRUYANNA,2IRUUYANNA,2ILUYANNA,2ILUUYANNA,2EYANNA,2EEYANNA,2AIYANNA,2OYANNA",
    "2OOYANNA,2AUYANNA"]⟩,
  ⟨0x0D9A, ["0SINHALA LETTER ALPAPRAANA KAYANNA,2MAHAAPRAANA/1,2ALPAPRAANA GAYANNA",
    "2MAHAAPRAANA/1,2KANTAJA NAASIKYAYA,2SANYAKA GAYANNA,2ALPAPRAANA CAYANNA,2MAHAAPRAANA/1",
    "2ALPAPRAANA JAYANNA,2MAHAAPRAANA/1,2TAALUJA NAASIKYAYA,3SANYOOGA NAAKSIKYAYA",
    "2SANYAKA JAYANNA,2ALPAPRAANA TTAYANNA,2MAHAAPRAANA/1,2ALPAPRAANA DDAYANNA,2MAHAAPRAANA/1",
    "2MUURDHAJA NAYANNA,2SANYAKA DDAYANNA,2ALPAPRAANA TAYANNA,2MAHAAPRAANA/1",
    "2ALPAPRAANA DAYANNA,2MAHAAPRAANA/1,2DANTAJA NAYANNA"]⟩,
  ⟨0x0DB3, ["0SINHALA LETTER SANYAKA DAYANNA,2ALPAPRAANA PAYANNA,2MAHAAPRAANA/1",
    "2ALPAPRAANA BAYANNA,2MAHAAPRAANA/1,2MAYANNA,2AMBA BAYANNA,2YAYANNA,2RAYANNA"]⟩,
  ⟨0x0DBD, ["0SINHALA LETTER DANTAJA LAYANNA"]⟩,
  ⟨0x0DC0, ["0SINHALA LETTER VAYANNA,2TAALUJA SAYANNA,2MUURDHAJA/1,2DANTAJA/1,2HAYANNA",
    "2MUURDHAJA LAYANNA,2FAYANNA"]⟩,
  ⟨0x0DCA, ["0SINHALA SIGN AL-LAKUNA"]⟩,
  ⟨0x0DCF, ["0SINHALA VOWEL SIGN AELA-PILLA,3KETTI AEDA/1,3DIGA/2,3KETTI IS/1,3DIGA/2",
    "3KETTI PAA/1"]⟩,
  ⟨0x0DD6, ["0SINHALA VOWEL SIGN DIGA PAA-PILLA"]⟩,
  ⟨0x0DD8, ["0SINHALA VOWEL SIGN GAETTA-PILLA,3KOMBUVA,3DIGA/1,3KOMBU DEKA",
    "3KOMBUVA HAA AELA-PILLA,5DIGA/2,5GAYANUKITTA,3/1"]⟩,
  ⟨0x0DE6, ["0SINHALA LITH DIGIT ZERO,3ONE,3TWO,3THREE,3FOUR,3FIVE,3SIX,3SEVEN,3EIGHT,3NINE"]⟩,
  ⟨0x0DF2, ["0SINHALA VOWEL SIGN DIGA GAETTA-PILLA,4GAYANUKITTA,1PUNCTUATION KUNDDALIYA"]⟩,
  ⟨0x0E01, ["0THAI CHARACTER KO KAI,2KHO KHAI,3KHUAT,3KHWAI,3KHON,3RAKHANG,2NGO NGU,2CHO CHAN",
    "3CHING,3CHANG,2SO SO,2CHO CHOE,2YO YING,2DO CHADA,2TO PATAK,2THO THAN,3NANGMONTHO,3PHUTHAO",
    "2NO NEN,2DO DEK,2TO TAO,2THO THUNG,3THAHAN,3THONG,2NO NU,2BO BAIMAI,2PO PLA,2PHO PHUNG",
    "2FO FA,2PHO PHAN,2FO FAN,2PHO SAMPHAO,2MO MA,2YO YAK,2RO RUA,2RU,2LO LING,2LU,2WO WAEN",
    "2SO SALA,3RUSI,3SUA,2HO HIP,2LO CHULA,2O ANG,2HO NOKHUK,2PAIYANNOI,2SARA A,2MAI HAN-AKAT",
    "2SARA AA,3AM,3I,3II,3UE,3UEE,3U,3UU,2PHINTHU"]⟩,
  ⟨0x0E3F, ["0THAI CURRENCY SYMBOL BAHT,1CHARACTER SARA E,3AE,3O,3AI MAIMUAN,4MAIMALAI",
    "2LAKKHANGYAO,2MAIYAMOK,2MAITAIKHU,2MAI EK,3THO,3TRI,3CHATTAWA,2THANTHAKHAT,2NIKHAHIT",
    "2YAMAKKAN,2FONGMAN,1DIGIT ZERO,2ONE,2TWO,2THREE,2FOUR,2FIVE,2SIX,2SEVEN,2EIGHT,2NINE",
    "1CHARACTER ANGKHANKHU,2KHOMUT"]⟩,
  ⟨0x0E81, ["0LAO LETTER KO,2KHO SUNG"]⟩,
  ⟨0x0E84, ["0LAO LETTER KHO TAM"]⟩,
  ⟨0x0E86, ["0LAO LETTER PALI GHA,2NGO,2CO,2PALI CHA,2SO TAM"]⟩,
  ⟨0x0E8C, ["0LAO LETTER PALI JHA,2NYO,2PALI NYA,3TTA,3TTHA,3DDA,3DDHA,3NNA,2DO,2TO,2THO SUNG",
    "3TAM,2PALI DHA,2NO,2BO,2PO,2PHO SUNG,2FO TAM,2PHO/1,2FO SUNG,2PALI BHA,2MO,2YO,2LO LING"]⟩,
  ⟨0x0EA5, ["0LAO LETTER LO LOOT"]⟩,
  ⟨0x0EA7, ["0LAO LETTER WO,2SANSKRIT SHA,3SSA,2SO SUNG,2HO/1,2PALI LLA,2O,2HO TAM,1ELLIPSIS",
    "1VOWEL SIGN A,3MAI KAN,3AA,3AM,3I,3II,3Y,3YY,3U,3UU,1SIGN PALI VIRAMA,1VOWEL SIGN MAI KON",
    "1SEMIVOWEL SIGN LO,3NYO"]⟩,
  ⟨0x0EC0, ["0LAO VOWEL SIGN E,3EI,3O,3AY,3AI"]⟩,
  ⟨0x0EC6, ["0LAO KO LA"]⟩,
  ⟨0x0EC8, ["0LAO TONE MAI EK,3THO,3TI,3CATAWA,1CANCELLATION MARK,1NIGGAHITA"]⟩,
  ⟨0x0ED0, ["0LAO DIGIT ZERO,2ONE,2TWO,2THREE,2FOUR,2FIVE,2SIX,2SEVEN,2EIGHT,2NINE"]⟩,
  ⟨0x0EDC, ["0LAO HO NO,2MO,1LETTER KHMU GO,3NYO"]⟩,
  ⟨0x0F00, ["0TIBETAN SYLLABLE OM,1MARK GTER YIG MGO TRUNCATED A,5 -UM RNAM BCAD MA",
    "7GTER TSHEG/1,2INITIAL YIG MGO MDUN/1,2CLOSING YIG MGO SGAB/1,2CARET YIG MGO PHUR SHAD/1",
    "2YIG MGO TSHEG/2,2SBRUL SHAD,2BSKUR YIG MGO,2BKA- SHOG/2,2INTERSYLLABIC TSHEG",
    "2DELIMITER TSHEG BSTAR,2SHAD,2NYIS/1,2TSHEG/1,2NYIS/2,2RIN CHEN SPUNGS/1,2RGYA GRAM/1",
    "2CARET -DZUD RTAGS ME LONG CAN,2GTER TSHEG,1LOGOTYPE SIGN CHAD RTAGS,3LHAG/1",
    "1ASTROLOGICAL SIGN SGRA GCAN -CHAR/1,3 -KHYUD PA,3SDONG TSHUGS,1SIGN RDEL DKAR GCIG,4GNYIS",
    "4GSUM,3NAG GCIG,4GNYIS,3DKAR RDEL NAG,1DIGIT ZERO,2ONE,2TWO,2THREE,2FOUR,2FIVE,2SIX,2SEVEN",
    "2EIGHT,2NINE,2HALF ONE,3TWO,3THREE,3FOUR,3FIVE,3SIX,3SEVEN,3EIGHT,3NINE,3ZERO",
    "1MARK BSDUS RTAGS,2NGAS BZUNG NYI ZLA,2CARET -DZUD RTAGS BZHI MIG CAN",
    "2NGAS BZUNG SGOR RTAGS,2CHE MGO,2TSA -PHRU,2GUG RTAGS GYON,4GYAS,2ANG KHANG GYON,4GYAS",
    "1SIGN YAR TSHES,2MAR/1,1LETTER KA,2KHA,2GA,2GHA,2NGA,2CA,2CHA,2JA"]⟩,
  ⟨0x0F49, ["0TIBETAN LETTER NYA,2TTA,2TTHA,2DDA,2DDHA,2NNA,2TA,2THA,2DA,2DHA,2NA,2PA,2PHA,2BA",
    "2BHA,2MA,2TSA,2TSHA,2DZA,2DZHA,2WA,2ZHA,2ZA,2 -A,2YA,2RA,2LA,2SHA,2SSA,2SA,2HA,2A,2KSSA",
    "2FIXED-FORM RA,2KKA,2RRA"]⟩,
  ⟨0x0F71, ["0TIBETAN VOWEL SIGN AA,3I,3II,3U,3UU,3VOCALIC R,4RR,4L,4LL,3E,3EE,3O,3OO",
    "1SIGN RJES SU NGA RO,2RNAM BCAD,1VOWEL SIGN REVERSED I,4II,1SIGN NYI ZLA NAA DA,2SNA LDAN",
    "1MARK HALANTA,2PALUTA,1SIGN LCI RTAGS,2YANG/1,2LCE TSA CAN,2MCHU/1,2GRU CAN RGYINGS,3MED/1",
    "2INVERTED MCHU CAN,1SUBJOINED SIGN LCE TSA/1,3MCHU/1,3INVERTED/2,2LETTER KA,3KHA,3GA,3GHA",
    "3NGA,3CA,3CHA,3JA"]⟩,
  ⟨0x0F99, ["0TIBETAN SUBJOINED LETTER NYA,3TTA,3TTHA,3DDA,3DDHA,3NNA,3TA,3THA,3DA,3DHA,3NA,3PA",
    "3PHA,3BA,3BHA,3MA,3TSA,3TSHA,3DZA,3DZHA,3WA,3ZHA,3ZA,3 -A,3YA,3RA,3LA,3SHA,3SSA,3SA,3HA,3A",
    "3KSSA,3FIXED-FORM WA,5YA,5RA"]⟩,
  ⟨0x0FBE, ["0TIBETAN KU RU KHA,4BZHI MIG CAN,1CANTILLATION SIGN HEAVY BEAT,3LIGHT/1,3CANG TE-U",
    "3SBUB -CHAL,1SYMBOL DRIL BU,2RDO RJE,2PADMA GDAN,2RDO RJE RGYA GRAM,2PHUR PA,2NOR BU",
    "4NYIS -KHYIL,4GSUM/2,4BZHI/2"]⟩,
  ⟨0x0FCE, ["0TIBETAN SIGN RDEL NAG RDEL DKAR,4GSUM,1MARK BSKA- SHOG GI MGO RGYAN,2MNYAM YIG/3",
    "2NYIS TSHEG,2INITIAL BRDA RNYING YIG MGO MDUN MA,2CLOSING BRDA RNYING YIG MGO SGAB/1",
    "0RIGHT-FACING SVASTI SIGN,0LEFT/3,0RIGHT-FACING SVASTI SIGN WITH DOTS,0LEFT/5",
    "0TIBETAN MARK LEADING MCHAN RTAGS,2TRAILING/2"]⟩,
  ⟨0x1000, ["0MYANMAR LETTER KA,2KHA,2GA,2GHA,2NGA,2CA,2CHA,2JA,2JHA,2NYA,2NNYA,2TTA,2TTHA,2DDA",
    "2DDHA,2NNA,2TA,2THA,2DA,2DHA,2NA,2PA,2PHA,2BA,2BHA,2MA,2YA,2RA,2LA,2WA,2SA,2HA,2LLA,2A",
    "2SHAN/1,2I,2II,2U,2UU,2E,2MON/1,2O,2AU,1VOWEL SIGN TALL AA,3/1,3I,3II,3U,3UU,3E,3AI",
    "3MON II,4O,3E ABOVE,1SIGN ANUSVARA,2DOT BELOW,2VISARGA,2VIRAMA,2ASAT",
    "1CONSONANT SIGN MEDIAL YA,4RA,4WA,4HA,1LETTER GREAT SA,1DIGIT ZERO,2ONE,2TWO,2THREE,2FOUR",
    "2FIVE,2SIX,2SEVEN,2EIGHT,2NINE,1SIGN LITTLE SECTION,2/1,1SYMBOL LOCATIVE,2COMPLETED",
    "2AFOREMENTIONED,2GENITIVE,1LETTER SHA,2SSA,2VOCALIC R,3RR,3L,3LL,1VOWEL SIGN VOCALIC R,4RR",
    "4L,4LL,1LETTER MON NGA,3JHA,3BBA,3BBE,1CONSONANT SIGN MON MEDIAL NA,5MA,5LA",
    "1LETTER SGAW KAREN SHA,1VOWEL SIGN SGAW KAREN EU,1TONE MARK SGAW KAREN HATHI,5KE PHO",
    "1LETTER WESTERN PWO KAREN THA,5PWA,1VOWEL SIGN WESTERN PWO KAREN EU,6UE",
    "1SIGN WESTERN PWO KAREN TONE-1,6-2,6-3,6-4,6-5,1LETTER EASTERN PWO KAREN NNA,5YWA,5GHWA",
    "1VOWEL SIGN GEBA KAREN I,3KAYAH OE,4U,4EE,1LETTER SHAN KA,3KHA,3GA,3CA,3ZA,3NYA,3DA,3NA",
    "3PHA,3FA,3BA,3THA,3HA,1CONSONANT SIGN SHAN MEDIAL WA,1VOWEL SIGN SHAN AA,4E,5ABOVE",
    "4FINAL Y,1SIGN SHAN TONE-2,4-3,4-5,4-6,3COUNCIL TONE-2,5-3,4EMPHATIC TONE",
    "1LETTER RUMAI PALAUNG FA,1SIGN RUMAI PALAUNG TONE-5,1SHAN DIGIT ZERO,3ONE,3TWO,3THREE",
    "3FOUR,3FIVE,3SIX,3SEVEN,3EIGHT,3NINE,1SIGN KHAMTI TONE-1,4-3,1VOWEL SIGN AITON A,4AI",
    "1SYMBOL SHAN ONE,3EXCLAMATION,0GEORGIAN CAPITAL LETTER AN,3BAN,3GAN,3DON,3EN,3VIN,3ZEN",
    "3TAN,3IN,3KAN,3LAS,3MAN,3NAR,3ON,3PAR,3ZHAR,3RAE,3SAN,3TAR,3UN,3PHAR,3KHAR,3GHAN,3QAR",
    "3SHIN,3CHIN,3CAN,3JIL,3CIL,3CHAR,3XAN,3JHAN,3HAE,3HE,3HIE,3WE,3HAR,3HOE"]⟩,
  ⟨0x10C7, ["0GEORGIAN CAPITAL LETTER YN"]⟩,
  ⟨0x10CD, ["0GEORGIAN CAPITAL LETTER AEN"]⟩,
  ⟨0x10D0, ["0GEORGIAN LETTER AN,2BAN,2GAN,2DON,2EN,2VIN,2ZEN,2TAN,2IN,2KAN,2LAS,2MAN,2NAR,2ON",
    "2PAR,2ZHAR,2RAE,2SAN,2TAR,2UN,2PHAR,2KHAR,2GHAN,2QAR,2SHIN,2CHIN,2CAN,2JIL,2CIL,2CHAR,2XAN",
    "2JHAN,2HAE,2HE,2HIE,2WE,2HAR,2HOE,2FI,2YN,2ELIFI,2TURNED GAN,2AIN,1PARAGRAPH SEPARATOR",
    "0MODIFIER LETTER GEORGIAN NAR,0GEORGIAN LETTER AEN,2HARD SIGN,2LABIAL/1",
    "0HANGUL CHOSEONG KIYEOK,2SSANGKIYEOK,2NIEUN,2TIKEUT,2SSANGTIKEUT,2RIEUL,2MIEUM,2PIEUP",
    "2SSANGPIEUP,2SIOS,2SSANGSIOS,2IEUNG,2CIEUC,2SSANGCIEUC,2CHIEUCH,2KHIEUKH,2THIEUTH,2PHIEUPH",
    "2HIEUH,2NIEUN-KIYEOK,2SSANGNIEUN,2NIEUN-TIKEUT,3-PIEUP,2TIKEUT-KIYEOK,2RIEUL-NIEUN",
    "2SSANGRIEUL,2RIEUL-HIEUH,2KAPYEOUNRIEUL,2MIEUM-PIEUP,2KAPYEOUNMIEUM,2PIEUP-KIYEOK,3-NIEUN",
    "3-TIKEUT,3-SIOS,4-KIYEOK,4-TIKEUT,4-PIEUP,3-SSANGSIOS,3-SIOS-CIEUC,3/1,3-CHIEUCH,3-THIEUTH",
    "3-PHIEUPH,2KAPYEOUNPIEUP,2KAPYEOUNSSANGPIEUP,2SIOS-KIYEOK,3-NIEUN,3-TIKEUT,3-RIEUL,3-MIEUM",
    "3-PIEUP,4-KIYEOK,3-SSANGSIOS,3-IEUNG,3-CIEUC,3-CHIEUCH,3-KHIEUKH,3-THIEUTH,3-PHIEUPH",
    "3-HIEUH,2CHITUEUMSIOS,2CHITUEUMSSANGSIOS,2CEONGCHIEUMSIOS,2CEONGCHIEUMSSANGSIOS,2PANSIOS",
    "2IEUNG-KIYEOK,3-TIKEUT,3-MIEUM,3-PIEUP,3-SIOS,3-PANSIOS,2SSANGIEUNG,2IEUNG-CIEUC,3-CHIEUCH",
    "3-THIEUTH,3-PHIEUPH,2YESIEUNG,2CIEUC-IEUNG,2CHITUEUMCIEUC,2CHITUEUMSSANGCIEUC",
    "2CEONGCHIEUMCIEUC,2CEONGCHIEUMSSANGCIEUC,2CHIEUCH-KHIEUKH,3-HIEUH,2CHITUEUMCHIEUCH",
    "2CEONGCHIEUMCHIEUCH,2PHIEUPH-PIEUP,2KAPYEOUNPHIEUPH,2SSANGHIEUH,2YEORINHIEUH",
    "2KIYEOK-TIKEUT,2NIEUN-SIOS,3-CIEUC,3-HIEUH,2TIKEUT-RIEUL,2FILLER,1JUNGSEONG/1,2A,2AE,2YA",
    "2YAE,2EO,2E,2YEO,2YE,2O,2WA,2WAE,2OE,2YO,2U,2WEO,2WE,2WI,2YU,2EU,2YI,2I,2A-O,3-U,2YA-O",
    "3-YO,2EO-O,3-U,3-EU,2YEO-O,3-U,2O-EO,3-E,3-YE,3-O,3-U,2YO-YA,3-YAE,3-YEO,3-O,3-I,2U-A,3-AE",
    "3-EO-EU,3-YE,3-U,2YU-A,3-EO,3-E,3-YEO,3-YE,3-U,3-I,2EU-U,3-EU,2YI-U,2I-A,3-YA,3-O,3-U,3-EU",
    "3-ARAEA,2ARAEA,3-EO,3-U,3-I,2SSANGARAEA,2A-EU,2YA-U,2YEO-YA,2O/1,3-YAE,1JONGSEONG KIYEOK",
    "2SSANGKIYEOK,2KIYEOK-SIOS,2NIEUN,3-CIEUC,3-HIEUH,2TIKEUT,2RIEUL,3-KIYEOK,3-MIEUM,3-PIEUP",
    "3-SIOS,3-THIEUTH,3-PHIEUPH,3-HIEUH,2MIEUM,2PIEUP,3-SIOS,2SIOS,2SSANGSIOS,2IEUNG,2CIEUC",
    "2CHIEUCH,2KHIEUKH,2THIEUTH,2PHIEUPH,2HIEUH,2KIYEOK-RIEUL,3-SIOS-KIYEOK,2NIEUN/1,3-TIKEUT",
    "3-SIOS,3-PANSIOS,3-THIEUTH,2TIKEUT-KIYEOK,3-RIEUL,2RIEUL-KIYEOK-SIOS,3-NIEUN,3-TIKEUT",
    "4-HIEUH,2SSANGRIEUL,2RIEUL-MIEUM-KIYEOK,4-SIOS,3-PIEUP/1,4-HIEUH,3-KAPYEOUNPIEUP",
    "3-SSANGSIOS,3-PANSIOS,3-KHIEUKH,3-YEORINHIEUH,2MIEUM-KIYEOK,3-RIEUL,3-PIEUP,3-SIOS",
    "3-SSANGSIOS,3-PANSIOS,3-CHIEUCH,3-HIEUH,2KAPYEOUNMIEUM,2PIEUP-RIEUL,3-PHIEUPH,3-HIEUH",
    "2KAPYEOUNPIEUP,2SIOS-KIYEOK,3-TIKEUT,3-RIEUL,3-PIEUP,2PANSIOS,2IEUNG-KIYEOK,3-SSANGKIYEOK",
    "2SSANGIEUNG,2IEUNG-KHIEUKH,2YESIEUNG,3-SIOS,3-PANSIOS,2PHIEUPH-PIEUP,2KAPYEOUNPHIEUPH",
    "2HIEUH-NIEUN,3-RIEUL,3-MIEUM,3-PIEUP,2YEORINHIEUH,2KIYEOK-NIEUN,3-PIEUP,3-CHIEUCH",
    "3-KHIEUKH,3-HIEUH,2SSANGNIEUN,0ETHIOPIC SYLLABLE HA,2HU,2HI,2HAA,2HEE,2HE,2HO,2HOA,2LA,2LU",
    "2LI,2LAA,2LEE,2LE,2LO,2LWA,2HHA,2HHU,2HHI,2HHAA,2HHEE,2HHE,2HHO,2HHWA,2MA,2MU,2MI,2MAA",
    "2MEE,2ME,2MO,2MWA,2SZA,2SZU,2SZI,2SZAA,2SZEE,2SZE,2SZO,2SZWA,2RA,2RU,2RI,2RAA,2REE,2RE,2RO",
    "2RWA,2SA,2SU,2SI,2SAA,2SEE,2SE,2SO,2SWA,2SHA,2SHU,2SHI,2SHAA,2SHEE,2SHE,2SHO,2SHWA,2QA,2QU",
    "2QI,2QAA,2QEE,2QE,2QO,2QOA,2QWA"]⟩,
  ⟨0x124A, ["0ETHIOPIC SYLLABLE QWI,2QWAA,2QWEE,2QWE"]⟩,
  ⟨0x1250, ["0ETHIOPIC SYLLABLE QHA,2QHU,2QHI,2QHAA,2QHEE,2QHE,2QHO"]⟩,
  ⟨0x1258, ["0ETHIOPIC SYLLABLE QHWA"]⟩,
  ⟨0x125A, ["0ETHIOPIC SYLLABLE QHWI,2QHWAA,2QHWEE,2QHWE"]⟩,
  ⟨0x1260, ["0ETHIOPIC SYLLABLE BA,2BU,2BI,2BAA,2BEE,2BE,2BO,2BWA,2VA,2VU,2VI,2VAA,2VEE,2VE,2VO",
    "2VWA,2TA,2TU,2TI,2TAA,2TEE,2TE,2TO,2TWA,2CA,2CU,2CI,2CAA,2CEE,2CE,2CO,2CWA,2XA,2XU,2XI",
    "2XAA,2XEE,2XE,2XO,2XOA,2XWA"]⟩,
  ⟨0x128A, ["0ETHIOPIC SYLLABLE XWI,2XWAA,2XWEE,2XWE"]⟩,
  ⟨0x1290, ["0ETHIOPIC SYLLABLE NA,2NU,2NI,2NAA,2NEE,2NE,2NO,2NWA,2NYA,2NYU,2NYI,2NYAA,2NYEE",
    "2NYE,2NYO,2NYWA,2GLOTTAL A,3U,3I,3AA,3EE,3E,3O,3WA,2KA,2KU,2KI,2KAA,2KEE,2KE,2KO,2KOA,2KWA"]⟩,
  ⟨0x12B2, ["0ETHIOPIC SYLLABLE KWI,2KWAA,2KWEE,2KWE"]⟩,
  ⟨0x12B8, ["0ETHIOPIC SYLLABLE KXA,2KXU,2KXI,2KXAA,2KXEE,2KXE,2KXO"]⟩,
  ⟨0x12C0, ["0ETHIOPIC SYLLABLE KXWA"]⟩,
  ⟨0x12C2, ["0ETHIOPIC SYLLABLE KXWI,2KXWAA,2KXWEE,2KXWE"]⟩,
  ⟨0x12C8, ["0ETHIOPIC SYLLABLE WA,2WU,2WI,2WAA,2WEE,2WE,2WO,2WOA,2PHARYNGEAL A,3U,3I,3AA,3EE",
    "3E,3O"]⟩,
  ⟨0x12D8, ["0ETHIOPIC SYLLABLE ZA,2ZU,2ZI,2ZAA,2ZEE,2ZE,2ZO,2ZWA,2ZHA,2ZHU,2ZHI,2ZHAA,2ZHEE",
    "2ZHE,2ZHO,2ZHWA,2YA,2YU,2YI,2YAA,2YEE,2YE,2YO,2YOA,2DA,2DU,2DI,2DAA,2DEE,2DE,2DO,2DWA,2DDA",
    "2DDU,2DDI,2DDAA,2DDEE,2DDE,2DDO,2DDWA,2JA,2JU,2JI,2JAA,2JEE,2JE,2JO,2JWA,2GA,2GU,2GI,2GAA",
    "2GEE,2GE,2GO,2GOA,2GWA"]⟩,
  ⟨0x1312, ["0ETHIOPIC SYLLABLE GWI,2GWAA,2GWEE,2GWE"]⟩,
  ⟨0x1318, ["0ETHIOPIC SYLLABLE GGA,2GGU,2GGI,2GGAA,2GGEE,2GGE,2GGO,2GGWAA,2THA,2THU,2THI,2THAA",
    "2THEE,2THE,2THO,2THWA,2CHA,2CHU,2CHI,2CHAA,2CHEE,2CHE,2CHO,2CHWA,2PHA,2PHU,2PHI,2PHAA",
    "2PHEE,2PHE,2PHO,2PHWA,2TSA,2TSU,2TSI,2TSAA,2TSEE,2TSE,2TSO,2TSWA,2TZA,2TZU,2TZI,2TZAA",
    "2TZEE,2TZE,2TZO,2TZOA,2FA,2FU,2FI,2FAA,2FEE,2FE,2FO,2FWA,2PA,2PU,2PI,2PAA,2PEE,2PE,2PO",
    "2PWA,2RYA,2MYA,2FYA"]⟩,
  ⟨0x135D, ["0ETHIOPIC COMBINING GEMINATION AND VOWEL LENGTH MARK,2/3,2GEMINATION/1,1SECTION/1",
    "1WORDSPACE,1FULL STOP,1COMMA,1SEMICOLON,1COLON,1PREFACE/1,1QUESTION MARK",
    "1PARAGRAPH SEPARATOR,1DIGIT ONE,2TWO,2THREE,2FOUR,2FIVE,2SIX,2SEVEN,2EIGHT,2NINE",
    "1NUMBER TEN,2TWENTY,2THIRTY,2FORTY,2FIFTY,2SIXTY,2SEVENTY,2EIGHTY,2NINETY,2HUNDRED",
    "2TEN THOUSAND"]⟩,
  ⟨0x1380, ["0ETHIOPIC SYLLABLE SEBATBEIT MWA,2MWI,2MWEE,2MWE,2SEBATBEIT BWA,2BWI,2BWEE,2BWE",
    "2SEBATBEIT FWA,2FWI,2FWEE,2FWE,2SEBATBEIT PWA,2PWI,2PWEE,2PWE,1TONAL MARK YIZET,3DERET",
    "3RIKRIK,3SHORT/1,3DIFAT,3KENAT,3CHIRET,3HIDET,3DERET-HIDET,3KURT"]⟩,
  ⟨0x13A0, ["0CHEROKEE LETTER A,2E,2I,2O,2U,2V,2GA,2KA,2GE,2GI,2GO,2GU,2GV,2HA,2HE,2HI,2HO,2HU",
    "2HV,2LA,2LE,2LI,2LO,2LU,2LV,2MA,2ME,2MI,2MO,2MU,2NA,2HNA,2NAH,2NE,2NI,2NO,2NU,2NV,2QUA",
    "2QUE,2QUI,2QUO,2QUU,2QUV,2SA,2S,2SE,2SI,2SO,2SU,2SV,2DA,2TA,2DE,2TE,2DI,2TI,2DO,2DU,2DV",
    "2DLA,2TLA,2TLE,2TLI,2TLO,2TLU,2TLV,2TSA,2TSE,2TSI,2TSO,2TSU,2TSV,2WA,2WE,2WI,2WO,2WU,2WV",
    "2YA,2YE,2YI,2YO,2YU,2YV,2MV"]⟩,
  ⟨0x13F8, ["0CHEROKEE SMALL LETTER YE,3YI,3YO,3YU,3YV,3MV"]⟩]

end MediaDepot.Text
