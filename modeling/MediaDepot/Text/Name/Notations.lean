import MediaDepot.Text.Name.Run

/-!
# Names of notations

The names of the characters from U+1D000 on: notations, pictures and tags.
-/

namespace MediaDepot.Text

/-- The names, by the first character of each run. -/
def notationNames : List NameRun := [
  ⟨0x1D000, ["0BYZANTINE MUSICAL SYMBOL PSILI,3DASEIA,3PERISPOMENI,3OXEIA EKFONITIKON,4DIPLI",
    "3VAREIA EKFONITIKON,4DIPLI,3KATHISTI,3SYRMATIKI,3PARAKLITIKI,3YPOKRISIS,4DIPLI,3KREMASTI",
    "3APESO EKFONITIKON,3EXO/1,3TELEIA,3KENTIMATA,3APOSTROFOS,4DIPLI,3SYNEVMA,3THITA",
    "3OLIGON ARCHAION,3GORGON/1,3PSILON,3CHAMILON,3VATHY,3ISON ARCHAION,3KENTIMA/1,3KENTIMATA/1",
    "3SAXIMATA,3PARICHON,3STAVROS APODEXIA,3OXEIAI ARCHAION,3VAREIAI/1,3APODERMA/1,3APOTHEMA",
    "3KLASMA,3REVMA,3PIASMA ARCHAION,3TINAGMA,3ANATRICHISMA,3SEISMA,3SYNAGMA ARCHAION",
    "4META STAVROU,3OYRANISMA ARCHAION,3THEMA,3LEMOI,3DYO,3TRIA,3TESSERA,3KRATIMATA",
    "3APESO EXO NEO,3FTHORA ARCHAION,3IMIFTHORA,3TROMIKON ARCHAION,3KATAVA TROMIKON,3PELASTON",
    "3PSIFISTON,3KONTEVMA,3CHOREVMA ARCHAION,3RAPISMA,3PARAKALESMA ARCHAION,3PARAKLITIKI/1",
    "3ICHADIN,3NANA,3PETASMA,3KONTEVMA ALLO,3TROMIKON/1,3STRAGGISMATA,3GRONTHISMATA,3ISON NEO",
    "3OLIGON/1,3OXEIA/1,3PETASTI,3KOUFISMA,3PETASTOKOUFISMA,3KRATIMOKOUFISMA,3PELASTON NEO",
    "3KENTIMATA NEO ANO,3KENTIMA/2,3YPSILI,3APOSTROFOS NEO,3APOSTROFOI SYNDESMOS/1,3YPORROI",
    "3KRATIMOYPORROON,3ELAFRON,3CHAMILI,3MIKRON ISON,3VAREIA NEO,3PIASMA/1,3PSIFISTON/1,3OMALON",
    "3ANTIKENOMA,3LYGISMA,3PARAKLITIKI NEO,3PARAKALESMA/1,3ETERON PARAKALESMA,3KYLISMA",
    "3ANTIKENOKYLISMA,3TROMIKON NEO,3EKSTREPTON,3SYNAGMA NEO,3SYRMA,3CHOREVMA NEO,3EPEGERMA",
    "3SEISMA NEO,3XIRON KLASMA,3TROMIKOPSIFISTON,3PSIFISTOLYGISMA,3TROMIKOLYGISMA",
    "3TROMIKOPARAKALESMA,3PSIFISTOPARAKALESMA,3TROMIKOSYNAGMA,3PSIFISTOSYNAGMA,3GORGOSYNTHETON",
    "3ARGOSYNTHETON,3ETERON/1,3OYRANISMA NEO,3THEMATISMOS ESO,4EXO,3THEMA APLOUN",
    "3THES KAI APOTHES,3KATAVASMA,3ENDOFONON,3YFEN KATO,4ANO,3STAVROS,3KLASMA ANO",
    "3DIPLI ARCHAION,3KRATIMA/1,4ALLO,4NEO,3APODERMA/1,3APLI,3DIPLI,3TRIPLI,3TETRAPLI,3KORONIS",
    "3LEIMMA ENOS CHRONOU,4DYO CHRONON,4TRION/1,4TESSARON/1,4IMISEOS CHRONOU,3GORGON NEO ANO",
    "4PARESTIGMENON ARISTERA,5DEXIA,3DIGORGON,4PARESTIGMENON ARISTERA KATO,6ANO,5DEXIA",
    "3TRIGORGON,3ARGON,3IMIDIARGON,3DIARGON,3AGOGI POLI ARGI,4ARGOTERI,4ARGI,4METRIA,4MESI",
    "4GORGI,4GORGOTERI,4POLI GORGI,3MARTYRIA PROTOS ICHOS,4ALLI/2,4DEYTEROS/1,4ALLI/2,4TRITOS/1",
    "4TRIFONIAS,4TETARTOS ICHOS,5LEGETOS/1,4/2,4PLAGIOS/1,3ISAKIA TELOUS ICHIMATOS",
    "3APOSTROFOI/2,3FANEROSIS TETRAFONIAS,4MONOFONIAS,4DIFONIAS,3MARTYRIA VARYS ICHOS",
    "4PROTOVARYS/1,4PLAGIOS TETARTOS/1,3GORTHMIKON N APLOUN,5DIPLOUN,3ENARXIS KAI FTHORA VOU",
    "3IMIFONON,3IMIFTHORON,3FTHORA ARCHAION DEYTEROU ICHOU,4DIATONIKI PA,5NANA,4NAOS ICHOS",
    "4DIATONIKI DI,4SKLIRON DIATONON/1,4DIATONIKI KE,5ZO,5NI KATO,6ANO,4MALAKON CHROMA DIFONIAS",
    "6MONOFONIAS,3FHTORA SKLIRON CHROMA VASIS,3FTHORA SKLIRON CHROMA SYNAFI,4NENANO",
    "3CHROA ZYGOS,4KLITON,4SPATHI,3FTHORA I YFESIS TETARTIMORION,4ENARMONIOS ANTIFONIA",
    "3YFESIS TRITIMORION,3DIESIS/1,4TETARTIMORION,4APLI DYO DODEKATA,4MONOGRAMMOS TESSERA/1",
    "4DIGRAMMOS EX/1,4TRIGRAMMOS OKTO/1,3YFESIS APLI DYO/1,4MONOGRAMMOS TESSERA/1",
    "4DIGRAMMOS EX/1,4TRIGRAMMOS OKTO/1,3GENIKI DIESIS,4YFESIS,3DIASTOLI APLI MIKRI,5MEGALI",
    "4DIPLI,4THESEOS,3SIMANSIS/1,5DISIMOU,5TRISIMOU,5TETRASIMOU,4ARSEOS,5DISIMOU,5TRISIMOU",
    "5TETRASIMOU,3DIGRAMMA GG,3DIFTOGGOS OU,3STIGMA,3ARKTIKO PA,4VOU,4GA,4DI,4KE,4ZO,4NI",
    "3KENTIMATA NEO MESO,3KENTIMA/2,3KENTIMATA NEO KATO,3KENTIMA/2,3KLASMA/1,3GORGON NEO/1"]⟩,
  ⟨0x1D100, ["0MUSICAL SYMBOL SINGLE BARLINE,2DOUBLE/1,2FINAL/1,2REVERSE/2,2DASHED/1,2SHORT/1",
    "2LEFT REPEAT SIGN,2RIGHT/2,2REPEAT DOTS,2DAL SEGNO,2DA CAPO,2SEGNO,2CODA",
    "2REPEATED FIGURE-1,4-2,4-3,2FERMATA,3BELOW,2BREATH MARK,2CAESURA,2BRACE,2BRACKET",
    "2ONE-LINE STAFF,2TWO/2,2THREE/2,2FOUR/2,2FIVE/2,2SIX/2,3-STRING FRETBOARD,2FOUR/2,2G CLEF",
    "4OTTAVA ALTA,5BASSA,2C CLEF,2F/1,4OTTAVA ALTA,5BASSA,2DRUM CLEF-1,4-2"]⟩,
  ⟨0x1D129, ["0MUSICAL SYMBOL MULTIPLE MEASURE REST,2DOUBLE SHARP,3FLAT,2FLAT UP,3DOWN",
    "2NATURAL UP,3DOWN,2SHARP UP,3DOWN,2QUARTER TONE SHARP,4FLAT,2COMMON TIME,2CUT/1",
    "2OTTAVA ALTA,3BASSA,2QUINDICESIMA ALTA,3BASSA,2MULTI REST,2WHOLE/1,2HALF/1,2QUARTER/1",
    "2EIGHTH/1,2SIXTEENTH/1,2THIRTY-SECOND/1,2SIXTY-FOURTH/1,2ONE HUNDRED TWENTY-EIGHTH/1",
    "2X NOTEHEAD,2PLUS/1,2CIRCLE X/1,2SQUARE NOTEHEAD WHITE,4BLACK,2TRIANGLE NOTEHEAD UP WHITE",
    "5BLACK,4LEFT WHITE,5BLACK,4RIGHT WHITE,5BLACK,4DOWN WHITE,5BLACK,4UP RIGHT WHITE,6BLACK",
    "2MOON NOTEHEAD WHITE,4BLACK,2TRIANGLE-ROUND NOTEHEAD DOWN WHITE,6BLACK",
    "2PARENTHESIS NOTEHEAD,2VOID/1,2NOTEHEAD BLACK,2NULL NOTEHEAD,2CLUSTER NOTEHEAD WHITE",
    "4BLACK,2BREVE,2WHOLE NOTE,2HALF/1,2QUARTER/1,2EIGHTH/1,2SIXTEENTH/1,2THIRTY-SECOND/1",
    "2SIXTY-FOURTH/1,2ONE HUNDRED TWENTY-EIGHTH/1,2COMBINING STEM,3SPRECHGESANG/1,3TREMOLO-1",
    "4-2,4-3,2FINGERED TREMOLO-1,4-2,4-3,2COMBINING AUGMENTATION DOT,3FLAG-1,4-2,4-3,4-4,4-5",
    "2BEGIN BEAM,2END/1,2BEGIN TIE,2END/1,2BEGIN SLUR,2END/1,2BEGIN PHRASE,2END/1",
    "2COMBINING ACCENT,3STACCATO,3TENUTO,3STACCATISSIMO,3MARCATO,4-STACCATO,3ACCENT/1,3LOURE",
    "2ARPEGGIATO UP,3DOWN,2COMBINING DOIT,3RIP,3FLIP,3SMEAR,3BEND,3DOUBLE TONGUE,3TRIPLE/1",
    "2RINFORZANDO,2SUBITO,2Z,2PIANO,2MEZZO,2FORTE,2CRESCENDO,2DECRESCENDO,2GRACE NOTE SLASH",
    "4NO/1,2TR,2TURN,2INVERTED/1,2TURN SLASH,3UP,2ORNAMENT STROKE-1,4-2,4-3,4-4,4-5,4-6,4-7,4-8",
    "4-9,4-10,4-11,2HAUPTSTIMME,2NEBENSTIMME,2END OF STIMME,2DEGREE SLASH,2COMBINING DOWN BOW",
    "3UP/1,3HARMONIC,3SNAP PIZZICATO,2PEDAL MARK,3UP/1,2HALF PEDAL/1,2GLISSANDO UP,3DOWN",
    "2WITH FINGERNAILS,2DAMP,3ALL,2MAXIMA,2LONGA,2BREVIS,2SEMIBREVIS WHITE,3BLACK,2MINIMA",
    "3BLACK,2SEMIMINIMA WHITE,3BLACK,2FUSA WHITE,3BLACK,2LONGA PERFECTA REST,3IMPERFECTA/1",
    "2BREVIS/1,2SEMIBREVIS/1,2MINIMA/1,2SEMIMINIMA/1,2TEMPUS PERFECTUM CUM PROLATIONE PERFECTA",
    "6IMPERFECTA,6PERFECTA DIMINUTION-1,3IMPERFECTUM CUM PROLATIONE PERFECTA,6IMPERFECTA",
    "7DIMINUTION-1,8-2,8-3,2CROIX,2GREGORIAN C CLEF,3F/1,2SQUARE B,2VIRGA,2PODATUS,2CLIVIS",
    "2SCANDICUS,2CLIMACUS,2TORCULUS,2PORRECTUS,3FLEXUS,2SCANDICUS/1,2TORCULUS RESUPINUS",
    "2PES SUBPUNCTIS,2KIEVAN C CLEF,3END OF PIECE,3FINAL NOTE,3RECITATIVE MARK,3WHOLE NOTE",
    "3HALF/1,3QUARTER NOTE STEM DOWN,6UP,3EIGHTH NOTE STEM DOWN,6UP,3FLAT SIGN,2SORI,2KORON"]⟩,
  ⟨0x1D200, ["0GREEK VOCAL NOTATION SYMBOL-1,4-2,4-3,4-4,4-5,4-6,4-7,4-8,4-9,4-10,4-11,4-12",
    "4-13,4-14,4-15,4-16,4-17,4-18,4-19,4-20,4-21,4-22,4-23,4-24,4-50,4-51,4-52,4-53,4-54",
    "1INSTRUMENTAL NOTATION SYMBOL-1,4-2,4-4,4-5,4-7,4-8,4-11,4-12,4-13,4-14,4-17,4-18,4-19",
    "4-23,4-24,4-25,4-26,4-27,4-29,4-30,4-32,4-36,4-37,4-38,4-39,4-40,4-42,4-43,4-45,4-47,4-48",
    "4-49,4-50,4-51,4-52,4-53,4-54,0COMBINING GREEK MUSICAL TRISEME,3TETRASEME,3PENTASEME",
    "0GREEK MUSICAL LEIMMA"]⟩,
  ⟨0x1D2E0, ["0MAYAN NUMERAL ZERO,2ONE,2TWO,2THREE,2FOUR,2FIVE,2SIX,2SEVEN,2EIGHT,2NINE,2TEN",
    "2ELEVEN,2TWELVE,2THIRTEEN,2FOURTEEN,2FIFTEEN,2SIXTEEN,2SEVENTEEN,2EIGHTEEN,2NINETEEN"]⟩,
  ⟨0x1D300, ["0MONOGRAM FOR EARTH,0DIGRAM FOR HEAVENLY/1,2HUMAN/1,2EARTHLY HEAVEN,3HUMAN,2EARTH",
    "0TETRAGRAM FOR CENTRE,2FULL CIRCLE,2MIRED,2BARRIER,2KEEPING SMALL,2CONTRARIETY,2ASCENT",
    "2OPPOSITION,2BRANCHING OUT,2DEFECTIVENESS OR DISTORTION,2DIVERGENCE,2YOUTHFULNESS",
    "2INCREASE,2PENETRATION,2REACH,2CONTACT,2HOLDING BACK,2WAITING,2FOLLOWING,2ADVANCE,2RELEASE",
    "2RESISTANCE,2EASE,2JOY,2CONTENTION,2ENDEAVOUR,2DUTIES,2CHANGE,2DECISIVENESS",
    "2BOLD RESOLUTION,2PACKING,2LEGION,2CLOSENESS,2KINSHIP,2GATHERING,2STRENGTH,2PURITY",
    "2FULLNESS,2RESIDENCE,2LAW OR MODEL,2RESPONSE,2GOING TO MEET,2ENCOUNTERS,2STOVE,2GREATNESS",
    "2ENLARGEMENT,2PATTERN,2RITUAL,2FLIGHT,2VASTNESS OR WASTING,2CONSTANCY,2MEASURE,2ETERNITY",
    "2UNITY,2DIMINISHMENT,2CLOSED MOUTH,2GUARDEDNESS,2GATHERING IN,2MASSING,2ACCUMULATION",
    "2EMBELLISHMENT,2DOUBT,2WATCH,2SINKING,2INNER,2DEPARTURE,2DARKENING,2DIMMING,2EXHAUSTION",
    "2SEVERANCE,2STOPPAGE,2HARDNESS,2COMPLETION,2CLOSURE,2FAILURE,2AGGRAVATION,2COMPLIANCE",
    "2ON THE VERGE,2DIFFICULTIES,2LABOURING,2FOSTERING"]⟩,
  ⟨0x1D360, ["0COUNTING ROD UNIT DIGIT ONE,4TWO,4THREE,4FOUR,4FIVE,4SIX,4SEVEN,4EIGHT,4NINE",
    "2TENS DIGIT ONE,4TWO,4THREE,4FOUR,4FIVE,4SIX,4SEVEN,4EIGHT,4NINE",
    "0IDEOGRAPHIC TALLY MARK ONE,3TWO,3THREE,3FOUR,3FIVE,0TALLY MARK ONE,2FIVE"]⟩,
  ⟨0x1D400, ["0MATHEMATICAL BOLD CAPITAL A,3B,3C,3D,3E,3F,3G,3H,3I,3J,3K,3L,3M,3N,3O,3P,3Q,3R",
    "3S,3T,3U,3V,3W,3X,3Y,3Z,2SMALL A,3B,3C,3D,3E,3F,3G,3H,3I,3J,3K,3L,3M,3N,3O,3P,3Q,3R,3S,3T",
    "3U,3V,3W,3X,3Y,3Z,1ITALIC CAPITAL A,3B,3C,3D,3E,3F,3G,3H,3I,3J,3K,3L,3M,3N,3O,3P,3Q,3R,3S",
    "3T,3U,3V,3W,3X,3Y,3Z,2SMALL A,3B,3C,3D,3E,3F,3G"]⟩,
  ⟨0x1D456, ["0MATHEMATICAL ITALIC SMALL I,3J,3K,3L,3M,3N,3O,3P,3Q,3R,3S,3T,3U,3V,3W,3X,3Y,3Z",
    "1BOLD ITALIC CAPITAL A,4B,4C,4D,4E,4F,4G,4H,4I,4J,4K,4L,4M,4N,4O,4P,4Q,4R,4S,4T,4U,4V,4W",
    "4X,4Y,4Z,3SMALL A,4B,4C,4D,4E,4F,4G,4H,4I,4J,4K,4L,4M,4N,4O,4P,4Q,4R,4S,4T,4U,4V,4W,4X,4Y",
    "4Z,1SCRIPT CAPITAL A"]⟩,
  ⟨0x1D49E, ["0MATHEMATICAL SCRIPT CAPITAL C,3D"]⟩,
  ⟨0x1D4A2, ["0MATHEMATICAL SCRIPT CAPITAL G"]⟩,
  ⟨0x1D4A5, ["0MATHEMATICAL SCRIPT CAPITAL J,3K"]⟩,
  ⟨0x1D4A9, ["0MATHEMATICAL SCRIPT CAPITAL N,3O,3P,3Q"]⟩,
  ⟨0x1D4AE, ["0MATHEMATICAL SCRIPT CAPITAL S,3T,3U,3V,3W,3X,3Y,3Z,2SMALL A,3B,3C,3D"]⟩,
  ⟨0x1D4BB, ["0MATHEMATICAL SCRIPT SMALL F"]⟩,
  ⟨0x1D4BD, ["0MATHEMATICAL SCRIPT SMALL H,3I,3J,3K,3L,3M,3N"]⟩,
  ⟨0x1D4C5, ["0MATHEMATICAL SCRIPT SMALL P,3Q,3R,3S,3T,3U,3V,3W,3X,3Y,3Z,1BOLD SCRIPT CAPITAL A",
    "4B,4C,4D,4E,4F,4G,4H,4I,4J,4K,4L,4M,4N,4O,4P,4Q,4R,4S,4T,4U,4V,4W,4X,4Y,4Z,3SMALL A,4B,4C",
    "4D,4E,4F,4G,4H,4I,4J,4K,4L,4M,4N,4O,4P,4Q,4R,4S,4T,4U,4V,4W,4X,4Y,4Z,1FRAKTUR CAPITAL A,3B"]⟩,
  ⟨0x1D507, ["0MATHEMATICAL FRAKTUR CAPITAL D,3E,3F,3G"]⟩,
  ⟨0x1D50D, ["0MATHEMATICAL FRAKTUR CAPITAL J,3K,3L,3M,3N,3O,3P,3Q"]⟩,
  ⟨0x1D516, ["0MATHEMATICAL FRAKTUR CAPITAL S,3T,3U,3V,3W,3X,3Y"]⟩,
  ⟨0x1D51E, ["0MATHEMATICAL FRAKTUR SMALL A,3B,3C,3D,3E,3F,3G,3H,3I,3J,3K,3L,3M,3N,3O,3P,3Q,3R",
    "3S,3T,3U,3V,3W,3X,3Y,3Z,1DOUBLE-STRUCK CAPITAL A,4B"]⟩,
  ⟨0x1D53B, ["0MATHEMATICAL DOUBLE-STRUCK CAPITAL D,4E,4F,4G"]⟩,
  ⟨0x1D540, ["0MATHEMATICAL DOUBLE-STRUCK CAPITAL I,4J,4K,4L,4M"]⟩,
  ⟨0x1D546, ["0MATHEMATICAL DOUBLE-STRUCK CAPITAL O"]⟩,
  ⟨0x1D54A, ["0MATHEMATICAL DOUBLE-STRUCK CAPITAL S,4T,4U,4V,4W,4X,4Y"]⟩,
  ⟨0x1D552, ["0MATHEMATICAL DOUBLE-STRUCK SMALL A,4B,4C,4D,4E,4F,4G,4H,4I,4J,4K,4L,4M,4N,4O,4P",
    "4Q,4R,4S,4T,4U,4V,4W,4X,4Y,4Z,1BOLD FRAKTUR CAPITAL A,4B,4C,4D,4E,4F,4G,4H,4I,4J,4K,4L,4M",
    "4N,4O,4P,4Q,4R,4S,4T,4U,4V,4W,4X,4Y,4Z,3SMALL A,4B,4C,4D,4E,4F,4G,4H,4I,4J,4K,4L,4M,4N,4O",
    "4P,4Q,4R,4S,4T,4U,4V,4W,4X,4Y,4Z,1SANS-SERIF CAPITAL A,4B,4C,4D,4E,4F,4G,4H,4I,4J,4K,4L,4M",
    "4N,4O,4P,4Q,4R,4S,4T,4U,4V,4W,4X,4Y,4Z,3SMALL A,4B,4C,4D,4E,4F,4G,4H,4I,4J,4K,4L,4M,4N,4O",
    "4P,4Q,4R,4S,4T,4U,4V,4W,4X,4Y,4Z,3BOLD CAPITAL A,5B,5C,5D,5E,5F,5G,5H,5I,5J,5K,5L,5M,5N,5O",
    "5P,5Q,5R,5S,5T,5U,5V,5W,5X,5Y,5Z,4SMALL A,5B,5C,5D,5E,5F,5G,5H,5I,5J,5K,5L,5M,5N,5O,5P,5Q",
    "5R,5S,5T,5U,5V,5W,5X,5Y,5Z,3ITALIC CAPITAL A,5B,5C,5D,5E,5F,5G,5H,5I,5J,5K,5L,5M,5N,5O,5P",
    "5Q,5R,5S,5T,5U,5V,5W,5X,5Y,5Z,4SMALL A,5B,5C,5D,5E,5F,5G,5H,5I,5J,5K,5L,5M,5N,5O,5P,5Q,5R",
    "5S,5T,5U,5V,5W,5X,5Y,5Z,3BOLD ITALIC CAPITAL A,6B,6C,6D,6E,6F,6G,6H,6I,6J,6K,6L,6M,6N,6O",
    "6P,6Q,6R,6S,6T,6U,6V,6W,6X,6Y,6Z,5SMALL A,6B,6C,6D,6E,6F,6G,6H,6I,6J,6K,6L,6M,6N,6O,6P,6Q",
    "6R,6S,6T,6U,6V,6W,6X,6Y,6Z,1MONOSPACE CAPITAL A,3B,3C,3D,3E,3F,3G,3H,3I,3J,3K,3L,3M,3N,3O",
    "3P,3Q,3R,3S,3T,3U,3V,3W,3X,3Y,3Z,2SMALL A,3B,3C,3D,3E,3F,3G,3H,3I,3J,3K,3L,3M,3N,3O,3P,3Q",
    "3R,3S,3T,3U,3V,3W,3X,3Y,3Z,1ITALIC SMALL DOTLESS I,4J"]⟩,
  ⟨0x1D6A8, ["0MATHEMATICAL BOLD CAPITAL ALPHA,3BETA,3GAMMA,3DELTA,3EPSILON,3ZETA,3ETA,3THETA",
    "3IOTA,3KAPPA,3LAMDA,3MU,3NU,3XI,3OMICRON,3PI,3RHO,3THETA SYMBOL,3SIGMA,3TAU,3UPSILON,3PHI",
    "3CHI,3PSI,3OMEGA,2NABLA,2SMALL ALPHA,3BETA,3GAMMA,3DELTA,3EPSILON,3ZETA,3ETA,3THETA,3IOTA",
    "3KAPPA,3LAMDA,3MU,3NU,3XI,3OMICRON,3PI,3RHO,3FINAL SIGMA,3/1,3TAU,3UPSILON,3PHI,3CHI,3PSI",
    "3OMEGA,2PARTIAL DIFFERENTIAL,2EPSILON SYMBOL,2THETA/1,2KAPPA/1,2PHI/1,2RHO/1,2PI/1",
    "1ITALIC CAPITAL ALPHA,3BETA,3GAMMA,3DELTA,3EPSILON,3ZETA,3ETA,3THETA,3IOTA,3KAPPA,3LAMDA",
    "3MU,3NU,3XI,3OMICRON,3PI,3RHO,3THETA SYMBOL,3SIGMA,3TAU,3UPSILON,3PHI,3CHI,3PSI,3OMEGA",
    "2NABLA,2SMALL ALPHA,3BETA,3GAMMA,3DELTA,3EPSILON,3ZETA,3ETA,3THETA,3IOTA,3KAPPA,3LAMDA,3MU",
    "3NU,3XI,3OMICRON,3PI,3RHO,3FINAL SIGMA,3/1,3TAU,3UPSILON,3PHI,3CHI,3PSI,3OMEGA",
    "2PARTIAL DIFFERENTIAL,2EPSILON SYMBOL,2THETA/1,2KAPPA/1,2PHI/1,2RHO/1,2PI/1",
    "1BOLD ITALIC CAPITAL ALPHA,4BETA,4GAMMA,4DELTA,4EPSILON,4ZETA,4ETA,4THETA,4IOTA,4KAPPA",
    "4LAMDA,4MU,4NU,4XI,4OMICRON,4PI,4RHO,4THETA SYMBOL,4SIGMA,4TAU,4UPSILON,4PHI,4CHI,4PSI",
    "4OMEGA,3NABLA,3SMALL ALPHA,4BETA,4GAMMA,4DELTA,4EPSILON,4ZETA,4ETA,4THETA,4IOTA,4KAPPA",
    "4LAMDA,4MU,4NU,4XI,4OMICRON,4PI,4RHO,4FINAL SIGMA,4/1,4TAU,4UPSILON,4PHI,4CHI,4PSI,4OMEGA",
    "3PARTIAL DIFFERENTIAL,3EPSILON SYMBOL,3THETA/1,3KAPPA/1,3PHI/1,3RHO/1,3PI/1",
    "1SANS-SERIF BOLD CAPITAL ALPHA,5BETA,5GAMMA,5DELTA,5EPSILON,5ZETA,5ETA,5THETA,5IOTA,5KAPPA",
    "5LAMDA,5MU,5NU,5XI,5OMICRON,5PI,5RHO,5THETA SYMBOL,5SIGMA,5TAU,5UPSILON,5PHI,5CHI,5PSI",
    "5OMEGA,4NABLA,4SMALL ALPHA,5BETA,5GAMMA,5DELTA,5EPSILON,5ZETA,5ETA,5THETA,5IOTA,5KAPPA",
    "5LAMDA,5MU,5NU,5XI,5OMICRON,5PI,5RHO,5FINAL SIGMA,5/1,5TAU,5UPSILON,5PHI,5CHI,5PSI,5OMEGA",
    "4PARTIAL DIFFERENTIAL,4EPSILON SYMBOL,4THETA/1,4KAPPA/1,4PHI/1,4RHO/1,4PI/1",
    "4ITALIC CAPITAL ALPHA,6BETA,6GAMMA,6DELTA,6EPSILON,6ZETA,6ETA,6THETA,6IOTA,6KAPPA,6LAMDA",
    "6MU,6NU,6XI,6OMICRON,6PI,6RHO,6THETA SYMBOL,6SIGMA,6TAU,6UPSILON,6PHI,6CHI,6PSI,6OMEGA",
    "5NABLA,5SMALL ALPHA,6BETA,6GAMMA,6DELTA,6EPSILON,6ZETA,6ETA,6THETA,6IOTA,6KAPPA,6LAMDA,6MU",
    "6NU,6XI,6OMICRON,6PI,6RHO,6FINAL SIGMA,6/1,6TAU,6UPSILON,6PHI,6CHI,6PSI,6OMEGA",
    "5PARTIAL DIFFERENTIAL,5EPSILON SYMBOL,5THETA/1,5KAPPA/1,5PHI/1,5RHO/1,5PI/1",
    "1BOLD CAPITAL DIGAMMA,2SMALL/1"]⟩,
  ⟨0x1D7CE, ["0MATHEMATICAL BOLD DIGIT ZERO,3ONE,3TWO,3THREE,3FOUR,3FIVE,3SIX,3SEVEN,3EIGHT",
    "3NINE,1DOUBLE-STRUCK DIGIT ZERO,4ONE,4TWO,4THREE,4FOUR,4FIVE,4SIX,4SEVEN,4EIGHT,4NINE",
    "1SANS-SERIF DIGIT ZERO,4ONE,4TWO,4THREE,4FOUR,4FIVE,4SIX,4SEVEN,4EIGHT,4NINE",
    "3BOLD DIGIT ZERO,5ONE,5TWO,5THREE,5FOUR,5FIVE,5SIX,5SEVEN,5EIGHT,5NINE",
    "1MONOSPACE DIGIT ZERO,3ONE,3TWO,3THREE,3FOUR,3FIVE,3SIX,3SEVEN,3EIGHT,3NINE",
    "0SIGNWRITING HAND-FIST INDEX,2-CIRCLE/1,2-CUP/1,2-OVAL/1,2-HINGE/1,2-ANGLE/1",
    "2-FIST INDEX BENT,2-CIRCLE/2,2-FIST THUMB UNDER/2,3INDEX RAISED KNUCKLE,4CUPPED,4HINGED",
    "5LOW,2-CIRCLE INDEX HINGE,2-FIST INDEX MIDDLE,2-CIRCLE/2,2-FIST INDEX MIDDLE BENT",
    "5RAISED KNUCKLES,5HINGED,4UP/2,4HINGED MIDDLE UP,4MIDDLE CONJOINED,6INDEX BENT,6MIDDLE/1",
    "6CUPPED,6HINGED,5CROSSED,2-CIRCLE/3,2-FIST MIDDLE BENT OVER INDEX,3INDEX BENT OVER MIDDLE",
    "4MIDDLE THUMB,2-CIRCLE/3,2-FIST INDEX MIDDLE STRAIGHT THUMB BENT,5BENT THUMB STRAIGHT",
    "5THUMB BENT,5HINGED SPREAD THUMB SIDE,4UP MIDDLE HINGED/2,8CONJOINED",
    "4HINGED MIDDLE UP THUMB SIDE,4MIDDLE UP SPREAD THUMB FORWARD,5THUMB CUPPED,6CIRCLED",
    "6HOOKED,6HINGED,3THUMB BETWEEN INDEX MIDDLE STRAIGHT,3INDEX MIDDLE CONJOINED THUMB SIDE",
    "8CONJOINED,8BENT,3MIDDLE THUMB HOOKED INDEX UP,3INDEX THUMB HOOKED MIDDLE/1",
    "4MIDDLE CONJOINED HINGED THUMB SIDE,5CROSSED/2,5CONJOINED THUMB FORWARD,6CUPPED/2",
    "3MIDDLE THUMB CUPPED INDEX UP,3INDEX THUMB CUPPED MIDDLE/1,3MIDDLE THUMB CIRCLED INDEX/1",
    "7HINGED,3INDEX THUMB ANGLED OUT MIDDLE UP,6IN/2,5CIRCLED/2,4MIDDLE THUMB CONJOINED HINGED",
    "6ANGLED OUT,7,3MIDDLE THUMB ANGLED OUT INDEX UP,8CROSSED,6INDEX UP",
    "3INDEX THUMB HOOKED MIDDLE HINGED,2-FLAT FOUR FINGERS,5BENT,5HINGED,5CONJOINED,6SPLIT",
    "2-CLAW FOUR FINGERS CONJOINED,2-FIST FOUR FINGERS CONJOINED BENT",
    "2-HINGE FOUR FINGERS CONJOINED,2-FLAT FIVE FINGERS SPREAD,3HEEL/3",
    "3FIVE FINGERS SPREAD FOUR BENT,3HEEL/5,3FIVE FINGERS SPREAD/1,3HEEL/4",
    "3FIVE FINGERS SPREAD THUMB FORWARD,2-CUP FIVE FINGERS SPREAD,6OPEN,2-HINGE/4",
    "2-OVAL FIVE FINGERS SPREAD,2-FLAT FIVE FINGERS SPREAD HINGED,7THUMB SIDE,7NO THUMB,3",
    "3BETWEEN PALM FACINGS,3HEEL,3THUMB SIDE,3HEEL/2,3THUMB BENT,4FORWARD",
    "3SPLIT INDEX THUMB SIDE,4CENTRE,5THUMB SIDE,7BENT,4LITTLE,2-CLAW,3THUMB SIDE,3NO THUMB",
    "3THUMB FORWARD,2-HOOK CURLICUE,3,2-CUP OPEN,3,3OPEN THUMB SIDE,3/2,3OPEN NO THUMB,3/2",
    "3OPEN THUMB FORWARD,3/2,2-CURLICUE OPEN,3,2-CIRCLE,2-OVAL,3THUMB SIDE,3NO THUMB",
    "3THUMB FORWARD,2-HINGE OPEN,4THUMB FORWARD,3,3SMALL,3OPEN THUMB SIDE,3/2,3OPEN NO THUMB",
    "3/2,3THUMB SIDE TOUCHING INDEX,4BETWEEN MIDDLE RING,2-ANGLE,2-FIST INDEX MIDDLE RING",
    "2-CIRCLE/3,2-HINGE/3,2-ANGLE/3,2-HINGE LITTLE,2-FIST INDEX MIDDLE RING BENT,6CONJOINED",
    "2-HINGE/4,2-FIST LITTLE DOWN,5RIPPLE STRAIGHT,6CURVED,5OTHERS CIRCLED,4UP,3THUMB UNDER/2",
    "2-CIRCLE/2,2-OVAL/2,2-ANGLE/2,2-FIST LITTLE RAISED KNUCKLE,4BENT,4TOUCHES THUMB,4/1",
    "2-HINGE/2,2-FIST LITTLE INDEX/1,2-HINGE/3,2-ANGLE LITTLE INDEX THUMB INDEX THUMB OUT,8",
    "2-FIST LITTLE INDEX,2-CIRCLE/2,2-HINGE/2,2-ANGLE/2,2-FIST INDEX MIDDLE LITTLE,2-CIRCLE/3",
    "2-HINGE/3,3RING,2-ANGLE INDEX MIDDLE LITTLE,2-FIST INDEX MIDDLE CROSS/1,2-CIRCLE/4",
    "2-FIST RING DOWN,2-HINGE RING DOWN INDEX THUMB HOOK MIDDLE",
    "2-ANGLE RING DOWN MIDDLE THUMB INDEX CROSS,2-FIST RING UP,4RAISED KNUCKLE,4LITTLE",
    "2-CIRCLE/2,2-OVAL/2,2-ANGLE/2,2-FIST RING MIDDLE,5CONJOINED,5RAISED KNUCKLES,4INDEX,4THUMB",
    "2-HOOK/2,2-FIST INDEX RING LITTLE,2-CIRCLE/3,2-CURLICUE INDEX RING LITTLE ON",
    "2-HOOK INDEX RING LITTLE OUT,6IN,6UNDER,2-CUP INDEX RING LITTLE,2-HINGE/3",
    "2-ANGLE INDEX RING LITTLE OUT,6,2-FIST MIDDLE DOWN,2-HINGE MIDDLE,2-FIST MIDDLE UP",
    "2-CIRCLE/2,2-FIST MIDDLE RAISED KNUCKLE,4UP THUMB SIDE,2-HOOK MIDDLE THUMB",
    "2-FIST MIDDLE THUMB LITTLE,4/1,4RING/1,2-CIRCLE/3,2-CURLICUE MIDDLE RING LITTLE ON",
    "2-CUP MIDDLE RING LITTLE,2-HINGE/3,2-ANGLE MIDDLE RING LITTLE OUT,6IN,6",
    "2-CIRCLE MIDDLE RING LITTLE BENT,2-CLAW MIDDLE RING LITTLE CONJOINED,7SIDE",
    "2-HOOK MIDDLE RING LITTLE CONJOINED OUT,7IN,7,2-HINGE INDEX HINGED,2-FIST INDEX THUMB SIDE",
    "2-HINGE/3,2-FIST INDEX THUMB SIDE THUMB DIAGONAL,7CONJOINED,7BENT,6INDEX/1,6BOTH/1",
    "6INDEX HINGE,5FORWARD INDEX STRAIGHT,7BENT,5HOOK,5CURLICUE,5CURVE THUMB INSIDE,2-CLAW/5",
    "2-FIST INDEX THUMB CURVE THUMB UNDER,5CIRCLE,2-CUP INDEX THUMB,5OPEN,2-HINGE/3,5LARGE,5",
    "5SMALL,2-ANGLE INDEX THUMB OUT,5IN,5,2-FIST/1,4HEEL,4SIDE DIAGONAL,5CONJOINED,5BENT",
    "4FORWARD,4BETWEEN INDEX MIDDLE,5MIDDLE RING,5RING LITTLE,4UNDER TWO FINGERS,4OVER/2",
    "4UNDER THREE/1,5FOUR/1,4OVER FOUR RAISED KNUCKLES,3,3HEEL,1TOUCH SINGLE,2MULTIPLE,2BETWEEN",
    "1GRASP SINGLE,2MULTIPLE,2BETWEEN,1STRIKE SINGLE,2MULTIPLE,2BETWEEN,1BRUSH SINGLE,2MULTIPLE",
    "2BETWEEN,1RUB SINGLE,2MULTIPLE,2BETWEEN,1SURFACE SYMBOLS,2BETWEEN,1SQUEEZE LARGE SINGLE",
    "2SMALL/1,2LARGE MULTIPLE,2SMALL/1,2SEQUENTIAL,1FLICK LARGE SINGLE,2SMALL/1,2LARGE MULTIPLE",
    "2SMALL/1,2SEQUENTIAL,1SQUEEZE FLICK ALTERNATING,1MOVEMENT-HINGE UP DOWN LARGE,5SMALL",
    "4SEQUENTIAL,3DOWN/1,3UP DOWN ALTERNATING LARGE,6SMALL,3SIDE TO SIDE SCISSORS",
    "2-WALLPLANE FINGER CONTACT,2-FLOORPLANE/2,2-WALLPLANE SINGLE STRAIGHT SMALL,5MEDIUM,5LARGE",
    "5LARGEST,4WRIST FLEX,3DOUBLE STRAIGHT,4WRIST FLEX,4ALTERNATING,5WRIST FLEX,3CROSS",
    "3TRIPLE STRAIGHT MOVEMENT,4WRIST FLEX,4ALTERNATING,5WRIST FLEX,3BEND SMALL,4MEDIUM,4LARGE",
    "3CORNER SMALL,4MEDIUM,4LARGE,4ROTATION,3CHECK SMALL,4MEDIUM,4LARGE,3BOX SMALL,4MEDIUM",
    "4LARGE,3ZIGZAG SMALL,4MEDIUM,4LARGE,3PEAKS SMALL,4MEDIUM,4LARGE",
    "1TRAVEL-WALLPLANE ROTATION-WALLPLANE SINGLE,5DOUBLE,5ALTERNATING,4-FLOORPLANE SINGLE",
    "5DOUBLE,5ALTERNATING,3SHAKING,3ARM SPIRAL SINGLE,5DOUBLE,5TRIPLE",
    "1MOVEMENT-DIAGONAL AWAY SMALL,4MEDIUM,4LARGE,4LARGEST,3TOWARDS SMALL,4MEDIUM,4LARGE",
    "4LARGEST,3BETWEEN AWAY SMALL,5MEDIUM,5LARGE,5LARGEST,4TOWARDS SMALL,5MEDIUM,5LARGE",
    "5LARGEST,2-FLOORPLANE SINGLE STRAIGHT SMALL,5MEDIUM,5LARGE,5LARGEST,4WRIST FLEX",
    "3DOUBLE STRAIGHT,4WRIST FLEX,4ALTERNATING,5WRIST FLEX,3CROSS,3TRIPLE STRAIGHT MOVEMENT",
    "4WRIST FLEX,4ALTERNATING MOVEMENT,5WRIST FLEX,3BEND,3CORNER SMALL,4MEDIUM,4LARGE,3CHECK",
    "3BOX SMALL,4MEDIUM,4LARGE,3ZIGZAG SMALL,4MEDIUM,4LARGE,3PEAKS SMALL,4MEDIUM,4LARGE",
    "1TRAVEL-FLOORPLANE ROTATION-FLOORPLANE SINGLE,5DOUBLE,5ALTERNATING,4-WALLPLANE SINGLE",
    "5DOUBLE,5ALTERNATING,3SHAKING,1MOVEMENT-WALLPLANE CURVE QUARTER SMALL,5MEDIUM,5LARGE",
    "5LARGEST,4HALF-CIRCLE SMALL,6MEDIUM,6LARGE,6LARGEST,4THREE-QUARTER CIRCLE SMALL,7MEDIUM",
    "3HUMP SMALL,4MEDIUM,4LARGE,3LOOP SMALL,4MEDIUM,4LARGE,4SMALL DOUBLE",
    "3WAVE CURVE DOUBLE SMALL,6MEDIUM,6LARGE,5TRIPLE SMALL,6MEDIUM,6LARGE,3CURVE THEN STRAIGHT",
    "3CURVED CROSS SMALL,5MEDIUM,1ROTATION-WALLPLANE SINGLE,3DOUBLE,3ALTERNATE",
    "1MOVEMENT-WALLPLANE SHAKING,3CURVE HITTING FRONT WALL,3HUMP/3,3LOOP/3,3WAVE/3",
    "1ROTATION-WALLPLANE SINGLE/3,3DOUBLE/3,3ALTERNATING/3",
    "1MOVEMENT-WALLPLANE CURVE HITTING CHEST,3HUMP/2,3LOOP/2,3WAVE/2",
    "1ROTATION-WALLPLANE SINGLE/2,3DOUBLE/2,3ALTERNATING/2",
    "1MOVEMENT-WALLPLANE WAVE DIAGONAL PATH SMALL,6MEDIUM,6LARGE",
    "2-FLOORPLANE CURVE HITTING CEILING SMALL,6LARGE,3HUMP HITTING CEILING SMALL DOUBLE",
    "6LARGE/1,6SMALL TRIPLE,6LARGE/1,3LOOP HITTING CEILING SMALL SINGLE,6LARGE/1,6SMALL DOUBLE",
    "6LARGE/1,3WAVE HITTING CEILING SMALL,6LARGE,1ROTATION-FLOORPLANE SINGLE HITTING CEILING",
    "3DOUBLE/2,3ALTERNATING/2,1MOVEMENT-FLOORPLANE CURVE HITTING FLOOR SMALL,6LARGE",
    "3HUMP HITTING FLOOR SMALL DOUBLE,6LARGE/1,6TRIPLE SMALL TRIPLE,7LARGE/1",
    "3LOOP HITTING FLOOR SMALL SINGLE,6LARGE/1,6SMALL DOUBLE,6LARGE/1,3WAVE HITTING FLOOR SMALL",
    "6LARGE,1ROTATION-FLOORPLANE SINGLE HITTING FLOOR,3DOUBLE/2,3ALTERNATING/2",
    "1MOVEMENT-FLOORPLANE CURVE SMALL,4MEDIUM,4LARGE,4LARGEST,4COMBINED,3HUMP SMALL,3LOOP/1",
    "3WAVE SNAKE,4SMALL,4LARGE,1ROTATION-FLOORPLANE SINGLE,3DOUBLE,3ALTERNATING",
    "1MOVEMENT-FLOORPLANE SHAKING PARALLEL,2-WALLPLANE ARM CIRCLE SMALL SINGLE,5MEDIUM/1",
    "5SMALL DOUBLE,5MEDIUM/1,2-FLOORPLANE ARM CIRCLE HITTING WALL SMALL SINGLE,7MEDIUM/1",
    "7LARGE/1,7SMALL DOUBLE,7MEDIUM/1,7LARGE/1,2-WALLPLANE WRIST CIRCLE FRONT SINGLE,6DOUBLE",
    "2-FLOORPLANE WRIST CIRCLE HITTING WALL SINGLE,7DOUBLE,2-WALLPLANE FINGER CIRCLES SINGLE",
    "5DOUBLE,2-FLOORPLANE FINGER CIRCLES HITTING WALL SINGLE,7DOUBLE,1DYNAMIC ARROWHEAD SMALL",
    "3LARGE,2FAST,2SLOW,2TENSE,2RELAXED,2SIMULTANEOUS,3ALTERNATING,2EVERY OTHER TIME,2GRADUAL",
    "1HEAD,2RIM,2MOVEMENT-WALLPLANE STRAIGHT,4TILT,3-FLOORPLANE STRAIGHT,3-WALLPLANE CURVE",
    "3-FLOORPLANE/1,3CIRCLE,1FACE DIRECTION POSITION NOSE FORWARD TILTING,5UP OR DOWN,8TILTING",
    "1EYEBROWS STRAIGHT UP,3NEUTRAL,3DOWN,1DREAMY EYEBROWS NEUTRAL/1,3DOWN NEUTRAL,3UP/1",
    "3NEUTRAL UP,1FOREHEAD NEUTRAL,2CONTACT,2WRINKLED,1EYES OPEN,2SQUEEZED,2CLOSED",
    "1EYE BLINK SINGLE,3MULTIPLE,1EYES HALF OPEN,2WIDE/1,2HALF CLOSED,2WIDENING MOVEMENT",
    "1EYE WINK,1EYELASHES UP,2DOWN,2FLUTTERING,1EYEGAZE-WALLPLANE STRAIGHT,4DOUBLE,4ALTERNATING",
    "2-FLOORPLANE STRAIGHT,4DOUBLE,4ALTERNATING,2-WALLPLANE CURVED,2-FLOORPLANE/1",
    "2-WALLPLANE CIRCLING,1CHEEKS PUFFED,2NEUTRAL,2SUCKED,1TENSE CHEEKS HIGH,3MIDDLE,3LOW,1EARS",
    "1NOSE NEUTRAL,2CONTACT,2WRINKLES,2WIGGLES,1AIR BLOWING OUT,2SUCKING IN",
    "2BLOW SMALL ROTATIONS,2SUCK/2,1BREATH INHALE,2EXHALE,1MOUTH CLOSED NEUTRAL,3FORWARD",
    "3CONTACT,2SMILE,3WRINKLED,3OPEN,2FROWN,3WRINKLED,3OPEN,2OPEN CIRCLE,3FORWARD,3WRINKLED",
    "3OVAL,4WRINKLED,4YAWN,3RECTANGLE,4WRINKLED,4YAWN,2KISS,3FORWARD,3WRINKLED,2TENSE,3FORWARD",
    "3SUCKED,1LIPS PRESSED TOGETHER,1LIP LOWER OVER UPPER,2UPPER OVER LOWER,1MOUTH CORNERS",
    "2WRINKLES SINGLE,3DOUBLE,1TONGUE STICKING OUT FAR,2LICKING LIPS,2TIP BETWEEN/1",
    "3TOUCHING INSIDE MOUTH,2INSIDE MOUTH RELAXED,2MOVES AGAINST CHEEK,2CENTRE STICKING OUT",
    "3INSIDE MOUTH,1TEETH,2MOVEMENT,2ON TONGUE,4MOVEMENT,3LIPS,4MOVEMENT,2BITE LIPS",
    "1MOVEMENT-WALLPLANE JAW,2-FLOORPLANE/1,1NECK,1HAIR,1EXCITEMENT,1SHOULDER HIP SPINE",
    "3POSITIONS,1WALLPLANE SHOULDER HIP MOVE,1FLOORPLANE/3,1SHOULDER TILTING FROM WAIST",
    "1TORSO-WALLPLANE STRAIGHT STRETCH,3CURVED BEND,2-FLOORPLANE TWISTING",
    "1UPPER BODY TILTING FROM HIP JOINTS,1LIMB COMBINATION,2LENGTH-1,3-2,3-3,3-4,3-5,3-6,3-7",
    "1FINGER,1LOCATION-WALLPLANE SPACE,2-FLOORPLANE/1,2HEIGHT,2WIDTH,2DEPTH,2HEAD NECK,2TORSO",
    "2LIMBS DIGITS,1COMMA,1FULL STOP,1SEMICOLON,1COLON,1PARENTHESIS"]⟩,
  ⟨0x1DA9B, ["0SIGNWRITING FILL MODIFIER-2,3-3,3-4,3-5,3-6"]⟩,
  ⟨0x1DAA1, ["0SIGNWRITING ROTATION MODIFIER-2,3-3,3-4,3-5,3-6,3-7,3-8,3-9,3-10,3-11,3-12,3-13",
    "3-14,3-15,3-16"]⟩,
  ⟨0x1DF00, ["0LATIN SMALL LETTER FENG DIGRAPH WITH TRILL,3REVERSED SCRIPT G",
    "1LETTER SMALL CAPITAL TURNED/1,1SMALL LETTER REVERSED K,1LETTER SMALL CAPITAL L WITH BELT",
    "1SMALL LETTER LEZH WITH RETROFLEX HOOK,3TURNED Y WITH BELT,3REVERSED ENG",
    "3TURNED R WITH LONG LEG AND RETROFLEX HOOK,3T WITH HOOK/3,1LETTER RETROFLEX CLICK WITH/2",
    "1SMALL LETTER ESH WITH DOUBLE BAR,7AND CURL,3TURNED T WITH/1",
    "1LETTER INVERTED GLOTTAL STOP/2,2STRETCHED C/2,2SMALL CAPITAL TURNED K",
    "1SMALL LETTER L WITH FISHHOOK,3DEZH DIGRAPH WITH PALATAL HOOK,3L WITH BELT AND/2",
    "3ENG WITH/2,3TURNED R/3,3R WITH FISHHOOK AND/2,3TESH DIGRAPH WITH/2,3EZH/3",
    "3DEZH DIGRAPH WITH RETROFLEX/1,3I WITH STROKE AND/2,3O WITH/2,3TESH DIGRAPH/3,3C/3",
    "3S WITH CURL"]⟩,
  ⟨0x1E000, ["0COMBINING GLAGOLITIC LETTER AZU,3BUKY,3VEDE,3GLAGOLI,3DOBRO,3YESTU,3ZHIVETE"]⟩,
  ⟨0x1E008, ["0COMBINING GLAGOLITIC LETTER ZEMLJA,3IZHE,3INITIAL/1,3I,3DJERVI,3KAKO,3LJUDIJE",
    "3MYSLITE,3NASHI,3ONU,3POKOJI,3RITSI,3SLOVO,3TVRIDO,3UKU,3FRITU,3HERU"]⟩,
  ⟨0x1E01B, ["0COMBINING GLAGOLITIC LETTER SHTA,3TSI,3CHRIVI,3SHA,3YERU,3YERI,3YATI"]⟩,
  ⟨0x1E023, ["0COMBINING GLAGOLITIC LETTER YU,3SMALL YUS"]⟩,
  ⟨0x1E026, ["0COMBINING GLAGOLITIC LETTER YO,3IOTATED SMALL YUS,3BIG/1,3IOTATED/2,3FITA"]⟩,
  ⟨0x1E100, ["0NYIAKENG PUACHUE HMONG LETTER MA,4TSA,4NTA,4TA,4HA,4NA,4XA,4NKA,4CA,4LA,4SA,4ZA",
    "4NCA,4NTSA,4KA,4DA,4NYA,4NRA,4VA,4NTXA,4TXA,4FA,4RA,4QA,4YA,4NQA,4PA,4XYA,4NPA,4DLA,4NPLA",
    "4HAH,4MLA,4PLA,4GA,4RRA,4A,4AA,4I,4U,4O,4OO,4E,4EE,4W"]⟩,
  ⟨0x1E130, ["0NYIAKENG PUACHUE HMONG TONE-B,4-M,4-J,4-V,4-S,4-G,4-D,3SIGN FOR PERSON,5THING",
    "5LOCATION,5ANIMAL,5INVERTEBRATE,4XW XW,3SYLLABLE LENGTHENER"]⟩,
  ⟨0x1E140, ["0NYIAKENG PUACHUE HMONG DIGIT ZERO,4ONE,4TWO,4THREE,4FOUR,4FIVE,4SIX,4SEVEN",
    "4EIGHT,4NINE"]⟩,
  ⟨0x1E14E, ["0NYIAKENG PUACHUE HMONG LOGOGRAM NYAJ,3CIRCLED CA"]⟩,
  ⟨0x1E290, ["0TOTO LETTER PA,2BA,2TA,2DA,2KA,2GA,2MA,2NA,2NGA,2SA,2CHA,2YA,2WA,2JA,2HA,2RA,2LA",
    "2I,2BREATHY/1,2IU,2BREATHY/1,2U,2E,2BREATHY/1,2EO,2BREATHY/1,2O,2AE,2BREATHY/1,2A",
    "1SIGN RISING TONE"]⟩,
  ⟨0x1E2C0, ["0WANCHO LETTER AA,2A,2BA,2CA,2DA,2GA,2YA,2PHA,2LA,2NA,2PA,2TA,2THA,2FA,2SA,2SHA",
    "2JA,2ZA,2WA,2VA,2KA,2O,2AU,2RA,2MA,2KHA,2HA,2E,2I,2NGA,2U,2LLHA,2TSA,2TRA,2ONG,2AANG,2ANG",
    "2ING,2ON,2EN,2AAN,2NYA,2UEN,2YIH,1TONE TUP,2TUPNI,2KOI,2KOINI,1DIGIT ZERO,2ONE,2TWO,2THREE",
    "2FOUR,2FIVE,2SIX,2SEVEN,2EIGHT,2NINE"]⟩,
  ⟨0x1E2FF, ["0WANCHO NGUN SIGN"]⟩,
  ⟨0x1E7E0, ["0ETHIOPIC SYLLABLE HHYA,2HHYU,2HHYI,2HHYAA,2HHYEE,2HHYE,2HHYO"]⟩,
  ⟨0x1E7E8, ["0ETHIOPIC SYLLABLE GURAGE HHWA,2HHWI,2HHWEE,2HHWE"]⟩,
  ⟨0x1E7ED, ["0ETHIOPIC SYLLABLE GURAGE MWI,3MWEE"]⟩,
  ⟨0x1E7F0, ["0ETHIOPIC SYLLABLE GURAGE QWI,3QWEE,3QWE,3BWI,3BWEE,3KWI,3KWEE,3KWE,3GWI,3GWEE",
    "3GWE,3FWI,3FWEE,3PWI,3PWEE"]⟩,
  ⟨0x1E800, ["0MENDE KIKAKUI SYLLABLE M001 KI,3M002 KA,3M003 KU,3M065 KEE,3M095 KE,3M076 KOO",
    "3M048 KO,3M179 KUA,3M004 WI,3M005 WA,3M006 WU,3M126 WEE,3M118 WE,3M114 WOO,3M045 WO",
    "3M194 WUI,3M143 WEI,3M061 WVI,3M049 WVA,3M139 WVE,3M007 MIN,3M008 MAN,3M009 MUN,3M059 MEN",
    "3M094 MON,3M154 MUAN,3M189 MUEN,3M010 BI,3M011 BA,3M012 BU,3M150 BEE,3M097 BE,3M103 BOO",
    "3M138 BO,3M013 I,3M014 A,3M015 U,3M163 EE,3M100 E,3M165 OO,3M147 O,3M137 EI,3M131 IN",
    "3M135/1,3M195 AN,3M178 EN,3M019 SI,3M020 SA,3M021 SU,3M162 SEE,3M116 SE,3M136 SOO,3M079 SO",
    "3M196 SIA,3M025 LI,3M026 LA,3M027 LU,3M084 LEE,3M073 LE,3M054 LOO,3M153 LO,3M110 LONG LE",
    "3M016 DI,3M017 DA,3M018 DU,3M089 DEE,3M180 DOO,3M181 DO,3M022 TI,3M023 TA,3M024 TU",
    "3M091 TEE,3M055 TE,3M104 TOO,3M069 TO,3M028 JI,3M029 JA,3M030 JU,3M157 JEE,3M113 JE",
    "3M160 JOO,3M063 JO,3M175 LONG/1,3M031 YI,3M032 YA,3M033 YU,3M109 YEE,3M080 YE,3M141 YOO",
    "3M121 YO,3M034 FI,3M035 FA,3M036 FU,3M078 FEE,3M075 FE,3M133 FOO,3M088 FO,3M197 FUA",
    "3M101 FAN,3M037 NIN,3M038 NAN,3M039 NUN,3M117 NEN,3M169 NON,3M176 HI,3M041 HA,3M186 HU",
    "3M040 HEE,3M096 HE,3M042 HOO,3M140 HO,3M083 HEEI,3M128 HOOU,3M053 HIN,3M130 HAN,3M087 HUN",
    "3M052 HEN,3M193 HON,3M046 HUAN,3M090 NGGI,3M043 NGGA,3M082 NGGU,3M115 NGGEE,3M146 NGGE",
    "3M156 NGGOO,3M120 NGGO,3M159 NGGAA,3M127 NGGUA,3M086 LONG NGGE,3M106 LONG NGGOO",
    "3M183 LONG NGGO,3M155 GI,3M111 GA,3M168 GU,3M190 GEE,3M166 GUEI,3M167 GUAN,3M184 NGEN",
    "3M057 NGON,3M177 NGUAN,3M068 PI,3M099 PA,3M050 PU,3M081 PEE,3M051 PE,3M102 POO,3M066 PO",
    "3M145 MBI,3M062 MBA,3M122 MBU,3M047 MBEE,3M188/1,3M072 MBE,3M172 MBOO,3M174 MBO,3M187 MBUU",
    "3M161 LONG MBE,3M105 LONG MBOO,3M142 LONG MBO,3M132 KPI,3M092 KPA,3M074 KPU,3M044 KPEE",
    "3M108 KPE,3M112 KPOO,3M158 KPO,3M124 GBI,3M056 GBA,3M148 GBU,3M093 GBEE,3M107 GBE",
    "3M071 GBOO,3M070 GBO,3M171 RA,3M123 NDI,3M129 NDA,3M125 NDU,3M191 NDEE,3M119 NDE",
    "3M067 NDOO,3M064 NDO,3M152 NJA,3M192 NJU,3M149 NJEE,3M134 NJOO,3M182 VI,3M185 VA,3M151 VU",
    "3M173 VEE,3M085 VE,3M144 VOO,3M077 VO,3M164 NYIN,3M058 NYAN,3M170 NYUN,3M098 NYEN",
    "3M060 NYON"]⟩,
  ⟨0x1E8C7, ["0MENDE KIKAKUI DIGIT ONE,3TWO,3THREE,3FOUR,3FIVE,3SIX,3SEVEN,3EIGHT,3NINE",
    "2COMBINING NUMBER TEENS,4TENS,4HUNDREDS,4THOUSANDS,4TEN/1,4HUNDRED/1,4MILLIONS"]⟩,
  ⟨0x1E900, ["0ADLAM CAPITAL LETTER ALIF,3DAALI,3LAAM,3MIIM,3BA,3SINNYIIYHE,3PE,3BHE,3RA,3E,3FA",
    "3I,3O,3DHA,3YHE,3WAW,3NUN,3KAF,3YA,3U,3JIIM,3CHI,3HA,3QAAF,3GA,3NYA,3TU,3NHA,3VA,3KHA,3GBE",
    "3ZAL,3KPO,3SHA,1SMALL LETTER ALIF,3DAALI,3LAAM,3MIIM,3BA,3SINNYIIYHE,3PE,3BHE,3RA,3E,3FA",
    "3I,3O,3DHA,3YHE,3WAW,3NUN,3KAF,3YA,3U,3JIIM,3CHI,3HA,3QAAF,3GA,3NYA,3TU,3NHA,3VA,3KHA,3GBE",
    "3ZAL,3KPO,3SHA,1ALIF LENGTHENER,1VOWEL/1,1GEMINATION MARK,1HAMZA,1CONSONANT MODIFIER",
    "1GEMINATE/2,1NUKTA,1NASALIZATION MARK"]⟩,
  ⟨0x1E950, ["0ADLAM DIGIT ZERO,2ONE,2TWO,2THREE,2FOUR,2FIVE,2SIX,2SEVEN,2EIGHT,2NINE"]⟩,
  ⟨0x1E95E, ["0ADLAM INITIAL EXCLAMATION MARK,2QUESTION/1"]⟩,
  ⟨0x1EC71, ["0INDIC SIYAQ NUMBER ONE,3TWO,3THREE,3FOUR,3FIVE,3SIX,3SEVEN,3EIGHT,3NINE,3TEN",
    "3TWENTY,3THIRTY,3FORTY,3FIFTY,3SIXTY,3SEVENTY,3EIGHTY,3NINETY,3ONE HUNDRED,3TWO/1,3THREE/1",
    "3FOUR/1,3FIVE/1,3SIX/1,3SEVEN/1,3EIGHT/1,3NINE/1,3ONE THOUSAND,3TWO/1,3THREE/1,3FOUR/1",
    "3FIVE/1,3SIX/1,3SEVEN/1,3EIGHT/1,3NINE/1,3TEN/1,3TWENTY/1,3THIRTY/1,3FORTY/1,3FIFTY/1",
    "3SIXTY/1,3SEVENTY/1,3EIGHTY/1,3NINETY/1,3LAKH,3LAKHAN,2LAKH MARK,2NUMBER KAROR,3KARORAN",
    "3PREFIXED ONE,4TWO,4THREE,4FOUR,4FIVE,4SIX,4SEVEN,4EIGHT,4NINE,2PLACEHOLDER",
    "2FRACTION ONE QUARTER,4HALF,3THREE QUARTERS,2RUPEE MARK,2NUMBER ALTERNATE ONE,4TWO",
    "4TEN THOUSAND,2ALTERNATE LAKH MARK"]⟩,
  ⟨0x1ED01, ["0OTTOMAN SIYAQ NUMBER ONE,3TWO,3THREE,3FOUR,3FIVE,3SIX,3SEVEN,3EIGHT,3NINE,3TEN",
    "3TWENTY,3THIRTY,3FORTY,3FIFTY,3SIXTY,3SEVENTY,3EIGHTY,3NINETY,3ONE HUNDRED,3TWO/1,3THREE/1",
    "3FOUR/1,3FIVE/1,3SIX/1,3SEVEN/1,3EIGHT/1,3NINE/1,3ONE THOUSAND,3TWO/1,3THREE/1,3FOUR/1",
    "3FIVE/1,3SIX/1,3SEVEN/1,3EIGHT/1,3NINE/1,3TEN/1,3TWENTY/1,3THIRTY/1,3FORTY/1,3FIFTY/1",
    "3SIXTY/1,3SEVENTY/1,3EIGHTY/1,3NINETY/1,2MARRATAN,2ALTERNATE NUMBER TWO,4THREE,4FOUR,4FIVE",
    "4SIX,4SEVEN,4EIGHT,4NINE,4TEN,4FOUR HUNDRED,4SIX/1,4TWO THOUSAND,4TEN/1,2FRACTION ONE HALF",
    "4SIXTH"]⟩,
  ⟨0x1EE00, ["0ARABIC MATHEMATICAL ALEF,2BEH,2JEEM,2DAL"]⟩,
  ⟨0x1EE05, ["0ARABIC MATHEMATICAL WAW,2ZAIN,2HAH,2TAH,2YEH,2KAF,2LAM,2MEEM,2NOON,2SEEN,2AIN",
    "2FEH,2SAD,2QAF,2REH,2SHEEN,2TEH,2THEH,2KHAH,2THAL,2DAD,2ZAH,2GHAIN,2DOTLESS BEH,3NOON,3FEH",
    "3QAF"]⟩,
  ⟨0x1EE21, ["0ARABIC MATHEMATICAL INITIAL BEH,3JEEM"]⟩,
  ⟨0x1EE24, ["0ARABIC MATHEMATICAL INITIAL HEH"]⟩,
  ⟨0x1EE27, ["0ARABIC MATHEMATICAL INITIAL HAH"]⟩,
  ⟨0x1EE29, ["0ARABIC MATHEMATICAL INITIAL YEH,3KAF,3LAM,3MEEM,3NOON,3SEEN,3AIN,3FEH,3SAD,3QAF"]⟩,
  ⟨0x1EE34, ["0ARABIC MATHEMATICAL INITIAL SHEEN,3TEH,3THEH,3KHAH"]⟩,
  ⟨0x1EE39, ["0ARABIC MATHEMATICAL INITIAL DAD"]⟩,
  ⟨0x1EE3B, ["0ARABIC MATHEMATICAL INITIAL GHAIN"]⟩,
  ⟨0x1EE42, ["0ARABIC MATHEMATICAL TAILED JEEM"]⟩,
  ⟨0x1EE47, ["0ARABIC MATHEMATICAL TAILED HAH"]⟩,
  ⟨0x1EE49, ["0ARABIC MATHEMATICAL TAILED YEH"]⟩,
  ⟨0x1EE4B, ["0ARABIC MATHEMATICAL TAILED LAM"]⟩,
  ⟨0x1EE4D, ["0ARABIC MATHEMATICAL TAILED NOON,3SEEN,3AIN"]⟩,
  ⟨0x1EE51, ["0ARABIC MATHEMATICAL TAILED SAD,3QAF"]⟩,
  ⟨0x1EE54, ["0ARABIC MATHEMATICAL TAILED SHEEN"]⟩,
  ⟨0x1EE57, ["0ARABIC MATHEMATICAL TAILED KHAH"]⟩,
  ⟨0x1EE59, ["0ARABIC MATHEMATICAL TAILED DAD"]⟩,
  ⟨0x1EE5B, ["0ARABIC MATHEMATICAL TAILED GHAIN"]⟩,
  ⟨0x1EE5D, ["0ARABIC MATHEMATICAL TAILED DOTLESS NOON"]⟩,
  ⟨0x1EE5F, ["0ARABIC MATHEMATICAL TAILED DOTLESS QAF"]⟩,
  ⟨0x1EE61, ["0ARABIC MATHEMATICAL STRETCHED BEH,3JEEM"]⟩,
  ⟨0x1EE64, ["0ARABIC MATHEMATICAL STRETCHED HEH"]⟩,
  ⟨0x1EE67, ["0ARABIC MATHEMATICAL STRETCHED HAH,3TAH,3YEH,3KAF"]⟩,
  ⟨0x1EE6C, ["0ARABIC MATHEMATICAL STRETCHED MEEM,3NOON,3SEEN,3AIN,3FEH,3SAD,3QAF"]⟩,
  ⟨0x1EE74, ["0ARABIC MATHEMATICAL STRETCHED SHEEN,3TEH,3THEH,3KHAH"]⟩,
  ⟨0x1EE79, ["0ARABIC MATHEMATICAL STRETCHED DAD,3ZAH,3GHAIN,3DOTLESS BEH"]⟩,
  ⟨0x1EE7E, ["0ARABIC MATHEMATICAL STRETCHED DOTLESS FEH"]⟩,
  ⟨0x1EE80, ["0ARABIC MATHEMATICAL LOOPED ALEF,3BEH,3JEEM,3DAL,3HEH,3WAW,3ZAIN,3HAH,3TAH,3YEH"]⟩,
  ⟨0x1EE8B, ["0ARABIC MATHEMATICAL LOOPED LAM,3MEEM,3NOON,3SEEN,3AIN,3FEH,3SAD,3QAF,3REH,3SHEEN",
    "3TEH,3THEH,3KHAH,3THAL,3DAD,3ZAH,3GHAIN"]⟩,
  ⟨0x1EEA1, ["0ARABIC MATHEMATICAL DOUBLE-STRUCK BEH,4JEEM,4DAL"]⟩,
  ⟨0x1EEA5, ["0ARABIC MATHEMATICAL DOUBLE-STRUCK WAW,4ZAIN,4HAH,4TAH,4YEH"]⟩,
  ⟨0x1EEAB, ["0ARABIC MATHEMATICAL DOUBLE-STRUCK LAM,4MEEM,4NOON,4SEEN,4AIN,4FEH,4SAD,4QAF,4REH",
    "4SHEEN,4TEH,4THEH,4KHAH,4THAL,4DAD,4ZAH,4GHAIN"]⟩,
  ⟨0x1EEF0, ["0ARABIC MATHEMATICAL OPERATOR MEEM WITH HAH WITH TATWEEL,3HAH WITH DAL"]⟩,
  ⟨0x1F000, ["0MAHJONG TILE EAST WIND,2SOUTH/1,2WEST/1,2NORTH/1,2RED DRAGON,2GREEN/1,2WHITE/1",
    "2ONE OF CHARACTERS,2TWO/2,2THREE/2,2FOUR/2,2FIVE/2,2SIX/2,2SEVEN/2,2EIGHT/2,2NINE/2",
    "2ONE OF BAMBOOS,2TWO/2,2THREE/2,2FOUR/2,2FIVE/2,2SIX/2,2SEVEN/2,2EIGHT/2,2NINE/2",
    "2ONE OF CIRCLES,2TWO/2,2THREE/2,2FOUR/2,2FIVE/2,2SIX/2,2SEVEN/2,2EIGHT/2,2NINE/2,2PLUM",
    "2ORCHID,2BAMBOO,2CHRYSANTHEMUM,2SPRING,2SUMMER,2AUTUMN,2WINTER,2JOKER,2BACK"]⟩,
  ⟨0x1F030, ["0DOMINO TILE HORIZONTAL BACK,3-00-00,4-01,4-02,4-03,4-04,4-05,4-06,3-01-00,4-01",
    "4-02,4-03,4-04,4-05,4-06,3-02-00,4-01,4-02,4-03,4-04,4-05,4-06,3-03-00,4-01,4-02,4-03,4-04",
    "4-05,4-06,3-04-00,4-01,4-02,4-03,4-04,4-05,4-06,3-05-00,4-01,4-02,4-03,4-04,4-05,4-06",
    "3-06-00,4-01,4-02,4-03,4-04,4-05,4-06,2VERTICAL BACK,3-00-00,4-01,4-02,4-03,4-04,4-05,4-06",
    "3-01-00,4-01,4-02,4-03,4-04,4-05,4-06,3-02-00,4-01,4-02,4-03,4-04,4-05,4-06,3-03-00,4-01",
    "4-02,4-03,4-04,4-05,4-06,3-04-00,4-01,4-02,4-03,4-04,4-05,4-06,3-05-00,4-01,4-02,4-03,4-04",
    "4-05,4-06,3-06-00,4-01,4-02,4-03,4-04,4-05,4-06"]⟩,
  ⟨0x1F0A0, ["0PLAYING CARD BACK,2ACE OF SPADES,2TWO/2,2THREE/2,2FOUR/2,2FIVE/2,2SIX/2,2SEVEN/2",
    "2EIGHT/2,2NINE/2,2TEN/2,2JACK/2,2KNIGHT/2,2QUEEN/2,2KING/2"]⟩,
  ⟨0x1F0B1, ["0PLAYING CARD ACE OF HEARTS,2TWO/2,2THREE/2,2FOUR/2,2FIVE/2,2SIX/2,2SEVEN/2",
    "2EIGHT/2,2NINE/2,2TEN/2,2JACK/2,2KNIGHT/2,2QUEEN/2,2KING/2,2RED JOKER"]⟩,
  ⟨0x1F0C1, ["0PLAYING CARD ACE OF DIAMONDS,2TWO/2,2THREE/2,2FOUR/2,2FIVE/2,2SIX/2,2SEVEN/2",
    "2EIGHT/2,2NINE/2,2TEN/2,2JACK/2,2KNIGHT/2,2QUEEN/2,2KING/2,2BLACK JOKER"]⟩,
  ⟨0x1F0D1, ["0PLAYING CARD ACE OF CLUBS,2TWO/2,2THREE/2,2FOUR/2,2FIVE/2,2SIX/2,2SEVEN/2",
    "2EIGHT/2,2NINE/2,2TEN/2,2JACK/2,2KNIGHT/2,2QUEEN/2,2KING/2,2WHITE JOKER,2FOOL,2TRUMP-1,3-2",
    "3-3,3-4,3-5,3-6,3-7,3-8,3-9,3-10,3-11,3-12,3-13,3-14,3-15,3-16,3-17,3-18,3-19,3-20,3-21"]⟩,
  ⟨0x1F100, ["0DIGIT ZERO FULL STOP,2COMMA,1ONE/1,1TWO/1,1THREE/1,1FOUR/1,1FIVE/1,1SIX/1",
    "1SEVEN/1,1EIGHT/1,1NINE/1,0DINGBAT CIRCLED SANS-SERIF DIGIT ZERO,1NEGATIVE/5",
    "0CIRCLED ZERO WITH SLASH,1ANTICLOCKWISE ARROW,1DOLLAR SIGN WITH OVERLAID BACKSLASH",
    "0PARENTHESIZED LATIN CAPITAL LETTER A,4B,4C,4D,4E,4F,4G,4H,4I,4J,4K,4L,4M,4N,4O,4P,4Q,4R",
    "4S,4T,4U,4V,4W,4X,4Y,4Z,0TORTOISE SHELL BRACKETED LATIN CAPITAL LETTER S",
    "0CIRCLED ITALIC LATIN CAPITAL LETTER C,5R,1CD,1WZ,0COPYLEFT SYMBOL",
    "0SQUARED LATIN CAPITAL LETTER A,4B,4C,4D,4E,4F,4G,4H,4I,4J,4K,4L,4M,4N,4O,4P,4Q,4R,4S,4T",
    "4U,4V,4W,4X,4Y,4Z,1HV,1MV,1SD,1SS,1PPV,1WC,0NEGATIVE CIRCLED LATIN CAPITAL LETTER A,5B,5C",
    "5D,5E,5F,5G,5H,5I,5J,5K,5L,5M,5N,5O,5P,5Q,5R,5S,5T,5U,5V,5W,5X,5Y,5Z,0RAISED MC SIGN,1MD/1",
    "1MR/1,0CIRCLED CC,1C WITH OVERLAID BACKSLASH,1HUMAN FIGURE",
    "0NEGATIVE SQUARED LATIN CAPITAL LETTER A,5B,5C,5D,5E,5F,5G,5H,5I,5J,5K,5L,5M,5N,5O,5P,5Q",
    "5R,5S,5T,5U,5V,5W,5X,5Y,5Z,0CROSSED NEGATIVE SQUARED LATIN CAPITAL LETTER P",
    "0NEGATIVE SQUARED IC,2PA,2SA,2AB,2WC,0SQUARE DJ,0SQUARED CL,1COOL,1FREE,1ID,1NEW,1NG,1OK",
    "1SOS,1UP WITH EXCLAMATION MARK,1VS,1THREE D,1SECOND SCREEN,1TWO K,1FOUR/1,1EIGHT/1",
    "1FIVE POINT ONE,1SEVEN/2,1TWENTY-TWO POINT TWO,1SIXTY P,1ONE HUNDRED TWENTY/1",
    "1LATIN SMALL LETTER D,1HC,1HDR,1HI-RES,1LOSSLESS,1SHV,1UHD,1VOD,0MASK WORK SYMBOL"]⟩,
  ⟨0x1F1E6, ["0REGIONAL INDICATOR SYMBOL LETTER A,4B,4C,4D,4E,4F,4G,4H,4I,4J,4K,4L,4M,4N,4O,4P",
    "4Q,4R,4S,4T,4U,4V,4W,4X,4Y,4Z,0SQUARE HIRAGANA HOKA,0SQUARED KATAKANA KOKO,2SA"]⟩,
  ⟨0x1F210, ["0SQUARED CJK UNIFIED IDEOGRAPH-624B,4-5B57,4-53CC,1KATAKANA DE",
    "1CJK UNIFIED IDEOGRAPH-4E8C,4-591A,4-89E3,4-5929,4-4EA4,4-6620,4-7121,4-6599,4-524D,4-5F8C",
    "4-518D,4-65B0,4-521D,4-7D42,4-751F,4-8CA9,4-58F0,4-5439,4-6F14,4-6295,4-6355,4-4E00,4-4E09",
    "4-904A,4-5DE6,4-4E2D,4-53F3,4-6307,4-8D70,4-6253,4-7981,4-7A7A,4-5408,4-6E80,4-6709,4-6708",
    "4-7533,4-5272,4-55B6,4-914D"]⟩,
  ⟨0x1F240, ["0TORTOISE SHELL BRACKETED CJK UNIFIED IDEOGRAPH-672C,6-4E09,6-4E8C,6-5B89,6-70B9",
    "6-6253,6-76D7,6-52DD,6-6557"]⟩,
  ⟨0x1F250, ["0CIRCLED IDEOGRAPH ADVANTAGE,2ACCEPT"]⟩,
  ⟨0x1F260, ["0ROUNDED SYMBOL FOR FU,3LU,3SHOU,3XI,3SHUANGXI,3CAI"]⟩,
  ⟨0x1F300, ["0CYCLONE,0FOGGY,0CLOSED UMBRELLA,0NIGHT WITH STARS,0SUNRISE OVER MOUNTAINS,1",
    "0CITYSCAPE AT DUSK,0SUNSET OVER BUILDINGS,0RAINBOW,0BRIDGE AT NIGHT,0WATER WAVE,0VOLCANO",
    "0MILKY WAY,0EARTH GLOBE EUROPE-AFRICA,2AMERICAS,2ASIA-AUSTRALIA,0GLOBE WITH MERIDIANS",
    "0NEW MOON SYMBOL,0WAXING CRESCENT/2,0FIRST QUARTER/2,0WAXING GIBBOUS/2,0FULL/2",
    "0WANING GIBBOUS/2,0LAST QUARTER/2,0WANING CRESCENT/2,0CRESCENT MOON,0NEW MOON WITH FACE",
    "0FIRST QUARTER/3,0LAST/4,0FULL/3,0SUN/2,0GLOWING STAR,0SHOOTING/1,0THERMOMETER",
    "0BLACK DROPLET,0WHITE SUN,2WITH SMALL CLOUD,2BEHIND/1,4WITH RAIN,0CLOUD/2,2SNOW,2LIGHTNING",
    "2TORNADO,0FOG,0WIND BLOWING FACE,0HOT DOG,0TACO,0BURRITO,0CHESTNUT,0SEEDLING",
    "0EVERGREEN TREE,0DECIDUOUS/1,0PALM/1,0CACTUS,0HOT PEPPER,0TULIP,0CHERRY BLOSSOM,0ROSE",
    "0HIBISCUS,0SUNFLOWER,0BLOSSOM,0EAR OF MAIZE,2RICE,0HERB,0FOUR LEAF CLOVER,0MAPLE LEAF",
    "0FALLEN/1,0LEAF FLUTTERING IN WIND,0MUSHROOM,0TOMATO,0AUBERGINE,0GRAPES,0MELON,0WATERMELON",
    "0TANGERINE,0LEMON,0BANANA,0PINEAPPLE,0RED APPLE,0GREEN/1,0PEAR,0PEACH,0CHERRIES",
    "0STRAWBERRY,0HAMBURGER,0SLICE OF PIZZA,0MEAT ON BONE,0POULTRY LEG,0RICE CRACKER,1BALL",
    "0COOKED RICE,0CURRY AND/1,0STEAMING BOWL,0SPAGHETTI,0BREAD,0FRENCH FRIES",
    "0ROASTED SWEET POTATO,0DANGO,0ODEN,0SUSHI,0FRIED SHRIMP,0FISH CAKE WITH SWIRL DESIGN",
    "0SOFT ICE CREAM,0SHAVED ICE,0ICE CREAM,0DOUGHNUT,0COOKIE,0CHOCOLATE BAR,0CANDY,0LOLLIPOP",
    "0CUSTARD,0HONEY POT,0SHORTCAKE,0BENTO BOX,0POT OF FOOD,0COOKING,0FORK AND KNIFE",
    "0TEACUP WITHOUT HANDLE,0SAKE BOTTLE AND CUP,0WINE GLASS,0COCKTAIL/1,0TROPICAL DRINK",
    "0BEER MUG,0CLINKING BEER MUGS,0BABY BOTTLE,0FORK AND KNIFE WITH PLATE",
    "0BOTTLE WITH POPPING CORK,0POPCORN,0RIBBON,0WRAPPED PRESENT,0BIRTHDAY CAKE,0JACK-O-LANTERN",
    "0CHRISTMAS TREE,0FATHER CHRISTMAS,0FIREWORKS,0FIREWORK SPARKLER,0BALLOON,0PARTY POPPER",
    "0CONFETTI BALL,0TANABATA TREE,0CROSSED FLAGS,0PINE DECORATION,0JAPANESE DOLLS",
    "0CARP STREAMER,0WIND CHIME,0MOON VIEWING CEREMONY,0SCHOOL SATCHEL,0GRADUATION CAP",
    "0HEART WITH TIP ON THE LEFT,0BOUQUET OF FLOWERS,0MILITARY MEDAL,0REMINDER RIBBON",
    "0MUSICAL KEYBOARD WITH JACKS,0STUDIO MICROPHONE,0LEVEL SLIDER,0CONTROL KNOBS",
    "0BEAMED ASCENDING MUSICAL NOTES,1DESCENDING/2,0FILM FRAMES,0ADMISSION TICKETS",
    "0CAROUSEL HORSE,0FERRIS WHEEL,0ROLLER COASTER,0FISHING POLE AND FISH,0MICROPHONE",
    "0MOVIE CAMERA,0CINEMA,0HEADPHONE,0ARTIST PALETTE,0TOP HAT,0CIRCUS TENT,0TICKET",
    "0CLAPPER BOARD,0PERFORMING ARTS,0VIDEO GAME,0DIRECT HIT,0SLOT MACHINE,0BILLIARDS,0GAME DIE",
    "0BOWLING,0FLOWER PLAYING CARDS,0MUSICAL NOTE,0MULTIPLE MUSICAL NOTES,0SAXOPHONE,0GUITAR",
    "0MUSICAL KEYBOARD,0TRUMPET,0VIOLIN,0MUSICAL SCORE,0RUNNING SHIRT WITH SASH",
    "0TENNIS RACQUET AND BALL,0SKI AND SKI BOOT,0BASKETBALL AND HOOP,0CHEQUERED FLAG",
    "0SNOWBOARDER,0RUNNER,0SURFER,0SPORTS MEDAL,0TROPHY,0HORSE RACING,0AMERICAN FOOTBALL",
    "0RUGBY/1,0SWIMMER,0WEIGHT LIFTER,0GOLFER,0RACING MOTORCYCLE,1CAR,0CRICKET BAT AND BALL",
    "0VOLLEYBALL,0FIELD HOCKEY STICK AND BALL,0ICE HOCKEY STICK AND PUCK",
    "0TABLE TENNIS PADDLE AND BALL,0SNOW CAPPED MOUNTAIN,0CAMPING,0BEACH WITH UMBRELLA",
    "0BUILDING CONSTRUCTION,0HOUSE BUILDINGS,0CITYSCAPE,0DERELICT HOUSE BUILDING,0CLASSICAL/1",
    "0DESERT,1ISLAND,0NATIONAL PARK,0STADIUM,0HOUSE BUILDING,1WITH GARDEN,0OFFICE BUILDING",
    "0JAPANESE POST OFFICE,0EUROPEAN/2,0HOSPITAL,0BANK,0AUTOMATED TELLER MACHINE,0HOTEL",
    "0LOVE HOTEL,0CONVENIENCE STORE,0SCHOOL,0DEPARTMENT STORE,0FACTORY,0IZAKAYA LANTERN",
    "0JAPANESE CASTLE,0EUROPEAN/1,0WHITE PENNANT,0BLACK/1,0WAVING WHITE FLAG,1BLACK/1,0ROSETTE",
    "0BLACK ROSETTE,0LABEL,0BADMINTON RACQUET AND SHUTTLECOCK,0BOW AND ARROW,0AMPHORA",
    "0EMOJI MODIFIER FITZPATRICK TYPE-1-2,4-3,4-4,4-5,4-6,0RAT,0MOUSE,0OX,0WATER BUFFALO,0COW",
    "0TIGER,0LEOPARD,0RABBIT,0CAT,0DRAGON,0CROCODILE,0WHALE,0SNAIL,0SNAKE,0HORSE,0RAM,0GOAT",
    "0SHEEP,0MONKEY,0ROOSTER,0CHICKEN,0DOG,0PIG,0BOAR,0ELEPHANT,0OCTOPUS,0SPIRAL SHELL,0BUG",
    "0ANT,0HONEYBEE,0LADY BEETLE,0FISH,0TROPICAL FISH,0BLOWFISH,0TURTLE,0HATCHING CHICK,0BABY/1",
    "0FRONT-FACING BABY/1,0BIRD,0PENGUIN,0KOALA,0POODLE,0DROMEDARY CAMEL,0BACTRIAN/1,0DOLPHIN",
    "0MOUSE FACE,0COW/1,0TIGER/1,0RABBIT/1,0CAT/1,0DRAGON/1,0SPOUTING WHALE,0HORSE FACE",
    "0MONKEY/1,0DOG/1,0PIG/1,0FROG/1,0HAMSTER/1,0WOLF/1,0BEAR/1,0PANDA/1,0PIG NOSE,0PAW PRINTS",
    "0CHIPMUNK,0EYES,0EYE,0EAR,0NOSE,0MOUTH,0TONGUE,0WHITE UP POINTING BACKHAND INDEX,1DOWN/3",
    "1LEFT/3,1RIGHT/3,0FISTED HAND SIGN,0WAVING/2,0OK/2,0THUMBS UP/1,1DOWN/1,0CLAPPING HANDS/1",
    "0OPEN/2,0CROWN,0WOMANS HAT,0EYEGLASSES,0NECKTIE,0T-SHIRT,0JEANS,0DRESS,0KIMONO,0BIKINI",
    "0WOMANS CLOTHES,0PURSE,0HANDBAG,0POUCH,0MANS SHOE,0ATHLETIC/1,0HIGH-HEELED/1",
    "0WOMANS SANDAL,1BOOTS,0FOOTPRINTS,0BUST IN SILHOUETTE,0BUSTS/2,0BOY,0GIRL,0MAN,0WOMAN",
    "0FAMILY,0MAN AND WOMAN HOLDING HANDS,0TWO MEN/2,1WOMEN/2,0POLICE OFFICER",
    "0WOMAN WITH BUNNY EARS,0BRIDE WITH VEIL,0PERSON WITH BLOND HAIR,0MAN WITH GUA PI MAO",
    "2TURBAN,0OLDER MAN,1WOMAN,0BABY,0CONSTRUCTION WORKER,0PRINCESS,0JAPANESE OGRE,1GOBLIN",
    "0GHOST,0BABY ANGEL,0EXTRATERRESTRIAL ALIEN,0ALIEN MONSTER,0IMP,0SKULL",
    "0INFORMATION DESK PERSON,0GUARDSMAN,0DANCER,0LIPSTICK,0NAIL POLISH,0FACE MASSAGE,0HAIRCUT",
    "0BARBER POLE,0SYRINGE,0PILL,0KISS MARK,0LOVE LETTER,0RING,0GEM STONE,0KISS,0BOUQUET",
    "0COUPLE WITH HEART,0WEDDING,0BEATING HEART,0BROKEN/1,0TWO HEARTS,0SPARKLING HEART",
    "0GROWING/1,0HEART WITH ARROW,0BLUE HEART,0GREEN/1,0YELLOW/1,0PURPLE/1,0HEART WITH RIBBON",
    "0REVOLVING HEARTS,0HEART DECORATION,0DIAMOND SHAPE WITH A DOT INSIDE,0ELECTRIC LIGHT BULB",
    "0ANGER SYMBOL,0BOMB,0SLEEPING SYMBOL,0COLLISION/1,0SPLASHING SWEAT/1,0DROPLET,0DASH SYMBOL",
    "0PILE OF POO,0FLEXED BICEPS,0DIZZY SYMBOL,0SPEECH BALLOON,0THOUGHT/1,0WHITE FLOWER",
    "0HUNDRED POINTS SYMBOL,0MONEY BAG,0CURRENCY EXCHANGE,0HEAVY DOLLAR SIGN,0CREDIT CARD",
    "0BANKNOTE WITH YEN SIGN,2DOLLAR/1,2EURO/1,2POUND/1,0MONEY WITH WINGS",
    "0CHART WITH UPWARDS TREND AND YEN SIGN,0SEAT,0PERSONAL COMPUTER,0BRIEFCASE,0MINIDISC",
    "0FLOPPY DISK,0OPTICAL DISC,0DVD,0FILE FOLDER,0OPEN FILE/1,0PAGE WITH CURL,1FACING UP",
    "0CALENDAR,0TEAR-OFF CALENDAR,0CARD INDEX,0CHART WITH UPWARDS TREND,2DOWNWARDS/1,0BAR CHART",
    "0CLIPBOARD,0PUSHPIN,0ROUND PUSHPIN,0PAPERCLIP,0STRAIGHT RULER,0TRIANGULAR/1,0BOOKMARK TABS",
    "0LEDGER,0NOTEBOOK,1WITH DECORATIVE COVER,0CLOSED BOOK,0OPEN/1,0GREEN/1,0BLUE/1,0ORANGE/1",
    "0BOOKS,0NAME BADGE,0SCROLL,0MEMO,0TELEPHONE RECEIVER,0PAGER,0FAX MACHINE",
    "0SATELLITE ANTENNA,0PUBLIC ADDRESS LOUDSPEAKER,0CHEERING MEGAPHONE,0OUTBOX TRAY,0INBOX/1",
    "0PACKAGE,0E-MAIL SYMBOL,0INCOMING ENVELOPE,0ENVELOPE WITH DOWNWARDS ARROW ABOVE",
    "0CLOSED MAILBOX WITH LOWERED FLAG,3RAISED/1,0OPEN/4,3LOWERED/1,0POSTBOX,0POSTAL HORN",
    "0NEWSPAPER,0MOBILE PHONE,2WITH RIGHTWARDS ARROW AT LEFT,0VIBRATION MODE,0MOBILE PHONE OFF",
    "0NO MOBILE PHONES,0ANTENNA WITH BARS,0CAMERA,1WITH FLASH,0VIDEO CAMERA,0TELEVISION,0RADIO",
    "0VIDEOCASSETTE,0FILM PROJECTOR,0PORTABLE STEREO,0PRAYER BEADS,0TWISTED RIGHTWARDS ARROWS",
    "0CLOCKWISE RIGHTWARDS AND LEFTWARDS OPEN CIRCLE/1,7WITH CIRCLED ONE OVERLAY",
    "1DOWNWARDS AND UPWARDS OPEN CIRCLE ARROWS,0ANTICLOCKWISE/6,0LOW BRIGHTNESS SYMBOL,0HIGH/2",
    "0SPEAKER WITH CANCELLATION STROKE,1,1WITH ONE SOUND WAVE,2THREE SOUND WAVES,0BATTERY",
    "0ELECTRIC PLUG,0LEFT-POINTING MAGNIFYING GLASS,0RIGHT/3,0LOCK WITH INK PEN",
    "0CLOSED LOCK WITH KEY,0KEY,0LOCK,0OPEN LOCK,0BELL,1WITH CANCELLATION STROKE,0BOOKMARK",
    "0LINK SYMBOL,0RADIO BUTTON,0BACK WITH LEFTWARDS ARROW ABOVE,0END/4",
    "0ON WITH EXCLAMATION MARK WITH LEFT RIGHT/2,0SOON WITH RIGHTWARDS/2,0TOP WITH UPWARDS/2",
    "0NO ONE UNDER EIGHTEEN SYMBOL,0KEYCAP TEN,0INPUT SYMBOL FOR LATIN CAPITAL LETTERS,4SMALL/1",
    "3NUMBERS,3SYMBOLS,3LATIN LETTERS,0FIRE,0ELECTRIC TORCH,0WRENCH,0HAMMER,0NUT AND BOLT",
    "0HOCHO,0PISTOL,0MICROSCOPE,0TELESCOPE,0CRYSTAL BALL,0SIX POINTED STAR WITH MIDDLE DOT",
    "0JAPANESE SYMBOL FOR BEGINNER,0TRIDENT EMBLEM,0BLACK SQUARE BUTTON,0WHITE/2",
    "0LARGE RED CIRCLE,1BLUE/1,1ORANGE DIAMOND,1BLUE/1,0SMALL ORANGE/1,1BLUE/1",
    "0UP-POINTING RED TRIANGLE,0DOWN/3,0UP-POINTING SMALL/2,0DOWN/4",
    "0LOWER RIGHT SHADOWED WHITE CIRCLE,0UPPER/4,0CIRCLED CROSS POMMEE",
    "0CROSS POMMEE WITH HALF-CIRCLE BELOW,2,0NOTCHED LEFT SEMICIRCLE WITH THREE DOTS,1RIGHT/4",
    "0SYMBOL FOR MARKS CHAPTER,0WHITE LATIN CROSS,0HEAVY/2,0CELTIC/1,0OM SYMBOL,0DOVE OF PEACE",
    "0KAABA,0MOSQUE,0SYNAGOGUE,0MENORAH WITH NINE BRANCHES,0BOWL OF HYGIEIA",
    "0CLOCK FACE ONE OCLOCK,2TWO/1,2THREE/1,2FOUR/1,2FIVE/1,2SIX/1,2SEVEN/1,2EIGHT/1,2NINE/1",
    "2TEN/1,2ELEVEN/1,2TWELVE/1,2ONE-THIRTY,2TWO/1,2THREE/1,2FOUR/1,2FIVE/1,2SIX/1,2SEVEN/1",
    "2EIGHT/1,2NINE/1,2TEN/1,2ELEVEN/1,2TWELVE/1,0RIGHT SPEAKER,2WITH ONE SOUND WAVE",
    "3THREE SOUND WAVES,0BULLHORN,1WITH SOUND WAVES,0RINGING BELL,0BOOK,0CANDLE",
    "0MANTELPIECE CLOCK,0BLACK SKULL AND CROSSBONES,0NO PIRACY,0HOLE",
    "0MAN IN BUSINESS SUIT LEVITATING,0SLEUTH OR SPY,0DARK SUNGLASSES,0SPIDER,1WEB,0JOYSTICK",
    "0MAN DANCING,0LEFT HAND TELEPHONE RECEIVER,0TELEPHONE RECEIVER WITH PAGE",
    "0RIGHT HAND TELEPHONE RECEIVER,0WHITE TOUCHTONE TELEPHONE,0BLACK/2",
    "0TELEPHONE ON TOP OF MODEM,0CLAMSHELL MOBILE PHONE,0BACK OF ENVELOPE,0STAMPED/1",
    "0ENVELOPE WITH LIGHTNING,0FLYING ENVELOPE,0PEN OVER STAMPED/1,0LINKED PAPERCLIPS",
    "0BLACK PUSHPIN,0LOWER LEFT PENCIL,2BALLPOINT PEN,2FOUNTAIN/1,2PAINTBRUSH,2CRAYON",
    "0LEFT WRITING HAND,0TURNED OK HAND SIGN,0RAISED HAND WITH FINGERS SPLAYED",
    "0REVERSED RAISED/4,1THUMBS UP SIGN,2DOWN/1,1VICTORY HAND,1HAND WITH MIDDLE FINGER EXTENDED",
    "0RAISED HAND WITH PART BETWEEN MIDDLE AND RING FINGERS",
    "0WHITE DOWN POINTING LEFT HAND INDEX,0SIDEWAYS WHITE LEFT POINTING/1,2RIGHT/2",
    "1BLACK LEFT/2,2RIGHT/2,0BLACK LEFT POINTING BACKHAND/1,1RIGHT/3",
    "0SIDEWAYS WHITE UP POINTING/1,2DOWN/2,1BLACK UP/2,2DOWN/2,0BLACK UP POINTING BACKHAND/1",
    "1DOWN/3,1HEART,0DESKTOP COMPUTER,0KEYBOARD AND MOUSE,0THREE NETWORKED COMPUTERS,0PRINTER",
    "0POCKET CALCULATOR,0BLACK HARD SHELL FLOPPY DISK,0WHITE/4,0SOFT/3,0TAPE CARTRIDGE",
    "0WIRED KEYBOARD,0ONE BUTTON MOUSE,0TWO/2,0THREE/2,0TRACKBALL,0OLD PERSONAL COMPUTER",
    "0HARD DISK,0SCREEN,0PRINTER ICON,0FAX/1,0OPTICAL DISC/1,0DOCUMENT WITH TEXT,3AND PICTURE",
    "2/1,0FRAME/2,2TILES,2AN X,0BLACK FOLDER,0FOLDER,0OPEN FOLDER,0CARD INDEX DIVIDERS",
    "1FILE BOX,0FILE CABINET,0EMPTY NOTE,2PAGE,2PAD,0NOTE,1PAGE,1PAD,0EMPTY DOCUMENT,1PAGE",
    "1PAGES,0DOCUMENT,0PAGE,0PAGES,0WASTEBASKET,0SPIRAL NOTE PAD,1CALENDAR/1,0DESKTOP WINDOW",
    "0MINIMIZE,0MAXIMIZE,0OVERLAP,0CLOCKWISE RIGHT AND LEFT SEMICIRCLE ARROWS,0CANCELLATION X",
    "0INCREASE FONT SIZE SYMBOL,0DECREASE/3,0COMPRESSION,0OLD KEY,0ROLLED-UP NEWSPAPER",
    "0PAGE WITH CIRCLED TEXT,0STOCK CHART,0DAGGER KNIFE,0LIPS,0SPEAKING HEAD IN SILHOUETTE",
    "0THREE RAYS ABOVE,2BELOW,2LEFT,2RIGHT,0LEFT SPEECH BUBBLE,0RIGHT/2,0TWO SPEECH BUBBLES",
    "0THREE/2,0LEFT THOUGHT BUBBLE,0RIGHT/2,0LEFT ANGER/1,0RIGHT/2,0MOOD/1,0LIGHTNING MOOD/1,2",
    "0BALLOT BOX WITH BALLOT,1SCRIPT X,1BOX WITH/2,1BOLD/2,1BOX WITH/3,0LIGHT CHECK MARK",
    "0BALLOT BOX WITH BOLD CHECK,0WORLD MAP,0MOUNT FUJI,0TOKYO TOWER,0STATUE OF LIBERTY",
    "0SILHOUETTE OF JAPAN,0MOYAI,0GRINNING FACE,2WITH SMILING EYES,0FACE WITH TEARS OF JOY",
    "0SMILING FACE WITH OPEN MOUTH,5AND SMILING EYES,6COLD SWEAT,6TIGHTLY-CLOSED EYES,3HALO",
    "3HORNS,0WINKING FACE,0SMILING FACE WITH SMILING EYES,0FACE SAVOURING DELICIOUS FOOD",
    "0RELIEVED FACE,0SMILING FACE WITH HEART-SHAPED EYES,3SUNGLASSES,0SMIRKING FACE,0NEUTRAL/1",
    "0EXPRESSIONLESS/1,0UNAMUSED/1,0FACE WITH COLD SWEAT,0PENSIVE FACE,0CONFUSED/1",
    "0CONFOUNDED/1,0KISSING/1,0FACE THROWING A KISS,0KISSING FACE WITH SMILING EYES,3CLOSED/1",
    "0FACE WITH STUCK-OUT TONGUE,5AND WINKING EYE,6TIGHTLY-CLOSED EYES,0DISAPPOINTED FACE",
    "0WORRIED/1,0ANGRY/1,0POUTING/1,0CRYING/1,0PERSEVERING/1,0FACE WITH LOOK OF TRIUMPH",
    "0DISAPPOINTED BUT RELIEVED FACE,0FROWNING FACE WITH OPEN MOUTH,0ANGUISHED FACE,0FEARFUL/1",
    "0WEARY/1,0SLEEPY/1,0TIRED/1,0GRIMACING/1,0LOUDLY CRYING/1,0FACE WITH OPEN MOUTH",
    "0HUSHED FACE,0FACE WITH OPEN MOUTH AND COLD SWEAT,1SCREAMING IN FEAR,0ASTONISHED FACE",
    "0FLUSHED/1,0SLEEPING/1,0DIZZY/1,0FACE WITHOUT MOUTH,1WITH MEDICAL MASK",
    "0GRINNING CAT FACE WITH SMILING EYES,0CAT FACE WITH TEARS OF JOY",
    "0SMILING CAT FACE WITH OPEN MOUTH,4HEART-SHAPED EYES,0CAT FACE WITH WRY SMILE",
    "0KISSING CAT FACE WITH CLOSED EYES,0POUTING CAT FACE,0CRYING/2,0WEARY/2",
    "0SLIGHTLY FROWNING/1,1SMILING/1,0UPSIDE-DOWN/1,0FACE WITH ROLLING EYES,2NO GOOD GESTURE",
    "2OK/1,0PERSON BOWING DEEPLY,0SEE-NO-EVIL MONKEY,0HEAR/3,0SPEAK/3",
    "0HAPPY PERSON RAISING ONE HAND,0PERSON RAISING BOTH HANDS IN CELEBRATION,1FROWNING",
    "1WITH POUTING FACE,2FOLDED HANDS,0NORTH WEST POINTING LEAF,0SOUTH/3,0NORTH EAST/2,0SOUTH/3",
    "0TURNED NORTH WEST/2,1SOUTH/3,1NORTH EAST/2,1SOUTH/3,0NORTH WEST POINTING VINE/1,0SOUTH/4",
    "0NORTH EAST/3,0SOUTH/4,0HEAVY NORTH WEST/3,1SOUTH/4,1NORTH EAST/3,1SOUTH/4",
    "0NORTH WEST POINTING BUD,0SOUTH/3,0NORTH EAST/2,0SOUTH/3,0HEAVY NORTH WEST/2,1SOUTH/3",
    "1NORTH EAST/2,1SOUTH/3,0HOLLOW QUILT SQUARE ORNAMENT,4IN BLACK SQUARE",
    "0SOLID QUILT SQUARE ORNAMENT,4IN BLACK SQUARE,0LEFTWARDS ROCKET,0UPWARDS/1,0RIGHTWARDS/1",
    "0DOWNWARDS/1,0SCRIPT LIGATURE ET ORNAMENT,0HEAVY SCRIPT/3,0LIGATURE OPEN/2",
    "0HEAVY LIGATURE/3,1AMPERSAND/1,0SWASH/2",
    "0SANS-SERIF HEAVY DOUBLE TURNED COMMA QUOTATION MARK/1,4/4,3LOW/5,0HEAVY INTERROBANG/1",
    "0SANS-SERIF/2,0HEAVY SANS/3,0VERY HEAVY SOLIDUS,2REVERSE/1,0CHECKER BOARD",
    "0REVERSE CHECKER/1,0ROCKET,0HELICOPTER,0STEAM LOCOMOTIVE,0RAILWAY CAR,0HIGH-SPEED TRAIN",
    "3WITH BULLET NOSE,0TRAIN,0METRO,0LIGHT RAIL,0STATION,0TRAM,1CAR,0BUS,0ONCOMING BUS",
    "0TROLLEYBUS,0BUS STOP,0MINIBUS,0AMBULANCE,0FIRE ENGINE,0POLICE CAR,0ONCOMING POLICE/1",
    "0TAXI,0ONCOMING TAXI,0AUTOMOBILE,0ONCOMING AUTOMOBILE,0RECREATIONAL VEHICLE",
    "0DELIVERY TRUCK,0ARTICULATED LORRY,0TRACTOR,0MONORAIL,0MOUNTAIN RAILWAY,0SUSPENSION/1",
    "0MOUNTAIN CABLEWAY,0AERIAL TRAMWAY,0SHIP,0ROWBOAT,0SPEEDBOAT,0HORIZONTAL TRAFFIC LIGHT",
    "0VERTICAL/2,0CONSTRUCTION SIGN,0POLICE CARS REVOLVING LIGHT,0TRIANGULAR FLAG ON POST,0DOOR",
    "0NO ENTRY SIGN,0SMOKING SYMBOL,0NO SMOKING/1,0PUT LITTER IN ITS PLACE/1,0DO NOT LITTER/1",
    "0POTABLE WATER/1,0NON-POTABLE/2,0BICYCLE,0NO BICYCLES,0BICYCLIST,0MOUNTAIN BICYCLIST",
    "0PEDESTRIAN,0NO PEDESTRIANS,0CHILDREN CROSSING,0MENS SYMBOL,0WOMENS/1,0RESTROOM",
    "0BABY SYMBOL,0TOILET,0WATER CLOSET,0SHOWER,0BATH,0BATHTUB,0PASSPORT CONTROL,0CUSTOMS",
    "0BAGGAGE CLAIM,0LEFT LUGGAGE,0TRIANGLE WITH ROUNDED CORNERS,0PROHIBITED SIGN",
    "0CIRCLED INFORMATION SOURCE,0BOYS SYMBOL,0GIRLS/1,0COUCH AND LAMP,0SLEEPING ACCOMMODATION",
    "0SHOPPING BAGS,0BELLHOP BELL,0BED,0PLACE OF WORSHIP,0OCTAGONAL SIGN,0SHOPPING TROLLEY",
    "0STUPA,0PAGODA,0HINDU TEMPLE,0HUT,0ELEVATOR"]⟩,
  ⟨0x1F6DD, ["0PLAYGROUND SLIDE,0WHEEL,0RING BUOY,0HAMMER AND WRENCH,0SHIELD,0OIL DRUM",
    "0MOTORWAY,0RAILWAY TRACK,0MOTOR BOAT,0UP-POINTING MILITARY AIRPLANE,2/1,2SMALL/1,0SMALL/1",
    "0NORTHEAST-POINTING/1,0AIRPLANE DEPARTURE,1ARRIVING"]⟩,
  ⟨0x1F6F0, ["0SATELLITE,0ONCOMING FIRE ENGINE,0DIESEL LOCOMOTIVE,0PASSENGER SHIP,0SCOOTER",
    "0MOTOR SCOOTER,0CANOE,0SLED,0FLYING SAUCER,0SKATEBOARD,0AUTO RICKSHAW,0PICKUP TRUCK",
    "0ROLLER SKATE"]⟩,
  ⟨0x1F700, ["0ALCHEMICAL SYMBOL FOR QUINTESSENCE,3AIR,3FIRE,3EARTH,3WATER,3AQUAFORTIS",
    "3AQUA REGIA,5-2,4VITAE,5-2,3VINEGAR,4-2,4-3,3SULFUR,3PHILOSOPHERS/1,3BLACK/1",
    "3MERCURY SUBLIMATE,5-2,5-3,3CINNABAR,3SALT,3NITRE,3VITRIOL,4-2,3ROCK SALT,5-2,3GOLD",
    "3SILVER,3IRON ORE,5-2,3CROCUS OF IRON,3REGULUS/2,3COPPER ORE,3IRON-COPPER/1",
    "3SUBLIMATE OF COPPER,3CROCUS/2,6-2,3COPPER ANTIMONIATE,3SALT OF/2",
    "3SUBLIMATE OF SALT OF COPPER,3VERDIGRIS,3TIN ORE,3LEAD/1,3ANTIMONY/1",
    "3SUBLIMATE OF ANTIMONY,3SALT/2,3SUBLIMATE OF/3,3VINEGAR/2,3REGULUS/2,6-2,4,4-2,4-3,4-4",
    "3ALKALI,4-2,3MARCASITE,3SAL-AMMONIAC,3ARSENIC,3REALGAR,4-2,3AURIPIGMENT,3BISMUTH ORE",
    "3TARTAR,4-2,3QUICK LIME,3BORAX,4-2,4-3,3ALUM,3OIL,3SPIRIT,3TINCTURE,3GUM,3WAX,3POWDER",
    "3CALX,3TUTTY,3CAPUT MORTUUM,3SCEPTER OF JOVE,3CADUCEUS,3TRIDENT,3STARRED/1,3LODESTONE",
    "3SOAP,3URINE,3HORSE DUNG,3ASHES,3POT/1,3BRICK,3POWDERED/1,3AMALGAM,3STRATUM SUPER STRATUM",
    "6-2,3SUBLIMATION,3PRECIPITATE,3DISTILL,3DISSOLVE,4-2,3PURIFY,3PUTREFACTION,3CRUCIBLE,4-2",
    "4-3,4-4,4-5,3ALEMBIC,3BATH OF MARY,5VAPOURS,3RETORT,3HOUR,3NIGHT,3DAY-NIGHT,3MONTH",
    "3HALF DRAM,4OUNCE"]⟩,
  ⟨0x1F780, ["0BLACK LEFT-POINTING ISOSCELES RIGHT TRIANGLE,1UP/4,1RIGHT/4,1DOWN/4",
    "1SLIGHTLY SMALL CIRCLE,0MEDIUM BOLD WHITE/1,0BOLD/2,0HEAVY/2,0VERY HEAVY/2,0EXTREMELY/3",
    "0WHITE CIRCLE CONTAINING BLACK SMALL/1,0ROUND TARGET,0BLACK TINY SQUARE,1SLIGHTLY SMALL/1",
    "0LIGHT WHITE/1,0MEDIUM/2,0BOLD/2,0HEAVY/2,0VERY HEAVY/2,0EXTREMELY/3",
    "0WHITE SQUARE CONTAINING BLACK VERY SMALL/1,4MEDIUM/1,0SQUARE TARGET,0BLACK TINY DIAMOND",
    "1VERY SMALL/1,1MEDIUM/2,0WHITE DIAMOND CONTAINING BLACK VERY/2,4MEDIUM/1,0DIAMOND TARGET",
    "0BLACK TINY LOZENGE,1VERY SMALL/1,1MEDIUM/2,0WHITE LOZENGE CONTAINING BLACK/2",
    "0THIN GREEK CROSS,0LIGHT/2,0MEDIUM/2,0BOLD/2,0VERY BOLD/2,1HEAVY/2,0EXTREMELY/3",
    "0THIN SALTIRE,0LIGHT/1,0MEDIUM/1,0BOLD/1,0HEAVY/1,0VERY HEAVY/1,0EXTREMELY/2",
    "0LIGHT FIVE SPOKED ASTERISK,0MEDIUM/3,0BOLD/3,0HEAVY/3,0VERY HEAVY/3,0EXTREMELY/4",
    "0LIGHT SIX/2,0MEDIUM/3,0BOLD/3,0HEAVY/3,0VERY HEAVY/3,0EXTREMELY/4,0LIGHT EIGHT/2",
    "0MEDIUM/3,0BOLD/3,0HEAVY/3,0VERY HEAVY/3,0LIGHT THREE POINTED BLACK STAR,0MEDIUM/4",
    "0THREE/3,0MEDIUM THREE POINTED PINWHEEL/1,0LIGHT FOUR POINTED BLACK/1,0MEDIUM/4,0FOUR/3",
    "0MEDIUM FOUR POINTED PINWHEEL/1,0REVERSE LIGHT/4,0LIGHT FIVE POINTED BLACK/1,0HEAVY/4",
    "0MEDIUM SIX/3,0HEAVY/4,0SIX POINTED PINWHEEL/1,0MEDIUM EIGHT POINTED BLACK/1,0HEAVY/4",
    "0VERY HEAVY/4,0HEAVY EIGHT POINTED PINWHEEL/1,0LIGHT TWELVE POINTED BLACK/1,0HEAVY/4",
    "3PINWHEEL/1,0CIRCLED TRIANGLE,0NEGATIVE CIRCLED/1,0CIRCLED SQUARE,0NEGATIVE CIRCLED/1"]⟩,
  ⟨0x1F7E0, ["0LARGE ORANGE CIRCLE,1YELLOW/1,1GREEN/1,1PURPLE/1,1BROWN/1,1RED SQUARE,1BLUE/1",
    "1ORANGE/1,1YELLOW/1,1GREEN/1,1PURPLE/1,1BROWN/1"]⟩,
  ⟨0x1F7F0, ["0HEAVY EQUALS SIGN"]⟩,
  ⟨0x1F800, ["0LEFTWARDS ARROW WITH SMALL TRIANGLE ARROWHEAD,0UPWARDS/5,0RIGHTWARDS/5",
    "0DOWNWARDS/5,0LEFTWARDS ARROW WITH MEDIUM/2,0UPWARDS/5,0RIGHTWARDS/5,0DOWNWARDS/5",
    "0LEFTWARDS ARROW WITH LARGE/2,0UPWARDS/5,0RIGHTWARDS/5,0DOWNWARDS/5"]⟩,
  ⟨0x1F810, ["0LEFTWARDS ARROW WITH SMALL EQUILATERAL ARROWHEAD,0UPWARDS/5,0RIGHTWARDS/5",
    "0DOWNWARDS/5,0LEFTWARDS ARROW WITH/2,0UPWARDS/4,0RIGHTWARDS/4,0DOWNWARDS/4",
    "0HEAVY LEFTWARDS/4,1UPWARDS/4,1RIGHTWARDS/4,1DOWNWARDS/4,1LEFTWARDS ARROW WITH LARGE/2",
    "1UPWARDS/5,1RIGHTWARDS/5,1DOWNWARDS/5,0LEFTWARDS TRIANGLE-HEADED ARROW WITH NARROW SHAFT",
    "0UPWARDS/6,0RIGHTWARDS/6,0DOWNWARDS/6,0LEFTWARDS TRIANGLE-HEADED ARROW WITH MEDIUM/1",
    "0UPWARDS/6,0RIGHTWARDS/6,0DOWNWARDS/6,0LEFTWARDS TRIANGLE-HEADED ARROW WITH BOLD/1",
    "0UPWARDS/6,0RIGHTWARDS/6,0DOWNWARDS/6,0LEFTWARDS TRIANGLE-HEADED ARROW WITH HEAVY/1",
    "0UPWARDS/6,0RIGHTWARDS/6,0DOWNWARDS/6,0LEFTWARDS TRIANGLE-HEADED ARROW WITH VERY/2",
    "0UPWARDS/7,0RIGHTWARDS/7,0DOWNWARDS/7,0LEFTWARDS FINGER-POST ARROW,0UPWARDS/3",
    "0RIGHTWARDS/3,0DOWNWARDS/3,0LEFTWARDS SQUARED/1,0UPWARDS/2,0RIGHTWARDS/2,0DOWNWARDS/2",
    "0LEFTWARDS COMPRESSED/1,0UPWARDS/2,0RIGHTWARDS/2,0DOWNWARDS/2,0LEFTWARDS HEAVY/2",
    "0UPWARDS/3,0RIGHTWARDS/3,0DOWNWARDS/3,0LEFTWARDS HEAVY/1,0UPWARDS/2,0RIGHTWARDS/2",
    "0DOWNWARDS/2"]⟩,
  ⟨0x1F850, ["0LEFTWARDS SANS-SERIF ARROW,0UPWARDS/3,0RIGHTWARDS/3,0DOWNWARDS/3,0NORTH WEST/3",
    "1EAST/3,0SOUTH/4,1WEST/3,0LEFT RIGHT/3,0UP DOWN/3"]⟩,
  ⟨0x1F860, ["0WIDE-HEADED LEFTWARDS LIGHT BARB ARROW,2UPWARDS/3,2RIGHTWARDS/3,2DOWNWARDS/3",
    "2NORTH WEST/3,3EAST/3,2SOUTH/4,3WEST/3,2LEFTWARDS/2,2UPWARDS/2,2RIGHTWARDS/2,2DOWNWARDS/2",
    "2NORTH WEST/2,3EAST/2,2SOUTH/3,3WEST/2,2LEFTWARDS MEDIUM/2,2UPWARDS/3,2RIGHTWARDS/3",
    "2DOWNWARDS/3,2NORTH WEST/3,3EAST/3,2SOUTH/4,3WEST/3,2LEFTWARDS HEAVY/2,2UPWARDS/3",
    "2RIGHTWARDS/3,2DOWNWARDS/3,2NORTH WEST/3,3EAST/3,2SOUTH/4,3WEST/3,2LEFTWARDS VERY/3",
    "2UPWARDS/4,2RIGHTWARDS/4,2DOWNWARDS/4,2NORTH WEST/4,3EAST/4,2SOUTH/5,3WEST/4"]⟩,
  ⟨0x1F890, ["0LEFTWARDS TRIANGLE ARROWHEAD,0UPWARDS/2,0RIGHTWARDS/2,0DOWNWARDS/2",
    "0LEFTWARDS WHITE ARROW WITHIN/2,0UPWARDS/5,0RIGHTWARDS/5,0DOWNWARDS/5",
    "0LEFTWARDS ARROW WITH NOTCHED TAIL,0UPWARDS/4,0RIGHTWARDS/4,0DOWNWARDS/4",
    "0HEAVY ARROW SHAFT WIDTH ONE,4TWO THIRDS,4ONE HALF,5THIRD",
    "0LEFTWARDS BOTTOM-SHADED WHITE ARROW,0RIGHTWARDS BOTTOM SHADED/2,0LEFTWARDS TOP/3",
    "0RIGHTWARDS/4,0LEFTWARDS LEFT-SHADED/2,0RIGHTWARDS RIGHT/3,0LEFTWARDS/4,0RIGHTWARDS LEFT/3",
    "0LEFTWARDS BACK-TILTED SHADOWED/2,0RIGHTWARDS/5,0LEFTWARDS FRONT/4,0RIGHTWARDS/5",
    "0WHITE ARROW SHAFT WIDTH ONE,4TWO THIRDS"]⟩,
  ⟨0x1F8B0, ["0ARROW POINTING UPWARDS THEN NORTH WEST,2RIGHTWARDS THEN CURVING SOUTH/1"]⟩,
  ⟨0x1F900, ["0CIRCLED CROSS FORMEE WITH FOUR DOTS,4TWO/1,3,0LEFT HALF CIRCLE WITH FOUR DOTS",
    "4THREE/1,4TWO/1,4DOT,3,0DOWNWARD FACING HOOK,2NOTCHED/1,2HOOK WITH DOT,2NOTCHED/3",
    "0PINCHED FINGERS,0WHITE HEART,0BROWN/1,0PINCHING HAND,0ZIPPER-MOUTH FACE,0MONEY/2",
    "0FACE WITH THERMOMETER,0NERD FACE,0THINKING/1,0FACE WITH HEAD-BANDAGE,0ROBOT FACE",
    "0HUGGING/1,0SIGN OF THE HORNS,0CALL ME HAND,0RAISED BACK OF/1,0LEFT-FACING FIST,0RIGHT/2",
    "0HANDSHAKE,0HAND WITH INDEX AND MIDDLE FINGERS CROSSED,0I LOVE YOU HAND SIGN",
    "0FACE WITH COWBOY HAT,0CLOWN FACE,0NAUSEATED/1,0ROLLING ON THE FLOOR LAUGHING",
    "0DROOLING FACE,0LYING/1,0FACE PALM,0SNEEZING FACE,0FACE WITH ONE EYEBROW RAISED",
    "0GRINNING FACE WITH STAR EYES,3ONE LARGE AND ONE SMALL EYE",
    "0FACE WITH FINGER COVERING CLOSED LIPS,0SERIOUS FACE WITH SYMBOLS COVERING MOUTH",
    "0SMILING FACE WITH SMILING EYES AND HAND/2,0FACE WITH OPEN MOUTH VOMITING",
    "0SHOCKED FACE WITH EXPLODING HEAD,0PREGNANT WOMAN,0BREAST-FEEDING,0PALMS UP TOGETHER",
    "0SELFIE,0PRINCE,0MAN IN TUXEDO,0MOTHER CHRISTMAS,0SHRUG,0PERSON DOING CARTWHEEL,0JUGGLING",
    "0FENCER,0MODERN PENTATHLON,0WRESTLERS,0WATER POLO,0HANDBALL,0DIVING MASK,0WILTED FLOWER",
    "0DRUM WITH DRUMSTICKS,0CLINKING GLASSES,0TUMBLER GLASS,0SPOON,0GOAL NET,0RIFLE",
    "0FIRST PLACE MEDAL,0SECOND/2,0THIRD/2,0BOXING GLOVE,0MARTIAL ARTS UNIFORM,0CURLING STONE",
    "0LACROSSE STICK AND BALL,0SOFTBALL,0FLYING DISC,0CROISSANT,0AVOCADO,0CUCUMBER,0BACON",
    "0POTATO,0CARROT,0BAGUETTE BREAD,0GREEN SALAD,0SHALLOW PAN OF FOOD,0STUFFED FLATBREAD,0EGG",
    "0GLASS OF MILK,0PEANUTS,0KIWIFRUIT,0PANCAKES,0DUMPLING,0FORTUNE COOKIE,0TAKEOUT BOX",
    "0CHOPSTICKS,0BOWL WITH SPOON,0CUP WITH STRAW,0COCONUT,0BROCCOLI,0PIE,0PRETZEL,0CUT OF MEAT",
    "0SANDWICH,0CANNED FOOD,0LEAFY GREEN,0MANGO,0MOON CAKE,0BAGEL",
    "0SMILING FACE WITH SMILING EYES AND THREE HEARTS,0YAWNING FACE,0SMILING FACE WITH TEAR",
    "0FACE WITH PARTY HORN AND PARTY HAT,2UNEVEN EYES AND WAVY MOUTH,0OVERHEATED FACE",
    "0FREEZING/1,0NINJA,0DISGUISED FACE,0FACE HOLDING BACK TEARS,1WITH PLEADING EYES,0SARI",
    "0LAB COAT,0GOGGLES,0HIKING BOOT,0FLAT SHOE,0CRAB,0LION FACE,0SCORPION,0TURKEY",
    "0UNICORN FACE,0EAGLE,0DUCK,0BAT,0SHARK,0OWL,0FOX FACE,0BUTTERFLY,0DEER,0GORILLA,0LIZARD",
    "0RHINOCEROS,0SHRIMP,0SQUID,0GIRAFFE FACE,0ZEBRA/1,0HEDGEHOG,0SAUROPOD,0T-REX,0CRICKET",
    "0KANGAROO,0LLAMA,0PEACOCK,0HIPPOPOTAMUS,0PARROT,0RACCOON,0LOBSTER,0MOSQUITO,0MICROBE",
    "0BADGER,0SWAN,0MAMMOTH,0DODO,0SLOTH,0OTTER,0ORANGUTAN,0SKUNK,0FLAMINGO,0OYSTER,0BEAVER",
    "0BISON,0SEAL,0GUIDE DOG,0PROBING CANE,0EMOJI COMPONENT RED HAIR,2CURLY/1,2BALD,2WHITE HAIR",
    "0BONE,0LEG,0FOOT,0TOOTH,0SUPERHERO,0SUPERVILLAIN,0SAFETY VEST,0EAR WITH HEARING AID",
    "0MOTORIZED WHEELCHAIR,0MANUAL/1,0MECHANICAL ARM,1LEG,0CHEESE WEDGE,0CUPCAKE,0SALT SHAKER",
    "0BEVERAGE BOX,0GARLIC,0ONION,0FALAFEL,0WAFFLE,0BUTTER,0MATE DRINK,0ICE CUBE,0BUBBLE TEA",
    "0TROLL,0STANDING PERSON,0KNEELING/1,0DEAF/1,0FACE WITH MONOCLE,0ADULT,0CHILD,0OLDER ADULT",
    "0BEARDED PERSON,0PERSON WITH HEADSCARF,1IN STEAMY ROOM,1CLIMBING,1IN LOTUS POSITION,0MAGE",
    "0FAIRY,0VAMPIRE,0MERPERSON,0ELF,0GENIE,0ZOMBIE,0BRAIN,0ORANGE HEART,0BILLED CAP,0SCARF",
    "0GLOVES,0COAT,0SOCKS,0RED GIFT ENVELOPE,0FIRECRACKER,0JIGSAW PUZZLE PIECE,0TEST TUBE",
    "0PETRI DISH,0DNA DOUBLE HELIX,0COMPASS,0ABACUS,0FIRE EXTINGUISHER,0TOOLBOX,0BRICK,0MAGNET",
    "0LUGGAGE,0LOTION BOTTLE,0SPOOL OF THREAD,0BALL OF YARN,0SAFETY PIN,0TEDDY BEAR,0BROOM",
    "0BASKET,0ROLL OF PAPER,0BAR OF SOAP,0SPONGE,0RECEIPT,0NAZAR AMULET,0NEUTRAL CHESS KING",
    "2QUEEN,2ROOK,2BISHOP,2KNIGHT,2PAWN,0WHITE CHESS KNIGHT ROTATED FORTY-FIVE DEGREES,0BLACK/6",
    "0NEUTRAL/6,0WHITE CHESS KING ROTATED NINETY/1,2QUEEN/3,2ROOK/3,2BISHOP/3,2KNIGHT/3,2PAWN/3",
    "0BLACK CHESS KING/3,2QUEEN/3,2ROOK/3,2BISHOP/3,2KNIGHT/3,2PAWN/3,0NEUTRAL CHESS KING/3",
    "2QUEEN/3,2ROOK/3,2BISHOP/3,2KNIGHT/3,2PAWN/3",
    "0WHITE CHESS KNIGHT ROTATED ONE HUNDRED THIRTY-FIVE/1,0BLACK/8,0NEUTRAL/8",
    "0WHITE CHESS TURNED KING,3QUEEN,3ROOK,3BISHOP,3KNIGHT,3PAWN,0BLACK CHESS TURNED KING",
    "3QUEEN,3ROOK,3BISHOP,3KNIGHT,3PAWN,0NEUTRAL CHESS TURNED KING,3QUEEN,3ROOK,3BISHOP,3KNIGHT",
    "3PAWN,0WHITE CHESS KNIGHT ROTATED TWO HUNDRED TWENTY-FIVE DEGREES,0BLACK/8,0NEUTRAL/8",
    "0WHITE CHESS KING ROTATED TWO HUNDRED SEVENTY/1,2QUEEN/5,2ROOK/5,2BISHOP/5,2KNIGHT/5",
    "2PAWN/5,0BLACK CHESS KING/5,2QUEEN/5,2ROOK/5,2BISHOP/5,2KNIGHT/5,2PAWN/5",
    "0NEUTRAL CHESS KING/5,2QUEEN/5,2ROOK/5,2BISHOP/5,2KNIGHT/5,2PAWN/5",
    "0WHITE CHESS KNIGHT ROTATED THREE HUNDRED FIFTEEN/1,0BLACK/7,0NEUTRAL/7",
    "0WHITE CHESS EQUIHOPPER,0BLACK/2,0NEUTRAL/2,0WHITE CHESS EQUIHOPPER ROTATED NINETY DEGREES",
    "0BLACK/5,0NEUTRAL/5,0WHITE CHESS KNIGHT-QUEEN,3-ROOK,3-BISHOP,0BLACK CHESS KNIGHT-QUEEN",
    "3-ROOK,3-BISHOP"]⟩,
  ⟨0x1FA60, ["0XIANGQI RED GENERAL,2MANDARIN,2ELEPHANT,2HORSE,2CHARIOT,2CANNON,2SOLDIER",
    "1BLACK GENERAL,2MANDARIN,2ELEPHANT,2HORSE,2CHARIOT,2CANNON,2SOLDIER"]⟩,
  ⟨0x1FA70, ["0BALLET SHOES,0ONE-PIECE SWIMSUIT,0BRIEFS,0SHORTS,0THONG SANDAL"]⟩,
  ⟨0x1FA78, ["0DROP OF BLOOD,0ADHESIVE BANDAGE,0STETHOSCOPE,0X-RAY,0CRUTCH"]⟩,
  ⟨0x1FA80, ["0YO-YO,0KITE,0PARACHUTE,0BOOMERANG,0MAGIC WAND,0PINATA,0NESTING DOLLS"]⟩,
  ⟨0x1FA90, ["0RINGED PLANET,0CHAIR,0RAZOR,0AXE,0DIYA LAMP,0BANJO,0MILITARY HELMET,0ACCORDION",
    "0LONG DRUM,0COIN,0CARPENTRY SAW,0SCREWDRIVER,0LADDER,0HOOK,0MIRROR,0WINDOW,0PLUNGER",
    "0SEWING NEEDLE,0KNOT,0BUCKET,0MOUSE TRAP,0TOOTHBRUSH,0HEADSTONE,0PLACARD,0ROCK",
    "0MIRROR BALL,0IDENTIFICATION CARD,0LOW BATTERY,0HAMSA"]⟩,
  ⟨0x1FAB0, ["0FLY,0WORM,0BEETLE,0COCKROACH,0POTTED PLANT,0WOOD,0FEATHER,0LOTUS,0CORAL",
    "0EMPTY NEST,0NEST WITH EGGS"]⟩,
  ⟨0x1FAC0, ["0ANATOMICAL HEART,0LUNGS,0PEOPLE HUGGING,0PREGNANT MAN,1PERSON,0PERSON WITH CROWN"]⟩,
  ⟨0x1FAD0, ["0BLUEBERRIES,0BELL PEPPER,0OLIVE,0FLATBREAD,0TAMALE,0FONDUE,0TEAPOT",
    "0POURING LIQUID,0BEANS,0JAR"]⟩,
  ⟨0x1FAE0, ["0MELTING FACE,0SALUTING/1,0FACE WITH OPEN EYES AND HAND OVER MOUTH,2PEEKING EYE",
    "2DIAGONAL MOUTH,0DOTTED LINE FACE,0BITING LIP,0BUBBLES"]⟩,
  ⟨0x1FAF0, ["0HAND WITH INDEX FINGER AND THUMB CROSSED,0RIGHTWARDS HAND,0LEFTWARDS/1",
    "0PALM DOWN/1,1UP/1,0INDEX POINTING AT THE VIEWER,0HEART HANDS"]⟩,
  ⟨0x1FB00, ["0BLOCK SEXTANT-1,2-2,2-12,2-3,2-13,2-23,2-123,2-4,2-14,2-24,2-124,2-34,2-134",
    "2-234,2-1234,2-5,2-15,2-25,2-125,2-35,2-235,2-1235,2-45,2-145,2-245,2-1245,2-345,2-1345",
    "2-2345,2-12345,2-6,2-16,2-26,2-126,2-36,2-136,2-236,2-1236,2-46,2-146,2-1246,2-346,2-1346",
    "2-2346,2-12346,2-56,2-156,2-256,2-1256,2-356,2-1356,2-2356,2-12356,2-456,2-1456,2-2456",
    "2-12456,2-3456,2-13456,2-23456",
    "0LOWER LEFT BLOCK DIAGONAL LOWER MIDDLE LEFT TO LOWER CENTRE,9RIGHT",
    "4UPPER MIDDLE LEFT TO LOWER CENTRE,9RIGHT,5LEFT TO LOWER CENTRE",
    "1RIGHT BLOCK DIAGONAL UPPER MIDDLE LEFT TO UPPER/1,9RIGHT",
    "4LOWER MIDDLE LEFT TO UPPER CENTRE,9RIGHT,5LEFT TO UPPER CENTRE",
    "5MIDDLE LEFT TO UPPER MIDDLE RIGHT,5CENTRE TO LOWER/2,5LEFT/4,5CENTRE TO UPPER/2,5LEFT/4",
    "5CENTRE TO UPPER/1,1LEFT BLOCK DIAGONAL UPPER CENTRE TO UPPER MIDDLE/1,5LEFT/4",
    "5CENTRE TO LOWER/2,5LEFT/4,5CENTRE TO LOWER/1,5MIDDLE LEFT TO LOWER MIDDLE/1",
    "0UPPER RIGHT BLOCK DIAGONAL LOWER MIDDLE LEFT TO LOWER CENTRE,9RIGHT",
    "4UPPER MIDDLE LEFT TO LOWER CENTRE,9RIGHT,5LEFT TO LOWER CENTRE",
    "1LEFT BLOCK DIAGONAL UPPER MIDDLE LEFT TO UPPER/1,9RIGHT",
    "4LOWER MIDDLE LEFT TO UPPER CENTRE,9RIGHT,5LEFT TO UPPER CENTRE",
    "5MIDDLE LEFT TO UPPER MIDDLE RIGHT,5CENTRE TO LOWER/2,5LEFT/4,5CENTRE TO UPPER/2,5LEFT/4",
    "5CENTRE TO UPPER/1,1RIGHT BLOCK DIAGONAL UPPER CENTRE TO UPPER MIDDLE/1,5LEFT/4",
    "5CENTRE TO LOWER/2,5LEFT/4,5CENTRE TO LOWER/1,5MIDDLE LEFT TO LOWER MIDDLE/1",
    "1AND RIGHT AND LOWER TRIANGULAR THREE QUARTERS BLOCK,0LEFT AND LOWER AND RIGHT/4",
    "0UPPER AND LEFT AND LOWER/4,0LEFT AND UPPER AND RIGHT/4,1TRIANGULAR ONE QUARTER/1,0UPPER/4",
    "0RIGHT/4,0LOWER/4,0VERTICAL ONE EIGHTH BLOCK-2,4-3,4-4,4-5,4-6,4-7",
    "0HORIZONTAL ONE EIGHTH BLOCK-2,4-3,4-4,4-5,4-6,4-7,0LEFT AND LOWER ONE EIGHTH BLOCK",
    "2UPPER/3,0RIGHT/5,2LOWER/3,0UPPER/5,0HORIZONTAL ONE EIGHTH BLOCK-1358",
    "0UPPER ONE QUARTER BLOCK,1THREE EIGHTHS/1,1FIVE/2,1THREE QUARTERS/1,1SEVEN EIGHTHS/1",
    "0RIGHT ONE QUARTER/1,1THREE EIGHTHS/1,1FIVE/2,1THREE QUARTERS/1,1SEVEN EIGHTHS/1",
    "0LEFT HALF MEDIUM SHADE,0RIGHT/3,0UPPER/3,0LOWER/3,0INVERSE/2",
    "0UPPER HALF BLOCK AND LOWER HALF INVERSE/2,2INVERSE MEDIUM SHADE AND LOWER HALF BLOCK"]⟩,
  ⟨0x1FB94, ["0LEFT HALF INVERSE MEDIUM SHADE AND RIGHT HALF BLOCK,0CHECKER BOARD FILL",
    "0INVERSE CHECKER/2,0HEAVY HORIZONTAL/1,0UPPER LEFT TO LOWER RIGHT/1,1RIGHT TO LOWER LEFT/1",
    "1AND LOWER TRIANGULAR HALF BLOCK,0LEFT AND RIGHT/3,0UPPER LEFT TRIANGULAR MEDIUM SHADE",
    "1RIGHT/3,0LOWER/4,1LEFT/3,0BOX DRAWINGS LIGHT DIAGONAL UPPER CENTRE TO MIDDLE LEFT,8RIGHT",
    "4MIDDLE LEFT TO LOWER CENTRE,5RIGHT/3,4UPPER CENTRE TO MIDDLE LEFT/3,8RIGHT/3",
    "4MIDDLE LEFT TO LOWER CENTRE TO MIDDLE RIGHT,7UPPER/4",
    "4UPPER CENTRE TO MIDDLE LEFT AND MIDDLE RIGHT TO LOWER CENTRE,8RIGHT AND MIDDLE LEFT/3",
    "9TO LOWER CENTRE TO MIDDLE LEFT,8LEFT TO LOWER CENTRE TO MIDDLE RIGHT",
    "4MIDDLE LEFT TO UPPER CENTRE TO MIDDLE RIGHT TO LOWER CENTRE",
    "5RIGHT TO UPPER CENTRE TO MIDDLE LEFT/3,4DIAMOND,3HORIZONTAL WITH VERTICAL STROKE",
    "0ARROWHEAD-SHAPED POINTER,0INVERSE CHECK MARK,0LEFT HALF RUNNING MAN,0RIGHT/3",
    "0INVERSE DOWNWARDS ARROW WITH TIP LEFTWARDS",
    "0LEFTWARDS ARROW AND UPPER AND LOWER ONE EIGHTH BLOCK,0RIGHTWARDS/8",
    "0DOWNWARDS ARROW AND RIGHT/3,0UPWARDS/6,0LEFT HALF FOLDER,0RIGHT/2,0VOIDED GREEK CROSS",
    "0RIGHT OPEN SQUARED DOT,0NEGATIVE DIAGONAL CROSS,2MIDDLE RIGHT TO LOWER CENTRE,2DIAMOND",
    "0WHITE HEAVY SALTIRE WITH ROUNDED CORNERS,0LEFT THIRD WHITE RIGHT POINTING INDEX,0MIDDLE/5",
    "0RIGHT/5,0NEGATIVE SQUARED QUESTION MARK,0STICK FIGURE,2WITH ARMS RAISED,2LEANING LEFT",
    "3RIGHT,2WITH DRESS,0WHITE UP-POINTING CHEVRON"]⟩,
  ⟨0x1FBF0, ["0SEGMENTED DIGIT ZERO,2ONE,2TWO,2THREE,2FOUR,2FIVE,2SIX,2SEVEN,2EIGHT,2NINE"]⟩,
  ⟨0xE0001, ["0LANGUAGE TAG"]⟩,
  ⟨0xE0020, ["0TAG SPACE,1EXCLAMATION MARK,1QUOTATION/1,1NUMBER SIGN,1DOLLAR/1,1PERCENT/1",
    "1AMPERSAND,1APOSTROPHE,1LEFT PARENTHESIS,1RIGHT/1,1ASTERISK,1PLUS SIGN,1COMMA",
    "1HYPHEN-MINUS,1FULL STOP,1SOLIDUS,1DIGIT ZERO,2ONE,2TWO,2THREE,2FOUR,2FIVE,2SIX,2SEVEN",
    "2EIGHT,2NINE,1COLON,1SEMICOLON,1LESS-THAN SIGN,1EQUALS/1,1GREATER-THAN/1,1QUESTION MARK",
    "1COMMERCIAL AT,1LATIN CAPITAL LETTER A,4B,4C,4D,4E,4F,4G,4H,4I,4J,4K,4L,4M,4N,4O,4P,4Q,4R",
    "4S,4T,4U,4V,4W,4X,4Y,4Z,1LEFT SQUARE BRACKET,1REVERSE SOLIDUS,1RIGHT SQUARE BRACKET",
    "1CIRCUMFLEX ACCENT,1LOW LINE,1GRAVE ACCENT,1LATIN SMALL LETTER A,4B,4C,4D,4E,4F,4G,4H,4I",
    "4J,4K,4L,4M,4N,4O,4P,4Q,4R,4S,4T,4U,4V,4W,4X,4Y,4Z,1LEFT CURLY BRACKET,1VERTICAL LINE",
    "1RIGHT CURLY BRACKET,1TILDE,0CANCEL TAG"]⟩,
  ⟨0xE0100, ["0VARIATION SELECTOR-17,2-18,2-19,2-20,2-21,2-22,2-23,2-24,2-25,2-26,2-27,2-28",
    "2-29,2-30,2-31,2-32,2-33,2-34,2-35,2-36,2-37,2-38,2-39,2-40,2-41,2-42,2-43,2-44,2-45,2-46",
    "2-47,2-48,2-49,2-50,2-51,2-52,2-53,2-54,2-55,2-56,2-57,2-58,2-59,2-60,2-61,2-62,2-63,2-64",
    "2-65,2-66,2-67,2-68,2-69,2-70,2-71,2-72,2-73,2-74,2-75,2-76,2-77,2-78,2-79,2-80,2-81,2-82",
    "2-83,2-84,2-85,2-86,2-87,2-88,2-89,2-90,2-91,2-92,2-93,2-94,2-95,2-96,2-97,2-98,2-99,2-100",
    "2-101,2-102,2-103,2-104,2-105,2-106,2-107,2-108,2-109,2-110,2-111,2-112,2-113,2-114,2-115",
    "2-116,2-117,2-118,2-119,2-120,2-121,2-122,2-123,2-124,2-125,2-126,2-127,2-128,2-129,2-130",
    "2-131,2-132,2-133,2-134,2-135,2-136,2-137,2-138,2-139,2-140,2-141,2-142,2-143,2-144,2-145",
    "2-146,2-147,2-148,2-149,2-150,2-151,2-152,2-153,2-154,2-155,2-156,2-157,2-158,2-159,2-160",
    "2-161,2-162,2-163,2-164,2-165,2-166,2-167,2-168,2-169,2-170,2-171,2-172,2-173,2-174,2-175",
    "2-176,2-177,2-178,2-179,2-180,2-181,2-182,2-183,2-184,2-185,2-186,2-187,2-188,2-189,2-190",
    "2-191,2-192,2-193,2-194,2-195,2-196,2-197,2-198,2-199,2-200,2-201,2-202,2-203,2-204,2-205",
    "2-206,2-207,2-208,2-209,2-210,2-211,2-212,2-213,2-214,2-215,2-216,2-217,2-218,2-219,2-220",
    "2-221,2-222,2-223,2-224,2-225,2-226,2-227,2-228,2-229,2-230,2-231,2-232,2-233,2-234,2-235",
    "2-236,2-237,2-238,2-239,2-240,2-241,2-242,2-243,2-244,2-245,2-246,2-247,2-248,2-249,2-250",
    "2-251,2-252,2-253,2-254,2-255,2-256"]⟩]

end MediaDepot.Text
