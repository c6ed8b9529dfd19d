import Rulebook.Text.Span

/-!
# Names of characters

The names under which characters in common use are known: those of ASCII and the Latin letters of
Europe, of Greek and Cyrillic, of punctuation and currency, of some symbols, and of the controls,
which have short names besides. Ideographs are named by their number.

Names are compared ignoring the case of ASCII letters, but for those by number.
-/

namespace Rulebook.Text

/-- Code points by their names. -/
def characterNames : List (String × Nat) :=
  [("NULL", 0x0), ("NUL", 0x0), ("START OF HEADING", 0x1), ("SOH", 0x1), ("START OF TEXT", 0x2),
   ("STX", 0x2), ("END OF TEXT", 0x3), ("ETX", 0x3), ("END OF TRANSMISSION", 0x4), ("EOT", 0x4),
   ("ENQUIRY", 0x5), ("ENQ", 0x5), ("ACKNOWLEDGE", 0x6), ("ACK", 0x6), ("ALERT", 0x7), ("BEL", 0x7),
   ("BACKSPACE", 0x8), ("BS", 0x8), ("CHARACTER TABULATION", 0x9), ("HORIZONTAL TABULATION", 0x9),
   ("HT", 0x9), ("TAB", 0x9), ("LINE FEED", 0xa), ("NEW LINE", 0xa), ("END OF LINE", 0xa),
   ("LF", 0xa), ("NL", 0xa), ("EOL", 0xa), ("LINE TABULATION", 0xb), ("VERTICAL TABULATION", 0xb),
   ("VT", 0xb), ("FORM FEED", 0xc), ("FF", 0xc), ("CARRIAGE RETURN", 0xd), ("CR", 0xd),
   ("SHIFT OUT", 0xe), ("LOCKING-SHIFT ONE", 0xe), ("SO", 0xe), ("SHIFT IN", 0xf),
   ("LOCKING-SHIFT ZERO", 0xf), ("SI", 0xf), ("DATA LINK ESCAPE", 0x10), ("DLE", 0x10),
   ("DEVICE CONTROL ONE", 0x11), ("DC1", 0x11), ("DEVICE CONTROL TWO", 0x12), ("DC2", 0x12),
   ("DEVICE CONTROL THREE", 0x13), ("DC3", 0x13), ("DEVICE CONTROL FOUR", 0x14), ("DC4", 0x14),
   ("NEGATIVE ACKNOWLEDGE", 0x15), ("NAK", 0x15), ("SYNCHRONOUS IDLE", 0x16), ("SYN", 0x16),
   ("END OF TRANSMISSION BLOCK", 0x17), ("ETB", 0x17), ("CANCEL", 0x18), ("CAN", 0x18),
   ("END OF MEDIUM", 0x19), ("EOM", 0x19), ("SUBSTITUTE", 0x1a), ("SUB", 0x1a), ("ESCAPE", 0x1b),
   ("ESC", 0x1b), ("INFORMATION SEPARATOR FOUR", 0x1c), ("FILE SEPARATOR", 0x1c), ("FS", 0x1c),
   ("INFORMATION SEPARATOR THREE", 0x1d), ("GROUP SEPARATOR", 0x1d), ("GS", 0x1d),
   ("INFORMATION SEPARATOR TWO", 0x1e), ("RECORD SEPARATOR", 0x1e), ("RS", 0x1e),
   ("INFORMATION SEPARATOR ONE", 0x1f), ("UNIT SEPARATOR", 0x1f), ("US", 0x1f), ("SPACE", 0x20),
   ("SP", 0x20), ("EXCLAMATION MARK", 0x21), ("QUOTATION MARK", 0x22), ("NUMBER SIGN", 0x23),
   ("DOLLAR SIGN", 0x24), ("PERCENT SIGN", 0x25), ("AMPERSAND", 0x26), ("APOSTROPHE", 0x27),
   ("LEFT PARENTHESIS", 0x28), ("RIGHT PARENTHESIS", 0x29), ("ASTERISK", 0x2a), ("PLUS SIGN", 0x2b),
   ("COMMA", 0x2c), ("HYPHEN-MINUS", 0x2d), ("FULL STOP", 0x2e), ("SOLIDUS", 0x2f),
   ("DIGIT ZERO", 0x30), ("DIGIT ONE", 0x31), ("DIGIT TWO", 0x32), ("DIGIT THREE", 0x33),
   ("DIGIT FOUR", 0x34), ("DIGIT FIVE", 0x35), ("DIGIT SIX", 0x36), ("DIGIT SEVEN", 0x37),
   ("DIGIT EIGHT", 0x38), ("DIGIT NINE", 0x39), ("COLON", 0x3a), ("SEMICOLON", 0x3b),
   ("LESS-THAN SIGN", 0x3c), ("EQUALS SIGN", 0x3d), ("GREATER-THAN SIGN", 0x3e),
   ("QUESTION MARK", 0x3f), ("COMMERCIAL AT", 0x40), ("LATIN CAPITAL LETTER A", 0x41),
   ("LATIN CAPITAL LETTER B", 0x42), ("LATIN CAPITAL LETTER C", 0x43),
   ("LATIN CAPITAL LETTER D", 0x44), ("LATIN CAPITAL LETTER E", 0x45),
   ("LATIN CAPITAL LETTER F", 0x46), ("LATIN CAPITAL LETTER G", 0x47),
   ("LATIN CAPITAL LETTER H", 0x48), ("LATIN CAPITAL LETTER I", 0x49),
   ("LATIN CAPITAL LETTER J", 0x4a), ("LATIN CAPITAL LETTER K", 0x4b),
   ("LATIN CAPITAL LETTER L", 0x4c), ("LATIN CAPITAL LETTER M", 0x4d),
   ("LATIN CAPITAL LETTER N", 0x4e), ("LATIN CAPITAL LETTER O", 0x4f),
   ("LATIN CAPITAL LETTER P", 0x50), ("LATIN CAPITAL LETTER Q", 0x51),
   ("LATIN CAPITAL LETTER R", 0x52), ("LATIN CAPITAL LETTER S", 0x53),
   ("LATIN CAPITAL LETTER T", 0x54), ("LATIN CAPITAL LETTER U", 0x55),
   ("LATIN CAPITAL LETTER V", 0x56), ("LATIN CAPITAL LETTER W", 0x57),
   ("LATIN CAPITAL LETTER X", 0x58), ("LATIN CAPITAL LETTER Y", 0x59),
   ("LATIN CAPITAL LETTER Z", 0x5a), ("LEFT SQUARE BRACKET", 0x5b), ("REVERSE SOLIDUS", 0x5c),
   ("RIGHT SQUARE BRACKET", 0x5d), ("CIRCUMFLEX ACCENT", 0x5e), ("LOW LINE", 0x5f),
   ("GRAVE ACCENT", 0x60), ("LATIN SMALL LETTER A", 0x61), ("LATIN SMALL LETTER B", 0x62),
   ("LATIN SMALL LETTER C", 0x63), ("LATIN SMALL LETTER D", 0x64), ("LATIN SMALL LETTER E", 0x65),
   ("LATIN SMALL LETTER F", 0x66), ("LATIN SMALL LETTER G", 0x67), ("LATIN SMALL LETTER H", 0x68),
   ("LATIN SMALL LETTER I", 0x69), ("LATIN SMALL LETTER J", 0x6a), ("LATIN SMALL LETTER K", 0x6b),
   ("LATIN SMALL LETTER L", 0x6c), ("LATIN SMALL LETTER M", 0x6d), ("LATIN SMALL LETTER N", 0x6e),
   ("LATIN SMALL LETTER O", 0x6f), ("LATIN SMALL LETTER P", 0x70), ("LATIN SMALL LETTER Q", 0x71),
   ("LATIN SMALL LETTER R", 0x72), ("LATIN SMALL LETTER S", 0x73), ("LATIN SMALL LETTER T", 0x74),
   ("LATIN SMALL LETTER U", 0x75), ("LATIN SMALL LETTER V", 0x76), ("LATIN SMALL LETTER W", 0x77),
   ("LATIN SMALL LETTER X", 0x78), ("LATIN SMALL LETTER Y", 0x79), ("LATIN SMALL LETTER Z", 0x7a),
   ("LEFT CURLY BRACKET", 0x7b), ("VERTICAL LINE", 0x7c), ("RIGHT CURLY BRACKET", 0x7d),
   ("TILDE", 0x7e), ("DELETE", 0x7f), ("DEL", 0x7f), ("PADDING CHARACTER", 0x80), ("PAD", 0x80),
   ("HIGH OCTET PRESET", 0x81), ("HOP", 0x81), ("BREAK PERMITTED HERE", 0x82), ("BPH", 0x82),
   ("NO BREAK HERE", 0x83), ("NBH", 0x83), ("INDEX", 0x84), ("IND", 0x84), ("NEXT LINE", 0x85),
   ("NEL", 0x85), ("START OF SELECTED AREA", 0x86), ("SSA", 0x86), ("END OF SELECTED AREA", 0x87),
   ("ESA", 0x87), ("CHARACTER TABULATION SET", 0x88), ("HORIZONTAL TABULATION SET", 0x88),
   ("HTS", 0x88), ("CHARACTER TABULATION WITH JUSTIFICATION", 0x89),
   ("HORIZONTAL TABULATION WITH JUSTIFICATION", 0x89), ("HTJ", 0x89), ("LINE TABULATION SET", 0x8a),
   ("VERTICAL TABULATION SET", 0x8a), ("VTS", 0x8a), ("PARTIAL LINE FORWARD", 0x8b),
   ("PARTIAL LINE DOWN", 0x8b), ("PLD", 0x8b), ("PARTIAL LINE BACKWARD", 0x8c),
   ("PARTIAL LINE UP", 0x8c), ("PLU", 0x8c), ("REVERSE LINE FEED", 0x8d), ("REVERSE INDEX", 0x8d),
   ("RI", 0x8d), ("SINGLE SHIFT TWO", 0x8e), ("SINGLE-SHIFT-2", 0x8e), ("SS2", 0x8e),
   ("SINGLE SHIFT THREE", 0x8f), ("SINGLE-SHIFT-3", 0x8f), ("SS3", 0x8f),
   ("DEVICE CONTROL STRING", 0x90), ("DCS", 0x90), ("PRIVATE USE ONE", 0x91),
   ("PRIVATE USE-1", 0x91), ("PU1", 0x91), ("PRIVATE USE TWO", 0x92), ("PRIVATE USE-2", 0x92),
   ("PU2", 0x92), ("SET TRANSMIT STATE", 0x93), ("STS", 0x93), ("CANCEL CHARACTER", 0x94),
   ("CCH", 0x94), ("MESSAGE WAITING", 0x95), ("MW", 0x95), ("START OF GUARDED AREA", 0x96),
   ("START OF PROTECTED AREA", 0x96), ("SPA", 0x96), ("END OF GUARDED AREA", 0x97),
   ("END OF PROTECTED AREA", 0x97), ("EPA", 0x97), ("START OF STRING", 0x98), ("SOS", 0x98),
   ("SINGLE GRAPHIC CHARACTER INTRODUCER", 0x99), ("SGC", 0x99),
   ("SINGLE CHARACTER INTRODUCER", 0x9a), ("SCI", 0x9a), ("CONTROL SEQUENCE INTRODUCER", 0x9b),
   ("CSI", 0x9b), ("STRING TERMINATOR", 0x9c), ("ST", 0x9c), ("OPERATING SYSTEM COMMAND", 0x9d),
   ("OSC", 0x9d), ("PRIVACY MESSAGE", 0x9e), ("PM", 0x9e), ("APPLICATION PROGRAM COMMAND", 0x9f),
   ("APC", 0x9f), ("NO-BREAK SPACE", 0xa0), ("NBSP", 0xa0), ("INVERTED EXCLAMATION MARK", 0xa1),
   ("CENT SIGN", 0xa2), ("POUND SIGN", 0xa3), ("CURRENCY SIGN", 0xa4), ("YEN SIGN", 0xa5),
   ("BROKEN BAR", 0xa6), ("SECTION SIGN", 0xa7), ("DIAERESIS", 0xa8), ("COPYRIGHT SIGN", 0xa9),
   ("FEMININE ORDINAL INDICATOR", 0xaa), ("LEFT-POINTING DOUBLE ANGLE QUOTATION MARK", 0xab),
   ("NOT SIGN", 0xac), ("SOFT HYPHEN", 0xad), ("SHY", 0xad), ("REGISTERED SIGN", 0xae),
   ("MACRON", 0xaf), ("DEGREE SIGN", 0xb0), ("PLUS-MINUS SIGN", 0xb1), ("SUPERSCRIPT TWO", 0xb2),
   ("SUPERSCRIPT THREE", 0xb3), ("ACUTE ACCENT", 0xb4), ("MICRO SIGN", 0xb5),
   ("PILCROW SIGN", 0xb6), ("MIDDLE DOT", 0xb7), ("CEDILLA", 0xb8), ("SUPERSCRIPT ONE", 0xb9),
   ("MASCULINE ORDINAL INDICATOR", 0xba), ("RIGHT-POINTING DOUBLE ANGLE QUOTATION MARK", 0xbb),
   ("VULGAR FRACTION ONE QUARTER", 0xbc), ("VULGAR FRACTION ONE HALF", 0xbd),
   ("VULGAR FRACTION THREE QUARTERS", 0xbe), ("INVERTED QUESTION MARK", 0xbf),
   ("LATIN CAPITAL LETTER A WITH GRAVE", 0xc0), ("LATIN CAPITAL LETTER A WITH ACUTE", 0xc1),
   ("LATIN CAPITAL LETTER A WITH CIRCUMFLEX", 0xc2), ("LATIN CAPITAL LETTER A WITH TILDE", 0xc3),
   ("LATIN CAPITAL LETTER A WITH DIAERESIS", 0xc4),
   ("LATIN CAPITAL LETTER A WITH RING ABOVE", 0xc5), ("LATIN CAPITAL LETTER AE", 0xc6),
   ("LATIN CAPITAL LETTER C WITH CEDILLA", 0xc7), ("LATIN CAPITAL LETTER E WITH GRAVE", 0xc8),
   ("LATIN CAPITAL LETTER E WITH ACUTE", 0xc9), ("LATIN CAPITAL LETTER E WITH CIRCUMFLEX", 0xca),
   ("LATIN CAPITAL LETTER E WITH DIAERESIS", 0xcb), ("LATIN CAPITAL LETTER I WITH GRAVE", 0xcc),
   ("LATIN CAPITAL LETTER I WITH ACUTE", 0xcd), ("LATIN CAPITAL LETTER I WITH CIRCUMFLEX", 0xce),
   ("LATIN CAPITAL LETTER I WITH DIAERESIS", 0xcf), ("LATIN CAPITAL LETTER ETH", 0xd0),
   ("LATIN CAPITAL LETTER N WITH TILDE", 0xd1), ("LATIN CAPITAL LETTER O WITH GRAVE", 0xd2),
   ("LATIN CAPITAL LETTER O WITH ACUTE", 0xd3), ("LATIN CAPITAL LETTER O WITH CIRCUMFLEX", 0xd4),
   ("LATIN CAPITAL LETTER O WITH TILDE", 0xd5), ("LATIN CAPITAL LETTER O WITH DIAERESIS", 0xd6),
   ("MULTIPLICATION SIGN", 0xd7), ("LATIN CAPITAL LETTER O WITH STROKE", 0xd8),
   ("LATIN CAPITAL LETTER U WITH GRAVE", 0xd9), ("LATIN CAPITAL LETTER U WITH ACUTE", 0xda),
   ("LATIN CAPITAL LETTER U WITH CIRCUMFLEX", 0xdb),
   ("LATIN CAPITAL LETTER U WITH DIAERESIS", 0xdc), ("LATIN CAPITAL LETTER Y WITH ACUTE", 0xdd),
   ("LATIN CAPITAL LETTER THORN", 0xde), ("LATIN SMALL LETTER SHARP S", 0xdf),
   ("LATIN SMALL LETTER A WITH GRAVE", 0xe0), ("LATIN SMALL LETTER A WITH ACUTE", 0xe1),
   ("LATIN SMALL LETTER A WITH CIRCUMFLEX", 0xe2), ("LATIN SMALL LETTER A WITH TILDE", 0xe3),
   ("LATIN SMALL LETTER A WITH DIAERESIS", 0xe4), ("LATIN SMALL LETTER A WITH RING ABOVE", 0xe5),
   ("LATIN SMALL LETTER AE", 0xe6), ("LATIN SMALL LETTER C WITH CEDILLA", 0xe7),
   ("LATIN SMALL LETTER E WITH GRAVE", 0xe8), ("LATIN SMALL LETTER E WITH ACUTE", 0xe9),
   ("LATIN SMALL LETTER E WITH CIRCUMFLEX", 0xea), ("LATIN SMALL LETTER E WITH DIAERESIS", 0xeb),
   ("LATIN SMALL LETTER I WITH GRAVE", 0xec), ("LATIN SMALL LETTER I WITH ACUTE", 0xed),
   ("LATIN SMALL LETTER I WITH CIRCUMFLEX", 0xee), ("LATIN SMALL LETTER I WITH DIAERESIS", 0xef),
   ("LATIN SMALL LETTER ETH", 0xf0), ("LATIN SMALL LETTER N WITH TILDE", 0xf1),
   ("LATIN SMALL LETTER O WITH GRAVE", 0xf2), ("LATIN SMALL LETTER O WITH ACUTE", 0xf3),
   ("LATIN SMALL LETTER O WITH CIRCUMFLEX", 0xf4), ("LATIN SMALL LETTER O WITH TILDE", 0xf5),
   ("LATIN SMALL LETTER O WITH DIAERESIS", 0xf6), ("DIVISION SIGN", 0xf7),
   ("LATIN SMALL LETTER O WITH STROKE", 0xf8), ("LATIN SMALL LETTER U WITH GRAVE", 0xf9),
   ("LATIN SMALL LETTER U WITH ACUTE", 0xfa), ("LATIN SMALL LETTER U WITH CIRCUMFLEX", 0xfb),
   ("LATIN SMALL LETTER U WITH DIAERESIS", 0xfc), ("LATIN SMALL LETTER Y WITH ACUTE", 0xfd),
   ("LATIN SMALL LETTER THORN", 0xfe), ("LATIN SMALL LETTER Y WITH DIAERESIS", 0xff),
   ("LATIN CAPITAL LETTER A WITH MACRON", 0x100), ("LATIN SMALL LETTER A WITH MACRON", 0x101),
   ("LATIN CAPITAL LETTER A WITH BREVE", 0x102), ("LATIN SMALL LETTER A WITH BREVE", 0x103),
   ("LATIN CAPITAL LETTER A WITH OGONEK", 0x104), ("LATIN SMALL LETTER A WITH OGONEK", 0x105),
   ("LATIN CAPITAL LETTER C WITH ACUTE", 0x106), ("LATIN SMALL LETTER C WITH ACUTE", 0x107),
   ("LATIN CAPITAL LETTER C WITH CIRCUMFLEX", 0x108),
   ("LATIN SMALL LETTER C WITH CIRCUMFLEX", 0x109),
   ("LATIN CAPITAL LETTER C WITH DOT ABOVE", 0x10a), ("LATIN SMALL LETTER C WITH DOT ABOVE", 0x10b),
   ("LATIN CAPITAL LETTER C WITH CARON", 0x10c), ("LATIN SMALL LETTER C WITH CARON", 0x10d),
   ("LATIN CAPITAL LETTER D WITH CARON", 0x10e), ("LATIN SMALL LETTER D WITH CARON", 0x10f),
   ("LATIN CAPITAL LETTER D WITH STROKE", 0x110), ("LATIN SMALL LETTER D WITH STROKE", 0x111),
   ("LATIN CAPITAL LETTER E WITH MACRON", 0x112), ("LATIN SMALL LETTER E WITH MACRON", 0x113),
   ("LATIN CAPITAL LETTER E WITH BREVE", 0x114), ("LATIN SMALL LETTER E WITH BREVE", 0x115),
   ("LATIN CAPITAL LETTER E WITH DOT ABOVE", 0x116), ("LATIN SMALL LETTER E WITH DOT ABOVE", 0x117),
   ("LATIN CAPITAL LETTER E WITH OGONEK", 0x118), ("LATIN SMALL LETTER E WITH OGONEK", 0x119),
   ("LATIN CAPITAL LETTER E WITH CARON", 0x11a), ("LATIN SMALL LETTER E WITH CARON", 0x11b),
   ("LATIN CAPITAL LETTER G WITH CIRCUMFLEX", 0x11c),
   ("LATIN SMALL LETTER G WITH CIRCUMFLEX", 0x11d), ("LATIN CAPITAL LETTER G WITH BREVE", 0x11e),
   ("LATIN SMALL LETTER G WITH BREVE", 0x11f), ("LATIN CAPITAL LETTER G WITH DOT ABOVE", 0x120),
   ("LATIN SMALL LETTER G WITH DOT ABOVE", 0x121), ("LATIN CAPITAL LETTER G WITH CEDILLA", 0x122),
   ("LATIN SMALL LETTER G WITH CEDILLA", 0x123), ("LATIN CAPITAL LETTER H WITH CIRCUMFLEX", 0x124),
   ("LATIN SMALL LETTER H WITH CIRCUMFLEX", 0x125), ("LATIN CAPITAL LETTER H WITH STROKE", 0x126),
   ("LATIN SMALL LETTER H WITH STROKE", 0x127), ("LATIN CAPITAL LETTER I WITH TILDE", 0x128),
   ("LATIN SMALL LETTER I WITH TILDE", 0x129), ("LATIN CAPITAL LETTER I WITH MACRON", 0x12a),
   ("LATIN SMALL LETTER I WITH MACRON", 0x12b), ("LATIN CAPITAL LETTER I WITH BREVE", 0x12c),
   ("LATIN SMALL LETTER I WITH BREVE", 0x12d), ("LATIN CAPITAL LETTER I WITH OGONEK", 0x12e),
   ("LATIN SMALL LETTER I WITH OGONEK", 0x12f), ("LATIN CAPITAL LETTER I WITH DOT ABOVE", 0x130),
   ("LATIN SMALL LETTER DOTLESS I", 0x131), ("LATIN CAPITAL LIGATURE IJ", 0x132),
   ("LATIN SMALL LIGATURE IJ", 0x133), ("LATIN CAPITAL LETTER J WITH CIRCUMFLEX", 0x134),
   ("LATIN SMALL LETTER J WITH CIRCUMFLEX", 0x135), ("LATIN CAPITAL LETTER K WITH CEDILLA", 0x136),
   ("LATIN SMALL LETTER K WITH CEDILLA", 0x137), ("LATIN SMALL LETTER KRA", 0x138),
   ("LATIN CAPITAL LETTER L WITH ACUTE", 0x139), ("LATIN SMALL LETTER L WITH ACUTE", 0x13a),
   ("LATIN CAPITAL LETTER L WITH CEDILLA", 0x13b), ("LATIN SMALL LETTER L WITH CEDILLA", 0x13c),
   ("LATIN CAPITAL LETTER L WITH CARON", 0x13d), ("LATIN SMALL LETTER L WITH CARON", 0x13e),
   ("LATIN CAPITAL LETTER L WITH MIDDLE DOT", 0x13f),
   ("LATIN SMALL LETTER L WITH MIDDLE DOT", 0x140), ("LATIN CAPITAL LETTER L WITH STROKE", 0x141),
   ("LATIN SMALL LETTER L WITH STROKE", 0x142), ("LATIN CAPITAL LETTER N WITH ACUTE", 0x143),
   ("LATIN SMALL LETTER N WITH ACUTE", 0x144), ("LATIN CAPITAL LETTER N WITH CEDILLA", 0x145),
   ("LATIN SMALL LETTER N WITH CEDILLA", 0x146), ("LATIN CAPITAL LETTER N WITH CARON", 0x147),
   ("LATIN SMALL LETTER N WITH CARON", 0x148),
   ("LATIN SMALL LETTER N PRECEDED BY APOSTROPHE", 0x149), ("LATIN CAPITAL LETTER ENG", 0x14a),
   ("LATIN SMALL LETTER ENG", 0x14b), ("LATIN CAPITAL LETTER O WITH MACRON", 0x14c),
   ("LATIN SMALL LETTER O WITH MACRON", 0x14d), ("LATIN CAPITAL LETTER O WITH BREVE", 0x14e),
   ("LATIN SMALL LETTER O WITH BREVE", 0x14f), ("LATIN CAPITAL LETTER O WITH DOUBLE ACUTE", 0x150),
   ("LATIN SMALL LETTER O WITH DOUBLE ACUTE", 0x151), ("LATIN CAPITAL LIGATURE OE", 0x152),
   ("LATIN SMALL LIGATURE OE", 0x153), ("LATIN CAPITAL LETTER R WITH ACUTE", 0x154),
   ("LATIN SMALL LETTER R WITH ACUTE", 0x155), ("LATIN CAPITAL LETTER R WITH CEDILLA", 0x156),
   ("LATIN SMALL LETTER R WITH CEDILLA", 0x157), ("LATIN CAPITAL LETTER R WITH CARON", 0x158),
   ("LATIN SMALL LETTER R WITH CARON", 0x159), ("LATIN CAPITAL LETTER S WITH ACUTE", 0x15a),
   ("LATIN SMALL LETTER S WITH ACUTE", 0x15b), ("LATIN CAPITAL LETTER S WITH CIRCUMFLEX", 0x15c),
   ("LATIN SMALL LETTER S WITH CIRCUMFLEX", 0x15d), ("LATIN CAPITAL LETTER S WITH CEDILLA", 0x15e),
   ("LATIN SMALL LETTER S WITH CEDILLA", 0x15f), ("LATIN CAPITAL LETTER S WITH CARON", 0x160),
   ("LATIN SMALL LETTER S WITH CARON", 0x161), ("LATIN CAPITAL LETTER T WITH CEDILLA", 0x162),
   ("LATIN SMALL LETTER T WITH CEDILLA", 0x163), ("LATIN CAPITAL LETTER T WITH CARON", 0x164),
   ("LATIN SMALL LETTER T WITH CARON", 0x165), ("LATIN CAPITAL LETTER T WITH STROKE", 0x166),
   ("LATIN SMALL LETTER T WITH STROKE", 0x167), ("LATIN CAPITAL LETTER U WITH TILDE", 0x168),
   ("LATIN SMALL LETTER U WITH TILDE", 0x169), ("LATIN CAPITAL LETTER U WITH MACRON", 0x16a),
   ("LATIN SMALL LETTER U WITH MACRON", 0x16b), ("LATIN CAPITAL LETTER U WITH BREVE", 0x16c),
   ("LATIN SMALL LETTER U WITH BREVE", 0x16d), ("LATIN CAPITAL LETTER U WITH RING ABOVE", 0x16e),
   ("LATIN SMALL LETTER U WITH RING ABOVE", 0x16f),
   ("LATIN CAPITAL LETTER U WITH DOUBLE ACUTE", 0x170),
   ("LATIN SMALL LETTER U WITH DOUBLE ACUTE", 0x171), ("LATIN CAPITAL LETTER U WITH OGONEK", 0x172),
   ("LATIN SMALL LETTER U WITH OGONEK", 0x173), ("LATIN CAPITAL LETTER W WITH CIRCUMFLEX", 0x174),
   ("LATIN SMALL LETTER W WITH CIRCUMFLEX", 0x175),
   ("LATIN CAPITAL LETTER Y WITH CIRCUMFLEX", 0x176),
   ("LATIN SMALL LETTER Y WITH CIRCUMFLEX", 0x177),
   ("LATIN CAPITAL LETTER Y WITH DIAERESIS", 0x178), ("LATIN CAPITAL LETTER Z WITH ACUTE", 0x179),
   ("LATIN SMALL LETTER Z WITH ACUTE", 0x17a), ("LATIN CAPITAL LETTER Z WITH DOT ABOVE", 0x17b),
   ("LATIN SMALL LETTER Z WITH DOT ABOVE", 0x17c), ("LATIN CAPITAL LETTER Z WITH CARON", 0x17d),
   ("LATIN SMALL LETTER Z WITH CARON", 0x17e), ("LATIN SMALL LETTER LONG S", 0x17f),
   ("GREEK CAPITAL LETTER ALPHA", 0x391), ("GREEK CAPITAL LETTER BETA", 0x392),
   ("GREEK CAPITAL LETTER GAMMA", 0x393), ("GREEK CAPITAL LETTER DELTA", 0x394),
   ("GREEK CAPITAL LETTER EPSILON", 0x395), ("GREEK CAPITAL LETTER ZETA", 0x396),
   ("GREEK CAPITAL LETTER ETA", 0x397), ("GREEK CAPITAL LETTER THETA", 0x398),
   ("GREEK CAPITAL LETTER IOTA", 0x399), ("GREEK CAPITAL LETTER KAPPA", 0x39a),
   ("GREEK CAPITAL LETTER LAMDA", 0x39b), ("GREEK CAPITAL LETTER MU", 0x39c),
   ("GREEK CAPITAL LETTER NU", 0x39d), ("GREEK CAPITAL LETTER XI", 0x39e),
   ("GREEK CAPITAL LETTER OMICRON", 0x39f), ("GREEK CAPITAL LETTER PI", 0x3a0),
   ("GREEK CAPITAL LETTER RHO", 0x3a1), ("GREEK CAPITAL LETTER SIGMA", 0x3a3),
   ("GREEK CAPITAL LETTER TAU", 0x3a4), ("GREEK CAPITAL LETTER UPSILON", 0x3a5),
   ("GREEK CAPITAL LETTER PHI", 0x3a6), ("GREEK CAPITAL LETTER CHI", 0x3a7),
   ("GREEK CAPITAL LETTER PSI", 0x3a8), ("GREEK CAPITAL LETTER OMEGA", 0x3a9),
   ("GREEK CAPITAL LETTER IOTA WITH DIALYTIKA", 0x3aa),
   ("GREEK CAPITAL LETTER UPSILON WITH DIALYTIKA", 0x3ab),
   ("GREEK SMALL LETTER ALPHA WITH TONOS", 0x3ac), ("GREEK SMALL LETTER EPSILON WITH TONOS", 0x3ad),
   ("GREEK SMALL LETTER ETA WITH TONOS", 0x3ae), ("GREEK SMALL LETTER IOTA WITH TONOS", 0x3af),
   ("GREEK SMALL LETTER UPSILON WITH DIALYTIKA AND TONOS", 0x3b0),
   ("GREEK SMALL LETTER ALPHA", 0x3b1), ("GREEK SMALL LETTER BETA", 0x3b2),
   ("GREEK SMALL LETTER GAMMA", 0x3b3), ("GREEK SMALL LETTER DELTA", 0x3b4),
   ("GREEK SMALL LETTER EPSILON", 0x3b5), ("GREEK SMALL LETTER ZETA", 0x3b6),
   ("GREEK SMALL LETTER ETA", 0x3b7), ("GREEK SMALL LETTER THETA", 0x3b8),
   ("GREEK SMALL LETTER IOTA", 0x3b9), ("GREEK SMALL LETTER KAPPA", 0x3ba),
   ("GREEK SMALL LETTER LAMDA", 0x3bb), ("GREEK SMALL LETTER MU", 0x3bc),
   ("GREEK SMALL LETTER NU", 0x3bd), ("GREEK SMALL LETTER XI", 0x3be),
   ("GREEK SMALL LETTER OMICRON", 0x3bf), ("GREEK SMALL LETTER PI", 0x3c0),
   ("GREEK SMALL LETTER RHO", 0x3c1), ("GREEK SMALL LETTER FINAL SIGMA", 0x3c2),
   ("GREEK SMALL LETTER SIGMA", 0x3c3), ("GREEK SMALL LETTER TAU", 0x3c4),
   ("GREEK SMALL LETTER UPSILON", 0x3c5), ("GREEK SMALL LETTER PHI", 0x3c6),
   ("GREEK SMALL LETTER CHI", 0x3c7), ("GREEK SMALL LETTER PSI", 0x3c8),
   ("GREEK SMALL LETTER OMEGA", 0x3c9), ("CYRILLIC CAPITAL LETTER IE WITH GRAVE", 0x400),
   ("CYRILLIC CAPITAL LETTER IO", 0x401), ("CYRILLIC CAPITAL LETTER DJE", 0x402),
   ("CYRILLIC CAPITAL LETTER GJE", 0x403), ("CYRILLIC CAPITAL LETTER UKRAINIAN IE", 0x404),
   ("CYRILLIC CAPITAL LETTER DZE", 0x405),
   ("CYRILLIC CAPITAL LETTER BYELORUSSIAN-UKRAINIAN I", 0x406),
   ("CYRILLIC CAPITAL LETTER YI", 0x407), ("CYRILLIC CAPITAL LETTER JE", 0x408),
   ("CYRILLIC CAPITAL LETTER LJE", 0x409), ("CYRILLIC CAPITAL LETTER NJE", 0x40a),
   ("CYRILLIC CAPITAL LETTER TSHE", 0x40b), ("CYRILLIC CAPITAL LETTER KJE", 0x40c),
   ("CYRILLIC CAPITAL LETTER I WITH GRAVE", 0x40d), ("CYRILLIC CAPITAL LETTER SHORT U", 0x40e),
   ("CYRILLIC CAPITAL LETTER DZHE", 0x40f), ("CYRILLIC CAPITAL LETTER A", 0x410),
   ("CYRILLIC CAPITAL LETTER BE", 0x411), ("CYRILLIC CAPITAL LETTER VE", 0x412),
   ("CYRILLIC CAPITAL LETTER GHE", 0x413), ("CYRILLIC CAPITAL LETTER DE", 0x414),
   ("CYRILLIC CAPITAL LETTER IE", 0x415), ("CYRILLIC CAPITAL LETTER ZHE", 0x416),
   ("CYRILLIC CAPITAL LETTER ZE", 0x417), ("CYRILLIC CAPITAL LETTER I", 0x418),
   ("CYRILLIC CAPITAL LETTER SHORT I", 0x419), ("CYRILLIC CAPITAL LETTER KA", 0x41a),
   ("CYRILLIC CAPITAL LETTER EL", 0x41b), ("CYRILLIC CAPITAL LETTER EM", 0x41c),
   ("CYRILLIC CAPITAL LETTER EN", 0x41d), ("CYRILLIC CAPITAL LETTER O", 0x41e),
   ("CYRILLIC CAPITAL LETTER PE", 0x41f), ("CYRILLIC CAPITAL LETTER ER", 0x420),
   ("CYRILLIC CAPITAL LETTER ES", 0x421), ("CYRILLIC CAPITAL LETTER TE", 0x422),
   ("CYRILLIC CAPITAL LETTER U", 0x423), ("CYRILLIC CAPITAL LETTER EF", 0x424),
   ("CYRILLIC CAPITAL LETTER HA", 0x425), ("CYRILLIC CAPITAL LETTER TSE", 0x426),
   ("CYRILLIC CAPITAL LETTER CHE", 0x427), ("CYRILLIC CAPITAL LETTER SHA", 0x428),
   ("CYRILLIC CAPITAL LETTER SHCHA", 0x429), ("CYRILLIC CAPITAL LETTER HARD SIGN", 0x42a),
   ("CYRILLIC CAPITAL LETTER YERU", 0x42b), ("CYRILLIC CAPITAL LETTER SOFT SIGN", 0x42c),
   ("CYRILLIC CAPITAL LETTER E", 0x42d), ("CYRILLIC CAPITAL LETTER YU", 0x42e),
   ("CYRILLIC CAPITAL LETTER YA", 0x42f), ("CYRILLIC SMALL LETTER A", 0x430),
   ("CYRILLIC SMALL LETTER BE", 0x431), ("CYRILLIC SMALL LETTER VE", 0x432),
   ("CYRILLIC SMALL LETTER GHE", 0x433), ("CYRILLIC SMALL LETTER DE", 0x434),
   ("CYRILLIC SMALL LETTER IE", 0x435), ("CYRILLIC SMALL LETTER ZHE", 0x436),
   ("CYRILLIC SMALL LETTER ZE", 0x437), ("CYRILLIC SMALL LETTER I", 0x438),
   ("CYRILLIC SMALL LETTER SHORT I", 0x439), ("CYRILLIC SMALL LETTER KA", 0x43a),
   ("CYRILLIC SMALL LETTER EL", 0x43b), ("CYRILLIC SMALL LETTER EM", 0x43c),
   ("CYRILLIC SMALL LETTER EN", 0x43d), ("CYRILLIC SMALL LETTER O", 0x43e),
   ("CYRILLIC SMALL LETTER PE", 0x43f), ("CYRILLIC SMALL LETTER ER", 0x440),
   ("CYRILLIC SMALL LETTER ES", 0x441), ("CYRILLIC SMALL LETTER TE", 0x442),
   ("CYRILLIC SMALL LETTER U", 0x443), ("CYRILLIC SMALL LETTER EF", 0x444),
   ("CYRILLIC SMALL LETTER HA", 0x445), ("CYRILLIC SMALL LETTER TSE", 0x446),
   ("CYRILLIC SMALL LETTER CHE", 0x447), ("CYRILLIC SMALL LETTER SHA", 0x448),
   ("CYRILLIC SMALL LETTER SHCHA", 0x449), ("CYRILLIC SMALL LETTER HARD SIGN", 0x44a),
   ("CYRILLIC SMALL LETTER YERU", 0x44b), ("CYRILLIC SMALL LETTER SOFT SIGN", 0x44c),
   ("CYRILLIC SMALL LETTER E", 0x44d), ("CYRILLIC SMALL LETTER YU", 0x44e),
   ("CYRILLIC SMALL LETTER YA", 0x44f), ("CYRILLIC SMALL LETTER IE WITH GRAVE", 0x450),
   ("CYRILLIC SMALL LETTER IO", 0x451), ("CYRILLIC SMALL LETTER DJE", 0x452),
   ("CYRILLIC SMALL LETTER GJE", 0x453), ("CYRILLIC SMALL LETTER UKRAINIAN IE", 0x454),
   ("CYRILLIC SMALL LETTER DZE", 0x455), ("CYRILLIC SMALL LETTER BYELORUSSIAN-UKRAINIAN I", 0x456),
   ("CYRILLIC SMALL LETTER YI", 0x457), ("CYRILLIC SMALL LETTER JE", 0x458),
   ("CYRILLIC SMALL LETTER LJE", 0x459), ("CYRILLIC SMALL LETTER NJE", 0x45a),
   ("CYRILLIC SMALL LETTER TSHE", 0x45b), ("CYRILLIC SMALL LETTER KJE", 0x45c),
   ("CYRILLIC SMALL LETTER I WITH GRAVE", 0x45d), ("CYRILLIC SMALL LETTER SHORT U", 0x45e),
   ("CYRILLIC SMALL LETTER DZHE", 0x45f), ("CYRILLIC CAPITAL LETTER GHE WITH UPTURN", 0x490),
   ("CYRILLIC SMALL LETTER GHE WITH UPTURN", 0x491), ("ZERO WIDTH SPACE", 0x200b), ("ZWSP", 0x200b),
   ("ZWNJ", 0x200c), ("ZERO WIDTH JOINER", 0x200d), ("ZWJ", 0x200d), ("LRM", 0x200e),
   ("RLM", 0x200f), ("HYPHEN", 0x2010), ("NON-BREAKING HYPHEN", 0x2011), ("FIGURE DASH", 0x2012),
   ("EN DASH", 0x2013), ("EM DASH", 0x2014), ("HORIZONTAL BAR", 0x2015),
   ("DOUBLE VERTICAL LINE", 0x2016), ("DOUBLE LOW LINE", 0x2017),
   ("LEFT SINGLE QUOTATION MARK", 0x2018), ("RIGHT SINGLE QUOTATION MARK", 0x2019),
   ("SINGLE LOW-9 QUOTATION MARK", 0x201a), ("SINGLE HIGH-REVERSED-9 QUOTATION MARK", 0x201b),
   ("LEFT DOUBLE QUOTATION MARK", 0x201c), ("RIGHT DOUBLE QUOTATION MARK", 0x201d),
   ("DOUBLE LOW-9 QUOTATION MARK", 0x201e), ("DOUBLE HIGH-REVERSED-9 QUOTATION MARK", 0x201f),
   ("DAGGER", 0x2020), ("DOUBLE DAGGER", 0x2021), ("BULLET", 0x2022), ("TRIANGULAR BULLET", 0x2023),
   ("ONE DOT LEADER", 0x2024), ("TWO DOT LEADER", 0x2025), ("HORIZONTAL ELLIPSIS", 0x2026),
   ("HYPHENATION POINT", 0x2027), ("LRE", 0x202a), ("RLE", 0x202b), ("PDF", 0x202c),
   ("LRO", 0x202d), ("RLO", 0x202e), ("NARROW NO-BREAK SPACE", 0x202f), ("NNBSP", 0x202f),
   ("PER MILLE SIGN", 0x2030), ("PER TEN THOUSAND SIGN", 0x2031), ("PRIME", 0x2032),
   ("DOUBLE PRIME", 0x2033), ("TRIPLE PRIME", 0x2034), ("REVERSED PRIME", 0x2035),
   ("REVERSED DOUBLE PRIME", 0x2036), ("REVERSED TRIPLE PRIME", 0x2037), ("CARET", 0x2038),
   ("SINGLE LEFT-POINTING ANGLE QUOTATION MARK", 0x2039),
   ("SINGLE RIGHT-POINTING ANGLE QUOTATION MARK", 0x203a), ("REFERENCE MARK", 0x203b),
   ("DOUBLE EXCLAMATION MARK", 0x203c), ("INTERROBANG", 0x203d), ("OVERLINE", 0x203e),
   ("UNDERTIE", 0x203f), ("CHARACTER TIE", 0x2040), ("CARET INSERTION POINT", 0x2041),
   ("ASTERISM", 0x2042), ("HYPHEN BULLET", 0x2043), ("FRACTION SLASH", 0x2044),
   ("LEFT SQUARE BRACKET WITH QUILL", 0x2045), ("RIGHT SQUARE BRACKET WITH QUILL", 0x2046),
   ("DOUBLE QUESTION MARK", 0x2047), ("QUESTION EXCLAMATION MARK", 0x2048),
   ("EXCLAMATION QUESTION MARK", 0x2049), ("TIRONIAN SIGN ET", 0x204a),
   ("REVERSED PILCROW SIGN", 0x204b), ("BLACK LEFTWARDS BULLET", 0x204c),
   ("BLACK RIGHTWARDS BULLET", 0x204d), ("LOW ASTERISK", 0x204e), ("REVERSED SEMICOLON", 0x204f),
   ("CLOSE UP", 0x2050), ("TWO ASTERISKS ALIGNED VERTICALLY", 0x2051),
   ("COMMERCIAL MINUS SIGN", 0x2052), ("SWUNG DASH", 0x2053), ("INVERTED UNDERTIE", 0x2054),
   ("FLOWER PUNCTUATION MARK", 0x2055), ("THREE DOT PUNCTUATION", 0x2056),
   ("QUADRUPLE PRIME", 0x2057), ("FOUR DOT PUNCTUATION", 0x2058), ("FIVE DOT PUNCTUATION", 0x2059),
   ("TWO DOT PUNCTUATION", 0x205a), ("FOUR DOT MARK", 0x205b), ("DOTTED CROSS", 0x205c),
   ("TRICOLON", 0x205d), ("VERTICAL FOUR DOTS", 0x205e), ("WJ", 0x2060), ("LRI", 0x2066),
   ("RLI", 0x2067), ("FSI", 0x2068), ("PDI", 0x2069), ("EURO-CURRENCY SIGN", 0x20a0),
   ("COLON SIGN", 0x20a1), ("CRUZEIRO SIGN", 0x20a2), ("FRENCH FRANC SIGN", 0x20a3),
   ("LIRA SIGN", 0x20a4), ("MILL SIGN", 0x20a5), ("NAIRA SIGN", 0x20a6), ("PESETA SIGN", 0x20a7),
   ("RUPEE SIGN", 0x20a8), ("WON SIGN", 0x20a9), ("NEW SHEQEL SIGN", 0x20aa), ("DONG SIGN", 0x20ab),
   ("EURO SIGN", 0x20ac), ("KIP SIGN", 0x20ad), ("TUGRIK SIGN", 0x20ae), ("DRACHMA SIGN", 0x20af),
   ("GERMAN PENNY SIGN", 0x20b0), ("PESO SIGN", 0x20b1), ("GUARANI SIGN", 0x20b2),
   ("AUSTRAL SIGN", 0x20b3), ("HRYVNIA SIGN", 0x20b4), ("CEDI SIGN", 0x20b5),
   ("LIVRE TOURNOIS SIGN", 0x20b6), ("SPESMILO SIGN", 0x20b7), ("TENGE SIGN", 0x20b8),
   ("INDIAN RUPEE SIGN", 0x20b9), ("TURKISH LIRA SIGN", 0x20ba), ("NORDIC MARK SIGN", 0x20bb),
   ("MANAT SIGN", 0x20bc), ("RUBLE SIGN", 0x20bd), ("LARI SIGN", 0x20be), ("BITCOIN SIGN", 0x20bf),
   ("TRADE MARK SIGN", 0x2122), ("KELVIN SIGN", 0x212a), ("LEFTWARDS ARROW", 0x2190),
   ("UPWARDS ARROW", 0x2191), ("RIGHTWARDS ARROW", 0x2192), ("DOWNWARDS ARROW", 0x2193),
   ("MINUS SIGN", 0x2212), ("INFINITY", 0x221e), ("NOT EQUAL TO", 0x2260),
   ("LESS-THAN OR EQUAL TO", 0x2264), ("GREATER-THAN OR EQUAL TO", 0x2265), ("BLACK STAR", 0x2605),
   ("WHITE STAR", 0x2606), ("WHITE SMILING FACE", 0x263a), ("BLACK HEART SUIT", 0x2665),
   ("CHECK MARK", 0x2713), ("HEAVY CHECK MARK", 0x2714), ("BALLOT X", 0x2717),
   ("HEAVY BLACK HEART", 0x2764), ("ZERO WIDTH NO-BREAK SPACE", 0xfeff),
   ("BYTE ORDER MARK", 0xfeff), ("BOM", 0xfeff), ("ZWNBSP", 0xfeff),
   ("REPLACEMENT CHARACTER", 0xfffd), ("THUMBS UP SIGN", 0x1f44d), ("PILE OF POO", 0x1f4a9),
   ("FIRE", 0x1f525), ("GRINNING FACE", 0x1f600), ("FACE WITH TEARS OF JOY", 0x1f602)]

/-- The ideographs that are named by their number. -/
def ideographSpans : List (Nat × Nat) :=
  [(0x3400, 0x4dbf), (0x4e00, 0x9fff), (0x20000, 0x2a6df), (0x2a700, 0x2b738), (0x2b740, 0x2b81d),
   (0x2b820, 0x2cea1), (0x2ceb0, 0x2ebe0), (0x30000, 0x3134a)]

/-- The ideograph with a name, which ends in four or five hexadecimal digits. -/
def ideographNamed? (name : List Char) : Option Nat := do
  let digits ← "CJK UNIFIED IDEOGRAPH-".toList.isPrefixOf? name
  guard ((digits.length == 4 || digits.length == 5)
    && digits.all fun c => c.isDigit || ('A' ≤ c && c ≤ 'F'))
  let point := digits.foldl (fun sum c => 16 * sum + c.toNat - (if c.isDigit then 48 else 55)) 0
  if covers ideographSpans point then some point else none

/-- The code point with a name. -/
def pointNamed? (name : List Char) : Option Nat :=
  (characterNames.lookup (String.ofList (name.map Char.toUpper))).or (ideographNamed? name)

end Rulebook.Text
