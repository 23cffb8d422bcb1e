import Workbench.Text.Numerals

/-! The names that the Unicode standard gives to characters, for the blocks in which texts and
numerals are usually written. -/

set_option autoImplicit false

namespace Workbench.Text

def punctuationNames : List String :=
  ["SPACE", "EXCLAMATION MARK", "QUOTATION MARK", "NUMBER SIGN", "DOLLAR SIGN", "PERCENT SIGN",
   "AMPERSAND", "APOSTROPHE", "LEFT PARENTHESIS", "RIGHT PARENTHESIS", "ASTERISK", "PLUS SIGN",
   "COMMA", "HYPHEN-MINUS", "FULL STOP", "SOLIDUS"]

def comparisonNames : List String :=
  ["COLON", "SEMICOLON", "LESS-THAN SIGN", "EQUALS SIGN", "GREATER-THAN SIGN", "QUESTION MARK",
   "COMMERCIAL AT"]

def bracketNames : List String :=
  ["LEFT SQUARE BRACKET", "REVERSE SOLIDUS", "RIGHT SQUARE BRACKET", "CIRCUMFLEX ACCENT",
   "LOW LINE", "GRAVE ACCENT"]

def braceNames : List String :=
  ["LEFT CURLY BRACKET", "VERTICAL LINE", "RIGHT CURLY BRACKET", "TILDE"]

def latinNames : List String :=
  ["NO-BREAK SPACE", "INVERTED EXCLAMATION MARK", "CENT SIGN", "POUND SIGN", "CURRENCY SIGN",
   "YEN SIGN", "BROKEN BAR", "SECTION SIGN", "DIAERESIS", "COPYRIGHT SIGN",
   "FEMININE ORDINAL INDICATOR", "LEFT-POINTING DOUBLE ANGLE QUOTATION MARK", "NOT SIGN",
   "SOFT HYPHEN", "REGISTERED SIGN", "MACRON", "DEGREE SIGN", "PLUS-MINUS SIGN",
   "SUPERSCRIPT TWO", "SUPERSCRIPT THREE", "ACUTE ACCENT", "MICRO SIGN", "PILCROW SIGN",
   "MIDDLE DOT", "CEDILLA", "SUPERSCRIPT ONE", "MASCULINE ORDINAL INDICATOR",
   "RIGHT-POINTING DOUBLE ANGLE QUOTATION MARK", "VULGAR FRACTION ONE QUARTER",
   "VULGAR FRACTION ONE HALF", "VULGAR FRACTION THREE QUARTERS", "INVERTED QUESTION MARK",
   "LATIN CAPITAL LETTER A WITH GRAVE", "LATIN CAPITAL LETTER A WITH ACUTE",
   "LATIN CAPITAL LETTER A WITH CIRCUMFLEX", "LATIN CAPITAL LETTER A WITH TILDE",
   "LATIN CAPITAL LETTER A WITH DIAERESIS", "LATIN CAPITAL LETTER A WITH RING ABOVE",
   "LATIN CAPITAL LETTER AE", "LATIN CAPITAL LETTER C WITH CEDILLA",
   "LATIN CAPITAL LETTER E WITH GRAVE", "LATIN CAPITAL LETTER E WITH ACUTE",
   "LATIN CAPITAL LETTER E WITH CIRCUMFLEX", "LATIN CAPITAL LETTER E WITH DIAERESIS",
   "LATIN CAPITAL LETTER I WITH GRAVE", "LATIN CAPITAL LETTER I WITH ACUTE",
   "LATIN CAPITAL LETTER I WITH CIRCUMFLEX", "LATIN CAPITAL LETTER I WITH DIAERESIS",
   "LATIN CAPITAL LETTER ETH", "LATIN CAPITAL LETTER N WITH TILDE",
   "LATIN CAPITAL LETTER O WITH GRAVE", "LATIN CAPITAL LETTER O WITH ACUTE",
   "LATIN CAPITAL LETTER O WITH CIRCUMFLEX", "LATIN CAPITAL LETTER O WITH TILDE",
   "LATIN CAPITAL LETTER O WITH DIAERESIS", "MULTIPLICATION SIGN",
   "LATIN CAPITAL LETTER O WITH STROKE", "LATIN CAPITAL LETTER U WITH GRAVE",
   "LATIN CAPITAL LETTER U WITH ACUTE", "LATIN CAPITAL LETTER U WITH CIRCUMFLEX",
   "LATIN CAPITAL LETTER U WITH DIAERESIS", "LATIN CAPITAL LETTER Y WITH ACUTE",
   "LATIN CAPITAL LETTER THORN", "LATIN SMALL LETTER SHARP S", "LATIN SMALL LETTER A WITH GRAVE",
   "LATIN SMALL LETTER A WITH ACUTE", "LATIN SMALL LETTER A WITH CIRCUMFLEX",
   "LATIN SMALL LETTER A WITH TILDE", "LATIN SMALL LETTER A WITH DIAERESIS",
   "LATIN SMALL LETTER A WITH RING ABOVE", "LATIN SMALL LETTER AE",
   "LATIN SMALL LETTER C WITH CEDILLA", "LATIN SMALL LETTER E WITH GRAVE",
   "LATIN SMALL LETTER E WITH ACUTE", "LATIN SMALL LETTER E WITH CIRCUMFLEX",
   "LATIN SMALL LETTER E WITH DIAERESIS", "LATIN SMALL LETTER I WITH GRAVE",
   "LATIN SMALL LETTER I WITH ACUTE", "LATIN SMALL LETTER I WITH CIRCUMFLEX",
   "LATIN SMALL LETTER I WITH DIAERESIS", "LATIN SMALL LETTER ETH",
   "LATIN SMALL LETTER N WITH TILDE", "LATIN SMALL LETTER O WITH GRAVE",
   "LATIN SMALL LETTER O WITH ACUTE", "LATIN SMALL LETTER O WITH CIRCUMFLEX",
   "LATIN SMALL LETTER O WITH TILDE", "LATIN SMALL LETTER O WITH DIAERESIS", "DIVISION SIGN",
   "LATIN SMALL LETTER O WITH STROKE", "LATIN SMALL LETTER U WITH GRAVE",
   "LATIN SMALL LETTER U WITH ACUTE", "LATIN SMALL LETTER U WITH CIRCUMFLEX",
   "LATIN SMALL LETTER U WITH DIAERESIS", "LATIN SMALL LETTER Y WITH ACUTE",
   "LATIN SMALL LETTER THORN", "LATIN SMALL LETTER Y WITH DIAERESIS",
   "LATIN CAPITAL LETTER A WITH MACRON", "LATIN SMALL LETTER A WITH MACRON",
   "LATIN CAPITAL LETTER A WITH BREVE", "LATIN SMALL LETTER A WITH BREVE",
   "LATIN CAPITAL LETTER A WITH OGONEK", "LATIN SMALL LETTER A WITH OGONEK",
   "LATIN CAPITAL LETTER C WITH ACUTE", "LATIN SMALL LETTER C WITH ACUTE",
   "LATIN CAPITAL LETTER C WITH CIRCUMFLEX", "LATIN SMALL LETTER C WITH CIRCUMFLEX",
   "LATIN CAPITAL LETTER C WITH DOT ABOVE", "LATIN SMALL LETTER C WITH DOT ABOVE",
   "LATIN CAPITAL LETTER C WITH CARON", "LATIN SMALL LETTER C WITH CARON",
   "LATIN CAPITAL LETTER D WITH CARON", "LATIN SMALL LETTER D WITH CARON",
   "LATIN CAPITAL LETTER D WITH STROKE", "LATIN SMALL LETTER D WITH STROKE",
   "LATIN CAPITAL LETTER E WITH MACRON", "LATIN SMALL LETTER E WITH MACRON",
   "LATIN CAPITAL LETTER E WITH BREVE", "LATIN SMALL LETTER E WITH BREVE",
   "LATIN CAPITAL LETTER E WITH DOT ABOVE", "LATIN SMALL LETTER E WITH DOT ABOVE",
   "LATIN CAPITAL LETTER E WITH OGONEK", "LATIN SMALL LETTER E WITH OGONEK",
   "LATIN CAPITAL LETTER E WITH CARON", "LATIN SMALL LETTER E WITH CARON",
   "LATIN CAPITAL LETTER G WITH CIRCUMFLEX", "LATIN SMALL LETTER G WITH CIRCUMFLEX",
   "LATIN CAPITAL LETTER G WITH BREVE", "LATIN SMALL LETTER G WITH BREVE",
   "LATIN CAPITAL LETTER G WITH DOT ABOVE", "LATIN SMALL LETTER G WITH DOT ABOVE",
   "LATIN CAPITAL LETTER G WITH CEDILLA", "LATIN SMALL LETTER G WITH CEDILLA",
   "LATIN CAPITAL LETTER H WITH CIRCUMFLEX", "LATIN SMALL LETTER H WITH CIRCUMFLEX",
   "LATIN CAPITAL LETTER H WITH STROKE", "LATIN SMALL LETTER H WITH STROKE",
   "LATIN CAPITAL LETTER I WITH TILDE", "LATIN SMALL LETTER I WITH TILDE",
   "LATIN CAPITAL LETTER I WITH MACRON", "LATIN SMALL LETTER I WITH MACRON",
   "LATIN CAPITAL LETTER I WITH BREVE", "LATIN SMALL LETTER I WITH BREVE",
   "LATIN CAPITAL LETTER I WITH OGONEK", "LATIN SMALL LETTER I WITH OGONEK",
   "LATIN CAPITAL LETTER I WITH DOT ABOVE", "LATIN SMALL LETTER DOTLESS I",
   "LATIN CAPITAL LIGATURE IJ", "LATIN SMALL LIGATURE IJ",
   "LATIN CAPITAL LETTER J WITH CIRCUMFLEX", "LATIN SMALL LETTER J WITH CIRCUMFLEX",
   "LATIN CAPITAL LETTER K WITH CEDILLA", "LATIN SMALL LETTER K WITH CEDILLA",
   "LATIN SMALL LETTER KRA", "LATIN CAPITAL LETTER L WITH ACUTE",
   "LATIN SMALL LETTER L WITH ACUTE", "LATIN CAPITAL LETTER L WITH CEDILLA",
   "LATIN SMALL LETTER L WITH CEDILLA", "LATIN CAPITAL LETTER L WITH CARON",
   "LATIN SMALL LETTER L WITH CARON", "LATIN CAPITAL LETTER L WITH MIDDLE DOT",
   "LATIN SMALL LETTER L WITH MIDDLE DOT", "LATIN CAPITAL LETTER L WITH STROKE",
   "LATIN SMALL LETTER L WITH STROKE", "LATIN CAPITAL LETTER N WITH ACUTE",
   "LATIN SMALL LETTER N WITH ACUTE", "LATIN CAPITAL LETTER N WITH CEDILLA",
   "LATIN SMALL LETTER N WITH CEDILLA", "LATIN CAPITAL LETTER N WITH CARON",
   "LATIN SMALL LETTER N WITH CARON", "LATIN SMALL LETTER N PRECEDED BY APOSTROPHE",
   "LATIN CAPITAL LETTER ENG", "LATIN SMALL LETTER ENG", "LATIN CAPITAL LETTER O WITH MACRON",
   "LATIN SMALL LETTER O WITH MACRON", "LATIN CAPITAL LETTER O WITH BREVE",
   "LATIN SMALL LETTER O WITH BREVE", "LATIN CAPITAL LETTER O WITH DOUBLE ACUTE",
   "LATIN SMALL LETTER O WITH DOUBLE ACUTE", "LATIN CAPITAL LIGATURE OE",
   "LATIN SMALL LIGATURE OE", "LATIN CAPITAL LETTER R WITH ACUTE",
   "LATIN SMALL LETTER R WITH ACUTE", "LATIN CAPITAL LETTER R WITH CEDILLA",
   "LATIN SMALL LETTER R WITH CEDILLA", "LATIN CAPITAL LETTER R WITH CARON",
   "LATIN SMALL LETTER R WITH CARON", "LATIN CAPITAL LETTER S WITH ACUTE",
   "LATIN SMALL LETTER S WITH ACUTE", "LATIN CAPITAL LETTER S WITH CIRCUMFLEX",
   "LATIN SMALL LETTER S WITH CIRCUMFLEX", "LATIN CAPITAL LETTER S WITH CEDILLA",
   "LATIN SMALL LETTER S WITH CEDILLA", "LATIN CAPITAL LETTER S WITH CARON",
   "LATIN SMALL LETTER S WITH CARON", "LATIN CAPITAL LETTER T WITH CEDILLA",
   "LATIN SMALL LETTER T WITH CEDILLA", "LATIN CAPITAL LETTER T WITH CARON",
   "LATIN SMALL LETTER T WITH CARON", "LATIN CAPITAL LETTER T WITH STROKE",
   "LATIN SMALL LETTER T WITH STROKE", "LATIN CAPITAL LETTER U WITH TILDE",
   "LATIN SMALL LETTER U WITH TILDE", "LATIN CAPITAL LETTER U WITH MACRON",
   "LATIN SMALL LETTER U WITH MACRON", "LATIN CAPITAL LETTER U WITH BREVE",
   "LATIN SMALL LETTER U WITH BREVE", "LATIN CAPITAL LETTER U WITH RING ABOVE",
   "LATIN SMALL LETTER U WITH RING ABOVE", "LATIN CAPITAL LETTER U WITH DOUBLE ACUTE",
   "LATIN SMALL LETTER U WITH DOUBLE ACUTE", "LATIN CAPITAL LETTER U WITH OGONEK",
   "LATIN SMALL LETTER U WITH OGONEK", "LATIN CAPITAL LETTER W WITH CIRCUMFLEX",
   "LATIN SMALL LETTER W WITH CIRCUMFLEX", "LATIN CAPITAL LETTER Y WITH CIRCUMFLEX",
   "LATIN SMALL LETTER Y WITH CIRCUMFLEX", "LATIN CAPITAL LETTER Y WITH DIAERESIS",
   "LATIN CAPITAL LETTER Z WITH ACUTE", "LATIN SMALL LETTER Z WITH ACUTE",
   "LATIN CAPITAL LETTER Z WITH DOT ABOVE", "LATIN SMALL LETTER Z WITH DOT ABOVE",
   "LATIN CAPITAL LETTER Z WITH CARON", "LATIN SMALL LETTER Z WITH CARON",
   "LATIN SMALL LETTER LONG S"]

def greekNames : List String :=
  ["GREEK TONOS", "GREEK DIALYTIKA TONOS", "GREEK CAPITAL LETTER ALPHA WITH TONOS",
   "GREEK ANO TELEIA", "GREEK CAPITAL LETTER EPSILON WITH TONOS",
   "GREEK CAPITAL LETTER ETA WITH TONOS", "GREEK CAPITAL LETTER IOTA WITH TONOS", "",
   "GREEK CAPITAL LETTER OMICRON WITH TONOS", "", "GREEK CAPITAL LETTER UPSILON WITH TONOS",
   "GREEK CAPITAL LETTER OMEGA WITH TONOS", "GREEK SMALL LETTER IOTA WITH DIALYTIKA AND TONOS",
   "GREEK CAPITAL LETTER ALPHA", "GREEK CAPITAL LETTER BETA", "GREEK CAPITAL LETTER GAMMA",
   "GREEK CAPITAL LETTER DELTA", "GREEK CAPITAL LETTER EPSILON", "GREEK CAPITAL LETTER ZETA",
   "GREEK CAPITAL LETTER ETA", "GREEK CAPITAL LETTER THETA", "GREEK CAPITAL LETTER IOTA",
   "GREEK CAPITAL LETTER KAPPA", "GREEK CAPITAL LETTER LAMDA", "GREEK CAPITAL LETTER MU",
   "GREEK CAPITAL LETTER NU", "GREEK CAPITAL LETTER XI", "GREEK CAPITAL LETTER OMICRON",
   "GREEK CAPITAL LETTER PI", "GREEK CAPITAL LETTER RHO", "", "GREEK CAPITAL LETTER SIGMA",
   "GREEK CAPITAL LETTER TAU", "GREEK CAPITAL LETTER UPSILON", "GREEK CAPITAL LETTER PHI",
   "GREEK CAPITAL LETTER CHI", "GREEK CAPITAL LETTER PSI", "GREEK CAPITAL LETTER OMEGA",
   "GREEK CAPITAL LETTER IOTA WITH DIALYTIKA", "GREEK CAPITAL LETTER UPSILON WITH DIALYTIKA",
   "GREEK SMALL LETTER ALPHA WITH TONOS", "GREEK SMALL LETTER EPSILON WITH TONOS",
   "GREEK SMALL LETTER ETA WITH TONOS", "GREEK SMALL LETTER IOTA WITH TONOS",
   "GREEK SMALL LETTER UPSILON WITH DIALYTIKA AND TONOS", "GREEK SMALL LETTER ALPHA",
   "GREEK SMALL LETTER BETA", "GREEK SMALL LETTER GAMMA", "GREEK SMALL LETTER DELTA",
   "GREEK SMALL LETTER EPSILON", "GREEK SMALL LETTER ZETA", "GREEK SMALL LETTER ETA",
   "GREEK SMALL LETTER THETA", "GREEK SMALL LETTER IOTA", "GREEK SMALL LETTER KAPPA",
   "GREEK SMALL LETTER LAMDA", "GREEK SMALL LETTER MU", "GREEK SMALL LETTER NU",
   "GREEK SMALL LETTER XI", "GREEK SMALL LETTER OMICRON", "GREEK SMALL LETTER PI",
   "GREEK SMALL LETTER RHO", "GREEK SMALL LETTER FINAL SIGMA", "GREEK SMALL LETTER SIGMA",
   "GREEK SMALL LETTER TAU", "GREEK SMALL LETTER UPSILON", "GREEK SMALL LETTER PHI",
   "GREEK SMALL LETTER CHI", "GREEK SMALL LETTER PSI", "GREEK SMALL LETTER OMEGA",
   "GREEK SMALL LETTER IOTA WITH DIALYTIKA", "GREEK SMALL LETTER UPSILON WITH DIALYTIKA",
   "GREEK SMALL LETTER OMICRON WITH TONOS", "GREEK SMALL LETTER UPSILON WITH TONOS",
   "GREEK SMALL LETTER OMEGA WITH TONOS"]

def generalNames : List String :=
  ["EN QUAD", "EM QUAD", "EN SPACE", "EM SPACE", "THREE-PER-EM SPACE", "FOUR-PER-EM SPACE",
   "SIX-PER-EM SPACE", "FIGURE SPACE", "PUNCTUATION SPACE", "THIN SPACE", "HAIR SPACE",
   "ZERO WIDTH SPACE", "ZERO WIDTH NON-JOINER", "ZERO WIDTH JOINER", "LEFT-TO-RIGHT MARK",
   "RIGHT-TO-LEFT MARK", "HYPHEN", "NON-BREAKING HYPHEN", "FIGURE DASH", "EN DASH", "EM DASH",
   "HORIZONTAL BAR", "DOUBLE VERTICAL LINE", "DOUBLE LOW LINE", "LEFT SINGLE QUOTATION MARK",
   "RIGHT SINGLE QUOTATION MARK", "SINGLE LOW-9 QUOTATION MARK",
   "SINGLE HIGH-REVERSED-9 QUOTATION MARK", "LEFT DOUBLE QUOTATION MARK",
   "RIGHT DOUBLE QUOTATION MARK", "DOUBLE LOW-9 QUOTATION MARK",
   "DOUBLE HIGH-REVERSED-9 QUOTATION MARK", "DAGGER", "DOUBLE DAGGER", "BULLET",
   "TRIANGULAR BULLET", "ONE DOT LEADER", "TWO DOT LEADER", "HORIZONTAL ELLIPSIS",
   "HYPHENATION POINT", "LINE SEPARATOR", "PARAGRAPH SEPARATOR", "LEFT-TO-RIGHT EMBEDDING",
   "RIGHT-TO-LEFT EMBEDDING", "POP DIRECTIONAL FORMATTING", "LEFT-TO-RIGHT OVERRIDE",
   "RIGHT-TO-LEFT OVERRIDE", "NARROW NO-BREAK SPACE", "PER MILLE SIGN", "PER TEN THOUSAND SIGN",
   "PRIME", "DOUBLE PRIME", "TRIPLE PRIME", "REVERSED PRIME", "REVERSED DOUBLE PRIME",
   "REVERSED TRIPLE PRIME", "CARET", "SINGLE LEFT-POINTING ANGLE QUOTATION MARK",
   "SINGLE RIGHT-POINTING ANGLE QUOTATION MARK", "REFERENCE MARK", "DOUBLE EXCLAMATION MARK",
   "INTERROBANG", "OVERLINE", "UNDERTIE", "CHARACTER TIE", "CARET INSERTION POINT", "ASTERISM",
   "HYPHEN BULLET", "FRACTION SLASH", "LEFT SQUARE BRACKET WITH QUILL",
   "RIGHT SQUARE BRACKET WITH QUILL", "DOUBLE QUESTION MARK", "QUESTION EXCLAMATION MARK",
   "EXCLAMATION QUESTION MARK", "TIRONIAN SIGN ET", "REVERSED PILCROW SIGN",
   "BLACK LEFTWARDS BULLET", "BLACK RIGHTWARDS BULLET", "LOW ASTERISK", "REVERSED SEMICOLON",
   "CLOSE UP", "TWO ASTERISKS ALIGNED VERTICALLY", "COMMERCIAL MINUS SIGN", "SWUNG DASH",
   "INVERTED UNDERTIE", "FLOWER PUNCTUATION MARK", "THREE DOT PUNCTUATION", "QUADRUPLE PRIME",
   "FOUR DOT PUNCTUATION", "FIVE DOT PUNCTUATION", "TWO DOT PUNCTUATION", "FOUR DOT MARK",
   "DOTTED CROSS", "TRICOLON", "VERTICAL FOUR DOTS", "MEDIUM MATHEMATICAL SPACE", "WORD JOINER",
   "FUNCTION APPLICATION", "INVISIBLE TIMES", "INVISIBLE SEPARATOR", "INVISIBLE PLUS", "",
   "LEFT-TO-RIGHT ISOLATE", "RIGHT-TO-LEFT ISOLATE", "FIRST STRONG ISOLATE",
   "POP DIRECTIONAL ISOLATE", "INHIBIT SYMMETRIC SWAPPING", "ACTIVATE SYMMETRIC SWAPPING",
   "INHIBIT ARABIC FORM SHAPING", "ACTIVATE ARABIC FORM SHAPING", "NATIONAL DIGIT SHAPES",
   "NOMINAL DIGIT SHAPES"]

def scriptNames : List String :=
  ["SUPERSCRIPT ZERO", "SUPERSCRIPT LATIN SMALL LETTER I", "", "", "SUPERSCRIPT FOUR",
   "SUPERSCRIPT FIVE", "SUPERSCRIPT SIX", "SUPERSCRIPT SEVEN", "SUPERSCRIPT EIGHT",
   "SUPERSCRIPT NINE", "SUPERSCRIPT PLUS SIGN", "SUPERSCRIPT MINUS", "SUPERSCRIPT EQUALS SIGN",
   "SUPERSCRIPT LEFT PARENTHESIS", "SUPERSCRIPT RIGHT PARENTHESIS",
   "SUPERSCRIPT LATIN SMALL LETTER N", "SUBSCRIPT ZERO", "SUBSCRIPT ONE", "SUBSCRIPT TWO",
   "SUBSCRIPT THREE", "SUBSCRIPT FOUR", "SUBSCRIPT FIVE", "SUBSCRIPT SIX", "SUBSCRIPT SEVEN",
   "SUBSCRIPT EIGHT", "SUBSCRIPT NINE", "SUBSCRIPT PLUS SIGN", "SUBSCRIPT MINUS",
   "SUBSCRIPT EQUALS SIGN", "SUBSCRIPT LEFT PARENTHESIS", "SUBSCRIPT RIGHT PARENTHESIS", "",
   "LATIN SUBSCRIPT SMALL LETTER A", "LATIN SUBSCRIPT SMALL LETTER E",
   "LATIN SUBSCRIPT SMALL LETTER O", "LATIN SUBSCRIPT SMALL LETTER X",
   "LATIN SUBSCRIPT SMALL LETTER SCHWA", "LATIN SUBSCRIPT SMALL LETTER H",
   "LATIN SUBSCRIPT SMALL LETTER K", "LATIN SUBSCRIPT SMALL LETTER L",
   "LATIN SUBSCRIPT SMALL LETTER M", "LATIN SUBSCRIPT SMALL LETTER N",
   "LATIN SUBSCRIPT SMALL LETTER P", "LATIN SUBSCRIPT SMALL LETTER S",
   "LATIN SUBSCRIPT SMALL LETTER T"]

def faceNames : List String :=
  ["GRINNING FACE", "GRINNING FACE WITH SMILING EYES", "FACE WITH TEARS OF JOY",
   "SMILING FACE WITH OPEN MOUTH", "SMILING FACE WITH OPEN MOUTH AND SMILING EYES",
   "SMILING FACE WITH OPEN MOUTH AND COLD SWEAT",
   "SMILING FACE WITH OPEN MOUTH AND TIGHTLY-CLOSED EYES", "SMILING FACE WITH HALO",
   "SMILING FACE WITH HORNS", "WINKING FACE", "SMILING FACE WITH SMILING EYES",
   "FACE SAVOURING DELICIOUS FOOD", "RELIEVED FACE", "SMILING FACE WITH HEART-SHAPED EYES",
   "SMILING FACE WITH SUNGLASSES", "SMIRKING FACE", "NEUTRAL FACE", "EXPRESSIONLESS FACE",
   "UNAMUSED FACE", "FACE WITH COLD SWEAT", "PENSIVE FACE", "CONFUSED FACE", "CONFOUNDED FACE",
   "KISSING FACE", "FACE THROWING A KISS", "KISSING FACE WITH SMILING EYES",
   "KISSING FACE WITH CLOSED EYES", "FACE WITH STUCK-OUT TONGUE",
   "FACE WITH STUCK-OUT TONGUE AND WINKING EYE",
   "FACE WITH STUCK-OUT TONGUE AND TIGHTLY-CLOSED EYES", "DISAPPOINTED FACE", "WORRIED FACE",
   "ANGRY FACE", "POUTING FACE", "CRYING FACE", "PERSEVERING FACE", "FACE WITH LOOK OF TRIUMPH",
   "DISAPPOINTED BUT RELIEVED FACE", "FROWNING FACE WITH OPEN MOUTH", "ANGUISHED FACE",
   "FEARFUL FACE", "WEARY FACE", "SLEEPY FACE", "TIRED FACE", "GRIMACING FACE",
   "LOUDLY CRYING FACE", "FACE WITH OPEN MOUTH", "HUSHED FACE",
   "FACE WITH OPEN MOUTH AND COLD SWEAT", "FACE SCREAMING IN FEAR", "ASTONISHED FACE",
   "FLUSHED FACE", "SLEEPING FACE", "DIZZY FACE", "FACE WITHOUT MOUTH", "FACE WITH MEDICAL MASK",
   "GRINNING CAT FACE WITH SMILING EYES", "CAT FACE WITH TEARS OF JOY",
   "SMILING CAT FACE WITH OPEN MOUTH", "SMILING CAT FACE WITH HEART-SHAPED EYES",
   "CAT FACE WITH WRY SMILE", "KISSING CAT FACE WITH CLOSED EYES", "POUTING CAT FACE",
   "CRYING CAT FACE", "WEARY CAT FACE", "SLIGHTLY FROWNING FACE", "SLIGHTLY SMILING FACE",
   "UPSIDE-DOWN FACE", "FACE WITH ROLLING EYES", "FACE WITH NO GOOD GESTURE",
   "FACE WITH OK GESTURE", "PERSON BOWING DEEPLY", "SEE-NO-EVIL MONKEY", "HEAR-NO-EVIL MONKEY",
   "SPEAK-NO-EVIL MONKEY", "HAPPY PERSON RAISING ONE HAND",
   "PERSON RAISING BOTH HANDS IN CELEBRATION", "PERSON FROWNING", "PERSON WITH POUTING FACE",
   "PERSON WITH FOLDED HANDS"]

/-- Names of control characters, which have no other, further names, and single characters. -/
def singleNames : List (String × Nat) :=
  [("NULL", 0x0), ("NUL", 0x0), ("START OF HEADING", 0x1), ("SOH", 0x1), ("START OF TEXT", 0x2),
   ("STX", 0x2), ("END OF TEXT", 0x3), ("ETX", 0x3), ("END OF TRANSMISSION", 0x4), ("EOT", 0x4),
   ("ENQUIRY", 0x5), ("ENQ", 0x5), ("ACKNOWLEDGE", 0x6), ("ACK", 0x6), ("ALERT", 0x7),
   ("BEL", 0x7), ("BACKSPACE", 0x8), ("BS", 0x8), ("CHARACTER TABULATION", 0x9),
   ("HORIZONTAL TABULATION", 0x9), ("HT", 0x9), ("TAB", 0x9), ("LINE FEED", 0xA),
   ("NEW LINE", 0xA), ("END OF LINE", 0xA), ("LF", 0xA), ("NL", 0xA), ("EOL", 0xA),
   ("LINE TABULATION", 0xB), ("VERTICAL TABULATION", 0xB), ("VT", 0xB), ("FORM FEED", 0xC),
   ("FF", 0xC), ("CARRIAGE RETURN", 0xD), ("CR", 0xD), ("SHIFT OUT", 0xE),
   ("LOCKING-SHIFT ONE", 0xE), ("SO", 0xE), ("SHIFT IN", 0xF), ("LOCKING-SHIFT ZERO", 0xF),
   ("SI", 0xF), ("DATA LINK ESCAPE", 0x10), ("DLE", 0x10), ("DEVICE CONTROL ONE", 0x11),
   ("DC1", 0x11), ("DEVICE CONTROL TWO", 0x12), ("DC2", 0x12), ("DEVICE CONTROL THREE", 0x13),
   ("DC3", 0x13), ("DEVICE CONTROL FOUR", 0x14), ("DC4", 0x14), ("NEGATIVE ACKNOWLEDGE", 0x15),
   ("NAK", 0x15), ("SYNCHRONOUS IDLE", 0x16), ("SYN", 0x16), ("END OF TRANSMISSION BLOCK", 0x17),
   ("ETB", 0x17), ("CANCEL", 0x18), ("CAN", 0x18), ("END OF MEDIUM", 0x19), ("EOM", 0x19),
   ("SUBSTITUTE", 0x1A), ("SUB", 0x1A), ("ESCAPE", 0x1B), ("ESC", 0x1B),
   ("INFORMATION SEPARATOR FOUR", 0x1C), ("FILE SEPARATOR", 0x1C), ("FS", 0x1C),
   ("INFORMATION SEPARATOR THREE", 0x1D), ("GROUP SEPARATOR", 0x1D), ("GS", 0x1D),
   ("INFORMATION SEPARATOR TWO", 0x1E), ("RECORD SEPARATOR", 0x1E), ("RS", 0x1E),
   ("INFORMATION SEPARATOR ONE", 0x1F), ("UNIT SEPARATOR", 0x1F), ("US", 0x1F), ("SP", 0x20),
   ("DELETE", 0x7F), ("DEL", 0x7F), ("NEXT LINE", 0x85), ("NEL", 0x85), ("NBSP", 0xA0),
   ("SHY", 0xAD), ("ZWSP", 0x200B), ("ZWNJ", 0x200C), ("ZWJ", 0x200D), ("LRM", 0x200E),
   ("RLM", 0x200F), ("WJ", 0x2060), ("BYTE ORDER MARK", 0xFEFF), ("BOM", 0xFEFF),
   ("ZWNBSP", 0xFEFF), ("OGHAM SPACE MARK", 0x1680), ("IDEOGRAPHIC SPACE", 0x3000),
   ("ZERO WIDTH NO-BREAK SPACE", 0xFEFF), ("REPLACEMENT CHARACTER", 0xFFFD),
   ("EURO SIGN", 0x20AC), ("LEFTWARDS ARROW", 0x2190), ("UPWARDS ARROW", 0x2191),
   ("RIGHTWARDS ARROW", 0x2192), ("DOWNWARDS ARROW", 0x2193), ("INFINITY", 0x221E),
   ("NOT EQUAL TO", 0x2260), ("LESS-THAN OR EQUAL TO", 0x2264),
   ("GREATER-THAN OR EQUAL TO", 0x2265), ("N-ARY SUMMATION", 0x2211), ("SQUARE ROOT", 0x221A),
   ("SNOWMAN", 0x2603), ("BLACK STAR", 0x2605), ("CHECK MARK", 0x2713)]

def digitScripts : List (String × Nat) :=
  [("DIGIT", 0x30), ("ARABIC-INDIC DIGIT", 0x660), ("EXTENDED ARABIC-INDIC DIGIT", 0x6F0),
   ("NKO DIGIT", 0x7C0), ("DEVANAGARI DIGIT", 0x966), ("BENGALI DIGIT", 0x9E6),
   ("GURMUKHI DIGIT", 0xA66), ("GUJARATI DIGIT", 0xAE6), ("ORIYA DIGIT", 0xB66),
   ("TAMIL DIGIT", 0xBE6), ("TELUGU DIGIT", 0xC66), ("KANNADA DIGIT", 0xCE6),
   ("MALAYALAM DIGIT", 0xD66), ("SINHALA LITH DIGIT", 0xDE6), ("THAI DIGIT", 0xE50),
   ("LAO DIGIT", 0xED0), ("TIBETAN DIGIT", 0xF20), ("MYANMAR DIGIT", 0x1040),
   ("MYANMAR SHAN DIGIT", 0x1090), ("KHMER DIGIT", 0x17E0), ("MONGOLIAN DIGIT", 0x1810),
   ("LIMBU DIGIT", 0x1946), ("NEW TAI LUE DIGIT", 0x19D0), ("TAI THAM HORA DIGIT", 0x1A80),
   ("TAI THAM THAM DIGIT", 0x1A90), ("BALINESE DIGIT", 0x1B50), ("SUNDANESE DIGIT", 0x1BB0),
   ("LEPCHA DIGIT", 0x1C40), ("OL CHIKI DIGIT", 0x1C50), ("VAI DIGIT", 0xA620),
   ("SAURASHTRA DIGIT", 0xA8D0), ("KAYAH LI DIGIT", 0xA900), ("JAVANESE DIGIT", 0xA9D0),
   ("MYANMAR TAI LAING DIGIT", 0xA9F0), ("CHAM DIGIT", 0xAA50), ("MEETEI MAYEK DIGIT", 0xABF0),
   ("FULLWIDTH DIGIT", 0xFF10), ("OSMANYA DIGIT", 0x104A0), ("HANIFI ROHINGYA DIGIT", 0x10D30),
   ("BRAHMI DIGIT", 0x11066), ("SORA SOMPENG DIGIT", 0x110F0), ("CHAKMA DIGIT", 0x11136),
   ("SHARADA DIGIT", 0x111D0), ("KHUDAWADI DIGIT", 0x112F0), ("NEWA DIGIT", 0x11450),
   ("TIRHUTA DIGIT", 0x114D0), ("MODI DIGIT", 0x11650), ("TAKRI DIGIT", 0x116C0),
   ("AHOM DIGIT", 0x11730), ("WARANG CITI DIGIT", 0x118E0), ("DIVES AKURU DIGIT", 0x11950),
   ("BHAIKSUKI DIGIT", 0x11C50), ("MASARAM GONDI DIGIT", 0x11D50),
   ("GUNJALA GONDI DIGIT", 0x11DA0), ("MRO DIGIT", 0x16A60), ("TANGSA DIGIT", 0x16AC0),
   ("PAHAWH HMONG DIGIT", 0x16B50), ("MATHEMATICAL BOLD DIGIT", 0x1D7CE),
   ("MATHEMATICAL DOUBLE-STRUCK DIGIT", 0x1D7D8), ("MATHEMATICAL SANS-SERIF DIGIT", 0x1D7E2),
   ("MATHEMATICAL SANS-SERIF BOLD DIGIT", 0x1D7EC), ("MATHEMATICAL MONOSPACE DIGIT", 0x1D7F6),
   ("NYIAKENG PUACHUE HMONG DIGIT", 0x1E140), ("WANCHO DIGIT", 0x1E2F0),
   ("ADLAM DIGIT", 0x1E950), ("SEGMENTED DIGIT", 0x1FBF0)]

def ideographs : Ranges :=
  [(0x3400, 0x4DBF), (0x4E00, 0x9FFF), (0x20000, 0x2A6DF), (0x2A700, 0x2B738),
   (0x2B740, 0x2B81D), (0x2B820, 0x2CEA1), (0x2CEB0, 0x2EBE0), (0x30000, 0x3134A)]

def digitWords : List String :=
  ["ZERO", "ONE", "TWO", "THREE", "FOUR", "FIVE", "SIX", "SEVEN", "EIGHT", "NINE"]

/-- Runs of names: the code of the first, and the names from there on; a code without a name has an
empty one. -/
def nameRuns : List (Nat × List String) :=
  [(0x20, punctuationNames), (0x3A, comparisonNames), (0x5B, bracketNames), (0x7B, braceNames),
   (0xA0, latinNames), (0x384, greekNames), (0x2000, generalNames), (0x2070, scriptNames),
   (0x1F600, faceNames)]

def latinLetter? (name : String) : Option Nat :=
  let within (start : String) (first : Char) : Option Nat :=
    match name.toList.drop start.length with
    | [c] =>
      if start.toList.isPrefixOf name.toList && 'A' ≤ c && c ≤ 'Z' then
        some (first.toNat + (c.toNat - 'A'.toNat))
      else none
    | _ => none
  within "LATIN CAPITAL LETTER " 'A' <|> within "LATIN SMALL LETTER " 'a'

def namedDigit? (name : String) : Option Nat :=
  digitScripts.findSome? fun (script, first) =>
    (digitWords.findIdx? fun word => script ++ " " ++ word == name).map (first + ·)

/-- An ideograph's code in base sixteen; four or five digits without a leading zero. -/
def ideograph? (name : String) : Option Nat := do
  let start := "CJK UNIFIED IDEOGRAPH-"
  if start.toList.isPrefixOf name.toList then
    let digits := name.toList.drop start.length
    if (digits.length == 4 || digits.length == 5) && digits.all fun c =>
        c.isDigit || ('A' ≤ c && c ≤ 'F') then
      let code := digits.foldl (fun code c =>
        16 * code + (if c.isDigit then c.toNat - '0'.toNat else c.toNat - 'A'.toNat + 10)) 0
      if ideographs.holds code then some code else none
    else none
  else none

def codeNamed? (name : String) : Option Nat :=
  let name := name.toUpper
  if name.isEmpty then none
  else
    (nameRuns.findSome? fun (first, names) => (names.findIdx? (· == name)).map (first + ·)) <|>
      (singleNames.find? (·.1 == name)).map (·.2) <|>
      latinLetter? name <|> namedDigit? name <|> ideograph? name

end Workbench.Text
